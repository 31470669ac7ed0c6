import CloudVinyl.Api.VinylCache
import Mathlib.Data.List.Forall2
import Mathlib.Data.Option.Defs

set_option relaxedAutoImplicit false
set_option autoImplicit false

/-!
# Defaults of VinylCache resources

`DefaultVinylCache` of `internal/webhook/vinylcache_defaulter.go`, which the webhook applies before
a resource is validated. A field is filled where its value says that it was left out.

## Main definitions

* `Webhook.applyShardDefaults` — the defaults of a shard director.
* `Webhook.defaultVinylCache` — the resource with its defaults.
* `Webhook.Filled` — one resource is another one with some of the fields filled that it leaves out.

## Main results

* `Webhook.defaultVinylCache_proxyPort` — the PROXY listener has a port.
* `Webhook.defaultVinylCache_closure` — defaults fill what is left out, and the second time nothing.
-/

namespace CloudVinyl.Webhook

/-- The `float64` that the literal `0.1` stands for. -/
def defaultShardWarmup : ℚ := 3602879701896397 / 36028797018963968

/-- `defaultShardRampup`: 30 s. -/
def defaultShardRampup : ℤ := 30 * 1000000000

/-- `defaultShardBy`: what a shard director hashes. -/
def defaultShardBy : Text := "URL"

/-- `defaultShardHealthy`: which backends a shard director asks for. -/
def defaultShardHealthy : Text := "CHOSEN"

/-- `defaultDebounce`: 1 s. -/
def defaultDebounce : ℤ := 1000000000

/-- `defaultBackoffBase`: 30 s. -/
def defaultBackoffBase : ℤ := 30 * 1000000000

/-- `defaultBackoffMax`: 5 min. -/
def defaultBackoffMax : ℤ := 5 * 60 * 1000000000

/-- `defaultProxyPort`: the port of the PROXY listener. -/
def defaultProxyPort : ℤ := 8081

/-- The default where the value is the one that stands for none. -/
def orDefault {α : Type} [DecidableEq α] (unset default value : α) : α :=
  if value = unset then default else value

/-- `applyShardDefaults` -/
def applyShardDefaults (ds : DirectorSpec) : DirectorSpec :=
  if ds.type ≠ some .shard then ds
  else
    let s := ds.shard.getD {}
    { ds with
      shard := some
        { s with
          warmup := some (s.warmup.getD defaultShardWarmup)
          rampup := orDefault 0 defaultShardRampup s.rampup
          by_ := orDefault [] defaultShardBy s.by_
          healthy := orDefault [] defaultShardHealthy s.healthy } }

/-- The defaults of a director: its type, and then those of a shard director. -/
def defaultDirector (ds : DirectorSpec) : DirectorSpec :=
  applyShardDefaults { ds with type := some (ds.type.getD .shard) }

/-- The defaults of a backend, which keeps a director that is left out. -/
def defaultBackend (b : BackendSpec) : BackendSpec :=
  { b with director := b.director.map defaultDirector }

/-- The port of a PROXY listener that is enabled without one. -/
def defaultProxyProtocol (pp : ProxyProtocolSpec) : ProxyProtocolSpec :=
  if pp.enabled && pp.port = 0 then { pp with port := defaultProxyPort } else pp

/-- `DefaultVinylCache` -/
def defaultVinylCache (vc : VinylCache) : VinylCache :=
  let spec := vc.spec
  { vc with
    spec :=
      { spec with
        invalidation :=
          { spec.invalidation with purge := some (spec.invalidation.purge.getD {}) }
        director := defaultDirector spec.director
        cluster := { spec.cluster with
          peerRouting := some (spec.cluster.peerRouting.getD .shard) }
        backends := spec.backends.map defaultBackend
        debounce := orDefault 0 defaultDebounce spec.debounce
        backoffBase := orDefault 0 defaultBackoffBase spec.backoffBase
        backoffMax := orDefault 0 defaultBackoffMax spec.backoffMax
        proxyProtocol := defaultProxyProtocol spec.proxyProtocol } }

/-- **A PROXY listener has a port.** -/
theorem defaultVinylCache_proxyPort (vc : VinylCache)
    (h : (defaultVinylCache vc).spec.proxyProtocol.enabled = true) :
    (defaultVinylCache vc).spec.proxyProtocol.port ≠ 0 := by
  change (defaultProxyProtocol vc.spec.proxyProtocol).enabled = true at h
  change (defaultProxyProtocol vc.spec.proxyProtocol).port ≠ 0
  unfold defaultProxyProtocol at h ⊢
  split at h
  · next hunset =>
    rw [if_pos hunset]
    exact (by decide : defaultProxyPort ≠ 0)
  · next hset =>
    rw [if_neg hset]
    simpa [h] using hset

/-! ## Fields that are set stay as they are -/

/-- The new value is the old one, unless the old one stands for none. -/
def Keeps {α : Type} (unset old new : α) : Prop := old ≠ unset → new = old

section Keeps

variable {α : Type}

/-- A field that is left alone is kept. -/
lemma keeps_self (unset old : α) : Keeps unset old old := fun _ => rfl

/-- Filling in a default keeps a value that is set. -/
lemma keeps_orDefault [DecidableEq α] (unset default value : α) :
    Keeps unset value (orDefault unset default value) := fun h => if_neg h

/-- Filling in a default for a pointer keeps what it points to. -/
lemma keeps_getD (default : α) (value : Option α) :
    Keeps none value (some (value.getD default)) := by
  cases value with
  | none => exact fun h => absurd rfl h
  | some v => exact keeps_self none (some v)

/-- A second default changes nothing. -/
@[simp] lemma orDefault_orDefault [DecidableEq α] (unset default value : α) :
    orDefault unset default (orDefault unset default value) = orDefault unset default value := by
  by_cases h : value = unset
  · simp [orDefault, h]
  · simp [orDefault, h]

end Keeps

/-- Whatever a shard section sets is kept. -/
structure ShardFilled (s s' : ShardSpec) : Prop where
  warmup : Keeps none s.warmup s'.warmup
  rampup : Keeps 0 s.rampup s'.rampup
  replicas : s'.replicas = s.replicas
  by_ : Keeps [] s.by_ s'.by_
  healthy : Keeps [] s.healthy s'.healthy

/-- Whatever a director sets is kept, its shard section included. -/
structure DirectorFilled (ds ds' : DirectorSpec) : Prop where
  type : Keeps none ds.type ds'.type
  shard : ∀ s, ds.shard = some s → ∃ s', ds'.shard = some s' ∧ ShardFilled s s'
  hash : ds'.hash = ds.hash

/-- A director that a backend has is filled, one that it leaves out stays out, and nothing else
changes. -/
structure BackendFilled (b b' : BackendSpec) : Prop where
  director : Option.Rel DirectorFilled b.director b'.director
  rest : { b' with director := b.director } = b

/-- Some of the fields that the resource `vc` leaves out are filled in `vc'`, and nothing else
changes: neither the metadata nor the status, nor the number and the order of the backends. -/
structure Filled (vc vc' : VinylCache) : Prop where
  purge : Keeps none vc.spec.invalidation.purge vc'.spec.invalidation.purge
  director : DirectorFilled vc.spec.director vc'.spec.director
  peerRouting : Keeps none vc.spec.cluster.peerRouting vc'.spec.cluster.peerRouting
  backends : List.Forall₂ BackendFilled vc.spec.backends vc'.spec.backends
  debounce : Keeps 0 vc.spec.debounce vc'.spec.debounce
  backoffBase : Keeps 0 vc.spec.backoffBase vc'.spec.backoffBase
  backoffMax : Keeps 0 vc.spec.backoffMax vc'.spec.backoffMax
  proxyPort : Keeps 0 vc.spec.proxyProtocol.port vc'.spec.proxyProtocol.port
  rest : { vc' with
    spec := { vc'.spec with
      invalidation := { vc'.spec.invalidation with purge := vc.spec.invalidation.purge }
      director := vc.spec.director
      cluster := { vc'.spec.cluster with peerRouting := vc.spec.cluster.peerRouting }
      backends := vc.spec.backends
      debounce := vc.spec.debounce
      backoffBase := vc.spec.backoffBase
      backoffMax := vc.spec.backoffMax
      proxyProtocol := { vc'.spec.proxyProtocol with port := vc.spec.proxyProtocol.port } } } = vc

section Directors

variable (ds : DirectorSpec)

/-- The defaults of the shard section leave the type alone. -/
@[simp] lemma applyShardDefaults_type : (applyShardDefaults ds).type = ds.type := by
  unfold applyShardDefaults
  split_ifs
  · rfl
  · rfl

/-- The defaults of the shard section keep what is set. -/
lemma directorFilled_applyShardDefaults : DirectorFilled ds (applyShardDefaults ds) := by
  unfold applyShardDefaults
  split_ifs
  · exact ⟨keeps_self _ _, fun s hs => ⟨s, hs, keeps_self _ _, keeps_self _ _, rfl, keeps_self _ _,
      keeps_self _ _⟩, rfl⟩
  · refine ⟨keeps_self _ _, fun s hs => ?_, rfl⟩
    rw [hs]
    exact ⟨_, rfl, keeps_getD _ _, keeps_orDefault _ _ _, rfl, keeps_orDefault _ _ _,
      keeps_orDefault _ _ _⟩

/-- Applying the defaults of the shard section twice is applying them once. -/
lemma applyShardDefaults_applyShardDefaults :
    applyShardDefaults (applyShardDefaults ds) = applyShardDefaults ds := by
  by_cases htype : ds.type = some .shard
  · simp [applyShardDefaults, htype]
  · simp [applyShardDefaults, htype]

/-- The defaults of a director keep what is set. -/
lemma directorFilled_defaultDirector : DirectorFilled ds (defaultDirector ds) := by
  have hfilled := directorFilled_applyShardDefaults { ds with type := some (ds.type.getD .shard) }
  refine ⟨?_, hfilled.shard, hfilled.hash⟩
  rw [defaultDirector, applyShardDefaults_type]
  exact keeps_getD _ _

/-- The type is there after the first time, so the second time is one of the shard defaults. -/
lemma defaultDirector_defaultDirector :
    defaultDirector (defaultDirector ds) = defaultDirector ds := by
  have htype : (defaultDirector ds).type = some (ds.type.getD .shard) :=
    applyShardDefaults_type _
  have hagain : { defaultDirector ds with
      type := some ((defaultDirector ds).type.getD .shard) } = defaultDirector ds := by
    rw [htype, Option.getD_some, ← htype]
  rw [defaultDirector, hagain]
  exact applyShardDefaults_applyShardDefaults _

end Directors

/-- The defaults of a backend keep what is set. -/
lemma backendFilled_defaultBackend (b : BackendSpec) : BackendFilled b (defaultBackend b) := by
  refine ⟨?_, rfl⟩
  rw [defaultBackend]
  cases b.director with
  | none => exact .none
  | some ds => exact .some (directorFilled_defaultDirector ds)

/-- The defaults of a backend are applied once. -/
lemma defaultBackend_defaultBackend (b : BackendSpec) :
    defaultBackend (defaultBackend b) = defaultBackend b := by
  simp only [defaultBackend, Option.map_map]
  congr 1
  refine congrArg (b.director.map ·) ?_
  funext ds
  exact defaultDirector_defaultDirector ds

/-- The default of the PROXY listener is applied once. -/
lemma defaultProxyProtocol_defaultProxyProtocol (pp : ProxyProtocolSpec) :
    defaultProxyProtocol (defaultProxyProtocol pp) = defaultProxyProtocol pp := by
  by_cases hunset : (pp.enabled && decide (pp.port = 0)) = true
  · rw [defaultProxyProtocol, if_neg]
    rw [defaultProxyProtocol, if_pos hunset]
    simp [defaultProxyPort]
  · simp only [defaultProxyProtocol, hunset, if_false, Bool.false_eq_true]

/-- **Defaulting is idempotent**: a resource with its defaults is left as it is. -/
lemma defaultVinylCache_defaultVinylCache (vc : VinylCache) :
    defaultVinylCache (defaultVinylCache vc) = defaultVinylCache vc := by
  have hbackends : (vc.spec.backends.map defaultBackend).map defaultBackend =
      vc.spec.backends.map defaultBackend := by
    rw [List.map_map]
    exact List.map_congr_left fun b _ => defaultBackend_defaultBackend b
  simp only [defaultVinylCache, defaultDirector_defaultDirector, hbackends, orDefault_orDefault,
    defaultProxyProtocol_defaultProxyProtocol, Option.getD_some]

/-- **Defaulting overwrites nothing** that the user has set. -/
lemma filled_defaultVinylCache (vc : VinylCache) : Filled vc (defaultVinylCache vc) where
  purge := keeps_getD _ _
  director := directorFilled_defaultDirector _
  peerRouting := keeps_getD _ _
  backends := List.forall₂_map_right_iff.2
    (List.forall₂_same.2 fun b _ => backendFilled_defaultBackend b)
  debounce := keeps_orDefault _ _ _
  backoffBase := keeps_orDefault _ _ _
  backoffMax := keeps_orDefault _ _ _
  proxyPort := by
    intro hport
    have hset : (vc.spec.proxyProtocol.enabled && decide (vc.spec.proxyProtocol.port = 0)) =
        false := by
      rw [decide_eq_false hport, Bool.and_false]
    simp only [defaultVinylCache, defaultProxyProtocol, hset, Bool.false_eq_true, if_false]
  rest := by
    have henabled : (defaultProxyProtocol vc.spec.proxyProtocol).enabled =
        vc.spec.proxyProtocol.enabled := by
      unfold defaultProxyProtocol
      split_ifs
      · rfl
      · rfl
    simp only [defaultVinylCache, henabled]

/-- **Defaulting is a closure that respects what the user says.** -/
theorem defaultVinylCache_closure (vc : VinylCache) :
    defaultVinylCache (defaultVinylCache vc) = defaultVinylCache vc ∧
      Filled vc (defaultVinylCache vc) :=
  ⟨defaultVinylCache_defaultVinylCache vc, filled_defaultVinylCache vc⟩

end CloudVinyl.Webhook
