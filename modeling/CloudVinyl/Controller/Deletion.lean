import CloudVinyl.Api.VinylCache
import CloudVinyl.Lib.Runs
import CloudVinyl.Proxy.Routing

set_option relaxedAutoImplicit false
set_option autoImplicit false

/-!
# Deleted caches and the proxy

A reconcile publishes a cache to the invalidation proxy (`updateProxy` of
`internal/controller/vinylcache_controller.go`), and the reconcile of a deleted cache takes it back
before it removes the finalizer (`handleDeletion` of `internal/controller/finalizer.go`). Between
the steps of a reconcile others write to the API server: they create, change and delete objects,
and a change may take the finalizer away.

The API server gives every write a resource version and refuses an update of an object that was
read under another one. An object that is marked for deletion disappears with its last finalizer.
A reconcile of a key does not begin before the one before it has returned. What it reads may be
old, which is a reading that happened earlier.

## Main definitions

* `Controller.Cluster` — the stored objects, the proxy and the reconciles under way.
* `Controller.Cluster.step` — one step of somebody, and the key whose reconcile returns by it.
* `Controller.Cluster.Orderly` — the condition under which a step leaves no entry behind.

## Main results

* `Controller.forgotten_of_returned` — along orderly runs, the proxy has no entry for a deleted
  cache whose reconcile has returned without an error.
-/

namespace CloudVinyl.Controller

open Proxy

/-! ## The API server -/

/-- `finalizerName` -/
def finalizerName : Text := "vinyl.bluedynamics.eu/finalizer"

/-- An object as the API server stores it. -/
structure Stored where
  vc : VinylCache
  resourceVersion : ℕ

/-- The deletion timestamp is set. -/
def Stored.deleting (s : Stored) : Bool := s.vc.deletionTimestamp.isSome

/-- `ContainsFinalizer` -/
def Stored.held (s : Stored) : Bool := s.vc.finalizers.contains finalizerName

/-- Where a reconcile stands: it has read its object, has made sure of the finalizer, has published
the cache, or has taken it back. -/
inductive Progress where
  | loaded (found : Option Stored)
  | ensured (s : Stored)
  | published
  | cleaned (s : Stored)

/-- The stored objects, the calls of the router so far, the addresses of the pods, and the
reconciles under way. -/
structure Cluster where
  objects : CacheKey → Option Stored
  version : ℕ
  calls : List Op
  podMap : PodMap
  passes : CacheKey → Option Progress

namespace Cluster

variable (c : Cluster)

/-- The router of the proxy. -/
def router : RegisteredRouter := Proxy.run c.calls

/-- A write to the API server. -/
def store (k : CacheKey) (vc : VinylCache) : Cluster :=
  { c with
    objects := Function.update c.objects k
      (if vc.deletionTimestamp.isSome && vc.finalizers.isEmpty then none
        else some ⟨vc, c.version + 1⟩)
    version := c.version + 1 }

/-- `Update` of an object that was read as `s`. It fails if the object has changed, and it may fail
otherwise. -/
def put (k : CacheKey) (s : Stored) (vc : VinylCache) (fails : Bool) : Option Cluster :=
  match c.objects k with
  | none => none
  | some cur =>
    if fails || cur.resourceVersion ≠ s.resourceVersion then none else some (c.store k vc)

/-- Where the pass for a key is, if there is one. -/
def setPass (k : CacheKey) (p : Option Progress) : Cluster :=
  { c with passes := Function.update c.passes k p }

/-! ## The steps of a reconcile -/

/-- `ensureFinalizer` -/
def ensureFinalizer (k : CacheKey) (s : Stored) (fails : Bool) : Option Cluster :=
  if s.held then some c
  else c.put k s { s.vc with finalizers := s.vc.finalizers ++ [finalizerName] } fails

/-- `updateProxy` -/
def updateProxy (k : CacheKey) (vc : VinylCache) (podIPs : List Text) : Cluster :=
  { c with
    calls := c.calls ++ [.register k,
      .setPurgeHosts k (match vc.spec.invalidation.purge with | some p => p.hosts | none => [])]
    podMap := c.podMap.update k.ns k.name podIPs }

/-- The part of `handleDeletion` that takes the cache back from the proxy. -/
def cleanProxy (k : CacheKey) : Cluster :=
  { c with
    calls := c.calls ++ [.unregister k]
    podMap := c.podMap.delete k.ns k.name }

/-- The part of `handleDeletion` that removes the finalizer. -/
def removeFinalizer (k : CacheKey) (s : Stored) (fails : Bool) : Option Cluster :=
  c.put k s { s.vc with finalizers := s.vc.finalizers.filter (· ≠ finalizerName) } fails

/-- Writes of others to the API server, and the steps of the reconcile of a key. -/
inductive Event where
  | create (k : CacheKey) (vc : VinylCache)
  | update (k : CacheKey) (vc : VinylCache)
  | delete (k : CacheKey) (now : ℤ)
  /-- `Reconcile` begins and reads its object -/
  | get (k : CacheKey)
  | ensure (k : CacheKey) (fails : Bool)
  | publish (k : CacheKey) (podIPs : List Text)
  /-- `handleDeletion` deletes the EndpointSlices, which may fail, and takes the cache back -/
  | clean (k : CacheKey) (fails : Bool)
  | release (k : CacheKey) (fails : Bool)
  /-- `Reconcile` returns -/
  | finish (k : CacheKey) (err : Bool)

/-- The key that an event is about. -/
def Event.key : Event → CacheKey
  | .create k _ => k
  | .update k _ => k
  | .delete k _ => k
  | .get k => k
  | .ensure k _ => k
  | .publish k _ => k
  | .clean k _ => k
  | .release k _ => k
  | .finish k _ => k

/-- One step, with the key whose `Reconcile` returns by it without an error. A step that is not
possible changes nothing. -/
def step : Event → Option CacheKey × Cluster
  | .create k vc =>
    match c.objects k with
    | none => (none, c.store k { vc with deletionTimestamp := none })
    | some _ => (none, c)
  | .update k vc =>
    match c.objects k with
    | none => (none, c)
    | some s => (none, c.store k { vc with deletionTimestamp := s.vc.deletionTimestamp })
  | .delete k now =>
    match c.objects k with
    | none => (none, c)
    | some s =>
      if s.deleting then (none, c)
      else (none, c.store k { s.vc with deletionTimestamp := some now })
  | .get k =>
    match c.passes k with
    | none => (none, c.setPass k (some (.loaded (c.objects k))))
    | some _ => (none, c)
  | .ensure k fails =>
    match c.passes k with
    | some (.loaded (some s)) =>
      if s.deleting then (none, c)
      else
        match c.ensureFinalizer k s fails with
        | none => (none, c.setPass k none)
        | some c' => (none, c'.setPass k (some (.ensured s)))
    | _ => (none, c)
  | .publish k podIPs =>
    match c.passes k with
    | some (.ensured s) => (none, (c.updateProxy k s.vc podIPs).setPass k (some .published))
    | _ => (none, c)
  | .clean k fails =>
    match c.passes k with
    | some (.loaded (some s)) =>
      if s.deleting && s.held then
        if fails then (none, c.setPass k none)
        else (none, (c.cleanProxy k).setPass k (some (.cleaned s)))
      else (none, c)
    | _ => (none, c)
  | .release k fails =>
    match c.passes k with
    | some (.cleaned s) =>
      match c.removeFinalizer k s fails with
      | none => (none, c.setPass k none)
      | some c' => (some k, c'.setPass k none)
    | _ => (none, c)
  | .finish k err =>
    match c.passes k with
    -- the object is not found
    | some (.loaded none) => (some k, c.setPass k none)
    -- it is deleted and the finalizer is gone
    | some (.loaded (some s)) =>
      if s.deleting && !s.held then (some k, c.setPass k none) else (none, c)
    -- paused, too early, or an error on the way
    | some (.ensured _) => (if err then none else some k, c.setPass k none)
    | some .published => (if err then none else some k, c.setPass k none)
    | _ => (none, c)

/-- The state after a step. -/
def next (e : Event) : Cluster := (c.step e).2

/-- The operator has started: it has no reconcile under way, and its proxy is empty. -/
def start (objects : CacheKey → Option Stored) (version : ℕ) : Cluster where
  objects := objects
  version := version
  calls := []
  podMap := newPodMap
  passes := fun _ => none

end Cluster

/-! ## Orderly steps -/

namespace Progress

/-- The object was read as not deleted. -/
def live : Progress → Bool
  | loaded (some s) => !s.deleting
  | ensured _ => true
  | published => true
  | _ => false

/-- The reconcile relies on the finalizer of the object. -/
def relies : Progress → Bool
  | loaded (some s) => s.held
  | ensured _ => true
  | published => true
  | _ => false

/-- The reconcile relies on an empty proxy: it returns with no further call of the proxy. -/
def cleared : Progress → Bool
  | loaded none => true
  | loaded (some s) => s.deleting && !s.held
  | cleaned _ => true
  | _ => false

end Progress

namespace Cluster

variable (c : Cluster)

/-- A reconcile of the key is under way that has read its object as not deleted. -/
def livePass (k : CacheKey) : Bool := (c.passes k).any Progress.live

/-- The proxy has an entry for the cache. -/
def hasEntry (k : CacheKey) : Bool :=
  registered c.calls k || (c.podMap.getPodIPs k.ns k.name).isSome

/-- The condition under which a step leaves no entry behind: an update takes the finalizer away
only while the proxy has no entry for the cache, and neither that nor a deletion happens while a
reconcile is under way that has read the object as not deleted. -/
def Orderly : Event → Prop
  | .update k vc =>
    (∃ s, c.objects k = some s ∧ s.held = true) → vc.finalizers.contains finalizerName = false →
      c.hasEntry k = false ∧ c.livePass k = false
  | .delete k _ => c.livePass k = false
  | _ => True

/-! ## What one key sees of a step -/

section Fields

variable (k : CacheKey) (vc : VinylCache) (p : Option Progress)

/-- A write to the API server does not reach the proxy. -/
@[simp] lemma hasEntry_store (k' : CacheKey) : (c.store k vc).hasEntry k' = c.hasEntry k' := rfl

/-- The steps of a pass are not stored. -/
@[simp] lemma setPass_objects : (c.setPass k p).objects = c.objects := rfl

/-- The pass is where it was put. -/
@[simp] lemma setPass_passes_self : (c.setPass k p).passes k = p := Function.update_self ..

/-- The steps of a pass do not reach the proxy. -/
@[simp] lemma hasEntry_setPass (k' : CacheKey) : (c.setPass k p).hasEntry k' = c.hasEntry k' := rfl

end Fields

/-- A resource that is deleted and has no finalizer is gone, and any other one is stored. -/
lemma store_objects_self (k : CacheKey) (vc : VinylCache) :
    (c.store k vc).objects k =
      if vc.deletionTimestamp.isSome && vc.finalizers.isEmpty then none
      else some ⟨vc, c.version + 1⟩ :=
  Function.update_self ..

/-- An object with a finalizer, or without a deletion timestamp, is stored. -/
lemma store_objects_of_stays {k : CacheKey} {vc : VinylCache}
    (h : vc.deletionTimestamp = none ∨ vc.finalizers.contains finalizerName = true) :
    (c.store k vc).objects k = some ⟨vc, c.version + 1⟩ := by
  rw [store_objects_self]
  apply if_neg
  rcases h with h | h
  · simp [h]
  · cases hf : vc.finalizers with
    | nil => simp [hf] at h
    | cons f fs => simp

/-- The proxy has no entry once the cache is taken back. -/
lemma hasEntry_cleanProxy_self (k : CacheKey) : (c.cleanProxy k).hasEntry k = false := by
  have hreg : registered (c.calls ++ [.unregister k]) k = false := by
    rw [registered_append_singleton, Op.registration, if_pos rfl]
    rfl
  have hpods : (c.podMap.delete k.ns k.name).getPodIPs k.ns k.name = none := by
    simp [PodMap.delete, PodMap.getPodIPs, Table.delete]
  simp [hasEntry, cleanProxy, hreg, hpods]

/-- The maps of the pods keep the caches apart. -/
lemma mapKey_ne {k k' : CacheKey} (h : k ≠ k') : mapKey k'.ns k'.name ≠ mapKey k.ns k.name := by
  intro heq
  have hmem : mapKey k.ns k.name ∈ k'.mapKeys := List.mem_singleton.2 heq.symm
  exact h (separate_mapKeys k k' _ (List.mem_singleton.2 rfl) hmem)

/-- A write that succeeds stores the resource. -/
lemma put_eq_some {c c' : Cluster} {k : CacheKey} {s : Stored} {vc : VinylCache} {fails : Bool}
    (h : c.put k s vc fails = some c') : c' = c.store k vc := by
  unfold put at h
  split at h
  case h_1 => cases h
  case h_2 =>
    split at h
    · cases h
    · exact (Option.some.inj h).symm

/-- What a key sees of two states is the same. -/
structure SameAt (k : CacheKey) (c c' : Cluster) : Prop where
  objects : c'.objects k = c.objects k
  passes : c'.passes k = c.passes k
  hasEntry : c'.hasEntry k = c.hasEntry k

namespace SameAt

variable {c} {k k' : CacheKey}

/-- Nothing has changed. -/
lemma refl : SameAt k c c := ⟨rfl, rfl, rfl⟩

/-- Nothing has changed, twice. -/
lemma trans {c₁ c₂ : Cluster} (h : SameAt k c c₁) (h' : SameAt k c₁ c₂) : SameAt k c c₂ :=
  ⟨h'.objects.trans h.objects, h'.passes.trans h.passes, h'.hasEntry.trans h.hasEntry⟩

/-- A write of another resource. -/
lemma store (h : k' ≠ k) (vc : VinylCache) : SameAt k c (c.store k' vc) :=
  ⟨Function.update_of_ne h.symm _ _, rfl, rfl⟩

/-- A pass for another resource. -/
lemma setPass (h : k' ≠ k) (p : Option Progress) : SameAt k c (c.setPass k' p) :=
  ⟨rfl, Function.update_of_ne h.symm _ _, rfl⟩

/-- The entries of another resource. -/
lemma updateProxy (h : k' ≠ k) (vc : VinylCache) (ips : List Text) :
    SameAt k c (c.updateProxy k' vc ips) := by
  refine ⟨rfl, rfl, ?_⟩
  have hreg (hosts : List Text) :
      registered (c.calls ++ [.register k', .setPurgeHosts k' hosts]) k =
        registered c.calls k := by
    have hop : (Op.register k').registration k = none := Op.registration_of_ne h
    rw [List.append_cons, registered_append_singleton, registered_append_singleton, hop]
    rfl
  have hpods : (c.podMap.update k'.ns k'.name ips).getPodIPs k.ns k.name =
      c.podMap.getPodIPs k.ns k.name := by
    simp [PodMap.update, PodMap.getPodIPs, Table.set, mapKey_ne h]
  rw [Cluster.hasEntry, Cluster.hasEntry, Cluster.updateProxy, hreg, hpods]

/-- The entries of another resource are removed. -/
lemma cleanProxy (h : k' ≠ k) : SameAt k c (c.cleanProxy k') := by
  refine ⟨rfl, rfl, ?_⟩
  have hreg : registered (c.calls ++ [.unregister k']) k = registered c.calls k := by
    have hop : (Op.unregister k').registration k = none := Op.registration_of_ne h
    rw [registered_append_singleton, hop]
    rfl
  have hpods : (c.podMap.delete k'.ns k'.name).getPodIPs k.ns k.name =
      c.podMap.getPodIPs k.ns k.name := by
    simp [PodMap.delete, PodMap.getPodIPs, Table.delete, mapKey_ne h]
  rw [Cluster.hasEntry, Cluster.hasEntry, Cluster.cleanProxy, hreg, hpods]

/-- A write of another resource that succeeds. -/
lemma put (h : k' ≠ k) {c' : Cluster} {s : Stored} {vc : VinylCache} {fails : Bool}
    (hput : c.put k' s vc fails = some c') : SameAt k c c' :=
  put_eq_some hput ▸ store h vc

/-- The finalizer of another resource. -/
lemma ensureFinalizer (h : k' ≠ k) {c' : Cluster} {s : Stored} {fails : Bool}
    (hens : c.ensureFinalizer k' s fails = some c') : SameAt k c c' := by
  unfold Cluster.ensureFinalizer at hens
  split at hens
  · exact Option.some.inj hens ▸ refl
  · exact put h hens

/-- **A step is seen by its own key only.** -/
theorem next (e : Event) (h : e.key ≠ k) : SameAt k c (c.next e) := by
  cases e <;> simp only [Event.key] at h <;> simp only [Cluster.next, step] <;> repeat' split
  all_goals first
    | exact refl
    | exact store h _
    | exact setPass h _
    | exact (updateProxy h _ _).trans (setPass h _)
    | exact (cleanProxy h).trans (setPass h _)
    | exact (ensureFinalizer h (by assumption)).trans (setPass h _)
    | exact (put h (by assumption)).trans (setPass h _)

end SameAt

/-! ## The invariant -/

/-- The finalizer is on every object that the proxy has an entry for. A reconcile that goes on to
publish has an object that is not deleted, with the finalizer if it relies on it, and one that
calls the proxy no more has no entry. -/
structure Sound (k : CacheKey) : Prop where
  entry : c.hasEntry k = true → ∃ s, c.objects k = some s ∧ s.held = true
  live : ∀ p, c.passes k = some p → p.live = true →
    ∃ s, c.objects k = some s ∧ s.deleting = false ∧ (p.relies = true → s.held = true)
  cleared : ∀ p, c.passes k = some p → p.cleared = true → c.hasEntry k = false

variable {c} {k : CacheKey}

/-- What is sound stays so if nothing changes at the key. -/
lemma Sound.congr {c' : Cluster} (h : c.Sound k) (hsame : SameAt k c c') : c'.Sound k := by
  obtain ⟨hentry, hlive, hcleared⟩ := h
  constructor
  · rwa [hsame.hasEntry, hsame.objects]
  · rwa [hsame.passes, hsame.objects]
  · rwa [hsame.passes, hsame.hasEntry]

/-- No entry, hence no object is needed. -/
lemma Sound.hasEntry_eq_false (h : c.Sound k)
    (hobj : ∀ s, c.objects k = some s → s.held = false) : c.hasEntry k = false := by
  by_contra hne
  obtain ⟨s, hs, hheld⟩ := h.entry (by simpa using hne)
  simp [hobj s hs] at hheld

/-- A write keeps the invariant if it keeps the finalizer of an object with an entry, and what a
reconcile under way relies on. -/
lemma Sound.store (h : c.Sound k) {vc : VinylCache}
    (hentry : c.hasEntry k = true → vc.finalizers.contains finalizerName = true)
    (hlive : ∀ p, c.passes k = some p → p.live = true →
      vc.deletionTimestamp = none ∧
        (p.relies = true → vc.finalizers.contains finalizerName = true)) :
    (c.store k vc).Sound k where
  entry he := ⟨_, store_objects_of_stays c (.inr (hentry he)), hentry he⟩
  live p hp hl := by
    obtain ⟨hts, hheld⟩ := hlive p hp hl
    exact ⟨_, store_objects_of_stays c (.inl hts), by simp [Stored.deleting, hts], hheld⟩
  cleared := h.cleared

/-- A reconcile that returns takes its obligations with it. -/
lemma Sound.setPass_none (h : c.Sound k) : (c.setPass k none).Sound k where
  entry := h.entry
  live p hp := by simp at hp
  cleared p hp := by simp at hp

/-- A reconcile goes on to `p`. -/
lemma Sound.setPass (h : c.Sound k) {p : Progress}
    (hlive : p.live = true →
      ∃ s, c.objects k = some s ∧ s.deleting = false ∧ (p.relies = true → s.held = true))
    (hcleared : p.cleared = true → c.hasEntry k = false) :
    (c.setPass k (some p)).Sound k where
  entry := h.entry
  live q hq := by
    obtain rfl : p = q := by simpa using hq
    exact hlive
  cleared q hq := by
    obtain rfl : p = q := by simpa using hq
    exact hcleared

/-- A resource is created. -/
lemma Sound.create (h : c.Sound k) (vc : VinylCache) : (c.next (.create k vc)).Sound k := by
  simp only [next, step]
  split
  case h_1 hnone =>
    apply h.store
    · intro he
      simp [h.hasEntry_eq_false (by simp [hnone])] at he
    · intro p hp hl
      obtain ⟨s, hs, -⟩ := h.live p hp hl
      simp [hnone] at hs
  case h_2 => exact h

/-- A resource is updated. -/
lemma Sound.update (h : c.Sound k) {vc : VinylCache} (ho : c.Orderly (.update k vc)) :
    (c.next (.update k vc)).Sound k := by
  simp only [next, step]
  split
  case h_1 => exact h
  case h_2 s hs =>
    -- an update that takes the finalizer away is an orderly one
    have hdrop (hheld : s.held = true) (hno : vc.finalizers.contains finalizerName = false) :=
      ho ⟨s, hs, hheld⟩ hno
    apply h.store
    · intro he
      obtain ⟨s', hs', hheld⟩ := h.entry he
      obtain rfl : s = s' := by simpa [hs] using hs'
      by_contra hno
      simp [(hdrop hheld (by simpa using hno)).1] at he
    · intro p hp hl
      obtain ⟨s', hs', hdel, hrel⟩ := h.live p hp hl
      obtain rfl : s = s' := by simpa [hs] using hs'
      refine ⟨by simpa [Stored.deleting] using hdel, fun hr => ?_⟩
      by_contra hno
      have hnolive := (hdrop (hrel hr) (by simpa using hno)).2
      simp [livePass, hp, hl] at hnolive

/-- A resource is deleted. -/
lemma Sound.delete (h : c.Sound k) {now : ℤ} (ho : c.Orderly (.delete k now)) :
    (c.next (.delete k now)).Sound k := by
  simp only [next, step]
  split
  case h_1 => exact h
  case h_2 s hs =>
    split
    · exact h
    · apply h.store
      · intro he
        obtain ⟨s', hs', hheld⟩ := h.entry he
        obtain rfl : s = s' := by simpa [hs] using hs'
        exact hheld
      · intro p hp hl
        have hnolive : c.livePass k = false := ho
        simp [livePass, hp, hl] at hnolive

/-- A pass begins. -/
lemma Sound.get (h : c.Sound k) : (c.next (.get k)).Sound k := by
  simp only [next, step]
  split
  case h_2 => exact h
  case h_1 =>
    cases hobj : c.objects k with
    | none =>
      apply h.setPass
      · intro hl
        simp [Progress.live] at hl
      · intro _
        exact h.hasEntry_eq_false (by simp [hobj])
    | some s =>
      apply h.setPass
      · intro hl
        exact ⟨s, hobj, by simpa [Progress.live] using hl, fun hr => hr⟩
      · intro hc
        have hdone : s.deleting = true ∧ s.held = false := by simpa [Progress.cleared] using hc
        exact h.hasEntry_eq_false (by simp [hobj, hdone.2])

/-- A pass sets the finalizer. -/
lemma Sound.ensure (h : c.Sound k) (fails : Bool) : (c.next (.ensure k fails)).Sound k := by
  simp only [next, step]
  split
  case h_2 => exact h
  case h_1 s hp =>
    split
    · exact h
    case isFalse hdel =>
      have hl : (Progress.loaded (some s)).live = true := by simpa [Progress.live] using hdel
      split
      · exact h.setPass_none
      case h_2 c' hens =>
        unfold ensureFinalizer at hens
        split at hens
        case isTrue hheld =>
          obtain rfl := Option.some.inj hens
          obtain ⟨cur, hcur, hcurdel, hrel⟩ := h.live _ hp hl
          exact h.setPass (fun _ => ⟨cur, hcur, hcurdel, fun _ => hrel hheld⟩)
            (by simp [Progress.cleared])
        case isFalse =>
          obtain rfl := put_eq_some hens
          have hts : s.vc.deletionTimestamp = none := by simpa [Stored.deleting] using hdel
          have hadded : (s.vc.finalizers ++ [finalizerName]).contains finalizerName = true := by
            simp
          have hstored : (c.store k { s.vc with
              finalizers := s.vc.finalizers ++ [finalizerName] }).Sound k :=
            h.store (fun _ => hadded) (fun _ _ _ => ⟨hts, fun _ => hadded⟩)
          refine hstored.setPass (fun _ => ?_) (by simp [Progress.cleared])
          exact ⟨_, store_objects_of_stays c (.inl hts), by simp [Stored.deleting, hts],
            fun _ => hadded⟩

/-- A pass publishes the pods. -/
lemma Sound.publish (h : c.Sound k) (ips : List Text) : (c.next (.publish k ips)).Sound k := by
  simp only [next, step]
  split
  case h_2 => exact h
  case h_1 s hp =>
    obtain ⟨cur, hcur, hdel, hrel⟩ := h.live _ hp rfl
    constructor
    · intro _
      exact ⟨cur, hcur, hrel rfl⟩
    · intro q _ _
      exact ⟨cur, hcur, hdel, fun _ => hrel rfl⟩
    · intro q hq hc
      obtain rfl : Progress.published = q := by simpa using hq
      simp [Progress.cleared] at hc

/-- A pass cleans up the proxy. -/
lemma Sound.clean (h : c.Sound k) (fails : Bool) : (c.next (.clean k fails)).Sound k := by
  simp only [next, step]
  split
  case h_2 => exact h
  case h_1 s hp =>
    split
    · split
      · exact h.setPass_none
      · have hno := c.hasEntry_cleanProxy_self k
        constructor
        · intro he
          simp [hno] at he
        · intro q hq hl
          obtain rfl : Progress.cleaned s = q := by simpa using hq
          simp [Progress.live] at hl
        · intro _ _ _
          exact hno
    · exact h

/-- A pass removes the finalizer. -/
lemma Sound.release (h : c.Sound k) (fails : Bool) : (c.next (.release k fails)).Sound k := by
  simp only [next, step]
  split
  case h_2 => exact h
  case h_1 s hp =>
    split
    · exact h.setPass_none
    case h_2 c' hrem =>
      obtain rfl := put_eq_some hrem
      have hno : c.hasEntry k = false := h.cleared _ hp rfl
      apply Sound.setPass_none
      apply h.store
      · intro he
        simp [hno] at he
      · intro p hp' hl
        obtain rfl : Progress.cleaned s = p := by simpa [hp] using hp'
        simp [Progress.live] at hl

/-- A pass ends. -/
lemma Sound.finish (h : c.Sound k) (err : Bool) : (c.next (.finish k err)).Sound k := by
  simp only [next, step]
  split
  case h_1 => exact h.setPass_none
  case h_2 =>
    split
    · exact h.setPass_none
    · exact h
  case h_3 => exact h.setPass_none
  case h_4 => exact h.setPass_none
  case h_5 => exact h

/-- **An orderly step keeps the invariant of every key.** -/
theorem sound_next (e : Event) (h : ∀ k, c.Sound k) (ho : c.Orderly e) (k : CacheKey) :
    (c.next e).Sound k := by
  by_cases hk : e.key = k
  · subst hk
    cases e with
    | create k vc => exact (h k).create vc
    | update k vc => exact (h k).update ho
    | delete k now => exact (h k).delete ho
    | get k => exact (h k).get
    | ensure k fails => exact (h k).ensure fails
    | publish k ips => exact (h k).publish ips
    | clean k fails => exact (h k).clean fails
    | release k fails => exact (h k).release fails
    | finish k err => exact (h k).finish err
  · exact (h k).congr (SameAt.next e hk)

/-- A proxy without entries is sound, whatever is stored. -/
lemma sound_start (objects : CacheKey → Option Stored) (version : ℕ) (k : CacheKey) :
    (start objects version).Sound k where
  entry he := by simp [start, Cluster.hasEntry, registered, Table.last, PodMap.getPodIPs,
    newPodMap] at he
  live p hp := by simp [start] at hp
  cleared p hp := by simp [start] at hp

/-! ## Reconciles that return -/

/-- A reconcile that returns without an error leaves no entry, or its object is not deleted. -/
lemma Sound.of_returned {e : Event} (h : c.Sound k) (hret : (c.step e).1 = some k) :
    (c.next e).hasEntry k = false ∨
      ∃ s, (c.next e).objects k = some s ∧ s.deleting = false := by
  cases e with
  | create | update | delete | get | ensure | publish | clean =>
    simp only [step] at hret
    repeat' split at hret
    all_goals cases hret
  | release k' fails =>
    simp only [next, step] at hret ⊢
    split at hret
    case h_2 => cases hret
    case h_1 s hp =>
      split at hret
      · cases hret
      case h_2 c' hrem =>
        obtain rfl := Option.some.inj hret
        obtain rfl := put_eq_some hrem
        left
        simpa using h.cleared _ hp rfl
  | finish k' err =>
    simp only [next, step] at hret ⊢
    split at hret
    case h_1 hp =>
      obtain rfl := Option.some.inj hret
      exact .inl (h.cleared _ hp rfl)
    case h_2 s hp =>
      split at hret
      case isTrue hdone =>
        obtain rfl := Option.some.inj hret
        left
        rw [if_pos hdone]
        exact h.cleared _ hp hdone
      case isFalse => cases hret
    case h_5 => cases hret
    all_goals
      -- the reconcile of an object that was read as not deleted
      rename_i hp
      cases err with
      | true => cases hret
      | false =>
        obtain rfl := Option.some.inj hret
        obtain ⟨s, hs, hdel, -⟩ := h.live _ hp rfl
        exact .inr ⟨s, hs, hdel⟩

/-- Without an entry, no host is routed to the cache and no addresses are known for it. -/
lemma not_routed_of_hasEntry_eq_false (h : c.hasEntry k = false) :
    (∀ host, c.router.lookup host ≠ some k.entry) ∧ c.podMap.getPodIPs k.ns k.name = none := by
  obtain ⟨hreg, hpods⟩ : registered c.calls k = false ∧ c.podMap.getPodIPs k.ns k.name = none := by
    simpa [hasEntry] using h
  refine ⟨fun host hlook => ?_, hpods⟩
  obtain ⟨k', hentry, hreg', -⟩ := (lookup_run_eq_some_iff _ _ _).1 hlook
  rw [CacheKey.entry_injective hentry, hreg] at hreg'
  cases hreg'

end Cluster

open Cluster

/-- **The proxy forgets deleted caches along orderly runs.** From the start of the operator, after
any orderly steps, if a step makes the reconcile of a cache return without an error, and the object
is then gone or marked for deletion, then no host is routed to the cache and the proxy has no
addresses of its pods.

**Proof sketch.** Every orderly step keeps the invariant of every key (`sound_next`): a step is
seen by its own key only, and there an entry goes with the finalizer. A reconcile that returns has
taken its entry back or has found none, or its object is not deleted (`Sound.of_returned`). -/
theorem forgotten_of_returned (objects : CacheKey → Option Stored) (version : ℕ)
    (events : List Cluster.Event) (e : Cluster.Event) (k : CacheKey)
    (horderly : Runs.Guarded next Orderly (start objects version) (events ++ [e]))
    (hret : ((events.foldl next (start objects version)).step e).1 = some k)
    (hgone : ∀ s, ((events ++ [e]).foldl next (start objects version)).objects k = some s →
      s.deleting = true) :
    (∀ host, ((events ++ [e]).foldl next (start objects version)).router.lookup host ≠
        some k.entry) ∧
      ((events ++ [e]).foldl next (start objects version)).podMap.getPodIPs k.ns k.name = none := by
  apply not_routed_of_hasEntry_eq_false
  have hsound : ∀ k, (events.foldl next (start objects version)).Sound k :=
    Runs.invariant (I := fun c => ∀ k, c.Sound k) (fun c e h ho => sound_next e h ho)
      (sound_start objects version) (Runs.guarded_append.1 horderly).1
  rw [List.foldl_append] at hgone ⊢
  rcases (hsound k).of_returned hret with hno | ⟨s, hs, hdel⟩
  · exact hno
  · simp [hgone s hs] at hdel

/-- The object that the user of a cache creates. -/
def shopCache : VinylCache where
  namespace_ := "prod"
  name := "shop"
  spec := {}

/-- The cache is created and reconciled. -/
def published : List Cluster.Event :=
  [.create prodShop shopCache, .get prodShop, .ensure prodShop false,
    .publish prodShop [("10.0.0.1" : Text)], .finish prodShop false]

/-- The cache is deleted, and its deletion is reconciled but for the finalizer. -/
def deleted : List Cluster.Event :=
  published ++ [.delete prodShop 5, .get prodShop, .clean prodShop false]

/-- A cache that was created, published and deleted. -/
theorem forgotten_of_returned_deleted :
    ((deleted.foldl next (start (fun _ => none) 0)).step (.release prodShop false)).1 =
        some prodShop ∧
      (∀ host, ((deleted ++ [Cluster.Event.release prodShop false]).foldl next
        (start (fun _ => none) 0)).router.lookup host ≠ some prodShop.entry) ∧
      ((deleted ++ [Cluster.Event.release prodShop false]).foldl next
        (start (fun _ => none) 0)).podMap.getPodIPs prodShop.ns prodShop.name = none := by
  have horderly : Runs.Guarded next Orderly (start (fun _ => none) 0)
      (deleted ++ [Cluster.Event.release prodShop false]) :=
    ⟨trivial, trivial, trivial, trivial, trivial, rfl, trivial, trivial, trivial, trivial⟩
  have hret : ((deleted.foldl next (start (fun _ => none) 0)).step (.release prodShop false)).1 =
      some prodShop := rfl
  have hgone : ((deleted ++ [Cluster.Event.release prodShop false]).foldl next
      (start (fun _ => none) 0)).objects prodShop = none := rfl
  refine ⟨hret, forgotten_of_returned _ _ deleted _ _ horderly hret fun s hs => ?_⟩
  rw [hgone] at hs
  cases hs

/-- Somebody takes the finalizer away and deletes the cache; its reconcile finds no object. -/
def finalizerTaken : List Cluster.Event :=
  published ++ [.update prodShop shopCache, .delete prodShop 5, .get prodShop]

/-- The reconcile of a cache whose finalizer was taken away returns without an error, the object is
gone, and the proxy still routes to the cache and knows its pods. -/
theorem finalizerTaken_stays_routed :
    ((finalizerTaken.foldl next (start (fun _ => none) 0)).step (.finish prodShop false)).1 =
        some prodShop ∧
      ((finalizerTaken ++ [Cluster.Event.finish prodShop false]).foldl next
        (start (fun _ => none) 0)).objects prodShop = none ∧
      ((finalizerTaken ++ [Cluster.Event.finish prodShop false]).foldl next
        (start (fun _ => none) 0)).router.lookup "shop-invalidation.prod" = some prodShop.entry ∧
      ((finalizerTaken ++ [Cluster.Event.finish prodShop false]).foldl next
        (start (fun _ => none) 0)).podMap.getPodIPs prodShop.ns prodShop.name =
          some [("10.0.0.1" : Text)] := by
  refine ⟨rfl, rfl, ?_, ?_⟩
  · decide
  · decide

end CloudVinyl.Controller
