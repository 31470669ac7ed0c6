import Mathlib.Data.List.Nodup
import Mathlib.Data.List.Pairwise
import CloudVinyl.Generator.Generate
import CloudVinyl.Generator.Relay
import CloudVinyl.Lib.FetchAttempts

set_option relaxedAutoImplicit false
set_option autoImplicit false

/-!
# Retries of a fetch

A fetch that got no response is repeated: `vcl_backend_error` asks for a retry while the backend
still has retries left, and `vcl_backend_fetch` then chooses another backend by the director of the
same group, or another peer. Both subroutines have one conditional for each group that retries and
one for the peers. What these conditionals share is a *pool*: its backends, its director and its
number of retries.

Backends are identified with the expressions that name them in the VCL. What the conditions mean is
an assumption on varnishd, `Generator.Interprets`.

## Main definitions

* `Generator.RetryPool`, `Generator.retryPools` — the pools of a cache.
* `Generator.Interprets`, `Generator.Passive` — varnishd reads the conditions as they are meant, and
  snippets leave the fetch alone.
* `Generator.SamePool`, `Generator.budget` — backends of one pool, and its number of retries.

## Main results

* `Generator.retryPools_disjoint` — in a VCL without clashing symbols no backend is in two pools.
* `Generator.attempts_within_pool` — a fetch stays in its pool, with no more retries than the pool
  has.
-/

namespace CloudVinyl.Generator

open Vcl Vcl.Code

/-! ## Pools -/

/-- What is retried together. -/
structure RetryPool where
  retries : ℤ
  targets : List Text
  reselect : Text
  /-- the time after which nothing is retried any more, if there is one -/
  bound : Text

/-- The condition for a retry. -/
def RetryPool.test (p : RetryPool) : Text := retryTest p.retries (backendMatch p.targets) p.bound

/-- The pool of a group. -/
def BackendGroup.pool (g : BackendGroup) : RetryPool where
  retries := g.retries
  targets := (retrySelection g).elim [] Prod.snd
  reselect := g.retryReselect
  bound := g.retryFirstByteTimeout

/-- The pool of the peers. -/
def peerPool (d : TemplateData) : RetryPool where
  retries := d.peerRetries
  targets := d.peerDefs.map (·.name)
  reselect := d.peerRetryReselect
  bound := []

/-- The pools that retry. -/
def retryPools (d : TemplateData) : List RetryPool :=
  (d.backendGroups.filter (·.retries ≠ 0)).map (·.pool) ++
    if d.peerRetries ≠ 0 then [peerPool d] else []

/-- The choice of another backend. -/
def reselectCode (pools : List RetryPool) : Code :=
  pools.foldr (fun p rest =>
    block (.test (backendMatch p.targets)) (ofList [.backend p.reselect]) ++ rest) .nil

/-- The request for a retry. -/
def retryCode (pools : List RetryPool) : Code :=
  pools.foldr (fun p rest => block (.test p.test) (ofList [.ret .retry]) ++ rest) .nil

/-- The condition under which anything is retried. -/
def retryableTest : Text :=
  "bereq.method ~ \"^(GET|HEAD)$\" && " ++ "now - bereq.time < bereq.first_byte_timeout"

/-! ## The pools of the template data -/

/-- The texts of the data are those of the pools. -/
structure PooledData (d : TemplateData) : Prop where
  group : ∀ g ∈ d.backendGroups, g.retries ≠ 0 → g.retryMatch = backendMatch g.pool.targets
  peer : d.peerRetries ≠ 0 → d.peerRetryMatch = backendMatch (peerPool d).targets

/-- The settings of retries do not change how another backend is chosen. -/
lemma retrySelection_setGroupRetry (go : Go) (g : BackendGroup) (b : BackendSpec) :
    retrySelection (setGroupRetry go g b) = retrySelection g := by
  by_cases hb : g.backends = []
  · simp only [setGroupRetry, if_pos hb]
  · cases hsel : retrySelection g with
    | none => simp only [setGroupRetry, if_neg hb, hsel]
    | some sel =>
      by_cases hr : resolveMaxRetries b.retry = 0
      · simp only [setGroupRetry, if_neg hb, hsel, if_pos hr]
        exact hsel
      · simp only [setGroupRetry, if_neg hb, hsel, if_neg hr]
        exact hsel

/-- The test of a group that retries is one for its own backends. -/
lemma setGroupRetry_match (go : Go) {g : BackendGroup} (hg : g.retries = 0) (b : BackendSpec)
    (h : (setGroupRetry go g b).retries ≠ 0) :
    (setGroupRetry go g b).retryMatch =
      backendMatch (setGroupRetry go g b).pool.targets := by
  rw [BackendGroup.pool, retrySelection_setGroupRetry]
  by_cases hb : g.backends = []
  · simp only [setGroupRetry, if_pos hb] at h
    exact absurd hg h
  · cases hsel : retrySelection g with
    | none =>
      simp only [setGroupRetry, if_neg hb, hsel] at h
      exact absurd hg h
    | some sel =>
      by_cases hr : resolveMaxRetries b.retry = 0
      · simp only [setGroupRetry, if_neg hb, hsel, if_pos hr] at h
        exact absurd hg h
      · simp only [setGroupRetry, if_neg hb, hsel, if_neg hr]
        rfl

/-- The data that the generator builds. -/
lemma pooledData_build (go : Go) (input : Input)
    (hpeers : 0 ≤ (buildTemplateData go input).peerRetries) :
    PooledData (buildTemplateData go input) := by
  constructor
  · rw [buildTemplateData_backendGroups]
    intro g hg h
    obtain ⟨b, -, rfl⟩ := List.mem_map.1 hg
    exact setGroupRetry_match go rfl b h
  · intro h
    have hpos : 0 < (buildTemplateData go input).peerRetries := by omega
    exact if_pos hpos

/-! ## No backend is in two pools -/

section Disjoint

variable {d : TemplateData} (hsymbols : d.symbols.Nodup) (hdots : ∀ n ∈ d.symbols, '.' ∉ n)

/-- A target of a group is one of its backends or its director. -/
lemma mem_targets {g : BackendGroup} {b : Text} (h : b ∈ g.pool.targets) :
    b ∈ g.backends.map (·.name) ∨ b = g.name ++ ".backend()" := by
  simp only [BackendGroup.pool, retrySelection] at h
  cases hdir : g.director.type with
  | shard =>
    rw [hdir] at h
    exact .inl h
  | roundRobin | random =>
    rw [hdir] at h
    exact (List.mem_append.1 h).imp_right List.mem_singleton.1
  | hash | fallback =>
    rw [hdir] at h
    cases h

/-- The backends of a group are symbols. -/
lemma mem_symbols_of_backend {g : BackendGroup} (hg : g ∈ d.backendGroups) {b : Text}
    (hb : b ∈ g.backends.map (·.name)) : b ∈ d.symbols := by
  obtain ⟨defn, hdefn, rfl⟩ := List.mem_map.1 hb
  have hmem : defn ∈ d.endpointDefs := List.mem_flatMap.2 ⟨g, hg, hdefn⟩
  simp only [TemplateData.symbols, List.mem_append]
  exact .inl (.inl (.inl (List.mem_map_of_mem hmem)))

include hdots in
/-- The name of a backend is not the expression of a director. -/
lemma not_director {n : Text} (hn : n ∈ d.symbols) (g : Text) : n ≠ g ++ ".backend()" := by
  rintro rfl
  exact hdots _ hn (List.mem_append_right _ (by decide))

include hsymbols hdots

/-- No backend is in two groups. -/
lemma group_pools_disjoint :
    d.backendGroups.Pairwise fun g g' => ∀ b ∈ g.pool.targets, b ∉ g'.pool.targets := by
  rw [TemplateData.symbols, List.nodup_append, List.nodup_append, List.nodup_append] at hsymbols
  obtain ⟨⟨⟨hendpoints, -, -⟩, -, -⟩, hdirectors, -⟩ := hsymbols
  have hbackends : d.backendGroups.Pairwise fun g g' =>
      List.Disjoint (g.backends.map (·.name)) (g'.backends.map (·.name)) := by
    rw [TemplateData.endpointDefs, List.map_flatMap, List.nodup_flatMap] at hendpoints
    exact hendpoints.2
  have hnames : d.backendGroups.Pairwise fun g g' => g.name ≠ g'.name :=
    List.pairwise_map.1 (List.nodup_append.1 hdirectors).1
  refine (hbackends.and hnames).imp_of_mem fun {g g'} hg hg' hpair b hb hb' => ?_
  obtain ⟨hdis, hne⟩ := hpair
  rcases mem_targets hb with hmem | rfl
  · rcases mem_targets hb' with hmem' | rfl
    · exact hdis hmem hmem'
    · exact not_director hdots (mem_symbols_of_backend hg hmem) _ rfl
  · rcases mem_targets hb' with hmem' | heq
    · exact not_director hdots (mem_symbols_of_backend hg' hmem') _ rfl
    · exact hne (List.append_cancel_right heq)

/-- **No backend is in two pools**, if no two symbols of the VCL are the same. -/
theorem retryPools_disjoint (hcluster : d.peerRetries ≠ 0 → d.hasCluster = true) :
    (retryPools d).Pairwise fun p q => ∀ b ∈ p.targets, b ∉ q.targets := by
  refine List.pairwise_append.2 ⟨?_, ?_, ?_⟩
  · refine List.pairwise_map.2 ((group_pools_disjoint hsymbols hdots).sublist ?_)
    exact List.filter_sublist
  · split_ifs
    · exact List.pairwise_singleton _ _
    · exact List.Pairwise.nil
  · intro p hp q hq b hb hb'
    obtain ⟨g, hg, rfl⟩ := List.mem_map.1 hp
    have hg := (List.mem_filter.1 hg).1
    split_ifs at hq with hretries
    · obtain rfl := List.mem_singleton.1 hq
      have hpeer : b ∈ d.declaredPeers.map (·.name) := by
        rwa [TemplateData.declaredPeers, if_pos (hcluster hretries)]
      rcases mem_targets hb with hmem | rfl
      · obtain ⟨defn, hdefn, rfl⟩ := List.mem_map.1 hmem
        have hend : defn.name ∈ d.endpointDefs.map (·.name) :=
          List.mem_map_of_mem (List.mem_flatMap.2 ⟨g, hg, hdefn⟩)
        rw [TemplateData.symbols, List.nodup_append, List.nodup_append,
          List.nodup_append] at hsymbols
        exact hsymbols.1.1.2.2 _ hend _ hpeer rfl
      · refine not_director hdots ?_ g.name rfl
        simp only [TemplateData.symbols, List.mem_append]
        exact .inl (.inl (.inr hpeer))
    · cases hq

end Disjoint

/-! ## The subroutines by pools -/

section Pools

variable {d : TemplateData}

/-- The empty body behind changes nothing. -/
lemma code_append_nil (c : Code) : c ++ .nil = c := by
  change c.append .nil = c
  induction c with
  | nil => rfl
  | stmt s rest ih => rw [append, ih]
  | cond c i block rest _ ih => rw [append, ih]
  | condElse c block other rest _ _ ih => rw [append, ih]

/-- One conditional for each group that retries and one for the peers. -/
lemma foldr_pools (code : RetryPool → Code) {groupCode : BackendGroup → Code} {peerCode : Code}
    (hgroup : ∀ g ∈ d.backendGroups, g.retries ≠ 0 → groupCode g = code g.pool)
    (hpeer : d.peerRetries ≠ 0 → peerCode = code (peerPool d)) :
    (d.backendGroups.foldr (fun g rest => when (decide (g.retries ≠ 0)) (groupCode g) ++ rest)
        .nil) ++ when (decide (d.peerRetries ≠ 0)) peerCode =
      (retryPools d).foldr (fun p rest => code p ++ rest) .nil := by
  have hpeers : when (decide (d.peerRetries ≠ 0)) peerCode =
      (if d.peerRetries ≠ 0 then [peerPool d] else []).foldr (fun p rest => code p ++ rest)
        .nil := by
    by_cases h : d.peerRetries ≠ 0
    · rw [if_pos h, when, if_pos (decide_eq_true h), hpeer h, List.foldr_cons, List.foldr_nil,
        code_append_nil]
    · rw [if_neg h, when, if_neg (by simpa using h)]
      rfl
  rw [hpeers, retryPools, List.foldr_append]
  generalize (if d.peerRetries ≠ 0 then [peerPool d] else []).foldr
    (fun p rest => code p ++ rest) .nil = tail
  revert hgroup
  generalize d.backendGroups = groups
  intro hgroup
  induction groups with
  | nil => rfl
  | cons g groups ih =>
    have ih := ih fun g' hg' => hgroup g' (List.mem_cons_of_mem _ hg')
    by_cases h : g.retries ≠ 0
    · rw [List.foldr_cons, List.filter_cons_of_pos (by simpa using h), List.map_cons,
        List.foldr_cons, append_assoc, ih, when, if_pos (decide_eq_true h),
        hgroup g List.mem_cons_self h]
    · rw [List.foldr_cons, List.filter_cons_of_neg (by simpa using h), append_assoc, ih, when,
        if_neg (by simpa using h), nil_append]

/-- The part of `vcl_backend_fetch` goes through the pools. -/
lemma fetchReselect_pools (hd : PooledData d) :
    ∃ notes : List Stmt, notes.all Stmt.isNote = true ∧
      fetchReselect d = ofList notes ++ block .retried (reselectCode (retryPools d)) := by
  have hcode := foldr_pools
    (fun p => block (.test (backendMatch p.targets)) (ofList [.backend p.reselect]))
    (fun g hg h => congrArg (fun m => block (.test m) (ofList [.backend g.retryReselect]))
      (hd.group g hg h))
    (fun h => congrArg (fun m => block (.test m) (ofList [.backend d.peerRetryReselect]))
      (hd.peer h))
  exact ⟨_, rfl, congrArg (fun c => ofList _ ++ block .retried c) hcode⟩

/-- What follows the choice in `vcl_backend_fetch` chooses no backend. -/
lemma vclBackendFetch_rest (d : TemplateData) : ∃ rest : Code, rest.all Stmt.routeless = true ∧
    vclBackendFetch d = when d.hasFetchRetry (fetchReselect d) ++ rest := by
  simp only [vclBackendFetch, append_assoc]
  refine ⟨_, ?_, rfl⟩
  exact all_append rfl (all_append (ownerSnippet_all (fun _ => rfl) rfl rfl)
    (all_append (all_when rfl) rfl))

/-- The retries in `vcl_backend_error`, and the snippet. -/
lemma vclBackendError_pools (hd : PooledData d) :
    ∃ notes notes' : List Stmt, notes.all Stmt.isNote = true ∧ notes'.all Stmt.isNote = true ∧
      vclBackendError d = ofList notes ++ (when d.hasFetchRetry
        (ofList notes' ++ block (.test retryableTest) (retryCode (retryPools d))) ++
        when (!d.input.spec.vcl.snippets.vclBackendError.isEmpty) (ofList [.note ""] ++
          snippetLines "vcl_backend_error" d.input.spec.vcl.snippets.vclBackendError)) := by
  have hcode := foldr_pools (fun p => block (.test p.test) (ofList [.ret .retry]))
    (fun g hg h => congrArg (fun m => errorRetry g.retries m g.retryFirstByteTimeout)
      (hd.group g hg h))
    (fun h => congrArg (fun m => errorRetry d.peerRetries m []) (hd.peer h))
  rw [vclBackendError, append_assoc]
  exact ⟨_, _, rfl, rfl, congrArg (fun c => ofList _ ++ (when d.hasFetchRetry
    (ofList _ ++ block (.test retryableTest) c) ++ _)) hcode⟩

end Pools

/-- A statement that does not ask for a retry. -/
def asksNoRetry : Stmt → Bool
  | .ret .retry => false
  | _ => true

/-! ## What varnishd and the snippets are asked for -/

section Attempts

variable {W : Type} {V : Varnishd Text W} {pools : List RetryPool} {s : State Text W}

/-- The conditions and the selections mean what they say. -/
structure Interprets (pools : List RetryPool) (E : Engine Text W) : Prop where
  isTarget : ∀ p ∈ pools, ∀ s, E.test (backendMatch p.targets) s = true → s.backend ∈ p.targets
  reselect : ∀ p ∈ pools, ∀ s, E.select p.reselect s ∈ p.targets
  retry : ∀ p ∈ pools, ∀ s, E.test p.test s = true →
    (s.retries : ℤ) < p.retries ∧ s.backend ∈ p.targets
  method : ∀ s, E.test retryableTest s = true →
    s.method = ("GET" : Text) ∨ s.method = ("HEAD" : Text)

/-- Two states with the same fetch. -/
structure SameFetch (s t : State Text W) : Prop where
  backend : t.backend = s.backend
  retries : t.retries = s.retries
  method : t.method = s.method

/-- A fetch is the same as itself. -/
lemma SameFetch.refl (s : State Text W) : SameFetch s s := ⟨rfl, rfl, rfl⟩

/-- The same fetch goes on. -/
lemma SameFetch.trans {s t u : State Text W} (hst : SameFetch s t) (htu : SameFetch t u) :
    SameFetch s u :=
  ⟨htu.backend.trans hst.backend, htu.retries.trans hst.retries, htu.method.trans hst.method⟩

/-- Snippets do not return, and leave the fetch alone. -/
def Passive (E : Engine Text W) : Prop :=
  ∀ text s, (E.insert text s).2 = none ∧ SameFetch s (E.insert text s).1

/-- A body that chooses no backend leaves the fetch alone. -/
lemma exec_sameFetch {E : Engine Text W} (hE : Passive E) {c : Code}
    (hc : c.all Stmt.routeless = true) (s : State Text W) : SameFetch s (exec E c s).state := by
  refine exec_preserves E (SameFetch s) (fun st hst t ht => ?_) (.refl s)
  have hroute := List.all_eq_true.1 hc st hst
  cases st with
  | hint | backend => exact Bool.noConfusion hroute
  | insert place text => exact ht.trans (hE text t).2
  | note | unset | set | other | ret => exact ht.trans ⟨rfl, rfl, rfl⟩

/-! ## Backends of one pool -/

/-- The backend itself, or one that is in a pool with it. -/
def SamePool (pools : List RetryPool) (b b' : Text) : Prop :=
  b' = b ∨ ∃ p ∈ pools, b ∈ p.targets ∧ b' ∈ p.targets

/-- The number of retries that a backend has. -/
def budget (pools : List RetryPool) (b : Text) : ℕ :=
  ((pools.find? fun p => p.targets.contains b).map (·.retries.toNat)).getD 0

variable (hdis : pools.Pairwise fun p q => ∀ b ∈ p.targets, b ∉ q.targets)

include hdis

/-- The pool of a backend is the only one. -/
lemma pool_unique {p q : RetryPool} (hp : p ∈ pools) (hq : q ∈ pools) {b : Text}
    (hbp : b ∈ p.targets) (hbq : b ∈ q.targets) : p = q := by
  have hsymm : Std.Symm fun p q : RetryPool => ∀ b ∈ p.targets, b ∉ q.targets :=
    ⟨fun _ _ h b hb hb' => h b hb' hb⟩
  by_contra hne
  exact hdis.forall hp hq hne b hbp hbq

/-- A backend has the retries of its pool. -/
lemma budget_of_mem {p : RetryPool} (hp : p ∈ pools) {b : Text} (hb : b ∈ p.targets) :
    budget pools b = p.retries.toNat := by
  cases hfind : pools.find? fun p => p.targets.contains b with
  | none => exact absurd (List.contains_iff_mem.2 hb) (List.find?_eq_none.1 hfind p hp)
  | some q =>
    have hq := List.find?_some hfind
    rw [budget, hfind, pool_unique hdis hp (List.mem_of_find?_eq_some hfind) hb
      (List.contains_iff_mem.1 hq)]
    rfl

/-- From a backend of the pool one stays in it. -/
lemma SamePool.of_target {p : RetryPool} (hp : p ∈ pools) {b b' : Text}
    (h : SamePool pools b b') (hb' : b' ∈ p.targets) : b ∈ p.targets := by
  rcases h with rfl | ⟨q, hq, hb, hbq⟩
  · exact hb'
  · rwa [pool_unique hdis hp hq hb' hbq]

/-! ## One attempt -/

section Attempt

variable (hV : Interprets pools V.toEngine)

include hV

/-- The choice of another backend stays in the pool. -/
lemma reselectCode_exec {l : List RetryPool} (hl : l ⊆ pools) {b : Text}
    (hs : SamePool pools b s.backend) :
    ∃ b', exec V.toEngine (reselectCode l) s = ⟨{ s with backend := b' }, none, []⟩ ∧
      SamePool pools b b' := by
  induction l generalizing s with
  | nil => exact ⟨s.backend, rfl, hs⟩
  | cons p l ih =>
    have hp := hl List.mem_cons_self
    have hrest := (List.cons_subset.1 hl).2
    have hcode : reselectCode (p :: l) =
        block (.test (backendMatch p.targets)) (ofList [.backend p.reselect]) ++
          reselectCode l := rfl
    rw [hcode, exec_append, exec_block]
    split_ifs with htest
    · -- the backend is one of the pool, and so is the new one
      have hb := hs.of_target hdis hp (hV.isTarget p hp s htest)
      obtain ⟨b', hb', hsame⟩ := ih (s := { s with backend := V.select p.reselect s }) hrest
        (.inr ⟨p, hp, hb, hV.reselect p hp s⟩)
      exact ⟨b', hb', hsame⟩
    · exact ih hrest hs

omit hdis hV in
/-- A retry is asked for if one of the conditions holds. -/
lemma retryCode_exec (l : List RetryPool) (s : State Text W) :
    exec V.toEngine (retryCode l) s =
      ⟨s, if l.any (fun p => V.test p.test s) then some .retry else none, []⟩ := by
  induction l with
  | nil => rfl
  | cons p l ih =>
    have hcode : retryCode (p :: l) = block (.test p.test) (ofList [.ret .retry]) ++
        retryCode l := rfl
    have hcond : V.toEngine.holds s (.test p.test) = V.test p.test s := rfl
    rw [hcode, exec_append, exec_block, hcond]
    cases htest : V.test p.test s with
    | false =>
      rw [if_neg Bool.false_ne_true, Result.bind_fallthrough, ih, List.any_cons, htest,
        Bool.false_or]
    | true =>
      rw [if_pos rfl, List.any_cons, htest, Bool.true_or]
      rfl

variable {d : TemplateData} (hd : PooledData d) (hpassive : Passive V.toEngine)

include hd hpassive

/-- **An attempt goes to a backend of the pool.** -/
lemma vclBackendFetch_exec (hpools : pools = retryPools d) {b : Text}
    (hs : SamePool pools b s.backend) :
    ∃ b', SamePool pools b b' ∧
      SameFetch { s with backend := b' } (exec V.toEngine (vclBackendFetch d) s).state := by
  obtain ⟨rest, hrest, hcode⟩ := vclBackendFetch_rest d
  have hchoice : ∃ b', SamePool pools b b' ∧
      exec V.toEngine (when d.hasFetchRetry (fetchReselect d)) s =
        ⟨{ s with backend := b' }, none, []⟩ := by
    cases d.hasFetchRetry with
    | false => exact ⟨s.backend, hs, rfl⟩
    | true =>
      obtain ⟨notes, hnotes, hreselect⟩ := fetchReselect_pools hd
      rw [when, if_pos rfl, hreselect, exec_append, exec_notes _ hnotes, Result.bind_fallthrough,
        exec_block, ← hpools]
      split_ifs
      · obtain ⟨b', hexec, hb'⟩ := reselectCode_exec hdis hV (List.Subset.refl pools) hs
        exact ⟨b', hb', hexec⟩
      · exact ⟨s.backend, hs, rfl⟩
  obtain ⟨b', hb', hexec⟩ := hchoice
  refine ⟨b', hb', ?_⟩
  rw [hcode, exec_append, hexec, Result.bind_fallthrough]
  exact exec_sameFetch hpassive hrest _

omit hdis in
/-- **A retry is asked for by the pool of the backend**, while it has retries left. -/
lemma vclBackendError_retry (hpools : pools = retryPools d)
    (h : (exec V.toEngine (vclBackendError d) s).ret = some .retry) :
    (s.method = ("GET" : Text) ∨ s.method = ("HEAD" : Text)) ∧
      ∃ p ∈ pools, (s.retries : ℤ) < p.retries ∧ s.backend ∈ p.targets := by
  obtain ⟨notes, notes', hnotes, hnotes', hcode⟩ := vclBackendError_pools hd
  have hsnippet (t : State Text W) : (exec V.toEngine
      (when (!d.input.spec.vcl.snippets.vclBackendError.isEmpty) (ofList [.note ""] ++
        snippetLines "vcl_backend_error" d.input.spec.vcl.snippets.vclBackendError)) t).ret =
        none :=
    exec_onward (all_when rfl) (fun _ text _ t => (hpassive text t).1) t
  rw [hcode, exec_append, exec_notes _ hnotes, Result.bind_fallthrough, exec_append] at h
  cases hretry : d.hasFetchRetry with
  | false =>
    rw [hretry] at h
    exact absurd ((hsnippet s).symm.trans h) (by simp)
  | true =>
    rw [hretry, when, if_pos rfl, exec_append, exec_notes _ hnotes', Result.bind_fallthrough,
      exec_block] at h
    split_ifs at h with htest
    · rw [retryCode_exec, ← hpools] at h
      refine ⟨hV.method s htest, ?_⟩
      cases hany : pools.any fun p => V.test p.test s with
      | false =>
        rw [hany] at h
        exact absurd ((hsnippet s).symm.trans h) (by simp)
      | true =>
        obtain ⟨p, hp, hpt⟩ := List.any_eq_true.1 hany
        exact ⟨p, hp, hV.retry p hp s hpt⟩
    · exact absurd ((hsnippet s).symm.trans h) (by simp)

omit hdis hV hd in
/-- A fetch that got a response is not repeated. -/
lemma vclBackendResponse_ret : (exec V.toEngine (vclBackendResponse d) s).ret ≠ some .retry := by
  have hall : (vclBackendResponse d).all asksNoRetry = true := by
    refine all_append (all_append (all_append (all_append (all_append ?_ ?_) ?_) rfl)
      (ownerSnippet_all (fun _ => rfl) rfl rfl)) rfl
    · rfl
    · exact all_when rfl
    · exact all_when rfl
  refine exec_induction V.toEngine (Q := fun _ r => r.ret ≠ some .retry) (fun _ => nofun) ?_ ?_ s
  · intro s r f hr hf
    unfold Result.bind
    split
    · exact hr
    · exact hf _
  · intro st hst t
    have hst := List.all_eq_true.1 hall st hst
    cases st with
    | insert place text =>
      change (V.insert text t).2 ≠ some .retry
      rw [(hpassive text t).1]
      nofun
    | ret a =>
      cases a with
      | retry => exact Bool.noConfusion hst
      | hash | pass | pipe | lookup | fetch | deliver | ok | synth | other => nofun
    | note | unset | set | hint | backend | other => nofun

end Attempt

end Attempts

/-! ## All attempts -/

section All

variable {W : Type} {V : Varnishd Text W} {s : State Text W}

/-- **A fetch stays in its pool.** Take any resource without a full override and with a number of
peer retries that is not negative, whose VCL has no clashing symbols and no dots in them. Let
varnishd read its conditions as they are meant and choose a backend of the pool when it is asked for
another one, and let the snippets leave the fetch alone and return nothing. Then, however often the
backends fail to answer, all attempts of a fetch go to backends of the pool of the first one, there
are no more retries than that pool has, and there is none of a fetch that is neither a `GET` nor a
`HEAD`.

**Proof sketch.** The conditional of a pool applies to its own backends only, since no backend is in
two pools (`retryPools_disjoint`). So another backend is chosen from the same pool
(`vclBackendFetch_exec`), and a retry is asked for by that pool, while it has retries left
(`vclBackendError_retry`). -/
theorem attempts_within_pool {go : Go} {input : Input} {P : Program}
    (hP : generatedProgram go input = some P)
    (hpeers : 0 ≤ (buildTemplateData go input).peerRetries)
    (hsymbols : (buildTemplateData go input).symbols.Nodup)
    (hdots : ∀ n ∈ (buildTemplateData go input).symbols, '.' ∉ n)
    (hV : Interprets (retryPools (buildTemplateData go input)) V.toEngine)
    (hpassive : Passive V.toEngine) (n : ℕ) (hs : s.retries = 0) :
    let pools := retryPools (buildTemplateData go input)
    (attempts V P n s).length ≤ budget pools s.backend + 1 ∧
      (∀ b ∈ attempts V P n s, SamePool pools s.backend b) ∧
      (s.method ≠ ("GET" : Text) → s.method ≠ ("HEAD" : Text) → (attempts V P n s).length ≤ 1) := by
  obtain rfl := eq_of_generatedProgram hP
  set d := buildTemplateData go input
  have hd : PooledData d := pooledData_build go input hpeers
  have hcluster : d.peerRetries ≠ 0 → d.hasCluster = true := fun h => by
    by_contra hc
    exact h (if_neg hc)
  have hdis := retryPools_disjoint hsymbols hdots hcluster
  -- along the attempts, the backend stays in the pool and the method stays the same
  let I (t : State Text W) : Prop := SamePool (retryPools d) s.backend t.backend ∧
    t.method = s.method
  have hfetch (t : State Text W) (ht : I t) : I (fetched V (program d) t).state ∧
      (fetched V (program d) t).state.retries = t.retries := by
    obtain ⟨b', hb', hsame⟩ := vclBackendFetch_exec hdis hV hd hpassive rfl ht.1
    exact ⟨⟨hsame.backend ▸ hb', hsame.method.trans ht.2⟩, hsame.retries⟩
  have hfollow : ∀ c ∈ [(program d).backendResponse, (program d).backendError],
      ∀ t : State Text W, I t → (exec V.toEngine c t).ret = some .retry →
        (I (exec V.toEngine c t).state.retry ∧ (exec V.toEngine c t).state.retries = t.retries) ∧
        (t.method = ("GET" : Text) ∨ t.method = ("HEAD" : Text)) ∧
        ∃ p ∈ retryPools d, (t.retries : ℤ) < p.retries ∧ t.backend ∈ p.targets := by
    intro c hc t ht hret
    simp only [List.mem_cons, List.not_mem_nil, or_false] at hc
    obtain rfl | rfl := hc
    · exact absurd hret (vclBackendResponse_ret hpassive)
    · have hsame : SameFetch t (exec V.toEngine (vclBackendError d) t).state :=
        exec_sameFetch hpassive (vclBackendError_all (fun _ => rfl) d rfl fun _ => rfl) t
      refine ⟨⟨⟨?_, hsame.method.trans ht.2⟩, hsame.retries⟩,
        vclBackendError_retry hV hd hpassive rfl hret⟩
      exact hsame.backend ▸ ht.1
  have hstart : I s := ⟨.inl rfl, rfl⟩
  have hbudget := attempts_bounded (Q := SamePool (retryPools d) s.backend)
    (N := budget (retryPools d) s.backend) hfetch (fun t ht => ht.1)
    (fun c hc t ht hret => ?_) n hstart (by omega)
  · refine ⟨by omega, hbudget.2, fun hget hhead => ?_⟩
    have hnone := attempts_bounded (Q := fun _ => True) (N := 0) hfetch (fun _ _ => trivial)
      (fun c hc t ht hret => ?_) n hstart (by omega)
    · omega
    · obtain ⟨-, hmethod, -⟩ := hfollow c hc t ht hret
      rw [ht.2] at hmethod
      exact absurd hmethod (not_or.2 ⟨hget, hhead⟩)
  · obtain ⟨⟨hI, hretries⟩, -, p, hp, hlt, hmem⟩ := hfollow c hc t ht hret
    refine ⟨?_, hI, hretries⟩
    rw [budget_of_mem hdis hp (ht.1.of_target hdis hp hmem)]
    omega

end All

/-! ## A group of two backends, none of which answers -/

/-- A cache with one backend of two endpoints. -/
def retryInput : Input where
  spec := { backends := [{ name := "app", serviceRef := "app" }] }
  peers := []
  endpoints _ := [⟨"10.0.0.1", 8080⟩, ⟨"10.0.0.2", 8080⟩]
  namespace_ := "prod"
  name := "shop"
  operatorIP := "10.0.0.9"

/-- Its pool. -/
def appPool : RetryPool where
  retries := 1
  targets := ["app_0", "app_1"]
  reselect := "app.backend(by=URL, alt=bereq.retries, healthy=ALL)"
  bound := []

/-- A varnishd that reads the conditions of this pool, and whose backends do not answer. -/
def silentBackends : Varnishd Text Unit where
  inAcl _ _ := false
  test text s :=
    if text = retryableTest then s.method = "GET"
    else appPool.targets.contains s.backend &&
      (text = backendMatch appPool.targets || s.retries < 1)
  value _ _ := []
  select _ _ := "app_1"
  effect _ _ := ()
  insert _ s := (s, none)
  lookup _ := .miss
  answered _ := false
  hopByHop _ := false

/-- It reads them as they are meant. -/
lemma interprets_silentBackends : Interprets [appPool] silentBackends.toEngine := by
  have hmatch : backendMatch appPool.targets ≠ retryableTest := by decide
  have htest : appPool.test ≠ retryableTest := by decide
  have hne : appPool.test ≠ backendMatch appPool.targets := by decide
  have hpool {p : RetryPool} (hp : p ∈ [appPool]) : p = appPool := List.mem_singleton.1 hp
  refine ⟨fun p hp s h => ?_, fun p hp s => ?_, fun p hp s h => ?_, fun s h => ?_⟩
  · obtain rfl := hpool hp
    simp only [silentBackends, if_neg hmatch, Bool.and_eq_true] at h
    exact List.contains_iff_mem.1 h.1
  · obtain rfl := hpool hp
    simp [silentBackends, appPool]
  · obtain rfl := hpool hp
    simp only [silentBackends, if_neg htest, Bool.and_eq_true, Bool.or_eq_true,
      decide_eq_true_eq, hne, false_or] at h
    exact ⟨by simp only [appPool]; omega, List.contains_iff_mem.1 h.1⟩
  · simp only [silentBackends, if_pos, decide_eq_true_eq] at h
    exact .inl h

/-- The second backend is tried once, and that is all. -/
theorem attempts_within_pool_silent :
    let go : Go := ⟨fun _ => [], fun _ => [], id⟩
    let d := buildTemplateData go retryInput
    let s : State Text Unit := ⟨"GET", "10.1.0.7", 0, 0, fun _ _ => none, "app_0", "app_0", ()⟩
    attempts silentBackends (program d) 4 s = ["app_0", "app_1"] ∧
      (attempts silentBackends (program d) 4 s).length ≤ budget (retryPools d) s.backend + 1 := by
  intro go d s
  refine ⟨by decide, ?_⟩
  have hP : generatedProgram go retryInput = some (program d) := if_pos rfl
  exact (attempts_within_pool hP (by decide) (by decide) (by decide +kernel)
    interprets_silentBackends (fun _ s => ⟨rfl, .refl s⟩) 4 rfl).1

end CloudVinyl.Generator
