import CloudVinyl.Tracer.Coalescing

set_option relaxedAutoImplicit false
set_option autoImplicit false

/-!
# Where released spans and links come from

A group is stitched when it is handed in, before anything about it is recorded. What is recorded,
parked and released for it later is the stitched set, up to links and attributes of its top span.
A link leads to a fetch span of some stitched group.

## Main definitions

* `Linker.stateAt`, `Linker.stitchedAt` — the state before a call, and what its group is stitched
  to.
* `Linker.Release`, `Linker.Parked` — what a call can release and park.
* `Linker.Emitted`, `Linker.Fetched` — what a stitched group can be released as, and what can be
  known of a fetch.

## Main results

* `Linker.build_mem` — what a call on a group with spans releases, parks and records.
* `Linker.released_settled` — what is released for a group, and where its links lead.
-/

namespace CloudVinyl.Linker

open Vsl Spans

variable (epoch : Text → Option Time)

/-! ## States of a run -/

/-- The state before the call at position `k`. -/
def stateAt (cfg : Config) (calls : List Call) (k : ℕ) : State Entry :=
  (runNew epoch cfg (calls.take k)).2

/-- What the calls before position `k` have returned. -/
def releasedBefore (cfg : Config) (calls : List Call) (k : ℕ) : List (Batch Entry) :=
  (runNew epoch cfg (calls.take k)).1.flatMap Prod.snd

section StateAt

variable {cfg : Config} {calls : List Call} {k : ℕ} {c : Call}

/-- The run up to the next call. -/
lemma runNew_take_succ (hc : calls[k]? = some c) :
    runNew epoch cfg (calls.take (k + 1)) =
      ((runNew epoch cfg (calls.take k)).1 ++ [((c, k), (step epoch (stateAt epoch cfg calls k)
        (c, k)).1)], (step epoch (stateAt epoch cfg calls k) (c, k)).2) := by
  have hlen : (calls.take k).length = k := by
    have := (List.getElem?_eq_some_iff.1 hc).1
    rw [List.length_take]
    omega
  have htake : (calls.take (k + 1)).zipIdx = (calls.take k).zipIdx ++ [(c, k)] := by
    rw [List.take_add_one, hc, Option.toList_some, List.zipIdx_append, hlen]
    simp
  rw [runNew, htake, Transducer.run_append]
  rfl

/-- The state after the next call. -/
lemma stateAt_succ (hc : calls[k]? = some c) :
    stateAt epoch cfg calls (k + 1) = (step epoch (stateAt epoch cfg calls k) (c, k)).2 := by
  rw [stateAt, runNew_take_succ epoch hc]

/-- What was released up to the next call. -/
lemma releasedBefore_succ (hc : calls[k]? = some c) :
    releasedBefore epoch cfg calls (k + 1) =
      releasedBefore epoch cfg calls k ++ (step epoch (stateAt epoch cfg calls k) (c, k)).1 := by
  rw [releasedBefore, runNew_take_succ epoch hc]
  simp [releasedBefore]

/-- **Invariants of the states of a run.** -/
theorem stateAt_induction {P : ℕ → Prop} (init : P 0)
    (next : ∀ k c, calls[k]? = some c → P k → P (k + 1)) : ∀ k ≤ calls.length, P k := by
  intro k hk
  induction k with
  | zero => exact init
  | succ k ih =>
    have hlt : k < calls.length := by omega
    exact next k calls[k] (List.getElem?_eq_getElem hlt) (ih (by omega))

end StateAt

/-! ## What a call can release -/

/-- What a group is stitched to by the call at its position. -/
def stitchedAt (cfg : Config) (calls : List Call) (e : Entry) : Option SpanSet :=
  (builtSet epoch e.1).map fun s =>
    ((stateAt epoch cfg calls e.2).stitch e.1.group.tx s e.1.now).1

section Release

variable {γ : Type}

/-- What a call can release, for the groups `parked` before it, the fetches it knows, and the
stitched set `s` of its own group. -/
inductive Release (parked : List (ParkedSet γ)) (fetches : VxidCache FetchInfo) (now : Time) (g : γ)
    (tx : Tx) (s : SpanSet) : Batch γ → Prop
  | degraded {p : ParkedSet γ} : p ∈ parked → Release parked fetches now g tx s (degradeRelease p)
  | linked {p : ParkedSet γ} {fetch : FetchInfo} : p ∈ parked →
      fetches.get p.vxid now = some fetch →
      Release parked fetches now g tx s (linkRelease fetch p)
  | own : Release parked fetches now g tx s ⟨g, s⟩
  | ownLinked {vxid : ℕ} {fetch : FetchInfo} : hitVxid tx = some vxid →
      fetches.get vxid now = some fetch →
      Release parked fetches now g tx s ⟨g, s.modifyTop (linkHit fetch)⟩
  | ownDegraded : Release parked fetches now g tx s ⟨g, s.modifyTop degrade⟩

/-- A parked group was parked before, or it is the one handed in. -/
inductive Parked (parked : List (ParkedSet γ)) (now : Time) (g : γ) (tx : Tx) (s : SpanSet) :
    ParkedSet γ → Prop
  | before {p : ParkedSet γ} : p ∈ parked → Parked parked now g tx s p
  | own {vxid : ℕ} : hitVxid tx = some vxid → Parked parked now g tx s ⟨g, vxid, s, now⟩

section Mono

variable {parked parked' : List (ParkedSet γ)} {fetches : VxidCache FetchInfo} {now : Time} {g : γ}
  {tx : Tx} {s : SpanSet}

/-- A release from fewer groups is one from more. -/
lemma Release.mono (hsub : parked ⊆ parked') {b : Batch γ}
    (h : Release parked fetches now g tx s b) : Release parked' fetches now g tx s b := by
  cases h with
  | degraded hp => exact .degraded (hsub hp)
  | linked hp hf => exact .linked (hsub hp) hf
  | own => exact .own
  | ownLinked hv hf => exact .ownLinked hv hf
  | ownDegraded => exact .ownDegraded

/-- A group that is parked among fewer is so among more. -/
lemma Parked.mono (hsub : parked ⊆ parked') {p : ParkedSet γ} (h : Parked parked now g tx s p) :
    Parked parked' now g tx s p := by
  cases h with
  | before hp => exact .before (hsub hp)
  | own hv => exact .own hv

end Mono

/-- What parking a group releases, and what is parked after it. -/
lemma park_mem (l : State γ) (g : γ) {tx : Tx} {vxid : ℕ} (hv : hitVxid tx = some vxid)
    (s : SpanSet) (now : Time) (fetches : VxidCache FetchInfo) :
    (∀ b ∈ (l.park g vxid s now).1, Release l.parked fetches now g tx s b) ∧
    (∀ p ∈ (l.park g vxid s now).2.parked, Parked l.parked now g tx s p) ∧
    (l.park g vxid s now).2.fetches = l.fetches ∧
    (l.park g vxid s now).2.restarts = l.restarts := by
  by_cases hroom : l.parked.length < l.cfg.maxParked
  · rw [park_of_room hroom]
    refine ⟨by simp, fun p hp => ?_, rfl, rfl⟩
    rcases List.mem_append.1 hp with hp | hp
    · exact .before hp
    · obtain rfl := List.mem_singleton.1 hp
      exact .own hv
  · cases hparked : l.parked with
    | nil =>
      have hpos := l.cfg.one_le_maxParked
      rw [hparked, List.length_nil] at hroom
      omega
    | cons oldest rest =>
      rw [park_of_full hparked (not_lt.1 hroom)]
      refine ⟨fun b hb => ?_, fun p hp => ?_, rfl, rfl⟩
      · obtain rfl := List.mem_singleton.1 hb
        exact .degraded List.mem_cons_self
      · rcases List.mem_append.1 hp with hp | hp
        · exact .before (List.mem_cons_of_mem _ hp)
        · obtain rfl := List.mem_singleton.1 hp
          exact .own hv

/-- Resolving the hit of the group handed in. -/
lemma resolveHit_mem (l : State γ) (g : γ) (tx : Tx) (s : SpanSet) (now : Time) :
    let r := l.resolveHit epoch g tx s now
    (∀ b ∈ r.1 ++ (r.2.1.map (Batch.mk g)).toList, Release l.parked l.fetches now g tx s b) ∧
    (∀ p ∈ r.2.2.parked, Parked l.parked now g tx s p) ∧
    r.2.2.fetches = l.fetches ∧ r.2.2.restarts = l.restarts := by
  unfold State.resolveHit
  cases hv : hitVxid tx with
  | none =>
    refine ⟨fun b hb => ?_, fun p hp => .before hp, rfl, rfl⟩
    obtain rfl : b = ⟨g, s⟩ := by simpa using hb
    exact .own
  | some vxid =>
    cases hf : l.fetches.get vxid now with
    | some fetch =>
      simp only [hf]
      refine ⟨fun b hb => ?_, fun p hp => .before hp, trivial, trivial⟩
      obtain rfl : b = ⟨g, s.modifyTop (linkHit fetch)⟩ := by simpa using hb
      exact .ownLinked hv hf
    | none =>
      simp only [hf]
      split_ifs
      · refine ⟨fun b hb => ?_, fun p hp => .before hp, rfl, rfl⟩
        obtain rfl : b = ⟨g, s.modifyTop degrade⟩ := by simpa using hb
        exact .ownDegraded
      · simpa using park_mem l g hv s now l.fetches

/-- The numbers that a group restarted as. -/
def restartVxids (tx : Tx) : List ℕ :=
  tx.records.filterMap fun r => (restartLink r).bind Text.parseUint

/-- The top span is recorded under all these numbers. -/
def setRestarts (c : VxidCache RestartInfo) (vxids : List ℕ) (top : Span) (now : Time) :
    VxidCache RestartInfo :=
  vxids.foldl (fun c vxid => c.set vxid ⟨top.traceID, top.spanID⟩ now) c

/-- The restarts that are recorded with a group. -/
lemma recordRestartLinks_eq (l : State γ) (tx : Tx) (top : Span) (now : Time) :
    (l.recordRestartLinks tx top now).restarts =
      setRestarts l.restarts (restartVxids tx) top now := by
  rw [setRestarts, restartVxids, List.foldl_filterMap]
  simp only [State.recordRestartLinks]
  congr 1
  funext c r
  cases (restartLink r).bind Text.parseUint <;> rfl

/-- What stitching makes of a group depends on the remembered restarts only. -/
lemma stitch_eq (l : State γ) (tx : Tx) (s : SpanSet) (now : Time) :
    (l.stitch tx s now).1 =
        (if isRestartContinuation tx then
          ((l.restarts.get tx.vxid now).map fun orig => reparentRestart orig s).getD s
        else s) ∧
      (l.stitch tx s now).2.restarts = l.restarts := by
  unfold State.stitch
  split_ifs
  · cases l.restarts.get tx.vxid now with
    | none => exact ⟨rfl, rfl⟩
    | some orig => exact ⟨rfl, rfl⟩
  · exact ⟨rfl, rfl⟩

/-- What `correlate` releases, and what is parked after it. -/
lemma correlate_mem (l : State γ) (g : γ) (tx : Tx) (s : SpanSet) (now : Time) :
    let s' := (l.stitch tx s now).1
    let fetches := setFetches l.fetches s'.spans now
    let r := l.correlate epoch g tx s now
    (∀ b ∈ r.1, Release l.parked fetches now g tx s' b) ∧
    (∀ p ∈ r.2.parked, Parked l.parked now g tx s' p) ∧
    r.2.fetches = fetches ∧
    r.2.restarts = setRestarts l.restarts (restartVxids tx) s'.top now := by
  intro s' fetches
  obtain ⟨hparked, -, -, hfetches⟩ := recorded_eq l tx s now
  have hrestarts : (l.recorded tx s now).restarts =
      setRestarts l.restarts (restartVxids tx) s'.top now := by
    have hkeep := (stitch_eq l tx s now).2
    exact (recordRestartLinks_eq _ tx s'.top now).trans
      (congrArg (fun r => setRestarts r (restartVxids tx) s'.top now) hkeep)
  have hsub : ((l.recorded tx s now).resolveParked now).2.parked ⊆ l.parked := fun p hp =>
    hparked ▸ (List.mem_filter.1 hp).1
  obtain ⟨hown, hkept, hfetches', hrestarts'⟩ :=
    resolveHit_mem epoch ((l.recorded tx s now).resolveParked now).2 g tx s' now
  have hknown : ((l.recorded tx s now).resolveParked now).2.fetches = fetches := hfetches
  rw [hknown] at hown
  refine ⟨fun b hb => ?_, fun p hp => (hkept p hp).mono hsub, hfetches'.trans hknown,
    hrestarts'.trans hrestarts⟩
  -- released from the lot, or for the group itself
  rcases List.mem_append.1 hb with hb | hb
  · rcases List.mem_append.1 hb with hb | hb
    · obtain ⟨p, hp, hresolve⟩ : ∃ p ∈ (l.recorded tx s now).parked,
          (l.recorded tx s now).resolve now p = some b := List.mem_filterMap.1 hb
      obtain ⟨fetch, hf, rfl⟩ := Option.map_eq_some_iff.1 hresolve
      rw [hparked] at hp
      rw [hfetches] at hf
      exact .linked hp hf
    · exact (hown b (List.mem_append_left _ hb)).mono hsub
  · exact (hown b (List.mem_append_right _ hb)).mono hsub

/-- **What a call on a group with spans releases, parks and records.** Groups that have waited too
long are released first, and what follows does not see them. -/
theorem build_fresh (l : State γ) (g : γ) {c : Call} {s : SpanSet}
    (hs : builtSet epoch c = some s) :
    let s' := (l.stitch c.group.tx s c.now).1
    let fetches := setFetches l.fetches s'.spans c.now
    let fresh := l.parked.filter fun p => !l.aged c.now p
    (∀ b ∈ (l.build epoch g c).1, (∃ p ∈ l.parked, b = degradeRelease p) ∨
      Release fresh fetches c.now g c.group.tx s' b) ∧
    (∀ p ∈ (l.build epoch g c).2.2.parked, Parked fresh c.now g c.group.tx s' p) ∧
    (l.build epoch g c).2.2.fetches = fetches ∧
    (l.build epoch g c).2.2.restarts =
      setRestarts l.restarts (restartVxids c.group.tx) s'.top c.now := by
  obtain ⟨hout, hl⟩ := l.build_of_some epoch g hs
  have hsame : ((l.releaseAgedParked c.now).2.stitch c.group.tx s c.now).1 =
      (l.stitch c.group.tx s c.now).1 :=
    (stitch_eq _ _ _ _).1.trans (stitch_eq l _ _ _).1.symm
  obtain ⟨hrelease, hparked, hfetches, hrestarts⟩ :=
    correlate_mem epoch (l.releaseAgedParked c.now).2 g c.group.tx s c.now
  rw [hsame] at hrelease hparked hfetches hrestarts
  rw [hout, hl]
  refine ⟨fun b hb => ?_, hparked, hfetches, hrestarts⟩
  rcases List.mem_append.1 hb with hb | hb
  · obtain ⟨p, hp, rfl⟩ := List.mem_map.1 hb
    exact .inl ⟨p, (List.mem_filter.1 hp).1, rfl⟩
  · exact .inr (hrelease b hb)

/-- The same, with the groups that were parked before. -/
theorem build_mem (l : State γ) (g : γ) {c : Call} {s : SpanSet}
    (hs : builtSet epoch c = some s) :
    let s' := (l.stitch c.group.tx s c.now).1
    let fetches := setFetches l.fetches s'.spans c.now
    (∀ b ∈ (l.build epoch g c).1, Release l.parked fetches c.now g c.group.tx s' b) ∧
    (∀ p ∈ (l.build epoch g c).2.2.parked, Parked l.parked c.now g c.group.tx s' p) ∧
    (l.build epoch g c).2.2.fetches = fetches ∧
    (l.build epoch g c).2.2.restarts =
      setRestarts l.restarts (restartVxids c.group.tx) s'.top c.now := by
  obtain ⟨hrelease, hparked, hrest⟩ := build_fresh epoch l g hs
  refine ⟨fun b hb => ?_, fun p hp => (hparked p hp).mono (List.filter_subset_self _), hrest⟩
  rcases hrelease b hb with ⟨p, hp, rfl⟩ | hfresh
  · exact .degraded hp
  · exact hfresh.mono (List.filter_subset_self _)

end Release

/-! ## One call of a run -/

section Calls

variable {epoch} {cfg : Config} {calls : List Call} {k : ℕ} {c : Call}

/-- A group without spans is not stitched. -/
lemma stitchedAt_eq_none {e : Entry} :
    stitchedAt epoch cfg calls e = none ↔ builtSpans epoch e.1 = [] := by
  rw [stitchedAt, Option.map_eq_none_iff, builtSet_eq_none]

/-- A call whose group has no spans only ages out parked groups. -/
lemma step_of_unbuilt (l : State Entry) {e : Entry} (hs : builtSpans epoch e.1 = []) :
    (∀ b ∈ (step epoch l e).1, ∃ p ∈ l.parked, b = degradeRelease p) ∧
    (step epoch l e).2.parked ⊆ l.parked ∧
    (step epoch l e).2.fetches = l.fetches ∧ (step epoch l e).2.restarts = l.restarts := by
  obtain ⟨hout, hl⟩ := l.build_of_none epoch e ((builtSet_eq_none epoch).2 hs)
  rw [step, hout, hl]
  refine ⟨fun b hb => ?_, fun p hp => (List.mem_filter.1 hp).1, rfl, rfl⟩
  obtain ⟨p, hp, rfl⟩ := List.mem_map.1 hb
  exact ⟨p, (List.mem_filter.1 hp).1, rfl⟩

/-- A call whose group is stitched to `s`. -/
lemma step_of_stitched {s : SpanSet} (hs : stitchedAt epoch cfg calls (c, k) = some s) :
    let l := stateAt epoch cfg calls k
    let fetches := setFetches l.fetches s.spans c.now
    (∀ b ∈ (step epoch l (c, k)).1, Release l.parked fetches c.now (c, k) c.group.tx s b) ∧
    (∀ p ∈ (step epoch l (c, k)).2.parked, Parked l.parked c.now (c, k) c.group.tx s p) ∧
    (step epoch l (c, k)).2.fetches = fetches ∧
    (step epoch l (c, k)).2.restarts =
      setRestarts l.restarts (restartVxids c.group.tx) s.top c.now := by
  obtain ⟨s₀, hs₀, rfl⟩ := Option.map_eq_some_iff.1 hs
  exact build_mem epoch (stateAt epoch cfg calls k) (c, k) hs₀

end Calls

/-! ## What is released for a group -/

/-- A span without its attributes and links. -/
def ident (sp : Span) : Span := { sp with attrs := [], links := [] }

/-- Spans with the same identity agree in what a link needs. -/
lemma same_of_ident {sp sp' : Span} (h : ident sp = ident sp') :
    sp.name = sp'.name ∧ sp.vxid = sp'.vxid ∧ fetchInfo sp = fetchInfo sp' := by
  have hname := congrArg Span.name h
  have hvxid := congrArg Span.vxid h
  have hinfo := congrArg fetchInfo h
  exact ⟨hname, hvxid, hinfo⟩

/-- A group of the run has a fetch span of transaction `v`, of which `info` is known. -/
def Fetched (cfg : Config) (calls : List Call) (v : ℕ) (info : FetchInfo) : Prop :=
  ∃ e ∈ calls.zipIdx, ∃ s, stitchedAt epoch cfg calls e = some s ∧
    ∃ f ∈ s.spans, f.name = .fetch ∧ f.vxid = v ∧ fetchInfo f = info

/-- What the group of `e` may be released as, once it is stitched to `s`. -/
inductive Emitted (cfg : Config) (calls : List Call) (e : Entry) (s : SpanSet) : SpanSet → Prop
  | plain : Emitted cfg calls e s s
  | degraded : Emitted cfg calls e s (s.modifyTop degrade)
  | linked {v : ℕ} {info : FetchInfo} : hitVxid e.1.group.tx = some v →
      Fetched epoch cfg calls v info → Emitted cfg calls e s (s.modifyTop (linkHit info))

/-- Everything released, parked and remembered before the call at position `k` comes from stitched
groups. -/
structure Coherent (cfg : Config) (calls : List Call) (k : ℕ) : Prop where
  /-- Each batch is what its group was stitched to, marked or not. -/
  released : ∀ b ∈ releasedBefore epoch cfg calls k, ∃ s,
    stitchedAt epoch cfg calls b.label = some s ∧ Emitted epoch cfg calls b.label s b.set
  /-- A parked group is kept as it was stitched, under the number it hit. -/
  parked : ∀ p ∈ (stateAt epoch cfg calls k).parked,
    stitchedAt epoch cfg calls p.label = some p.set ∧ hitVxid p.label.1.group.tx = some p.vxid
  /-- The fetches are those of stitched groups. -/
  fetches : ∀ v x, (stateAt epoch cfg calls k).fetches.items v = some x →
    Fetched epoch cfg calls v x.value

section Emitted

variable {epoch} {cfg : Config} {calls : List Call} {k : ℕ} {c : Call} {e : Entry} {s s' : SpanSet}

/-- A remembered fetch is the last one of its number that was just set, or it was there before. -/
lemma items_setFetches {f : VxidCache FetchInfo} {sps : List Span} {now : Time} {v : ℕ}
    {x : CacheEntry FetchInfo} (h : (setFetches f sps now).items v = some x) :
    (fetchesOf v sps = [] ∧ f.items v = some x) ∨
      ∃ sp, (fetchesOf v sps).getLast? = some sp ∧ x = ⟨fetchInfo sp, now⟩ := by
  induction sps generalizing f with
  | nil => exact .inl ⟨rfl, h⟩
  | cons sp sps ih =>
    rcases ih h with ⟨hnone, hold⟩ | ⟨sp', hlast, hx⟩
    · dsimp only at hold
      by_cases hown : sp.name = .fetch ∧ sp.vxid = v
      · have hcons : fetchesOf v (sp :: sps) = [sp] := by
          rw [fetchesOf_cons, if_pos hown, hnone]
        rw [if_pos hown.1] at hold
        rcases VxidCache.items_set hold with ⟨-, rfl⟩ | ⟨hne, -⟩
        · exact .inr ⟨sp, by rw [hcons, List.getLast?_singleton], rfl⟩
        · exact absurd hown.2.symm hne
      · have hcons : fetchesOf v (sp :: sps) = fetchesOf v sps := by
          rw [fetchesOf_cons, if_neg hown]
        refine .inl ⟨hcons.trans hnone, ?_⟩
        split_ifs at hold with hname
        · rcases VxidCache.items_set hold with ⟨hv, -⟩ | ⟨-, hold⟩
          · exact absurd ⟨hname, hv.symm⟩ hown
          · exact hold
        · exact hold
    · refine .inr ⟨sp', ?_, hx⟩
      rw [fetchesOf_cons]
      split_ifs
      · rw [List.getLast?_cons, hlast]
        rfl
      · exact hlast

/-- At the beginning. -/
lemma Coherent.zero : Coherent epoch cfg calls 0 where
  released := by simp [releasedBefore, runNew]
  parked := by simp [stateAt, runNew, new]
  fetches := by simp [stateAt, runNew, new, VxidCache.new]

/-- After a group without spans. -/
lemma Coherent.succ_of_unbuilt (h : Coherent epoch cfg calls k) (hc : calls[k]? = some c)
    (hs : builtSpans epoch c = []) : Coherent epoch cfg calls (k + 1) := by
  have hs' : builtSpans epoch ((c, k) : Entry).1 = [] := hs
  obtain ⟨hout, hparked, hfetches, -⟩ := step_of_unbuilt (stateAt epoch cfg calls k) hs'
  refine ⟨fun b hb => ?_, fun p hp => ?_, fun v x hx => ?_⟩
  · rw [releasedBefore_succ epoch hc] at hb
    rcases List.mem_append.1 hb with hb | hb
    · exact h.released b hb
    · obtain ⟨p, hp, rfl⟩ := hout b hb
      exact ⟨p.set, (h.parked p hp).1, .degraded⟩
  · rw [stateAt_succ epoch hc] at hp
    exact h.parked p (hparked hp)
  · rw [stateAt_succ epoch hc, hfetches] at hx
    exact h.fetches v x hx

/-- What is known after a call whose group is stitched to `s`. -/
lemma Coherent.fetched (h : Coherent epoch cfg calls k) (hc : calls[k]? = some c)
    (hs : stitchedAt epoch cfg calls (c, k) = some s) {v : ℕ} {x : CacheEntry FetchInfo}
    (hx : (setFetches (stateAt epoch cfg calls k).fetches s.spans c.now).items v = some x) :
    Fetched epoch cfg calls v x.value := by
  rcases items_setFetches hx with ⟨-, hold⟩ | ⟨f, hlast, rfl⟩
  · exact h.fetches v x hold
  · obtain ⟨hf, hfetch⟩ := List.mem_filter.1 (List.mem_of_getLast? hlast)
    obtain ⟨hname, hv⟩ := of_decide_eq_true hfetch
    exact ⟨(c, k), List.mem_zipIdx_iff_getElem?.2 hc, s, hs, f, hf, hname, hv, rfl⟩

/-- After a group with spans. -/
lemma Coherent.succ_of_stitched (h : Coherent epoch cfg calls k) (hc : calls[k]? = some c)
    (hs : stitchedAt epoch cfg calls (c, k) = some s) : Coherent epoch cfg calls (k + 1) := by
  obtain ⟨hout, hparked, hfetches, -⟩ := step_of_stitched hs
  refine ⟨fun b hb => ?_, fun p hp => ?_, fun v x hx => ?_⟩
  · rw [releasedBefore_succ epoch hc] at hb
    rcases List.mem_append.1 hb with hb | hb
    · exact h.released b hb
    cases hout b hb with
    | degraded hp => exact ⟨_, (h.parked _ hp).1, .degraded⟩
    | linked hp hf =>
      obtain ⟨t, ht, -⟩ := VxidCache.items_of_get hf
      obtain ⟨hset, hhit⟩ := h.parked _ hp
      exact ⟨_, hset, .linked hhit (h.fetched hc hs ht)⟩
    | own => exact ⟨s, hs, .plain⟩
    | ownLinked hv hf =>
      obtain ⟨t, ht, -⟩ := VxidCache.items_of_get hf
      exact ⟨s, hs, .linked hv (h.fetched hc hs ht)⟩
    | ownDegraded => exact ⟨s, hs, .degraded⟩
  · rw [stateAt_succ epoch hc] at hp
    cases hparked p hp with
    | before hp => exact h.parked p hp
    | own hv => exact ⟨hs, hv⟩
  · rw [stateAt_succ epoch hc, hfetches] at hx
    exact h.fetched hc hs hx

/-- **At every call** all that was released or is parked goes back to a call. -/
lemma coherent (hk : k ≤ calls.length) : Coherent epoch cfg calls k := by
  refine stateAt_induction .zero (fun k c hc h => ?_) k hk
  cases hs : stitchedAt epoch cfg calls (c, k) with
  | none => exact h.succ_of_unbuilt hc (stitchedAt_eq_none.1 hs)
  | some s => exact h.succ_of_stitched hc hs

/-- **What is released for a group** is what it was stitched to, at most with a mark on its top
span. A link on it leads to a fetch span of a stitched group. -/
theorem released_settled {b : Batch Entry} (hb : b ∈ released epoch cfg calls) :
    ∃ s, stitchedAt epoch cfg calls b.label = some s ∧ Emitted epoch cfg calls b.label s b.set := by
  have h : Coherent epoch cfg calls calls.length := coherent le_rfl
  rcases List.mem_append.1 hb with hb | hb
  · refine h.released b ?_
    rwa [releasedBefore, List.take_length]
  · obtain ⟨p, hp, rfl⟩ := List.mem_map.1 hb
    refine ⟨p.set, (h.parked p ?_).1, .degraded⟩
    rwa [stateAt, List.take_length]

/-- What was released has the identities of what was stitched. -/
lemma Emitted.map_ident (h : Emitted epoch cfg calls e s s') :
    s'.spans.map ident = s.spans.map ident := by
  cases h <;> rfl

/-- The ids of the request are as they were stitched. -/
lemma Emitted.top_ids (h : Emitted epoch cfg calls e s s') :
    s'.top.spanID = s.top.spanID ∧ s'.top.parentID = s.top.parentID := by
  cases h <;> exact ⟨rfl, rfl⟩

/-- Each span that is released is one of the stitched group, up to attributes and links. -/
lemma Emitted.ident_mem (h : Emitted epoch cfg calls e s s') {sp : Span} (hsp : sp ∈ s'.spans) :
    ∃ sp₀ ∈ s.spans, ident sp₀ = ident sp :=
  List.mem_map.1 (h.map_ident ▸ List.mem_map_of_mem hsp)

/-- A stitched span was released. -/
lemma Emitted.mem_ident (h : Emitted epoch cfg calls e s s') {sp : Span} (hsp : sp ∈ s.spans) :
    ∃ sp' ∈ s'.spans, ident sp' = ident sp :=
  List.mem_map.1 (h.map_ident.symm ▸ List.mem_map_of_mem hsp)

/-- A stitched group was built, and moved under another group at most. -/
lemma exists_built (hs : stitchedAt epoch cfg calls e = some s) :
    ∃ s₀ n, builtSpans epoch e.1 = s₀.spans ∧ Stitched e.1.group.tx s₀ s n := by
  obtain ⟨s₀, hs₀, rfl⟩ := Option.map_eq_some_iff.1 hs
  obtain ⟨n, hst, -⟩ := stitch_accounts (stateAt epoch cfg calls e.2) e.1.group.tx s₀ e.1.now
  exact ⟨s₀, n, (builtSet_eq_some epoch).1 hs₀, hst⟩

/-- Stitching adds no links. -/
lemma links_reparentRestart (orig : RestartInfo) (hnone : ∀ sp ∈ s.spans, sp.links = []) :
    ∀ sp ∈ (reparentRestart orig s).spans, sp.links = [] := by
  intro sp hsp
  rcases List.mem_cons.1 hsp with rfl | hsp
  · exact hnone s.top List.mem_cons_self
  · obtain ⟨sp₀, hsp₀, rfl⟩ := List.mem_map.1 hsp
    have hbelow := hnone sp₀ (List.mem_cons_of_mem _ hsp₀)
    split_ifs
    · exact hbelow
    · exact hbelow

/-- Stitching makes no links. -/
lemma links_of_stitched (hs : stitchedAt epoch cfg calls e = some s) :
    ∀ sp ∈ s.spans, sp.links = [] := by
  obtain ⟨s₀, n, hbuilt, hst⟩ := exists_built hs
  have hnone : ∀ sp ∈ s₀.spans, sp.links = [] := by
    rw [← hbuilt]
    exact fun sp hsp => (buildWithOutcome_unmarked epoch _ _ sp hsp).1
  cases hst with
  | fresh _ => exact hnone
  | under orig _ => exact links_reparentRestart orig hnone
  | lost _ => exact hnone

/-- A degraded group has no links. -/
lemma links_degrade (hnone : ∀ sp ∈ s.spans, sp.links = []) :
    ∀ sp ∈ (s.modifyTop degrade).spans, sp.links = [] := by
  intro sp hsp
  rcases List.mem_cons.1 hsp with rfl | hsp
  · exact hnone s.top List.mem_cons_self
  · exact hnone sp (List.mem_cons_of_mem _ hsp)

/-- A linked group has one link. -/
lemma links_linkHit (hnone : ∀ sp ∈ s.spans, sp.links = []) {info : FetchInfo} {sp : Span}
    (hsp : sp ∈ (s.modifyTop (linkHit info)).spans) {lk : Link} (hlk : lk ∈ sp.links) :
    lk = originLink info := by
  rcases List.mem_cons.1 hsp with rfl | hsp
  · have hmem : lk ∈ s.top.links ++ [originLink info] := hlk
    rw [hnone s.top List.mem_cons_self, List.nil_append] at hmem
    exact List.mem_singleton.1 hmem
  · rw [hnone sp (List.mem_cons_of_mem _ hsp)] at hlk
    exact absurd hlk List.not_mem_nil

/-- A link that is released is that to the fetch that the group hit. -/
lemma Emitted.link (h : Emitted epoch cfg calls e s s') (hs : stitchedAt epoch cfg calls e = some s)
    {sp : Span} (hsp : sp ∈ s'.spans) {lk : Link} (hlk : lk ∈ sp.links) :
    ∃ v info, hitVxid e.1.group.tx = some v ∧ Fetched epoch cfg calls v info ∧
      lk = originLink info := by
  have hnone := links_of_stitched hs
  cases h with
  | plain => exact absurd (hnone sp hsp ▸ hlk) List.not_mem_nil
  | degraded => exact absurd (links_degrade hnone sp hsp ▸ hlk) List.not_mem_nil
  | linked hv hf => exact ⟨_, _, hv, hf, links_linkHit hnone hsp hlk⟩

end Emitted

end CloudVinyl.Linker
