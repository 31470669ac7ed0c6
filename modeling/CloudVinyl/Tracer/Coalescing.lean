import CloudVinyl.Tracer.Verdicts

set_option relaxedAutoImplicit false
set_option autoImplicit false

/-!
# Coalescing does not depend on the order of emission

A waiter is a hit on an object whose fetch was still in flight. Its group and the group of the
initiator, which carries that fetch, arrive in either order. While the caches and the lot have
room and no clock reading is too far from another, the waiter is linked to the fetch in both
orders, with the same flag.

The invariant of the run (`Linker.Race.Phase`) says what the linker knows after each call: the
fetch is known exactly if the initiator was seen; a waiter seen before it is in the lot, and a
waiter seen as well as the initiator has been released with its link.

## Main definitions

* `Linker.Waiter`, `Linker.Initiator` — the two groups.
* `Linker.Calm` — room in the caches and the lot, and clock readings close to each other.

## Main results

* `Linker.setFetches_roomy` — with room, the cache answers with the last fetch recorded.
* `Linker.coalescing_order_irrelevant` — both orders give the same link and the same flag.
-/

namespace CloudVinyl.Linker

open Vsl Spans

/-! ## Recorded fetches -/

/-- The spans of a list that are fetches of transaction `v`. -/
def fetchesOf (v : ℕ) (sps : List Span) : List Span :=
  sps.filter fun sp => sp.name = .fetch ∧ sp.vxid = v

/-- The fetches of a transaction, from the first span on. -/
lemma fetchesOf_cons (v : ℕ) (sp : Span) (sps : List Span) :
    fetchesOf v (sp :: sps) =
      if sp.name = .fetch ∧ sp.vxid = v then sp :: fetchesOf v sps else fetchesOf v sps := by
  rw [fetchesOf, List.filter_cons]
  simp only [decide_eq_true_eq]
  rfl

/-- The number of fetch spans of a list. -/
def fetchCount (sps : List Span) : ℕ := sps.countP fun sp => sp.name = .fetch

/-- The fetches are those of transaction `v` and those of others. -/
lemma fetchCount_eq_add (v : ℕ) (sps : List Span) :
    fetchCount sps =
      (sps.countP fun sp => sp.name = .fetch ∧ sp.vxid ≠ v) + (fetchesOf v sps).length := by
  rw [fetchCount, fetchesOf, ← List.countP_eq_length_filter]
  induction sps with
  | nil => rfl
  | cons sp sps ih =>
    rw [List.countP_cons, List.countP_cons, List.countP_cons, ih]
    by_cases hn : sp.name = .fetch <;> by_cases hv : sp.vxid = v <;> simp [hn, hv] <;> omega

/-- The number of fetches in two lists. -/
lemma fetchCount_append (sps sps' : List Span) :
    fetchCount (sps ++ sps') = fetchCount sps + fetchCount sps' := List.countP_append

/-- While there is room for all of them, recording fetches keeps what was there, and a
transaction reads back as the last fetch recorded for it.

**Proof sketch.** Induction on the spans; a fetch span takes up the room of one more key
(`VxidCache.Roomy.set`) and is read back until it is set again (`get_set_of_roomy`). -/
lemma setFetches_roomy {S : Set Time} {now : Time} (hnow : now ∈ S) (sps : List Span) :
    ∀ {c : VxidCache FetchInfo} {n : ℕ}, c.Roomy S n → (∀ t ∈ S, ∀ t' ∈ S, t - t' ≤ c.ttl) →
      ((n + fetchCount sps : ℕ) : ℤ) ≤ c.capacity →
      (setFetches c sps now).Roomy S (n + fetchCount sps) ∧
      (setFetches c sps now).ttl = c.ttl ∧ (setFetches c sps now).capacity = c.capacity ∧
      ∀ v, ∀ t ∈ S, (setFetches c sps now).get v t =
        ((fetchesOf v sps).getLast?.map fetchInfo).or (c.get v t) := by
  induction sps with
  | nil =>
    intro c n h _ _
    exact ⟨h, rfl, rfl, fun v t _ => rfl⟩
  | cons sp sps ih =>
    intro c n h hS hcap
    by_cases hsp : sp.name = .fetch
    · have hcount : n + fetchCount (sp :: sps) = n + 1 + fetchCount sps := by
        simp only [fetchCount, List.countP_cons, hsp, decide_true, if_true]
        omega
      rw [hcount] at hcap ⊢
      have hn : (n : ℤ) < c.capacity := by omega
      have hset := h.set (fun t ht => hS now hnow t ht) hnow hn sp.vxid (fetchInfo sp)
      have hfold : setFetches c (sp :: sps) now =
          setFetches (c.set sp.vxid (fetchInfo sp) now) sps now := by
        simp [setFetches, hsp]
      obtain ⟨hr, httl, hc, hget⟩ := ih hset (by simpa using hS) (by simpa using hcap)
      refine ⟨hfold ▸ hr, ?_, ?_, fun v t ht => ?_⟩
      · rw [hfold, httl, VxidCache.ttl_set]
      · rw [hfold, hc, VxidCache.capacity_set]
      · rw [hfold, hget v t ht, VxidCache.get_set_of_roomy h (fun t ht => hS now hnow t ht) hn
          sp.vxid (fetchInfo sp) v (hS t ht now hnow)]
        by_cases hv : v = sp.vxid
        · have hof : fetchesOf v (sp :: sps) = sp :: fetchesOf v sps := by
            rw [fetchesOf_cons, if_pos ⟨hsp, hv.symm⟩]
          rw [if_pos hv, hof, List.getLast?_cons]
          cases (fetchesOf v sps).getLast? <;> rfl
        · have hof : fetchesOf v (sp :: sps) = fetchesOf v sps := by
            rw [fetchesOf_cons, if_neg fun hown => hv hown.2.symm]
          rw [if_neg hv, hof]
    · have hfold : setFetches c (sp :: sps) now = setFetches c sps now := by
        simp [setFetches, hsp]
      have hcount : fetchCount (sp :: sps) = fetchCount sps := by simp [fetchCount, hsp]
      have hof : ∀ v, fetchesOf v (sp :: sps) = fetchesOf v sps := by
        intro v
        rw [fetchesOf_cons, if_neg fun hown => hsp hown.1]
      simp only [hfold, hcount, hof] at hcap ⊢
      exact ih h hS hcap

/-- Which transactions a list of spans fetches depends on their cores only. -/
lemma map_core_fetchesOf (v : ℕ) (sps : List Span) :
    (fetchesOf v sps).map core = fetchesOf v (sps.map core) := by
  rw [fetchesOf, fetchesOf, List.filter_map]
  rfl

/-- The fields that the linker sets do not count. -/
lemma fetchCount_map_core (sps : List Span) : fetchCount (sps.map core) = fetchCount sps := by
  rw [fetchCount, fetchCount, List.countP_map]
  rfl

/-- Stitching adds no fetch of a transaction. -/
lemma Stitched.fetchesOf_eq_nil {tx : Tx} {s s' : SpanSet} {k v : ℕ} (h : Stitched tx s s' k)
    (hs : fetchesOf v s.spans = []) : fetchesOf v s'.spans = [] := by
  have hcore : fetchesOf v (s'.spans.map core) = fetchesOf v (s.spans.map core) :=
    congrArg (fetchesOf v) h.core_eq
  rw [← map_core_fetchesOf, ← map_core_fetchesOf, hs] at hcore
  exact List.map_eq_nil_iff.1 hcore

/-- Stitching keeps the number of fetches. -/
lemma Stitched.fetchCount_eq {tx : Tx} {s s' : SpanSet} {k : ℕ} (h : Stitched tx s s' k) :
    fetchCount s'.spans = fetchCount s.spans := by
  rw [← fetchCount_map_core, ← fetchCount_map_core s.spans]
  exact congrArg fetchCount h.core_eq

/-- Stitching keeps the start of the request. -/
lemma Stitched.startTime_eq {tx : Tx} {s s' : SpanSet} {k : ℕ} (h : Stitched tx s s' k) :
    s'.top.startTime = s.top.startTime := by
  cases h <;> rfl

/-! ## What a call does when nothing ages -/

section Correlate

variable {γ : Type} (epoch : Text → Option Time)

/-- Nothing is released by age while every parked group is young enough. -/
lemma releaseAgedParked_of_young {l : State γ} {now : Time}
    (h : ∀ p ∈ l.parked, now - p.arrivedAt ≤ l.cfg.ageLimit) :
    l.releaseAgedParked now = ([], l) := by
  have haged : l.parked.filter (l.aged now) = [] := by
    refine List.filter_eq_nil_iff.2 fun p hp => ?_
    simpa [State.aged] using h p hp
  have hkept : l.parked.filter (fun p => !l.aged now p) = l.parked := by
    refine List.filter_eq_self.2 fun p hp => ?_
    simpa [State.aged] using h p hp
  simp [State.releaseAgedParked, haged, hkept]

/-- The state after the group handed in was stitched and recorded. -/
def State.recorded (l : State γ) (tx : Tx) (s : SpanSet) (now : Time) : State γ :=
  (l.stitch tx s now).2.record tx (l.stitch tx s now).1 now

/-- Recording a group changes the caches only. -/
lemma recorded_eq (l : State γ) (tx : Tx) (s : SpanSet) (now : Time) :
    (l.recorded tx s now).parked = l.parked ∧
    (l.recorded tx s now).hitsParked = l.hitsParked ∧ (l.recorded tx s now).cfg = l.cfg ∧
    (l.recorded tx s now).fetches =
      setFetches l.fetches (l.stitch tx s now).1.spans now := by
  have h : (l.stitch tx s now).2.parked = l.parked ∧
      (l.stitch tx s now).2.hitsParked = l.hitsParked ∧
      (l.stitch tx s now).2.cfg = l.cfg ∧ (l.stitch tx s now).2.fetches = l.fetches := by
    unfold State.stitch
    split_ifs
    · split <;> exact ⟨rfl, rfl, rfl, rfl⟩
    · exact ⟨rfl, rfl, rfl, rfl⟩
  obtain ⟨hp, hh, hc, hf⟩ := h
  exact ⟨hp, hh, hc, by rw [← hf]; rfl⟩

/-- Parking a group counts it and leaves the caches alone. -/
lemma park_eq (l : State γ) (g : γ) (vxid : ℕ) (s : SpanSet) (now : Time) :
    (l.park g vxid s now).2.fetches = l.fetches ∧
    (l.park g vxid s now).2.hitsParked = l.hitsParked + 1 := by
  unfold State.park
  split
  · split_ifs <;> exact ⟨rfl, rfl⟩
  · exact ⟨rfl, rfl⟩

/-- With room in the lot, a group that is parked joins those that are there. -/
lemma parked_park {l : State γ} (hroom : l.parked.length < l.cfg.maxParked) (g : γ) (vxid : ℕ)
    (s : SpanSet) (now : Time) :
    (l.park g vxid s now).2.parked = l.parked ++ [⟨g, vxid, s, now⟩] := by
  rw [park_of_room hroom]

/-- Resolving the group's own hit leaves the lot alone, or parks the group. -/
lemma resolveHit_cases (l : State γ) (g : γ) (tx : Tx) (s : SpanSet) (now : Time) :
    (l.resolveHit epoch g tx s now).2.2.fetches = l.fetches ∧
    ((l.resolveHit epoch g tx s now).2.2.parked = l.parked ∨
      ∃ v, (l.resolveHit epoch g tx s now).2.2 = (l.park g v s now).2) := by
  unfold State.resolveHit
  split
  · exact ⟨rfl, .inl rfl⟩
  · split
    · exact ⟨rfl, .inl rfl⟩
    · split_ifs
      · exact ⟨rfl, .inl rfl⟩
      · exact ⟨(park_eq l g _ s now).1, .inr ⟨_, rfl⟩⟩

/-- A waiter whose fetch is not known is parked. -/
lemma resolveHit_of_waiter (l : State γ) (g : γ) {tx : Tx} {v : ℕ} {now : Time}
    (hv : hitVxid tx = some v) (hf : l.fetches.get v now = none)
    (hw : (tx.timestamp epoch "Waitinglist").isSome) (s : SpanSet) :
    l.resolveHit epoch g tx s now =
      ((l.park g v s now).1, none, (l.park g v s now).2) := by
  have hwait : ¬ (tx.timestamp epoch "Waitinglist").isNone = true := by
    rw [← Option.not_isSome, hw]
    exact Bool.false_ne_true
  simp only [State.resolveHit, hv, hf]
  exact if_neg hwait

variable {l : State γ} {g : γ} {tx : Tx} {s : SpanSet} {now : Time}

/-- `correlate`: the group is recorded, the waiting ones are resolved, and then the group itself. -/
lemma correlate_eq : l.correlate epoch g tx s now =
    let r := ((l.recorded tx s now).resolveParked now).2.resolveHit epoch g tx
      (l.stitch tx s now).1 now
    (((l.recorded tx s now).resolveParked now).1 ++ r.1 ++ (r.2.1.map (Batch.mk g)).toList,
      r.2.2) := rfl

/-- The fetches that are known after a group are those that were recorded with it. -/
lemma correlate_fetches :
    (l.correlate epoch g tx s now).2.fetches = (l.recorded tx s now).fetches := by
  rw [correlate_eq]
  exact (resolveHit_cases epoch _ g tx _ now).1

/-- A parked group whose fetch is known is released with its link. -/
lemma linkRelease_mem_correlate {p : ParkedSet γ} (hp : p ∈ l.parked) {fetch : FetchInfo}
    (hf : (l.recorded tx s now).fetches.get p.vxid now = some fetch) :
    linkRelease fetch p ∈ (l.correlate epoch g tx s now).1 := by
  rw [correlate_eq]
  refine List.mem_append_left _ (List.mem_append_left _ (List.mem_filterMap.2 ⟨p, ?_, ?_⟩))
  · rwa [(recorded_eq l tx s now).1]
  · simp [State.resolve, hf, linkRelease]

/-- The room a call needs if it parks its group. -/
lemma room_of_park (v : ℕ) (hroom : (((l.recorded tx s now).resolveParked now).2.park g v
      (l.stitch tx s now).1 now).2.hitsParked = l.hitsParked + 1 →
      l.parked.length < l.cfg.maxParked) :
    ((l.recorded tx s now).resolveParked now).2.parked.length <
      ((l.recorded tx s now).resolveParked now).2.cfg.maxParked := by
  obtain ⟨hp, hh, hc, -⟩ := recorded_eq l tx s now
  have hlt := hroom (by rw [(park_eq _ g v _ now).2]; exact congrArg (· + 1) hh)
  have hle : ((l.recorded tx s now).resolveParked now).2.parked.length ≤ l.parked.length := by
    rw [← hp]
    exact List.length_filter_le _ _
  have hcfg : ((l.recorded tx s now).resolveParked now).2.cfg = l.cfg := hc
  rw [hcfg]
  omega

/-- A parked group whose fetch is not known stays, unless another group takes its place. -/
lemma mem_parked_correlate {p : ParkedSet γ} (hp : p ∈ l.parked)
    (hf : (l.recorded tx s now).fetches.get p.vxid now = none)
    (hroom : (l.correlate epoch g tx s now).2.hitsParked = l.hitsParked + 1 →
      l.parked.length < l.cfg.maxParked) :
    p ∈ (l.correlate epoch g tx s now).2.parked := by
  have hkept : p ∈ ((l.recorded tx s now).resolveParked now).2.parked := by
    refine List.mem_filter.2 ⟨?_, by simp [State.resolve, hf]⟩
    rwa [(recorded_eq l tx s now).1]
  rw [correlate_eq] at hroom ⊢
  rcases (resolveHit_cases epoch ((l.recorded tx s now).resolveParked now).2 g tx
    (l.stitch tx s now).1 now).2 with h | ⟨v, h⟩
  · exact h ▸ hkept
  · simp only [h] at hroom ⊢
    rw [parked_park (room_of_park v hroom)]
    exact List.mem_append_left _ hkept

/-- A hit on a known fetch is released at once. -/
lemma own_mem_correlate {v : ℕ} (hv : hitVxid tx = some v) {fetch : FetchInfo}
    (hf : (l.recorded tx s now).fetches.get v now = some fetch) :
    ⟨g, (l.stitch tx s now).1.modifyTop (linkHit fetch)⟩ ∈ (l.correlate epoch g tx s now).1 := by
  have hf' : ((l.recorded tx s now).resolveParked now).2.fetches.get v now = some fetch := hf
  simp [correlate_eq, State.resolveHit, hv, hf']

/-- A waiter whose fetch is not known is parked. -/
lemma own_mem_parked_correlate {v : ℕ} (hv : hitVxid tx = some v)
    (hf : (l.recorded tx s now).fetches.get v now = none)
    (hw : (tx.timestamp epoch "Waitinglist").isSome)
    (hroom : (l.correlate epoch g tx s now).2.hitsParked = l.hitsParked + 1 →
      l.parked.length < l.cfg.maxParked) :
    ⟨g, v, (l.stitch tx s now).1, now⟩ ∈ (l.correlate epoch g tx s now).2.parked := by
  have hpark : (l.correlate epoch g tx s now).2 =
      (((l.recorded tx s now).resolveParked now).2.park g v (l.stitch tx s now).1 now).2 := by
    rw [correlate_eq]
    exact congrArg (fun r => r.2.2)
      (resolveHit_of_waiter epoch ((l.recorded tx s now).resolveParked now).2 g hv hf hw _)
  rw [hpark] at hroom ⊢
  rw [parked_park (room_of_park v hroom)]
  exact List.mem_append_right _ (List.mem_singleton_self _)

end Correlate

/-! ## The race -/

section Race

variable (epoch : Text → Option Time)

/-- The spans built for a group. -/
def Group.built (g : Group) : List Span := (buildWithOutcome epoch g.tx g.ids).1

/-- A hit on transaction `v` that waited for its fetch, with its own spans `s`. -/
structure Waiter (g : Group) (v : ℕ) (s : SpanSet) : Prop where
  built : g.built epoch = s.spans
  hit : hitVxid g.tx = some v
  waited : (g.tx.timestamp epoch "Waitinglist").isSome
  own : fetchesOf v (g.built epoch) = []

/-- A group, not a restart continuation, with exactly one fetch span of transaction `v`. -/
structure Initiator (g : Group) (v : ℕ) (fetch : Span) : Prop where
  first : isRestartContinuation g.tx = false
  built : fetchesOf v (g.built epoch) = [fetch]

/-- A run in which nothing gets lost to age or lack of room: all clock readings lie within the
age limit and the ttl of each other, fewer than `capacity` fetch spans of other transactions
than `v` are built, and fewer than `maxParked` groups other than that of call `i` are parked. -/
structure Calm (cfg : Config) (v : ℕ) (calls : List Call) (i : ℕ) : Prop where
  age : ∀ c ∈ calls, ∀ c' ∈ calls, c.now - c'.now ≤ cfg.ageLimit
  ttl : ∀ c ∈ calls, ∀ c' ∈ calls, c.now - c'.now ≤ cfg.ttl
  capacity : (((calls.flatMap (builtSpans epoch)).countP fun sp =>
    sp.name = .fetch ∧ sp.vxid ≠ v : ℕ) : ℤ) < cfg.capacity
  parked : ((runNew epoch cfg calls).1.countP fun ev =>
    withheld epoch ev && ev.1.2 ≠ i) < cfg.maxParked

/-- A calm run on the waiter `w`, the initiator `q` and other groups, in any order. -/
structure Scene (cfg : Config) (v : ℕ) (s : SpanSet) (fetch : Span) (calls : List Call)
    (w q : Entry) (others : List Entry) : Prop where
  perm : calls.zipIdx.Perm (w :: q :: others)
  waiter : Waiter epoch w.1.group v s
  initiator : Initiator epoch q.1.group v fetch
  others : ∀ e ∈ others, fetchesOf v (builtSpans epoch e.1) = []
  calm : Calm epoch cfg v calls w.2

variable {epoch} {cfg : Config} {v : ℕ} {s : SpanSet} {fetch : Span} {calls : List Call}
  {w q : Entry} {others : List Entry}

namespace Scene

/-- The clock readings of the run. -/
def times (calls : List Call) : Set Time := {t | ∃ c ∈ calls, c.now = t}

/-- What has a position among the calls is one of them. -/
lemma mem_calls {e : Entry} (he : e ∈ calls.zipIdx) : e.1 ∈ calls :=
  List.fst_mem_of_mem_zipIdx he

variable (h : Scene epoch cfg v s fetch calls w q others)

include h

/-- Only the initiator fetches transaction `v`. -/
lemma fetchesOf_eq {e : Entry} (he : e ∈ calls.zipIdx) (hq : e ≠ q) :
    fetchesOf v (builtSpans epoch e.1) = [] := by
  rcases List.mem_cons.1 (h.perm.subset he) with rfl | he
  · exact h.waiter.own
  · rcases List.mem_cons.1 he with rfl | he
    · exact absurd rfl hq
    · exact h.others e he

/-- The caches have room for every fetch of the run. -/
lemma fetchCount_le : ((fetchCount (calls.flatMap (builtSpans epoch)) : ℕ) : ℤ) ≤ cfg.capacity := by
  have hone : (fetchesOf v (calls.flatMap (builtSpans epoch))).length = 1 := by
    have hcalls : calls.flatMap (builtSpans epoch) =
        calls.zipIdx.flatMap fun e => builtSpans epoch e.1 := by
      conv_lhs => rw [← List.zipIdx_map_fst 0 calls, List.flatMap_map]
    have hothers : (others.flatMap fun e => fetchesOf v (builtSpans epoch e.1)) = [] :=
      List.flatMap_eq_nil_iff.2 h.others
    have hw : fetchesOf v (builtSpans epoch w.1) = [] := h.waiter.own
    have hq : fetchesOf v (builtSpans epoch q.1) = [fetch] := h.initiator.built
    rw [hcalls, fetchesOf, List.filter_flatMap]
    change (calls.zipIdx.flatMap fun e => fetchesOf v (builtSpans epoch e.1)).length = 1
    rw [(h.perm.flatMap_right _).length_eq]
    simp [hw, hq, hothers]
  have hlt := h.calm.capacity
  rw [fetchCount_eq_add v, hone]
  push_cast
  omega

/-- The waiter is not the initiator: it builds no fetch of transaction `v`. -/
lemma waiter_ne : w ≠ q := by
  rintro rfl
  have hnone := h.waiter.own
  rw [h.initiator.built] at hnone
  simp at hnone

end Scene

/-- A group that stands for the waiter: fresh, and begun when the waiter began. -/
structure Settled (s s' : SpanSet) : Prop where
  fresh : Fresh s'
  start : s'.top.startTime = s.top.startTime

/-- Stitching the waiter leaves it fresh and its start as it was. -/
lemma Scene.settled_stitch (h : Scene epoch cfg v s fetch calls w q others) (l : State Entry)
    {s₀ : SpanSet} (hs : builtSet epoch w.1 = some s₀) :
    Settled s (l.stitch w.1.group.tx s₀ w.1.now).1 := by
  obtain ⟨k, hst, -⟩ := stitch_accounts l w.1.group.tx s₀ w.1.now
  have hspans : s₀.spans = s.spans :=
    ((builtSet_eq_some epoch).1 hs).symm.trans h.waiter.built
  exact ⟨hst.fresh_of_unmarked (builtSet_unmarked epoch hs), hst.startTime_eq.trans
    (congrArg (fun sps => (sps.headD s.top).startTime) hspans)⟩

variable (epoch cfg v s fetch calls w q) in
/-- What the linker knows and holds after the calls of a history. -/
structure Phase (history : List (Entry × List (Batch Entry))) (l : State Entry) : Prop where
  counted : Counted epoch history l
  lot : l.parked.length ≤ l.hitsParked
  cfg_eq : l.cfg = cfg
  ttl_eq : l.fetches.ttl = cfg.ttl
  capacity_eq : l.fetches.capacity = cfg.capacity
  roomy : l.fetches.Roomy (Scene.times calls)
    (fetchCount (history.flatMap fun ev => builtSpans epoch ev.1.1))
  known : q ∈ history.map Prod.fst → ∀ t ∈ Scene.times calls,
    l.fetches.get v t = some (fetchInfo fetch)
  unknown : q ∉ history.map Prod.fst → ∀ t ∈ Scene.times calls, l.fetches.get v t = none
  arrived : ∀ p ∈ l.parked, p.arrivedAt ∈ Scene.times calls
  waiting : w ∈ history.map Prod.fst → q ∉ history.map Prod.fst →
    ∃ p ∈ l.parked, p.label = w ∧ p.vxid = v ∧ Settled s p.set
  done : w ∈ history.map Prod.fst → q ∈ history.map Prod.fst →
    ∃ s', Settled s s' ∧
      (⟨w, s'.modifyTop (linkHit (fetchInfo fetch))⟩ : Batch Entry) ∈ history.flatMap Prod.snd

/-- A step adds to the lot at most what it parks. -/
lemma Accounts.lot {γ : Type} {l l' : State γ} {m : Moves γ} {own : Multiset (Batch γ)}
    {new : Multiset (ParkedSet γ)} {n : ℕ} {out : List (Batch γ)}
    (h : Accounts l m own new n out l') (hlot : l.parked.length ≤ l.hitsParked) :
    l'.parked.length ≤ l'.hitsParked := by
  have hbefore := congrArg Multiset.card h.parked
  have hafter := congrArg Multiset.card h.parked'
  simp only [Moves.before, Multiset.card_add, Multiset.coe_card] at hbefore hafter
  rw [hafter, h.hitsParked]
  omega

/-- What is counted is in one part or in the other. -/
lemma countP_le_add {α : Type} (p r : α → Bool) (as : List α) :
    as.countP p ≤ (as.countP fun a => p a && r a) + as.countP fun a => !r a := by
  induction as with
  | nil => simp
  | cons a as ih =>
    rw [List.countP_cons, List.countP_cons, List.countP_cons]
    cases p a <;> cases r a <;> simp <;> omega

namespace Phase

/-- At the beginning. -/
lemma init : Phase epoch cfg v s fetch calls w q [] (new cfg) where
  counted := ⟨rfl, by simp [new]⟩
  lot := le_rfl
  cfg_eq := rfl
  ttl_eq := rfl
  capacity_eq := rfl
  roomy := VxidCache.roomy_new _ _ _
  known := by simp
  unknown := fun _ _ _ => rfl
  arrived := by simp [new]
  waiting := by simp
  done := by simp

/-- The lot never holds more groups than were ever parked. -/
lemma lot_step {l : State Entry} (e : Entry) (hlot : l.parked.length ≤ l.hitsParked) :
    (step epoch l e).2.parked.length ≤ (step epoch l e).2.hitsParked := by
  cases hs : builtSet epoch e.1 with
  | none =>
    rw [step, (l.build_of_none epoch e hs).2]
    exact (releaseAgedParked_accounts l e.1.now).lot hlot
  | some s =>
    obtain ⟨m, own, new, s', k, n, -, -, hacc⟩ := l.build_accounts epoch e hs
    exact hacc.lot hlot

section Step

variable {history : List (Entry × List (Batch Entry))} {l : State Entry} {e : Entry}
  (hpre : history ++ [(e, (step epoch l e).1)] <+: (runNew epoch cfg calls).1)

include hpre

/-- The call at hand is one of the calls. -/
lemma mem_entries : e ∈ calls.zipIdx := by
  have hmem := hpre.subset (List.mem_append_right _ (List.mem_singleton_self _))
  have := List.mem_map_of_mem (f := Prod.fst) hmem
  rwa [runNew, Transducer.map_fst_run] at this

/-- It was not handled before. -/
lemma notMem_history : e ∉ history.map Prod.fst := by
  intro he
  obtain ⟨ev, hev, rfl⟩ := List.mem_map.1 he
  exact position_notMem epoch hpre (List.mem_map_of_mem (f := fun ev => ev.1.2) hev)

/-- Its time is one of the times. -/
lemma now_mem : e.1.now ∈ Scene.times calls := ⟨e.1, Scene.mem_calls (mem_entries hpre), rfl⟩

/-- The fetches built so far are among those of the whole run. -/
lemma fetchCount_history_le :
    fetchCount ((history ++ [(e, (step epoch l e).1)]).flatMap fun ev =>
      builtSpans epoch ev.1.1) ≤ fetchCount (calls.flatMap (builtSpans epoch)) := by
  have hcalls : calls.flatMap (builtSpans epoch) =
      (runNew epoch cfg calls).1.flatMap fun ev => builtSpans epoch ev.1.1 := by
    rw [List.flatMap_def, List.flatMap_def, runNew,
      Transducer.map_run_fst (step epoch) (fun e : Entry => builtSpans epoch e.1)]
    conv_lhs => rw [← List.zipIdx_map_fst 0 calls, List.map_map]
    rfl
  rw [hcalls]
  exact (List.Sublist.flatMap hpre.sublist _).countP_le

variable (h : Scene epoch cfg v s fetch calls w q others)
  (hp : Phase epoch cfg v s fetch calls w q history l)

include h hp

/-- No group waits for longer than it may. -/
lemma young : ∀ p ∈ l.parked, e.1.now - p.arrivedAt ≤ l.cfg.ageLimit := by
  intro p hpk
  obtain ⟨c, hc, ht⟩ := hp.arrived p hpk
  rw [hp.cfg_eq, ← ht]
  exact h.calm.age _ (Scene.mem_calls (mem_entries hpre)) _ hc

/-- If the call parks its group, the lot has room for it. -/
lemma room (hpark : (step epoch l e).2.hitsParked = l.hitsParked + 1) :
    l.parked.length < l.cfg.maxParked := by
  have hcount := (hp.counted.next epoch (position_notMem epoch hpre)).count
  have hle := hpre.sublist.countP_le (p := withheld epoch)
  have hsplit := countP_le_add (withheld epoch) (fun ev => decide (ev.1.2 ≠ w.2))
    (runNew epoch cfg calls).1
  have hone := (List.nodup_iff_count_le_one.1 (nodup_positions epoch cfg calls)) w.2
  have hat : ((runNew epoch cfg calls).1.countP fun ev => !decide (ev.1.2 ≠ w.2)) =
      ((runNew epoch cfg calls).1.map fun ev => ev.1.2).count w.2 := by
    rw [List.count, List.countP_map]
    refine List.countP_congr fun ev _ => ?_
    simp
  have hcalm := h.calm.parked
  have hlot := hp.lot
  rw [hp.cfg_eq]
  omega

/-- A call that builds nothing changes nothing. -/
lemma step_of_none (hs : builtSet epoch e.1 = none) : step epoch l e = ([], l) := by
  obtain ⟨hout, hl⟩ := l.build_of_none epoch e hs
  rw [step, hout, hl, releaseAgedParked_of_young (young hpre h hp)]

/-- A call that builds spans correlates them. -/
lemma step_of_some {s₀ : SpanSet} (hs : builtSet epoch e.1 = some s₀) :
    step epoch l e = l.correlate epoch e e.1.group.tx s₀ e.1.now := by
  obtain ⟨hout, hl⟩ := l.build_of_some epoch e hs
  rw [step, hout, hl, releaseAgedParked_of_young (young hpre h hp), List.nil_append]

/-- What the cache of fetches knows after a call that builds spans: the fetch of the initiator
if this is its call, and else as much about transaction `v` as before. -/
lemma recorded_roomy {s₀ : SpanSet} (hs : builtSet epoch e.1 = some s₀) :
    let c := (l.recorded e.1.group.tx s₀ e.1.now).fetches
    c.ttl = cfg.ttl ∧ c.capacity = cfg.capacity ∧
    c.Roomy (Scene.times calls)
      (fetchCount ((history ++ [(e, (step epoch l e).1)]).flatMap fun ev =>
        builtSpans epoch ev.1.1)) ∧
    (e = q → ∀ t ∈ Scene.times calls, c.get v t = some (fetchInfo fetch)) ∧
    (e ≠ q → ∀ t ∈ Scene.times calls, c.get v t = l.fetches.get v t) := by
  obtain ⟨k, hst, -⟩ := stitch_accounts l e.1.group.tx s₀ e.1.now
  have hbuilt := (builtSet_eq_some epoch).1 hs
  have hcount : fetchCount ((history ++ [(e, (step epoch l e).1)]).flatMap fun ev =>
      builtSpans epoch ev.1.1) = fetchCount (history.flatMap fun ev => builtSpans epoch ev.1.1) +
        fetchCount (l.stitch e.1.group.tx s₀ e.1.now).1.spans := by
    rw [hst.fetchCount_eq, ← hbuilt, List.flatMap_append, fetchCount_append]
    simp
  have hle := fetchCount_history_le hpre
  have hcap := h.fetchCount_le
  have httl : ∀ t ∈ Scene.times calls, ∀ t' ∈ Scene.times calls, t - t' ≤ l.fetches.ttl := by
    rintro t ⟨c, hc, rfl⟩ t' ⟨c', hc', rfl⟩
    rw [hp.ttl_eq]
    exact h.calm.ttl c hc c' hc'
  obtain ⟨hr, ht, hc, hget⟩ := setFetches_roomy (now_mem hpre)
    (l.stitch e.1.group.tx s₀ e.1.now).1.spans hp.roomy httl (by rw [hp.capacity_eq]; omega)
  dsimp only
  rw [(recorded_eq l e.1.group.tx s₀ e.1.now).2.2.2]
  refine ⟨ht.trans hp.ttl_eq, hc.trans hp.capacity_eq, hcount ▸ hr, ?_, ?_⟩
  · rintro rfl t ht
    have hplain : (l.stitch e.1.group.tx s₀ e.1.now).1 = s₀ := by
      simp [State.stitch, h.initiator.first]
    have hfetch : fetchesOf v s₀.spans = [fetch] := hbuilt ▸ h.initiator.built
    rw [hget v t ht, hplain, hfetch]
    rfl
  · intro hq t ht
    have hnone := h.fetchesOf_eq (mem_entries hpre) hq
    rw [hbuilt] at hnone
    rw [hget v t ht, hst.fetchesOf_eq_nil hnone]
    rfl

/-- A call that builds nothing is neither that of the waiter nor that of the initiator. -/
lemma next_of_none (hs : builtSet epoch e.1 = none) :
    Phase epoch cfg v s fetch calls w q (history ++ [(e, (step epoch l e).1)])
      (step epoch l e).2 := by
  have hnil := (builtSet_eq_none epoch).1 hs
  have hw : e ≠ w := by
    rintro rfl
    simp [show builtSpans epoch e.1 = s.spans from h.waiter.built, SpanSet.spans] at hnil
  have hq : e ≠ q := by
    rintro rfl
    have hbuilt : fetchesOf v (builtSpans epoch e.1) = [fetch] := h.initiator.built
    simp [hnil, fetchesOf] at hbuilt
  have hcounted := hp.counted.next epoch (position_notMem epoch hpre)
  rw [step_of_none hpre h hp hs] at hcounted ⊢
  exact {
    counted := hcounted
    lot := hp.lot
    cfg_eq := hp.cfg_eq
    ttl_eq := hp.ttl_eq
    capacity_eq := hp.capacity_eq
    roomy := by simpa [hnil] using hp.roomy
    known := fun hm => hp.known (by simpa [hq.symm] using hm)
    unknown := fun hm => hp.unknown (by simpa [hq.symm] using hm)
    arrived := hp.arrived
    waiting := fun hm hm' =>
      hp.waiting (by simpa [hw.symm] using hm) (by simpa [hq.symm] using hm')
    done := fun hm hm' => by
      simpa using hp.done (by simpa [hw.symm] using hm) (by simpa [hq.symm] using hm') }

omit h in
/-- A group parked by a call arrived at the reading of that call. -/
lemma arrived_next {s₀ : SpanSet} (hs : builtSet epoch e.1 = some s₀) :
    ∀ p ∈ (step epoch l e).2.parked, p.arrivedAt ∈ Scene.times calls := by
  obtain ⟨m, own, new, s', k, n, -, hfate, hacc⟩ := l.build_accounts epoch e hs
  intro p hpk
  rcases hacc.mem_parked hpk with hpk | hpk
  · exact hp.arrived p hpk
  · have hnow : p.arrivedAt = e.1.now := by
      cases hfate <;> simp_all
    exact hnow ▸ now_mem hpre

/-- The waiter seen before its initiator is in the lot. -/
lemma waiting_next {s₀ : SpanSet} (hs : builtSet epoch e.1 = some s₀)
    (hw : w ∈ history.map Prod.fst ∨ w = e) (hq : q ∉ history.map Prod.fst) (hqe : e ≠ q) :
    ∃ p ∈ (step epoch l e).2.parked, p.label = w ∧ p.vxid = v ∧ Settled s p.set := by
  have hnow := now_mem hpre
  obtain ⟨-, -, -, -, hget⟩ := recorded_roomy hpre h hp hs
  have hnone := (hget hqe _ hnow).trans (hp.unknown hq _ hnow)
  have hroom := room hpre h hp
  rw [step_of_some hpre h hp hs] at hroom ⊢
  rcases hw with hw | rfl
  · obtain ⟨p, hpk, hlabel, hvxid, hset⟩ := hp.waiting hw hq
    exact ⟨p, mem_parked_correlate epoch hpk (hvxid ▸ hnone) hroom, hlabel, hvxid, hset⟩
  · exact ⟨_, own_mem_parked_correlate epoch h.waiter.hit hnone h.waiter.waited hroom, rfl, rfl,
      h.settled_stitch l hs⟩

/-- The waiter has been released with its link once the initiator was seen as well. -/
lemma done_next {s₀ : SpanSet} (hs : builtSet epoch e.1 = some s₀)
    (hw : w ∈ history.map Prod.fst ∨ w = e) (hq : q ∈ history.map Prod.fst ∨ q = e) :
    ∃ s', Settled s s' ∧ (⟨w, s'.modifyTop (linkHit (fetchInfo fetch))⟩ : Batch Entry) ∈
      (history ++ [(e, (step epoch l e).1)]).flatMap Prod.snd := by
  have hnow := now_mem hpre
  have hnew := notMem_history hpre
  obtain ⟨-, -, -, hfound, hget⟩ := recorded_roomy hpre h hp hs
  have hout : ∀ b ∈ (l.correlate epoch e e.1.group.tx s₀ e.1.now).1,
      b ∈ (history ++ [(e, (step epoch l e).1)]).flatMap Prod.snd := by
    intro b hb
    rw [step_of_some hpre h hp hs]
    simp [hb]
  rcases hw with hw | rfl
  · rcases hq with hq | rfl
    · obtain ⟨s', hset, hmem⟩ := hp.done hw hq
      exact ⟨s', hset, by simp only [List.flatMap_append, List.mem_append, hmem, true_or]⟩
    · -- the call of the initiator resolves the parked waiter
      obtain ⟨p, hpk, rfl, hvxid, hset⟩ := hp.waiting hw hnew
      exact ⟨p.set, hset, hout _ (linkRelease_mem_correlate epoch hpk (hvxid ▸ hfound rfl _ hnow))⟩
  · rcases hq with hq | hq
    · -- the call of the waiter finds the fetch
      have hqe : w ≠ q := fun heq => hnew (heq ▸ hq)
      have hsome := (hget hqe _ hnow).trans (hp.known hq _ hnow)
      exact ⟨_, h.settled_stitch l hs, hout _ (own_mem_correlate epoch h.waiter.hit hsome)⟩
    · exact absurd hq.symm h.waiter_ne

/-- A call that builds spans keeps the invariant. -/
lemma next_of_some {s₀ : SpanSet} (hs : builtSet epoch e.1 = some s₀) :
    Phase epoch cfg v s fetch calls w q (history ++ [(e, (step epoch l e).1)])
      (step epoch l e).2 := by
  obtain ⟨httl, hcap, hroomy, hfound, hget⟩ := recorded_roomy hpre h hp hs
  have hfetches : (step epoch l e).2.fetches = (l.recorded e.1.group.tx s₀ e.1.now).fetches := by
    rw [step_of_some hpre h hp hs, correlate_fetches]
  have hmem : ∀ x : Entry, x ∈ (history ++ [(e, (step epoch l e).1)]).map Prod.fst ↔
      x ∈ history.map Prod.fst ∨ x = e := by
    intro x
    rw [List.map_append, List.mem_append, List.map_singleton, List.mem_singleton]
  refine ⟨hp.counted.next epoch (position_notMem epoch hpre), lot_step e hp.lot,
    (l.build_cfg epoch e e.1).trans hp.cfg_eq, hfetches ▸ httl, hfetches ▸ hcap,
    hfetches ▸ hroomy, fun hq t ht => ?_, fun hq t ht => ?_, arrived_next hpre hp hs,
    fun hw hq => ?_, fun hw hq => ?_⟩
  · rw [hfetches]
    by_cases hqe : e = q
    · exact hfound hqe t ht
    · rw [hget hqe t ht]
      exact hp.known (((hmem q).1 hq).resolve_right (Ne.symm hqe)) t ht
  · obtain ⟨hq, hqe⟩ := not_or.1 (mt (hmem q).2 hq)
    rw [hfetches, hget (Ne.symm hqe) t ht]
    exact hp.unknown hq t ht
  · obtain ⟨hq, hqe⟩ := not_or.1 (mt (hmem q).2 hq)
    exact waiting_next hpre h hp hs ((hmem w).1 hw) hq (Ne.symm hqe)
  · exact done_next hpre h hp hs ((hmem w).1 hw) ((hmem q).1 hq)

end Step

end Phase

/-- The invariant along a calm run. -/
lemma Scene.phase (h : Scene epoch cfg v s fetch calls w q others) :
    Phase epoch cfg v s fetch calls w q (runNew epoch cfg calls).1 (runNew epoch cfg calls).2 := by
  refine Transducer.run_induction (step epoch) Phase.init fun history l e hpre hp => ?_
  cases hs : builtSet epoch e.1 with
  | none => exact Phase.next_of_none hpre h hp hs
  | some s₀ => exact Phase.next_of_some hpre h hp hs

/-- A top span linked to `fetch` and to nothing else, with the coalesced flag exactly if it
started before the fetch ended, and not marked as unlinked. -/
structure Resolved (fetch : Span) (start : Time) (top : Span) : Prop where
  links : top.links = [originLink (fetchInfo fetch)]
  coalesced : marks .coalesced top = if start < fetch.endTime then 1 else 0
  unlinked : marks .coalescedUnlinked top = 0

/-- A group that was settled is resolved by its link. -/
lemma Settled.resolved {s s' : SpanSet} (h : Settled s s') (fetch : Span) :
    Resolved fetch s.top.startTime (s'.modifyTop (linkHit (fetchInfo fetch))).top where
  links := by simp [SpanSet.modifyTop, linkHit, h.fresh.links]
  coalesced := by
    have hc : s'.top.attrs.countP (fun kv => kv.key = .coalesced) = 0 := h.fresh.coalesced
    simp only [SpanSet.modifyTop, linkHit, marks, h.start, fetchInfo]
    split_ifs
    · rw [List.countP_append, hc]
      rfl
    · exact hc
  unlinked := (h.fresh.linked (fetchInfo fetch)).2

/-- At every position, at most one batch is released. -/
lemma nodup_released (cfg : Config) (calls : List Call) :
    ((released epoch cfg calls).map fun b => b.label.2).Nodup := by
  have hperm := (released_perm epoch cfg calls).map fun x => x.1.2
  rw [List.map_map, List.map_map] at hperm
  refine List.Nodup.perm ?_ hperm.symm
  have hsub := (List.filter_sublist (p := fun e => decide (builtSpans epoch e.1 ≠ []))
    (l := calls.zipIdx)).map Prod.snd
  refine hsub.nodup ?_
  rw [List.zipIdx_map_snd]
  exact List.nodup_range'

/-- If `f` separates the members of a list, then those at `f a` are `a` alone. -/
lemma filter_eq_singleton {α β : Type} [DecidableEq β] {f : α → β} {as : List α}
    (hnodup : (as.map f).Nodup) {a : α} (ha : a ∈ as) :
    as.filter (fun x => f x = f a) = [a] := by
  induction as with
  | nil => simp at ha
  | cons x as ih =>
    rw [List.map_cons, List.nodup_cons] at hnodup
    rcases List.mem_cons.1 ha with rfl | ha
    · rw [List.filter_cons_of_pos (by simp), List.cons.injEq]
      refine ⟨rfl, List.filter_eq_nil_iff.2 fun y hy he => hnodup.1 ?_⟩
      exact of_decide_eq_true he ▸ List.mem_map_of_mem hy
    · have hne : f x ≠ f a := fun he => hnodup.1 (he ▸ List.mem_map_of_mem ha)
      rw [List.filter_cons_of_neg (by simpa using hne), ih hnodup.2 ha]

/-- **The waiter of a calm run is resolved**, wherever its call and that of the initiator
stand. -/
theorem Scene.resolved (h : Scene epoch cfg v s fetch calls w q others) :
    ∃ b, (released epoch cfg calls).filter (fun b => b.label.2 = w.2) = [b] ∧
      Resolved fetch s.top.startTime b.set.top := by
  have hmem : ∀ x ∈ w :: q :: others, x ∈ (runNew epoch cfg calls).1.map Prod.fst := by
    intro x hx
    rw [runNew, Transducer.map_fst_run]
    exact h.perm.symm.subset hx
  obtain ⟨s', hset, hb⟩ := h.phase.done (hmem w (by simp)) (hmem q (by simp))
  refine ⟨⟨w, s'.modifyTop (linkHit (fetchInfo fetch))⟩, ?_, hset.resolved fetch⟩
  exact filter_eq_singleton (f := fun b : Batch Entry => b.label.2) (nodup_released cfg calls)
    (List.mem_append_left _ hb)

/-- Two calls among others, with their positions. -/
lemma zipIdx_perm (x y : Call) (A B C : List Call) :
    ∃ others, (A ++ x :: (B ++ y :: C)).zipIdx.Perm
        ((x, A.length) :: (y, A.length + 1 + B.length) :: others) ∧
      ∀ e ∈ others, e.1 ∈ A ++ (B ++ C) := by
  refine ⟨A.zipIdx ++ (B.zipIdx (A.length + 1) ++ C.zipIdx (A.length + 1 + B.length + 1)), ?_, ?_⟩
  · rw [List.zipIdx_append, List.zipIdx_cons, List.zipIdx_append, List.zipIdx_cons, Nat.zero_add]
    refine List.perm_middle.trans (List.Perm.cons _ ?_)
    rw [← List.append_assoc, ← List.append_assoc]
    exact List.perm_middle
  · intro e he
    simp only [List.mem_append] at he ⊢
    exact he.imp List.fst_mem_of_mem_zipIdx
      (Or.imp List.fst_mem_of_mem_zipIdx List.fst_mem_of_mem_zipIdx)

/-- **Coalescing resolution does not depend on the order of emission.** Take a waiter `W` for
transaction `v`, an initiator `I` of its fetch, and other groups without a fetch of `v`. In a
calm run in which `W` comes before `I`, and in one in which `I` comes before `W`, with other
groups anywhere, the group of `W` is released exactly once, and both times its top span has one
link, to the fetch of `I`, the coalesced flag exactly if `W` started before the fetch ended, and
no unlinked mark. -/
theorem coalescing_order_irrelevant (cfg : Config) {W I : Group} {v : ℕ} {s : SpanSet}
    {fetch : Span} (hW : Waiter epoch W v s) (hI : Initiator epoch I v fetch)
    {A₁ B₁ C₁ A₂ B₂ C₂ : List Call} {t₁ u₁ t₂ u₂ : Time}
    (h₁ : Calm epoch cfg v (A₁ ++ ⟨W, t₁⟩ :: (B₁ ++ ⟨I, u₁⟩ :: C₁)) A₁.length)
    (ho₁ : ∀ c ∈ A₁ ++ (B₁ ++ C₁), fetchesOf v (builtSpans epoch c) = [])
    (h₂ : Calm epoch cfg v (A₂ ++ ⟨I, u₂⟩ :: (B₂ ++ ⟨W, t₂⟩ :: C₂)) (A₂.length + 1 + B₂.length))
    (ho₂ : ∀ c ∈ A₂ ++ (B₂ ++ C₂), fetchesOf v (builtSpans epoch c) = []) :
    ∃ b₁ b₂,
      (released epoch cfg (A₁ ++ ⟨W, t₁⟩ :: (B₁ ++ ⟨I, u₁⟩ :: C₁))).filter
        (fun b => b.label.2 = A₁.length) = [b₁] ∧
      (released epoch cfg (A₂ ++ ⟨I, u₂⟩ :: (B₂ ++ ⟨W, t₂⟩ :: C₂))).filter
        (fun b => b.label.2 = A₂.length + 1 + B₂.length) = [b₂] ∧
      Resolved fetch s.top.startTime b₁.set.top ∧ Resolved fetch s.top.startTime b₂.set.top := by
  obtain ⟨others₁, hperm₁, hmem₁⟩ := zipIdx_perm ⟨W, t₁⟩ ⟨I, u₁⟩ A₁ B₁ C₁
  obtain ⟨others₂, hperm₂, hmem₂⟩ := zipIdx_perm ⟨I, u₂⟩ ⟨W, t₂⟩ A₂ B₂ C₂
  have hscene₁ : Scene epoch cfg v s fetch _ _ _ others₁ :=
    ⟨hperm₁, hW, hI, fun e he => ho₁ e.1 (hmem₁ e he), h₁⟩
  have hscene₂ : Scene epoch cfg v s fetch _ _ _ others₂ :=
    ⟨hperm₂.trans (List.Perm.swap _ _ _), hW, hI, fun e he => ho₂ e.1 (hmem₂ e he), h₂⟩
  obtain ⟨b₁, hb₁, hr₁⟩ := hscene₁.resolved
  obtain ⟨b₂, hb₂, hr₂⟩ := hscene₂.resolved
  exact ⟨b₁, b₂, hb₁, hb₂, hr₁, hr₂⟩

/-! ### A waiter, its initiator and a bystander -/

/-- A request that waited for the fetch with transaction number 3. -/
def sampleWaiter : Group where
  tx := .mk "Request" 5
    [⟨"Begin", "req 4 rxreq"⟩, ⟨"Timestamp", "Start: 10 0 0"⟩,
      ⟨"Timestamp", "Waitinglist: 20 10 10"⟩, ⟨"Hit", "3 120 10 0"⟩,
      ⟨"Timestamp", "Resp: 30 20 10"⟩] []
  ids := ⟨7, fun _ => 8⟩

/-- The request whose backend fetch has transaction number 3. -/
def sampleInitiator : Group where
  tx := .mk "Request" 2
    [⟨"Begin", "req 1 rxreq"⟩, ⟨"Timestamp", "Start: 5 0 0"⟩, ⟨"Timestamp", "Resp: 25 20 20"⟩]
    [.mk "BeReq" 3 [⟨"Timestamp", "Bereq: 6 0 0"⟩, ⟨"Timestamp", "Beresp: 24 18 18"⟩] []]
  ids := ⟨9, fun n => n + 10⟩

/-- A request that fetched another object. -/
def sampleBystander : Group where
  tx := .mk "Request" 20
    [⟨"Begin", "req 19 rxreq"⟩, ⟨"Timestamp", "Start: 7 0 0"⟩, ⟨"Timestamp", "Resp: 9 2 2"⟩]
    [.mk "BeReq" 21 [⟨"Timestamp", "Bereq: 7 0 0"⟩, ⟨"Timestamp", "Beresp: 8 1 1"⟩] []]
  ids := ⟨30, fun n => n + 31⟩

/-- The top span of the waiter. -/
def sampleTop : Span := requestSpan sampleWaiter.tx sampleWaiter.ids 0 7 10 30

/-- The fetch span of the initiator. -/
def sampleFetch : Span where
  traceID := 9
  spanID := 11
  parentID := 10
  name := .fetch
  kind := .client
  startTime := 6
  endTime := 24
  attrs := []
  vxid := 3

/-- A linker that has room for two fetches and for one parked group. -/
def sampleConfig : Config := ⟨2, 100, 1, 100, le_rfl⟩

/-- The sample waiter waits. -/
lemma sampleWaiter_waits : Waiter wholeSeconds sampleWaiter 3 ⟨sampleTop, []⟩ :=
  ⟨by decide +kernel, by decide +kernel, by decide +kernel, by decide +kernel⟩

/-- The sample initiator fetches. -/
lemma sampleInitiator_fetches : Initiator wholeSeconds sampleInitiator 3 sampleFetch :=
  ⟨by decide +kernel, by decide +kernel⟩

/-- The sample bystander fetches something else. -/
lemma sampleBystander_other (t : Time) :
    ∀ c ∈ ([] : List Call) ++ ([⟨sampleBystander, t⟩] ++ []),
      fetchesOf 3 (builtSpans wholeSeconds c) = [] := by
  intro c hc
  obtain rfl := List.mem_singleton.1 hc
  show fetchesOf 3 (sampleBystander.built wholeSeconds) = []
  decide +kernel

/-- The waiter coalesced with the initiator in both orders, the bystander between them. -/
theorem sample_order_irrelevant :
    ∃ b₁ b₂,
      (released wholeSeconds sampleConfig ([] ++ ⟨sampleWaiter, 40⟩ ::
        ([⟨sampleBystander, 41⟩] ++ ⟨sampleInitiator, 42⟩ :: []))).filter
          (fun b => b.label.2 = 0) = [b₁] ∧
      (released wholeSeconds sampleConfig ([] ++ ⟨sampleInitiator, 50⟩ ::
        ([⟨sampleBystander, 51⟩] ++ ⟨sampleWaiter, 52⟩ :: []))).filter
          (fun b => b.label.2 = 2) = [b₂] ∧
      Resolved sampleFetch sampleTop.startTime b₁.set.top ∧
      Resolved sampleFetch sampleTop.startTime b₂.set.top := by
  have h₁ : Calm wholeSeconds sampleConfig 3 ([] ++ ⟨sampleWaiter, 40⟩ ::
      ([⟨sampleBystander, 41⟩] ++ ⟨sampleInitiator, 42⟩ :: [])) ([] : List Call).length :=
    ⟨by decide +kernel, by decide +kernel, by decide +kernel, by decide +kernel⟩
  have h₂ : Calm wholeSeconds sampleConfig 3 ([] ++ ⟨sampleInitiator, 50⟩ ::
      ([⟨sampleBystander, 51⟩] ++ ⟨sampleWaiter, 52⟩ :: []))
      (([] : List Call).length + 1 + [(⟨sampleBystander, 51⟩ : Call)].length) :=
    ⟨by decide +kernel, by decide +kernel, by decide +kernel, by decide +kernel⟩
  have h := coalescing_order_irrelevant sampleConfig sampleWaiter_waits sampleInitiator_fetches
    h₁ (sampleBystander_other 41) h₂ (sampleBystander_other 51)
  exact h

end Race

end CloudVinyl.Linker
