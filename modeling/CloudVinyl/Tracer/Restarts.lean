import CloudVinyl.Tracer.Origins

set_option relaxedAutoImplicit false
set_option autoImplicit false

/-!
# Restart chains end up in one trace

A request that restarts names the number of its continuation in a `Link` record. The linker
remembers its top span under that number, and parents the continuation under it when it comes. The
continuation may restart itself, so that what the linker remembers about it has to be what it was
made into, not what it was built as.

## Main definitions

* `Linker.Continues`, `Linker.RestartChain` — one restart, and a chain of them.

## Main results

* `Linker.get_restarts_of_continues` — the linker still knows the original when its continuation
  comes.
* `Linker.released_restartChain` — a chain ends up in one trace.
-/

namespace CloudVinyl.Linker

open Vsl Spans

variable (epoch : Text → Option Time)

/-! ## Restarts that are remembered -/

section Bounds

variable {epoch} {cfg : Config} {calls : List Call} {k : ℕ}

/-- The bounds of the remembered restarts are those of the linker. -/
lemma setRestarts_bounds (r : VxidCache RestartInfo) (vs : List ℕ) (top : Span) (now : Time) :
    (setRestarts r vs top now).capacity = r.capacity ∧ (setRestarts r vs top now).ttl = r.ttl := by
  induction vs generalizing r with
  | nil => exact ⟨rfl, rfl⟩
  | cons v vs ih =>
    obtain ⟨hcap, httl⟩ := ih (r.set v ⟨top.traceID, top.spanID⟩ now)
    exact ⟨hcap.trans (VxidCache.capacity_set ..), httl.trans (VxidCache.ttl_set ..)⟩

/-- The cache of restarts keeps its bounds. -/
lemma restarts_bounds (hk : k ≤ calls.length) :
    (stateAt epoch cfg calls k).restarts.capacity = cfg.capacity ∧
      (stateAt epoch cfg calls k).restarts.ttl = cfg.ttl := by
  refine stateAt_induction (P := fun k => (stateAt epoch cfg calls k).restarts.capacity =
    cfg.capacity ∧ (stateAt epoch cfg calls k).restarts.ttl = cfg.ttl) ⟨rfl, rfl⟩
    (fun k c hc h => ?_) k hk
  rw [stateAt_succ epoch hc]
  cases hs : stitchedAt epoch cfg calls (c, k) with
  | none => rwa [(step_of_unbuilt _ (stitchedAt_eq_none.1 hs)).2.2.2]
  | some s =>
    rw [(step_of_stitched hs).2.2.2, (setRestarts_bounds _ _ _ _).1, (setRestarts_bounds _ _ _ _).2]
    exact h

end Bounds

section Remembered

variable {r : VxidCache RestartInfo} {v n : ℕ} {x : RestartInfo} {t now : Time} {vs : List ℕ}

/-- Recording restarts adds their own numbers only. -/
lemma absent_setRestarts (h : r.Absent v) (hv : v ∉ vs) (top : Span) (now : Time) :
    (setRestarts r vs top now).Absent v := by
  induction vs generalizing r with
  | nil => exact h
  | cons u vs ih =>
    obtain ⟨hne, hrest⟩ := not_or.1 (mt List.mem_cons.2 hv)
    exact ih (h.set_of_ne hne _ now) hrest

/-- What is remembered under `v` stays while there is room, unless another group is recorded under
`v` as well. -/
lemma holds_setRestarts {top : Span} (h : r.Holds v x t n)
    (hself : v ∈ vs → x = ⟨top.traceID, top.spanID⟩ ∧ now = t) (hfresh : now - t ≤ r.ttl)
    (hn : ((n + vs.countP (· ≠ v) : ℕ) : ℤ) < r.capacity) :
    (setRestarts r vs top now).Holds v x t (n + vs.countP (· ≠ v)) := by
  induction vs generalizing r n with
  | nil => exact h
  | cons u vs ih =>
    have hself' : v ∈ vs → x = ⟨top.traceID, top.spanID⟩ ∧ now = t := fun hv =>
      hself (List.mem_cons_of_mem _ hv)
    by_cases hu : u = v
    · obtain ⟨rfl, rfl⟩ := hself (hu ▸ List.mem_cons_self)
      subst hu
      rw [List.countP_cons_of_neg (by simp)] at hn ⊢
      refine ih (h.set_self (by simpa using hfresh) (by omega) _) hself' ?_ ?_
      · simpa using hfresh
      · simpa using hn
    · rw [List.countP_cons_of_pos (by simpa using hu), Nat.add_comm _ 1, ← Nat.add_assoc] at hn ⊢
      refine ih (h.set_of_ne (Ne.symm hu) hfresh (by omega) _) hself' ?_ ?_
      · simpa using hfresh
      · simpa using hn

/-- A group is remembered under the numbers it restarted as. -/
lemma holds_setRestarts_of_absent {top : Span} (h : r.Absent v) (hv : v ∈ vs) (httl : 0 ≤ r.ttl)
    (hn : ((vs.countP (· ≠ v) : ℕ) : ℤ) < r.capacity) :
    (setRestarts r vs top now).Holds v ⟨top.traceID, top.spanID⟩ now (vs.countP (· ≠ v)) := by
  induction vs generalizing r with
  | nil => simp at hv
  | cons u vs ih =>
    by_cases hu : u = v
    · subst hu
      rw [List.countP_cons_of_neg (by simp), ← Nat.zero_add (vs.countP _)] at hn ⊢
      refine holds_setRestarts (h.set_self (by omega) _ now) (fun _ => ⟨rfl, rfl⟩) ?_ ?_
      · simpa using httl
      · simpa using hn
    · rw [List.countP_cons_of_pos (by simpa using hu)] at hn ⊢
      have hv' : v ∈ vs := (List.mem_cons.1 hv).resolve_left (Ne.symm hu)
      refine (ih (h.set_of_ne (Ne.symm hu) _ now) hv' ?_ ?_).mono (Nat.le_succ _)
      · simpa using httl
      · rw [VxidCache.capacity_set]
        omega

end Remembered

/-! ## One restart -/

/-- The restart links that a call records. A group without spans is not recorded. -/
def linksRecorded (c : Call) : List ℕ :=
  if builtSpans epoch c = [] then [] else restartVxids c.group.tx

/-- The restart links recorded from the call at position `i` on and before that at position `j`. -/
def linksBetween (calls : List Call) (i j : ℕ) : List ℕ :=
  ((calls.take j).drop i).flatMap (linksRecorded epoch)

/-- The group of `e'` is the continuation of that of `e`, which alone names it, and comes before
the ttl has passed and before too many other restart links have been recorded. -/
structure Continues (cfg : Config) (calls : List Call) (e e' : Entry) : Prop where
  /-- The group of `e'` begins as a restart. -/
  begins : ∃ x : Text, (e'.1.group.tx.first "Begin").map Text.fields = some
    [("req" : Text), x, ("restart" : Text)]
  /-- A restart link of `e` names it. -/
  named : e'.1.group.tx.vxid ∈ restartVxids e.1.group.tx
  /-- No other group names it. -/
  only : ∀ f ∈ calls.zipIdx, f.2 ≠ e.2 → e'.1.group.tx.vxid ∉ restartVxids f.1.group.tx
  /-- It comes inside the ttl. -/
  ttl : e'.1.now - e.1.now ≤ cfg.ttl
  /-- Fewer than `capacity` other restart links are recorded until it comes. -/
  capacity : (((linksBetween epoch calls e.2 e'.2).countP (· ≠ e'.1.group.tx.vxid) : ℕ) : ℤ) <
    cfg.capacity

section Continues

variable {epoch} {cfg : Config} {calls : List Call} {e e' : Entry} {i k : ℕ} {c : Call}

/-- The restarts that are recorded up to the next call. -/
lemma linksBetween_succ (hc : calls[k]? = some c) (hik : i ≤ k) :
    linksBetween epoch calls i (k + 1) =
      linksBetween epoch calls i k ++ linksRecorded epoch c := by
  have hlt : k < calls.length := (List.getElem?_eq_some_iff.1 hc).1
  have hlen : i ≤ (calls.take k).length := by
    rw [List.length_take]
    omega
  rw [linksBetween, List.take_add_one, hc, List.drop_append_of_le_length hlen, List.flatMap_append]
  simp [linksBetween]

/-- Later there are no fewer. -/
lemma countP_linksBetween_le {j : ℕ} (hkj : k ≤ j) (p : ℕ → Bool) :
    (linksBetween epoch calls i k).countP p ≤ (linksBetween epoch calls i j).countP p := by
  have hsub : List.Sublist (calls.take k) (calls.take j) := List.take_sublist_take_left hkj
  exact ((hsub.drop i).flatMap _).countP_le

/-- A group with spans records the restarts that it names. -/
lemma linksRecorded_of_stitched {s : SpanSet} (hs : stitchedAt epoch cfg calls e = some s) :
    linksRecorded epoch e.1 = restartVxids e.1.group.tx :=
  if_neg fun hnil => by
    rw [stitchedAt_eq_none.2 hnil] at hs
    exact nomatch hs

/-- A call is found at its position. -/
lemma getElem?_of_mem_zipIdx (he : e ∈ calls.zipIdx) : calls[e.2]? = some e.1 :=
  List.mem_zipIdx_iff_getElem?.1 he

/-- Before the original comes, the number of its continuation is unknown. -/
lemma absent_of_continues (h : Continues epoch cfg calls e e') (he : e ∈ calls.zipIdx) :
    (stateAt epoch cfg calls e.2).restarts.Absent e'.1.group.tx.vxid := by
  have hlt : e.2 < calls.length := (List.getElem?_eq_some_iff.1 (getElem?_of_mem_zipIdx he)).1
  refine stateAt_induction (P := fun k => k ≤ e.2 →
    (stateAt epoch cfg calls k).restarts.Absent e'.1.group.tx.vxid)
    (fun _ => VxidCache.absent_new _ _) (fun k c hc ih hk => ?_) e.2 hlt.le le_rfl
  rw [stateAt_succ epoch hc]
  cases hs : stitchedAt epoch cfg calls (c, k) with
  | none =>
    rw [(step_of_unbuilt _ (stitchedAt_eq_none.1 hs)).2.2.2]
    exact ih (by omega)
  | some s =>
    rw [(step_of_stitched hs).2.2.2]
    refine absent_setRestarts (ih (by omega)) ?_ _ _
    exact h.only (c, k) (List.mem_zipIdx_iff_getElem?.2 hc) (Nat.ne_of_lt hk)

/-- At every position before the continuation there is room for the links recorded so far. -/
lemma room_of_continues (h : Continues epoch cfg calls e e') (hk : k ≤ e'.2) :
    (((linksBetween epoch calls e.2 k).countP (· ≠ e'.1.group.tx.vxid) : ℕ) : ℤ) < cfg.capacity :=
  lt_of_le_of_lt (Int.ofNat_le.2 (countP_linksBetween_le hk _)) h.capacity

/-- The call of the original records it under the number of its continuation. -/
lemma holds_of_original (h : Continues epoch cfg calls e e') (he : e ∈ calls.zipIdx)
    (hlt : e.2 < e'.2) (hclock : e.1.now ≤ e'.1.now) {s : SpanSet}
    (hs : stitchedAt epoch cfg calls e = some s) :
    (stateAt epoch cfg calls (e.2 + 1)).restarts.Holds e'.1.group.tx.vxid
      ⟨s.top.traceID, s.top.spanID⟩ e.1.now
      ((linksBetween epoch calls e.2 (e.2 + 1)).countP (· ≠ e'.1.group.tx.vxid)) := by
  have hc := getElem?_of_mem_zipIdx he
  obtain ⟨hcap, httl⟩ : (stateAt epoch cfg calls e.2).restarts.capacity = cfg.capacity ∧
      (stateAt epoch cfg calls e.2).restarts.ttl = cfg.ttl :=
    restarts_bounds (List.getElem?_eq_some_iff.1 hc).1.le
  have hroom := room_of_continues h (Nat.succ_le_of_lt hlt)
  have hnone : linksBetween epoch calls e.2 e.2 = [] := by
    rw [linksBetween, List.drop_eq_nil_of_le (List.length_take_le _ _)]
    rfl
  rw [linksBetween_succ hc le_rfl, hnone, List.nil_append, linksRecorded_of_stitched hs]
    at hroom ⊢
  rw [stateAt_succ epoch hc, (step_of_stitched hs).2.2.2]
  refine holds_setRestarts_of_absent (absent_of_continues h he) h.named ?_ (hcap ▸ hroom)
  rw [httl]
  exact le_trans (sub_nonneg.2 hclock) h.ttl

/-- A call between the two leaves what is remembered about the original. -/
lemma holds_of_between (h : Continues epoch cfg calls e e') (hc : calls[k]? = some c)
    (hik : e.2 < k) (hk : k < e'.2) (hclock : c.now ≤ e'.1.now) {x : RestartInfo}
    (hholds : (stateAt epoch cfg calls k).restarts.Holds e'.1.group.tx.vxid x e.1.now
      ((linksBetween epoch calls e.2 k).countP (· ≠ e'.1.group.tx.vxid))) :
    (stateAt epoch cfg calls (k + 1)).restarts.Holds e'.1.group.tx.vxid x e.1.now
      ((linksBetween epoch calls e.2 (k + 1)).countP (· ≠ e'.1.group.tx.vxid)) := by
  obtain ⟨hcap, httl⟩ : (stateAt epoch cfg calls k).restarts.capacity = cfg.capacity ∧
      (stateAt epoch cfg calls k).restarts.ttl = cfg.ttl :=
    restarts_bounds (List.getElem?_eq_some_iff.1 hc).1.le
  have hroom := room_of_continues h (Nat.succ_le_of_lt hk)
  rw [linksBetween_succ hc hik.le, List.countP_append] at hroom ⊢
  rw [stateAt_succ epoch hc]
  cases hs : stitchedAt epoch cfg calls (c, k) with
  | none =>
    have hunbuilt := stitchedAt_eq_none.1 hs
    rw [(step_of_unbuilt _ hunbuilt).2.2.2, linksRecorded, if_pos hunbuilt]
    exact hholds
  | some s =>
    rw [linksRecorded_of_stitched hs] at hroom ⊢
    rw [(step_of_stitched hs).2.2.2]
    have hother := h.only (c, k) (List.mem_zipIdx_iff_getElem?.2 hc) (Nat.ne_of_gt hik)
    refine holds_setRestarts hholds (fun hv => absurd hv hother) ?_ (hcap ▸ hroom)
    rw [httl]
    exact le_trans (sub_le_sub_right hclock _) h.ttl

/-- From the call of the original until the continuation comes, the original is remembered.

**Proof sketch.** Induction on the position. The call of the original records it. A later call sets
other numbers only, all inside the ttl, and together with those before it fewer than `capacity`. -/
lemma holds_of_continues (h : Continues epoch cfg calls e e') (he : e ∈ calls.zipIdx)
    (he' : e' ∈ calls.zipIdx) (hlt : e.2 < e'.2)
    (clock : ∀ f ∈ calls.zipIdx, f.2 ≤ e'.2 → f.1.now ≤ e'.1.now)
    {s : SpanSet} (hs : stitchedAt epoch cfg calls e = some s) :
    (stateAt epoch cfg calls e'.2).restarts.Holds e'.1.group.tx.vxid
      ⟨s.top.traceID, s.top.spanID⟩ e.1.now
      ((linksBetween epoch calls e.2 e'.2).countP (· ≠ e'.1.group.tx.vxid)) := by
  have hlen : e'.2 < calls.length := (List.getElem?_eq_some_iff.1 (getElem?_of_mem_zipIdx he')).1
  refine stateAt_induction (P := fun k => e.2 < k → k ≤ e'.2 →
    (stateAt epoch cfg calls k).restarts.Holds e'.1.group.tx.vxid
      ⟨s.top.traceID, s.top.spanID⟩ e.1.now
      ((linksBetween epoch calls e.2 k).countP (· ≠ e'.1.group.tx.vxid)))
    (fun hk => absurd hk (Nat.not_lt_zero _)) (fun k c hc ih hk hk' => ?_) e'.2 hlen.le hlt le_rfl
  rcases (Nat.lt_succ_iff.1 hk).eq_or_lt with rfl | hik
  · exact holds_of_original h he hlt (clock e he hlt.le) hs
  · have hmem : (c, k) ∈ calls.zipIdx := List.mem_zipIdx_iff_getElem?.2 hc
    have hclock := clock (c, k) hmem (Nat.le_of_succ_le hk')
    exact holds_of_between h hc hik hk' hclock (ih hik (Nat.le_of_succ_le hk'))

/-- **The linker still knows the original when its continuation comes.** -/
theorem get_restarts_of_continues (h : Continues epoch cfg calls e e') (he : e ∈ calls.zipIdx)
    (he' : e' ∈ calls.zipIdx) (hlt : e.2 < e'.2)
    (clock : ∀ f ∈ calls.zipIdx, f.2 ≤ e'.2 → f.1.now ≤ e'.1.now)
    {s : SpanSet} (hs : stitchedAt epoch cfg calls e = some s) :
    (stateAt epoch cfg calls e'.2).restarts.get e'.1.group.tx.vxid e'.1.now =
      some ⟨s.top.traceID, s.top.spanID⟩ := by
  have hlen : e'.2 ≤ calls.length :=
    (List.getElem?_eq_some_iff.1 (getElem?_of_mem_zipIdx he')).1.le
  refine (holds_of_continues h he he' hlt clock hs).get ?_
  rw [(restarts_bounds hlen).2]
  exact h.ttl

end Continues

/-! ## Chains of restarts -/

/-- Groups that restart one after the other, fed in this order among the calls of a run. -/
structure RestartChain (cfg : Config) (calls : List Call) (chain : List Entry) : Prop where
  /-- They are handed in in this order, with other groups between them. -/
  fed : List.Sublist chain calls.zipIdx
  /-- Each of them builds spans. -/
  builds : ∀ e ∈ chain, builtSpans epoch e.1 ≠ []
  /-- The first one is no continuation. -/
  first : ∀ e ∈ chain.head?, isRestartContinuation e.1.group.tx = false
  /-- Each of the others continues the one before it. -/
  continues : chain.IsChain (Continues epoch cfg calls)
  /-- The clock does not go back. -/
  clock : calls.Pairwise fun c c' => c.now ≤ c'.now

section Chain

variable {epoch} {cfg : Config} {calls : List Call} {e e' : Entry} {s : SpanSet}

/-- The positions of calls increase. -/
lemma pairwise_zipIdx (calls : List Call) : calls.zipIdx.Pairwise fun e e' => e.2 < e'.2 := by
  have h : (calls.zipIdx.map Prod.snd).Pairwise (· < ·) := by
    rw [List.zipIdx_map_snd]
    exact List.pairwise_lt_range'
  exact List.pairwise_map.1 h

/-- A later call reads a later time. -/
lemma now_le_of_le (hclock : calls.Pairwise fun c c' => c.now ≤ c'.now) (he : e ∈ calls.zipIdx)
    (he' : e' ∈ calls.zipIdx) (hle : e.2 ≤ e'.2) : e.1.now ≤ e'.1.now := by
  obtain ⟨hi, hc⟩ := List.getElem?_eq_some_iff.1 (getElem?_of_mem_zipIdx he)
  obtain ⟨hj, hc'⟩ := List.getElem?_eq_some_iff.1 (getElem?_of_mem_zipIdx he')
  rw [← hc, ← hc']
  rcases hle.eq_or_lt with heq | hlt
  · simp only [heq, le_refl]
  · exact List.pairwise_iff_getElem.1 hclock _ _ hi hj hlt

/-- The spans of a continuation get the trace of the original. -/
lemma traceID_reparentRestart (orig : RestartInfo)
    (hone : ∀ sp ∈ s.below, sp.traceID = s.top.traceID) :
    ∀ sp ∈ (reparentRestart orig s).spans, sp.traceID = orig.traceID := by
  intro sp hsp
  rcases List.mem_cons.1 hsp with rfl | hsp
  · rfl
  · obtain ⟨sp₀, hsp₀, rfl⟩ := List.mem_map.1 hsp
    rw [if_pos (hone sp₀ hsp₀)]

/-- The spans of a stitched group are in one trace. -/
lemma traceID_of_stitched (hs : stitchedAt epoch cfg calls e = some s) :
    ∀ sp ∈ s.spans, sp.traceID = s.top.traceID := by
  obtain ⟨s₀, n, hbuilt, hst⟩ := exists_built hs
  have hbelow := (buildWithOutcome_oneTrace epoch hbuilt).2
  have hone : ∀ sp ∈ s₀.spans, sp.traceID = s₀.top.traceID := by
    intro sp hsp
    rcases List.mem_cons.1 hsp with rfl | hsp
    · rfl
    · exact hbelow sp hsp
  cases hst with
  | fresh _ => exact hone
  | under orig _ => exact traceID_reparentRestart orig hbelow
  | lost _ => exact hone

/-- A continuation is stitched under its original and into its trace. -/
lemma stitched_of_continues (h : Continues epoch cfg calls e e') (he : e ∈ calls.zipIdx)
    (he' : e' ∈ calls.zipIdx) (hlt : e.2 < e'.2)
    (clock : ∀ f ∈ calls.zipIdx, f.2 ≤ e'.2 → f.1.now ≤ e'.1.now)
    (hs : stitchedAt epoch cfg calls e = some s) {s' : SpanSet}
    (hs' : stitchedAt epoch cfg calls e' = some s') :
    s'.top.parentID = s.top.spanID ∧ s'.top.traceID = s.top.traceID := by
  obtain ⟨s₀, hs₀, rfl⟩ := Option.map_eq_some_iff.1 hs'
  have hrequest := (buildWithOutcome_oneTrace epoch ((builtSet_eq_some epoch).1 hs₀)).1
  obtain ⟨x, hbegin⟩ := h.begins
  have hcont : isRestartContinuation e'.1.group.tx = true := by
    rw [isRestartContinuation, hrequest, hbegin]
    rfl
  rw [(stitch_eq _ _ _ _).1, if_pos hcont, get_restarts_of_continues h he he' hlt clock hs]
  exact ⟨rfl, rfl⟩

/-- A group that built spans is released. -/
lemma exists_released (he : e ∈ calls.zipIdx) (hbuilt : builtSpans epoch e.1 ≠ []) :
    ∃ b ∈ released epoch cfg calls, b.label = e := by
  have hmem : e ∈ building epoch calls := List.mem_filter.2 ⟨he, by simpa using hbuilt⟩
  have hperm := ((released_perm epoch cfg calls).map Prod.fst).symm.subset
  rw [List.map_map, List.map_map] at hperm
  obtain ⟨b, hb, rfl⟩ := List.mem_map.1 (hperm (List.mem_map.2 ⟨e, hmem, rfl⟩))
  exact ⟨b, hb, rfl⟩

namespace RestartChain

variable {chain : List Entry} (h : RestartChain epoch cfg calls chain)
include h

/-- Every group of a chain has spans. -/
lemma exists_stitched (he : e ∈ chain) : ∃ s, stitchedAt epoch cfg calls e = some s :=
  Option.ne_none_iff_exists'.1 fun hnone => h.builds e he (stitchedAt_eq_none.1 hnone)

/-- Each continuation of the chain is stitched under the one before it. -/
lemma stitched : chain.IsChain fun e e' => ∃ s s', stitchedAt epoch cfg calls e = some s ∧
    stitchedAt epoch cfg calls e' = some s' ∧
    s'.top.parentID = s.top.spanID ∧ s'.top.traceID = s.top.traceID := by
  rw [List.isChain_iff_forall_rel_of_append_cons_cons]
  intro e e' l₁ l₂ heq
  have hcont := List.isChain_iff_forall_rel_of_append_cons_cons.1 h.continues heq
  have he : e ∈ chain := by simp [heq]
  have he' : e' ∈ chain := by simp [heq]
  have hlt : e.2 < e'.2 := by
    have hpair := (pairwise_zipIdx calls).sublist h.fed
    rw [heq] at hpair
    exact (List.pairwise_cons.1 (List.pairwise_append.1 hpair).2.1).1 e' List.mem_cons_self
  obtain ⟨s, hs⟩ := h.exists_stitched he
  obtain ⟨s', hs'⟩ := h.exists_stitched he'
  have hmem' := h.fed.subset he'
  exact ⟨s, s', hs, hs', stitched_of_continues hcont (h.fed.subset he) hmem' hlt
    (fun f hf hle => now_le_of_le h.clock hf hmem' hle) hs hs'⟩

end RestartChain

/-- The spans of the chain are in the trace of its first group.

**Proof sketch.** The first group is not stitched. Each continuation is moved into the trace that
the group before it was moved into. -/
lemma RestartChain.traceID {e₀ : Entry} {rest : List Entry} {s₀ : SpanSet}
    (h : RestartChain epoch cfg calls (e₀ :: rest)) (hs₀ : builtSet epoch e₀.1 = some s₀)
    (he : e ∈ e₀ :: rest) (hs : stitchedAt epoch cfg calls e = some s) :
    ∀ sp ∈ s.spans, sp.traceID = s₀.top.traceID := by
  have hfirst : stitchedAt epoch cfg calls e₀ = some s₀ := by
    have hno : ¬ isRestartContinuation e₀.1.group.tx = true := by
      simpa using h.first e₀ rfl
    rw [stitchedAt, hs₀, Option.map_some, (stitch_eq _ _ _ _).1, if_neg hno]
  obtain ⟨s', hs', htrace⟩ := h.stitched.induction (fun e => ∃ s, stitchedAt epoch cfg calls e =
    some s ∧ s.top.traceID = s₀.top.traceID) _ (fun e e' hlink hbefore => by
      obtain ⟨s, s', hs, hs', -, hsame⟩ := hlink
      obtain ⟨t, ht, htrace⟩ := hbefore
      obtain rfl := Option.some.inj (hs.symm.trans ht)
      exact ⟨s', hs', hsame.trans htrace⟩) (fun _ => ⟨s₀, hfirst, rfl⟩) e he
  obtain rfl := Option.some.inj (hs.symm.trans hs')
  exact fun sp hsp => (traceID_of_stitched hs sp hsp).trans htrace

/-- The link may lead to the fetch span `f`: the group hit its transaction, and the link has its
span id. -/
def Targets (b : Batch Entry) (lk : Link) (f : Span) : Prop :=
  f.name = .fetch ∧ hitVxid b.label.1.group.tx = some f.vxid ∧ lk.spanID = f.spanID

/-- A link on a released span was made from a released fetch span. -/
lemma exists_target {b : Batch Entry} (hb : b ∈ released epoch cfg calls) {sp : Span}
    (hsp : sp ∈ b.set.spans) {lk : Link} (hlk : lk ∈ sp.links) :
    ∃ b' ∈ released epoch cfg calls, ∃ f ∈ b'.set.spans, Targets b lk f ∧
      lk = originLink (fetchInfo f) := by
  obtain ⟨s, hs, hemit⟩ := released_settled hb
  obtain ⟨v, info, hv, ⟨e, he, s', hs', f, hf, hname, rfl, rfl⟩, rfl⟩ := hemit.link hs hsp hlk
  have hbuilt : builtSpans epoch e.1 ≠ [] := fun hnil => by
    rw [stitchedAt_eq_none.2 hnil] at hs'
    exact nomatch hs'
  obtain ⟨b', hb', rfl⟩ := exists_released he hbuilt
  obtain ⟨t, ht, hemit'⟩ := released_settled hb'
  obtain rfl := Option.some.inj (hs'.symm.trans ht)
  obtain ⟨f', hf', hid⟩ := hemit'.mem_ident hf
  obtain ⟨hname', hvxid, hinfo⟩ := same_of_ident hid
  refine ⟨b', hb', f', hf', ⟨hname'.trans hname, ?_, ?_⟩, ?_⟩
  · rw [hvxid, hv]
  · exact (congrArg FetchInfo.spanID hinfo).symm
  · rw [hinfo]

/-- **A chain of restarts ends up in one trace.** Let groups `e₀, …, eₙ` be handed to a new linker
in this order, with any other groups between them, so that each continues the one before it. Then
over the `Build` calls and the final `Flush`:

* each of them is released;
* every span released for one of them has the trace id of `e₀`;
* the top span of a continuation has the top span of the group before it as its parent;
* every link on a released span was made from a released fetch span. If every fetch it may lead to
  was built by the chain, it names the trace of `e₀`.

**Proof sketch.** What is released for a group is what it was stitched to, up to marks
(`released_settled`), parked or not. The chain is stitched into one trace (`RestartChain.traceID`),
because the linker still knows the original when a continuation comes
(`get_restarts_of_continues`), in the trace it was itself moved into. -/
theorem released_restartChain {e₀ : Entry} {rest : List Entry} {s₀ : SpanSet}
    (h : RestartChain epoch cfg calls (e₀ :: rest)) (hs₀ : builtSet epoch e₀.1 = some s₀) :
    (∀ e ∈ e₀ :: rest, ∃ b ∈ released epoch cfg calls, b.label = e) ∧
    (∀ b ∈ released epoch cfg calls, b.label ∈ e₀ :: rest →
      ∀ sp ∈ b.set.spans, sp.traceID = s₀.top.traceID) ∧
    (e₀ :: rest).IsChain (fun e e' => ∀ b ∈ released epoch cfg calls,
      ∀ b' ∈ released epoch cfg calls, b.label = e → b'.label = e' →
        b'.set.top.parentID = b.set.top.spanID) ∧
    (∀ b ∈ released epoch cfg calls, ∀ sp ∈ b.set.spans, ∀ lk ∈ sp.links,
      (∃ b' ∈ released epoch cfg calls, ∃ f ∈ b'.set.spans, Targets b lk f ∧
        lk = originLink (fetchInfo f)) ∧
      ((∀ b' ∈ released epoch cfg calls, ∀ f ∈ b'.set.spans, Targets b lk f →
        b'.label ∈ e₀ :: rest) → lk.traceID = s₀.top.traceID)) := by
  have htrace : ∀ b ∈ released epoch cfg calls, b.label ∈ e₀ :: rest →
      ∀ sp ∈ b.set.spans, sp.traceID = s₀.top.traceID := by
    intro b hb hmem sp hsp
    obtain ⟨s, hs, hemit⟩ := released_settled hb
    obtain ⟨sp₀, hsp₀, hid⟩ := hemit.ident_mem hsp
    exact (congrArg Span.traceID hid).symm.trans (h.traceID hs₀ hmem hs sp₀ hsp₀)
  refine ⟨fun e he => exists_released (h.fed.subset he) (h.builds e he), htrace, ?_, ?_⟩
  · refine h.stitched.imp fun e e' hlink b hb b' hb' hlabel hlabel' => ?_
    obtain ⟨s, s', hs, hs', hparent, -⟩ := hlink
    subst hlabel hlabel'
    obtain ⟨t, ht, hemit⟩ := released_settled hb
    obtain ⟨t', ht', hemit'⟩ := released_settled hb'
    obtain rfl := Option.some.inj (hs.symm.trans ht)
    obtain rfl := Option.some.inj (hs'.symm.trans ht')
    rw [hemit.top_ids.1, hemit'.top_ids.2, hparent]
  · intro b hb sp hsp lk hlk
    obtain ⟨b', hb', f, hf, htarget, hmade⟩ := exists_target hb hsp hlk
    refine ⟨⟨b', hb', f, hf, htarget, hmade⟩, fun honly => ?_⟩
    rw [hmade]
    exact htrace b' hb' (honly b' hb' f hf htarget) f hf

/-! ### Two restarts, the second of a group that is parked -/

/-- A request that fetched, with transaction number 3, and restarted as 4. -/
def sampleOriginal : Group where
  tx := .mk "Request" 2
    [⟨"Begin", "req 1 rxreq"⟩, ⟨"Timestamp", "Start: 5 0 0"⟩, ⟨"Link", "req 4 restart"⟩,
      ⟨"Timestamp", "Restart: 25 20 20"⟩]
    [.mk "BeReq" 3 [⟨"Timestamp", "Bereq: 6 0 0"⟩, ⟨"Timestamp", "Beresp: 24 18 18"⟩] []]
  ids := ⟨9, fun n => n + 10⟩

/-- Its continuation, which waited for a fetch that is not known and restarted as 6. -/
def sampleRestarted : Group where
  tx := .mk "Request" 4
    [⟨"Begin", "req 2 restart"⟩, ⟨"Timestamp", "Start: 25 0 0"⟩,
      ⟨"Timestamp", "Waitinglist: 26 1 1"⟩, ⟨"Hit", "8 120 10 0"⟩, ⟨"Link", "req 6 restart"⟩,
      ⟨"Timestamp", "Restart: 28 3 3"⟩] []
  ids := ⟨20, fun n => n + 21⟩

/-- A request that hit the object of the first one and restarted as 12. -/
def sampleHitter : Group where
  tx := .mk "Request" 11
    [⟨"Begin", "req 10 rxreq"⟩, ⟨"Timestamp", "Start: 27 0 0"⟩, ⟨"Hit", "3 120 10 0"⟩,
      ⟨"Link", "req 12 restart"⟩, ⟨"Timestamp", "Restart: 29 2 2"⟩] []
  ids := ⟨30, fun n => n + 31⟩

/-- The continuation of the continuation. -/
def sampleAnswered : Group where
  tx := .mk "Request" 6
    [⟨"Begin", "req 4 restart"⟩, ⟨"Timestamp", "Start: 28 0 0"⟩,
      ⟨"Timestamp", "Resp: 30 2 2"⟩] []
  ids := ⟨40, fun n => n + 41⟩

/-- The calls of the run. -/
def sampleCalls : List Call :=
  [⟨sampleOriginal, 30⟩, ⟨sampleRestarted, 31⟩, ⟨sampleHitter, 32⟩, ⟨sampleAnswered, 33⟩]

/-- The chain among them. -/
def sampleChain : List Entry :=
  [(⟨sampleOriginal, 30⟩, 0), (⟨sampleRestarted, 31⟩, 1), (⟨sampleAnswered, 33⟩, 3)]

/-- The sample chain is one. -/
lemma sampleChain_restarts : RestartChain wholeSeconds sampleConfig sampleCalls sampleChain where
  fed := .cons_cons _ (.cons_cons _ (.cons _ (.cons_cons _ .slnil)))
  builds := by decide +kernel
  first := by decide +kernel
  continues := by
    refine .cons_cons ⟨⟨"2", by decide +kernel⟩, by decide +kernel, by decide +kernel,
      by decide +kernel, by decide +kernel⟩ ?_
    refine .cons_cons ⟨⟨"4", by decide +kernel⟩, by decide +kernel, by decide +kernel,
      by decide +kernel, by decide +kernel⟩ (.singleton _)
  clock := by decide +kernel

/-- What the original is built as. -/
def sampleSet : SpanSet :=
  ⟨requestSpan sampleOriginal.tx sampleOriginal.ids 0 9 5 25, [sampleFetch]⟩

/-- The second group of the chain is parked and the bystander is linked to the fetch of the first.
All spans of the chain are in trace 9, each group under the one before it. -/
theorem sampleChain_oneTrace :
    (runNew wholeSeconds sampleConfig sampleCalls).2.hitsParked = 1 ∧
    (released wholeSeconds sampleConfig sampleCalls).map (fun b => b.set.top.links) =
      [[], [originLink (fetchInfo sampleFetch)], [], []] ∧
    (∀ e ∈ sampleChain, ∃ b ∈ released wholeSeconds sampleConfig sampleCalls, b.label = e) ∧
    (∀ b ∈ released wholeSeconds sampleConfig sampleCalls, b.label ∈ sampleChain →
      ∀ sp ∈ b.set.spans, sp.traceID = 9) ∧
    sampleChain.IsChain (fun e e' => ∀ b ∈ released wholeSeconds sampleConfig sampleCalls,
      ∀ b' ∈ released wholeSeconds sampleConfig sampleCalls, b.label = e → b'.label = e' →
        b'.set.top.parentID = b.set.top.spanID) := by
  have hbuilt : builtSet wholeSeconds ⟨sampleOriginal, 30⟩ = some sampleSet := by decide +kernel
  obtain ⟨hall, htrace, hparents, -⟩ := released_restartChain sampleChain_restarts hbuilt
  exact ⟨by decide +kernel, by decide +kernel, hall, htrace, hparents⟩

end Chain

end CloudVinyl.Linker
