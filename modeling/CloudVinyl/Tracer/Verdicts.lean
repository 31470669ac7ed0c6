import Mathlib.Tactic.Ring
import CloudVinyl.Tracer.Ledger

set_option relaxedAutoImplicit false
set_option autoImplicit false

/-!
# One verdict for every hit

A hit is either linked to the fetch that brought its object in, or marked as unlinked, and never
both. The counters of the two callbacks agree with what was emitted.

The lot holds fresh groups only: no link and no mark of a verdict. A group receives its verdict
when it is released. The miss counter is a weight in the sense of `Linker.weight`: every
unlinked mark and every unstitched restart continuation weighs one, and the linker counts a miss
exactly when it adds such a weight.

## Main definitions

* `Linker.Verdict` — a top span with exactly one verdict.

## Main results

* `Linker.released_judged`, `Linker.misses_flush`, `Linker.hitsParked_runNew` — the verdicts,
  the misses and the parked hits of a run.
* `Linker.runNew_verdicts` — the three together.
-/

namespace CloudVinyl.Linker

open Vsl Spans

/-! ## Marks of spans -/

/-- How many attributes of a span have the key `k`. -/
def marks (k : Key) (sp : Span) : ℕ := sp.attrs.countP fun kv => kv.key = k

/-- A span that is linked to its origin fetch and is not marked as unlinked. -/
def Linked (sp : Span) : Prop :=
  (∃ link, sp.links = [link] ∧ link.attrs = [⟨.link, .string "origin-fetch"⟩]) ∧
    marks .coalescedUnlinked sp = 0

/-- A span that is marked as unlinked once, and has neither a link nor the coalesced flag. -/
def Unlinked (sp : Span) : Prop :=
  sp.links = [] ∧ marks .coalescedUnlinked sp = 1 ∧ marks .coalesced sp = 0

/-- Exactly one verdict. -/
def Verdict (sp : Span) : Prop := Linked sp ∨ Unlinked sp

/-- A span without marks has none of a key of the linker. -/
lemma marks_eq_zero {k : Key} {sp : Span} (h : Unmarked sp) (hk : k ∈ linkerKeys) :
    marks k sp = 0 := by
  refine List.countP_eq_zero.2 fun kv hkv => ?_
  intro he
  exact h.2 kv hkv (of_decide_eq_true he ▸ hk)

/-- A degraded span has one mark more. -/
@[simp] lemma marks_degrade (k : Key) (sp : Span) :
    marks k (degrade sp) = marks k sp + if k = .coalescedUnlinked then 1 else 0 := by
  simp [marks, degrade, List.countP_singleton, eq_comm]

/-- A link is no degradation. -/
@[simp] lemma marks_linkHit_unlinked (fetch : FetchInfo) (sp : Span) :
    marks .coalescedUnlinked (linkHit fetch sp) = marks .coalescedUnlinked sp := by
  unfold linkHit marks
  dsimp only
  split_ifs <;> simp

/-- A link is no continuation of a restart. -/
@[simp] lemma marks_linkHit_restart (fetch : FetchInfo) (sp : Span) :
    marks .restartContinuation (linkHit fetch sp) = marks .restartContinuation sp := by
  unfold linkHit marks
  dsimp only
  split_ifs <;> simp

/-! ## Fresh groups -/

/-- A group without links and marks of a verdict. -/
structure Fresh (s : SpanSet) : Prop where
  links : s.top.links = []
  coalesced : marks .coalesced s.top = 0
  unlinked : ∀ sp ∈ s.spans, marks .coalescedUnlinked sp = 0

/-- A fresh group that gets a link is linked. -/
lemma Fresh.linked {s : SpanSet} (h : Fresh s) (fetch : FetchInfo) :
    Linked (s.modifyTop (linkHit fetch)).top := by
  refine ⟨⟨originLink fetch, by simp [SpanSet.modifyTop, linkHit, h.links], rfl⟩, ?_⟩
  exact (marks_linkHit_unlinked fetch s.top).trans (h.unlinked _ (List.mem_cons_self ..))

/-- A fresh group that is degraded is unlinked. -/
lemma Fresh.degraded {s : SpanSet} (h : Fresh s) : Unlinked (s.modifyTop degrade).top := by
  refine ⟨h.links, ?_, ?_⟩
  · simp [SpanSet.modifyTop, h.unlinked s.top (List.mem_cons_self ..)]
  · simp [SpanSet.modifyTop, h.coalesced]

/-- The spans below the top of a fresh group stay unmarked whatever becomes of the top. -/
lemma Fresh.unlinked_modifyTop {s : SpanSet} (h : Fresh s) {f : Span → Span}
    (hf : marks .coalescedUnlinked (f s.top) ≤ 1) :
    ∀ sp ∈ (s.modifyTop f).spans, marks .coalescedUnlinked sp ≤ 1 := by
  intro sp hsp
  rcases List.mem_cons.1 hsp with rfl | hsp
  · exact hf
  · simp [h.unlinked sp (List.mem_cons_of_mem _ hsp)]

/-- Reparenting a restart continuation adds its mark to the top span and leaves all others. -/
lemma marks_reparentRestart_below (orig : RestartInfo) (s : SpanSet) (k : Key) :
    (reparentRestart orig s).below.map (marks k) = s.below.map (marks k) := by
  rw [reparentRestart, List.map_map]
  refine List.map_congr_left fun sp _ => ?_
  dsimp only [Function.comp]
  split_ifs <;> rfl

/-- A stitched group is fresh if its spans have no marks. -/
lemma Stitched.fresh_of_unmarked {tx : Tx} {s s' : SpanSet} {k : ℕ} (h : Stitched tx s s' k)
    (hs : ∀ sp ∈ s.spans, Unmarked sp) : Fresh s' := by
  have htop := hs s.top (List.mem_cons_self ..)
  have hfresh : Fresh s := ⟨htop.1, marks_eq_zero htop (by simp [linkerKeys]),
    fun sp hsp => marks_eq_zero (hs sp hsp) (by simp [linkerKeys])⟩
  cases h with
  | fresh _ => exact hfresh
  | lost _ => exact hfresh
  | under orig _ =>
    refine ⟨hfresh.links, ?_, fun sp hsp => ?_⟩
    · simpa [marks, reparentRestart] using hfresh.coalesced
    · rcases List.mem_cons.1 hsp with rfl | hsp
      · simpa [marks, reparentRestart] using hfresh.unlinked _ (List.mem_cons_self ..)
      · have hmem := List.mem_map_of_mem (f := marks .coalescedUnlinked) hsp
        rw [marks_reparentRestart_below] at hmem
        obtain ⟨sp', hsp', he⟩ := List.mem_map.1 hmem
        exact he.symm.trans (hfresh.unlinked sp' (List.mem_cons_of_mem _ hsp'))

/-! ## Verdicts along a run -/

/-- A released batch with its verdict, if its group is a hit, and no mark given twice. -/
structure Judged (b : Batch Entry) : Prop where
  verdict : (hitVxid b.label.1.group.tx).isSome → Verdict b.set.top
  once : ∀ sp ∈ b.set.spans, marks .coalescedUnlinked sp ≤ 1

/-- A linked group is judged. -/
lemma judged_linked {e : Entry} {s : SpanSet} (h : Fresh s) (fetch : FetchInfo) :
    Judged ⟨e, s.modifyTop (linkHit fetch)⟩ where
  verdict _ := .inl (h.linked fetch)
  once := h.unlinked_modifyTop (by simp [h.unlinked s.top (List.mem_cons_self ..)])

/-- A degraded group is judged. -/
lemma judged_degraded {e : Entry} {s : SpanSet} (h : Fresh s) :
    Judged ⟨e, s.modifyTop degrade⟩ where
  verdict _ := .inr h.degraded
  once := h.unlinked_modifyTop (by simp [h.unlinked s.top (List.mem_cons_self ..)])

/-- Everything a step releases is judged, and what it withholds is fresh. -/
lemma Accounts.judged {l l' : State Entry} {m : Moves Entry} {own : Multiset (Batch Entry)}
    {new : Multiset (ParkedSet Entry)} {n : ℕ} {out : List (Batch Entry)}
    (h : Accounts l m own new n out l') (hl : ∀ p ∈ l.parked, Fresh p.set)
    (hown : ∀ b ∈ own, Judged b) (hnew : ∀ p ∈ new, Fresh p.set) :
    (∀ b ∈ out, Judged b) ∧ ∀ p ∈ l'.parked, Fresh p.set := by
  have hbefore : ∀ p ∈ m.before, Fresh p.set := fun p hp =>
    hl p (Multiset.mem_coe.1 (h.parked ▸ hp))
  refine ⟨fun b hb => ?_, fun p hp => ?_⟩
  · have hb' : b ∈ m.released + own := h.out ▸ Multiset.mem_coe.2 hb
    simp only [Moves.released, Multiset.mem_add, Multiset.mem_map] at hb'
    rcases hb' with (⟨p, hp, rfl⟩ | ⟨⟨p, fetch⟩, hp, rfl⟩) | hb'
    · exact judged_degraded (hbefore p (by simp [Moves.before, hp]))
    · refine judged_linked (hbefore p ?_) fetch
      simp only [Moves.before, Multiset.mem_add, Multiset.mem_map]
      exact .inl (.inr ⟨(p, fetch), hp, rfl⟩)
    · exact hown b hb'
  · have hp' : p ∈ m.kept + new := h.parked' ▸ Multiset.mem_coe.2 hp
    rcases Multiset.mem_add.1 hp' with hp' | hp'
    · exact hbefore p (by simp [Moves.before, hp'])
    · exact hnew p hp'

/-- Whatever becomes of a fresh group, what is released is judged and what is parked is fresh. -/
lemma Fate.judged {e : Entry} {s : SpanSet} {now : Time} {own : Multiset (Batch Entry)}
    {new : Multiset (ParkedSet Entry)} {n : ℕ} (h : Fate e e.1.group.tx s now own new n)
    (hs : Fresh s) : (∀ b ∈ own, Judged b) ∧ ∀ p ∈ new, Fresh p.set := by
  cases h with
  | plain hv =>
    refine ⟨fun b hb => ?_, by simp⟩
    obtain rfl := Multiset.mem_singleton.1 hb
    exact ⟨fun h => by simp [hv] at h, fun sp hsp => by simp [hs.unlinked sp hsp]⟩
  | linked vxid fetch hv => simpa using judged_linked hs fetch
  | degraded vxid hv => simpa using judged_degraded hs
  | parked vxid hv => simpa using hs

variable (epoch : Text → Option Time)

/-- The builder sets no marks of the linker. -/
lemma builtSet_unmarked {c : Call} {s : SpanSet} (h : builtSet epoch c = some s) :
    ∀ sp ∈ s.spans, Unmarked sp := by
  rw [builtSet_eq_some] at h
  intro sp hsp
  exact buildWithOutcome_unmarked epoch _ _ sp (by rwa [← h] at hsp)

/-- One call: if the lot is fresh before, it is fresh afterwards, and what is released is
judged. -/
lemma step_judged (l : State Entry) (e : Entry) (hl : ∀ p ∈ l.parked, Fresh p.set) :
    (∀ b ∈ (step epoch l e).1, Judged b) ∧ ∀ p ∈ (step epoch l e).2.parked, Fresh p.set := by
  cases hs : builtSet epoch e.1 with
  | none =>
    obtain ⟨hout, hl'⟩ := l.build_of_none epoch e hs
    simp only [step, hout, hl']
    exact (releaseAgedParked_accounts l e.1.now).judged hl (by simp) (by simp)
  | some s =>
    obtain ⟨m, own, new, s', k, n, hst, hfate, h⟩ := l.build_accounts epoch e hs
    obtain ⟨hown, hnew⟩ := hfate.judged (hst.fresh_of_unmarked (builtSet_unmarked epoch hs))
    exact h.judged hl hown hnew

/-- **Every released group that is a hit has exactly one verdict.** -/
theorem released_judged (cfg : Config) (calls : List Call) :
    ∀ b ∈ released epoch cfg calls, Judged b := by
  have h : (∀ b ∈ (runNew epoch cfg calls).1.flatMap Prod.snd, Judged b) ∧
      ∀ p ∈ (runNew epoch cfg calls).2.parked, Fresh p.set := by
    refine Transducer.run_induction (step epoch) (P := fun history l =>
      (∀ b ∈ history.flatMap Prod.snd, Judged b) ∧ ∀ p ∈ l.parked, Fresh p.set)
      ⟨by simp, by simp [new]⟩ (fun history l e _ h => ?_)
    obtain ⟨hout, hl⟩ := step_judged epoch l e h.2
    refine ⟨fun b hb => ?_, hl⟩
    rw [List.flatMap_append, List.mem_append] at hb
    rcases hb with hb | hb
    · exact h.1 b hb
    · exact hout b (by simpa using hb)
  intro b hb
  rcases List.mem_append.1 hb with hb | hb
  · exact h.1 b hb
  · obtain ⟨p, hp, rfl⟩ := List.mem_map.1 hb
    exact judged_degraded (h.2 p hp)

/-! ## Misses -/

/-- A restart continuation whose top span was not stitched under an original. -/
def unstitched (tx : Tx) (top : Span) : Bool :=
  isRestartContinuation tx && marks .restartContinuation top = 0

/-- What the linker counts as misses for a group: its unlinked marks, and one if it is an
unstitched restart continuation. -/
def loss (e : Entry) (s : SpanSet) : ℤ :=
  ((s.spans.map (marks .coalescedUnlinked)).sum : ℕ) +
    if unstitched e.1.group.tx s.top then 1 else 0

/-- A link loses nothing. -/
lemma loss_linkHit (e : Entry) (s : SpanSet) (fetch : FetchInfo) :
    loss e (s.modifyTop (linkHit fetch)) = loss e s := by
  simp [loss, unstitched, SpanSet.modifyTop, SpanSet.spans]

/-- A degradation loses one link. -/
lemma loss_degrade (e : Entry) (s : SpanSet) :
    loss e (s.modifyTop degrade) = loss e s + 1 := by
  have htop : unstitched e.1.group.tx (degrade s.top) = unstitched e.1.group.tx s.top := by
    simp [unstitched]
  simp only [loss, htop, SpanSet.modifyTop, SpanSet.spans, List.map_cons, List.sum_cons,
    marks_degrade, if_true]
  push_cast
  ring

/-- After stitching, the loss of a built group is the number of misses counted for it. -/
lemma Stitched.loss_eq {e : Entry} {s s' : SpanSet} {k : ℕ} (h : Stitched e.1.group.tx s s' k)
    (hs : ∀ sp ∈ s.spans, Unmarked sp) : loss e s' = k := by
  have hsum : (s'.spans.map (marks .coalescedUnlinked)).sum = 0 := by
    refine List.sum_eq_zero fun n hn => ?_
    obtain ⟨sp, hsp, rfl⟩ := List.mem_map.1 hn
    exact (h.fresh_of_unmarked hs).unlinked sp hsp
  have htop : marks .restartContinuation s.top = 0 :=
    marks_eq_zero (hs s.top (List.mem_cons_self ..)) (by simp [linkerKeys])
  rw [loss, hsum]
  cases h with
  | fresh hr => simp [unstitched, hr]
  | lost hr => simp [unstitched, hr, htop]
  | under orig hr => simp [unstitched, hr, reparentRestart, marks]

/-- One call: the misses it counts are the losses it adds to the output and the lot. -/
lemma step_loss (l : State Entry) (e : Entry) :
    weight loss (step epoch l e).1 + ((step epoch l e).2.held loss - (step epoch l e).2.misses) =
      l.held loss - l.misses + 0 := by
  cases hs : builtSet epoch e.1 with
  | none =>
    obtain ⟨hout, hl'⟩ := l.build_of_none epoch e hs
    have h := releaseAgedParked_accounts l e.1.now
    have hw := h.weigh loss_linkHit loss_degrade
    have hm := h.misses
    simp only [step, hout, hl']
    simp only [Multiset.map_zero, Multiset.sum_zero, add_zero, nsmul_eq_mul, mul_one] at hw hm ⊢
    omega
  | some s =>
    obtain ⟨m, own, new, s', k, n, hst, hfate, h⟩ := l.build_accounts epoch e hs
    have hw := h.weigh loss_linkHit loss_degrade
    rw [hfate.weigh loss_linkHit loss_degrade, hst.loss_eq (builtSet_unmarked epoch hs)] at hw
    have hm := h.misses
    simp only [step]
    simp only [nsmul_eq_mul, mul_one] at hw
    omega

/-- The misses of a run that ends in a `Flush` are the losses it released. -/
lemma weight_loss_released (cfg : Config) (calls : List Call) :
    weight loss (released epoch cfg calls) = (runNew epoch cfg calls).2.flush.2.misses := by
  have h := Transducer.run_conserves (step epoch) (fun ev => weight loss ev.2) (fun _ => 0)
    (fun l => l.held loss - l.misses) (step_loss epoch) (new cfg) calls.zipIdx
  have hflush := (runNew epoch cfg calls).2.flush_weigh loss_degrade
  have hnew : (new cfg : State Entry).held loss - (new cfg : State Entry).misses = 0 := rfl
  rw [released, weight_append, weight_flatMap, hflush]
  simp only [hnew, List.map_const', List.sum_replicate, nsmul_eq_mul,
    mul_one] at h ⊢
  simp only [State.flush, runNew] at h ⊢
  push_cast
  omega

/-- A sum of zeros and ones counts the ones. -/
lemma sum_map_eq_countP {α : Type} {f : α → ℕ} {as : List α} (h : ∀ a ∈ as, f a ≤ 1) :
    (as.map f).sum = as.countP fun a => f a ≠ 0 := by
  induction as with
  | nil => rfl
  | cons a as ih =>
    have ha := h a (List.mem_cons_self ..)
    rw [List.map_cons, List.sum_cons, ih fun b hb => h b (List.mem_cons_of_mem _ hb)]
    by_cases h0 : f a = 0
    · simp [h0]
    · simp [show f a = 1 by omega, Nat.add_comm]

/-- The losses of judged batches, counted. -/
lemma weight_loss_eq {bs : List (Batch Entry)} (h : ∀ b ∈ bs, Judged b) :
    weight loss bs =
      ((spansOf bs).countP fun sp => marks .coalescedUnlinked sp ≠ 0 : ℕ) +
        (bs.countP fun b => unstitched b.label.1.group.tx b.set.top : ℕ) := by
  induction bs with
  | nil => rfl
  | cons b bs ih =>
    have hb := sum_map_eq_countP (h b (List.mem_cons_self ..)).once
    have ih := ih fun b hb => h b (List.mem_cons_of_mem _ hb)
    simp only [weight, List.map_cons, List.sum_cons, spansOf, List.flatMap_cons,
      List.countP_append, List.countP_cons, loss] at ih ⊢
    rw [ih, hb]
    push_cast
    split_ifs <;> ring

/-- **The misses of a run** that ends in a `Flush`: one for each emitted span marked as unlinked
and one for each released restart continuation that was not stitched. -/
theorem misses_flush (cfg : Config) (calls : List Call) :
    (runNew epoch cfg calls).2.flush.2.misses =
      ((spansOf (released epoch cfg calls)).countP fun sp => marks .coalescedUnlinked sp ≠ 0) +
        (released epoch cfg calls).countP fun b => unstitched b.label.1.group.tx b.set.top := by
  have h := weight_loss_released epoch cfg calls
  rw [weight_loss_eq (released_judged epoch cfg calls)] at h
  exact_mod_cast h.symm

/-! ## Parked hits -/

/-- Whether a call built spans but did not return them itself. -/
def withheld (ev : Entry × List (Batch Entry)) : Bool :=
  builtSpans epoch ev.1.1 ≠ [] && ev.2.all fun b => b.label.2 ≠ ev.1.2

/-- The batches released from the lot carry labels of parked groups. -/
lemma Accounts.label_of_mem {γ : Type} {l l' : State γ} {m : Moves γ} {own : Multiset (Batch γ)}
    {new : Multiset (ParkedSet γ)} {n : ℕ} {out : List (Batch γ)}
    (h : Accounts l m own new n out l') {b : Batch γ} (hb : b ∈ out) :
    (∃ p ∈ l.parked, p.label = b.label) ∨ b ∈ own := by
  have hmem : ∀ p ∈ m.before, p ∈ l.parked := fun p hp => Multiset.mem_coe.1 (h.parked ▸ hp)
  have hb' : b ∈ m.released + own := h.out ▸ Multiset.mem_coe.2 hb
  simp only [Moves.released, Multiset.mem_add, Multiset.mem_map] at hb'
  rcases hb' with (⟨p, hp, rfl⟩ | ⟨⟨p, fetch⟩, hp, rfl⟩) | hb'
  · exact .inl ⟨p, hmem p (by simp [Moves.before, hp]), rfl⟩
  · refine .inl ⟨p, hmem p ?_, rfl⟩
    simp only [Moves.before, Multiset.mem_add, Multiset.mem_map]
    exact .inl (.inr ⟨(p, fetch), hp, rfl⟩)
  · exact .inr hb'

/-- A parked group was parked before, or is the one handed in. -/
lemma Accounts.mem_parked {γ : Type} {l l' : State γ} {m : Moves γ} {own : Multiset (Batch γ)}
    {new : Multiset (ParkedSet γ)} {n : ℕ} {out : List (Batch γ)}
    (h : Accounts l m own new n out l') {p : ParkedSet γ} (hp : p ∈ l'.parked) :
    p ∈ l.parked ∨ p ∈ new := by
  have hp' : p ∈ m.kept + new := h.parked' ▸ Multiset.mem_coe.2 hp
  refine (Multiset.mem_add.1 hp').imp_left fun hk => ?_
  exact Multiset.mem_coe.1 (h.parked ▸ by simp [Moves.before, hk])

/-- A group is released at once, or parked. -/
lemma Fate.withheld_iff {γ : Type} {g : γ} {tx : Tx} {s : SpanSet} {now : Time}
    {own : Multiset (Batch γ)} {new : Multiset (ParkedSet γ)} {n : ℕ}
    (h : Fate g tx s now own new n) :
    (∀ p ∈ new, p.label = g) ∧
      ((new.card = 0 ∧ ∃ b ∈ own, b.label = g) ∨ (new.card = 1 ∧ own = 0)) := by
  cases h <;> simp

/-- One call of a run: if the lot holds groups of earlier calls only, the parked counter goes up
by one exactly if the call withholds its group. -/
lemma step_hitsParked (l : State Entry) (e : Entry) (hl : ∀ p ∈ l.parked, p.label.2 ≠ e.2) :
    (step epoch l e).2.hitsParked =
      l.hitsParked + (if withheld epoch (e, (step epoch l e).1) then 1 else 0) ∧
    ∀ p ∈ (step epoch l e).2.parked, p ∈ l.parked ∨ p.label = e := by
  cases hs : builtSet epoch e.1 with
  | none =>
    obtain ⟨hout, hl'⟩ := l.build_of_none epoch e hs
    have hacc := releaseAgedParked_accounts l e.1.now
    have hw : withheld epoch (e, (step epoch l e).1) = false := by
      simp [withheld, (builtSet_eq_none epoch).1 hs]
    rw [hw]
    simp only [step, hl']
    refine ⟨by simpa using hacc.hitsParked, fun p hp => .inl ?_⟩
    simpa using hacc.mem_parked hp
  | some s =>
    obtain ⟨m, own, new, s', k, n, -, hfate, hacc⟩ := l.build_accounts epoch e hs
    have hne : builtSpans epoch e.1 ≠ [] := by
      simp [(builtSet_eq_some epoch).1 hs, SpanSet.spans]
    obtain ⟨hlabel, hcases⟩ := hfate.withheld_iff
    refine ⟨?_, fun p hp => (hacc.mem_parked hp).imp_right (hlabel p)⟩
    have hw : withheld epoch (e, (step epoch l e).1) = decide (new.card = 1) := by
      rcases hcases with ⟨h0, b, hb, hbl⟩ | ⟨h1, hown⟩
      · have hmem : b ∈ (step epoch l e).1 := Multiset.mem_coe.1 (by
          rw [step, hacc.out]
          exact Multiset.mem_add.2 (.inr hb))
        rw [h0, withheld, Bool.and_eq_false_iff.2 (.inr ?_)]
        · simp
        · exact List.all_eq_false.2 ⟨b, hmem, by simp [hbl]⟩
      · have hall : ∀ b ∈ (step epoch l e).1, b.label.2 ≠ e.2 := by
          intro b hb
          rcases hacc.label_of_mem hb with ⟨p, hp, hpl⟩ | hb
          · exact hpl ▸ hl p hp
          · simp [hown] at hb
        simpa [withheld, hne, h1] using hall
    rw [hw]
    simp only [step, hacc.hitsParked]
    rcases hcases with ⟨h0, -⟩ | ⟨h1, -⟩
    · simp [h0]
    · simp [h1]

/-- The parked counter agrees with the history, and the lot holds groups of the history. -/
structure Counted (history : List (Entry × List (Batch Entry))) (l : State Entry) : Prop where
  count : l.hitsParked = history.countP (withheld epoch)
  earlier : ∀ p ∈ l.parked, p.label ∈ history.map Prod.fst

/-- A further call keeps the count, if its position is new. -/
lemma Counted.next {history : List (Entry × List (Batch Entry))} {l : State Entry} {e : Entry}
    (h : Counted epoch history l) (hnew : e.2 ∉ history.map fun ev => ev.1.2) :
    Counted epoch (history ++ [(e, (step epoch l e).1)]) (step epoch l e).2 := by
  have hl : ∀ p ∈ l.parked, p.label.2 ≠ e.2 := by
    intro p hp he
    obtain ⟨ev, hev, hlabel⟩ := List.mem_map.1 (h.earlier p hp)
    exact hnew (List.mem_map.2 ⟨ev, hev, by rw [hlabel, he]⟩)
  obtain ⟨hcount, hmem⟩ := step_hitsParked epoch l e hl
  refine ⟨?_, fun p hp => ?_⟩
  · rw [hcount, h.count, List.countP_append, List.countP_singleton]
  · rw [List.map_append, List.mem_append]
    rcases hmem p hp with hp | hp
    · exact .inl (h.earlier p hp)
    · exact .inr (by simp [hp])

/-- The positions of the calls of a run are distinct. -/
lemma nodup_positions (cfg : Config) (calls : List Call) :
    ((runNew epoch cfg calls).1.map fun ev => ev.1.2).Nodup := by
  rw [runNew, Transducer.map_run_fst (step epoch) (fun e : Entry => e.2), List.zipIdx_map_snd]
  exact List.nodup_range'

/-- In a run, the position of a call differs from those of the calls before it. -/
lemma position_notMem {cfg : Config} {calls : List Call}
    {history : List (Entry × List (Batch Entry))} {e : Entry} {out : List (Batch Entry)}
    (h : history ++ [(e, out)] <+: (runNew epoch cfg calls).1) :
    e.2 ∉ history.map fun ev => ev.1.2 := by
  have hnodup := (h.sublist.map fun ev => ev.1.2).nodup (nodup_positions epoch cfg calls)
  rw [List.map_append, List.nodup_append] at hnodup
  exact fun hmem => hnodup.2.2 _ hmem _ (by simp) rfl

/-- **The parked hits of a run**: one for each call that built spans but did not return them.

**Proof sketch.** Along the run the lot holds groups of earlier calls only, and the positions
of calls are distinct, so a batch at the position of the current call is its own group. -/
theorem hitsParked_runNew (cfg : Config) (calls : List Call) :
    (runNew epoch cfg calls).2.hitsParked =
      (runNew epoch cfg calls).1.countP (withheld epoch) := by
  have h : Counted epoch (runNew epoch cfg calls).1 (runNew epoch cfg calls).2 :=
    Transducer.run_induction (step epoch) ⟨rfl, by simp [new]⟩ fun _ _ _ hpre h =>
      h.next epoch (position_notMem epoch hpre)
  exact h.count

/-- **Every hit gets exactly one verdict, and the counters agree with the output.** In a run of
`Build` calls on a new linker that ends in a `Flush`, the top span of every released group whose
first `Hit` record names a transaction has one origin-fetch link and no unlinked mark, or one
unlinked mark and neither a link nor the coalesced flag. The misses are the emitted spans with
an unlinked mark and the restart continuations without their mark. The parked hits are the calls
that built spans and did not return them. -/
theorem runNew_verdicts (cfg : Config) (calls : List Call) :
    (∀ b ∈ released epoch cfg calls,
      (hitVxid b.label.1.group.tx).isSome → Verdict b.set.top) ∧
    (runNew epoch cfg calls).2.flush.2.misses =
      ((spansOf (released epoch cfg calls)).countP fun sp => marks .coalescedUnlinked sp ≠ 0) +
        ((released epoch cfg calls).countP fun b => unstitched b.label.1.group.tx b.set.top) ∧
    (runNew epoch cfg calls).2.flush.2.hitsParked =
      (runNew epoch cfg calls).1.countP (withheld epoch) :=
  ⟨fun b hb => (released_judged epoch cfg calls b hb).verdict, misses_flush epoch cfg calls,
    hitsParked_runNew epoch cfg calls⟩

end CloudVinyl.Linker
