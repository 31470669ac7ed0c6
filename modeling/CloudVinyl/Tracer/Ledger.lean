import CloudVinyl.Tracer.Moves

set_option relaxedAutoImplicit false
set_option autoImplicit false

/-!
# The linker neither loses nor duplicates spans

Whatever the linker withholds it releases exactly once. The lot and the output together weigh
what was handed in, when every group weighs one token made of its label and its spans, taken up
to the fields the linker may change.

## Main definitions

* `Linker.core` — a span without the fields the linker may change.

## Main results

* `Linker.released_perm` — the released batches are the groups that were built.
* `Linker.runNew_releases_once` — the same for the flat list of spans that the calls return,
  with the bound on the parking lot.
-/

namespace CloudVinyl.Linker

open Vsl Spans

/-! ## What the linker leaves alone -/

/-- A span without its trace, its parent, its attributes and its links. -/
def core (sp : Span) : Span := { sp with traceID := 0, parentID := 0, attrs := [], links := [] }

/-- The cores of the spans of a group, in order. -/
def SpanSet.core (s : SpanSet) : List Span := s.spans.map Linker.core

/-- Stitching changes only what the linker sets. -/
@[simp] lemma core_reparentRestart (orig : RestartInfo) (s : SpanSet) :
    (reparentRestart orig s).core = s.core := by
  have hbelow : ∀ sp ∈ s.below, core
      (if sp.traceID = s.top.traceID then { sp with traceID := orig.traceID } else sp) =
      core sp := by
    intro sp _
    split_ifs <;> rfl
  simpa [SpanSet.core, SpanSet.spans, reparentRestart, core] using hbelow

/-- So a stitched group has the spans that were built. -/
lemma Stitched.core_eq {tx : Tx} {s s' : SpanSet} {k : ℕ} (h : Stitched tx s s' k) :
    s'.core = s.core := by
  cases h with
  | fresh _ => rfl
  | under orig _ => exact core_reparentRestart orig s
  | lost _ => rfl

/-! ## The ledger -/

variable {γ : Type}

/-- The token of a group: its label and the cores of its spans. -/
def token (g : γ) (s : SpanSet) : Multiset (γ × List Span) := {(g, s.core)}

/-- With tokens the weight is the multiset of what was released. -/
lemma weight_token (bs : List (Batch γ)) :
    weight token bs = ↑(bs.map fun b => (b.label, b.set.core)) := by
  induction bs with
  | nil => rfl
  | cons b bs ih => simpa [weight, token, ← Multiset.cons_coe] using ih

variable (epoch : Text → Option Time)

/-- What comes due with a call: the token of its group, if that has spans. -/
def due (g : γ) (c : Call) : Multiset (γ × List Span) := ((builtSet epoch c).map (token g)).getD 0

/-- One call: what is released and withheld is what was withheld before and what came due. -/
lemma State.build_ledger (l : State γ) (g : γ) (c : Call) :
    weight token (l.build epoch g c).1 + (l.build epoch g c).2.2.held token =
      l.held token + due epoch g c := by
  have hlink : ∀ (g : γ) s fetch, token g (s.modifyTop (linkHit fetch)) = token g s :=
    fun _ _ _ => rfl
  have hdeg : ∀ (g : γ) s, token g (s.modifyTop degrade) = token g s + 0 :=
    fun _ _ => (add_zero _).symm
  cases hs : builtSet epoch c with
  | none =>
    obtain ⟨hout, hl⟩ := l.build_of_none epoch g hs
    rw [hout, hl, (releaseAgedParked_accounts l c.now).weigh hlink hdeg]
    simp [due, hs]
  | some s =>
    obtain ⟨m, own, new, s', k, n, hst, hfate, h⟩ := l.build_accounts epoch g hs
    rw [h.weigh hlink hdeg, hfate.weigh hlink hdeg]
    simp [due, hs, token, hst.core_eq]

/-- The parking lot keeps to its bound. -/
lemma State.build_room (l : State γ) (g : γ) (c : Call)
    (h : l.parked.length ≤ l.cfg.maxParked) :
    (l.build epoch g c).2.2.parked.length ≤ (l.build epoch g c).2.2.cfg.maxParked := by
  cases hs : builtSet epoch c with
  | none =>
    rw [(l.build_of_none epoch g hs).2]
    exact (releaseAgedParked_accounts l c.now).room h
  | some s =>
    obtain ⟨m, own, new, s', k, n, -, -, hacc⟩ := l.build_accounts epoch g hs
    rw [hacc.cfg]
    exact hacc.room h

/-- `Build` keeps the configuration. -/
lemma State.build_cfg (l : State γ) (g : γ) (c : Call) :
    (l.build epoch g c).2.2.cfg = l.cfg := by
  cases hs : builtSet epoch c with
  | none =>
    rw [(l.build_of_none epoch g hs).2]
    exact (releaseAgedParked_accounts l c.now).cfg
  | some s =>
    obtain ⟨m, own, new, s', k, n, -, -, hacc⟩ := l.build_accounts epoch g hs
    exact hacc.cfg

/-! ## Whole runs -/

/-- The lot is within its bound in every state of a run. -/
lemma runNew_room (cfg : Config) (calls : List Call) :
    (runNew epoch cfg calls).2.parked.length ≤ cfg.maxParked := by
  have h : (runNew epoch cfg calls).2.cfg = cfg ∧
      (runNew epoch cfg calls).2.parked.length ≤ (runNew epoch cfg calls).2.cfg.maxParked := by
    refine Transducer.run_induction (step epoch)
      (P := fun _ l => l.cfg = cfg ∧ l.parked.length ≤ l.cfg.maxParked)
      ⟨rfl, Nat.zero_le _⟩ (fun _ l e _ h => ?_)
    exact ⟨(l.build_cfg epoch e e.1).trans h.1, l.build_room epoch e e.1 h.2⟩
  rw [h.1] at h
  exact h.2

/-- The ledger of a run that ends in a `Flush`: everything due has been released. -/
lemma released_ledger (cfg : Config) (calls : List Call) :
    weight token (released epoch cfg calls) = (calls.zipIdx.map fun e => due epoch e e.1).sum := by
  have h := Transducer.run_conserves (step epoch) (fun ev => weight token ev.2)
    (fun ev => due epoch ev.1 ev.1.1) (State.held token)
    (fun l e => l.build_ledger epoch e e.1) (new cfg) calls.zipIdx
  have hflush := (runNew epoch cfg calls).2.flush_weigh (w := token) (δ := 0)
    fun _ _ => (add_zero _).symm
  have hnew : (new cfg : State Entry).held token = 0 := rfl
  rw [Transducer.map_run_fst (step epoch) (fun e => due epoch e e.1), hnew, zero_add] at h
  rw [released, weight_append, weight_flatMap, hflush, nsmul_zero, add_zero]
  exact h

/-- The calls of a run that built spans, each with its position. -/
def building (calls : List Call) : List Entry :=
  calls.zipIdx.filter fun e => builtSpans epoch e.1 ≠ []

/-- What came due in a run: the tokens of the groups that were built. -/
lemma sum_due (entries : List Entry) :
    (entries.map fun e => due epoch e e.1).sum =
      ↑((entries.filter fun e => builtSpans epoch e.1 ≠ []).map fun e =>
        (e, (builtSpans epoch e.1).map core)) := by
  induction entries with
  | nil => rfl
  | cons e entries ih =>
    rw [List.map_cons, List.sum_cons, ih]
    cases hs : builtSet epoch e.1 with
    | none => simp [due, hs, (builtSet_eq_none epoch).1 hs]
    | some s =>
      have hspans := (builtSet_eq_some epoch).1 hs
      have hne : builtSpans epoch e.1 ≠ [] := by simp [hspans, SpanSet.spans]
      rw [List.filter_cons_of_pos (by simpa using hne)]
      simp [due, hs, token, hspans, SpanSet.core]

/-- **The released batches are the groups that were built**, each once and with its spans in
order, up to the fields the linker may change. -/
theorem released_perm (cfg : Config) (calls : List Call) :
    ((released epoch cfg calls).map fun b => (b.label, b.set.core)).Perm
      ((building epoch calls).map fun e => (e, (builtSpans epoch e.1).map core)) := by
  have h := released_ledger epoch cfg calls
  rw [weight_token, sum_due] at h
  exact Multiset.coe_eq_coe.1 h

/-- **The linker neither loses nor duplicates spans.** In a run of `Build` calls on a new linker
the parking lot never holds more than `maxParked` groups. The spans returned by the calls and by
a final `Flush` are, group after group in some order, the spans built for each group that has
any, in their original order and changed at most in trace, parent, attributes and links. After
the `Flush` the lot is empty.

**Proof sketch.** The bound is kept by every call (`runNew_room`). The order is that of the
labels of the released batches; by `released_perm` these are the labels of the built groups,
and each batch has the core of the group its label names. -/
theorem runNew_releases_once (cfg : Config) (calls : List Call) :
    (∀ n, (runNew epoch cfg (calls.take n)).2.parked.length ≤ cfg.maxParked) ∧
    (∃ order : List Entry, order.Perm (building epoch calls) ∧
      (spansOf (released epoch cfg calls)).map core =
        order.flatMap fun e => (builtSpans epoch e.1).map core) ∧
    (runNew epoch cfg calls).2.flush.2.parked = [] := by
  refine ⟨fun n => runNew_room epoch cfg _, ?_, rfl⟩
  have hperm := released_perm epoch cfg calls
  refine ⟨(released epoch cfg calls).map Batch.label, ?_, ?_⟩
  · simpa [Function.comp_def] using hperm.map Prod.fst
  · have hcore : ∀ b ∈ released epoch cfg calls,
        b.set.core = (builtSpans epoch b.label.1).map core := by
      intro b hb
      have hmem := hperm.subset (List.mem_map_of_mem hb)
      obtain ⟨e, -, he⟩ := List.mem_map.1 hmem
      obtain ⟨rfl, hcore⟩ := Prod.mk.inj he
      exact hcore.symm
    rw [spansOf, List.map_flatMap, List.flatMap_map]
    exact List.flatMap_congr hcore

end CloudVinyl.Linker
