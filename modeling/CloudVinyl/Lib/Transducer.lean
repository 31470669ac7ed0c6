import Mathlib.Algebra.BigOperators.Group.List.Basic
import Mathlib.Data.List.Induction

set_option relaxedAutoImplicit false
set_option autoImplicit false

/-!
# Deterministic transducers

A transducer is a step function `σ → ι → ο × σ`: it reads an input in a state, and answers with
an output and the next state. A run is recorded as its history, the list of inputs paired with
their outputs, so that an invariant can speak about everything that went in and came out.

## Main definitions

* `Transducer.run` — the history and the final state of a run.

## Main results

* `Transducer.run_induction` — an invariant of history and state holds along every run.
* `Transducer.run_conserves` — what every step conserves, a whole run conserves.
-/

namespace Transducer

variable {σ ι ο : Type*} (step : σ → ι → ο × σ)

/-- The history of the run on a list of inputs, and the state it ends in. -/
def run : σ → List ι → List (ι × ο) × σ
  | s, [] => ([], s)
  | s, i :: is =>
    let (o, s') := step s i
    let (history, s'') := run s' is
    ((i, o) :: history, s'')

/-- A run without inputs. -/
@[simp] lemma run_nil (s : σ) : run step s [] = ([], s) := rfl

/-- A run begins with a step. -/
@[simp] lemma run_cons (s : σ) (i : ι) (is : List ι) :
    run step s (i :: is) =
      ((i, (step s i).1) :: (run step (step s i).2 is).1, (run step (step s i).2 is).2) := rfl

/-- A run on two lists of inputs is a run on the first continued on the second. -/
lemma run_append (s : σ) (is js : List ι) :
    run step s (is ++ js) =
      ((run step s is).1 ++ (run step (run step s is).2 js).1,
        (run step (run step s is).2 js).2) := by
  induction is generalizing s with
  | nil => simp
  | cons i is ih => simp [ih]

/-- The inputs of the history are those of the run. -/
@[simp] lemma map_fst_run (s : σ) (is : List ι) : (run step s is).1.map Prod.fst = is := by
  induction is generalizing s with
  | nil => rfl
  | cons i is ih => simp [ih]

/-- What depends on the inputs only can be read off the inputs. -/
lemma map_run_fst {β : Type*} (f : ι → β) (s : σ) (is : List ι) :
    ((run step s is).1.map fun ev => f ev.1) = is.map f := by
  conv_rhs => rw [← map_fst_run step s is, List.map_map]
  rfl

/-- **Invariants of history and state.** What holds of the empty history and is kept when a step
is appended holds of every run. The step may use that its history is part of the whole one.

**Proof sketch.** Induction on the inputs from the right, so that the history of the induction
hypothesis is the one the last step extends. -/
theorem run_induction {P : List (ι × ο) → σ → Prop} {s₀ : σ} {is : List ι} (init : P [] s₀)
    (next : ∀ history s i, history ++ [(i, (step s i).1)] <+: (run step s₀ is).1 →
      P history s → P (history ++ [(i, (step s i).1)]) (step s i).2) :
    P (run step s₀ is).1 (run step s₀ is).2 := by
  induction is using List.reverseRecOn with
  | nil => exact init
  | append_singleton is i ih =>
    simp only [run_append, run_cons, run_nil] at next ⊢
    refine next _ _ i List.prefix_rfl (ih fun history s j hj => next history s j ?_)
    exact hj.trans (List.prefix_append _ _)

/-- **Conservation.** If every step hands out what it no longer holds, so does a run: what the
outputs amount to, with what is held at the end, is what was held at first and came due. -/
theorem run_conserves {M : Type*} [AddCommMonoid M] (out due : ι × ο → M) (held : σ → M)
    (h : ∀ s i, out (i, (step s i).1) + held (step s i).2 = held s + due (i, (step s i).1))
    (s : σ) (is : List ι) :
    ((run step s is).1.map out).sum + held (run step s is).2 =
      held s + ((run step s is).1.map due).sum := by
  refine run_induction step
    (P := fun history s' => (history.map out).sum + held s' = held s + (history.map due).sum)
    (by simp) (fun history s' i _ ih => ?_)
  rw [List.map_append, List.map_append, List.sum_append, List.sum_append, List.map_singleton,
    List.map_singleton, List.sum_singleton, List.sum_singleton, add_assoc, h s' i, ← add_assoc,
    ih, add_assoc]

end Transducer
