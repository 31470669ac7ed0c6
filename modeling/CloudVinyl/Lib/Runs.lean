import Mathlib.Logic.Basic

set_option relaxedAutoImplicit false
set_option autoImplicit false

/-!
# Runs of guarded steps

A system takes one step for each event. A run is guarded if every one of its steps meets a
condition on the event and on the state before it. What such steps preserve holds in every state
of a guarded run.

## Main definitions

* `Runs.Guarded` — every step of a run meets the condition.
* `Runs.Happened` — an event of a history, with what came before it.

## Main results

* `Runs.invariant` — what the guarded steps preserve holds at the end of a guarded run.
* `Runs.guarded_append` — a run in two parts.
-/

namespace Runs

variable {σ ε : Type} {step : σ → ε → σ} {good : σ → ε → Prop}

/-- Every step of the run from `s` meets the condition. -/
def Guarded (step : σ → ε → σ) (good : σ → ε → Prop) : σ → List ε → Prop
  | _, [] => True
  | s, e :: es => good s e ∧ Guarded step good (step s e) es

/-- A guarded run can be told if each guard can. -/
instance [∀ s e, Decidable (good s e)] (s : σ) (es : List ε) :
    Decidable (Guarded step good s es) :=
  match es with
  | [] => inferInstanceAs (Decidable True)
  | e :: es =>
    have := instDecidableGuarded (step s e) es
    inferInstanceAs (Decidable (good s e ∧ Guarded step good (step s e) es))

/-- A run is guarded if its first part is, and its second part from there on. -/
lemma guarded_append {s : σ} {es fs : List ε} :
    Guarded step good s (es ++ fs) ↔
      Guarded step good s es ∧ Guarded step good (es.foldl step s) fs := by
  induction es generalizing s with
  | nil => simp [Guarded]
  | cons e es ih => simp [Guarded, ih, and_assoc]

/-- An event of the history meets the condition, which may be on what came before it too. -/
def Happened (es : List ε) (p : List ε → ε → Prop) : Prop :=
  ∃ pre e post, es = pre ++ e :: post ∧ p pre e

/-- What happens at the last event has happened. -/
lemma Happened.now {es : List ε} {e : ε} {p : List ε → ε → Prop} (h : p es e) :
    Happened (es ++ [e]) p :=
  ⟨es, e, [], rfl, h⟩

/-- What has happened stays so. -/
lemma Happened.later {es : List ε} {p : List ε → ε → Prop} (h : Happened es p) (e : ε) :
    Happened (es ++ [e]) p := by
  obtain ⟨pre, e', post, rfl, hp⟩ := h
  exact ⟨pre, e', post ++ [e], by simp, hp⟩

/-- **Invariants of guarded runs.** -/
theorem invariant {I : σ → Prop} (hstep : ∀ s e, I s → good s e → I (step s e)) {s : σ}
    {es : List ε} (hs : I s) (hes : Guarded step good s es) : I (es.foldl step s) := by
  induction es generalizing s with
  | nil => exact hs
  | cons e es ih => exact ih (hstep s e hs hes.1) hes.2

end Runs
