import Mathlib.Algebra.BigOperators.Group.List.Basic
import Mathlib.Algebra.Order.BigOperators.Group.List
import Mathlib.Algebra.Order.Group.Int
import Mathlib.Algebra.Ring.Int.Defs

set_option relaxedAutoImplicit false
set_option autoImplicit false

/-!
# Machine integers that wrap around

The value of a sum or a product of machine integers is the balanced residue of the number modulo
the size of the word (`Int.bmod`). It is the number itself if that fits; otherwise it is off by a
multiple of the size, and a number that is too great comes out too small.

## Main definitions

* `Wrapping.sum` — a sum that wraps around at each step.

## Main results

* `Wrapping.bmod_le_sub`, `Wrapping.bmod_le_self` — a number that does not fit comes out smaller by
  the size, at least, and a natural number never greater.
* `Wrapping.sum_eq_bmod` — only the last step matters.
* `Wrapping.sum_eq_iff` — when a sum of natural numbers is right.
-/

namespace Wrapping

variable {m : ℕ}

/-- A number that is too great for the word comes out smaller. -/
lemma bmod_le_sub (hm : 0 < m) {n : ℤ} (h : ((m : ℤ) + 1) / 2 ≤ n) : n.bmod m ≤ n - m := by
  have hlt : n.bmod m < ((m : ℤ) + 1) / 2 := Int.bmod_lt hm
  have hres : n.bmod m = n - m * n.bdiv m := Int.bmod_eq_self_sub_mul_bdiv n m
  have hpos : (0 : ℤ) < m * n.bdiv m := by omega
  have hone : 1 ≤ n.bdiv m := by
    by_contra hle
    have hnonpos : (m : ℤ) * n.bdiv m ≤ m * 0 :=
      Int.mul_le_mul_of_nonneg_left (by omega) (by omega)
    omega
  have hmul : (m : ℤ) * 1 ≤ m * n.bdiv m := Int.mul_le_mul_of_nonneg_left hone (by omega)
  omega

/-- A natural number does not come out greater. -/
lemma bmod_le_self (hm : 0 < m) {n : ℤ} (h : 0 ≤ n) : n.bmod m ≤ n := by
  rcases lt_or_ge n (((m : ℤ) + 1) / 2) with hfits | hgreat
  · rw [Int.bmod_eq_of_le (by omega) hfits]
  · have hsub := bmod_le_sub hm hgreat
    omega

/-- The sum of the numbers, one after the other, in words of size `m`. -/
def sum (m : ℕ) (l : List ℤ) : ℤ := l.foldl (fun acc n => (acc + n).bmod m) 0

/-- A sum that wraps at every step is the sum, wrapped once. -/
lemma foldl_eq_bmod (l : List ℤ) (acc : ℤ) :
    l.foldl (fun acc n => (acc + n).bmod m) (acc.bmod m) = (acc + l.sum).bmod m := by
  induction l generalizing acc with
  | nil => simp
  | cons n l ih =>
    rw [List.foldl_cons, Int.bmod_add_bmod, ih, List.sum_cons, add_assoc]

/-- **Only the last step matters**: the sum is the residue of the sum of the numbers. -/
theorem sum_eq_bmod (l : List ℤ) : sum m l = l.sum.bmod m := by
  have hfold := foldl_eq_bmod (m := m) l 0
  rwa [Int.zero_bmod, zero_add] at hfold

/-- **When a sum of natural numbers is right**: if it fits. It is too small otherwise. -/
theorem sum_eq_iff (hm : 0 < m) {l : List ℤ} (hl : ∀ n ∈ l, 0 ≤ n) :
    sum m l = l.sum ↔ l.sum < ((m : ℤ) + 1) / 2 := by
  have hnonneg : 0 ≤ l.sum := List.sum_nonneg hl
  rw [sum_eq_bmod]
  constructor
  · intro h
    rw [← h]
    exact Int.bmod_lt hm
  · intro h
    exact Int.bmod_eq_of_le (by omega) h

end Wrapping
