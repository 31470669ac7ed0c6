import Mathlib.Data.List.Range
import Mathlib.Data.List.Perm.Basic

set_option relaxedAutoImplicit false
set_option autoImplicit false

/-!
# Workers with slots of their own

A number of workers run at the same time. Each of them works on one element of a list, and writes
what comes out to the slot at its position. When all of them have ended, the slots do not tell in
which order they did.

## Main definitions

* `FanOut.Order` — an order of the workers.
* `FanOut.slots` — the slots after the workers have ended in some order.

## Main results

* `FanOut.slots_eq_mapIdx` — the slots are those of workers that run one after the other.
* `FanOut.Order.filterMap_perm` — what the workers do in some order, they do in the order of the
  list.
-/

namespace FanOut

variable {α β : Type}

/-- An order of `n` workers. -/
structure Order (n : ℕ) where
  list : List ℕ
  perm : list.Perm (List.range n)

/-- The workers one after the other. -/
def Order.sequential (n : ℕ) : Order n := ⟨List.range n, List.Perm.refl _⟩

/-- The slots after the workers have ended in the given order. -/
def slots (init : List β) (f : ℕ → β) (order : List ℕ) : List β :=
  order.foldl (fun s i => s.set i (f i)) init

/-- A slot has what its worker wrote, if the worker has ended. -/
lemma getElem?_slots (init : List β) (f : ℕ → β) (order : List ℕ) (j : ℕ) :
    (slots init f order)[j]? = if j ∈ order ∧ j < init.length then some (f j) else init[j]? := by
  unfold slots
  induction order generalizing init with
  | nil => simp
  | cons i order ih =>
    rw [List.foldl_cons, ih, List.length_set, List.getElem?_set]
    by_cases hj : j < init.length
    · by_cases hmem : j ∈ order
      · simp [hj, hmem]
      · by_cases hi : i = j
        · simp [hj, hi]
        · simp [hmem, hi, Ne.symm hi]
    · have hnone : init[j]? = none := List.getElem?_eq_none (Nat.le_of_not_lt hj)
      by_cases hi : i = j
      · simp [hj, hi]
      · simp [hj, hi]

/-- **The order is forgotten.** When all workers have ended, each slot has what its worker wrote. -/
theorem slots_eq_map {n : ℕ} {init : List β} (hlength : init.length = n) (f : ℕ → β)
    (o : Order n) : slots init f o.list = (List.range n).map f := by
  refine List.ext_getElem? fun j => ?_
  rw [getElem?_slots, List.getElem?_map]
  by_cases hj : j < n
  · have hmem : j ∈ o.list := o.perm.mem_iff.2 (List.mem_range.2 hj)
    rw [if_pos ⟨hmem, hlength ▸ hj⟩, List.getElem?_range hj, Option.map_some]
  · have hrange : (List.range n)[j]? = none :=
      List.getElem?_eq_none (by rw [List.length_range]; exact Nat.le_of_not_lt hj)
    rw [if_neg fun h => hj (hlength ▸ h.2), hrange, Option.map_none,
      List.getElem?_eq_none (by rw [hlength]; exact Nat.le_of_not_lt hj)]

/-- Workers by position are workers on the elements of the list. -/
lemma map_range_eq_mapIdx (f : ℕ → α → β) (l : List α) (d : α) :
    (List.range l.length).map (fun i => f i (l.getD i d)) = l.mapIdx f := by
  refine List.ext_getElem (by simp) fun j hj hj' => ?_
  rw [List.length_mapIdx] at hj'
  simp [hj']

/-- A list is read off at its positions. -/
lemma map_range_getD (l : List α) (d : α) : (List.range l.length).map (l.getD · d) = l := by
  refine List.ext_getElem (by simp) fun j hj hj' => ?_
  simp [hj']

/-- The slots of the workers on the elements of a list. -/
theorem slots_eq_mapIdx (f : ℕ → α → β) (l : List α) (d : α) (init : β) (o : Order l.length) :
    slots (List.replicate l.length init) (fun i => f i (l.getD i d)) o.list = l.mapIdx f := by
  rw [slots_eq_map List.length_replicate, map_range_eq_mapIdx]

/-- In whatever order the calls end, their results are the same up to it. -/
lemma Order.filterMap_perm {n : ℕ} (o : Order n) (g : ℕ → Option β) :
    (o.list.filterMap g).Perm ((List.range n).filterMap g) :=
  o.perm.filterMap g

end FanOut
