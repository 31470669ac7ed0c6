import Mathlib.Data.List.Sort

set_option relaxedAutoImplicit false
set_option autoImplicit false

/-!
# Sorting by a key

A sorting function puts a list in the order of the keys of its elements. Unless it is stable, the
order in which it leaves elements with the same key is its own affair, and may be another one for
another list of the same elements.

## Main definitions

* `Sorter` — a function that sorts by a key.
* `Sorter.stable` — one that keeps the order of elements with the same key.

## Main results

* `Sorter.forall_run_eq_iff` — when all sorting functions give the same result for two lists of the
  same elements.
-/

variable {α κ : Type} {key : α → κ}

namespace Sorter

/-- If two elements have the same key, they may change places. -/
lemma exists_perm_ne {l : List α} {a b : α} (ha : a ∈ l) (hb : b ∈ l) (hne : a ≠ b)
    (hkey : key a = key b) : ∃ r, r.Perm l ∧ r.map key = l.map key ∧ r ≠ l := by
  -- the earlier one of the two is taken for `a`
  have hswap : ∀ {a b : α} {u v w : List α}, a ≠ b → key a = key b →
      ∃ r, r.Perm (u ++ a :: (v ++ b :: w)) ∧ r.map key = (u ++ a :: (v ++ b :: w)).map key ∧
        r ≠ u ++ a :: (v ++ b :: w) := by
    intro a b u v w hne hkey
    refine ⟨u ++ b :: (v ++ a :: w), ?_, ?_, ?_⟩
    · refine List.Perm.append_left u ?_
      calc (b :: (v ++ a :: w)).Perm (b :: a :: (v ++ w)) := List.perm_middle.cons b
        _ |>.Perm (a :: b :: (v ++ w)) := List.Perm.swap a b _
        _ |>.Perm (a :: (v ++ b :: w)) := List.perm_middle.symm.cons a
    · simp [hkey]
    · intro heq
      have hcons := List.append_cancel_left heq
      exact hne (List.cons.inj hcons).1.symm
  obtain ⟨u, t, rfl⟩ := List.append_of_mem ha
  rcases List.mem_append.1 hb with hb | hb
  · obtain ⟨u, v, rfl⟩ := List.append_of_mem hb
    rw [List.append_assoc, List.cons_append]
    exact hswap hne.symm hkey.symm
  · obtain ⟨v, w, rfl⟩ := List.append_of_mem ((List.mem_cons.1 hb).resolve_left hne.symm)
    exact hswap hne hkey

end Sorter

variable [LinearOrder κ]

/-- A function that sorts lists by a key. -/
structure Sorter (key : α → κ) where
  run : List α → List α
  perm : ∀ l, (run l).Perm l
  sorted : ∀ l, ((run l).map key).Pairwise (· ≤ ·)

namespace Sorter

/-- Sorting keeps the members. -/
lemma mem_run (s : Sorter key) {l : List α} {a : α} : a ∈ s.run l ↔ a ∈ l := (s.perm l).mem_iff

/-- Sorting adds no repetitions. -/
lemma nodup_run (s : Sorter key) {l : List α} : (s.run l).Nodup ↔ l.Nodup := (s.perm l).nodup_iff

/-- Lists that are sorted alike have the same members. -/
lemma perm_of_run_eq (s : Sorter key) {l m : List α} (h : s.run l = s.run m) : l.Perm m := by
  have hl := (s.perm l).symm
  rw [h] at hl
  exact hl.trans (s.perm m)

/-- The sorting function that keeps the order of elements with the same key. -/
def stable (key : α → κ) : Sorter key where
  run l := l.mergeSort fun a b => key a ≤ key b
  perm l := List.mergeSort_perm l _
  sorted l := by
    have hsorted : (l.mergeSort fun a b => decide (key a ≤ key b)).Pairwise
        fun a b => decide (key a ≤ key b) = true := by
      refine List.pairwise_mergeSort (fun a b c hab hbc => ?_) (fun a b => ?_) l
      · rw [decide_eq_true_eq] at hab hbc ⊢
        exact hab.trans hbc
      · rw [Bool.or_eq_true, decide_eq_true_eq, decide_eq_true_eq]
        exact le_total _ _
    rw [List.pairwise_map]
    exact hsorted.imp fun h => of_decide_eq_true h

/-- Another function that sorts one list in another way. -/
def override [DecidableEq α] (s : Sorter key) (l r : List α) (hperm : r.Perm l)
    (hsorted : (r.map key).Pairwise (· ≤ ·)) : Sorter key where
  run m := if m = l then r else s.run m
  perm m := by
    split_ifs with h
    · exact h ▸ hperm
    · exact s.perm m
  sorted m := by
    split_ifs with h
    · exact hsorted
    · exact s.sorted m

/-- If the keys are distinct, there is one order. -/
lemma run_eq_of_perm (s : Sorter key) {l m : List α} (h : l.Perm m)
    (hkey : ∀ a ∈ l, ∀ b ∈ l, key a = key b → a = b) : s.run l = s.run m := by
  have hsorted (n : List α) : (s.run n).Pairwise fun a b => key a ≤ key b :=
    List.pairwise_map.1 (s.sorted n)
  refine List.Perm.eq_of_pairwise ?_ (hsorted l) (hsorted m)
    ((s.perm l).trans (h.trans (s.perm m).symm))
  intro a b ha hb hab hba
  exact hkey a (s.mem_run.1 ha) b (h.mem_iff.2 (s.mem_run.1 hb)) (le_antisymm hab hba)

/-- **When sorting forgets the order of a list.** All functions that sort by a key give the same
result for two lists of the same elements just when the lists are the same or no two elements have
the same key.

**Proof sketch.** If two elements have the same key, take any function and let another one have them
in the opposite order in its result for the first list only. -/
theorem forall_run_eq_iff [DecidableEq α] {l m : List α} (h : l.Perm m) :
    (∀ s : Sorter key, s.run l = s.run m) ↔
      l = m ∨ ∀ a ∈ l, ∀ b ∈ l, key a = key b → a = b := by
  constructor
  · intro hall
    by_contra hcon
    rw [not_or] at hcon
    obtain ⟨hne, hkeys⟩ := hcon
    push Not at hkeys
    obtain ⟨a, ha, b, hb, hkey, hab⟩ := hkeys
    let s : Sorter key := stable key
    obtain ⟨r, hperm, hmap, hr⟩ :=
      exists_perm_ne (s.mem_run.2 ha) (s.mem_run.2 hb) hab hkey
    have hother := hall (s.override l r (hperm.trans (s.perm l)) (hmap ▸ s.sorted l))
    have hl : (s.override l r (hperm.trans (s.perm l)) (hmap ▸ s.sorted l)).run l = r := if_pos rfl
    have hm : (s.override l r (hperm.trans (s.perm l)) (hmap ▸ s.sorted l)).run m = s.run m :=
      if_neg (Ne.symm hne)
    rw [hl, hm, ← hall s] at hother
    exact hr hother
  · rintro (rfl | hkeys) s
    · rfl
    · exact s.run_eq_of_perm h hkeys

end Sorter
