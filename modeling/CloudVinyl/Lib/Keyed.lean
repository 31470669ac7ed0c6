import Mathlib.Data.List.Nodup

set_option relaxedAutoImplicit false
set_option autoImplicit false

/-!
# Collections with one object for each key

A collection of objects, each with a key of its own. A list of them has all of them, but it may come
in any order.

## Main definitions

* `Listing` — an order in which objects are listed.

* `Keyed` — a list of objects with different keys.
* `Keyed.get`, `Keyed.put`, `Keyed.delete` — the object of a key, and the two updates.

## Main results

* `Keyed.get_put`, `Keyed.get_delete` — what an update does to the object of a key.
* `Keyed.filter_put`, `Keyed.filter_delete` — a selection that has neither the old nor the new
  object does not see an update.
-/

/-- A way to list objects: each of them once, in some order. -/
structure Listing (α : Type) where
  run : List α → List α
  perm : ∀ l, (run l).Perm l

namespace Listing

variable {α : Type}

/-- The objects in the order in which they are held. -/
def inOrder : Listing α := ⟨id, List.Perm.refl⟩

/-- The objects the other way round. -/
def reversed : Listing α := ⟨List.reverse, List.reverse_perm⟩

/-- All objects are listed. -/
lemma mem_run (o : Listing α) {l : List α} {a : α} : a ∈ o.run l ↔ a ∈ l := (o.perm l).mem_iff

end Listing

/-- Objects with different keys. -/
structure Keyed {α κ : Type} (key : α → κ) where
  objects : List α
  nodup : (objects.map key).Nodup

namespace Keyed

variable {α κ : Type} {key : α → κ}

/-- No objects. -/
def empty : Keyed key := ⟨[], List.nodup_nil⟩

/-- There is one object of a key. -/
lemma eq_of_key_eq (l : Keyed key) {x y : α} (hx : x ∈ l.objects) (hy : y ∈ l.objects)
    (h : key x = key y) : x = y :=
  List.inj_on_of_nodup_map l.nodup hx hy h

variable [DecidableEq κ]

/-- The object of a key. -/
def get (l : Keyed key) (k : κ) : Option α := l.objects.find? fun x => key x = k

/-- The object of a key is the member with that key. -/
lemma get_eq_some_iff (l : Keyed key) {k : κ} {x : α} :
    l.get k = some x ↔ x ∈ l.objects ∧ key x = k := by
  constructor
  · intro h
    exact ⟨List.mem_of_find?_eq_some h, by simpa using List.find?_some h⟩
  · rintro ⟨hx, hk⟩
    obtain ⟨y, hy⟩ : ∃ y, l.get k = some y :=
      Option.isSome_iff_exists.1 (List.find?_isSome.2 ⟨x, hx, by simpa using hk⟩)
    have hyk : key y = k := by simpa using List.find?_some hy
    rw [hy, l.eq_of_key_eq (List.mem_of_find?_eq_some hy) hx (hyk.trans hk.symm)]

/-- A new object takes the place of the one with its key, or comes last. -/
def put (l : Keyed key) (x : α) : Keyed key where
  objects :=
    if key x ∈ l.objects.map key then l.objects.map fun y => if key y = key x then x else y
    else l.objects ++ [x]
  nodup := by
    split_ifs with h
    · rw [List.map_map]
      have hsame : key ∘ (fun y => if key y = key x then x else y) = key := by
        funext y
        simp only [Function.comp_apply]
        split_ifs with hy
        · exact hy.symm
        · rfl
      rw [hsame]
      exact l.nodup
    · rw [List.map_append, List.map_singleton, ← List.concat_eq_append]
      exact l.nodup.concat h

/-- The objects without the one of a key. -/
def delete (l : Keyed key) (k : κ) : Keyed key where
  objects := l.objects.filter fun x => key x ≠ k
  nodup := l.nodup.sublist (List.filter_sublist.map key)

/-- The members after an object was put. -/
lemma mem_put (l : Keyed key) {x y : α} :
    y ∈ (l.put x).objects ↔ y = x ∨ y ∈ l.objects ∧ key y ≠ key x := by
  unfold put
  split_ifs with h
  · simp only [List.mem_map]
    constructor
    · rintro ⟨z, hz, rfl⟩
      split_ifs with hk
      · exact .inl rfl
      · exact .inr ⟨hz, hk⟩
    · rintro (rfl | ⟨hy, hk⟩)
      · obtain ⟨z, hz, hk⟩ := List.mem_map.1 h
        exact ⟨z, hz, if_pos hk⟩
      · exact ⟨y, hy, if_neg hk⟩
  · rw [List.mem_append, List.mem_singleton]
    constructor
    · rintro (hy | rfl)
      · exact .inr ⟨hy, fun hk => h (hk ▸ List.mem_map_of_mem hy)⟩
      · exact .inl rfl
    · rintro (rfl | ⟨hy, -⟩)
      · exact .inr rfl
      · exact .inl hy

/-- The members after a key was deleted. -/
lemma mem_delete (l : Keyed key) {k : κ} {y : α} :
    y ∈ (l.delete k).objects ↔ y ∈ l.objects ∧ key y ≠ k := by
  simp [delete]

/-- A put shows at the key of the object and nowhere else. -/
lemma get_put (l : Keyed key) (x : α) (k : κ) :
    (l.put x).get k = if k = key x then some x else l.get k := by
  ext y
  split_ifs with h
  · rw [get_eq_some_iff, mem_put, h, Option.some.injEq]
    constructor
    · rintro ⟨rfl | ⟨-, hne⟩, hk⟩
      · rfl
      · exact absurd hk hne
    · rintro rfl
      exact ⟨.inl rfl, rfl⟩
  · rw [get_eq_some_iff, mem_put, get_eq_some_iff]
    constructor
    · rintro ⟨rfl | ⟨hy, -⟩, hk⟩
      · exact absurd hk.symm h
      · exact ⟨hy, hk⟩
    · rintro ⟨hy, hk⟩
      exact ⟨.inr ⟨hy, fun heq => h (hk.symm.trans heq)⟩, hk⟩

/-- A deletion shows at its key and nowhere else. -/
lemma get_delete (l : Keyed key) (k' k : κ) :
    (l.delete k').get k = if k = k' then none else l.get k := by
  ext y
  split_ifs with h
  · rw [get_eq_some_iff, mem_delete, h]
    simp
  · rw [get_eq_some_iff, mem_delete, get_eq_some_iff]
    constructor
    · rintro ⟨⟨hy, -⟩, hk⟩
      exact ⟨hy, hk⟩
    · rintro ⟨hy, hk⟩
      exact ⟨⟨hy, fun heq => h (hk.symm.trans heq)⟩, hk⟩

/-- A selection does not see that objects outside it are replaced by one outside it. -/
lemma filter_map_replace {objects : List α} {x : α} {p : α → Bool}
    (hold : ∀ y ∈ objects, key y = key x → p y = false) (hnew : p x = false) :
    (objects.map fun y => if key y = key x then x else y).filter p = objects.filter p := by
  induction objects with
  | nil => rfl
  | cons y objects ih =>
    obtain ⟨hy, hrest⟩ := List.forall_mem_cons.1 hold
    rw [List.map_cons]
    split_ifs with hk
    · rw [List.filter_cons_of_neg (by simp [hnew]), List.filter_cons_of_neg (by simp [hy hk]),
        ih hrest]
    · rw [List.filter_cons, List.filter_cons, ih hrest]

/-- A selection that has neither the old nor the new object does not see that it is put. -/
lemma filter_put (l : Keyed key) {x : α} {p : α → Bool} (hold : ∀ y, l.get (key x) = some y →
    p y = false) (hnew : p x = false) : (l.put x).objects.filter p = l.objects.filter p := by
  unfold put
  split_ifs
  · exact filter_map_replace (fun y hy hk => hold y (l.get_eq_some_iff.2 ⟨hy, hk⟩)) hnew
  · simp [hnew]

/-- Deleting an object that a filter leaves out does not show in the filtered list. -/
lemma filter_delete (l : Keyed key) {k : κ} {p : α → Bool} (hold : ∀ y, l.get k = some y →
    p y = false) : (l.delete k).objects.filter p = l.objects.filter p := by
  show (l.objects.filter fun x => key x ≠ k).filter p = _
  rw [List.filter_filter]
  refine List.filter_congr fun y hy => ?_
  by_cases hk : key y = k
  · simp [hold y (l.get_eq_some_iff.2 ⟨hy, hk⟩)]
  · simp [hk]

end Keyed
