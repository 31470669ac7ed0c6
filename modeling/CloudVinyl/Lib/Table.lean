import Mathlib.Logic.Function.Basic
import Mathlib.Data.List.Basic

set_option relaxedAutoImplicit false
set_option autoImplicit false

/-!
# Tables shared by several owners

A table maps keys to values. Several owners share one table when each of them has a few keys of
its own: every write of an owner goes to all its keys, and no key belongs to two owners. Such a
table stands for a simpler one with one cell per owner.

## Main definitions

* `Table`, `Table.set`, `Table.delete` — a map and its two updates.
* `Table.assign` — the same update at several keys.
* `Table.copy`, `Table.Selects` — one table over another, and the entries that a table has.
* `Table.Represents` — a shared table stands for one cell per owner.
* `Table.last` — what the last operation that concerns an owner says about it.

## Main results

* `Table.Represents.assign` — a write to all keys of an owner is a write to its cell.
* `Table.Represents.eq_some_iff` — what is found under a key.
-/

/-- A map from keys to values. -/
abbrev Table (K V : Type) := K → Option V

namespace Table

variable {K V O Op : Type}

/-! ## Updates -/

section Updates

variable [DecidableEq K]

/-- The table with one value set. -/
def set (t : Table K V) (k : K) (v : V) : Table K V := Function.update t k (some v)

/-- The table without one key. -/
def delete (t : Table K V) (k : K) : Table K V := Function.update t k none

/-- The update to `v` at each of the keys `ks` in turn. -/
def assign (t : Table K V) (ks : List K) (v : Option V) : Table K V :=
  ks.foldl (fun t k => Function.update t k v) t

/-- An assignment to a list of keys shows at these keys and nowhere else. -/
lemma assign_apply (t : Table K V) (ks : List K) (v : Option V) (k : K) :
    t.assign ks v k = if k ∈ ks then v else t k := by
  induction ks generalizing t with
  | nil => simp [assign]
  | cons l ks ih =>
    have hstep : t.assign (l :: ks) v = assign (Function.update t l v) ks v := rfl
    rw [hstep, ih]
    by_cases hk : k ∈ ks
    · simp [hk]
    · by_cases hl : k = l
      · simp [hl]
      · simp [hk, hl]

end Updates

/-! ## Entries -/

/-- The entries of `s` over those of `t`. -/
def copy (t s : Table K V) : Table K V := fun k => (s k).or (t k)

/-- The entries of a list, of which the first one under a key counts. -/
def ofList [BEq K] (l : List (K × V)) : Table K V := fun k => l.lookup k

/-- The table has the entries of a list. -/
def Selects (l : List (K × V)) (t : Table K V) : Prop := ∀ e ∈ l, t e.1 = some e.2

/-- Other entries leave an entry as it is just when they have nothing else under its key. -/
lemma copy_eq_some_iff {t s : Table K V} {k : K} {v : V} (h : t k = some v) :
    t.copy s k = some v ↔ ∀ w, s k = some w → w = v := by
  unfold copy
  cases hs : s k with
  | none => simp [h]
  | some w => simp

/-! ## Owners -/

/-- The table `t` has the cell of an owner under each of its keys, and nothing else. -/
structure Represents (keys : O → List K) (cells : O → Option V) (t : Table K V) : Prop where
  at_key : ∀ o, ∀ k ∈ keys o, t k = cells o
  elsewhere : ∀ k, (∀ o, k ∉ keys o) → t k = none

/-- No key belongs to two owners. -/
def Separate (keys : O → List K) : Prop :=
  ∀ o o' k, k ∈ keys o → k ∈ keys o' → o = o'

namespace Represents

variable {keys : O → List K} {cells : O → Option V} {t : Table K V}

/-- The empty table represents that no owner has a value. -/
lemma empty : Represents keys (fun _ => none) (fun _ => none : Table K V) :=
  ⟨fun _ _ _ => rfl, fun _ _ => rfl⟩

/-- A write to all keys of an owner is a write to its cell. -/
lemma assign [DecidableEq K] [DecidableEq O] (hsep : Separate keys)
    (h : Represents keys cells t) (o : O) (v : Option V) :
    Represents keys (Function.update cells o v) (t.assign (keys o) v) := by
  constructor
  · intro o' k hk
    rw [assign_apply]
    by_cases ho : o' = o
    · subst ho
      rw [if_pos hk, Function.update_self]
    · -- a key of another owner is not written to
      have hno : k ∉ keys o := fun hk' => ho (hsep o' o k hk hk')
      rw [if_neg hno, Function.update_of_ne ho, h.at_key o' k hk]
  · intro k hk
    rw [assign_apply, if_neg (hk o), h.elsewhere k hk]

/-- What is found under a key is the cell of the owner of the key. -/
lemma eq_some_iff (h : Represents keys cells t) {k : K} {v : V} :
    t k = some v ↔ ∃ o, k ∈ keys o ∧ cells o = some v := by
  constructor
  · intro hv
    by_cases hk : ∃ o, k ∈ keys o
    · obtain ⟨o, ho⟩ := hk
      exact ⟨o, ho, by rw [← h.at_key o k ho, hv]⟩
    · rw [h.elsewhere k fun o ho => hk ⟨o, ho⟩] at hv
      cases hv
  · rintro ⟨o, ho, hv⟩
    rw [h.at_key o k ho, hv]

end Represents

/-! ## Histories -/

/-- What the last operation that concerns `o` says about it. -/
def last (effect : Op → O → Option V) (ops : List Op) (o : O) : Option V :=
  ops.reverse.findSome? fun op => effect op o

/-- The last value is that of the last operation, if it has one for the owner. -/
lemma last_append_singleton (effect : Op → O → Option V) (ops : List Op) (op : Op) (o : O) :
    last effect (ops ++ [op]) o = (effect op o).or (last effect ops o) := by
  unfold last
  rw [List.reverse_append, List.reverse_singleton, List.singleton_append, List.findSome?_cons]
  cases effect op o <;> rfl

end Table
