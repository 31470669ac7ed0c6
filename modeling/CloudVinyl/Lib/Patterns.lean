import CloudVinyl.Lib.Strings

set_option relaxedAutoImplicit false
set_option autoImplicit false

/-!
# Anchored patterns

Regular expressions of the form `^…$` that are a sequence of literals and of repetitions of a
class of letters. They are matched from left to right and each repetition takes as much as it can.
This is the match of the regular expression wherever a repetition is followed by something that
does not begin with a letter of its class, or by a repetition that takes whatever is left.

## Main definitions

* `Patterns.Piece` — a literal or a repetition.
* `Patterns.submatch` — what each piece of a pattern matches.

## Main results

* `Patterns.submatch_plus`, `Patterns.submatch_star`, `Patterns.submatch_lit` — what is printed
  piece by piece is matched piece by piece.
-/

namespace Patterns

variable {α : Type}

/-- A literal, or one of the repetitions `+` and `*` of a class. -/
inductive Piece (α : Type) where
  | lit (l : List α)
  | plus (p : α → Bool)
  | star (p : α → Bool)

/-- The parts of a whole sequence that the pieces match. -/
def submatch [DecidableEq α] : List (Piece α) → List α → Option (List (List α))
  | [], [] => some []
  | [], _ :: _ => none
  | .lit l :: ps, s =>
    if l <+: s then (submatch ps (s.drop l.length)).map (l :: ·) else none
  | .plus p :: ps, s =>
    if s.takeWhile p = [] then none
    else (submatch ps (s.dropWhile p)).map (s.takeWhile p :: ·)
  | .star p :: ps, s => (submatch ps (s.dropWhile p)).map (s.takeWhile p :: ·)

/-- The sequence does not begin with a letter of the class. -/
def Stops (p : α → Bool) (s : List α) : Prop := ∀ c ∈ s.head?, p c = false

/-- A repetition stops at the end. -/
lemma stops_nil (p : α → Bool) : Stops p [] := by
  simp [Stops]

/-- A repetition stops at a letter that is not of its class. -/
lemma stops_cons {p : α → Bool} {c : α} {s : List α} (h : p c = false) : Stops p (c :: s) := by
  simpa [Stops] using h

/-- A repetition stops at a word of letters that are not of its class. -/
lemma stops_append {p : α → Bool} {w s : List α} (hw : w ≠ []) (h : ∀ c ∈ w, p c = false) :
    Stops p (w ++ s) := by
  cases w with
  | nil => exact absurd rfl hw
  | cons c w => exact stops_cons (h c List.mem_cons_self)

section Repetitions

variable {p : α → Bool} {w s : List α}

/-- What a repetition takes. -/
lemma takeWhile_of_stops (hw : ∀ c ∈ w, p c = true) (hs : Stops p s) :
    (w ++ s).takeWhile p = w := by
  rw [List.takeWhile_append_of_pos hw]
  cases s with
  | nil => simp
  | cons c s =>
    have hc : p c = false := hs c rfl
    simp [hc]

/-- What a repetition leaves. -/
lemma dropWhile_of_stops (hw : ∀ c ∈ w, p c = true) (hs : Stops p s) :
    (w ++ s).dropWhile p = s := by
  rw [List.dropWhile_append_of_pos hw]
  cases s with
  | nil => rfl
  | cons c s =>
    have hc : p c = false := hs c rfl
    simp [hc]

variable [DecidableEq α] {ps : List (Piece α)}

/-- A repetition matches a word of its class, which is not empty. -/
lemma submatch_plus (hne : w ≠ []) (hw : ∀ c ∈ w, p c = true) (hs : Stops p s) :
    submatch (.plus p :: ps) (w ++ s) = (submatch ps s).map (w :: ·) := by
  rw [submatch, takeWhile_of_stops hw hs, dropWhile_of_stops hw hs, if_neg hne]

/-- A repetition matches a word of its class, which may be empty. -/
lemma submatch_star (hw : ∀ c ∈ w, p c = true) (hs : Stops p s) :
    submatch (.star p :: ps) (w ++ s) = (submatch ps s).map (w :: ·) := by
  rw [submatch, takeWhile_of_stops hw hs, dropWhile_of_stops hw hs]

/-- A literal matches itself. -/
lemma submatch_lit (l : List α) :
    submatch (.lit l :: ps) (l ++ s) = (submatch ps s).map (l :: ·) := by
  rw [submatch, if_pos (List.prefix_append l s), List.drop_left]

/-- A sequence that does not begin with a letter of the class is no match. -/
lemma submatch_plus_eq_none (hs : Stops p s) : submatch (.plus p :: ps) s = none := by
  have hnil : s.takeWhile p = [] := takeWhile_of_stops (w := []) (by simp) hs
  rw [submatch, if_pos hnil]

end Repetitions

/-! ## The classes of Go's regular expressions -/

/-- `\s` -/
def space (c : Char) : Bool := c ∈ ['\t', '\n', '\x0c', '\r', ' ']

/-- `\S` -/
def nonSpace (c : Char) : Bool := !space c

/-- `\d` -/
def digit (c : Char) : Bool := c.isDigit

/-- `\w` -/
def word (c : Char) : Bool := c.isAlphanum || c = '_'

/-- `.` -/
def dot (c : Char) : Bool := c ≠ '\n'

/-- A class without white space. -/
lemma of_space {p : Char → Bool} (h : ['\t', '\n', '\x0c', '\r', ' '].all (fun c => !p c) = true)
    (c : Char) (hc : space c = true) : p c = false := by
  simpa using List.all_eq_true.1 h c (of_decide_eq_true hc)

/-- A list that is checked for white space has none. -/
lemma forall_nonSpace {l : List Char} (h : l.all nonSpace = true) : ∀ c ∈ l, space c = false := by
  simpa [nonSpace] using h

/-- A word character is no white space. -/
lemma space_of_word {c : Char} (h : word c = true) : space c = false := by
  by_contra hs
  have hno := of_space (p := word) (by decide) c (by simpa using hs)
  simp [h] at hno

/-- A digit is a word character. -/
lemma word_of_digit {c : Char} (h : digit c = true) : word c = true := by
  have hd : c.isDigit = true := h
  simp [word, Char.isAlphanum, hd]

end Patterns
