import CloudVinyl.Lib.Strings
import Mathlib.Data.List.Forall2

set_option relaxedAutoImplicit false
set_option autoImplicit false

/-!
# Regular expressions with repetitions and groups

Anchored regular expressions that are a sequence of sets of characters, each of them once or
repeated, with groups that do not nest. Such an expression is read from its text, and matched as
backtracking does: every repetition takes as much as it can and gives back what the rest needs.

## Main definitions

* `Regexp.quoteMeta` — a text as an expression for itself.
* `Regexp.parse` — the atoms of an expression.
* `Regexp.search`, `Regexp.find` — the match of a whole text, and its groups.
* `Regexp.Fits` — a text for each atom.

## Main results

* `Regexp.lex_quoteMeta` — a quoted text is read character by character.
* `Regexp.fits_of_search`, `Regexp.search_of_fits` — what is found is a match, and a match is found
  if there is one.
-/

namespace Regexp

/-! ## Syntax -/

/-- A set of characters. -/
inductive CharSet where
  | one (c : Char)
  | range (lo hi : Char)
  | any
  deriving DecidableEq

/-- The characters of a set. -/
def CharSet.mem : CharSet → Char → Bool
  | .one c, d => decide (d = c)
  | .range lo hi, c => decide (lo ≤ c) && decide (c ≤ hi)
  | .any, _ => true

/-- The parts of the text of a pattern. -/
inductive Token where
  | set (s : CharSet)
  | plus
  | opening
  | closing
  deriving DecidableEq

/-- The characters with a meaning of their own. -/
def metaChars : Text := "\\.+*?()|[]\x7b\x7d^$"

/-- `regexp.QuoteMeta` -/
def quoteMeta (s : Text) : Text := s.flatMap fun c => if c ∈ metaChars then ['\\', c] else [c]

/-- The operators that are a single character. -/
def operator : Char → Option Token
  | '.' => some (.set .any)
  | '+' => some .plus
  | '(' => some .opening
  | ')' => some .closing
  | _ => none

/-- The tokens of an expression. An escaped letter or digit, a class other than a range, and the
remaining operators are left out. -/
def lex : Text → Option (List Token)
  | [] => some []
  | c :: s =>
    if c = '\\' then
      match s with
      | [] => none
      | d :: s => if d.isAlphanum then none else (lex s).map (.set (.one d) :: ·)
    else if c = '[' then
      match s with
      | lo :: '-' :: hi :: ']' :: s => (lex s).map (.set (.range lo hi) :: ·)
      | _ => none
    else if c ∈ metaChars then
      (operator c).bind fun t => (lex s).map (t :: ·)
    else (lex s).map (.set (.one c) :: ·)

/-- A set of characters, once or repeated, in the group of the given number; zero is outside. -/
structure Atom where
  set : CharSet
  plus : Bool
  group : ℕ
  deriving DecidableEq

/-- The atoms behind the given number of groups, inside the last of them or not. -/
def assemble (opened : ℕ) (inside : Bool) : List Token → Option (List Atom)
  | [] => if inside then none else some []
  | .set s :: .plus :: ts =>
    (assemble opened inside ts).map (⟨s, true, if inside then opened else 0⟩ :: ·)
  | .set s :: ts => (assemble opened inside ts).map (⟨s, false, if inside then opened else 0⟩ :: ·)
  | .plus :: _ => none
  | .opening :: ts => if inside then none else assemble (opened + 1) true ts
  | .closing :: ts => if inside then assemble opened false ts else none

/-- The atoms of a pattern, if its text is one. -/
def parse (s : Text) : Option (List Atom) := (lex s).bind (assemble 0 false)

/-! ## Matching -/

/-- How many characters an atom can take from the front of a text. -/
def Atom.most (a : Atom) (s : Text) : ℕ :=
  let run := (s.takeWhile a.set.mem).length
  if a.plus then run else min run 1

/-- The texts that the atoms take from a whole text: each of them the most with which the rest
still matches. -/
def search : List Atom → Text → Option (List Text)
  | [], s => if s = [] then some [] else none
  | a :: atoms, s =>
    (List.range (a.most s)).reverse.findSome? fun n =>
      (search atoms (s.drop (n + 1))).map (s.take (n + 1) :: ·)

/-- The text of a group. -/
def groupText (atoms : List Atom) (ws : List Text) (n : ℕ) : Text :=
  ((atoms.zip ws).filter fun p => p.1.group = n).flatMap (·.2)

/-- The groups of a match of the whole text, of which the text itself has number zero. -/
def find (re s : Text) : Option (ℕ → Text) :=
  (parse re).bind fun atoms => (search atoms s).map fun ws n =>
    if n = 0 then s else groupText atoms ws n

/-- A text that an atom can stand for. -/
structure Atom.Takes (a : Atom) (w : Text) : Prop where
  ne_nil : w ≠ []
  mem : ∀ c ∈ w, a.set.mem c = true
  length : a.plus = false → w.length = 1

/-- A text for each atom. -/
def Fits (atoms : List Atom) (ws : List Text) : Prop := List.Forall₂ Atom.Takes atoms ws

/-- An atom for one character takes that character. -/
lemma takes_one_iff {c : Char} {n : ℕ} {w : Text} :
    (⟨.one c, false, n⟩ : Atom).Takes w ↔ w = [c] := by
  constructor
  · rintro ⟨-, hmem, hlen⟩
    obtain ⟨d, rfl⟩ := List.length_eq_one_iff.1 (hlen rfl)
    have hd : decide (d = c) = true := hmem d (List.mem_singleton_self d)
    rw [of_decide_eq_true hd]
  · rintro rfl
    refine ⟨List.cons_ne_nil c [], fun d hd => ?_, fun _ => rfl⟩
    exact decide_eq_true (List.mem_singleton.1 hd)

/-- The first atom takes the first word, and the others fit the rest. -/
lemma fits_cons_iff {a : Atom} {atoms : List Atom} {ws : List Text} :
    Fits (a :: atoms) ws ↔ ∃ w ws', a.Takes w ∧ Fits atoms ws' ∧ ws = w :: ws' :=
  List.forall₂_cons_left_iff

/-- Characters in front of other atoms stand for themselves. -/
lemma fits_chars_append_iff {c : Text} {n : ℕ} {atoms : List Atom} {ws : List Text} :
    Fits (c.map (fun d => ⟨.one d, false, n⟩) ++ atoms) ws ↔
      ∃ ws', Fits atoms ws' ∧ ws = c.map (fun d => [d]) ++ ws' := by
  induction c generalizing ws with
  | nil => simp
  | cons d c ih =>
    rw [List.map_cons, List.cons_append, fits_cons_iff]
    constructor
    · rintro ⟨w, rest, htakes, hrest, rfl⟩
      obtain ⟨ws', hfits, rfl⟩ := ih.1 hrest
      exact ⟨ws', hfits, by rw [takes_one_iff.1 htakes]; rfl⟩
    · rintro ⟨ws', hfits, rfl⟩
      exact ⟨[d], _, takes_one_iff.2 rfl, ih.2 ⟨ws', hfits, rfl⟩, rfl⟩

section Search

variable {a : Atom} {atoms : List Atom} {s : Text} {ws : List Text}

/-- An atom can stand for the beginnings of a text up to what it can take. -/
lemma takes_take {n : ℕ} (hn : n < a.most s) : a.Takes (s.take (n + 1)) := by
  have hrun : n < (s.takeWhile a.set.mem).length := by
    unfold Atom.most at hn
    split_ifs at hn
    · exact hn
    · exact lt_of_lt_of_le hn (min_le_left _ _)
  have hle : n + 1 ≤ s.length := hrun.trans_le (List.takeWhile_prefix _).length_le
  have hlen : (s.take (n + 1)).length = n + 1 := List.length_take_of_le hle
  refine ⟨List.ne_nil_of_length_pos (by omega), fun c hc => ?_, fun hplus => ?_⟩
  · -- the beginning lies in the run of characters of the set
    have hstart : s.take (n + 1) <+: s.takeWhile a.set.mem :=
      List.prefix_of_prefix_length_le (List.take_prefix _ _) (List.takeWhile_prefix _)
        (by omega)
    exact List.mem_takeWhile_imp (hstart.mem hc)
  · have hone : n < min (s.takeWhile a.set.mem).length 1 := by
      simpa [Atom.most, hplus] using hn
    omega

/-- What an atom can stand for is among the beginnings that are tried. -/
lemma Atom.Takes.length_le_most {w : Text} (h : a.Takes w) (s : Text) :
    w.length ≤ a.most (w ++ s) := by
  have hrun : w.length ≤ ((w ++ s).takeWhile a.set.mem).length := by
    rw [List.takeWhile_append_of_pos h.mem, List.length_append]
    omega
  unfold Atom.most
  cases hplus : a.plus with
  | true => simpa using hrun
  | false =>
    have hone := h.length hplus
    simp only [Bool.false_eq_true, if_false]
    omega

/-- What is found is a match.

**Proof sketch.** Induction on the atoms. The first one takes a beginning of the text, and the rest
of the text is matched by the others. -/
lemma fits_of_search (h : search atoms s = some ws) : Fits atoms ws ∧ ws.flatten = s := by
  induction atoms generalizing s ws with
  | nil =>
    rw [search] at h
    split_ifs at h with hs
    obtain rfl := Option.some.inj h
    exact ⟨.nil, hs.symm⟩
  | cons a atoms ih =>
    rw [search] at h
    obtain ⟨n, hn, hsome⟩ := List.exists_of_findSome?_eq_some h
    obtain ⟨ws', hws, rfl⟩ := Option.map_eq_some_iff.1 hsome
    obtain ⟨hfits, hflat⟩ := ih hws
    have hmost : n < a.most s := List.mem_range.1 (List.mem_reverse.1 hn)
    refine ⟨.cons (takes_take hmost) hfits, ?_⟩
    rw [List.flatten_cons, hflat, List.take_append_drop]

/-- A match is found if there is one. -/
lemma search_of_fits (h : Fits atoms ws) : (search atoms ws.flatten).isSome = true := by
  induction h with
  | nil => rfl
  | @cons a w atoms ws htakes hfits ih =>
    -- the length of the first text is tried at the latest
    obtain ⟨found, hfound⟩ := Option.isSome_iff_exists.1 ih
    have hpos : 0 < w.length := List.length_pos_of_ne_nil htakes.ne_nil
    have hmost := htakes.length_le_most ws.flatten
    rw [List.flatten_cons, search, List.findSome?_isSome_iff]
    refine ⟨w.length - 1, ?_, ?_⟩
    · rw [List.mem_reverse, List.mem_range]
      omega
    · rw [Nat.sub_add_cancel hpos, List.drop_left, hfound]
      rfl

end Search

section Find

variable {re s : Text} {atoms : List Atom}

/-- A text matches just when it splits into texts for the atoms. -/
lemma find_isSome_iff (h : parse re = some atoms) :
    (find re s).isSome = true ↔ ∃ ws, Fits atoms ws ∧ ws.flatten = s := by
  rw [find, h, Option.bind_some, Option.isSome_map]
  constructor
  · intro hsome
    obtain ⟨ws, hws⟩ := Option.isSome_iff_exists.1 hsome
    exact ⟨ws, fits_of_search hws⟩
  · rintro ⟨ws, hfits, rfl⟩
    exact search_of_fits hfits

/-- The groups of a match are those of one of the ways in which the text splits. -/
lemma exists_fits_of_find {g : ℕ → Text} (h : parse re = some atoms) (hg : find re s = some g) :
    ∃ ws, Fits atoms ws ∧ ws.flatten = s ∧ ∀ n ≠ 0, g n = groupText atoms ws n := by
  rw [find, h, Option.bind_some] at hg
  obtain ⟨ws, hws, rfl⟩ := Option.map_eq_some_iff.1 hg
  obtain ⟨hfits, hflat⟩ := fits_of_search hws
  exact ⟨ws, hfits, hflat, fun n hn => if_neg hn⟩

end Find

/-! ## Quoted texts -/

/-- A character without a meaning of its own stands for itself. -/
lemma lex_literal {c : Char} (hc : c ∉ metaChars) (s : Text) :
    lex (c :: s) = (lex s).map (.set (.one c) :: ·) := by
  have hescape : c ≠ '\\' := by
    rintro rfl
    exact hc (by decide)
  have hclass : c ≠ '[' := by
    rintro rfl
    exact hc (by decide)
  rw [lex.eq_def]
  simp only [hescape, hclass, hc, if_false]

/-- So does an escaped one. -/
lemma lex_escaped {c : Char} (hc : c ∈ metaChars) (s : Text) :
    lex ('\\' :: c :: s) = (lex s).map (.set (.one c) :: ·) := by
  have hall : metaChars.all (fun d => !d.isAlphanum) = true := by decide
  have hnot : c.isAlphanum = false := by simpa using List.all_eq_true.1 hall c hc
  rw [lex.eq_def]
  simp only [hnot, if_true, Bool.false_eq_true, if_false]

/-- A quoted text is read character by character. -/
lemma lex_quoteMeta (c s : Text) :
    lex (quoteMeta c ++ s) = (lex s).map (c.map (fun d => Token.set (.one d)) ++ ·) := by
  induction c with
  | nil => simp [quoteMeta]
  | cons d c ih =>
    have hmap : (lex (quoteMeta c ++ s)).map (Token.set (.one d) :: ·) =
        (lex s).map ((d :: c).map (fun d => Token.set (.one d)) ++ ·) := by
      rw [ih, Option.map_map]
      rfl
    rw [quoteMeta, List.flatMap_cons, List.append_assoc, ← hmap]
    split_ifs with hd
    · exact lex_escaped hd _
    · exact lex_literal hd _

/-- A set that is followed by another one is taken once. -/
lemma assemble_set_set (opened : ℕ) (inside : Bool) (x y : CharSet) (ts : List Token) :
    assemble opened inside (.set x :: .set y :: ts) =
      (assemble opened inside (.set y :: ts)).map
        (⟨x, false, if inside then opened else 0⟩ :: ·) := rfl

/-- Characters in front of a set are atoms of their own. -/
lemma assemble_chars (opened : ℕ) (inside : Bool) (c : Text) (x : CharSet) (ts : List Token) :
    assemble opened inside (c.map (fun d => Token.set (.one d)) ++ .set x :: ts) =
      (assemble opened inside (.set x :: ts)).map
        (c.map (fun d => ⟨.one d, false, if inside then opened else 0⟩) ++ ·) := by
  induction c with
  | nil => simp
  | cons d c ih =>
    -- another set follows, be it of the text or the one behind it
    obtain ⟨y, ts', hnext⟩ : ∃ y ts', c.map (fun d => Token.set (.one d)) ++ .set x :: ts =
        .set y :: ts' := by
      cases c with
      | nil => exact ⟨x, ts, rfl⟩
      | cons e c => exact ⟨.one e, _, rfl⟩
    rw [List.map_cons, List.cons_append, hnext, assemble_set_set, ← hnext, ih, Option.map_map]
    rfl

end Regexp
