import Mathlib.Data.List.Forall2
import CloudVinyl.Lib.Vcl

set_option relaxedAutoImplicit false
set_option autoImplicit false

/-!
# Expressions of VCL

A fragment of the tests and of the string expressions of VCL, with their text and their meaning:
regular expressions that match words of a fixed length, `regsub`, the deletion of a letter by
`regsuball`, `std.tolower` and random UUIDs.

A regular expression is searched for from left to right. Without the multi-line option `^` matches
at the start of the text only, `$` at its end and before a newline there, and `.` any letter but a
newline. A header that is not set is matched as the empty text.

## Main definitions

* `Vcl.Atom`, `Vcl.Piece`, `Vcl.Pattern` — regular expressions, with their text.
* `Vcl.Pattern.search` — the first match of a regular expression.
* `Vcl.Expr`, `Vcl.Test` — expressions and tests, with their text and their meaning.

## Main results

* `Vcl.fits_cons_iff` — the words that a sequence of atoms matches.
* `Vcl.Pattern.matchAt_of_fits`, `Vcl.Pattern.fits_of_matchAt` — what matches at a place.
* `Vcl.Pattern.search_isSome_iff` — where a regular expression without `^` matches.
-/

namespace Vcl

/-! ## Words of a fixed length -/

/-- A class of letters: a letter that stands for itself, `[0-9a-f]` or `.`. -/
inductive Class where
  | char (c : Char)
  | lowerHex
  | any
  deriving DecidableEq

/-- The class as a pattern spells it. -/
def Class.text : Class → Text
  | .char c => [c]
  | .lowerHex => "[0-9a-f]"
  | .any => "."

/-- The characters of a class. -/
def Class.test : Class → Char → Bool
  | .char d, c => c = d
  | .lowerHex, c => ('0' ≤ c && c ≤ '9') || ('a' ≤ c && c ≤ 'f')
  | .any, c => c ≠ '\n'

/-- A number of letters of a class, which is written as often or once with the number. -/
inductive Atom where
  | each (cls : Class) (n : ℕ)
  | times (cls : Class) (n : ℕ)

/-- The text of an atom. -/
def Atom.text : Atom → Text
  | .each cls n => (List.replicate n cls.text).flatten
  | .times cls n => cls.text ++ "\x7b" ++ Text.decimal n ++ "\x7d"

/-- The class of an atom. -/
def Atom.cls : Atom → Class
  | .each cls _ => cls
  | .times cls _ => cls

/-- The number of characters that an atom takes. -/
def Atom.length : Atom → ℕ
  | .each _ n => n
  | .times _ n => n

/-- The word is of the length of the atom, and its letters are of the class. -/
def Atom.Fits (a : Atom) (w : Text) : Prop := w.length = a.length ∧ ∀ c ∈ w, a.cls.test c = true

/-- The word is matched by the atoms, one after the other. -/
def fits : List Atom → Text → Bool
  | [], w => w.isEmpty
  | a :: as, w =>
    decide (a.length ≤ w.length) && (w.take a.length).all a.cls.test && fits as (w.drop a.length)

/-- **The words that a sequence of atoms matches.** -/
theorem fits_cons_iff {a : Atom} {as : List Atom} {w : Text} :
    fits (a :: as) w = true ↔ ∃ u v, w = u ++ v ∧ a.Fits u ∧ fits as v = true := by
  rw [fits, Bool.and_eq_true, Bool.and_eq_true, decide_eq_true_eq, List.all_eq_true]
  constructor
  · rintro ⟨⟨hlen, hall⟩, hrest⟩
    exact ⟨w.take a.length, w.drop a.length, (List.take_append_drop _ _).symm,
      ⟨List.length_take_of_le hlen, hall⟩, hrest⟩
  · rintro ⟨u, v, rfl, ⟨hlen, hall⟩, hrest⟩
    rw [← hlen, List.take_left, List.drop_left, List.length_append]
    exact ⟨⟨Nat.le_add_right _ _, hall⟩, hrest⟩

/-- Without atoms only the empty word fits. -/
lemma fits_nil_iff {w : Text} : fits [] w = true ↔ w = [] := List.isEmpty_iff

/-- A single atom. -/
lemma fits_singleton_iff {a : Atom} {w : Text} : fits [a] w = true ↔ a.Fits w := by
  rw [fits_cons_iff]
  constructor
  · rintro ⟨u, v, rfl, hu, hv⟩
    rwa [fits_nil_iff.1 hv, List.append_nil]
  · exact fun h => ⟨w, [], (List.append_nil w).symm, h, rfl⟩

/-- A number of the same letter. -/
lemma Atom.fits_replicate_iff {a : Atom} {c : Char} (h : a.cls = .char c) {w : Text} :
    a.Fits w ↔ w = List.replicate a.length c := by
  rw [List.eq_replicate_iff, Atom.Fits, h]
  exact and_congr_right fun _ => forall₂_congr fun d _ => decide_eq_true_iff

/-- A letter that stands for itself. -/
lemma fits_char_iff {c : Char} {as : List Atom} {w : Text} :
    fits (.each (.char c) 1 :: as) w = true ↔ ∃ v, w = c :: v ∧ fits as v = true := by
  rw [fits_cons_iff]
  constructor
  · rintro ⟨u, v, rfl, ⟨hlen, hall⟩, hv⟩
    obtain ⟨d, rfl⟩ := List.length_eq_one_iff.1 hlen
    obtain rfl : d = c := of_decide_eq_true (hall d List.mem_cons_self)
    exact ⟨v, rfl, hv⟩
  · rintro ⟨v, rfl, hv⟩
    refine ⟨[c], v, rfl, ⟨rfl, fun d hd => ?_⟩, hv⟩
    exact decide_eq_true (List.mem_singleton.1 hd)

/-- All matched words have the same length. -/
lemma length_of_fits {as : List Atom} {w : Text} (h : fits as w = true) :
    w.length = (as.map Atom.length).sum := by
  induction as generalizing w with
  | nil => rw [fits_nil_iff.1 h]; rfl
  | cons a as ih =>
    obtain ⟨u, v, rfl, hu, hv⟩ := fits_cons_iff.1 h
    rw [List.length_append, hu.1, ih hv, List.map_cons, List.sum_cons]

/-! ## Regular expressions -/

/-- Atoms one after the other, as a group or not. -/
structure Piece where
  group : Bool
  atoms : List Atom

/-- How a regular expression ends: anywhere, at the end of the text, or after the rest of a line
there. -/
inductive Tail where
  | anywhere
  | stop
  | rest
  deriving DecidableEq

/-- A regular expression; `start` says whether it begins with `^`. -/
structure Pattern where
  start : Bool
  pieces : List Piece
  tail : Tail

/-- The text of a piece, in parentheses if it is a group. -/
def Piece.text (p : Piece) : Text :=
  let atoms := p.atoms.flatMap Atom.text
  if p.group then "(" ++ atoms ++ ")" else atoms

/-- The end of a pattern. -/
def Tail.text : Tail → Text
  | .anywhere => ""
  | .stop => "$"
  | .rest => ".*$"

/-- The text of a pattern. -/
def Pattern.text (p : Pattern) : Text :=
  (if p.start then ("^" : Text) else []) ++ p.pieces.flatMap Piece.text ++ p.tail.text

/-- The number of characters that a piece takes. -/
def Piece.length (p : Piece) : ℕ := (p.atoms.map Atom.length).sum

/-- The words that the pieces match one after the other, and what follows them. -/
def matchPieces : List Piece → Text → Option (List Text × Text)
  | [], s => some ([], s)
  | p :: ps, s =>
    if fits p.atoms (s.take p.length) then
      (matchPieces ps (s.drop p.length)).map fun r => (s.take p.length :: r.1, r.2)
    else none

/-- The end of a text, or a newline there. -/
def atEnd (s : Text) : Bool := s = [] || s = ['\n']

/-- A match: what is before it, what is matched in whole and by its groups, and what follows. -/
structure Found where
  before : Text
  whole : Text
  groups : List Text
  after : Text

/-- The words of the pieces that are groups. -/
def groupsOf (ps : List Piece) (ws : List Text) : List Text :=
  ((ps.zip ws).filter (·.1.group)).map (·.2)

namespace Pattern

variable (p : Pattern)

/-- The match at the beginning of a text. -/
def matchAt (s : Text) : Option Found :=
  (matchPieces p.pieces s).bind fun (ws, r) =>
    match p.tail with
    | .anywhere => some ⟨[], ws.flatten, groupsOf p.pieces ws, r⟩
    | .stop => if atEnd r then some ⟨[], ws.flatten, groupsOf p.pieces ws, r⟩ else none
    | .rest =>
      let line := r.takeWhile (· ≠ '\n')
      let after := r.dropWhile (· ≠ '\n')
      if atEnd after then some ⟨[], ws.flatten ++ line, groupsOf p.pieces ws, after⟩ else none

/-- The first match. -/
def search : Text → Option Found
  | [] => p.matchAt []
  | c :: s =>
    match p.matchAt (c :: s) with
    | some f => some f
    | none => if p.start then none else (search s).map fun f => { f with before := c :: f.before }

/-- The pattern is found in the text. -/
def matched (s : Text) : Bool := (p.search s).isSome

end Pattern

section Matching

variable {p : Pattern}

/-- Words that fit the pieces are matched. -/
lemma matchPieces_of_fits {ps : List Piece} {ws : List Text}
    (h : List.Forall₂ (fun p w => fits p.atoms w = true) ps ws) (s : Text) :
    matchPieces ps (ws.flatten ++ s) = some (ws, s) := by
  induction h with
  | nil => rfl
  | @cons p w ps ws hw _ ih =>
    have hlen : p.length = w.length := (length_of_fits hw).symm
    rw [List.flatten_cons, List.append_assoc, matchPieces, hlen, List.take_left, List.drop_left,
      if_pos hw, ih]
    rfl

/-- What is matched are words that fit the pieces. -/
lemma fits_of_matchPieces {ps : List Piece} {s r : Text} {ws : List Text}
    (h : matchPieces ps s = some (ws, r)) :
    List.Forall₂ (fun p w => fits p.atoms w = true) ps ws ∧ s = ws.flatten ++ r := by
  induction ps generalizing s ws with
  | nil =>
    obtain ⟨rfl, rfl⟩ := Prod.mk.inj (Option.some.inj h)
    exact ⟨.nil, rfl⟩
  | cons p ps ih =>
    rw [matchPieces] at h
    split_ifs at h with hfits
    obtain ⟨⟨ws', r'⟩, hrest, heq⟩ := Option.map_eq_some_iff.1 h
    obtain ⟨rfl, rfl⟩ := Prod.mk.inj heq
    obtain ⟨hall, hdrop⟩ := ih hrest
    refine ⟨.cons hfits hall, ?_⟩
    rw [List.flatten_cons, List.append_assoc, ← hdrop, List.take_append_drop]

namespace Pattern

/-- What is matched at a place, for each of the three ends. -/
theorem matchAt_of_fits {ws : List Text}
    (h : List.Forall₂ (fun p w => fits p.atoms w = true) p.pieces ws) :
    (p.tail = .anywhere → ∀ r, p.matchAt (ws.flatten ++ r) =
      some ⟨[], ws.flatten, groupsOf p.pieces ws, r⟩) ∧
    (p.tail = .stop → ∀ r, atEnd r = true → p.matchAt (ws.flatten ++ r) =
      some ⟨[], ws.flatten, groupsOf p.pieces ws, r⟩) ∧
    (p.tail = .rest → ∀ line, (∀ c ∈ line, c ≠ '\n') → p.matchAt (ws.flatten ++ line) =
      some ⟨[], ws.flatten ++ line, groupsOf p.pieces ws, []⟩) := by
  refine ⟨fun htail r => ?_, fun htail r hr => ?_, fun htail line hline => ?_⟩
  · rw [matchAt, matchPieces_of_fits h, Option.bind_some, htail]
  · rw [matchAt, matchPieces_of_fits h, Option.bind_some, htail]
    exact if_pos hr
  · have htest : ∀ c ∈ line, decide (c ≠ '\n') = true := fun c hc => decide_eq_true (hline c hc)
    rw [matchAt, matchPieces_of_fits h, Option.bind_some, htail]
    dsimp only
    rw [List.takeWhile_eq_self_iff.2 htest, List.dropWhile_eq_nil_iff.2 htest]
    rfl

/-- A match at a place is one of the words of the pieces. -/
theorem fits_of_matchAt {s : Text} (h : (p.matchAt s).isSome = true) :
    ∃ ws r, List.Forall₂ (fun p w => fits p.atoms w = true) p.pieces ws ∧
      s = ws.flatten ++ r ∧ (p.tail = .stop → atEnd r = true) := by
  obtain ⟨f, hf⟩ := Option.isSome_iff_exists.1 h
  obtain ⟨⟨ws, r⟩, hpieces, htail⟩ := Option.bind_eq_some_iff.1 hf
  obtain ⟨hall, hs⟩ := fits_of_matchPieces hpieces
  refine ⟨ws, r, hall, hs, fun hstop => ?_⟩
  rw [hstop] at htail
  dsimp only at htail
  split_ifs at htail with hend
  exact hend

/-- A regular expression with one piece. -/
theorem matchAt_isSome_iff {q : Piece} (hpieces : p.pieces = [q]) (htail : p.tail ≠ .rest)
    (s : Text) : (p.matchAt s).isSome = true ↔
      ∃ w r, fits q.atoms w = true ∧ s = w ++ r ∧ (p.tail = .stop → atEnd r = true) := by
  constructor
  · intro h
    obtain ⟨ws, r, hall, rfl, hend⟩ := fits_of_matchAt h
    rw [hpieces] at hall
    obtain ⟨w, ws, hw, hnil, rfl⟩ := List.forall₂_cons_left_iff.1 hall
    obtain rfl := List.forall₂_nil_left_iff.1 hnil
    exact ⟨w, r, hw, by rw [List.flatten_singleton], hend⟩
  · rintro ⟨w, r, hw, rfl, hend⟩
    have hall : List.Forall₂ (fun p w => fits p.atoms w = true) p.pieces [w] := by
      rw [hpieces]
      exact .cons hw .nil
    obtain ⟨hanywhere, hstop, -⟩ := matchAt_of_fits hall
    rw [show w = [w].flatten from List.flatten_singleton.symm]
    cases h : p.tail with
    | anywhere => rw [hanywhere h]; rfl
    | stop => rw [hstop h r (hend h)]; rfl
    | rest => exact absurd h htail

/-- With `^` only the start of the text is tried. -/
lemma search_of_start (h : p.start = true) (s : Text) : p.search s = p.matchAt s := by
  cases s with
  | nil => rfl
  | cons c s =>
    rw [search, if_pos h]
    cases p.matchAt (c :: s) <;> rfl

/-- **Where a regular expression without `^` matches.** -/
theorem search_isSome_iff (h : p.start = false) (s : Text) :
    (p.search s).isSome = true ↔ ∃ b r, s = b ++ r ∧ (p.matchAt r).isSome = true := by
  induction s with
  | nil =>
    constructor
    · exact fun hs => ⟨[], [], rfl, hs⟩
    · rintro ⟨b, r, hbr, hr⟩
      obtain ⟨rfl, rfl⟩ := List.append_eq_nil_iff.1 hbr.symm
      exact hr
  | cons c s ih =>
    rw [search]
    cases hat : p.matchAt (c :: s) with
    | some f =>
      refine ⟨fun _ => ⟨[], c :: s, rfl, ?_⟩, fun _ => rfl⟩
      rw [hat]
      rfl
    | none =>
      rw [if_neg (by simp [h]), Option.isSome_map, ih]
      constructor
      · rintro ⟨b, r, rfl, hr⟩
        exact ⟨c :: b, r, rfl, hr⟩
      · rintro ⟨b, r, hbr, hr⟩
        cases b with
        | nil =>
          rw [← show c :: s = r from hbr, hat] at hr
          cases hr
        | cons d b => exact ⟨b, r, (List.cons.inj hbr).2, hr⟩

end Pattern

end Matching

/-! ## Substitution -/

/-- A template with the whole match and its groups put in for `\0`, `\1` and so on. -/
def expand (f : Found) : Text → Text
  | '\\' :: c :: rest =>
    (if c.isDigit then ((f.whole :: f.groups)[c.toNat - '0'.toNat]?).getD []
      else if c = '&' then f.whole else [c]) ++ expand f rest
  | c :: rest => c :: expand f rest
  | [] => []

/-- A text without the letter of an escape stands for itself. -/
lemma expand_append (f : Found) {w : Text} (h : '\\' ∉ w) (rest : Text) :
    expand f (w ++ rest) = w ++ expand f rest := by
  induction w with
  | nil => rfl
  | cons c w ih =>
    obtain ⟨hc, hw⟩ := not_or.1 (mt List.mem_cons.2 h)
    rw [List.cons_append, expand.eq_2, ih hw, List.cons_append]
    rintro d rest' rfl
    exact absurd rfl hc

/-- The first match replaced by a template. -/
def regsub (p : Pattern) (sub s : Text) : Text :=
  match p.search s with
  | some f => f.before ++ expand f sub ++ f.after
  | none => s

/-! ## Expressions and tests -/

section Expressions

variable {B W : Type}

/-- Strings. A `gap` is the white space that is left after a comma or an operator. -/
inductive Expr where
  | str (t : Text)
  | header (o : Obj) (h : Text)
  /-- The `k`-th random UUID. -/
  | uuid (k : ℕ)
  | tolower (e : Expr)
  /-- Every occurrence of a letter is deleted. -/
  | delete (e : Expr) (c : Char)
  | regsub (e : Expr) (gap : Text) (p : Pattern) (gap' : Text) (sub : Expr)
  | concat (a : Expr) (gap : Text) (b : Expr)

/-- The text of an expression. -/
def Expr.text : Expr → Text
  | .str t => "\"" ++ t ++ "\""
  | .header o h => o.text ++ ".http." ++ h
  | .uuid _ => "uuid.uuid_v4()"
  | .tolower e => "std.tolower(" ++ e.text ++ ")"
  | .delete e c => "regsuball(" ++ e.text ++ ", \"" ++ [c] ++ "\", \"\")"
  | .regsub e gap p gap' sub =>
    "regsub(" ++ e.text ++ "," ++ gap ++ "\"" ++ p.text ++ "\"," ++ gap' ++ sub.text ++ ")"
  | .concat a gap b => a.text ++ " +" ++ gap ++ b.text

/-- The value of an expression. -/
def Expr.eval (uuid : ℕ → State B W → Text) (s : State B W) : Expr → Text
  | .str t => t
  | .header o h => (s.get o h).getD []
  | .uuid k => uuid k s
  | .tolower e => (e.eval uuid s).map Char.toLower
  | .delete e c => (e.eval uuid s).filter (· ≠ c)
  | .regsub e _ p _ sub => Vcl.regsub p (sub.eval uuid s) (e.eval uuid s)
  | .concat a _ b => a.eval uuid s ++ b.eval uuid s

/-- Tests. -/
inductive Test where
  | present (o : Obj) (h : Text)
  | like (o : Obj) (h : Text) (p : Pattern)
  | unlike (o : Obj) (h : Text) (p : Pattern)
  | and (a : Test) (gap : Text) (b : Test)
  | or (a : Test) (gap : Text) (b : Test)

/-- The text of a test. -/
def Test.text : Test → Text
  | .present o h => o.text ++ ".http." ++ h
  | .like o h p => o.text ++ ".http." ++ h ++ " ~ \"" ++ p.text ++ "\""
  | .unlike o h p => o.text ++ ".http." ++ h ++ " !~ \"" ++ p.text ++ "\""
  | .and a gap b => a.text ++ " &&" ++ gap ++ b.text
  | .or a gap b => a.text ++ " ||" ++ gap ++ b.text

/-- Whether a test holds. -/
def Test.eval (s : State B W) : Test → Bool
  | .present o h => (s.get o h).isSome
  | .like o h p => p.matched ((s.get o h).getD [])
  | .unlike o h p => !p.matched ((s.get o h).getD [])
  | .and a _ b => a.eval s && b.eval s
  | .or a _ b => a.eval s || b.eval s

end Expressions

end Vcl
