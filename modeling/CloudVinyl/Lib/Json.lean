import CloudVinyl.Lib.Strings

set_option relaxedAutoImplicit false
set_option autoImplicit false

/-!
# Reading JSON

A reader of JSON as `encoding/json` has it, and how it fills the fields of a structure. A literal is
read in two steps: its escapes are resolved one by one, and then the units of UTF-16 among them are
put together, two of them if they are a pair of surrogates.

The reader of values goes down at most as deep as it is told to, and every list of members or
elements is read by a loop over the reader of the values in it.

## Main definitions

* `Json.string` — a literal behind its opening quote.
* `Json.Value`, `Json.value` — the values and their reader.
* `Json.decode` — the members of an object in front of a text.
* `Json.text` — a field of a structure that is a text.
* `Json.printObject` — an object of texts, as it is written.

## Main results

* `Json.string_quoteJSON` — a text is read back.
* `Json.decode_printObject` — an object of texts is read back.
-/

namespace Json

/-! ## Literals -/

/-- White space between the tokens. -/
def isSpace (c : Char) : Bool := c = ' ' || c = '\t' || c = '\n' || c = '\r'

/-- What is left behind the white space. -/
def skip (s : Text) : Text := s.dropWhile isSpace

/-- The value of a hexadecimal digit. -/
def hexVal (c : Char) : Option ℕ :=
  if '0' ≤ c ∧ c ≤ '9' then some (c.toNat - '0'.toNat)
  else if 'a' ≤ c ∧ c ≤ 'f' then some (c.toNat - 'a'.toNat + 10)
  else if 'A' ≤ c ∧ c ≤ 'F' then some (c.toNat - 'A'.toNat + 10)
  else none

/-- Four hexadecimal digits. -/
def hex4 (a b c d : Char) : Option ℕ := do
  let a ← hexVal a
  let b ← hexVal b
  let c ← hexVal c
  let d ← hexVal d
  some (4096 * a + 256 * b + 16 * c + d)

/-- The escapes of one letter. -/
def unescape (e : Char) : Option Char :=
  (('/', '/') :: Text.shortEscapes.map Prod.swap).lookup e

/-- A piece of a literal: a character, or a unit of UTF-16. -/
inductive Piece where
  | char (c : Char)
  | unit (n : ℕ)

/-- The pieces of a literal up to its closing quote, and what follows. -/
def literal : Text → Option (List Piece × Text)
  | [] => none
  | '"' :: s => some ([], s)
  | '\\' :: 'u' :: a :: b :: c :: d :: s => do
    let n ← hex4 a b c d
    let (ps, rest) ← literal s
    some (.unit n :: ps, rest)
  | '\\' :: e :: s => do
    let c ← unescape e
    let (ps, rest) ← literal s
    some (.char c :: ps, rest)
  | c :: s =>
    if c < ' ' then none
    else do
      let (ps, rest) ← literal s
      some (.char c :: ps, rest)

/-- The code unit begins a pair. -/
def isHighSurrogate (n : ℕ) : Bool := 0xD800 ≤ n && n < 0xDC00

/-- The code unit ends a pair. -/
def isLowSurrogate (n : ℕ) : Bool := 0xDC00 ≤ n && n < 0xE000

/-- The character of a unit of its own. -/
def unitChar (n : ℕ) : Char :=
  if isHighSurrogate n || isLowSurrogate n then '\ufffd' else Char.ofNat n

/-- The text of some pieces, behind a unit that may be the first one of a pair. -/
def joinFrom : Option ℕ → List Piece → Text
  | before, [] => before.toList.map unitChar
  | before, .char c :: ps => before.toList.map unitChar ++ c :: joinFrom none ps
  | none, .unit m :: ps => joinFrom (some m) ps
  | some n, .unit m :: ps =>
    if isHighSurrogate n && isLowSurrogate m then
      Char.ofNat (0x10000 + (n - 0xD800) * 0x400 + (m - 0xDC00)) :: joinFrom none ps
    else unitChar n :: joinFrom (some m) ps

/-- The text of the pieces, with pairs of surrogates joined. -/
def join (ps : List Piece) : Text := joinFrom none ps

/-- A literal behind its opening quote, and what follows. -/
def string (s : Text) : Option (Text × Text) := (literal s).map fun p => (join p.1, p.2)

/-! ## Values -/

/-- The values of JSON; a number is kept as it is written. -/
inductive Value where
  | null
  | bool (b : Bool)
  | number (s : Text)
  | string (s : Text)
  | array (vs : List Value)
  | object (ms : List (Text × Value))

/-- One digit or more. -/
def digits (s : Text) : Option (Text × Text) :=
  if (s.takeWhile Char.isDigit).isEmpty then none
  else some (s.takeWhile Char.isDigit, s.dropWhile Char.isDigit)

/-- The digits in front of the point; the only one that starts with a zero is zero. -/
def integer : Text → Option (Text × Text)
  | '0' :: s => some (['0'], s)
  | s => digits s

/-- The fraction of a number, which may be missing. -/
def fraction : Text → Option (Text × Text)
  | '.' :: s => (digits s).map fun p => ('.' :: p.1, p.2)
  | s => some ([], s)

/-- The exponent of a number, which may be missing. -/
def exponent : Text → Option (Text × Text)
  | e :: sign :: s =>
    if e = 'e' || e = 'E' then
      if sign = '+' || sign = '-' then (digits s).map fun p => (e :: sign :: p.1, p.2)
      else (digits (sign :: s)).map fun p => (e :: p.1, p.2)
    else some ([], e :: sign :: s)
  | s => if s = ['e'] || s = ['E'] then none else some ([], s)

/-- A number without a sign. -/
def unsigned (s : Text) : Option (Text × Text) := do
  let (i, s) ← integer s
  let (f, s) ← fraction s
  let (e, s) ← exponent s
  some (i ++ f ++ e, s)

/-- A number. -/
def number : Text → Option (Text × Text)
  | '-' :: s => (unsigned s).map fun p => ('-' :: p.1, p.2)
  | s => unsigned s

section Lists

variable (item : Text → Option (Value × Text))

/-- The members of an object up to its closing brace, at most `n` of them. -/
def members : ℕ → Text → Option (List (Text × Value) × Text)
  | n + 1, '"' :: s => do
    let (k, s) ← string s
    let s ← match skip s with
      | ':' :: s => some (skip s)
      | _ => none
    let (v, s) ← item s
    match skip s with
    | ',' :: s => do
      let (ms, s) ← members n (skip s)
      some ((k, v) :: ms, s)
    | '}' :: s => some ([(k, v)], s)
    | _ => none
  | _, _ => none

/-- The elements of an array up to its closing bracket. -/
def elements : ℕ → Text → Option (List Value × Text)
  | n + 1, s => do
    let (v, s) ← item s
    match skip s with
    | ',' :: s => do
      let (vs, s) ← elements n (skip s)
      some (v :: vs, s)
    | ']' :: s => some ([v], s)
    | _ => none
  | 0, _ => none

end Lists

/-- A value in front of a text that starts with no white space. -/
def value : ℕ → Text → Option (Value × Text)
  | 0, _ => none
  | _ + 1, '"' :: s => (string s).map fun p => (.string p.1, p.2)
  | depth + 1, '\x7b' :: s =>
    match skip s with
    | '\x7d' :: s => some (.object [], s)
    | s => (members (value depth) s.length s).map fun p => (.object p.1, p.2)
  | depth + 1, '[' :: s =>
    match skip s with
    | ']' :: s => some (.array [], s)
    | s => (elements (value depth) s.length s).map fun p => (.array p.1, p.2)
  | _ + 1, 'n' :: 'u' :: 'l' :: 'l' :: s => some (.null, s)
  | _ + 1, 't' :: 'r' :: 'u' :: 'e' :: s => some (.bool true, s)
  | _ + 1, 'f' :: 'a' :: 'l' :: 's' :: 'e' :: s => some (.bool false, s)
  | _ + 1, s => (number s).map fun p => (.number p.1, p.2)

/-- The nesting that `encoding/json` allows. -/
def maxNestingDepth : ℕ := 10000

/-- `Decoder.Decode` into a structure: the members of the object in front of a text. What follows it
is left for the next call. Nothing is filled in from `null`, and no other value fits. -/
def decode (s : Text) : Option (List (Text × Value)) :=
  match value (maxNestingDepth + 1) (skip s) with
  | some (.object ms, _) => some ms
  | some (.null, rest) => if rest.head?.all isSpace then some [] else none
  | _ => none

/-! ## Fields -/

/-- The case of the letters does not matter in the name of a field. Two characters that are no
letters of ASCII count as ones. -/
def foldKey (c : Char) : Char :=
  if c = '\u017f' then 'S' else if c = '\u212a' then 'K' else c.toUpper

/-- The key names the field, in any case. -/
def isField (name key : Text) : Bool := key.map foldKey = name.map foldKey

/-- A field that is a text. The last member with its name counts, `null` leaves it as it is, and a
value of another kind is an error. -/
def text (name : Text) (ms : List (Text × Value)) : Option Text :=
  ms.foldlM (fun old m =>
    if isField name m.1 then
      match m.2 with
      | .string s => some s
      | .null => some old
      | _ => none
    else some old) []

/-! ## Literals are read back -/

/-- What a character of a text is read as. -/
def piece (c : Char) : Piece :=
  match Text.shortEscapes.lookup c with
  | some _ => .char c
  | none =>
    if c < ' ' || ['<', '>', '&', '\u2028', '\u2029'].contains c then .unit c.toNat else .char c

/-- A digit that is printed is read back. -/
lemma hexVal_digitChar {n : ℕ} (h : n < 16) : hexVal (Nat.digitChar n) = some n := by
  have hall : ∀ n < 16, hexVal (Nat.digitChar n) = some n := by decide
  exact hall n h

/-- Four digits that are printed are read back. -/
lemma hex4_digitChar {n : ℕ} (h : n < 65536) :
    hex4 (Nat.digitChar (n / 4096 % 16)) (Nat.digitChar (n / 256 % 16))
      (Nat.digitChar (n / 16 % 16)) (Nat.digitChar (n / 1 % 16)) = some n := by
  unfold hex4
  rw [hexVal_digitChar (by omega), hexVal_digitChar (by omega), hexVal_digitChar (by omega),
    hexVal_digitChar (by omega)]
  simp only [Option.bind_eq_bind, Option.bind_some, Option.some.injEq]
  omega

/-- The characters that are escaped by their number are no surrogates. -/
lemma toNat_lt_of_escaped {c : Char}
    (h : (c < ' ' || ['<', '>', '&', '\u2028', '\u2029'].contains c) = true) :
    c.toNat < 0xD800 := by
  rw [Bool.or_eq_true, decide_eq_true_eq] at h
  rcases h with hlt | hmem
  · have hnat : c.toNat < ' '.toNat := hlt
    have hspace : ' '.toNat = 32 := rfl
    omega
  · have hcases : c = '<' ∨ c = '>' ∨ c = '&' ∨ c = '\u2028' ∨ c = '\u2029' := by
      simpa using List.contains_iff_mem.1 hmem
    rcases hcases with rfl | rfl | rfl | rfl | rfl <;> decide

/-- A character below the surrogates is its own code unit. -/
lemma unitChar_toNat {c : Char} (h : c.toNat < 0xD800) : unitChar c.toNat = c := by
  have hno : (isHighSurrogate c.toNat || isLowSurrogate c.toNat) = false := by
    simp only [isHighSurrogate, isLowSurrogate, Bool.or_eq_false_iff, Bool.and_eq_false_iff,
      decide_eq_false_iff_not]
    omega
  rw [unitChar, hno, if_neg Bool.false_ne_true, Char.ofNat_toNat]

/-- The characters of a text come back from their pieces. -/
lemma joinFrom_map_piece (s : Text) :
    ∀ before : Option ℕ, (∀ n ∈ before, n < 0xD800) →
      joinFrom before (s.map piece) = before.toList.map unitChar ++ s := by
  induction s with
  | nil =>
    intro before _
    simp [joinFrom]
  | cons c s ih =>
    intro before hbefore
    have hchar : joinFrom before (.char c :: s.map piece) =
        before.toList.map unitChar ++ c :: s := by
      rw [joinFrom, ih none (by simp)]
      rfl
    rw [List.map_cons, piece]
    split
    · exact hchar
    · split_ifs with hesc
      · have hc := toNat_lt_of_escaped hesc
        have hnext := ih (some c.toNat) (by simpa using hc)
        have hpair : joinFrom (some c.toNat) (s.map piece) = c :: s := by
          rw [hnext]
          simp [unitChar_toNat hc]
        cases before with
        | none => rw [joinFrom, hpair]; rfl
        | some n =>
          have hn : n < 0xD800 := hbefore n rfl
          have hlow : isHighSurrogate n = false := by
            simp only [isHighSurrogate, Bool.and_eq_false_iff, decide_eq_false_iff_not]
            omega
          rw [joinFrom, hlow, Bool.false_and, if_neg Bool.false_ne_true, hpair]
          rfl
      · exact hchar

/-- An escape, or a character as it is, is read as one piece. -/
lemma literal_jsonChar (c : Char) (s : Text) :
    literal (Text.jsonChar c ++ s) = (literal s).map fun p => (piece c :: p.1, p.2) := by
  unfold Text.jsonChar piece
  cases hshort : Text.shortEscapes.lookup c with
  | some e =>
    have hall : ∀ p ∈ Text.shortEscapes, unescape p.2 = some p.1 ∧ p.2 ≠ 'u' := by decide
    obtain ⟨l, r, hsplit, -⟩ := List.lookup_eq_some_iff.1 hshort
    obtain ⟨hunescape, hu⟩ := hall (c, e) (by simp [hsplit])
    dsimp only
    rw [List.cons_append, List.cons_append, List.nil_append, literal]
    · rw [hunescape]
      cases literal s <;> rfl
    · exact fun a b c d s' heq _ => hu heq
  | none =>
    dsimp only
    split_ifs with hesc
    · have hc := toNat_lt_of_escaped hesc
      simp only [Text.unicodeEscape, List.map_cons, List.map_nil, List.cons_append,
        List.nil_append]
      rw [literal, hex4_digitChar (by omega)]
      cases literal s <;> rfl
    · have hquote : c ≠ '"' := by
        rintro rfl
        exact absurd hshort (by decide)
      have hslash : c ≠ '\\' := by
        rintro rfl
        exact absurd hshort (by decide)
      rw [Bool.or_eq_true, not_or, decide_eq_true_eq] at hesc
      rw [List.singleton_append, literal, if_neg hesc.1]
      · cases literal s <;> rfl
      · exact hquote
      · exact fun a b c d s' hc _ => hslash hc
      · exact fun e s' hc _ => hslash hc

/-- **A text is read back** from its literal, whatever follows. -/
theorem string_quoteJSON (s r : Text) :
    string (s.flatMap Text.jsonChar ++ '"' :: r) = some (s, r) := by
  have hliteral : literal (s.flatMap Text.jsonChar ++ '"' :: r) = some (s.map piece, r) := by
    induction s with
    | nil => simp [literal]
    | cons c s ih =>
      rw [List.flatMap_cons, List.append_assoc, literal_jsonChar, ih]
      rfl
  rw [string, hliteral, Option.map_some, join, joinFrom_map_piece s none (by simp)]
  rfl

/-! ## Objects are read back -/

/-- A member that is a text, as it is written. -/
def printMember (m : Text × Text) : Text := Text.quoteJSON m.1 ++ ":" ++ Text.quoteJSON m.2

/-- An object of texts, as it is written. -/
def printObject (ms : List (Text × Text)) : Text :=
  "\x7b" ++ [','].intercalate (ms.map printMember) ++ "\x7d"

/-- What the members are read as. -/
def ofTexts (ms : List (Text × Text)) : List (Text × Value) := ms.map fun m => (m.1, .string m.2)

/-- A quoted text, and something behind it. -/
lemma quoteJSON_append (s r : Text) :
    Text.quoteJSON s ++ r = '"' :: (s.flatMap Text.jsonChar ++ '"' :: r) := by
  simp [Text.quoteJSON]

/-- A printed member, and something behind it. -/
lemma printMember_append (m : Text × Text) (r : Text) :
    printMember m ++ r =
      '"' :: (m.1.flatMap Text.jsonChar ++ '"' :: ':' :: (Text.quoteJSON m.2 ++ r)) := by
  rw [printMember, List.append_assoc, List.append_assoc, quoteJSON_append]
  rfl

/-- A text that is printed is read back. -/
lemma value_quoteJSON (depth : ℕ) (s r : Text) :
    value (depth + 1) (Text.quoteJSON s ++ r) = some (.string s, r) := by
  rw [quoteJSON_append, value, string_quoteJSON]
  rfl

/-- There is no white space before a character that is none. -/
lemma skip_of_head {c : Char} (hc : isSpace c = false) (r : Text) : skip (c :: r) = c :: r := by
  rw [skip, List.dropWhile_cons_of_neg (by rw [hc]; exact Bool.false_ne_true)]

/-- One member, with the mark behind it. -/
lemma members_printMember {item : Text → Option (Value × Text)}
    (hitem : ∀ s r, item (Text.quoteJSON s ++ r) = some (.string s, r)) (n : ℕ) (m : Text × Text)
    (r : Text) :
    members item (n + 1) (printMember m ++ '\x7d' :: r) = some (ofTexts [m], r) ∧
      members item (n + 1) (printMember m ++ ',' :: r) =
        (members item n (skip r)).map fun p => ((m.1, .string m.2) :: p.1, p.2) := by
  have hvalue (r : Text) : skip (Text.quoteJSON m.2 ++ r) = Text.quoteJSON m.2 ++ r := by
    rw [quoteJSON_append, skip_of_head (by decide)]
  have hread (r : Text) : members item (n + 1) (printMember m ++ r) =
      match skip r with
      | ',' :: s => (members item n (skip s)).map fun p => ((m.1, .string m.2) :: p.1, p.2)
      | '\x7d' :: s => some ([(m.1, .string m.2)], s)
      | _ => none := by
    rw [printMember_append, members, string_quoteJSON]
    simp only [Option.bind_eq_bind, Option.bind_some]
    rw [skip_of_head (by decide)]
    simp only [Option.bind_some, hvalue, hitem]
    split
    · cases members item n (skip _) <;> rfl
    · rfl
    · rfl
  constructor
  · rw [hread, skip_of_head (by decide)]
    rfl
  · rw [hread, skip_of_head (by decide)]
    rfl

/-- The members start with a quote, and there is a character for each of them. -/
lemma intercalate_printMember (m : Text × Text) (ms : List (Text × Text)) :
    (∃ t, [','].intercalate ((m :: ms).map printMember) = '"' :: t) ∧
      (m :: ms).length ≤ ([','].intercalate ((m :: ms).map printMember)).length := by
  induction ms generalizing m with
  | nil =>
    rw [List.map_singleton, List.intercalate_singleton, ← List.append_nil (printMember m),
      printMember_append]
    exact ⟨⟨_, rfl⟩, by simp⟩
  | cons m' ms ih =>
    rw [List.map_cons, List.map_cons, List.intercalate_cons_cons, ← List.map_cons,
      List.append_assoc]
    have hlength := (ih m').2
    rw [printMember_append]
    refine ⟨⟨_, rfl⟩, ?_⟩
    simp only [List.length_cons, List.length_append] at hlength ⊢
    omega

/-- The members of an object of texts, given enough steps. -/
lemma members_print {item : Text → Option (Value × Text)}
    (hitem : ∀ s r, item (Text.quoteJSON s ++ r) = some (.string s, r)) (r : Text)
    (ms : List (Text × Text)) (hne : ms ≠ []) (n : ℕ) (hn : ms.length ≤ n) :
    members item n ([','].intercalate (ms.map printMember) ++ '\x7d' :: r) =
      some (ofTexts ms, r) := by
  induction ms generalizing n with
  | nil => exact absurd rfl hne
  | cons m ms ih =>
    obtain ⟨n, rfl⟩ : ∃ k, n = k + 1 := ⟨n - 1, by simp at hn; omega⟩
    cases ms with
    | nil =>
      rw [List.map_singleton, List.intercalate_singleton]
      exact (members_printMember hitem n m r).1
    | cons m' ms =>
      have hrest := ih (by simp) n (by simpa using hn)
      have hskip : skip ([','].intercalate ((m' :: ms).map printMember) ++ '\x7d' :: r) =
          [','].intercalate ((m' :: ms).map printMember) ++ '\x7d' :: r := by
        obtain ⟨t, ht⟩ := (intercalate_printMember m' ms).1
        rw [ht, List.cons_append, skip_of_head (by decide)]
      rw [List.map_cons, List.map_cons, List.intercalate_cons_cons, ← List.map_cons,
        List.append_assoc, List.append_assoc, List.singleton_append,
        (members_printMember hitem n m _).2, hskip, hrest]
      rfl

/-- An object with a member. -/
lemma value_object (depth : ℕ) (s : Text) :
    value (depth + 1) ('\x7b' :: '"' :: s) =
      (members (value depth) (s.length + 1) ('"' :: s)).map fun p => (.object p.1, p.2) := by
  rw [value, skip_of_head (by decide)]
  rfl

/-- **An object of texts is read back**, whatever follows. -/
theorem decode_printObject (ms : List (Text × Text)) (r : Text) :
    decode (printObject ms ++ r) = some (ofTexts ms) := by
  have hprint : skip (printObject ms ++ r) =
      '\x7b' :: ([','].intercalate (ms.map printMember) ++ '\x7d' :: r) := by
    have heq : printObject ms ++ r =
        '\x7b' :: ([','].intercalate (ms.map printMember) ++ '\x7d' :: r) := by
      simp [printObject]
    rw [heq, skip_of_head (by decide)]
  have hvalue : value (maxNestingDepth + 1) (skip (printObject ms ++ r)) =
      some (.object (ofTexts ms), r) := by
    rw [hprint]
    cases ms with
    | nil => rfl
    | cons m ms =>
      obtain ⟨⟨t, ht⟩, hlength⟩ := intercalate_printMember m ms
      have hitem (s r : Text) : value maxNestingDepth (Text.quoteJSON s ++ r) =
          some (.string s, r) := value_quoteJSON 9999 s r
      have hmembers := members_print hitem r (m :: ms) (by simp) ((t ++ '\x7d' :: r).length + 1)
        (by rw [ht] at hlength; simp at hlength ⊢; omega)
      rw [ht, List.cons_append] at hmembers ⊢
      rw [value_object, hmembers]
      rfl
  unfold decode
  rw [hvalue]

end Json
