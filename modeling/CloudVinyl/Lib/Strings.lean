import Mathlib.Algebra.Ring.Int.Defs
import Mathlib.Algebra.Ring.Nat
import Mathlib.Data.List.Basic
import Mathlib.Data.List.Infix
import CloudVinyl.Lib.Words

set_option relaxedAutoImplicit false
set_option autoImplicit false

/-!
# Text and the string functions of Go

A text is the list of its characters. The functions below follow the documented behaviour of
Go's standard packages and keep their names.

## Main definitions

* `Text` — a list of characters; a string literal is read as a text where one is expected.
* `Text.fields`, `Text.trimSpace`, `Text.cut`, `Text.equalFold` — package `strings`.
* `Text.atoi`, `Text.parseUint` — package `strconv`, on 64-bit integers.
* `Text.decimal` — a natural number in base ten, as the verb `%d` prints it.
* `Text.quoteJSON`, `Text.limitReader` — packages `encoding/json` and `io`.

## Main results

* `Text.decimal_injective`, `Text.isDigit_of_mem_decimal` — the decimal notation is injective
  and made of digits.
* `Text.infix_of_infix_quoteJSON` — quoting does not make up an occurrence of a plain text.
-/

/-- A text: the list of its characters. -/
abbrev Text := List Char

namespace Text

/-- String literals stand for texts. -/
instance : Coe String Text := ⟨String.toList⟩

/-- `unicode.IsSpace`: the Latin-1 spaces and the characters of category Z above them. -/
def isSpace (c : Char) : Bool :=
  c ∈ ['\t', '\n', '\x0b', '\x0c', '\r', ' ', '\u0085', '\u00a0', '\u1680', '\u2028',
    '\u2029', '\u202f', '\u205f', '\u3000'] || ('\u2000' ≤ c && c ≤ '\u200a')

/-- `strings.Fields`: the words between runs of white space. -/
def fields (s : Text) : List Text := Words.words isSpace s

/-- `strings.TrimSpace`: the text without leading and trailing white space. -/
def trimSpace (s : Text) : Text :=
  ((s.dropWhile isSpace).reverse.dropWhile isSpace).reverse

/-- `strings.HasPrefix`. -/
def hasPrefix (s pre : Text) : Bool := pre.isPrefixOf s

/-- `strings.HasPrefix` is the prefix order. -/
lemma hasPrefix_iff {s pre : Text} : hasPrefix s pre = true ↔ pre <+: s :=
  List.isPrefixOf_iff_prefix

/-- `strings.Contains`. -/
def contains (s sub : Text) : Bool := decide (sub <:+: s)

/-- `strings.Cut` at a single character: the text before and after its first occurrence. -/
def cut (s : Text) (sep : Char) : Option (Text × Text) :=
  match s.dropWhile (· != sep) with
  | [] => none
  | _ :: after => some (s.takeWhile (· != sep), after)

/-- A text is cut at the first separator. -/
lemma cut_eq_some_iff {s : Text} {sep : Char} {before after : Text} :
    cut s sep = some (before, after) ↔ s = before ++ sep :: after ∧ sep ∉ before := by
  constructor
  · intro h
    unfold cut at h
    split at h
    · cases h
    · next d rest hdrop =>
      obtain ⟨rfl, rfl⟩ := Prod.mk.inj (Option.some.inj h)
      have hstop : (d != sep) = false := by
        have hhead := List.head?_dropWhile_not (· != sep) s
        simpa [hdrop] using hhead
      obtain rfl : d = sep := by simpa using hstop
      refine ⟨?_, fun hmem => ?_⟩
      · rw [← hdrop, List.takeWhile_append_dropWhile]
      · simpa using List.mem_takeWhile_imp hmem
  · rintro ⟨rfl, hbefore⟩
    have hall : ∀ c ∈ before, (c != sep) = true := fun c hc => by
      have hne : c ≠ sep := fun heq => hbefore (heq ▸ hc)
      simpa using hne
    unfold cut
    rw [List.dropWhile_append_of_pos hall, List.takeWhile_append_of_pos hall]
    simp

/-- `strings.ReplaceAll` of one character by another. -/
def replaceAll (s : Text) (old new : Char) : Text :=
  s.map fun c => if c = old then new else c

/-- Two texts that do not hold the new character are told apart after the replacement. -/
lemma replaceAll_inj {s t : Text} {old new : Char} (hs : new ∉ s) (ht : new ∉ t)
    (h : replaceAll s old new = replaceAll t old new) : s = t := by
  induction s generalizing t with
  | nil =>
    cases t with
    | nil => rfl
    | cons d t => simp [replaceAll] at h
  | cons c s ih =>
    cases t with
    | nil => simp [replaceAll] at h
    | cons d t =>
      simp only [List.mem_cons, not_or] at hs ht
      simp only [replaceAll, List.map_cons, List.cons.injEq] at h
      have hcd : c = d := by
        have hc := h.1
        split_ifs at hc with h₁ h₂ h₂
        · exact h₁.trans h₂.symm
        · exact absurd hc ht.1
        · exact absurd hc.symm hs.1
        · exact hc
      rw [hcd, ih hs.2 ht.2 h.2]

/-- `strings.Join`. -/
def join (l : List Text) (sep : Text) : Text := sep.intercalate l

/-- The lower case of an ASCII letter; other characters stay. The Kelvin sign and the long s
fold to `k` and `s`, the only characters outside ASCII that fold into it. -/
def foldASCII (c : Char) : Char :=
  if 'A' ≤ c ∧ c ≤ 'Z' then Char.ofNat (c.toNat + 32)
  else if c = '\u212a' then 'k'
  else if c = '\u017f' then 's'
  else c

/-- `strings.EqualFold` against an ASCII text. -/
def equalFold (s t : Text) : Bool := s.map foldASCII = t.map foldASCII

/-- The value of a decimal digit. -/
def digitVal (c : Char) : Option ℕ :=
  if '0' ≤ c ∧ c ≤ '9' then some (c.toNat - '0'.toNat) else none

/-- A nonempty run of decimal digits as a number. -/
def digits : Text → Option ℕ
  | [] => none
  | s => s.foldl (fun acc c => acc.bind fun n => (digitVal c).map (10 * n + ·)) (some 0)

/-- `strconv.ParseUint(s, 10, 64)`: digits only, below `2 ^ 64`. -/
def parseUint (s : Text) : Option ℕ :=
  (digits s).filter (· < 2 ^ 64)

/-- `strconv.Atoi` on a 64-bit platform: digits after at most one sign, in range. -/
def atoi (s : Text) : Option ℤ :=
  let value : Option ℤ := match s with
    | '-' :: s => (digits s).map fun n => -(n : ℤ)
    | '+' :: s => (digits s).map fun n => (n : ℤ)
    | s => (digits s).map fun n => (n : ℤ)
  value.filter fun z => decide (-(2 ^ 63) ≤ z ∧ z < 2 ^ 63)

/-- A natural number in base ten, as `%d` and `strconv.Itoa` print it. -/
def decimal (n : ℕ) : Text := Nat.toDigits 10 n

/-- An integer in base ten. -/
def decimalInt : ℤ → Text
  | .ofNat n => decimal n
  | .negSucc n => '-' :: decimal (n + 1)

/-- A decimal has digits only. -/
lemma isDigit_of_mem_decimal {n : ℕ} {c : Char} (h : c ∈ decimal n) : c.isDigit = true :=
  Nat.isDigit_of_mem_toDigits (by decide) (by decide) h

/-- An integer has digits and its sign only. -/
lemma mem_decimalInt {n : ℤ} {c : Char} (h : c ∈ decimalInt n) : c = '-' ∨ c.isDigit = true := by
  cases n with
  | ofNat n => exact .inr (isDigit_of_mem_decimal h)
  | negSucc n =>
    rcases List.mem_cons.1 h with h | h
    · exact .inl h
    · exact .inr (isDigit_of_mem_decimal h)

/-- A decimal is not empty. -/
lemma decimal_ne_nil (n : ℕ) : decimal n ≠ [] := Nat.toDigits_ne_nil

/-- The decimal notation determines the number. -/
lemma decimal_injective : Function.Injective decimal := by
  intro m n h
  rw [← Nat.ofDigitChars_ten_toDigits (n := m), ← Nat.ofDigitChars_ten_toDigits (n := n)]
  exact congrArg (fun s => Nat.ofDigitChars 10 s 0) h

/-- The value of a digit is its distance from zero. -/
lemma digitVal_of_isDigit {c : Char} (h : c.isDigit = true) :
    digitVal c = some (c.toNat - '0'.toNat) := by
  have hrange : '0' ≤ c ∧ c ≤ '9' := by simpa [Char.isDigit, Char.le_def] using h
  exact if_pos hrange

/-- The digits are read from the left. -/
lemma foldl_digitVal {s : Text} (h : ∀ c ∈ s, c.isDigit = true) (n : ℕ) :
    s.foldl (fun acc c => acc.bind fun n => (digitVal c).map (10 * n + ·)) (some n) =
      some (Nat.ofDigitChars 10 s n) := by
  induction s generalizing n with
  | nil => rfl
  | cons c s ih =>
    rw [List.foldl_cons, Option.bind_some, digitVal_of_isDigit (h c List.mem_cons_self),
      Option.map_some, ih fun d hd => h d (List.mem_cons_of_mem c hd)]
    rfl

/-- A number is read from its decimal notation. -/
lemma digits_decimal (n : ℕ) : digits (decimal n) = some n := by
  have hread := foldl_digitVal (s := decimal n) (fun c hc => isDigit_of_mem_decimal hc) 0
  rw [decimal, Nat.ofDigitChars_ten_toDigits] at hread
  unfold digits
  split
  case h_1 hnil => exact absurd hnil (decimal_ne_nil n)
  case h_2 => exact hread

/-- A decimal below 2^64 is read back. -/
lemma parseUint_decimal {n : ℕ} (h : n < 2 ^ 64) : parseUint (decimal n) = some n := by
  rw [parseUint, digits_decimal, Option.filter_some, if_pos (by simpa using h)]

/-- A number with a minus sign, if it is in the range of an `int`. -/
lemma atoi_minus (s : Text) : atoi ('-' :: s) =
    Option.filter (fun z : ℤ => decide (-(2 ^ 63) ≤ z ∧ z < 2 ^ 63))
      ((digits s).map fun n => -(n : ℤ)) := rfl

/-- An integer in range is read back. -/
lemma atoi_decimalInt {z : ℤ} (hlow : -(2 ^ 63) ≤ z) (hhigh : z < 2 ^ 63) :
    atoi (decimalInt z) = some z := by
  have hkeep : Option.filter (fun z : ℤ => decide (-(2 ^ 63) ≤ z ∧ z < 2 ^ 63)) (some z) =
      some z := by
    rw [Option.filter_some, if_pos (decide_eq_true ⟨hlow, hhigh⟩)]
  cases z with
  | ofNat n =>
    -- the first character is a digit, and so it is no sign
    have hsign : ∀ c ∈ (decimal n).head?, c ≠ '-' ∧ c ≠ '+' := by
      intro c hc
      have hdigit := isDigit_of_mem_decimal (List.mem_of_head? hc)
      constructor
      · rintro rfl
        exact absurd hdigit (by decide)
      · rintro rfl
        exact absurd hdigit (by decide)
    rw [decimalInt, atoi.eq_def]
    dsimp only
    split
    · next heq => exact absurd rfl (hsign '-' (by rw [heq]; rfl)).1
    · next heq => exact absurd rfl (hsign '+' (by rw [heq]; rfl)).2
    · rw [digits_decimal]
      exact hkeep
  | negSucc n =>
    rw [decimalInt, atoi_minus, digits_decimal]
    exact hkeep

/-- A decimal below 2^63 is read back. -/
lemma atoi_decimal {n : ℕ} (h : n < 2 ^ 63) : atoi (decimal n) = some (n : ℤ) :=
  atoi_decimalInt (z := (n : ℤ)) (by omega) (by omega)

/-! ## Package `encoding/json` and the limit of a reader -/

/-- The escapes of one letter. -/
def shortEscapes : List (Char × Char) :=
  [('"', '"'), ('\\', '\\'), ('\x08', 'b'), ('\x0c', 'f'), ('\n', 'n'), ('\r', 'r'), ('\t', 't')]

/-- The escape by the number of the character. -/
def unicodeEscape (c : Char) : Text :=
  '\\' :: 'u' :: [4096, 256, 16, 1].map fun unit => Nat.digitChar (c.toNat / unit % 16)

/-- A character inside a JSON string, as `encoding/json` escapes it. -/
def jsonChar (c : Char) : Text :=
  match shortEscapes.lookup c with
  | some e => ['\\', e]
  | none =>
    if c < ' ' || ['<', '>', '&', '\u2028', '\u2029'].contains c then unicodeEscape c else [c]

/-- A JSON string. -/
def quoteJSON (s : Text) : Text := '"' :: (s.flatMap jsonChar ++ ['"'])

/-- What `io.LimitReader` lets through of a text: the characters that fit into `n` bytes. -/
def limitReader : ℕ → Text → Text
  | _, [] => []
  | n, c :: s => if c.utf8Size ≤ n then c :: limitReader (n - c.utf8Size) s else []

/-- A limited read gives a part from the front. -/
lemma prefix_limitReader (n : ℕ) (s : Text) : limitReader n s <+: s := by
  induction s generalizing n with
  | nil => exact List.prefix_rfl
  | cons c s ih =>
    unfold limitReader
    split_ifs
    · exact List.cons_prefix_cons.2 ⟨rfl, ih _⟩
    · exact List.nil_prefix

/-- A beginning that fits is let through. -/
lemma limitReader_append {n : ℕ} {l : Text} (r : Text) (h : (l.map Char.utf8Size).sum ≤ n) :
    limitReader n (l ++ r) = l ++ limitReader (n - (l.map Char.utf8Size).sum) r := by
  induction l generalizing n with
  | nil => rfl
  | cons c l ih =>
    rw [List.map_cons, List.sum_cons] at h
    rw [List.cons_append, limitReader, if_pos (by omega), ih (by omega), List.map_cons,
      List.sum_cons, Nat.sub_sub, List.cons_append]

/-- An escape starts with a backslash and has no capital letter. -/
lemma jsonChar_cases (c : Char) : jsonChar c = [c] ∨
    ((∀ d ∈ jsonChar c, d.isUpper = false) ∧ ∃ v, jsonChar c = '\\' :: v) := by
  unfold jsonChar
  split
  case h_1 e he =>
    have hshort : shortEscapes.all (fun p => !p.2.isUpper) = true := by decide
    obtain ⟨l, r, hsplit, -⟩ := List.lookup_eq_some_iff.1 he
    have hupper : e.isUpper = false := by
      simpa using List.all_eq_true.1 hshort (c, e) (by simp [hsplit])
    refine .inr ⟨fun d hd => ?_, _, rfl⟩
    obtain rfl | rfl : d = '\\' ∨ d = e := by simpa using hd
    · rfl
    · exact hupper
  case h_2 =>
    have hdigit : ∀ n < 16, (Nat.digitChar n).isUpper = false := by decide
    split_ifs
    · refine .inr ⟨fun d hd => ?_, _, rfl⟩
      simp only [unicodeEscape, List.mem_cons, List.mem_map] at hd
      obtain rfl | rfl | ⟨unit, -, rfl⟩ := hd
      · rfl
      · rfl
      · exact hdigit _ (Nat.mod_lt _ (by omega))
    · exact .inl rfl

/-- A text that starts with a capital letter and has no backslash and no quote is found in a JSON
string only if it is found in the text that was quoted. -/
lemma infix_of_infix_quoteJSON {c : Char} {w s r : Text} (hc : c.isUpper = true)
    (hb : '\\' ∉ c :: w) (hq : '"' ∉ c :: w) (h : c :: w <:+: quoteJSON s ++ r) :
    c :: w <:+: s ∨ c :: w <:+: r := by
  have hbody : c :: w <:+: s.flatMap jsonChar ++ '"' :: r := by
    have hsplit : quoteJSON s ++ r = ['"'] ++ (s.flatMap jsonChar ++ '"' :: r) := by
      simp [quoteJSON]
    rw [hsplit] at h
    refine Words.infix_of_infix_append ?_ h
    rw [List.mem_singleton]
    exact fun hc => hq (hc ▸ List.mem_cons_self)
  refine (Words.infix_of_infix_append_cons hq hbody).imp_left fun hbody => ?_
  refine Words.infix_of_infix_flatMap (e := '\\') (fun a _ => ?_) hb hbody
  refine (jsonChar_cases a).imp_right fun ⟨hlow, hv⟩ => ⟨fun hca => ?_, hv⟩
  exact Bool.false_ne_true ((hlow c hca).symm.trans hc)

end Text
