import CloudVinyl.Lib.Strings

set_option relaxedAutoImplicit false
set_option autoImplicit false

/-!
# Byte streams that carry text

A stream of bytes is read up to a delimiter, or a number of bytes at a time. A line of it is text in
UTF-8, of which a reader of words and numbers sees the ASCII characters and the white space; every
other byte is part of a word that is no number.

## Main definitions

* `Bytes.ascii` — the bytes of an ASCII text.
* `Bytes.readString` — the bytes up to a delimiter, and the rest.
* `Bytes.toText` — the characters that a line of bytes shows.

## Main results

* `Bytes.readString_append` — what is read ends in the first delimiter.
* `Bytes.toText_ascii` — an ASCII text is read as it was written.
-/

namespace Bytes

/-! ## Delimiters -/

/-- The bytes up to the first delimiter, which is the last one of them, and the rest. -/
def readString (delim : UInt8) : List UInt8 → Option (List UInt8 × List UInt8)
  | [] => none
  | b :: bs =>
    if b = delim then some ([b], bs)
    else (readString delim bs).map fun r => (b :: r.1, r.2)

/-- A read ends at the first delimiter. -/
lemma readString_append {delim : UInt8} {l : List UInt8} (h : delim ∉ l) (rest : List UInt8) :
    readString delim (l ++ delim :: rest) = some (l ++ [delim], rest) := by
  induction l with
  | nil => simp [readString]
  | cons b l ih =>
    obtain ⟨hb, hl⟩ := not_or.1 (mt List.mem_cons.2 h)
    rw [List.cons_append, readString, if_neg (Ne.symm hb), ih hl]
    rfl

/-! ## Text -/

/-- The bytes of an ASCII text. -/
def ascii (s : Text) : List UInt8 := s.map Char.toUInt8

/-- The white space that takes more than one byte. -/
def wideSpaces : List (List UInt8) :=
  ['\u0085', '\u00a0', '\u1680', '\u2000', '\u2001', '\u2002', '\u2003', '\u2004', '\u2005',
    '\u2006', '\u2007', '\u2008', '\u2009', '\u200a', '\u2028', '\u2029', '\u202f', '\u205f',
    '\u3000'].map String.utf8EncodeChar

/-- The characters that bytes show behind `skip` bytes of white space: those of ASCII, white space,
and the replacement character for every other byte. The bytes of a white space character are not
part of another one, so they may be looked for at every place. -/
def toText : ℕ → List UInt8 → Text
  | _, [] => []
  | skip + 1, _ :: bs => ' ' :: toText skip bs
  | 0, b :: bs =>
    if b < 128 then Char.ofNat b.toNat :: toText 0 bs
    else
      match wideSpaces.find? (·.isPrefixOf (b :: bs)) with
      | some w => ' ' :: toText (w.length - 1) bs
      | none => '\ufffd' :: toText 0 bs

section Ascii

variable {c : Char}

/-- The byte of an ASCII character is its code. -/
lemma toNat_toUInt8 (hc : c.toNat < 128) : c.toUInt8.toNat = c.toNat := by
  have hmod : c.toUInt8.toNat = c.toNat % 2 ^ 8 := rfl
  rw [hmod]
  exact Nat.mod_eq_of_lt (by omega)

/-- An ASCII text is read as it was written. -/
lemma toText_ascii {s : Text} (h : ∀ c ∈ s, c.toNat < 128) (bs : List UInt8) :
    toText 0 (ascii s ++ bs) = s ++ toText 0 bs := by
  induction s with
  | nil => rfl
  | cons c s ih =>
    have hc := h c List.mem_cons_self
    have hbyte : c.toUInt8 < 128 := by
      rw [UInt8.lt_iff_toNat_lt, toNat_toUInt8 hc]
      exact hc
    have hchar : Char.ofNat c.toUInt8.toNat = c := by rw [toNat_toUInt8 hc, Char.ofNat_toNat]
    have hrest := ih fun d hd => h d (List.mem_cons_of_mem c hd)
    rw [ascii, List.map_cons, List.cons_append, toText, if_pos hbyte, hchar, ← ascii, hrest]
    rfl

/-- A character that an ASCII text does not have is not among its bytes. -/
lemma not_mem_ascii {s : Text} (h : ∀ c ∈ s, c.toNat < 128) {d : Char} (hd : d.toNat < 128)
    (hds : d ∉ s) : d.toUInt8 ∉ ascii s := by
  intro hmem
  obtain ⟨c, hc, heq⟩ := List.mem_map.1 hmem
  have hnat : c.toNat = d.toNat := by
    rw [← toNat_toUInt8 (h c hc), heq, toNat_toUInt8 hd]
  exact hds (Char.toNat_inj.1 hnat ▸ hc)

end Ascii

end Bytes
