import CloudVinyl.Lib.Words
import CloudVinyl.Lib.Strings

set_option relaxedAutoImplicit false
set_option autoImplicit false

/-!
# Names of the form of RFC 1123

A cluster takes two kinds of names. A *label* has letters in lower case, digits and dashes, begins
and ends with a letter or a digit, and is of at most 63 characters. A *subdomain* is a sequence of
such pieces with dots between them, of at most 253 characters altogether.

## Main definitions

* `Dns.isShaped` — the form of a piece, of any length.
* `Dns.isLabel`, `Dns.isSubdomain` — labels and subdomains.

## Main results

* `Dns.isShaped_join` — two pieces with a dash between them form a piece.
* `Dns.isShaped_of_trimmed` — a text of letters, digits and dashes that neither begins nor ends
  with a dash is a piece.
-/

namespace Dns

/-- A letter in lower case or a digit. -/
def isAlnum (c : Char) : Bool := c.isLower || c.isDigit

/-- The characters of a label. -/
def isLabelChar (c : Char) : Bool := isAlnum c || c = '-'

/-- The letters and digits of a label. -/
lemma isAlnum_iff {c : Char} :
    isAlnum c = true ↔ ('a' ≤ c ∧ c ≤ 'z') ∨ ('0' ≤ c ∧ c ≤ '9') := by
  have hlower : c.isLower = true ↔ 'a' ≤ c ∧ c ≤ 'z' := by
    show (decide ('a' ≤ c) && decide (c ≤ 'z')) = true ↔ _
    rw [Bool.and_eq_true, decide_eq_true_iff, decide_eq_true_iff]
  have hdigit : c.isDigit = true ↔ '0' ≤ c ∧ c ≤ '9' := by
    show (decide ('0' ≤ c) && decide (c ≤ '9')) = true ↔ _
    rw [Bool.and_eq_true, decide_eq_true_iff, decide_eq_true_iff]
  rw [isAlnum, Bool.or_eq_true, hlower, hdigit]

/-- A label has hyphens, too. -/
lemma isLabelChar_iff {c : Char} : isLabelChar c = true ↔ isAlnum c = true ∨ c = '-' := by
  rw [isLabelChar, Bool.or_eq_true, decide_eq_true_iff]

/-- The form `[a-z0-9]([-a-z0-9]*[a-z0-9])?`. -/
def isShaped (s : Text) : Bool :=
  s.head?.any isAlnum && s.getLast?.any isAlnum && s.all isLabelChar

/-- A label: of the shape, and with at most 63 characters. -/
def isLabel (s : Text) : Bool := isShaped s && decide (s.length ≤ 63)

/-- A subdomain: labels of the shape between dots, with at most 253 characters. -/
def isSubdomain (s : Text) : Bool :=
  (s.splitOn '.').all isShaped && decide (s.length ≤ 253)

section Shape

variable {s t : Text}

/-- The shape: the first and the last character are letters or digits. -/
lemma isShaped_iff : isShaped s = true ↔
    (∃ c ∈ s.head?, isAlnum c = true) ∧ (∃ c ∈ s.getLast?, isAlnum c = true) ∧
      ∀ c ∈ s, isLabelChar c = true := by
  simp only [isShaped, Bool.and_eq_true, Option.any_eq_true, List.all_eq_true, Option.mem_def,
    and_assoc]

/-- A label is of the shape and short enough. -/
lemma isLabel_iff : isLabel s = true ↔ isShaped s = true ∧ s.length ≤ 63 := by
  rw [isLabel, Bool.and_eq_true, decide_eq_true_iff]

/-- A label is of the shape. -/
lemma isShaped_of_isLabel (h : isLabel s = true) : isShaped s = true := (isLabel_iff.1 h).1

/-- Two pieces with a dash between them form a piece. -/
lemma isShaped_join (hs : isShaped s = true) (ht : isShaped t = true) :
    isShaped (s ++ '-' :: t) = true := by
  rw [isShaped_iff] at hs ht ⊢
  obtain ⟨⟨a, ha, hafter⟩, -, hchars⟩ := hs
  obtain ⟨-, ⟨b, hb, hbefore⟩, hchars'⟩ := ht
  rw [Option.mem_def] at ha hb
  refine ⟨⟨a, ?_, hafter⟩, ⟨b, ?_, hbefore⟩, fun c hc => ?_⟩
  · rw [Option.mem_def, List.head?_append, ha, Option.some_or]
  · rw [Option.mem_def, List.getLast?_append, List.getLast?_cons, hb]
    rfl
  · rcases List.mem_append.1 hc with hc | hc
    · exact hchars c hc
    · rcases List.mem_cons.1 hc with rfl | hc
      · rfl
      · exact hchars' c hc

/-- A text of the characters of a label is a piece if it neither begins nor ends with a dash. -/
lemma isShaped_of_trimmed (hne : s ≠ []) (hchars : ∀ c ∈ s, isLabelChar c = true)
    (hhead : '-' ∉ s.head?) (hlast : '-' ∉ s.getLast?) : isShaped s = true := by
  -- a character of a label is a letter or a digit, unless it is a dash
  have halnum : ∀ c ∈ s, c ≠ '-' → isAlnum c = true := by
    intro c hc hdash
    simpa [isLabelChar, hdash] using hchars c hc
  obtain ⟨a, ha⟩ := Option.ne_none_iff_exists'.1 (mt List.head?_eq_none_iff.1 hne)
  obtain ⟨b, hb⟩ := Option.ne_none_iff_exists'.1 (mt List.getLast?_eq_none_iff.1 hne)
  refine isShaped_iff.2 ⟨⟨a, ha, halnum a (List.mem_of_head? ha) ?_⟩,
    ⟨b, hb, halnum b (List.mem_of_getLast? hb) ?_⟩, hchars⟩
  · rintro rfl
    exact hhead ha
  · rintro rfl
    exact hlast hb

/-- A text of letters and digits is a piece. -/
lemma isShaped_of_isAlnum (hne : s ≠ []) (h : ∀ c ∈ s, isAlnum c = true) : isShaped s = true := by
  have hdash : '-' ∉ s := fun hmem => absurd (h _ hmem) (by decide)
  refine isShaped_of_trimmed hne (fun c hc => by simp [isLabelChar, h c hc]) ?_ ?_
  · exact fun hhead => hdash (List.mem_of_head? hhead)
  · exact fun hlast => hdash (List.mem_of_getLast? hlast)

end Shape

/-- A subdomain has the characters of labels and dots. -/
lemma isLabelChar_of_mem_subdomain {s : Text} (h : isSubdomain s = true) {c : Char} (hc : c ∈ s) :
    isLabelChar c = true ∨ c = '.' := by
  rw [isSubdomain, Bool.and_eq_true, List.all_eq_true] at h
  by_cases hdot : c = '.'
  · exact .inr hdot
  · -- the character lies in one of the pieces between the dots
    have hmem : c ∈ (Words.words (· == '.') s).flatten := by
      rw [Words.flatten_words, List.mem_filter]
      simpa [hdot] using hc
    obtain ⟨piece, hpiece, hcpiece⟩ := List.mem_flatten.1 hmem
    have hshaped := isShaped_iff.1 (h.1 piece (List.mem_of_mem_filter hpiece))
    exact .inl (hshaped.2.2 c hcpiece)

end Dns
