import Mathlib.Tactic.IntervalCases
import Mathlib.Tactic.Ring
import CloudVinyl.Tracer.Spans

set_option relaxedAutoImplicit false
set_option autoImplicit false

/-!
# The grammar of traceparent

`parseTraceparent` of `internal/tracer/spans/spans.go`, read as a grammar: the values that it
accepts are four fields of lower-case hexadecimal digits between dashes, of fixed lengths, with a
version other than `ff` and ids that are not zero.

## Main definitions

* `Spans.Traceparent` — the four fields; `Spans.Traceparent.Valid` — what is asked of them.

## Main results

* `Spans.parseTraceparent_eq_some_iff` — what is accepted, and what is read from it.
* `Spans.parseTraceparent_ne_zero` — ids that were read are not zero.
-/

namespace CloudVinyl.Spans

/-! ## Hexadecimal digits -/

/-- The value of a digit. -/
def hexDigit (c : Char) : ℕ :=
  if '0' ≤ c ∧ c ≤ '9' then c.toNat - '0'.toNat else c.toNat - 'a'.toNat + 10

/-- The lower-case digits. -/
def hexChars : List Char := "0123456789abcdef".toList

/-- The lower-case hexadecimal digits are those of the list. -/
lemma mem_hexChars {c : Char} (h : isLowerHex c = true) : c ∈ hexChars := by
  simp only [isLowerHex, Bool.or_eq_true, Bool.and_eq_true, decide_eq_true_eq, Char.le_def,
    UInt32.le_iff_toNat_le] at h
  have hrange : 48 ≤ c.toNat ∧ c.toNat ≤ 57 ∨ 97 ≤ c.toNat ∧ c.toNat ≤ 102 := h
  rw [← Char.ofNat_toNat c]
  rcases hrange with ⟨hlow, hhigh⟩ | ⟨hlow, hhigh⟩ <;> interval_cases c.toNat <;> decide

/-- What holds of the sixteen digits. -/
lemma forall_lowerHex {p : Char → Bool} (hp : hexChars.all p = true) {c : Char}
    (h : isLowerHex c = true) : p c = true :=
  List.all_eq_true.1 hp c (mem_hexChars h)

/-- A digit is below sixteen. -/
lemma hexDigit_lt {c : Char} (h : isLowerHex c = true) : hexDigit c < 16 :=
  of_decide_eq_true (forall_lowerHex (p := fun c => decide (hexDigit c < 16)) (by decide) h)

/-- Only the digit zero has the value zero. -/
lemma hexDigit_eq_zero {c : Char} (h : isLowerHex c = true) (h0 : hexDigit c = 0) : c = '0' := by
  have hp := forall_lowerHex (p := fun c => hexDigit c != 0 || c == '0') (by decide) h
  simpa [h0] using hp

/-- Reading on from a value. -/
lemma foldl_hexDigit (s : Text) (n : ℕ) :
    s.foldl (fun n c => 16 * n + hexDigit c) n = n * 16 ^ s.length + hexVal s := by
  induction s generalizing n with
  | nil => simp [hexVal]
  | cons c s ih =>
    have hval : hexVal (c :: s) = s.foldl (fun n c => 16 * n + hexDigit c) (16 * 0 + hexDigit c) :=
      rfl
    rw [List.foldl_cons, ih, hval, ih, List.length_cons, pow_succ]
    ring

/-- The first digit has the highest place. -/
lemma hexVal_cons (c : Char) (s : Text) :
    hexVal (c :: s) = hexDigit c * 16 ^ s.length + hexVal s := by
  have hfold : hexVal (c :: s) = (16 * 0 + hexDigit c) * 16 ^ s.length + hexVal s :=
    foldl_hexDigit s (16 * 0 + hexDigit c)
  rwa [Nat.mul_zero, Nat.zero_add] at hfold

/-- A text of digits has a value that fits its length. -/
lemma hexVal_lt {s : Text} (h : ∀ c ∈ s, isLowerHex c = true) : hexVal s < 16 ^ s.length := by
  induction s with
  | nil => simp [hexVal]
  | cons c s ih =>
    have hrest := ih fun d hd => h d (List.mem_cons_of_mem c hd)
    have hdigit := hexDigit_lt (h c List.mem_cons_self)
    rw [hexVal_cons, List.length_cons, pow_succ]
    calc hexDigit c * 16 ^ s.length + hexVal s < (hexDigit c + 1) * 16 ^ s.length := by
          rw [Nat.add_mul, Nat.one_mul]
          omega
      _ ≤ 16 ^ s.length * 16 := by
          rw [Nat.mul_comm]
          exact Nat.mul_le_mul_left _ hdigit

/-- Only zeros have the value zero. -/
lemma eq_zeros_of_hexVal {s : Text} (h : ∀ c ∈ s, isLowerHex c = true) (h0 : hexVal s = 0) :
    s = List.replicate s.length '0' := by
  induction s with
  | nil => rfl
  | cons c s ih =>
    rw [hexVal_cons] at h0
    have hpos : 0 < 16 ^ s.length := Nat.pow_pos (by decide)
    have hdigit : hexDigit c = 0 := by
      rcases Nat.eq_zero_of_add_eq_zero h0 with ⟨hmul, -⟩
      exact (Nat.mul_eq_zero.1 hmul).resolve_right (by omega)
    have hrest := ih (fun d hd => h d (List.mem_cons_of_mem c hd)) (by omega)
    rw [List.length_cons, List.replicate_succ, ← hrest,
      hexDigit_eq_zero (h c List.mem_cons_self) hdigit]

/-- An id that is not written with zeros only is not zero. -/
lemma ofNat_hexVal_ne_zero {s : Text} {w : ℕ} (h : ∀ c ∈ s, isLowerHex c = true)
    (hne : s ≠ List.replicate s.length '0') (hw : 2 ^ w = 16 ^ s.length) :
    BitVec.ofNat w (hexVal s) ≠ 0 := by
  intro hzero
  have hmod : hexVal s % 2 ^ w = 0 := by
    have := congrArg BitVec.toNat hzero
    simpa using this
  rw [hw, Nat.mod_eq_of_lt (hexVal_lt h)] at hmod
  exact hne (eq_zeros_of_hexVal h hmod)

/-! ## The four fields -/

/-- The fields of a value. -/
structure Traceparent where
  version : Text
  traceID : Text
  parentID : Text
  flags : Text

namespace Traceparent

/-- The value with these fields. -/
def text (t : Traceparent) : Text :=
  ['-'].intercalate [t.version, t.traceID, t.parentID, t.flags]

/-- A field of lower-case digits, of a length. -/
def Field (n : ℕ) (s : Text) : Prop := s.length = n ∧ ∀ c ∈ s, isLowerHex c = true

/-- The fields are of the right lengths, the version is not `ff` and no id is zero. -/
structure Valid (t : Traceparent) : Prop where
  version : Field 2 t.version ∧ t.version ≠ "ff"
  traceID : Field 32 t.traceID ∧ t.traceID ≠ List.replicate 32 '0'
  parentID : Field 16 t.parentID ∧ t.parentID ≠ List.replicate 16 '0'
  flags : Field 2 t.flags

/-- What is read from the fields. -/
def ids (t : Traceparent) : TraceID × SpanID × Bool :=
  (BitVec.ofNat 128 (hexVal t.traceID), BitVec.ofNat 64 (hexVal t.parentID),
    (hexVal t.flags).testBit 0)

end Traceparent

/-- A digit is no dash. -/
lemma dash_notMem {n : ℕ} {s : Text} (h : Traceparent.Field n s) : '-' ∉ s := fun hmem =>
  absurd (h.2 '-' hmem) (by decide)

/-- What the pattern matches. -/
lemma traceparentRe_eq_some_iff {s m1 m2 m3 m4 : Text} :
    traceparentRe s = some (m1, m2, m3, m4) ↔
      s = Traceparent.text ⟨m1, m2, m3, m4⟩ ∧ Traceparent.Field 2 m1 ∧ Traceparent.Field 32 m2 ∧
        Traceparent.Field 16 m3 ∧ Traceparent.Field 2 m4 := by
  have hall : ∀ a b c d : Text, (a ++ b ++ c ++ d).all isLowerHex = true ↔
      (∀ x ∈ a, isLowerHex x = true) ∧ (∀ x ∈ b, isLowerHex x = true) ∧
        (∀ x ∈ c, isLowerHex x = true) ∧ ∀ x ∈ d, isLowerHex x = true := by
    intro a b c d
    simp only [List.all_append, Bool.and_eq_true, List.all_eq_true, and_assoc]
  constructor
  · intro h
    unfold traceparentRe at h
    split at h
    · next a b c d hsplit =>
      split_ifs at h with hfields
      obtain ⟨rfl, rfl, rfl, rfl⟩ : a = m1 ∧ b = m2 ∧ c = m3 ∧ d = m4 := by simpa using h
      obtain ⟨h1, h2, h3, h4, hhex⟩ := hfields
      obtain ⟨x1, x2, x3, x4⟩ := (hall _ _ _ _).1 hhex
      have hjoin := ((Words.splitOn_eq_iff '-' (List.cons_ne_nil _ _)).1 hsplit).1
      exact ⟨hjoin.symm, ⟨h1, x1⟩, ⟨h2, x2⟩, ⟨h3, x3⟩, ⟨h4, x4⟩⟩
    · cases h
  · rintro ⟨rfl, h1, h2, h3, h4⟩
    have hsplit : (Traceparent.text ⟨m1, m2, m3, m4⟩).splitOn '-' = [m1, m2, m3, m4] := by
      refine (Words.splitOn_eq_iff '-' (List.cons_ne_nil _ _)).2 ⟨rfl, fun w hw => ?_⟩
      simp only [List.mem_cons, List.not_mem_nil, or_false] at hw
      rcases hw with rfl | rfl | rfl | rfl
      · exact dash_notMem h1
      · exact dash_notMem h2
      · exact dash_notMem h3
      · exact dash_notMem h4
    rw [traceparentRe, hsplit]
    exact if_pos ⟨h1.1, h2.1, h3.1, h4.1, (hall _ _ _ _).2 ⟨h1.2, h2.2, h3.2, h4.2⟩⟩

/-- **What `parseTraceparent` accepts**, and what it reads. -/
theorem parseTraceparent_eq_some_iff {v : Text} {ids : TraceID × SpanID × Bool} :
    parseTraceparent v = some ids ↔
      ∃ t : Traceparent, Text.trimSpace v = t.text ∧ t.Valid ∧ t.ids = ids := by
  constructor
  · intro h
    unfold parseTraceparent at h
    split at h
    · cases h
    · next m1 m2 m3 m4 hre =>
      split_ifs at h with hbad
      obtain ⟨htext, h1, h2, h3, h4⟩ := traceparentRe_eq_some_iff.1 hre
      simp only [not_or] at hbad
      exact ⟨⟨m1, m2, m3, m4⟩, htext, ⟨⟨h1, hbad.1⟩, ⟨h2, hbad.2.1⟩, ⟨h3, hbad.2.2⟩, h4⟩,
        Option.some.inj h⟩
  · rintro ⟨⟨m1, m2, m3, m4⟩, htext, hvalid, rfl⟩
    have hre : traceparentRe (Text.trimSpace v) = some (m1, m2, m3, m4) :=
      traceparentRe_eq_some_iff.2 ⟨htext, hvalid.version.1, hvalid.traceID.1, hvalid.parentID.1,
        hvalid.flags⟩
    have hgood : ¬(m1 = "ff" ∨ m2 = List.replicate 32 '0' ∨ m3 = List.replicate 16 '0') := by
      simp only [not_or]
      exact ⟨hvalid.version.2, hvalid.traceID.2, hvalid.parentID.2⟩
    unfold parseTraceparent
    rw [hre]
    exact if_neg hgood

/-- **Ids that were read are not zero.** -/
theorem parseTraceparent_ne_zero {v : Text} {tid : TraceID} {sid : SpanID} {sampled : Bool}
    (h : parseTraceparent v = some (tid, sid, sampled)) : tid ≠ 0 ∧ sid ≠ 0 := by
  obtain ⟨t, -, hvalid, hids⟩ := parseTraceparent_eq_some_iff.1 h
  obtain ⟨⟨htlen, hthex⟩, htne⟩ := hvalid.traceID
  obtain ⟨⟨hplen, hphex⟩, hpne⟩ := hvalid.parentID
  obtain ⟨rfl, hrest⟩ := Prod.mk.inj hids
  obtain ⟨rfl, -⟩ := Prod.mk.inj hrest
  exact ⟨ofNat_hexVal_ne_zero hthex (by rwa [htlen]) (by rw [htlen]; decide),
    ofNat_hexVal_ne_zero hphex (by rwa [hplen]) (by rw [hplen]; decide)⟩

end CloudVinyl.Spans
