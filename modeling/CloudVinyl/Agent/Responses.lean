import CloudVinyl.Lib.Bytes
import Mathlib.Data.Int.Basic

set_option relaxedAutoImplicit false
set_option autoImplicit false

/-!
# Reading the answers of varnishd

`readResponse` of `internal/agent/admin.go` reads one answer of the command line: a header with a
code and the length of the body, and then the body with one byte behind it. The length is used as it
was read, as the size of a slice and as a bound in it: both are run-time panics when it does not
fit.

## Main definitions

* `Admin.readResponse` — one answer off the front of a stream.
* `Admin.Frame`, `Admin.Frame.encode` — an answer as varnishd writes it.
* `Admin.Announces` — a stream begins with a header for the given code and length.

## Main results

* `Admin.readResponses_iff` — a sequence of answers is read back in order, each of them exactly,
  just when their bodies can be allocated.
* `Admin.panics_iff` — which streams lead to a panic.
* `Admin.responses_exact_iff` — both together.
-/

namespace CloudVinyl.Admin

/-! ## The reader -/

/-- What an error of the reader is about. -/
inductive Cause where
  | eof
  | unexpectedEOF
  | header (line : List UInt8)
  | number (field : Text)
  deriving DecidableEq

/-- What a call returns, or that it panics. -/
inductive Response where
  | frame (code : ℤ) (body : List UInt8)
  | failed (context : Text) (cause : Cause)
  | panicked
  deriving DecidableEq

/-- `io.ReadFull` of `size` bytes into a slice that was made for them; the slice of length `length`
is the body. -/
def readBody (code length : ℤ) (size : ℕ) (stream : List UInt8) : Response × List UInt8 :=
  if stream.length < size then
    (.failed "read response body: " (if stream = [] then .eof else .unexpectedEOF), [])
  else if length < 0 then (.panicked, stream.drop size)
  else (.frame code (stream.take length.toNat), stream.drop size)

/-- `readResponse`, with the rest of the stream; `limit` is the size of the largest slice that can
be made. -/
def readResponse (limit : ℤ) (stream : List UInt8) : Response × List UInt8 :=
  match Bytes.readString 10 stream with
  | none => (.failed "read response header: " .eof, [])
  | some (header, rest) =>
    match Text.fields (Bytes.toText 0 header) with
    | first :: second :: _ =>
      match Text.atoi first with
      | none => (.failed "invalid response code: " (.number first), rest)
      | some code =>
        match Text.atoi second with
        | none => (.failed "invalid response length: " (.number second), rest)
        | some length =>
          -- the sum is one of 64-bit integers
          let size := (length + 1).bmod (2 ^ 64)
          if size < 0 ∨ limit < size then (.panicked, rest)
          else readBody code length size.toNat rest
    | _ => (.failed "malformed response header: " (.header header), rest)

/-- The results of a number of calls one after the other, and the rest of the stream. -/
def readResponses (limit : ℤ) : ℕ → List UInt8 → List Response × List UInt8
  | 0, stream => ([], stream)
  | n + 1, stream =>
    let r := readResponse limit stream
    let s := readResponses limit n r.2
    (r.1 :: s.1, s.2)

/-- The stream begins with a header that announces an answer of the given code and length. -/
def Announces (stream : List UInt8) (code length : ℤ) : Prop :=
  ∃ header rest first second more, Bytes.readString 10 stream = some (header, rest) ∧
    Text.fields (Bytes.toText 0 header) = first :: second :: more ∧
    Text.atoi first = some code ∧ Text.atoi second = some length

section Reader

variable {limit : ℤ} {stream : List UInt8} {code length : ℤ}

/-- What is done after a header. -/
lemma readResponse_of_header {header rest : List UInt8} {first second : Text} {more : List Text}
    (hread : Bytes.readString 10 stream = some (header, rest))
    (hfields : Text.fields (Bytes.toText 0 header) = first :: second :: more)
    (hcode : Text.atoi first = some code) (hlength : Text.atoi second = some length) :
    readResponse limit stream =
      if (length + 1).bmod (2 ^ 64) < 0 ∨ limit < (length + 1).bmod (2 ^ 64) then (.panicked, rest)
      else readBody code length ((length + 1).bmod (2 ^ 64)).toNat rest := by
  simp only [readResponse, hread, hfields, hcode, hlength]

/-- A stream that announces nothing leads to an error. -/
lemma failed_of_not_announces (h : ∀ code length, ¬Announces stream code length) :
    ∃ context cause, (readResponse limit stream).1 = .failed context cause := by
  unfold readResponse
  split
  · exact ⟨_, _, rfl⟩
  · next header rest hread =>
    split
    · next first second more hfields =>
      split
      · exact ⟨_, _, rfl⟩
      · next code hcode =>
        split
        · exact ⟨_, _, rfl⟩
        · next length hlength =>
          exact absurd ⟨header, rest, first, second, more, hread, hfields, hcode, hlength⟩
            (h code length)
    · exact ⟨_, _, rfl⟩

/-- A stream that is not refused announces a length. -/
lemma exists_announces (limit : ℤ)
    (h : ∀ context cause, (readResponse limit stream).1 ≠ .failed context cause) :
    ∃ code length, Announces stream code length := by
  by_contra hnone
  push Not at hnone
  obtain ⟨context, cause, hfailed⟩ := failed_of_not_announces hnone
  exact h context cause hfailed

/-- The numbers that are read are 64-bit integers. -/
lemma range_of_atoi {s : Text} {z : ℤ} (h : Text.atoi s = some z) :
    -(2 ^ 63) ≤ z ∧ z < 2 ^ 63 := by
  rw [Text.atoi.eq_def] at h
  exact of_decide_eq_true (Option.filter_eq_some_iff.1 h).2

/-- The size of the slice is one more than the length, unless that is the largest integer. -/
lemma size_eq (hlow : -(2 ^ 63) ≤ length) (hhigh : length < 2 ^ 63) :
    (length + 1).bmod (2 ^ 64) = if length = 2 ^ 63 - 1 then -(2 ^ 63) else length + 1 := by
  split_ifs with hmax
  · rw [hmax]
    rfl
  · exact Int.bmod_eq_of_le (by omega) (by omega)

/-- What a call does with an announced length: it panics, or it reads that many bytes. -/
lemma announces_cases (hlimit : limit < 2 ^ 63) (h : Announces stream code length) :
    ((length < 0 ∨ limit < length + 1) ∧ (readResponse limit stream).1 = .panicked) ∨
    ((0 ≤ length ∧ length + 1 ≤ limit) ∧
      ∃ rest, readResponse limit stream = readBody code length (length + 1).toNat rest) := by
  obtain ⟨header, rest, first, second, more, hread, hfields, hcode, hlength⟩ := h
  obtain ⟨hlow, hhigh⟩ := range_of_atoi hlength
  rw [readResponse_of_header hread hfields hcode hlength, size_eq hlow hhigh]
  by_cases hmax : length = 2 ^ 63 - 1
  · -- the sum wraps around
    rw [if_pos hmax, if_pos (.inl (by decide))]
    exact .inl ⟨by omega, rfl⟩
  · rw [if_neg hmax]
    by_cases hsize : length + 1 < 0 ∨ limit < length + 1
    · rw [if_pos hsize]
      exact .inl ⟨by omega, rfl⟩
    · rw [if_neg hsize]
      by_cases hneg : length < 0
      · -- no byte is read, and the body ends before its beginning
        have hzero : (length + 1).toNat = 0 := by omega
        rw [readBody, hzero, if_neg (Nat.not_lt_zero _), if_pos hneg]
        exact .inl ⟨.inl hneg, rfl⟩
      · exact .inr ⟨by omega, rest, rfl⟩

/-- A body is read whole, or it is missing. -/
lemma readBody_cases (code : ℤ) (size : ℕ) (stream : List UInt8) (hlength : 0 ≤ length) :
    (∃ cause, (readBody code length size stream).1 = .failed "read response body: " cause) ∨
    (size ≤ stream.length ∧
      (readBody code length size stream).1 = .frame code (stream.take length.toNat)) := by
  unfold readBody
  by_cases hshort : stream.length < size
  · rw [if_pos hshort]
    exact .inl ⟨_, rfl⟩
  · rw [if_neg hshort, if_neg (by omega)]
    exact .inr ⟨by omega, rfl⟩

/-- A read panics just when the announced length is negative or too large. -/
lemma panicked_iff_of_announces (hlimit : limit < 2 ^ 63) (h : Announces stream code length) :
    (readResponse limit stream).1 = .panicked ↔ length < 0 ∨ limit < length + 1 := by
  obtain ⟨hbad, hpanic⟩ | ⟨hgood, rest, hread⟩ := announces_cases hlimit h
  · exact iff_of_true hpanic hbad
  · refine iff_of_false ?_ (by omega)
    rw [hread]
    obtain ⟨cause, hbody⟩ | ⟨-, hbody⟩ := readBody_cases code (length + 1).toNat rest hgood.1
    · simp [hbody]
    · simp [hbody]

/-- **Which streams lead to a panic:** those that announce a negative length, or one for which no
slice can be made. -/
theorem panics_iff (hlimit : limit < 2 ^ 63) : (readResponse limit stream).1 = .panicked ↔
    ∃ code length, Announces stream code length ∧ (length < 0 ∨ limit < length + 1) := by
  constructor
  · intro hpanic
    obtain ⟨code, length, h⟩ := exists_announces limit fun context cause hfailed => by
      rw [hpanic] at hfailed
      cases hfailed
    exact ⟨code, length, h, (panicked_iff_of_announces hlimit h).1 hpanic⟩
  · rintro ⟨code, length, h, hbad⟩
    exact (panicked_iff_of_announces hlimit h).2 hbad

/-- The body of an answer is one that can be allocated. -/
lemma length_le_of_frame (hlimit : limit < 2 ^ 63) {body : List UInt8}
    (h : (readResponse limit stream).1 = .frame code body) :
    (body.length : ℤ) + 1 ≤ limit := by
  obtain ⟨code', length, hannounces⟩ := exists_announces limit fun context cause hfailed => by
    rw [h] at hfailed
    cases hfailed
  obtain ⟨-, hpanic⟩ | ⟨hgood, rest, hread⟩ := announces_cases hlimit hannounces
  · rw [h] at hpanic
    cases hpanic
  · rw [hread] at h
    obtain ⟨cause, hbody⟩ | ⟨-, hbody⟩ := readBody_cases code' (length + 1).toNat rest hgood.1
    · rw [hbody] at h
      cases h
    · rw [hbody] at h
      obtain ⟨-, rfl⟩ := Response.frame.inj h
      rw [List.length_take]
      omega

end Reader

/-! ## Answers as varnishd writes them -/

/-- The blanks of a header. -/
def isBlank (c : Char) : Bool := c ∈ [' ', '\t', '\x0b', '\x0c', '\r']

/-- An answer: its code, the blanks behind the code and behind the length, its body, and the byte
behind that. -/
structure Frame where
  code : ℤ
  gap : Text
  pad : Text
  body : List UInt8
  last : UInt8
  code_low : -(2 ^ 63) ≤ code
  code_high : code < 2 ^ 63
  gap_ne_nil : gap ≠ []
  gap_blank : gap.all isBlank = true
  pad_blank : pad.all isBlank = true

section Characters

variable {c : Char}

/-- The range of the digits. -/
lemma range_of_isDigit (h : c.isDigit = true) : '0' ≤ c ∧ c ≤ '9' := by
  simpa [Char.isDigit, Char.le_def] using h

/-- A digit is no white space. -/
lemma not_isSpace_of_isDigit (h : c.isDigit = true) : Text.isSpace c = false := by
  obtain ⟨hlow, hhigh⟩ := range_of_isDigit h
  rw [← Bool.not_eq_true]
  intro hspace
  rw [Text.isSpace, Bool.or_eq_true, Bool.and_eq_true] at hspace
  rcases hspace with hspace | ⟨hwide, -⟩
  · -- the listed characters are no digits
    simp only [decide_eq_true_iff, List.mem_cons, List.not_mem_nil, or_false] at hspace
    rcases hspace with rfl | rfl | rfl | rfl | rfl | rfl | rfl | rfl | rfl | rfl | rfl | rfl | rfl |
      rfl
    all_goals exact absurd h (by decide)
  · exact absurd (Char.le_trans (of_decide_eq_true hwide) hhigh) (by decide)

/-- The blanks. -/
lemma isBlank_cases (h : isBlank c = true) :
    c = ' ' ∨ c = '\t' ∨ c = '\x0b' ∨ c = '\x0c' ∨ c = '\r' := by
  simpa [isBlank] using h

/-- A blank is white space. -/
lemma isSpace_of_isBlank (h : isBlank c = true) : Text.isSpace c = true := by
  rcases isBlank_cases h with rfl | rfl | rfl | rfl | rfl
  all_goals rfl

/-- A blank is an ASCII character within a line. -/
lemma ascii_of_isBlank (h : isBlank c = true) : c.toNat < 128 ∧ c ≠ '\n' := by
  rcases isBlank_cases h with rfl | rfl | rfl | rfl | rfl
  all_goals decide

end Characters

namespace Frame

variable (f : Frame)

/-- The header without its newline. -/
def header : Text :=
  Text.decimalInt f.code ++ (f.gap ++ (Text.decimal f.body.length ++ f.pad))

/-- The bytes of a frame. -/
def encode : List UInt8 := Bytes.ascii f.header ++ 10 :: (f.body ++ [f.last])

/-- A header is of ASCII characters and on one line. -/
lemma header_char {c : Char} (hc : c ∈ f.header) : c.toNat < 128 ∧ c ≠ '\n' := by
  have hdigit : ∀ {c : Char}, c.isDigit = true → c.toNat < 128 ∧ c ≠ '\n' := by
    intro c h
    refine ⟨?_, ?_⟩
    · have hle := (range_of_isDigit h).2
      rw [Char.le_def, UInt32.le_iff_toNat_le] at hle
      exact lt_of_le_of_lt hle (by decide)
    · rintro rfl
      exact absurd h (by decide)
  simp only [header, List.mem_append] at hc
  rcases hc with hc | hc | hc | hc
  · rcases Text.mem_decimalInt hc with rfl | hc
    · decide
    · exact hdigit hc
  · exact ascii_of_isBlank (List.all_eq_true.1 f.gap_blank c hc)
  · exact hdigit (Text.isDigit_of_mem_decimal hc)
  · exact ascii_of_isBlank (List.all_eq_true.1 f.pad_blank c hc)

/-- The header is read up to its newline. -/
lemma readString_encode (rest : List UInt8) :
    Bytes.readString 10 (f.encode ++ rest) =
      some (Bytes.ascii f.header ++ [10], f.body ++ f.last :: rest) := by
  have hnewline : (10 : UInt8) ∉ Bytes.ascii f.header :=
    Bytes.not_mem_ascii (d := '\n') (fun c hc => (f.header_char hc).1) (by decide)
      fun hmem => (f.header_char hmem).2 rfl
  have hshape : f.encode ++ rest =
      Bytes.ascii f.header ++ 10 :: (f.body ++ f.last :: rest) := by
    simp [encode]
  rw [hshape, Bytes.readString_append hnewline]

/-- The words of the header are the code and the length. -/
lemma fields_header : Text.fields (Bytes.toText 0 (Bytes.ascii f.header ++ [10])) =
    [Text.decimalInt f.code, Text.decimal f.body.length] := by
  have htext : Bytes.toText 0 (Bytes.ascii f.header ++ [10]) = f.header ++ ['\n'] :=
    Bytes.toText_ascii (fun c hc => (f.header_char hc).1) [10]
  have hspace : ∀ {s : Text}, s.all isBlank = true → ∀ c ∈ s, Text.isSpace c = true :=
    fun h c hc => isSpace_of_isBlank (List.all_eq_true.1 h c hc)
  have hcode : ∀ c ∈ Text.decimalInt f.code, Text.isSpace c = false := by
    intro c hc
    rcases Text.mem_decimalInt hc with rfl | hc
    · decide
    · exact not_isSpace_of_isDigit hc
  have hlength : ∀ c ∈ Text.decimal f.body.length, Text.isSpace c = false := fun c hc =>
    not_isSpace_of_isDigit (Text.isDigit_of_mem_decimal hc)
  have hend : ∀ c ∈ f.pad ++ ['\n'], Text.isSpace c = true := by
    intro c hc
    rcases List.mem_append.1 hc with hc | hc
    · exact hspace f.pad_blank c hc
    · rw [List.mem_singleton.1 hc]
      rfl
  have hne : Text.decimalInt f.code ≠ [] := by
    cases f.code with
    | ofNat n => exact Text.decimal_ne_nil n
    | negSucc n => exact List.cons_ne_nil _ _
  have hshape : f.header ++ ['\n'] = Text.decimalInt f.code ++ (f.gap ++
      (Text.decimal f.body.length ++ ((f.pad ++ ['\n']) ++ []))) := by
    simp [header]
  rw [htext, hshape, Text.fields,
    Words.words_append_append _ _ hne f.gap_ne_nil hcode (hspace f.gap_blank),
    Words.words_append_append _ _ (Text.decimal_ne_nil _) (by simp) hlength hend, Words.words_nil]

/-- **An answer is read back**, and nothing behind it is touched, if its body can be allocated. -/
theorem readResponse_encode {limit : ℤ} (hlimit : limit < 2 ^ 63)
    (hfits : (f.body.length : ℤ) + 1 ≤ limit) (rest : List UInt8) :
    readResponse limit (f.encode ++ rest) = (.frame f.code f.body, rest) := by
  have hsize : ((f.body.length : ℤ) + 1).bmod (2 ^ 64) = (f.body.length : ℤ) + 1 :=
    Int.bmod_eq_of_le (by omega) (by omega)
  have htoNat : ((f.body.length : ℤ) + 1).toNat = f.body.length + 1 := by omega
  rw [readResponse_of_header (f.readString_encode rest) f.fields_header
    (Text.atoi_decimalInt f.code_low f.code_high) (Text.atoi_decimal (by omega)), hsize,
    if_neg (by omega), htoNat, readBody, if_neg (by simp), if_neg (by omega)]
  simp

end Frame

/-- What a call returns for an answer. -/
def Frame.response (f : Frame) : Response := .frame f.code f.body

section Frames

variable {limit : ℤ}

/-- **Answers are read back in order**, with what is behind them left over, just when their bodies
can be allocated.

**Proof sketch.** Induction on the answers. The first one is read back if it fits, and if it does
not, no call returns it. -/
theorem readResponses_iff (hlimit : limit < 2 ^ 63) (frames : List Frame) (rest : List UInt8) :
    readResponses limit frames.length (frames.flatMap Frame.encode ++ rest) =
        (frames.map Frame.response, rest) ↔
      ∀ f ∈ frames, (f.body.length : ℤ) + 1 ≤ limit := by
  induction frames with
  | nil => simp [readResponses]
  | cons f frames ih =>
    have hshape : (f :: frames).flatMap Frame.encode ++ rest =
        f.encode ++ (frames.flatMap Frame.encode ++ rest) := by
      rw [List.flatMap_cons, List.append_assoc]
    rw [hshape, List.length_cons, readResponses, List.map_cons, List.forall_mem_cons, ← ih]
    by_cases hfits : (f.body.length : ℤ) + 1 ≤ limit
    · simp [f.readResponse_encode hlimit hfits, Frame.response, hfits, Prod.ext_iff]
    · -- what a call returns can be allocated
      simp only [Prod.mk.injEq, List.cons.injEq, hfits, false_and, iff_false]
      rintro ⟨⟨hframe, -⟩, -⟩
      exact hfits (length_le_of_frame hlimit hframe)

/-- **When answers are decoded exactly, and when the reader does not crash.** Answers as varnishd
writes them are read back in order, each of them exactly, just when their bodies can be allocated;
and a call on any stream returns an answer or an error just when the stream does not announce a
negative length or one that cannot be allocated. -/
theorem responses_exact_iff (limit : ℤ) (hlimit : limit < 2 ^ 63) :
    (∀ (frames : List Frame) (rest : List UInt8),
      readResponses limit frames.length (frames.flatMap Frame.encode ++ rest) =
          (frames.map Frame.response, rest) ↔
        ∀ f ∈ frames, (f.body.length : ℤ) + 1 ≤ limit) ∧
    ∀ stream, (readResponse limit stream).1 ≠ .panicked ↔
      ∀ code length, Announces stream code length → 0 ≤ length ∧ length + 1 ≤ limit := by
  refine ⟨readResponses_iff hlimit, fun stream => ?_⟩
  rw [Ne, panics_iff hlimit]
  simp only [not_exists, not_and, not_or, Int.not_lt]

/-- The theorem at a limit of a terabyte: an answer whose body has newlines is read back. -/
theorem responses_exact_newlines :
    readResponses (2 ^ 40) 1 (Frame.encode ⟨200, " ", "", [10, 10], 10, by decide, by decide,
      by decide, by decide, by decide⟩) = ([.frame 200 [10, 10]], []) := by
  have hall := ((responses_exact_iff (2 ^ 40) (by decide)).1 [⟨200, " ", "", [10, 10], 10,
    by decide, by decide, by decide, by decide, by decide⟩] []).2 (by simp)
  simpa [Frame.response] using hall

/-- A negative length, and the largest one. -/
theorem length_panics :
    (readResponse (2 ^ 40) (Bytes.ascii "200 -1\n")).1 = .panicked ∧
      (readResponse (2 ^ 40) (Bytes.ascii "200 9223372036854775807\n")).1 = .panicked := by
  decide +kernel

end Frames

end CloudVinyl.Admin
