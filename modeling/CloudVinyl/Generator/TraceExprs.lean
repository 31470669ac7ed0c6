import CloudVinyl.Generator.Templates
import CloudVinyl.Lib.Patterns
import CloudVinyl.Lib.VclExpr
import CloudVinyl.Tracer.Traceparent

set_option relaxedAutoImplicit false
set_option autoImplicit false

/-!
# The expressions of the trace context

With tracing, `vcl_recv` drops a `traceparent` of a client that is not well-formed, and
`vcl_backend_fetch` puts a new span id into the one that is left, or a new `traceparent` into the
request that has none. The tests and values in these two places are expressions of VCL. Here they
are compared with what the tracer reads by `parseTraceparent`.

What varnishd makes of them is their meaning as expressions. The UUIDs are what a vmod answers.

## Main definitions

* `Generator.malformed`, `Generator.forbidden` — the two tests of `vcl_recv`.
* `Generator.renewed`, `Generator.minted` — the two values of `vcl_backend_fetch`.
* `Generator.Uuid` — the canonical form of a UUID.
* `Generator.ReadsTraceparent` — an engine that reads tests and values as they are meant.

## Main results

* `Generator.keeps_iff`, `Generator.keeps_eq_isSome` — which values pass the tests, and that the
  tracer accepts the same ones.
* `Generator.renewed_eval`, `Generator.minted_eval` — the new values are accepted as well.
-/

namespace CloudVinyl.Generator

open Vcl Vcl.Code
open Spans (Traceparent isLowerHex parseTraceparent)

/-! ## The expressions -/

/-- The name of the header. -/
def traceparentHeader : Text := "traceparent"

/-- A hyphen. -/
def dash : Atom := .each (.char '-') 1

/-- `^[0-9a-f]{2}-[0-9a-f]{32}-[0-9a-f]{16}-[0-9a-f]{2}$` -/
def shape : Pattern where
  start := true
  pieces := [⟨false, [.times .lowerHex 2, dash, .times .lowerHex 32, dash, .times .lowerHex 16,
    dash, .times .lowerHex 2]⟩]
  tail := .stop

/-- `^[0-9a-f]{2}-0{32}-` -/
def zeroTrace : Pattern where
  start := true
  pieces := [⟨false, [.times .lowerHex 2, dash, .times (.char '0') 32, dash]⟩]
  tail := .anywhere

/-- `-0{16}-[0-9a-f]{2}$` -/
def zeroParent : Pattern where
  start := false
  pieces := [⟨false, [dash, .times (.char '0') 16, dash, .times .lowerHex 2]⟩]
  tail := .stop

/-- `^ff-` -/
def versionFf : Pattern where
  start := true
  pieces := [⟨false, [.each (.char 'f') 2, dash]⟩]
  tail := .anywhere

/-- `^([0-9a-f]{2}-[0-9a-f]{32}-)[0-9a-f]{16}(-[0-9a-f]{2})$` -/
def parentField : Pattern where
  start := true
  pieces := [⟨true, [.times .lowerHex 2, dash, .times .lowerHex 32, dash]⟩,
    ⟨false, [.times .lowerHex 16]⟩, ⟨true, [dash, .times .lowerHex 2]⟩]
  tail := .stop

/-- `^(........)-(....)-(....).*$` -/
def uuidHead : Pattern where
  start := true
  pieces := [⟨true, [.each .any 8]⟩, ⟨false, [dash]⟩, ⟨true, [.each .any 4]⟩, ⟨false, [dash]⟩,
    ⟨true, [.each .any 4]⟩]
  tail := .rest

/-- A value that is not of the right shape. -/
def malformed : Test :=
  .and (.present .req traceparentHeader) "\n        " (.unlike .req traceparentHeader shape)

/-- A value with a zero id or the version `ff`. -/
def forbidden : Test :=
  .or (.or (.like .req traceparentHeader zeroTrace) "\n        "
      (.like .req traceparentHeader zeroParent)) "\n        "
    (.like .req traceparentHeader versionFf)

/-- The span id that is taken from the `k`-th UUID. -/
def spanID (k : ℕ) : Expr :=
  .tolower (.regsub (.uuid k) "\n                " uuidHead " " (.str "\\1\\2\\3"))

/-- The value with a new span id. -/
def renewed : Expr :=
  .regsub (.header .bereq traceparentHeader) "\n            " parentField "\n            "
    (.concat (.concat (.str "\\1") " " (spanID 0)) " " (.str "\\2"))

/-- A new value. -/
def minted : Expr :=
  .concat (.concat (.concat (.concat (.str "00-") "\n            "
    (.tolower (.delete (.uuid 0) '-'))) " " (.str "-")) "\n            " (spanID 1)) " "
    (.str "-01")

/-- The engine reads the tests and values as they are meant. -/
structure ReadsTraceparent {B W : Type} (E : Engine B W) (uuid : ℕ → State B W → Text) : Prop where
  malformed : ∀ s, E.test malformed.text s = malformed.eval s
  forbidden : ∀ s, E.test forbidden.text s = forbidden.eval s
  renewed : ∀ s, E.value renewed.text s = renewed.eval uuid s
  minted : ∀ s, E.value minted.text s = minted.eval uuid s

section Texts

/-- The test of the template for a malformed header. -/
lemma malformed_text : malformed.text =
    "req.http.traceparent &&\n        req.http.traceparent !~ \"^[0-9a-f]\x7b2\x7d-" ++
      "[0-9a-f]\x7b32\x7d-[0-9a-f]\x7b16\x7d-[0-9a-f]\x7b2\x7d$\"" := by
  decide +kernel

/-- The test of the template for a header with forbidden parts. -/
lemma forbidden_text : forbidden.text =
    "req.http.traceparent ~ \"^[0-9a-f]\x7b2\x7d-0\x7b32\x7d-\" ||\n" ++
      "        req.http.traceparent ~ \"-0\x7b16\x7d-[0-9a-f]\x7b2\x7d$\" ||\n" ++
      "        req.http.traceparent ~ \"^ff-\"" := by
  decide +kernel

/-- The value of the template for a header that goes on. -/
lemma renewed_text : renewed.text = "regsub(bereq.http.traceparent,\n" ++
      "            \"^([0-9a-f]\x7b2\x7d-[0-9a-f]\x7b32\x7d-)[0-9a-f]\x7b16\x7d" ++
      "(-[0-9a-f]\x7b2\x7d)$\",\n" ++
      "            \"\\1\" + std.tolower(regsub(uuid.uuid_v4(),\n" ++
      "                \"^(........)-(....)-(....).*$\", \"\\1\\2\\3\")) + \"\\2\")" := by
  decide +kernel

/-- The value of the template for a new header. -/
lemma minted_text : minted.text = "\"00-\" +\n" ++
      "            std.tolower(regsuball(uuid.uuid_v4(), \"-\", \"\")) + \"-\" +\n" ++
      "            std.tolower(regsub(uuid.uuid_v4(),\n" ++
      "                \"^(........)-(....)-(....).*$\", \"\\1\\2\\3\")) + \"-01\"" := by
  decide +kernel

/-- The gate of `vcl_recv` makes these tests. -/
lemma recvTraceparent_eq : ∃ notes : List Stmt, notes.all Stmt.isNote = true ∧
    recvTraceparent = ofList notes ++
      block (.test malformed.text) (ofList [.unset .req traceparentHeader]) ++
      block (.test forbidden.text) (ofList [.unset .req traceparentHeader]) := by
  rw [malformed_text, forbidden_text]
  exact ⟨_, rfl, rfl⟩

/-- The header of a fetch is set to these values. -/
lemma fetchTraceparent_eq : ∃ notes : List Stmt, notes.all Stmt.isNote = true ∧
    fetchTraceparent = ofList notes ++ ifElse (.header .bereq traceparentHeader)
      (ofList [.set .bereq traceparentHeader renewed.text])
      (ofList [.set .bereq traceparentHeader minted.text]) := by
  rw [renewed_text, minted_text]
  exact ⟨_, rfl, rfl⟩

end Texts

/-! ## The values that pass -/

section Gate

/-- Fields of the right lengths. -/
structure Shaped (t : Traceparent) : Prop where
  version : Traceparent.Field 2 t.version
  traceID : Traceparent.Field 32 t.traceID
  parentID : Traceparent.Field 16 t.parentID
  flags : Traceparent.Field 2 t.flags

/-- A valid header has the shape and none of the forbidden parts. -/
lemma valid_iff {t : Traceparent} : t.Valid ↔ Shaped t ∧ t.version ≠ "ff" ∧
    t.traceID ≠ List.replicate 32 '0' ∧ t.parentID ≠ List.replicate 16 '0' := by
  constructor
  · rintro ⟨⟨h₁, n₁⟩, ⟨h₂, n₂⟩, ⟨h₃, n₃⟩, h₄⟩
    exact ⟨⟨h₁, h₂, h₃, h₄⟩, n₁, n₂, n₃⟩
  · rintro ⟨⟨h₁, h₂, h₃, h₄⟩, n₁, n₂, n₃⟩
    exact ⟨⟨h₁, n₁⟩, ⟨h₂, n₂⟩, ⟨h₃, n₃⟩, h₄⟩

/-- The text of a header, part by part. -/
lemma text_eq (t : Traceparent) : t.text =
    t.version ++ '-' :: (t.traceID ++ '-' :: (t.parentID ++ '-' :: t.flags)) := by
  simp [Traceparent.text, List.intercalate]

/-- A letter that is no digit does not end a text with digits at its end. -/
lemma getLast?_ne_newline (u : Text) {n : ℕ} {f : Text} (h : Traceparent.Field (n + 1) f) :
    (u ++ f).getLast? ≠ some '\n' := by
  intro hlast
  have hne : f ≠ [] := List.ne_nil_of_length_pos (h.1 ▸ Nat.succ_pos n)
  rw [List.getLast?_append_of_ne_nil u hne] at hlast
  exact absurd (h.2 '\n' (List.mem_of_getLast? hlast)) (by decide)

/-- A text that does not end in a newline is found again before the end of the line. -/
lemma eq_of_append_atEnd {u w e e' : Text} (h : u ++ e = w ++ e') (he : atEnd e = true)
    (he' : atEnd e' = true) (hu : u.getLast? ≠ some '\n') (hw : w.getLast? ≠ some '\n') :
    u = w ∧ e = e' := by
  have hend : ∀ {e : Text}, atEnd e = true → e = [] ∨ e = ['\n'] := by
    intro e he
    simpa [atEnd] using he
  rcases hend he with rfl | rfl <;> rcases hend he' with rfl | rfl
  · exact ⟨by simpa using h, rfl⟩
  · rw [List.append_nil] at h
    exact absurd (by rw [h, List.getLast?_concat]) hu
  · rw [List.append_nil] at h
    exact absurd (by rw [← h, List.getLast?_concat]) hw
  · exact ⟨List.append_cancel_right h, rfl⟩

/-- What has the shape of a value. -/
lemma shape_matched_iff (v : Text) :
    shape.matched v = true ↔ ∃ t e, Shaped t ∧ atEnd e = true ∧ v = t.text ++ e := by
  rw [Pattern.matched, Pattern.search_of_start rfl, Pattern.matchAt_isSome_iff rfl (by decide)]
  constructor
  · rintro ⟨w, e, hw, rfl, hend⟩
    obtain ⟨a, _, rfl, ha, hw₁⟩ := fits_cons_iff.1 hw
    obtain ⟨_, rfl, hw₂⟩ := fits_char_iff.1 hw₁
    obtain ⟨b, _, rfl, hb, hw₃⟩ := fits_cons_iff.1 hw₂
    obtain ⟨_, rfl, hw₄⟩ := fits_char_iff.1 hw₃
    obtain ⟨c, _, rfl, hc, hw₅⟩ := fits_cons_iff.1 hw₄
    obtain ⟨d, rfl, hw₆⟩ := fits_char_iff.1 hw₅
    refine ⟨⟨a, b, c, d⟩, e, ⟨ha, hb, hc, fits_singleton_iff.1 hw₆⟩, hend rfl, ?_⟩
    rw [text_eq]
  · rintro ⟨t, e, ht, hend, rfl⟩
    refine ⟨t.text, e, ?_, rfl, fun _ => hend⟩
    rw [text_eq]
    refine fits_cons_iff.2 ⟨_, _, rfl, ht.version, fits_char_iff.2 ⟨_, rfl, ?_⟩⟩
    refine fits_cons_iff.2 ⟨_, _, rfl, ht.traceID, fits_char_iff.2 ⟨_, rfl, ?_⟩⟩
    refine fits_cons_iff.2 ⟨_, _, rfl, ht.parentID, fits_char_iff.2 ⟨_, rfl, ?_⟩⟩
    exact fits_singleton_iff.2 ht.flags

variable {t : Traceparent} {e : Text}

/-- The pattern for a trace of zeros. -/
lemma zeroTrace_matched_iff (ht : Shaped t) :
    zeroTrace.matched (t.text ++ e) = true ↔ t.traceID = List.replicate 32 '0' := by
  rw [Pattern.matched, Pattern.search_of_start rfl, Pattern.matchAt_isSome_iff rfl (by decide),
    text_eq]
  constructor
  · rintro ⟨w, r, hw, heq, -⟩
    obtain ⟨a, _, rfl, ha, hw₁⟩ := fits_cons_iff.1 hw
    obtain ⟨_, rfl, hw₂⟩ := fits_char_iff.1 hw₁
    obtain ⟨z, _, rfl, hz, -⟩ := fits_cons_iff.1 hw₂
    simp only [List.append_assoc, List.cons_append] at heq
    obtain ⟨-, heq⟩ := List.append_inj heq (ht.version.1.trans ha.1.symm)
    obtain ⟨heq, -⟩ := List.append_inj (List.cons.inj heq).2 (ht.traceID.1.trans hz.1.symm)
    rw [heq]
    exact (Atom.fits_replicate_iff rfl).1 hz
  · intro hzero
    refine ⟨t.version ++ '-' :: (t.traceID ++ ['-']), t.parentID ++ '-' :: (t.flags ++ e), ?_,
      by simp, by simp [zeroTrace]⟩
    refine fits_cons_iff.2 ⟨_, _, rfl, ht.version, fits_char_iff.2 ⟨_, rfl, ?_⟩⟩
    exact fits_cons_iff.2 ⟨_, _, rfl, (Atom.fits_replicate_iff rfl).2 hzero, rfl⟩

/-- The pattern for a parent of zeros. -/
lemma zeroParent_matched_iff (ht : Shaped t) (he : atEnd e = true) :
    zeroParent.matched (t.text ++ e) = true ↔ t.parentID = List.replicate 16 '0' := by
  rw [Pattern.matched, Pattern.search_isSome_iff rfl]
  simp only [Pattern.matchAt_isSome_iff (p := zeroParent) rfl (by decide)]
  have htext : t.text = (t.version ++ '-' :: (t.traceID ++ '-' :: (t.parentID ++ ['-']))) ++
      t.flags := by
    rw [text_eq]
    simp
  constructor
  · rintro ⟨b, _, heq, w, e', hw, rfl, hend⟩
    obtain ⟨_, rfl, hw₁⟩ := fits_char_iff.1 hw
    obtain ⟨z, _, rfl, hz, hw₂⟩ := fits_cons_iff.1 hw₁
    obtain ⟨h, rfl, hw₃⟩ := fits_char_iff.1 hw₂
    have hh : Traceparent.Field 2 h := fits_singleton_iff.1 hw₃
    -- the match ends where the value does, and its parts have the lengths of the last two fields
    have heq' : t.text ++ e = ((b ++ '-' :: (z ++ ['-'])) ++ h) ++ e' := by
      rw [heq]
      simp
    obtain ⟨heq', -⟩ := eq_of_append_atEnd heq' he (hend rfl)
      (htext ▸ getLast?_ne_newline _ ht.flags) (getLast?_ne_newline _ hh)
    rw [htext] at heq'
    obtain ⟨heq', -⟩ := List.append_inj' heq' (ht.flags.1.trans hh.1.symm)
    have heq'' : (t.version ++ '-' :: (t.traceID ++ ['-'])) ++ (t.parentID ++ ['-']) =
        (b ++ ['-']) ++ (z ++ ['-']) := by
      simpa using heq'
    have hlen : (t.parentID ++ ['-']).length = (z ++ ['-']).length := by
      rw [List.length_append, List.length_append, ht.parentID.1, hz.1]
      rfl
    rw [List.append_cancel_right (List.append_inj' heq'' hlen).2]
    exact (Atom.fits_replicate_iff rfl).1 hz
  · intro hzero
    refine ⟨t.version ++ '-' :: t.traceID, '-' :: (t.parentID ++ '-' :: t.flags) ++ e, ?_,
      '-' :: (t.parentID ++ '-' :: t.flags), e, ?_, rfl, fun _ => he⟩
    · rw [text_eq]
      simp
    · refine fits_char_iff.2 ⟨_, rfl, fits_cons_iff.2 ⟨_, _, rfl,
        (Atom.fits_replicate_iff rfl).2 hzero, fits_char_iff.2 ⟨_, rfl, ?_⟩⟩⟩
      exact fits_singleton_iff.2 ht.flags

/-- The pattern for the forbidden version. -/
lemma versionFf_matched_iff (ht : Shaped t) :
    versionFf.matched (t.text ++ e) = true ↔ t.version = "ff" := by
  rw [Pattern.matched, Pattern.search_of_start rfl, Pattern.matchAt_isSome_iff rfl (by decide),
    text_eq]
  constructor
  · rintro ⟨w, r, hw, heq, -⟩
    obtain ⟨f, _, rfl, hf, hw⟩ := fits_cons_iff.1 hw
    rw [List.append_assoc, List.append_assoc] at heq
    obtain ⟨heq, -⟩ := List.append_inj heq (ht.version.1.trans hf.1.symm)
    rw [heq]
    exact (Atom.fits_replicate_iff rfl).1 hf
  · intro hff
    refine ⟨t.version ++ ['-'], t.traceID ++ '-' :: (t.parentID ++ '-' :: (t.flags ++ e)), ?_,
      by simp, by simp [versionFf]⟩
    exact fits_cons_iff.2 ⟨_, _, rfl, (Atom.fits_replicate_iff rfl).2 hff, rfl⟩

/-- What the second test leaves. -/
lemma not_forbidden_iff (ht : Shaped t) (he : atEnd e = true) :
    (!(zeroTrace.matched (t.text ++ e) || zeroParent.matched (t.text ++ e) ||
      versionFf.matched (t.text ++ e))) = true ↔
      t.version ≠ "ff" ∧ t.traceID ≠ List.replicate 32 '0' ∧
        t.parentID ≠ List.replicate 16 '0' := by
  rw [Bool.not_eq_true', ← Bool.not_eq_true, Bool.or_eq_true, Bool.or_eq_true,
    zeroTrace_matched_iff ht, zeroParent_matched_iff ht he, versionFf_matched_iff ht, not_or,
    not_or]
  constructor
  · rintro ⟨⟨htrace, hparent⟩, hff⟩
    exact ⟨hff, htrace, hparent⟩
  · rintro ⟨hff, htrace, hparent⟩
    exact ⟨⟨htrace, hparent⟩, hff⟩

/-- The value passes both tests. -/
def keeps (v : Text) : Bool :=
  shape.matched v && !(zeroTrace.matched v || zeroParent.matched v || versionFf.matched v)

/-- **The values that pass the tests** are the valid ones, up to a newline at the end. -/
theorem keeps_iff (v : Text) :
    keeps v = true ↔
      ∃ (t : Traceparent) (e : Text), t.Valid ∧ atEnd e = true ∧ v = t.text ++ e := by
  rw [keeps, Bool.and_eq_true, shape_matched_iff]
  constructor
  · rintro ⟨⟨t, e, ht, he, rfl⟩, hbad⟩
    exact ⟨t, e, valid_iff.2 ⟨ht, (not_forbidden_iff ht he).1 hbad⟩, he, rfl⟩
  · rintro ⟨t, e, hvalid, he, rfl⟩
    obtain ⟨ht, hgood⟩ := valid_iff.1 hvalid
    exact ⟨⟨t, e, ht, he, rfl⟩, (not_forbidden_iff ht he).2 hgood⟩

/-! ## What the tracer reads -/

/-- White space at the end is trimmed. -/
lemma trimSpace_append {w e : Text} (hhead : Patterns.Stops Text.isSpace w) (hw : w ≠ [])
    (hlast : Patterns.Stops Text.isSpace w.reverse) (he : ∀ c ∈ e, Text.isSpace c = true) :
    Text.trimSpace (w ++ e) = w := by
  have hstart : Patterns.Stops Text.isSpace (w ++ e) := by
    intro c hc
    rw [List.head?_append_of_ne_nil w hw] at hc
    exact hhead c hc
  have hfront : (w ++ e).dropWhile Text.isSpace = w ++ e := by
    simpa using Patterns.dropWhile_of_stops (w := []) (by simp) hstart
  have hback : (e.reverse ++ w.reverse).dropWhile Text.isSpace = w.reverse :=
    Patterns.dropWhile_of_stops (fun c hc => he c (List.mem_reverse.1 hc)) hlast
  rw [Text.trimSpace, hfront, List.reverse_append, hback, List.reverse_reverse]

/-- A field begins and ends with a digit. -/
lemma stops_of_field {n : ℕ} {f : Text} (h : Traceparent.Field (n + 1) f) (r : Text) :
    Patterns.Stops Text.isSpace (f ++ r) ∧ Patterns.Stops Text.isSpace (f.reverse ++ r) := by
  have hne : f ≠ [] := List.ne_nil_of_length_pos (h.1 ▸ Nat.succ_pos n)
  have hspace : ∀ c ∈ f, Text.isSpace c = false := fun c hc => by
    simpa using Spans.forall_lowerHex (p := fun c => !Text.isSpace c) (by decide) (h.2 c hc)
  refine ⟨Patterns.stops_append hne hspace, Patterns.stops_append (by simpa using hne) ?_⟩
  exact fun c hc => hspace c (List.mem_reverse.1 hc)

/-- A value is read without the newline at its end. -/
lemma trimSpace_text (ht : Shaped t) (he : atEnd e = true) :
    Text.trimSpace (t.text ++ e) = t.text := by
  have hend : ∀ c ∈ e, Text.isSpace c = true := by
    have hcases : e = [] ∨ e = ['\n'] := by simpa [atEnd] using he
    rcases hcases with rfl | rfl
    · simp
    · intro c hc
      rw [List.mem_singleton.1 hc]
      rfl
  refine trimSpace_append ?_ ?_ ?_ hend
  · rw [text_eq]
    exact (stops_of_field ht.version _).1
  · rw [text_eq]
    simp
  · rw [text_eq]
    simp only [List.reverse_append, List.reverse_cons, List.append_assoc]
    exact (stops_of_field ht.flags _).2

/-- What passes is read, and its fields are those of the value. -/
lemma parse_of_valid (hvalid : t.Valid) (he : atEnd e = true) :
    parseTraceparent (t.text ++ e) = some t.ids :=
  Spans.parseTraceparent_eq_some_iff.2
    ⟨t, trimSpace_text (valid_iff.1 hvalid).1 he, hvalid, rfl⟩

/-- **A value without white space around it passes just when the tracer accepts it.** -/
theorem keeps_eq_isSome {v : Text} (hv : Text.trimSpace v = v) :
    keeps v = (parseTraceparent v).isSome := by
  rw [Bool.eq_iff_iff, keeps_iff, Option.isSome_iff_exists]
  constructor
  · rintro ⟨t, e, hvalid, he, rfl⟩
    exact ⟨_, parse_of_valid hvalid he⟩
  · rintro ⟨ids, hids⟩
    obtain ⟨t, htext, hvalid, -⟩ := Spans.parseTraceparent_eq_some_iff.1 hids
    exact ⟨t, [], hvalid, rfl, by rw [← htext, hv, List.append_nil]⟩

end Gate

/-! ## New ids -/

/-- A hexadecimal digit in either case. -/
def isHex (c : Char) : Bool := isLowerHex c.toLower

/-- The five parts of a UUID. -/
structure Uuid where
  timeLow : Text
  timeMid : Text
  timeHigh : Text
  clockSeq : Text
  node : Text

namespace Uuid

/-- The canonical form. -/
def text (u : Uuid) : Text :=
  u.timeLow ++ '-' :: (u.timeMid ++ '-' :: (u.timeHigh ++ '-' :: (u.clockSeq ++ '-' :: u.node)))

/-- A part of some digits. -/
def Part (n : ℕ) (s : Text) : Prop := s.length = n ∧ ∀ c ∈ s, isHex c = true

/-- The parts have their lengths, and the version is four. -/
structure V4 (u : Uuid) : Prop where
  timeLow : Part 8 u.timeLow
  timeMid : Part 4 u.timeMid
  timeHigh : Part 4 u.timeHigh ∧ u.timeHigh.head? = some '4'
  clockSeq : Part 4 u.clockSeq
  node : Part 12 u.node

/-- The digits of the first three parts. -/
def head (u : Uuid) : Text := u.timeLow ++ u.timeMid ++ u.timeHigh

/-- All digits. -/
def digits (u : Uuid) : Text := u.head ++ u.clockSeq ++ u.node

end Uuid

section Minting

/-- A hexadecimal digit is no other character. -/
lemma isHex_ne {c d : Char} (h : isHex c = true) (hd : isHex d = false) : c ≠ d := by
  rintro rfl
  rw [h] at hd
  cases hd

variable {u : Uuid}

/-- Two parts of digits. -/
lemma Uuid.Part.append {m n : ℕ} {s t : Text} (hs : Uuid.Part m s) (ht : Uuid.Part n t) :
    Uuid.Part (m + n) (s ++ t) := by
  refine ⟨by rw [List.length_append, hs.1, ht.1], fun c hc => ?_⟩
  rcases List.mem_append.1 hc with hc | hc
  · exact hs.2 c hc
  · exact ht.2 c hc

/-- Digits become a field when they are written in lower case. -/
lemma Uuid.Part.field {n : ℕ} {s : Text} (h : Uuid.Part n s) :
    Traceparent.Field n (s.map Char.toLower) := by
  refine ⟨by rw [List.length_map, h.1], fun c hc => ?_⟩
  obtain ⟨d, hd, rfl⟩ := List.mem_map.1 hc
  exact h.2 d hd

/-- The first three parts have sixteen digits. -/
lemma Uuid.V4.head (h : u.V4) : Uuid.Part 16 u.head :=
  (h.timeLow.append h.timeMid).append h.timeHigh.1

/-- All parts have thirty-two digits. -/
lemma Uuid.V4.digits (h : u.V4) : Uuid.Part 32 u.digits :=
  (h.head.append h.clockSeq).append h.node

/-- An id with the digit of the version is not zero. -/
lemma Uuid.V4.ne_zeros (h : u.V4) {s : Text} (hs : ∀ c ∈ u.head, c ∈ s) (n : ℕ) :
    s.map Char.toLower ≠ List.replicate n '0' := by
  intro hzero
  have hfour : '4' ∈ u.timeHigh := List.mem_of_head? h.timeHigh.2
  have hmem : Char.toLower '4' ∈ s.map Char.toLower :=
    List.mem_map_of_mem (hs '4' (List.mem_append_right _ hfour))
  rw [hzero] at hmem
  exact absurd (List.eq_of_mem_replicate hmem) (by decide)

/-- Without its dashes a UUID is its digits. -/
lemma Uuid.V4.filter_text (h : u.V4) : u.text.filter (· ≠ '-') = u.digits := by
  have hkeep : ∀ {n : ℕ} {s : Text}, Uuid.Part n s → s.filter (· ≠ '-') = s := by
    intro n s hs
    refine List.filter_eq_self.2 fun c hc => decide_eq_true ?_
    exact isHex_ne (hs.2 c hc) (by decide)
  have hdash : ∀ s : Text, ('-' :: s).filter (· ≠ '-') = s.filter (· ≠ '-') := fun _ => rfl
  simp only [Uuid.text, List.filter_append, hdash, hkeep h.timeLow, hkeep h.timeMid,
    hkeep h.timeHigh.1, hkeep h.clockSeq, hkeep h.node, Uuid.digits, Uuid.head, List.append_assoc]

/-- The first three parts of a UUID are found. -/
lemma Uuid.V4.regsub_text (h : u.V4) : regsub uuidHead "\\1\\2\\3" u.text = u.head := by
  have hline : ∀ {n : ℕ} {s : Text}, Uuid.Part n s → ∀ c ∈ s, c ≠ '\n' := fun hs c hc =>
    isHex_ne (hs.2 c hc) (by decide)
  have hdots : ∀ {n : ℕ} {s : Text}, Uuid.Part n s → fits [.each .any n] s = true := fun hs =>
    fits_singleton_iff.2 ⟨hs.1, fun c hc => decide_eq_true (hline hs c hc)⟩
  have hdash : fits [dash] ['-'] = true := rfl
  have hall : List.Forall₂ (fun p w => fits p.atoms w = true) uuidHead.pieces
      [u.timeLow, ['-'], u.timeMid, ['-'], u.timeHigh] :=
    .cons (hdots h.timeLow) (.cons hdash (.cons (hdots h.timeMid) (.cons hdash
      (.cons (hdots h.timeHigh.1) .nil))))
  have htext : u.text = [u.timeLow, ['-'], u.timeMid, ['-'], u.timeHigh].flatten ++
      '-' :: (u.clockSeq ++ '-' :: u.node) := by
    simp [Uuid.text]
  have hrest : ∀ c ∈ '-' :: (u.clockSeq ++ '-' :: u.node), c ≠ '\n' := by
    intro c hc
    simp only [List.mem_cons, List.mem_append] at hc
    rcases hc with rfl | hc | rfl | hc
    · decide
    · exact hline h.clockSeq c hc
    · decide
    · exact hline h.node c hc
  rw [regsub, Pattern.search_of_start rfl, htext, (Pattern.matchAt_of_fits hall).2.2 rfl _ hrest]
  simp [expand, groupsOf, uuidHead, Uuid.head]

/-- A new span id takes the place of the old one, and the rest stays. -/
lemma regsub_parentField {t : Traceparent} (ht : Shaped t) {e : Text} (he : atEnd e = true)
    {m : Text} (hm : Traceparent.Field 16 m) :
    regsub parentField ("\\1" ++ m ++ "\\2") (t.text ++ e) =
      Traceparent.text { t with parentID := m } ++ e := by
  have hfirst : fits [.times .lowerHex 2, dash, .times .lowerHex 32, dash]
      (t.version ++ '-' :: (t.traceID ++ ['-'])) = true := by
    refine fits_cons_iff.2 ⟨_, _, rfl, ht.version, fits_char_iff.2 ⟨_, rfl, ?_⟩⟩
    exact fits_cons_iff.2 ⟨_, _, rfl, ht.traceID, rfl⟩
  have hlast : fits [dash, .times .lowerHex 2] ('-' :: t.flags) = true :=
    fits_char_iff.2 ⟨_, rfl, fits_singleton_iff.2 ht.flags⟩
  have hall : List.Forall₂ (fun p w => fits p.atoms w = true) parentField.pieces
      [t.version ++ '-' :: (t.traceID ++ ['-']), t.parentID, '-' :: t.flags] :=
    .cons hfirst (.cons (fits_singleton_iff.2 ht.parentID) (.cons hlast .nil))
  have htext : t.text ++ e =
      [t.version ++ '-' :: (t.traceID ++ ['-']), t.parentID, '-' :: t.flags].flatten ++ e := by
    rw [text_eq]
    simp
  have hescape : '\\' ∉ m := fun hmem => absurd (hm.2 '\\' hmem) (by decide)
  rw [regsub, Pattern.search_of_start rfl, htext, (Pattern.matchAt_of_fits hall).2.1 rfl e he,
    text_eq]
  dsimp only
  have hexpand : ∀ f : Found, expand f ("\\1" ++ m ++ "\\2") =
      ((f.whole :: f.groups)[1]?).getD [] ++ (m ++ ((f.whole :: f.groups)[2]?).getD []) := by
    intro f
    have hone : ∀ rest : Text, expand f ('\\' :: '1' :: rest) =
        ((f.whole :: f.groups)[1]?).getD [] ++ expand f rest := fun _ => rfl
    have htwo : expand f "\\2" = ((f.whole :: f.groups)[2]?).getD [] := by
      rw [show ("\\2" : Text) = ['\\', '2'] from rfl]
      exact List.append_nil _
    rw [show ("\\1" : Text) ++ m ++ "\\2" = '\\' :: '1' :: (m ++ "\\2") from rfl, hone,
      expand_append f hescape, htwo]
  rw [hexpand]
  simp [groupsOf, parentField]

end Minting

/-! ## The values of a fetch -/

section Values

variable {B W : Type} {uuid : ℕ → State B W → Text}
  (huuid : ∀ k s, ∃ u : Uuid, u.V4 ∧ uuid k s = u.text)

include huuid

/-- A new span id is a field, and not zero. -/
lemma spanID_eval (k : ℕ) (s : State B W) :
    Traceparent.Field 16 ((spanID k).eval uuid s) ∧
      (spanID k).eval uuid s ≠ List.replicate 16 '0' := by
  obtain ⟨u, hu, htext⟩ := huuid k s
  have heval : (spanID k).eval uuid s = u.head.map Char.toLower := by
    rw [← hu.regsub_text, ← htext]
    rfl
  rw [heval]
  exact ⟨hu.head.field, hu.ne_zeros (fun _ hc => hc) 16⟩

/-- With a new span id a valid value stays valid. -/
lemma renewed_eval {t : Traceparent} (hvalid : t.Valid) {e : Text} (he : atEnd e = true)
    {s : State B W} (hs : s.get .bereq traceparentHeader = some (t.text ++ e)) :
    ∃ m, renewed.eval uuid s = Traceparent.text { t with parentID := m } ++ e ∧
      Traceparent.Valid { t with parentID := m } := by
  obtain ⟨hfield, hne⟩ := spanID_eval huuid 0 s
  refine ⟨(spanID 0).eval uuid s, ?_, hvalid.version, hvalid.traceID, ⟨hfield, hne⟩, hvalid.flags⟩
  rw [← regsub_parentField (valid_iff.1 hvalid).1 he hfield]
  change regsub parentField _ ((s.get .bereq traceparentHeader).getD []) = _
  rw [hs]
  rfl

/-- A new value is valid and marked as sampled. -/
lemma minted_eval (s : State B W) :
    ∃ t : Traceparent, minted.eval uuid s = t.text ∧ t.Valid ∧ t.ids.2.2 = true := by
  obtain ⟨u, hu, htext⟩ := huuid 0 s
  obtain ⟨hfield, hne⟩ := spanID_eval huuid 1 s
  refine ⟨⟨"00", u.digits.map Char.toLower, (spanID 1).eval uuid s, "01"⟩, ?_, ?_, ?_⟩
  · have heval : minted.eval uuid s = "00-" ++ ((uuid 0 s).filter (· ≠ '-')).map Char.toLower ++
        "-" ++ (spanID 1).eval uuid s ++ "-01" := rfl
    rw [heval, htext, hu.filter_text, text_eq]
    simp
  · have hdigits : ∀ c ∈ u.head, c ∈ u.digits := fun c hc =>
      List.mem_append_left _ (List.mem_append_left _ hc)
    have hversion : Traceparent.Field 2 "00" ∧ ("00" : Text) ≠ "ff" :=
      ⟨⟨rfl, List.all_eq_true.1 (by decide)⟩, by decide⟩
    have hflags : Traceparent.Field 2 "01" := ⟨rfl, List.all_eq_true.1 (by decide)⟩
    exact ⟨hversion, ⟨hu.digits.field, hu.ne_zeros hdigits 32⟩, ⟨hfield, hne⟩, hflags⟩
  · dsimp only [Traceparent.ids]
    decide

end Values

end CloudVinyl.Generator
