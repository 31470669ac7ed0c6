import CloudVinyl.Lib.Patterns
import CloudVinyl.Tracer.Vsl

set_option relaxedAutoImplicit false
set_option autoImplicit false

/-!
# Parsing of transaction groups

`Parser.Next` of `internal/tracer/vsl/vsl.go`: the text of `varnishlog -g request` is cut into
lines, and the lines are put together to transaction groups. A line with stars opens a group, and
one with dashes is a record; their number is the level. A table has the group that was opened last
at each level.

In the source the table holds pointers to groups. A group has one parent, and children are only
ever appended, so that a group is known by its path in the group that is pending: the positions of
its ancestors and of itself among their siblings. The table holds these paths.

## Main definitions

* `Vsl.Groups` — the pending group and the table; `Vsl.Groups.lineStep` — what a line does to them.
* `Vsl.Parser.next` — one call of `Next`; `Vsl.Parser.calls` — a number of calls.
* `Vsl.Tx.lines`, `Vsl.print` — groups as text, in a `Vsl.Layout`.

## Main results

* `Vsl.quiet_lines` — the lines of a group, read below its parent, append it there.
* `Vsl.calls_print` — parsing undoes printing.
-/

namespace CloudVinyl.Vsl

open Patterns (Piece submatch Stops)

/-! ## Groups and paths -/

/-- The way from a group to one below it: positions among siblings. -/
abbrev Path := List ℕ

namespace Tx

/-- The group with more records. -/
def addRecords (rs : List Record) : Tx → Tx
  | mk type vxid records children => mk type vxid (records ++ rs) children

/-- The group with more groups below it. -/
def addChildren (txs : List Tx) : Tx → Tx
  | mk type vxid records children => mk type vxid records (children ++ txs)

/-- The group at a path. -/
def get? : Path → Tx → Option Tx
  | [], t => some t
  | i :: path, mk _ _ _ children => children[i]?.bind (get? path)

/-- The group at a path is changed in place. -/
def modify (f : Tx → Tx) : Path → Tx → Tx
  | [], t => f t
  | i :: path, mk type vxid records children =>
    mk type vxid records (children.modify i (modify f path))

end Tx

/-! ## Lines -/

/-- The limit that `NewParser` sets for a line. -/
def maxTokenSize : ℕ := 1024 * 1024

/-- The size of a line in bytes. -/
def lineSize (line : Text) : ℕ := (line.map Char.utf8Size).sum

/-- The lines of a text; there is none after the last terminator. -/
def rawLines (text : Text) : List Text :=
  let (terminated, rest) := Words.readLines '\n' text
  if rest = [] then terminated else terminated ++ [rest]

/-- `dropCR` of package `bufio`. -/
def dropCR (line : Text) : Text := if line.getLast? = some '\r' then line.dropLast else line

/-- `groupRe`: the header of a group. -/
def groupRe : List (Piece Char) :=
  [.plus (· = '*'), .plus Patterns.space, .lit "<<", .plus Patterns.space, .plus Patterns.word,
    .plus Patterns.space, .lit ">>", .plus Patterns.space, .plus Patterns.digit,
    .star Patterns.space]

/-- `recordRe`: a record. -/
def recordRe : List (Piece Char) :=
  [.plus (· = '-'), .plus Patterns.space, .plus Patterns.nonSpace, .star Patterns.space,
    .star Patterns.dot]

/-- What a line says. -/
inductive Line where
  | blank
  | group (level : ℕ) (type : Text) (vxid : ℕ)
  | record (level : ℕ) (r : Record)
  | other

/-- A line is matched against one pattern after the other. A number that does not fit is the
greatest one, since the error of `ParseUint` is dropped. -/
def readLine (line : Text) : Line :=
  if Text.trimSpace line = [] then .blank
  else
    match submatch groupRe line with
    | some [stars, _, _, _, type, _, _, _, digits, _] =>
      .group stars.length type ((Text.parseUint digits).getD (2 ^ 64 - 1))
    | _ =>
      match submatch recordRe line with
      | some [dashes, _, tag, _, payload] => .record dashes.length ⟨tag, payload⟩
      | _ => .other

/-! ## The parser -/

/-- The pending group, and the group opened last at each level. -/
structure Groups where
  pending : Option Tx
  byLevel : List Path

namespace Groups

variable (g : Groups)

/-- The path that a new child of the group at `parent` has. -/
def childPath (parent : Path) : Path :=
  parent ++ [((g.pending.bind (Tx.get? parent)).map (·.children.length)).getD 0]

/-- The group at a path is changed in place. -/
def modify (f : Tx → Tx) (path : Path) : Option Tx := g.pending.map (Tx.modify f path)

/-- A group is opened. At level one, what was pending is complete. -/
def openGroup (level : ℕ) (tx : Tx) : Option Tx × Groups :=
  if level = 1 then (g.pending, ⟨some tx, [[]]⟩)
  else
    match g.byLevel[level - 2]? with
    | some parent =>
      (none, ⟨g.modify (Tx.addChildren [tx]) parent,
        g.byLevel.take (level - 1) ++ [g.childPath parent]⟩)
    -- a level above it is missing
    | none => (none, g)

/-- A record goes to the open group of its level, if there is one. -/
def addRecord (level : ℕ) (r : Record) : Groups :=
  match g.byLevel[level - 1]? with
  | some path => { g with pending := g.modify (Tx.addRecords [r]) path }
  | none => g

/-- The body of the loop of `Next`, with the group that it returns. -/
def lineStep (line : Text) : Option Tx × Groups :=
  match readLine line with
  | .blank =>
    match g.pending with
    | some tx => (some tx, ⟨none, []⟩)
    | none => (none, g)
  | .group level type vxid => g.openGroup level (.mk type vxid [] [])
  | .record level r => (none, g.addRecord level r)
  | .other => (none, g)

end Groups

/-- Why a call of `Next` returns no group. -/
inductive ReadError where
  | eof
  | tooLong
  deriving DecidableEq

/-- `Parser`: the lines that the scanner has not returned yet, and whether it stops after them at a
line that is too long. -/
structure Parser where
  lines : List Text
  tooLong : Bool
  groups : Groups
  eof : Bool

/-- `NewParser` -/
def newParser (text : Text) : Parser where
  lines := ((rawLines text).takeWhile fun l => lineSize l < maxTokenSize).map dropCR
  tooLong := !((rawLines text).all fun l => lineSize l < maxTokenSize)
  groups := ⟨none, []⟩
  eof := false

/-- The loop of `Next` and what follows it. -/
def scan (tooLong : Bool) : List Text → Groups → Except ReadError Tx × Parser
  | [], g =>
    match g.pending with
    | some tx => (.ok tx, ⟨[], tooLong, ⟨none, g.byLevel⟩, true⟩)
    | none => (.error (if tooLong then .tooLong else .eof), ⟨[], tooLong, g, true⟩)
  | line :: lines, g =>
    match g.lineStep line with
    | (some tx, g') => (.ok tx, ⟨lines, tooLong, g', false⟩)
    | (none, g') => scan tooLong lines g'

namespace Parser

/-- `Next` -/
def next (p : Parser) : Except ReadError Tx × Parser :=
  if p.eof then (.error .eof, p) else scan p.tooLong p.lines p.groups

/-- What a number of calls of `Next` return. -/
def calls : ℕ → Parser → List (Except ReadError Tx)
  | 0, _ => []
  | n + 1, p => p.next.1 :: calls n p.next.2

end Parser

/-! ## Printing -/

/-- Blanks between two fields of a line. -/
structure Gap where
  text : Text
  ne_nil : text ≠ [] := by decide
  blank : (text.all fun c => c = ' ' || c = '\t') = true := by decide

/-- The blanks of each line, which may depend on what the line says. -/
structure Layout where
  afterStars : ℕ → Text → ℕ → Gap
  afterOpen : ℕ → Text → ℕ → Gap
  afterType : ℕ → Text → ℕ → Gap
  afterClose : ℕ → Text → ℕ → Gap
  afterVxid : ℕ → Text → ℕ → Option Gap
  afterDashes : ℕ → Record → Gap
  afterTag : ℕ → Record → Gap

section Print

variable (y : Layout)

/-- The line that opens a group. -/
def headerLine (level : ℕ) (type : Text) (vxid : ℕ) : Text :=
  List.replicate level '*' ++ ((y.afterStars level type vxid).text ++
    (("<<" : Text) ++ ((y.afterOpen level type vxid).text ++ (type ++
      ((y.afterType level type vxid).text ++ ((">>" : Text) ++
        ((y.afterClose level type vxid).text ++ (Text.decimal vxid ++
          ((y.afterVxid level type vxid).map (·.text)).getD []))))))))

/-- The line of a record. -/
def recordLine (level : ℕ) (r : Record) : Text :=
  List.replicate level '-' ++ ((y.afterDashes level r).text ++
    (r.tag ++ ((y.afterTag level r).text ++ r.payload)))

mutual

/-- The lines of a group: its header, its records and its children. -/
def Tx.lines (level : ℕ) : Tx → List Text
  | .mk type vxid records children =>
    headerLine y level type vxid ::
      (records.map (recordLine y level) ++ forestLines (level + 1) children)

/-- The lines of a list of groups. -/
def forestLines (level : ℕ) : List Tx → List Text
  | [] => []
  | t :: ts => t.lines level ++ forestLines level ts

end

/-- The lines of a list of groups, each followed by a blank line or by nothing. -/
def allLines (txs : List (Tx × Bool)) : List Text :=
  txs.flatMap fun (t, blank) => t.lines y 1 ++ if blank then [[]] else []

/-- The text of groups at the top. -/
def print (txs : List (Tx × Bool)) : Text := (allLines y txs).flatMap fun line => line ++ ['\n']

end Print

/-- A record that can be told from its line. -/
structure Record.Printable (r : Record) : Prop where
  tag_ne_nil : r.tag ≠ []
  tag : ∀ c ∈ r.tag, Patterns.space c = false
  payload : '\r' ∉ r.payload ∧ '\n' ∉ r.payload
  payload_head : Stops Patterns.space r.payload

/-- A group whose lines can be read back, at every depth. -/
inductive Tx.Printable : Tx → Prop where
  | mk {type : Text} {vxid : ℕ} {records : List Record} {children : List Tx}
      (type_ne_nil : type ≠ []) (type_word : ∀ c ∈ type, Patterns.word c = true)
      (vxid_lt : vxid < 2 ^ 64) (records_printable : ∀ r ∈ records, r.Printable)
      (children_printable : ∀ t ∈ children, Tx.Printable t) :
      Tx.Printable (.mk type vxid records children)

/-! ### Printable groups can be told -/

/-- The test for records that can be told from their lines. -/
def Record.check (r : Record) : Bool :=
  !r.tag.isEmpty && r.tag.all Patterns.nonSpace &&
    (!List.elem '\r' r.payload && !List.elem '\n' r.payload) &&
    !r.payload.head?.any Patterns.space

/-- The test decides what it should. -/
lemma Record.check_iff (r : Record) : r.check = true ↔ r.Printable := by
  have hhead : r.payload.head?.any Patterns.space = false ↔ Stops Patterns.space r.payload := by
    cases r.payload <;> simp [Stops]
  constructor
  · intro h
    simp only [check, Bool.and_eq_true, Bool.not_eq_true', hhead] at h
    obtain ⟨⟨⟨hne, htag⟩, hcr, hlf⟩, hstops⟩ := h
    exact ⟨by simpa using hne, Patterns.forall_nonSpace htag,
      ⟨by simpa using hcr, by simpa using hlf⟩, hstops⟩
  · rintro ⟨hne, htag, ⟨hcr, hlf⟩, hstops⟩
    simp only [check, Bool.and_eq_true, Bool.not_eq_true', hhead]
    exact ⟨⟨⟨by simpa using hne, by simpa [Patterns.nonSpace] using htag⟩, by simpa using hcr,
      by simpa using hlf⟩, hstops⟩

mutual

/-- The test for groups that can be read back. -/
def Tx.check : Tx → Bool
  | .mk type vxid records children =>
    !type.isEmpty && type.all Patterns.word && decide (vxid < 2 ^ 64) &&
      records.all Record.check && forestCheck children

/-- The same for a list of groups. -/
def forestCheck : List Tx → Bool
  | [] => true
  | t :: ts => t.check && forestCheck ts

end

mutual

/-- The test decides what it should, at every depth. -/
theorem Tx.check_iff : (tx : Tx) → (tx.check = true ↔ tx.Printable)
  | .mk type vxid records children => by
    have hforest := forestCheck_iff children
    constructor
    · intro h
      simp only [Tx.check, Bool.and_eq_true, hforest, List.all_eq_true, Record.check_iff] at h
      obtain ⟨⟨⟨⟨hne, htype⟩, hvxid⟩, hrecords⟩, hchildren⟩ := h
      exact .mk (by simpa using hne) htype (of_decide_eq_true hvxid) hrecords hchildren
    · rintro ⟨hne, htype, hvxid, hrecords, hchildren⟩
      simp only [Tx.check, Bool.and_eq_true, hforest, List.all_eq_true, Record.check_iff]
      exact ⟨⟨⟨⟨by simpa using hne, htype⟩, decide_eq_true hvxid⟩, hrecords⟩, hchildren⟩

/-- The same for a list of groups. -/
theorem forestCheck_iff : (txs : List Tx) → (forestCheck txs = true ↔ ∀ tx ∈ txs, tx.Printable)
  | [] => by simp [forestCheck]
  | tx :: txs => by
    rw [forestCheck, Bool.and_eq_true, Tx.check_iff tx, forestCheck_iff txs,
      List.forall_mem_cons]

end

/-- Whether a group can be read back can be decided. -/
instance : DecidablePred Tx.Printable := fun tx => decidable_of_iff _ tx.check_iff

/-! ## Printed lines are read back -/

section ReadBack

variable (y : Layout)

/-- A gap is white space. -/
lemma Gap.space (gap : Gap) : ∀ c ∈ gap.text, Patterns.space c = true := by
  intro c hc
  have hblank : c = ' ' ∨ c = '\t' := by simpa using List.all_eq_true.1 gap.blank c hc
  rcases hblank with rfl | rfl <;> decide

/-- A gap ends a run of a class without white space. -/
lemma Gap.stops (gap : Gap) {p : Char → Bool} (h : ∀ c, Patterns.space c = true → p c = false)
    (s : Text) : Stops p (gap.text ++ s) :=
  Patterns.stops_append gap.ne_nil fun c hc => h c (gap.space c hc)

/-- A line that begins with a character that is no space is not blank. -/
lemma trimSpace_ne_nil {c : Char} (hc : Text.isSpace c = false) (s : Text) :
    Text.trimSpace (c :: s) ≠ [] := by
  intro h
  have hfront : (c :: s).dropWhile Text.isSpace = c :: s :=
    List.dropWhile_cons_of_neg (by simp [hc])
  have hall := List.dropWhile_eq_nil_iff.1 (List.reverse_eq_nil_iff.1 h) c (by simp [hfront])
  simp [hc] at hall

/-- A run of one character, with its first one split off. -/
lemma replicate_append_eq {level : ℕ} (h : 0 < level) (c : Char) (s : Text) :
    List.replicate level c ++ s = c :: (List.replicate (level - 1) c ++ s) := by
  obtain ⟨n, rfl⟩ : ∃ n, level = n + 1 := ⟨level - 1, by omega⟩
  rfl

variable {level : ℕ}

/-- The run of stars or dashes of a line. -/
lemma submatch_marks (hlevel : 0 < level) (c : Char) (hc : Patterns.space c = false)
    (gap : Gap) (s : Text) (ps : List (Piece Char)) :
    submatch (.plus (· = c) :: .plus Patterns.space :: ps)
        (List.replicate level c ++ (gap.text ++ s)) =
      (submatch (.plus Patterns.space :: ps) (gap.text ++ s)).map
        (List.replicate level c :: ·) := by
  have hne : List.replicate level c ≠ [] := by simp; omega
  have hall : ∀ d ∈ List.replicate level c, decide (d = c) = true := by simp
  refine Patterns.submatch_plus hne hall (gap.stops (fun d hd => decide_eq_false ?_) s)
  rintro rfl
  simp [hc] at hd

/-- A gap between fields. -/
lemma submatch_gap (gap : Gap) {s : Text} (hs : Stops Patterns.space s) (ps : List (Piece Char)) :
    submatch (.plus Patterns.space :: ps) (gap.text ++ s) =
      (submatch ps s).map (gap.text :: ·) :=
  Patterns.submatch_plus gap.ne_nil gap.space hs

/-- A number does not begin with white space. -/
lemma stops_decimal (vxid : ℕ) (s : Text) :
    Stops Patterns.space (Text.decimal vxid ++ s) := by
  refine Patterns.stops_append (Text.decimal_ne_nil vxid) fun c hc => ?_
  exact Patterns.space_of_word (Patterns.word_of_digit (Text.isDigit_of_mem_decimal hc))

/-- The number of a group, and the blanks behind it. -/
lemma submatch_vxid (vxid : ℕ) (gap : Option Gap) :
    submatch [.plus Patterns.digit, .star Patterns.space]
        (Text.decimal vxid ++ (gap.map (·.text)).getD []) =
      some [Text.decimal vxid, (gap.map (·.text)).getD []] := by
  have hdigits : ∀ c ∈ Text.decimal vxid, Patterns.digit c = true :=
    fun c hc => Text.isDigit_of_mem_decimal hc
  cases gap with
  | none =>
    change submatch _ (Text.decimal vxid ++ []) = _
    rw [Patterns.submatch_plus (Text.decimal_ne_nil vxid) hdigits (Patterns.stops_nil _)]
    rfl
  | some gap =>
    have htrail : submatch [.star Patterns.space] (gap.text ++ []) = some [gap.text] :=
      Patterns.submatch_star gap.space (Patterns.stops_nil _)
    have hstops := gap.stops (p := Patterns.digit) (Patterns.of_space (by decide)) []
    rw [List.append_nil] at htrail hstops
    change submatch _ (Text.decimal vxid ++ gap.text) = _
    rw [Patterns.submatch_plus (Text.decimal_ne_nil vxid) hdigits hstops, htrail]
    rfl

/-- The parts of a header are its fields. -/
lemma submatch_headerLine (hlevel : 0 < level) {type : Text} (vxid : ℕ) (hne : type ≠ [])
    (htype : ∀ c ∈ type, Patterns.word c = true) :
    submatch groupRe (headerLine y level type vxid) =
      some [List.replicate level '*', (y.afterStars level type vxid).text, "<<",
        (y.afterOpen level type vxid).text, type, (y.afterType level type vxid).text, ">>",
        (y.afterClose level type vxid).text, Text.decimal vxid,
        ((y.afterVxid level type vxid).map (·.text)).getD []] := by
  have hstops : ∀ s, Stops Patterns.space (type ++ s) := fun s =>
    Patterns.stops_append hne fun c hc => Patterns.space_of_word (htype c hc)
  have hgap := (y.afterType level type vxid).stops (p := Patterns.word)
    (Patterns.of_space (by decide))
  rw [groupRe, headerLine, submatch_marks hlevel '*' (by decide),
    submatch_gap _ (Patterns.stops_append (by decide) (Patterns.forall_nonSpace (by decide))),
    Patterns.submatch_lit,
    submatch_gap _ (hstops _), Patterns.submatch_plus hne htype (hgap _),
    submatch_gap _ (Patterns.stops_append (by decide) (Patterns.forall_nonSpace (by decide))),
    Patterns.submatch_lit,
    submatch_gap _ (stops_decimal _ _), submatch_vxid]
  rfl

/-- **A header is read back.** -/
theorem readLine_headerLine (hlevel : 0 < level) {type : Text} {vxid : ℕ} (hne : type ≠ [])
    (htype : ∀ c ∈ type, Patterns.word c = true) (hvxid : vxid < 2 ^ 64) :
    readLine (headerLine y level type vxid) = .group level type vxid := by
  have hblank : Text.trimSpace (headerLine y level type vxid) ≠ [] := by
    rw [headerLine, replicate_append_eq hlevel]
    exact trimSpace_ne_nil (by decide) _
  rw [readLine, if_neg hblank, submatch_headerLine y hlevel vxid hne htype]
  simp only [List.length_replicate, Text.parseUint_decimal hvxid, Option.getD_some]

/-- The parts of a record's line are its fields. -/
lemma submatch_recordLine (hlevel : 0 < level) {r : Record} (h : r.Printable) :
    submatch recordRe (recordLine y level r) =
      some [List.replicate level '-', (y.afterDashes level r).text, r.tag,
        (y.afterTag level r).text, r.payload] := by
  have htag : ∀ c ∈ r.tag, Patterns.nonSpace c = true := fun c hc => by
    simp [Patterns.nonSpace, h.tag c hc]
  have hgap := (y.afterTag level r).stops (p := Patterns.nonSpace)
    (Patterns.of_space (by decide))
  have hpayload : submatch [.star Patterns.dot] (r.payload ++ []) = some [r.payload] := by
    refine Patterns.submatch_star (fun c hc => ?_) (Patterns.stops_nil _)
    have hne : c ≠ '\n' := fun heq => h.payload.2 (heq ▸ hc)
    simpa [Patterns.dot] using hne
  rw [List.append_nil] at hpayload
  rw [recordRe, recordLine, submatch_marks hlevel '-' (by decide),
    submatch_gap _ (Patterns.stops_append h.tag_ne_nil h.tag),
    Patterns.submatch_plus h.tag_ne_nil htag (hgap _),
    Patterns.submatch_star (y.afterTag level r).space h.payload_head, hpayload]
  rfl

/-- **A record is read back.** -/
theorem readLine_recordLine (hlevel : 0 < level) {r : Record} (h : r.Printable) :
    readLine (recordLine y level r) = .record level r := by
  have hblank : Text.trimSpace (recordLine y level r) ≠ [] := by
    rw [recordLine, replicate_append_eq hlevel]
    exact trimSpace_ne_nil (by decide) _
  have hgroup : submatch groupRe (recordLine y level r) = none := by
    rw [groupRe, recordLine, replicate_append_eq hlevel]
    exact Patterns.submatch_plus_eq_none (Patterns.stops_cons (by decide))
  rw [readLine, if_neg hblank, hgroup, submatch_recordLine y hlevel h]
  simp only [List.length_replicate]

end ReadBack

/-! ## Paths in a group -/

namespace Tx

section Modify

variable {f f' : Tx → Tx} {path : Path} {t node : Tx}

/-- Two changes at one place are one. -/
lemma modify_modify : (t.modify f path).modify f' path = t.modify (f' ∘ f) path := by
  induction path generalizing t with
  | nil => rfl
  | cons i path ih =>
    cases t
    simp only [modify, List.modify_modify_eq]
    congr 2
    funext t
    exact ih

/-- The group at the path after the change. -/
lemma get?_modify (h : t.get? path = some node) : (t.modify f path).get? path = some (f node) := by
  induction path generalizing t with
  | nil =>
    obtain rfl := Option.some.inj h
    rfl
  | cons i path ih =>
    obtain ⟨type, vxid, records, children⟩ := t
    obtain ⟨child, hchild, hnode⟩ := Option.bind_eq_some_iff.1 h
    simp only [modify, get?, List.getElem?_modify_eq, hchild]
    exact ih hnode

/-- Only the group at the path matters. -/
lemma modify_congr (h : t.get? path = some node) (hf : f node = f' node) :
    t.modify f path = t.modify f' path := by
  induction path generalizing t with
  | nil =>
    obtain rfl := Option.some.inj h
    exact hf
  | cons i path ih =>
    obtain ⟨type, vxid, records, children⟩ := t
    obtain ⟨child, hchild, hnode⟩ := Option.bind_eq_some_iff.1 h
    simp only [modify, mk.injEq, true_and]
    apply List.ext_getElem?
    intro j
    by_cases hj : i = j
    · subst hj
      simp only [List.getElem?_modify_eq, hchild]
      exact congrArg some (ih hnode)
    · rw [List.getElem?_modify_ne _ _ hj, List.getElem?_modify_ne _ _ hj]

/-- A change further down is one of the group above. -/
lemma modify_append (path' : Path) :
    t.modify f (path ++ path') = t.modify (modify f path') path := by
  induction path generalizing t with
  | nil => rfl
  | cons i path ih =>
    obtain ⟨type, vxid, records, children⟩ := t
    simp only [List.cons_append, modify, mk.injEq, true_and]
    congr 1
    funext t
    exact ih

/-- The group further down is found below the group above. -/
lemma get?_append (path' : Path) : t.get? (path ++ path') = (t.get? path).bind (get? path') := by
  induction path generalizing t with
  | nil => rfl
  | cons i path ih =>
    obtain ⟨type, vxid, records, children⟩ := t
    simp only [List.cons_append, get?, Option.bind_assoc]
    congr 1
    funext t
    exact ih

end Modify

section Child

variable {path : Path} {t node : Tx} (tx : Tx)

/-- A new child is found behind its siblings. -/
lemma get?_addChildren (h : t.get? path = some node) :
    (t.modify (addChildren [tx]) path).get? (path ++ [node.children.length]) = some tx := by
  rw [get?_append, get?_modify h]
  obtain ⟨type, vxid, records, children⟩ := node
  simp [addChildren, get?, Tx.children]

/-- A change of a new child is a change of what was added. -/
lemma modify_addChildren (f : Tx → Tx) (h : t.get? path = some node) :
    (t.modify (addChildren [tx]) path).modify f (path ++ [node.children.length]) =
      t.modify (addChildren [f tx]) path := by
  rw [modify_append, modify_modify]
  apply modify_congr h
  obtain ⟨type, vxid, records, children⟩ := node
  have hlast : (children ++ [tx]).modify children.length (modify f []) = children ++ [f tx] := by
    apply List.ext_getElem?
    intro j
    rcases lt_trichotomy j children.length with hj | rfl | hj
    · rw [List.getElem?_modify_ne _ _ (by omega), List.getElem?_append_left hj,
        List.getElem?_append_left hj]
    · rw [List.getElem?_modify_eq]
      simp [modify]
    · rw [List.getElem?_modify_ne _ _ (by omega), List.getElem?_eq_none (by simp; omega),
        List.getElem?_eq_none (by simp; omega)]
  exact congrArg (mk type vxid records) hlast

end Child

section Add

variable {path : Path} {t : Tx}

/-- A change that changes nothing. -/
lemma modify_id (t : Tx) (path : Path) : t.modify id path = t := by
  induction path generalizing t with
  | nil => rfl
  | cons i path ih =>
    obtain ⟨type, vxid, records, children⟩ := t
    have hid : modify id path = id := funext ih
    simp [modify, hid]

/-- Adding no records changes nothing. -/
lemma modify_addRecords_nil : t.modify (addRecords []) path = t := by
  have hid : addRecords [] = id := by
    funext t
    cases t
    simp [addRecords]
  rw [hid, modify_id]

/-- Adding no groups changes nothing. -/
lemma modify_addChildren_nil : t.modify (addChildren []) path = t := by
  have hid : addChildren [] = id := by
    funext t
    cases t
    simp [addChildren]
  rw [hid, modify_id]

/-- Records are added one after the other. -/
lemma addRecords_comp (r : Record) (rs : List Record) :
    addRecords rs ∘ addRecords [r] = addRecords (r :: rs) := by
  funext t
  cases t
  simp [addRecords]

/-- Groups are added one after the other. -/
lemma addChildren_comp (tx : Tx) (txs : List Tx) :
    addChildren txs ∘ addChildren [tx] = addChildren (tx :: txs) := by
  funext t
  cases t
  simp [addChildren]

end Add

end Tx

/-! ## The lines of a group -/

/-- The loop goes over the lines from `g` to `g'` and has no group to return. -/
def Quiet (ls : List Text) (g g' : Groups) : Prop :=
  ∀ tooLong rest, scan tooLong (ls ++ rest) g = scan tooLong rest g'

section Quiet

variable {g g' g'' : Groups}

/-- No lines change nothing. -/
lemma Quiet.nil : Quiet [] g g := fun _ _ => rfl

/-- Lines that complete no group, and more of them. -/
lemma Quiet.append {ls ls' : List Text} (h : Quiet ls g g') (h' : Quiet ls' g' g'') :
    Quiet (ls ++ ls') g g'' := by
  intro tooLong rest
  rw [List.append_assoc, h, h']

/-- One line that completes no group. -/
lemma quiet_singleton {line : Text} (h : g.lineStep line = (none, g')) : Quiet [line] g g' := by
  intro tooLong rest
  simp [scan, h]

/-- A line that completes no group, and more of them. -/
lemma Quiet.cons {line : Text} {ls : List Text} (h : g.lineStep line = (none, g'))
    (h' : Quiet ls g' g'') : Quiet (line :: ls) g g'' :=
  (quiet_singleton h).append h'

end Quiet

/-- The levels above agree, so do their groups. -/
lemma getElem?_of_take_eq {ps qs : List Path} {level : ℕ} {path : Path} (hlevel : 0 < level)
    (hpath : ps[level - 1]? = some path) (htake : qs.take level = ps.take level) :
    qs[level - 1]? = some path := by
  rw [← List.getElem?_take_of_lt (show level - 1 < level by omega), htake,
    List.getElem?_take_of_lt (by omega), hpath]

section Lines

variable (y : Layout) {level : ℕ} {ps : List Path} {path : Path} {t : Tx}

/-- Records are appended to the group of their level. -/
lemma quiet_records (hlevel : 0 < level) {records : List Record}
    (hrecords : ∀ r ∈ records, r.Printable) (hpath : ps[level - 1]? = some path) :
    Quiet (records.map (recordLine y level)) ⟨some t, ps⟩
      ⟨some (t.modify (Tx.addRecords records) path), ps⟩ := by
  induction records generalizing t with
  | nil =>
    rw [Tx.modify_addRecords_nil]
    exact Quiet.nil
  | cons r records ih =>
    have hline : Groups.lineStep ⟨some t, ps⟩ (recordLine y level r) =
        (none, ⟨some (t.modify (Tx.addRecords [r]) path), ps⟩) := by
      rw [Groups.lineStep, readLine_recordLine y hlevel (hrecords r List.mem_cons_self)]
      simp only [Groups.addRecord, hpath]
      rfl
    have hrest := ih (t := t.modify (Tx.addRecords [r]) path)
      fun r' hr' => hrecords r' (List.mem_cons_of_mem r hr')
    rw [Tx.modify_modify, Tx.addRecords_comp] at hrest
    exact Quiet.cons hline hrest

/-- The lines of the group, read when the group at a level is known, append it there and leave the
levels up to that one as they are. -/
def Appends (tx : Tx) : Prop :=
  ∀ {level : ℕ} {ps : List Path} {path : Path} {t node : Tx}, 0 < level →
    ps[level - 1]? = some path → t.get? path = some node →
    ∃ qs, Quiet (tx.lines y (level + 1)) ⟨some t, ps⟩
      ⟨some (t.modify (Tx.addChildren [tx]) path), qs⟩ ∧ qs.take level = ps.take level

variable {node : Tx}

/-- The lines of a list of groups add them to the open group. -/
lemma quiet_forest (hlevel : 0 < level) {txs : List Tx} (htxs : ∀ tx ∈ txs, Appends y tx)
    (hpath : ps[level - 1]? = some path) (hnode : t.get? path = some node) :
    ∃ qs, Quiet (forestLines y (level + 1) txs) ⟨some t, ps⟩
      ⟨some (t.modify (Tx.addChildren txs) path), qs⟩ ∧ qs.take level = ps.take level := by
  induction txs generalizing t ps node with
  | nil =>
    rw [Tx.modify_addChildren_nil]
    exact ⟨ps, Quiet.nil, rfl⟩
  | cons tx txs ih =>
    obtain ⟨qs, hquiet, htake⟩ := htxs tx List.mem_cons_self hlevel hpath hnode
    obtain ⟨qs', hquiet', htake'⟩ := ih (fun tx' htx' => htxs tx' (List.mem_cons_of_mem tx htx'))
      (getElem?_of_take_eq hlevel hpath htake) (Tx.get?_modify hnode)
    rw [Tx.modify_modify, Tx.addChildren_comp] at hquiet'
    refine ⟨qs', ?_, htake'.trans htake⟩
    rw [forestLines]
    exact hquiet.append hquiet'

/-- The lines below a header. -/
lemma quiet_body (hlevel : 0 < level) {records : List Record} {txs : List Tx}
    (hrecords : ∀ r ∈ records, r.Printable) (htxs : ∀ tx ∈ txs, Appends y tx)
    (hpath : ps[level - 1]? = some path) (hnode : t.get? path = some node) :
    ∃ qs, Quiet (records.map (recordLine y level) ++ forestLines y (level + 1) txs) ⟨some t, ps⟩
      ⟨some (t.modify (Tx.addChildren txs ∘ Tx.addRecords records) path), qs⟩ ∧
        qs.take level = ps.take level := by
  obtain ⟨qs, hquiet, htake⟩ := quiet_forest y hlevel htxs hpath
    (Tx.get?_modify (f := Tx.addRecords records) hnode)
  rw [Tx.modify_modify] at hquiet
  exact ⟨qs, (quiet_records y hlevel hrecords hpath).append hquiet, htake⟩

/-- **The lines of a group append it to its parent.**

**Proof sketch.** By induction on the group. Its header appends an empty group to the parent and
makes it the last one of its level. The records go there, and so do the children, since each of
them leaves this level as it is. -/
theorem quiet_lines {tx : Tx} (h : tx.Printable) : Appends y tx := by
  induction h with
  | @mk type vxid records children hne htype hvxid hrecords _ ih =>
    intro level ps path t node hlevel hpath hnode
    have hlen : level ≤ ps.length := by
      have := (List.getElem?_eq_some_iff.1 hpath).1
      omega
    -- the header
    have hline : Groups.lineStep ⟨some t, ps⟩ (headerLine y (level + 1) type vxid) =
        (none, ⟨some (t.modify (Tx.addChildren [.mk type vxid [] []]) path),
          ps.take level ++ [path ++ [node.children.length]]⟩) := by
      have hpos : 0 < level + 1 := by omega
      rw [Groups.lineStep, readLine_headerLine y hpos hne htype hvxid]
      have hne1 : level + 1 ≠ 1 := by omega
      have hidx : level + 1 - 2 = level - 1 := by omega
      simp only [Groups.openGroup, if_neg hne1, hidx, hpath, Groups.modify, Groups.childPath,
        Option.map_some, Option.bind_some, hnode, Option.getD_some, Nat.add_sub_cancel]
    have hlast : (ps.take level ++ [path ++ [node.children.length]])[level + 1 - 1]? =
        some (path ++ [node.children.length]) := by
      have hlength : (ps.take level).length = level := by
        rw [List.length_take, Nat.min_eq_left hlen]
      rw [List.getElem?_append_right (by omega), hlength]
      simp
    obtain ⟨qs, hquiet, htake⟩ := quiet_body y (Nat.succ_pos level) hrecords ih hlast
      (Tx.get?_addChildren (.mk type vxid [] []) hnode)
    rw [Tx.modify_addChildren _ _ hnode] at hquiet
    refine ⟨qs, ?_, ?_⟩
    · rw [Tx.lines]
      exact Quiet.cons hline hquiet
    · have hshort := congrArg (List.take level) htake
      rw [List.take_take, List.take_take] at hshort
      simpa [hlen] using hshort

end Lines

/-! ## Calls of Next -/

namespace Parser

/-- Calls depend on the first one only. -/
lemma calls_congr {p q : Parser} (h : p.next = q.next) (n : ℕ) : p.calls n = q.calls n := by
  cases n with
  | zero => rfl
  | succ n => simp only [calls, h]

/-- After the end every call returns `io.EOF`. -/
lemma calls_eof {p : Parser} (h : p.eof = true) (n : ℕ) :
    p.calls n = List.replicate n (.error .eof) := by
  have hnext : p.next = (.error .eof, p) := if_pos h
  induction n with
  | zero => rfl
  | succ n ih =>
    rw [calls, hnext, List.replicate_succ]
    exact congrArg _ ih

/-- Quiet lines do not change what is returned. -/
lemma calls_quiet {ls : List Text} {g g' : Groups} (h : Quiet ls g g') (rest : List Text) (n : ℕ) :
    calls n ⟨ls ++ rest, false, g, false⟩ = calls n ⟨rest, false, g', false⟩ := by
  apply calls_congr
  exact h false rest

/-- A line that completes a group. -/
lemma calls_step {line : Text} {tx : Tx} {g g' : Groups} (h : g.lineStep line = (some tx, g'))
    (rest : List Text) (n : ℕ) :
    calls (n + 1) ⟨line :: rest, false, g, false⟩ =
      .ok tx :: calls n ⟨rest, false, g', false⟩ := by
  have hnext : next ⟨line :: rest, false, g, false⟩ = (.ok tx, ⟨rest, false, g', false⟩) := by
    simp [next, scan, h]
  rw [calls, hnext]

end Parser

section Calls

variable (y : Layout)

/-- The lines of a group at the top, but for its header, complete it. -/
lemma quiet_top {type : Text} {vxid : ℕ} {records : List Record} {children : List Tx}
    (h : (Tx.mk type vxid records children).Printable) :
    ∃ qs, Quiet (records.map (recordLine y 1) ++ forestLines y 2 children)
      ⟨some (.mk type vxid [] []), [[]]⟩ ⟨some (.mk type vxid records children), qs⟩ := by
  cases h with
  | mk _ _ _ hrecords hchildren =>
    have hpath : ([[]] : List Path)[1 - 1]? = some [] := rfl
    have hnode : (Tx.mk type vxid [] []).get? [] = some (.mk type vxid [] []) := rfl
    obtain ⟨qs, hquiet, -⟩ := quiet_body y Nat.one_pos hrecords
      (fun tx htx => quiet_lines y (hchildren tx htx)) hpath hnode
    exact ⟨qs, hquiet⟩

/-- A header at the top opens a group, and completes the one before. -/
lemma lineStep_top {tx : Tx} (h : tx.Printable) (g : Groups) :
    g.lineStep (headerLine y 1 tx.type tx.vxid) =
      (g.pending, ⟨some (.mk tx.type tx.vxid [] []), [[]]⟩) := by
  cases h with
  | mk hne htype hvxid _ _ =>
    simp only [Tx.type, Tx.vxid]
    rw [Groups.lineStep, readLine_headerLine y Nat.one_pos hne htype hvxid]
    rfl

/-- A blank line completes the open group. -/
lemma lineStep_blank (g : Groups) (tx : Tx) (hg : g.pending = some tx) :
    g.lineStep [] = (some tx, ⟨none, []⟩) := by
  have hread : readLine [] = .blank := rfl
  rw [Groups.lineStep, hread]
  simp only [hg]

/-- What is pending is returned at the end of the text, and then the end. -/
lemma calls_end (g : Groups) (n : ℕ) :
    Parser.calls (g.pending.toList.length + n) ⟨[], false, g, false⟩ =
      g.pending.toList.map .ok ++ List.replicate n (.error .eof) := by
  obtain ⟨pending, byLevel⟩ := g
  cases pending with
  | none =>
    cases n with
    | zero => rfl
    | succ n =>
      simp only [Option.toList_none, List.length_nil, Nat.zero_add, List.map_nil, List.nil_append,
        List.replicate_succ]
      exact congrArg _ (Parser.calls_eof rfl n)
  | some tx =>
    have hlen : [tx].length + n = n + 1 := by
      rw [List.length_singleton]
      omega
    simp only [Option.toList_some, hlen]
    exact congrArg _ (Parser.calls_eof rfl n)

/-- A group is returned once its lines are read: by the blank line after it, or with the lines that
follow, for which it is pending. -/
lemma calls_body {type : Text} {vxid : ℕ} {records : List Record} {children : List Tx}
    (htx : (Tx.mk type vxid records children).Printable) (blank : Bool) {rest : List Text} {m : ℕ}
    {outs : List (Except ReadError Tx)}
    (hrest : ∀ g : Groups, Parser.calls (g.pending.toList.length + m) ⟨rest, false, g, false⟩ =
      g.pending.toList.map .ok ++ outs) :
    Parser.calls (m + 1)
        ⟨(records.map (recordLine y 1) ++ forestLines y 2 children) ++
          ((if blank then [[]] else []) ++ rest), false,
          ⟨some (.mk type vxid [] []), [[]]⟩, false⟩ =
      .ok (.mk type vxid records children) :: outs := by
  obtain ⟨qs, hquiet⟩ := quiet_top y htx
  rw [Parser.calls_quiet hquiet]
  cases blank with
  | false =>
    rw [Nat.add_comm]
    exact hrest ⟨some (.mk type vxid records children), qs⟩
  | true =>
    have hafter := hrest ⟨none, []⟩
    simp only [Option.toList_none, List.length_nil, Nat.zero_add, List.map_nil,
      List.nil_append] at hafter
    rw [← hafter]
    exact Parser.calls_step (lineStep_blank _ _ rfl) _ _

/-- The header of a group returns what is pending. -/
lemma calls_header {tx : Tx} (htx : tx.Printable) (g : Groups) (rest : List Text) (m : ℕ) :
    Parser.calls (g.pending.toList.length + (m + 1))
        ⟨headerLine y 1 tx.type tx.vxid :: rest, false, g, false⟩ =
      g.pending.toList.map .ok ++
        Parser.calls (m + 1) ⟨rest, false, ⟨some (.mk tx.type tx.vxid [] []), [[]]⟩, false⟩ := by
  have hheader := lineStep_top y htx g
  obtain ⟨pending, byLevel⟩ := g
  cases pending with
  | none =>
    rw [Option.toList_none, List.length_nil, Nat.zero_add]
    exact Parser.calls_quiet (quiet_singleton hheader) _ _
  | some old =>
    rw [Option.toList_some, List.length_singleton, Nat.add_comm, Parser.calls_step hheader]
    rfl

/-- **The groups are returned in order, after the one that is pending, and then the end.**

**Proof sketch.** By induction on the list. The header of a group returns what is pending
(`calls_header`); the lines below it complete the group (`quiet_top`), which is then returned by a
blank line or is pending for the rest (`calls_body`). -/
theorem calls_allLines (txs : List (Tx × Bool)) (htxs : ∀ p ∈ txs, p.1.Printable) (g : Groups)
    (n : ℕ) :
    Parser.calls (g.pending.toList.length + (txs.length + n))
        ⟨allLines y txs, false, g, false⟩ =
      g.pending.toList.map .ok ++
        ((txs.map Prod.fst).map .ok ++ List.replicate n (.error .eof)) := by
  induction txs generalizing g with
  | nil =>
    rw [List.length_nil, Nat.zero_add]
    exact calls_end g n
  | cons p txs ih =>
    obtain ⟨⟨type, vxid, records, children⟩, blank⟩ := p
    have htx : (Tx.mk type vxid records children).Printable := htxs (_, blank) List.mem_cons_self
    have hbody := calls_body y htx blank (ih fun p hp => htxs p (List.mem_cons_of_mem _ hp))
    have hlines : allLines y ((.mk type vxid records children, blank) :: txs) =
        headerLine y 1 type vxid ::
          ((records.map (recordLine y 1) ++ forestLines y 2 children) ++
            ((if blank then [[]] else []) ++ allLines y txs)) := by
      simp [allLines, Tx.lines]
    have hcount : (txs.length + 1) + n = (txs.length + n) + 1 := by omega
    rw [hlines, List.length_cons, hcount]
    exact (calls_header y htx g _ _).trans (congrArg _ hbody)

end Calls

/-! ## From text to lines -/

/-- A text without line breaks. -/
def Unbroken (s : Text) : Prop := ∀ c ∈ s, c ≠ '\n' ∧ c ≠ '\r'

section Unbroken

/-- Two texts without line breaks. -/
lemma Unbroken.append {s t : Text} (hs : Unbroken s) (ht : Unbroken t) : Unbroken (s ++ t) := by
  intro c hc
  rcases List.mem_append.1 hc with hc | hc
  · exact hs c hc
  · exact ht c hc

/-- A text without white space has no line breaks. -/
lemma unbroken_of_nonSpace {s : Text} (h : ∀ c ∈ s, Patterns.space c = false) : Unbroken s := by
  intro c hc
  have hspace := h c hc
  constructor <;> rintro rfl <;> revert hspace <;> decide

/-- A gap has no line breaks. -/
lemma Gap.unbroken (gap : Gap) : Unbroken gap.text := by
  intro c hc
  have hblank : c = ' ' ∨ c = '\t' := by simpa using List.all_eq_true.1 gap.blank c hc
  rcases hblank with rfl | rfl <;> decide

/-- Marks have no line breaks. -/
lemma unbroken_replicate (level : ℕ) {c : Char} (h : Patterns.space c = false) :
    Unbroken (List.replicate level c) :=
  unbroken_of_nonSpace fun _ hd => (List.eq_of_mem_replicate hd).symm ▸ h

variable (y : Layout) {level : ℕ}

/-- A header has no line breaks. -/
lemma unbroken_headerLine {type : Text} (htype : ∀ c ∈ type, Patterns.word c = true) (vxid : ℕ) :
    Unbroken (headerLine y level type vxid) := by
  have hnumber : Unbroken (Text.decimal vxid) := unbroken_of_nonSpace fun c hc =>
    Patterns.space_of_word (Patterns.word_of_digit (Text.isDigit_of_mem_decimal hc))
  have htrail : Unbroken (((y.afterVxid level type vxid).map (·.text)).getD []) := by
    cases y.afterVxid level type vxid with
    | none => simp [Unbroken]
    | some gap => exact gap.unbroken
  refine (unbroken_replicate level (by decide)).append ((Gap.unbroken _).append ?_)
  refine (unbroken_of_nonSpace (Patterns.forall_nonSpace (by decide))).append ?_
  refine (Gap.unbroken _).append ?_
  refine (unbroken_of_nonSpace fun c hc => Patterns.space_of_word (htype c hc)).append ?_
  refine (Gap.unbroken _).append ?_
  refine (unbroken_of_nonSpace (Patterns.forall_nonSpace (by decide))).append ?_
  exact (Gap.unbroken _).append (hnumber.append htrail)

/-- A record's line has no line breaks. -/
lemma unbroken_recordLine {r : Record} (h : r.Printable) : Unbroken (recordLine y level r) := by
  have hpayload : Unbroken r.payload := fun c hc =>
    ⟨fun heq => h.payload.2 (heq ▸ hc), fun heq => h.payload.1 (heq ▸ hc)⟩
  refine (unbroken_replicate level (by decide)).append ((Gap.unbroken _).append ?_)
  exact (unbroken_of_nonSpace h.tag).append ((Gap.unbroken _).append hpayload)

/-- The lines of a list of groups are those of one after the other. -/
lemma forestLines_eq (txs : List Tx) :
    forestLines y level txs = txs.flatMap (Tx.lines y level) := by
  induction txs with
  | nil => rfl
  | cons tx txs ih => rw [forestLines, ih, List.flatMap_cons]

/-- The lines of a group have no line breaks. -/
lemma unbroken_lines {tx : Tx} (h : tx.Printable) : ∀ line ∈ tx.lines y level, Unbroken line := by
  induction h generalizing level with
  | mk _ htype _ hrecords _ ih =>
    intro line hline
    rw [Tx.lines, forestLines_eq] at hline
    rcases List.mem_cons.1 hline with rfl | hline
    · exact unbroken_headerLine y htype _
    rcases List.mem_append.1 hline with hline | hline
    · obtain ⟨r, hr, rfl⟩ := List.mem_map.1 hline
      exact unbroken_recordLine y (hrecords r hr)
    · obtain ⟨tx, htx, hline⟩ := List.mem_flatMap.1 hline
      exact ih tx htx line hline

/-- The lines of groups at the top have no line breaks. -/
lemma unbroken_allLines {txs : List (Tx × Bool)} (htxs : ∀ p ∈ txs, p.1.Printable) :
    ∀ line ∈ allLines y txs, Unbroken line := by
  intro line hline
  obtain ⟨⟨tx, blank⟩, hp, hline⟩ := List.mem_flatMap.1 hline
  rcases List.mem_append.1 hline with hline | hline
  · exact unbroken_lines y (htxs _ hp) line hline
  · have hempty : line = [] := by
      cases blank <;> simp at hline
      exact hline
    simp [Unbroken, hempty]

end Unbroken

/-- There is no carriage return to be dropped. -/
lemma dropCR_of_unbroken {line : Text} (h : Unbroken line) : dropCR line = line := by
  apply if_neg
  intro hlast
  exact (h '\r' (List.mem_of_getLast? hlast)).2 rfl

/-- Terminated lines are read as they are. -/
lemma rawLines_flatMap {ls : List Text} (h : ∀ line ∈ ls, '\n' ∉ line) :
    rawLines (ls.flatMap fun line => line ++ ['\n']) = ls := by
  simp only [rawLines, Words.readLines, Words.splitOn_flatMap '\n' h]
  simp

/-- Lines without breaks that are not too long are what the parser reads. -/
lemma newParser_flatMap {ls : List Text} (h : ∀ line ∈ ls, Unbroken line)
    (hsize : ∀ line ∈ ls, lineSize line < maxTokenSize) :
    newParser (ls.flatMap fun line => line ++ ['\n']) = ⟨ls, false, ⟨none, []⟩, false⟩ := by
  have hraw := rawLines_flatMap fun line hline hmem => (h line hline '\n' hmem).1 rfl
  have htake : (ls.takeWhile fun l => lineSize l < maxTokenSize) = ls :=
    List.takeWhile_eq_self_iff.2 fun l hl => decide_eq_true (hsize l hl)
  have hdrop : ls.map dropCR = ls :=
    (List.map_congr_left fun l hl => dropCR_of_unbroken (h l hl)).trans (List.map_id ls)
  have hall : (ls.all fun l => lineSize l < maxTokenSize) = true :=
    List.all_eq_true.2 fun l hl => decide_eq_true (hsize l hl)
  rw [newParser, hraw, htake, hdrop, hall]
  rfl

/-- **Parsing undoes printing.** Groups of any depth are printed with one star for each level of a
group and one dash for each level of a record, in any layout, with a blank line or nothing behind
each group at the top. Calls of `Next` return these groups in order, and then the end of the input.

**Proof sketch.** The printed lines hold no breaks, so the parser reads them as they are
(`newParser_flatMap`); the rest is `calls_allLines` with nothing pending. -/
theorem calls_print (y : Layout) (txs : List (Tx × Bool)) (htxs : ∀ p ∈ txs, p.1.Printable)
    (hsize : ∀ line ∈ allLines y txs, lineSize line < maxTokenSize) (n : ℕ) :
    (newParser (print y txs)).calls (txs.length + n) =
      (txs.map fun p => .ok p.1) ++ List.replicate n (.error .eof) := by
  rw [print, newParser_flatMap (unbroken_allLines y htxs) hsize]
  have hcalls := calls_allLines y txs htxs ⟨none, []⟩ n
  simpa [Function.comp_def] using hcalls

/-! ## A miss and its restart -/

/-- One blank between two fields. -/
def singleBlanks : Layout where
  afterStars _ _ _ := ⟨" ", by decide, by decide⟩
  afterOpen _ _ _ := ⟨" ", by decide, by decide⟩
  afterType _ _ _ := ⟨" ", by decide, by decide⟩
  afterClose _ _ _ := ⟨" ", by decide, by decide⟩
  afterVxid _ _ _ := none
  afterDashes _ _ := ⟨" ", by decide, by decide⟩
  afterTag _ _ := ⟨" ", by decide, by decide⟩

/-- A request with two fetches, the first of which was retried, and its restart right behind it. -/
def missAndRestart : List (Tx × Bool) :=
  [(.mk "Request" 2 [⟨"Begin", "req 1 rxreq"⟩]
      [.mk "BeReq" 3 [⟨"Begin", "bereq 2 fetch"⟩] [.mk "BeReq" 4 [⟨"End", []⟩] []],
        .mk "BeReq" 5 [] []], false),
    (.mk "Request" 6 [⟨"Begin", "req 2 restart"⟩] [], true)]

/-- A request that missed and one that was restarted are read back. -/
theorem calls_print_missAndRestart :
    (newParser (print singleBlanks missAndRestart)).calls (missAndRestart.length + 1) =
      (missAndRestart.map fun p => .ok p.1) ++ List.replicate 1 (.error .eof) :=
  calls_print singleBlanks missAndRestart (by decide +kernel) (by decide +kernel) 1

end CloudVinyl.Vsl
