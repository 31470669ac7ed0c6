import CloudVinyl.Tracer.Parser

set_option relaxedAutoImplicit false
set_option autoImplicit false

/-!
# Resynchronisation of the parser

What `Parser.Next` makes of any text. A blank line returns the pending group and empties the table,
so that nothing before it reaches what follows; this rests on the invariant that the table is empty
just when no group is pending. The accesses of the table are modelled once more as Go checks them,
with the panic as a result, and no line leads to one.

A line as long as the buffer ends the scan, so the first result is about texts whose lines up to
the blank one are shorter.

## Main definitions

* `Vsl.Tx.size` — the number of groups and records of a group.
* `Vsl.Parser.parsed` — the groups that calls of `Next` return; `Vsl.parsed` — those of a text.
* `Vsl.Groups.run` — the groups that a list of lines completes.
* `Vsl.Groups.Paired` — the table is empty just when nothing is pending.
* `Vsl.Parser.nextChecked` — `Next` with the accesses of the table checked.

## Main results

* `Vsl.Groups.size_run_le` — each line adds a group or a record at most.
* `Vsl.calls_parsed` — calls of `Next` return the parsed groups, and then errors only.
* `Vsl.Groups.run_blank` — a blank line cuts the lines in two.
* `Vsl.parsed_unlines_blank` — the same of texts; no access of the table is out of range.
-/

namespace CloudVinyl.Vsl

/-! ## The size of a group -/

mutual

/-- The number of groups and records of a group. -/
def Tx.size : Tx → ℕ
  | .mk _ _ records children => records.length + forestSize children + 1

/-- The number of groups and records in a list of groups. -/
def forestSize : List Tx → ℕ
  | [] => 0
  | t :: ts => t.size + forestSize ts

end

/-- The size of two lists. -/
lemma forestSize_append (txs txs' : List Tx) :
    forestSize (txs ++ txs') = forestSize txs + forestSize txs' := by
  induction txs with
  | nil => simp [forestSize]
  | cons tx txs ih => rw [List.cons_append, forestSize, forestSize, ih, Nat.add_assoc]

/-- Every group counts. -/
lemma length_le_forestSize (txs : List Tx) : txs.length ≤ forestSize txs := by
  induction txs with
  | nil => simp
  | cons tx txs ih =>
    obtain ⟨type, vxid, records, children⟩ := tx
    rw [forestSize, Tx.size, List.length_cons]
    omega

/-- A record counts. -/
lemma Tx.size_addRecords (r : Record) (tx : Tx) : (tx.addRecords [r]).size = tx.size + 1 := by
  obtain ⟨type, vxid, records, children⟩ := tx
  simp only [addRecords, size, List.length_append, List.length_singleton]
  omega

/-- A group counts. -/
lemma Tx.size_addChildren (type : Text) (vxid : ℕ) (tx : Tx) :
    (tx.addChildren [.mk type vxid [] []]).size = tx.size + 1 := by
  obtain ⟨type, vxid, records, children⟩ := tx
  simp only [addChildren, size, forestSize_append, forestSize, List.length_nil]
  omega

/-- A change that adds one thing to a group adds one thing to the list. -/
lemma forestSize_modify_le {f : Tx → Tx} (hf : ∀ tx, (f tx).size ≤ tx.size + 1) (txs : List Tx)
    (i : ℕ) : forestSize (txs.modify i f) ≤ forestSize txs + 1 := by
  induction txs generalizing i with
  | nil => simp [forestSize]
  | cons tx txs ih =>
    cases i with
    | zero =>
      have hfirst := hf tx
      simp only [List.modify_zero_cons, forestSize]
      omega
    | succ i =>
      have hrest := ih i
      simp only [List.modify_succ_cons, forestSize]
      omega

/-- A change that adds one thing to a group adds one thing to the groups above it. -/
lemma Tx.size_modify_le {f : Tx → Tx} (hf : ∀ tx, (f tx).size ≤ tx.size + 1) (path : Path)
    (tx : Tx) : (tx.modify f path).size ≤ tx.size + 1 := by
  induction path generalizing tx with
  | nil => exact hf tx
  | cons i path ih =>
    obtain ⟨type, vxid, records, children⟩ := tx
    have hchildren := forestSize_modify_le ih children i
    simp only [modify, size]
    omega

/-- A line that is not empty. -/
def filled (line : Text) : Bool := !line.isEmpty

/-! ## The groups of a list of lines -/

namespace Groups

/-- The groups that are complete after the lines. -/
def run : List Text → Groups → List Tx
  | [], g => g.pending.toList
  | line :: lines, g => (g.lineStep line).1.toList ++ run lines (g.lineStep line).2

/-- A run takes a line, and goes on. -/
lemma lineStep_eq (g : Groups) {line : Text} {out : Option Tx} {g' : Groups}
    (h : g.lineStep line = (out, g')) (lines : List Text) :
    run (line :: lines) g = out.toList ++ run lines g' := by
  rw [run, h]

/-- A change of the open group adds one thing. -/
lemma size_modify_le (g : Groups) {f : Tx → Tx} (hf : ∀ tx, (f tx).size = tx.size + 1)
    (path : Path) :
    forestSize (g.modify f path).toList ≤ forestSize g.pending.toList + 1 := by
  cases h : g.pending with
  | none => simp [modify, h, forestSize]
  | some tx =>
    have hsize := tx.size_modify_le (fun tx => (hf tx).le) path
    simpa [modify, h, forestSize] using hsize

/-- A line adds a group or a record at most, and an empty line nothing. -/
lemma size_lineStep_le (g : Groups) (line : Text) :
    forestSize (g.lineStep line).1.toList + forestSize (g.lineStep line).2.pending.toList ≤
      forestSize g.pending.toList + if filled line = true then 1 else 0 := by
  cases line with
  | nil =>
    rw [lineStep, show readLine [] = .blank from rfl]
    cases h : g.pending <;> simp [h, forestSize]
  | cons c line =>
    rw [if_pos (by rfl)]
    unfold lineStep
    split
    · split
      · next h => simp [h, forestSize]
      · simp [forestSize]
    · next level type vxid _ =>
      unfold openGroup
      split
      · simp [forestSize, Tx.size]
      · split
        · next parent _ =>
          simpa [forestSize] using g.size_modify_le (Tx.size_addChildren type vxid) parent
        · simp [forestSize]
    · next level r _ =>
      unfold addRecord
      split
      · next path _ => simpa [forestSize] using g.size_modify_le (Tx.size_addRecords r) path
      · simp [forestSize]
    · simp [forestSize]

/-- What is complete after the lines has no more groups and records than there are lines. -/
lemma size_run_le (lines : List Text) (g : Groups) :
    forestSize (run lines g) ≤ forestSize g.pending.toList + lines.countP filled := by
  induction lines generalizing g with
  | nil => simp [run]
  | cons line lines ih =>
    have hstep := g.size_lineStep_le line
    have hrest := ih (g.lineStep line).2
    rw [run, forestSize_append, List.countP_cons]
    omega

/-- Nor are there more groups. -/
lemma length_run_le (lines : List Text) : (run lines ⟨none, []⟩).length ≤ lines.length :=
  calc (run lines ⟨none, []⟩).length ≤ forestSize (run lines ⟨none, []⟩) := length_le_forestSize _
    _ ≤ forestSize [] + lines.countP filled := size_run_le lines ⟨none, []⟩
    _ ≤ lines.length := by
      rw [forestSize, Nat.zero_add]
      exact List.countP_le_length

end Groups

namespace Parser

/-- The results of enough calls of `Next` that are groups: each call reads a line or is at the end
of the input. -/
def parsed (p : Parser) : List Tx := (p.calls (p.lines.length + 1)).filterMap Except.toOption

/-- Calls that find no group. -/
def Fails (outs : List (Except ReadError Tx)) : Prop := ∀ out ∈ outs, out.toOption = none

/-- Calls that all fail return no groups. -/
lemma fails_replicate (n : ℕ) (e : ReadError) :
    Fails (List.replicate n (.error e)) := by
  intro out hout
  rw [List.eq_of_mem_replicate hout]
  rfl

/-- The groups among results are known from where the errors begin. -/
lemma filterMap_toOption (txs : List Tx) {errs : List (Except ReadError Tx)} (h : Fails errs) :
    (txs.map Except.ok ++ errs).filterMap Except.toOption = txs := by
  have hnone : errs.filterMap Except.toOption = [] := List.filterMap_eq_nil_iff.2 h
  rw [List.filterMap_append, hnone, List.append_nil, List.filterMap_map]
  exact List.filterMap_some

/-- After the last line, what is pending is returned, and then there are errors. -/
lemma calls_nil (tooLong : Bool) (g : Groups) (n : ℕ) :
    ∃ errs, Fails errs ∧
      calls (g.pending.toList.length + n) ⟨[], tooLong, g, false⟩ =
        g.pending.toList.map .ok ++ errs := by
  obtain ⟨pending, byLevel⟩ := g
  cases pending with
  | none =>
    cases n with
    | zero => exact ⟨[], by simp [Fails], rfl⟩
    | succ n =>
      refine ⟨.error (if tooLong then .tooLong else .eof) :: List.replicate n (.error .eof), ?_, ?_⟩
      · intro out hout
        rcases List.mem_cons.1 hout with rfl | hout
        · rfl
        · exact fails_replicate n .eof out hout
      · simp only [Option.toList_none, List.length_nil, Nat.zero_add, List.map_nil,
          List.nil_append]
        exact congrArg _ (calls_eof rfl n)
  | some tx =>
    have hlen : [tx].length + n = n + 1 := Nat.add_comm 1 n
    refine ⟨List.replicate n (.error .eof), fails_replicate n .eof, ?_⟩
    simp only [Option.toList_some, hlen]
    exact congrArg _ (calls_eof rfl n)

/-- A line that completes no group is read by the same call as the next one. -/
lemma calls_cons {line : Text} {out : Option Tx} {g g' : Groups}
    (h : g.lineStep line = (out, g')) (tooLong : Bool) (lines : List Text) (n : ℕ) :
    calls (out.toList.length + n) ⟨line :: lines, tooLong, g, false⟩ =
      out.toList.map .ok ++ calls n ⟨lines, tooLong, g', false⟩ := by
  cases out with
  | none =>
    have hnext : next ⟨line :: lines, tooLong, g, false⟩ = next ⟨lines, tooLong, g', false⟩ := by
      simp [next, scan, h]
    rw [Option.toList_none, List.length_nil, Nat.zero_add]
    exact calls_congr hnext n
  | some tx =>
    have hnext : next ⟨line :: lines, tooLong, g, false⟩ =
        (.ok tx, ⟨lines, tooLong, g', false⟩) := by
      simp [next, scan, h]
    rw [Option.toList_some, List.length_singleton, Nat.add_comm, calls, hnext]
    rfl

/-- **Calls of `Next` return the groups of the lines, and then errors only.** -/
theorem calls_run (tooLong : Bool) (lines : List Text) (g : Groups) (n : ℕ) :
    ∃ errs, Fails errs ∧
      calls ((Groups.run lines g).length + n) ⟨lines, tooLong, g, false⟩ =
        (Groups.run lines g).map .ok ++ errs := by
  induction lines generalizing g with
  | nil => exact calls_nil tooLong g n
  | cons line lines ih =>
    obtain ⟨errs, herrs, hcalls⟩ := ih (g.lineStep line).2
    have hline := calls_cons (Prod.eta (g.lineStep line)).symm tooLong lines
      ((Groups.run lines (g.lineStep line).2).length + n)
    refine ⟨errs, herrs, ?_⟩
    rw [Groups.run, List.length_append, Nat.add_assoc, hline, hcalls, List.map_append,
      List.append_assoc]

/-- The parsed groups are those that the lines complete. -/
theorem parsed_eq_run (tooLong : Bool) (lines : List Text) :
    parsed ⟨lines, tooLong, ⟨none, []⟩, false⟩ = Groups.run lines ⟨none, []⟩ := by
  have hle := Groups.length_run_le lines
  obtain ⟨errs, herrs, hcalls⟩ := calls_run tooLong lines ⟨none, []⟩
    (lines.length + 1 - (Groups.run lines ⟨none, []⟩).length)
  have hcount : (Groups.run lines ⟨none, []⟩).length +
      (lines.length + 1 - (Groups.run lines ⟨none, []⟩).length) = lines.length + 1 := by omega
  rw [hcount] at hcalls
  rw [parsed, hcalls, filterMap_toOption _ herrs]

end Parser

/-- The groups parsed from a text. -/
def parsed (text : Text) : List Tx := (newParser text).parsed

/-- What is parsed is what a run over the lines completes. -/
lemma parsed_eq (text : Text) : parsed text = Groups.run (newParser text).lines ⟨none, []⟩ :=
  Parser.parsed_eq_run _ _

/-- **Calls of `Next` on a text.** First the groups parsed from it are returned, in order; every
further call fails. -/
theorem calls_parsed (text : Text) (n : ℕ) :
    ∃ errs, Parser.Fails errs ∧
      (newParser text).calls ((parsed text).length + n) = (parsed text).map .ok ++ errs := by
  rw [parsed_eq]
  exact Parser.calls_run _ _ _ n

/-! ## The table is empty just when nothing is pending -/

namespace Groups

/-- The table has a level just when a group is pending. -/
def Paired (g : Groups) : Prop := g.pending = none ↔ g.byLevel = []

/-- Before the first line there is no group and no path. -/
lemma paired_empty : Paired ⟨none, []⟩ := by
  simp [Paired]

/-- A change opens no group and completes none. -/
lemma modify_eq_none_iff (g : Groups) (f : Tx → Tx) (path : Path) :
    g.modify f path = none ↔ g.pending = none := by
  simp [modify]

/-- A level of the table that is found is there. -/
lemma Paired.pending_ne_none {g : Groups} (hg : g.Paired) {i : ℕ} {path : Path}
    (h : g.byLevel[i]? = some path) : g.pending ≠ none := by
  intro hnone
  rw [hg.1 hnone] at h
  simp at h

/-- Opening a group keeps groups and paths in step. -/
lemma Paired.openGroup {g : Groups} (hg : g.Paired) (level : ℕ) (tx : Tx) :
    (g.openGroup level tx).2.Paired := by
  unfold Groups.openGroup
  split
  · simp [Paired]
  · split
    · next parent hparent => simp [Paired, modify_eq_none_iff, hg.pending_ne_none hparent]
    · exact hg

/-- A record keeps groups and paths in step. -/
lemma Paired.addRecord {g : Groups} (hg : g.Paired) (level : ℕ) (r : Record) :
    (g.addRecord level r).Paired := by
  unfold Groups.addRecord
  split
  · exact (g.modify_eq_none_iff _ _).trans hg
  · exact hg

/-- **The invariant of the table is kept by every line.** -/
theorem Paired.lineStep {g : Groups} (hg : g.Paired) (line : Text) :
    (g.lineStep line).2.Paired := by
  unfold Groups.lineStep
  split
  · split
    · exact paired_empty
    · exact hg
  · exact hg.openGroup _ _
  · exact hg.addRecord _ _
  · exact hg

/-! ## A blank line -/

/-- A blank line returns what is pending and leaves nothing behind. -/
lemma lineStep_of_blank {g : Groups} (hg : g.Paired) {blank : Text}
    (hblank : Text.trimSpace blank = []) : g.lineStep blank = (g.pending, ⟨none, []⟩) := by
  have hread : readLine blank = .blank := if_pos hblank
  obtain ⟨pending, byLevel⟩ := g
  cases pending with
  | none =>
    have hnil : byLevel = [] := hg.1 rfl
    rw [Groups.lineStep, hread, hnil]
  | some tx => rw [Groups.lineStep, hread]

/-- **A blank line cuts the lines in two.** What follows it is read as if nothing had been before.

**Proof sketch.** By induction on the lines before it, along the invariant of the table: at the
blank line the pending group is all that is left of them. -/
theorem run_blank {g : Groups} (hg : g.Paired) {blank : Text} (hblank : Text.trimSpace blank = [])
    (a b : List Text) : run (a ++ blank :: b) g = run a g ++ run b ⟨none, []⟩ := by
  induction a generalizing g with
  | nil => exact lineStep_eq g (lineStep_of_blank hg hblank) b
  | cons line a ih =>
    rw [List.cons_append, run, run, ih (hg.lineStep line), List.append_assoc]

end Groups

/-! ## The table is accessed in range -/

section Checked

variable {α : Type}

/-- Indexing of a slice, `s[i]`; there is no result where Go panics. -/
def sliceIndex (s : List α) (i : ℤ) : Option α := if 0 ≤ i then s[i.toNat]? else none

/-- The part `s[:high]` of a slice. -/
def sliceTo (s : List α) (high : ℤ) : Option (List α) :=
  if 0 ≤ high ∧ high ≤ s.length then some (s.take high.toNat) else none

/-- An index within the slice does not panic. -/
lemma sliceIndex_of_lt {s : List α} {i : ℕ} (h : i < s.length) :
    sliceIndex s i = some (s.get ⟨i, h⟩) := by
  rw [sliceIndex, if_pos (Int.natCast_nonneg i), Int.toNat_natCast, List.getElem?_eq_getElem h]
  rfl

/-- A bound within the slice does not panic. -/
lemma sliceTo_of_le {s : List α} {high : ℕ} (h : high ≤ s.length) :
    sliceTo s high = some (s.take high) := by
  rw [sliceTo, if_pos ⟨Int.natCast_nonneg high, Int.ofNat_le.2 h⟩, Int.toNat_natCast]

end Checked

namespace Groups

variable (g : Groups)

/-- `openGroup`, with every access of the table as the source writes it. -/
def openGroupChecked (level : ℕ) (tx : Tx) : Option (Option Tx × Groups) :=
  if level = 1 then some (g.pending, ⟨some tx, [[]]⟩)
  else if (level : ℤ) - 2 < g.byLevel.length then do
    let parent ← sliceIndex g.byLevel (level - 2)
    let above ← sliceTo g.byLevel (level - 1)
    return (none, ⟨g.modify (Tx.addChildren [tx]) parent, above ++ [g.childPath parent]⟩)
  else some (none, g)

/-- `addRecord`, with the access of the table as the source writes it. -/
def addRecordChecked (level : ℕ) (r : Record) : Option Groups :=
  if (level : ℤ) - 1 < g.byLevel.length then do
    let path ← sliceIndex g.byLevel (level - 1)
    return { g with pending := g.modify (Tx.addRecords [r]) path }
  else some g

/-- `lineStep`, with every access of the table checked. -/
def lineStepChecked (line : Text) : Option (Option Tx × Groups) :=
  match readLine line with
  | .blank =>
    match g.pending with
    | some tx => some (some tx, ⟨none, []⟩)
    | none => some (none, g)
  | .group level type vxid => g.openGroupChecked level (.mk type vxid [] [])
  | .record level r => (g.addRecordChecked level r).map fun g' => (none, g')
  | .other => some (none, g)

/-- Opening a group never panics. -/
lemma openGroupChecked_eq {level : ℕ} (hlevel : 0 < level) (tx : Tx) :
    g.openGroupChecked level tx = some (g.openGroup level tx) := by
  rcases Nat.lt_or_ge level 2 with h2 | h2
  · obtain rfl : level = 1 := by omega
    rfl
  have hne : level ≠ 1 := by omega
  have hindex : (level : ℤ) - 2 = ((level - 2 : ℕ) : ℤ) := by omega
  have hhigh : (level : ℤ) - 1 = ((level - 1 : ℕ) : ℤ) := by omega
  rw [openGroupChecked, openGroup, if_neg hne, if_neg hne, hindex, hhigh]
  by_cases hlt : level - 2 < g.byLevel.length
  · have hle : level - 1 ≤ g.byLevel.length := by omega
    rw [if_pos (Int.ofNat_lt.2 hlt), sliceIndex_of_lt hlt, sliceTo_of_le hle,
      List.getElem?_eq_getElem hlt]
    rfl
  · rw [if_neg (fun h => hlt (Int.ofNat_lt.1 h)), List.getElem?_eq_none (by omega)]

/-- Adding a record never panics. -/
lemma addRecordChecked_eq {level : ℕ} (hlevel : 0 < level) (r : Record) :
    g.addRecordChecked level r = some (g.addRecord level r) := by
  have hindex : (level : ℤ) - 1 = ((level - 1 : ℕ) : ℤ) := by omega
  rw [addRecordChecked, addRecord, hindex]
  by_cases hlt : level - 1 < g.byLevel.length
  · rw [if_pos (Int.ofNat_lt.2 hlt), sliceIndex_of_lt hlt, List.getElem?_eq_getElem hlt]
    rfl
  · rw [if_neg (fun h => hlt (Int.ofNat_lt.1 h)), List.getElem?_eq_none (by omega)]

end Groups

/-- A run of a class that matches is not empty. -/
lemma ne_nil_of_submatch_plus {p : Char → Bool} {ps : List (Patterns.Piece Char)} {s w : Text}
    {ws : List Text} (h : Patterns.submatch (.plus p :: ps) s = some (w :: ws)) : w ≠ [] := by
  rw [Patterns.submatch] at h
  split at h
  · cases h
  · next hne =>
    obtain ⟨_, _, heq⟩ := Option.map_eq_some_iff.1 h
    obtain ⟨rfl, -⟩ := List.cons.inj heq
    exact hne

/-- The levels of headers and of records are positive. -/
lemma readLine_level_pos {line : Text} :
    (∀ level type vxid, readLine line = .group level type vxid → 0 < level) ∧
      ∀ level r, readLine line = .record level r → 0 < level := by
  unfold readLine
  split
  · simp
  split
  · next stars _ _ _ _ _ _ _ _ _ hmatch =>
    refine ⟨fun level type vxid h => ?_, by simp⟩
    obtain ⟨rfl, -, -⟩ := Line.group.inj h
    exact List.length_pos_iff.2 (ne_nil_of_submatch_plus hmatch)
  split
  · next dashes _ _ _ _ hmatch =>
    refine ⟨by simp, fun level r h => ?_⟩
    obtain ⟨rfl, -⟩ := Line.record.inj h
    exact List.length_pos_iff.2 (ne_nil_of_submatch_plus hmatch)
  · simp

/-- **No line accesses the table out of range**, whatever the table holds. -/
theorem Groups.lineStepChecked_eq (g : Groups) (line : Text) :
    g.lineStepChecked line = some (g.lineStep line) := by
  obtain ⟨hgroup, hrecord⟩ := @readLine_level_pos line
  rw [Groups.lineStepChecked, Groups.lineStep]
  cases hread : readLine line with
  | blank => cases g.pending <;> rfl
  | group level type vxid => exact g.openGroupChecked_eq (hgroup _ _ _ hread) _
  | record level r =>
    simp only [g.addRecordChecked_eq (hrecord _ _ hread)]
    rfl
  | other => rfl

/-- `scan`, with every access of the table checked. -/
def scanChecked (tooLong : Bool) :
    List Text → Groups → Option (Except ReadError Tx × Parser)
  | [], g => some (scan tooLong [] g)
  | line :: lines, g =>
    match g.lineStepChecked line with
    | none => none
    | some (some tx, g') => some (.ok tx, ⟨lines, tooLong, g', false⟩)
    | some (none, g') => scanChecked tooLong lines g'

/-- `Next`, with every access of the table checked. -/
def Parser.nextChecked (p : Parser) : Option (Except ReadError Tx × Parser) :=
  if p.eof then some (.error .eof, p) else scanChecked p.tooLong p.lines p.groups

/-- The loop over the lines never panics. -/
lemma scanChecked_eq (tooLong : Bool) (lines : List Text) (g : Groups) :
    scanChecked tooLong lines g = some (scan tooLong lines g) := by
  induction lines generalizing g with
  | nil => rfl
  | cons line lines ih =>
    rw [scanChecked, scan, g.lineStepChecked_eq line]
    obtain ⟨_ | tx, g'⟩ := g.lineStep line
    · exact ih g'
    · rfl

/-- **`Next` never panics**, whatever it is given. -/
theorem Parser.nextChecked_eq (p : Parser) : p.nextChecked = some p.next := by
  rw [Parser.nextChecked, Parser.next]
  split
  · rfl
  · exact scanChecked_eq _ _ _

/-! ## From lines to texts -/

/-- The text of a list of lines, each with its terminator. -/
def unlines (ls : List Text) : Text := ls.flatMap fun line => line ++ ['\n']

/-- The scanner returns the lines up to the first one that is too long. -/
lemma lines_newParser_unlines {ls : List Text} (h : ∀ line ∈ ls, '\n' ∉ line) :
    (newParser (unlines ls)).lines =
      (ls.takeWhile fun l => lineSize l < maxTokenSize).map dropCR := by
  rw [newParser, unlines, rawLines_flatMap h]

/-- A line of white space is blank without its carriage return. -/
lemma trimSpace_dropCR {line : Text} (h : Text.trimSpace line = []) :
    Text.trimSpace (dropCR line) = [] := by
  have hall : ∀ c ∈ line, Text.isSpace c = true := by
    by_contra hne
    push Not at hne
    obtain ⟨c, hc, hspace⟩ := hne
    have hfront : c ∈ line.dropWhile Text.isSpace := by
      have hsplit := List.takeWhile_append_dropWhile (p := Text.isSpace) (l := line)
      rw [← hsplit] at hc
      rcases List.mem_append.1 hc with hc | hc
      · exact absurd (List.mem_takeWhile_imp hc) hspace
      · exact hc
    have hback := List.dropWhile_eq_nil_iff.1 (List.reverse_eq_nil_iff.1 h) c
      (List.mem_reverse.2 hfront)
    exact hspace hback
  have hsub : ∀ c ∈ dropCR line, Text.isSpace c = true := by
    intro c hc
    unfold dropCR at hc
    split at hc
    · exact hall c (List.mem_of_mem_dropLast hc)
    · exact hall c hc
  rw [Text.trimSpace, List.dropWhile_eq_nil_iff.2 hsub]
  rfl

/-- **A blank line resynchronises the parser, and no access of its table is out of range.** The
lines before the blank one may be anything, as long as each of them fits into the buffer of the
scanner; those after it may be anything.

**Proof sketch.** The scanner reads the lines of the first part, the blank line, and of the second
part as many as it would read of it alone. The blank line cuts them in two (`Groups.run_blank`). -/
theorem parsed_unlines_blank (a b : List Text) (blank : Text)
    (hlines : ∀ line ∈ a ++ blank :: b, '\n' ∉ line) (hblank : Text.trimSpace blank = [])
    (hsize : ∀ line ∈ a ++ [blank], lineSize line < maxTokenSize) :
    parsed (unlines (a ++ blank :: b)) = parsed (unlines a) ++ parsed (unlines b) ∧
      ∀ p : Parser, p.nextChecked = some p.next := by
  refine ⟨?_, Parser.nextChecked_eq⟩
  have hbefore : ∀ line ∈ a, '\n' ∉ line := fun line hline =>
    hlines line (List.mem_append_left _ hline)
  have hafter : ∀ line ∈ b, '\n' ∉ line := fun line hline =>
    hlines line (List.mem_append_right _ (List.mem_cons_of_mem _ hline))
  have hshort : ∀ line ∈ a, decide (lineSize line < maxTokenSize) = true := fun line hline =>
    decide_eq_true (hsize line (List.mem_append_left _ hline))
  have hcut : ((a ++ blank :: b).takeWhile fun l => lineSize l < maxTokenSize) =
      a ++ blank :: b.takeWhile fun l => lineSize l < maxTokenSize := by
    rw [List.takeWhile_append_of_pos hshort, List.takeWhile_cons, if_pos]
    exact decide_eq_true (hsize blank (by simp))
  rw [parsed_eq, parsed_eq, parsed_eq, lines_newParser_unlines hlines,
    lines_newParser_unlines hbefore, lines_newParser_unlines hafter, hcut,
    List.takeWhile_eq_self_iff.2 hshort, List.map_append, List.map_cons]
  exact Groups.run_blank Groups.paired_empty (trimSpace_dropCR hblank) _ _

/-- A record and a group whose levels are missing, and a group that is cut off. -/
def garbage : List Text :=
  [("--  Begin req" : Text), ("**  << BeReq    >> 3" : Text), ("*   << Request  >> 2" : Text),
    ("**  <<" : Text)]

/-- A record without a group, and a group. -/
def late : List Text :=
  [("-   End" : Text), ("*   << Request  >> 4" : Text), ("-   End" : Text)]

/-- Behind a line of white space the parser starts afresh. -/
theorem parsed_unlines_blank_garbage :
    parsed (unlines (garbage ++ (" \r" : Text) :: late)) =
        parsed (unlines garbage) ++ parsed (unlines late) ∧
      ∀ p : Parser, p.nextChecked = some p.next :=
  parsed_unlines_blank garbage late " \r" (by decide +kernel) (by decide +kernel)
    (by decide +kernel)

/-! ## A line that is too long -/

/-- The size of a line of one character. -/
lemma lineSize_replicate (n : ℕ) {c : Char} (hc : c.utf8Size = 1) :
    lineSize (List.replicate n c) = n := by
  simp [lineSize, hc]

/-- After a line that fills the buffer nothing is parsed. -/
lemma parsed_unlines_long {line : Text} (hsize : ¬lineSize line < maxTokenSize) {ls : List Text}
    (hlines : ∀ l ∈ line :: ls, '\n' ∉ l) : parsed (unlines (line :: ls)) = [] := by
  rw [parsed_eq, lines_newParser_unlines hlines, List.takeWhile_cons, if_neg (by simpa using hsize)]
  rfl

/-- A line that fills the buffer, a blank line and a group: the group is lost, while it is parsed
from its own line. -/
theorem parsed_unlines_blank_long :
    parsed (unlines ([List.replicate maxTokenSize 'x'] ++ [] :: late)) ≠
      parsed (unlines [List.replicate maxTokenSize 'x']) ++ parsed (unlines late) := by
  have hsize : ¬lineSize (List.replicate maxTokenSize 'x') < maxTokenSize := by
    rw [lineSize_replicate maxTokenSize (by decide)]
    exact lt_irrefl _
  have hline : '\n' ∉ List.replicate maxTokenSize 'x' := fun h =>
    absurd (List.eq_of_mem_replicate h) (by decide)
  have hlate : ∀ l ∈ [] :: late, '\n' ∉ l := by decide +kernel
  have hgroup : parsed (unlines late) ≠ [] := by decide +kernel
  rw [List.singleton_append, parsed_unlines_long hsize (List.forall_mem_cons.2 ⟨hline, hlate⟩),
    parsed_unlines_long hsize (List.forall_mem_cons.2 ⟨hline, by simp⟩), List.nil_append]
  exact hgroup.symm

end CloudVinyl.Vsl
