import CloudVinyl.Tracer.Resync

set_option relaxedAutoImplicit false
set_option autoImplicit false

/-!
# Groups below the third level

`varnishlog -g request` draws the level of a group as stars and that of a record as dashes up to
level three; from level four on it prints the number of the level between two of them. The patterns
of `vsl.go` know the first form only. The lines of deeper levels match neither of them and are
skipped as notices are, so that what is parsed is the printed groups with everything below their
third level cut off.

## Main definitions

* `Vsl.Tx.printedLines`, `Vsl.varnishlog` — the print of groups, with the two forms of a level.
* `Vsl.Tx.truncate` — a group without what is more than a number of levels below it.
* `Vsl.Tx.depth` — the number of levels of a group.

## Main results

* `Vsl.Groups.run_filter` — lines that match no pattern can be left out.
* `Vsl.parsed_varnishlog` — what is parsed is the printed groups, cut off below level three.
* `Vsl.parsed_varnishlog_iff` — the printed groups are parsed just when none has a fourth level and
  no line is too long.
-/

namespace CloudVinyl.Vsl

open Patterns (Piece submatch Stops)

/-! ## The print of varnishlog -/

/-- The level of a line: so many marks, or its number between two of them. -/
def levelMarks (mark : Char) (level : ℕ) : Text :=
  if level ≤ 3 then List.replicate level mark else mark :: (Text.decimal level ++ [mark])

section Print

variable (y : Layout)

/-- What stands behind the level of a header. -/
def headerTail (level : ℕ) (type : Text) (vxid : ℕ) : Text :=
  (y.afterStars level type vxid).text ++
    (("<<" : Text) ++ ((y.afterOpen level type vxid).text ++ (type ++
      ((y.afterType level type vxid).text ++ ((">>" : Text) ++
        ((y.afterClose level type vxid).text ++ (Text.decimal vxid ++
          ((y.afterVxid level type vxid).map (·.text)).getD [])))))))

/-- What stands behind the level of a record. -/
def recordTail (level : ℕ) (r : Record) : Text :=
  (y.afterDashes level r).text ++ (r.tag ++ ((y.afterTag level r).text ++ r.payload))

/-- The printed header of a group. -/
def printedHeader (level : ℕ) (type : Text) (vxid : ℕ) : Text :=
  levelMarks '*' level ++ headerTail y level type vxid

/-- The printed line of a record. -/
def printedRecord (level : ℕ) (r : Record) : Text :=
  levelMarks '-' level ++ recordTail y level r

mutual

/-- The lines that varnishlog prints for a group. -/
def Tx.printedLines (level : ℕ) : Tx → List Text
  | .mk type vxid records children =>
    printedHeader y level type vxid ::
      (records.map (printedRecord y level) ++ printedForest (level + 1) children)

/-- The lines that varnishlog prints for a list of groups. -/
def printedForest (level : ℕ) : List Tx → List Text
  | [] => []
  | t :: ts => t.printedLines level ++ printedForest level ts

end

/-- The lines of groups at the top, each followed by a blank line or by nothing. -/
def varnishlogLines (txs : List (Tx × Bool)) : List Text :=
  txs.flatMap fun (t, blank) => t.printedLines y 1 ++ if blank then [[]] else []

/-- The text that varnishlog prints for groups at the top. -/
def varnishlog (txs : List (Tx × Bool)) : Text := unlines (varnishlogLines y txs)

/-! ### The lines up to level three and those below -/

variable {level : ℕ}

/-- Up to level three a header is printed as the parser expects it. -/
lemma printedHeader_of_le (h : level ≤ 3) (type : Text) (vxid : ℕ) :
    printedHeader y level type vxid = headerLine y level type vxid := by
  rw [printedHeader, levelMarks, if_pos h]
  rfl

/-- Up to level three a record is printed as the parser expects it. -/
lemma printedRecord_of_le (h : level ≤ 3) (r : Record) :
    printedRecord y level r = recordLine y level r := by
  rw [printedRecord, levelMarks, if_pos h]
  rfl

/-- A mark with a number behind it is no run of marks before a blank. -/
lemma submatch_numbered {mark : Char} (hmark : Patterns.digit mark = false) (n : ℕ) (s : Text)
    (ps : List (Piece Char)) :
    submatch (.plus (· = mark) :: .plus Patterns.space :: ps) (mark :: (Text.decimal n ++ s)) =
      none := by
  have hstops : Stops (· = mark) (Text.decimal n ++ s) := by
    refine Patterns.stops_append (Text.decimal_ne_nil n) fun c hc => decide_eq_false ?_
    rintro rfl
    have hdigit : Patterns.digit c = true := Text.isDigit_of_mem_decimal hc
    simp [hmark] at hdigit
  have hrun : submatch (.plus (· = mark) :: .plus Patterns.space :: ps)
      ([mark] ++ (Text.decimal n ++ s)) =
        (submatch (.plus Patterns.space :: ps) (Text.decimal n ++ s)).map ([mark] :: ·) :=
    Patterns.submatch_plus (List.cons_ne_nil mark []) (by simp) hstops
  rw [Patterns.submatch_plus_eq_none (stops_decimal n s)] at hrun
  exact hrun

/-- **A header below level three is skipped.** -/
lemma readLine_printedHeader (h : 3 < level) (type : Text) (vxid : ℕ) :
    readLine (printedHeader y level type vxid) = .other := by
  have hline : printedHeader y level type vxid =
      '*' :: (Text.decimal level ++ (['*'] ++ headerTail y level type vxid)) := by
    rw [printedHeader, levelMarks, if_neg (Nat.not_le.2 h), List.cons_append, List.append_assoc]
  have hrecord : submatch recordRe (printedHeader y level type vxid) = none := by
    rw [recordRe, hline]
    exact Patterns.submatch_plus_eq_none (Patterns.stops_cons (by decide))
  have hgroup : submatch groupRe (printedHeader y level type vxid) = none := by
    rw [groupRe, hline]
    exact submatch_numbered (by decide) _ _ _
  have hblank : Text.trimSpace (printedHeader y level type vxid) ≠ [] := by
    rw [hline]
    exact trimSpace_ne_nil (by decide) _
  rw [readLine, if_neg hblank, hgroup, hrecord]

/-- **A record below level three is skipped.** -/
lemma readLine_printedRecord (h : 3 < level) (r : Record) :
    readLine (printedRecord y level r) = .other := by
  have hline : printedRecord y level r =
      '-' :: (Text.decimal level ++ (['-'] ++ recordTail y level r)) := by
    rw [printedRecord, levelMarks, if_neg (Nat.not_le.2 h), List.cons_append, List.append_assoc]
  have hrecord : submatch recordRe (printedRecord y level r) = none := by
    rw [recordRe, hline]
    exact submatch_numbered (by decide) _ _ _
  have hgroup : submatch groupRe (printedRecord y level r) = none := by
    rw [groupRe, hline]
    exact Patterns.submatch_plus_eq_none (Patterns.stops_cons (by decide))
  have hblank : Text.trimSpace (printedRecord y level r) ≠ [] := by
    rw [hline]
    exact trimSpace_ne_nil (by decide) _
  rw [readLine, if_neg hblank, hgroup, hrecord]

/-- The lines of a list of groups are those of one after the other. -/
lemma printedForest_eq (txs : List Tx) :
    printedForest y level txs = txs.flatMap (Tx.printedLines y level) := by
  induction txs with
  | nil => rfl
  | cons tx txs ih => rw [printedForest, ih, List.flatMap_cons]

end Print

/-! ## Lines that are skipped -/

/-- A line that the parser does not skip. -/
def matched (line : Text) : Bool :=
  match readLine line with
  | .other => false
  | _ => true

/-- A line that is read as something else matches no pattern. -/
lemma matched_of_other {line : Text} (h : readLine line = .other) : matched line = false := by
  rw [matched, h]

/-- **Lines that match no pattern can be left out.** -/
theorem Groups.run_filter (lines : List Text) (g : Groups) :
    Groups.run (lines.filter matched) g = Groups.run lines g := by
  induction lines generalizing g with
  | nil => rfl
  | cons line lines ih =>
    cases hread : readLine line with
    | other =>
      have hstep : g.lineStep line = (none, g) := by rw [Groups.lineStep, hread]
      rw [List.filter_cons_of_neg (by simp [matched_of_other hread]), ih,
        g.lineStep_eq hstep, Option.toList_none, List.nil_append]
    | _ =>
      have hkeep : matched line = true := by rw [matched, hread]
      rw [List.filter_cons_of_pos hkeep, Groups.run, Groups.run, ih]

/-! ## Groups cut off below a level -/

mutual

/-- The group with the levels that are at most `n` below it. -/
def Tx.truncate : ℕ → Tx → Tx
  | 0, .mk type vxid records _ => .mk type vxid records []
  | n + 1, .mk type vxid records children => .mk type vxid records (truncateForest n children)

/-- The same for a list of groups. -/
def truncateForest : ℕ → List Tx → List Tx
  | _, [] => []
  | n, t :: ts => t.truncate n :: truncateForest n ts

end

mutual

/-- The number of levels of a group. -/
def Tx.depth : Tx → ℕ
  | .mk _ _ _ children => forestDepth children + 1

/-- The number of levels of a list of groups. -/
def forestDepth : List Tx → ℕ
  | [] => 0
  | t :: ts => max t.depth (forestDepth ts)

end

/-- Each group of a list is cut off. -/
lemma truncateForest_eq (n : ℕ) (txs : List Tx) :
    truncateForest n txs = txs.map (Tx.truncate n) := by
  induction txs with
  | nil => rfl
  | cons tx txs ih => rw [truncateForest, ih, List.map_cons]

/-- Only the empty list has no level. -/
lemma forestDepth_eq_zero_iff (txs : List Tx) : forestDepth txs = 0 ↔ txs = [] := by
  cases txs with
  | nil => simp [forestDepth]
  | cons tx txs =>
    obtain ⟨type, vxid, records, children⟩ := tx
    simp [forestDepth, Tx.depth]

mutual

/-- Nothing is cut off just when there are no more levels. -/
theorem Tx.truncate_eq_self_iff : (n : ℕ) → (tx : Tx) → (tx.truncate n = tx ↔ tx.depth ≤ n + 1)
  | 0, .mk type vxid records children => by
    rw [Tx.truncate, Tx.depth, Tx.mk.injEq, Nat.add_le_add_iff_right, Nat.le_zero,
      forestDepth_eq_zero_iff]
    simp only [true_and, eq_comm]
  | n + 1, .mk type vxid records children => by
    rw [Tx.truncate, Tx.depth, Tx.mk.injEq, Nat.add_le_add_iff_right,
      ← truncateForest_eq_self_iff n children]
    simp only [true_and]

/-- Nothing is cut off from groups that are not too deep. -/
theorem truncateForest_eq_self_iff :
    (n : ℕ) → (txs : List Tx) → (truncateForest n txs = txs ↔ forestDepth txs ≤ n + 1)
  | n, [] => by simp [truncateForest, forestDepth]
  | n, tx :: txs => by
    rw [truncateForest, forestDepth, List.cons.injEq, Nat.max_le, Tx.truncate_eq_self_iff n tx,
      truncateForest_eq_self_iff n txs]

end

/-- A group that is cut off can still be read back. -/
lemma Tx.Printable.truncate {tx : Tx} (h : tx.Printable) (n : ℕ) : (tx.truncate n).Printable := by
  induction h generalizing n with
  | mk hne htype hvxid hrecords _ ih =>
    cases n with
    | zero => exact .mk hne htype hvxid hrecords (by simp)
    | succ n =>
      rw [Tx.truncate, truncateForest_eq]
      refine .mk hne htype hvxid hrecords fun t ht => ?_
      obtain ⟨child, hchild, rfl⟩ := List.mem_map.1 ht
      exact ih child hchild n

/-! ## The size of a print -/

section Lines

variable (y : Layout)

mutual

/-- A line is printed for each group and record. -/
lemma Tx.length_printedLines :
    (level : ℕ) → (tx : Tx) → (tx.printedLines y level).length = tx.size
  | level, .mk type vxid records children => by
    rw [Tx.printedLines, Tx.size, List.length_cons, List.length_append, List.length_map,
      length_printedForest (level + 1) children]

/-- There is one line for each group and record. -/
lemma length_printedForest :
    (level : ℕ) → (txs : List Tx) → (printedForest y level txs).length = forestSize txs
  | _, [] => rfl
  | level, tx :: txs => by
    rw [printedForest, forestSize, List.length_append, tx.length_printedLines level,
      length_printedForest level txs]

end

/-- There are no more lines than groups and records, the blank ones apart. -/
lemma countP_varnishlogLines_le (txs : List (Tx × Bool)) :
    (varnishlogLines y txs).countP filled ≤ forestSize (txs.map Prod.fst) := by
  induction txs with
  | nil => simp [varnishlogLines]
  | cons p txs ih =>
    obtain ⟨tx, blank⟩ := p
    have hlines := List.countP_le_length (p := filled) (l := tx.printedLines y 1)
    rw [tx.length_printedLines y 1] at hlines
    have hblank : (if blank then [[]] else []).countP filled = 0 := by cases blank <;> rfl
    rw [varnishlogLines, List.flatMap_cons, List.countP_append, List.countP_append, hblank]
    change _ + (varnishlogLines y txs).countP filled ≤ _
    rw [List.map_cons, forestSize]
    dsimp only
    omega

end Lines

/-! ## What is parsed -/

section Parsed

variable (y : Layout) {level : ℕ}

/-- Nothing below level three is matched. -/
lemma filter_printedLines_of_lt {tx : Tx} (htx : tx.Printable) (h : 3 < level) :
    (tx.printedLines y level).filter matched = [] := by
  induction htx generalizing level with
  | mk _ _ _ _ _ ih =>
    rw [Tx.printedLines, printedForest_eq, List.filter_eq_nil_iff]
    intro line hline
    rcases List.mem_cons.1 hline with rfl | hline
    · simp [matched_of_other (readLine_printedHeader y h _ _)]
    rcases List.mem_append.1 hline with hline | hline
    · obtain ⟨r, -, rfl⟩ := List.mem_map.1 hline
      simp [matched_of_other (readLine_printedRecord y h r)]
    · obtain ⟨child, hchild, hline⟩ := List.mem_flatMap.1 hline
      exact List.filter_eq_nil_iff.1 (ih child hchild (Nat.lt_succ_of_lt h)) line hline

/-- A header is matched. -/
lemma matched_headerLine (hlevel : 0 < level) {type : Text} {vxid : ℕ} (hne : type ≠ [])
    (htype : ∀ c ∈ type, Patterns.word c = true) (hvxid : vxid < 2 ^ 64) :
    matched (headerLine y level type vxid) = true := by
  rw [matched, readLine_headerLine y hlevel hne htype hvxid]

/-- A record is matched. -/
lemma matched_recordLine (hlevel : 0 < level) {r : Record} (h : r.Printable) :
    matched (recordLine y level r) = true := by
  rw [matched, readLine_recordLine y hlevel h]

/-- The lines of a group up to level three that have its header and its records. -/
lemma filter_top (hlevel : 0 < level) (hle : level ≤ 3) {type : Text} {vxid : ℕ}
    {records : List Record} (hne : type ≠ []) (htype : ∀ c ∈ type, Patterns.word c = true)
    (hvxid : vxid < 2 ^ 64) (hrecords : ∀ r ∈ records, r.Printable) (rest : List Text) :
    (printedHeader y level type vxid ::
        (records.map (printedRecord y level) ++ rest)).filter matched =
      headerLine y level type vxid ::
        (records.map (recordLine y level) ++ rest.filter matched) := by
  have hlines : records.map (printedRecord y level) = records.map (recordLine y level) :=
    List.map_congr_left fun r _ => printedRecord_of_le y hle r
  have hall : (records.map (recordLine y level)).filter matched =
      records.map (recordLine y level) := by
    refine List.filter_eq_self.2 fun line hline => ?_
    obtain ⟨r, hr, rfl⟩ := List.mem_map.1 hline
    exact matched_recordLine y hlevel (hrecords r hr)
  rw [printedHeader_of_le y hle, List.filter_cons_of_pos (matched_headerLine y hlevel hne htype
    hvxid), List.filter_append, hlines, hall]

/-- **The lines that are matched are those of the group, cut off below level three.** -/
theorem filter_printedLines {tx : Tx} (htx : tx.Printable) (hlevel : 0 < level) {n : ℕ}
    (hn : level + n = 3) :
    (tx.printedLines y level).filter matched = (tx.truncate n).lines y level := by
  induction htx generalizing level n with
  | @mk type vxid records children hne htype hvxid hrecords hchildren ih =>
    have hle : level ≤ 3 := by omega
    rw [Tx.printedLines, filter_top y hlevel hle hne htype hvxid hrecords, printedForest_eq,
      List.filter_flatMap]
    cases n with
    | zero =>
      -- the children are at level four
      have hnone : children.flatMap (fun t => (t.printedLines y (level + 1)).filter matched) =
          [] := by
        refine List.flatMap_eq_nil_iff.2 fun t ht => ?_
        exact filter_printedLines_of_lt y (hchildren t ht) (by omega)
      rw [hnone, Tx.truncate, Tx.lines, forestLines]
    | succ n =>
      have hsome : children.flatMap (fun t => (t.printedLines y (level + 1)).filter matched) =
          forestLines y (level + 1) (truncateForest n children) := by
        rw [forestLines_eq, truncateForest_eq, List.flatMap_map]
        exact List.flatMap_congr fun t ht => ih t ht (Nat.succ_pos level) (by omega)
      rw [hsome, Tx.truncate, Tx.lines]

/-- The lines that are matched are those of the groups that were cut off. -/
lemma filter_varnishlogLines {txs : List (Tx × Bool)} (htxs : ∀ p ∈ txs, p.1.Printable) :
    (varnishlogLines y txs).filter matched =
      allLines y (txs.map fun p => (p.1.truncate 2, p.2)) := by
  have hblank : matched [] = true := rfl
  rw [varnishlogLines, allLines, List.filter_flatMap, List.flatMap_map]
  refine List.flatMap_congr fun p hp => ?_
  rw [List.filter_append, filter_printedLines y (htxs p hp) Nat.one_pos (n := 2) rfl]
  cases p.2 <;> simp [hblank]

/-- The groups of lines that were printed are these groups. -/
lemma run_allLines {txs : List (Tx × Bool)} (htxs : ∀ p ∈ txs, p.1.Printable) :
    Groups.run (allLines y txs) ⟨none, []⟩ = txs.map Prod.fst := by
  have hprinted := calls_allLines y txs htxs ⟨none, []⟩
    (Groups.run (allLines y txs) ⟨none, []⟩).length
  obtain ⟨errs, herrs, hrun⟩ := Parser.calls_run false (allLines y txs) ⟨none, []⟩ txs.length
  rw [Option.toList_none, List.length_nil, Nat.zero_add, List.map_nil, List.nil_append,
    Nat.add_comm, hrun] at hprinted
  -- both lists of results, without their errors
  have hgroups := congrArg (List.filterMap Except.toOption) hprinted
  rwa [Parser.filterMap_toOption _ herrs,
    Parser.filterMap_toOption _ (Parser.fails_replicate _ _)] at hgroups

/-! ### The lines are read as they are printed -/

/-- The marks of a level have no line breaks. -/
lemma unbroken_levelMarks {mark : Char} (h : Patterns.space mark = false) :
    Unbroken (levelMarks mark level) := by
  unfold levelMarks
  split
  · exact unbroken_replicate level h
  · refine unbroken_of_nonSpace fun c hc => ?_
    rcases List.mem_cons.1 hc with rfl | hc
    · exact h
    rcases List.mem_append.1 hc with hc | hc
    · exact Patterns.space_of_word (Patterns.word_of_digit (Text.isDigit_of_mem_decimal hc))
    · rw [List.mem_singleton.1 hc]
      exact h

/-- The part of a line behind its level has no breaks, since the line has none. -/
lemma Unbroken.of_append_right {s t : Text} (h : Unbroken (s ++ t)) : Unbroken t :=
  fun c hc => h c (List.mem_append_right s hc)

/-- The printed lines of a group have no line breaks. -/
lemma unbroken_printedLines {tx : Tx} (h : tx.Printable) :
    ∀ line ∈ tx.printedLines y level, Unbroken line := by
  induction h generalizing level with
  | @mk type vxid _ _ _ htype _ hrecords _ ih =>
    intro line hline
    rw [Tx.printedLines, printedForest_eq] at hline
    rcases List.mem_cons.1 hline with rfl | hline
    · have hheader : Unbroken (headerLine y level type vxid) := unbroken_headerLine y htype vxid
      exact (unbroken_levelMarks (by decide)).append hheader.of_append_right
    rcases List.mem_append.1 hline with hline | hline
    · obtain ⟨r, hr, rfl⟩ := List.mem_map.1 hline
      have hrecord : Unbroken (recordLine y level r) := unbroken_recordLine y (hrecords r hr)
      exact (unbroken_levelMarks (by decide)).append hrecord.of_append_right
    · obtain ⟨child, hchild, hline⟩ := List.mem_flatMap.1 hline
      exact ih child hchild line hline

/-- The printed lines of groups at the top have no line breaks. -/
lemma unbroken_varnishlogLines {txs : List (Tx × Bool)} (htxs : ∀ p ∈ txs, p.1.Printable) :
    ∀ line ∈ varnishlogLines y txs, Unbroken line := by
  intro line hline
  obtain ⟨⟨tx, blank⟩, hp, hline⟩ := List.mem_flatMap.1 hline
  rcases List.mem_append.1 hline with hline | hline
  · exact unbroken_printedLines y (htxs _ hp) line hline
  · have hempty : line = [] := by
      cases blank <;> simp at hline
      exact hline
    simp [Unbroken, hempty]

/-- **What is parsed from the print of groups** is these groups, cut off below level three.

**Proof sketch.** The lines are read as they are printed. Those below level three match no pattern
and can be left out (`Groups.run_filter`); what is left are the lines of the groups that were cut
off (`filter_printedLines`), and these are read back (`run_allLines`). -/
theorem parsed_varnishlog {txs : List (Tx × Bool)} (htxs : ∀ p ∈ txs, p.1.Printable)
    (hsize : ∀ line ∈ varnishlogLines y txs, lineSize line < maxTokenSize) :
    parsed (varnishlog y txs) = txs.map fun p => p.1.truncate 2 := by
  have hprintable : ∀ p ∈ txs.map (fun p => (p.1.truncate 2, p.2)), p.1.Printable := by
    intro p hp
    obtain ⟨q, hq, rfl⟩ := List.mem_map.1 hp
    exact (htxs q hq).truncate 2
  have hparser : newParser (varnishlog y txs) = ⟨varnishlogLines y txs, false, ⟨none, []⟩, false⟩ :=
    newParser_flatMap (unbroken_varnishlogLines y htxs) hsize
  rw [parsed_eq, hparser, ← Groups.run_filter, filter_varnishlogLines y htxs,
    run_allLines y hprintable, List.map_map]
  rfl

/-- If all is parsed, then all was scanned: a line that ends the scan would be missing. -/
lemma lineSize_lt_of_parsed {txs : List (Tx × Bool)} (htxs : ∀ p ∈ txs, p.1.Printable)
    (h : parsed (varnishlog y txs) = txs.map Prod.fst) :
    ∀ line ∈ varnishlogLines y txs, lineSize line < maxTokenSize := by
  have hunbroken := unbroken_varnishlogLines y htxs
  have hlines : (newParser (varnishlog y txs)).lines =
      (varnishlogLines y txs).takeWhile fun l => lineSize l < maxTokenSize := by
    rw [varnishlog, lines_newParser_unlines fun line hline hmem =>
      (hunbroken line hline _ hmem).1 rfl]
    refine (List.map_congr_left fun line hline => ?_).trans (List.map_id _)
    exact dropCR_of_unbroken (hunbroken line ((List.takeWhile_sublist _).subset hline))
  have hsize := Groups.size_run_le (newParser (varnishlog y txs)).lines ⟨none, []⟩
  rw [← parsed_eq, h, hlines] at hsize
  have hcount := countP_varnishlogLines_le y txs
  rw [← List.takeWhile_append_dropWhile (p := fun l => decide (lineSize l < maxTokenSize))
    (l := varnishlogLines y txs), List.countP_append] at hcount
  cases hrest : (varnishlogLines y txs).dropWhile fun l => decide (lineSize l < maxTokenSize) with
  | nil => simpa [List.dropWhile_eq_nil_iff] using hrest
  | cons line rest =>
    -- the first line that is too long is not empty
    have hlong : lineSize line < maxTokenSize → False := by
      have hhead := List.head?_dropWhile_not (fun l => decide (lineSize l < maxTokenSize))
        (varnishlogLines y txs)
      simpa [hrest] using hhead
    have hfilled : filled line = true := by
      cases line with
      | nil => exact absurd (by decide) hlong
      | cons c line => rfl
    rw [hrest, List.countP_cons, if_pos hfilled] at hcount
    simp only [Option.toList_none, forestSize] at hsize
    omega

/-- **Which groups are parsed from their print.** All of them are just when none has a fourth level
and every line fits into the buffer of the scanner.

**Proof sketch.** If all fit, what is parsed is the groups cut off below level three
(`parsed_varnishlog`). A line that does not fit ends the scan, and each line adds one group or
record at most (`Groups.size_run_le`), so that one is missing. -/
theorem parsed_varnishlog_iff (txs : List (Tx × Bool)) (htxs : ∀ p ∈ txs, p.1.Printable) :
    parsed (varnishlog y txs) = txs.map Prod.fst ↔
      (∀ p ∈ txs, p.1.depth ≤ 3) ∧
        ∀ line ∈ varnishlogLines y txs, lineSize line < maxTokenSize := by
  have hdepth : (∀ line ∈ varnishlogLines y txs, lineSize line < maxTokenSize) →
      (parsed (varnishlog y txs) = txs.map Prod.fst ↔ ∀ p ∈ txs, p.1.depth ≤ 3) := by
    intro hsize
    rw [parsed_varnishlog y htxs hsize, List.map_inj_left]
    exact forall₂_congr fun p _ => p.1.truncate_eq_self_iff 2
  constructor
  · intro h
    have hsize := lineSize_lt_of_parsed y htxs h
    exact ⟨(hdepth hsize).1 h, hsize⟩
  · rintro ⟨hdeep, hsize⟩
    exact (hdepth hsize).2 hdeep

end Parsed

/-! ## A retried fetch of a fragment -/

/-- A request with a fragment that was fetched. -/
def fetchedFragment : List (Tx × Bool) :=
  [(.mk "Request" 2 [⟨"Begin", "req 1 rxreq"⟩]
    [.mk "Request" 4 [⟨"Begin", "req 2 esi 1"⟩]
      [.mk "BeReq" 5 [⟨"Begin", "bereq 4 fetch"⟩] []]], true)]

/-- The fetch is at level three, and all is read back. -/
theorem parsed_varnishlog_iff_fetchedFragment :
    parsed (varnishlog singleBlanks fetchedFragment) = fetchedFragment.map Prod.fst :=
  (parsed_varnishlog_iff singleBlanks fetchedFragment (by decide +kernel)).2
    ⟨by decide, by decide +kernel⟩

/-- A request with a fragment whose fetch was retried. -/
def retriedFragment : List (Tx × Bool) :=
  [(.mk "Request" 2 [⟨"Begin", "req 1 rxreq"⟩]
    [.mk "Request" 4 [⟨"Begin", "req 2 esi 1"⟩]
      [.mk "BeReq" 5 [⟨"Begin", "bereq 4 fetch"⟩]
        [.mk "BeReq" 6 [⟨"Begin", "bereq 5 retry"⟩] []]]], true)]

/-- The retry is at level four, and it is lost. -/
theorem parsed_varnishlog_retriedFragment :
    parsed (varnishlog singleBlanks retriedFragment) ≠ retriedFragment.map Prod.fst := by
  rw [parsed_varnishlog singleBlanks (by decide +kernel) (by decide +kernel)]
  intro h
  have htree := List.map_inj_left.1 h _ (List.mem_singleton_self _)
  exact absurd ((Tx.truncate_eq_self_iff 2 _).1 htree) (by decide)

end CloudVinyl.Vsl
