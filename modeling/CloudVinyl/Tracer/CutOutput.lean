import CloudVinyl.Tracer.DeepGroups

set_option relaxedAutoImplicit false
set_option autoImplicit false

/-!
# Output that is cut

`varnishlog` is killed when the context of `supervisor.run` is cancelled, and it may die on its own
at any time, so that the parser reads a beginning of what `varnishlog` would have printed. The cut
can fall anywhere: in the middle of a header, a tag or a number.

A line within a group is neither blank nor a header at the top, and no beginning of it is either.
So it never completes the group that is pending, and all that a cut can do is to leave the group in
which it falls incomplete.

## Main definitions

* `Vsl.Inner` — a line that does not end the pending group.

## Main results

* `Vsl.inner_of_cut` — a beginning of a line within a group does not end it.
* `Vsl.parsed_take_varnishlog` — a cut output, of printable groups in lines that the scanner takes,
  yields the groups that were printed as a whole, and at most one more.
-/

namespace CloudVinyl.Vsl

open Patterns (submatch Stops)

/-! ## Runs over two lists of lines -/

namespace Groups

/-- The lines so far matter to those that follow through the state only. -/
lemma exists_run_append (lines : List Text) (g : Groups) :
    ∃ out g', ∀ more, run (lines ++ more) g = out ++ run more g' := by
  induction lines generalizing g with
  | nil => exact ⟨[], g, fun _ => rfl⟩
  | cons line lines ih =>
    obtain ⟨out, g', h⟩ := ih (g.lineStep line).2
    refine ⟨(g.lineStep line).1.toList ++ out, g', fun more => ?_⟩
    rw [List.cons_append, run, h, List.append_assoc]

/-- A header at the top completes what was pending. -/
lemma run_append_top (lines : List Text) (g : Groups) {top : Text} {type : Text} {vxid : ℕ}
    (htop : readLine top = .group 1 type vxid) (more : List Text) :
    run (lines ++ top :: more) g = run lines g ++ run more ⟨some (.mk type vxid [] []), [[]]⟩ := by
  obtain ⟨out, g', h⟩ := exists_run_append lines g
  have hall := h []
  have hstep : g'.lineStep top = (g'.pending, ⟨some (.mk type vxid [] []), [[]]⟩) := by
    rw [lineStep, htop]
    rfl
  rw [List.append_nil] at hall
  rw [h, hall, run, g'.lineStep_eq hstep, List.append_assoc]

end Groups

/-! ## Lines within a group -/

/-- A line that does not end the pending group. -/
def Inner (line : Text) : Prop :=
  readLine line ≠ .blank ∧ ∀ type vxid, readLine line ≠ .group 1 type vxid

/-- Lines within a group leave one group pending. -/
lemma Groups.length_run_inner {lines : List Text} (h : ∀ line ∈ lines, Inner line) {g : Groups}
    (hg : g.pending.isSome) : (run lines g).length = 1 := by
  induction lines generalizing g with
  | nil =>
    obtain ⟨tx, htx⟩ := Option.isSome_iff_exists.1 hg
    rw [run, htx]
    rfl
  | cons line lines ih =>
    obtain ⟨hblank, htop⟩ := h line List.mem_cons_self
    have hstep : ∃ g', g.lineStep line = (none, g') ∧ g'.pending.isSome := by
      rw [lineStep]
      cases hread : readLine line with
      | blank => exact absurd hread hblank
      | group level type vxid =>
        have hlevel : level ≠ 1 := fun heq => htop type vxid (heq ▸ hread)
        simp only [openGroup, if_neg hlevel]
        split
        · exact ⟨_, rfl, by simpa [Groups.modify] using hg⟩
        · exact ⟨g, rfl, hg⟩
      | record level r =>
        refine ⟨_, rfl, ?_⟩
        simp only [addRecord]
        split
        · simpa [Groups.modify] using hg
        · exact hg
      | other => exact ⟨g, rfl, hg⟩
    obtain ⟨g', heq, hg'⟩ := hstep
    rw [g.lineStep_eq heq, Option.toList_none, List.nil_append]
    exact ih (fun l hl => h l (List.mem_cons_of_mem _ hl)) hg'

/-- What a header needs. -/
lemma groupRe_of_readLine {line : Text} {level : ℕ} {type : Text} {vxid : ℕ}
    (h : readLine line = .group level type vxid) :
    (line.takeWhile (· = '*')).length = level ∧ ∃ parts, submatch groupRe line = some parts := by
  unfold readLine at h
  split at h
  · cases h
  split at h
  · next stars _ _ _ _ _ _ _ _ _ hmatch =>
    obtain ⟨rfl, -, -⟩ := Line.group.inj h
    refine ⟨?_, _, hmatch⟩
    rw [groupRe, submatch] at hmatch
    split at hmatch
    · cases hmatch
    · obtain ⟨_, -, heq⟩ := Option.map_eq_some_iff.1 hmatch
      rw [(List.cons.inj heq).1]
  split at h <;> cases h

/-- A line that begins with something else is not blank. -/
lemma readLine_ne_blank {c : Char} (hc : Text.isSpace c = false) (rest : Text) :
    readLine (c :: rest) ≠ .blank := by
  have hne : Text.trimSpace (c :: rest) ≠ [] := trimSpace_ne_nil hc rest
  unfold readLine
  rw [if_neg hne]
  split
  · simp
  split <;> simp

/-- A line that begins with a dash is no header. -/
lemma inner_dash (rest : Text) : Inner ('-' :: rest) := by
  refine ⟨readLine_ne_blank (by decide) rest, fun type vxid h => ?_⟩
  obtain ⟨-, parts, hparts⟩ := groupRe_of_readLine h
  rw [groupRe, Patterns.submatch_plus_eq_none (Patterns.stops_cons (by decide))] at hparts
  cases hparts

/-- A star without a blank behind it is no header at the top. -/
lemma inner_star {rest : Text} (h : Stops Patterns.space rest) : Inner ('*' :: rest) := by
  refine ⟨readLine_ne_blank (by decide) rest, fun type vxid hread => ?_⟩
  obtain ⟨hlevel, parts, hparts⟩ := groupRe_of_readLine hread
  rw [List.takeWhile_cons, if_pos (by decide), List.length_cons, Nat.add_eq_right] at hlevel
  have hstops : Stops (fun c => decide (c = '*')) rest := by
    cases rest with
    | nil => exact Patterns.stops_nil _
    | cons c rest =>
      refine Patterns.stops_cons ?_
      by_contra hc
      rw [List.takeWhile_cons, if_pos (by simpa using hc)] at hlevel
      simp at hlevel
  have hnone : submatch groupRe (['*'] ++ rest) = none := by
    rw [groupRe, Patterns.submatch_plus (List.cons_ne_nil _ _) (by simp) hstops,
      Patterns.submatch_plus_eq_none h]
    rfl
  rw [List.singleton_append, hparts] at hnone
  cases hnone

section Printed

variable (y : Layout)

/-- A line of which no beginning ends the pending group. -/
def Shielded (line : Text) : Prop := line ≠ [] ∧ ∀ n, Inner (line.take (n + 1))

/-- A cut line of a shielded one is within its group. -/
lemma Shielded.take {line : Text} (h : Shielded line) {n : ℕ} (hn : line.take n ≠ []) :
    Inner (line.take n) := by
  cases n with
  | zero => exact absurd rfl hn
  | succ n => exact h.2 n

/-- A shielded line is within its group. -/
lemma Shielded.inner {line : Text} (h : Shielded line) : Inner line := by
  have hall := h.take (n := line.length)
  rw [List.take_length] at hall
  exact hall h.1

/-- A record is shielded by its dash. -/
lemma shielded_dash (rest : Text) : Shielded ('-' :: rest) := by
  refine ⟨List.cons_ne_nil _ _, fun n => ?_⟩
  rw [List.take_succ_cons]
  exact inner_dash _

/-- A header below the top is shielded by its second star or its number. -/
lemma shielded_star {rest : Text} (h : Stops Patterns.space rest) : Shielded ('*' :: rest) := by
  refine ⟨List.cons_ne_nil _ _, fun n => ?_⟩
  rw [List.take_succ_cons]
  refine inner_star ?_
  cases n with
  | zero => exact Patterns.stops_nil _
  | succ n =>
    cases rest with
    | nil => exact Patterns.stops_nil _
    | cons c rest => simpa [Stops] using h

/-- A printed record is shielded. -/
lemma shielded_printedRecord {level : ℕ} (hlevel : 0 < level) (r : Record) :
    Shielded (printedRecord y level r) := by
  unfold printedRecord levelMarks
  split
  · obtain ⟨n, rfl⟩ : ∃ n, level = n + 1 := ⟨level - 1, by omega⟩
    rw [List.replicate_succ, List.cons_append]
    exact shielded_dash _
  · exact shielded_dash _

/-- A printed header below the top is shielded. -/
lemma shielded_printedHeader {level : ℕ} (hlevel : 1 < level) (type : Text) (vxid : ℕ) :
    Shielded (printedHeader y level type vxid) := by
  unfold printedHeader levelMarks
  split
  · obtain ⟨n, rfl⟩ : ∃ n, level = n + 1 + 1 := ⟨level - 2, by omega⟩
    rw [List.replicate_succ, List.replicate_succ, List.cons_append, List.cons_append]
    exact shielded_star (Patterns.stops_cons (by decide))
  · rw [List.cons_append, List.append_assoc]
    refine shielded_star (Patterns.stops_append (Text.decimal_ne_nil level) fun c hc => ?_)
    exact Patterns.space_of_word (Patterns.word_of_digit (Text.isDigit_of_mem_decimal hc))

/-- All lines of a group below the top are shielded. -/
lemma shielded_printedLines : (tx : Tx) → {level : ℕ} → 1 < level →
    ∀ line ∈ tx.printedLines y level, Shielded line
  | .mk type vxid records children, level, hlevel => by
    intro line hline
    rw [Tx.printedLines] at hline
    rcases List.mem_cons.1 hline with rfl | hline
    · exact shielded_printedHeader y hlevel type vxid
    rcases List.mem_append.1 hline with hline | hline
    · obtain ⟨r, -, rfl⟩ := List.mem_map.1 hline
      exact shielded_printedRecord y (by omega) r
    · rw [printedForest_eq] at hline
      obtain ⟨child, hchild, hline⟩ := List.mem_flatMap.1 hline
      exact shielded_printedLines child (by omega) line hline

/-- The lines below the header of a group at the top are shielded. -/
lemma exists_printedLines_top (tx : Tx) :
    ∃ body, tx.printedLines y 1 = printedHeader y 1 tx.type tx.vxid :: body ∧
      ∀ line ∈ body, Shielded line := by
  obtain ⟨type, vxid, records, children⟩ := tx
  refine ⟨_, by rw [Tx.printedLines]; rfl, fun line hline => ?_⟩
  rcases List.mem_append.1 hline with hline | hline
  · obtain ⟨r, -, rfl⟩ := List.mem_map.1 hline
    exact shielded_printedRecord y Nat.one_pos r
  · rw [printedForest_eq] at hline
    obtain ⟨child, -, hline⟩ := List.mem_flatMap.1 hline
    exact shielded_printedLines y child (by omega) line hline

/-- Behind the star of a header at the top stands a blank. -/
lemma stops_headerTail (level : ℕ) (type : Text) (vxid n : ℕ) :
    Stops (fun c => decide (c = '*')) ((headerTail y level type vxid).take n) := by
  rw [headerTail]
  obtain ⟨gap, hne, hblank⟩ := y.afterStars level type vxid
  cases gap with
  | nil => exact absurd rfl hne
  | cons c gap =>
    have hc : c ≠ '*' := by
      rintro rfl
      simp at hblank
    cases n with
    | zero => exact Patterns.stops_nil _
    | succ n =>
      rw [List.cons_append, List.take_succ_cons]
      exact Patterns.stops_cons (decide_eq_false hc)

/-- A beginning of a header at the top is such a header, or it is skipped. -/
lemma readLine_take_top (type : Text) (vxid n : ℕ) :
    readLine ((printedHeader y 1 type vxid).take (n + 1)) = .other ∨
      ∃ type' vxid', readLine ((printedHeader y 1 type vxid).take (n + 1)) =
        .group 1 type' vxid' := by
  have hstops := stops_headerTail y 1 type vxid n
  have hline : (printedHeader y 1 type vxid).take (n + 1) =
      '*' :: (headerTail y 1 type vxid).take n := rfl
  rw [hline]
  cases hread : readLine ('*' :: (headerTail y 1 type vxid).take n) with
  | other => exact .inl rfl
  | blank => exact absurd hread (readLine_ne_blank (by decide) _)
  | group level type' vxid' =>
    obtain ⟨hlevel, -⟩ := groupRe_of_readLine hread
    have hone : ('*' :: (headerTail y 1 type vxid).take n).takeWhile (· = '*') = ['*'] :=
      Patterns.takeWhile_of_stops (w := ['*']) (by simp) hstops
    rw [hone] at hlevel
    exact .inr ⟨type', vxid', by rw [← hlevel]; rfl⟩
  | record level r =>
    -- a record begins with a dash
    have hnone : submatch recordRe ('*' :: (headerTail y 1 type vxid).take n) = none := by
      rw [recordRe]
      exact Patterns.submatch_plus_eq_none (Patterns.stops_cons (by decide))
    unfold readLine at hread
    rw [hnone] at hread
    split at hread
    · cases hread
    split at hread <;> cases hread

end Printed

/-! ## The cut -/

/-- A cut line is no longer. -/
lemma lineSize_take_le (line : Text) (n : ℕ) : lineSize (line.take n) ≤ lineSize line := by
  conv_rhs => rw [← List.take_append_drop n line]
  rw [lineSize, lineSize, List.map_append, List.sum_append]
  exact Nat.le_add_right _ _

/-- A cut line has no line breaks. -/
lemma Unbroken.take {line : Text} (h : Unbroken line) (n : ℕ) : Unbroken (line.take n) :=
  fun c hc => h c (List.mem_of_mem_take hc)

/-- The lines that are read from terminated lines and a rest. -/
lemma lines_newParser_append {ls : List Text} {rest : Text}
    (hls : ∀ line ∈ rest :: ls, Unbroken line)
    (hsize : ∀ line ∈ rest :: ls, lineSize line < maxTokenSize) :
    (newParser (unlines ls ++ rest)).lines = ls ++ if rest = [] then [] else [rest] := by
  have hsplit : (unlines ls ++ rest).splitOn '\n' = ls ++ [rest] :=
    Words.splitOn_flatMap_append '\n'
      (fun line hline hmem => (hls line (List.mem_cons_of_mem _ hline) _ hmem).1 rfl)
      fun hmem => (hls rest List.mem_cons_self _ hmem).1 rfl
  have hraw : rawLines (unlines ls ++ rest) = ls ++ if rest = [] then [] else [rest] := by
    simp only [rawLines, Words.readLines, hsplit, List.dropLast_concat, List.getLast?_concat,
      Option.getD_some]
    split_ifs with h
    · rw [List.append_nil]
    · rfl
  have hmem : ∀ line ∈ ls ++ (if rest = [] then [] else [rest]), line ∈ rest :: ls := by
    intro line hline
    rcases List.mem_append.1 hline with hline | hline
    · exact List.mem_cons_of_mem _ hline
    · split_ifs at hline
      · exact absurd hline List.not_mem_nil
      · exact List.mem_cons.2 (.inl (List.mem_singleton.1 hline))
  rw [newParser, hraw, List.takeWhile_eq_self_iff.2 fun line hline =>
    decide_eq_true (hsize line (hmem line hline))]
  exact (List.map_congr_left fun line hline =>
    dropCR_of_unbroken (hls line (hmem line hline))).trans (List.map_id _)

section Cut

variable (y : Layout)

/-- The lines of one group at the top, with the blank line behind it if there is one. -/
def topLines (p : Tx × Bool) : List Text := p.1.printedLines y 1 ++ if p.2 then [[]] else []

/-- The print of groups is that of one after the other. -/
lemma varnishlog_eq (txs : List (Tx × Bool)) :
    varnishlog y txs = txs.flatMap fun p => unlines (topLines y p) := by
  rw [varnishlog, unlines, varnishlogLines, List.flatMap_assoc]
  rfl

/-- The lines of a group before a cut, but for its header, do not end it. -/
lemma inner_of_cut {body before after blank : List Text} {line : Text}
    (hbody : ∀ l ∈ body, Shielded l) (hblank : blank = [] ∨ blank = [[]])
    (hlines : body ++ blank = before ++ line :: after) (n : ℕ) :
    ∀ l ∈ before ++ (if line.take n = [] then [] else [line.take n]), Inner l := by
  -- a blank line can only be the last one
  have hcases : (∃ rest, body = before ++ line :: rest) ∨ body = before ∧ line = [] := by
    rcases hblank with rfl | rfl
    · exact .inl ⟨after, by rw [← hlines, List.append_nil]⟩
    · cases after using List.reverseRecOn with
      | nil =>
        obtain ⟨hb, hl⟩ := List.append_inj' hlines rfl
        exact .inr ⟨hb, (List.singleton_inj.1 hl).symm⟩
      | append_singleton after l =>
        rw [← List.cons_append, ← List.append_assoc] at hlines
        exact .inl ⟨after, (List.append_inj' hlines rfl).1⟩
  intro l hl
  rcases hcases with ⟨rest, rfl⟩ | ⟨rfl, rfl⟩
  · rcases List.mem_append.1 hl with hl | hl
    · exact (hbody l (List.mem_append_left _ hl)).inner
    · split_ifs at hl with hempty
      · exact absurd hl List.not_mem_nil
      · rw [List.mem_singleton.1 hl]
        exact (hbody line (by simp)).take hempty
  · simp only [List.take_nil, if_true, List.append_nil] at hl
    exact (hbody l hl).inner

/-- **A group of which only a part is printed adds one group at most** to those before it.

**Proof sketch.** If the cut falls into its header, what is left of it is a header at the top or is
skipped (`readLine_take_top`). Otherwise its header completes the groups before, and no line that
follows, nor a beginning of one, completes the group that it opens. -/
lemma run_cut (lines : List Text) (g : Groups) {p : Tx × Bool} (hp : p.1.Printable)
    {before after : List Text} {line : Text} (hlines : topLines y p = before ++ line :: after)
    (n : ℕ) :
    ∃ last, last.length ≤ 1 ∧
      Groups.run (lines ++ (before ++ if line.take n = [] then [] else [line.take n])) g =
        Groups.run lines g ++ last := by
  obtain ⟨tx, blank⟩ := p
  obtain ⟨body, hbody, hshielded⟩ := exists_printedLines_top y tx
  have htop : readLine (printedHeader y 1 tx.type tx.vxid) = .group 1 tx.type tx.vxid := by
    obtain ⟨hne, htype, hvxid, -, -⟩ := hp
    rw [printedHeader_of_le y (by omega)]
    exact readLine_headerLine y Nat.one_pos hne htype hvxid
  rw [topLines, hbody, List.cons_append] at hlines
  cases before with
  | nil =>
    -- the cut falls into the header
    obtain ⟨rfl, -⟩ := List.cons.inj hlines
    cases n with
    | zero => exact ⟨[], Nat.zero_le _, by simp⟩
    | succ n =>
      rw [if_neg (by exact List.cons_ne_nil _ _), List.nil_append]
      rcases readLine_take_top y tx.type tx.vxid n with hread | ⟨type, vxid, hread⟩
      · obtain ⟨out, g', hrun⟩ := Groups.exists_run_append lines g
        have hall := hrun []
        rw [List.append_nil] at hall
        have hstep : g'.lineStep ((printedHeader y 1 tx.type tx.vxid).take (n + 1)) =
            (none, g') := by rw [Groups.lineStep, hread]
        refine ⟨[], Nat.zero_le _, ?_⟩
        rw [hrun, g'.lineStep_eq hstep, hall, List.append_nil]
        rfl
      · exact ⟨_, le_rfl, Groups.run_append_top lines g hread []⟩
  | cons top before =>
    rw [List.cons_append] at hlines
    obtain ⟨rfl, htail⟩ := List.cons.inj hlines
    rw [List.cons_append, Groups.run_append_top lines g htop]
    have hinner := inner_of_cut hshielded (by cases blank <;> simp) htail n
    exact ⟨_, (Groups.length_run_inner hinner rfl).le, rfl⟩

/-- **Where a cut falls**: behind some groups, within a group, and there within a line. -/
lemma exists_cut {txs : List (Tx × Bool)} {n : ℕ} (hn : n < (varnishlog y txs).length) :
    ∃ whole p rest before line after k, txs = whole ++ p :: rest ∧
      topLines y p = before ++ line :: after ∧ (varnishlog y whole).length ≤ n ∧
      n < (varnishlog y (whole ++ [p])).length ∧
      (varnishlog y txs).take n = unlines (varnishlogLines y whole ++ before) ++ line.take k := by
  rw [varnishlog_eq] at hn
  obtain ⟨whole, p, rest, m, rfl, hm, hlen, htake⟩ :=
    Words.exists_take_flatMap (fun p => unlines (topLines y p)) hn
  obtain ⟨before, line, after, k, hlines, hk, -, hcut⟩ :=
    Words.exists_take_flatMap (fun line => line ++ ['\n']) hm
  simp only [← varnishlog_eq] at htake hlen
  refine ⟨whole, p, rest, before, line, after, k, rfl, hlines, by omega, ?_, ?_⟩
  · rw [varnishlog_eq, List.flatMap_append, List.length_append, ← varnishlog_eq, hlen,
      List.flatMap_singleton]
    omega
  · have hline : (line ++ ['\n']).take k = line.take k := by
      rw [List.length_append, List.length_singleton] at hk
      exact List.take_append_of_le_length (by omega)
    rw [htake, unlines, hcut, hline, varnishlog, unlines, unlines, List.flatMap_append,
      List.append_assoc]

/-- **The lines of an output that is cut** are those that were printed, and what is left of the last
one. -/
lemma lines_cut {whole rest : List (Tx × Bool)} {p : Tx × Bool} {before after : List Text}
    {line : Text} (hlines : topLines y p = before ++ line :: after)
    (htxs : ∀ q ∈ whole ++ p :: rest, q.1.Printable)
    (hsize : ∀ line ∈ varnishlogLines y (whole ++ p :: rest), lineSize line < maxTokenSize)
    (k : ℕ) :
    (newParser (unlines (varnishlogLines y whole ++ before) ++ line.take k)).lines =
      varnishlogLines y whole ++ (before ++ if line.take k = [] then [] else [line.take k]) := by
  -- every line that is left is printed, but for the last one
  have hmem : ∀ l ∈ varnishlogLines y whole ++ before ++ [line],
      l ∈ varnishlogLines y (whole ++ p :: rest) := by
    intro l hl
    have hall : varnishlogLines y (whole ++ p :: rest) =
        varnishlogLines y whole ++ (topLines y p ++ varnishlogLines y rest) := by
      rw [varnishlogLines, List.flatMap_append, List.flatMap_cons]
      rfl
    rw [hall, hlines]
    simp only [List.mem_append, List.mem_cons, List.not_mem_nil, or_false] at hl ⊢
    tauto
  rw [lines_newParser_append, List.append_assoc]
  · intro l hl
    rcases List.mem_cons.1 hl with rfl | hl
    · exact (unbroken_varnishlogLines y htxs line (hmem line (by simp))).take k
    · exact unbroken_varnishlogLines y htxs l (hmem l (List.mem_append_left _ hl))
  · intro l hl
    rcases List.mem_cons.1 hl with rfl | hl
    · exact (lineSize_take_le line k).trans_lt (hsize line (hmem line (by simp)))
    · exact hsize l (hmem l (List.mem_append_left _ hl))

/-- **What is parsed from an output that is cut.** Let `varnishlog` print any groups that a line
format can carry (`Tx.Printable`), of any depth and in any layout, with every line below the limit
of the scanner, and let its output end after any number of characters. The parser returns the groups
that were printed as a whole, cut off below level three as always, and at most one group more, which
is what it has of the next one.

**Proof sketch.** The cut falls within one group and there within one line (`exists_cut`). The
lines of the groups before it are read as without a cut (`parsed_varnishlog`), and the rest adds one
group at most (`run_cut`). -/
theorem parsed_take_varnishlog (txs : List (Tx × Bool)) (htxs : ∀ p ∈ txs, p.1.Printable)
    (hsize : ∀ line ∈ varnishlogLines y txs, lineSize line < maxTokenSize) (n : ℕ) :
    ∃ whole rest last, txs = whole ++ rest ∧ last.length ≤ 1 ∧
      (varnishlog y whole).length ≤ n ∧
      (∀ p ∈ rest.head?, n < (varnishlog y (whole ++ [p])).length) ∧
      parsed ((varnishlog y txs).take n) = (whole.map fun p => p.1.truncate 2) ++ last := by
  by_cases hn : (varnishlog y txs).length ≤ n
  · refine ⟨txs, [], [], by simp, Nat.zero_le _, hn, by simp, ?_⟩
    rw [List.take_of_length_le hn, parsed_varnishlog y htxs hsize, List.append_nil]
  obtain ⟨whole, p, rest, before, line, after, k, rfl, hlines, hle, hlt, htext⟩ :=
    exists_cut y (Nat.lt_of_not_le hn)
  have hprintable : ∀ q ∈ whole, q.1.Printable := fun q hq => htxs q (List.mem_append_left _ hq)
  have hshort : ∀ l ∈ varnishlogLines y whole, lineSize l < maxTokenSize := by
    intro l hl
    refine hsize l ?_
    rw [varnishlogLines, List.flatMap_append]
    exact List.mem_append_left _ hl
  have hwhole : parsed (varnishlog y whole) = Groups.run (varnishlogLines y whole) ⟨none, []⟩ := by
    rw [parsed_eq, varnishlog, unlines,
      newParser_flatMap (unbroken_varnishlogLines y hprintable) hshort]
  obtain ⟨last, hlast, hrun⟩ := run_cut y (varnishlogLines y whole) ⟨none, []⟩
    (htxs p (by simp)) hlines k
  refine ⟨whole, p :: rest, last, rfl, hlast, hle, fun q hq => ?_, ?_⟩
  · obtain rfl : p = q := by simpa using hq
    exact hlt
  · rw [parsed_eq, htext, lines_cut y hlines htxs hsize, hrun, ← hwhole,
      parsed_varnishlog y hprintable hshort]

end Cut

/-- The output of a request and its restart, cut in the middle of the second header. -/
theorem parsed_take_varnishlog_missAndRestart :
    ∃ whole rest last, missAndRestart = whole ++ rest ∧ last.length ≤ 1 ∧
      (varnishlog singleBlanks whole).length ≤ 130 ∧
      (∀ p ∈ rest.head?, 130 < (varnishlog singleBlanks (whole ++ [p])).length) ∧
      parsed ((varnishlog singleBlanks missAndRestart).take 130) =
        (whole.map fun p => p.1.truncate 2) ++ last :=
  parsed_take_varnishlog singleBlanks missAndRestart (by decide +kernel) (by decide +kernel) 130

end CloudVinyl.Vsl
