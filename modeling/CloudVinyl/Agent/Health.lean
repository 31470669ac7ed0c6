import CloudVinyl.Agent.Discards

set_option relaxedAutoImplicit false
set_option autoImplicit false

/-!
# Readiness of a pod

`Handler.Health` of `internal/agent/handler.go` is the readiness probe of a pod. It asks `ActiveVCL`
of `internal/agent/admin.go` for the name of the active VCL, and a pod is ready unless there is none
or it is the VCL that varnishd was started with.

`ActiveVCL` finds the name by its place in a row of `vcl.list`, whose rows may have further columns
behind the name.

## Main definitions

* `Agent.activeVCL`, `Agent.health` — the name or an error, and the answer of the probe.
* `Agent.Row`, `Agent.vclListBody` — a row of the table, and the table as it is printed.

## Main results

* `Agent.exists_rows` — every answer is a table.
* `Agent.activeVCL_eq_ok_iff`, `Agent.activeVCL_eq_error_iff` — what is found in a table.
* `Agent.health_vclList_iff` — a pod is ready just when its active VCL is another one than at the
  start.
* `Agent.health_active` — the probe is right about every table.
-/

namespace CloudVinyl.Agent

open Admin

/-! ## The probe -/

/-- `ActiveVCL`: the name of the active VCL, or why there is none; `quote` is the verb `%q`. -/
def activeVCL (quote : Text → Text) : Answer → Except Text Text
  | .failed err => .error err
  | .answered code body =>
    if code = 200 then
      match (body.splitOn '\n').findSome? activeRow with
      | some name => .ok name
      | none => .error ("no parseable active VCL in vcl.list output: " ++ quote body)
    else .error ("vcl.list failed (code " ++ Text.decimalInt code ++ "): " ++ body)

/-- A map of texts as JSON, its keys in order. -/
def mapResponse (entries : List (Text × Text)) : Text :=
  "\x7b" ++ [','].intercalate
    (entries.map fun e => Text.quoteJSON e.1 ++ ":" ++ Text.quoteJSON e.2) ++ "\x7d\n"

/-- `Handler.Health`, with what `ActiveVCL` has returned. -/
def health (active : Except Text Text) : Reply :=
  match active with
  | .error _ => ⟨503, mapResponse [("status", "error"), ("varnish", "not responding")]⟩
  | .ok name =>
    if name = "boot" then
      ⟨503, mapResponse [("status", "initializing"), ("varnish", "waiting for VCL push")]⟩
    else ⟨200, mapResponse [("status", "ok"), ("varnish", "running"), ("vcl", name)]⟩

/-- A pod is ready just when a name is found that is not the one of the start. -/
lemma status_health_iff {active : Except Text Text} :
    (health active).status = 200 ↔ ∃ name, active = .ok name ∧ name ≠ "boot" := by
  constructor
  · intro h
    cases active with
    | error err => exact absurd h (show 503 ≠ 200 by decide)
    | ok name =>
      refine ⟨name, rfl, fun hboot => ?_⟩
      rw [health, if_pos hboot] at h
      exact absurd h (show 503 ≠ 200 by decide)
  · rintro ⟨name, rfl, hboot⟩
    rw [health, if_neg hboot]

/-- A push asks for the same name, and ignores the error. -/
lemma activeVCL_eq_getD (quote : Text → Text) (a : Answer) :
    Admin.activeVCL a = (activeVCL quote a).toOption.getD [] := by
  cases a with
  | failed err => rfl
  | answered code body =>
    simp only [Admin.activeVCL, activeVCL]
    split_ifs with hcode
    · cases (body.splitOn '\n').findSome? activeRow with
      | none => rfl
      | some name => rfl
    · rfl

/-! ## Tables -/

/-- A line shows some columns with white space between them. -/
inductive Shows : List Text → Text → Prop where
  | blank {s : Text} (hs : ∀ c ∈ s, Text.isSpace c = true) : Shows [] s
  | column {s w r : Text} {ws : List Text} (hs : ∀ c ∈ s, Text.isSpace c = true) (hw : Plain w)
    (hr : ∀ c ∈ r.head?, Text.isSpace c = true) (hrest : Shows ws r) :
    Shows (w :: ws) (s ++ (w ++ r))

/-- The columns that a line shows are its fields. -/
lemma shows_iff {columns : List Text} {line : Text} :
    Shows columns line ↔ Text.fields line = columns := by
  constructor
  · intro h
    induction h with
    | blank hs => exact Words.words_of_forall _ hs
    | @column s w r ws hs hw hr _ ih =>
      exact (Words.words_eq_cons_iff _).2 ⟨s, r, rfl, hs, hw.1, hw.2, hr, ih⟩
  · intro h
    induction columns generalizing line with
    | nil => exact .blank ((Words.words_eq_nil_iff _).1 h)
    | cons w ws ih =>
      obtain ⟨s, r, rfl, hs, hne, hw, hr, hrest⟩ := (Words.words_eq_cons_iff _).1 h
      exact .column hs ⟨hne, hw⟩ hr (ih hrest)

/-- A row of `vcl.list`: the status, three more columns, the name and what may follow. A row may
also have fewer columns. -/
structure Row where
  columns : List Text
  line : Text
  shows : Shows columns line
  oneLine : '\n' ∉ line

/-- The row has the status `active`, and at least five columns. -/
def Row.IsActive (row : Row) : Prop :=
  row.columns.head? = some "active".toList ∧ 5 ≤ row.columns.length

/-- The fifth column. -/
def Row.name (row : Row) : Option Text := row.columns[4]?

/-- The rows as they are printed. -/
def vclListBody (rows : List Row) : Text := ['\n'].intercalate (rows.map Row.line)

/-- Every answer is such a table. -/
lemma exists_rows (body : Text) : ∃ rows, vclListBody rows = body := by
  let toRow (l : { line // line ∈ body.splitOn '\n' }) : Row :=
    ⟨Text.fields l.1, l.1, shows_iff.2 rfl, Words.not_mem_of_mem_splitOn '\n' l.2⟩
  have hlines : ((body.splitOn '\n').attach.map toRow).map Row.line = body.splitOn '\n' := by
    rw [List.map_map]
    exact List.attach_map_subtype_val _
  exact ⟨_, by rw [vclListBody, hlines, List.intercalate_splitOn]⟩

/-- A line of the list tells a name if its VCL is active. -/
lemma activeRow_line_iff {row : Row} {name : Text} :
    activeRow row.line = some name ↔ row.IsActive ∧ row.name = some name := by
  rw [activeRow, shows_iff.1 row.shows, Row.IsActive, Row.name]
  generalize "active".toList = active
  rcases row.columns with _ | ⟨a, _ | ⟨b, _ | ⟨c, _ | ⟨d, _ | ⟨e, rest⟩⟩⟩⟩⟩
  · simp
  · simp
  · simp
  · simp
  · simp
  · simp

/-- A row is passed over just when it is not the one of the active VCL. -/
lemma activeRow_line_eq_none_iff {row : Row} : activeRow row.line = none ↔ ¬row.IsActive := by
  constructor
  · intro hnone hactive
    have hname : row.name = some (row.columns.get ⟨4, hactive.2⟩) := List.getElem?_eq_getElem _
    rw [activeRow_line_iff.2 ⟨hactive, hname⟩] at hnone
    cases hnone
  · intro hnot
    cases hrow : activeRow row.line with
    | none => rfl
    | some name => exact absurd (activeRow_line_iff.1 hrow).1 hnot

/-- The lines of the table are its rows. -/
lemma findSome_vclListBody (rows : List Row) :
    ((vclListBody rows).splitOn '\n').findSome? activeRow =
      rows.findSome? fun row => activeRow row.line := by
  cases rows with
  | nil => rfl
  | cons row rows =>
    have hlines : ∀ line ∈ (row :: rows).map Row.line, '\n' ∉ line := by
      intro line hline
      obtain ⟨r, -, rfl⟩ := List.mem_map.1 hline
      exact r.oneLine
    rw [vclListBody, List.splitOn_intercalate '\n' hlines (by simp), List.findSome?_map]
    rfl

section Tables

variable (quote : Text → Text) {rows : List Row}

/-- What `ActiveVCL` makes of a table. -/
lemma activeVCL_body (rows : List Row) :
    activeVCL quote (.answered 200 (vclListBody rows)) =
      match rows.findSome? fun row => activeRow row.line with
      | some name => .ok name
      | none => .error
        ("no parseable active VCL in vcl.list output: " ++ quote (vclListBody rows)) := by
  rw [activeVCL, if_pos rfl, findSome_vclListBody]

/-- The name is the one in the first row of an active VCL. -/
theorem activeVCL_eq_ok_iff {name : Text} :
    activeVCL quote (.answered 200 (vclListBody rows)) = .ok name ↔
      ∃ before row after, rows = before ++ row :: after ∧ (∀ r ∈ before, ¬r.IsActive) ∧
        row.IsActive ∧ row.name = some name := by
  have hfind : activeVCL quote (.answered 200 (vclListBody rows)) = .ok name ↔
      rows.findSome? (fun row => activeRow row.line) = some name := by
    rw [activeVCL_body]
    cases rows.findSome? fun row => activeRow row.line with
    | none => simp
    | some found => simp
  rw [hfind, List.findSome?_eq_some_iff]
  simp only [activeRow_line_iff, activeRow_line_eq_none_iff]
  constructor
  · rintro ⟨before, row, after, hrows, hrow, hbefore⟩
    exact ⟨before, row, after, hrows, hbefore, hrow⟩
  · rintro ⟨before, row, after, hrows, hbefore, hrow⟩
    exact ⟨before, row, after, hrows, hrow, hbefore⟩

/-- There is an error just when no row is the one of an active VCL. -/
theorem activeVCL_eq_error_iff :
    (∃ err, activeVCL quote (.answered 200 (vclListBody rows)) = .error err) ↔
      ∀ row ∈ rows, ¬row.IsActive := by
  have hfind : (∃ err, activeVCL quote (.answered 200 (vclListBody rows)) = .error err) ↔
      rows.findSome? (fun row => activeRow row.line) = none := by
    rw [activeVCL_body]
    cases rows.findSome? fun row => activeRow row.line with
    | none => simp
    | some found => simp
  rw [hfind, List.findSome?_eq_none_iff]
  simp only [activeRow_line_eq_none_iff]

/-- An answer with another code has no name. -/
lemma code_of_activeVCL_eq_ok {code : ℤ} {body name : Text}
    (h : activeVCL quote (.answered code body) = .ok name) : code = 200 := by
  by_contra hcode
  rw [activeVCL, if_neg hcode] at h
  cases h

/-- **Readiness does not lie about the VCL.** For every table the probe answers 200 only if some row
has the status `active`, at least five columns and another name than `boot`. `ActiveVCL` returns the
name of the first active row with at least five columns, and an error just when there is none. -/
theorem health_active (quote : Text → Text) (rows : List Row) :
    (∀ code, (health (activeVCL quote (.answered code (vclListBody rows)))).status = 200 →
      ∃ row ∈ rows, row.IsActive ∧ ∃ name, row.name = some name ∧ name ≠ "boot") ∧
    (∀ name, activeVCL quote (.answered 200 (vclListBody rows)) = .ok name ↔
      ∃ before row after, rows = before ++ row :: after ∧ (∀ r ∈ before, ¬r.IsActive) ∧
        row.IsActive ∧ row.name = some name) ∧
    ((∃ err, activeVCL quote (.answered 200 (vclListBody rows)) = .error err) ↔
      ∀ row ∈ rows, ¬row.IsActive) := by
  refine ⟨fun code hready => ?_, fun _ => activeVCL_eq_ok_iff quote, activeVCL_eq_error_iff quote⟩
  obtain ⟨name, hname, hboot⟩ := status_health_iff.1 hready
  obtain rfl := code_of_activeVCL_eq_ok quote hname
  obtain ⟨before, row, after, rfl, -, hrow, hcolumn⟩ := (activeVCL_eq_ok_iff quote).1 hname
  exact ⟨row, by simp, hrow, name, hcolumn, hboot⟩

end Tables

/-- A name that starts like the status, and columns behind the name. -/
example : activeVCL id (.answered 200 ("available   auto   warm   0   active-config\n" ++
    "active      label  warm   0   live   ->   boot\n")) = .ok "live" := by
  decide +kernel

/-! ## varnishd -/

/-- **A pod is ready** just when its active VCL is another one than `boot`. -/
theorem health_vclList_iff (quote : Text → Text) {v : Varnishd}
    (h : ∀ name ∈ v.loaded, Plain name) :
    (health (activeVCL quote v.vclList.1)).status = 200 ↔ v.active ≠ "boot" := by
  have hactive : activeVCL quote v.vclList.1 = .ok v.active := by
    have hname := activeVCL_vclList h
    rw [activeVCL_eq_getD quote] at hname
    have hne : v.active ≠ [] := (h _ (List.contains_iff_mem.1 v.active_loaded)).1
    cases hresult : activeVCL quote v.vclList.1 with
    | error err =>
      rw [hresult] at hname
      exact absurd hname.symm hne
    | ok name =>
      rw [hresult] at hname
      exact congrArg Except.ok hname
  rw [status_health_iff, hactive]
  simp

end CloudVinyl.Agent
