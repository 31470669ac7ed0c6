import CloudVinyl.Agent.Push
import CloudVinyl.Lib.Runs

set_option relaxedAutoImplicit false
set_option autoImplicit false

/-!
# The VCLs that stay loaded

A push leaves the VCL that it replaces to a delayed `vcl.discard`. Here the agent serves one push
after the other, command by command, while the discards of earlier pushes run at any time. What
is loaded besides the active VCL has to be waiting for its discard, or it stays loaded for good.

## Main definitions

* `Admin.Agent`, `Admin.Agent.step` — an agent with the push that it serves.
* `Admin.Agent.Tidy` — the condition under which a step leaves nothing behind.

## Main results

* `Admin.activeVCL_vclList` — `ActiveVCL` reads the active name off the list.
* `Admin.only_active_loaded` — along tidy runs, once the discards have run only the active VCL is
  loaded.
-/

namespace CloudVinyl.Admin

/-! ## Reading the list -/

/-- A name that a row of `vcl.list` shows as one column. -/
def Plain (name : Text) : Prop := name ≠ [] ∧ ∀ c ∈ name, Text.isSpace c = false

/-- Whether a name is plain can be decided. -/
instance (name : Text) : Decidable (Plain name) :=
  decidable_of_iff (name ≠ [] ∧ (name.all fun c => !Text.isSpace c) = true) (by simp [Plain])

/-- The row of a VCL in `vcl.list`, without its end. -/
def row (active name : Text) : Text :=
  (if name = active then "active   auto   warm   0   " else "available   auto   warm   0   ") ++
    name

/-- The fields of a row. -/
lemma fields_row {active name : Text} (h : Plain name) :
    Text.fields (row active name) =
      (if name = active then ("active" : Text) else "available") ::
        ["auto", "warm", "0", name] := by
  have hname : Words.words Text.isSpace name = [name] := Words.words_of_forall_not _ h.1 h.2
  -- the columns before the name end in a blank
  have hcolumns : ∀ {l columns : Text} {w : List Text}, columns = l ++ [' '] →
      Words.words Text.isSpace l = w → Text.fields (columns ++ name) = w ++ [name] := by
    rintro l columns w rfl rfl
    rw [Text.fields, List.append_assoc, List.singleton_append,
      Words.words_append_cons _ _ _ (by decide), hname]
  unfold row
  split_ifs
  · exact hcolumns (l := "active   auto   warm   0  ") (w := ["active", "auto", "warm", "0"])
      (by decide) (by decide)
  · exact hcolumns (l := "available   auto   warm   0  ")
      (w := ["available", "auto", "warm", "0"]) (by decide) (by decide)

/-- The row of the active VCL tells its name, and no other one does. -/
lemma activeRow_row {active name : Text} (h : Plain name) :
    activeRow (row active name) = if name = active then some name else none := by
  unfold activeRow
  rw [fields_row h]
  split_ifs with heq
  · rfl
  · rfl

/-- A row is one line. -/
lemma newline_notMem_row {active name : Text} (h : Plain name) : '\n' ∉ row active name := by
  have hname : '\n' ∉ name := fun hmem => absurd (h.2 _ hmem) (by decide)
  unfold row
  rw [List.mem_append, not_or]
  split_ifs
  · exact ⟨by decide, hname⟩
  · exact ⟨by decide, hname⟩

/-- The first row that is marked is the one of the active VCL. -/
lemma findSome_activeRow {active : Text} {names : List Text} (h : ∀ name ∈ names, Plain name)
    (hactive : active ∈ names) (r : List Text) :
    (names.map (row active) ++ r).findSome? activeRow = some active := by
  induction names with
  | nil => cases hactive
  | cons name names ih =>
    rw [List.map_cons, List.cons_append, List.findSome?_cons, activeRow_row (h name (by simp))]
    by_cases heq : name = active
    · rw [if_pos heq, heq]
    · rw [if_neg heq]
      have hrest : active ∈ names := (List.mem_cons.1 hactive).resolve_left (Ne.symm heq)
      exact ih (fun n hn => h n (by simp [hn])) hrest

/-- **`ActiveVCL` reads the active name** off the list of VCLs whose names are plain. -/
theorem activeVCL_vclList {v : Varnishd} (h : ∀ name ∈ v.loaded, Plain name) :
    activeVCL v.vclList.1 = v.active := by
  have hlines : (v.loaded.flatMap fun name => row v.active name ++ ['\n']).splitOn '\n' =
      v.loaded.map (row v.active) ++ [[]] := by
    rw [← Words.splitOn_flatMap, List.flatMap_map]
    intro line hline
    obtain ⟨name, hname, rfl⟩ := List.mem_map.1 hline
    exact newline_notMem_row (h name hname)
  have hbody : activeVCL v.vclList.1 =
      (((v.loaded.flatMap fun name => row v.active name ++ ['\n']).splitOn '\n').findSome?
        activeRow).getD [] := rfl
  rw [hbody, hlines, findSome_activeRow h (List.contains_iff_mem.1 v.active_loaded)]
  rfl

/-! ## An agent that serves one push after the other -/

/-- An agent with the push that it serves: its name, what it does next, and whether its `vcl.list`
was answered. -/
structure Agent where
  pod : PodState
  name : Text
  stage : Stage
  listed : Bool

/-- An agent before its first push. -/
def idleAgent (v : Varnishd) : Agent := ⟨⟨v, []⟩, [], .returned none, false⟩

/-- A push begins, the push that is served does its next command, or a delayed `vcl.discard` is
sent, which varnishd answers. -/
inductive AgentEvent where
  | push (name : Text)
  | exchange (o : Outcome)
  | discard (i : ℕ)

/-- No push is served. -/
def Agent.isIdle (a : Agent) : Bool :=
  match a.stage with
  | .rejected => true
  | .returned _ => true
  | _ => false

/-- One event; a push begins when the one before has returned. -/
def Agent.step (a : Agent) : AgentEvent → Agent
  | .push name =>
    if a.isIdle then { a with name := name, stage := .activeVCL, listed := false } else a
  | .exchange o =>
    let r := pushVCLStep a.name o a.stage a.pod
    { a with
      pod := r.2
      stage := r.1
      listed := if a.stage = .activeVCL then o.isAnswered else a.listed }
  | .discard i => { a with pod := discardStep i .answered a.pod }

/-- varnishd carries out the command. -/
def Outcome.isCarriedOut : Outcome → Bool
  | .failedBefore _ => false
  | _ => true

/-- The condition under which a step leaves nothing behind: a pushed name is plain; a `vcl.inline`
that loads its VCL is answered, and so was the `vcl.list` before it; a `vcl.use` is answered. -/
def Agent.Tidy (a : Agent) : AgentEvent → Prop
  | .push name => Plain name
  | .exchange o =>
    (a.stage.isInline = true → o.isCarriedOut = true →
      a.pod.varnishd.loaded.contains a.name = false → o.isAnswered = true ∧ a.listed = true) ∧
    (a.stage.isUse = true → o.isAnswered = true)
  | .discard _ => True

/-! ## What the commands do to the loaded VCLs -/

section Commands

variable {name : Text} {o : Outcome} {v : Varnishd}

/-- A command that did not succeed has an error. -/
lemma commandError_of_not_ok (command : Text) {a : Answer} (h : a.ok = false) :
    ∃ err, commandError command a = some err := by
  refine Option.ne_none_iff_exists'.1 fun hnone => ?_
  rw [commandError_eq_none_iff, h] at hnone
  cases hnone

/-- A `vcl.inline` changes nothing and does not succeed, or it loads a name that was not there. -/
lemma Outcome.perform_vclInline_cases (o : Outcome) (name : Text) (v : Varnishd) :
    ((o.perform (Varnishd.vclInline name) v).2 = v ∧
      (o.perform (Varnishd.vclInline name) v).1.ok = false) ∨
    (o.isCarriedOut = true ∧ v.loaded.contains name = false ∧
      (o.perform (Varnishd.vclInline name) v).2.loaded = v.loaded ++ [name] ∧
      (o.isAnswered = true → (o.perform (Varnishd.vclInline name) v).1 = .answered 200 [])) := by
  cases hname : v.loaded.contains name with
  | true =>
    left
    have hinline : Varnishd.vclInline name v =
        (.answered 106 (alreadyLoaded ++ " " ++ name), v) := by
      unfold Varnishd.vclInline
      rw [if_pos hname]
    cases o with
    | answered =>
      rw [perform, hinline]
      exact ⟨rfl, rfl⟩
    | failedBefore f => exact ⟨rfl, f.not_ok⟩
    | failedAfter f =>
      rw [perform, hinline]
      exact ⟨rfl, f.not_ok⟩
  | false =>
    have hloaded : (Varnishd.vclInline name v).2.loaded = v.loaded ++ [name] := by
      unfold Varnishd.vclInline
      rw [if_neg (by rw [hname]; decide)]
    have hanswer : (Varnishd.vclInline name v).1 = .answered 200 [] := by
      unfold Varnishd.vclInline
      rw [if_neg (by rw [hname]; decide)]
    cases o with
    | answered => exact .inr ⟨rfl, rfl, hloaded, fun _ => hanswer⟩
    | failedBefore f => exact .inl ⟨rfl, f.not_ok⟩
    | failedAfter f => exact .inr ⟨rfl, rfl, hloaded, fun h => by cases h⟩

/-- An answered `vcl.use` activates its VCL or, if that is not loaded, does nothing. -/
lemma vclUse_cases (name : Text) (v : Varnishd) :
    ((Varnishd.vclUse name v).1 = .answered 200 [] ∧ (Varnishd.vclUse name v).2.active = name ∧
      (Varnishd.vclUse name v).2.loaded = v.loaded) ∨
    ((Varnishd.vclUse name v).1.ok = false ∧ (Varnishd.vclUse name v).2 = v ∧ name ∉ v.loaded) := by
  unfold Varnishd.vclUse
  split_ifs with h
  · exact .inl ⟨rfl, rfl, rfl⟩
  · exact .inr ⟨rfl, rfl, fun hmem => h (List.contains_iff_mem.2 hmem)⟩

/-- An answered `vcl.discard` leaves its VCL loaded only if it is the active one. -/
lemma mem_loaded_vclDiscard {n : Text} (h : n ∈ (Varnishd.vclDiscard name v).2.loaded) :
    n ∈ v.loaded ∧ (n = name → n = v.active) := by
  unfold Varnishd.vclDiscard at h
  split_ifs at h with hcond
  · obtain ⟨hmem, hne⟩ := List.mem_filter.1 h
    exact ⟨hmem, fun heq => absurd heq (by simpa using hne)⟩
  · refine ⟨h, fun heq => ?_⟩
    subst heq
    by_contra hactive
    exact hcond ⟨List.contains_iff_mem.2 h, Ne.symm hactive⟩

end Commands

/-! ## Nothing is left behind -/

namespace Agent

/-- What is loaded is active, waits for its discard, or is about to be activated; and the push
that is served knows the active VCL. -/
structure Kept (a : Agent) : Prop where
  plain : ∀ n ∈ a.pod.varnishd.loaded, Plain n
  name : a.isIdle = false → Plain a.name
  inline : ∀ old, a.stage = .inline old → a.listed = true → old = a.pod.varnishd.active
  use : ∀ old, a.stage = .use old → old = a.pod.varnishd.active
  loaded : ∀ n ∈ a.pod.varnishd.loaded,
    n = a.pod.varnishd.active ∨ n ∈ a.pod.discards ∨ (a.stage.isUse = true ∧ n = a.name)

variable {a : Agent}

/-- A push that returns without a change has to leave nothing to activate. -/
lemma kept_returned {p : PodState} {err : Option Text} (hplain : ∀ n ∈ p.varnishd.loaded, Plain n)
    (hloaded : ∀ n ∈ p.varnishd.loaded, n = p.varnishd.active ∨ n ∈ p.discards) (name : Text)
    (listed : Bool) : Kept ⟨p, name, .returned err, listed⟩ where
  plain := hplain
  name := fun h => by cases h
  inline := fun old h => by cases h
  use := fun old h => by cases h
  loaded := fun n hn => (hloaded n hn).imp_right .inl

/-- The exchange that asks for the active VCL. -/
lemma kept_exchange_activeVCL (h : a.Kept) (hstage : a.stage = .activeVCL) (o : Outcome) :
    (a.step (.exchange o)).Kept := by
  obtain ⟨p, name, stage, listed⟩ := a
  subst hstage
  have hsame : (o.perform Varnishd.vclList p.varnishd).2 = p.varnishd := by cases o <;> rfl
  have hpod : ((⟨p, name, .activeVCL, listed⟩ : Agent).step (.exchange o)).pod = p := by
    simp only [step, pushVCLStep, hsame]
  constructor
  · rw [hpod]
    exact h.plain
  · exact fun _ => h.name rfl
  · rintro old hold hlisted
    rw [hpod]
    -- an answered list tells the active name
    obtain rfl : o = .answered := by cases o <;> first | rfl | cases hlisted
    obtain rfl := Stage.inline.inj hold
    exact activeVCL_vclList h.plain
  · rintro old hold
    cases hold
  · rw [hpod]
    exact fun n hn => (h.loaded n hn).imp_right fun hor => hor.imp_right fun hu => by cases hu.1

/-- The exchange that loads the VCL. -/
lemma kept_exchange_inline (h : a.Kept) {old : Text} (hstage : a.stage = .inline old) {o : Outcome}
    (htidy : a.Tidy (.exchange o)) : (a.step (.exchange o)).Kept := by
  obtain ⟨p, name, stage, listed⟩ := a
  subst hstage
  have hwait : ∀ n ∈ p.varnishd.loaded, n = p.varnishd.active ∨ n ∈ p.discards := fun n hn =>
    (h.loaded n hn).imp_right fun hor => hor.resolve_right fun hu => by cases hu.1
  rcases o.perform_vclInline_cases name p.varnishd with ⟨hsame, hok⟩ | ⟨hdone, hnew, hloaded, hans⟩
  · -- nothing is loaded, and the push returns
    obtain ⟨err, herr⟩ := commandError_of_not_ok "vcl.inline" hok
    have hstep : (⟨p, name, .inline old, listed⟩ : Agent).step (.exchange o) =
        ⟨p, name, .returned (some err), listed⟩ := by
      simp only [step, pushVCLStep, hsame, herr, reduceCtorEq, if_false]
    rw [hstep]
    exact kept_returned h.plain hwait name listed
  · obtain ⟨ho, hlisted⟩ := htidy.1 rfl hdone hnew
    have hactive : (o.perform (Varnishd.vclInline name) p.varnishd).2.active = p.varnishd.active :=
      Outcome.active_perform Varnishd.active_vclInline
    have hstep : (⟨p, name, .inline old, listed⟩ : Agent).step (.exchange o) =
        ⟨⟨(o.perform (Varnishd.vclInline name) p.varnishd).2, p.discards⟩, name, .use old,
          listed⟩ := by
      simp only [step, pushVCLStep, hans ho, commandError, if_true, reduceCtorEq, if_false]
    rw [hstep]
    constructor
    · intro n hn
      rw [hloaded, List.mem_append] at hn
      rcases hn with hn | hn
      · exact h.plain n hn
      · rw [List.mem_singleton.1 hn]
        exact h.name rfl
    · exact fun _ => h.name rfl
    · rintro old' hold'
      cases hold'
    · rintro old' hold'
      obtain rfl := Stage.use.inj hold'
      exact (h.inline _ rfl hlisted).trans hactive.symm
    · intro n hn
      rw [hloaded, List.mem_append] at hn
      rcases hn with hn | hn
      · exact (hwait n hn).imp (fun heq => heq.trans hactive.symm) .inl
      · exact .inr (.inr ⟨rfl, List.mem_singleton.1 hn⟩)

/-- The exchange that activates the VCL. -/
lemma kept_exchange_use (h : a.Kept) {old : Text} (hstage : a.stage = .use old) {o : Outcome}
    (htidy : a.Tidy (.exchange o)) : (a.step (.exchange o)).Kept := by
  obtain ⟨p, name, stage, listed⟩ := a
  subst hstage
  obtain rfl : o = .answered := by
    have ho := htidy.2 rfl
    cases o <;> first | rfl | cases ho
  have hold : old = p.varnishd.active := h.use old rfl
  have holdne : old ≠ [] := by
    rw [hold]
    exact (h.plain _ (List.contains_iff_mem.1 p.varnishd.active_loaded)).1
  rcases vclUse_cases name p.varnishd with ⟨hans, hactive, hloaded⟩ | ⟨hok, hsame, hnot⟩
  · -- the VCL is active, and the one that was active waits for its discard
    have hstep : (⟨p, name, .use old, listed⟩ : Agent).step (.exchange .answered) =
        ⟨⟨(Varnishd.vclUse name p.varnishd).2,
          if old ≠ [] ∧ old ≠ name then p.discards ++ [old] else p.discards⟩, name,
          .returned none, listed⟩ := by
      simp only [step, pushVCLStep, Outcome.perform, hans, commandError, if_true, reduceCtorEq,
        if_false]
    rw [hstep]
    refine kept_returned (fun n hn => h.plain n (hloaded ▸ hn)) (fun n hn => ?_) name listed
    rw [hactive]
    rcases h.loaded n (hloaded ▸ hn) with heq | hdiscard | ⟨-, heq⟩
    · by_cases hname : old = name
      · exact .inl (heq.trans (hold.symm.trans hname))
      · right
        rw [if_pos ⟨holdne, hname⟩, heq, ← hold]
        simp
    · right
      split_ifs
      · exact List.mem_append_left _ hdiscard
      · exact hdiscard
    · exact .inl heq
  · -- the VCL is gone, and the push returns
    obtain ⟨err, herr⟩ := commandError_of_not_ok "vcl.use" hok
    have hstep : (⟨p, name, .use old, listed⟩ : Agent).step (.exchange .answered) =
        ⟨p, name, .returned (some err), listed⟩ := by
      simp only [step, pushVCLStep, Outcome.perform, herr, hsame, reduceCtorEq, if_false]
    rw [hstep]
    refine kept_returned h.plain (fun n hn => ?_) name listed
    have hne : n ≠ name := fun heq => hnot (heq ▸ hn)
    exact (h.loaded n hn).imp_right fun hor => hor.resolve_right fun hu => hne hu.2

/-- A discard. -/
lemma kept_discard (h : a.Kept) (i : ℕ) : (a.step (.discard i)).Kept := by
  obtain ⟨p, name, stage, listed⟩ := a
  have hactive : (discardStep i .answered p).varnishd.active = p.varnishd.active :=
    active_discardStep i
  -- what is still loaded was loaded before, and waits if it waited, unless it is active
  have hkey : ∀ n ∈ (discardStep i .answered p).varnishd.loaded, n ∈ p.varnishd.loaded ∧
      (n ∈ p.discards → n = p.varnishd.active ∨ n ∈ (discardStep i .answered p).discards) := by
    intro n hn
    unfold discardStep at hn ⊢
    split at hn
    case h_1 => exact ⟨hn, .inr⟩
    case h_2 d hd =>
      obtain ⟨hmem, hself⟩ := mem_loaded_vclDiscard hn
      refine ⟨hmem, fun hwait => ?_⟩
      by_cases heq : n = d
      · exact .inl (hself heq)
      · right
        obtain ⟨j, hj⟩ := List.mem_iff_getElem?.1 hwait
        refine List.mem_eraseIdx_iff_getElem?.2 ⟨j, fun hij => heq ?_, hj⟩
        rw [hij, hd] at hj
        exact (Option.some.inj hj).symm
  constructor
  · exact fun n hn => h.plain n (hkey n hn).1
  · exact h.name
  · exact fun old hold hlisted => (h.inline old hold hlisted).trans hactive.symm
  · exact fun old hold => (h.use old hold).trans hactive.symm
  · intro n hn
    show n = (discardStep i .answered p).varnishd.active ∨ _
    rw [hactive]
    rcases h.loaded n (hkey n hn).1 with heq | hwait | huse
    · exact .inl heq
    · exact ((hkey n hn).2 hwait).imp_right .inl
    · exact .inr (.inr huse)

/-- An idle agent does not activate a VCL. -/
lemma not_isUse_of_isIdle (h : a.isIdle = true) : a.stage.isUse = false := by
  unfold isIdle at h
  split at h
  case h_1 hs => rw [hs]; rfl
  case h_2 hs => rw [hs]; rfl
  case h_3 => cases h

/-- An idle agent has no exchange. -/
lemma step_exchange_of_isIdle (h : a.isIdle = true) (o : Outcome) : a.step (.exchange o) = a := by
  obtain ⟨p, name, stage, listed⟩ := a
  unfold isIdle at h
  split at h
  case h_1 hs => subst hs; rfl
  case h_2 hs => subst hs; rfl
  case h_3 => cases h

/-- A push begins. -/
lemma kept_push (h : a.Kept) {name : Text} (hname : Plain name) : (a.step (.push name)).Kept := by
  by_cases hidle : a.isIdle = true
  · have hstep : a.step (.push name) =
        { a with name := name, stage := .activeVCL, listed := false } :=
      if_pos hidle
    rw [hstep]
    constructor
    · exact h.plain
    · exact fun _ => hname
    · rintro old hold
      cases hold
    · rintro old hold
      cases hold
    · refine fun n hn => (h.loaded n hn).imp_right fun hor => .inl (hor.resolve_right fun hu => ?_)
      exact Bool.false_ne_true ((not_isUse_of_isIdle hidle).symm.trans hu.1)
  · have hstep : a.step (.push name) = a := if_neg hidle
    rw [hstep]
    exact h

/-- A tidy step leaves nothing behind. -/
lemma kept_step (h : a.Kept) {ev : AgentEvent} (htidy : a.Tidy ev) : (a.step ev).Kept := by
  cases ev with
  | push name => exact kept_push h htidy
  | discard i => exact kept_discard h i
  | exchange o =>
    cases hstage : a.stage with
    | activeVCL => exact kept_exchange_activeVCL h hstage o
    | inline old => exact kept_exchange_inline h hstage htidy
    | use old => exact kept_exchange_use h hstage htidy
    | rejected =>
      have hidle : a.isIdle = true := by rw [isIdle, hstage]
      rw [step_exchange_of_isIdle hidle]
      exact h
    | returned err =>
      have hidle : a.isIdle = true := by rw [isIdle, hstage]
      rw [step_exchange_of_isIdle hidle]
      exact h

end Agent

/-- **No VCL is leaked along tidy runs.** An agent starts with only the active VCL loaded, under a
plain name, and serves pushes one after the other, with any failures that are tidy and the delayed
discards at any time. Whenever no push is served and no discard is left, the active VCL is the only
one that is loaded.

**Proof sketch.** What is loaded is the active VCL, waits for its discard, or is about to be
activated by the push that is served (`Agent.Kept`). A push that loads its VCL knows the active one,
since its `vcl.list` was answered, and leaves it to a discard when it activates its own. -/
theorem only_active_loaded (v : Varnishd) (hstart : ∀ n ∈ v.loaded, n = v.active)
    (hplain : Plain v.active) (events : List AgentEvent)
    (htidy : Runs.Guarded Agent.step Agent.Tidy (idleAgent v) events)
    (hidle : (events.foldl Agent.step (idleAgent v)).isIdle = true)
    (hdone : (events.foldl Agent.step (idleAgent v)).pod.discards = []) :
    ∀ n ∈ (events.foldl Agent.step (idleAgent v)).pod.varnishd.loaded,
      n = (events.foldl Agent.step (idleAgent v)).pod.varnishd.active := by
  have hinit : (idleAgent v).Kept := by
    refine Agent.kept_returned (fun n hn => ?_) (fun n hn => .inl (hstart n hn)) _ _
    rw [hstart n hn]
    exact hplain
  have hkept := Runs.invariant (I := Agent.Kept) (fun a ev h ht => Agent.kept_step h ht) hinit htidy
  intro n hn
  rcases hkept.loaded n hn with heq | hwait | ⟨huse, -⟩
  · exact heq
  · rw [hdone] at hwait
    cases hwait
  · exact absurd huse (by rw [Agent.not_isUse_of_isIdle hidle]; decide)

/-- A push whose commands are all answered, and the discard that it leaves. -/
def pushAndDiscard : List AgentEvent :=
  [.push "prod-shop-1", .exchange .answered, .exchange .answered, .exchange .answered, .discard 0]

/-- After it only the new VCL is loaded. -/
theorem only_active_loaded_pushAndDiscard :
    ((pushAndDiscard.foldl Agent.step (idleAgent bootVarnishd)).pod.varnishd.loaded.all fun n =>
      n = (pushAndDiscard.foldl Agent.step (idleAgent bootVarnishd)).pod.varnishd.active) =
        true := by
  rw [List.all_eq_true]
  intro n hn
  rw [decide_eq_true_eq]
  refine only_active_loaded bootVarnishd (by decide) (by decide) pushAndDiscard ?_ ?_ ?_ n hn
  · refine ⟨?_, ⟨?_, ?_⟩, ⟨?_, ?_⟩, ⟨?_, ?_⟩, trivial, trivial⟩
    · show Plain _
      decide
    all_goals decide
  · decide
  · decide

/-- The connection breaks before varnishd has read the command. -/
def brokenPipe : Failure := ⟨.failed "broken pipe", rfl, by decide⟩

/-- A push whose `vcl.use` fails after its `vcl.inline` has loaded the VCL. -/
def failedUse : List AgentEvent :=
  [.push "prod-shop-1", .exchange .answered, .exchange .answered,
    .exchange (.failedBefore brokenPipe)]

/-- It leaves its VCL loaded, and no discard that would remove it. -/
theorem failedUse_leaks :
    (failedUse.foldl Agent.step (idleAgent bootVarnishd)).isIdle = true ∧
      (failedUse.foldl Agent.step (idleAgent bootVarnishd)).pod.discards = [] ∧
      (failedUse.foldl Agent.step (idleAgent bootVarnishd)).pod.varnishd.active = "boot" ∧
      (failedUse.foldl Agent.step (idleAgent bootVarnishd)).pod.varnishd.loaded =
        ["boot", "prod-shop-1"] := by
  refine ⟨?_, ?_, ?_, ?_⟩ <;> decide

end CloudVinyl.Admin
