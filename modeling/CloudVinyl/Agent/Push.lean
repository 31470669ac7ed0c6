import CloudVinyl.Lib.Strings

set_option relaxedAutoImplicit false
set_option autoImplicit false

/-!
# Pushing a VCL through the agent

`PushVCL` of `internal/agent/admin.go`: it asks for the active VCL, loads the new one with
`vcl.inline`, activates it with `vcl.use`, and discards the old one some seconds later. Each of
the commands is one exchange with varnishd, and commands of other pushes may come between them. So
a push is a machine that does one command at a time.

Of varnishd only the loaded names and the active one matter. Any exchange may fail, before or
after varnishd has carried out the command.

## Main definitions

* `Admin.Varnishd` — the loaded VCLs, with the active one among them.
* `Admin.Outcome` — how an exchange with varnishd ends.
* `Admin.Stage`, `Admin.pushVCLStep` — a push, command by command.
* `Admin.startPush`, `Admin.Stage.reply` — the handler: how a push starts, and its answer.

## Main results

* `Admin.active_pushVCLStep` — only `vcl.use` changes the active VCL.
* `Admin.returned_of_pushVCLStep` — what the command before the return of a push has done.
-/

namespace CloudVinyl.Admin

/-! ## varnishd -/

/-- The answer to a command: an error of the exchange, or a code and a text. -/
inductive Answer where
  | failed (err : Text)
  | answered (code : ℤ) (msg : Text)

/-- varnishd has answered, and with success. -/
def Answer.ok : Answer → Bool
  | .failed _ => false
  | .answered code _ => code = 200

/-- The text of the answer, or that of the error. -/
def Answer.text : Answer → Text
  | .failed err => err
  | .answered _ msg => msg

/-- How varnishd begins its answer to a `vcl.inline` of a name that is loaded. -/
def alreadyLoaded : Text := "Already a VCL named"

/-- The loaded VCLs by their names, and the active one, which is among them. -/
structure Varnishd where
  loaded : List Text
  active : Text
  active_loaded : loaded.contains active = true

namespace Varnishd

/-- `vcl.list`: a row for each VCL. -/
def vclList (v : Varnishd) : Answer × Varnishd :=
  (.answered 200 (v.loaded.flatMap fun name =>
    (if name = v.active then "active   auto   warm   0   " else "available   auto   warm   0   ") ++
      name ++ "\n"), v)

/-- `vcl.inline`: load a VCL under a name that is not taken. -/
def vclInline (name : Text) (v : Varnishd) : Answer × Varnishd :=
  if v.loaded.contains name then (.answered 106 (alreadyLoaded ++ " " ++ name), v)
  else
    (.answered 200 [],
      { v with
        loaded := v.loaded ++ [name]
        active_loaded := by simpa using Or.inl (List.contains_iff_mem.1 v.active_loaded) })

/-- `vcl.use`: activate a loaded VCL. -/
def vclUse (name : Text) (v : Varnishd) : Answer × Varnishd :=
  if h : v.loaded.contains name = true then
    (.answered 200 [], { v with active := name, active_loaded := h })
  else (.answered 106 "No such VCL", v)

/-- `vcl.discard`: remove a loaded VCL that is not active. -/
def vclDiscard (name : Text) (v : Varnishd) : Answer × Varnishd :=
  if h : v.loaded.contains name = true ∧ v.active ≠ name then
    (.answered 200 [],
      { v with
        loaded := v.loaded.filter (· ≠ name)
        active_loaded := by
          have hactive := List.contains_iff_mem.1 v.active_loaded
          simpa using ⟨hactive, h.2⟩ })
  else (.answered 106 "Cannot discard", v)

end Varnishd

/-- A varnishd that has loaded its boot VCL only. -/
def bootVarnishd : Varnishd := ⟨["boot"], "boot", rfl⟩

/-! ## Exchanges -/

/-- An answer that reports a failure other than that of a name which is taken. -/
structure Failure where
  answer : Answer
  not_ok : answer.ok = false
  unmarked : ¬alreadyLoaded <:+: answer.text

/-- How an exchange ends: varnishd carries out the command and its answer arrives, or the exchange
fails before or after varnishd has carried it out. -/
inductive Outcome where
  | answered
  | failedBefore (f : Failure)
  | failedAfter (f : Failure)

/-- The answer has arrived. -/
def Outcome.isAnswered : Outcome → Bool
  | .answered => true
  | _ => false

/-- An exchange with the given end. -/
def Outcome.perform (o : Outcome) (command : Varnishd → Answer × Varnishd) (v : Varnishd) :
    Answer × Varnishd :=
  match o with
  | .answered => command v
  | .failedBefore f => (f.answer, v)
  | .failedAfter f => (f.answer, (command v).2)

/-! ## PushVCL -/

/-- The name in a row of `vcl.list`, if it is the row of the active VCL. -/
def activeRow (line : Text) : Option Text :=
  match Text.fields line with
  | status :: _ :: _ :: _ :: name :: _ => if status = "active" then some name else none
  | _ => none

/-- `ActiveVCL`, with the empty name for every error. -/
def activeVCL : Answer → Text
  | .failed _ => []
  | .answered code body =>
    if code = 200 then ((body.splitOn '\n').findSome? activeRow).getD [] else []

/-- The error that a command makes of its answer, if there is one. -/
def commandError (command : Text) : Answer → Option Text
  | .failed err => some (command ++ ": " ++ err)
  | .answered code msg =>
    if code = 200 then none
    else some (command ++ " failed (code " ++ Text.decimalInt code ++ "): " ++ msg)

/-- What a push does next; the name is that of the VCL that was active at first. A request without
a name or a VCL is rejected before the first command. -/
inductive Stage where
  | rejected
  | activeVCL
  | inline (oldName : Text)
  | use (oldName : Text)
  | returned (err : Option Text)
  deriving DecidableEq

/-- The next command is `vcl.inline`. -/
def Stage.isInline : Stage → Bool
  | .inline _ => true
  | _ => false

/-- The next command is `vcl.use`. -/
def Stage.isUse : Stage → Bool
  | .use _ => true
  | _ => false

/-- The varnishd of a pod, and the VCLs that pushes have left to be discarded. -/
structure PodState where
  varnishd : Varnishd
  discards : List Text

/-- The next command of a push of the VCL `name`. -/
def pushVCLStep (name : Text) (o : Outcome) (stage : Stage) (p : PodState) : Stage × PodState :=
  match stage with
  | .rejected => (.rejected, p)
  | .activeVCL =>
    let r := o.perform Varnishd.vclList p.varnishd
    (.inline (activeVCL r.1), { p with varnishd := r.2 })
  | .inline oldName =>
    let r := o.perform (Varnishd.vclInline name) p.varnishd
    let stage := match commandError "vcl.inline" r.1 with
      | some err => .returned (some err)
      | none => .use oldName
    (stage, { p with varnishd := r.2 })
  | .use oldName =>
    let r := o.perform (Varnishd.vclUse name) p.varnishd
    match commandError "vcl.use" r.1 with
    | some err => (.returned (some err), { p with varnishd := r.2 })
    | none =>
      -- the old VCL is discarded after a delay
      let discards := if oldName ≠ [] ∧ oldName ≠ name then p.discards ++ [oldName] else p.discards
      (.returned none, ⟨r.2, discards⟩)
  | .returned err => (.returned err, p)

/-- One of the delayed calls of `DiscardVCL`; its error is ignored. -/
def discardStep (i : ℕ) (o : Outcome) (p : PodState) : PodState :=
  match p.discards[i]? with
  | none => p
  | some name => ⟨(o.perform (Varnishd.vclDiscard name) p.varnishd).2, p.discards.eraseIdx i⟩

/-! ## The handler -/

/-- The answer of the agent to a request. -/
structure Reply where
  status : ℕ
  body : Text

/-- The field of a message, which is left out if it is empty. -/
def messageField (message : Text) : Text :=
  if message = [] then [] else ",\"message\":" ++ Text.quoteJSON message

/-- `statusResponse` as JSON. -/
def statusResponse (status message : Text) : Text :=
  "\x7b\"status\":" ++ Text.quoteJSON status ++ messageField message ++ "\x7d\n"

/-- `Handler.PushVCL` up to the call of `PushVCL`. -/
def startPush (name vcl : Text) : Stage := if name = [] ∨ vcl = [] then .rejected else .activeVCL

/-- `Handler.PushVCL` from there on: the answer, once there is one. -/
def Stage.reply : Stage → Option Reply
  | .rejected => some ⟨400, statusResponse "error" "name and vcl are required"⟩
  | .returned none => some ⟨200, statusResponse "ok" []⟩
  | .returned (some err) => some ⟨500, statusResponse "error" err⟩
  | _ => none

/-! ## What a command can change -/

section Step

variable {name : Text} {o : Outcome} {v : Varnishd} {p : PodState}

/-- A command that keeps the active VCL keeps it whatever becomes of the exchange. -/
lemma Outcome.active_perform {command : Varnishd → Answer × Varnishd}
    (h : (command v).2.active = v.active) : (o.perform command v).2.active = v.active := by
  cases o with
  | answered => exact h
  | failedBefore f => rfl
  | failedAfter f => exact h

/-- Loading a VCL activates nothing. -/
lemma Varnishd.active_vclInline : (vclInline name v).2.active = v.active := by
  unfold vclInline
  split_ifs <;> rfl

/-- A discard activates nothing. -/
lemma Varnishd.active_vclDiscard : (vclDiscard name v).2.active = v.active := by
  unfold vclDiscard
  split_ifs <;> rfl

/-- A `vcl.use` activates its own VCL or none. -/
lemma Outcome.active_vclUse (o : Outcome) :
    (o.perform (Varnishd.vclUse name) v).2.active = v.active ∨
      (o.perform (Varnishd.vclUse name) v).2.active = name := by
  have huse : (Varnishd.vclUse name v).2.active = v.active ∨
      (Varnishd.vclUse name v).2.active = name := by
    unfold Varnishd.vclUse
    split_ifs
    · exact .inr rfl
    · exact .inl rfl
  cases o with
  | answered => exact huse
  | failedBefore f => exact .inl rfl
  | failedAfter f => exact huse

/-- The last step of a push is a `vcl.use`. -/
lemma varnishd_pushVCLStep_use (oldName : Text) :
    (pushVCLStep name o (.use oldName) p).2.varnishd =
      (o.perform (Varnishd.vclUse name) p.varnishd).2 := by
  simp only [pushVCLStep]
  split <;> rfl

/-- **Only `vcl.use` changes the active VCL**, and to the name that is pushed. -/
theorem active_pushVCLStep (stage : Stage) :
    (pushVCLStep name o stage p).2.varnishd.active = p.varnishd.active ∨
      stage.isUse = true ∧ (pushVCLStep name o stage p).2.varnishd.active = name := by
  cases stage with
  | rejected => exact .inl rfl
  | activeVCL => exact .inl (Outcome.active_perform rfl)
  | inline oldName => exact .inl (Outcome.active_perform Varnishd.active_vclInline)
  | use oldName =>
    rw [varnishd_pushVCLStep_use]
    exact (Outcome.active_vclUse o).imp_right fun h => ⟨rfl, h⟩
  | returned err => exact .inl rfl

/-- A discard by the agent activates nothing. -/
lemma active_discardStep (i : ℕ) :
    (discardStep i o p).varnishd.active = p.varnishd.active := by
  unfold discardStep
  split
  · rfl
  · exact Outcome.active_perform Varnishd.active_vclDiscard

/-! ## The errors of a push -/

/-- The mark, from its first letter on. -/
lemma alreadyLoaded_eq : alreadyLoaded = 'A' :: ("lready a VCL named" : Text) := by decide

/-- A text without a capital `A` in front takes no part in an occurrence. -/
lemma alreadyLoaded_of_append {l r : Text} (hA : 'A' ∉ l) (h : alreadyLoaded <:+: l ++ r) :
    alreadyLoaded <:+: r := by
  rw [alreadyLoaded_eq] at *
  exact Words.infix_of_infix_append hA h

/-- An integer has digits and its sign only. -/
lemma notMem_decimalInt {c : Char} (hc : c.isDigit = false) (hm : c ≠ '-') (n : ℤ) :
    c ∉ Text.decimalInt n := by
  have hdec : ∀ k, c ∉ Text.decimal k := fun k hk =>
    Bool.false_ne_true (hc.symm.trans (Text.isDigit_of_mem_decimal hk))
  cases n with
  | ofNat k => exact hdec k
  | negSucc k =>
    intro h
    rcases List.mem_cons.1 h with h | h
    · exact hm h
    · exact hdec _ h

/-- The error of a command mentions a loaded VCL only if the answer does. -/
lemma alreadyLoaded_of_commandError {command err : Text} {a : Answer} (hA : 'A' ∉ command)
    (h : commandError command a = some err) (hmark : alreadyLoaded <:+: err) :
    alreadyLoaded <:+: a.text := by
  cases a with
  | failed e =>
    obtain rfl : command ++ ": " ++ e = err := Option.some.inj h
    refine alreadyLoaded_of_append ?_ hmark
    rw [List.mem_append, not_or]
    exact ⟨hA, by decide⟩
  | answered code msg =>
    simp only [commandError] at h
    split_ifs at h
    obtain rfl := Option.some.inj h
    refine alreadyLoaded_of_append ?_ hmark
    rw [List.mem_append, List.mem_append, List.mem_append, not_or, not_or, not_or]
    exact ⟨⟨⟨hA, by decide⟩, notMem_decimalInt (by decide) (by decide) code⟩, by decide⟩

/-- A command has no error just when it was answered with success. -/
lemma commandError_eq_none_iff (command : Text) (a : Answer) :
    commandError command a = none ↔ a.ok = true := by
  cases a with
  | failed e => exact iff_of_false (Option.some_ne_none _) Bool.false_ne_true
  | answered code msg =>
    rw [Answer.ok, decide_eq_true_eq, commandError]
    by_cases hcode : code = 200
    · rw [if_pos hcode]
      exact iff_of_true rfl hcode
    · rw [if_neg hcode]
      exact iff_of_false (Option.some_ne_none _) hcode

/-- A `vcl.use` that was answered well has activated the VCL. -/
lemma Outcome.active_of_ok_vclUse {o : Outcome}
    (h : (o.perform (Varnishd.vclUse name) v).1.ok = true) :
    (o.perform (Varnishd.vclUse name) v).2.active = name := by
  cases o with
  | answered =>
    unfold perform Varnishd.vclUse at *
    split_ifs at h with hname
    · rw [dif_pos hname]
    · cases h
  | failedBefore f => exact absurd h (by rw [perform, f.not_ok]; decide)
  | failedAfter f => exact absurd h (by rw [perform, f.not_ok]; decide)

/-- The answer to `vcl.use` never speaks of a VCL that is already loaded. -/
lemma Outcome.unmarked_vclUse (o : Outcome) :
    ¬alreadyLoaded <:+: (o.perform (Varnishd.vclUse name) v).1.text := by
  have huse : ¬alreadyLoaded <:+: (Varnishd.vclUse name v).1.text := by
    unfold Varnishd.vclUse
    split_ifs
    · exact (by decide : ¬alreadyLoaded <:+: ([] : Text))
    · exact (by decide : ¬alreadyLoaded <:+: ("No such VCL" : Text))
  cases o with
  | answered => exact huse
  | failedBefore f => exact f.unmarked
  | failedAfter f => exact f.unmarked

/-- That of `vcl.inline` does only if the VCL is loaded and the exchange did not fail. -/
lemma Outcome.loaded_of_marked_vclInline {o : Outcome}
    (h : alreadyLoaded <:+: (o.perform (Varnishd.vclInline name) v).1.text) :
    o.isAnswered = true ∧ v.loaded.contains name = true := by
  cases o with
  | answered =>
    refine ⟨rfl, ?_⟩
    by_contra hname
    have hinline : (Varnishd.vclInline name v).1 = .answered 200 [] := by
      unfold Varnishd.vclInline
      rw [if_neg hname]
    rw [perform, hinline] at h
    exact absurd h (by decide)
  | failedBefore f => exact absurd h f.unmarked
  | failedAfter f => exact absurd h f.unmarked

/-- **What a push can return that counts as a success.** It has activated its VCL, or `vcl.inline`
was answered that the VCL is loaded. -/
theorem returned_of_pushVCLStep {stage : Stage} {err : Option Text}
    (hstage : ∀ e, stage ≠ .returned e) (h : (pushVCLStep name o stage p).1 = .returned err)
    (hmark : ∀ e, err = some e → alreadyLoaded <:+: e) :
    (pushVCLStep name o stage p).2.varnishd.active = name ∨
      stage.isInline = true ∧ o.isAnswered = true ∧
        p.varnishd.loaded.contains name = true := by
  cases stage with
  | rejected => cases h
  | activeVCL => cases h
  | returned e => exact absurd rfl (hstage e)
  | inline oldName =>
    right
    simp only [pushVCLStep] at h
    split at h
    · rename_i e he
      obtain rfl := Stage.returned.inj h
      obtain ⟨ho, hloaded⟩ := Outcome.loaded_of_marked_vclInline
        (alreadyLoaded_of_commandError (by decide) he (hmark e rfl))
      exact ⟨rfl, ho, hloaded⟩
    · cases h
  | use oldName =>
    left
    rw [varnishd_pushVCLStep_use]
    simp only [pushVCLStep] at h
    split at h
    · rename_i e he
      obtain rfl := Stage.returned.inj h
      exact absurd (alreadyLoaded_of_commandError (by decide) he (hmark e rfl))
        (Outcome.unmarked_vclUse o)
    · rename_i hnone
      exact Outcome.active_of_ok_vclUse ((commandError_eq_none_iff _ _).1 hnone)

end Step

end CloudVinyl.Admin
