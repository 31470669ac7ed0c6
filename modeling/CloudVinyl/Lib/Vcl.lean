import CloudVinyl.Lib.Strings

set_option relaxedAutoImplicit false
set_option autoImplicit false

/-!
# A fragment of VCL

Bodies of VCL subroutines: statements, conditionals and `return`, with their text and their
meaning. What a body does to the headers of a transaction, to the chosen backend and to the flow
of control is interpreted here. Everything else (values of expressions, other tests and
statements, inserted code) is left to an `Engine`, over which the results quantify.

## Main definitions

* `Vcl.Code` — a body, with its text `Vcl.Code.render`.
* `Vcl.State`, `Vcl.Engine` — what a body works on, and what decides the parts left open.
* `Vcl.exec` — the execution of a body: the state, the action returned, and which pieces of
  inserted code ran.
* `Vcl.Code.all` — bodies all of whose statements are of some kind, such as `Vcl.Stmt.silent`.

## Main results

* `Vcl.exec_append` — execution of a body in two parts.
* `Vcl.exec_induction` — the rule for executions; `Vcl.exec_preserves` — the invariant rule.
* `Vcl.fallsThrough_of_silent` — a silent body falls through and leaves a header as it is.
* `Vcl.exec_get`, `Vcl.exec_routeless`, `Vcl.exec_ran`, `Vcl.exec_onward` — what bodies of some
  kind cannot change or do.
-/

namespace Vcl

/-! ## Bodies -/

/-- The message a header belongs to. -/
inductive Obj where
  | req
  | bereq
  | beresp
  | resp
  deriving DecidableEq

/-- The object as VCL spells it. -/
def Obj.text : Obj → Text
  | .req => "req"
  | .bereq => "bereq"
  | .beresp => "beresp"
  | .resp => "resp"

/-- The actions a subroutine can return. -/
inductive Action where
  | hash
  | pass
  | pipe
  | lookup
  | fetch
  | deliver
  | retry
  | ok
  | synth (args : Text)
  /-- Any other action. -/
  | other (name : Text)
  deriving DecidableEq

/-- The statement that returns the action. -/
def Action.text : Action → Text
  | .hash => "return(hash);"
  | .pass => "return(pass);"
  | .pipe => "return(pipe);"
  | .lookup => "return(lookup);"
  | .fetch => "return(fetch);"
  | .deliver => "return(deliver);"
  | .retry => "return (retry);"
  | .ok => "return(ok);"
  | .synth args => "return(synth(" ++ args ++ "));"
  | .other name => "return(" ++ name ++ ");"

/-- Conditions. A test of another form is kept as text. -/
inductive Cond where
  | header (o : Obj) (h : Text)
  | method (m : Text)
  | otherMethod (m : Text)
  | client (acl : Text)
  | esiLevel
  | retried
  | test (text : Text)
  | not (c : Cond)
  | paren (c : Cond)
  | and (c d : Cond)

/-- The text of a condition. -/
def Cond.text : Cond → Text
  | .header o h => o.text ++ ".http." ++ h
  | .method m => "req.method == \"" ++ m ++ "\""
  | .otherMethod m => "req.method != \"" ++ m ++ "\""
  | .client acl => "client.ip ~ " ++ acl
  | .esiLevel => "req.esi_level > 0"
  | .retried => "bereq.retries > 0"
  | .test text => text
  | .not c => "!" ++ c.text
  | .paren c => "(" ++ c.text ++ ")"
  | .and c d => c.text ++ " && " ++ d.text

/-- Simple statements; `note` is a comment or an empty line, `other` a statement that touches
neither headers nor backends, `insert` foreign code under the name of its place. -/
inductive Stmt where
  | note (line : Text)
  | unset (o : Obj) (h : Text)
  | set (o : Obj) (h value : Text)
  | hint (b : Text)
  | backend (b : Text)
  | other (text : Text)
  | insert (place text : Text)
  | ret (a : Action)

/-- The text of a statement. -/
def Stmt.text : Stmt → Text
  | .note line => line
  | .unset o h => "unset " ++ o.text ++ ".http." ++ h ++ ";"
  | .set o h value => "set " ++ o.text ++ ".http." ++ h ++ " = " ++ value ++ ";"
  | .hint b => "set req.backend_hint = " ++ b ++ ";"
  | .backend b => "set bereq.backend = " ++ b ++ ";"
  | .other text => text
  | .insert _ text => text
  | .ret a => a.text

/-- A body: a sequence of simple statements and conditionals. The flag of a conditional without
`else` says whether its block is indented. -/
inductive Code where
  | nil
  | stmt (s : Stmt) (rest : Code)
  | cond (c : Cond) (indented : Bool) (block rest : Code)
  | condElse (c : Cond) (block other rest : Code)

namespace Code

/-- One body behind the other. -/
def append : Code → Code → Code
  | .nil, d => d
  | .stmt s rest, d => .stmt s (rest.append d)
  | .cond c indented block rest, d => .cond c indented block (rest.append d)
  | .condElse c block other rest, d => .condElse c block other (rest.append d)

/-- Bodies are written one behind the other with `++`. -/
instance : Append Code := ⟨append⟩

/-- Simple statements one after the other. -/
def ofList : List Stmt → Code
  | [] => .nil
  | s :: l => .stmt s (ofList l)

/-- A conditional with an indented block. -/
def block (c : Cond) (body : Code) : Code := .cond c true body .nil

/-- A conditional whose block is not indented. -/
def guarded (c : Cond) (body : Code) : Code := .cond c false body .nil

/-- A conditional with an alternative. -/
def ifElse (c : Cond) (body other : Code) : Code := .condElse c body other .nil

/-- Code that is only there if a flag is set. -/
def when (b : Bool) (c : Code) : Code := if b then c else .nil

/-- The lines of a body, indented by `n` blanks. -/
def render (n : ℕ) : Code → List Text
  | .nil => []
  | .stmt s rest => line s.text :: rest.render n
  | .cond c indented block rest =>
    line ("if (" ++ c.text ++ ") \x7b") ::
      (block.render (if indented then n + 4 else n) ++ line "\x7d" :: rest.render n)
  | .condElse c block other rest =>
    line ("if (" ++ c.text ++ ") \x7b") ::
      (block.render (n + 4) ++
        line "\x7d else \x7b" :: (other.render (n + 4) ++ line "\x7d" :: rest.render n))
where
  /-- A line with its indentation; an empty line has none. -/
  line (l : Text) : Text := if l = [] then [] else List.replicate n ' ' ++ l

/-- All simple statements of a body. -/
def stmts : Code → List Stmt
  | .nil => []
  | .stmt s rest => s :: rest.stmts
  | .cond _ _ block rest => block.stmts ++ rest.stmts
  | .condElse _ block other rest => block.stmts ++ (other.stmts ++ rest.stmts)

/-- The empty body in front changes nothing. -/
@[simp] lemma nil_append (d : Code) : .nil ++ d = d := rfl

/-- Bodies can be put together in any grouping. -/
lemma append_assoc (c d e : Code) : c ++ d ++ e = c ++ (d ++ e) := by
  change (c.append d).append e = c.append (d.append e)
  induction c with
  | nil => rfl
  | stmt s rest ih => simp only [append, ih]
  | cond c i block rest _ ih => simp only [append, ih]
  | condElse c block other rest _ _ ih => simp only [append, ih]

/-- The statements of two bodies. -/
@[simp] lemma stmts_append (c d : Code) : (c ++ d).stmts = c.stmts ++ d.stmts := by
  change (c.append d).stmts = _
  induction c with
  | nil => rfl
  | stmt s rest ih => simp [append, stmts, ih]
  | cond c i block rest _ ih => simp [append, stmts, ih]
  | condElse c block other rest _ _ ih => simp [append, stmts, ih]

/-- The statements of a list of statements. -/
@[simp] lemma stmts_ofList (l : List Stmt) : (ofList l).stmts = l := by
  induction l with
  | nil => rfl
  | cons s l ih => simp [ofList, stmts, ih]

/-- A condition adds no statement. -/
@[simp] lemma stmts_block (c : Cond) (body : Code) : (block c body).stmts = body.stmts := by
  simp [block, stmts]

/-- All simple statements of the body are of the kind `p`. -/
def all (p : Stmt → Bool) (c : Code) : Bool := c.stmts.all p

section All

variable {p : Stmt → Bool} {c d : Code}

/-- Two bodies in which every statement passes. -/
lemma all_append (hc : c.all p = true) (hd : d.all p = true) : (c ++ d).all p = true := by
  unfold all at *
  rw [stmts_append, List.all_append, hc, hd, Bool.and_self]

/-- A body that may be left out. -/
lemma all_when {b : Bool} (hc : c.all p = true) : (when b c).all p = true := by
  cases b with
  | false => rfl
  | true => exact hc

/-- A body behind a condition. -/
lemma all_block {cond : Cond} (hc : c.all p = true) : (block cond c).all p = true := by
  unfold all at *
  rw [stmts_block, hc]

/-- A body behind a condition in one line. -/
lemma all_guarded {cond : Cond} (hc : c.all p = true) : (guarded cond c).all p = true :=
  @all_block p c cond hc

/-- A list of statements that all pass. -/
lemma all_ofList {l : List Stmt} (h : ∀ st ∈ l, p st = true) : (ofList l).all p = true := by
  unfold all
  rw [stmts_ofList, List.all_eq_true]
  exact h

/-- A body put together from a list. -/
lemma all_foldr {α : Type} {f : α → Code} (h : ∀ a, (f a).all p = true) (l : List α) :
    (l.foldr (fun a rest => f a ++ rest) .nil).all p = true := by
  induction l with
  | nil => rfl
  | cons a l ih => exact all_append (h a) ih

end All

end Code

/-! ## Execution -/

section Execution

variable {B W : Type}

/-- What a body works on: `http o h` is the header with the lower-case name `h` of a message,
`B` is the type of backends and `W` stands for everything else. -/
structure State (B W : Type) where
  method : Text
  client : Text
  esiLevel : ℕ
  retries : ℕ
  http : Obj → Text → Option Text
  hint : B
  backend : B
  world : W

/-- Header names do not distinguish case. -/
def fieldName (h : Text) : Text := h.map Text.foldASCII

/-- A header of an object, by its name in any spelling. -/
def State.get (s : State B W) (o : Obj) (h : Text) : Option Text := s.http o (fieldName h)

/-- The state with a header set, or removed. -/
def State.put (s : State B W) (o : Obj) (h : Text) (v : Option Text) : State B W :=
  { s with http := fun o' h' => if o' = o ∧ h' = fieldName h then v else s.http o' h' }

/-- A header that was set. -/
@[simp] lemma State.get_put_self (s : State B W) (o : Obj) (h : Text) (v : Option Text) :
    (s.put o h v).get o h = v := by
  simp [State.get, State.put]

/-- Setting a header changes no other one. -/
lemma State.get_put_of_ne (s : State B W) (o o' : Obj) {h h' : Text} (v : Option Text)
    (hne : fieldName h' ≠ fieldName h) : (s.put o h v).get o' h' = s.get o' h' := by
  simp [State.get, State.put, hne]

/-- What decides the parts of a program that are left open: access lists, other tests, the values
of expressions, the choice of a backend, the effect of other statements, and inserted code. -/
structure Engine (B W : Type) where
  inAcl : Text → Text → Bool
  test : Text → State B W → Bool
  value : Text → State B W → Text
  select : Text → State B W → B
  effect : Text → State B W → W
  insert : Text → State B W → State B W × Option Action

/-- The outcome of a body: the action is missing if the end was reached without a `return`, and
`ran` lists the places whose inserted code ran. -/
structure Result (B W : Type) where
  state : State B W
  ret : Option Action
  ran : List Text

/-- Go on with `f` unless an action was returned. -/
def Result.bind (r : Result B W) (f : State B W → Result B W) : Result B W :=
  match r.ret with
  | some _ => r
  | none => { f r.state with ran := r.ran ++ (f r.state).ran }

/-- Whether a condition holds. -/
def Engine.holds (E : Engine B W) (s : State B W) : Cond → Bool
  | .header o h => (s.get o h).isSome
  | .method m => s.method = m
  | .otherMethod m => s.method ≠ m
  | .client acl => E.inAcl acl s.client
  | .esiLevel => 0 < s.esiLevel
  | .retried => 0 < s.retries
  | .test text => E.test text s
  | .not c => !E.holds s c
  | .paren c => E.holds s c
  | .and c d => E.holds s c && E.holds s d

variable (E : Engine B W)

/-- A simple statement. -/
def Engine.step (s : State B W) : Stmt → Result B W
  | .note _ => ⟨s, none, []⟩
  | .unset o h => ⟨s.put o h none, none, []⟩
  | .set o h value => ⟨s.put o h (some (E.value value s)), none, []⟩
  | .hint b => ⟨{ s with hint := E.select b s }, none, []⟩
  | .backend b => ⟨{ s with backend := E.select b s }, none, []⟩
  | .other text => ⟨{ s with world := E.effect text s }, none, []⟩
  | .insert place text => ⟨(E.insert text s).1, (E.insert text s).2, [place]⟩
  | .ret a => ⟨s, some a, []⟩

/-- The execution of a body. -/
def exec : Code → State B W → Result B W
  | .nil, s => ⟨s, none, []⟩
  | .stmt st rest, s => (E.step s st).bind (exec rest)
  | .cond c _ block rest, s =>
    (if E.holds s c then exec block s else ⟨s, none, []⟩).bind (exec rest)
  | .condElse c block other rest, s =>
    (if E.holds s c then exec block s else exec other s).bind (exec rest)

/-- After a body that falls through comes the next one. -/
@[simp] lemma Result.bind_fallthrough (s : State B W) (f : State B W → Result B W) :
    (Result.mk s none []).bind f = f s := rfl

/-- After a body that returns comes nothing. -/
@[simp] lemma Result.bind_returned (s : State B W) (a : Action) (l : List Text)
    (f : State B W → Result B W) : (Result.mk s (some a) l).bind f = ⟨s, some a, l⟩ := rfl

/-- Results can be put together in any grouping. -/
lemma Result.bind_assoc (r : Result B W) (f g : State B W → Result B W) :
    (r.bind f).bind g = r.bind fun s => (f s).bind g := by
  obtain ⟨s, ret, ran⟩ := r
  cases ret with
  | some a => rfl
  | none =>
    cases h : (f s).ret with
    | some a => simp [Result.bind, h]
    | none => simp [Result.bind, h]

/-- The empty body does nothing. -/
@[simp] lemma exec_nil (s : State B W) : exec E .nil s = ⟨s, none, []⟩ := rfl

/-- **Execution of a body in two parts.** -/
theorem exec_append (c d : Code) (s : State B W) :
    exec E (c ++ d) s = (exec E c s).bind (exec E d) := by
  change exec E (c.append d) s = _
  -- what follows the first statement or conditional is executed by the same two parts
  have hrest : ∀ {rest : Code}, (∀ s, exec E (rest.append d) s = (exec E rest s).bind (exec E d)) →
      exec E (rest.append d) = fun s => (exec E rest s).bind (exec E d) := fun h => funext h
  induction c generalizing s with
  | nil => rfl
  | stmt st rest ih => simp only [Code.append, exec, Result.bind_assoc, hrest ih]
  | cond c i block rest _ ih => simp only [Code.append, exec, Result.bind_assoc, hrest ih]
  | condElse c block other rest _ _ ih => simp only [Code.append, exec, Result.bind_assoc, hrest ih]

/-- After a body nothing is left to do. -/
lemma Result.bind_nil (r : Result B W) : r.bind (exec E .nil) = r := by
  obtain ⟨s, ret, ran⟩ := r
  cases ret <;> simp [Result.bind]

/-- A body behind a condition runs if the condition holds. -/
lemma exec_block (c : Cond) (body : Code) (s : State B W) :
    exec E (.block c body) s = if E.holds s c then exec E body s else ⟨s, none, []⟩ :=
  Result.bind_nil E _

/-- Of two bodies that run one the condition decides. -/
lemma exec_ifElse (c : Cond) (body other : Code) (s : State B W) :
    exec E (.ifElse c body other) s = if E.holds s c then exec E body s else exec E other s :=
  Result.bind_nil E _

/-- A body behind a condition in one line runs if the condition holds. -/
lemma exec_guarded (c : Cond) (body : Code) (s : State B W) :
    exec E (.guarded c body) s = if E.holds s c then exec E body s else ⟨s, none, []⟩ :=
  exec_block E c body s

/-- The statement is a comment or an empty line. -/
def Stmt.isNote : Stmt → Bool
  | .note _ => true
  | _ => false

/-- Comments do nothing. -/
lemma exec_notes {l : List Stmt} {s : State B W} (h : l.all Stmt.isNote = true) :
    exec E (.ofList l) s = ⟨s, none, []⟩ := by
  induction l with
  | nil => rfl
  | cons st l ih =>
    rw [List.all_cons, Bool.and_eq_true] at h
    cases st with
    | note line => exact ih h.2
    | unset | set | hint | backend | other | insert | ret => exact Bool.noConfusion h.1

/-- **The rule for executions.** A relation between the state before and the outcome holds of a
body if it holds of doing nothing and of its statements, and goes on from part to part.

**Proof sketch.** Induction on the body; a conditional runs one of its blocks or none. -/
theorem exec_induction {Q : State B W → Result B W → Prop} {c : Code}
    (nil : ∀ s, Q s ⟨s, none, []⟩)
    (bind : ∀ {s r f}, Q s r → (∀ t, Q t (f t)) → Q s (r.bind f))
    (step : ∀ st ∈ c.stmts, ∀ s, Q s (E.step s st)) (s : State B W) : Q s (exec E c s) := by
  induction c generalizing s with
  | nil => exact nil s
  | stmt st rest ih =>
    refine bind (step st (by simp [Code.stmts]) s) fun t => ?_
    exact ih (fun st' hst => step st' (by simp [Code.stmts, hst])) t
  | cond c i block rest ihb ih =>
    refine bind ?_ fun t => ih (fun st hst => step st (by simp [Code.stmts, hst])) t
    split_ifs
    · exact ihb (fun st hst => step st (by simp [Code.stmts, hst])) s
    · exact nil s
  | condElse c block other rest ihb iho ih =>
    refine bind ?_ fun t => ih (fun st hst => step st (by simp [Code.stmts, hst])) t
    split_ifs
    · exact ihb (fun st hst => step st (by simp [Code.stmts, hst])) s
    · exact iho (fun st hst => step st (by simp [Code.stmts, hst])) s

/-- **The invariant rule.** What every statement of a body preserves holds after the body. -/
theorem exec_preserves (I : State B W → Prop) {c : Code} {s : State B W}
    (step : ∀ st ∈ c.stmts, ∀ s, I s → I (E.step s st).state) (h : I s) :
    I (exec E c s).state := by
  refine exec_induction E (Q := fun s r => I s → I r.state) (fun _ hs => hs) ?_ step s h
  intro s r f hr hf hs
  unfold Result.bind
  cases r.ret with
  | some a => exact hr hs
  | none => exact hf _ (hr hs)

/-! ## What bodies of some kind cannot change -/

/-- A statement of the program that leaves the header `h` of every message as it is. -/
def Stmt.keeps (h : Text) : Stmt → Bool
  | .unset _ h' => fieldName h' ≠ fieldName h
  | .set _ h' _ => fieldName h' ≠ fieldName h
  | _ => true

/-- A statement of the program that chooses no backend. -/
def Stmt.routeless : Stmt → Bool
  | .hint _ => false
  | .backend _ => false
  | _ => true

/-- Code is inserted at no other place. -/
def Stmt.insertsAt (place : Text) : Stmt → Bool
  | .insert place' _ => place' = place
  | _ => true

/-- No other code than `text` is inserted. -/
def Stmt.insertsOnly (text : Text) : Stmt → Bool
  | .insert _ text' => text' = text
  | _ => true

/-- A statement of the program that does not return. -/
def Stmt.onward : Stmt → Bool
  | .ret _ => false
  | _ => true

/-- An insertion is one at its own place. -/
lemma Stmt.insertsAt_self (place text : Text) : (insert place text).insertsAt place = true :=
  decide_eq_true rfl

/-- All that is inserted is the one text. -/
lemma eq_of_insertsOnly {text text' place : Text} {c : Code}
    (hc : c.all (Stmt.insertsOnly text) = true) (h : .insert place text' ∈ c.stmts) :
    text' = text :=
  of_decide_eq_true (List.all_eq_true.1 hc _ h)

variable {E}

/-- A header that neither the program nor the code it inserts touches. -/
theorem exec_get {h : Text} {o : Obj} {c : Code} (hc : c.all (Stmt.keeps h) = true)
    (insert : ∀ place text, .insert place text ∈ c.stmts →
      ∀ s, (E.insert text s).1.get o h = s.get o h) (s : State B W) :
    (exec E c s).state.get o h = s.get o h := by
  refine exec_preserves E (fun t => t.get o h = s.get o h) ?_ rfl
  intro st hst t ht
  have hkeeps := List.all_eq_true.1 hc st hst
  rw [← ht]
  cases st with
  | unset o' h' => exact t.get_put_of_ne o' o none (of_decide_eq_true hkeeps).symm
  | set o' h' v => exact t.get_put_of_ne o' o _ (of_decide_eq_true hkeeps).symm
  | insert place text => exact insert place text hst t
  | note | hint | backend | other | ret => rfl

/-- A property of the chosen backends that inserted code keeps. -/
theorem exec_routeless {I : State B W → Prop} {c : Code} (hc : c.all Stmt.routeless = true)
    (hI : ∀ s t, t.hint = s.hint → t.backend = s.backend → I s → I t)
    (insert : ∀ text s, I s → I (E.insert text s).1) {s : State B W} (hs : I s) :
    I (exec E c s).state := by
  refine exec_preserves E I ?_ hs
  intro st hst t ht
  have hroute := List.all_eq_true.1 hc st hst
  cases st with
  | hint b => exact Bool.noConfusion hroute
  | backend b => exact Bool.noConfusion hroute
  | insert place text => exact insert text t ht
  | note | unset | set | other | ret => exact hI t _ rfl rfl ht

/-- Only code that the body inserts can run. -/
theorem exec_ran {place : Text} {c : Code} (hc : c.all (Stmt.insertsAt place) = true)
    (s : State B W) : ∀ p ∈ (exec E c s).ran, p = place := by
  refine exec_induction E (Q := fun _ r => ∀ p ∈ r.ran, p = place) (by simp) ?_ ?_ s
  · intro s r f hr hf p hp
    unfold Result.bind at hp
    split at hp
    · exact hr p hp
    · exact (List.mem_append.1 hp).elim (hr p) (hf _ p)
  · intro st hst s
    have hplace := List.all_eq_true.1 hc st hst
    cases st with
    | insert p text => simpa [Engine.step, Stmt.insertsAt] using hplace
    | note | unset | set | hint | backend | other | ret => simp [Engine.step]

/-- A body reaches its end if neither the program nor the code it inserts returns. -/
theorem exec_onward {c : Code} (hc : c.all Stmt.onward = true)
    (insert : ∀ place text, .insert place text ∈ c.stmts → ∀ s, (E.insert text s).2 = none)
    (s : State B W) : (exec E c s).ret = none := by
  refine exec_induction E (Q := fun _ r => r.ret = none) (fun _ => rfl) ?_ ?_ s
  · intro s r f hr hf
    unfold Result.bind
    rw [hr]
    exact hf r.state
  · intro st hst s
    have honward := List.all_eq_true.1 hc st hst
    cases st with
    | insert place text => exact insert place text hst s
    | ret a => exact Bool.noConfusion honward
    | note | unset | set | hint | backend | other => rfl

/-! ## Bodies that fall through -/

/-- Two states that agree on everything that steers a request by the header `h`. -/
structure Agree (h : Text) (s t : State B W) : Prop where
  method : t.method = s.method
  client : t.client = s.client
  esiLevel : t.esiLevel = s.esiLevel
  retries : t.retries = s.retries
  get : ∀ o, t.get o h = s.get o h
  hint : t.hint = s.hint
  backend : t.backend = s.backend

/-- A state agrees with itself. -/
lemma Agree.refl (h : Text) (s : State B W) : Agree h s s :=
  ⟨rfl, rfl, rfl, rfl, fun _ => rfl, rfl, rfl⟩

/-- Agreement goes on. -/
lemma Agree.trans {h : Text} {s t u : State B W} (hst : Agree h s t) (htu : Agree h t u) :
    Agree h s u where
  method := htu.method.trans hst.method
  client := htu.client.trans hst.client
  esiLevel := htu.esiLevel.trans hst.esiLevel
  retries := htu.retries.trans hst.retries
  get o := (htu.get o).trans (hst.get o)
  hint := htu.hint.trans hst.hint
  backend := htu.backend.trans hst.backend

/-- Setting another header keeps the agreement. -/
lemma agree_put (s : State B W) (o : Obj) {h h' : Text} (v : Option Text)
    (hne : fieldName h' ≠ fieldName h) : Agree h s (s.put o h' v) :=
  ⟨rfl, rfl, rfl, rfl, fun o' => s.get_put_of_ne o o' v hne.symm, rfl, rfl⟩

variable (E)

/-- From `s` the body reaches its end without a `return` and without inserted code, in a state
that agrees with `s`. -/
def FallsThrough (h : Text) (c : Code) (s : State B W) : Prop :=
  ∃ t, exec E c s = ⟨t, none, []⟩ ∧ Agree h s t

variable {E} {h : Text} {c d : Code} {s : State B W}

/-- Behind a body that falls through the next one runs, in a state that agrees. -/
lemma FallsThrough.exec_append (hc : FallsThrough E h c s) (d : Code) :
    ∃ t, exec E (c ++ d) s = exec E d t ∧ Agree h s t := by
  obtain ⟨t, ht, hst⟩ := hc
  exact ⟨t, by rw [Vcl.exec_append, ht, Result.bind_fallthrough], hst⟩

/-- Two bodies that fall through. -/
lemma FallsThrough.append (hc : FallsThrough E h c s)
    (hd : ∀ t, Agree h s t → FallsThrough E h d t) : FallsThrough E h (c ++ d) s := by
  obtain ⟨t, ht, hst⟩ := hc.exec_append d
  obtain ⟨u, hu, htu⟩ := hd t hst
  exact ⟨u, ht.trans hu, hst.trans htu⟩

/-- A body that falls through, and then an action. -/
lemma FallsThrough.ret (hc : FallsThrough E h c s) (a : Action) :
    ∃ t, exec E (c ++ .ofList [.ret a]) s = ⟨t, some a, []⟩ ∧ Agree h s t := hc.exec_append _

/-- The empty body falls through. -/
lemma fallsThrough_nil : FallsThrough E h .nil s := ⟨s, rfl, .refl h s⟩

/-- A body that may be left out. -/
lemma FallsThrough.when {b : Bool} (hc : b = true → FallsThrough E h c s) :
    FallsThrough E h (.when b c) s := by
  cases b with
  | false => exact fallsThrough_nil
  | true => exact hc rfl

/-- A body behind a condition that does not hold. -/
lemma fallsThrough_block {cond : Cond} (hcond : E.holds s cond = false) :
    FallsThrough E h (.block cond c) s :=
  ⟨s, by rw [exec_block, hcond]; rfl, .refl h s⟩

/-- A statement that falls through, chooses no backend and does not touch the header `h`. -/
def Stmt.silent (h : Text) : Stmt → Bool
  | .note _ => true
  | .other _ => true
  | .unset _ h' => fieldName h' ≠ fieldName h
  | .set _ h' _ => fieldName h' ≠ fieldName h
  | .hint _ => false
  | .backend _ => false
  | .insert _ _ => false
  | .ret _ => false

/-- A silent statement falls through to a state that agrees. -/
lemma step_silent {st : Stmt} (hst : st.silent h = true) (s : State B W) :
    ∃ t, E.step s st = ⟨t, none, []⟩ ∧ Agree h s t := by
  cases st with
  | note line => exact ⟨s, rfl, .refl h s⟩
  | other text => exact ⟨_, rfl, rfl, rfl, rfl, rfl, fun _ => rfl, rfl, rfl⟩
  | unset o h' => exact ⟨_, rfl, agree_put s o none (of_decide_eq_true hst)⟩
  | set o h' v => exact ⟨_, rfl, agree_put s o _ (of_decide_eq_true hst)⟩
  | hint | backend | insert | ret => exact Bool.noConfusion hst

/-- **A silent body falls through.** -/
theorem fallsThrough_of_silent (hc : c.all (Stmt.silent h) = true) (s : State B W) :
    FallsThrough E h c s := by
  refine exec_induction E (Q := fun s r => ∃ t, r = ⟨t, none, []⟩ ∧ Agree h s t)
    (fun s => ⟨s, rfl, .refl h s⟩) ?_ (fun st hst s => step_silent (List.all_eq_true.1 hc st hst) s)
    s
  -- a part that falls through, and the rest
  rintro s r f ⟨t, rfl, hst⟩ hf
  obtain ⟨u, hu, htu⟩ := hf t
  exact ⟨u, by rw [Result.bind_fallthrough, hu], hst.trans htu⟩

end Execution

end Vcl
