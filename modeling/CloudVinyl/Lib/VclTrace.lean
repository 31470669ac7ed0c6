import CloudVinyl.Lib.Varnishd

set_option relaxedAutoImplicit false
set_option autoImplicit false

/-!
# What is evaluated on the way of a request

The functions of a vmod may have effects that neither the headers nor the flow of control show. A
trace keeps the expressions that a body evaluates, in their order, and for a whole request the
subroutines that varnishd runs, with the state in which each of them starts. The second conjunct
of a condition is evaluated only if the first one holds.

## Main definitions

* `Vcl.Eval`, `Vcl.evaluated` — the expressions that a body evaluates, and `Vcl.picked` those of
  some kind.
* `Vcl.traced` — the outcome of a body together with what it evaluates.
* `Vcl.Code.without` — bodies in which no expression of some kind occurs.
* `Vcl.runs` — the subroutines that are run for a request.
* `Vcl.visitPicked` — the expressions of some kind that are evaluated for a request.

## Main results

* `Vcl.picked_append`, `Vcl.picked_of_without` — how traces are put together.
* `Vcl.visitPicked_eq_nil` — nothing is evaluated for a request whose subroutines do not.
-/

namespace Vcl

variable {B W : Type}

/-- An expression, by what it is evaluated for. -/
inductive Eval where
  | test (text : Text)
  | value (text : Text)
  | select (text : Text)
  | effect (text : Text)
  deriving DecidableEq

/-! ## Expressions of a body -/

/-- All expressions of a condition. -/
def Cond.evals : Cond → List Eval
  | .test text => [.test text]
  | .not c => c.evals
  | .paren c => c.evals
  | .and c d => c.evals ++ d.evals
  | .header _ _ => []
  | .method _ => []
  | .otherMethod _ => []
  | .client _ => []
  | .esiLevel => []
  | .retried => []

/-- The expressions of a statement. -/
def Stmt.evals : Stmt → List Eval
  | .set _ _ value => [.value value]
  | .hint b => [.select b]
  | .backend b => [.select b]
  | .other text => [.effect text]
  | .note _ => []
  | .unset _ _ => []
  | .insert _ _ => []
  | .ret _ => []

/-- All expressions of a body. -/
def Code.evals : Code → List Eval
  | .nil => []
  | .stmt s rest => s.evals ++ rest.evals
  | .cond c _ block rest => c.evals ++ (block.evals ++ rest.evals)
  | .condElse c block other rest => c.evals ++ (block.evals ++ (other.evals ++ rest.evals))

/-- The expressions of two bodies. -/
lemma Code.evals_append (c d : Code) : (c ++ d).evals = c.evals ++ d.evals := by
  change (c.append d).evals = _
  induction c with
  | nil => rfl
  | stmt s rest ih => simp [append, evals, ih]
  | cond c i block rest _ ih => simp [append, evals, ih]
  | condElse c block other rest _ _ ih => simp [append, evals, ih]

/-- No expression of the kind `p` occurs in the body. -/
def Code.without (p : Eval → Bool) (c : Code) : Bool := c.evals.all fun e => !p e

namespace Code

variable {p : Eval → Bool} {c d : Code}

/-- Two bodies without such an expression. -/
lemma without_append (hc : c.without p = true) (hd : d.without p = true) :
    (c ++ d).without p = true := by
  unfold without at *
  rw [evals_append, List.all_append, hc, hd, Bool.and_self]

/-- A body that may be left out. -/
lemma without_when {b : Bool} (hc : c.without p = true) : (when b c).without p = true := by
  cases b with
  | false => rfl
  | true => exact hc

/-- A body behind a condition, both without such an expression. -/
lemma without_block {cond : Cond} (hcond : cond.evals.all (fun e => !p e) = true)
    (hc : c.without p = true) : (block cond c).without p = true := by
  unfold without at *
  simp only [block, evals, List.all_append, hcond, hc, List.append_nil, Bool.and_self]

/-- A body put together from a list. -/
lemma without_foldr {α : Type} {f : α → Code} {l : List α}
    (h : ∀ a ∈ l, (f a).without p = true) :
    (l.foldr (fun a rest => f a ++ rest) .nil).without p = true := by
  induction l with
  | nil => rfl
  | cons a l ih =>
    refine without_append (h a List.mem_cons_self) (ih fun b hb => h b ?_)
    exact List.mem_cons_of_mem _ hb

end Code

/-! ## Traces -/

section Traces

/-- The tests that a condition evaluates. -/
def Engine.tested (E : Engine B W) (s : State B W) : Cond → List Eval
  | .test text => [.test text]
  | .not c => E.tested s c
  | .paren c => E.tested s c
  | .and c d => E.tested s c ++ if E.holds s c then E.tested s d else []
  | .header _ _ => []
  | .method _ => []
  | .otherMethod _ => []
  | .client _ => []
  | .esiLevel => []
  | .retried => []

variable (E : Engine B W)

/-- The trace of what follows, unless an action was returned. -/
def Result.andThen {α : Type} (r : Result B W) (f : State B W → List α) : List α :=
  match r.ret with
  | some _ => []
  | none => f r.state

/-- The expressions that a body evaluates. -/
def evaluated : Code → State B W → List Eval
  | .nil, _ => []
  | .stmt st rest, s => st.evals ++ (E.step s st).andThen (evaluated rest)
  | .cond c _ block rest, s =>
    E.tested s c ++
      if E.holds s c then evaluated block s ++ (exec E block s).andThen (evaluated rest)
      else evaluated rest s
  | .condElse c block other rest, s =>
    E.tested s c ++
      if E.holds s c then evaluated block s ++ (exec E block s).andThen (evaluated rest)
      else evaluated other s ++ (exec E other s).andThen (evaluated rest)

/-- The expressions of the kind `p` that a body evaluates. -/
def picked (p : Eval → Bool) (c : Code) (s : State B W) : List Eval :=
  (evaluated E c s).filter p

/-- What follows two bodies follows the second one. -/
lemma Result.andThen_bind {α : Type} (r : Result B W) (f : State B W → Result B W)
    (g : State B W → List α) : (r.bind f).andThen g = r.andThen fun s => (f s).andThen g := by
  obtain ⟨s, ret, ran⟩ := r
  cases ret <;> rfl

/-- What follows in two parts. -/
lemma Result.andThen_append {α : Type} (r : Result B W) (f g : State B W → List α) :
    (r.andThen fun s => f s ++ g s) = r.andThen f ++ r.andThen g := by
  unfold Result.andThen
  cases r.ret <;> rfl

/-- **The trace of a body in two parts.** -/
theorem evaluated_append (c d : Code) (s : State B W) :
    evaluated E (c ++ d) s = evaluated E c s ++ (exec E c s).andThen (evaluated E d) := by
  change evaluated E (c.append d) s = _
  have hrest : ∀ {rest : Code},
      (∀ s, evaluated E (rest.append d) s =
        evaluated E rest s ++ (exec E rest s).andThen (evaluated E d)) →
      evaluated E (rest.append d) = fun s =>
        evaluated E rest s ++ (exec E rest s).andThen (evaluated E d) := fun h => funext h
  induction c generalizing s with
  | nil => rfl
  | stmt st rest ih =>
    simp only [Code.append, evaluated, exec, hrest ih, Result.andThen_append, Result.andThen_bind,
      List.append_assoc]
  | cond c i block rest _ ih =>
    simp only [Code.append, evaluated, exec, hrest ih, Result.andThen_append, Result.andThen_bind]
    split_ifs
    · simp only [List.append_assoc]
    · simp only [Result.andThen, List.append_assoc]
  | condElse c block other rest _ _ ih =>
    simp only [Code.append, evaluated, exec, hrest ih, Result.andThen_append, Result.andThen_bind]
    split_ifs
    · simp only [List.append_assoc]
    · simp only [List.append_assoc]

/-- **The trace of two bodies**: the second one adds its own unless the first one has returned. -/
lemma picked_append (p : Eval → Bool) (c d : Code) (s : State B W) :
    picked E p (c ++ d) s = picked E p c s ++ (exec E c s).andThen (picked E p d) := by
  unfold picked
  rw [evaluated_append, List.filter_append]
  unfold Result.andThen
  cases (exec E c s).ret <;> rfl

/-- The trace of a body behind a condition: the tests, and the body if they hold. -/
lemma picked_block (p : Eval → Bool) (cond : Cond) (body : Code) (s : State B W) :
    picked E p (.block cond body) s = (E.tested s cond).filter p ++
      if E.holds s cond then picked E p body s else [] := by
  have hblock : evaluated E (.block cond body) s =
      E.tested s cond ++ if E.holds s cond then evaluated E body s else [] := by
    have hnil : (exec E body s).andThen (evaluated E .nil) = [] := by
      unfold Result.andThen
      cases (exec E body s).ret <;> rfl
    change E.tested s cond ++ (if E.holds s cond then
      evaluated E body s ++ (exec E body s).andThen (evaluated E .nil) else []) = _
    rw [hnil, List.append_nil]
  unfold picked
  rw [hblock, List.filter_append]
  split_ifs <;> rfl

/-- Lists grow with their parts. -/
lemma append_subset_append {α : Type} {l l' m m' : List α} (h : l ⊆ l') (h' : m ⊆ m') :
    l ++ m ⊆ l' ++ m' :=
  List.append_subset.2
    ⟨List.subset_append_of_subset_left _ h, List.subset_append_of_subset_right _ h'⟩

/-- Only tests of the condition are evaluated. -/
lemma tested_subset (s : State B W) (c : Cond) : E.tested s c ⊆ c.evals := by
  induction c with
  | test | header | method | otherMethod | client | esiLevel | retried =>
    exact List.Subset.refl _
  | not c ih | paren c ih => exact ih
  | and c d ihc ihd =>
    simp only [Engine.tested, Cond.evals]
    split_ifs
    · exact append_subset_append ihc ihd
    · rw [List.append_nil]
      exact List.Subset.trans ihc (List.subset_append_left _ _)

/-- What follows a body is in a list if it is so in every state. -/
lemma andThen_subset {α : Type} {r : Result B W} {f : State B W → List α} {l : List α}
    (h : ∀ s, f s ⊆ l) : r.andThen f ⊆ l := by
  unfold Result.andThen
  cases r.ret with
  | some a => exact List.nil_subset l
  | none => exact h _

/-- Only expressions of the body are evaluated. -/
theorem evaluated_subset (c : Code) (s : State B W) : evaluated E c s ⊆ c.evals := by
  induction c generalizing s with
  | nil => exact List.Subset.refl _
  | stmt st rest ih =>
    exact append_subset_append (List.Subset.refl _) (andThen_subset ih)
  | cond c i block rest ihb ih =>
    refine append_subset_append (tested_subset E s c) ?_
    split_ifs
    · exact append_subset_append (ihb s) (andThen_subset ih)
    · exact List.Subset.trans (ih s) (List.subset_append_right _ _)
  | condElse c block other rest ihb iho ih =>
    refine append_subset_append (tested_subset E s c) ?_
    split_ifs
    · exact append_subset_append (ihb s)
        (andThen_subset fun t => List.Subset.trans (ih t) (List.subset_append_right _ _))
    · exact List.Subset.trans (append_subset_append (iho s) (andThen_subset ih))
        (List.subset_append_right _ _)

variable {E}

/-- **Expressions that do not occur are not evaluated.** -/
theorem picked_of_without {p : Eval → Bool} {c : Code} (hc : c.without p = true)
    (s : State B W) : picked E p c s = [] := by
  refine List.filter_eq_nil_iff.2 fun e he => ?_
  have hnot := List.all_eq_true.1 hc e (evaluated_subset E c s he)
  simpa using hnot

/-! ## Outcome and trace -/

variable (E) in
/-- The outcome of a body, and the expressions of the kind `p` that it evaluates. -/
def traced (p : Eval → Bool) (c : Code) (s : State B W) : Result B W × List Eval :=
  (exec E c s, picked E p c s)

section Traced

variable {p : Eval → Bool} {c d : Code} {s t : State B W} {l : List Text} {es : List Eval}

/-- A body that returns hides what comes behind it. -/
lemma traced_append_of_ret {a : Action} (h : traced E p c s = (⟨t, some a, l⟩, es)) (d : Code) :
    traced E p (c ++ d) s = (⟨t, some a, l⟩, es) := by
  obtain ⟨hexec, hpicked⟩ := Prod.mk.inj h
  rw [traced, exec_append, picked_append, hexec, hpicked]
  simp [Result.andThen]

/-- A body that falls through without a trace can be left out. -/
lemma traced_append_of_none (h : traced E p c s = (⟨t, none, []⟩, [])) (d : Code) :
    traced E p (c ++ d) s = traced E p d t := by
  obtain ⟨hexec, hpicked⟩ := Prod.mk.inj h
  rw [traced, exec_append, picked_append, hexec, hpicked]
  rfl

/-- A condition without tests that holds. -/
lemma traced_block_of_holds {cond : Cond} (h : E.holds s cond = true) (htests : cond.evals = [])
    (body : Code) : traced E p (.block cond body) s = traced E p body s := by
  have hnone : E.tested s cond = [] := List.subset_nil.1 (htests ▸ tested_subset E s cond)
  rw [traced, exec_block, picked_block, hnone, h]
  rfl

/-- A condition without tests that does not hold. -/
lemma traced_block_of_not {cond : Cond} (h : E.holds s cond = false) (htests : cond.evals = [])
    (body : Code) : traced E p (.block cond body) s = (⟨s, none, []⟩, []) := by
  have hnone : E.tested s cond = [] := List.subset_nil.1 (htests ▸ tested_subset E s cond)
  rw [traced, exec_block, picked_block, hnone, h]
  rfl

/-- A block for another method. -/
lemma traced_method_of_ne {m : Text} (h : s.method ≠ m) (body : Code) :
    traced E p (.block (.method m) body) s = (⟨s, none, []⟩, []) := by
  have hcond : E.holds s (.method m) = false := decide_eq_false h
  exact traced_block_of_not hcond rfl body

/-- A body for the method of the request. -/
lemma traced_method_of_eq {m : Text} (h : s.method = m) (body : Code) :
    traced E p (.block (.method m) body) s = traced E p body s := by
  have hcond : E.holds s (.method m) = true := decide_eq_true h
  exact traced_block_of_holds hcond rfl body

/-- A body without such an expression has no trace. -/
lemma traced_of_without (hc : c.without p = true) (hexec : exec E c s = ⟨t, none, []⟩) :
    traced E p c s = (⟨t, none, []⟩, []) := by
  rw [traced, hexec, picked_of_without hc]

end Traced

/-! ## The method -/

/-- Inserted code does not change the method of the request. -/
def KeepsMethod (E : Engine B W) : Prop := ∀ text s, (E.insert text s).1.method = s.method

/-- No body changes the method if the inserted code does not. -/
lemma exec_method (hE : KeepsMethod E) (c : Code) (s : State B W) :
    (exec E c s).state.method = s.method := by
  refine exec_preserves E (fun t => t.method = s.method) (fun st _ t ht => ?_) rfl
  cases st with
  | insert place text => exact (hE text t).trans ht
  | note | unset | set | hint | backend | other | ret => exact ht

/-- Two parts that evaluate nothing of the kind, the second one in any state with the method. -/
lemma picked_append_eq_nil (hE : KeepsMethod E) {p : Eval → Bool} {c d : Code} {s : State B W}
    (hc : picked E p c s = [])
    (hd : ∀ t : State B W, t.method = s.method → picked E p d t = []) :
    picked E p (c ++ d) s = [] := by
  have hmethod := exec_method hE c s
  rw [picked_append, hc, List.nil_append]
  unfold Result.andThen
  cases (exec E c s).ret with
  | some a => rfl
  | none => exact hd _ hmethod

end Traces

/-! ## The subroutines of a request -/

section Runs

variable (V : Varnishd B W) (P : Program)

/-- A subroutine and the state in which it starts. -/
abbrev Run (B W : Type) := Code × State B W

/-- From `vcl_deliver` on. -/
def deliverRuns (s : State B W) : List (Run B W) := [(P.deliver, s)]

/-- From `vcl_synth` on. -/
def synthRuns (s : State B W) : List (Run B W) := [(P.synth, s)]

/-- From the answer of the backend on. -/
def responseRuns (s : State B W) : List (Run B W) :=
  let c := if V.answered s then P.backendResponse else P.backendError
  let r := exec V.toEngine c s
  (c, s) :: match r.ret with
    | some .deliver | none => deliverRuns P r.state
    | some _ => synthRuns P r.state

/-- From `vcl_backend_fetch` on. -/
def fetchRuns (s : State B W) : List (Run B W) :=
  let r := exec V.toEngine P.backendFetch (V.request s)
  (P.backendFetch, V.request s) :: match r.ret with
    | some .fetch => responseRuns V P r.state
    | _ => synthRuns P r.state

/-- From `vcl_pass` on. -/
def passRuns (s : State B W) : List (Run B W) :=
  let r := exec V.toEngine P.pass s
  (P.pass, s) :: match r.ret with
    | some .fetch => fetchRuns V P r.state
    | _ => synthRuns P r.state

/-- From `vcl_pipe` on. -/
def pipeRuns (s : State B W) : List (Run B W) :=
  let r := exec V.toEngine P.pipe (V.request s)
  (P.pipe, V.request s) :: match r.ret with
    | some .pipe => []
    | _ => synthRuns P r.state

/-- From the lookup on. -/
def lookupRuns (s : State B W) : List (Run B W) :=
  match V.lookup s with
  | .hit =>
    let r := exec V.toEngine P.hit s
    (P.hit, s) :: match r.ret with
      | some .deliver => deliverRuns P r.state
      | some .pass => passRuns V P r.state
      | _ => synthRuns P r.state
  | .stale =>
    let r := exec V.toEngine P.hit s
    (P.hit, s) :: match r.ret with
      | some .deliver => fetchRuns V P r.state
      | some .pass => passRuns V P r.state
      | _ => synthRuns P r.state
  | .miss =>
    let r := exec V.toEngine P.miss s
    (P.miss, s) :: match r.ret with
      | some .fetch => fetchRuns V P r.state
      | some .pass => passRuns V P r.state
      | _ => synthRuns P r.state
  | .pass => passRuns V P s

/-- The subroutines that are run for a request that arrives in state `s`. -/
def runs (s : State B W) : List (Run B W) :=
  let r := exec V.toEngine P.recv s
  let h := exec V.toEngine P.hash r.state
  (P.recv, s) :: match r.ret with
    | some .hash => (P.hash, r.state) :: lookupRuns V P h.state
    | some .pass => (P.hash, r.state) :: passRuns V P h.state
    | some .pipe => (P.hash, r.state) :: pipeRuns V P h.state
    | _ => synthRuns P r.state

/-- The expressions of the kind `p` that are evaluated for a request. -/
def visitPicked (p : Eval → Bool) (s : State B W) : List Eval :=
  (runs V P s).flatMap fun r => picked V.toEngine p r.1 r.2

/-! ## The two ways of a control request -/

variable {V P}

/-- A request that `vcl_recv` answers itself. -/
lemma visit_of_synth {s t : State B W} {args : Text} {l : List Text}
    (h : exec V.toEngine P.recv s = ⟨t, some (.synth args), l⟩) :
    (visit V P s).sent = none ∧ runs V P s = [(P.recv, s), (P.synth, t)] := by
  simp only [visit, runs, h]
  exact ⟨rfl, rfl⟩

/-- A request that is answered when its object is looked up. -/
lemma visit_of_lookup_synth {s t u : State B W} {l m : List Text} {a : Option Action}
    (hrecv : exec V.toEngine P.recv s = ⟨t, some .hash, l⟩)
    (hhash : exec V.toEngine P.hash t = ⟨u, a, m⟩) (hlookup : V.lookup u ≠ .pass)
    (hanswer : ∀ c ∈ [P.hit, P.miss], ∃ v args,
      exec V.toEngine c u = ⟨v, some (.synth args), []⟩) :
    ∃ c ∈ [P.hit, P.miss], ∃ v, (visit V P s).sent = none ∧
      runs V P s = [(P.recv, s), (P.hash, t), (c, u), (P.synth, v)] := by
  obtain ⟨v, args, hhit⟩ := hanswer P.hit (by simp)
  obtain ⟨w, args', hmiss⟩ := hanswer P.miss (by simp)
  have hvisit : (visit V P s).sent = (lookupPhase V P u).sent := by
    simp only [visit, hrecv, hhash, Visit.after]
  have hruns : runs V P s = (P.recv, s) :: (P.hash, t) :: lookupRuns V P u := by
    simp only [runs, hrecv, hhash]
  rw [hvisit, hruns]
  cases hfound : V.lookup u with
  | pass => exact absurd hfound hlookup
  | hit | stale =>
    refine ⟨P.hit, by simp, v, ?_, ?_⟩
    · simp only [lookupPhase, hfound, hhit]
      rfl
    · simp only [lookupRuns, hfound, hhit]
      rfl
  | miss =>
    refine ⟨P.miss, by simp, w, ?_, ?_⟩
    · simp only [lookupPhase, hfound, hmiss]
      rfl
    · simp only [lookupRuns, hfound, hmiss]
      rfl

/-! ## Requests that evaluate nothing of a kind -/

/-- The subroutines of a program. -/
def Program.subroutines (P : Program) : List Code :=
  [P.recv, P.hash, P.hit, P.miss, P.pass, P.pipe, P.synth, P.backendFetch, P.backendResponse,
    P.backendError, P.deliver]

/-- A run of a subroutine of the program with the method `m`. -/
def Within (P : Program) (m : Text) (r : Run B W) : Prop :=
  r.1 ∈ P.subroutines ∧ r.2.method = m

section Within

variable {m : Text} {s : State B W} (hV : KeepsMethod V.toEngine) (hs : s.method = m)

include hs

/-- From `vcl_synth` on, the subroutines are those of the program and the method stays. -/
lemma synthRuns_within : ∀ r ∈ synthRuns P s, Within P m r := by
  simp [synthRuns, Within, Program.subroutines, hs]

/-- The same from `vcl_deliver` on. -/
lemma deliverRuns_within : ∀ r ∈ deliverRuns P s, Within P m r := by
  simp [deliverRuns, Within, Program.subroutines, hs]

include hV

/-- The same from the answer of the backend on. -/
lemma responseRuns_within : ∀ r ∈ responseRuns V P s, Within P m r := by
  simp only [responseRuns, List.forall_mem_cons]
  have hnext := (exec_method hV (if V.answered s then P.backendResponse else P.backendError)
    s).trans hs
  refine ⟨⟨?_, hs⟩, ?_⟩
  · split_ifs <;> simp [Program.subroutines]
  · split
    · exact deliverRuns_within hnext
    · exact deliverRuns_within hnext
    · exact synthRuns_within hnext

/-- The same from `vcl_backend_fetch` on. -/
lemma fetchRuns_within : ∀ r ∈ fetchRuns V P s, Within P m r := by
  simp only [fetchRuns, List.forall_mem_cons]
  have hnext := (exec_method hV P.backendFetch (V.request s)).trans hs
  refine ⟨⟨by simp [Program.subroutines], hs⟩, ?_⟩
  split
  · exact responseRuns_within hV hnext
  · exact synthRuns_within hnext

/-- The same from `vcl_pass` on. -/
lemma passRuns_within : ∀ r ∈ passRuns V P s, Within P m r := by
  simp only [passRuns, List.forall_mem_cons]
  have hnext := (exec_method hV P.pass s).trans hs
  refine ⟨⟨by simp [Program.subroutines], hs⟩, ?_⟩
  split
  · exact fetchRuns_within hV hnext
  · exact synthRuns_within hnext

/-- The same from `vcl_pipe` on. -/
lemma pipeRuns_within : ∀ r ∈ pipeRuns V P s, Within P m r := by
  simp only [pipeRuns, List.forall_mem_cons]
  have hnext := (exec_method hV P.pipe (V.request s)).trans hs
  refine ⟨⟨by simp [Program.subroutines], hs⟩, ?_⟩
  split
  · simp
  · exact synthRuns_within hnext

/-- The same from the lookup on. -/
lemma lookupRuns_within : ∀ r ∈ lookupRuns V P s, Within P m r := by
  have hhit := (exec_method hV P.hit s).trans hs
  have hmiss := (exec_method hV P.miss s).trans hs
  simp only [lookupRuns]
  split
  · refine List.forall_mem_cons.2 ⟨⟨by simp [Program.subroutines], hs⟩, ?_⟩
    split
    · exact deliverRuns_within hhit
    · exact passRuns_within hV hhit
    · exact synthRuns_within hhit
  · refine List.forall_mem_cons.2 ⟨⟨by simp [Program.subroutines], hs⟩, ?_⟩
    split
    · exact fetchRuns_within hV hhit
    · exact passRuns_within hV hhit
    · exact synthRuns_within hhit
  · refine List.forall_mem_cons.2 ⟨⟨by simp [Program.subroutines], hs⟩, ?_⟩
    split
    · exact fetchRuns_within hV hmiss
    · exact passRuns_within hV hmiss
    · exact synthRuns_within hmiss
  · exact passRuns_within hV hs

/-- Every subroutine that is run for a request is one of the program, and sees its method. -/
theorem runs_within : ∀ r ∈ runs V P s, Within P m r := by
  have hrecv := (exec_method hV P.recv s).trans hs
  have hhash := (exec_method hV P.hash (exec V.toEngine P.recv s).state).trans hrecv
  simp only [runs]
  refine List.forall_mem_cons.2 ⟨⟨by simp [Program.subroutines], hs⟩, ?_⟩
  have hcons {l : List (Run B W)} (hl : ∀ r ∈ l, Within P m r) :
      ∀ r ∈ (P.hash, (exec V.toEngine P.recv s).state) :: l, Within P m r :=
    List.forall_mem_cons.2 ⟨⟨by simp [Program.subroutines], hrecv⟩, hl⟩
  split
  · exact hcons (lookupRuns_within hV hhash)
  · exact hcons (passRuns_within hV hhash)
  · exact hcons (pipeRuns_within hV hhash)
  · exact synthRuns_within hrecv

/-- **Nothing of a kind is evaluated for a request** if no subroutine of the program evaluates
anything of it when it sees the method. -/
theorem visitPicked_eq_nil {p : Eval → Bool}
    (h : ∀ c ∈ P.subroutines, ∀ t : State B W, t.method = m → picked V.toEngine p c t = []) :
    visitPicked V P p s = [] := by
  refine List.flatMap_eq_nil_iff.2 fun r hr => ?_
  obtain ⟨hmem, hmethod⟩ := runs_within hV hs r hr
  exact h r.1 hmem r.2 hmethod

end Within

end Runs

end Vcl
