import CloudVinyl.Lib.Vcl

set_option relaxedAutoImplicit false
set_option autoImplicit false

/-!
# The way of a request through varnishd

Which subroutines of a VCL program varnishd runs for one request, in which order, and what it
sends to a backend: `vcl_recv`, then `vcl_hash`, then by the action returned a lookup, a pass or a
pipe, and where there is a fetch `vcl_backend_fetch` and what follows it. A restart and a retry of
a fetch are not followed: the request ends with them.

## Main definitions

* `Vcl.Program`, `Vcl.Varnishd` — the subroutines, and what decides the parts left open.
* `Vcl.visit` — the request sent to a backend, if there is one, and the inserted code that ran.

## Main results

* `Vcl.visit_of_pass` — the visit of a request that is passed.
* `Vcl.visit_sent` — the backend of a request that is sent, by an invariant of the subroutines.
-/

namespace Vcl

variable {B W : Type}

/-- The subroutines that take part in a request. -/
structure Program where
  recv : Code
  hash : Code
  hit : Code
  miss : Code
  pass : Code
  pipe : Code
  synth : Code
  backendFetch : Code
  backendResponse : Code
  backendError : Code
  deliver : Code

/-- What a lookup finds; a `stale` object is delivered while it is fetched anew. -/
inductive Lookup where
  | hit
  | stale
  | miss
  | pass
  deriving DecidableEq

/-- An engine that also decides what a lookup finds, whether a backend answers, and which headers
are not forwarded. -/
structure Varnishd (B W : Type) extends Engine B W where
  lookup : State B W → Lookup
  answered : State B W → Bool
  hopByHop : Text → Bool

/-- A request that was sent to a backend. -/
structure Sent (B : Type) where
  backend : B
  method : Text
  http : Text → Option Text

/-- What became of a request: what was sent, and the places whose inserted code ran. -/
structure Visit (B : Type) where
  sent : Option (Sent B)
  ran : List Text

/-- The visit of which `l` is what ran before. -/
def Visit.after (v : Visit B) (l : List Text) : Visit B := { v with ran := l ++ v.ran }

/-! ## Phases -/

section Phases

variable (V : Varnishd B W) (P : Program)

/-- The state with which the first fetch of a request starts. -/
def Varnishd.request (s : State B W) : State B W :=
  { s with
    http := fun o h => match o with
      | .bereq => if V.hopByHop h then none else s.http .req h
      | .beresp => none
      | o => s.http o h
    backend := s.hint
    retries := 0 }

/-- The request to the backend has the headers of the client's, but for those of the connection. -/
lemma Varnishd.get_request (s : State B W) (h : Text) :
    (V.request s).get .req h = s.get .req h ∧
      (V.hopByHop (fieldName h) = false → (V.request s).get .bereq h = s.get .req h) := by
  refine ⟨rfl, fun hfwd => ?_⟩
  change (if V.hopByHop (fieldName h) then none else s.http .req (fieldName h)) = _
  rw [hfwd]
  rfl

/-- From `vcl_deliver` on. -/
def deliverPhase (s : State B W) : Visit B := ⟨none, (exec V.toEngine P.deliver s).ran⟩

/-- From `vcl_synth` on. -/
def synthPhase (s : State B W) : Visit B := ⟨none, (exec V.toEngine P.synth s).ran⟩

/-- What follows when the backend has answered, or has not. Without a `return` the built-in code
delivers. -/
def responsePhase (s : State B W) : Visit B :=
  let r := exec V.toEngine (if V.answered s then P.backendResponse else P.backendError) s
  match r.ret with
  | some .deliver | none => (deliverPhase V P r.state).after r.ran
  | some _ => (synthPhase V P r.state).after r.ran

/-- A fetch with the given method. -/
def fetchPhase (method : Text) (s : State B W) : Visit B :=
  let r := exec V.toEngine P.backendFetch (V.request s)
  match r.ret with
  | some .fetch =>
    ⟨some ⟨r.state.backend, method, r.state.http .bereq⟩, r.ran ++ (responsePhase V P r.state).ran⟩
  | _ => (synthPhase V P r.state).after r.ran

/-- From `vcl_pass` on. -/
def passPhase (s : State B W) : Visit B :=
  let r := exec V.toEngine P.pass s
  match r.ret with
  | some .fetch => (fetchPhase V P s.method r.state).after r.ran
  | _ => (synthPhase V P r.state).after r.ran

/-- From `vcl_pipe` on. -/
def pipePhase (s : State B W) : Visit B :=
  let r := exec V.toEngine P.pipe (V.request s)
  match r.ret with
  | some .pipe => ⟨some ⟨r.state.backend, s.method, r.state.http .bereq⟩, r.ran⟩
  | _ => (synthPhase V P r.state).after r.ran

/-- From the lookup on. -/
def lookupPhase (s : State B W) : Visit B :=
  match V.lookup s with
  | .hit =>
    let r := exec V.toEngine P.hit s
    match r.ret with
    | some .deliver => (deliverPhase V P r.state).after r.ran
    | some .pass => (passPhase V P r.state).after r.ran
    | _ => (synthPhase V P r.state).after r.ran
  | .stale =>
    let r := exec V.toEngine P.hit s
    match r.ret with
    | some .deliver => (fetchPhase V P "GET" r.state).after r.ran
    | some .pass => (passPhase V P r.state).after r.ran
    | _ => (synthPhase V P r.state).after r.ran
  | .miss =>
    let r := exec V.toEngine P.miss s
    match r.ret with
    | some .fetch => (fetchPhase V P "GET" r.state).after r.ran
    | some .pass => (passPhase V P r.state).after r.ran
    | _ => (synthPhase V P r.state).after r.ran
  | .pass => passPhase V P s

/-- The visit of a request that arrives in state `s`. The subroutine `vcl_hash` runs whenever
`vcl_recv` does not end the request. -/
def visit (s : State B W) : Visit B :=
  let r := exec V.toEngine P.recv s
  let h := exec V.toEngine P.hash r.state
  match r.ret with
  | some .hash => (lookupPhase V P h.state).after (r.ran ++ h.ran)
  | some .pass => (passPhase V P h.state).after (r.ran ++ h.ran)
  | some .pipe => (pipePhase V P h.state).after (r.ran ++ h.ran)
  | _ => (synthPhase V P r.state).after r.ran

end Phases

/-! ## The two rules -/

section Rules

variable {V : Varnishd B W} {P : Program}

/-- **The visit of a request that is passed**, if no subroutine on its way to the backend ran
inserted code. -/
theorem visit_of_pass {s t u v w : State B W} {a : Action}
    (hrecv : exec V.toEngine P.recv s = ⟨t, some .pass, []⟩)
    (hhash : exec V.toEngine P.hash t = ⟨u, some a, []⟩)
    (hpass : exec V.toEngine P.pass u = ⟨v, some .fetch, []⟩)
    (hfetch : exec V.toEngine P.backendFetch (V.request v) = ⟨w, some .fetch, []⟩) :
    visit V P s = ⟨some ⟨w.backend, u.method, w.http .bereq⟩, (responsePhase V P w).ran⟩ := by
  have h₁ : fetchPhase V P u.method v =
      ⟨some ⟨w.backend, u.method, w.http .bereq⟩, (responsePhase V P w).ran⟩ := by
    simp only [fetchPhase, hfetch, List.nil_append]
  have h₂ : passPhase V P u = (fetchPhase V P u.method v).after [] := by
    simp only [passPhase, hpass]
  have h₃ : visit V P s = (passPhase V P u).after [] := by
    simp only [visit, hrecv, hhash, List.append_nil]
  rw [h₃, h₂, h₁]
  rfl

/-- What runs after a fetch: the subroutine of the response or of the error, and then the delivery
or an error page. -/
lemma mem_ran_responsePhase {s : State B W} {r : Result B W} {p : Text}
    (h : exec V.toEngine (if V.answered s then P.backendResponse else P.backendError) s = r)
    (hp : p ∈ (responsePhase V P s).ran) :
    p ∈ r.ran ∨ p ∈ (deliverPhase V P r.state).ran ∨
      r.ret ≠ some .deliver ∧ p ∈ (synthPhase V P r.state).ran := by
  simp only [responsePhase, h] at hp
  split at hp
  · exact (List.mem_append.1 hp).imp_right .inl
  · exact (List.mem_append.1 hp).imp_right .inl
  · rename_i a hne hret
    refine (List.mem_append.1 hp).imp_right fun hp => .inr ⟨?_, hp⟩
    rw [hret]
    exact fun h => hne (Option.some.inj h)

section Sent

variable {I : State B W → Prop} {Q : B → Prop}
  (client : ∀ c ∈ [P.hash, P.hit, P.miss, P.pass], ∀ s, I s → I (exec V.toEngine c s).state)
  (backend : ∀ c ∈ [P.backendFetch, P.pipe], ∀ s, I s →
    Q (exec V.toEngine c (V.request s)).state.backend)

include backend in
/-- What a fetch sends goes to a backend as the invariant says. -/
lemma fetchPhase_sent {m : Text} {s : State B W} (hs : I s) :
    ∀ x ∈ (fetchPhase V P m s).sent, Q x.backend := by
  intro x hx
  simp only [fetchPhase] at hx
  have hQ := backend P.backendFetch (by simp) s hs
  split at hx
  · obtain rfl := Option.mem_some_iff.1 hx
    exact hQ
  · cases hx

include client backend in
/-- The same from `vcl_pass` on. -/
lemma passPhase_sent {s : State B W} (hs : I s) :
    ∀ x ∈ (passPhase V P s).sent, Q x.backend := by
  intro x hx
  simp only [passPhase] at hx
  have hI := client P.pass (by simp) s hs
  split at hx
  · exact fetchPhase_sent backend hI x hx
  · cases hx

include backend in
/-- The same from `vcl_pipe` on. -/
lemma pipePhase_sent {s : State B W} (hs : I s) :
    ∀ x ∈ (pipePhase V P s).sent, Q x.backend := by
  intro x hx
  simp only [pipePhase] at hx
  have hQ := backend P.pipe (by simp) s hs
  split at hx
  · obtain rfl := Option.mem_some_iff.1 hx
    exact hQ
  · cases hx

include client backend in
/-- The same from the lookup on. -/
lemma lookupPhase_sent {s : State B W} (hs : I s) :
    ∀ x ∈ (lookupPhase V P s).sent, Q x.backend := by
  intro x hx
  have hhit := client P.hit (by simp) s hs
  have hmiss := client P.miss (by simp) s hs
  simp only [lookupPhase] at hx
  split at hx
  · split at hx
    · cases hx
    · exact passPhase_sent client backend hhit x hx
    · cases hx
  · split at hx
    · exact fetchPhase_sent backend hhit x hx
    · exact passPhase_sent client backend hhit x hx
    · cases hx
  · split at hx
    · exact fetchPhase_sent backend hmiss x hx
    · exact passPhase_sent client backend hmiss x hx
    · cases hx
  · exact passPhase_sent client backend hs x hx

include client backend in
/-- **The backend of a request that is sent.** If the invariant holds after `vcl_recv`, the other
subroutines of the client side keep it and those of the backend side make `Q` true of the backend
from it, then `Q` is true of the backend of whatever is sent.

**Proof sketch.** One lemma for each phase, in the order in which the phases call each other. -/
theorem visit_sent {s : State B W} (hrecv : I (exec V.toEngine P.recv s).state) :
    ∀ x ∈ (visit V P s).sent, Q x.backend := by
  intro x hx
  have hhash := client P.hash (by simp) _ hrecv
  simp only [visit] at hx
  split at hx
  · exact lookupPhase_sent client backend hhash x hx
  · exact passPhase_sent client backend hhash x hx
  · exact pipePhase_sent backend hhash x hx
  · cases hx

end Sent

end Rules

end Vcl
