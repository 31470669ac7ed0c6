import CloudVinyl.Agent.Push
import CloudVinyl.Controller.Pods
import CloudVinyl.Lib.Runs

set_option relaxedAutoImplicit false
set_option autoImplicit false

/-!
# Pushing a VCL to the pods

`pushVCL` of `internal/controller/vcl_push.go` and the client that it calls for each pod,
`HTTPAgentClient.PushVCL`. The calls run in parallel, and pushes of other names may be under way
on the same pods, together with the discards that earlier pushes have left. A system is a set of
pods and the calls of `pushVCL` that were made so far; its events are the single commands of the
pushes, their answers and the discards.

## Main definitions

* `Controller.pushVCL` — the pods that are reported, from what the client returned for each.
* `Controller.System`, `Controller.System.step` — the pods and the calls, event by event.
* `Controller.System.Orderly` — the condition under which an event does no harm.

## Main results

* `Controller.reported_pods_active` — along runs of such events, a pod that is reported had the
  pushed VCL active when its push answered.
* `Controller.reported_of_loaded` — a push of a VCL that is loaded but not active is reported.
-/

namespace CloudVinyl.Controller

open Generator Admin

/-! ## The client and pushVCL -/

/-- `HTTPAgentClient.PushVCL`, once the agent has answered: the error, if there is one. -/
def clientPushVCL (reply : Reply) : Option Text :=
  if reply.status = 200 ∨ reply.status = 201 ∨ reply.status = 204 then none
  else some ("agent push returned HTTP " ++ Text.decimal reply.status ++ ": " ++
    Text.limitReader 4096 reply.body)

/-- What `pushVCL` takes for a success. -/
def accepted : Option Text → Bool
  | none => true
  | some err => Text.contains err "Already a VCL named"

/-- `pushVCL`, once the client has returned for every pod. -/
def pushVCL (results : List (PeerBackend × Option Text)) : Except Text (List PeerBackend) :=
  if results = [] then .ok []
  else
    let failCount := results.countP fun r => !accepted r.2
    if failCount = results.length then
      .error ("VCL push failed on all " ++ Text.decimal results.length ++ " pods")
    else .ok ((results.filter fun r => accepted r.2).map Prod.fst)

/-- Every pod that is reported was accepted. -/
lemma accepted_of_pushVCL {results : List (PeerBackend × Option Text)} {pushed : List PeerBackend}
    (h : pushVCL results = .ok pushed) {p : PeerBackend} (hp : p ∈ pushed) :
    ∃ err, (p, err) ∈ results ∧ accepted err = true := by
  simp only [pushVCL] at h
  split_ifs at h
  · obtain rfl := Except.ok.inj h
    cases hp
  · obtain rfl := Except.ok.inj h
    obtain ⟨⟨q, err⟩, hr, rfl⟩ := List.mem_map.1 hp
    obtain ⟨hmem, hacc⟩ := List.mem_filter.1 hr
    exact ⟨err, hmem, hacc⟩

/-- Without an error there is a push that was accepted. -/
lemma exists_accepted_of_pushVCL {results : List (PeerBackend × Option Text)}
    {pushed : List PeerBackend} (hne : results ≠ []) (h : pushVCL results = .ok pushed) :
    ∃ r ∈ results, accepted r.2 = true := by
  simp only [pushVCL, if_neg hne] at h
  split_ifs at h with hcount
  rw [List.countP_eq_length] at hcount
  push Not at hcount
  obtain ⟨r, hr, hacc⟩ := hcount
  exact ⟨r, hr, by simpa using hacc⟩

/-! ## What is accepted -/

/-- The answer of the handler mentions a loaded VCL only if its message does. -/
lemma alreadyLoaded_of_statusResponse {message : Text}
    (h : alreadyLoaded <:+: statusResponse "error" message) : alreadyLoaded <:+: message := by
  by_cases hmessage : message = []
  · subst hmessage
    exact absurd h (by decide +kernel)
  · unfold statusResponse messageField at h
    rw [if_neg hmessage, ← List.append_assoc, List.append_assoc _ (Text.quoteJSON message)] at h
    have hbody := alreadyLoaded_of_append (by decide +kernel) h
    rw [alreadyLoaded_eq] at hbody ⊢
    rcases Text.infix_of_infix_quoteJSON (by decide) (by decide) (by decide) hbody with hin | hout
    · exact hin
    · exact absurd hout (by decide)

/-- What the client makes of an answer mentions a loaded VCL only if the answer does. -/
lemma alreadyLoaded_of_clientPushVCL {reply : Reply} {err : Text}
    (herr : clientPushVCL reply = some err) (h : alreadyLoaded <:+: err) :
    alreadyLoaded <:+: reply.body := by
  simp only [clientPushVCL] at herr
  split_ifs at herr
  obtain rfl := Option.some.inj herr
  have hlimit : alreadyLoaded <:+: Text.limitReader 4096 reply.body := by
    refine alreadyLoaded_of_append ?_ h
    rw [List.mem_append, List.mem_append, not_or, not_or]
    refine ⟨⟨by decide, fun hdigit => ?_⟩, by decide⟩
    exact absurd (Text.isDigit_of_mem_decimal hdigit) (by decide)
  exact hlimit.trans (Text.prefix_limitReader _ _).isInfix

/-- The answers that are accepted: a push without an error, or with one that mentions a loaded
VCL. -/
lemma returned_of_accepted {stage : Stage} {reply : Reply} (hreply : stage.reply = some reply)
    (h : accepted (clientPushVCL reply) = true) :
    ∃ err, stage = .returned err ∧ ∀ e, err = some e → alreadyLoaded <:+: e := by
  have hmark : ∀ {status : ℕ} {message : Text}, status ≠ 200 ∧ status ≠ 201 ∧ status ≠ 204 →
      accepted (clientPushVCL ⟨status, statusResponse "error" message⟩) = true →
      alreadyLoaded <:+: message := by
    intro status message hstatus hacc
    have herr : ∃ err, clientPushVCL ⟨status, statusResponse "error" message⟩ = some err := by
      simp only [clientPushVCL]
      exact ⟨_, if_neg (by omega)⟩
    obtain ⟨err, herr⟩ := herr
    rw [herr] at hacc
    exact alreadyLoaded_of_statusResponse
      (alreadyLoaded_of_clientPushVCL herr (of_decide_eq_true hacc))
  cases stage with
  | rejected =>
    obtain rfl := Option.some.inj hreply
    exact absurd (hmark (by decide) h) (by decide +kernel)
  | activeVCL => cases hreply
  | inline oldName => cases hreply
  | use oldName => cases hreply
  | returned err =>
    refine ⟨err, rfl, fun e he => ?_⟩
    subst he
    obtain rfl := Option.some.inj hreply
    exact hmark (by decide) h

/-! ## The system -/

/-- An error of the client other than an answer of the agent. -/
structure ClientError where
  text : Text
  unmarked : ¬alreadyLoaded <:+: text

/-- What the client returned for a pod, and the VCL that was active on the pod at that moment. -/
structure Returned where
  err : Option Text
  active : Text

/-- The push to one pod: how far the agent is, and what the client has returned. -/
structure Exchange where
  peer : PeerBackend
  stage : Stage
  returned : Option Returned

/-- A call of `pushVCL`. -/
structure Call where
  name : Text
  exchanges : List Exchange

/-- A call begins with an exchange for each pod. -/
def Call.start (name vcl : Text) (peers : List PeerBackend) : Call :=
  ⟨name, peers.map fun p => ⟨p, startPush name vcl, none⟩⟩

/-- What the call returns, once the client has returned for all pods. -/
def Call.result (c : Call) : Option (Except Text (List PeerBackend)) :=
  if c.exchanges.all (·.returned.isSome) then
    some (pushVCL (c.exchanges.filterMap fun e => e.returned.map fun r => (e.peer, r.err)))
  else none

/-- The pods by their addresses, and the calls in the order in which they were made. -/
structure System where
  pods : Text → PodState
  calls : List Call

namespace System

/-- The name that is pushed and the push with index `i` of the call with index `k`. -/
def exchange? (s : System) (k i : ℕ) : Option (Text × Exchange) :=
  s.calls[k]?.bind fun c => c.exchanges[i]?.map fun e => (c.name, e)

/-- The calls with this push replaced. -/
def setExchange (s : System) (k i : ℕ) (e : Exchange) : List Call :=
  s.calls.modify k fun c => { c with exchanges := c.exchanges.set i e }

end System

/-- What can happen: a call, the next command of a push, its answer, an error of the client, and
one of the discards that are due on a pod. -/
inductive Event where
  | call (name vcl : Text) (peers : List PeerBackend)
  | command (k i : ℕ) (o : Outcome)
  | answer (k i : ℕ)
  | fail (k i : ℕ) (err : ClientError)
  | discard (ip : Text) (j : ℕ) (o : Outcome)

/-- The client returns `err` for a push, unless it has returned before. -/
def System.return (s : System) (k i : ℕ) (err : Exchange → Option (Option Text)) : System :=
  match s.exchange? k i with
  | none => s
  | some (_, e) =>
    match e.returned, err e with
    | none, some err =>
      { s with calls := s.setExchange k i { e with
          returned := some ⟨err, (s.pods e.peer.ip).varnishd.active⟩ } }
    | _, _ => s

/-- What an event does. -/
def System.step (s : System) : Event → System
  | .call name vcl peers => { s with calls := s.calls ++ [.start name vcl peers] }
  | .command k i o =>
    match s.exchange? k i with
    | none => s
    | some (name, e) =>
      let r := pushVCLStep name o e.stage (s.pods e.peer.ip)
      ⟨Function.update s.pods e.peer.ip r.2, s.setExchange k i { e with stage := r.1 }⟩
  | .answer k i => s.return k i fun e => e.stage.reply.map clientPushVCL
  | .fail k i err => s.return k i fun _ => some (some err.text)
  | .discard ip j o =>
    { s with pods := Function.update s.pods ip (discardStep j o (s.pods ip)) }

/-- What a list of events does. -/
def System.run (s : System) (events : List Event) : System := events.foldl System.step s

/-- The push has an answer that will be accepted, and the client has not returned. -/
def Exchange.awaited (e : Exchange) : Bool :=
  e.returned.isNone && e.stage.reply.any fun reply => accepted (clientPushVCL reply)

/-- A `vcl.inline` that is answered finds its VCL active if it finds it loaded, and a `vcl.use`
comes while no push of another VCL to the pod has an accepted answer under way. -/
def System.Orderly (s : System) : Event → Prop
  | .command k i o => ∀ x ∈ s.exchange? k i,
    let v := (s.pods x.2.peer.ip).varnishd
    (x.2.stage.isInline = true → o.isAnswered = true → v.loaded.contains x.1 = true →
      v.active = x.1) ∧
    (x.2.stage.isUse = true → ∀ c ∈ s.calls, ∀ e ∈ c.exchanges, e.peer.ip = x.2.peer.ip →
      e.awaited = true → c.name = x.1)
  | _ => True

/-- Whether an event is orderly can be decided. -/
instance (s : System) : (ev : Event) → Decidable (s.Orderly ev)
  | .command k i _ => inferInstanceAs (Decidable (∀ x ∈ s.exchange? k i, _ ∧ _))
  | .call .. => .isTrue trivial
  | .answer .. => .isTrue trivial
  | .fail .. => .isTrue trivial
  | .discard .. => .isTrue trivial

/-- Every event is orderly in the state in which it happens. -/
abbrev System.OrderlyRun (s : System) (events : List Event) : Prop :=
  Runs.Guarded System.step System.Orderly s events

/-! ## The invariant -/

/-- The VCL is active while an accepted answer is under way, and was active when it came. -/
def Exchange.Sound (pods : Text → PodState) (name : Text) (e : Exchange) : Prop :=
  (e.awaited = true → (pods e.peer.ip).varnishd.active = name) ∧
    ∀ r, e.returned = some r → accepted r.err = true → r.active = name

/-- This holds of all pushes. -/
def System.Sound (s : System) : Prop := ∀ c ∈ s.calls, ∀ e ∈ c.exchanges, e.Sound s.pods c.name

section Step

variable {s : System} {k i : ℕ} {name : Text} {e e' : Exchange}

/-- An exchange belongs to a call. -/
lemma exchange?_eq_some (hk : s.exchange? k i = some (name, e)) :
    ∃ c, s.calls[k]? = some c ∧ c.name = name ∧ e ∈ c.exchanges := by
  obtain ⟨c, hc, he⟩ := Option.bind_eq_some_iff.1 hk
  obtain ⟨x, hx, heq⟩ := Option.map_eq_some_iff.1 he
  obtain ⟨rfl, rfl⟩ := Prod.mk.inj heq
  exact ⟨c, hc, rfl, List.mem_of_getElem? hx⟩

/-- What holds of every push and of the new one holds after the replacement. -/
lemma forall_setExchange {P : Text → Exchange → Prop}
    (h : ∀ c ∈ s.calls, ∀ e ∈ c.exchanges, P c.name e) (hk : s.exchange? k i = some (name, e))
    (he' : P name e') : ∀ c ∈ s.setExchange k i e', ∀ e ∈ c.exchanges, P c.name e := by
  intro c hc x hx
  obtain ⟨j, hj⟩ := List.mem_iff_getElem?.1 hc
  rw [System.setExchange, List.getElem?_modify] at hj
  obtain ⟨c₀, hc₀, rfl⟩ := Option.map_eq_some_iff.1 hj
  have hmem : c₀ ∈ s.calls := List.mem_of_getElem? hc₀
  split_ifs at hx ⊢ with hkj
  · obtain ⟨c₁, hc₁, hname, -⟩ := exchange?_eq_some hk
    obtain rfl : c₁ = c₀ := Option.some.inj (hc₁.symm.trans (hkj ▸ hc₀))
    rcases List.mem_or_eq_of_mem_set hx with hx | rfl
    · exact h c₁ hmem x hx
    · exact hname ▸ he'
  · exact h c₀ hmem x hx

/-- A return keeps the invariant: the answer was awaited, or it is not accepted. -/
lemma System.Sound.return (hs : s.Sound) {err : Exchange → Option (Option Text)}
    (herr : ∀ e r, e.returned = none → err e = some r → accepted r = true → e.awaited = true) :
    (s.return k i err).Sound := by
  unfold System.return
  split
  case h_1 => exact hs
  case h_2 name e hk =>
    split
    case h_1 r hreturned hr =>
      refine forall_setExchange hs hk ⟨fun h => ?_, fun r' hr' hacc => ?_⟩
      · simp [Exchange.awaited] at h
      · obtain rfl := Option.some.inj hr'
        obtain ⟨c, hc, rfl, he⟩ := exchange?_eq_some hk
        exact (hs c (List.mem_of_getElem? hc) e he).1 (herr e _ hreturned hr hacc)
    case h_2 => exact hs

/-- The operator still waits for an answer that it will accept. -/
lemma awaited_iff : e.awaited = true ↔ e.returned = none ∧
    ∃ reply, e.stage.reply = some reply ∧ accepted (clientPushVCL reply) = true := by
  simp only [Exchange.awaited, Bool.and_eq_true, Option.isNone_iff_eq_none, Option.any_eq_true]

section Command

variable {o : Outcome} (hs : s.Sound) (hk : s.exchange? k i = some (name, e))
  (ho : s.Orderly (.command k i o))

include hs hk ho

/-- The push that does the command has its VCL active if its answer will be accepted. -/
lemma sound_of_command :
    ({ e with stage := (pushVCLStep name o e.stage (s.pods e.peer.ip)).1 } : Exchange).Sound
      (Function.update s.pods e.peer.ip (pushVCLStep name o e.stage (s.pods e.peer.ip)).2)
      name := by
  obtain ⟨c, hc, rfl, he⟩ := exchange?_eq_some hk
  have hsound := hs c (List.mem_of_getElem? hc) e he
  refine ⟨fun haw => ?_, hsound.2⟩
  obtain ⟨hnone, reply, hreply, hacc⟩ := awaited_iff.1 haw
  obtain ⟨err, herr, hmark⟩ := returned_of_accepted hreply hacc
  change (Function.update s.pods e.peer.ip _ e.peer.ip).varnishd.active = c.name
  rw [Function.update_self]
  by_cases hret : ∃ err₀, e.stage = .returned err₀
  · -- nothing is left to do
    obtain ⟨err₀, hstage⟩ := hret
    have hsame : pushVCLStep c.name o e.stage (s.pods e.peer.ip) = (e.stage, s.pods e.peer.ip) := by
      rw [hstage]
      rfl
    rw [hsame] at hreply ⊢
    exact hsound.1 (awaited_iff.2 ⟨hnone, reply, hreply, hacc⟩)
  · push Not at hret
    rcases returned_of_pushVCLStep hret herr hmark with hactive | ⟨hinline, hanswered, hloaded⟩
    · exact hactive
    · have hactive := (ho _ hk).1 hinline hanswered hloaded
      rcases active_pushVCLStep e.stage with hsame | ⟨-, hname⟩
      · rw [hsame]
        exact hactive
      · exact hname

/-- The other pushes keep theirs. -/
lemma sound_of_other {c : Call} (hc : c ∈ s.calls) {x : Exchange} (hx : x ∈ c.exchanges) :
    x.Sound
      (Function.update s.pods e.peer.ip (pushVCLStep name o e.stage (s.pods e.peer.ip)).2)
      c.name := by
  have hsound := hs c hc x hx
  refine ⟨fun haw => ?_, hsound.2⟩
  have hactive := hsound.1 haw
  by_cases hip : x.peer.ip = e.peer.ip
  · rw [hip] at hactive ⊢
    rw [Function.update_self]
    rcases active_pushVCLStep e.stage with hsame | ⟨huse, hname⟩
    · rw [hsame]
      exact hactive
    · rw [hname]
      exact ((ho _ hk).2 huse c hc x hx hip haw).symm
  · rw [Function.update_of_ne hip]
    exact hactive

end Command

/-- **An orderly event keeps the invariant.** -/
theorem System.Sound.step (hs : s.Sound) {ev : Event} (ho : s.Orderly ev) : (s.step ev).Sound := by
  cases ev with
  | call name vcl peers =>
    intro c hc e he
    rcases List.mem_append.1 hc with hc | hc
    · exact hs c hc e he
    · -- a new push has no answer, or that of a request which was rejected
      obtain rfl := List.mem_singleton.1 hc
      obtain ⟨p, -, rfl⟩ := List.mem_map.1 he
      refine ⟨fun haw => ?_, fun r hr => by cases hr⟩
      obtain ⟨-, reply, hreply, hacc⟩ := awaited_iff.1 haw
      obtain ⟨err, herr, -⟩ := returned_of_accepted hreply hacc
      simp only [startPush] at herr
      split_ifs at herr
  | command k i o =>
    simp only [System.step]
    split
    case h_1 => exact hs
    case h_2 name e hk =>
      exact forall_setExchange (fun c hc x hx => sound_of_other hs hk ho hc hx) hk
        (sound_of_command hs hk ho)
  | answer k i =>
    refine hs.return fun e r hreturned hr hacc => ?_
    obtain ⟨reply, hreply, rfl⟩ := Option.map_eq_some_iff.1 hr
    exact awaited_iff.2 ⟨hreturned, reply, hreply, hacc⟩
  | fail k i err =>
    refine hs.return fun e r _ hr hacc => ?_
    obtain rfl := Option.some.inj hr
    exact absurd (of_decide_eq_true hacc) err.unmarked
  | discard ip j o =>
    intro c hc e he
    refine ⟨fun haw => ?_, (hs c hc e he).2⟩
    have hactive := (hs c hc e he).1 haw
    by_cases hip : e.peer.ip = ip
    · subst hip
      change (Function.update s.pods e.peer.ip _ e.peer.ip).varnishd.active = c.name
      rw [Function.update_self, active_discardStep]
      exact hactive
    · change (Function.update s.pods ip _ e.peer.ip).varnishd.active = c.name
      rw [Function.update_of_ne hip]
      exact hactive

end Step

/-- **Reported pods have the VCL active.** In every state of a run of orderly events, and for
every call of `pushVCL` that has returned, the pushed VCL was active on each reported pod at the
moment its push answered.

**Proof sketch.** The invariant `System.Sound`: from the command that decides a push to its
answer, the pushed VCL stays active. Only `vcl.use` could change that, and an orderly one does
not. -/
theorem reported_pods_active {s : System} (hs : s.calls = []) {events : List Event}
    (ho : s.OrderlyRun events) :
    ∀ c ∈ (s.run events).calls, ∀ pushed, c.result = some (.ok pushed) → ∀ p ∈ pushed,
      ∃ e ∈ c.exchanges, e.peer = p ∧ ∃ r, e.returned = some r ∧ accepted r.err = true ∧
        r.active = c.name := by
  intro c hc pushed hresult p hp
  have hstart : s.Sound := fun c hc => absurd hc (by rw [hs]; exact List.not_mem_nil)
  have hsound : (s.run events).Sound := Runs.invariant (fun _ _ hs ho => hs.step ho) hstart ho
  unfold Call.result at hresult
  split_ifs at hresult
  obtain ⟨err, hmem, hacc⟩ := accepted_of_pushVCL (Option.some.inj hresult) hp
  obtain ⟨e, he, hr⟩ := List.mem_filterMap.1 hmem
  obtain ⟨r, hret, heq⟩ := Option.map_eq_some_iff.1 hr
  obtain ⟨rfl, rfl⟩ := Prod.mk.inj heq
  exact ⟨e, he, rfl, r, hret, hacc, (hsound c hc e he).2 r hret hacc⟩

/-! ## A VCL that is loaded but not active -/

/-- The beginning of a message stands behind the beginning of the answer. -/
lemma statusResponse_append (status r : Text) {p : Text} (hp : p ≠ []) :
    ∃ r', statusResponse status (p ++ r) = "\x7b\"status\":" ++ Text.quoteJSON status ++
      ",\"message\":\"" ++ p.flatMap Text.jsonChar ++ r' := by
  refine ⟨r.flatMap Text.jsonChar ++ ('"' :: "\x7d\n"), ?_⟩
  have hquote : ",\"message\":" ++ Text.quoteJSON (p ++ r) =
      ",\"message\":\"" ++ (p.flatMap Text.jsonChar ++ (r.flatMap Text.jsonChar ++ ['"'])) := by
    unfold Text.quoteJSON
    rw [List.flatMap_append, List.append_assoc]
    rfl
  unfold statusResponse messageField
  rw [if_neg (List.append_ne_nil_of_left_ne_nil hp r), hquote]
  simp only [List.append_assoc, List.singleton_append]

/-- The mark is found in the front of an answer, and the rest does not matter. -/
lemma accepted_of_front {front : Text} (hsize : (front.map Char.utf8Size).sum ≤ 4096)
    (hmark : alreadyLoaded <:+: front) (r : Text) :
    accepted (clientPushVCL ⟨500, front ++ r⟩) = true := by
  have hlimit : alreadyLoaded <:+: Text.limitReader 4096 (front ++ r) := by
    rw [Text.limitReader_append r hsize]
    exact hmark.trans (List.prefix_append _ _).isInfix
  exact decide_eq_true (hlimit.trans (List.suffix_append _ _).isInfix)

/-- The answer that a VCL is loaded gets through to `pushVCL`: with what stands in front of it, it
fits into what the client reads. -/
lemma accepted_of_alreadyLoaded {name err : Text}
    (herr : commandError "vcl.inline" (.answered 106 (alreadyLoaded ++ " " ++ name)) = some err) :
    accepted (clientPushVCL ⟨500, statusResponse "error" err⟩) = true := by
  obtain rfl := Option.some.inj herr
  rw [List.append_assoc alreadyLoaded, ← List.append_assoc]
  obtain ⟨r, hr⟩ := statusResponse_append "error" (" " ++ name)
    (p := "vcl.inline" ++ " failed (code " ++ Text.decimalInt 106 ++ "): " ++ alreadyLoaded)
    (by decide)
  rw [hr]
  exact accepted_of_front (by decide +kernel) (by decide +kernel) r

/-- An exchange that was set is found. -/
lemma exchange?_setExchange {s : System} {k i : ℕ} {name : Text} {e : Exchange}
    (hk : s.exchange? k i = some (name, e)) (e' : Exchange) (pods : Text → PodState) :
    (⟨pods, s.setExchange k i e'⟩ : System).exchange? k i = some (name, e') := by
  obtain ⟨c, hc, he⟩ := Option.bind_eq_some_iff.1 hk
  obtain ⟨x, hx, heq⟩ := Option.map_eq_some_iff.1 he
  obtain ⟨rfl, rfl⟩ := Prod.mk.inj heq
  have hi : i < c.exchanges.length := (List.getElem?_eq_some_iff.1 hx).1
  simp [System.exchange?, System.setExchange, hc, hi]

/-- The answer of an exchange reaches the operator. -/
lemma return_eq {s : System} {k i : ℕ} {name : Text} {e : Exchange} {r : Option Text}
    {err : Exchange → Option (Option Text)} (hk : s.exchange? k i = some (name, e))
    (hreturned : e.returned = none) (herr : err e = some r) :
    s.return k i err = ⟨s.pods, s.setExchange k i
      { e with returned := some ⟨r, (s.pods e.peer.ip).varnishd.active⟩ }⟩ := by
  simp only [System.return, hk, hreturned, herr]

/-- **A push of a VCL that is loaded is reported**, whatever VCL is active. -/
theorem reported_of_loaded {s : System} {k i : ℕ} {name oldName : Text} {e : Exchange}
    (hk : s.exchange? k i = some (name, e)) (hstage : e.stage = .inline oldName)
    (hreturned : e.returned = none)
    (hloaded : (s.pods e.peer.ip).varnishd.loaded.contains name = true) :
    ∃ e' r, (s.run [.command k i .answered, .answer k i]).exchange? k i = some (name, e') ∧
      e'.returned = some r ∧ accepted r.err = true ∧
      r.active = (s.pods e.peer.ip).varnishd.active := by
  obtain ⟨err, herr⟩ : ∃ err,
      commandError "vcl.inline" (.answered 106 (alreadyLoaded ++ " " ++ name)) = some err :=
    ⟨_, rfl⟩
  have hstep : pushVCLStep name .answered e.stage (s.pods e.peer.ip) =
      (.returned (some err), s.pods e.peer.ip) := by
    simp only [hstage, pushVCLStep, Outcome.perform, Varnishd.vclInline, if_pos hloaded, herr]
  have hcommand : s.step (.command k i .answered) =
      ⟨s.pods, s.setExchange k i { e with stage := .returned (some err) }⟩ := by
    simp only [System.step, hk, hstep, Function.update_eq_self]
  have hk' := exchange?_setExchange hk { e with stage := .returned (some err) } s.pods
  have hrun : s.run [.command k i .answered, .answer k i] =
      System.step ⟨s.pods, s.setExchange k i { e with stage := .returned (some err) }⟩
        (.answer k i) := congrArg (fun t => System.step t (.answer k i)) hcommand
  rw [hrun, System.step, return_eq hk' hreturned rfl]
  exact ⟨_, _, exchange?_setExchange hk' _ _, rfl, accepted_of_alreadyLoaded herr, rfl⟩

/-! ## Back to the VCL before -/

/-- The pod of the samples. -/
def rollbackPod : PeerBackend := ⟨"shop_0", "10.0.0.10", 8080⟩

/-- A pod that has only its boot VCL. -/
def bootSystem : System := ⟨fun _ => ⟨bootVarnishd, []⟩, []⟩

/-- The call with index `k` and all that belongs to it, without a failure. -/
def pushEvents (k : ℕ) (name : Text) : List Event :=
  [.call name "vcl 4.1;" [rollbackPod], .command k 0 .answered, .command k 0 .answered,
    .command k 0 .answered, .answer k 0]

/-- Two pushes, each with the discard that it leaves. -/
def twoPushes : List Event :=
  pushEvents 0 "prod-shop-1" ++ .discard "10.0.0.10" 0 .answered :: pushEvents 1 "prod-shop-2" ++
    [.discard "10.0.0.10" 0 .answered]

/-- Two pushes one after the other. -/
theorem twoPushes_active :
    ((bootSystem.run twoPushes).calls.map (·.result)) =
        [some (.ok [rollbackPod]), some (.ok [rollbackPod])] ∧
      ∀ c ∈ (bootSystem.run twoPushes).calls, ∀ pushed, c.result = some (.ok pushed) →
        ∀ p ∈ pushed, ∃ e ∈ c.exchanges, e.peer = p ∧ ∃ r, e.returned = some r ∧
          accepted r.err = true ∧ r.active = c.name :=
  ⟨by decide +kernel, reported_pods_active rfl (by decide +kernel)⟩

/-- A push, a second one, and the first one again before it is discarded. -/
def rollback : List Event :=
  pushEvents 0 "prod-shop-1" ++ pushEvents 1 "prod-shop-2" ++ pushEvents 2 "prod-shop-1"

/-- **A rollback is reported and does not happen.** The call returns the pod, and the pod keeps
the other VCL. -/
theorem rollback_not_active :
    ∃ c ∈ (bootSystem.run rollback).calls, c.name = "prod-shop-1" ∧
      c.result = some (.ok [rollbackPod]) ∧
      (c.exchanges.map fun e => e.returned.map (·.active)) = [some ("prod-shop-2" : Text)] := by
  decide +kernel

end CloudVinyl.Controller
