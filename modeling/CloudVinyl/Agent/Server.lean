import CloudVinyl.Agent.Health
import CloudVinyl.Lib.Json
import CloudVinyl.Lib.Paths

set_option relaxedAutoImplicit false
set_option autoImplicit false

/-!
# The HTTP server of the agent

`NewServer` of `internal/agent/server.go`: the routes of the agent, of which those that change
anything are behind `BearerAuthMiddleware`, and the handlers of `internal/agent/handler.go` behind
them. A handler answers a request that it does not accept, and otherwise asks the admin client or
the purger for one thing; its answer depends on what comes back.

## Main definitions

* `Agent.Request` — what the server reads of a request.
* `Agent.Task` — what a handler asks for.
* `Agent.serve` — the routes, the check of the token and the handlers.
* `Agent.activeVCLReply`, `Agent.pushVCLReply`, `Agent.banReply` — the answers once a task is done.

## Main results

* `Agent.authorized_of_serve` — every task but the readiness probe needs the token.
* `Agent.serve_cases` — a request gets to its handler just when it has the token.
-/

namespace CloudVinyl.Agent

open Admin

/-! ## Requests -/

/-- What the server reads of a request; the header is empty if it is absent. -/
structure Request where
  method : Text
  path : Text
  authorization : Text := []
  body : Text := []

/-- What a handler asks the admin client or the purger for. -/
inductive Task where
  | health
  | activeVCL
  | pushVCL (name vcl : Text)
  | validateVCL (vcl : Text)
  | ban (expression : Text)
  | purgeXkey (keys : List Text) (soft : Bool)

/-! ## Handlers -/

/-- `http.Error` -/
def httpError (status : ℕ) (msg : Text) : Reply := ⟨status, msg ++ "\n"⟩

/-- The answer to a request that cannot be read. -/
def badRequest (msg : Text) : Reply := ⟨400, statusResponse "error" msg⟩

/-- The check of the method that every handler begins with. -/
def onlyMethod (method : Text) (r : Request) (handler : Except Reply Task) : Except Reply Task :=
  if r.method = method then handler else .error (httpError 405 "method not allowed")

/-- The fields of a body that are texts, if it decodes. -/
def decodeTexts (names : List Text) (body : Text) : Option (List Text) :=
  (Json.decode body).bind fun ms => names.mapM fun name => Json.text name ms

/-- `Handler.PushVCL` -/
def pushVCL (r : Request) : Except Reply Task :=
  onlyMethod "POST" r <|
    match decodeTexts ["name", "vcl"] r.body with
    | some [name, vcl] =>
      if name = [] ∨ vcl = [] then .error (badRequest "name and vcl are required")
      else .ok (.pushVCL name vcl)
    | _ => .error (badRequest "invalid JSON")

/-- `Handler.ValidateVCL` -/
def validateVCL (r : Request) : Except Reply Task :=
  onlyMethod "POST" r <|
    match decodeTexts ["vcl"] r.body with
    | some [vcl] =>
      if vcl = [] then .error (badRequest "vcl is required") else .ok (.validateVCL vcl)
    | _ => .error (badRequest "invalid JSON")

/-- `Handler.Ban` -/
def ban (r : Request) : Except Reply Task :=
  onlyMethod "POST" r <|
    match decodeTexts ["expression"] r.body with
    | some [expression] =>
      if expression = [] then .error (badRequest "expression is required")
      else .ok (.ban expression)
    | _ => .error (badRequest "invalid JSON")

section Server

variable (decodeKeys : Text → Option (List Text × Bool)) (token : Text)

/-- `Handler.PurgeXkey`; the list of keys and the flag in a body are those that `decodeKeys` has. -/
def purgeXkey (r : Request) : Except Reply Task :=
  onlyMethod "POST" r <|
    match decodeKeys r.body with
    | some (keys, soft) =>
      if keys = [] then .error (badRequest "keys array is required")
      else .ok (.purgeXkey keys soft)
    | none => .error (badRequest "invalid JSON")

/-- The answer to an unknown path. -/
def notFound : Reply := httpError 404 "404 page not found"

/-- The routes behind the check of the token. -/
def authedMux (r : Request) : Except Reply Task :=
  if r.path = "/vcl/push" then pushVCL r
  else if r.path = "/vcl/validate" then validateVCL r
  else if r.path = "/vcl/active" then onlyMethod "GET" r (.ok .activeVCL)
  else if r.path = "/ban" then ban r
  else if r.path = "/purge/xkey" then purgeXkey decodeKeys r
  else .error notFound

/-- `BearerAuthMiddleware`, which skips no path here. -/
def bearerAuthMiddleware (r : Request) : Except Reply Task :=
  if !r.authorization.hasPrefix "Bearer " then
    .error (httpError 401 "\x7b\"error\":\"missing or invalid Authorization header\"\x7d")
  else if r.authorization.drop 7 ≠ token then
    .error (httpError 401 "\x7b\"error\":\"invalid token\"\x7d")
  else authedMux decodeKeys r

/-- The form that the router wants a path to have: clean, with a slash at its end if it had one. -/
def cleanPath (p : Text) : Text :=
  let p := if p.head? = some '/' then p else '/' :: p
  if p.getLast? = some '/' ∧ Paths.clean p ≠ "/" then Paths.clean p ++ "/" else Paths.clean p

/-- The path of a directory that is asked for without its slash, or one that is not clean. -/
def redirects (r : Request) : Bool :=
  r.path = "/vcl" || r.path = "/purge" || (r.method ≠ "CONNECT" && cleanPath r.path ≠ r.path)

/-- The server: what a request comes to. The bodies of redirects and metrics are left out. -/
def serve (r : Request) : Except Reply Task :=
  if redirects r then .error ⟨301, []⟩
  else if r.path = "/livez" then .error ⟨200, []⟩
  else if r.path = "/health" then .ok .health
  else if r.path = "/metrics" then .error ⟨200, []⟩
  else if r.path.hasPrefix "/vcl/" || r.path = "/ban" || r.path.hasPrefix "/purge/" then
    bearerAuthMiddleware decodeKeys token r
  else .error notFound

/-! ## Answers -/

/-- `Handler.ActiveVCL`, with what the admin client has returned. -/
def activeVCLReply : Except Text Text → Reply
  | .error err => ⟨500, statusResponse "error" err⟩
  | .ok name => ⟨200, mapResponse [("name", name), ("status", "active")]⟩

/-- `Handler.PushVCL`, with the error of the admin client, if there is one. -/
def pushVCLReply : Option Text → Reply
  | none => ⟨200, statusResponse "ok" []⟩
  | some err => ⟨500, statusResponse "error" err⟩

/-- The error of `Ban` of the admin client, if there is one. -/
def banError : Answer → Option Text
  | .failed err => some err
  | .answered code msg =>
    if code = 200 then none
    else some ("ban failed (code " ++ Text.decimalInt code ++ "): " ++ msg)

/-- `Handler.Ban`, with the answer of varnishd. -/
def banReply (a : Answer) : Reply :=
  match banError a with
  | none => ⟨200, statusResponse "ok" []⟩
  | some err => ⟨500, statusResponse "error" err⟩

/-- The status of the answer to a ban. -/
lemma status_banReply (a : Answer) : (banReply a).status = if a.ok then 200 else 500 := by
  cases a with
  | failed err => rfl
  | answered code msg =>
    unfold banReply banError
    dsimp only
    by_cases hcode : code = 200
    · rw [if_pos hcode, Answer.ok, decide_eq_true hcode]
      rfl
    · rw [if_neg hcode, Answer.ok, decide_eq_false hcode]
      rfl

/-! ## The token -/

/-- The check of the token. -/
lemma middleware_cases (r : Request) :
    (r.authorization = "Bearer ".toList ++ token ∧
      bearerAuthMiddleware decodeKeys token r = authedMux decodeKeys r) ∨
    (r.authorization ≠ "Bearer ".toList ++ token ∧
      ∃ msg, bearerAuthMiddleware decodeKeys token r = .error (httpError 401 msg)) := by
  have hiff : r.authorization = "Bearer ".toList ++ token ↔
      r.authorization.hasPrefix "Bearer " = true ∧ r.authorization.drop 7 = token := by
    rw [Text.hasPrefix_iff]
    constructor
    · intro h
      rw [h]
      exact ⟨List.prefix_append _ _, rfl⟩
    · rintro ⟨⟨rest, hrest⟩, hdrop⟩
      rw [← hrest] at hdrop ⊢
      rw [← hdrop]
      rfl
  unfold bearerAuthMiddleware
  split_ifs with hbearer htoken
  · refine .inr ⟨fun h => ?_, _, rfl⟩
    rw [(hiff.1 h).1] at hbearer
    cases hbearer
  · exact .inr ⟨fun h => htoken (hiff.1 h).2, _, rfl⟩
  · rw [Bool.not_eq_true, Bool.not_eq_false'] at hbearer
    exact .inl ⟨hiff.2 ⟨hbearer, not_not.1 htoken⟩, rfl⟩

variable {decodeKeys token}

/-- **Every task but the readiness probe needs the token.** -/
theorem authorized_of_serve {r : Request} {task : Task} (h : serve decodeKeys token r = .ok task) :
    task = .health ∨ r.authorization = "Bearer ".toList ++ token := by
  unfold serve at h
  split_ifs at h
  · exact .inl (Except.ok.inj h).symm
  · rcases middleware_cases decodeKeys token r with
      ⟨hauth, -⟩ | ⟨-, msg, hmsg⟩
    · exact .inr hauth
    · rw [hmsg] at h
      cases h

/-- A path that leads to the check of the token. -/
def IsGuarded (p : Text) : Prop :=
  cleanPath p = p ∧ p ≠ "/vcl" ∧ p ≠ "/purge" ∧ p ≠ "/livez" ∧ p ≠ "/health" ∧ p ≠ "/metrics" ∧
    (p.hasPrefix "/vcl/" || p = "/ban" || p.hasPrefix "/purge/") = true

/-- Whether a path is guarded can be decided. -/
instance (p : Text) : Decidable (IsGuarded p) := inferInstanceAs (Decidable (_ ∧ _))

/-- **What a request for such a path comes to**: it gets to its handler just when it has the
token. -/
theorem serve_cases (decodeKeys : Text → Option (List Text × Bool)) (token : Text) {r : Request}
    (h : IsGuarded r.path) :
    (r.authorization = "Bearer ".toList ++ token ∧
      serve decodeKeys token r = authedMux decodeKeys r) ∨
    (r.authorization ≠ "Bearer ".toList ++ token ∧
      ∃ msg, serve decodeKeys token r = .error (httpError 401 msg)) := by
  obtain ⟨hclean, hvcl, hpurge, hlivez, hhealth, hmetrics, hguarded⟩ := h
  have hredirects : redirects r = false := by
    unfold redirects
    rw [decide_eq_false hvcl, decide_eq_false hpurge, decide_eq_false (not_not.2 hclean),
      Bool.and_false]
    rfl
  have hserve : serve decodeKeys token r = bearerAuthMiddleware decodeKeys token r := by
    unfold serve
    rw [hredirects, if_neg Bool.false_ne_true, if_neg hlivez, if_neg hhealth, if_neg hmetrics,
      if_pos hguarded]
  rw [hserve]
  exact middleware_cases decodeKeys token r

end Server

end CloudVinyl.Agent
