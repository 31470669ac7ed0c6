import CloudVinyl.Agent.Admin
import CloudVinyl.Agent.Server
import CloudVinyl.Controller.AgentClient
import CloudVinyl.Controller.Push
import CloudVinyl.Proxy.Server

set_option relaxedAutoImplicit false
set_option autoImplicit false

/-!
# Calls of the agents

Two components of the operator call the agents of the pods: `HTTPAgentClient` of
`internal/controller/agent_client.go` pushes VCLs and asks for the active one, and the invalidation
proxy sends bans. They write JSON with a bearer token from the Secret of the namespace; the agent
reads it again, with the token from the same Secret, which is mounted into the pod.

Here the two ends meet: what is sent is what the agent is asked to do, and what the agent answers is
what is reported. The agent in turn writes commands to varnishd, and all that it knows of them are
the answers that come back; these are arbitrary here.

## Main definitions

* `Controller.received` — a request as the agent gets it.
* `Controller.AgentPod`, `Controller.AgentPod.answer` — an agent with its varnishd, and its answers.
* `Controller.HTTPAgentClient` — the client, with the Secret and the network that it uses.
* `Controller.HTTPAgentClient.Calls` — the requests of the client get to an agent, and its answers
  back.
* `Controller.AnsweredBy` — so do the bans of the proxy.

## Main results

* `Controller.serve_pushRequest`, `Controller.serve_banRequest` — what the agent is asked to do.
* `Controller.AgentPod.push_eq_none_iff` — a push succeeds just when both of its commands do.
* `Controller.client_reports_agent` — what the client reports is what happened on the pod.
* `Controller.ban_reaches_varnishd` — what becomes of a ban that the proxy serves.
-/

namespace CloudVinyl.Controller

open Admin
open Authority (isIPv4 isIPv6 ofURL)
open Proxy (HTTPRequest podURL podURL_eq addPort ReadsURLs not_isIPv4_of_isIPv6)
open Agent (serve httpError)

/-! ## Requests on their way -/

/-- The path of a URL, behind the host and the port. -/
def urlPath (url : Text) : Text := (url.drop "http://".toList.length).dropWhile (· ≠ '/')

/-- What the agent reads of a request. -/
def received (q : HTTPRequest) : Agent.Request where
  method := q.method
  path := urlPath q.url
  authorization := (q.headers.lookup "Authorization".toList).getD []
  body := q.body

/-- The header with a token. -/
def bearer (token : Text) : Text × Text := ("Authorization", "Bearer ".toList ++ token)

/-- The path of a URL begins at the first slash behind the host. -/
lemma urlPath_eq {host path : Text} (hhost : '/' ∉ host) (hpath : path.head? = some '/') :
    urlPath ("http://" ++ (host ++ path)) = path := by
  have hdrop : urlPath ("http://" ++ (host ++ path)) = (host ++ path).dropWhile (· ≠ '/') := rfl
  rw [hdrop, List.dropWhile_append_of_pos fun c hc => by
    simpa using fun heq : c = '/' => hhost (heq ▸ hc)]
  cases path with
  | nil => cases hpath
  | cons c path =>
    obtain rfl : c = '/' := by simpa using hpath
    rw [List.dropWhile_cons_of_neg (by decide)]

/-! ## The client -/

/-- The request of `PushVCL`. -/
def pushRequest (token podIP name vcl : Text) : HTTPRequest where
  method := "POST"
  url := pushURL podIP
  host := podIP
  headers := [("Content-Type", "application/json"), bearer token]
  body := Json.printObject [("name", name), ("vcl", vcl)]

/-- The request of `ActiveVCLName`. -/
def activeRequest (token podIP : Text) : HTTPRequest where
  method := "GET"
  url := activeURL podIP
  host := podIP
  headers := [bearer token]
  body := []

/-- `ActiveVCLName`, once the agent has answered. -/
def clientActiveVCL (decodeError : Text → Text) (podIP : Text) (reply : Reply) : Except Text Text :=
  if reply.status ≠ 200 then
    .error ("agent active-vcl returned HTTP ".toList ++ Text.decimal reply.status ++ ": " ++
      Text.limitReader 4096 reply.body)
  else
    match Agent.decodeTexts ["name", "status"] reply.body with
    | some [name, _] => .ok name
    | _ => .error ("decoding active-vcl response from ".toList ++ podIP ++ ": " ++
        decodeError reply.body)

/-- `HTTPAgentClient`: the data of the Secret of the namespace or the error of reading it, the error
of `http.NewRequestWithContext` for a URL, the HTTP client, and how `encoding/json` complains. -/
structure HTTPAgentClient where
  secret : Except Text (Table Text Text)
  build : Text → Option Text
  send : HTTPRequest → Except Text Reply
  decodeError : Text → Text

namespace HTTPAgentClient

variable (c : HTTPAgentClient) (ns podIP : Text)

/-- `readToken` -/
def readToken : Except Text Text :=
  match c.secret with
  | .error err =>
    .error ("reading agent secret ".toList ++ ns ++ "/" ++ agentSecretName ++ ": " ++ err)
  | .ok data =>
    match data agentTokenKey with
    | none => .error ("agent secret ".toList ++ ns ++ "/" ++ agentSecretName ++
        " missing 'agent-token' key")
    | some token => .ok token

/-- `PushVCL`: the error, if there is one. -/
def pushVCL (name vcl : Text) : Option Text :=
  match c.readToken ns with
  | .error err => some err
  | .ok token =>
    match c.build (pushURL podIP) with
    | some err => some ("creating push request: ".toList ++ err)
    | none =>
      match c.send (pushRequest token podIP name vcl) with
      | .error err => some ("sending push request to ".toList ++ podIP ++ ": " ++ err)
      | .ok reply => clientPushVCL reply

/-- `ActiveVCLName` -/
def activeVCLName : Except Text Text :=
  match c.readToken ns with
  | .error err => .error err
  | .ok token =>
    match c.build (activeURL podIP) with
    | some err => .error ("creating active-vcl request: ".toList ++ err)
    | none =>
      match c.send (activeRequest token podIP) with
      | .error err => .error ("fetching active VCL hash from ".toList ++ podIP ++ ": " ++ err)
      | .ok reply => clientActiveVCL c.decodeError podIP reply

end HTTPAgentClient

/-! ## The agent -/

/-- An agent: its token, how it reads lists of keys, how it quotes what it cannot read, and what
comes back from varnishd. -/
structure AgentPod where
  token : Text
  decodeKeys : Text → Option (List Text × Bool)
  quote : Text → Text
  /-- What comes back for the commands that are written for a request, by their number and their
  text: an answer of varnishd, or an error of the exchange. -/
  exchange : ℕ → Text → Answer
  /-- The answers to the validation of a VCL and to the purge of keys. -/
  other : Agent.Task → Reply

namespace AgentPod

variable (a : AgentPod)

/-- `PushVCL` of the admin client: its error, if there is one. The answer to `vcl.list`, which comes
first, is only used for the VCL that is discarded later. -/
def push (name vcl : Text) : Option Text :=
  match commandError "vcl.inline" (a.exchange 1 (sendInlineVCL "vcl.inline" name vcl)) with
  | some err => some err
  | none => commandError "vcl.use" (a.exchange 2 (vclUse name))

/-- `ActiveVCL` of the admin client. -/
def active : Except Text Text :=
  Agent.activeVCL a.quote (a.exchange 0 (sendCommand "vcl.list"))

/-- The agent answers a request. -/
def answer (r : Agent.Request) : Reply :=
  match serve a.decodeKeys a.token r with
  | .error reply => reply
  | .ok (.pushVCL name vcl) => Agent.pushVCLReply (a.push name vcl)
  | .ok .activeVCL => Agent.activeVCLReply a.active
  | .ok (.ban expression) => Agent.banReply (a.exchange 0 (Admin.ban expression))
  | .ok .health => Agent.health a.active
  | .ok task => a.other task

/-- **A push succeeds** just when varnishd has taken the VCL and then made it the active one. -/
lemma push_eq_none_iff (name vcl : Text) :
    a.push name vcl = none ↔
      (a.exchange 1 (sendInlineVCL "vcl.inline" name vcl)).ok = true ∧
      (a.exchange 2 (vclUse name)).ok = true := by
  unfold push
  cases hinline :
      commandError "vcl.inline" (a.exchange 1 (sendInlineVCL "vcl.inline" name vcl)) with
  | some err =>
    refine iff_of_false (Option.some_ne_none err) fun h => ?_
    rw [(commandError_eq_none_iff _ _).2 h.1] at hinline
    cases hinline
  | none =>
    rw [commandError_eq_none_iff] at hinline
    rw [commandError_eq_none_iff, and_iff_right hinline]

end AgentPod

section Calls

variable (decodeKeys : Text → Option (List Text × Bool)) (agentToken : Text) {token podIP : Text}

/-- What a request with a token in its header comes to. -/
lemma serve_of_bearer {r : Agent.Request} (hguarded : Agent.IsGuarded r.path)
    (hauth : r.authorization = "Bearer ".toList ++ token) :
    (token = agentToken ∧ serve decodeKeys agentToken r = Agent.authedMux decodeKeys r) ∨
    (token ≠ agentToken ∧ ∃ msg, serve decodeKeys agentToken r = .error (httpError 401 msg)) := by
  have hcases := Agent.serve_cases decodeKeys agentToken hguarded
  rw [hauth, ne_eq, List.append_cancel_left_eq] at hcases
  exact hcases

/-- The path of a URL of the agent. -/
lemma urlPath_agentURL (hip : '/' ∉ podIP) (path : Text) (hpath : path.head? = some '/') :
    urlPath (agentURL podIP path) = path := by
  rw [agentURL_eq]
  refine urlPath_eq ?_ hpath
  rw [List.mem_append, not_or]
  exact ⟨hip, by decide⟩

/-- The fields of an object of texts, with whatever follows it. -/
lemma decodeTexts_printObject (names vals : List Text) (ms : List (Text × Text)) (r : Text)
    (h : (names.mapM fun name => Json.text name (Json.ofTexts ms)) = some vals) :
    Agent.decodeTexts names (Json.printObject ms ++ r) = some vals := by
  rw [Agent.decodeTexts, Json.decode_printObject]
  exact h

/-- A push reaches the handler with the name and the VCL that were sent. -/
lemma serve_pushRequest (hip : '/' ∉ podIP) {name vcl : Text} (hname : name ≠ [])
    (hvcl : vcl ≠ []) :
    (token = agentToken ∧
      serve decodeKeys agentToken (received (pushRequest token podIP name vcl)) =
        .ok (.pushVCL name vcl)) ∨
    (token ≠ agentToken ∧
      ∃ msg, serve decodeKeys agentToken (received (pushRequest token podIP name vcl)) =
        .error (httpError 401 msg)) := by
  have hpath : (received (pushRequest token podIP name vcl)).path = "/vcl/push" :=
    urlPath_agentURL hip "/vcl/push" rfl
  have hdecode := decodeTexts_printObject ["name", "vcl"] [name, vcl]
    [("name", name), ("vcl", vcl)] [] rfl
  rw [List.append_nil] at hdecode
  rcases serve_of_bearer decodeKeys agentToken (by rw [hpath]; decide) rfl with
    ⟨htoken, hserve⟩ | hother
  · refine .inl ⟨htoken, ?_⟩
    rw [hserve, Agent.authedMux, if_pos hpath, Agent.pushVCL, Agent.onlyMethod]
    refine (if_pos rfl).trans ?_
    dsimp only [received, pushRequest]
    rw [hdecode]
    exact if_neg (not_or.2 ⟨hname, hvcl⟩)
  · exact .inr hother

/-- A question for the active VCL reaches its handler. -/
lemma serve_activeRequest (hip : '/' ∉ podIP) :
    (token = agentToken ∧
      serve decodeKeys agentToken (received (activeRequest token podIP)) = .ok .activeVCL) ∨
    (token ≠ agentToken ∧
      ∃ msg, serve decodeKeys agentToken (received (activeRequest token podIP)) =
        .error (httpError 401 msg)) := by
  have hpath : (received (activeRequest token podIP)).path = "/vcl/active" :=
    urlPath_agentURL hip "/vcl/active" rfl
  rcases serve_of_bearer decodeKeys agentToken (by rw [hpath]; decide) rfl with
    ⟨htoken, hserve⟩ | hother
  · refine .inl ⟨htoken, ?_⟩
    rw [hserve, Agent.authedMux, if_neg (by rw [hpath]; decide), if_neg (by rw [hpath]; decide),
      if_pos hpath]
    exact if_pos rfl
  · exact .inr hother

/-- The body of a ban is an object with the expression. -/
lemma body_banRequest (env : Proxy.Env) (r : Proxy.InvalidationRequest) (expression : Text) :
    (Proxy.banRequest env r expression).body = Json.printObject [("expression", expression)] := by
  have hkey : Text.quoteJSON "expression" = "\"expression\"" := by decide
  rw [Json.printObject, List.map_singleton, List.intercalate_singleton, Json.printMember, hkey,
    List.append_assoc, List.append_assoc, List.append_assoc]
  exact List.append_assoc _ _ _

/-- The token of a ban, if there is one, is in its header. -/
lemma authorization_banRequest (env : Proxy.Env) (r : Proxy.InvalidationRequest)
    (addr expression : Text) :
    (received (Proxy.httpRequest addr (Proxy.banRequest env r expression))).authorization =
      if env.token = [] then [] else "Bearer ".toList ++ env.token := by
  dsimp only [received, Proxy.httpRequest, Proxy.banRequest]
  split_ifs <;> rfl

/-- A ban that the proxy sends reaches the handler with its expression. -/
lemma serve_banRequest (env : Proxy.Env) (r : Proxy.InvalidationRequest) {addr expression : Text}
    (haddr : '/' ∉ addr) (hne : expression ≠ []) :
    ((env.token = agentToken ∧ agentToken ≠ []) ∧
      serve decodeKeys agentToken
        (received (Proxy.httpRequest addr (Proxy.banRequest env r expression))) =
        .ok (.ban expression)) ∨
    (¬(env.token = agentToken ∧ agentToken ≠ []) ∧
      ∃ msg, serve decodeKeys agentToken
        (received (Proxy.httpRequest addr (Proxy.banRequest env r expression))) =
        .error (httpError 401 msg)) := by
  have hpath : (received (Proxy.httpRequest addr (Proxy.banRequest env r expression))).path =
      "/ban" := by
    have hurl : urlPath (podURL addr "/ban") = "/ban" := by
      rw [podURL_eq]
      exact urlPath_eq haddr rfl
    exact hurl
  have hauth := authorization_banRequest env r addr expression
  have hdecode := decodeTexts_printObject ["expression"] [expression]
    [("expression", expression)] [] rfl
  rw [List.append_nil, ← body_banRequest env r] at hdecode
  rcases Agent.serve_cases decodeKeys agentToken (by rw [hpath]; decide) with
    ⟨hsame, hserve⟩ | ⟨hother, hmsg⟩
  · rw [hauth] at hsame
    split_ifs at hsame with htoken
    · cases hsame
    · have hequal := List.append_cancel_left hsame
      refine .inl ⟨⟨hequal, hequal ▸ htoken⟩, ?_⟩
      rw [hserve, Agent.authedMux, if_neg (by rw [hpath]; decide), if_neg (by rw [hpath]; decide),
        if_neg (by rw [hpath]; decide), if_pos hpath, Agent.ban, Agent.onlyMethod]
      refine (if_pos rfl).trans ?_
      dsimp only [received, Proxy.httpRequest]
      rw [hdecode]
      exact if_neg hne
  · refine .inr ⟨fun ⟨hequal, htoken⟩ => hother ?_, hmsg⟩
    rw [hauth, if_neg (hequal ▸ htoken), hequal]

end Calls

/-! ## What the client reports -/

/-- The client calls the agent at an address: it has read the token from the Secret, `net/http`
builds a request just when the authority of its URL can be read, and a request for the address and
the port of the agent gets there and is answered. -/
structure HTTPAgentClient.Calls (c : HTTPAgentClient) (token podIP : Text) (a : AgentPod) :
    Prop where
  secret : ∃ data, c.secret = .ok data ∧ data agentTokenKey = some token
  build : ∀ path : Text, path.head? = some '/' →
    (c.build (agentURL podIP path) = none ↔ (ofURL (agentURL podIP path)).isSome = true)
  send : ∀ q, ofURL q.url = some (podIP, some "9090".toList) →
    c.send q = .ok (a.answer (received q))

section Client

variable {c : HTTPAgentClient} {a : AgentPod} {token podIP : Text}

/-- The token that the client sends. -/
lemma HTTPAgentClient.Calls.readToken_eq (h : c.Calls token podIP a) (ns : Text) :
    c.readToken ns = .ok token := by
  obtain ⟨data, hdata, htoken⟩ := h.secret
  unfold HTTPAgentClient.readToken
  rw [hdata]
  dsimp only
  rw [htoken]

/-- A request to an address of IPv4 is built. -/
lemma HTTPAgentClient.Calls.build_of_isIPv4 (h : c.Calls token podIP a) (hv4 : isIPv4 podIP = true)
    {path : Text} (hpath : path.head? = some '/') : c.build (agentURL podIP path) = none := by
  rw [h.build path hpath, ofURL_agentURL_of_isIPv4 hv4 hpath]
  rfl

/-- A request to an address of IPv6 is not. -/
lemma HTTPAgentClient.Calls.build_of_isIPv6 (h : c.Calls token podIP a) (hv6 : isIPv6 podIP = true)
    (path : Text) (hpath : path.head? = some '/') :
    ∃ err, c.build (agentURL podIP path) = some err := by
  refine Option.ne_none_iff_exists'.1 fun hnone => ?_
  rw [h.build path hpath, ofURL_agentURL_of_isIPv6 hv6 hpath] at hnone
  cases hnone

/-- There is no slash in an address of IPv4. -/
lemma slash_notMem_of_isIPv4 (h : isIPv4 podIP = true) : '/' ∉ podIP :=
  fun hc => (Authority.mem_isIPv4 h hc).elim (by decide) (by decide)

/-- A push succeeds just when the tokens are the same and varnishd takes the VCL. -/
lemma clientPushVCL_answer {podIP name vcl : Text} (hip : '/' ∉ podIP) (hname : name ≠ [])
    (hvcl : vcl ≠ []) :
    clientPushVCL (a.answer (received (pushRequest token podIP name vcl))) = none ↔
      token = a.token ∧ a.push name vcl = none := by
  unfold AgentPod.answer
  rcases serve_pushRequest a.decodeKeys a.token hip hname hvcl with
    ⟨htoken, hserve⟩ | ⟨htoken, msg, hserve⟩
  · rw [hserve]
    dsimp only
    cases a.push name vcl with
    | none => exact ⟨fun _ => ⟨htoken, rfl⟩, fun _ => rfl⟩
    | some err => exact ⟨fun h => absurd h (Option.some_ne_none _), fun h => nomatch h.2⟩
  · rw [hserve]
    exact ⟨fun h => absurd h (Option.some_ne_none _), fun h => absurd h.1 htoken⟩

/-- The body of the answer is an object with the name. -/
lemma body_activeVCLReply (active : Text) :
    Agent.mapResponse [("name", active), ("status", "active")] =
      Json.printObject [("name", active), ("status", "active")] ++ "\n" := by
  rw [Agent.mapResponse, Json.printObject, List.append_assoc _ _ "\n".toList]
  rfl

/-- A name is found just when the tokens are the same and the agent has found it. -/
lemma activeVCLName_answer {decodeError : Text → Text} {podIP : Text} (hip : '/' ∉ podIP)
    (name : Text) :
    clientActiveVCL decodeError podIP (a.answer (received (activeRequest token podIP))) = .ok name ↔
      token = a.token ∧ a.active = .ok name := by
  unfold AgentPod.answer
  rcases serve_activeRequest a.decodeKeys a.token hip with
    ⟨htoken, hserve⟩ | ⟨htoken, msg, hserve⟩
  · rw [hserve]
    dsimp only
    cases a.active with
    | error err =>
      refine ⟨fun h => ?_, fun h => ?_⟩
      · cases h
      · cases h.2
    | ok active =>
      have hdecode := decodeTexts_printObject ["name", "status"] [active, "active"]
        [("name", active), ("status", "active")] "\n" rfl
      have hreply : clientActiveVCL decodeError podIP (Agent.activeVCLReply (.ok active)) =
          .ok active := by
        unfold clientActiveVCL Agent.activeVCLReply
        dsimp only
        rw [if_neg (not_not.2 rfl), body_activeVCLReply, hdecode]
      rw [hreply]
      exact ⟨fun h => ⟨htoken, h⟩, fun h => h.2⟩
  · rw [hserve]
    refine ⟨fun h => ?_, fun h => absurd h.1 htoken⟩
    cases h

/-- What `PushVCL` of the client returns for a pod with an address of IPv4. -/
lemma HTTPAgentClient.Calls.pushVCL_eq (h : c.Calls token podIP a) (hv4 : isIPv4 podIP = true)
    (ns name vcl : Text) :
    c.pushVCL ns podIP name vcl =
      clientPushVCL (a.answer (received (pushRequest token podIP name vcl))) := by
  unfold HTTPAgentClient.pushVCL
  rw [h.readToken_eq]
  dsimp only
  rw [pushURL, h.build_of_isIPv4 hv4 rfl, h.send _ (ofURL_agentURL_of_isIPv4 hv4 rfl)]

/-- What `ActiveVCLName` of the client returns for such a pod. -/
lemma HTTPAgentClient.Calls.activeVCLName_eq (h : c.Calls token podIP a)
    (hv4 : isIPv4 podIP = true) (ns : Text) :
    c.activeVCLName ns podIP =
      clientActiveVCL c.decodeError podIP (a.answer (received (activeRequest token podIP))) := by
  unfold HTTPAgentClient.activeVCLName
  rw [h.readToken_eq]
  dsimp only
  rw [activeURL, h.build_of_isIPv4 hv4 rfl, h.send _ (ofURL_agentURL_of_isIPv4 hv4 rfl)]

/-- **A push is reported as done** just when the address is one of IPv4, the tokens are the same and
varnishd has taken the VCL. -/
lemma HTTPAgentClient.Calls.pushVCL_eq_none_iff (h : c.Calls token podIP a) (ns : Text)
    (hip : isIPv4 podIP = true ∨ isIPv6 podIP = true) {name vcl : Text} (hname : name ≠ [])
    (hvcl : vcl ≠ []) :
    c.pushVCL ns podIP name vcl = none ↔
      isIPv4 podIP = true ∧ token = a.token ∧
      (a.exchange 1 (sendInlineVCL "vcl.inline" name vcl)).ok = true ∧
      (a.exchange 2 (vclUse name)).ok = true := by
  rcases hip with hv4 | hv6
  · rw [h.pushVCL_eq hv4, clientPushVCL_answer (slash_notMem_of_isIPv4 hv4) hname hvcl,
      AgentPod.push_eq_none_iff, and_iff_right hv4]
  · refine iff_of_false (fun hnone => ?_) fun hv4 => not_isIPv4_of_isIPv6 hv6 hv4.1
    obtain ⟨err, herr⟩ := h.build_of_isIPv6 hv6 "/vcl/push" rfl
    unfold HTTPAgentClient.pushVCL at hnone
    rw [h.readToken_eq] at hnone
    dsimp only at hnone
    rw [pushURL, herr] at hnone
    cases hnone

/-- **A name is reported as the active one** just when the address is one of IPv4, the tokens are
the same and the agent finds the name. -/
lemma HTTPAgentClient.Calls.activeVCLName_eq_ok_iff (h : c.Calls token podIP a) (ns : Text)
    (hip : isIPv4 podIP = true ∨ isIPv6 podIP = true) (name : Text) :
    c.activeVCLName ns podIP = .ok name ↔
      isIPv4 podIP = true ∧ token = a.token ∧
      Agent.activeVCL a.quote (a.exchange 0 (sendCommand "vcl.list")) = .ok name := by
  rcases hip with hv4 | hv6
  · rw [h.activeVCLName_eq hv4, activeVCLName_answer (slash_notMem_of_isIPv4 hv4),
      and_iff_right hv4]
    rfl
  · refine iff_of_false (fun hname => ?_) fun hv4 => not_isIPv4_of_isIPv6 hv6 hv4.1
    obtain ⟨err, herr⟩ := h.build_of_isIPv6 hv6 "/vcl/active" rfl
    unfold HTTPAgentClient.activeVCLName at hname
    rw [h.readToken_eq] at hname
    dsimp only at hname
    rw [activeURL, herr] at hname
    cases hname

/-- A task other than the check of its health has a header with the token of the agent. -/
lemma bearer_mem_of_serve {q : HTTPRequest} {task : Agent.Task}
    (h : serve a.decodeKeys a.token (received q) = .ok task) :
    task = .health ∨ bearer a.token ∈ q.headers := by
  refine (Agent.authorized_of_serve h).imp_right fun hauth => ?_
  dsimp only [received] at hauth
  cases hlookup : q.headers.lookup "Authorization".toList with
  | none =>
    rw [hlookup] at hauth
    cases hauth
  | some v =>
    obtain ⟨l, r, hsplit, -⟩ := List.lookup_eq_some_iff.1 hlookup
    rw [hlookup, Option.getD_some] at hauth
    rw [hsplit, hauth]
    exact List.mem_append_right l List.mem_cons_self

end Client

/-- An agent whose varnishd carries out each of the commands of a push. -/
def shopAgent : AgentPod where
  token := "c0ffee"
  decodeKeys _ := none
  quote := id
  exchange n command :=
    if command = sendCommand "vcl.list" then bootVarnishd.vclList.1
    else if n = 1 then (bootVarnishd.vclInline "vcl_2").1
    else if n = 2 then ((bootVarnishd.vclInline "vcl_2").2.vclUse "vcl_2").1
    else .answered 200 []
  other _ := ⟨200, []⟩

/-- A client of this agent. -/
def shopClient : HTTPAgentClient where
  secret := .ok fun _ => some "c0ffee"
  build := Proxy.urlError
  send q := .ok (shopAgent.answer (received q))
  decodeError := id

/-- A request of this client is built just when its URL can be read. -/
lemma build_shopClient (url : Text) :
    shopClient.build url = none ↔ (ofURL url).isSome = true := Proxy.urlError_eq_none_iff url

section Bans

variable {env : Proxy.Env} {pods : List Text} {out : Proxy.Outcome}

/-- There is no slash in the address of an agent. -/
lemma slash_not_mem_addPort {ip : Text} (h : isIPv4 ip = true) :
    '/' ∉ addPort Proxy.agentPort ip := by
  rw [Proxy.addPort_of_isIPv4 h, List.mem_append, not_or]
  exact ⟨slash_notMem_of_isIPv4 h, by decide⟩

/-- An expression that the proxy broadcasts is not empty. -/
lemma ne_nil_of_handleBAN {quote : Text → Text} {r : Proxy.BanRequest} {expression : Text}
    (h : Proxy.handleBAN quote r = .ok expression) : expression ≠ [] := by
  rintro rfl
  have haccepted := Proxy.handleBAN_accepted h
  exact absurd haccepted (by decide)

/-- A ban that has been served was broadcast once, to the agents. -/
lemma reports_of_served_ban {r : Proxy.InvalidationRequest}
    (h : Proxy.handle env .ban r pods = .ok out) :
    ∃ expression, Proxy.handleBAN env.quote r.ban = .ok expression ∧
      out.Reports env .ban (Proxy.withPort pods Proxy.agentPort)
        [Proxy.banRequest env r expression] := by
  obtain ⟨port, reqs, hreqs, hreports⟩ := Proxy.reports_of_handle h
  obtain ⟨expression, hexpression, heq⟩ := Option.map_eq_some_iff.1 hreqs
  obtain ⟨rfl, rfl⟩ := Prod.mk.inj heq
  exact ⟨expression, Proxy.toOption_eq_some_iff.1 hexpression, hreports⟩

/-- The number of successes is that of the pods with an address of IPv4 whose answer has a status of
success. -/
lemma succeeded_of_reports {req : Proxy.BroadcastRequest} (hpath : req.path.head? = some '/')
    (hpods : ∀ ip ∈ pods, isIPv4 ip = true ∨ isIPv6 ip = true) (hgo : ReadsURLs env.build req.path)
    (h : out.Reports env .ban (Proxy.withPort pods Proxy.agentPort) [req]) :
    out.result.succeeded = (List.range pods.length).countP fun n =>
      isIPv4 (pods.getD n []) &&
        (((env.rounds 0).answer n).entry
          (addPort Proxy.agentPort (pods.getD n []))).succeeded := by
  have hclear (results : List Proxy.PodResult) :
      results.countP Proxy.PodResult.succeeded =
        (results.map Proxy.PodResult.clearHost).countP Proxy.PodResult.succeeded := by
    rw [List.countP_map]
    rfl
  rw [h.aggregated.succeeded, hclear, h.entries, Proxy.results_broadcasts]
  simp only [List.length_singleton, List.range_one, List.flatMap_singleton, List.countP_map]
  rw [Proxy.withPort, List.length_map]
  refine List.countP_congr fun n hn => ?_
  have hlt := List.mem_range.1 hn
  have hmem : pods.getD n [] ∈ pods := by
    rw [List.getD_eq_getElem?_getD, List.getElem?_eq_getElem hlt]
    exact List.getElem_mem hlt
  have haddr : (pods.map (addPort Proxy.agentPort)).getD n [] =
      addPort Proxy.agentPort (pods.getD n []) := by
    rw [List.getD_eq_getElem?_getD, List.getElem?_map, List.getElem?_eq_getElem hlt,
      List.getD_eq_getElem?_getD, List.getElem?_eq_getElem hlt]
    rfl
  have hbuilt := Proxy.built_iff_isIPv4 hgo (hpods _ hmem)
    (by decide : Proxy.agentPort.all Char.isDigit = true) hpath
  rw [Function.comp_apply, Proxy.callAt, List.getD_cons_zero, haddr]
  cases hv4 : isIPv4 (pods.getD n []) with
  | true => rw [Proxy.callPod_of_built (hbuilt.2 hv4), Bool.true_and]
  | false =>
    -- the request is not built: the entry has an error and no status
    have hnone :
        ¬env.build (podURL (addPort Proxy.agentPort (pods.getD n [])) req.path) = none := by
      rw [hbuilt, hv4]
      exact Bool.false_ne_true
    obtain ⟨err, herr⟩ := Option.ne_none_iff_exists'.1 hnone
    rw [Proxy.callPod_of_error herr, Bool.false_and]
    refine iff_of_false (fun hsucceeded => ?_) Bool.false_ne_true
    unfold Proxy.PodResult.succeeded at hsucceeded
    rw [Bool.and_eq_true, Bool.and_eq_true, decide_eq_true_eq, decide_eq_true_eq] at hsucceeded
    have hstatus : ¬(200 : ℤ) ≤ 0 := by decide
    exact hstatus hsucceeded.1.2

/-- The answers to a broadcast are those of the agents on the pods that it gets to. -/
def AnsweredBy (agents : ℕ → AgentPod) (env : Proxy.Env) (pods : List Text)
    (req : Proxy.BroadcastRequest) : Prop :=
  ∀ n < pods.length, isIPv4 (pods.getD n []) = true → (env.rounds 0).answer n =
    .response ((agents n).answer (received (Proxy.httpRequest
      (addPort Proxy.agentPort (pods.getD n [])) req))).status []

/-- An answer is a success just when its status is. -/
lemma succeeded_response (status : ℕ) (pod : Text) :
    ((Proxy.Answer.response status []).entry pod).succeeded = true ↔
      200 ≤ status ∧ status < 300 := by
  unfold Proxy.PodResult.succeeded Proxy.Answer.entry
  rw [Bool.and_eq_true, Bool.and_eq_true, decide_eq_true_eq, decide_eq_true_eq, decide_eq_true_eq]
  constructor
  · rintro ⟨⟨-, hlow⟩, hhigh⟩
    exact ⟨Int.ofNat_le.1 hlow, Int.ofNat_lt.1 hhigh⟩
  · rintro ⟨hlow, hhigh⟩
    exact ⟨⟨rfl, Int.ofNat_le.2 hlow⟩, Int.ofNat_lt.2 hhigh⟩

/-- The entry of a pod counts as a success just when its agent has the token of the namespace and
its varnishd has taken the ban. -/
lemma succeeded_answer_iff (a : AgentPod) (r : Proxy.InvalidationRequest) {addr expression : Text}
    (haddr : '/' ∉ addr) (hne : expression ≠ []) (pod : Text) :
    ((Proxy.Answer.response (a.answer (received (Proxy.httpRequest addr
      (Proxy.banRequest env r expression)))).status []).entry pod).succeeded = true ↔
        (env.token = a.token ∧ a.token ≠ []) ∧
          (a.exchange 0 (Admin.ban expression)).ok = true := by
  rw [succeeded_response]
  unfold AgentPod.answer
  rcases serve_banRequest a.decodeKeys a.token env r haddr hne with
    ⟨hsame, hserve⟩ | ⟨hother, msg, hserve⟩
  · rw [hserve]
    dsimp only
    rw [Agent.status_banReply]
    split_ifs with hok
    · exact ⟨fun _ => ⟨hsame, hok⟩, fun _ => by omega⟩
    · exact ⟨fun h => by omega, fun h => absurd h.2 hok⟩
  · rw [hserve]
    refine ⟨fun h => ?_, fun h => absurd h.1 hother⟩
    have hstatus : (httpError 401 msg).status = 401 := rfl
    dsimp only at h
    omega

end Bans

/-- A ban of the news. -/
def shopBan : Proxy.ServerRequest where
  method := "BAN"
  host := "shop-invalidation.prod"
  header := [("X-Ban-Expression", ["obj.http.x-url ~ ^/news"])]

/-- The agents of two pods: the varnishd of the second one refuses the ban. -/
def banAgents (n : ℕ) : AgentPod where
  token := "c0ffee"
  decodeKeys _ := none
  quote := id
  exchange _ _ := if n = 0 then .answered 200 [] else .answered 106 "Unknown request."
  other _ := ⟨200, []⟩

/-- The network between the proxy and these agents. -/
def banWorld : Proxy.World where
  token _ := "c0ffee"
  build := Proxy.urlError
  rounds _ :=
    ⟨fun n => .response (Agent.banReply ((banAgents n).exchange 0 [])).status [],
      FanOut.Order.sequential, FanOut.Order.sequential⟩

/-- The addresses of the pods; the last one is of IPv6. -/
def banPods : List Text := ["10.0.0.1", "10.0.0.2", "fd00::3"]

/-- The cache is registered, and then a ban comes. -/
def shopBanHistory : List Proxy.Server.Event :=
  [.route (.register Proxy.prodShop), .updatePods Proxy.prodShop banPods, .arrive shopBan true [],
    .resolve 0, .dispatch 0 banWorld]

end CloudVinyl.Controller
