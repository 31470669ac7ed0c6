import CloudVinyl.Lib.Runs
import CloudVinyl.Proxy.PodAddresses
import CloudVinyl.Proxy.UnknownHost

set_option relaxedAutoImplicit false
set_option autoImplicit false

/-!
# The invalidation proxy at work

`ServeHTTP` of `internal/proxy/server.go` serves many requests at the same time, while the
controller changes the routes and the pods. Only single calls are under a lock: a request reads the
routes when it arrives, the pods after its checks, and the purge hosts and the token in its handler,
and anything may happen in between. So a history is a list of such steps, in any order.

The rate limiter, the access list and the provider of the tokens answer as they like.

## Main definitions

* `Proxy.ServerRequest.handler` — which handler a request goes to.
* `Proxy.Stage` — how far the server is with a request.
* `Proxy.Server.step`, `Proxy.Server.run` — the server at work.
* `Proxy.lastPods` — the pods that the controller set last for a cache.
* `Proxy.Server.Arrived`, `Proxy.Server.Resolved`, `Proxy.Server.Served` — what a stage rests on.
* `Proxy.Server.requestsTo` — the requests to those pods that can be called.

## Main results

* `Proxy.Server.getPodIPs_run` — the pods that are read are those that were set last.
* `Proxy.Server.backed_run` — every stage is the result of its reads.
* `Proxy.Server.served_isolated` — a served request went to the pods of its cache and nowhere else.
-/

namespace CloudVinyl.Proxy

/-! ## Requests and stages -/

/-- What the server reads of a request; the handlers read the rest. -/
structure ServerRequest extends InvalidationRequest where
  path : Text := "/"
  remoteAddr : Text := []

/-- The switch of `ServeHTTP`. -/
def ServerRequest.handler (r : ServerRequest) : Option Handler :=
  if r.method = "PURGE" then some .purge
  else if r.method = "BAN" then some .ban
  else if r.method = "POST" && r.path = "/ban" then some .ban
  else if r.method = "POST" && r.path = "/purge/xkey" then some .xkey
  else none

/-- How far the server is with a request: it has answered with an error, has let it through, has
read the pods, or has answered with the outcome of a handler. -/
inductive Stage where
  | refused (code : ℕ) (msg : Text)
  | routed (e : RouteEntry)
  | resolved (e : RouteEntry) (pods : List Text)
  | served (h : Handler) (env : Env) (pods : List Text) (out : Outcome)

/-- A request and its stage. -/
structure Exchange where
  request : ServerRequest
  stage : Stage

/-- What a handler meets with outside of the proxy. -/
structure World where
  token : Text → Text
  build : Text → Option Text
  rounds : ℕ → Round

/-- The parts of the server that do not change. An access list says which addresses it allows. -/
structure Server where
  acl : Table Text (Text → Bool)
  metrics : Bool
  quote : Text → Text

namespace Server

/-- A step of the controller or of a request. A request is named by its number; `allowed` is the
answer of the rate limiter, and `order` the one in which a loop comes to the routes. -/
inductive Event where
  | route (op : Op)
  | updatePods (k : CacheKey) (ips : List Text)
  | deletePods (k : CacheKey)
  | arrive (r : ServerRequest) (allowed : Bool) (order : List Text)
  | resolve (i : ℕ)
  | dispatch (i : ℕ) (w : World)

/-- The maps of the proxy, and the requests that it has received. -/
structure State where
  router : RegisteredRouter
  podMap : PodMap
  exchanges : List Exchange

/-- A proxy that was just started. -/
def start : State := ⟨newRegisteredRouter, newPodMap, []⟩

section Steps

variable (srv : Server)

/-- `ServeHTTP` up to its check of the rate: the route and the access list. -/
def receive (router : RegisteredRouter) (r : ServerRequest) (allowed : Bool) (order : List Text) :
    Stage :=
  match router.lookup r.host with
  | none =>
    let (code, msg) := rejectUnknownHost srv.quote router order r.host
    .refused code msg
  | some e =>
    if !(srv.acl (mapKey e.namespace_ e.cacheName)).all (· r.remoteAddr) then
      .refused 403 "source IP not allowed"
    else if !allowed then .refused 429 "rate limit exceeded"
    else .routed e

/-- The pods of a request that was let through. -/
def resolvePods (podMap : PodMap) (e : RouteEntry) : Stage :=
  let pods := (podMap.getPodIPs e.namespace_ e.cacheName).getD []
  if pods = [] then
    .refused 503 ("no pods available for ".toList ++ mapKey e.namespace_ e.cacheName)
  else .resolved e pods

/-- What a handler works with, given the purge hosts of the resource. -/
def env (specHosts : List Text) (w : World) (e : RouteEntry) : Env where
  namespace_ := e.namespace_
  cacheName := e.cacheName
  specHosts := specHosts
  token := w.token e.namespace_
  metrics := srv.metrics
  quote := srv.quote
  build := w.build
  rounds := w.rounds

/-- The switch of `ServeHTTP` and the handler that it chooses. -/
def dispatch (router : RegisteredRouter) (w : World) (r : ServerRequest) (e : RouteEntry)
    (pods : List Text) : Stage :=
  match r.handler with
  | none => .refused 404 ("no route for ".toList ++ r.method ++ " " ++ r.path)
  | some h =>
    let env := srv.env (router.getPurgeHosts e.namespace_ e.cacheName) w e
    match handle env h r.toInvalidationRequest pods with
    | .error (code, msg) => .refused code msg
    | .ok out => .served h env pods out

/-- A request that was let through reads its pods; any other one is left as it is. -/
def Exchange.resolve (podMap : PodMap) (x : Exchange) : Exchange :=
  match x.stage with
  | .routed e => { x with stage := resolvePods podMap e }
  | _ => x

/-- A request that has its pods goes to its handler. -/
def Exchange.dispatch (router : RegisteredRouter) (w : World) (x : Exchange) : Exchange :=
  match x.stage with
  | .resolved e pods => { x with stage := srv.dispatch router w x.request e pods }
  | _ => x

/-- What an event does. -/
def step (s : State) : Event → State
  | .route op => { s with router := op.apply s.router }
  | .updatePods k ips => { s with podMap := s.podMap.update k.ns k.name ips }
  | .deletePods k => { s with podMap := s.podMap.delete k.ns k.name }
  | .arrive r allowed order =>
    { s with exchanges := s.exchanges ++ [⟨r, srv.receive s.router r allowed order⟩] }
  | .resolve i => { s with exchanges := s.exchanges.modify i (Exchange.resolve s.podMap) }
  | .dispatch i w =>
    { s with exchanges := s.exchanges.modify i (Exchange.dispatch srv s.router w) }

/-- The state after a history. -/
def run (es : List Event) : State := es.foldl srv.step start

end Steps

/-! ## What a history says -/

/-- The call that changes the router. -/
def Event.op : Event → Option Op
  | .route op => some op
  | _ => none

/-- The calls of a history that change the router. -/
def ops (es : List Event) : List Op := es.filterMap Event.op

/-- What a step says about the entry of a cache in the map of pods. -/
def Event.pods : Event → CacheKey → Option (Option (List Text))
  | .updatePods k' ips, k => if k = k' then some (some ips) else none
  | .deletePods k', k => if k = k' then some none else none
  | _, _ => none

/-- The pods that were set last for a cache. -/
def podCell (es : List Event) (k : CacheKey) : Option (List Text) :=
  (Table.last Event.pods es k).getD none

/-- The pods that were set last for a cache and not deleted since. -/
def lastPods (es : List Event) (k : CacheKey) : List Text := (podCell es k).getD []

/-- The number of requests so far. -/
def arrivals (es : List Event) : ℕ := es.countP fun e => e matches .arrive _ _ _

section History

variable (srv : Server) {es : List Event}

/-- The `i`-th request arrived, its host is one of a cache that was registered at that moment, and
it passed the checks. -/
def Arrived (es : List Event) (i : ℕ) (r : ServerRequest) (k : CacheKey) : Prop :=
  Runs.Happened es fun pre e =>
    (∃ order, e = .arrive r true order) ∧ arrivals pre = i ∧ registered (ops pre) k = true ∧
      stripPort r.host ∈ k.hosts ∧ (srv.acl (mapKey k.ns k.name)).all (· r.remoteAddr) = true

/-- After its arrival, the request read the pods that were the last ones of the cache then. -/
def Resolved (es : List Event) (i : ℕ) (r : ServerRequest) (k : CacheKey) (pods : List Text) :
    Prop :=
  Runs.Happened es fun pre e =>
    e = .resolve i ∧ srv.Arrived pre i r k ∧ pods = lastPods pre k ∧ pods ≠ []

/-- After that, the handler that the request asks for ran with these pods, with the purge hosts of
the cache at that moment and with the token of its namespace. -/
def Served (es : List Event) (i : ℕ) (r : ServerRequest) (k : CacheKey) (h : Handler) (env : Env)
    (pods : List Text) (out : Outcome) : Prop :=
  Runs.Happened es fun pre e =>
    (∃ w, e = .dispatch i w ∧ env = srv.env (lastPurgeHosts (ops pre) k) w k.entry) ∧
      srv.Resolved pre i r k pods ∧ r.handler = some h ∧
      handle env h r.toInvalidationRequest pods = .ok out

/-- What the stage of the `i`-th request rests on. -/
def Backed (es : List Event) (i : ℕ) (r : ServerRequest) : Stage → Prop
  | .refused _ _ => True
  | .routed e => ∃ k : CacheKey, k.entry = e ∧ srv.Arrived es i r k
  | .resolved e pods => ∃ k : CacheKey, k.entry = e ∧ srv.Resolved es i r k pods
  | .served h env pods out => ∃ k : CacheKey, srv.Served es i r k h env pods out

variable {srv} {i : ℕ}

/-- One event more. -/
lemma run_append_singleton (es : List Event) (e : Event) :
    srv.run (es ++ [e]) = srv.step (srv.run es) e := by
  unfold run
  rw [List.foldl_append]
  rfl

/-! ## The maps -/

/-- The router is the one after the calls that change it. -/
lemma router_run (es : List Event) : (srv.run es).router = Proxy.run (ops es) := by
  induction es using List.reverseRecOn with
  | nil => rfl
  | append_singleton es e ih =>
    rw [run_append_singleton, ops, List.filterMap_append]
    cases e with
    | route op =>
      rw [show List.filterMap Event.op [Event.route op] = [op] from rfl,
        Proxy.run_append_singleton, ← ops, ← ih]
      rfl
    | _ => exact ih.trans (congrArg Proxy.run (List.append_nil _).symm)

/-- The pods after one event more. -/
lemma podCell_append_singleton (es : List Event) (e : Event) (k : CacheKey) :
    podCell (es ++ [e]) k = (e.pods k).getD (podCell es k) := by
  unfold podCell
  rw [Table.last_append_singleton]
  cases e.pods k <;> rfl

/-- A step that says nothing about pods leaves the cells as they are. -/
lemma podCell_append_of_none {e : Event} (h : ∀ k, e.pods k = none) :
    podCell (es ++ [e]) = podCell es := by
  funext k
  rw [podCell_append_singleton, h k, Option.getD_none]

/-- A step about the pods of one cache changes one cell. -/
lemma podCell_append_of_key {e : Event} {k : CacheKey} (cell : Option (List Text))
    (h : ∀ k', e.pods k' = if k' = k then some cell else none) :
    podCell (es ++ [e]) = Function.update (podCell es) k cell := by
  funext k'
  rw [podCell_append_singleton, h k']
  by_cases hk : k' = k
  · rw [if_pos hk, hk, Function.update_self, Option.getD_some]
  · rw [if_neg hk, Function.update_of_ne hk, Option.getD_none]

/-- The map of pods has one cell per cache, which the history determines. -/
lemma represents_podMap (srv : Server) (es : List Event) :
    Table.Represents CacheKey.mapKeys (podCell es) (srv.run es).podMap.data := by
  induction es using List.reverseRecOn with
  | nil => exact Table.Represents.empty
  | append_singleton es e ih =>
    rw [run_append_singleton]
    cases e with
    | updatePods k ips =>
      rw [podCell_append_of_key (some ips) fun _ => rfl]
      exact ih.assign separate_mapKeys k (some ips)
    | deletePods k =>
      rw [podCell_append_of_key none fun _ => rfl]
      exact ih.assign separate_mapKeys k none
    | _ =>
      rw [podCell_append_of_none fun _ => rfl]
      exact ih

/-- **The pods that a request reads** are those that were set last for the cache. -/
lemma getPodIPs_run (srv : Server) (es : List Event) (k : CacheKey) :
    ((srv.run es).podMap.getPodIPs k.ns k.name).getD [] = lastPods es k := by
  have hcell := (represents_podMap srv es).at_key k _ List.mem_cons_self
  rw [PodMap.getPodIPs, hcell, lastPods]

/-- There is an exchange for each request that has arrived. -/
lemma length_exchanges_run (srv : Server) (es : List Event) :
    (srv.run es).exchanges.length = arrivals es := by
  induction es using List.reverseRecOn with
  | nil => rfl
  | append_singleton es e ih =>
    rw [run_append_singleton, arrivals, List.countP_append, ← arrivals, ← ih]
    cases e <;> simp [step]

/-! ## Requests -/

/-- A stage stays backed. -/
lemma Backed.later {r : ServerRequest} {stage : Stage} (h : srv.Backed es i r stage) (e : Event) :
    srv.Backed (es ++ [e]) i r stage := by
  cases stage with
  | refused code msg => trivial
  | routed e' =>
    obtain ⟨k, hk, harrived⟩ := h
    exact ⟨k, hk, harrived.later e⟩
  | resolved e' pods =>
    obtain ⟨k, hk, hresolved⟩ := h
    exact ⟨k, hk, hresolved.later e⟩
  | served h' env pods out =>
    obtain ⟨k, hserved⟩ := h
    exact ⟨k, hserved.later e⟩

/-- A request that arrives is refused or routed to the cache that its host belongs to. -/
lemma backed_admit (r : ServerRequest) (allowed : Bool) (order : List Text) :
    srv.Backed (es ++ [.arrive r allowed order]) (arrivals es) r
      (srv.receive (srv.run es).router r allowed order) := by
  unfold receive
  cases hlookup : (srv.run es).router.lookup r.host with
  | none => trivial
  | some e =>
    rw [router_run, lookup_run_eq_some_iff] at hlookup
    obtain ⟨k, rfl, hreg, hhost⟩ := hlookup
    dsimp only
    split_ifs with hacl hallowed
    · trivial
    · trivial
    · rw [Bool.not_eq_true, Bool.not_eq_false'] at hacl hallowed
      exact ⟨k, rfl, .now ⟨⟨order, by rw [hallowed]⟩, rfl, hreg, hhost, hacl⟩⟩

/-- The pods that a request reads are those of its cache. -/
lemma backed_resolvePods {r : ServerRequest} {k : CacheKey} (h : srv.Arrived es i r k) :
    srv.Backed (es ++ [.resolve i]) i r (resolvePods (srv.run es).podMap k.entry) := by
  have hpods := getPodIPs_run srv es k
  unfold resolvePods
  dsimp only [CacheKey.entry]
  rw [hpods]
  split_ifs with hnil
  · trivial
  · exact ⟨k, rfl, .now ⟨rfl, h, rfl, hnil⟩⟩

/-- A handler refuses a request or serves it. -/
lemma dispatch_cases (srv : Server) (router : RegisteredRouter) (w : World) (r : ServerRequest)
    (e : RouteEntry) (pods : List Text) :
    (∃ code msg, srv.dispatch router w r e pods = .refused code msg) ∨
      ∃ h out, r.handler = some h ∧
        handle (srv.env (router.getPurgeHosts e.namespace_ e.cacheName) w e) h
          r.toInvalidationRequest pods = .ok out ∧
        srv.dispatch router w r e pods =
          .served h (srv.env (router.getPurgeHosts e.namespace_ e.cacheName) w e) pods out := by
  unfold dispatch
  cases hhandler : r.handler with
  | none => exact .inl ⟨_, _, rfl⟩
  | some h =>
    cases hout : handle (srv.env (router.getPurgeHosts e.namespace_ e.cacheName) w e) h
        r.toInvalidationRequest pods with
    | error err =>
      refine .inl ⟨err.1, err.2, ?_⟩
      dsimp only
      rw [hout]
    | ok out =>
      refine .inr ⟨h, out, rfl, hout, ?_⟩
      dsimp only
      rw [hout]

/-- A handler runs with what belongs to the cache of the request. -/
lemma backed_dispatch {r : ServerRequest} {k : CacheKey} {pods : List Text}
    (h : srv.Resolved es i r k pods) (w : World) :
    srv.Backed (es ++ [.dispatch i w]) i r
      (srv.dispatch (srv.run es).router w r k.entry pods) := by
  have hhosts : (srv.run es).router.getPurgeHosts k.ns k.name = lastPurgeHosts (ops es) k := by
    rw [router_run, getPurgeHosts_run]
  rcases dispatch_cases srv (srv.run es).router w r k.entry pods with
    ⟨code, msg, heq⟩ | ⟨h', out, hhandler, hout, heq⟩
  · rw [heq]
    trivial
  · rw [heq]
    exact ⟨k, .now ⟨⟨w, rfl, by rw [← hhosts]; rfl⟩, h, hhandler, hout⟩⟩

/-- What a step does to one of the requests. -/
lemma getElem?_step {x : Exchange} {e : Event}
    (hx : (srv.step (srv.run es) e).exchanges[i]? = some x) :
    (srv.run es).exchanges[i]? = some x ∨
    (∃ allowed order, e = .arrive x.request allowed order ∧ i = arrivals es ∧
      x.stage = srv.receive (srv.run es).router x.request allowed order) ∨
    (∃ entry, e = .resolve i ∧ (srv.run es).exchanges[i]? = some ⟨x.request, .routed entry⟩ ∧
      x.stage = resolvePods (srv.run es).podMap entry) ∨
    ∃ entry pods w, e = .dispatch i w ∧
      (srv.run es).exchanges[i]? = some ⟨x.request, .resolved entry pods⟩ ∧
      x.stage = srv.dispatch (srv.run es).router w x.request entry pods := by
  cases e with
  | route op => exact .inl hx
  | updatePods k ips => exact .inl hx
  | deletePods k => exact .inl hx
  | arrive r allowed order =>
    change ((srv.run es).exchanges ++ [_])[i]? = some x at hx
    rw [List.getElem?_append] at hx
    split_ifs at hx with hlt
    · exact .inl hx
    · obtain ⟨hi, hx⟩ := List.getElem?_eq_some_iff.1 hx
      rw [List.getElem_singleton] at hx
      subst hx
      rw [List.length_singleton] at hi
      have hlength := length_exchanges_run srv es
      exact .inr (.inl ⟨allowed, order, rfl, by omega, rfl⟩)
  | resolve j =>
    change ((srv.run es).exchanges.modify j _)[i]? = some x at hx
    rw [List.getElem?_modify] at hx
    obtain ⟨y, hy, heq⟩ := Option.map_eq_some_iff.1 hx
    by_cases hji : j = i
    · subst hji
      rw [if_pos rfl] at heq
      obtain ⟨r, stage⟩ := y
      cases stage with
      | routed entry =>
        subst heq
        exact .inr (.inr (.inl ⟨entry, rfl, hy, rfl⟩))
      | _ => exact .inl (heq ▸ hy)
    · rw [if_neg hji] at heq
      exact .inl (heq ▸ hy)
  | dispatch j w =>
    change ((srv.run es).exchanges.modify j _)[i]? = some x at hx
    rw [List.getElem?_modify] at hx
    obtain ⟨y, hy, heq⟩ := Option.map_eq_some_iff.1 hx
    by_cases hji : j = i
    · subst hji
      rw [if_pos rfl] at heq
      obtain ⟨r, stage⟩ := y
      cases stage with
      | resolved entry pods =>
        subst heq
        exact .inr (.inr (.inr ⟨entry, pods, w, rfl, hy, rfl⟩))
      | _ => exact .inl (heq ▸ hy)
    · rw [if_neg hji] at heq
      exact .inl (heq ▸ hy)

/-- **Every stage is the result of its reads**, whatever happened in between. -/
lemma backed_run (es : List Event) {x : Exchange} (hx : (srv.run es).exchanges[i]? = some x) :
    srv.Backed es i x.request x.stage := by
  induction es using List.reverseRecOn generalizing x with
  | nil => cases hx
  | append_singleton es e ih =>
    rw [run_append_singleton] at hx
    rcases getElem?_step hx with hbefore | ⟨allowed, order, rfl, rfl, hstage⟩ |
      ⟨entry, rfl, hbefore, hstage⟩ | ⟨entry, pods, w, rfl, hbefore, hstage⟩
    · exact (ih hbefore).later e
    · rw [hstage]
      exact backed_admit x.request allowed order
    · obtain ⟨k, rfl, harrived⟩ := ih hbefore
      rw [hstage]
      exact backed_resolvePods harrived
    · obtain ⟨k, rfl, hresolved⟩ := ih hbefore
      rw [hstage]
      exact backed_dispatch hresolved w

/-! ## Answers -/

/-- The server has answered. -/
def Stage.answered : Stage → Bool
  | .refused _ _ => true
  | .served _ _ _ _ => true
  | _ => false

/-- A request is answered once. -/
lemma getElem?_run_append {x : Exchange} (hx : (srv.run es).exchanges[i]? = some x)
    (hanswered : Stage.answered x.stage = true) (es' : List Event) :
    (srv.run (es ++ es')).exchanges[i]? = some x := by
  induction es' using List.reverseRecOn with
  | nil => rwa [List.append_nil]
  | append_singleton es' e ih =>
    rw [← List.append_assoc, run_append_singleton]
    have hlt : i < (srv.step (srv.run (es ++ es')) e).exchanges.length := by
      obtain ⟨hi, -⟩ := List.getElem?_eq_some_iff.1 ih
      cases e <;> simp [step] <;> omega
    obtain ⟨y, hy⟩ : ∃ y, (srv.step (srv.run (es ++ es')) e).exchanges[i]? = some y :=
      ⟨_, List.getElem?_eq_getElem hlt⟩
    rcases getElem?_step hy with hbefore | ⟨allowed, order, rfl, hi, hstage⟩ |
      ⟨entry, rfl, hbefore, hstage⟩ | ⟨entry, pods, w, rfl, hbefore, hstage⟩
    · rw [hy, ← hbefore, ih]
    · obtain ⟨hlt', -⟩ := List.getElem?_eq_some_iff.1 ih
      rw [length_exchanges_run] at hlt'
      omega
    · rw [ih, Option.some.injEq] at hbefore
      rw [hbefore] at hanswered
      cases hanswered
    · rw [ih, Option.some.injEq] at hbefore
      rw [hbefore] at hanswered
      cases hanswered

/-- The requests that reach the HTTP client for a pod and a broadcast. -/
def deliveries (build : Text → Option Text) (addrs : List Text) (reqs : List BroadcastRequest) :
    List HTTPRequest :=
  reqs.flatMap fun req => addrs.filterMap fun addr =>
    if (build (podURL addr req.path)).isNone then some (httpRequest addr req) else none

/-- What a handler sends: one request for each of its broadcasts and each of the pods. -/
lemma sent_perm_deliveries {env : Env} {h : Handler} {addrs : List Text}
    {reqs : List BroadcastRequest} {out : Outcome} (hout : out.Reports env h addrs reqs) :
    (out.sent.map (·.request)).Perm (deliveries env.build addrs reqs) := by
  rw [hout.sent]
  refine (sent_broadcasts.map _).trans (List.Perm.of_eq ?_)
  unfold deliveries
  conv_rhs => rw [← FanOut.map_range_getD reqs default, ← FanOut.map_range_getD addrs []]
  rw [List.map_flatMap, List.flatMap_map]
  refine List.flatMap_congr fun j _ => ?_
  rw [List.filterMap_map, List.map_filterMap]
  refine List.filterMap_congr fun n _ => ?_
  rw [callAt, Option.map_map]
  dsimp only [Function.comp]
  cases hbuild : env.build (podURL (addrs.getD n []) (reqs.getD j default).path) with
  | none => rw [callPod_of_built hbuild]; rfl
  | some err => rw [callPod_of_error hbuild]; rfl

/-- The requests of some broadcasts to the pods with an address of IPv4. -/
def requestsTo (pods : List Text) (port : Text) (reqs : List BroadcastRequest) : List HTTPRequest :=
  reqs.flatMap fun req =>
    (pods.filter Authority.isIPv4).map fun ip => httpRequest (addPort port ip) req

/-- These are the ones that can be built. -/
lemma deliveries_eq {build : Text → Option Text} {pods : List Text} {port : Text}
    {reqs : List BroadcastRequest}
    (hpods : ∀ ip ∈ pods, Authority.isIPv4 ip = true ∨ Authority.isIPv6 ip = true)
    (hport : port.all Char.isDigit = true)
    (hpaths : ∀ req ∈ reqs, req.path.head? = some '/' ∧ ReadsURLs build req.path) :
    deliveries build (withPort pods port) reqs = requestsTo pods port reqs := by
  unfold deliveries requestsTo withPort
  refine List.flatMap_congr fun req hreq => ?_
  obtain ⟨hpath, hgo⟩ := hpaths req hreq
  rw [List.filterMap_map, ← List.filterMap_eq_map, List.filterMap_filter]
  refine List.filterMap_congr fun ip hip => ?_
  have hbuilt := built_iff_isIPv4 hgo (hpods ip hip) hport hpath
  rw [← Option.isNone_iff_eq_none] at hbuilt
  simp only [Function.comp_apply, hbuilt]

/-- What the broadcasts of a handler have in common: their port, and paths that are those of the
request or fixed. -/
lemma path_of_requests {env : Env} {h : Handler} {r : InvalidationRequest} {port : Text}
    {reqs : List BroadcastRequest} (hreqs : h.requests env r = some (port, reqs))
    (htarget : r.requestURI.head? = some '/') :
    port.all Char.isDigit = true ∧ ∀ req ∈ reqs, req.path.head? = some '/' := by
  cases h with
  | purge =>
    obtain ⟨p, -, heq⟩ := Option.map_eq_some_iff.1 hreqs
    obtain ⟨rfl, rfl⟩ := Prod.mk.inj heq
    refine ⟨by decide, List.forall_mem_map.2 fun host _ => htarget⟩
  | ban =>
    obtain ⟨expression, -, heq⟩ := Option.map_eq_some_iff.1 hreqs
    obtain ⟨rfl, rfl⟩ := Prod.mk.inj heq
    refine ⟨by decide, fun req hreq => ?_⟩
    obtain rfl := List.mem_singleton.1 hreq
    rfl
  | xkey =>
    obtain ⟨keys, -, heq⟩ := Option.map_eq_some_iff.1 hreqs
    obtain ⟨rfl, rfl⟩ := Prod.mk.inj heq
    exact ⟨by decide, List.forall_mem_map.2 fun key _ => rfl⟩

end History

/-- A proxy without access lists. -/
def shopServer : Server := ⟨fun _ => none, true, id⟩

/-- A purge of a path. -/
def shopPurge : ServerRequest := { host := "shop-invalidation.prod:8090", requestURI := "/logo" }

/-- Pods that all answer, and no token. -/
def shopWorld : World where
  token _ := []
  build := urlError
  rounds _ := ⟨fun _ => .response 200 "1", FanOut.Order.sequential, FanOut.Order.sequential⟩

/-- The pods of the cache change, and the cache is removed, while the request is served. One of the
pods has an address of IPv6. -/
def shopHistory : List Event :=
  [.route (.register prodShop), .updatePods prodShop ["10.0.0.1", "fd00::2"],
    .arrive shopPurge true [], .resolve 0, .updatePods prodShop ["10.0.0.2"],
    .route (.unregister prodShop), .dispatch 0 shopWorld]

end Server

end CloudVinyl.Proxy
