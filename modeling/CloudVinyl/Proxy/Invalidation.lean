import CloudVinyl.Proxy.Ban
import CloudVinyl.Proxy.Broadcast

set_option relaxedAutoImplicit false
set_option autoImplicit false

/-!
# The handlers of the invalidation proxy

`handlePurge`, `handleXkey` and `handleBAN` of `internal/proxy/handler.go`: a purge is broadcast
once per site host, a purge of surrogate keys once per key, and a ban once. The result of a purge of
one host is that of its broadcast; otherwise the results are merged, in one way for hosts and in
another one for keys. `recordInvalidation` counts what happened.

## Main definitions

* `Proxy.Env` — what the handlers know besides the request, and what their broadcasts meet with.
* `Proxy.purgeHosts` — the hosts of a purge.
* `Proxy.mergeResults`, `Proxy.mergeKeys` — the results of several broadcasts as one.
* `Proxy.handle` — the handlers.
* `Proxy.recordInvalidation` — the counters that an invalidation moves.

## Main results

* `Proxy.aggregated_mergeResults`, `Proxy.aggregated_mergeKeys` — merged results sum up entries.
* `Proxy.results_broadcasts`, `Proxy.sent_broadcasts` — the entries and the requests of several
  broadcasts, by position.
* `Proxy.reports_of_handle` — every handler reports on its broadcasts.
-/

namespace CloudVinyl.Proxy

/-- `varnishPort` -/
def varnishPort : Text := "8080"

/-- `agentPort` -/
def agentPort : Text := "9090"

/-! ## Requests -/

/-- What the handlers read of a request. The keys and the expression are those of the JSON body, if
it decodes. -/
structure InvalidationRequest where
  method : Text := "PURGE"
  host : Text
  requestURI : Text := "/"
  header : List (Text × List Text) := []
  keys : Option (List Text) := none
  expression : Option Text := none

/-- `Header.Get` -/
def headerGet (header : List (Text × List Text)) (name : Text) : Text :=
  ((header.lookup name).bind List.head?).getD []

/-- `cloneHeaders` -/
def cloneHeaders (header : List (Text × List Text)) : List (Text × Text) :=
  header.map fun e => (e.1, Text.join e.2 ", ")

/-- What `handleBAN` reads of a request. -/
def InvalidationRequest.ban (r : InvalidationRequest) : BanRequest :=
  ⟨r.method, headerGet r.header "X-Ban-Expression", r.expression⟩

/-- `withPort` for one address. -/
def addPort (port ip : Text) : Text := if ':' ∈ ip then ip else ip ++ ":" ++ port

/-- `withPort` -/
def withPort (ips : List Text) (port : Text) : List Text := ips.map (addPort port)

/-- The handlers of the server. -/
inductive Handler where
  | purge
  | ban
  | xkey
  deriving DecidableEq

/-- The label of a handler in the metrics. -/
def Handler.label : Handler → Text
  | .purge => "purge"
  | .ban => "ban"
  | .xkey => "xkey"

/-- What the handlers know besides the request: the hosts of the resource, the token of the agent
and whether metrics are recorded. And what their broadcasts meet with, by position. The verb `%q`
is `quote`. -/
structure Env where
  namespace_ : Text
  cacheName : Text
  specHosts : List Text := []
  token : Text := []
  metrics : Bool := true
  quote : Text → Text
  build : Text → Option Text
  rounds : ℕ → Round

/-! ## The hosts of a purge -/

/-- `purgeHostHeader` -/
def purgeHostHeader : Text := "X-Vinyl-Purge-Host"

/-- `maxPurgeHosts` -/
def maxPurgeHosts : ℕ := 16

/-- `noPurgeHostWarning` -/
def noPurgeHostWarning : Text :=
  "no site host given: purged only objects cached under the invalidation host; " ++
    "send " ++ purgeHostHeader ++ " or set spec.invalidation.purge.hosts"

/-- The part `[A-Za-z0-9]([A-Za-z0-9.-]*[A-Za-z0-9])?` of `purgeHostRE`. -/
def isHostname (h : Text) : Bool :=
  h.head?.any Char.isAlphanum && h.getLast?.any Char.isAlphanum &&
    h.all fun c => c.isAlphanum || c = '.' || c = '-'

/-- `purgeHostRE`: a host name with an optional port. -/
def purgeHostRE (h : Text) : Bool :=
  match Text.cut h ':' with
  | none => isHostname h
  | some (name, port) => isHostname name && port ≠ [] && port.all Char.isDigit

/-- The loop over the hosts of the header: blanks and repetitions are left out. -/
def collectHosts (quote : Text → Text) : List Text → List Text → Except Text (List Text)
  | [], hosts => .ok hosts
  | h :: rest, hosts =>
    let h := Text.trimSpace h
    if h = [] || h ∈ hosts then collectHosts quote rest hosts
    else if !purgeHostRE h then .error ("invalid host in " ++ purgeHostHeader ++ ": " ++ quote h)
    else collectHosts quote rest (hosts ++ [h])

/-- The hosts without the header: those of the resource, or else the routing host. -/
def fallbackHosts (env : Env) (r : InvalidationRequest) : List Text × Bool :=
  if env.specHosts ≠ [] then (env.specHosts, false) else ([r.host], true)

/-- `purgeHosts`, and whether it falls back to the routing host. -/
def purgeHosts (env : Env) (r : InvalidationRequest) : Except Text (List Text × Bool) :=
  let raw := headerGet r.header purgeHostHeader
  if raw = [] then .ok (fallbackHosts env r)
  else
    match collectHosts env.quote (raw.splitOn ',') [] with
    | .error err => .error err
    | .ok hosts =>
      if maxPurgeHosts < hosts.length then
        .error (purgeHostHeader ++ " names " ++ Text.decimal hosts.length ++ " hosts, at most " ++
          Text.decimal maxPurgeHosts ++ " are allowed")
      else if hosts ≠ [] then .ok (hosts, false)
      else .ok (fallbackHosts env r)

/-! ## Results of several broadcasts -/

/-- The entries of a broadcast with its host. -/
def tagHost (host : Text) (results : List PodResult) : List PodResult :=
  results.map fun pr => { pr with host := host }

/-- One round of the loop of `mergeResults`. -/
def mergeStep (merged : BroadcastResult) (p : Text × BroadcastResult) : BroadcastResult :=
  { merged with
    total := merged.total + p.2.total
    succeeded := merged.succeeded + p.2.succeeded
    results := merged.results ++ tagHost p.1 p.2.results }

/-- `mergeResults` -/
def mergeResults (hosts : List Text) (perHost : List BroadcastResult) : BroadcastResult :=
  match perHost with
  | [res] => res
  | _ =>
    let merged := (hosts.zip perHost).foldl mergeStep {}
    { merged with
      status := statusString merged.total merged.succeeded
      objectsPurged := aggregateObjectsPurged merged.results }

/-- The loop of `handleXkey` and the result it makes. -/
def mergeKeys (pods : List Text) (perKey : List BroadcastResult) : BroadcastResult :=
  let (allResults, totalSucceeded) := perKey.foldl
    (fun (acc : List PodResult × ℕ) res => (acc.1 ++ res.results, acc.2 + res.succeeded)) ([], 0)
  let total := pods.length * perKey.length
  { status := statusString total totalSucceeded
    total := total
    succeeded := totalSucceeded
    objectsPurged := aggregateObjectsPurged allResults
    results := allResults }

/-! ## Metrics -/

/-- The counters of an invalidation. -/
inductive Counter where
  | invalidationTotal
  | objectsPurgedTotal
  | broadcastTotal
  | objectsPurgedUnknownTotal
  | partialFailureTotal
  deriving DecidableEq

/-- A call of `Add` or `Inc` on a counter. The number is converted to a float, which keeps its
sign. -/
structure Increment where
  counter : Counter
  labels : List Text
  value : ℤ := 1

/-- `objectsPurgedCapable` -/
def objectsPurgedCapable (typ : Handler) : Bool := typ = .purge || typ = .xkey

/-- The increments for the entry of a pod. -/
def recordPod (env : Env) (typ : Handler) (pr : PodResult) : List Increment :=
  let ok : Bool := 200 ≤ pr.status && pr.status < 300
  let result : Text := if ok then "success" else "error"
  ⟨.broadcastTotal, [env.cacheName, env.namespace_, pr.pod, result], 1⟩ ::
    if ok && pr.objectsPurged.isNone && objectsPurgedCapable typ then
      [⟨.objectsPurgedUnknownTotal, [env.cacheName, env.namespace_, typ.label], 1⟩]
    else []

/-- `recordInvalidation`, without the observation of the duration. -/
def recordInvalidation (env : Env) (typ : Handler) (res : BroadcastResult) : List Increment :=
  if !env.metrics then []
  else
    [⟨.invalidationTotal, [env.cacheName, env.namespace_, typ.label,
      if res.succeeded = 0 then "error" else "success"], 1⟩] ++
    (res.objectsPurged.toList.map fun n =>
      ⟨.objectsPurgedTotal, [env.cacheName, env.namespace_, typ.label], n⟩) ++
    res.results.flatMap (recordPod env typ) ++
    (if 0 < res.succeeded && res.succeeded < res.total then
      [⟨.partialFailureTotal, [env.cacheName, env.namespace_], 1⟩]
    else [])

/-! ## The handlers -/

/-- A request that was sent, with the positions of its broadcast and of its pod. -/
structure Sent where
  item : ℕ
  pod : ℕ
  request : HTTPRequest

/-- What a handler writes, sends and records. -/
structure Outcome where
  result : BroadcastResult
  sent : List Sent
  increments : List Increment

section Handlers

variable (env : Env)

/-- The broadcasts of a handler, one after the other. -/
def broadcasts (addrs : List Text) (reqs : List BroadcastRequest) :
    List (BroadcastResult × List (ℕ × HTTPRequest)) :=
  reqs.mapIdx fun k req => broadcast env.build (env.rounds k) addrs req

/-- What they have sent. -/
def sentBy (bs : List (BroadcastResult × List (ℕ × HTTPRequest))) : List Sent :=
  (bs.mapIdx fun k b => b.2.map fun s => (⟨k, s.1, s.2⟩ : Sent)).flatten

/-- The request of a purge for a host. -/
def purgeRequest (r : InvalidationRequest) (host : Text) : BroadcastRequest where
  method := "PURGE"
  path := r.requestURI
  host := host
  headers := (cloneHeaders r.header).filter fun e => e.1 ≠ purgeHostHeader

/-- The request of a purge of a surrogate key. -/
def xkeyRequest (r : InvalidationRequest) (key : Text) : BroadcastRequest where
  method := "PURGE"
  path := "/"
  host := r.host
  headers := [("X-Xkey-Purge", key)]

/-- The request of a ban to the agents. -/
def banRequest (r : InvalidationRequest) (expression : Text) : BroadcastRequest where
  method := "POST"
  path := "/ban"
  host := r.host
  headers := ("Content-Type", "application/json") ::
    if env.token = [] then [] else [("Authorization", "Bearer " ++ env.token)]
  body := "\x7b\"expression\":" ++ Text.quoteJSON expression ++ "\x7d"

/-- `handlePurge` -/
def handlePurge (r : InvalidationRequest) (pods : List Text) : Except (ℕ × Text) Outcome :=
  match purgeHosts env r with
  | .error err => .error (400, err)
  | .ok (hosts, fromRouting) =>
    let bs := broadcasts env (withPort pods varnishPort) (hosts.map (purgeRequest r))
    let merged := mergeResults hosts (bs.map Prod.fst)
    let result := if fromRouting then { merged with warning := noPurgeHostWarning } else merged
    .ok ⟨result, sentBy bs, recordInvalidation env .purge result⟩

/-- `handleXkey` -/
def handleXkey (r : InvalidationRequest) (pods : List Text) : Except (ℕ × Text) Outcome :=
  match r.keys with
  | none => .error (400, "invalid JSON body")
  | some [] => .error (400, "keys array is required and must not be empty")
  | some keys =>
    let bs := broadcasts env (withPort pods varnishPort) (keys.map (xkeyRequest r))
    let result := mergeKeys pods (bs.map Prod.fst)
    .ok ⟨result, sentBy bs, recordInvalidation env .xkey result⟩

/-- The broadcast of `handleBAN`, for the expression that passes its checks. -/
def broadcastBAN (r : InvalidationRequest) (pods : List Text) : Except (ℕ × Text) Outcome :=
  match handleBAN env.quote r.ban with
  | .error err => .error err
  | .ok expression =>
    let b := broadcast env.build (env.rounds 0) (withPort pods agentPort)
      (banRequest env r expression)
    .ok ⟨b.1, sentBy [b], recordInvalidation env .ban b.1⟩

/-- The handlers of the server. -/
def handle : Handler → InvalidationRequest → List Text → Except (ℕ × Text) Outcome
  | .purge => handlePurge env
  | .ban => broadcastBAN env
  | .xkey => handleXkey env

/-- The broadcasts that a handler makes of a request, if it accepts it, and the port that they go
to. -/
def Handler.requests (h : Handler) (r : InvalidationRequest) :
    Option (Text × List BroadcastRequest) :=
  match h with
  | .purge => (purgeHosts env r).toOption.map fun p => (varnishPort, p.1.map (purgeRequest r))
  | .ban => (handleBAN env.quote r.ban).toOption.map fun e => (agentPort, [banRequest env r e])
  | .xkey => (r.keys.filter (· ≠ [])).map fun keys => (varnishPort, keys.map (xkeyRequest r))

end Handlers

/-! ## Merged results -/

/-- The entry as it was before it got its host. -/
def PodResult.clearHost (pr : PodResult) : PodResult := { pr with host := [] }

section Merge

variable {hosts pods : List Text} {results : List BroadcastResult}

/-- The host of an entry does not matter for its success. -/
lemma countP_tagHost (host : Text) (prs : List PodResult) :
    (tagHost host prs).countP PodResult.succeeded = prs.countP PodResult.succeeded := by
  rw [tagHost, List.countP_map]
  rfl

/-- Apart from their hosts the entries are the same. -/
lemma map_clearHost_tagHost (host : Text) (prs : List PodResult) :
    (tagHost host prs).map PodResult.clearHost = prs.map PodResult.clearHost := by
  rw [tagHost, List.map_map]
  rfl

/-- The totals of a partial result are those of its entries. -/
def Tallied (m : BroadcastResult) : Prop :=
  m.total = m.results.length ∧ m.succeeded = m.results.countP PodResult.succeeded

/-- Merging one result keeps the counts right. -/
lemma tallied_mergeStep {m : BroadcastResult} (hm : Tallied m) {p : Text × BroadcastResult}
    (hp : Aggregated p.2) : Tallied (mergeStep m p) := by
  constructor
  · simp [mergeStep, hm.1, hp.total, tagHost]
  · simp [mergeStep, hm.2, hp.succeeded, countP_tagHost]

/-- The loop keeps the totals. -/
lemma tallied_foldl {ps : List (Text × BroadcastResult)} (hps : ∀ p ∈ ps, Aggregated p.2)
    {m : BroadcastResult} (hm : Tallied m) : Tallied (ps.foldl mergeStep m) := by
  induction ps generalizing m with
  | nil => exact hm
  | cons p ps ih =>
    exact ih (fun q hq => hps q (List.mem_cons_of_mem p hq))
      (tallied_mergeStep hm (hps p List.mem_cons_self))

/-- The entries of merged results, one after the other. -/
lemma results_foldl (ps : List (Text × BroadcastResult)) (m : BroadcastResult) :
    (ps.foldl mergeStep m).results =
      m.results ++ ps.flatMap fun p => tagHost p.1 p.2.results := by
  induction ps generalizing m with
  | nil => simp
  | cons p ps ih => simp [ih, mergeStep]

/-- A merged result is that of its only broadcast, or comes from the loop. -/
lemma mergeResults_cases (hosts : List Text) (results : List BroadcastResult) :
    (∃ res, results = [res] ∧ mergeResults hosts results = res) ∨
      mergeResults hosts results =
        { (hosts.zip results).foldl mergeStep {} with
          status := statusString ((hosts.zip results).foldl mergeStep {}).total
            ((hosts.zip results).foldl mergeStep {}).succeeded
          objectsPurged :=
            aggregateObjectsPurged ((hosts.zip results).foldl mergeStep {}).results } := by
  unfold mergeResults
  split
  · rename_i res
    exact .inl ⟨res, rfl, rfl⟩
  · exact .inr rfl

/-- **Merged results of hosts** sum up their entries. -/
theorem aggregated_mergeResults (h : ∀ res ∈ results, Aggregated res) :
    Aggregated (mergeResults hosts results) := by
  rcases mergeResults_cases hosts results with ⟨res, rfl, heq⟩ | heq
  · rw [heq]
    exact h res List.mem_cons_self
  · have hloop : Tallied ((hosts.zip results).foldl mergeStep {}) :=
      tallied_foldl (fun p hp => h p.2 (List.of_mem_zip hp).2) ⟨rfl, rfl⟩
    rw [heq]
    exact ⟨hloop.1, hloop.2, rfl, rfl⟩

/-- Their entries are those of the broadcasts. -/
lemma results_mergeResults (hlength : hosts.length = results.length) :
    (mergeResults hosts results).results.map PodResult.clearHost =
      (results.flatMap (·.results)).map PodResult.clearHost := by
  rcases mergeResults_cases hosts results with ⟨res, rfl, heq⟩ | heq
  · rw [heq, List.flatMap_singleton]
  · rw [heq]
    dsimp only
    rw [results_foldl, List.nil_append, List.map_flatMap, List.map_flatMap]
    simp only [map_clearHost_tagHost]
    have hzip : (hosts.zip results).map Prod.snd = results := List.map_snd_zip (by omega)
    conv_rhs => rw [← hzip]
    rw [List.flatMap_map]

/-- The entries and successes of the results for keys. -/
lemma foldl_mergeKeys (results : List BroadcastResult) (prs : List PodResult) (n : ℕ) :
    results.foldl (fun (acc : List PodResult × ℕ) res =>
        (acc.1 ++ res.results, acc.2 + res.succeeded)) (prs, n) =
      (prs ++ results.flatMap (·.results), n + (results.map (·.succeeded)).sum) := by
  induction results generalizing prs n with
  | nil => simp
  | cons res results ih => simp [ih, Nat.add_assoc]

/-- The entries of the results for keys, one after the other. -/
lemma results_mergeKeys : (mergeKeys pods results).results = results.flatMap (·.results) := by
  unfold mergeKeys
  rw [foldl_mergeKeys]
  rfl

/-- **Merged results of keys** sum up their entries, of which each broadcast has one per pod. -/
theorem aggregated_mergeKeys (h : ∀ res ∈ results, Aggregated res)
    (hpods : ∀ res ∈ results, res.results.length = pods.length) :
    Aggregated (mergeKeys pods results) := by
  have hlength : pods.length * results.length = (results.flatMap (·.results)).length := by
    rw [List.length_flatMap, List.map_congr_left hpods, List.map_const',
      List.sum_replicate_nat, Nat.mul_comm]
  have hcount : (results.map (·.succeeded)).sum =
      (results.flatMap (·.results)).countP PodResult.succeeded := by
    rw [List.countP_flatMap, List.map_congr_left fun res hres => (h res hres).succeeded]
    rfl
  unfold mergeKeys
  rw [foldl_mergeKeys, List.nil_append, Nat.zero_add]
  exact ⟨hlength, hcount, rfl, rfl⟩

end Merge

/-! ## Broadcasts by position -/

/-- The call of a pod in one of the broadcasts, by their positions. -/
def callAt (env : Env) (addrs : List Text) (reqs : List BroadcastRequest) (k i : ℕ) :
    Option HTTPRequest × PodResult :=
  callPod env.build ((env.rounds k).answer i) (addrs.getD i []) (reqs.getD k default)

section Broadcasts

variable {env : Env} {addrs : List Text} {reqs : List BroadcastRequest}

/-- A call sets no host. -/
lemma clearHost_callPod (build : Text → Option Text) (answer : Answer) (pod : Text)
    (req : BroadcastRequest) :
    (callPod build answer pod req).2.clearHost = (callPod build answer pod req).2 := by
  cases hbuild : build (podURL pod req.path) with
  | none =>
    rw [callPod_of_built hbuild]
    cases answer with
    | failed err => rfl
    | response status purged => rfl
  | some err =>
    rw [callPod_of_error hbuild]
    rfl

/-- The entries of the broadcasts, one after the other. -/
lemma results_broadcasts : (broadcasts env addrs reqs).flatMap (·.1.results) =
    (List.range reqs.length).flatMap fun k =>
      (List.range addrs.length).map fun i => (callAt env addrs reqs k i).2 := by
  unfold broadcasts
  rw [← FanOut.map_range_eq_mapIdx _ reqs default, List.flatMap_map]
  refine List.flatMap_congr fun k _ => ?_
  rw [results_broadcast, ← FanOut.map_range_eq_mapIdx _ addrs []]
  rfl

/-- The requests of the broadcasts, in some order. -/
lemma sent_broadcasts : (sentBy (broadcasts env addrs reqs)).Perm
    ((List.range reqs.length).flatMap fun k =>
      (List.range addrs.length).filterMap fun i =>
        (callAt env addrs reqs k i).1.map fun q => ⟨k, i, q⟩) := by
  unfold sentBy broadcasts
  rw [List.mapIdx_mapIdx, ← FanOut.map_range_eq_mapIdx _ reqs default, ← List.flatMap_def]
  refine List.Perm.flatMap_left _ fun k _ => ?_
  refine (sent_broadcast.map _).trans (List.Perm.of_eq ?_)
  rw [← FanOut.map_range_eq_mapIdx _ addrs [], List.filterMap_map, List.map_filterMap]
  refine List.filterMap_congr fun i _ => ?_
  rw [callAt]
  simp [Option.map_map, Function.comp_def]

/-- Each broadcast has the counts of its entries. -/
lemma aggregated_of_mem_broadcasts :
    ∀ res ∈ (broadcasts env addrs reqs).map Prod.fst, Aggregated res := by
  intro res hres
  obtain ⟨b, hb, rfl⟩ := List.mem_map.1 hres
  obtain ⟨k, hk, rfl⟩ := List.mem_mapIdx.1 hb
  exact aggregated_broadcast

/-- Each broadcast has an entry for each pod. -/
lemma length_of_mem_broadcasts :
    ∀ res ∈ (broadcasts env addrs reqs).map Prod.fst, res.results.length = addrs.length := by
  intro res hres
  obtain ⟨b, hb, rfl⟩ := List.mem_map.1 hres
  obtain ⟨k, hk, rfl⟩ := List.mem_mapIdx.1 hb
  exact length_results_broadcast

end Broadcasts

/-! ## What the handlers come to -/

/-- The outcome of a handler whose broadcasts are these. -/
structure Outcome.Reports (out : Outcome) (env : Env) (h : Handler) (addrs : List Text)
    (reqs : List BroadcastRequest) : Prop where
  aggregated : Aggregated out.result
  entries : out.result.results.map PodResult.clearHost =
    (broadcasts env addrs reqs).flatMap (·.1.results)
  sent : out.sent = sentBy (broadcasts env addrs reqs)
  increments : out.increments = recordInvalidation env h out.result

section Handlers

variable {env : Env} {r : InvalidationRequest} {pods : List Text}

/-- Broadcasts set no hosts. -/
lemma clearHost_results_broadcasts {addrs : List Text} {reqs : List BroadcastRequest} :
    ((broadcasts env addrs reqs).flatMap (·.1.results)).map PodResult.clearHost =
      (broadcasts env addrs reqs).flatMap (·.1.results) := by
  rw [results_broadcasts, List.map_flatMap]
  refine List.flatMap_congr fun k _ => ?_
  rw [List.map_map]
  refine List.map_congr_left fun i _ => ?_
  exact clearHost_callPod _ _ _ _

/-- **A purge** with hosts is broadcast once for each of them. -/
lemma handlePurge_ok {hosts : List Text} {fromRouting : Bool}
    (h : purgeHosts env r = .ok (hosts, fromRouting)) :
    ∃ out, handlePurge env r pods = .ok out ∧
      out.Reports env .purge (withPort pods varnishPort) (hosts.map (purgeRequest r)) := by
  let results := (broadcasts env (withPort pods varnishPort) (hosts.map (purgeRequest r))).map
    Prod.fst
  have haggregated : Aggregated (mergeResults hosts results) :=
    aggregated_mergeResults aggregated_of_mem_broadcasts
  have hlength : hosts.length = results.length := by simp [results, broadcasts]
  have hentries := results_mergeResults hlength
  rw [List.flatMap_map, clearHost_results_broadcasts] at hentries
  unfold handlePurge
  rw [h]
  refine ⟨_, rfl, ?_, ?_, rfl, rfl⟩
  · cases fromRouting with
    | false => exact haggregated
    | true => exact ⟨haggregated.total, haggregated.succeeded, haggregated.status,
        haggregated.objectsPurged⟩
  · cases fromRouting with
    | false => exact hentries
    | true => exact hentries

/-- **A purge by keys** is broadcast once for each of them. -/
lemma handleXkey_ok {keys : List Text} (h : r.keys = some keys) (hne : keys ≠ []) :
    ∃ out, handleXkey env r pods = .ok out ∧
      out.Reports env .xkey (withPort pods varnishPort) (keys.map (xkeyRequest r)) := by
  have haggregated : Aggregated (mergeKeys pods
      ((broadcasts env (withPort pods varnishPort) (keys.map (xkeyRequest r))).map Prod.fst)) :=
    aggregated_mergeKeys aggregated_of_mem_broadcasts fun res hres => by
      rw [length_of_mem_broadcasts res hres, withPort, List.length_map]
  unfold handleXkey
  rw [h]
  cases keys with
  | nil => exact absurd rfl hne
  | cons key keys =>
    refine ⟨_, rfl, haggregated, ?_, rfl, rfl⟩
    dsimp only
    rw [results_mergeKeys, List.flatMap_map, clearHost_results_broadcasts]

/-- **A ban** that is accepted is broadcast once. -/
lemma broadcastBAN_ok {expression : Text}
    (h : handleBAN env.quote r.ban = .ok expression) :
    ∃ out, broadcastBAN env r pods = .ok out ∧
      out.Reports env .ban (withPort pods agentPort) [banRequest env r expression] := by
  unfold broadcastBAN
  rw [h]
  refine ⟨_, rfl, aggregated_broadcast, ?_, rfl, rfl⟩
  rw [← clearHost_results_broadcasts]
  simp [broadcasts]

/-- There is a value just when there is no error. -/
lemma toOption_eq_some_iff {ε α : Type} {e : Except ε α} {a : α} :
    e.toOption = some a ↔ e = .ok a := by
  cases e with
  | error err => simp [Except.toOption]
  | ok b => simp [Except.toOption]

/-- A handler that broadcasts reports on its broadcasts. -/
theorem reports_of_requests {h : Handler} {port : Text} {reqs : List BroadcastRequest}
    (hreqs : h.requests env r = some (port, reqs)) (pods : List Text) :
    ∃ out, handle env h r pods = .ok out ∧ out.Reports env h (withPort pods port) reqs := by
  cases h with
  | purge =>
    obtain ⟨⟨hosts, fromRouting⟩, hhosts, heq⟩ := Option.map_eq_some_iff.1 hreqs
    obtain ⟨rfl, rfl⟩ := Prod.mk.inj heq
    exact handlePurge_ok (toOption_eq_some_iff.1 hhosts)
  | ban =>
    obtain ⟨expression, hexpr, heq⟩ := Option.map_eq_some_iff.1 hreqs
    obtain ⟨rfl, rfl⟩ := Prod.mk.inj heq
    exact broadcastBAN_ok (toOption_eq_some_iff.1 hexpr)
  | xkey =>
    obtain ⟨keys, hkeys, heq⟩ := Option.map_eq_some_iff.1 hreqs
    obtain ⟨rfl, rfl⟩ := Prod.mk.inj heq
    obtain ⟨hkeys, hne⟩ := Option.filter_eq_some_iff.1 hkeys
    exact handleXkey_ok hkeys (by simpa using hne)

/-- A handler that answers has broadcast. -/
lemma exists_requests_of_handle {h : Handler} {out : Outcome}
    (hout : handle env h r pods = .ok out) : ∃ port reqs, h.requests env r = some (port, reqs) := by
  cases h with
  | purge =>
    change handlePurge env r pods = .ok out at hout
    unfold handlePurge at hout
    cases hp : purgeHosts env r with
    | error err => simp [hp] at hout
    | ok p =>
      exact ⟨varnishPort, p.1.map (purgeRequest r), by simp [Handler.requests, hp, Except.toOption]⟩
  | ban =>
    change broadcastBAN env r pods = .ok out at hout
    unfold broadcastBAN at hout
    cases hb : handleBAN env.quote r.ban with
    | error err => simp [hb] at hout
    | ok e =>
      exact ⟨agentPort, [banRequest env r e], by simp [Handler.requests, hb, Except.toOption]⟩
  | xkey =>
    change handleXkey env r pods = .ok out at hout
    unfold handleXkey at hout
    split at hout
    · cases hout
    · cases hout
    · rename_i keys hne hkeys
      have hkept : r.keys.filter (· ≠ []) = some keys :=
        Option.filter_eq_some_iff.2 ⟨hkeys, decide_eq_true hne⟩
      refine ⟨varnishPort, keys.map (xkeyRequest r), ?_⟩
      rw [Handler.requests, hkept, Option.map_some]

/-- **What a handler comes to**: it refuses a request, or reports on its broadcasts. -/
theorem reports_of_handle {h : Handler} {out : Outcome} (hout : handle env h r pods = .ok out) :
    ∃ port reqs, h.requests env r = some (port, reqs) ∧
      out.Reports env h (withPort pods port) reqs := by
  obtain ⟨port, reqs, hreqs⟩ := exists_requests_of_handle hout
  obtain ⟨out', hout', hreports⟩ := reports_of_requests hreqs pods
  rw [hout, Except.ok.injEq] at hout'
  exact ⟨port, reqs, hreqs, hout' ▸ hreports⟩

end Handlers

end CloudVinyl.Proxy
