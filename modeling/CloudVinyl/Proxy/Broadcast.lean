import CloudVinyl.Lib.FanOut
import CloudVinyl.Lib.Strings
import CloudVinyl.Lib.Wrapping

set_option relaxedAutoImplicit false
set_option autoImplicit false

/-!
# Broadcasts to the pods

`internal/proxy/broadcast.go`: a request goes to all pods of a cache at the same time, each call
writes its result to a slot of its own, and the results are summed up.

Whether a request can be built for a URL, and what the HTTP client comes back with, is not up to
the proxy. A request is sent when it is handed to the client.

## Main definitions

* `Proxy.Round` — what a broadcast meets with.
* `Proxy.callPod`, `Proxy.broadcast` — the call of a pod, and a broadcast with the requests it sent.
* `Proxy.Aggregated` — a result that sums up its entries.

## Main results

* `Proxy.results_broadcast`, `Proxy.sent_broadcast` — the entries and the requests of a broadcast do
  not depend on the order of the calls.
* `Proxy.aggregated_broadcast` — a broadcast sums up its entries.
* `Proxy.aggregateObjectsPurged_eq` — the count of a result is the sum of the known ones, as machine
  integers have it.
-/

namespace CloudVinyl.Proxy

/-! ## Requests and results -/

/-- `BroadcastRequest`: what is sent to every pod. -/
structure BroadcastRequest where
  method : Text
  path : Text
  /-- The virtual host; empty for the address of the pod. -/
  host : Text
  headers : List (Text × Text) := []
  body : Text := []
  deriving Inhabited

/-- The entry of one pod; the status is zero if there was none. -/
structure PodResult where
  pod : Text := []
  host : Text := []
  status : ℤ := 0
  error : Text := []
  objectsPurged : Option ℤ := none
  deriving DecidableEq

/-- `BroadcastResult`: what is reported to the client. -/
structure BroadcastResult where
  status : Text := []
  total : ℕ := 0
  succeeded : ℕ := 0
  objectsPurged : Option ℤ := none
  warning : Text := []
  results : List PodResult := []
  deriving DecidableEq

/-- A request as the HTTP client gets it. -/
structure HTTPRequest where
  method : Text
  url : Text
  host : Text
  headers : List (Text × Text)
  body : Text
  deriving DecidableEq

/-- What the HTTP client comes back with: an error, or a status and the header `X-Vinyl-Purged`,
which is empty if it is absent. -/
inductive Answer where
  | failed (err : Text)
  | response (status : ℤ) (purged : Text)

/-- What a broadcast meets with: the answer to the call of each pod, by position, and the orders in
which the calls are made and end. -/
structure Round where
  answer : ℕ → Answer
  calls : (n : ℕ) → FanOut.Order n
  ends : (n : ℕ) → FanOut.Order n

/-! ## Counts and statuses -/

/-- `parseObjectsPurged` -/
def parseObjectsPurged (v : Text) : Option ℤ :=
  if v = [] then none else (Text.atoi v).filter (0 ≤ ·)

/-- `aggregateObjectsPurged`, on a platform with 64-bit integers. -/
def aggregateObjectsPurged (results : List PodResult) : Option ℤ :=
  let (sum, known) := results.foldl (fun (acc : ℤ × Bool) r =>
    match r.objectsPurged with
    | some n => ((acc.1 + n).bmod (2 ^ 64), true)
    | none => acc) (0, false)
  if known then some sum else none

/-- `statusString` -/
def statusString (total succeeded : ℕ) : Text :=
  if total = 0 || succeeded = total then "ok" else if succeeded = 0 then "failed" else "partial"

/-- `httpStatusCode`: the status that `WriteResult` answers with. -/
def httpStatusCode (result : BroadcastResult) : ℕ :=
  if result.status = "ok" then 200 else if result.status = "partial" then 207 else 503

/-- The count in an answer, if it has one. -/
def Answer.count : Answer → Option ℤ
  | .failed _ => none
  | .response _ purged => parseObjectsPurged purged

/-- The entry for the answer of a pod. -/
def Answer.entry (pod : Text) : Answer → PodResult
  | .failed err => { pod := pod, error := err }
  | .response status purged =>
    { pod := pod, status := status, objectsPurged := parseObjectsPurged purged }

/-- The call of a pod succeeded. -/
def PodResult.succeeded (r : PodResult) : Bool :=
  r.error = [] && 200 ≤ r.status && r.status < 300

/-! ## Calls -/

/-- The URL of a pod. -/
def podURL (pod path : Text) : Text := "http://" ++ pod ++ path

/-- The request for a pod: without a virtual host, the host is the address. -/
def httpRequest (pod : Text) (req : BroadcastRequest) : HTTPRequest where
  method := req.method
  url := podURL pod req.path
  host := if req.host = [] then pod else req.host
  headers := req.headers
  body := req.body

section Calls

variable (build : Text → Option Text)

/-- `callPod`: the request that is sent, if one can be built, and the entry. The error of
`http.NewRequestWithContext` for a URL is `build`. -/
def callPod (answer : Answer) (pod : Text) (req : BroadcastRequest) :
    Option HTTPRequest × PodResult :=
  match build (podURL pod req.path) with
  | some err => (none, { pod := pod, error := "build request: " ++ err })
  | none => (some (httpRequest pod req), answer.entry pod)

/-- `Broadcast`: the result, and the requests that are sent, each with the position of its pod. -/
def broadcast (round : Round) (pods : List Text) (req : BroadcastRequest) :
    BroadcastResult × List (ℕ × HTTPRequest) :=
  let call (i : ℕ) := callPod build (round.answer i) (pods.getD i []) req
  let results := FanOut.slots (List.replicate pods.length {}) (fun i => (call i).2)
    (round.ends pods.length).list
  let succeeded := results.countP PodResult.succeeded
  ({ status := statusString pods.length succeeded
     total := pods.length
     succeeded := succeeded
     objectsPurged := aggregateObjectsPurged results
     results := results },
    (round.calls pods.length).list.filterMap fun i => (call i).1.map (i, ·))

end Calls

/-- A request that can be built is sent, and its answer is the entry. -/
lemma callPod_of_built {build : Text → Option Text} {pod : Text} {req : BroadcastRequest}
    (h : build (podURL pod req.path) = none) (answer : Answer) :
    callPod build answer pod req = (some (httpRequest pod req), answer.entry pod) := by
  unfold callPod
  rw [h]

/-- A request that cannot be built is not sent, and the entry has the error. -/
lemma callPod_of_error {build : Text → Option Text} {pod : Text} {req : BroadcastRequest}
    {err : Text} (h : build (podURL pod req.path) = some err) (answer : Answer) :
    callPod build answer pod req = (none, { pod := pod, error := "build request: " ++ err }) := by
  unfold callPod
  rw [h]

/-! ## What a broadcast comes to -/

/-- The numbers and the status of a result are those of its entries. -/
structure Aggregated (res : BroadcastResult) : Prop where
  total : res.total = res.results.length
  succeeded : res.succeeded = res.results.countP PodResult.succeeded
  status : res.status = statusString res.total res.succeeded
  objectsPurged : res.objectsPurged = aggregateObjectsPurged res.results

section Broadcast

variable {build : Text → Option Text} {round : Round} {pods : List Text} {req : BroadcastRequest}

/-- The entries are those of calls one after the other. -/
theorem results_broadcast : (broadcast build round pods req).1.results =
    pods.mapIdx fun i pod => (callPod build (round.answer i) pod req).2 :=
  FanOut.slots_eq_mapIdx (fun i pod => (callPod build (round.answer i) pod req).2) pods [] {} _

/-- The requests are those of calls one after the other, in some order. -/
theorem sent_broadcast : (broadcast build round pods req).2.Perm
    ((pods.mapIdx fun i pod =>
      (callPod build (round.answer i) pod req).1.map fun r => (i, r)).filterMap id) := by
  have hperm := (round.calls pods.length).filterMap_perm fun i =>
    (callPod build (round.answer i) (pods.getD i []) req).1.map fun r => (i, r)
  rw [← FanOut.map_range_eq_mapIdx _ pods [], List.filterMap_map]
  exact hperm

/-- There is an entry for each pod. -/
lemma length_results_broadcast :
    (broadcast build round pods req).1.results.length = pods.length := by
  rw [results_broadcast, List.length_mapIdx]

/-- A broadcast sums up its entries. -/
theorem aggregated_broadcast : Aggregated (broadcast build round pods req).1 :=
  ⟨length_results_broadcast.symm, rfl, rfl, rfl⟩

end Broadcast

/-! ## The known counts -/

/-- The sum of the counts, from some point on. -/
lemma foldl_aggregate (results : List PodResult) (acc : ℤ) (known : Bool) :
    results.foldl (fun (acc : ℤ × Bool) r =>
      match r.objectsPurged with
      | some n => ((acc.1 + n).bmod (2 ^ 64), true)
      | none => acc) (acc, known) =
    ((results.filterMap (·.objectsPurged)).foldl (fun acc n => (acc + n).bmod (2 ^ 64)) acc,
      known || results.any (·.objectsPurged.isSome)) := by
  induction results generalizing acc known with
  | nil => simp
  | cons r results ih =>
    rw [List.foldl_cons, List.filterMap_cons, List.any_cons]
    cases hcount : r.objectsPurged with
    | none => simpa using ih acc known
    | some n => simpa using ih _ true

/-- The count of a result is the wrapped sum of the known ones; without one it is unknown. -/
theorem aggregateObjectsPurged_eq (results : List PodResult) :
    aggregateObjectsPurged results =
      if results.any (·.objectsPurged.isSome) then
        some (Wrapping.sum (2 ^ 64) (results.filterMap (·.objectsPurged)))
      else none := by
  unfold aggregateObjectsPurged
  rw [foldl_aggregate]
  rfl

/-- There is a sum if there is a count. -/
lemma aggregateObjectsPurged_isSome (results : List PodResult) :
    (aggregateObjectsPurged results).isSome = true ↔
      ∃ r ∈ results, r.objectsPurged.isSome = true := by
  rw [aggregateObjectsPurged_eq, ← List.any_eq_true]
  split_ifs with h
  · simp [h]
  · simp [h]

end CloudVinyl.Proxy
