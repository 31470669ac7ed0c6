import Mathlib.Data.Int.Log
import Mathlib.Data.Rat.Floor
import CloudVinyl.Api.VinylCache

set_option relaxedAutoImplicit false
set_option autoImplicit false

/-!
# The data behind the templates

`buildTemplateData` of `internal/generator/generator.go` and its helpers. It turns the resource,
the resolved endpoints and the cluster peers into the record that the templates read: one group
per backend of the resource, with one backend definition for each endpoint, and one definition
for each peer.

## Main definitions

* `Generator.Go` — the functions of the Go library whose results appear in the text.
* `Generator.Input`, `Generator.TemplateData` — what the generator is given and what the
  templates read.
* `Generator.buildTemplateData`
-/

namespace CloudVinyl.Generator

/-- The functions of the Go library that the generated text depends on: `fmt.Sprint` and
`strconv.FormatFloat(·, 'f', -1, 64)` of a `float64`, and the hexadecimal SHA-256 digest. -/
structure Go where
  sprint : ℚ → Text
  formatFloat : ℚ → Text
  sha256 : Text → Text

/-! ## Durations -/

/-- The nearest integer, and of two nearest ones the even one. -/
def roundEven (q : ℚ) : ℤ :=
  let f := ⌊q⌋
  if q - f < 1 / 2 then f
  else if 1 / 2 < q - f then f + 1
  else if f % 2 = 0 then f
  else f + 1

/-- The `float64` nearest to a number in the range of normal numbers. -/
def float64 (q : ℚ) : ℚ :=
  if q = 0 then 0
  else
    let unit : ℚ := 2 ^ (Int.log 2 |q| - 52)
    roundEven (q / unit) * unit

/-- The verb `%.0f`. -/
def formatF0 (q : ℚ) : Text :=
  (if q < 0 then "-" else "" : String) ++ Text.decimal (roundEven |q|).toNat

/-- `Hours`, `Minutes` and `Seconds` of a `time.Duration`: the whole units and the rest are
converted on their own. -/
def durationIn (unit d : ℤ) : ℚ :=
  float64 (float64 (d.tdiv unit) + float64 (float64 (d.tmod unit) / unit))

/-- `Duration.Hours` -/
def hours (d : ℤ) : ℚ := durationIn 3600000000000 d
/-- `Duration.Minutes` -/
def minutes (d : ℤ) : ℚ := durationIn 60000000000 d
/-- `Duration.Seconds` -/
def seconds (d : ℤ) : ℚ := durationIn 1000000000 d

/-- `fmtDuration` -/
def fmtDuration (d : ℤ) : Text :=
  if 1 ≤ hours d then formatF0 (hours d) ++ "h"
  else if 1 ≤ minutes d then formatF0 (minutes d) ++ "m"
  else formatF0 (seconds d) ++ "s"

/-! ## The records -/

/-- `PeerBackend`: a pod of the cluster. -/
structure PeerBackend where
  name : Text
  ip : Text
  port : ℤ
  deriving DecidableEq

/-- `Endpoint`: an address of a Service. -/
structure Endpoint where
  ip : Text
  port : ℤ
  deriving DecidableEq

/-- `Input`: all that the generator reads. -/
structure Input where
  spec : VinylCacheSpec
  peers : List PeerBackend
  endpoints : Text → List Endpoint
  namespace_ : Text
  name : Text
  operatorIP : Text

/-- One backend, as the templates need it. -/
structure BackendDef where
  name : Text
  ip : Text
  port : ℤ
  probeURL : Text := []
  probeInterval : Text := []
  probeTimeout : Text := []
  probeWindow : ℤ := 0
  probeThreshold : ℤ := 0
  probeExpectedResponse : ℤ := 0
  connectTimeout : Text := []
  firstByteTimeout : Text := []
  betweenBytesTimeout : Text := []
  maxConnections : ℤ := 0

/-- A director, as the templates need it. -/
structure DirectorInfo where
  type : DirectorType := .shard
  warmup : ℚ := 0
  rampup : Text := []
  healthy : Text := []
  hashHeader : Text := []

/-- A group of backends with its director and its retries. -/
structure BackendGroup where
  name : Text
  director : DirectorInfo
  backends : List BackendDef
  placeholder : Text
  retries : ℤ := 0
  retryMatch : Text := []
  retryReselect : Text := []
  retryFirstByteTimeout : Text := []

/-- What the templates read. -/
structure TemplateData where
  input : Input
  hasCluster : Bool
  hasESI : Bool
  hasXkey : Bool
  hasSoftPurge : Bool
  hasBAN : Bool
  hasProxyProtocol : Bool
  hasTracing : Bool
  backendGroups : List BackendGroup
  peerDefs : List BackendDef
  directorName : Text
  defaultBackendHint : Text
  clusterShardBy : Text
  clusterShardHealthy : Text
  hasFetchRetry : Bool
  peerRetries : ℤ
  peerRetryMatch : Text
  peerRetryReselect : Text

/-! ## Groups -/

/-- `sanitizeName` -/
def sanitizeName (name : Text) : Text := Text.replaceAll name '-' '_'

/-- The pattern `^[A-Za-z][A-Za-z0-9_-]*$` of `headerToken`. -/
def headerToken : Text → Bool
  | [] => false
  | c :: cs => c.isAlpha && cs.all fun d => d.isAlphanum || d = '_' || d = '-'

/-- `resolveDirectorInfo` -/
def resolveDirectorInfo : Option DirectorSpec → DirectorInfo
  | none => {}
  | some ds =>
    { type := ds.type.getD .shard
      warmup := (ds.shard.bind (·.warmup)).getD 0
      rampup := match ds.shard with
        | some shard => if 0 < shard.rampup then fmtDuration shard.rampup else []
        | none => []
      healthy := match ds.shard with
        | some shard => shard.healthy
        | none => []
      hashHeader := match ds.hash with
        | some hash => if headerToken hash.header then hash.header else []
        | none => [] }

/-- `resolveMaxRetries`: one retry if nothing is said. -/
def resolveMaxRetries (r : Option FetchRetrySpec) : ℤ := (r.bind (·.maxRetries)).getD 1

/-- `backendMatch`: the condition that `bereq.backend` is one of the backends. -/
def backendMatch (backends : List Text) : Text :=
  Text.join (backends.map fun b => "bereq.backend == " ++ b) " || "

/-- The duration if it is set, else nothing. -/
def durationIfSet (d : ℤ) : Text := if 0 < d then fmtDuration d else []

/-- The fields of the probe, with their defaults, if there is one with a URL. -/
def BackendDef.withProbe (defn : BackendDef) : Option BackendProbeSpec → BackendDef
  | none => defn
  | some probe =>
    if probe.url = [] then defn
    else
      { defn with
        probeURL := probe.url
        probeInterval := if 0 < probe.interval then fmtDuration probe.interval else "5s"
        probeTimeout := if 0 < probe.timeout then fmtDuration probe.timeout else "2s"
        probeWindow := if 0 < probe.window then probe.window else 5
        probeThreshold := if 0 < probe.threshold then probe.threshold else 3
        probeExpectedResponse := probe.expectedResponse.getD 0 }

/-- The backend with its timeouts and its limit. -/
def BackendDef.withConnection (defn : BackendDef) : Option ConnectionParameters → BackendDef
  | none => defn
  | some cp =>
    { defn with
      connectTimeout := durationIfSet cp.connectTimeout
      firstByteTimeout := durationIfSet cp.firstByteTimeout
      betweenBytesTimeout := durationIfSet cp.betweenBytesTimeout
      maxConnections := cp.maxConnections }

/-- The definition of the endpoint with index `i` of a group. -/
def endpointDef (group : Text) (b : BackendSpec) (i : ℕ) (ep : Endpoint) : BackendDef :=
  (({ name := group ++ "_" ++ Text.decimal i, ip := ep.ip, port := ep.port } :
    BackendDef).withProbe b.probe).withConnection b.connectionParameters

/-- The expression that picks another backend of the group on a retry, and the names that stand
for a backend of the group, if the director can pick another one. -/
def retrySelection (g : BackendGroup) : Option (Text × List Text) :=
  let names := g.backends.map (·.name)
  match g.director.type with
  | .shard => some (g.name ++ ".backend(by=URL, alt=bereq.retries, healthy=ALL)", names)
  | .roundRobin | .random =>
    some (g.name ++ ".backend()", names ++ [g.name ++ ".backend()"])
  | .hash | .fallback => none

/-- `setGroupRetry` -/
def setGroupRetry (go : Go) (g : BackendGroup) (b : BackendSpec) : BackendGroup :=
  if g.backends = [] then g
  else
    match retrySelection g with
    | none => g
    | some (reselect, names) =>
      let retries := resolveMaxRetries b.retry
      if retries = 0 then { g with retryReselect := reselect }
      else
        { g with
          retryReselect := reselect
          retries := retries
          retryMatch := backendMatch names
          retryFirstByteTimeout := match b.connectionParameters with
            | some cp =>
              if 0 < cp.firstByteTimeout then go.formatFloat (seconds cp.firstByteTimeout) ++ "s"
              else []
            | none => [] }

/-- The group of a backend of the resource, with its placeholder if it has no endpoints. -/
def backendGroup (go : Go) (endpoints : Text → List Endpoint) (b : BackendSpec) : BackendGroup :=
  let name := sanitizeName b.name
  let backends := (endpoints b.name).mapIdx (endpointDef name b)
  setGroupRetry go
    { name := name
      director := resolveDirectorInfo b.director
      backends := backends
      placeholder := if backends = [] then "noendpoints_" ++ name else [] } b

/-- `defaultBackendHint` -/
def defaultBackendHint (g : BackendGroup) : Text :=
  match g.director.type with
  | .shard =>
    let args : Text :=
      if g.director.healthy = [] then "by=URL" else "by=URL, healthy=" ++ g.director.healthy
    g.name ++ ".backend(" ++ args ++ ")"
  | .hash =>
    if g.director.hashHeader = [] then g.name ++ ".backend(req.url)"
    else g.name ++ ".backend(req.http." ++ g.director.hashHeader ++ ")"
  | .roundRobin | .random | .fallback => g.name ++ ".backend()"

/-! ## All the data -/

/-- The backend of a peer. -/
def peerDef (p : PeerBackend) : BackendDef := { name := p.name, ip := p.ip, port := p.port }

/-- `buildTemplateData` -/
def buildTemplateData (go : Go) (input : Input) : TemplateData :=
  let spec := input.spec
  let hasCluster := spec.cluster.enabled && !input.peers.isEmpty
  let directorName : Text := "director_" ++ sanitizeName input.name
  -- anything but `URL`, such as a stored `HASH`, falls back to `URL`
  let shardBy : Text := match spec.director.shard with
    | some shard => if shard.by_ = "URL" then shard.by_ else "URL"
    | none => "URL"
  let groups := spec.backends.map (backendGroup go input.endpoints)
  let peerDefs := input.peers.map peerDef
  let peerRetries := if hasCluster then resolveMaxRetries spec.cluster.retry else 0
  { input := input
    hasCluster := hasCluster
    hasESI := spec.esi
    hasXkey := match spec.invalidation.xkey with
      | some xkey => xkey.enabled
      | none => false
    hasSoftPurge := match spec.invalidation.purge with
      | some purge => purge.soft.getD true
      | none => false
    hasBAN := match spec.invalidation.ban with
      | some ban => ban.enabled
      | none => false
    hasProxyProtocol := spec.proxyProtocol.enabled
    hasTracing := spec.tracing.enabled
    backendGroups := groups
    peerDefs := peerDefs
    directorName := directorName
    defaultBackendHint := match groups with
      | [] => []
      | g :: _ => defaultBackendHint g
    clusterShardBy := shardBy
    clusterShardHealthy := match spec.director.shard with
      | some shard => shard.healthy
      | none => []
    hasFetchRetry := groups.any (fun g => decide (0 < g.retries)) || decide (0 < peerRetries)
    peerRetries := peerRetries
    peerRetryMatch := if 0 < peerRetries then backendMatch (peerDefs.map (·.name)) else []
    peerRetryReselect :=
      if 0 < peerRetries then
        directorName ++ ".backend(by=" ++ shardBy ++ ", alt=bereq.retries, healthy=ALL)"
      else [] }

/-- The retry settings of a group do not touch the rest of it. -/
lemma setGroupRetry_rest (go : Go) (b : BackendSpec) (g : BackendGroup) :
    (setGroupRetry go g b).name = g.name ∧ (setGroupRetry go g b).backends = g.backends ∧
      (setGroupRetry go g b).placeholder = g.placeholder := by
  by_cases hb : g.backends = []
  · simp only [setGroupRetry, if_pos hb, and_self]
  · cases hsel : retrySelection g with
    | none => simp only [setGroupRetry, if_neg hb, hsel, and_self]
    | some sel =>
      by_cases hr : resolveMaxRetries b.retry = 0
      · simp only [setGroupRetry, if_neg hb, hsel, if_pos hr, and_self]
      · simp only [setGroupRetry, if_neg hb, hsel, if_neg hr, and_self]

section

variable (go : Go) (input : Input)

/-- There is a cluster if it is enabled and has peers. -/
lemma buildTemplateData_hasCluster :
    (buildTemplateData go input).hasCluster =
      (input.spec.cluster.enabled && !input.peers.isEmpty) := rfl

/-- The groups are those of the resource. -/
lemma buildTemplateData_backendGroups :
    (buildTemplateData go input).backendGroups =
      input.spec.backends.map (backendGroup go input.endpoints) := rfl

/-- The peers are those of the input. -/
lemma buildTemplateData_peerDefs :
    (buildTemplateData go input).peerDefs = input.peers.map peerDef := rfl

end

end CloudVinyl.Generator
