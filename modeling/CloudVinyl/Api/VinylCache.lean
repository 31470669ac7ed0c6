import Mathlib.Data.Rat.Defs
import CloudVinyl.Lib.Strings

set_option relaxedAutoImplicit false
set_option autoImplicit false

/-!
# The VinylCache resource

The fields of `api/v1/vinylcache_types.go` that the generator, the admission webhook and the
controller read. A field that the resource leaves out has the default of its Go type, which is
also the default here; a pointer is an `Option`. Durations count nanoseconds, and a `float64` is
given by its value.

## Main definitions

* `VinylCacheSpec`, `VinylCacheStatus`, `VinylCache` — the resource.
* `BackendSpec.nameConforms` — the name pattern that the resource definition enforces.
-/

namespace CloudVinyl

/-! ## Backends and directors -/

/-- The director algorithms that the resource definition admits. -/
inductive DirectorType where
  | shard
  | roundRobin
  | random
  | hash
  | fallback
  deriving DecidableEq, Repr

/-- `ShardSpec`: the parameters of a shard director. -/
structure ShardSpec where
  warmup : Option ℚ := none
  rampup : ℤ := 0
  replicas : ℤ := 0
  by_ : Text := []
  healthy : Text := []

/-- `HashSpec`: the header that a hash director hashes. -/
structure HashSpec where
  header : Text := []

/-- `DirectorSpec`; without a type the director is a shard director. -/
structure DirectorSpec where
  type : Option DirectorType := none
  shard : Option ShardSpec := none
  hash : Option HashSpec := none

/-- `BackendProbeSpec`: the health probe of a backend. -/
structure BackendProbeSpec where
  url : Text := []
  interval : ℤ := 0
  timeout : ℤ := 0
  window : ℤ := 0
  threshold : ℤ := 0
  expectedResponse : Option ℤ := none

/-- `ConnectionParameters`: the timeouts and the limit of a backend's connections. -/
structure ConnectionParameters where
  connectTimeout : ℤ := 0
  firstByteTimeout : ℤ := 0
  betweenBytesTimeout : ℤ := 0
  maxConnections : ℤ := 0

/-- `FetchRetrySpec`: how often a fetch is retried. -/
structure FetchRetrySpec where
  maxRetries : Option ℤ := none

/-- `BackendSpec`: one group of backends, which are the endpoints of a Service. -/
structure BackendSpec where
  name : Text
  probe : Option BackendProbeSpec := none
  connectionParameters : Option ConnectionParameters := none
  director : Option DirectorSpec := none
  retry : Option FetchRetrySpec := none
  /-- The override of the port of the Service; zero if there is none. -/
  port : ℤ := 0
  /-- The name of the Service. -/
  serviceRef : Text := []

/-- The pattern `^[a-zA-Z][a-zA-Z0-9_]*$` of the resource definition. -/
def BackendSpec.nameConforms (b : BackendSpec) : Bool :=
  match b.name with
  | [] => false
  | c :: cs => c.isAlpha && cs.all fun d => d.isAlphanum || d = '_'

/-! ## VCL, invalidation and the cluster -/

/-- `VCLSnippets`: the texts that the user inserts into the subroutines. -/
structure VCLSnippets where
  header : Text := []
  vclInit : Text := []
  vclRecv : Text := []
  vclHash : Text := []
  vclHit : Text := []
  vclMiss : Text := []
  vclPass : Text := []
  vclPurge : Text := []
  vclPipe : Text := []
  vclBackendFetch : Text := []
  vclBackendResponse : Text := []
  vclDeliver : Text := []
  vclSynth : Text := []
  vclBackendError : Text := []
  vclFini : Text := []

/-- `VCLSpec`: the snippets, or a text that replaces the generated VCL. -/
structure VCLSpec where
  snippets : VCLSnippets := {}
  fullOverride : Text := []

/-- `PurgeSpec`: how objects are purged, for which hosts and by whom. -/
structure PurgeSpec where
  soft : Option Bool := none
  hosts : List Text := []
  allowedSources : List Text := []

/-- `BANSpec`: whether there are bans, and who may issue them. -/
structure BANSpec where
  enabled : Bool := false
  allowedSources : List Text := []

/-- `XkeySpec`: whether objects are purged by surrogate key, and by whom. -/
structure XkeySpec where
  enabled : Bool := false
  allowedSources : List Text := []

/-- `InvalidationSpec`: the three ways to invalidate. -/
structure InvalidationSpec where
  purge : Option PurgeSpec := none
  ban : Option BANSpec := none
  xkey : Option XkeySpec := none

/-- `ClusterSpec`: whether the pods share the objects among them, and how. -/
structure ClusterSpec where
  enabled : Bool := false
  retry : Option FetchRetrySpec := none
  /-- `peerRouting.type`. -/
  peerRouting : Option DirectorType := none

/-! ## Pods -/

/-- `StorageSpec`: one storage of varnishd; the size counts bytes. -/
structure StorageSpec where
  name : Text
  type : Text
  size : ℤ := 0
  path : Text := []

/-- `corev1.VolumeMount`: the volume and where it is mounted. -/
structure VolumeMount where
  name : Text
  mountPath : Text

/-- `PodSpec`: the names of volumes and environment variables, the mounts, the labels, and whether
the shorthand and a full anti-affinity are set. -/
structure PodSpec where
  volumes : List Text := []
  volumeMounts : List VolumeMount := []
  env : List Text := []
  labels : List (Text × Text) := []
  podAntiAffinity : Bool := false
  affinityPodAntiAffinity : Bool := false

/-- A claim template: its name, and everything else that it says. -/
structure PersistentVolumeClaim where
  name : Text
  rest : Text := []
  deriving DecidableEq

/-- `ProxyProtocolSpec`: the listener for the PROXY protocol. -/
structure ProxyProtocolSpec where
  enabled : Bool := false
  port : ℤ := 0

/-- `ExporterSpec`: the sidecar that exports metrics. -/
structure ExporterSpec where
  enabled : Bool := false
  port : ℤ := 0

/-- `PrometheusRulesSpec`: whether there are alerts. -/
structure PrometheusRulesSpec where
  enabled : Bool := false

/-- `ServiceMonitorSpec`: whether the exporter is scraped. -/
structure ServiceMonitorSpec where
  enabled : Bool := false

/-- `MonitoringSpec`: the objects for the Prometheus operator. -/
structure MonitoringSpec where
  prometheusRules : Option PrometheusRulesSpec := none
  serviceMonitor : Option ServiceMonitorSpec := none

/-- `TracingSpec`: the tracer sidecar and where it exports to. -/
structure TracingSpec where
  enabled : Bool := false
  endpoint : Text := []

/-! ## The resource -/

/-- The cache daemons; a resource that names none runs Varnish. -/
inductive Flavor where
  | varnish
  | vinyl
  deriving DecidableEq

/-- The flavor as the resource spells it. -/
def Flavor.text : Flavor → Text
  | .varnish => "varnish"
  | .vinyl => "vinyl"

/-- `VinylCacheSpec`: what the user asks for. -/
structure VinylCacheSpec where
  replicas : ℤ := 0
  flavor : Option Flavor := none
  version : Text := []
  backends : List BackendSpec := []
  director : DirectorSpec := {}
  cluster : ClusterSpec := {}
  varnishParams : List (Text × Text) := []
  storage : List StorageSpec := []
  vcl : VCLSpec := {}
  invalidation : InvalidationSpec := {}
  proxyProtocol : ProxyProtocolSpec := {}
  pod : PodSpec := {}
  volumeClaimTemplates : List PersistentVolumeClaim := []
  exporter : Option ExporterSpec := none
  monitoring : MonitoringSpec := {}
  tracing : TracingSpec := {}
  esi : Bool := false
  /-- `spec.resources.requests`, with one entry for each resource. -/
  requests : List (Text × ℤ) := []
  /-- `spec.retry.backoffBase`. -/
  backoffBase : ℤ := 0
  /-- `spec.retry.backoffMax`. -/
  backoffMax : ℤ := 0
  /-- `spec.debounce.duration`. -/
  debounce : ℤ := 0

/-! ## The status -/

/-- The status of a condition. -/
inductive ConditionStatus where
  | true_
  | false_
  | unknown
  deriving DecidableEq

/-- The types of conditions that the operator sets, and any other. -/
inductive ConditionType where
  | ready
  | vclSynced
  | backendsAvailable
  | progressing
  | runtimeResolved
  | other (name : Text)
  deriving DecidableEq

/-- `metav1.Condition`; times count nanoseconds. -/
structure Condition where
  type : ConditionType
  status : ConditionStatus
  reason : Text
  message : Text
  lastTransitionTime : ℤ
  observedGeneration : ℤ

/-- `VinylCachePhase`; a resource that no pass has seen has none. -/
inductive Phase where
  | unset
  | pending
  | ready
  | degraded
  | error
  | stopped
  deriving DecidableEq

/-- `ActiveVCLStatus`: the VCL that was pushed last, and when. -/
structure ActiveVCLStatus where
  name : Text
  hash : Text
  pushedAt : ℤ

/-- `ClusterPeerStatus`: what is known of a pod. -/
structure ClusterPeerStatus where
  podName : Text
  ready : Bool
  activeVCLHash : Text

/-- The counts that the status copies from the StatefulSet. -/
structure ReplicaCounts where
  replicas : ℤ := 0
  readyReplicas : ℤ := 0
  updatedReplicas : ℤ := 0
  availableReplicas : ℤ := 0

/-- `VinylCacheStatus`: what the operator reports. -/
structure VinylCacheStatus where
  phase : Phase := .unset
  message : Text := []
  activeVCL : Option ActiveVCLStatus := none
  counts : ReplicaCounts := {}
  selector : Text := []
  invalidationURL : Text := []
  clusterPeers : List ClusterPeerStatus := []
  readyPeers : ℤ := 0
  totalPeers : ℤ := 0
  conditions : List Condition := []

/-- `VinylCache`: the resource with the metadata that the operator reads. -/
structure VinylCache where
  namespace_ : Text
  name : Text
  generation : ℤ := 0
  deletionTimestamp : Option ℤ := none
  finalizers : List Text := []
  spec : VinylCacheSpec
  status : VinylCacheStatus := {}

end CloudVinyl
