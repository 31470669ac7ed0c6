import CloudVinyl.Generator.Generate

set_option relaxedAutoImplicit false
set_option autoImplicit false

/-!
# The pods of a cache

What a reconcile learns about the pods of a cache: `collectPeers` of
`internal/controller/vcl_push.go` and `podsNeedingVCL` of `internal/controller/vcl_observe.go`,
with the name under which a VCL is pushed and the VCL that is generated for the observed pods.

## Main definitions

* `Controller.Pod` — the part of a pod's status that is read. The name obeys the rules of the
  cluster for object names.
* `Controller.collectPeers` — the pods that can be pushed to, and those that may take traffic.
* `Controller.desiredVCL` — the VCL generated for the pods.
-/

namespace CloudVinyl.Controller

open Generator

/-- `corev1.PodPhase` -/
inductive PodPhase where
  | pending
  | running
  | succeeded
  | failed
  | unknown
  deriving DecidableEq

/-- `corev1.ContainerStatus`: whether the container has started. -/
structure ContainerStatus where
  name : Text
  started : Option Bool

/-- `corev1.PodCondition` -/
structure PodCondition where
  type : Text
  status : ConditionStatus

/-- A character of the name of an object in the cluster. -/
def isNameChar (c : Char) : Bool := c.isLower || c.isDigit || c = '-' || c = '.'

/-- `corev1.Pod`: what `collectPeers` reads. The API server admits valid names only. -/
structure Pod where
  name : Text
  phase : PodPhase
  podIP : Text
  containerStatuses : List ContainerStatus := []
  conditions : List PodCondition := []
  name_valid : name.all isNameChar = true := by decide

/-! ## Peers -/

/-- `agentContainerName` -/
def agentContainerName : Text := "vinyl-agent"

/-- `agentStarted`: a pod without a status for the agent counts as started. -/
def agentStarted (pod : Pod) : Bool :=
  match pod.containerStatuses.find? fun cs => cs.name = agentContainerName with
  | some cs => cs.started = some true
  | none => true

/-- `isPodReady` -/
def isPodReady (pod : Pod) : Bool :=
  pod.conditions.any fun cond => cond.type = "Ready" && cond.status = .true_

/-- The pods that a VCL can be pushed to. -/
def isReachable (pod : Pod) : Bool :=
  pod.phase = .running && !pod.podIP.isEmpty && agentStarted pod

/-- The pods that may take traffic. -/
def isServing (pod : Pod) : Bool := isReachable pod && isPodReady pod

/-- `varnishPort` -/
def varnishPort : ℤ := 8080

/-- A pod as a peer. -/
def peerOf (pod : Pod) : PeerBackend :=
  { name := Text.replaceAll pod.name '-' '_', ip := pod.podIP, port := varnishPort }

/-- The pods that are pushed to, and those that may take traffic. -/
structure Peers where
  reachable : List PeerBackend
  ready : List PeerBackend

/-- `collectPeers`, for the pods in the order in which they are listed. -/
def collectPeers (pods : List Pod) : Peers where
  reachable := (pods.filter isReachable).map peerOf
  ready := (pods.filter isServing).map peerOf

/-! ## The desired VCL -/

/-- `vclNameFor` -/
def vclNameFor (vc : VinylCache) (hash : Text) : Text :=
  vc.namespace_ ++ "-" ++ vc.name ++ "-" ++ hash.take 8

/-- The input of the generator for the observed pods. -/
def generatorInput (vc : VinylCache) (endpoints : Text → List Endpoint) (operatorIP : Text)
    (pods : List Pod) : Input where
  spec := vc.spec
  peers := (collectPeers pods).ready
  endpoints := endpoints
  namespace_ := vc.namespace_
  name := vc.name
  operatorIP := operatorIP

/-- The VCL generated for the observed pods. -/
def desiredVCL (go : Go) (vc : VinylCache) (endpoints : Text → List Endpoint) (operatorIP : Text)
    (pods : List Pod) : Result :=
  generate go (generatorInput vc endpoints operatorIP pods)

/-- `podsNeedingVCL`: `observed` is the name each address reports, empty if there is none. -/
def podsNeedingVCL (reachable : List PeerBackend) (observed : Text → Text) (desiredName : Text) :
    List PeerBackend :=
  reachable.filter fun p => observed p.ip ≠ desiredName

end CloudVinyl.Controller
