import CloudVinyl.Controller.StatefulSet
import CloudVinyl.Proxy.PodAddresses

set_option relaxedAutoImplicit false
set_option autoImplicit false

/-!
# The URLs of the pods

The operator calls its pods at their addresses: the invalidation proxy at the port of varnishd or of
the agent (`withPort` and `callPod` of `internal/proxy`), and `HTTPAgentClient` of
`internal/controller/agent_client.go` at that of the agent. All of them write the address into the
URL as it is.

## Main definitions

* `Controller.pushURL`, `Controller.activeURL` — the URLs of the agent client.
* `Controller.Reaches` — every URL leads to the address and the port that it is meant for.

## Main results

* `Controller.reaches_iff` — the URLs lead to a valid address just when it is one of IPv4.
-/

namespace CloudVinyl.Controller

open Authority
open Proxy (podURL podURL_eq addPort addPort_of_isIPv4 addPort_of_isIPv6 ofURL_of_isIPv4
  ofURL_of_isIPv6 head?_all_of_slash)

/-- A URL of the agent on a pod, as the verbs `%s:%d` print it. -/
def agentURL (podIP path : Text) : Text :=
  "http://" ++ podIP ++ ":" ++ Text.decimalInt agentPort ++ path

/-- The URL of `PushVCL`. -/
def pushURL (podIP : Text) : Text := agentURL podIP "/vcl/push"

/-- The URL of `ActiveVCLName`. -/
def activeURL (podIP : Text) : Text := agentURL podIP "/vcl/active"

/-- The URLs for a pod lead to its address, and to the intended port. -/
structure Reaches (ip : Text) : Prop where
  varnish : ∀ path : Text, path.head? = some '/' →
    ofURL (podURL (addPort Proxy.varnishPort ip) path) = some (ip, some Proxy.varnishPort)
  agent : ∀ path : Text, path.head? = some '/' →
    ofURL (podURL (addPort Proxy.agentPort ip) path) = some (ip, some Proxy.agentPort)
  push : ofURL (pushURL ip) = some (ip, some "9090".toList)
  active : ofURL (activeURL ip) = some (ip, some "9090".toList)

/-- The URL as a scheme, an authority with its port and a path. -/
lemma agentURL_eq (ip path : Text) :
    agentURL ip path = "http://" ++ (ip ++ ':' :: "9090".toList ++ path) := by
  have hdecimal : Text.decimalInt agentPort = "9090" := by decide +kernel
  unfold agentURL
  rewrite [hdecimal]
  simp

/-- The URL of an agent with an address of IPv4 leads to it. -/
lemma ofURL_agentURL_of_isIPv4 {ip path : Text} (h : isIPv4 ip = true)
    (hpath : path.head? = some '/') :
    ofURL (agentURL ip path) = some (ip, some "9090".toList) := by
  rw [agentURL_eq]
  exact ofURL_of_isIPv4 h (by decide) hpath

/-- The URL of an agent with an address of IPv6 cannot be read: the address is not in brackets. -/
lemma ofURL_agentURL_of_isIPv6 {ip path : Text} (h : isIPv6 ip = true)
    (hpath : path.head? = some '/') : ofURL (agentURL ip path) = none := by
  have hinner : ∀ c ∈ ip, isInner c = true := fun c hc =>
    isInner_of_isAddressChar (isAddressChar_of_isIPv6 h c hc)
  obtain ⟨a, r, rfl, hr⟩ := exists_colons_of_isIPv6 h
  have hport : (':' :: "9090".toList).all isInner = true := by decide
  rw [agentURL_eq, List.append_assoc a, List.cons_append]
  refine ofURL_eq_none (List.mem_append_left _ hr) (fun c hc => ?_) (head?_all_of_slash hpath)
  rw [← List.cons_append, ← List.append_assoc, List.mem_append] at hc
  exact hc.elim (hinner c) (List.all_eq_true.1 hport c)

/-- **The URLs lead to a valid address** just when it is one of IPv4. An address of IPv6 is taken
for one that has its port already, and stands without brackets. -/
theorem reaches_iff (ip : Text) (h : isIPv4 ip = true ∨ isIPv6 ip = true) :
    Reaches ip ↔ isIPv4 ip = true := by
  constructor
  · intro hreaches
    refine h.resolve_right fun hv6 => ?_
    have hnone : ofURL ("http://" ++ (ip ++ "/".toList)) = none := ofURL_of_isIPv6 hv6 rfl
    have hsome := hreaches.varnish "/" rfl
    rw [addPort_of_isIPv6 hv6, podURL_eq, hnone] at hsome
    cases hsome
  · intro hv4
    refine ⟨fun path hpath => ?_, fun path hpath => ?_, ofURL_agentURL_of_isIPv4 hv4 rfl,
      ofURL_agentURL_of_isIPv4 hv4 rfl⟩
    · rw [addPort_of_isIPv4 hv4, podURL_eq]
      exact ofURL_of_isIPv4 hv4 (by decide) hpath
    · rw [addPort_of_isIPv4 hv4, podURL_eq]
      exact ofURL_of_isIPv4 hv4 (by decide) hpath

/-- An address of IPv4 is reached. -/
theorem reaches_iff_v4 : Reaches "10.0.0.1" :=
  (reaches_iff "10.0.0.1" (.inl (by decide))).2 (by decide)

/-- None of the URLs leads anywhere for this address of IPv6. -/
theorem v6_unreachable :
    isIPv6 "fd00::a" = true ∧ ofURL (podURL (addPort Proxy.varnishPort "fd00::a") "/") = none ∧
      ofURL (pushURL "fd00::a") = none ∧ ofURL (activeURL "fd00::a") = none ∧
      ¬Reaches "fd00::a" := by
  have hpush : ofURL (pushURL "fd00::a") = none := by decide
  refine ⟨by decide, by decide, hpush, by decide, fun h => ?_⟩
  have hsome := h.push
  rw [hpush] at hsome
  cases hsome

end CloudVinyl.Controller
