import CloudVinyl.Controller.Listeners
import CloudVinyl.Controller.Selectors
import CloudVinyl.Lib.Authority
import CloudVinyl.Lib.Policies

set_option relaxedAutoImplicit false
set_option autoImplicit false

/-!
# Who reaches the pods of a cache

`reconcileNetworkPolicies` of `internal/controller/networkpolicy.go` keeps up to five policies for
a cache. Each of them is created, updated or deleted by a call of its own, which may fail and end
the reconcile there. Reconciles of other caches, of the same namespace or of another one, come in
between, and the policies of a deleted cache are collected some time later.

The parser of addresses is left open: `parseIP` stands for `net.ParseIP`, and its results are told
apart as `To4` does. A block of addresses is given by what its text says. Only the policies of the
operator are in the store; another one that selects the pods would let more through.

## Main definitions

* `Controller.PolicyKind`, `Controller.policyOf` — the five policies.
* `Controller.PolicyEvent`, `Controller.runPolicies` — calls and collections, one after the other.
* `Controller.Reconciled` — the last calls for a cache were made for the given resource.

## Main results

* `Controller.admits_iff_of_reconciled` — the connections that the pods of a reconciled cache take,
  whatever was done for other caches.
-/

namespace CloudVinyl.Controller

open Policies

/-! ## The policies -/

/-- The policies of a cache. -/
inductive PolicyKind where
  | traffic
  | invalidation
  | agent
  | exporter
  | tracer
  deriving DecidableEq

/-- What the name of a policy adds to that of the cache. -/
def PolicyKind.suffix : PolicyKind → Text
  | .traffic => "-traffic"
  | .invalidation => "-invalidation"
  | .agent => "-agent"
  | .exporter => "-exporter"
  | .tracer => "-tracer"

/-- The label of the namespace of the operator. -/
def operatorNamespaceLabel : Text := "vinyl.bluedynamics.eu/operator-namespace"

section Policies

variable (parseIP : Text → Option Address) (operatorIP : Text) (vc : VinylCache)

/-- `singleHostCIDR`: the block of one host, unless the text is no address. -/
def singleHostCIDR (ip : Text) : Option Block :=
  match parseIP ip with
  | none => none
  | some (.v4 bits) => some ⟨.v4 bits, 32⟩
  | some (.v6 bits) => some ⟨.v6 bits, 128⟩

/-- `operatorPeers` -/
def operatorPeers : List (Peer Text Text) :=
  .namespaceSelector [(operatorNamespaceLabel, "true")] ::
    (singleHostCIDR parseIP operatorIP).toList.map .ipBlock

/-- A policy that lets the sources through to a port of the pods of the cache. -/
def ingressPolicy (sources : List (Peer Text Text)) (port : ℤ) : Policy Text Text where
  podSelector := [(labelApp, vc.name)]
  ingress := [⟨sources, [(.tcp, port)]⟩]

/-- The policy of `reconcileTrafficNetworkPolicy`. -/
def trafficNetworkPolicy : Policy Text Text := ingressPolicy vc [] varnishPort

/-- The policy of `reconcileInvalidationNetworkPolicy`. -/
def invalidationNetworkPolicy : Policy Text Text :=
  ingressPolicy vc (operatorPeers parseIP operatorIP) varnishPort

/-- The policy of `reconcileAgentNetworkPolicy`. -/
def agentNetworkPolicy : Policy Text Text :=
  ingressPolicy vc (operatorPeers parseIP operatorIP) agentPort

/-- The policy of `reconcileExporterNetworkPolicy`; without an exporter there is none. -/
def exporterNetworkPolicy : Option (Policy Text Text) :=
  (enabledExporter vc.spec).map fun exp => ingressPolicy vc [] (effectiveExporterPort exp)

/-- The policy of `reconcileTracerNetworkPolicy`; without a tracer there is none. -/
def tracerNetworkPolicy : Option (Policy Text Text) :=
  if vc.spec.tracing.enabled then some (ingressPolicy vc [] tracerMetricsPort) else none

/-- The policy that a reconcile applies; one that is not wanted is deleted. -/
def policyOf : PolicyKind → Option (Policy Text Text)
  | .traffic => some (trafficNetworkPolicy vc)
  | .invalidation => some (invalidationNetworkPolicy parseIP operatorIP vc)
  | .agent => some (agentNetworkPolicy parseIP operatorIP vc)
  | .exporter => exporterNetworkPolicy vc
  | .tracer => tracerNetworkPolicy vc

end Policies

/-! ## Runs -/

/-- A call that went through, or the collection of a policy whose cache is gone. -/
inductive PolicyEvent where
  | applied (kind : PolicyKind) (vc : VinylCache) (operatorIP : Text)
  | collected (kind : PolicyKind) (key : ObjectKey)

namespace PolicyEvent

/-- The cache and the kind of the policy that the event is about. -/
def owner : PolicyEvent → ObjectKey × PolicyKind
  | applied kind vc _ => (cacheKey vc, kind)
  | collected kind key => (key, kind)

/-- What the event leaves behind. -/
def leaves (parseIP : Text → Option Address) : PolicyEvent → Option (Policy Text Text)
  | applied kind vc operatorIP => policyOf parseIP operatorIP vc kind
  | collected _ _ => none

end PolicyEvent

/-- The key of a policy. -/
def policyName (owner : ObjectKey × PolicyKind) : ObjectKey :=
  ⟨owner.1.namespace_, owner.1.name ++ owner.2.suffix⟩

/-- The policies after the events. -/
def runPolicies (parseIP : Text → Option Address) (events : List PolicyEvent) :
    Table ObjectKey (Policy Text Text) :=
  events.foldl (fun store e => Function.update store (policyName e.owner) (e.leaves parseIP))
    fun _ => none

/-- The last event for each policy of the cache is a call that was made for the resource by the
operator at the address. -/
def Reconciled (events : List PolicyEvent) (vc : VinylCache) (operatorIP : Text) : Prop :=
  ∀ kind, (events.filter fun e => e.owner = (cacheKey vc, kind)).getLast? =
    some (.applied kind vc operatorIP)

/-! ## No cache touches the policies of another one -/

/-- No suffix is the end of another one. -/
lemma PolicyKind.eq_of_suffix {k k' : PolicyKind} (h : k.suffix <:+ k'.suffix) : k = k' := by
  revert h
  cases k <;> cases k' <;> decide

/-- Policies of different caches or kinds have different names. -/
lemma policyName_injective : Function.Injective policyName := by
  rintro ⟨⟨ns, c⟩, k⟩ ⟨⟨ns', c'⟩, k'⟩ h
  obtain ⟨hns, hname⟩ : ns = ns' ∧ c ++ k.suffix = c' ++ k'.suffix := ObjectKey.mk.inj h
  have hkind : k = k' := by
    have hk : k.suffix <:+ c' ++ k'.suffix := hname ▸ List.suffix_append c k.suffix
    rcases List.suffix_or_suffix_of_suffix hk (List.suffix_append c' k'.suffix) with h | h
    · exact PolicyKind.eq_of_suffix h
    · exact (PolicyKind.eq_of_suffix h).symm
  subst hns hkind
  rw [List.append_cancel_right hname]

section Runs

variable (parseIP : Text → Option Address)

/-- What the last event for a policy has left. -/
def lastLeft (events : List PolicyEvent) (owner : ObjectKey × PolicyKind) :
    Option (Policy Text Text) :=
  (events.filter fun e => e.owner = owner).getLast?.bind (·.leaves parseIP)

/-- **Every policy is what the last event for it has left.** -/
lemma represents_runPolicies (events : List PolicyEvent) :
    Table.Represents (fun owner => [policyName owner]) (lastLeft parseIP events)
      (runPolicies parseIP events) := by
  have hsep : Table.Separate fun owner => [policyName owner] := by
    intro o o' k hk hk'
    rw [List.mem_singleton] at hk hk'
    exact policyName_injective (hk.symm.trans hk')
  induction events using List.reverseRecOn with
  | nil => exact Table.Represents.empty
  | append_singleton events e ih =>
    have hcells : lastLeft parseIP (events ++ [e]) =
        Function.update (lastLeft parseIP events) e.owner (e.leaves parseIP) := by
      funext owner
      by_cases howner : owner = e.owner
      · subst howner
        simp [lastLeft, List.filter_append]
      · rw [Function.update_of_ne howner]
        simp [lastLeft, List.filter_append, Ne.symm howner]
    rw [hcells]
    have hrun : runPolicies parseIP (events ++ [e]) =
        (runPolicies parseIP events).assign [policyName e.owner] (e.leaves parseIP) := by
      simp [runPolicies, Table.assign]
    rw [hrun]
    exact ih.assign hsep e.owner (e.leaves parseIP)

variable {parseIP}

/-- Every policy of a cache selects by its name. -/
lemma podSelector_policyOf {operatorIP : Text} {vc : VinylCache} {kind : PolicyKind}
    {policy : Policy Text Text} (h : policyOf parseIP operatorIP vc kind = some policy) :
    policy.podSelector = [(labelApp, vc.name)] := by
  cases kind with
  | traffic | invalidation | agent =>
    obtain rfl := Option.some.inj h
    rfl
  | exporter =>
    obtain ⟨exp, -, rfl⟩ := Option.map_eq_some_iff.1 h
    rfl
  | tracer =>
    obtain ⟨-, hsome⟩ := Option.ite_none_right_eq_some.1 h
    obtain rfl := Option.some.inj hsome
    rfl

/-- So does every policy that is there. -/
lemma podSelector_lastLeft {events : List PolicyEvent} {owner : ObjectKey × PolicyKind}
    {policy : Policy Text Text} (h : lastLeft parseIP events owner = some policy) :
    policy.podSelector = [(labelApp, owner.1.name)] := by
  obtain ⟨e, hlast, hleaves⟩ := Option.bind_eq_some_iff.1 h
  have howner : e.owner = owner := by
    simpa using (List.mem_filter.1 (List.mem_of_getLast? hlast)).2
  subst howner
  cases e with
  | applied kind vc operatorIP => exact podSelector_policyOf hleaves
  | collected kind key => cases hleaves

/-- The policies of a reconciled cache are those of its resource. -/
lemma lastLeft_of_reconciled {events : List PolicyEvent} {vc : VinylCache} {operatorIP : Text}
    (h : Reconciled events vc operatorIP) (kind : PolicyKind) :
    lastLeft parseIP events (cacheKey vc, kind) = policyOf parseIP operatorIP vc kind := by
  rw [lastLeft, h kind]
  rfl

variable {events : List PolicyEvent} {vc : VinylCache} {operatorIP : Text}

/-- **The policies that select the pods of a reconciled cache** are its own ones. -/
lemma selecting_iff (h : Reconciled events vc operatorIP)
    (hlabel : podLabels vc labelApp = some vc.name) (policy : Policy Text Text) :
    Selecting ObjectKey.namespace_ (runPolicies parseIP events) vc.namespace_ (podLabels vc)
      policy ↔
      ∃ kind, policyOf parseIP operatorIP vc kind = some policy := by
  have hstore := represents_runPolicies parseIP events
  constructor
  · rintro ⟨key, hns, hkey, hselects⟩
    obtain ⟨⟨⟨ns, c⟩, kind⟩, hname, hleft⟩ := hstore.eq_some_iff.1 hkey
    rw [List.mem_singleton.1 hname] at hns
    -- the label of the pods is the name of one cache only
    rw [podSelector_lastLeft hleft] at hselects
    have hc : vc.name = c :=
      Option.some.inj (hlabel.symm.trans (hselects _ List.mem_cons_self))
    change ns = vc.namespace_ at hns
    subst hns hc
    exact ⟨kind, (lastLeft_of_reconciled h kind).symm.trans hleft⟩
  · rintro ⟨kind, hpolicy⟩
    refine ⟨policyName (cacheKey vc, kind), rfl, ?_, ?_⟩
    · exact hstore.eq_some_iff.2 ⟨(cacheKey vc, kind), List.mem_singleton.2 rfl,
        (lastLeft_of_reconciled h kind).trans hpolicy⟩
    · rw [podSelector_policyOf hpolicy]
      exact selects_app_iff.2 hlabel

end Runs

/-! ## Who gets through -/

/-- The connection comes from the operator, as far as the policies can tell: from a namespace with
its label, or from its address. -/
def FromOperator (parseIP : Text → Option Address) (operatorIP : Text) (c : Connection Text Text) :
    Prop :=
  (∃ labels, c.namespaceLabels = some labels ∧
    labels operatorNamespaceLabel = some ("true" : Text)) ∨
  parseIP operatorIP = some c.address

section Admits

variable {parseIP : Text → Option Address} {operatorIP : Text} {vc : VinylCache}
  {c : Connection Text Text}

/-- **The block of one host** contains that host only, in either family. -/
lemma exists_contains_singleHostCIDR_iff {ip : Text} {address : Address} :
    (∃ block, singleHostCIDR parseIP ip = some block ∧ block.Contains address) ↔
      parseIP ip = some address := by
  unfold singleHostCIDR
  cases parseIP ip with
  | none => simp
  | some host =>
    cases host with
    | v4 bits => simp [Block.contains_v4_iff, eq_comm]
    | v6 bits => simp [Block.contains_v6_iff, eq_comm]

/-- The peers of the operator match what comes from it. -/
lemma exists_operatorPeer_iff :
    (∃ peer ∈ operatorPeers parseIP operatorIP, peer.Matches c) ↔
      FromOperator parseIP operatorIP c := by
  rw [operatorPeers, List.exists_mem_cons_iff, FromOperator,
    ← @exists_contains_singleHostCIDR_iff _ operatorIP]
  refine or_congr (exists_congr fun labels => and_congr_right fun _ => ?_) ?_
  · exact List.forall_mem_singleton
  · cases singleHostCIDR parseIP operatorIP with
    | none => simp
    | some block => simp [Peer.Matches]

/-- What a policy of a cache admits. -/
lemma admits_ingressPolicy {sources : List (Peer Text Text)} {p : ℤ} :
    (ingressPolicy vc sources p).Admits c ↔
      (sources = [] ∨ ∃ peer ∈ sources, peer.Matches c) ∧ c.protocol = .tcp ∧ c.port = p := by
  simp [Policy.Admits, ingressPolicy, Rule.Admits]

variable (parseIP operatorIP vc c) in
/-- The ports that a policy opens, and for whom. -/
def PolicyKind.Opens : PolicyKind → Prop
  | .traffic => c.port = varnishPort
  | .invalidation => c.port = varnishPort ∧ FromOperator parseIP operatorIP c
  | .agent => c.port = agentPort ∧ FromOperator parseIP operatorIP c
  | .exporter => c.port ∈ exporterPorts vc.spec
  | .tracer => c.port ∈ tracerPorts vc.spec

/-- **What the policy of each kind admits**, if there is one. -/
lemma exists_policyOf_admits_iff (kind : PolicyKind) :
    (∃ policy, policyOf parseIP operatorIP vc kind = some policy ∧ policy.Admits c) ↔
      c.protocol = .tcp ∧ kind.Opens parseIP operatorIP vc c := by
  have hpeers : operatorPeers parseIP operatorIP ≠ [] := List.cons_ne_nil _ _
  cases kind with
  | traffic => simp [policyOf, trafficNetworkPolicy, admits_ingressPolicy, PolicyKind.Opens]
  | invalidation =>
    simp only [policyOf, invalidationNetworkPolicy, Option.some.injEq, exists_eq_left',
      admits_ingressPolicy, hpeers, false_or, exists_operatorPeer_iff, PolicyKind.Opens]
    tauto
  | agent =>
    simp only [policyOf, agentNetworkPolicy, Option.some.injEq, exists_eq_left',
      admits_ingressPolicy, hpeers, false_or, exists_operatorPeer_iff, PolicyKind.Opens]
    tauto
  | exporter =>
    simp only [policyOf, exporterNetworkPolicy, PolicyKind.Opens, exporterPorts]
    cases enabledExporter vc.spec with
    | none => simp
    | some exp => simp [admits_ingressPolicy]
  | tracer =>
    simp only [policyOf, tracerNetworkPolicy, PolicyKind.Opens, tracerPorts]
    split_ifs with henabled
    · simp [admits_ingressPolicy]
    · simp

end Admits

/-- A cache with tracing. -/
def tracedShop : VinylCache where
  namespace_ := "prod"
  name := "shop"
  spec := { tracing := { enabled := true } }

/-- A cache whose name is that of a policy of the other one. -/
def trafficShop : VinylCache := { tracedShop with name := "shop-traffic" }

/-- Calls for two caches, one of which is then deleted. -/
def shopPolicies : List PolicyEvent :=
  [.applied .traffic trafficShop "10.0.0.1", .applied .traffic tracedShop "10.0.0.1",
    .applied .invalidation tracedShop "10.0.0.1", .applied .agent tracedShop "10.0.0.1",
    .applied .agent trafficShop "10.0.0.1", .applied .exporter tracedShop "10.0.0.1",
    .collected .traffic ⟨"prod", "shop-traffic"⟩, .applied .tracer tracedShop "10.0.0.1"]

/-- An address of IPv4, octet by octet. -/
def parseIPv4 (ip : Text) : Option Address :=
  if Authority.isIPv4 ip then
    some (.v4 ((ip.splitOn '.').foldl
      (fun bits octet => bits <<< 8 ||| BitVec.ofInt 32 ((Text.atoi octet).getD 0)) 0))
  else none

/-- A connection from outside of the cluster, or from the node of the pod, to the port of the
agent. -/
def toAgent (fromNode : Bool) : Connection Text Text where
  namespaceLabels := none
  address := .v4 0xc0000207
  fromNode := fromNode
  protocol := .tcp
  port := agentPort

end CloudVinyl.Controller
