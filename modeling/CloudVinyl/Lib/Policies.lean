import CloudVinyl.Lib.Table
import Mathlib.Data.Int.Notation

set_option relaxedAutoImplicit false
set_option autoImplicit false

/-!
# Network policies

Which connections reach a pod, by the rules that are documented for NetworkPolicies. A policy
selects pods of its namespace by their labels. A pod that no policy selects takes all connections;
once a policy selects it, it takes those that come from its own node, and those that a rule of one
of these policies admits. The policies add up, and none of them can take back what another one
admits.

Labels are entries of a table. Policies are stored under keys of any type that have a namespace.

## Main definitions

* `Policies.Address`, `Policies.Block` — addresses, and blocks of them.
* `Policies.Peer`, `Policies.Rule`, `Policies.Policy` — policies for incoming connections.
* `Policies.Connection` — where a connection comes from, and where it goes.
* `Policies.Admits` — the connections that a pod takes, for the policies in a table.

## Main results

* `Policies.Block.contains_v4_iff`, `Policies.Block.contains_v6_iff` — a block that is as long as
  its address is that of one host.
* `Policies.admits_iff` — the connections that a pod takes, if the policies that select it are
  known.
-/

namespace Policies

variable {κ N K V : Type}

/-! ## Addresses -/

/-- An address of one of the two families. -/
inductive Address where
  | v4 (bits : BitVec 32)
  | v6 (bits : BitVec 128)
  deriving DecidableEq

/-- The addresses that begin with the same bits as this one, as many of them as its length says. -/
structure Block where
  address : Address
  length : ℕ

/-- The address is in the block. -/
def Block.Contains (block : Block) (address : Address) : Prop :=
  match block.address, address with
  | .v4 x, .v4 y => x >>> (32 - block.length) = y >>> (32 - block.length)
  | .v6 x, .v6 y => x >>> (128 - block.length) = y >>> (128 - block.length)
  | _, _ => False

/-- **A block of 32 bits** contains one address of IPv4. -/
lemma Block.contains_v4_iff (x : BitVec 32) (address : Address) :
    Block.Contains ⟨.v4 x, 32⟩ address ↔ address = .v4 x := by
  cases address with
  | v4 y => simp [Block.Contains, eq_comm]
  | v6 y => simp [Block.Contains]

/-- **A block of 128 bits** contains one address of IPv6. -/
lemma Block.contains_v6_iff (x : BitVec 128) (address : Address) :
    Block.Contains ⟨.v6 x, 128⟩ address ↔ address = .v6 x := by
  cases address with
  | v4 y => simp [Block.Contains]
  | v6 y => simp [Block.Contains, eq_comm]

/-! ## Policies -/

/-- The protocols that a port can be one of. -/
inductive Protocol where
  | tcp
  | udp
  | sctp
  deriving DecidableEq

/-- The pods of namespaces with the given labels, or a block of addresses. -/
inductive Peer (K V : Type) where
  | namespaceSelector (matchLabels : List (K × V))
  | ipBlock (block : Block)

/-- Connections from one of the peers to one of the ports; all sources without a peer, and all
ports without a port. -/
structure Rule (K V : Type) where
  sources : List (Peer K V)
  ports : List (Protocol × ℤ)

/-- A policy for the incoming connections of the pods with the given labels. -/
structure Policy (K V : Type) where
  podSelector : List (K × V)
  ingress : List (Rule K V)

/-- The ports that the rules of a policy name. -/
def Policy.ingressPorts (policy : Policy K V) : List ℤ :=
  policy.ingress.flatMap fun rule => rule.ports.map Prod.snd

/-! ## Connections -/

/-- A connection to a pod: the labels of the namespace that it comes from, if it comes from a pod,
its address, whether it comes from the node of the pod, and where it goes. -/
structure Connection (K V : Type) where
  namespaceLabels : Option (Table K V)
  address : Address
  fromNode : Bool
  protocol : Protocol
  port : ℤ

/-- The connection comes from the peer. -/
def Peer.Matches (c : Connection K V) : Peer K V → Prop
  | .namespaceSelector matchLabels =>
    ∃ labels, c.namespaceLabels = some labels ∧ Table.Selects matchLabels labels
  | .ipBlock block => block.Contains c.address

/-- The rule admits the connection. -/
def Rule.Admits (rule : Rule K V) (c : Connection K V) : Prop :=
  (rule.sources = [] ∨ ∃ peer ∈ rule.sources, peer.Matches c) ∧
    (rule.ports = [] ∨ (c.protocol, c.port) ∈ rule.ports)

/-- A rule of the policy admits the connection. -/
def Policy.Admits (policy : Policy K V) (c : Connection K V) : Prop :=
  ∃ rule ∈ policy.ingress, rule.Admits c

section Store

variable (namespaceOf : κ → N) (store : Table κ (Policy K V)) (namespace_ : N) (labels : Table K V)

/-- The policy is one of those that select the pod with the given labels. -/
def Selecting (policy : Policy K V) : Prop :=
  ∃ key, namespaceOf key = namespace_ ∧ store key = some policy ∧
    Table.Selects policy.podSelector labels

/-- A pod in the namespace with the given labels takes the connection. -/
def Admits (c : Connection K V) : Prop :=
  c.fromNode = true ∨ (∀ policy, ¬Selecting namespaceOf store namespace_ labels policy) ∨
    ∃ policy, Selecting namespaceOf store namespace_ labels policy ∧ policy.Admits c

variable {namespaceOf store namespace_ labels}

/-- **The policies that select the pod decide**, if there is one. -/
lemma admits_iff {S : Policy K V → Prop}
    (h : ∀ policy, Selecting namespaceOf store namespace_ labels policy ↔ S policy)
    (hsome : ∃ policy, S policy) (c : Connection K V) :
    Admits namespaceOf store namespace_ labels c ↔
      c.fromNode = true ∨ ∃ policy, S policy ∧ policy.Admits c := by
  obtain ⟨policy, hpolicy⟩ := hsome
  constructor
  · rintro (hnode | hnone | ⟨policy', hsel, hadmits⟩)
    · exact .inl hnode
    · exact absurd ((h policy).2 hpolicy) (hnone policy)
    · exact .inr ⟨policy', (h policy').1 hsel, hadmits⟩
  · rintro (hnode | ⟨policy', hpolicy', hadmits⟩)
    · exact .inl hnode
    · exact .inr (.inr ⟨policy', (h policy').2 hpolicy', hadmits⟩)

end Store

end Policies
