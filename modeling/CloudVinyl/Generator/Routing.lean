import CloudVinyl.Generator.Relay
import Mathlib.Data.List.Chain

set_option relaxedAutoImplicit false
set_option autoImplicit false

/-!
# The way of a request through the cluster

A request enters a cluster at some pod, which may relay it to a peer, which may relay it again. All
pods run generated VCL with the same list of peers; the rest of their configuration, what their
varnishd decides and what their snippets do may differ from pod to pod.

A pod knows a relayed request by its shard header together with its source: the header alone can
be forged. So a pod that is not in the list of peers itself is not believed, and the peer it
relays to relays once more.

## Main definitions

* `Generator.Hop` — a request at a pod; `Generator.Hop.relays` — it is sent on to a peer.
* `Generator.Journey` — the hops of a request one after the other.

## Main results

* `Generator.journey_relays` — a request is relayed at most twice, and the snippets of the owner
  do not run where it is relayed, if no snippet chooses a peer.
-/

namespace CloudVinyl.Generator

open Vcl

variable {W : Type}

/-- A request that arrives at a pod: the address of the pod, what its VCL was generated from, its
varnishd, and the state in which `vcl_recv` finds the request. -/
structure Hop (W : Type) where
  ip : Text
  go : Go
  input : Input
  varnishd : Varnishd Upstream W
  state : State Upstream W

namespace Hop

variable (h : Hop W)

/-- The template data of the pod. -/
def data : TemplateData := buildTemplateData h.go h.input

/-- What becomes of the request at the pod. -/
def visit : Visit Upstream := Vcl.visit h.varnishd (program h.data) h.state

/-- The request is sent on to a peer. -/
def relays : Bool := h.visit.sent.any (·.backend.isPeer)

/-- The request comes with the shard header. -/
def hasShard : Bool := (h.state.get .req shardHeader).isSome

/-- The pod runs generated VCL with a cluster of the peers `L`, and varnishd does with it what the
VCL asks for: the access list holds the peers, the cluster director chooses one of them and the
default director none. Snippets do not touch the shard header. The request is not a fragment. -/
structure Conforms (L : List Text) : Prop where
  cluster : h.data.hasCluster = true
  peers : h.data.peerDefs.map (·.ip) = L
  /-- The resource requires at least one backend. -/
  backends : h.input.spec.backends ≠ []
  acl : ∀ a, h.varnishd.inAcl "vinyl_cluster_peers" a = true ↔ a ∈ h.data.peerDefs.map (·.ip)
  director : ∀ s, ∃ p ∈ h.data.peerDefs, h.varnishd.select (peerSelection h.data) s = .peer p.ip
  origin : ∀ s, (h.varnishd.select h.data.defaultBackendHint s).isPeer = false
  snippets : Transparent h.varnishd
  esiLevel : h.state.esiLevel = 0

end Hop

/-- The second hop is that of the request which the first one sent on. Of the headers only the one
that matters here is followed. -/
def Follows (h h' : Hop W) : Prop :=
  ∃ x, h.visit.sent = some x ∧ x.backend = .peer h'.ip ∧ h'.state.client = h.ip ∧
    h'.state.method = x.method ∧ h'.state.get .req shardHeader = x.http (fieldName shardHeader)

/-- Whether one hop follows another can be decided. -/
instance (h h' : Hop W) : Decidable (Follows h h') :=
  decidable_of_iff (h.visit.sent.any (fun x => decide (x.backend = .peer h'.ip ∧
    h'.state.client = h.ip ∧ h'.state.method = x.method ∧
    h'.state.get .req shardHeader = x.http (fieldName shardHeader))) = true)
    (by simp only [Option.any_eq_true, decide_eq_true_eq]; rfl)

/-- The hops of a request that is neither a `PURGE` nor a `BAN`, from where it enters. -/
structure Journey (L : List Text) (hops : List (Hop W)) : Prop where
  conforms : ∀ h ∈ hops, h.Conforms L
  follows : hops.IsChain Follows
  method : ∀ h ∈ hops.head?, h.state.method ≠ ("PURGE" : Text) ∧ h.state.method ≠ ("BAN" : Text)

/-- The number of times that a request is relayed. -/
def relayCount (hops : List (Hop W)) : ℕ := hops.countP (·.relays)

/-! ## One hop -/

/-- The VCL has a default backend. -/
lemma defaultBackendHint_ne_nil (go : Go) {input : Input} (h : input.spec.backends ≠ []) :
    (buildTemplateData go input).defaultBackendHint ≠ [] := by
  obtain ⟨b, l, hb⟩ := List.exists_cons_of_ne_nil h
  have hhint : (buildTemplateData go input).defaultBackendHint =
      defaultBackendHint (backendGroup go input.endpoints b) := by
    simp only [buildTemplateData, hb, List.map_cons]
  rw [hhint]
  unfold defaultBackendHint
  -- every form of the call ends in a parenthesis
  split
  · exact List.append_ne_nil_of_right_ne_nil _ (by decide)
  · split
    · exact List.append_ne_nil_of_right_ne_nil _ (by decide)
    · exact List.append_ne_nil_of_right_ne_nil _ (by decide)
  all_goals exact List.append_ne_nil_of_right_ne_nil _ (by decide)

namespace Hop

variable {h : Hop W} {L : List Text}

/-- A request is marked if it has the shard header and comes from a peer. -/
lemma Conforms.marked_iff (hc : h.Conforms L) :
    Marked h.varnishd h.state ↔ h.hasShard = true ∧ h.state.client ∈ L := by
  rw [Marked, hc.acl, hc.peers, hasShard]

section Step

variable (hc : h.Conforms L) (hpurge : h.state.method ≠ ("PURGE" : Text))
  (hban : h.state.method ≠ ("BAN" : Text))

include hc hpurge hban

/-- What a pod sends on that does not believe the request to come from a peer. -/
lemma sent_of_not_marked (hm : ¬(h.hasShard = true ∧ h.state.client ∈ L)) :
    ∃ x q, h.visit.sent = some x ∧ x.backend = .peer q ∧ q ∈ L ∧ x.method = h.state.method ∧
      (x.http (fieldName shardHeader)).isSome = true ∧ ∀ p ∈ ownerPlaces, p ∉ h.visit.ran := by
  rw [← hc.marked_iff] at hm
  obtain ⟨x, u, hx, hback, hmethod, hshard, hran⟩ :=
    visit_of_not_marked hc.cluster hc.snippets hpurge hban hc.esiLevel hm
  obtain ⟨p, hp, hselect⟩ := hc.director u
  refine ⟨x, p.ip, hx, hback.trans hselect, ?_, hmethod, hshard, hran⟩
  rw [← hc.peers]
  exact List.mem_map_of_mem hp

/-- A pod relays exactly the requests that did not come from a peer with the shard header. -/
theorem relays_iff (hs : ChoosesNoPeer h.varnishd) :
    h.relays = true ↔ ¬(h.hasShard = true ∧ h.state.client ∈ L) := by
  constructor
  · intro hr hm
    obtain ⟨x, hx, hpeer⟩ := (Option.any_eq_true _ _).1 hr
    have hoff := visit_of_marked hs hc.cluster hpurge hban hc.esiLevel
      (defaultBackendHint_ne_nil h.go hc.backends) hc.origin (hc.marked_iff.2 hm) x hx
    exact Bool.false_ne_true (hoff.symm.trans hpeer)
  · intro hm
    obtain ⟨x, q, hx, hback, -⟩ := sent_of_not_marked hc hpurge hban hm
    unfold relays
    rw [hx, Option.any_some, hback]
    rfl

/-- What the next pod finds: the shard header, the same method, and a pod as its source. -/
lemma next_of_follows (hs : ChoosesNoPeer h.varnishd) {h' : Hop W} (hf : Follows h h') :
    h.relays = true ∧ h'.ip ∈ L ∧ h'.hasShard = true ∧ h'.state.client = h.ip ∧
      h'.state.method = h.state.method := by
  obtain ⟨x, hx, hback, hclient, hmethod, hget⟩ := hf
  have hr : h.relays = true := by
    unfold relays
    rw [hx, Option.any_some, hback]
    rfl
  obtain ⟨y, q, hy, hyback, hq, hym, hyshard, -⟩ :=
    sent_of_not_marked hc hpurge hban ((relays_iff hc hpurge hban hs).1 hr)
  obtain rfl : x = y := Option.some.inj (hx.symm.trans hy)
  obtain rfl : q = h'.ip := Upstream.peer.inj (hyback.symm.trans hback)
  exact ⟨hr, hq, by rwa [hasShard, hget], hclient, hmethod.trans hym⟩

end Step

end Hop

/-! ## Journeys -/

section Journeys

variable {h h' : Hop W} {hops : List (Hop W)} {L : List Text}

/-- A hop relays once at most. -/
lemma relayCount_cons_le (h : Hop W) (hops : List (Hop W)) :
    relayCount (h :: hops) ≤ relayCount hops + 1 := by
  unfold relayCount
  rw [List.countP_cons]
  split_ifs <;> omega

/-- The journey from the second hop on, and what the second hop finds. -/
lemma Journey.tail (hj : Journey L (h :: h' :: hops)) (hs : ChoosesNoPeer h.varnishd) :
    Journey L (h' :: hops) ∧ h.relays = true ∧ h'.ip ∈ L ∧ h'.hasShard = true ∧
      h'.state.client = h.ip := by
  obtain ⟨hpurge, hban⟩ := hj.method h rfl
  obtain ⟨hfollows, hchain⟩ := List.isChain_cons_cons.1 hj.follows
  obtain ⟨hr, hip, hshard, hclient, hmethod⟩ :=
    Hop.next_of_follows (hj.conforms h (by simp)) hpurge hban hs hfollows
  refine ⟨⟨fun e he => hj.conforms e (by simp [he]), hchain, ?_⟩, hr, hip, hshard, hclient⟩
  intro e he
  obtain rfl : h' = e := by simpa using he
  rw [hmethod]
  exact ⟨hpurge, hban⟩

variable (hj : Journey L hops) (hs : ∀ h ∈ hops, ChoosesNoPeer h.varnishd)

include hj hs

/-- A request that a peer sent with the shard header stays where it is. -/
lemma Journey.relayCount_of_marked {e : Hop W} (he : e ∈ hops.head?) (hclient : e.state.client ∈ L)
    (hshard : e.hasShard = true) : relayCount hops = 0 := by
  obtain ⟨rest, rfl⟩ : ∃ rest, hops = e :: rest := List.head?_eq_some_iff.1 he
  obtain ⟨hpurge, hban⟩ := hj.method e rfl
  have hr : ¬e.relays = true := fun hr =>
    (Hop.relays_iff (hj.conforms e (by simp)) hpurge hban (hs e (by simp))).1 hr ⟨hshard, hclient⟩
  cases rest with
  | nil => simp [relayCount, hr]
  | cons h' rest => exact absurd (hj.tail (hs e (by simp))).2.1 hr

/-- A peer is believed by the next pod. -/
lemma Journey.relayCount_of_peer {e : Hop W} (he : e ∈ hops.head?) (hip : e.ip ∈ L) :
    relayCount hops ≤ 1 := by
  obtain ⟨rest, rfl⟩ : ∃ rest, hops = e :: rest := List.head?_eq_some_iff.1 he
  have hle := relayCount_cons_le e rest
  cases rest with
  | nil => exact hle
  | cons h' rest =>
    obtain ⟨hj', -, -, hshard, hclient⟩ := hj.tail (hs e (by simp))
    have hzero := hj'.relayCount_of_marked (fun h hh => hs h (List.mem_cons_of_mem _ hh)) rfl
      (hclient ▸ hip) hshard
    omega

/-- **A request is relayed twice at most.** -/
lemma Journey.relayCount_le : relayCount hops ≤ 2 := by
  match hops, hj, hs with
  | [], _, _ => simp [relayCount]
  | [e], _, _ =>
    have hle := relayCount_cons_le e []
    have hnil : relayCount ([] : List (Hop W)) = 0 := rfl
    omega
  | e :: h' :: rest, hj, hs =>
    obtain ⟨hj', -, hip, -, -⟩ := hj.tail (hs e (by simp))
    have hone := hj'.relayCount_of_peer (fun h hh => hs h (List.mem_cons_of_mem _ hh)) rfl hip
    have hle := relayCount_cons_le e (h' :: rest)
    omega

/-- Where a request is relayed, the snippets of the owner do not run. -/
lemma Journey.ran_of_relays :
    ∀ h ∈ hops, h.relays = true → ∀ p ∈ ownerPlaces, p ∉ h.visit.ran := by
  -- the hop is the first one, or one of the journey from the second hop on
  induction hops with
  | nil => exact fun h hh => absurd hh List.not_mem_nil
  | cons e rest ih =>
    intro h hh hr
    rcases List.mem_cons.1 hh with rfl | hh
    · obtain ⟨hpurge, hban⟩ := hj.method h rfl
      have hc := hj.conforms h (by simp)
      obtain ⟨-, -, -, -, -, -, -, hran⟩ := Hop.sent_of_not_marked hc hpurge hban
        ((Hop.relays_iff hc hpurge hban (hs h (by simp))).1 hr)
      exact hran
    · cases rest with
      | nil => exact absurd hh List.not_mem_nil
      | cons h' rest =>
        exact ih (hj.tail (hs e (by simp))).1 (fun h hh => hs h (List.mem_cons_of_mem _ hh)) h hh hr

end Journeys

/-- **A request does not loop in the cluster.** If the snippets choose no peer, a request is
relayed at most twice, at most once from a pod that is a peer itself, and not at all if a peer
sent it with the shard header. The header of anyone else is of no use: such a request is relayed.
Where a request is relayed, none of the snippets of the owner run.

**Proof sketch.** A pod relays exactly the requests that are not marked, and then to a peer with
the header (`Hop.relays_iff`, `Hop.next_of_follows`). So the pod behind a peer finds a marked
request, and the pod behind any pod is a peer. -/
theorem journey_relays {L : List Text} {hops : List (Hop W)} (hj : Journey L hops)
    (hs : ∀ h ∈ hops, ChoosesNoPeer h.varnishd) :
    relayCount hops ≤ 2 ∧
    (∀ e ∈ hops.head?, e.ip ∈ L → relayCount hops ≤ 1) ∧
    (∀ e ∈ hops.head?, e.state.client ∈ L → e.hasShard = true → relayCount hops = 0) ∧
    (∀ e ∈ hops.head?, e.state.client ∉ L → e.hasShard = true → e.relays = true) ∧
    ∀ h ∈ hops, h.relays = true → ∀ p ∈ ownerPlaces, p ∉ h.visit.ran := by
  refine ⟨hj.relayCount_le hs, fun e he => hj.relayCount_of_peer hs he,
    fun e he => hj.relayCount_of_marked hs he, fun e he hclient _ => ?_, hj.ran_of_relays hs⟩
  obtain ⟨hpurge, hban⟩ := hj.method e he
  have hmem : e ∈ hops := List.mem_of_mem_head? he
  exact (Hop.relays_iff (hj.conforms e hmem) hpurge hban (hs e hmem)).2 fun hm => hclient hm.2

/-! ## A cluster of two peers -/

/-- The addresses of the two peers. -/
def twoPeers : List Text := ["10.0.0.10", "10.0.0.11"]

/-- A cache with one backend, the two peers and a snippet in `vcl_recv`. -/
def twoPeersInput (snippet : Text) : Input where
  spec :=
    { replicas := 2
      backends := [{ name := "app" }]
      cluster := { enabled := true }
      vcl := { snippets := { vclRecv := snippet } } }
  peers := [⟨"shop_0", "10.0.0.10", 8080⟩, ⟨"shop_1", "10.0.0.11", 8080⟩]
  endpoints := fun _ => []
  namespace_ := "prod"
  name := "shop"
  operatorIP := []

/-- What a snippet does to a request. -/
abbrev SnippetEffect := State Upstream Unit → State Upstream Unit × Option Action

/-- A varnishd whose cluster director always chooses the second peer. -/
def twoPeersVarnishd (effect : SnippetEffect) : Varnishd Upstream Unit where
  inAcl _ a := twoPeers.contains a
  test _ _ := false
  value text _ := text
  select text _ :=
    if text = "director_shop.backend(by=URL)" then .peer "10.0.0.11" else .origin text
  effect _ _ := ()
  insert _ := effect
  lookup _ := .miss
  answered _ := true
  hopByHop _ := false

/-- A request from `client` that arrives at the pod `ip`. -/
def twoPeersHop (snippet : Text) (effect : SnippetEffect) (ip client : Text)
    (shard : Option Text) : Hop Unit where
  ip := ip
  go := ⟨fun _ => [], fun _ => [], id⟩
  input := twoPeersInput snippet
  varnishd := twoPeersVarnishd effect
  state :=
    { method := "GET"
      client := client
      esiLevel := 0
      retries := 0
      http := fun o h => if o = .req ∧ h = fieldName shardHeader then shard else none
      hint := .origin []
      backend := .origin []
      world := () }

/-- The hops of the samples conform. -/
lemma twoPeersHop_conforms {effect : SnippetEffect}
    (heffect : ∀ s o, (effect s).1.get o shardHeader = s.get o shardHeader)
    (snippet ip client : Text) (shard : Option Text) :
    (twoPeersHop snippet effect ip client shard).Conforms twoPeers where
  cluster := rfl
  peers := rfl
  backends := List.cons_ne_nil _ _
  acl _ := List.contains_iff_mem
  director _ := by
    have hselect : peerSelection (twoPeersHop snippet effect ip client shard).data =
        "director_shop.backend(by=URL)" := by rfl
    refine ⟨peerDef ⟨"shop_1", "10.0.0.11", 8080⟩,
      List.mem_cons_of_mem _ List.mem_cons_self, ?_⟩
    rw [hselect]
    rfl
  origin _ := by
    have hhint : (twoPeersHop snippet effect ip client shard).data.defaultBackendHint =
        "app.backend(by=URL)" := by rfl
    rw [hhint]
    rfl
  snippets := ⟨fun _ => heffect, rfl⟩
  esiLevel := rfl

/-- The hops of a request, given by the pod, the client and the shard header. -/
def twoPeersHops (snippet : Text) (effect : SnippetEffect)
    (arrivals : List (Text × Text × Option Text)) : List (Hop Unit) :=
  arrivals.map fun a => twoPeersHop snippet effect a.1 a.2.1 a.2.2

/-- The hops of the samples are a journey if each follows the one before. -/
lemma twoPeersHops_journey {effect : SnippetEffect}
    (heffect : ∀ s o, (effect s).1.get o shardHeader = s.get o shardHeader) {snippet : Text}
    {arrivals : List (Text × Text × Option Text)}
    (hchain : (twoPeersHops snippet effect arrivals).IsChain Follows) :
    Journey twoPeers (twoPeersHops snippet effect arrivals) := by
  have hhop : ∀ h ∈ twoPeersHops snippet effect arrivals,
      ∃ ip client shard, h = twoPeersHop snippet effect ip client shard := by
    intro h hh
    obtain ⟨a, -, rfl⟩ := List.mem_map.1 hh
    exact ⟨_, _, _, rfl⟩
  refine ⟨fun h hh => ?_, hchain, fun h hh => ?_⟩
  · obtain ⟨ip, client, shard, rfl⟩ := hhop h hh
    exact twoPeersHop_conforms heffect snippet ip client shard
  · obtain ⟨ip, client, shard, rfl⟩ := hhop h (List.mem_of_mem_head? hh)
    have hget : ("GET" : Text) ≠ ("PURGE" : Text) ∧ ("GET" : Text) ≠ ("BAN" : Text) := by decide
    exact hget

/-- A snippet that drops the cookies. -/
def dropCookies : SnippetEffect := fun s => (s.put .req "Cookie" none, none)

/-- A client forges the header at a pod that is not a peer, and the request is relayed twice. -/
def forgedHops : List (Hop Unit) :=
  twoPeersHops "unset req.http.Cookie;" dropCookies
    [("10.0.0.99", "203.0.113.7", some "yes"), ("10.0.0.11", "10.0.0.99", some "\"1\""),
      ("10.0.0.11", "10.0.0.11", some "\"1\"")]

/-- A client that forges the header has its request relayed twice. -/
theorem forgedHops_relays :
    relayCount forgedHops = 2 ∧
      ∀ h ∈ forgedHops, h.relays = true → ∀ p ∈ ownerPlaces, p ∉ h.visit.ran := by
  refine ⟨by decide +kernel, (journey_relays (twoPeersHops_journey ?_ ?_) ?_).2.2.2.2⟩
  · exact fun s o => s.get_put_of_ne .req o none (by decide)
  · decide +kernel
  · intro h hh
    obtain ⟨a, -, rfl⟩ := List.mem_map.1 hh
    exact ⟨fun _ _ hs => hs, fun _ _ hs => hs⟩

/-- A snippet that hands every request to the cluster director. -/
def toDirector : SnippetEffect := fun s => ({ s with hint := .peer "10.0.0.11" }, some .pass)

/-- The owner of a request runs such a snippet. -/
def loopingHops : List (Hop Unit) :=
  twoPeersHops "set req.backend_hint = director_shop.backend(by=URL);\nreturn(pass);" toDirector
    [("10.0.0.10", "203.0.113.7", none), ("10.0.0.11", "10.0.0.10", some "\"1\""),
      ("10.0.0.11", "10.0.0.11", none)]

/-- **A snippet that chooses a peer makes a request go on.** The snippet does not touch the shard
header, but the pod that runs it relays the request, and the peer relays it again. -/
theorem loopingHops_relays :
    Journey twoPeers loopingHops ∧ relayCount loopingHops = 3 ∧
      (loopingHops.any fun h => h.relays && h.visit.ran.contains "vcl_recv") = true := by
  refine ⟨twoPeersHops_journey (fun s o => rfl) ?_, ?_, ?_⟩
  · decide +kernel
  · decide +kernel
  · decide +kernel

end CloudVinyl.Generator
