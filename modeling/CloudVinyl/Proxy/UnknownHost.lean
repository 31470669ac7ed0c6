import CloudVinyl.Lib.Sorting
import CloudVinyl.Proxy.Routing
import Mathlib.Data.Char
import Mathlib.Data.List.Dedup
import Mathlib.Data.List.Lex

set_option relaxedAutoImplicit false
set_option autoImplicit false

/-!
# Requests for an unknown host

A client in the namespace of a cache reaches its invalidation Service by the bare name, but the
proxy serves all namespaces and routes no bare name. `rejectUnknownHost` of
`internal/proxy/server.go` answers such a request with the hosts that the client may have meant,
which `Suggest` of `internal/proxy/routing.go` finds by a loop over the map of routes. A loop over
a map comes to the keys in any order.

## Main definitions

* `Proxy.Iteration` — an order in which a loop comes to the keys of a map.
* `Proxy.RegisteredRouter.suggest`, `Proxy.rejectUnknownHost` — the hosts and the answer.

## Main results

* `Proxy.mem_suggest_run_iff` — what is suggested after a history.
* `Proxy.rejectUnknownHost_guides` — the answer to a request for a bare name.
-/

namespace CloudVinyl.Proxy

/-- The name of the invalidation Service of a cache. -/
def bareHost (cacheName : Text) : Text := cacheName ++ "-invalidation"

/-- `sort.Strings` -/
def sortStrings : List Text → List Text := (Sorter.stable (id : Text → Text)).run

namespace RegisteredRouter

/-- The condition in the loop of `Suggest`. -/
def suggests (r : RegisteredRouter) (host h : Text) : Bool :=
  (r.routes h).any fun e =>
    host = bareHost e.cacheName && h = bareHost e.cacheName ++ "." ++ e.namespace_

/-- `Suggest`, for the order in which the loop comes to the hosts. -/
def suggest (r : RegisteredRouter) (order : List Text) (host : Text) : List Text :=
  sortStrings (order.filter (r.suggests (stripPort host)))

end RegisteredRouter

/-- What the message says about the hosts that were probably meant. -/
def hint (quote : Text → Text) (hints : List Text) : Text :=
  if hints = [] then []
  else " (the Host must include the namespace, use ".toList ++ Text.join (hints.map quote) " or " ++
    ")"

/-- `rejectUnknownHost`: the status and the message. -/
def rejectUnknownHost (quote : Text → Text) (r : RegisteredRouter) (order : List Text)
    (host : Text) : ℕ × Text :=
  (404, "unknown cache: ".toList ++ host ++ hint quote (r.suggest order host))

/-- An order in which a loop comes to the keys of a map: each of them once. -/
structure Iteration {V : Type} (t : Table Text V) where
  keys : List Text
  nodup : keys.Nodup
  mem_iff : ∀ h, h ∈ keys ↔ (t h).isSome = true

section Suggest

variable {ops : List Op}

/-- A registered cache occurs in the history. -/
lemma exists_key_of_registered {k : CacheKey} (hk : registered ops k = true) :
    ∃ op ∈ ops, op.key = k := by
  unfold registered at hk
  cases hlast : Table.last Op.registration ops k with
  | none =>
    rw [hlast] at hk
    cases hk
  | some b =>
    obtain ⟨op, hop, hsome⟩ := List.exists_of_findSome?_eq_some hlast
    refine ⟨op, List.mem_reverse.1 hop, ?_⟩
    by_contra hne
    rw [Op.registration_of_ne hne] at hsome
    cases hsome

/-- What the map of routes has under a host after a history. -/
lemma routes_run_eq_some_iff {h : Text} {e : RouteEntry} : (run ops).routes h = some e ↔
    ∃ k : CacheKey, k.entry = e ∧ registered ops k = true ∧ h ∈ k.hosts := by
  rw [(tracks_run ops).routes.eq_some_iff]
  refine exists_congr fun k => ?_
  by_cases hreg : registered ops k
  · simp [routeCell, hreg, and_comm]
  · simp [routeCell, hreg]

/-- A loop over the routes after a history comes to finitely many hosts. -/
def iteration (ops : List Op) : Iteration (run ops).routes where
  keys := (ops.flatMap fun op => op.key.hosts).dedup.filter fun h => ((run ops).routes h).isSome
  nodup := (List.nodup_dedup _).filter _
  mem_iff h := by
    rw [List.mem_filter, List.mem_dedup]
    refine and_iff_right_of_imp fun hsome => ?_
    obtain ⟨e, he⟩ := Option.isSome_iff_exists.1 hsome
    obtain ⟨k, -, hk, hh⟩ := routes_run_eq_some_iff.1 he
    obtain ⟨op, hop, rfl⟩ := exists_key_of_registered hk
    exact List.mem_flatMap.2 ⟨op, hop, hh⟩

/-! ## Suggestions -/

/-- Without a colon there is no port. -/
lemma stripPort_of_not_mem {h : Text} (hcolon : ':' ∉ h) : stripPort h = h :=
  withoutPort_iff.1 (.inl ⟨hcolon, rfl⟩)

/-- The host within the cluster is the bare one with the namespace. -/
lemma shortHost_eq_bareHost (ns c : Text) : shortHost ns c = bareHost c ++ "." ++ ns := by
  unfold shortHost bareHost
  rw [List.append_assoc, List.append_assoc, List.append_assoc]
  rfl

/-- The hosts of caches have no port. -/
lemma CacheKey.colon_not_mem_shortHost (k : CacheKey) : ':' ∉ shortHost k.ns k.name := by
  rw [shortHost_eq]
  have hsuffix : ':' ∉ ("-invalidation" : Text) := by decide
  simp only [List.mem_append, List.mem_cons, not_or]
  exact ⟨⟨k.colon_not_mem.2, hsuffix⟩, by decide, k.colon_not_mem.1⟩

/-- The short host of a registered cache is routed to it. -/
lemma lookup_shortHost {k : CacheKey} (hk : registered ops k = true) :
    (run ops).lookup (shortHost k.ns k.name) = some k.entry := by
  rw [lookup_run_eq_some_iff]
  refine ⟨k, rfl, hk, ?_⟩
  rw [stripPort_of_not_mem k.colon_not_mem_shortHost]
  exact List.mem_cons_self

/-- The loop takes the short hosts of the registered caches with the bare name. -/
lemma suggests_run_iff (host h : Text) :
    (run ops).suggests host h = true ↔
      ∃ k : CacheKey, registered ops k = true ∧ bareHost k.name = host ∧
        h = shortHost k.ns k.name := by
  unfold RegisteredRouter.suggests
  rw [Option.any_eq_true]
  constructor
  · rintro ⟨e, he, htest⟩
    obtain ⟨k, rfl, hk, -⟩ := routes_run_eq_some_iff.1 he
    rw [Bool.and_eq_true, decide_eq_true_eq, decide_eq_true_eq] at htest
    exact ⟨k, hk, htest.1.symm, by rw [shortHost_eq_bareHost]; exact htest.2⟩
  · rintro ⟨k, hk, rfl, rfl⟩
    refine ⟨k.entry, routes_run_eq_some_iff.2 ⟨k, rfl, hk, List.mem_cons_self⟩, ?_⟩
    rw [Bool.and_eq_true, decide_eq_true_eq, decide_eq_true_eq]
    exact ⟨rfl, shortHost_eq_bareHost _ _⟩

/-- **What is suggested** after a history, in whatever order the loop goes. -/
lemma mem_suggest_run_iff (order : Iteration (run ops).routes) (host h : Text) :
    h ∈ (run ops).suggest order.keys host ↔
      ∃ k : CacheKey, registered ops k = true ∧ bareHost k.name = stripPort host ∧
        h = shortHost k.ns k.name := by
  unfold RegisteredRouter.suggest sortStrings
  rw [Sorter.mem_run, List.mem_filter, suggests_run_iff, order.mem_iff]
  refine and_iff_right_of_imp fun ⟨k, hk, _, hh⟩ => ?_
  have hlookup := lookup_shortHost hk
  rw [RegisteredRouter.lookup, stripPort_of_not_mem k.colon_not_mem_shortHost, ← hh] at hlookup
  rw [hlookup, Option.isSome_some]

/-- The suggestions are in order, and none is repeated. -/
lemma pairwise_suggest (order : Iteration (run ops).routes) (host : Text) :
    ((run ops).suggest order.keys host).Pairwise (· < ·) := by
  unfold RegisteredRouter.suggest sortStrings
  have hsorted := (Sorter.stable (id : Text → Text)).sorted
    (order.keys.filter ((run ops).suggests (stripPort host)))
  have hnodup := (Sorter.stable (id : Text → Text)).nodup_run.2
    (order.nodup.filter ((run ops).suggests (stripPort host)))
  rw [List.map_id] at hsorted
  exact hsorted.imp₂ (fun _ _ hle hne => lt_of_le_of_ne hle hne) hnodup

/-- A bare name without a dot is no host of a cache. -/
lemma bareHost_not_mem_hosts {c : Text} (hdot : '.' ∉ c) (k : CacheKey) :
    bareHost c ∉ k.hosts := by
  have hbare : '.' ∉ bareHost c := by
    unfold bareHost
    rw [List.mem_append, not_or]
    exact ⟨hdot, by decide⟩
  have hshort : '.' ∈ shortHost k.ns k.name := by
    rw [shortHost_eq]
    simp
  intro hmem
  apply hbare
  simp only [CacheKey.hosts, List.mem_cons, List.not_mem_nil, or_false] at hmem
  rcases hmem with heq | heq
  · rw [heq]
    exact hshort
  · rw [heq, fqdnHost]
    exact List.mem_append_left _ hshort

end Suggest

/-! ## The answer -/

/-- **Requests for a bare name.** After any history, a request whose host is the bare name of an
invalidation Service, with or without a port, finds no route. The answer names the hosts of all
registered caches with that name, in order and without repetitions, however the loop over the map
goes; and each of these hosts is routed to one of the caches.

**Proof sketch.** A bare name has no dot, and every host in the map has one. The loop keeps one
host of each cache, since the full host does not have the form that is asked for. -/
theorem rejectUnknownHost_guides (quote : Text → Text) (ops : List Op)
    (order : Iteration (run ops).routes) {c host : Text} (hdot : '.' ∉ c)
    (hhost : WithoutPort host (bareHost c)) :
    (run ops).lookup host = none ∧
    ∃ hints : List Text, hints.Pairwise (· < ·) ∧
      (∀ h, h ∈ hints ↔ ∃ k : CacheKey, k.name = c ∧ registered ops k = true ∧
        h = shortHost k.ns c) ∧
      (∀ h ∈ hints, ∃ ns, (run ops).lookup h = some ⟨ns, c⟩) ∧
      rejectUnknownHost quote (run ops) order.keys host =
        (404, "unknown cache: ".toList ++ host ++ hint quote hints) := by
  have hstrip : stripPort host = bareHost c := withoutPort_iff.1 hhost
  have hmem (h : Text) : h ∈ (run ops).suggest order.keys host ↔
      ∃ k : CacheKey, k.name = c ∧ registered ops k = true ∧ h = shortHost k.ns c := by
    rw [mem_suggest_run_iff, hstrip]
    refine exists_congr fun k => ?_
    constructor
    · rintro ⟨hk, hname, hh⟩
      obtain rfl : k.name = c := List.append_cancel_right hname
      exact ⟨rfl, hk, hh⟩
    · rintro ⟨rfl, hk, hh⟩
      exact ⟨hk, rfl, hh⟩
  refine ⟨?_, (run ops).suggest order.keys host, pairwise_suggest order host, hmem, ?_, rfl⟩
  · cases hlookup : (run ops).lookup host with
    | none => rfl
    | some e =>
      obtain ⟨k, -, -, hk⟩ := (lookup_run_eq_some_iff ops host e).1 hlookup
      rw [hstrip] at hk
      exact absurd hk (bareHost_not_mem_hosts hdot k)
  · intro h hh
    obtain ⟨k, rfl, hk, rfl⟩ := (hmem h).1 hh
    exact ⟨k.ns, lookup_shortHost hk⟩

/-- A request for the bare name of a registered cache is told its host. -/
theorem rejectUnknownHost_guides_shop :
    ∃ hints : List Text, shortHost "prod" "shop" ∈ hints ∧
      rejectUnknownHost id (run [.register prodShop]) (iteration [.register prodShop]).keys
          "shop-invalidation:8090" =
        (404, "unknown cache: shop-invalidation:8090".toList ++ hint id hints) := by
  obtain ⟨-, hints, -, hmem, -, heq⟩ :=
    rejectUnknownHost_guides id _ (iteration [.register prodShop]) (c := "shop") (by decide)
      (.inr ⟨"8090", by decide, by decide⟩ : WithoutPort "shop-invalidation:8090" _)
  refine ⟨hints, (hmem _).2 ?_, heq⟩
  exact ⟨prodShop, rfl, by decide, rfl⟩

end CloudVinyl.Proxy
