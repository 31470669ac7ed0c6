import CloudVinyl.Lib.Strings
import CloudVinyl.Lib.Table

set_option relaxedAutoImplicit false
set_option autoImplicit false

/-!
# The routes of the invalidation proxy

The controller tells the proxy which caches there are (`internal/proxy/routing.go`) and which pods
they have (`internal/proxy/podmap.go`). Both keep their entries in maps whose keys are put together
from the namespace and the name of a cache, and a cache has two hosts in the map of routes. The
locks make every call one step, so a history is a list of calls.

## Main definitions

* `Proxy.RegisteredRouter`, `Proxy.PodMap` — the maps and their operations.
* `Proxy.CacheKey` — a namespace and a name that the cluster admits.
* `Proxy.Op`, `Proxy.run` — the calls that change the router, and a history of them.

## Main results

* `Proxy.separate_hosts` — no host belongs to two caches.
* `Proxy.tracks_run` — the maps hold what the last call for each cache left.
* `Proxy.lookup_run_isolated` — what the router answers after any history.
-/

namespace CloudVinyl.Proxy

/-! ## The router -/

/-- `routeEntry`: the cache that a host leads to. -/
structure RouteEntry where
  namespace_ : Text
  cacheName : Text
  deriving DecidableEq

/-- `RegisteredRouter`; `purgeHosts` is keyed by `namespace/cacheName`. -/
structure RegisteredRouter where
  routes : Table Text RouteEntry
  purgeHosts : Table Text (List Text)

/-- `NewRegisteredRouter` -/
def newRegisteredRouter : RegisteredRouter := ⟨fun _ => none, fun _ => none⟩

/-- The host of the invalidation Service within the cluster. -/
def shortHost (ns cacheName : Text) : Text := cacheName ++ "-invalidation." ++ ns

/-- The same with the domain of the cluster. -/
def fqdnHost (ns cacheName : Text) : Text := shortHost ns cacheName ++ ".svc.cluster.local"

/-- The key of a cache in the maps with one entry per cache. -/
def mapKey (ns cacheName : Text) : Text := ns ++ '/' :: cacheName

/-- `stripPort`: the host before its last colon. -/
def stripPort (host : Text) : Text :=
  match host.reverse.dropWhile (· != ':') with
  | [] => host
  | _ :: before => before.reverse

namespace RegisteredRouter

/-- `Register` -/
def register (r : RegisteredRouter) (ns cacheName : Text) : RegisteredRouter :=
  let entry : RouteEntry := ⟨ns, cacheName⟩
  { r with
    routes := (r.routes.set (shortHost ns cacheName) entry).set (fqdnHost ns cacheName) entry }

/-- `Unregister` -/
def unregister (r : RegisteredRouter) (ns cacheName : Text) : RegisteredRouter where
  routes := (r.routes.delete (shortHost ns cacheName)).delete (fqdnHost ns cacheName)
  purgeHosts := r.purgeHosts.delete (mapKey ns cacheName)

/-- `SetPurgeHosts`: an empty list clears them. -/
def setPurgeHosts (r : RegisteredRouter) (ns cacheName : Text) (hosts : List Text) :
    RegisteredRouter :=
  { r with
    purgeHosts := if hosts.isEmpty then r.purgeHosts.delete (mapKey ns cacheName)
      else r.purgeHosts.set (mapKey ns cacheName) hosts }

/-- `PurgeHosts` -/
def getPurgeHosts (r : RegisteredRouter) (ns cacheName : Text) : List Text :=
  (r.purgeHosts (mapKey ns cacheName)).getD []

/-- `Lookup` -/
def lookup (r : RegisteredRouter) (host : Text) : Option RouteEntry := r.routes (stripPort host)

end RegisteredRouter

/-! ## The addresses of the pods -/

/-- `PodMap`, keyed by `namespace/cacheName`. -/
structure PodMap where
  data : Table Text (List Text)

/-- `NewPodMap` -/
def newPodMap : PodMap := ⟨fun _ => none⟩

namespace PodMap

/-- `GetPodIPs` -/
def getPodIPs (pm : PodMap) (ns cacheName : Text) : Option (List Text) :=
  pm.data (mapKey ns cacheName)

/-- `Update` -/
def update (pm : PodMap) (ns cacheName : Text) (ips : List Text) : PodMap :=
  ⟨pm.data.set (mapKey ns cacheName) ips⟩

/-- `Delete` -/
def delete (pm : PodMap) (ns cacheName : Text) : PodMap :=
  ⟨pm.data.delete (mapKey ns cacheName)⟩

end PodMap

/-! ## The part of a host before its port -/

/-- The host `host` is `h`, with or without a port behind a colon. -/
def WithoutPort (host h : Text) : Prop :=
  (':' ∉ host ∧ h = host) ∨ ∃ port, ':' ∉ port ∧ host = h ++ ':' :: port

/-- `stripPort` takes away a port and nothing else. -/
lemma withoutPort_stripPort (host : Text) : WithoutPort host (stripPort host) := by
  unfold stripPort
  split
  case h_1 hnone =>
    refine .inl ⟨fun hmem => ?_, rfl⟩
    have hall := List.dropWhile_eq_nil_iff.1 hnone ':' (List.mem_reverse.2 hmem)
    simp at hall
  case h_2 c before hsome =>
    have hc : c = ':' := by
      have := List.head?_dropWhile_not (· != ':') host.reverse
      rw [hsome] at this
      simpa using this
    subst hc
    refine .inr ⟨(host.reverse.takeWhile (· != ':')).reverse, fun hmem => ?_, ?_⟩
    · have := List.mem_takeWhile_imp (List.mem_reverse.1 hmem)
      simp at this
    · have hsplit : host.reverse = host.reverse.takeWhile (· != ':') ++ ':' :: before := by
        rw [← hsome, List.takeWhile_append_dropWhile]
      calc host = host.reverse.reverse := (List.reverse_reverse host).symm
        _ = (host.reverse.takeWhile (· != ':') ++ ':' :: before).reverse := by rw [← hsplit]
        _ = before.reverse ++ ':' :: (host.reverse.takeWhile (· != ':')).reverse := by simp

/-- A host has one part before its port. -/
lemma withoutPort_iff {host h : Text} : WithoutPort host h ↔ stripPort host = h := by
  refine ⟨fun hh => ?_, fun hh => hh ▸ withoutPort_stripPort host⟩
  rcases hh with ⟨hno, rfl⟩ | ⟨port, hport, rfl⟩
  · rcases withoutPort_stripPort h with ⟨-, heq⟩ | ⟨port, -, heq⟩
    · exact heq
    · exact absurd (heq ▸ by simp) hno
  · rcases withoutPort_stripPort (h ++ ':' :: port) with ⟨hno, -⟩ | ⟨port', hport', heq⟩
    · exact absurd (by simp) hno
    · exact (Words.append_cons_inj_right hport hport' heq).1.symm

/-! ## Caches and their keys -/

/-- The namespace and the name of a cache: the namespace is a label, the name may have dots. -/
structure CacheKey where
  ns : Text
  name : Text
  dot_not_mem : '.' ∉ ns := by decide
  slash_not_mem : '/' ∉ ns ∧ '/' ∉ name := by decide
  colon_not_mem : ':' ∉ ns ∧ ':' ∉ name := by decide
  deriving DecidableEq

namespace CacheKey

/-- The entry that leads to the cache. -/
def entry (k : CacheKey) : RouteEntry := ⟨k.ns, k.name⟩

/-- The keys of a cache in the map of routes. -/
def hosts (k : CacheKey) : List Text := [shortHost k.ns k.name, fqdnHost k.ns k.name]

/-- The keys of a cache in a map with one entry per cache. -/
def mapKeys (k : CacheKey) : List Text := [mapKey k.ns k.name]

/-- Caches with the same entry are the same. -/
lemma entry_injective : Function.Injective entry := by
  rintro ⟨ns, name, _, _, _⟩ ⟨ns', name', _, _, _⟩ h
  obtain ⟨rfl, rfl⟩ : ns = ns' ∧ name = name' := by simpa [entry] using h
  rfl

end CacheKey

/-- There is no dot in this namespace. -/
lemma prod_dot_not_mem : '.' ∉ ("prod" : Text) := by decide

/-- There is no slash in this key. -/
lemma prodShop_slash_not_mem : '/' ∉ ("prod" : Text) ∧ '/' ∉ ("shop" : Text) := by decide

/-- There is no colon in this key. -/
lemma prodShop_colon_not_mem : ':' ∉ ("prod" : Text) ∧ ':' ∉ ("shop" : Text) := by decide

/-- The key of the cache that the examples are about. -/
def prodShop : CacheKey :=
  ⟨"prod", "shop", prod_dot_not_mem, prodShop_slash_not_mem, prodShop_colon_not_mem⟩

/-- The short host is the name with a suffix, and the namespace behind the last dot. -/
lemma shortHost_eq (ns c : Text) : shortHost ns c = (c ++ "-invalidation") ++ '.' :: ns := by
  unfold shortHost
  rw [List.append_assoc, List.append_assoc]
  rfl

/-- The last label of the full name is `local`. -/
lemma fqdnHost_eq (ns c : Text) :
    fqdnHost ns c = (shortHost ns c ++ ".svc.cluster") ++ '.' :: ("local" : Text) := by
  unfold fqdnHost
  rw [List.append_assoc]
  rfl

/-- The short host is cut at its last dot. -/
lemma shortHost_inj {ns ns' c c' : Text} (h : '.' ∉ ns) (h' : '.' ∉ ns')
    (heq : shortHost ns c = shortHost ns' c') : ns = ns' ∧ c = c' := by
  rw [shortHost_eq, shortHost_eq] at heq
  obtain ⟨hc, hns⟩ := Words.append_cons_inj_right h h' heq
  exact ⟨hns, List.append_cancel_right hc⟩

/-- A short host is no full one: before their last dots, the former ends in the suffix of the
invalidation Service and the latter in that of the cluster. -/
lemma shortHost_ne_fqdnHost {ns ns' c c' : Text} (h : '.' ∉ ns) :
    shortHost ns c ≠ fqdnHost ns' c' := by
  intro heq
  rw [shortHost_eq, fqdnHost_eq] at heq
  obtain ⟨hbefore, -⟩ := Words.append_cons_inj_right h (by decide) heq
  have hlast := congrArg List.getLast? hbefore
  rw [List.getLast?_append_of_ne_nil _ (by decide), List.getLast?_append_of_ne_nil _ (by decide)]
    at hlast
  revert hlast
  decide

/-- **No host belongs to two caches.** -/
theorem separate_hosts : Table.Separate CacheKey.hosts := by
  intro k k' host hk hk'
  apply CacheKey.entry_injective
  have key : k.ns = k'.ns ∧ k.name = k'.name := by
    simp only [CacheKey.hosts, List.mem_cons, List.not_mem_nil, or_false] at hk hk'
    rcases hk with rfl | rfl <;> rcases hk' with heq | heq
    · exact shortHost_inj k.dot_not_mem k'.dot_not_mem heq
    · exact absurd heq (shortHost_ne_fqdnHost k.dot_not_mem)
    · exact absurd heq.symm (shortHost_ne_fqdnHost k'.dot_not_mem)
    · exact shortHost_inj k.dot_not_mem k'.dot_not_mem (List.append_cancel_right heq)
  rw [CacheKey.entry, CacheKey.entry, key.1, key.2]

/-- The key of a map with one entry per cache is cut at its first slash. -/
lemma separate_mapKeys : Table.Separate CacheKey.mapKeys := by
  intro k k' key hk hk'
  apply CacheKey.entry_injective
  obtain rfl : key = mapKey k.ns k.name := List.mem_singleton.1 hk
  obtain ⟨hns, hname⟩ :=
    Words.append_cons_inj_left k.slash_not_mem.1 k'.slash_not_mem.1 (List.mem_singleton.1 hk')
  rw [CacheKey.entry, CacheKey.entry, hns, hname]

/-! ## Histories -/

/-- A call that changes the router. -/
inductive Op where
  | register (k : CacheKey)
  | unregister (k : CacheKey)
  | setPurgeHosts (k : CacheKey) (hosts : List Text)

namespace Op

/-- The cache that a call is about. -/
def key : Op → CacheKey
  | register k => k
  | unregister k => k
  | setPurgeHosts k _ => k

/-- What an operation does to the router. -/
def apply (r : RegisteredRouter) : Op → RegisteredRouter
  | register k => r.register k.ns k.name
  | unregister k => r.unregister k.ns k.name
  | setPurgeHosts k hosts => r.setPurgeHosts k.ns k.name hosts

/-- What a call says about the registration of a cache. -/
def registration : Op → CacheKey → Option Bool
  | register k', k => if k = k' then some true else none
  | unregister k', k => if k = k' then some false else none
  | setPurgeHosts _ _, _ => none

/-- What a call says about the purge hosts of a cache. -/
def purge : Op → CacheKey → Option (List Text)
  | register _, _ => none
  | unregister k', k => if k = k' then some [] else none
  | setPurgeHosts k' hosts, k => if k = k' then some hosts else none

/-- An operation for another cache registers nothing here. -/
lemma registration_of_ne {op : Op} {k : CacheKey} (h : op.key ≠ k) : op.registration k = none := by
  cases op with
  | register k' => exact if_neg (Ne.symm h)
  | unregister k' => exact if_neg (Ne.symm h)
  | setPurgeHosts k' hosts => rfl

/-- An operation for another cache sets no purge hosts here. -/
lemma purge_of_ne {op : Op} {k : CacheKey} (h : op.key ≠ k) : op.purge k = none := by
  cases op with
  | register k' => rfl
  | unregister k' => exact if_neg (Ne.symm h)
  | setPurgeHosts k' hosts => exact if_neg (Ne.symm h)

end Op

/-- The router after a history of calls. -/
def run (ops : List Op) : RegisteredRouter := ops.foldl Op.apply newRegisteredRouter

/-- One operation more. -/
lemma run_append_singleton (ops : List Op) (op : Op) : run (ops ++ [op]) = op.apply (run ops) := by
  rw [run, List.foldl_append]
  rfl

/-- The cache is registered after the history: its last registration or removal is a
registration. -/
def registered (ops : List Op) (k : CacheKey) : Bool :=
  (Table.last Op.registration ops k).getD false

/-- The purge hosts set last since the last removal of the cache. -/
def lastPurgeHosts (ops : List Op) (k : CacheKey) : List Text :=
  (Table.last Op.purge ops k).getD []

/-- The entry of a cache in the map of routes. -/
def routeCell (ops : List Op) (k : CacheKey) : Option RouteEntry :=
  if registered ops k then some k.entry else none

/-- The entry of a cache in the map of purge hosts, which has no empty lists. -/
def purgeCell (ops : List Op) (k : CacheKey) : Option (List Text) :=
  if (lastPurgeHosts ops k).isEmpty then none else some (lastPurgeHosts ops k)

/-- Registered after one operation more. -/
lemma registered_append_singleton (ops : List Op) (op : Op) (k : CacheKey) :
    registered (ops ++ [op]) k = (op.registration k).getD (registered ops k) := by
  rw [registered, Table.last_append_singleton]
  cases op.registration k <;> rfl

/-- The purge hosts after one operation more. -/
lemma lastPurgeHosts_append_singleton (ops : List Op) (op : Op) (k : CacheKey) :
    lastPurgeHosts (ops ++ [op]) k = (op.purge k).getD (lastPurgeHosts ops k) := by
  rw [lastPurgeHosts, Table.last_append_singleton]
  cases op.purge k <;> rfl

/-- A call that says `b` about one cache, and nothing about others, changes one route. -/
lemma routeCell_append_singleton {ops : List Op} {op : Op} {b : Bool}
    (hself : op.registration op.key = some b) :
    routeCell (ops ++ [op]) =
      Function.update (routeCell ops) op.key (if b then some op.key.entry else none) := by
  funext k
  by_cases hk : k = op.key
  · rw [hk, Function.update_self, routeCell, registered_append_singleton, hself]
    rfl
  · rw [Function.update_of_ne hk, routeCell, registered_append_singleton,
      Op.registration_of_ne (Ne.symm hk)]
    rfl

/-- The same for the purge hosts. -/
lemma purgeCell_append_singleton {ops : List Op} {op : Op} {hosts : List Text}
    (hself : op.purge op.key = some hosts) :
    purgeCell (ops ++ [op]) =
      Function.update (purgeCell ops) op.key (if hosts.isEmpty then none else some hosts) := by
  funext k
  by_cases hk : k = op.key
  · rw [hk, Function.update_self, purgeCell, lastPurgeHosts_append_singleton, hself]
    rfl
  · rw [Function.update_of_ne hk, purgeCell, lastPurgeHosts_append_singleton,
      Op.purge_of_ne (Ne.symm hk)]
    rfl

/-- The maps of a router hold what the history says about each cache. -/
structure Tracks (ops : List Op) (r : RegisteredRouter) : Prop where
  routes : Table.Represents CacheKey.hosts (routeCell ops) r.routes
  purgeHosts : Table.Represents CacheKey.mapKeys (purgeCell ops) r.purgeHosts

/-- A call keeps the maps in step with the history. -/
lemma tracks_apply {ops : List Op} {r : RegisteredRouter} (h : Tracks ops r) (op : Op) :
    Tracks (ops ++ [op]) (op.apply r) := by
  cases op with
  | register k =>
    have hself : (Op.register k).registration k = some true := if_pos rfl
    have hsame : purgeCell (ops ++ [Op.register k]) = purgeCell ops := by
      funext k'
      rw [purgeCell, lastPurgeHosts_append_singleton]
      rfl
    constructor
    · rw [routeCell_append_singleton hself]
      exact h.routes.assign separate_hosts k (some k.entry)
    · rw [hsame]
      exact h.purgeHosts
  | unregister k =>
    have hroute : (Op.unregister k).registration k = some false := if_pos rfl
    have hpurge : (Op.unregister k).purge k = some [] := if_pos rfl
    constructor
    · rw [routeCell_append_singleton hroute]
      exact h.routes.assign separate_hosts k none
    · rw [purgeCell_append_singleton hpurge]
      exact h.purgeHosts.assign separate_mapKeys k none
  | setPurgeHosts k hosts =>
    have hself : (Op.setPurgeHosts k hosts).purge k = some hosts := if_pos rfl
    have hsame : routeCell (ops ++ [Op.setPurgeHosts k hosts]) = routeCell ops := by
      funext k'
      rw [routeCell, registered_append_singleton]
      rfl
    constructor
    · rw [hsame]
      exact h.routes
    · rw [purgeCell_append_singleton hself]
      have hassign := h.purgeHosts.assign separate_mapKeys k
        (if hosts.isEmpty then none else some hosts)
      -- an empty list is deleted, any other list is stored
      cases hosts with
      | nil => exact hassign
      | cons host hosts => exact hassign

/-- **The maps hold what the last call for each cache left.** -/
theorem tracks_run (ops : List Op) : Tracks ops (run ops) := by
  induction ops using List.reverseRecOn with
  | nil => exact ⟨Table.Represents.empty, Table.Represents.empty⟩
  | append_singleton ops op ih =>
    rw [run_append_singleton]
    exact tracks_apply ih op

/-! ## Answers -/

/-- The router returns the purge hosts that were set last. -/
lemma getPurgeHosts_run (ops : List Op) (k : CacheKey) :
    (run ops).getPurgeHosts k.ns k.name = lastPurgeHosts ops k := by
  have hcell := (tracks_run ops).purgeHosts.at_key k _ List.mem_cons_self
  rw [RegisteredRouter.getPurgeHosts, hcell, purgeCell]
  cases lastPurgeHosts ops k <;> rfl

/-- A host of a cache leads to it if it is registered. -/
lemma lookup_run_of_mem_hosts {ops : List Op} {host : Text} {k : CacheKey}
    (h : stripPort host ∈ k.hosts) : (run ops).lookup host = routeCell ops k :=
  (tracks_run ops).routes.at_key k _ h

/-- **Which hosts lead where**: those of the registered caches, each to its own. -/
lemma lookup_run_eq_some_iff (ops : List Op) (host : Text) (e : RouteEntry) :
    (run ops).lookup host = some e ↔
      ∃ k : CacheKey, k.entry = e ∧ registered ops k ∧ stripPort host ∈ k.hosts := by
  rw [RegisteredRouter.lookup, (tracks_run ops).routes.eq_some_iff]
  refine exists_congr fun k => ?_
  by_cases hreg : registered ops k
  · simp [routeCell, hreg, and_comm]
  · simp [routeCell, hreg]

/-- A host is one of a cache if it is one of the two names, with or without a port. -/
lemma stripPort_mem_hosts_iff {host : Text} {k : CacheKey} :
    stripPort host ∈ k.hosts ↔
      WithoutPort host (k.name ++ "-invalidation." ++ k.ns) ∨
        WithoutPort host (k.name ++ "-invalidation." ++ k.ns ++ ".svc.cluster.local") := by
  rw [withoutPort_iff, withoutPort_iff, CacheKey.hosts, List.mem_pair]
  rfl

/-- **Routing isolation.** After any history of calls, a host is routed to a cache exactly when
the cache is registered and the host, without its port, is one of its two hosts. A call for
another cache changes neither the routes nor the purge hosts of a cache, and the purge hosts are
those set last since the cache was last removed.

**Proof sketch.** The maps represent one cell per cache (`tracks_run`), since no key belongs to
two caches; the cells are read off the history. -/
theorem lookup_run_isolated (ops : List Op) :
    (∀ host ns c, (run ops).lookup host = some ⟨ns, c⟩ ↔
      ∃ k : CacheKey, k.ns = ns ∧ k.name = c ∧ registered ops k ∧
        (WithoutPort host (c ++ "-invalidation." ++ ns) ∨
          WithoutPort host (c ++ "-invalidation." ++ ns ++ ".svc.cluster.local"))) ∧
    (∀ (op : Op) (k : CacheKey), op.key ≠ k →
      (∀ host, stripPort host ∈ k.hosts → (run (ops ++ [op])).lookup host = (run ops).lookup host) ∧
      (∀ host, (run (ops ++ [op])).lookup host = some k.entry ↔
        (run ops).lookup host = some k.entry) ∧
      (run (ops ++ [op])).getPurgeHosts k.ns k.name = (run ops).getPurgeHosts k.ns k.name) ∧
    (∀ k : CacheKey, (run ops).getPurgeHosts k.ns k.name = lastPurgeHosts ops k) := by
  refine ⟨fun host ns c => ?_, fun op k hne => ⟨fun host hhost => ?_, fun host => ?_, ?_⟩,
    getPurgeHosts_run ops⟩
  · rw [lookup_run_eq_some_iff]
    refine exists_congr fun k => ?_
    rw [stripPort_mem_hosts_iff, CacheKey.entry, RouteEntry.mk.injEq, and_assoc]
    refine and_congr_right fun hns => and_congr_right fun hname => ?_
    rw [hns, hname]
  · rw [lookup_run_of_mem_hosts hhost, lookup_run_of_mem_hosts hhost, routeCell,
      registered_append_singleton, Op.registration_of_ne hne]
    rfl
  · rw [lookup_run_eq_some_iff, lookup_run_eq_some_iff]
    refine exists_congr fun k' => and_congr_right fun hk' => ?_
    obtain rfl := CacheKey.entry_injective hk'
    rw [registered_append_singleton, Op.registration_of_ne hne]
    rfl
  · rw [getPurgeHosts_run, getPurgeHosts_run, lastPurgeHosts_append_singleton,
      Op.purge_of_ne hne]
    rfl

/-- A request with a port reaches its cache, and a registration of a cache with a dotted name does
not change that. -/
theorem lookup_run_isolated_shop :
    (run [.register ⟨"prod", "shop", by decide, by decide, by decide⟩]).lookup
        "shop-invalidation.prod:8090" = some ⟨"prod", "shop"⟩ ∧
      (run [.register ⟨"prod", "shop", by decide, by decide, by decide⟩,
        .register ⟨"prod", "a.shop", by decide, by decide, by decide⟩]).lookup
        "shop-invalidation.prod:8090" = some ⟨"prod", "shop"⟩ := by
  have hshop := ((lookup_run_isolated
    [.register ⟨"prod", "shop", by decide, by decide, by decide⟩]).1
      "shop-invalidation.prod:8090" "prod" "shop").2
    ⟨⟨"prod", "shop", by decide, by decide, by decide⟩, rfl, rfl, by decide,
      .inl (.inr ⟨"8090", by decide, by decide⟩)⟩
  refine ⟨hshop, ?_⟩
  have hother := (lookup_run_isolated
    [.register ⟨"prod", "shop", by decide, by decide, by decide⟩]).2.1
      (.register ⟨"prod", "a.shop", by decide, by decide, by decide⟩)
      ⟨"prod", "shop", by decide, by decide, by decide⟩ (by decide)
  exact (hother.2.1 "shop-invalidation.prod:8090").2 hshop

end CloudVinyl.Proxy
