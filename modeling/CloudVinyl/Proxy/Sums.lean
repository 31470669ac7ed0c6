import CloudVinyl.Proxy.PodAddresses

set_option relaxedAutoImplicit false
set_option autoImplicit false

/-!
# The results of invalidations

A purge is about pairs of a host and a pod, a purge of surrogate keys about pairs of a key and a
pod. The result has an entry for each pair and sums up the entries.

No request is sent to a pod for whose address no URL can be built: its entry has the error.

## Main definitions

* `Proxy.pairs` — the positions of the pairs.
* `Proxy.ExactSums` — a result with one entry and one request per pair, and the sums of the entries.

## Main results

* `Proxy.exactSums_iff_of_reports` — results are exact if all requests can be built.
* `Proxy.exactSums_iff` — when results are exact: if the pods have addresses of IPv4.
-/

namespace CloudVinyl.Proxy

/-! ## Pairs -/

/-- The pairs of a host or a key and a pod, by position. -/
def pairs (m n : ℕ) : List (ℕ × ℕ) :=
  (List.range m).flatMap fun k => (List.range n).map fun i => (k, i)

/-- The pairs of positions. -/
lemma mem_pairs {m n k i : ℕ} : (k, i) ∈ pairs m n ↔ k < m ∧ i < n := by
  simp [pairs]

/-- The hosts or keys that a request lists. -/
def listed (env : Env) (r : InvalidationRequest) : Handler → Option (List Text)
  | .purge => (purgeHosts env r).toOption.map Prod.fst
  | .ban => none
  | .xkey => r.keys.filter (· ≠ [])

/-- The request for a host or a key. -/
def itemRequest (r : InvalidationRequest) : Handler → Text → BroadcastRequest
  | .xkey, key => xkeyRequest r key
  | _, host => purgeRequest r host

/-- The path of the requests. -/
def itemPath (r : InvalidationRequest) : Handler → Text
  | .xkey => "/"
  | _ => r.requestURI

/-- The request carries the host or the key. -/
def Carries : Handler → Text → HTTPRequest → Prop
  | .xkey, key, q => ("X-Xkey-Purge".toList, key) ∈ q.headers
  | _, host, q => q.host = host

/-- The result for a list of hosts or keys and a list of pods is exact. -/
structure ExactSums (env : Env) (h : Handler) (r : InvalidationRequest) (items addrs : List Text)
    (out : Outcome) : Prop where
  /-- The entry of each pair is that of the answer to its call. -/
  entries : out.result.results.map PodResult.clearHost =
    (pairs items.length addrs.length).map fun p =>
      ((env.rounds p.1).answer p.2).entry (addrs.getD p.2 [])
  /-- Each pair is sent one request. -/
  sent : (out.sent.map fun s => (s.item, s.pod)).Perm (pairs items.length addrs.length)
  carried : ∀ s ∈ out.sent, Carries h (items.getD s.item []) s.request ∧
    s.request.url = podURL (addrs.getD s.pod []) (itemPath r h)
  total : out.result.total = out.result.results.length
  succeeded : out.result.succeeded = out.result.results.countP PodResult.succeeded
  ok : out.result.succeeded = out.result.total → out.result.status = "ok"
  failed : out.result.succeeded = 0 → out.result.total ≠ 0 → out.result.status = "failed"
  partly : out.result.succeeded ≠ 0 → out.result.succeeded ≠ out.result.total →
    out.result.status = "partial"
  counted : out.result.objectsPurged.isSome = true ↔
    ∃ pr ∈ out.result.results, pr.objectsPurged.isSome = true

/-! ## When results are exact -/

section Sums

variable {env : Env} {h : Handler} {r : InvalidationRequest} {pods items addrs : List Text}
  {reqs : List BroadcastRequest}

/-- The requests of a handler are those for what it lists. -/
lemma requests_of_listed (hitems : listed env r h = some items) :
    h.requests env r = some (varnishPort, items.map (itemRequest r h)) := by
  cases h with
  | purge =>
    obtain ⟨p, hp, rfl⟩ := Option.map_eq_some_iff.1 hitems
    rw [Handler.requests, hp]
    rfl
  | ban => cases hitems
  | xkey =>
    rw [listed] at hitems
    rw [Handler.requests, hitems]
    rfl

/-- A purge has at least one host. -/
lemma purgeHosts_ne_nil {hosts : List Text} {fromRouting : Bool}
    (hhosts : purgeHosts env r = .ok (hosts, fromRouting)) : hosts ≠ [] := by
  have hfallback : (fallbackHosts env r).1 ≠ [] := by
    unfold fallbackHosts
    split_ifs with hspec
    · exact hspec
    · simp
  unfold purgeHosts at hhosts
  dsimp only at hhosts
  split_ifs at hhosts
  · rw [Except.ok.inj hhosts] at hfallback
    exact hfallback
  · split at hhosts
    · cases hhosts
    · split_ifs at hhosts with hmax hne
      · obtain ⟨rfl, -⟩ := Prod.mk.inj (Except.ok.inj hhosts)
        exact hne
      · rw [Except.ok.inj hhosts] at hfallback
        exact hfallback

/-- A request lists something. -/
lemma ne_nil_of_listed (hitems : listed env r h = some items) : items ≠ [] := by
  cases h with
  | purge =>
    obtain ⟨⟨hosts, fromRouting⟩, hp, rfl⟩ := Option.map_eq_some_iff.1 hitems
    exact purgeHosts_ne_nil (toOption_eq_some_iff.1 hp)
  | ban => cases hitems
  | xkey => simpa using (Option.filter_eq_some_iff.1 hitems).2

/-- The status of an aggregated result is as it should be. -/
lemma Aggregated.status_cases {res : BroadcastResult} (hres : Aggregated res) :
    (res.succeeded = res.total → res.status = "ok") ∧
      (res.succeeded = 0 → res.total ≠ 0 → res.status = "failed") ∧
      (res.succeeded ≠ 0 → res.succeeded ≠ res.total → res.status = "partial") := by
  have hle : res.succeeded ≤ res.total := by
    rw [hres.succeeded, hres.total]
    exact List.countP_le_length
  rw [hres.status]
  unfold statusString
  refine ⟨fun heq => ?_, fun hzero htotal => ?_, fun hzero hne => ?_⟩
  · rw [if_pos (by simp [heq])]
  · rw [if_neg (by simp [hzero, htotal, Ne.symm htotal]), if_pos hzero]
  · rw [if_neg (by simp [hne]; omega), if_neg hzero]

/-! ### Calls -/

/-- A URL can be built for the call of a pair. -/
def Built (env : Env) (addrs : List Text) (reqs : List BroadcastRequest) (k i : ℕ) : Prop :=
  env.build (podURL (addrs.getD i []) (reqs.getD k default).path) = none

/-- A call whose request is built is sent and answered. -/
lemma callAt_of_built {k i : ℕ} (hbuilt : Built env addrs reqs k i) :
    callAt env addrs reqs k i = (some (httpRequest (addrs.getD i []) (reqs.getD k default)),
      ((env.rounds k).answer i).entry (addrs.getD i [])) :=
  callPod_of_built hbuilt _

/-- What a call sends, if its request is built. -/
lemma callAt_eq_some_iff {k i : ℕ} {q : HTTPRequest} :
    (callAt env addrs reqs k i).1 = some q ↔
      Built env addrs reqs k i ∧ httpRequest (addrs.getD i []) (reqs.getD k default) = q := by
  unfold callAt Built
  cases hbuild : env.build (podURL (addrs.getD i []) (reqs.getD k default).path) with
  | none =>
    rw [callPod_of_built hbuild]
    simp
  | some err =>
    rw [callPod_of_error hbuild]
    simp

/-- The requests that are sent are those of the pairs for which one can be built. -/
lemma mem_sentBy {s : Sent} : s ∈ sentBy (broadcasts env addrs reqs) ↔
    s.item < reqs.length ∧ s.pod < addrs.length ∧
      (callAt env addrs reqs s.item s.pod).1 = some s.request := by
  rw [sent_broadcasts.mem_iff]
  simp only [List.mem_flatMap, List.mem_range, List.mem_filterMap, Option.map_eq_some_iff]
  constructor
  · rintro ⟨k, hk, i, hi, q, hq, rfl⟩
    exact ⟨hk, hi, hq⟩
  · rintro ⟨hk, hi, hq⟩
    exact ⟨s.item, hk, s.pod, hi, s.request, hq, rfl⟩

/-- If all requests can be built, the entries are those of the answers, and each pair is sent one
request. -/
lemma results_and_sent_of_built
    (hbuilt : ∀ k < reqs.length, ∀ i < addrs.length, Built env addrs reqs k i) :
    (broadcasts env addrs reqs).flatMap (·.1.results) =
        (pairs reqs.length addrs.length).map (fun p =>
          ((env.rounds p.1).answer p.2).entry (addrs.getD p.2 [])) ∧
      ((sentBy (broadcasts env addrs reqs)).map fun s => (s.item, s.pod)).Perm
        (pairs reqs.length addrs.length) := by
  constructor
  · rw [results_broadcasts, pairs, List.map_flatMap]
    refine List.flatMap_congr fun k hk => ?_
    rw [List.map_map]
    refine List.map_congr_left fun i hi => ?_
    rw [callAt_of_built (hbuilt k (List.mem_range.1 hk) i (List.mem_range.1 hi))]
    rfl
  · refine (sent_broadcasts.map _).trans (List.Perm.of_eq ?_)
    rw [pairs, List.map_flatMap]
    refine List.flatMap_congr fun k hk => ?_
    rw [List.map_filterMap, ← List.filterMap_eq_map]
    refine List.filterMap_congr fun i hi => ?_
    rw [callAt_of_built (hbuilt k (List.mem_range.1 hk) i (List.mem_range.1 hi))]
    rfl

/-! ### The iff -/

/-- All requests of a handler have one path. -/
lemma itemRequest_path (item : Text) : (itemRequest r h item).path = itemPath r h := by
  cases h with
  | purge => rfl
  | ban => rfl
  | xkey => rfl

/-- The request at a position is that for the item there. -/
lemma getD_map_itemRequest {k : ℕ} (hk : k < items.length) :
    (items.map (itemRequest r h)).getD k default = itemRequest r h (items.getD k []) := by
  simp [hk]

/-- The request for a host or a key carries it, unless it is an empty host. -/
lemma carries_httpRequest_iff (addr item : Text) :
    Carries h item (httpRequest addr (itemRequest r h item)) ↔
      (h ≠ .xkey → item = [] → addr = []) := by
  have hhost : (if item = [] then addr else item) = item ↔ (item = [] → addr = []) := by
    split_ifs with hnil
    · simp [hnil]
    · simp [hnil]
  cases h with
  | purge => exact hhost.trans (by simp)
  | ban => exact hhost.trans (by simp)
  | xkey => exact ⟨fun _ hne => absurd rfl hne, fun _ => List.mem_cons_self⟩

/-- An address with a port is not empty. -/
lemma addPort_ne_nil (port ip : Text) : addPort port ip ≠ [] := by
  unfold addPort
  split_ifs with hcolon
  · exact List.ne_nil_of_mem hcolon
  · simp

/-- If all requests can be built and carry their hosts, the result is exact. -/
lemma exactSums_of_built {out : Outcome}
    (hreports : out.Reports env h addrs (items.map (itemRequest r h)))
    (hbuilt : ∀ addr ∈ addrs, env.build (podURL addr (itemPath r h)) = none)
    (hcarries : addrs ≠ [] → h ≠ .xkey → [] ∉ items) : ExactSums env h r items addrs out := by
  have hall : ∀ k < (items.map (itemRequest r h)).length, ∀ i < addrs.length,
      Built env addrs (items.map (itemRequest r h)) k i := by
    intro k hk i hi
    rw [List.length_map] at hk
    rw [Built, getD_map_itemRequest hk, itemRequest_path]
    exact hbuilt _ (by simp [hi])
  obtain ⟨hentries, hsent⟩ := results_and_sent_of_built hall
  rw [List.length_map] at hentries hsent
  obtain ⟨hok, hfailed, hpartly⟩ := hreports.aggregated.status_cases
  refine ⟨hreports.entries.trans hentries, hreports.sent ▸ hsent, ?_, hreports.aggregated.total,
    hreports.aggregated.succeeded, hok, hfailed, hpartly, ?_⟩
  · intro s hs
    rw [hreports.sent] at hs
    obtain ⟨hk, hi, hcall⟩ := mem_sentBy.1 hs
    obtain ⟨-, hq⟩ := callAt_eq_some_iff.1 hcall
    rw [List.length_map] at hk
    rw [getD_map_itemRequest hk] at hq
    rw [← hq]
    refine ⟨(carries_httpRequest_iff _ _).2 fun hne hnil => ?_, ?_⟩
    · have haddrs : addrs ≠ [] := List.ne_nil_of_length_pos (Nat.zero_lt_of_lt hi)
      exact absurd (hnil ▸ by simp [hk] : [] ∈ items) (hcarries haddrs hne)
    · exact congrArg (podURL _) (itemRequest_path _)
  · rw [hreports.aggregated.objectsPurged]
    exact aggregateObjectsPurged_isSome _

/-- If the result is exact, all requests can be built and carry their hosts. -/
lemma built_of_exactSums {out : Outcome}
    (hreports : out.Reports env h addrs (items.map (itemRequest r h)))
    (hexact : ExactSums env h r items addrs out) {k i : ℕ} (hk : k < items.length)
    (hi : i < addrs.length) :
    env.build (podURL (addrs.getD i []) (itemPath r h)) = none ∧
      (h ≠ .xkey → items.getD k [] = [] → addrs.getD i [] = []) := by
  have hmem : (k, i) ∈ out.sent.map fun s => (s.item, s.pod) :=
    hexact.sent.mem_iff.2 (mem_pairs.2 ⟨hk, hi⟩)
  obtain ⟨s, hs, hpair⟩ := List.mem_map.1 hmem
  obtain ⟨rfl, rfl⟩ := Prod.mk.inj hpair
  have hcarries := (hexact.carried s hs).1
  rw [hreports.sent] at hs
  obtain ⟨hbuilt, hq⟩ := callAt_eq_some_iff.1 (mem_sentBy.1 hs).2.2
  rw [Built, getD_map_itemRequest hk, itemRequest_path] at hbuilt
  rw [getD_map_itemRequest hk] at hq
  rw [← hq, carries_httpRequest_iff] at hcarries
  exact ⟨hbuilt, hcarries⟩

/-- A result is exact just when all requests can be built and carry their hosts. -/
lemma exactSums_iff_of_reports {out : Outcome}
    (hreports : out.Reports env h addrs (items.map (itemRequest r h))) (hitems : items ≠ [])
    (haddrs : [] ∉ addrs) :
    ExactSums env h r items addrs out ↔
      (∀ addr ∈ addrs, env.build (podURL addr (itemPath r h)) = none) ∧
        (addrs ≠ [] → h ≠ .xkey → [] ∉ items) := by
  refine ⟨fun hexact => ⟨fun addr haddr => ?_, fun hne hkeys hnil => ?_⟩,
    fun hcond => exactSums_of_built hreports hcond.1 hcond.2⟩
  · obtain ⟨i, hi, rfl⟩ := List.mem_iff_getElem.1 haddr
    have hbuilt := (built_of_exactSums hreports hexact (List.length_pos_of_ne_nil hitems) hi).1
    simpa [hi] using hbuilt
  · obtain ⟨k, hk, hkey⟩ := List.mem_iff_getElem.1 hnil
    obtain ⟨addr, rest, rfl⟩ := List.exists_cons_of_ne_nil hne
    have hempty : addr = [] :=
      (built_of_exactSums hreports hexact hk (Nat.zero_lt_succ _)).2 hkeys (by simp [hk, hkey])
    exact haddrs (hempty ▸ List.mem_cons_self)

end Sums

/-- No address with a port is empty. -/
lemma nil_notMem_withPort (pods : List Text) (port : Text) : [] ∉ withPort pods port := by
  intro hmem
  obtain ⟨ip, -, hip⟩ := List.mem_map.1 hmem
  exact addPort_ne_nil port ip hip

/-- **When results are exact.** The result for the hosts or keys that a request lists, whose target
begins with a slash, is exact just when there are no pods, or all of them have an address of IPv4
and no host of a purge is empty.

**Proof sketch.** The entries and the sums are always as they should be. A request is sent to each
pair just when it can be built, which is the case for the addresses of IPv4 (`built_iff_isIPv4`),
and it carries its host unless that is empty. -/
theorem exactSums_iff (env : Env) (h : Handler) (r : InvalidationRequest) (pods items : List Text)
    (hitems : listed env r h = some items)
    (hpods : ∀ ip ∈ pods, Authority.isIPv4 ip = true ∨ Authority.isIPv6 ip = true)
    (hpath : (itemPath r h).head? = some '/') (hgo : ReadsURLs env.build (itemPath r h)) :
    (∃ out, handle env h r pods = .ok out ∧
        ExactSums env h r items (withPort pods varnishPort) out) ↔
      pods = [] ∨ (∀ ip ∈ pods, Authority.isIPv4 ip = true) ∧ (h = .purge → [] ∉ items) := by
  obtain ⟨out, hout, hreports⟩ := reports_of_requests (requests_of_listed hitems) pods
  have hexact : (∃ out, handle env h r pods = .ok out ∧
      ExactSums env h r items (withPort pods varnishPort) out) ↔
      ExactSums env h r items (withPort pods varnishPort) out := by
    simp [hout]
  have hbuilt : (∀ ip ∈ pods, env.build (podURL (addPort varnishPort ip) (itemPath r h)) = none) ↔
      ∀ ip ∈ pods, Authority.isIPv4 ip = true :=
    forall₂_congr fun ip hip => built_iff_isIPv4 hgo (hpods ip hip) (by decide) hpath
  -- hosts or keys are listed only for these two handlers
  have hkind : h ≠ .xkey ↔ h = .purge := by
    cases h with
    | purge => simp
    | ban => cases hitems
    | xkey => simp
  rw [hexact, exactSums_iff_of_reports hreports (ne_nil_of_listed hitems)
    (nil_notMem_withPort pods varnishPort), hkind, withPort, List.forall_mem_map, hbuilt]
  by_cases hnone : pods = []
  · simp [hnone]
  · simp [hnone]

/-! ### A pod with an address of IPv6 -/

/-- Pods that all answer in the same way, one after the other. -/
def uniformEnv (answer : Answer) : Env where
  namespace_ := "prod"
  cacheName := "shop"
  quote := id
  build := urlError
  rounds := fun _ => ⟨fun _ => answer, FanOut.Order.sequential, FanOut.Order.sequential⟩

/-- A purge of a site host. -/
def siteRequest : InvalidationRequest where
  host := "shop-invalidation.prod"
  header := [(purgeHostHeader, ["www.example.org"])]

/-- Two pods with addresses of IPv4. -/
theorem exactSums_iff_v4 : ∃ out,
    handle (uniformEnv (.response 200 "1")) .purge siteRequest ["10.0.0.1", "10.0.0.2"] = .ok out ∧
      ExactSums (uniformEnv (.response 200 "1")) .purge siteRequest ["www.example.org"]
        (withPort ["10.0.0.1", "10.0.0.2"] varnishPort) out :=
  (exactSums_iff _ _ _ _ _ (by decide +kernel) (by decide) rfl (readsURLs_urlError _)).2
    (.inr ⟨by decide, by decide⟩)

/-- The pod has an entry with an error, and is sent no request. -/
theorem v6_notSent :
    (∃ out, handle (uniformEnv (.response 200 "1")) .purge siteRequest ["fd00::a"] = .ok out ∧
        out.result.total = 1 ∧ out.result.succeeded = 0 ∧ out.sent.length = 0) ∧
      ¬∃ out, handle (uniformEnv (.response 200 "1")) .purge siteRequest ["fd00::a"] = .ok out ∧
        ExactSums (uniformEnv (.response 200 "1")) .purge siteRequest ["www.example.org"]
          (withPort ["fd00::a"] varnishPort) out := by
  refine ⟨⟨_, rfl, by decide +kernel, by decide +kernel, by decide +kernel⟩, ?_⟩
  rintro ⟨out, hout, hexact⟩
  have hlength := hexact.sent.length_eq
  obtain rfl := Except.ok.inj hout
  revert hlength
  decide +kernel

end CloudVinyl.Proxy
