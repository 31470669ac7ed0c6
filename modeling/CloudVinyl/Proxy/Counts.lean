import CloudVinyl.Proxy.Sums

set_option relaxedAutoImplicit false
set_option autoImplicit false

/-!
# The counts of purged objects

A pod answers a purge with the number of objects it removed, and the proxy adds the numbers up over
all pods and all hosts or keys. Each number fits into 64 bits, but the sum is not looked at. It goes
to a counter, which panics when it is to go down.

## Main definitions

* `Proxy.reported` — the counts that the pods report.
* `Proxy.CountsRight` — a count that is the sum of them, and a counter that does not go down.

## Main results

* `Proxy.counts_of_reports` — the entries have the counts that the pods report.
* `Proxy.countsRight_iff` — the count is right just when the sum fits.
-/

namespace CloudVinyl.Proxy

/-- The counts that the pods report, over all requests that are sent. -/
def reported (env : Env) (h : Handler) (r : InvalidationRequest) (pods : List Text) : List ℤ :=
  match h.requests env r with
  | none => []
  | some (port, reqs) =>
    (pairs reqs.length pods.length).filterMap fun p =>
      if env.build (podURL ((withPort pods port).getD p.2 []) (reqs.getD p.1 default).path) = none
      then ((env.rounds p.1).answer p.2).count
      else none

/-- The count of a result is a natural number and the sum of those reported, and the counter of
purged objects does not go down. -/
structure CountsRight (counts : List ℤ) (out : Outcome) : Prop where
  total : ∀ n, out.result.objectsPurged = some n → 0 ≤ n ∧ n = counts.sum
  counter : ∀ inc ∈ out.increments, inc.counter = .objectsPurgedTotal → 0 ≤ inc.value

section Counts

variable {env : Env} {h : Handler} {r : InvalidationRequest} {pods : List Text}

/-- A count that is read is not negative. -/
lemma parseObjectsPurged_nonneg {v : Text} {n : ℤ} (hn : parseObjectsPurged v = some n) :
    0 ≤ n := by
  unfold parseObjectsPurged at hn
  split_ifs at hn
  exact of_decide_eq_true (Option.filter_eq_some_iff.1 hn).2

/-- A count of an answer is not negative. -/
lemma Answer.count_nonneg {answer : Answer} {n : ℤ} (hn : answer.count = some n) : 0 ≤ n := by
  cases answer with
  | failed err => cases hn
  | response status purged => exact parseObjectsPurged_nonneg hn

/-- No reported count is negative. -/
lemma reported_nonneg : ∀ n ∈ reported env h r pods, 0 ≤ n := by
  unfold reported
  split
  · simp
  · intro n hn
    obtain ⟨p, -, hp⟩ := List.mem_filterMap.1 hn
    split_ifs at hp
    exact Answer.count_nonneg hp

/-- The entry of an answer has its count. -/
lemma Answer.objectsPurged_entry (pod : Text) (answer : Answer) :
    (answer.entry pod).objectsPurged = answer.count := by
  cases answer with
  | failed err => rfl
  | response status purged => rfl

/-- The entries have the counts that the pods report. -/
lemma counts_of_reports {out : Outcome} {port : Text} {reqs : List BroadcastRequest}
    (hreqs : h.requests env r = some (port, reqs))
    (hreports : out.Reports env h (withPort pods port) reqs) :
    out.result.results.filterMap (·.objectsPurged) = reported env h r pods := by
  have hclear : out.result.results.filterMap (·.objectsPurged) =
      (out.result.results.map PodResult.clearHost).filterMap (·.objectsPurged) := by
    rw [List.filterMap_map]
    rfl
  have hlength : (withPort pods port).length = pods.length := List.length_map _
  rw [hclear, hreports.entries, results_broadcasts, reported, hreqs, hlength]
  dsimp only
  rw [pairs, List.filterMap_flatMap, List.filterMap_flatMap]
  refine List.flatMap_congr fun k _ => ?_
  rw [List.filterMap_map, List.filterMap_map]
  refine List.filterMap_congr fun i _ => ?_
  dsimp only [Function.comp_apply]
  split_ifs with hbuild
  · rw [callAt_of_built hbuild]
    exact Answer.objectsPurged_entry _ _
  · obtain ⟨err, herr⟩ := Option.ne_none_iff_exists'.1 hbuild
    rw [callAt, callPod_of_error herr]

/-- The count of the result is the wrapped sum of those reported, if there are any. -/
lemma objectsPurged_of_reports {out : Outcome} {port : Text} {reqs : List BroadcastRequest}
    (hreqs : h.requests env r = some (port, reqs))
    (hreports : out.Reports env h (withPort pods port) reqs) :
    out.result.objectsPurged =
      if reported env h r pods = [] then none
      else some (Wrapping.sum (2 ^ 64) (reported env h r pods)) := by
  have hany : out.result.results.any (·.objectsPurged.isSome) = true ↔
      ¬reported env h r pods = [] := by
    rw [← counts_of_reports hreqs hreports, List.filterMap_eq_nil_iff, List.any_eq_true]
    simp [Option.isSome_iff_ne_none]
  rw [hreports.aggregated.objectsPurged, aggregateObjectsPurged_eq,
    counts_of_reports hreqs hreports]
  by_cases hnil : reported env h r pods = []
  · rw [if_neg fun h => hany.1 h hnil, if_pos hnil]
  · rw [if_pos (hany.2 hnil), if_neg hnil]

/-- The entry of a pod does not add to the total of purged objects. -/
lemma counter_recordPod {pr : PodResult} {inc : Increment} (hinc : inc ∈ recordPod env h pr) :
    inc.counter ≠ .objectsPurgedTotal := by
  unfold recordPod at hinc
  dsimp only at hinc
  rcases List.mem_cons.1 hinc with rfl | hinc
  · simp
  · split_ifs at hinc
    · obtain rfl := List.mem_singleton.1 hinc
      simp
    · cases hinc

/-- Only the count of the result goes to the counter of purged objects. -/
lemma objectsPurged_of_mem_record {res : BroadcastResult} {inc : Increment}
    (hinc : inc ∈ recordInvalidation env h res) (hcounter : inc.counter = .objectsPurgedTotal) :
    res.objectsPurged = some inc.value := by
  unfold recordInvalidation at hinc
  cases hmetrics : env.metrics with
  | false => simp [hmetrics] at hinc
  | true =>
    rw [hmetrics, Bool.not_true, if_neg Bool.false_ne_true] at hinc
    rcases List.mem_append.1 hinc with hinc | hpartial
    · rcases List.mem_append.1 hinc with hinc | hpods
      · rcases List.mem_append.1 hinc with houtcome | hcount
        · obtain rfl := List.mem_singleton.1 houtcome
          cases hcounter
        · obtain ⟨n, hn, rfl⟩ := List.mem_map.1 hcount
          exact Option.mem_toList.1 hn
      · obtain ⟨pr, -, hpr⟩ := List.mem_flatMap.1 hpods
        exact absurd hcounter (counter_recordPod hpr)
    · split_ifs at hpartial
      · obtain rfl := List.mem_singleton.1 hpartial
        cases hcounter
      · cases hpartial

end Counts

/-- **When the count is right.** The count of purged objects is a natural number and the sum of
those that the pods report, and the counter does not go down, just when the sum fits into 64
bits. -/
theorem countsRight_iff (env : Env) (h : Handler) (r : InvalidationRequest) (pods : List Text)
    (out : Outcome) (hout : handle env h r pods = .ok out) :
    CountsRight (reported env h r pods) out ↔ (reported env h r pods).sum < 2 ^ 63 := by
  obtain ⟨port, reqs, hreqs, hreports⟩ := reports_of_handle hout
  have htotal := objectsPurged_of_reports hreqs hreports
  have hsum : Wrapping.sum (2 ^ 64) (reported env h r pods) = (reported env h r pods).sum ↔
      (reported env h r pods).sum < 2 ^ 63 := by
    rw [Wrapping.sum_eq_iff (by decide) reported_nonneg]
    rfl
  constructor
  · intro hright
    split_ifs at htotal with hnil
    · rw [hnil]
      decide
    · rw [← hsum]
      exact (hright.total _ htotal).2
  · intro hfits
    have hright : ∀ n, out.result.objectsPurged = some n →
        0 ≤ n ∧ n = (reported env h r pods).sum := by
      intro n hn
      rw [htotal] at hn
      split_ifs at hn
      obtain rfl := Option.some.inj hn
      rw [hsum.2 hfits]
      exact ⟨List.sum_nonneg reported_nonneg, rfl⟩
    refine ⟨hright, fun inc hinc hcounter => ?_⟩
    rw [hreports.increments] at hinc
    exact (hright _ (objectsPurged_of_mem_record hinc hcounter)).1

/-- Two pods that have removed ten objects each. -/
theorem countsRight_iff_twenty : ∃ out,
    handle (uniformEnv (.response 200 "10")) .purge siteRequest ["10.0.0.1", "10.0.0.2"] = .ok out ∧
      CountsRight (reported (uniformEnv (.response 200 "10")) .purge siteRequest
        ["10.0.0.1", "10.0.0.2"]) out :=
  ⟨_, rfl, (countsRight_iff _ _ _ _ _ rfl).2 (by decide +kernel)⟩

/-- Two pods whose counts are the greatest that are accepted: the counter is to go down by two. -/
theorem greatestCounts_negative : ∃ out,
    handle (uniformEnv (.response 200 "9223372036854775807")) .purge siteRequest
        ["10.0.0.1", "10.0.0.2"] = .ok out ∧
      out.result.objectsPurged = some (-2) ∧
      (out.increments.filter fun inc => inc.counter = .objectsPurgedTotal).map (·.value) = [-2] ∧
      ¬CountsRight (reported (uniformEnv (.response 200 "9223372036854775807")) .purge siteRequest
        ["10.0.0.1", "10.0.0.2"]) out := by
  refine ⟨_, rfl, by decide +kernel, by decide +kernel, fun h => ?_⟩
  have htotal := (h.total (-2) (by decide +kernel)).1
  revert htotal
  decide

end CloudVinyl.Proxy
