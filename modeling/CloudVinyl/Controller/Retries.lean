import CloudVinyl.Controller.Status

set_option relaxedAutoImplicit false
set_option autoImplicit false

/-!
# Retries of failed pushes

A push is tried once per pass, and the next pass is the retry. When it comes is decided at three
places of `Reconcile`: after a push that failed on all pods it is `pushRetryInterval`, and otherwise
it depends on whether all replicas are ready. A push that failed on some of the pods only is not
asked about there, and a pod that keeps its old VCL stays ready.

A pod that answers `Already a VCL named` has the VCL loaded, but it was not told to use it.
`pushVCL` counts the answer as a success; here such a pod does not carry the VCL.

## Main definitions

* `Controller.PassEnd.requeueAfter` — when the next pass comes.
* `Controller.Pass.Carries` — a pod was observed with the VCL, or the push reported it as done.
* `Controller.Pass.RetriesInTime` — a pass that leaves a pod without the VCL comes back within the
  configured interval.

## Main results

* `Controller.Pass.requeueAfter_finish` — the three exits.
* `Controller.retriesInTime_iff` — which passes come back in time.
-/

namespace CloudVinyl.Controller

open Generator

/-- `ctrl.Result.RequeueAfter` of a pass. -/
def PassEnd.requeueAfter : PassEnd → ℤ
  | .failed _ after => after
  | .updated _ after => after

/-- The push fails for all pods. -/
lemma pushVCL_eq_error_iff {results : List (PeerBackend × Option Text)} (hne : results ≠ []) :
    (∃ err, pushVCL results = .error err) ↔ ∀ r ∈ results, accepted r.2 = false := by
  have hcount : (results.countP fun r => !accepted r.2) = results.length ↔
      ∀ r ∈ results, accepted r.2 = false := by
    rw [List.countP_eq_length]
    simp only [Bool.not_eq_true']
  rw [← hcount]
  simp only [pushVCL, if_neg hne]
  split_ifs with hall
  · exact ⟨fun _ => hall, fun _ => ⟨_, rfl⟩⟩
  · constructor
    · rintro ⟨err, herr⟩
      cases herr
    · intro h
      exact absurd h hall

namespace Pass

variable {p : Pass}

/-- After the push a pod carries the desired VCL: it was observed with it, or the client returned
without an error. -/
def Carries (p : Pass) (q : PeerBackend) : Prop :=
  p.observation.vclNames q.ip = p.desiredName ∨ q ∈ p.needing ∧ p.push q = none

/-- The reachable pods that a pass leaves without the VCL are those whose push ended with an
error. -/
lemma not_carries_iff {q : PeerBackend} (hq : q ∈ p.observation.reachable) :
    ¬p.Carries q ↔ q ∈ p.needing ∧ p.push q ≠ none := by
  have hneeding : q ∈ p.needing ↔ p.observation.vclNames q.ip ≠ p.desiredName := by
    rw [needing, podsNeedingVCL, List.mem_filter, decide_eq_true_eq]
    exact and_iff_right hq
  rw [Carries, not_or, hneeding]
  exact and_congr_right fun hname => not_congr (and_iff_right hname)

/-- **The three exits.** The configured interval is used when all pushes failed. -/
lemma requeueAfter_finish (p : Pass) :
    p.finish.requeueAfter =
      if p.needing ≠ [] ∧ ∀ q ∈ p.needing, accepted (p.push q) = false then pushRetryInterval p.vc
      else if p.observation.ready.length < p.vc.spec.replicas then seconds 5 else seconds 300 := by
  unfold finish
  by_cases hneeding : p.needing = []
  · rw [if_pos hneeding, if_neg fun h => h.1 hneeding]
    rfl
  · have hresults : p.needing.map (fun q => (q, p.push q)) ≠ [] := by simpa using hneeding
    have herror := pushVCL_eq_error_iff hresults
    rw [List.forall_mem_map] at herror
    rw [if_neg hneeding]
    split
    · next err herr => rw [if_pos ⟨hneeding, herror.1 ⟨err, herr⟩⟩, PassEnd.requeueAfter]
    · next pushed hpushed =>
      have hsome : ¬∀ q ∈ p.needing, accepted (p.push q) = false := fun hall => by
        obtain ⟨err, herr⟩ := herror.2 hall
        exact nomatch hpushed.symm.trans herr
      rw [if_neg fun h => hsome h.2]
      rfl

/-- A pass that leaves a reachable pod without the VCL is followed by another one, at the latest
after the configured interval. -/
def RetriesInTime (p : Pass) : Prop :=
  (∃ q ∈ p.observation.reachable, ¬p.Carries q) →
    0 < p.finish.requeueAfter ∧ p.finish.requeueAfter ≤ pushRetryInterval p.vc

end Pass

/-- **Which passes come back in time.** Those in which no push ended with an error, or `pushVCL`
counts none of them as a success, or the fixed interval that follows an update is short enough.

**Proof sketch.** A pod is left without the VCL exactly if its push ended with an error. If no push
counts as a success, the pass comes back after the configured interval. Otherwise it comes back
after five seconds or five minutes, whatever is configured. -/
theorem retriesInTime_iff (p : Pass) (hbase : 0 < p.vc.spec.backoffBase) :
    p.RetriesInTime ↔
      (∀ q ∈ p.needing, p.push q = none) ∨
        (∀ q ∈ p.needing, accepted (p.push q) = false) ∨
        seconds 300 ≤ p.vc.spec.backoffBase ∨
        p.observation.ready.length < p.vc.spec.replicas ∧ seconds 5 ≤ p.vc.spec.backoffBase := by
  have hinterval : pushRetryInterval p.vc = p.vc.spec.backoffBase := if_pos hbase
  have hleft : (∃ q ∈ p.observation.reachable, ¬p.Carries q) ↔
      ¬∀ q ∈ p.needing, p.push q = none := by
    push Not
    constructor
    · rintro ⟨q, hq, hcarries⟩
      exact ⟨q, (Pass.not_carries_iff hq).1 hcarries⟩
    · rintro ⟨q, hneeding, hfail⟩
      have hq : q ∈ p.observation.reachable := (List.mem_filter.1 hneeding).1
      exact ⟨q, hq, (Pass.not_carries_iff hq).2 ⟨hneeding, hfail⟩⟩
  rw [Pass.RetriesInTime, hleft, Pass.requeueAfter_finish, hinterval]
  by_cases hnone : ∀ q ∈ p.needing, p.push q = none
  · exact ⟨fun _ => .inl hnone, fun _ hsome => absurd hnone hsome⟩
  have hneeding : p.needing ≠ [] := fun hnil => hnone (by simp [hnil])
  simp only [hnone, not_false_eq_true, true_implies, false_or]
  by_cases hall : ∀ q ∈ p.needing, accepted (p.push q) = false
  · rw [if_pos ⟨hneeding, hall⟩]
    exact ⟨fun _ => .inl hall, fun _ => ⟨hbase, le_refl _⟩⟩
  · rw [if_neg fun h => hall h.2]
    simp only [hall, false_or, seconds]
    split_ifs with hready
    · exact ⟨fun h => .inr ⟨hready, h.2⟩, fun h => ⟨by decide, by omega⟩⟩
    · exact ⟨fun h => .inl h.2, fun h => ⟨by decide, by omega⟩⟩

/-! ## A pod that refuses the VCL -/

/-- The pass over two ready pods of a cache that asks for retries after half a minute. -/
def halfMinutePass (push : PeerBackend → Option Text) : Pass :=
  let p := twoPodPass push
  { p with vc := { p.vc with spec := { p.vc.spec with backoffBase := seconds 30 } } }

/-- If all pods refuse, the pass comes back after the configured interval. -/
theorem retriesInTime_iff_allRefuse :
    (halfMinutePass fun _ => some "connection refused").RetriesInTime :=
  (retriesInTime_iff (halfMinutePass fun _ => some "connection refused") (by decide)).2
    (.inr (.inl (by decide +kernel)))

/-- **A push that failed on one of two pods** is retried after five minutes, where half a minute is
configured. -/
theorem secondRefuses_retriedLate :
    pushRetryInterval (halfMinutePass secondRefuses).vc = seconds 30 ∧
      (halfMinutePass secondRefuses).finish.requeueAfter = seconds 300 ∧
      ¬(halfMinutePass secondRefuses).RetriesInTime := by
  have hafter : (halfMinutePass secondRefuses).finish.requeueAfter = seconds 300 := by
    rw [Pass.requeueAfter_finish]
    decide +kernel
  refine ⟨rfl, hafter, fun h => ?_⟩
  have hlate := (h ⟨⟨"shop_1", "10.0.0.11", 8080⟩, by decide +kernel, ?_⟩).2
  · rw [hafter] at hlate
    exact absurd hlate (by decide)
  · rw [Pass.not_carries_iff (by decide +kernel)]
    decide +kernel

end CloudVinyl.Controller
