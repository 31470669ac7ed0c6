import CloudVinyl.Controller.Push

set_option relaxedAutoImplicit false
set_option autoImplicit false

/-!
# The status of a cache

`updateStatus`, `setErrorStatus` and `calculatePhase` of `internal/controller/status.go`, and the
part of `Reconcile` that leads to them: the pods that need the VCL, the push, and the status. The
functions return the resource that they write; one reading of the clock stands for the readings
of a whole update.

## Main definitions

* `Controller.setCondition`, `Controller.findCondition` — the conditions of the status.
* `Controller.updateStatus`, `Controller.setErrorStatus`, `Controller.calculatePhase`.
* `Controller.Pass` — what a pass of `Reconcile` knows and meets from the push on;
  `Controller.Pass.finish` — how it ends.

## Main results

* `Controller.vclSynced_updateStatus` — every update of the status reports the VCL as synced.
* `Controller.synced_truthful_iff` — that report is truthful if and only if no push failed.
-/

namespace CloudVinyl.Controller

open Generator

/-! ## Conditions -/

/-- The list of conditions with one of them set; only a change of the status is a transition. -/
def setIn (new : Condition) : List Condition → List Condition
  | [] => [new]
  | c :: cs =>
    if c.type = new.type then
      (if c.status = new.status then { new with lastTransitionTime := c.lastTransitionTime }
        else new) :: cs
    else c :: setIn new cs

/-- `setCondition` at the time `now`. -/
def setCondition (now : ℤ) (vc : VinylCache) (type : ConditionType) (status : ConditionStatus)
    (reason message : Text) : VinylCache :=
  { vc with status := { vc.status with
      conditions := setIn ⟨type, status, reason, message, now, vc.generation⟩
        vc.status.conditions } }

/-- `findCondition` -/
def findCondition (vc : VinylCache) (type : ConditionType) : Option Condition :=
  vc.status.conditions.find? fun c => c.type = type

/-- `findConditionStatus` -/
def findConditionStatus (vc : VinylCache) (type : ConditionType) : Option ConditionStatus :=
  (findCondition vc type).map (·.status)

/-! ## The phase -/

/-- `reasonScaledToZero` -/
def reasonScaledToZero : Text := "ScaledToZero"

/-- The cache was switched off on purpose. -/
def isStopped (vc : VinylCache) : Bool :=
  match findCondition vc .ready with
  | some c => c.status = .true_ && c.reason = reasonScaledToZero
  | none => false

/-- `calculatePhase` -/
def calculatePhase (vc : VinylCache) : Phase :=
  let vclSynced : Option ConditionStatus := findConditionStatus vc .vclSynced
  let backendsAvailable : Option ConditionStatus := findConditionStatus vc .backendsAvailable
  if isStopped vc then .stopped
  else if vclSynced = some .true_ ∧ backendsAvailable = some .true_ ∧
      vc.status.totalPeers ≤ vc.status.readyPeers then .ready
  else if vclSynced = some .false_ ∨ backendsAvailable = some .false_ then .degraded
  else .pending

/-! ## updateStatus -/

/-- `podObservation`; a pod that is not in the map has the empty name. -/
structure PodObservation where
  reachable : List PeerBackend
  ready : List PeerBackend
  vclNames : Text → Text
  backendsWithoutEndpoints : List Text

/-- What reading the StatefulSet gave. -/
inductive StatefulSetRead where
  | found (counts : ReplicaCounts)
  | notFound
  | failed

/-- `setReplicaStatus` -/
def setReplicaStatus (sts : StatefulSetRead) (vc : VinylCache) : VinylCache :=
  { vc with status := { vc.status with
      selector := "app=" ++ vc.name
      counts := match sts with
        | .found counts => counts
        | .notFound => {}
        | .failed => vc.status.counts } }

/-- `invalidationURL`: where the proxy is asked for this cache. -/
def invalidationURL (vc : VinylCache) : Text :=
  "http://" ++ vc.name ++ "-invalidation." ++ vc.namespace_ ++ ":8090"

/-- Two counts with a slash, as `%d/%d` prints them. -/
def ratio (ready replicas : ℤ) : Text :=
  Text.decimalInt ready ++ "/" ++ Text.decimalInt replicas

section Update

variable (now : ℤ) (sts : StatefulSetRead) (vc : VinylCache) (obs : PodObservation)

/-- The fields that are not conditions. -/
def updateFields (hash : Text) (pushedCount : ℕ) : VinylCache :=
  setReplicaStatus sts { vc with status := { vc.status with
    invalidationURL := invalidationURL vc
    activeVCL :=
      if 0 < pushedCount then some ⟨vc.namespace_ ++ "-" ++ vc.name, hash, now⟩
      else vc.status.activeVCL
    clusterPeers := obs.reachable.map fun p =>
      ⟨p.name, obs.ready.any fun q => q.name = p.name, obs.vclNames p.ip⟩
    readyPeers := obs.ready.length
    totalPeers := vc.spec.replicas } }

/-- The part of `updateStatus` for `VCLSynced`. -/
def updateVCLSynced : VinylCache :=
  if vc.spec.replicas = 0 then
    setCondition now vc .vclSynced .true_ reasonScaledToZero
      "scaled to zero replicas, no pods to push the VCL to"
  else
    setCondition now vc .vclSynced .true_ "VCLPushed"
      ("VCL active on " ++ ratio obs.ready.length vc.spec.replicas ++ " ready pods")

/-- The part of `updateStatus` for `BackendsAvailable`. -/
def updateBackendsAvailable : VinylCache :=
  if obs.backendsWithoutEndpoints ≠ [] then
    setCondition now vc .backendsAvailable .false_ "BackendWithoutEndpoints"
      ("no ready endpoints for backend(s): " ++ Text.join obs.backendsWithoutEndpoints ", ")
  else
    setCondition now vc .backendsAvailable .true_ "BackendsConfigured"
      "all backends have ready endpoints"

/-- The part of `updateStatus` for `Progressing`. -/
def updateProgressing : VinylCache :=
  if findConditionStatus vc .runtimeResolved = some .false_ then
    setCondition now vc .progressing .true_ "RuntimeNotInCatalog"
      ("the StatefulSet is held back because the runtime is not in the catalog " ++
        "(see condition RuntimeResolved)")
  else if vc.spec.replicas = 0 then
    setCondition now vc .progressing .false_ reasonScaledToZero
      "reconciliation complete, scaled to zero replicas"
  else if vc.spec.replicas ≤ obs.ready.length then
    setCondition now vc .progressing .false_ "ReconcileComplete" "reconciliation complete"
  else
    setCondition now vc .progressing .true_ "WaitingForReplicas"
      ("waiting for " ++ ratio obs.ready.length vc.spec.replicas ++ " replicas to become ready")

/-- The part of `updateStatus` for `Ready`. -/
def updateReady : VinylCache :=
  if vc.spec.replicas = 0 then
    setCondition now vc .ready .true_ reasonScaledToZero "scaled to zero replicas"
  else if vc.spec.replicas ≤ obs.ready.length then
    setCondition now vc .ready .true_ "AllReady" "VinylCache is ready"
  else
    setCondition now vc .ready .false_ "NotAllReady"
      (ratio obs.ready.length vc.spec.replicas ++ " replicas ready")

/-- The phase that follows from the conditions. -/
def updatePhase : VinylCache := { vc with status := { vc.status with phase := calculatePhase vc } }

/-- `updateStatus`: its parts one after the other. -/
def updateStatus (hash : Text) (pushedCount : ℕ) : VinylCache :=
  let vc := updateFields now sts vc obs hash pushedCount
  let vc := updateVCLSynced now vc obs
  let vc := updateBackendsAvailable now vc obs
  let vc := updateProgressing now vc obs
  updatePhase (updateReady now vc obs)

/-- `setErrorStatus` -/
def setErrorStatus (err : Text) : VinylCache :=
  let vc := { vc with status := { vc.status with phase := .error, message := err } }
  setCondition now (setCondition now vc .ready .false_ "ReconcileError" err)
    .vclSynced .false_ "VCLPushFailed" err

end Update

/-! ## What an update leaves behind -/

section Conditions

/-- The condition that was set is found, up to the time of its transition. -/
lemma find?_setIn (new : Condition) (l : List Condition) :
    ∃ t, (setIn new l).find? (fun c => c.type = new.type) =
      some { new with lastTransitionTime := t } := by
  induction l with
  | nil => exact ⟨new.lastTransitionTime, by simp [setIn]⟩
  | cons c l ih =>
    unfold setIn
    split_ifs with htype hstatus
    · exact ⟨c.lastTransitionTime, by simp⟩
    · exact ⟨new.lastTransitionTime, by simp⟩
    · simpa [List.find?_cons, htype] using ih

/-- Setting a condition leaves those of other types alone. -/
lemma find?_setIn_of_ne {new : Condition} {type : ConditionType} (h : type ≠ new.type)
    (l : List Condition) :
    (setIn new l).find? (fun c => c.type = type) = l.find? (fun c => c.type = type) := by
  induction l with
  | nil => simp [setIn, h.symm]
  | cons c l ih =>
    unfold setIn
    split_ifs with htype hstatus
    · simp [htype, h.symm]
    · simp [htype, h.symm]
    · rw [List.find?_cons, List.find?_cons, ih]

variable (now : ℤ) (vc : VinylCache) (type : ConditionType) (status : ConditionStatus)
  (reason message : Text)

/-- A condition that was set is found. -/
lemma findCondition_setCondition : ∃ t, findCondition
    (setCondition now vc type status reason message) type =
      some ⟨type, status, reason, message, t, vc.generation⟩ :=
  find?_setIn ⟨type, status, reason, message, now, vc.generation⟩ vc.status.conditions

/-- Other conditions are found as before. -/
lemma findCondition_setCondition_of_ne {type' : ConditionType} (h : type' ≠ type) :
    findCondition (setCondition now vc type status reason message) type' =
      findCondition vc type' :=
  @find?_setIn_of_ne ⟨type, status, reason, message, now, vc.generation⟩ _ h vc.status.conditions

/-- The status of a condition that was set. -/
lemma findConditionStatus_setCondition :
    findConditionStatus (setCondition now vc type status reason message) type = some status := by
  obtain ⟨t, ht⟩ := findCondition_setCondition now vc type status reason message
  rw [findConditionStatus, ht]
  rfl

end Conditions

/-! ## updateStatus as a whole -/

/-- The second resource is the first one with a condition of the given type set. -/
def Sets (type : ConditionType) (vc vc' : VinylCache) : Prop :=
  ∃ now status reason message, vc' = setCondition now vc type status reason message

section Sets

variable {type type' : ConditionType} {vc vc' : VinylCache}

/-- Conditions of other types are found as before. -/
lemma Sets.findCondition (h : Sets type vc vc') (hne : type' ≠ type) :
    findCondition vc' type' = findCondition vc type' := by
  obtain ⟨now, status, reason, message, rfl⟩ := h
  exact findCondition_setCondition_of_ne now vc type status reason message hne

end Sets

section Update

variable (now : ℤ) (sts : StatefulSetRead) (vc : VinylCache) (obs : PodObservation) (hash : Text)
  (pushedCount : ℕ)

/-- `VCLSynced` is all that its part sets. -/
lemma sets_updateVCLSynced : Sets .vclSynced vc (updateVCLSynced now vc obs) := by
  unfold updateVCLSynced
  split_ifs <;> exact ⟨_, _, _, _, rfl⟩

/-- `BackendsAvailable` is all that its part sets. -/
lemma sets_updateBackendsAvailable :
    Sets .backendsAvailable vc (updateBackendsAvailable now vc obs) := by
  unfold updateBackendsAvailable
  split_ifs <;> exact ⟨_, _, _, _, rfl⟩

/-- `Progressing` is all that its part sets. -/
lemma sets_updateProgressing : Sets .progressing vc (updateProgressing now vc obs) := by
  unfold updateProgressing
  split_ifs <;> exact ⟨_, _, _, _, rfl⟩

/-- `Ready` is all that its part sets. -/
lemma sets_updateReady : Sets .ready vc (updateReady now vc obs) := by
  unfold updateReady
  split_ifs <;> exact ⟨_, _, _, _, rfl⟩

/-- **Every update reports the VCL as synced**, whatever was pushed. -/
theorem vclSynced_updateStatus :
    findConditionStatus (updateStatus now sts vc obs hash pushedCount) .vclSynced =
      some .true_ := by
  have hset : ∀ vc, findConditionStatus (updateVCLSynced now vc obs) .vclSynced = some .true_ := by
    intro vc
    unfold updateVCLSynced
    split_ifs <;> exact findConditionStatus_setCondition _ _ _ _ _ _
  have hkeep : findCondition (updateStatus now sts vc obs hash pushedCount) .vclSynced =
      findCondition (updateVCLSynced now (updateFields now sts vc obs hash pushedCount) obs)
        .vclSynced :=
    ((sets_updateReady now _ obs).findCondition (by decide)).trans
      (((sets_updateProgressing now _ obs).findCondition (by decide)).trans
        ((sets_updateBackendsAvailable now _ obs).findCondition (by decide)))
  rw [findConditionStatus, hkeep]
  exact hset _

end Update

/-! ## A pass of Reconcile -/

/-- What a pass of `Reconcile` knows and meets from the push on: the resource, the generated VCL,
the observed pods, what the client returns for each of them, the clock and the StatefulSet. -/
structure Pass where
  vc : VinylCache
  result : Generator.Result
  observation : PodObservation
  push : PeerBackend → Option Text
  now : ℤ
  sts : StatefulSetRead

/-- How a pass ends: in `setErrorStatus` or in `updateStatus`, with the time of the next pass. -/
inductive PassEnd where
  | failed (vc : VinylCache) (requeueAfter : ℤ)
  | updated (vc : VinylCache) (requeueAfter : ℤ)

/-- A number of seconds in nanoseconds. -/
def seconds (n : ℤ) : ℤ := 1000000000 * n

/-- `pushRetryInterval` -/
def pushRetryInterval (vc : VinylCache) : ℤ :=
  if 0 < vc.spec.backoffBase then vc.spec.backoffBase else seconds 30

namespace Pass

variable (p : Pass)

/-- The name under which the VCL is pushed. -/
def desiredName : Text := vclNameFor p.vc p.result.hash

/-- The pods that are pushed to. -/
def needing : List PeerBackend :=
  podsNeedingVCL p.observation.reachable p.observation.vclNames p.desiredName

/-- The observation with the pods that took the VCL. -/
def recorded (pushed : List PeerBackend) : PodObservation where
  reachable := p.observation.reachable
  ready := p.observation.ready
  vclNames ip :=
    if (pushed.map (·.ip)).contains ip then p.desiredName else p.observation.vclNames ip
  backendsWithoutEndpoints := p.observation.backendsWithoutEndpoints

/-- `updateStatus` and what follows it. -/
def update (obs : PodObservation) (pushedCount : ℕ) : PassEnd :=
  .updated (updateStatus p.now p.sts p.vc obs p.result.hash pushedCount)
    (if p.observation.ready.length < p.vc.spec.replicas then seconds 5 else seconds 300)

/-- `Reconcile`, from the pods that need the VCL on. -/
def finish : PassEnd :=
  if p.needing = [] then p.update p.observation 0
  else
    match pushVCL (p.needing.map fun q => (q, p.push q)) with
    | .error err => .failed (setErrorStatus p.now p.vc err) (pushRetryInterval p.vc)
    | .ok pushed => p.update (p.recorded pushed) pushed.length

/-- After the push a pod counts as carrying the desired VCL: it was observed with it, or its push
is one that `pushVCL` counts as a success. These are the pushes without an error and those that are
answered with `Already a VCL named`. -/
def CountsAsCarrying (q : PeerBackend) : Prop :=
  p.observation.vclNames q.ip = p.desiredName ∨ q ∈ p.needing ∧ accepted (p.push q) = true

/-- What the condition and the phase promise: the VCL is reported as synced only if every
reachable pod counts as carrying it, and neither the condition nor the phase hides a push that
failed. -/
def Truthful (vc : VinylCache) : Prop :=
  (findConditionStatus vc .vclSynced = some .true_ →
    ∀ q ∈ p.observation.reachable, p.CountsAsCarrying q) ∧
  ((∃ q ∈ p.needing, accepted (p.push q) = false) →
    (∃ q ∈ p.needing, accepted (p.push q) = true) →
    findConditionStatus vc .vclSynced ≠ some .true_ ∧ vc.status.phase ≠ .ready)

variable {p}

/-- An update comes with the condition. -/
lemma vclSynced_of_updated {vc : VinylCache} {requeueAfter : ℤ}
    (h : p.finish = .updated vc requeueAfter) :
    findConditionStatus vc .vclSynced = some .true_ := by
  have hupdate : ∀ {obs n}, p.update obs n = .updated vc requeueAfter →
      findConditionStatus vc .vclSynced = some .true_ := by
    intro obs n h
    obtain ⟨rfl, -⟩ := PassEnd.updated.inj h
    exact vclSynced_updateStatus _ _ _ _ _ _
  unfold finish at h
  split_ifs at h
  · exact hupdate h
  · split at h
    · cases h
    · exact hupdate h

/-- A pass that pushed and ends in an update had a push that succeeded. -/
lemma exists_accepted_of_updated {vc : VinylCache} {requeueAfter : ℤ}
    (h : p.finish = .updated vc requeueAfter) (hneeding : p.needing ≠ []) :
    ∃ q ∈ p.needing, accepted (p.push q) = true := by
  unfold finish at h
  rw [if_neg hneeding] at h
  split at h
  · cases h
  · rename_i pushed hpushed
    obtain ⟨r, hr, hacc⟩ := exists_accepted_of_pushVCL (by simpa using hneeding) hpushed
    obtain ⟨q, hq, rfl⟩ := List.mem_map.1 hr
    exact ⟨q, hq, hacc⟩

end Pass

/-- **The report is truthful if and only if no push failed.**

**Proof sketch.** An update always reports the VCL as synced. If a push failed, another one
succeeded, or else the pass would have ended with an error, and the report hides the failure. If
none failed, every reachable pod was observed with the VCL or took it. -/
theorem synced_truthful_iff {p : Pass} {vc : VinylCache} {requeueAfter : ℤ}
    (h : p.finish = .updated vc requeueAfter) :
    p.Truthful vc ↔ ∀ q ∈ p.needing, accepted (p.push q) = true := by
  have hsynced := Pass.vclSynced_of_updated h
  constructor
  · intro htruth q hq
    by_contra hfail
    obtain ⟨q', hq', hacc⟩ := Pass.exists_accepted_of_updated h (List.ne_nil_of_mem hq)
    exact (htruth.2 ⟨q, hq, Bool.eq_false_iff.2 hfail⟩ ⟨q', hq', hacc⟩).1 hsynced
  · intro hall
    refine ⟨fun _ q hq => ?_, fun ⟨q, hq, hfail⟩ _ => ?_⟩
    · by_cases hname : p.observation.vclNames q.ip = p.desiredName
      · exact .inl hname
      · have hneeding : q ∈ p.needing := List.mem_filter.2 ⟨hq, decide_eq_true hname⟩
        exact .inr ⟨hneeding, hall q hneeding⟩
    · exact absurd (hall q hq) (Bool.eq_false_iff.1 hfail)

/-! ## A pass over two pods -/

/-- Two ready pods with the boot VCL; `push` is what the client returns for each. -/
def twoPodPass (push : PeerBackend → Option Text) : Pass where
  vc :=
    { namespace_ := "prod"
      name := "shop"
      spec := { replicas := 2, backends := [{ name := "app" }] } }
  result := ⟨"vcl 4.1;", "2c26b46b68ffc68f"⟩
  observation :=
    { reachable := [⟨"shop_0", "10.0.0.10", 8080⟩, ⟨"shop_1", "10.0.0.11", 8080⟩]
      ready := [⟨"shop_0", "10.0.0.10", 8080⟩, ⟨"shop_1", "10.0.0.11", 8080⟩]
      vclNames := fun _ => "boot"
      backendsWithoutEndpoints := [] }
  push := push
  now := 0
  sts := .notFound

/-- Both pods take the VCL. -/
theorem twoPodPass_truthful :
    ∃ vc requeueAfter, (twoPodPass fun _ => none).finish = .updated vc requeueAfter ∧
      (twoPodPass fun _ => none).Truthful vc :=
  ⟨_, _, rfl, (synced_truthful_iff rfl).2 (by decide +kernel)⟩

/-- The second pod refuses the VCL. -/
def secondRefuses (q : PeerBackend) : Option Text :=
  if q.ip = "10.0.0.11" then some "agent push returned HTTP 500: vcl.inline failed" else none

/-- **A push that failed is hidden.** One of two pods refuses the VCL. The pass ends in
`updateStatus`, the condition says that the VCL is synced, and the phase is `Ready`. -/
theorem secondRefuses_hidden :
    ∃ vc requeueAfter, (twoPodPass secondRefuses).finish = .updated vc requeueAfter ∧
      findConditionStatus vc .vclSynced = some .true_ ∧ vc.status.phase = .ready ∧
      ∃ q ∈ (twoPodPass secondRefuses).observation.reachable,
        (twoPodPass secondRefuses).observation.vclNames q.ip ≠
          (twoPodPass secondRefuses).desiredName ∧
        accepted ((twoPodPass secondRefuses).push q) = false := by
  refine ⟨_, _, rfl, ?_, ?_, ?_⟩
  · decide +kernel
  · decide +kernel
  · decide +kernel

end CloudVinyl.Controller
