import CloudVinyl.Controller.Status
import CloudVinyl.Lib.Runs

set_option relaxedAutoImplicit false
set_option autoImplicit false

/-!
# The recorded VCL along runs

A pass of `Reconcile` records the hash of the generated VCL in the status only if it has pushed it
(`updateStatus`). A pass that finds all reachable pods with the desired VCL leaves the recorded
hash as it is. Here passes follow each other, between edits of the resource and restarts of pods.

A pass may read an old version of the resource. The API server refuses its status then, and may
refuse it otherwise; `Reconcile` goes on in either case. A push may take effect on a pod whatever
the client returns for it, and also after the client has given up. A crash of the operator is a
pass in which some of the pushes take effect and the status is not written.

## Main definitions

* `Controller.Rollout` — the stored versions of the resource and the VCL of each pod.
* `Controller.Rollout.step` — a pass, an edit, a restart of a pod or a late push.
* `Controller.Rollout.Recorded` — the condition under which the recorded hash stays right.

## Main results

* `Controller.activeVCL_of_converged` — along recorded runs, a pass that finds all reachable pods
  with the desired VCL and writes the status leaves the hash of that VCL in it.
-/

namespace CloudVinyl.Controller

open Generator

/-! ## What the status records -/

/-- The hash in the status. -/
def activeHash (vc : VinylCache) : Option Text := vc.status.activeVCL.map (·.hash)

section Update

variable (now : ℤ) (vc : VinylCache)

/-- Setting a condition keeps the recorded hash. -/
lemma Sets.activeHash {type : ConditionType} {vc vc' : VinylCache} (h : Sets type vc vc') :
    activeHash vc' = activeHash vc := by
  obtain ⟨now, status, reason, message, rfl⟩ := h
  rfl

/-- An update records the hash if the VCL was pushed to a pod. -/
lemma activeHash_updateStatus (sts : StatefulSetRead) (obs : PodObservation) (hash : Text)
    (pushedCount : ℕ) :
    activeHash (updateStatus now sts vc obs hash pushedCount) =
      if 0 < pushedCount then some hash else activeHash vc := by
  have hkeep : activeHash (updateStatus now sts vc obs hash pushedCount) =
      activeHash (updateFields now sts vc obs hash pushedCount) :=
    (sets_updateReady now _ obs).activeHash.trans
      ((sets_updateProgressing now _ obs).activeHash.trans
        ((sets_updateBackendsAvailable now _ obs).activeHash.trans
          (sets_updateVCLSynced now _ obs).activeHash))
  rw [hkeep]
  simp only [activeHash, updateFields, setReplicaStatus]
  split_ifs <;> rfl

end Update

/-- The resource that a pass writes. -/
def PassEnd.written : PassEnd → VinylCache
  | .failed vc _ => vc
  | .updated vc _ => vc

/-- A push succeeds in the pass. -/
def Pass.pushes (p : Pass) : Bool := p.needing.any fun q => accepted (p.push q)

/-- The push returns the pods that took the VCL, or an error if there are none. -/
lemma pushVCL_of_ne_nil {results : List (PeerBackend × Option Text)} (hne : results ≠ []) :
    (results.any (fun r => accepted r.2) = false ∧ ∃ err, pushVCL results = .error err) ∨
      (results.any (fun r => accepted r.2) = true ∧
        ∃ pushed, pushed ≠ [] ∧ pushVCL results = .ok pushed) := by
  simp only [pushVCL, if_neg hne]
  split_ifs with hcount
  · rw [List.countP_eq_length] at hcount
    exact .inl ⟨by simpa using hcount, _, rfl⟩
  · rw [List.countP_eq_length] at hcount
    push Not at hcount
    obtain ⟨r, hr, hacc⟩ := hcount
    have hr' : accepted r.2 = true := by simpa using hacc
    refine .inr ⟨List.any_eq_true.2 ⟨r, hr, hr'⟩, _, ?_, rfl⟩
    have hmem : r ∈ results.filter fun r => accepted r.2 := List.mem_filter.2 ⟨hr, hr'⟩
    exact List.ne_nil_of_mem (List.mem_map_of_mem hmem)

/-- **A pass records its hash if and only if a push succeeds.** -/
theorem Pass.activeHash_finish (p : Pass) :
    activeHash p.finish.written = if p.pushes then some p.result.hash else activeHash p.vc := by
  unfold Pass.finish
  by_cases hnone : p.needing = []
  · have hpush : p.pushes = false := by simp [Pass.pushes, hnone]
    rw [if_pos hnone, hpush]
    exact activeHash_updateStatus _ _ _ _ _ _
  · rw [if_neg hnone]
    have hany : (p.needing.map fun q => (q, p.push q)).any (fun r => accepted r.2) = p.pushes := by
      simp [Pass.pushes, Function.comp_def]
    have hne : (p.needing.map fun q => (q, p.push q)) ≠ [] := by simpa using hnone
    rcases pushVCL_of_ne_nil hne with ⟨hno, err, herr⟩ | ⟨hyes, pushed, hpushed, hok⟩
    · rw [herr, ← hany, hno]
      rfl
    · rw [hok, ← hany, hyes]
      exact (activeHash_updateStatus _ _ _ _ _ _).trans
        (if_pos (List.length_pos_iff.2 hpushed))

/-! ## Passes, edits and restarts -/

/-- The stored resource with its earlier versions, the hash of the VCL that is active in the pod at
an address (`none` for the boot VCL), and the hash of the VCL that a pod has taken last. -/
structure Rollout where
  stored : VinylCache
  older : List VinylCache
  carried : Text → Option Text
  taken : Option Text

/-- What a pass meets: the age of the version that it reads, the generated VCL, the pods, which of
them say what they carry, what the client returns for each push and whether the push takes effect,
and whether the API server takes the status. -/
structure Encounter where
  age : ℕ
  result : Generator.Result
  reachable : List PeerBackend
  ready : List PeerBackend
  backendsWithoutEndpoints : List Text
  answers : Text → Bool
  push : PeerBackend → Option Text
  takes : PeerBackend → Bool
  now : ℤ
  sts : StatefulSetRead
  writes : Bool

/-- The status is written: the version that the pass has read is the stored one. -/
def Encounter.lands (e : Encounter) : Bool := e.writes && e.age == 0

/-- The name of its active VCL that a pod reports. -/
def reportedName (vc : VinylCache) : Option Text → Text
  | none => "boot"
  | some hash => vclNameFor vc hash

namespace Rollout

variable (r : Rollout)

/-- `Reconcile` from the observation of the pods on, if there is a version of that age. -/
def passOf (e : Encounter) : Option Pass :=
  (r.stored :: r.older)[e.age]?.map fun vc =>
    { vc := vc
      result := e.result
      observation :=
        { reachable := e.reachable
          ready := e.ready
          vclNames := fun ip => if e.answers ip then reportedName vc (r.carried ip) else ""
          backendsWithoutEndpoints := e.backendsWithoutEndpoints }
      push := e.push
      now := e.now
      sts := e.sts }

/-- The pods after the pushes of a pass. -/
def afterPush (p : Pass) (e : Encounter) : Rollout :=
  { r with
    carried := fun ip =>
      if p.needing.any fun q => q.ip = ip && e.takes q then some p.result.hash else r.carried ip
    taken := if p.needing.any e.takes then some p.result.hash else r.taken }

/-- A version is stored. -/
def write (vc : VinylCache) : Rollout := { r with stored := vc, older := r.stored :: r.older }

/-- What can happen to a rollout. -/
inductive Event where
  | pass (e : Encounter)
  /-- any write that leaves the recorded VCL alone -/
  | edit (vc : VinylCache)
  /-- a pod comes up with the boot VCL -/
  | restart (ip : Text)
  /-- a push takes effect after its pass is over -/
  | late (ip hash : Text)

/-- What an event does. -/
def step : Event → Rollout
  | .pass e =>
    match r.passOf e with
    | none => r
    | some p =>
      if e.lands then (r.afterPush p e).write p.finish.written else r.afterPush p e
  | .edit vc =>
    r.write { vc with
      namespace_ := r.stored.namespace_
      name := r.stored.name
      status := { vc.status with activeVCL := r.stored.status.activeVCL } }
  | .restart ip => { r with carried := Function.update r.carried ip none }
  | .late ip hash =>
    { r with carried := Function.update r.carried ip (some hash), taken := some hash }

/-- The resource is created, without a status, and its pods have the boot VCL. -/
def start (vc : VinylCache) : Rollout where
  stored := { vc with status := {} }
  older := []
  carried := fun _ => none
  taken := none

/-- The condition under which the recorded hash stays right. In a pass, a pod takes the VCL if and
only if a push succeeds and the status is written. If all reachable pods are found with the desired
VCL, one of them carries the VCL that was taken last, and the desired VCL is that one if their
hashes agree as far as names show them. A late push is one of the recorded VCL. -/
def Recorded : Event → Prop
  | .pass e => ∀ p, r.passOf e = some p →
    p.needing.any e.takes = (p.pushes && e.lands) ∧
    (p.needing = [] → e.reachable ≠ [] → e.lands = true →
      ∃ q ∈ e.reachable, ∃ hash, r.taken = some hash ∧ r.carried q.ip = some hash ∧
        (hash.take 8 = p.result.hash.take 8 → hash = p.result.hash))
  | .late _ hash => activeHash r.stored = some hash
  | _ => True

/-! ## The invariant -/

/-- The status records the VCL that was taken last. -/
def UpToDate : Prop := activeHash r.stored = r.taken

variable {r}

/-- A pass that reads the stored version. -/
lemma vc_of_passOf {e : Encounter} {p : Pass} (hp : r.passOf e = some p) (h : e.lands = true) :
    p.vc = r.stored := by
  have hage : e.age = 0 := by simpa [Encounter.lands] using (Bool.and_eq_true_iff.1 h).2
  rw [passOf, hage] at hp
  obtain rfl := Option.some.inj hp
  rfl

/-- A pass that meets the condition keeps the record up to date. -/
lemma upToDate_pass {e : Encounter} (h : r.UpToDate) (hr : r.Recorded (.pass e)) :
    (r.step (.pass e)).UpToDate := by
  simp only [step]
  split
  case h_1 => exact h
  case h_2 p hp =>
    have htakes := (hr p hp).1
    split_ifs with hlands
    · -- the pass records the hash exactly if it was taken
      change activeHash p.finish.written = _
      rw [Pass.activeHash_finish, vc_of_passOf hp hlands]
      simp only [write, afterPush, htakes, hlands, Bool.and_true]
      split_ifs
      · rfl
      · exact h
    · have hnone : p.needing.any e.takes = false := by simpa [hlands] using htakes
      change activeHash r.stored = _
      simp only [afterPush, hnone]
      exact h

/-- **Recorded steps keep the status up to date.** -/
theorem upToDate_step (e : Event) (h : r.UpToDate) (hr : r.Recorded e) : (r.step e).UpToDate := by
  cases e with
  | pass e => exact upToDate_pass h hr
  | edit vc => exact h
  | restart ip => exact h
  | late ip hash => exact hr

/-- The names of two VCLs of a cache agree if their hashes begin alike. -/
lemma vclNameFor_inj {vc : VinylCache} {h h' : Text} (heq : vclNameFor vc h = vclNameFor vc h') :
    h.take 8 = h'.take 8 :=
  List.append_cancel_left heq

/-- If all reachable pods are found with the desired VCL, it is the one that was taken last. -/
lemma taken_of_converged {e : Encounter} {p : Pass} (hr : r.Recorded (.pass e))
    (hp : r.passOf e = some p) (hlands : e.lands = true) (hne : e.reachable ≠ [])
    (hall : ∀ q ∈ e.reachable, p.observation.vclNames q.ip = p.desiredName) :
    p.needing = [] ∧ r.taken = some p.result.hash := by
  have hobs : p.observation.reachable = e.reachable ∧ p.observation.vclNames =
      fun ip => if e.answers ip then reportedName p.vc (r.carried ip) else "" := by
    obtain ⟨vc, -, rfl⟩ := Option.map_eq_some_iff.1 hp
    exact ⟨rfl, rfl⟩
  have hneeding : p.needing = [] := by
    rw [Pass.needing, podsNeedingVCL, hobs.1, List.filter_eq_nil_iff]
    intro q hq
    simp [hall q hq]
  obtain ⟨q, hq, hash, htaken, hcarried, hsame⟩ := (hr p hp).2 hneeding hne hlands
  refine ⟨hneeding, ?_⟩
  have hname := hall q hq
  rw [hobs.2] at hname
  simp only [hcarried, reportedName] at hname
  split_ifs at hname
  · rw [htaken, hsame (vclNameFor_inj hname)]
  · -- a pod that does not answer has no name
    exfalso
    have hlen := congrArg List.length hname
    simp [Pass.desiredName, vclNameFor] at hlen

end Rollout

open Rollout

/-- **The status tells the truth after convergence along recorded runs.** From the creation of the
resource, after any recorded steps, a pass that finds all reachable pods, at least one, with the
desired VCL, and whose status is written, leaves the hash of that VCL in the stored status.

**Proof sketch.** Every recorded step keeps the recorded hash equal to the one that was taken last
(`upToDate_step`). The pass finds a pod that carries the latter (`taken_of_converged`) and, since
it pushes nothing, leaves the former as it is. -/
theorem activeVCL_of_converged (vc : VinylCache) (events : List Rollout.Event) (e : Encounter)
    (p : Pass)
    (hrecorded : Runs.Guarded step Recorded (start vc) (events ++ [Rollout.Event.pass e]))
    (hp : (events.foldl step (start vc)).passOf e = some p)
    (hne : e.reachable ≠ [])
    (hall : ∀ q ∈ e.reachable, p.observation.vclNames q.ip = p.desiredName)
    (hlands : e.lands = true) :
    activeHash ((events ++ [Rollout.Event.pass e]).foldl step (start vc)).stored =
      some p.result.hash := by
  obtain ⟨hbefore, hlast, -⟩ := Runs.guarded_append.1 hrecorded
  have hupto : (events.foldl step (start vc)).UpToDate :=
    Runs.invariant (I := UpToDate) (fun _ e h hr => upToDate_step e h hr) rfl hbefore
  obtain ⟨hneeding, htaken⟩ := taken_of_converged hlast hp hlands hne hall
  have hafter := upToDate_step (.pass e) hupto hlast
  rw [List.foldl_append]
  refine Eq.trans hafter ?_
  -- the pass pushes nothing
  simp only [step, hp, if_pos hlands]
  simp only [write, afterPush, hneeding, List.any_nil]
  exact htaken

/-! ## A status that is not written -/

/-- A cache that no pass has seen. -/
def shopVC : VinylCache where
  namespace_ := "prod"
  name := "shop"
  spec := {}

/-- A pass over one pod that answers and takes what is pushed. -/
def onePodPass (writes : Bool) : Encounter where
  age := 0
  result := ⟨"vcl 4.1;", "2c26b46b68ffc68f"⟩
  reachable := [⟨"shop_0", "10.0.0.10", 8080⟩]
  ready := [⟨"shop_0", "10.0.0.10", 8080⟩]
  backendsWithoutEndpoints := []
  answers := fun _ => true
  push := fun _ => none
  takes := fun _ => true
  now := 0
  sts := .notFound
  writes := writes

/-- A pass whose status is written or not, and one that is written. -/
def twoPasses (writes : Bool) : List Rollout.Event :=
  [.pass (onePodPass writes), .pass (onePodPass true)]

/-- After two passes the record names the VCL of the pods. -/
theorem activeVCL_of_converged_twoPasses :
    activeHash ((twoPasses true).foldl step (start shopVC)).stored = some "2c26b46b68ffc68f" := by
  refine activeVCL_of_converged shopVC [.pass (onePodPass true)] (onePodPass true) _
    ⟨?_, ?_, trivial⟩ rfl (by decide) (by decide) rfl
  · intro p hp
    obtain rfl := Option.some.inj hp
    exact ⟨rfl, by decide⟩
  · intro p hp
    obtain rfl := Option.some.inj hp
    exact ⟨rfl, fun _ _ _ => ⟨_, List.mem_cons_self, _, rfl, rfl, fun _ => rfl⟩⟩

/-- **A status that is not written is never made up for.** The pod takes the VCL, but the status of
the first pass is not written. The second pass finds the pod with the desired VCL and its status is
written, without a hash. -/
theorem unwrittenStatus_stays_empty :
    (((start shopVC).step (.pass (onePodPass false))).passOf (onePodPass true)).map
        (fun p => (p.observation.reachable.map (fun q => p.observation.vclNames q.ip),
          p.desiredName)) =
        some ([("prod-shop-2c26b46b" : Text)], ("prod-shop-2c26b46b" : Text)) ∧
      (onePodPass true).lands = true ∧
      activeHash ((twoPasses false).foldl step (start shopVC)).stored = none := by
  decide

end CloudVinyl.Controller
