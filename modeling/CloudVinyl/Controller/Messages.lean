import CloudVinyl.Controller.Convergence
import CloudVinyl.Controller.Retries

set_option relaxedAutoImplicit false
set_option autoImplicit false

/-!
# The message in the status

`status.message` is documented as the explanation of the current phase. A pass of `Reconcile` ends
in one of two places. `setErrorStatus` writes the phase `Error` and the text of the error;
`updateStatus` writes the phase that follows from the conditions and leaves the message as it is.
Here passes follow each other, and each one finds the phase and the message that the last one has
written. What else a pass reads is free: the specification may have been edited in between.

## Main definitions

* `Controller.Reconciliation` — what a pass meets, from the generator on.
* `Controller.Reconciliation.fails` — the generator fails, or no pod takes the VCL.
* `Controller.Reconciliation.errorText` — the text of the error.
* `Controller.MessagesMatch` — outside of the phase `Error`, the message is no error text.

## Main results

* `Controller.message_runPasses` — the message along a run is the text of the last error.
* `Controller.messagesMatch_iff` — the runs along which the message matches the phase.
-/

namespace CloudVinyl.Controller

open Generator

/-! ## What updateStatus leaves alone -/

/-- Setting a condition keeps the message. -/
lemma Sets.message {type : ConditionType} {vc vc' : VinylCache} (h : Sets type vc vc') :
    vc'.status.message = vc.status.message := by
  obtain ⟨now, status, reason, message, rfl⟩ := h
  rfl

/-- An update keeps the message. -/
lemma message_updateStatus (now : ℤ) (sts : StatefulSetRead) (vc : VinylCache)
    (obs : PodObservation) (hash : Text) (pushedCount : ℕ) :
    (updateStatus now sts vc obs hash pushedCount).status.message = vc.status.message := by
  unfold updateStatus
  calc _ = (updateProgressing now _ obs).status.message := (sets_updateReady now _ obs).message
    _ = (updateBackendsAvailable now _ obs).status.message :=
      (sets_updateProgressing now _ obs).message
    _ = (updateVCLSynced now _ obs).status.message :=
      (sets_updateBackendsAvailable now _ obs).message
    _ = (updateFields now sts vc obs hash pushedCount).status.message :=
      (sets_updateVCLSynced now _ obs).message
    _ = vc.status.message := rfl

/-- The phase that follows from the conditions is never `Error`. -/
lemma calculatePhase_ne_error (vc : VinylCache) : calculatePhase vc ≠ .error := by
  simp only [calculatePhase]
  split_ifs <;> simp

/-! ## Passes -/

/-- What a pass of `Reconcile` meets: the resource, whose phase and message are those that are
stored; what the generator returns; the pods, and what the client returns for each push. -/
structure Reconciliation where
  vc : VinylCache
  generated : Except Text Generator.Result
  observation : PodObservation
  push : PeerBackend → Option Text
  now : ℤ
  sts : StatefulSetRead

namespace Reconciliation

variable (r : Reconciliation)

/-- The resource that the pass reads. -/
def read (stored : VinylCache) : VinylCache :=
  { r.vc with status := { r.vc.status with
      phase := stored.status.phase
      message := stored.status.message } }

/-- The pass from the generated VCL on. -/
def pass (stored : VinylCache) (result : Generator.Result) : Pass where
  vc := r.read stored
  result := result
  observation := r.observation
  push := r.push
  now := r.now
  sts := r.sts

/-- `Reconcile`, from the generator on. -/
def finish (stored : VinylCache) : PassEnd :=
  match r.generated with
  | .error err => .failed (setErrorStatus r.now (r.read stored) err) 0
  | .ok result => (r.pass stored result).finish

/-- The pods that do not carry the generated VCL. -/
def needing (result : Generator.Result) : List PeerBackend :=
  podsNeedingVCL r.observation.reachable r.observation.vclNames (vclNameFor r.vc result.hash)

/-- The generator returns an error, or there are pods to push to and each of them refuses. -/
def fails : Bool :=
  match r.generated with
  | .error _ => true
  | .ok result =>
    !(r.needing result).isEmpty && (r.needing result).all fun q => !accepted (r.push q)

/-- The text of the error, of the generator or of `pushVCL`. -/
def errorText : Option Text :=
  match r.generated with
  | .error err => some err
  | .ok result =>
    if r.needing result = [] then none
    else
      match pushVCL ((r.needing result).map fun q => (q, r.push q)) with
      | .error err => some err
      | .ok _ => none

/-- There is an error text for the passes that fail. -/
lemma isSome_errorText : r.errorText.isSome = r.fails := by
  unfold errorText fails
  cases r.generated with
  | error err => rfl
  | ok result =>
    by_cases hneeding : r.needing result = []
    · simp [hneeding]
    · have hresults : (r.needing result).map (fun q => (q, r.push q)) ≠ [] := by
        simpa using hneeding
      have hall := pushVCL_eq_error_iff hresults
      rw [List.forall_mem_map] at hall
      simp only [if_neg hneeding, List.isEmpty_eq_false_iff.2 hneeding, Bool.not_false,
        Bool.true_and]
      rw [Bool.eq_iff_iff, List.all_eq_true]
      simp only [Bool.not_eq_true', ← hall]
      cases pushVCL ((r.needing result).map fun q => (q, r.push q)) with
      | error err => simp
      | ok pushed => simp

/-- The two places where a pass ends. -/
lemma finish_cases (stored : VinylCache) :
    (∃ err after, r.errorText = some err ∧
      r.finish stored = .failed (setErrorStatus r.now (r.read stored) err) after) ∨
    (∃ p obs pushedCount, r.errorText = none ∧ p.vc = r.read stored ∧
      r.finish stored = Pass.update p obs pushedCount) := by
  unfold errorText finish
  cases r.generated with
  | error err => exact .inl ⟨err, 0, rfl, rfl⟩
  | ok result =>
    have hneeding : (r.pass stored result).needing = r.needing result := rfl
    have hpush : (r.pass stored result).push = r.push := rfl
    simp only [Pass.finish, hneeding, hpush]
    split_ifs
    · exact .inr ⟨r.pass stored result, _, _, rfl, rfl, rfl⟩
    · cases pushVCL ((r.needing result).map fun q => (q, r.push q)) with
      | error err => exact .inl ⟨err, _, rfl, rfl⟩
      | ok pushed => exact .inr ⟨r.pass stored result, _, _, rfl, rfl, rfl⟩

/-- A pass that fails writes the phase `Error` and the text. -/
lemma written_of_errorText {err : Text} (h : r.errorText = some err) (stored : VinylCache) :
    (r.finish stored).written.status.phase = .error ∧
      (r.finish stored).written.status.message = err := by
  obtain ⟨err', after, herr, hfinish⟩ | ⟨p, obs, n, hnone, -⟩ := r.finish_cases stored
  · obtain rfl := Option.some.inj (h.symm.trans herr)
    rw [hfinish]
    exact ⟨rfl, rfl⟩
  · rw [hnone] at h
    cases h

/-- A pass that does not fail writes another phase, and keeps the message. -/
lemma written_of_not_errorText (h : r.errorText = none) (stored : VinylCache) :
    (r.finish stored).written.status.phase ≠ .error ∧
      (r.finish stored).written.status.message = stored.status.message := by
  obtain ⟨err, after, herr, -⟩ | ⟨p, obs, n, -, hread, hfinish⟩ := r.finish_cases stored
  · rw [herr] at h
    cases h
  · have hkept : p.vc.status.message = stored.status.message := by
      rw [hread]
      rfl
    rw [hfinish]
    exact ⟨calculatePhase_ne_error _, (message_updateStatus ..).trans hkept⟩

end Reconciliation

/-! ## Runs -/

/-- Passes one after the other, each of which writes its status. -/
def runPasses (stored : VinylCache) (rs : List Reconciliation) : VinylCache :=
  rs.foldl (fun stored r => (r.finish stored).written) stored

/-- The texts of the errors of some passes. -/
def errorTexts (rs : List Reconciliation) : List Text := rs.filterMap Reconciliation.errorText

/-- At any time along the run, if the stored phase is not `Error`, then the stored message is not
the error text of a pass before. -/
def MessagesMatch (stored : VinylCache) (rs : List Reconciliation) : Prop :=
  ∀ done, done <+: rs → (runPasses stored done).status.phase ≠ .error →
    (runPasses stored done).status.message ∉ errorTexts done

variable (stored : VinylCache) (r : Reconciliation) (done : List Reconciliation)

/-- One pass more. -/
lemma runPasses_snoc :
    runPasses stored (done ++ [r]) = (r.finish (runPasses stored done)).written := by
  simp only [runPasses, List.foldl_append, List.foldl_cons, List.foldl_nil]

/-- The texts of the errors with one pass more. -/
lemma errorTexts_snoc : errorTexts (done ++ [r]) = errorTexts done ++ r.errorText.toList := by
  unfold errorTexts
  rw [List.filterMap_append]
  cases h : r.errorText <;> simp [h]

/-- There are no texts if no pass has failed. -/
lemma errorTexts_eq_nil_iff : errorTexts done = [] ↔ ∀ r ∈ done, r.fails = false := by
  simp only [errorTexts, List.filterMap_eq_nil_iff, ← Reconciliation.isSome_errorText,
    Option.isSome_eq_false_iff, Option.isNone_iff_eq_none]

/-- The phase tells whether the last pass has failed. -/
lemma phase_runPasses_snoc :
    (runPasses stored (done ++ [r])).status.phase = .error ↔ r.fails = true := by
  rw [runPasses_snoc, ← r.isSome_errorText]
  cases h : r.errorText with
  | none => simpa using (r.written_of_not_errorText h _).1
  | some err => simpa using (r.written_of_errorText h _).1

/-- **The message along a run.** It is the text of the last error, whatever has come after it. -/
theorem message_runPasses :
    (runPasses stored done).status.message =
      (errorTexts done).getLast?.getD stored.status.message := by
  -- the last pass either writes its own text or keeps the one before
  induction done using List.reverseRecOn with
  | nil => rfl
  | append_singleton done r ih =>
    rw [runPasses_snoc, errorTexts_snoc]
    cases h : r.errorText with
    | none =>
      rw [(r.written_of_not_errorText h _).2, ih]
      simp
    | some err =>
      rw [(r.written_of_errorText h _).2]
      simp

/-- After an error, a pass that does not fail leaves the old text beside its own phase. -/
lemma stale_of_fails {r : Reconciliation} {done : List Reconciliation} (hr : r.fails = false)
    {q : Reconciliation} (hq : q ∈ done) (hfails : q.fails = true) :
    (runPasses stored (done ++ [r])).status.phase ≠ .error ∧
      (runPasses stored (done ++ [r])).status.message ∈ errorTexts (done ++ [r]) := by
  constructor
  · rw [ne_eq, phase_runPasses_snoc, hr]
    exact Bool.false_ne_true
  · have hne : errorTexts (done ++ [r]) ≠ [] := by
      rw [ne_eq, errorTexts_eq_nil_iff]
      intro h
      rw [h q (List.mem_append_left _ hq)] at hfails
      cases hfails
    rw [message_runPasses, List.getLast?_eq_some_getLast hne]
    exact List.getLast_mem hne

/-- If all passes after one that fails fail, then a pass that does not has no error before it. -/
lemma errorTexts_eq_nil_of_pairwise {r : Reconciliation} {done : List Reconciliation}
    (h : (done ++ [r]).Pairwise fun q r => q.fails = true → r.fails = true)
    (hr : r.fails = false) : errorTexts (done ++ [r]) = [] := by
  rw [errorTexts_eq_nil_iff]
  intro q hq
  rcases List.mem_append.1 hq with hq | hq
  · rw [← Bool.not_eq_true]
    intro hfails
    have hlater := (List.pairwise_append.1 h).2.2 q hq r (List.mem_singleton_self r) hfails
    rw [hr] at hlater
    cases hlater
  · rwa [List.mem_singleton.1 hq]

/-- **When the message matches the phase.** Along a run, outside of the phase `Error` the message is
never the text of an earlier error, if and only if no pass recovers: after a pass that fails, all
passes fail.

**Proof sketch.** If a pass does not fail, its phase is not `Error` and the message is the text of
the last error before it, if there is one. If no pass before it has failed, there are no texts. -/
theorem messagesMatch_iff (rs : List Reconciliation) :
    MessagesMatch stored rs ↔ rs.Pairwise fun q r => q.fails = true → r.fails = true := by
  constructor
  · intro hmatch
    rw [List.pairwise_iff_getElem]
    intro i j hi hj hij hfails
    by_contra hr
    have hsplit : rs.take j ++ [rs[j]] = rs.take (j + 1) := by simp
    have hmem : rs[i] ∈ rs.take j := List.mem_take_iff_getElem.2 ⟨i, by omega, rfl⟩
    have hstale := stale_of_fails stored (Bool.eq_false_iff.2 hr) hmem hfails
    rw [hsplit] at hstale
    exact hmatch _ (List.take_prefix _ _) hstale.1 hstale.2
  · rintro hpairwise done ⟨rest, rfl⟩ hphase
    have hdone := (List.pairwise_append.1 hpairwise).1
    rcases List.eq_nil_or_concat done with rfl | ⟨done, r, rfl⟩
    · exact List.not_mem_nil
    · rw [List.concat_eq_append] at hphase hdone ⊢
      rw [ne_eq, phase_runPasses_snoc, Bool.not_eq_true] at hphase
      rw [errorTexts_eq_nil_of_pairwise hdone hphase]
      exact List.not_mem_nil

/-- A pass over two pods with the boot VCL; `push` is what the client returns for each. -/
def twoPods (push : PeerBackend → Option Text) : Reconciliation where
  vc := (twoPodPass push).vc
  generated := .ok (twoPodPass push).result
  observation := (twoPodPass push).observation
  push := push
  now := 0
  sts := .notFound

/-- **A cache that is ready and says that the push has failed.** Both pods refuse the VCL, and take
it in the next pass. -/
theorem recovered_message :
    let vc := runPasses (twoPodPass fun _ => none).vc
      [twoPods fun _ => some "agent push returned HTTP 500", twoPods fun _ => none]
    vc.status.phase = .ready ∧ vc.status.message = "VCL push failed on all 2 pods" ∧
      ¬MessagesMatch (twoPodPass fun _ => none).vc
        [twoPods fun _ => some "agent push returned HTTP 500", twoPods fun _ => none] := by
  refine ⟨by decide +kernel, by decide +kernel, ?_⟩
  intro hmatch
  have hstale := stale_of_fails (twoPodPass fun _ => none).vc
    (r := twoPods fun _ => none) (by decide +kernel)
    (List.mem_singleton_self (twoPods fun _ => some "agent push returned HTTP 500"))
    (by decide +kernel)
  exact hmatch _ List.prefix_rfl hstale.1 hstale.2

end CloudVinyl.Controller
