import Mathlib.Data.List.Induction
import Mathlib.Logic.Function.Basic

set_option relaxedAutoImplicit false
set_option autoImplicit false

/-!
# Level-triggered control loops

A control loop watches a store. Every change of the store is notified, sooner or later and in any
order, and a notification is mapped to keys when it is delivered. A key that is woken up waits in a
queue until a pass for it begins. A pass reads the store in several steps, each of which may depend
on what was read before, while the store goes on changing. It ends by acting on what it read, or it
is broken off and the key comes back later.

The store need not determine what is read, nor what a notification is mapped to: both depend on an
outcome as well, such as the order of a list. A delivery may also come out badly, so that it is
lost.

The loop does not miss a change if a change of anything that a pass has read wakes the key of the
pass up, unless its notification is lost. What a notification is mapped to may depend on the store
as well; it is enough that a change that takes a key away from a notification wakes the key up
itself.

## Main definitions

* `LevelTriggered.Loop` — changes and notifications of a store, and the reads of a pass.
* `LevelTriggered.State`, `LevelTriggered.step` — the loop and its steps.
* `LevelTriggered.Loop.Current` — what was read can be read from the store now.
* `LevelTriggered.Pending` — another pass for a key is going to begin.
* `LevelTriggered.Covered` — no change goes unnoticed.

## Main results

* `LevelTriggered.current_or_pending` — what the last complete pass has read can be read from the
  store now, or another pass is pending.
-/

namespace LevelTriggered

variable {σ C N K Q R O : Type}

/-- A store of type `σ` with changes `C` and their notifications `N`, and passes for keys `K` that
ask questions `Q` and get answers `R`. What the store leaves open is an outcome `O`. -/
structure Loop (σ C N K Q R O : Type) where
  /-- the store after a change -/
  apply : σ → C → σ
  /-- the notification of a change, for the store before it -/
  note : σ → C → N
  /-- whether a notification, when it is delivered, wakes a key up -/
  wakes : σ → O → N → K → Bool
  /-- what a pass asks next -/
  plan : K → List (Q × R) → Option Q
  answer : σ → O → Q → R

/-- The store, the notifications and the passes. -/
structure State (σ N K Q R : Type) where
  store : σ
  /-- notifications that are not delivered yet -/
  inFlight : List N
  queued : K → Bool
  /-- what the pass for a key has read so far, if one is running -/
  running : K → Option (List (Q × R))
  /-- a pass was broken off, and the key is added to the queue again later -/
  postponed : K → Bool
  /-- what the last complete pass for a key has read -/
  used : K → Option (List (Q × R))

/-- Nothing was read yet. -/
def State.start (store : σ) : State σ N K Q R where
  store := store
  inFlight := []
  queued _ := false
  running _ := none
  postponed _ := false
  used _ := none

/-- What can happen. -/
inductive Event (C K O : Type) where
  | change (c : C)
  /-- the notification at a position is delivered -/
  | deliver (i : ℕ) (o : O)
  /-- a key is added to the queue for a reason of its own -/
  | add (k : K)
  | begin (k : K)
  /-- a pass asks its next question -/
  | read (k : K) (o : O)
  | finish (k : K)
  /-- a pass is broken off: it fails, or it has to wait -/
  | postpone (k : K)
  /-- the time of a key that was postponed has come -/
  | fire (k : K)

variable (L : Loop σ C N K Q R O)

/-! ## Passes -/

namespace Loop

/-- What the pass for a key can have read. -/
inductive IsPass (k : K) : List (Q × R) → Prop
  | nil : IsPass k []
  | snoc {h : List (Q × R)} {q : Q} (r : R) : IsPass k h → L.plan k h = some q →
      IsPass k (h ++ [(q, r)])

/-- Everything that was read can be read from the store. -/
def Current (store : σ) (h : List (Q × R)) : Prop := ∀ e ∈ h, ∃ o, L.answer store o e.1 = e.2

variable {L} {k : K} {h : List (Q × R)}

/-- A pass has asked what the plan says. -/
lemma IsPass.plan_take (hp : L.IsPass k h) (i : ℕ) (hi : i < h.length) :
    L.plan k (h.take i) = some (h[i]).1 := by
  induction hp with
  | nil => exact absurd hi (Nat.not_lt_zero _)
  | @snoc h q r hp hq ih =>
    rw [List.length_append, List.length_singleton] at hi
    rcases Nat.lt_succ_iff_lt_or_eq.1 hi with hlt | rfl
    · rw [List.take_append_of_le_length (Nat.le_of_lt hlt), List.getElem_append_left hlt]
      exact ih hlt
    · rw [List.take_left, List.getElem_append_right (Nat.le_refl _)]
      simpa using hq

end Loop

/-! ## Nothing is missed -/

section Noticing

variable (fair : O → Prop)

/-- The key waits in the queue, or a notification that is not delivered yet will wake it up unless
it is lost. -/
def Woken (s : State σ N K Q R) (k : K) : Prop :=
  s.queued k = true ∨ ∃ n ∈ s.inFlight, ∀ o, fair o → L.wakes s.store o n k = true

/-- A pass for the key is running or is going to begin. -/
def Pending (s : State σ N K Q R) (k : K) : Prop :=
  Woken L fair s k ∨ (s.running k).isSome = true ∨ s.postponed k = true

/-- **No change goes unnoticed**, as long as the store is good, the changes are allowed and no
notification is lost: a change of anything that a pass has read wakes its key up, and so does a
change after which a notification no longer does. -/
structure Covered (good : σ → Prop) (allowed : C → Prop) : Prop where
  good_apply : ∀ {store c}, good store → allowed c → good (L.apply store c)
  noticed : ∀ {store c k h}, good store → allowed c → L.IsPass k h → L.Current store h →
    L.Current (L.apply store c) h ∨
      ∀ o, fair o → L.wakes (L.apply store c) o (L.note store c) k = true
  kept : ∀ {store c n k}, (∀ o, fair o → L.wakes store o n k = true) →
    (∀ o, fair o → L.wakes (L.apply store c) o n k = true) ∨
      ∀ o, fair o → L.wakes (L.apply store c) o (L.note store c) k = true

/-- What holds of the passes for a key. -/
structure Sound (s : State σ N K Q R) (k : K) : Prop where
  running : ∀ h, s.running k = some h → L.IsPass k h ∧ (L.Current s.store h ∨ Woken L fair s k)
  used : ∀ h, s.used k = some h →
    L.IsPass k h ∧ L.plan k h = none ∧ (L.Current s.store h ∨ Pending L fair s k)

/-- The changes are allowed, and the deliveries are fair. A read may come out in any way. -/
def Event.Allowed (allowed : C → Prop) : Event C K O → Prop
  | .change c => allowed c
  | .deliver _ o => fair o
  | _ => True

end Noticing

variable {fair : O → Prop}

/-- A step keeps a key sound if it leaves the store and the passes for the key as they are and does
not forget that the key is woken up or postponed. -/
lemma Sound.of_idle {L : Loop σ C N K Q R O} {s s' : State σ N K Q R} {k : K} (h : Sound L fair s k)
    (hstore : s'.store = s.store)
    (hrunning : s'.running k = s.running k) (hused : s'.used k = s.used k)
    (hwoken : Woken L fair s k → Woken L fair s' k)
    (hpostponed : s.postponed k = true → Pending L fair s' k) : Sound L fair s' k := by
  constructor
  · intro reads hreads
    rw [hrunning] at hreads
    rw [hstore]
    exact ⟨(h.running reads hreads).1, (h.running reads hreads).2.imp_right hwoken⟩
  · intro reads hreads
    rw [hused] at hreads
    obtain ⟨hpass, hend, hcur⟩ := h.used reads hreads
    rw [hstore]
    refine ⟨hpass, hend, hcur.imp_right ?_⟩
    rintro (hw | hr | hp)
    · exact .inl (hwoken hw)
    · exact .inr (.inl (by rwa [hrunning]))
    · exact hpostponed hp

/-! ## Steps -/

variable [DecidableEq K]

/-- One step. A step that is not possible in a state leaves it as it is. -/
def step (s : State σ N K Q R) : Event C K O → State σ N K Q R
  | .change c => { s with store := L.apply s.store c, inFlight := s.inFlight ++ [L.note s.store c] }
  | .deliver i o =>
    match s.inFlight[i]? with
    | some n =>
      { s with
        inFlight := s.inFlight.eraseIdx i
        queued := fun k => s.queued k || L.wakes s.store o n k }
    | none => s
  | .add k => { s with queued := Function.update s.queued k true }
  | .begin k =>
    -- a key is not handed out again while it is worked on
    if s.queued k && (s.running k).isNone then
      { s with
        queued := Function.update s.queued k false
        running := Function.update s.running k (some []) }
    else s
  | .read k o =>
    match s.running k with
    | some h =>
      match L.plan k h with
      | some q =>
        { s with running := Function.update s.running k (some (h ++ [(q, L.answer s.store o q)])) }
      | none => s
    | none => s
  | .finish k =>
    match s.running k with
    | some h =>
      match L.plan k h with
      | some _ => s
      | none =>
        { s with
          running := Function.update s.running k none
          used := Function.update s.used k (some h) }
    | none => s
  | .postpone k =>
    if (s.running k).isSome then
      { s with
        running := Function.update s.running k none
        postponed := Function.update s.postponed k true }
    else s
  | .fire k =>
    if s.postponed k then
      { s with
        postponed := Function.update s.postponed k false
        queued := Function.update s.queued k true }
    else s

/-- The steps of some events. -/
def run (s : State σ N K Q R) (events : List (Event C K O)) : State σ N K Q R :=
  events.foldl (step L) s

section Steps

variable {L} {s : State σ N K Q R} {k : K}

/-- What is delivered wakes up at once what it would have woken up later. -/
lemma Woken.deliver (h : Woken L fair s k) (i : ℕ) {o : O} (ho : fair o) :
    Woken L fair (step L s (.deliver i o)) k := by
  cases hi : s.inFlight[i]? with
  | none => simpa only [step, hi] using h
  | some n =>
    simp only [step, hi]
    rcases h with hq | ⟨m, hm, hwakes⟩
    · exact .inl (by simp [hq])
    · obtain ⟨j, hj⟩ := List.mem_iff_getElem?.1 hm
      by_cases hji : j = i
      · subst hji
        obtain rfl : n = m := Option.some.inj (hi.symm.trans hj)
        exact .inl (by simp [hwakes o ho])
      · exact .inr ⟨m, List.mem_eraseIdx_iff_getElem?.2 ⟨j, hji, hj⟩, hwakes⟩

/-- A step at another key. -/
lemma Sound.of_ne (h : Sound L fair s k) {e : Event C K O} {k' : K} (hne : k ≠ k')
    (he : e = .add k' ∨ e = .begin k' ∨ (∃ o, e = .read k' o) ∨ e = .finish k' ∨
      e = .postpone k' ∨ e = .fire k') : Sound L fair (step L s e) k := by
  have hother {β : Type} (f : K → β) (b : β) : Function.update f k' b k = f k :=
    Function.update_of_ne hne _ _
  have hframe : (step L s e).store = s.store ∧ (step L s e).inFlight = s.inFlight ∧
      (step L s e).running k = s.running k ∧ (step L s e).used k = s.used k ∧
      (step L s e).queued k = s.queued k ∧ (step L s e).postponed k = s.postponed k := by
    rcases he with rfl | rfl | ⟨o, rfl⟩ | rfl | rfl | rfl <;> simp only [step]
    · simp [hother]
    · split <;> simp [hother]
    · split
      · split <;> simp [hother]
      · simp
    · split
      · split <;> simp [hother]
      · simp
    · split <;> simp [hother]
    · split <;> simp [hother]
  obtain ⟨hstore, hflight, hrunning, hused, hqueued, hpostponed⟩ := hframe
  refine h.of_idle hstore hrunning hused ?_ fun hp => .inr (.inr (by rwa [hpostponed]))
  rintro (hq | hn)
  · exact .inl (by rwa [hqueued])
  · exact .inr (by rwa [hflight, hstore])

/-- A pass for the key begins. -/
lemma Sound.begin (h : Sound L fair s k) : Sound L fair (step L s (.begin k)) k := by
  simp only [step]
  split
  · refine ⟨fun reads hreads => ?_, fun reads hreads => ?_⟩
    · obtain rfl : [] = reads := by simpa using hreads
      exact ⟨.nil, .inl (by simp [Loop.Current])⟩
    · obtain ⟨hpass, hend, -⟩ := h.used reads hreads
      exact ⟨hpass, hend, .inr (.inr (.inl (by simp)))⟩
  · exact h

/-- The pass reads: what it has read now is current. -/
lemma Sound.read (h : Sound L fair s k) (o : O) : Sound L fair (step L s (.read k o)) k := by
  simp only [step]
  split
  · next reads hrunning =>
    obtain ⟨hpass, hcur⟩ := h.running reads hrunning
    split
    · next q hq =>
      refine ⟨fun reads' hreads => ?_, fun reads' hreads => ?_⟩
      · obtain rfl : reads ++ [(q, L.answer s.store o q)] = reads' := by simpa using hreads
        refine ⟨.snoc _ hpass hq, hcur.imp_left fun hcur e he => ?_⟩
        rcases List.mem_append.1 he with he | he
        · exact hcur e he
        · exact ⟨o, by rw [List.mem_singleton.1 he]⟩
      · obtain ⟨hpass, hend, -⟩ := h.used reads' hreads
        exact ⟨hpass, hend, .inr (.inr (.inl (by simp)))⟩
    · exact h
  · exact h

/-- The pass is complete, and what it has read is used. -/
lemma Sound.finish (h : Sound L fair s k) : Sound L fair (step L s (.finish k)) k := by
  simp only [step]
  split
  · next reads hrunning =>
    obtain ⟨hpass, hcur⟩ := h.running reads hrunning
    split
    · exact h
    · next hend =>
      refine ⟨fun reads' hreads => by simp at hreads, fun reads' hreads => ?_⟩
      obtain rfl : reads = reads' := by simpa using hreads
      exact ⟨hpass, hend, hcur.imp_right fun hw => .inl hw⟩
  · exact h

/-- The pass is broken off, and the key comes back. -/
lemma Sound.postpone (h : Sound L fair s k) : Sound L fair (step L s (.postpone k)) k := by
  simp only [step]
  split
  · refine ⟨fun reads hreads => by simp at hreads, fun reads hreads => ?_⟩
    obtain ⟨hpass, hend, -⟩ := h.used reads hreads
    exact ⟨hpass, hend, .inr (.inr (.inr (by simp)))⟩
  · exact h

/-- The key is added to the queue when its time has come. -/
lemma Sound.fire (h : Sound L fair s k) : Sound L fair (step L s (.fire k)) k := by
  simp only [step]
  split
  · exact h.of_idle rfl rfl rfl (fun _ => .inl (by simp)) fun _ => .inl (.inl (by simp))
  · exact h

/-- The steps at the key itself. -/
lemma Sound.of_self (h : Sound L fair s k) {e : Event C K O}
    (he : e = .add k ∨ e = .begin k ∨ (∃ o, e = .read k o) ∨ e = .finish k ∨
      e = .postpone k ∨ e = .fire k) : Sound L fair (step L s e) k := by
  rcases he with rfl | rfl | ⟨o, rfl⟩ | rfl | rfl | rfl
  · exact h.of_idle rfl rfl rfl (fun _ => .inl (by simp [step])) fun hp => .inr (.inr hp)
  · exact h.begin
  · exact h.read o
  · exact h.finish
  · exact h.postpone
  · exact h.fire

variable {good : σ → Prop} {allowed : C → Prop}

/-- A change keeps a key woken up. -/
lemma Woken.change (hcov : Covered L fair good allowed) (h : Woken L fair s k) (c : C) :
    Woken L fair (step L s (.change c)) k := by
  rcases h with hq | ⟨n, hn, hwakes⟩
  · exact .inl hq
  · rcases hcov.kept (c := c) hwakes with hkept | hnew
    · exact .inr ⟨n, List.mem_append_left _ hn, hkept⟩
    · exact .inr ⟨_, List.mem_append_right _ (List.mem_singleton_self _), hnew⟩

/-- A change keeps a key sound. -/
lemma Sound.change (hcov : Covered L fair good allowed) (hgood : good s.store)
    (h : Sound L fair s k) {c : C} (hc : allowed c) : Sound L fair (step L s (.change c)) k := by
  have hnotice {reads : List (Q × R)} (hpass : L.IsPass k reads)
      (hcur : L.Current s.store reads) :
      L.Current (step L s (.change c)).store reads ∨ Woken L fair (step L s (.change c)) k :=
    (hcov.noticed hgood hc hpass hcur).imp_right fun hnew =>
      .inr ⟨_, List.mem_append_right _ (List.mem_singleton_self _), hnew⟩
  constructor
  · intro reads hreads
    obtain ⟨hpass, hcur⟩ := h.running reads hreads
    exact ⟨hpass, hcur.elim (hnotice hpass) fun hw => .inr (hw.change hcov c)⟩
  · intro reads hreads
    obtain ⟨hpass, hend, hcur⟩ := h.used reads hreads
    refine ⟨hpass, hend, ?_⟩
    rcases hcur with hcur | hw | hr | hp
    · exact (hnotice hpass hcur).imp_right .inl
    · exact .inr (.inl (hw.change hcov c))
    · exact .inr (.inr (.inl hr))
    · exact .inr (.inr (.inr hp))

/-- **Every step keeps every key sound.** -/
lemma Sound.step (hcov : Covered L fair good allowed) (hgood : good s.store)
    (h : ∀ k, Sound L fair s k) {e : Event C K O} (he : e.Allowed fair allowed) (k : K) :
    Sound L fair (step L s e) k := by
  have hkey (k' : K) (hself : e = .add k' ∨ e = .begin k' ∨ (∃ o, e = .read k' o) ∨
      e = .finish k' ∨ e = .postpone k' ∨ e = .fire k') :
      Sound L fair (LevelTriggered.step L s e) k := by
    by_cases hk : k = k'
    · subst hk
      exact (h k).of_self hself
    · exact (h k).of_ne hk hself
  cases e with
  | change c => exact (h k).change hcov hgood he
  | deliver i o =>
    have hframe : (LevelTriggered.step L s (.deliver i o)).store = s.store ∧
        (LevelTriggered.step L s (.deliver i o)).running k = s.running k ∧
        (LevelTriggered.step L s (.deliver i o)).used k = s.used k ∧
        (LevelTriggered.step L s (.deliver i o)).postponed k = s.postponed k := by
      simp only [LevelTriggered.step]
      split <;> simp
    obtain ⟨hstore, hrunning, hused, hpostponed⟩ := hframe
    exact (h k).of_idle hstore hrunning hused (fun hw => hw.deliver i he) fun hp =>
      .inr (.inr (by rwa [hpostponed]))
  | add k' => exact hkey k' (by simp)
  | begin k' => exact hkey k' (by simp)
  | read k' o => exact hkey k' (by simp)
  | finish k' => exact hkey k' (by simp)
  | postpone k' => exact hkey k' (by simp)
  | fire k' => exact hkey k' (by simp)

/-- The store stays good. -/
lemma good_step (hcov : Covered L fair good allowed) (hgood : good s.store) {e : Event C K O}
    (he : e.Allowed fair allowed) : good (LevelTriggered.step L s e).store := by
  cases e with
  | change c => exact hcov.good_apply hgood he
  | add k => exact hgood
  | _ =>
    simp only [LevelTriggered.step]
    repeat' split
    all_goals exact hgood

/-- Runs keep every key sound. -/
lemma sound_run (hcov : Covered L fair good allowed) {events : List (Event C K O)}
    (hevents : ∀ e ∈ events, e.Allowed fair allowed) (hgood : good s.store)
    (h : ∀ k, Sound L fair s k) (k : K) : Sound L fair (run L s events) k := by
  induction events generalizing s with
  | nil => exact h k
  | cons e events ih =>
    obtain ⟨he, hrest⟩ := List.forall_mem_cons.1 hevents
    exact ih hrest (good_step hcov hgood he) (Sound.step hcov hgood h he)

end Steps

/-- **Nothing is missed.** Along every run with allowed changes and fair deliveries, what the last
complete pass for a key has read can be read from the store now, or another pass for the key is
pending.

**Proof sketch.** By induction on the run. A change of something that was read wakes the key up; a
key that is woken up stays so until its pass begins, and then the pass is running, reads again and
is complete, or is broken off and postponed. -/
theorem current_or_pending {good : σ → Prop} {allowed : C → Prop}
    (hcov : Covered L fair good allowed) {store : σ} (hstore : good store)
    {events : List (Event C K O)} (hevents : ∀ e ∈ events, e.Allowed fair allowed) (k : K)
    {h : List (Q × R)} (hused : (run L (.start store) events).used k = some h) :
    L.IsPass k h ∧ L.plan k h = none ∧
      (L.Current (run L (.start store) events).store h ∨
        Pending L fair (run L (.start store) events) k) := by
  have hsound := sound_run hcov hevents (s := .start store) hstore
    (fun k => ⟨by simp [State.start], by simp [State.start]⟩) k
  exact hsound.used h hused

end LevelTriggered
