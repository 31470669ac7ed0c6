import CloudVinyl.Controller.Selectors
import CloudVinyl.Controller.Status

set_option relaxedAutoImplicit false
set_option autoImplicit false

/-!
# Debouncing

During a rollout the EndpointSlices of a backend change many times within moments. `debouncer` of
`internal/controller/debounce.go` keeps the time of the last such event for each cache, and a pass
that finds it younger than `spec.debounce.duration` returns the rest of that time, after which the
work queue adds the cache again. An entry is deleted as soon as it is old enough, since it is not
needed any more.

The queue keeps for each cache whether it waits, whether a pass is running, and the earliest time at
which it is to be added. The handler of an event first tells the debouncer and then the queue. A
pass first does what comes before the debouncer is asked and may return there: it is paused, the
resource is gone, or something fails. Then it asks the debouncer, and later it reads the endpoints;
between the two it may fail as well. Any time may go by between any two of these steps, and other
events may come.

## Main definitions

* `Controller.touch`, `Controller.remaining`, `Controller.debounceRemaining` — the debouncer.
* `Controller.Debouncing`, `Controller.Debouncing.step` — the debouncer with the work queue.
* `Controller.Debouncing.OnItsWay` — a pass for a cache is going to come, and by when.

## Main results

* `Controller.Debouncing.read_after_window` — endpoints are read only by passes that asked when no
  window was open, and no event is forgotten.
-/

namespace CloudVinyl.Controller

/-- `touch` -/
def touch (lastCh : Table ObjectKey ℤ) (key : ObjectKey) (now : ℤ) : Table ObjectKey ℤ :=
  lastCh.set key now

/-- `remaining`: the time to wait, and the entries afterwards. -/
def remaining (lastCh : Table ObjectKey ℤ) (key : ObjectKey) (window now : ℤ) :
    ℤ × Table ObjectKey ℤ :=
  if window ≤ 0 then (0, lastCh)
  else
    match lastCh key with
    | none => (0, lastCh)
    | some last =>
      let elapsed := now - last
      if elapsed ≥ window then (0, lastCh.delete key) else (window - elapsed, lastCh)

/-- The window of a cache. A resource without one waits for a second. -/
def debounceWindow (vc : VinylCache) : ℤ :=
  if vc.spec.debounce ≤ 0 then seconds 1 else vc.spec.debounce

/-- `debounceRemaining` -/
def debounceRemaining (lastCh : Table ObjectKey ℤ) (vc : VinylCache) (now : ℤ) :
    ℤ × Table ObjectKey ℤ :=
  remaining lastCh ⟨vc.namespace_, vc.name⟩ (debounceWindow vc) now

/-- A window is never empty. -/
lemma debounceWindow_pos (vc : VinylCache) : 0 < debounceWindow vc := by
  unfold debounceWindow seconds
  split_ifs <;> omega

/-! ## Asking the debouncer -/

section Remaining

variable {lastCh : Table ObjectKey ℤ} {vc : VinylCache} {k : ObjectKey}

/-- Without an entry there is nothing to wait for. -/
lemma debounceRemaining_of_none (hk : (⟨vc.namespace_, vc.name⟩ : ObjectKey) = k)
    (h : lastCh k = none) (now : ℤ) : debounceRemaining lastCh vc now = (0, lastCh) := by
  have hw := debounceWindow_pos vc
  rw [debounceRemaining, remaining, if_neg (by omega), hk, h]

/-- With an entry, the end of its window is waited for. -/
lemma debounceRemaining_of_some (hk : (⟨vc.namespace_, vc.name⟩ : ObjectKey) = k) {t : ℤ}
    (h : lastCh k = some t) (now : ℤ) :
    debounceRemaining lastCh vc now =
      if now - t ≥ debounceWindow vc then (0, lastCh.delete k)
      else (debounceWindow vc - (now - t), lastCh) := by
  have hw := debounceWindow_pos vc
  rw [debounceRemaining, remaining, if_neg (by omega), hk, h]

/-- The entries of other caches stay. -/
lemma debounceRemaining_of_ne (lastCh : Table ObjectKey ℤ) (hk : k ≠ ⟨vc.namespace_, vc.name⟩)
    (now : ℤ) : (debounceRemaining lastCh vc now).2 k = lastCh k := by
  cases h : lastCh ⟨vc.namespace_, vc.name⟩ with
  | none => rw [debounceRemaining_of_none rfl h]
  | some t =>
    rw [debounceRemaining_of_some rfl h]
    split_ifs
    · exact Function.update_of_ne hk _ _
    · rfl

end Remaining

/-! ## The debouncer and the queue -/

/-- How far a pass has come. -/
inductive Stage where
  /-- it has not asked the debouncer yet -/
  | starting
  /-- it has been let through at this time and has not read the endpoints yet -/
  | reading (asked : ℤ)
  | ending

/-- The work for one cache: what the queue knows of it, and what has happened so far. -/
structure Work where
  /-- events that the debouncer has been told and the queue has not -/
  mapped : ℕ := 0
  queued : Bool := false
  running : Option Stage := none
  /-- when the cache is added to the queue -/
  later : Option ℤ := none
  /-- when its endpoints changed -/
  touched : List ℤ := []
  /-- the passes that have read them: when they were let through, and when they read -/
  takenUp : List (ℤ × ℤ) := []
  /-- the passes that returned early: when, and after what time they come back -/
  left : List (ℤ × Option ℤ) := []

/-- `AddAfter`: the earlier of two times counts. -/
def addAfter (later : Option ℤ) (t : ℤ) : Option ℤ := some ((later.map (min t)).getD t)

/-- The time does not become later. -/
lemma exists_addAfter_le (later : Option ℤ) (t : ℤ) :
    ∃ d, addAfter later t = some d ∧ d ≤ t ∧ ∀ d' ∈ later, d ≤ d' := by
  cases later with
  | none => exact ⟨t, rfl, le_refl t, by simp⟩
  | some d => exact ⟨min t d, rfl, min_le_left _ _, by simp⟩

/-- The debouncer and the work queue. -/
structure Debouncing where
  now : ℤ
  lastCh : Table ObjectKey ℤ
  work : ObjectKey → Work

namespace Debouncing

/-- Nothing has happened. -/
def start (now : ℤ) : Debouncing where
  now := now
  lastCh _ := none
  work _ := {}

/-- What can happen. -/
inductive Event where
  /-- an event of an EndpointSlice is mapped to the cache -/
  | touch (k : ObjectKey)
  /-- the request for such an event is added to the queue -/
  | enqueue (k : ObjectKey)
  /-- another event adds the cache -/
  | add (k : ObjectKey)
  /-- the time at which the cache is added has come -/
  | fire (k : ObjectKey)
  | begin (k : ObjectKey)
  /-- a pass returns early, with the time after which it comes back, if it does -/
  | leave (k : ObjectKey) (requeueAfter : Option ℤ)
  /-- a pass asks the debouncer -/
  | ask (vc : VinylCache)
  /-- a pass reads the endpoints -/
  | read (k : ObjectKey)
  | finish (k : ObjectKey) (requeueAfter : ℤ)
  | advance (d : ℕ)

/-- The cache that an event is about. -/
def Event.key : Event → Option ObjectKey
  | .touch k | .enqueue k | .add k | .fire k | .begin k => some k
  | .leave k _ | .read k | .finish k _ => some k
  | .ask vc => some ⟨vc.namespace_, vc.name⟩
  | .advance _ => none

/-- The work for a cache changes. -/
def update (s : Debouncing) (k : ObjectKey) (f : Work → Work) : Debouncing :=
  { s with work := Function.update s.work k (f (s.work k)) }

/-- One step. A step that is not possible in a state leaves it as it is. -/
def step (s : Debouncing) : Event → Debouncing
  | .touch k =>
    { s.update k fun x => { x with mapped := x.mapped + 1, touched := s.now :: x.touched } with
      lastCh := Controller.touch s.lastCh k s.now }
  | .enqueue k =>
    s.update k fun x =>
      if 0 < x.mapped then { x with mapped := x.mapped - 1, queued := true } else x
  | .add k => s.update k fun x => { x with queued := true }
  | .fire k =>
    s.update k fun x =>
      if x.later.any (· ≤ s.now) then { x with later := none, queued := true } else x
  | .begin k =>
    -- a cache is not handed out again while it is worked on
    s.update k fun x =>
      if x.queued && x.running.isNone then { x with queued := false, running := some .starting }
      else x
  | .leave k requeueAfter =>
    s.update k fun x =>
      if x.running.isSome then
        { x with
          running := none
          later := (requeueAfter.map fun r => addAfter x.later (s.now + r)).getD x.later
          left := (s.now, requeueAfter) :: x.left }
      else x
  | .ask vc =>
    let k : ObjectKey := ⟨vc.namespace_, vc.name⟩
    match (s.work k).running with
    | some .starting =>
      let (wait, lastCh) := debounceRemaining s.lastCh vc s.now
      { s.update k fun x =>
          if wait > 0 then { x with running := none, later := addAfter x.later (s.now + wait) }
          else { x with running := some (.reading s.now) } with
        lastCh := lastCh }
    | _ => s
  | .read k =>
    s.update k fun x =>
      match x.running with
      | some (.reading asked) =>
        { x with running := some .ending, takenUp := (asked, s.now) :: x.takenUp }
      | _ => x
  | .finish k requeueAfter =>
    s.update k fun x =>
      match x.running with
      | some .ending =>
        { x with running := none, later := addAfter x.later (s.now + requeueAfter) }
      | _ => x
  | .advance d => { s with now := s.now + d }

/-- The steps of some events. -/
def run (s : Debouncing) (events : List Event) : Debouncing := events.foldl step s

/-- The window of the cache stays `w`. -/
def Event.Keeps (w : ℤ) (k : ObjectKey) : Event → Prop
  | .ask vc => (⟨vc.namespace_, vc.name⟩ : ObjectKey) = k → debounceWindow vc = w
  | _ => True

/-- Whether an event keeps the window can be decided. -/
instance (w : ℤ) (k : ObjectKey) : DecidablePred (Event.Keeps w k)
  | .ask _ => inferInstanceAs (Decidable (_ → _))
  | .touch _ | .enqueue _ | .add _ | .fire _ | .begin _ | .leave _ _ | .read _ | .finish _ _
  | .advance _ => inferInstanceAs (Decidable True)

/-! ## No event is forgotten -/

/-- A pass that takes an event at `t` up is on its way: the queue will be told, the cache waits in
the queue, a pass is running and has still to ask, one was let through after the window, or the
cache comes back by the end of the last window, or when a pass that has returned early since wants
to. -/
def OnItsWay (w : ℤ) (s : Debouncing) (k : ObjectKey) (t : ℤ) : Prop :=
  0 < (s.work k).mapped ∨ (s.work k).queued = true ∨ (s.work k).running = some .starting ∨
  (∃ asked, (s.work k).running = some (.reading asked) ∧ t + w ≤ asked) ∨
  ∃ d, (s.work k).later = some d ∧
    ((∃ last, s.lastCh k = some last ∧ d ≤ last + w) ∨
      ∃ u r, (u, some r) ∈ (s.work k).left ∧ t ≤ u ∧ d ≤ u + r)

/-- An event at `t` is taken up by a pass that was let through after its window, or such a pass is
on its way, or a pass has returned without coming back. -/
def Noticed (w : ℤ) (s : Debouncing) (k : ObjectKey) (t : ℤ) : Prop :=
  (∃ e ∈ (s.work k).takenUp, t + w ≤ e.1) ∨ (∃ u, (u, none) ∈ (s.work k).left ∧ t ≤ u) ∨
    s.OnItsWay w k t

/-- No window is open at a time when a pass is let through. -/
def Between (w : ℤ) (touched : List ℤ) (asked : ℤ) : Prop :=
  ∀ t ∈ touched, asked ≤ t ∨ t + w ≤ asked

/-- What holds of one cache with window `w`. -/
structure Kept (w : ℤ) (s : Debouncing) (k : ObjectKey) : Prop where
  past : ∀ t ∈ (s.work k).touched, t ≤ s.now
  /-- Without an entry every window is over. -/
  idle : s.lastCh k = none → ∀ t ∈ (s.work k).touched, t + w ≤ s.now
  /-- An entry is the last event. -/
  last : ∀ last, s.lastCh k = some last → ∀ t ∈ (s.work k).touched, t ≤ last
  reading : ∀ asked, (s.work k).running = some (.reading asked) →
    asked ≤ s.now ∧ Between w (s.work k).touched asked
  taken : ∀ e ∈ (s.work k).takenUp, e.1 ≤ e.2 ∧ e.2 ≤ s.now ∧ Between w (s.work k).touched e.1
  noticed : ∀ t ∈ (s.work k).touched, s.Noticed w k t

section Steps

variable {s s' : Debouncing} {k : ObjectKey} {w : ℤ}

variable {t : ℤ}

/-- A pass that was let through after the window of the event is going to read. -/
lemma Noticed.of_reading {asked : ℤ} (h : (s.work k).running = some (.reading asked))
    (hover : t + w ≤ asked) : s.Noticed w k t :=
  .inr (.inr (.inr (.inr (.inr (.inl ⟨asked, h, hover⟩)))))

/-- The cache comes back by the end of the last window, or when a pass wants to. -/
lemma Noticed.of_later {d : ℤ} (h : (s.work k).later = some d)
    (hby : (∃ last, s.lastCh k = some last ∧ d ≤ last + w) ∨
      ∃ u r, (u, some r) ∈ (s.work k).left ∧ t ≤ u ∧ d ≤ u + r) : s.Noticed w k t :=
  .inr (.inr (.inr (.inr (.inr (.inr ⟨d, h, hby⟩)))))

/-- An event stays noticed when a pass that was let through goes on: only the case in which this
pass is the one that takes the event up is left. The cache may come back earlier than before. -/
lemma Noticed.of_pass (h : s.Noticed w k t) (hlast : s'.lastCh k = s.lastCh k)
    (htaken : ∀ e ∈ (s.work k).takenUp, e ∈ (s'.work k).takenUp)
    (hleft : (s'.work k).left = (s.work k).left) (hmapped : (s'.work k).mapped = (s.work k).mapped)
    (hqueued : (s'.work k).queued = (s.work k).queued)
    (hlater : ∀ d, (s.work k).later = some d → ∃ d', (s'.work k).later = some d' ∧ d' ≤ d)
    (hstarting : (s.work k).running ≠ some .starting)
    (hreading : ∀ asked, (s.work k).running = some (.reading asked) → t + w ≤ asked →
      s'.Noticed w k t) : s'.Noticed w k t := by
  rcases h with ⟨e, he, hover⟩ | ⟨u, hu⟩ | hm | hq | hs | ⟨asked, hasked, hover⟩ | ⟨d, hd, hby⟩
  · exact .inl ⟨e, htaken e he, hover⟩
  · exact .inr (.inl ⟨u, by rwa [hleft]⟩)
  · exact .inr (.inr (.inl (by rwa [hmapped])))
  · exact .inr (.inr (.inr (.inl (by rwa [hqueued]))))
  · exact absurd hs hstarting
  · exact hreading asked hasked hover
  · obtain ⟨d', hd', hle⟩ := hlater d hd
    refine .of_later hd' (hby.imp ?_ ?_)
    · rintro ⟨last, hentry, hend⟩
      exact ⟨last, hlast.trans hentry, hle.trans hend⟩
    · rintro ⟨u, r, hmem, hu, hend⟩
      exact ⟨u, r, by rwa [hleft], hu, hle.trans hend⟩

/-- At the start there is nothing to keep. -/
lemma kept_start (now w : ℤ) (k : ObjectKey) : Kept w (start now) k where
  past := by simp [start]
  idle := by simp [start]
  last := by simp [start]
  reading := by simp [start]
  taken := by simp [start]
  noticed := by simp [start]

/-- A step that leaves the debouncer and the reads alone and forgets no event. -/
lemma Kept.of_noticed (h : Kept w s k) (hnow : s'.now = s.now) (hlast : s'.lastCh k = s.lastCh k)
    (htouched : (s'.work k).touched = (s.work k).touched)
    (htaken : (s'.work k).takenUp = (s.work k).takenUp)
    (hreading : ∀ asked, (s'.work k).running = some (.reading asked) →
      (s.work k).running = some (.reading asked))
    (hnoticed : ∀ t ∈ (s.work k).touched, s.Noticed w k t → s'.Noticed w k t) : Kept w s' k where
  past := by
    rw [htouched, hnow]
    exact h.past
  idle := by
    rw [htouched, hnow, hlast]
    exact h.idle
  last := by
    rw [htouched, hlast]
    exact h.last
  reading asked hasked := by
    rw [htouched, hnow]
    exact h.reading asked (hreading asked hasked)
  taken := by
    rw [htouched, htaken, hnow]
    exact h.taken
  noticed := by
    rw [htouched]
    exact fun t ht => hnoticed t ht (h.noticed t ht)

/-- Steps at other caches. -/
lemma Kept.of_ne (h : Kept w s k) {e : Event} {k' : ObjectKey} (he : e.key = some k')
    (hne : k ≠ k') : Kept w (s.step e) k := by
  have hframe : (s.step e).now = s.now ∧ (s.step e).lastCh k = s.lastCh k ∧
      (s.step e).work k = s.work k := by
    cases e with
    | touch =>
      cases he
      exact ⟨rfl, Function.update_of_ne hne _ _, Function.update_of_ne hne _ _⟩
    | ask vc =>
      cases he
      simp only [step]
      split
      · exact ⟨rfl, debounceRemaining_of_ne s.lastCh hne s.now, Function.update_of_ne hne _ _⟩
      · exact ⟨rfl, rfl, rfl⟩
    | advance => cases he
    | _ =>
      cases he
      exact ⟨rfl, rfl, Function.update_of_ne hne _ _⟩
  obtain ⟨hnow, hlast, hwork⟩ := hframe
  refine h.of_noticed hnow hlast (by rw [hwork]) (by rw [hwork]) (by simp [hwork]) fun t _ ht => ?_
  rwa [Noticed, OnItsWay, hwork, hlast]

/-- An event opens a window, and the queue will be told. -/
lemma Kept.touch (h : Kept w s k) : Kept w (s.step (.touch k)) k := by
  have hwork : (s.step (.touch k)).work k =
      { s.work k with mapped := (s.work k).mapped + 1, touched := s.now :: (s.work k).touched } :=
    Function.update_self _ _ _
  have hlast : (s.step (.touch k)).lastCh k = some s.now := Function.update_self _ _ _
  have hbetween {asked : ℤ} (hle : asked ≤ s.now) (hb : Between w (s.work k).touched asked) :
      Between w (s.now :: (s.work k).touched) asked := List.forall_mem_cons.2 ⟨.inl hle, hb⟩
  constructor
  · rw [hwork]
    exact List.forall_mem_cons.2 ⟨le_refl _, h.past⟩
  · rw [hlast]
    intro hnone
    cases hnone
  · rw [hwork, hlast]
    rintro _ ⟨⟩
    exact List.forall_mem_cons.2 ⟨le_refl _, h.past⟩
  · rw [hwork]
    intro asked hasked
    obtain ⟨hle, hb⟩ := h.reading asked hasked
    exact ⟨hle, hbetween hle hb⟩
  · rw [hwork]
    intro e he
    obtain ⟨hle, hnow, hb⟩ := h.taken e he
    exact ⟨hle, hnow, hbetween (hle.trans hnow) hb⟩
  · intro t _
    refine .inr (.inr (.inl ?_))
    rw [hwork]
    exact Nat.succ_pos _

/-- A pass is let through: every window is over. -/
lemma Kept.letThrough (h : Kept w s k) (hover : ∀ t ∈ (s.work k).touched, t + w ≤ s.now)
    (hnow : s'.now = s.now) (hlast : s'.lastCh k = none)
    (hwork : s'.work k = { s.work k with running := some (.reading s.now) }) : Kept w s' k := by
  constructor
  · rw [hwork, hnow]
    exact h.past
  · rw [hwork, hnow]
    exact fun _ => hover
  · rw [hlast]
    intro last hsome
    cases hsome
  · rw [hwork, hnow]
    rintro _ ⟨⟩
    exact ⟨le_refl _, fun t ht => .inr (hover t ht)⟩
  · rw [hwork, hnow]
    exact h.taken
  · intro t ht
    rw [hwork] at ht
    exact .of_reading (by rw [hwork]) (hover t ht)

/-- A pass is sent back until the end of the window. -/
lemma Kept.sentBack (h : Kept w s k) {last : ℤ} (hentry : s.lastCh k = some last)
    (hnow : s'.now = s.now) (hlast : s'.lastCh k = s.lastCh k)
    (hwork : s'.work k =
      { s.work k with running := none, later := addAfter (s.work k).later (last + w) }) :
    Kept w s' k := by
  refine h.of_noticed hnow hlast (by rw [hwork]) (by rw [hwork]) (by simp [hwork]) fun t _ _ => ?_
  obtain ⟨d, hd, hle, -⟩ := exists_addAfter_le (s.work k).later (last + w)
  exact .of_later (by rw [hwork, ← hd]) (.inl ⟨last, hlast.trans hentry, hle⟩)

/-- **A pass asks**: it is let through, or sent back until the end of the window. -/
lemma Kept.ask (h : Kept w s k) {vc : VinylCache} (hk : (⟨vc.namespace_, vc.name⟩ : ObjectKey) = k)
    (hwindow : debounceWindow vc = w) : Kept w (s.step (.ask vc)) k := by
  cases hrunning : (s.work k).running with
  | none =>
    have hstep : s.step (.ask vc) = s := by simp only [step, hk, hrunning]
    rwa [hstep]
  | some stage =>
    cases stage with
    | starting =>
      cases hentry : s.lastCh k with
      | none =>
        refine h.letThrough (h.idle hentry) ?_ ?_ ?_ <;>
          simp [step, update, hk, hrunning, debounceRemaining_of_none hk hentry, hentry]
      | some last =>
        have hask := debounceRemaining_of_some hk hentry s.now
        rw [hwindow] at hask
        by_cases hover : s.now - last ≥ w
        · rw [if_pos hover] at hask
          refine h.letThrough (fun t ht => ?_) ?_ ?_ ?_
          · have hle := h.last last hentry t ht
            omega
          all_goals simp [step, update, hk, hrunning, hask, Table.delete]
        · rw [if_neg hover] at hask
          have hwait : s.now - last < w := by omega
          have hback : s.now + (w - (s.now - last)) = last + w := by omega
          refine h.sentBack hentry ?_ ?_ ?_ <;>
            simp [step, update, hk, hrunning, hask, hwait, hback]
    | reading asked =>
      have hstep : s.step (.ask vc) = s := by simp only [step, hk, hrunning]
      rwa [hstep]
    | ending =>
      have hstep : s.step (.ask vc) = s := by simp only [step, hk, hrunning]
      rwa [hstep]

/-- A step after which the cache waits in the queue or has still to ask. -/
lemma Kept.of_waiting (h : Kept w s k) (hnow : s'.now = s.now) (hlast : s'.lastCh k = s.lastCh k)
    (htouched : (s'.work k).touched = (s.work k).touched)
    (htaken : (s'.work k).takenUp = (s.work k).takenUp)
    (hreading : ∀ asked, (s'.work k).running = some (.reading asked) →
      (s.work k).running = some (.reading asked))
    (hwaits : (s'.work k).queued = true ∨ (s'.work k).running = some .starting) :
    Kept w s' k := by
  refine h.of_noticed hnow hlast htouched htaken hreading fun t _ _ => .inr (.inr (.inr ?_))
  exact hwaits.imp_right .inl

/-- A step that does nothing for the cache. -/
lemma Kept.of_eq (h : Kept w s k) (hnow : s'.now = s.now) (hlast : s'.lastCh k = s.lastCh k)
    (hwork : s'.work k = s.work k) : Kept w s' k := by
  refine h.of_noticed hnow hlast (by rw [hwork]) (by rw [hwork]) (by simp [hwork]) fun t _ ht => ?_
  rwa [Noticed, OnItsWay, hwork, hlast]

/-- The queue is told of an event. -/
lemma Kept.enqueue (h : Kept w s k) : Kept w (s.step (.enqueue k)) k := by
  by_cases hmapped : 0 < (s.work k).mapped
  · refine h.of_waiting rfl rfl ?_ ?_ ?_ (.inl ?_) <;> simp [step, update, hmapped]
  · refine h.of_eq rfl rfl ?_
    simp [step, update, hmapped]

/-- The time of the cache has come. -/
lemma Kept.fire (h : Kept w s k) : Kept w (s.step (.fire k)) k := by
  by_cases hdue : (s.work k).later.any (· ≤ s.now) = true
  · refine h.of_waiting rfl rfl ?_ ?_ ?_ (.inl ?_) <;> simp only [step, update] <;> simp [hdue]
  · refine h.of_eq rfl rfl ?_
    simp only [step, update]
    simp [hdue]

/-- A pass begins. -/
lemma Kept.begin (h : Kept w s k) : Kept w (s.step (.begin k)) k := by
  by_cases hqueued : ((s.work k).queued && (s.work k).running.isNone) = true
  · refine h.of_waiting rfl rfl ?_ ?_ ?_ (.inr ?_) <;> simp only [step, update] <;> simp [hqueued]
  · refine h.of_eq rfl rfl ?_
    simp only [step, update]
    simp [hqueued]

/-- A pass returns early. It comes back after the time that it asks for, or not at all. -/
lemma Kept.leave (h : Kept w s k) (requeueAfter : Option ℤ) :
    Kept w (s.step (.leave k requeueAfter)) k := by
  by_cases hrunning : (s.work k).running.isSome = true
  · have hwork : (s.step (.leave k requeueAfter)).work k =
        { s.work k with
          running := none
          later := (requeueAfter.map fun r => addAfter (s.work k).later (s.now + r)).getD
            (s.work k).later
          left := (s.now, requeueAfter) :: (s.work k).left } := by
      simp only [step, update]
      rw [Function.update_self, if_pos hrunning]
    refine h.of_noticed rfl rfl (by rw [hwork]) (by rw [hwork]) (by simp [hwork]) fun t ht _ => ?_
    have hpast := h.past t ht
    cases requeueAfter with
    | none =>
      refine .inr (.inl ⟨s.now, ?_, hpast⟩)
      rw [hwork]
      exact List.mem_cons_self
    | some r =>
      obtain ⟨d, hd, hle, -⟩ := exists_addAfter_le (s.work k).later (s.now + r)
      refine .of_later (by rw [hwork]; exact hd) (.inr ⟨s.now, r, ?_, hpast, hle⟩)
      rw [hwork]
      exact List.mem_cons_self
  · refine h.of_eq rfl rfl ?_
    simp only [step, update]
    rw [Function.update_self, if_neg hrunning]

/-- A pass reads the endpoints, and takes up every event before it was let through. -/
lemma Kept.read (h : Kept w s k) : Kept w (s.step (.read k)) k := by
  by_cases hrunning : ∃ asked, (s.work k).running = some (.reading asked)
  · obtain ⟨asked, hrunning⟩ := hrunning
    have hwork : (s.step (.read k)).work k =
        { s.work k with
          running := some .ending
          takenUp := (asked, s.now) :: (s.work k).takenUp } := by
      simp only [step, update]
      rw [Function.update_self, hrunning]
    obtain ⟨hle, hbetween⟩ := h.reading asked hrunning
    refine ⟨?_, ?_, ?_, ?_, ?_, ?_⟩
    · rw [hwork]
      exact h.past
    · rw [hwork]
      exact h.idle
    · rw [hwork]
      exact h.last
    · rw [hwork]
      intro _ hreading
      cases hreading
    · rw [hwork]
      exact List.forall_mem_cons.2 ⟨⟨hle, le_refl _, hbetween⟩, h.taken⟩
    · rw [hwork]
      intro t ht
      refine (h.noticed t ht).of_pass rfl ?_ ?_ ?_ ?_ ?_ ?_ fun asked' hasked' hover => ?_
      · rw [hwork]
        exact fun e he => List.mem_cons_of_mem _ he
      · rw [hwork]
      · rw [hwork]
      · rw [hwork]
      · rw [hwork]
        exact fun d hd => ⟨d, hd, le_refl d⟩
      · rw [hrunning]
        exact fun hstart => nomatch hstart
      · -- the pass that reads was let through after the window
        rw [hrunning] at hasked'
        cases hasked'
        refine .inl ⟨(asked, s.now), ?_, hover⟩
        rw [hwork]
        exact List.mem_cons_self
  · refine h.of_eq rfl rfl ?_
    simp only [step, update]
    rw [Function.update_self]
    split
    · next asked hasked => exact absurd ⟨asked, hasked⟩ hrunning
    · rfl

/-- A pass ends, and the cache does not come back later than it would have anyway. -/
lemma Kept.finish (h : Kept w s k) (requeueAfter : ℤ) :
    Kept w (s.step (.finish k requeueAfter)) k := by
  by_cases hrunning : (s.work k).running = some .ending
  · have hwork : (s.step (.finish k requeueAfter)).work k =
        { s.work k with
          running := none
          later := addAfter (s.work k).later (s.now + requeueAfter) } := by
      simp only [step, update]
      rw [Function.update_self, hrunning]
    refine h.of_noticed rfl rfl (by rw [hwork]) (by rw [hwork]) (by simp [hwork]) fun t _ ht => ?_
    refine ht.of_pass rfl ?_ ?_ ?_ ?_ ?_ ?_ fun asked hasked _ => ?_
    · rw [hwork]
      exact fun e he => he
    · rw [hwork]
    · rw [hwork]
    · rw [hwork]
    · rw [hwork]
      intro d hd
      obtain ⟨d', hd', -, hle⟩ := exists_addAfter_le (s.work k).later (s.now + requeueAfter)
      exact ⟨d', hd', hle d hd⟩
    · rw [hrunning]
      exact fun hstart => nomatch hstart
    · rw [hrunning] at hasked
      cases hasked
  · refine h.of_eq rfl rfl ?_
    simp only [step, update]
    rw [Function.update_self]

/-- Time passes. -/
lemma Kept.advance (h : Kept w s k) (d : ℕ) : Kept w (s.step (.advance d)) k := by
  have hle : s.now ≤ (s.step (.advance d)).now := by
    simp only [step]
    omega
  refine ⟨fun t ht => (h.past t ht).trans hle, fun hnone t ht => (h.idle hnone t ht).trans hle,
    h.last, fun asked hasked => ?_, fun e he => ?_, h.noticed⟩
  · obtain ⟨hnow, hbetween⟩ := h.reading asked hasked
    exact ⟨hnow.trans hle, hbetween⟩
  · obtain ⟨hread, hnow, hbetween⟩ := h.taken e he
    exact ⟨hread, hnow.trans hle, hbetween⟩

/-- **Every step keeps it.** -/
lemma Kept.step (h : Kept w s k) {e : Event} (he : e.Keeps w k) : Kept w (s.step e) k := by
  by_cases hkey : ∃ k', e.key = some k' ∧ k ≠ k'
  · obtain ⟨k', hk', hne⟩ := hkey
    exact h.of_ne hk' hne
  push Not at hkey
  cases e with
  | touch k' =>
    obtain rfl := hkey k' rfl
    exact h.touch
  | enqueue k' =>
    obtain rfl := hkey k' rfl
    exact h.enqueue
  | add k' =>
    obtain rfl := hkey k' rfl
    refine h.of_waiting rfl rfl ?_ ?_ ?_ (.inl ?_) <;> simp [Debouncing.step, update]
  | fire k' =>
    obtain rfl := hkey k' rfl
    exact h.fire
  | begin k' =>
    obtain rfl := hkey k' rfl
    exact h.begin
  | leave k' r =>
    obtain rfl := hkey k' rfl
    exact h.leave r
  | ask vc =>
    have hk := (hkey _ rfl).symm
    exact h.ask hk (he hk)
  | read k' =>
    obtain rfl := hkey k' rfl
    exact h.read
  | finish k' r =>
    obtain rfl := hkey k' rfl
    exact h.finish r
  | advance d => exact h.advance d

/-- **Every run keeps it.** -/
lemma Kept.run (h : Kept w s k) {events : List Event} (hevents : ∀ e ∈ events, e.Keeps w k) :
    Kept w (s.run events) k := by
  induction events generalizing s with
  | nil => exact h
  | cons e events ih =>
    obtain ⟨he, hrest⟩ := List.forall_mem_cons.1 hevents
    exact ih (h.step he) hrest

end Steps

/-- A paused pass, and then two events within a second: a pass that has to come back, one that comes
back too early for the second event, and one that is let through and reads a little later. -/
def burst : List Event :=
  let vc : VinylCache := { name := "shop", namespace_ := "prod", spec := { } }
  let k : ObjectKey := ⟨"prod", "shop"⟩
  [.add k, .begin k, .leave k (some (seconds 30)), .advance 100000000,
    .touch k, .enqueue k, .begin k, .advance 100000000, .ask vc, .advance 300000000,
    .touch k, .enqueue k, .begin k, .ask vc, .advance 600000000, .fire k, .begin k, .ask vc,
    .advance 400000000, .fire k, .begin k, .advance 50000000, .ask vc, .advance 20000000, .read k,
    .finish k (seconds 300)]

end Debouncing

end CloudVinyl.Controller
