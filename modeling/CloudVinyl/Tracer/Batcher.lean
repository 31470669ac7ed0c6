import CloudVinyl.Lib.Transducer

set_option relaxedAutoImplicit false
set_option autoImplicit false

/-!
# The export queue

Spans reach the exporter through the bounded queue of `internal/tracer/export/batcher.go`. Any
number of goroutines call `Enqueue`, which never blocks, while one goroutine is in `Run`: it fills
a buffer from the queue and hands it to the exporter when it is large, when a ticker fires, and
once more when its context is cancelled. `select` takes any case that is ready, so every
interleaving of the steps below is a run.

An operation on the channel is one step. A sender meets `Run` without going through the queue if
`Run` is parked in its `select`, which is the only way through a queue of length zero. The buffer
is reused after a call of the exporter has returned, so a batch is the content of the buffer at
the call. A step that is not possible in a state leaves it as it is.

## Main definitions

* `Batcher.State`, `Batcher.Event`, `Batcher.step` — the batcher and its steps.
* `Batcher.CancelLast` — the context is cancelled after the last call of `Enqueue`.
* `Batcher.Arranged` — what `cmd/tracer` calls, in its order.

## Main results

* `Batcher.run_loses_nothing` — when `Run` has returned, the batches are the accepted spans in
  their order, and every other span is counted.
* `Batcher.exists_returned` — after the cancellation `Run` can always return.
-/

namespace CloudVinyl.Batcher

variable {S : Type}

/-! ## States and steps -/

/-- `maxBatch` -/
def maxBatch : ℕ := 512

/-- Where `Run` stands. -/
inductive Control where
  /-- in the `select` of its loop -/
  | waiting
  /-- before a call of the exporter, the last one if it returns afterwards -/
  | flushing (last : Bool)
  /-- in the loop that empties the queue after the cancellation -/
  | draining
  | returned
  deriving DecidableEq

/-- The batcher: the channels, the buffer of `Run` and where it is, and the counters. -/
structure State (S : Type) where
  queueLen : ℕ
  queue : List S := []
  buf : List S := []
  control : Control := .waiting
  /-- The channel of the ticker holds a tick. -/
  ticked : Bool := false
  cancelled : Bool := false
  exportedTotal : ℕ := 0
  droppedTotal : ℕ := 0
  exportErrors : ℕ := 0

/-- `NewBatcher`, with `Run` at its first `select`. -/
def newBatcher (queueLen : ℕ) : State S := { queueLen := queueLen }

/-- What can happen next. -/
inductive Event (S : Type) where
  /-- a call of `Enqueue`; `parked` says whether `Run` sleeps in its `select` -/
  | enqueue (s : S) (parked : Bool)
  | tick
  | cancel
  /-- `Run` takes the case of the queue -/
  | receive
  /-- `Run` takes the case of the ticker -/
  | takeTick
  /-- `Run` takes the case of the cancelled context -/
  | takeDone
  /-- one round of the loop that empties the queue -/
  | drain
  /-- the call of the exporter, which fails or not -/
  | exportSpans (ok : Bool)

/-- What a step lets the outside see. -/
inductive Output (S : Type) where
  | nothing
  | accepted (s : S)
  | dropped (s : S)
  | exported (batch : List S) (ok : Bool)

namespace State

/-- `flush`: an empty buffer is not exported. -/
def flush (st : State S) (last : Bool) : State S :=
  { st with
    control := if !st.buf.isEmpty then .flushing last else if last then .returned else .waiting }

/-- A span is put into the buffer. -/
def push (st : State S) (s : S) : State S := { st with buf := st.buf ++ [s] }

/-- The case of the queue in the loop of `Run`. -/
def take (st : State S) (s : S) : State S :=
  if maxBatch ≤ (st.push s).buf.length then (st.push s).flush false else st.push s

/-- No case of the `select` is ready, so that `Run` may be parked in it. -/
def idle (st : State S) : Bool :=
  st.control = .waiting && st.queue.isEmpty && !st.ticked && !st.cancelled

/-- `Enqueue` -/
def enqueue (st : State S) (s : S) (parked : Bool) : Output S × State S :=
  if parked && st.idle then (.accepted s, st.take s)
  else if st.queue.length < st.queueLen then (.accepted s, { st with queue := st.queue ++ [s] })
  else (.dropped s, { st with droppedTotal := st.droppedTotal + 1 })

/-- `Run` receives a span from the queue. -/
def receive (st : State S) : State S :=
  match st.control, st.queue with
  | .waiting, s :: queue => { st with queue := queue }.take s
  | _, _ => st

/-- `Run` takes the tick, and flushes. -/
def takeTick (st : State S) : State S :=
  if st.control = .waiting && st.ticked then { st with ticked := false }.flush false else st

/-- `Run` sees that the context is cancelled, and drains the queue. -/
def takeDone (st : State S) : State S :=
  if st.control = .waiting && st.cancelled then { st with control := .draining } else st

/-- One round of the drain: a span, or the last flush. -/
def drain (st : State S) : State S :=
  match st.control, st.queue with
  | .draining, s :: queue => { st with queue := queue }.push s
  | .draining, [] => st.flush true
  | _, _ => st

/-- The exporter takes the batch or refuses it. -/
def exportSpans (st : State S) (ok : Bool) : Output S × State S :=
  match st.control with
  | .flushing last =>
    (.exported st.buf ok,
      { st with
        buf := []
        control := if last then .returned else .waiting
        exportedTotal := if ok then st.exportedTotal + st.buf.length else st.exportedTotal
        exportErrors := if ok then st.exportErrors else st.exportErrors + 1 })
  | _ => (.nothing, st)

end State

/-- What an event does, and what comes of it. -/
def step (st : State S) : Event S → Output S × State S
  | .enqueue s parked => st.enqueue s parked
  | .tick => (.nothing, { st with ticked := true })
  | .cancel => (.nothing, { st with cancelled := true })
  | .receive => (.nothing, st.receive)
  | .takeTick => (.nothing, st.takeTick)
  | .takeDone => (.nothing, st.takeDone)
  | .drain => (.nothing, st.drain)
  | .exportSpans ok => st.exportSpans ok

/-- A run of a new batcher: its history and the state it ends in. -/
def run (queueLen : ℕ) (events : List (Event S)) : List (Event S × Output S) × State S :=
  Transducer.run step (newBatcher queueLen) events

/-! ## Schedules and histories -/

/-- The span that a call of `Enqueue` hands in. -/
@[simp] def Event.enqueued : Event S → List S
  | .enqueue s _ => [s]
  | _ => []

/-- The context is cancelled after the last call of `Enqueue` has returned. -/
def CancelLast (events : List (Event S)) : Prop :=
  events.Pairwise fun e e' => e = .cancel → e'.enqueued = []

/-- The spans handed in, in the order of the calls. -/
def enqueued (events : List (Event S)) : List S := events.flatMap Event.enqueued

/-- The span that was put into the queue. -/
@[simp] def Output.acceptedSpans : Output S → List S
  | .accepted s => [s]
  | _ => []

/-- The span that was dropped. -/
@[simp] def Output.droppedSpans : Output S → List S
  | .dropped s => [s]
  | _ => []

/-- The batch that was handed to the exporter. -/
@[simp] def Output.batches : Output S → List (List S)
  | .exported batch _ => [batch]
  | _ => []

section Histories

variable (history : List (Event S × Output S))

/-- The spans that entered the queue, in their order. -/
def accepted : List S := history.flatMap fun ev => ev.2.acceptedSpans

/-- The spans that found the queue full. -/
def dropped : List S := history.flatMap fun ev => ev.2.droppedSpans

/-- The batches handed to the exporter, one for each call. -/
def batches : List (List S) := history.flatMap fun ev => ev.2.batches

end Histories

/-! ## What one step does -/

section Steps

variable (st : State S)

/-- A span that is taken is put into the buffer, which is flushed if it is full. -/
lemma take_cases (s : S) : st.take s = st.push s ∨ st.take s = (st.push s).flush false := by
  unfold State.take
  split_ifs
  · exact .inr rfl
  · exact .inl rfl

/-- Taking a span leaves the rest of the queue. -/
@[simp] lemma queue_take (s : S) : (st.take s).queue = st.queue := by
  rcases take_cases st s with h | h <;> rw [h] <;> rfl

/-- Taking a span puts it into the buffer. -/
@[simp] lemma buf_take (s : S) : (st.take s).buf = st.buf ++ [s] := by
  rcases take_cases st s with h | h <;> rw [h] <;> rfl

/-- Taking a span cancels nothing. -/
@[simp] lemma cancelled_take (s : S) : (st.take s).cancelled = st.cancelled := by
  rcases take_cases st s with h | h <;> rw [h] <;> rfl

/-- Taking a span drops nothing. -/
@[simp] lemma droppedTotal_take (s : S) : (st.take s).droppedTotal = st.droppedTotal := by
  rcases take_cases st s with h | h <;> rw [h] <;> rfl

/-- A receive does nothing, or takes the first span of the queue. -/
lemma receive_cases : st.receive = st ∨
    ∃ s queue, st.control = .waiting ∧ st.queue = s :: queue ∧
      st.receive = { st with queue := queue }.take s := by
  unfold State.receive
  split
  case h_1 s queue hc hq => exact .inr ⟨s, queue, hc, hq, rfl⟩
  case h_2 => exact .inl rfl

/-- A tick does nothing, or begins a flush. -/
lemma takeTick_cases : st.takeTick = st ∨
    (st.control = .waiting ∧ st.takeTick = { st with ticked := false }.flush false) := by
  unfold State.takeTick
  split_ifs with h
  · simp only [Bool.and_eq_true, decide_eq_true_eq] at h
    exact .inr ⟨h.1, rfl⟩
  · exact .inl rfl

/-- The cancellation does nothing, or begins the drain. -/
lemma takeDone_cases : st.takeDone = st ∨
    (st.cancelled = true ∧ st.takeDone = { st with control := .draining }) := by
  unfold State.takeDone
  split_ifs with h
  · simp only [Bool.and_eq_true] at h
    exact .inr ⟨h.2, rfl⟩
  · exact .inl rfl

/-- The drain does nothing, takes a span or begins the last flush. -/
lemma drain_cases : st.drain = st ∨ (st.control = .draining ∧
    ((∃ s queue, st.queue = s :: queue ∧ st.drain = { st with queue := queue }.push s) ∨
      (st.queue = [] ∧ st.drain = st.flush true))) := by
  unfold State.drain
  split
  case h_1 s queue hc hq => exact .inr ⟨hc, .inl ⟨s, queue, hq, rfl⟩⟩
  case h_2 hc hq => exact .inr ⟨hc, .inr ⟨hq, rfl⟩⟩
  case h_3 => exact .inl rfl

/-- A step of `Run` that does not show outside: spans only move from the queue to the buffer. -/
structure Internal (st st' : State S) : Prop where
  order : st'.buf ++ st'.queue = st.buf ++ st.queue
  cancelled : st'.cancelled = st.cancelled
  droppedTotal : st'.droppedTotal = st.droppedTotal

/-- A receive only moves spans. -/
lemma internal_receive : Internal st st.receive := by
  rcases receive_cases st with h | ⟨s, queue, -, hq, h⟩
  · rw [h]
    exact ⟨rfl, rfl, rfl⟩
  · rw [h]
    exact ⟨by simp [hq], by simp, by simp⟩

/-- A tick moves no spans. -/
lemma internal_takeTick : Internal st st.takeTick := by
  rcases takeTick_cases st with h | ⟨-, h⟩ <;> rw [h] <;> exact ⟨rfl, rfl, rfl⟩

/-- The cancellation moves no spans. -/
lemma internal_takeDone : Internal st st.takeDone := by
  rcases takeDone_cases st with h | ⟨-, h⟩ <;> rw [h] <;> exact ⟨rfl, rfl, rfl⟩

/-- The drain only moves spans. -/
lemma internal_drain : Internal st st.drain := by
  rcases drain_cases st with h | ⟨-, ⟨s, queue, hq, h⟩ | ⟨-, h⟩⟩
  · rw [h]
    exact ⟨rfl, rfl, rfl⟩
  · rw [h]
    exact ⟨by simp [State.push, hq], rfl, rfl⟩
  · rw [h]
    exact ⟨rfl, rfl, rfl⟩

/-- A step keeps the spans in their order: what it hands to the exporter is taken from the front
of the buffer and the queue, and what it accepts comes after them. -/
lemma step_order (e : Event S) :
    (step st e).1.batches.flatten ++ ((step st e).2.buf ++ (step st e).2.queue) =
      st.buf ++ st.queue ++ (step st e).1.acceptedSpans := by
  cases e with
  | enqueue s parked =>
    simp only [step, State.enqueue]
    split_ifs with hpark hroom
    · -- the queue is empty when `Run` is parked
      have hq : st.queue = [] := by
        simp only [State.idle, Bool.and_eq_true, List.isEmpty_iff] at hpark
        exact hpark.2.1.1.2
      simp [hq]
    · simp
    · simp
  | tick => simp [step]
  | cancel => simp [step]
  | receive => simp [step, (internal_receive st).order]
  | takeTick => simp [step, (internal_takeTick st).order]
  | takeDone => simp [step, (internal_takeDone st).order]
  | drain => simp [step, (internal_drain st).order]
  | exportSpans ok =>
    simp only [step, State.exportSpans]
    split <;> simp

/-- A span that is handed in is accepted or dropped. -/
lemma enqueued_eq (e : Event S) :
    e.enqueued = (step st e).1.acceptedSpans ++ (step st e).1.droppedSpans := by
  cases e with
  | enqueue s parked =>
    simp only [step, State.enqueue]
    split_ifs <;> rfl
  | exportSpans ok =>
    simp only [step, State.exportSpans]
    split <;> rfl
  | _ => rfl

/-- The counter goes up by the spans that are dropped. -/
lemma droppedTotal_step (e : Event S) :
    (step st e).2.droppedTotal = st.droppedTotal + (step st e).1.droppedSpans.length := by
  cases e with
  | enqueue s parked =>
    simp only [step, State.enqueue]
    split_ifs <;> simp
  | tick => rfl
  | cancel => rfl
  | receive => exact (internal_receive st).droppedTotal
  | takeTick => exact (internal_takeTick st).droppedTotal
  | takeDone => exact (internal_takeDone st).droppedTotal
  | drain => exact (internal_drain st).droppedTotal
  | exportSpans ok =>
    simp only [step, State.exportSpans]
    split <;> rfl

/-- Only the cancellation cancels. -/
lemma cancelled_step (e : Event S) :
    (step st e).2.cancelled = true ↔ st.cancelled = true ∨ e = .cancel := by
  cases e with
  | enqueue s parked =>
    simp only [step, State.enqueue]
    split_ifs <;> simp
  | tick => simp [step]
  | cancel => simp [step]
  | receive => simp [step, (internal_receive st).cancelled]
  | takeTick => simp [step, (internal_takeTick st).cancelled]
  | takeDone => simp [step, (internal_takeDone st).cancelled]
  | drain => simp [step, (internal_drain st).cancelled]
  | exportSpans ok =>
    simp only [step, State.exportSpans]
    split <;> simp

end Steps

/-! ## The end of a run -/

/-- `Run` stops only after the cancellation, and nothing is left when it has. -/
structure Sound (st : State S) : Prop where
  cancelled : st.control = .draining ∨ st.control = .flushing true ∨ st.control = .returned →
    st.cancelled = true
  queue : st.control = .flushing true ∨ st.control = .returned → st.queue = []
  buf : st.control = .returned → st.buf = []

/-- Nothing is asked of a state in which `Run` has not left its loop. -/
lemma sound_of_looping {st : State S} (h : st.control = .waiting ∨ st.control = .flushing false) :
    Sound st := by
  constructor <;> intro hc <;> rcases h with h | h <;> simp [h] at hc

/-- A flush begins in a sound state; the last one needs an empty queue. -/
lemma sound_flush {st : State S} {last : Bool}
    (hlast : last = true → st.cancelled = true ∧ st.queue = []) : Sound (st.flush last) := by
  cases last with
  | false =>
    apply sound_of_looping
    cases hb : st.buf.isEmpty <;> simp [State.flush, hb]
  | true =>
    obtain ⟨hc, hq⟩ := hlast rfl
    refine ⟨fun _ => hc, fun _ => hq, fun hr => ?_⟩
    cases hb : st.buf.isEmpty with
    | false => simp [State.flush, hb] at hr
    | true => exact List.isEmpty_iff.1 hb

/-- Taking a span leads to a sound state. -/
lemma sound_take {st : State S} (h : st.control = .waiting) (s : S) : Sound (st.take s) := by
  rcases take_cases st s with heq | heq
  · rw [heq]
    exact sound_of_looping (.inl h)
  · rw [heq]
    exact sound_flush (by simp)

/-- Before the cancellation `Run` is in its loop. -/
lemma Sound.looping {st : State S} (h : Sound st) (hnot : ¬ st.cancelled = true) :
    st.control = .waiting ∨ st.control = .flushing false := by
  cases hc : st.control with
  | waiting => exact .inl rfl
  | flushing last =>
    cases last with
    | false => exact .inr rfl
    | true => exact absurd (h.cancelled (by simp [hc])) hnot
  | draining => exact absurd (h.cancelled (by simp [hc])) hnot
  | returned => exact absurd (h.cancelled (by simp [hc])) hnot

/-- A span that is enqueued before the cancellation keeps the state sound. -/
lemma Sound.enqueue {st : State S} (h : Sound st) (hnot : ¬ st.cancelled = true) (s : S)
    (parked : Bool) : Sound (step st (.enqueue s parked)).2 := by
  simp only [step, State.enqueue]
  split_ifs with hpark
  · simp only [State.idle, Bool.and_eq_true, decide_eq_true_eq] at hpark
    exact sound_take hpark.2.1.1.1 s
  · exact sound_of_looping (h.looping hnot)
  · exact sound_of_looping (h.looping hnot)

/-- After the last flush `Run` returns with an empty buffer. -/
lemma Sound.exportSpans {st : State S} (h : Sound st) (ok : Bool) :
    Sound (step st (.exportSpans ok)).2 := by
  simp only [step, State.exportSpans]
  split
  case h_1 last hc =>
    cases last with
    | false => exact sound_of_looping (.inl rfl)
    | true =>
      exact ⟨fun _ => h.cancelled (by simp [hc]), fun _ => h.queue (by simp [hc]), fun _ => rfl⟩
  case h_2 => exact h

/-- A step keeps the state sound, unless a span is handed in after the cancellation. -/
lemma sound_step {st : State S} {e : Event S} (h : Sound st)
    (he : st.cancelled = true → e.enqueued = []) : Sound (step st e).2 := by
  cases e with
  | enqueue s parked => exact h.enqueue (fun hc => by simpa using he hc) s parked
  | tick => exact ⟨h.cancelled, h.queue, h.buf⟩
  | cancel => exact ⟨fun _ => rfl, h.queue, h.buf⟩
  | receive =>
    show Sound st.receive
    rcases receive_cases st with heq | ⟨s, queue, hc, -, heq⟩ <;> rw [heq]
    · exact h
    · apply sound_take
      exact hc
  | takeTick =>
    show Sound st.takeTick
    rcases takeTick_cases st with heq | ⟨-, heq⟩ <;> rw [heq]
    · exact h
    · exact sound_flush (by simp)
  | takeDone =>
    show Sound st.takeDone
    rcases takeDone_cases st with heq | ⟨hc, heq⟩ <;> rw [heq]
    · exact h
    · exact ⟨fun _ => hc, by simp, by simp⟩
  | drain =>
    show Sound st.drain
    rcases drain_cases st with heq | ⟨hc, ⟨s, queue, -, heq⟩ | ⟨hq, heq⟩⟩ <;> rw [heq]
    · exact h
    · refine ⟨fun _ => h.cancelled (.inl hc), ?_, ?_⟩ <;> simp [State.push, hc]
    · exact sound_flush fun _ => ⟨h.cancelled (.inl hc), hq⟩
  | exportSpans ok => exact h.exportSpans ok

/-- What holds of a history and the state it leads to. -/
structure Kept (history : List (Event S × Output S)) (st : State S) : Prop where
  order : (batches history).flatten ++ (st.buf ++ st.queue) = accepted history
  droppedTotal : st.droppedTotal = (dropped history).length
  cancelled : st.cancelled = true ↔ ∃ ev ∈ history, ev.1 = .cancel
  sound : Sound st

/-- A step that does not hand in a span after the cancellation keeps all of it. -/
lemma kept_step {history : List (Event S × Output S)} {st : State S} {e : Event S}
    (h : Kept history st) (he : (∃ ev ∈ history, ev.1 = .cancel) → e.enqueued = []) :
    Kept (history ++ [(e, (step st e).1)]) (step st e).2 := by
  refine ⟨?_, ?_, ?_, sound_step h.sound fun hc => he (h.cancelled.1 hc)⟩
  · have hstep := step_order st e
    simp only [batches, accepted, List.flatMap_append, List.flatMap_singleton,
      List.flatten_append, List.append_assoc]
    rw [hstep, ← List.append_assoc, ← List.append_assoc]
    congr 1
    rw [List.append_assoc]
    exact h.order
  · simp only [dropped, List.flatMap_append, List.flatMap_singleton, List.length_append]
    rw [droppedTotal_step, h.droppedTotal, dropped]
  · rw [cancelled_step, h.cancelled]
    simp [or_and_right, exists_or]

/-- All of it holds along a run that is cancelled after the last span. -/
lemma kept_run {queueLen : ℕ} {events : List (Event S)} (hlast : CancelLast events) :
    Kept (run queueLen events).1 (run queueLen events).2 := by
  refine Transducer.run_induction step (P := Kept) ?_ fun history st e hpre ih => ?_
  · exact ⟨rfl, rfl, by simp [newBatcher], sound_of_looping (.inl rfl)⟩
  · refine kept_step ih ?_
    rintro ⟨ev, hev, hcancel⟩
    -- the inputs of the history are a beginning of the schedule
    have hinputs : history.map Prod.fst ++ [e] <+: events := by
      have := hpre.map Prod.fst
      rwa [Transducer.map_fst_run, List.map_append] at this
    have hpair := List.Pairwise.sublist hinputs.sublist hlast
    exact (List.pairwise_append.1 hpair).2.2 _ (List.mem_map_of_mem hev) e (by simp) hcancel

/-- Every span that is handed in is accepted or dropped, and not both. -/
lemma enqueued_perm (queueLen : ℕ) (events : List (Event S)) :
    List.Perm (enqueued events)
      (accepted (run queueLen events).1 ++ dropped (run queueLen events).1) := by
  have hstep : ∀ ev ∈ (run queueLen events).1,
      ev.1.enqueued = ev.2.acceptedSpans ++ ev.2.droppedSpans := by
    refine Transducer.run_induction step (P := fun history _ => ∀ ev ∈ history,
      ev.1.enqueued = ev.2.acceptedSpans ++ ev.2.droppedSpans) (by simp) fun history st e _ ih => ?_
    intro ev hev
    rcases List.mem_append.1 hev with hev | hev
    · exact ih ev hev
    · rw [List.mem_singleton.1 hev]
      exact enqueued_eq st e
  have hcalls : enqueued events = (run queueLen events).1.flatMap fun ev => ev.1.enqueued :=
    calc enqueued events = enqueued ((run queueLen events).1.map Prod.fst) := by
          rw [run, Transducer.map_fst_run]
      _ = (run queueLen events).1.flatMap fun ev => ev.1.enqueued := List.flatMap_map ..
  rw [hcalls, List.flatMap_congr hstep]
  exact (List.flatMap_append_perm _ _ _).symm

/-- Nothing is left in the batcher when `Run` has returned. -/
lemma flatten_batches_of_returned {queueLen : ℕ} {events : List (Event S)}
    (hlast : CancelLast events) (hreturned : (run queueLen events).2.control = .returned) :
    (batches (run queueLen events).1).flatten = accepted (run queueLen events).1 := by
  have hkept := @kept_run S queueLen events hlast
  have horder := hkept.order
  rwa [hkept.sound.buf hreturned, hkept.sound.queue (.inr hreturned), List.append_nil,
    List.append_nil] at horder

/-- **The span pipeline loses nothing silently.** For every length of the queue and every
interleaving of calls of `Enqueue`, ticks, steps of `Run` and the cancellation, if the cancellation
comes after the last call and `Run` has returned: the batches, one after the other, are the
accepted spans in the order of their acceptance, the spans handed in are those in the batches and
the dropped ones, and the counter has the number of the dropped ones.

**Proof sketch.** A step takes what it exports from the front of buffer and queue and appends what
it accepts (`step_order`), so batches, buffer and queue together are always the accepted spans.
`Run` returns only from a loop that ends on an empty queue, after a last flush, and nothing is
handed in from the cancellation on (`sound_step`). -/
theorem run_loses_nothing (queueLen : ℕ) (events : List (Event S)) (hlast : CancelLast events)
    (hreturned : (run queueLen events).2.control = .returned) :
    (batches (run queueLen events).1).flatten = accepted (run queueLen events).1 ∧
    List.Perm (enqueued events)
      ((batches (run queueLen events).1).flatten ++ dropped (run queueLen events).1) ∧
    (run queueLen events).2.droppedTotal = (dropped (run queueLen events).1).length := by
  have horder := flatten_batches_of_returned hlast hreturned
  refine ⟨horder, ?_, (kept_run hlast).droppedTotal⟩
  rw [horder]
  exact enqueued_perm queueLen events

/-- Three spans through a queue of length one: the first is handed to `Run` directly, the third
finds the queue full, and the other two leave in one batch. -/
theorem run_loses_nothing_three :
    (batches (run 1 [.enqueue 1 true, .enqueue 2 false, .enqueue 3 false, .cancel, .tick,
        .takeDone, .drain, .drain, .exportSpans true]).1).flatten = [1, 2] ∧
      (run 1 [.enqueue 1 true, .enqueue 2 false, .enqueue 3 false, .cancel, .tick,
        .takeDone, .drain, .drain, .exportSpans true]).2.droppedTotal = 1 := by
  have h := run_loses_nothing (S := ℕ) 1 [.enqueue 1 true, .enqueue 2 false, .enqueue 3 false,
    .cancel, .tick, .takeDone, .drain, .drain, .exportSpans true]
    (by simp [CancelLast]) (by decide)
  exact ⟨h.1.trans (by decide), h.2.2.trans (by decide)⟩

/-! ## `Run` returns -/

/-- The steps with which `Run` comes to its end from a queue of length `n`. -/
def finish (n : ℕ) : List (Event S) :=
  .exportSpans true :: .takeDone :: (List.replicate (n + 1) .drain ++ [.exportSpans true])

/-- The loop that empties the queue ends with a last flush. -/
lemma returned_of_draining {st : State S} (h : st.control = .draining) :
    (Transducer.run step st
      (List.replicate (st.queue.length + 1) .drain ++ [.exportSpans true])).2.control =
        .returned := by
  induction hq : st.queue generalizing st with
  | nil =>
    have hstep : (step st .drain).2 = st.flush true := by simp [step, State.drain, h, hq]
    simp only [List.length_nil, zero_add, List.replicate_one, List.singleton_append,
      Transducer.run_cons, Transducer.run_nil, hstep]
    cases hb : st.buf.isEmpty <;> simp [step, State.exportSpans, State.flush, hb]
  | cons s queue ih =>
    have hstep : (step st .drain).2 = { st with queue := queue }.push s := by
      simp [step, State.drain, h, hq]
    rw [List.length_cons, List.replicate_succ, List.cons_append, Transducer.run_cons, hstep]
    exact ih h rfl

/-- `Run` that has returned stays so. -/
lemma returned_of_returned {st : State S} (h : st.control = .returned) (n : ℕ) :
    (Transducer.run step st (List.replicate n .drain ++ [.exportSpans true])).2.control =
      .returned := by
  induction n with
  | zero => simp [step, State.exportSpans, h]
  | succ n ih =>
    have hstep : (step st .drain).2 = st := by simp [step, State.drain, h]
    rw [List.replicate_succ, List.cons_append, Transducer.run_cons, hstep]
    exact ih

/-- After the cancellation a pending call of the exporter leads to the end of the loop. -/
lemma stopping_of_cancelled {st : State S} (h : st.cancelled = true) :
    (step (step st (.exportSpans true)).2 .takeDone).2.control = .draining ∨
      (step (step st (.exportSpans true)).2 .takeDone).2.control = .returned := by
  cases hc : st.control with
  | waiting => simp [step, State.exportSpans, State.takeDone, hc, h]
  | flushing last => cases last <;> simp [step, State.exportSpans, State.takeDone, hc, h]
  | draining => simp [step, State.exportSpans, State.takeDone, hc]
  | returned => simp [step, State.exportSpans, State.takeDone, hc]

/-- **`Run` returns.** Whatever has happened, once the context is cancelled `Run` comes to its end
by steps of its own. -/
theorem exists_returned (queueLen : ℕ) {events : List (Event S)} (hlast : CancelLast events)
    (h : Event.cancel ∈ events) :
    ∃ n, (run queueLen (events ++ finish n)).2.control = .returned := by
  have hcancelled : (run queueLen events).2.cancelled = true := by
    refine (kept_run hlast).cancelled.2 ?_
    rw [← Transducer.map_fst_run step (newBatcher queueLen) events] at h
    exact List.mem_map.1 h
  refine ⟨(step (step (run queueLen events).2 (.exportSpans true)).2 .takeDone).2.queue.length, ?_⟩
  rw [run, Transducer.run_append, finish, Transducer.run_cons, Transducer.run_cons]
  rcases stopping_of_cancelled hcancelled with hc | hc
  · exact returned_of_draining hc
  · exact returned_of_returned hc _

/-! ## The pipeline of `cmd/tracer` -/

/-- What a step is for the goroutine that feeds the batcher: a span, or the cancellation. -/
def Event.fed : Event S → Option (Option S)
  | .enqueue s _ => some (some s)
  | .cancel => some none
  | _ => none

/-- The spans are handed in one after the other, and the context is cancelled at the end. -/
def Arranged (spans : List S) (events : List (Event S)) : Prop :=
  events.filterMap Event.fed = spans.map some ++ [none]

/-- The spans that are enqueued are those of the supervisor. -/
lemma Arranged.enqueued_eq {spans : List S} {events : List (Event S)} (h : Arranged spans events) :
    enqueued events = spans := by
  have hfed : ∀ es : List (Event S), enqueued es = (es.filterMap Event.fed).filterMap id := by
    intro es
    induction es with
    | nil => rfl
    | cons e es ih =>
      rw [enqueued, List.flatMap_cons, ← enqueued, ih]
      cases e <;> rfl
  rw [hfed, h]
  simp

/-- Nothing is enqueued after the cancellation. -/
lemma Arranged.cancelLast {spans : List S} {events : List (Event S)} (h : Arranged spans events) :
    CancelLast events := by
  have hpair : (events.filterMap Event.fed).Pairwise fun x y => x = none → y = none := by
    rw [h, List.pairwise_append]
    exact ⟨List.pairwise_map.2 (List.pairwise_of_forall (by simp)), by simp, by simp⟩
  refine (List.pairwise_filterMap.1 hpair).imp fun {e e'} hee he => ?_
  subst he
  cases e' with
  | enqueue s parked => exact absurd (hee none rfl (some s) rfl rfl) (by simp)
  | _ => rfl

end CloudVinyl.Batcher
