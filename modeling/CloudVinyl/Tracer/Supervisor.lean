import CloudVinyl.Tracer.Batcher
import CloudVinyl.Tracer.Ledger
import CloudVinyl.Tracer.Resync

set_option relaxedAutoImplicit false
set_option autoImplicit false

/-!
# The tracer process

`cmd/tracer` puts the stages together. `supervisor.run` of `supervise.go` spawns `varnishlog` again
and again, each time with a new parser, and hands every parsed group to the closure of `main.go`:
one linker for all subprocesses builds the spans of the group, the outcome is counted, and the
spans go to the batcher. When the context is cancelled, the linker is flushed into the batcher and
only then the batcher is told to stop.

A round of the loop is given by what its subprocess wrote until the pipe was closed, or by the fact
that it did not start. Its output is the time that the loop then waits.

## Main definitions

* `Supervisor.Round`, `Supervisor.State` — a round of the loop, and what the process keeps.
* `Supervisor.handle`, `Supervisor.round`, `Supervisor.run` — a group, a round and a whole run.
* `Supervisor.exit` — the state after the final `Flush`.

## Main results

* `Supervisor.enqueued_exit` — what reaches the batcher is what one linker releases for the groups
  of all subprocesses.
* `Supervisor.exit_accounts` — every span of every group is exported, refused by the exporter or
  dropped, once, and the counters say how many.
* `Supervisor.wait_eq` — the waiting time in terms of the rounds that brought nothing.
-/

namespace CloudVinyl.Supervisor

open Vsl Spans Linker

/-! ## States and rounds -/

/-- One round of the loop. -/
structure Round where
  /-- What the subprocess wrote; `none` if it has no pipe or did not start. -/
  output : Option Text
  /-- The ids that are drawn for the groups of the round. -/
  ids : ℕ → IDSource
  /-- The readings of the clock when they are handled. -/
  clock : ℕ → Time

/-- The groups that the parser of the round returns before its first error. -/
def Round.groups (r : Round) : List Tx := (r.output.map parsed).getD []

/-- The calls of `Build` that the round leads to. -/
def Round.calls (r : Round) : List Call :=
  r.groups.zipIdx.map fun e => ⟨⟨e.1, r.ids e.2⟩, r.clock e.2⟩

/-- The variable of the loop, the linker and the counters of the process, and the spans handed to
the batcher so far. The groups are numbered; the numbers label the linker's batches. -/
structure State where
  backoff : Time
  linker : Linker.State Entry
  handled : ℕ
  varnishlogRestarts : ℕ
  groupsUnsampled : ℕ
  groupsUnusable : ℕ
  enqueued : List Span

/-- The process before its first round. -/
def start (cfg : Config) (backoff : Time) : State where
  backoff := backoff
  linker := new cfg
  handled := 0
  varnishlogRestarts := 0
  groupsUnsampled := 0
  groupsUnusable := 0
  enqueued := []

/-- The limit that the waiting time doubles up to: 30 seconds. -/
def maxBackoff : Time := 30 * 10 ^ 9

section Run

variable (epoch : Text → Option Time)

/-- The closure of `main.go` for one group. -/
def handle (s : State) (c : Call) : State :=
  let (built, outcome, linker) := s.linker.build epoch (c, s.handled) c
  { s with
    linker := linker
    handled := s.handled + 1
    groupsUnsampled := if outcome = .unsampled then s.groupsUnsampled + 1 else s.groupsUnsampled
    groupsUnusable := if outcome = .unusable then s.groupsUnusable + 1 else s.groupsUnusable
    enqueued := s.enqueued ++ spansOf built }

/-- One round: the time that is waited after it, and the state at the next one. A group sets the
waiting time back before it is handled. -/
def round (backoff : Time) (s : State) (r : Round) : Time × State :=
  let s := { s with varnishlogRestarts := s.varnishlogRestarts + 1 }
  let s := r.calls.foldl (fun s c => handle epoch { s with backoff := backoff } c) s
  (s.backoff,
    { s with backoff := if s.backoff * 2 > maxBackoff then maxBackoff else s.backoff * 2 })

/-- The rounds until the context is cancelled. -/
def run (cfg : Config) (backoff : Time) (rounds : List Round) : List (Round × Time) × State :=
  Transducer.run (round epoch backoff) (start cfg backoff) rounds

/-- What `main` does after the loop: the groups that are still parked are flushed. -/
def exit (cfg : Config) (backoff : Time) (rounds : List Round) : State :=
  let s := (run epoch cfg backoff rounds).2
  let (built, linker) := s.linker.flush
  { s with linker := linker, enqueued := s.enqueued ++ spansOf built }

end Run

/-! ## One linker for all rounds -/

section Fed

variable (epoch : Text → Option Time)

/-- Why the group of a call has no spans, if it has none. -/
def outcome (c : Call) : Outcome := (buildWithOutcome epoch c.group.tx c.group.ids).2

/-- `Build` passes the outcome on. -/
lemma build_outcome {γ : Type} (l : Linker.State γ) (g : γ) (c : Call) :
    (l.build epoch g c).2.1 = outcome epoch c := by
  unfold State.build outcome
  rcases buildWithOutcome epoch c.group.tx c.group.ids with ⟨_ | ⟨top, below⟩, o⟩ <;> rfl

/-- The linker's run with one call more. -/
lemma runNew_concat (cfg : Config) (calls : List Call) (c : Call) :
    runNew epoch cfg (calls ++ [c]) =
      ((runNew epoch cfg calls).1 ++
        [((c, calls.length), (step epoch (runNew epoch cfg calls).2 (c, calls.length)).1)],
        (step epoch (runNew epoch cfg calls).2 (c, calls.length)).2) := by
  have hidx : (calls ++ [c]).zipIdx = calls.zipIdx ++ [(c, calls.length)] := by
    simp [List.zipIdx_append]
  rw [runNew, hidx, Transducer.run_append]
  rfl

/-- The process has handled the calls: its linker is where consecutive calls of `Build` lead, and
what they returned is enqueued. -/
structure Fed (cfg : Config) (calls : List Call) (s : State) : Prop where
  linker : s.linker = (runNew epoch cfg calls).2
  handled : s.handled = calls.length
  enqueued : s.enqueued = spansOf ((runNew epoch cfg calls).1.flatMap Prod.snd)
  groupsUnsampled : s.groupsUnsampled = calls.countP fun c => outcome epoch c = .unsampled
  groupsUnusable : s.groupsUnusable = calls.countP fun c => outcome epoch c = .unusable

variable {epoch} {cfg : Config} {calls : List Call} {s : State}

/-- Neither the waiting time nor the number of rounds matters to the linker. -/
lemma Fed.congr (h : Fed epoch cfg calls s) (backoff : Time) (restarts : ℕ) :
    Fed epoch cfg calls { s with backoff := backoff, varnishlogRestarts := restarts } :=
  ⟨h.linker, h.handled, h.enqueued, h.groupsUnsampled, h.groupsUnusable⟩

/-- A group that is handled was handed to the linker. -/
lemma Fed.handle (h : Fed epoch cfg calls s) (c : Call) :
    Fed epoch cfg (calls ++ [c]) (handle epoch s c) := by
  have hrun := runNew_concat epoch cfg calls c
  have hcount (o : Outcome) : (calls ++ [c]).countP (fun c => outcome epoch c = o) =
      if outcome epoch c = o then calls.countP (fun c => outcome epoch c = o) + 1
      else calls.countP fun c => outcome epoch c = o := by
    rw [List.countP_append, List.countP_singleton]
    split_ifs <;> simp_all
  refine ⟨?_, ?_, ?_, ?_, ?_⟩
  · show (s.linker.build epoch (c, s.handled) c).2.2 = _
    rw [hrun, h.linker, h.handled]
    rfl
  · show s.handled + 1 = _
    rw [h.handled, List.length_append, List.length_singleton]
  · show s.enqueued ++ spansOf (s.linker.build epoch (c, s.handled) c).1 = _
    rw [hrun, h.enqueued, h.linker, h.handled, List.flatMap_append, List.flatMap_singleton]
    exact List.flatMap_append.symm
  · show (if (s.linker.build epoch (c, s.handled) c).2.1 = .unsampled then s.groupsUnsampled + 1
      else s.groupsUnsampled) = _
    rw [hcount, build_outcome, h.groupsUnsampled]
  · show (if (s.linker.build epoch (c, s.handled) c).2.1 = .unusable then s.groupsUnusable + 1
      else s.groupsUnusable) = _
    rw [hcount, build_outcome, h.groupsUnusable]

/-- So were all groups of a subprocess. -/
lemma Fed.foldl (h : Fed epoch cfg calls s) (backoff : Time) (more : List Call) :
    Fed epoch cfg (calls ++ more)
      (more.foldl (fun s c => Supervisor.handle epoch { s with backoff := backoff } c) s) := by
  induction more generalizing calls s with
  | nil => rwa [List.append_nil]
  | cons c more ih =>
    rw [List.append_cons, List.foldl_cons]
    exact ih ((h.congr backoff s.varnishlogRestarts).handle c)

/-- A round feeds the linker the groups of its own subprocess. -/
lemma Fed.round (h : Fed epoch cfg calls s) (backoff : Time) (r : Round) :
    Fed epoch cfg (calls ++ r.calls) (round epoch backoff s r).2 :=
  ((h.congr s.backoff (s.varnishlogRestarts + 1)).foldl backoff r.calls).congr _ _

variable (epoch cfg)

/-- **The linker gets the groups of all rounds**, in their order. -/
lemma fed_run (backoff : Time) (rounds : List Round) :
    Fed epoch cfg (rounds.flatMap Round.calls) (run epoch cfg backoff rounds).2 := by
  have hrun : Fed epoch cfg ((run epoch cfg backoff rounds).1.flatMap fun e => e.1.calls)
      (run epoch cfg backoff rounds).2 := by
    refine Transducer.run_induction (round epoch backoff)
      (P := fun history s => Fed epoch cfg (history.flatMap fun e => e.1.calls) s) ?_
      fun history s r _ ih => ?_
    · exact ⟨rfl, rfl, rfl, rfl, rfl⟩
    · rw [List.flatMap_append, List.flatMap_singleton]
      exact ih.round backoff r
  have hcalls : (run epoch cfg backoff rounds).1.flatMap (fun e => e.1.calls) =
      rounds.flatMap Round.calls := by
    conv_rhs => rw [← Transducer.map_fst_run (round epoch backoff) (start cfg backoff) rounds]
    exact (List.flatMap_map _ _ _).symm
  rw [← hcalls]
  exact hrun

/-- Every round is counted. -/
lemma varnishlogRestarts_run (backoff : Time) (rounds : List Round) :
    (run epoch cfg backoff rounds).2.varnishlogRestarts = rounds.length := by
  have hhandle (calls : List Call) (s : State) :
      (calls.foldl (fun s c => handle epoch { s with backoff := backoff } c)
        s).varnishlogRestarts = s.varnishlogRestarts := by
    induction calls generalizing s with
    | nil => rfl
    | cons c calls ih => exact ih _
  have hrun : (run epoch cfg backoff rounds).2.varnishlogRestarts =
      (run epoch cfg backoff rounds).1.length := by
    refine Transducer.run_induction (round epoch backoff)
      (P := fun history s => s.varnishlogRestarts = history.length) rfl fun history s r _ ih => ?_
    rw [List.length_append, List.length_singleton, ← ih]
    exact hhandle r.calls _
  rw [hrun, run, ← List.length_map Prod.fst, Transducer.map_fst_run]

/-- **All subprocesses share one linker.** What reaches the batcher is what a linker releases for
the groups of all rounds, one after the other, its final `Flush` included. -/
theorem enqueued_exit (backoff : Time) (rounds : List Round) :
    (exit epoch cfg backoff rounds).enqueued =
      spansOf (released epoch cfg (rounds.flatMap Round.calls)) := by
  have h := fed_run epoch cfg backoff rounds
  show (run epoch cfg backoff rounds).2.enqueued ++
    spansOf (run epoch cfg backoff rounds).2.linker.flush.1 = _
  rw [h.enqueued, h.linker, released]
  exact List.flatMap_append.symm

end Fed

/-! ## From the log to the exporter -/

section Accounts

/-- The spans of the batches that the exporter took, or of those that it refused. -/
def sent {S : Type} (ok : Bool) (history : List (Batcher.Event S × Batcher.Output S)) : List S :=
  history.flatMap fun ev => match ev.2 with
    | .exported batch ok' => if ok' = ok then batch else []
    | _ => []

variable {S : Type}

/-- Every batch is taken or refused. -/
lemma batches_perm_sent (history : List (Batcher.Event S × Batcher.Output S)) :
    List.Perm (Batcher.batches history).flatten (sent true history ++ sent false history) := by
  have hevent : ∀ ev ∈ history, ev.2.batches.flatten =
      (match ev.2 with | .exported batch ok => if ok = true then batch else [] | _ => []) ++
        (match ev.2 with | .exported batch ok => if ok = false then batch else [] | _ => []) := by
    rintro ⟨e, o⟩ -
    cases o with
    | exported batch ok => cases ok <;> simp
    | _ => rfl
  have hflatten : (Batcher.batches history).flatten =
      history.flatMap fun ev => ev.2.batches.flatten := by
    simp only [Batcher.batches, List.flatten_eq_flatMap, List.flatMap_assoc]
  rw [hflatten, List.flatMap_congr hevent]
  exact (List.flatMap_append_perm _ _ _).symm

/-- The counter of the batcher has the spans of the batches that were taken. -/
lemma exportedTotal_run (queueLen : ℕ) (events : List (Batcher.Event S)) :
    (Batcher.run queueLen events).2.exportedTotal =
      (sent true (Batcher.run queueLen events).1).length := by
  refine Transducer.run_induction Batcher.step
    (P := fun history st => st.exportedTotal = (sent true history).length) rfl
    fun history st e _ ih => ?_
  have hstep : (Batcher.step st e).2.exportedTotal =
      st.exportedTotal + (sent true [(e, (Batcher.step st e).1)]).length := by
    cases e with
    | exportSpans ok =>
      simp only [Batcher.step, Batcher.State.exportSpans]
      split
      · cases ok <;> simp [sent]
      · rfl
    | enqueue x parked =>
      simp only [Batcher.step, Batcher.State.enqueue]
      split_ifs
      · rcases Batcher.take_cases st x with h | h <;> rw [h] <;> rfl
      · rfl
      · rfl
    | tick => rfl
    | cancel => rfl
    | receive =>
      show st.receive.exportedTotal = _
      rcases Batcher.receive_cases st with h | ⟨x, queue, -, -, h⟩
      · rw [h]
        rfl
      · rw [h]
        rcases Batcher.take_cases { st with queue := queue } x with h' | h' <;> rw [h'] <;> rfl
    | takeTick =>
      show st.takeTick.exportedTotal = _
      rcases Batcher.takeTick_cases st with h | ⟨-, h⟩ <;> rw [h] <;> rfl
    | takeDone =>
      show st.takeDone.exportedTotal = _
      rcases Batcher.takeDone_cases st with h | ⟨-, h⟩ <;> rw [h] <;> rfl
    | drain =>
      show st.drain.exportedTotal = _
      rcases Batcher.drain_cases st with h | ⟨-, ⟨x, queue, -, h⟩ | ⟨-, h⟩⟩ <;> rw [h] <;> rfl
  have hsent (more : List (Batcher.Event S × Batcher.Output S)) :
      sent true (history ++ more) = sent true history ++ sent true more := List.flatMap_append
  rw [hstep, ih, hsent, List.length_append]

variable (epoch : Text → Option Time)

/-- Up to the fields that the linker sets, the released spans are those of the groups. -/
lemma core_released_perm (cfg : Config) (calls : List Call) :
    List.Perm ((spansOf (released epoch cfg calls)).map core)
      (calls.flatMap fun c => (builtSpans epoch c).map core) := by
  have hperm := (released_perm epoch cfg calls).flatMap_right Prod.snd
  rw [List.flatMap_map, List.flatMap_map] at hperm
  have hreleased : (spansOf (released epoch cfg calls)).map core =
      (released epoch cfg calls).flatMap fun b => b.set.core := List.map_flatMap
  -- a group without spans adds nothing
  have hbuilding (entries : List Entry) :
      ((entries.filter fun e => builtSpans epoch e.1 ≠ []).flatMap
        fun e => (builtSpans epoch e.1).map core) =
        entries.flatMap fun e => (builtSpans epoch e.1).map core := by
    induction entries with
    | nil => rfl
    | cons e entries ih =>
      by_cases he : builtSpans epoch e.1 = []
      · rw [List.filter_cons_of_neg (by simpa using he), ih, List.flatMap_cons, he]
        rfl
      · rw [List.filter_cons_of_pos (by simpa using he), List.flatMap_cons, ih, List.flatMap_cons]
  have hcalls : calls.zipIdx.flatMap (fun e => (builtSpans epoch e.1).map core) =
      calls.flatMap fun c => (builtSpans epoch c).map core := by
    conv_rhs => rw [← List.zipIdx_map_fst 0 calls, List.flatMap_map]
  rw [hreleased, ← hcalls, ← hbuilding]
  exact hperm

/-- **Every span is accounted for, from the log to the exporter.** Take any subprocesses, whatever
they write and whether or not they start, any ids and readings of the clock, any linker and length
of the queue, and any interleaving with the ticks and the steps of the batcher. When the batcher
has returned, the spans built for the groups of all subprocesses are, each once and up to the
fields that the linker sets, the spans that the exporter took, those that it refused and those that
were dropped. The counters have the number of the first and of the last, of the rounds, and of the
groups of either outcome.

**Proof sketch.** The process keeps the linker of consecutive calls of `Build` (`fed_run`), so it
enqueues what that linker releases, its `Flush` included; these are the built spans
(`core_released_perm`). The batcher was cancelled after them and loses none. -/
theorem exit_accounts (cfg : Config) (backoff : Time) (rounds : List Round) (queueLen : ℕ)
    (events : List (Batcher.Event Span))
    (hmain : Batcher.Arranged (exit epoch cfg backoff rounds).enqueued events)
    (hreturned : (Batcher.run queueLen events).2.control = .returned) :
    List.Perm
      ((rounds.flatMap Round.calls).flatMap fun c => (builtSpans epoch c).map core)
      ((sent true (Batcher.run queueLen events).1 ++ sent false (Batcher.run queueLen events).1 ++
        Batcher.dropped (Batcher.run queueLen events).1).map core) ∧
    (Batcher.run queueLen events).2.exportedTotal =
      (sent true (Batcher.run queueLen events).1).length ∧
    (Batcher.run queueLen events).2.droppedTotal =
      (Batcher.dropped (Batcher.run queueLen events).1).length ∧
    (exit epoch cfg backoff rounds).varnishlogRestarts = rounds.length ∧
    (exit epoch cfg backoff rounds).groupsUnsampled =
      (rounds.flatMap Round.calls).countP (fun c => outcome epoch c = .unsampled) ∧
    (exit epoch cfg backoff rounds).groupsUnusable =
      (rounds.flatMap Round.calls).countP (fun c => outcome epoch c = .unusable) := by
  have hfed := fed_run epoch cfg backoff rounds
  have hkept : Batcher.Kept (Batcher.run queueLen events).1 (Batcher.run queueLen events).2 :=
    Batcher.kept_run hmain.cancelLast
  refine ⟨?_, exportedTotal_run queueLen events, hkept.droppedTotal, ?_, hfed.groupsUnsampled,
    hfed.groupsUnusable⟩
  · have henqueued := Batcher.enqueued_perm queueLen events
    rw [hmain.enqueued_eq, ← Batcher.flatten_batches_of_returned hmain.cancelLast hreturned,
      enqueued_exit] at henqueued
    have hsplit := henqueued.trans
      ((batches_perm_sent (Batcher.run queueLen events).1).append_right _)
    exact (core_released_perm epoch cfg _).symm.trans (hsplit.map core)
  · exact varnishlogRestarts_run epoch cfg backoff rounds

/-- A subprocess that does not start, and one that writes three requests and stops. -/
def secondStarts : List Round :=
  [⟨none, fun _ => ⟨0, fun _ => 0⟩, fun _ => 0⟩,
    ⟨some ("* << Request >> 2\n- Timestamp Start: 1 0\n- Timestamp Resp: 2 0\n" ++
        "* << Request >> 4\n- Timestamp Start: 2 0\n- Timestamp Resp: 3 0\n" ++
        "* << Request >> 6\n- Timestamp Start: 3 0\n- Timestamp Resp: 4 0\n" : String).toList,
      fun n => ⟨n + 1, fun _ => 7⟩, fun _ => 5⟩]

/-- A linker of small bounds. -/
def smallLinker : Config := ⟨16, 60, 4, 60, by decide⟩

/-- The exporter refuses the span of the first request. That of the second one waits in the queue,
so that there is no room for that of the third, and leaves in the last batch. -/
def secondStartsEvents : List (Batcher.Event Span) :=
  let spans := (exit wholeSeconds smallLinker 1 secondStarts).enqueued
  (spans.take 1).map (.enqueue · false) ++ [.receive, .tick, .takeTick, .exportSpans false] ++
    (spans.drop 1).map (.enqueue · false) ++
    [.cancel, .takeDone, .drain, .drain, .exportSpans true]

/-- Of the spans of three requests one is exported, one is refused and one is dropped. -/
theorem exit_accounts_secondStarts :
    ((secondStarts.flatMap Round.calls).flatMap (builtSpans wholeSeconds)).length = 3 ∧
      (Batcher.run 1 secondStartsEvents).2.exportedTotal = 1 ∧
      (sent false (Batcher.run 1 secondStartsEvents).1).length = 1 ∧
      (Batcher.run 1 secondStartsEvents).2.droppedTotal = 1 ∧
      (exit wholeSeconds smallLinker 1 secondStarts).varnishlogRestarts = 2 := by
  -- the texts are parsed once; what the batcher does is the same for any three spans
  obtain ⟨x, y, z, hspans⟩ : ∃ x y z,
      (exit wholeSeconds smallLinker 1 secondStarts).enqueued = [x, y, z] :=
    List.length_eq_three.1 (by decide +kernel)
  have hevents : secondStartsEvents =
      [.enqueue x false, .receive, .tick, .takeTick, .exportSpans false, .enqueue y false,
        .enqueue z false, .cancel, .takeDone, .drain, .drain, .exportSpans true] := by
    rw [secondStartsEvents, hspans]
    rfl
  obtain ⟨hperm, hexported, hdropped, hrestarts, -⟩ :=
    exit_accounts wholeSeconds smallLinker 1 secondStarts 1 secondStartsEvents
      (by rw [Batcher.Arranged, hevents, hspans]; rfl) (by rw [hevents]; rfl)
  have htaken : (sent true (Batcher.run 1 secondStartsEvents).1).length = 1 := by
    rw [hevents]
    rfl
  have hrefused : (sent false (Batcher.run 1 secondStartsEvents).1).length = 1 := by
    rw [hevents]
    rfl
  have hlost : (Batcher.dropped (Batcher.run 1 secondStartsEvents).1).length = 1 := by
    rw [hevents]
    rfl
  refine ⟨?_, hexported.trans htaken, hrefused, hdropped.trans hlost, hrestarts⟩
  have hlength := hperm.length_eq
  rw [List.length_map, List.length_append, List.length_append, htaken, hrefused, hlost,
    ← List.map_flatMap, List.length_map] at hlength
  exact hlength

end Accounts

/-! ## Waiting -/

section Waiting

variable (epoch : Text → Option Time)

/-- The subprocess of the round did not lead to a group. -/
def Round.fruitless (r : Round) : Bool := r.groups.isEmpty

/-- A round without groups is fruitless. -/
lemma Round.calls_eq_nil_iff (r : Round) : r.calls = [] ↔ r.fruitless = true := by
  simp [Round.calls, Round.fruitless]

/-- The waiting time after a round is the first one if it brought a group, and else what the
round found. -/
lemma round_wait (backoff : Time) (s : State) (r : Round) :
    (round epoch backoff s r).1 = if r.fruitless then s.backoff else backoff := by
  have hhandle (calls : List Call) (s : State) (hne : calls ≠ []) :
      (calls.foldl (fun s c => handle epoch { s with backoff := backoff } c) s).backoff =
        backoff := by
    induction calls generalizing s with
    | nil => exact absurd rfl hne
    | cons c calls ih =>
      rw [List.foldl_cons]
      cases calls with
      | nil => rfl
      | cons c' calls => exact ih _ (List.cons_ne_nil _ _)
  split_ifs with h
  · rw [round, r.calls_eq_nil_iff.2 h]
    rfl
  · exact hhandle _ _ fun hnil => h (r.calls_eq_nil_iff.1 hnil)

/-- The rounds at the end that did not lead to a group. -/
def fruitlessTail (rounds : List Round) : ℕ := (rounds.reverse.takeWhile Round.fruitless).length

/-- One round more adds to the fruitless ones, or ends them. -/
lemma fruitlessTail_concat (rounds : List Round) (r : Round) :
    fruitlessTail (rounds ++ [r]) = if r.fruitless then fruitlessTail rounds + 1 else 0 := by
  rw [fruitlessTail, List.reverse_append, List.reverse_singleton, List.singleton_append,
    List.takeWhile_cons]
  split_ifs <;> rfl

/-- There are no more fruitless rounds than rounds. -/
lemma fruitlessTail_le (rounds : List Round) : fruitlessTail rounds ≤ rounds.length := by
  rw [← List.length_reverse]
  exact (List.takeWhile_sublist _).length_le

/-- The waiting time after a number of doublings. The first one is not limited. -/
def waitAfter (backoff : Time) : ℕ → Time
  | 0 => backoff
  | n + 1 => min maxBackoff (backoff * 2 ^ (n + 1))

/-- Doubling under a limit. -/
lemma min_double {m : ℤ} (hm : 0 < m) (x : ℤ) : min m (min m x * 2) = min m (x * 2) := by
  omega

/-- The limit of the backoff is a minimum. -/
lemma limit_eq (m x : ℤ) : (if x > m then m else x) = min m x := by
  split_ifs <;> omega

/-- The wait is doubled and limited. -/
lemma waitAfter_succ (backoff : Time) (n : ℕ) :
    waitAfter backoff (n + 1) =
      if waitAfter backoff n * 2 > maxBackoff then maxBackoff else waitAfter backoff n * 2 := by
  rw [limit_eq]
  cases n with
  | zero => simp [waitAfter]
  | succ n =>
    rw [waitAfter, waitAfter, min_double (by decide), mul_assoc, ← pow_succ]

/-- **The waiting time.** After any rounds the loop waits the first time, doubled once for each
round since the last one that brought a group, or since the second one if none did, and limited to
30 seconds when it was doubled.

**Proof sketch.** By induction on the rounds before: the next round finds the doubled time
(`round_wait`), and `waitAfter` doubles and limits in the same way. -/
theorem wait_eq (cfg : Config) (backoff : Time) (before : List Round) (r : Round) :
    (round epoch backoff (run epoch cfg backoff before).2 r).1 =
      waitAfter backoff (min (fruitlessTail (before ++ [r])) before.length) := by
  induction before using List.reverseRecOn generalizing r with
  | nil =>
    rw [round_wait, List.length_nil, Nat.min_zero]
    split_ifs <;> rfl
  | append_singleton before r' ih =>
    have hfound : (run epoch cfg backoff (before ++ [r'])).2.backoff =
        waitAfter backoff (min (fruitlessTail (before ++ [r'])) before.length + 1) := by
      rw [waitAfter_succ, ← ih r', run, Transducer.run_append]
      rfl
    have hle := fruitlessTail_le before
    rw [round_wait, fruitlessTail_concat _ r, hfound, fruitlessTail_concat, List.length_append,
      List.length_singleton]
    split_ifs
    · congr 1
      omega
    · congr 1
    · rfl

end Waiting

end CloudVinyl.Supervisor
