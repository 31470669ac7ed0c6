import CloudVinyl.Lib.Transducer
import CloudVinyl.Tracer.Spans
import CloudVinyl.Tracer.VxidCache

set_option relaxedAutoImplicit false
set_option autoImplicit false

/-!
# The linker

`Linker` of `internal/tracer/spans/linker.go` correlates transaction groups: it links a cache
hit to the fetch that brought the object in, and it stitches a restarted request under its
original. A hit whose fetch is not known yet is withheld in a bounded parking lot.

A built group is never empty, so it is a `Linker.SpanSet`: its top request span and the spans
below it. `Build` of the source returns a flat list of spans that can come from several
groups. Here the list is cut into batches, one for each group, and each batch carries the
label its group was handed in with. Labels are bookkeeping only: relabelling commutes with
every operation (`Linker.State.build_relabel`), and the source's list is `Linker.spansOf` of the
batches. The callbacks `OnCacheMiss` and `OnHitParked` are counted.

## Main definitions

* `Linker.Config`, `Linker.ParkedSet`, `Linker.State` — the linker's parameters and its state.
* `Linker.State.build`, `Linker.State.flush` — the two methods.
* `Linker.runNew`, `Linker.released` — consecutive `Build` calls on a new linker, each group
  labelled by its call and the position of that call, and all that they and a `Flush` release.
-/

namespace CloudVinyl.Linker

open Vsl Spans

/-! ## State -/

/-- The linker's parameters. The parking lot has room for at least one group: at `maxParked = 0`
the source would evict from an empty lot. -/
structure Config where
  capacity : ℤ
  ttl : ℤ
  maxParked : ℕ
  ageLimit : ℤ
  one_le_maxParked : 1 ≤ maxParked

/-- What the linker remembers about a fetch span. -/
structure FetchInfo where
  traceID : TraceID
  spanID : SpanID
  endTime : Time
  deriving DecidableEq

/-- What the linker remembers about a request span that restarted. -/
structure RestartInfo where
  traceID : TraceID
  spanID : SpanID
  deriving DecidableEq

/-- The spans built for one group: the top request span and those below it. -/
@[ext]
structure SpanSet where
  top : Span
  below : List Span
  deriving DecidableEq

/-- The spans of a set in the order they were built. -/
def SpanSet.spans (s : SpanSet) : List Span := s.top :: s.below

/-- Change the top span. -/
def SpanSet.modifyTop (f : Span → Span) (s : SpanSet) : SpanSet := { s with top := f s.top }

/-- A group withheld until the fetch `vxid` becomes known. -/
structure ParkedSet (γ : Type) where
  label : γ
  vxid : ℕ
  set : SpanSet
  arrivedAt : Time

/-- The spans released for one group. -/
structure Batch (γ : Type) where
  label : γ
  set : SpanSet

/-- The spans of a list of batches, one after the other: what the source returns. -/
def spansOf {γ : Type} (bs : List (Batch γ)) : List Span := bs.flatMap fun b => b.set.spans

/-- The linker's state, with the numbers of calls of its two callbacks. -/
structure State (γ : Type) where
  cfg : Config
  fetches : VxidCache FetchInfo
  restarts : VxidCache RestartInfo
  parked : List (ParkedSet γ)
  misses : ℕ
  hitsParked : ℕ

/-- A transaction group with the ids drawn while its spans are built. -/
structure Group where
  tx : Tx
  ids : IDSource

/-- One `Build` call: the group handed in and the reading of the clock. -/
structure Call where
  group : Group
  now : Time

section Ops

variable {γ : Type}

/-- The state of a new linker. -/
def new (cfg : Config) : State γ :=
  { cfg := cfg
    fetches := .new cfg.capacity cfg.ttl
    restarts := .new cfg.capacity cfg.ttl
    parked := []
    misses := 0
    hitsParked := 0 }

/-! ## Marks -/

/-- The link from a hit to the fetch that brought its object in. -/
def originLink (fetch : FetchInfo) : Link :=
  ⟨fetch.traceID, fetch.spanID, [⟨.link, .string "origin-fetch"⟩]⟩

/-- Attach a link to `fetch`, and the coalesced flag if the request began before the fetch
ended. -/
def linkHit (fetch : FetchInfo) (req : Span) : Span :=
  { req with
    links := req.links ++ [originLink fetch]
    attrs :=
      if req.startTime < fetch.endTime then req.attrs ++ [⟨.coalesced, .bool true⟩]
      else req.attrs }

/-- Flag the request as an unresolved hit. -/
def degrade (req : Span) : Span :=
  { req with attrs := req.attrs ++ [⟨.coalescedUnlinked, .bool true⟩] }

/-- Parent a restarted group under its original and move it into the original's trace. -/
def reparentRestart (orig : RestartInfo) (s : SpanSet) : SpanSet :=
  { top := { s.top with
      parentID := orig.spanID
      traceID := orig.traceID
      attrs := s.top.attrs ++ [⟨.restartContinuation, .bool true⟩] }
    below := s.below.map fun sp =>
      if sp.traceID = s.top.traceID then { sp with traceID := orig.traceID } else sp }

/-! ## Records of a group -/

/-- Whether the group's `Begin` record marks it as the continuation of a restarted request. -/
def isRestartContinuation (tx : Tx) : Bool :=
  tx.type = txTypeRequest &&
    match (tx.first "Begin").map Text.fields with
    | some (_ :: _ :: f2 :: _) => f2 = restartReason
    | _ => false

/-- The transaction number named by the group's first `Hit` record. -/
def hitVxid (tx : Tx) : Option ℕ :=
  match (tx.first "Hit").map Text.fields with
  | some (f0 :: _) => Text.parseUint f0
  | _ => none

/-! ## Operations -/

/-- Count a correlation that could not be resolved. -/
def State.miss (l : State γ) : State γ := { l with misses := l.misses + 1 }

/-- A parked group released without a link. -/
def degradeRelease (p : ParkedSet γ) : Batch γ := ⟨p.label, p.set.modifyTop degrade⟩

/-- Whether a parked group has waited longer than the age limit. -/
def State.aged (l : State γ) (now : Time) (p : ParkedSet γ) : Bool :=
  now - p.arrivedAt > l.cfg.ageLimit

/-- Release, degraded, every parked group that has waited longer than the age limit. -/
def State.releaseAgedParked (l : State γ) (now : Time) : List (Batch γ) × State γ :=
  let out := l.parked.filter (l.aged now)
  (out.map degradeRelease,
    { l with
      parked := l.parked.filter fun p => !l.aged now p
      misses := l.misses + out.length })

/-- What the linker remembers about a span. -/
def fetchInfo (sp : Span) : FetchInfo := ⟨sp.traceID, sp.spanID, sp.endTime⟩

/-- Record every fetch span of a list under its transaction number. -/
def setFetches (c : VxidCache FetchInfo) (built : List Span) (now : Time) : VxidCache FetchInfo :=
  built.foldl (fun c sp => if sp.name = .fetch then c.set sp.vxid (fetchInfo sp) now else c) c

/-- Record every fetch span just built. -/
def State.recordFetches (l : State γ) (built : List Span) (now : Time) : State γ :=
  { l with fetches := setFetches l.fetches built now }

/-- Remember the top span under every transaction number the group restarted as. -/
def State.recordRestartLinks (l : State γ) (tx : Tx) (top : Span) (now : Time) : State γ :=
  { l with
    restarts := tx.records.foldl (fun c r =>
      match (restartLink r).bind Text.parseUint with
      | some vxid => c.set vxid ⟨top.traceID, top.spanID⟩ now
      | none => c) l.restarts }

/-- A parked group released with a link, if its fetch is known by now. -/
def State.resolve (l : State γ) (now : Time) (p : ParkedSet γ) : Option (Batch γ) :=
  (l.fetches.get p.vxid now).map fun fetch => ⟨p.label, p.set.modifyTop (linkHit fetch)⟩

/-- Release, linked, every parked group whose fetch is known by now. -/
def State.resolveParked (l : State γ) (now : Time) : List (Batch γ) × State γ :=
  (l.parked.filterMap (l.resolve now),
    { l with parked := l.parked.filter fun p => (l.resolve now p).isNone })

/-- Withhold a group. A full parking lot first releases its oldest group, degraded. -/
def State.park (l : State γ) (g : γ) (vxid : ℕ) (s : SpanSet) (now : Time) :
    List (Batch γ) × State γ :=
  let new : ParkedSet γ := ⟨g, vxid, s, now⟩
  match l.parked with
  | oldest :: rest =>
    if l.cfg.maxParked ≤ l.parked.length then
      ([degradeRelease oldest],
        { l with parked := rest ++ [new], misses := l.misses + 1, hitsParked := l.hitsParked + 1 })
    else ([], { l with parked := l.parked ++ [new], hitsParked := l.hitsParked + 1 })
  | [] => ([], { l with parked := [new], hitsParked := l.hitsParked + 1 })

section Build

variable (epoch : Text → Option Time)

/-- Resolve the group's own `Hit` record: the batches released to make room, the group itself
unless it was parked, and the state. -/
def State.resolveHit (l : State γ) (g : γ) (tx : Tx) (s : SpanSet) (now : Time) :
    List (Batch γ) × Option SpanSet × State γ :=
  match hitVxid tx with
  | none => ([], some s, l)
  | some vxid =>
    match l.fetches.get vxid now with
    | some fetch => ([], some (s.modifyTop (linkHit fetch)), l)
    | none =>
      if (tx.timestamp epoch "Waitinglist").isNone then
        ([], some (s.modifyTop degrade), l.miss)
      else
        let (overflow, l) := l.park g vxid s now
        (overflow, none, l)

/-- Stitch a restart continuation under its original, or count the miss. -/
def State.stitch (l : State γ) (tx : Tx) (s : SpanSet) (now : Time) : SpanSet × State γ :=
  if isRestartContinuation tx then
    match l.restarts.get tx.vxid now with
    | some orig => (reparentRestart orig s, l)
    | none => (s, l.miss)
  else (s, l)

/-- Record what later groups may refer to: the group's fetches and its restarts. -/
def State.record (l : State γ) (tx : Tx) (s : SpanSet) (now : Time) : State γ :=
  (l.recordFetches s.spans now).recordRestartLinks tx s.top now

/-- The part of `Build` that follows the building of a nonempty group. -/
def State.correlate (l : State γ) (g : γ) (tx : Tx) (s : SpanSet) (now : Time) :
    List (Batch γ) × State γ :=
  let (s, l) := l.stitch tx s now
  let l := l.record tx s now
  let (resolved, l) := l.resolveParked now
  let (overflow, own, l) := l.resolveHit epoch g tx s now
  (resolved ++ overflow ++ (own.map (Batch.mk g)).toList, l)

/-- `Build`: age out parked groups, build the group's spans, correlate them, and return every
batch that is released. -/
def State.build (l : State γ) (g : γ) (c : Call) : List (Batch γ) × Outcome × State γ :=
  let (aged, l) := l.releaseAgedParked c.now
  match buildWithOutcome epoch c.group.tx c.group.ids with
  | ([], outcome) =>
    let lost := outcome = .spans ∧ isRestartContinuation c.group.tx ∧
      (l.restarts.get c.group.tx.vxid c.now).isNone
    (aged, outcome, if lost then l.miss else l)
  | (top :: below, outcome) =>
    let (out, l) := l.correlate epoch g c.group.tx ⟨top, below⟩ c.now
    (aged ++ out, outcome, l)

end Build

/-- `Flush`: release every parked group, degraded. -/
def State.flush (l : State γ) : List (Batch γ) × State γ :=
  (l.parked.map degradeRelease, { l with parked := [], misses := l.misses + l.parked.length })

end Ops

/-! ## Runs -/

section Run

variable (epoch : Text → Option Time)

/-- The spans built for the group of a call. -/
def builtSpans (c : Call) : List Span := (buildWithOutcome epoch c.group.tx c.group.ids).1

/-- The same as a set with a top span, if there are any. -/
def builtSet (c : Call) : Option SpanSet :=
  match builtSpans epoch c with
  | [] => none
  | top :: below => some ⟨top, below⟩

/-- There is no set without spans. -/
lemma builtSet_eq_none {c : Call} : builtSet epoch c = none ↔ builtSpans epoch c = [] := by
  unfold builtSet
  split <;> simp_all

/-- The set holds the spans that were built. -/
lemma builtSet_eq_some {c : Call} {s : SpanSet} :
    builtSet epoch c = some s ↔ builtSpans epoch c = s.spans := by
  unfold builtSet
  split
  · simp_all [SpanSet.spans]
  · rename_i top below h
    rw [h, Option.some.injEq, SpanSet.spans, List.cons.injEq]
    exact ⟨by rintro rfl; exact ⟨rfl, rfl⟩, fun ⟨ht, hb⟩ => by subst ht hb; rfl⟩

/-- A `Build` call with its position in the run: the label of the group it hands in. -/
abbrev Entry := Call × ℕ

/-- One `Build` call of a run. -/
def step (l : State Entry) (e : Entry) : List (Batch Entry) × State Entry :=
  ((l.build epoch e e.1).1, (l.build epoch e e.1).2.2)

/-- Consecutive `Build` calls on a new linker: each call with what it returned, and the final
state. -/
def runNew (cfg : Config) (calls : List Call) :
    List (Entry × List (Batch Entry)) × State Entry :=
  Transducer.run (step epoch) (new cfg) calls.zipIdx

/-- Everything a run of a new linker releases: what its `Build` calls return, then what the
final `Flush` returns. -/
def released (cfg : Config) (calls : List Call) : List (Batch Entry) :=
  (runNew epoch cfg calls).1.flatMap Prod.snd ++ (runNew epoch cfg calls).2.flush.1

end Run

/-! ## Labels are bookkeeping -/

section Relabel

variable {γ δ : Type} (f : γ → δ)

/-- Change the label of a parked group. -/
def ParkedSet.relabel (p : ParkedSet γ) : ParkedSet δ := ⟨f p.label, p.vxid, p.set, p.arrivedAt⟩

/-- Change the label of a batch. -/
def Batch.relabel (b : Batch γ) : Batch δ := ⟨f b.label, b.set⟩

/-- Change the labels of the parked groups. -/
def State.relabel (l : State γ) : State δ :=
  ⟨l.cfg, l.fetches, l.restarts, l.parked.map (ParkedSet.relabel f), l.misses, l.hitsParked⟩

/-- Labels do not show in the spans that are returned. -/
lemma spansOf_relabel (bs : List (Batch γ)) : spansOf (bs.map (Batch.relabel f)) = spansOf bs := by
  simp [spansOf, List.flatMap_map, Batch.relabel]

/-- Labels do not matter for the release of aged groups. -/
lemma releaseAgedParked_relabel (l : State γ) (now : Time) :
    (l.relabel f).releaseAgedParked now =
      ((l.releaseAgedParked now).1.map (Batch.relabel f),
        (l.releaseAgedParked now).2.relabel f) := by
  have haged : ((l.relabel f).aged now) ∘ ParkedSet.relabel f = l.aged now := rfl
  have hkept : (fun p => !(l.relabel f).aged now p) ∘ ParkedSet.relabel f =
      fun p => !l.aged now p := rfl
  simp only [State.releaseAgedParked, State.relabel, List.filter_map] at haged hkept ⊢
  rw [haged, hkept]
  simp [degradeRelease, Batch.relabel, ParkedSet.relabel, Function.comp_def]

/-- Labels do not matter for stitching. -/
lemma stitch_relabel (l : State γ) (tx : Tx) (s : SpanSet) (now : Time) :
    (l.relabel f).stitch tx s now = ((l.stitch tx s now).1, (l.stitch tx s now).2.relabel f) := by
  unfold State.stitch State.relabel
  split_ifs
  · dsimp only
    split <;> rfl
  · rfl

/-- Labels do not matter for resolving the parked groups. -/
lemma resolveParked_relabel (l : State γ) (now : Time) :
    (l.relabel f).resolveParked now =
      ((l.resolveParked now).1.map (Batch.relabel f), (l.resolveParked now).2.relabel f) := by
  have hresolve : ∀ p, (l.relabel f).resolve now (p.relabel f) =
      (l.resolve now p).map (Batch.relabel f) := by
    intro p
    simp [State.resolve, State.relabel, ParkedSet.relabel, Batch.relabel, Function.comp_def]
  have hnone : (fun p => ((l.relabel f).resolve now p).isNone) ∘ ParkedSet.relabel f =
      fun p => (l.resolve now p).isNone := by
    funext p
    simp [hresolve]
  have hsome : (l.relabel f).resolve now ∘ ParkedSet.relabel f =
      fun p => (l.resolve now p).map (Batch.relabel f) := funext hresolve
  simp only [State.resolveParked]
  rw [State.relabel, List.filterMap_map, List.filter_map, List.map_filterMap]
  simp only [State.relabel] at hnone hsome
  rw [hsome, hnone]
  rfl

/-- Labels do not matter for parking. -/
lemma park_relabel (l : State γ) (g : γ) (vxid : ℕ) (s : SpanSet) (now : Time) :
    (l.relabel f).park (f g) vxid s now =
      ((l.park g vxid s now).1.map (Batch.relabel f), (l.park g vxid s now).2.relabel f) := by
  cases hp : l.parked with
  | nil => simp [State.park, State.relabel, hp, ParkedSet.relabel]
  | cons oldest rest =>
    simp only [State.park, State.relabel, hp, List.map_cons, List.length_cons, List.length_map]
    split_ifs <;> simp [degradeRelease, Batch.relabel, ParkedSet.relabel]

variable (epoch : Text → Option Time)

/-- Labels do not matter for resolving a hit. -/
lemma resolveHit_relabel (l : State γ) (g : γ) (tx : Tx) (s : SpanSet) (now : Time) :
    (l.relabel f).resolveHit epoch (f g) tx s now =
      ((l.resolveHit epoch g tx s now).1.map (Batch.relabel f),
        (l.resolveHit epoch g tx s now).2.1,
        (l.resolveHit epoch g tx s now).2.2.relabel f) := by
  unfold State.resolveHit
  cases hitVxid tx with
  | none => rfl
  | some vxid =>
    have hf : (l.relabel f).fetches.get vxid now = l.fetches.get vxid now := rfl
    dsimp only
    rw [hf]
    cases l.fetches.get vxid now with
    | some fetch => rfl
    | none =>
      dsimp only
      split_ifs
      · rfl
      · rw [park_relabel]

/-- **Labels are bookkeeping.** Relabelling the parked groups and the group handed in relabels
what `Build` releases and withholds, and changes nothing else. -/
theorem State.build_relabel (l : State γ) (g : γ) (c : Call) :
    (l.relabel f).build epoch (f g) c =
      ((l.build epoch g c).1.map (Batch.relabel f), (l.build epoch g c).2.1,
        (l.build epoch g c).2.2.relabel f) := by
  unfold State.build
  rw [releaseAgedParked_relabel]
  rcases buildWithOutcome epoch c.group.tx c.group.ids with ⟨_ | ⟨top, below⟩, o⟩
  · dsimp only
    refine Prod.ext rfl (Prod.ext rfl ?_)
    have hr : ∀ l : State γ, (l.relabel f).restarts = l.restarts := fun _ => rfl
    simp only [hr]
    split_ifs <;> rfl
  · have hrecord : ∀ (l : State γ) tx s now,
        (l.relabel f).record tx s now = (l.record tx s now).relabel f := fun _ _ _ _ => rfl
    simp only [State.correlate, stitch_relabel, hrecord, resolveParked_relabel, resolveHit_relabel,
      List.map_append]
    refine Prod.ext ?_ rfl
    simp [Function.comp_def, Batch.relabel, Option.toList_map]

end Relabel

end CloudVinyl.Linker
