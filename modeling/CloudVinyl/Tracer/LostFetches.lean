import CloudVinyl.Tracer.SpanTree

set_option relaxedAutoImplicit false
set_option autoImplicit false

/-!
# Fetches without a span

Which backend requests get a span. The builder gives none to a group that lacks one of its
timestamps, and does not look at the groups below it either. A retry is logged below the attempt
that failed, and an attempt that never got a response has no `Beresp` record.

## Main definitions

* `Spans.Timed` — the group has the timestamps of its own span.
* `Spans.Fetched` — the backend requests that have got a response, reached through backend requests
  and ESI fragments only.
* `Spans.NothingLost` — each of these has its span, or the group is reported as unusable.

## Main results

* `Spans.mem_placeChild` — a span for every group below timed ones.
* `Spans.nothingLost_iff` — nothing is lost exactly when the groups above a fetch are timed.
-/

namespace CloudVinyl.Spans

open Vsl

variable (epoch : Text → Option Time)

/-! ## Fetches -/

/-- A backend request that was sent and got a response. -/
def TimedFetch (node : Tx) : Prop :=
  node.type = "BeReq" ∧ (node.timestamp epoch "Bereq").isSome ∧
    (node.timestamp epoch "BerespBody" <|> node.timestamp epoch "Beresp").isSome

/-- A fragment that was started and delivered. -/
def TimedFragment (node : Tx) : Prop :=
  IsFragment node ∧ (node.timestamp epoch "Start").isSome ∧ (respEnd epoch node).isSome

/-- A group with the timestamps of its own span. -/
def Timed (node : Tx) : Prop := TimedFetch epoch node ∨ TimedFragment epoch node

/-- A fetch at a path, all groups between the root and it backend requests or ESI fragments. -/
structure Fetched (tx : Tx) (p : Path) : Prop where
  below : p ≠ []
  fetch : ∃ node, tx.get? p = some node ∧ TimedFetch epoch node
  reached : ∀ q above, q <+: p → q ≠ [] → q ≠ p → tx.get? q = some above →
    above.type = "BeReq" ∨ IsFragment above

/-- Every fetch has its span, or the group is unusable. -/
def NothingLost (tx : Tx) (ids : IDSource) : Prop :=
  (∃ l : List Place, l.map (·.span) = (buildWithOutcome epoch tx ids).1 ∧ Mirrors epoch tx ids l ∧
    ∀ p, Fetched epoch tx p → ∃ e ∈ l, e.path = p ∧ e.span.name = .fetch) ∨
  (buildWithOutcome epoch tx ids).2 = .unusable

/-! ## Places above a place -/

section Above

variable {epoch} {tx : Tx} {ids : IDSource} {l : List Place}

/-- The places are closed under prefixes. -/
lemma Mirrors.above (h : Mirrors epoch tx ids l) (p : Path) :
    (∃ e ∈ l, e.path = p) → ∀ q, q <+: p → ∃ e ∈ l, e.path = q := by
  induction p using List.reverseRecOn with
  | nil =>
    intro hp q hq
    rwa [List.prefix_nil.1 hq]
  | append_singleton p i ih =>
    rintro ⟨e, he, hpath⟩ q hq
    rcases List.prefix_concat_iff.1 hq with rfl | hq
    · exact ⟨e, he, hpath⟩
    · have hne : e.path ≠ [] := by
        rw [hpath]
        exact List.append_ne_nil_of_right_ne_nil p (List.cons_ne_nil i [])
      obtain ⟨above, habove, hdrop, -⟩ := h.parent e he hne
      rw [hpath, List.dropLast_concat] at hdrop
      exact ih ⟨above, habove, hdrop⟩ q hq

/-- A place is a group of the tree. -/
lemma Mirrors.get? (h : Mirrors epoch tx ids l) {e : Place} (he : e ∈ l) :
    tx.get? e.path = some e.node :=
  (Tx.mem_preorder tx e.path e.node).1 (h.preorder.subset (List.mem_map_of_mem he))

/-- A group with a span has the timestamps of it. -/
lemma Mirrors.timed (h : Mirrors epoch tx ids l) {e : Place} (he : e ∈ l) (hne : e.path ≠ []) :
    Timed epoch e.node := by
  rcases h.kind e he hne with ⟨hfetch, hspan⟩ | ⟨hesi, hspan⟩
  · exact .inl ⟨hfetch, Option.isSome_of_eq_some hspan.times.1,
      Option.isSome_of_eq_some hspan.times.2⟩
  · exact .inr ⟨hesi, Option.isSome_of_eq_some hspan.times.1,
      Option.isSome_of_eq_some hspan.times.2⟩

end Above

/-! ## Places below timed groups -/

section Below

variable (parentID : SpanID) (traceID : TraceID) (ids : IDSource)

/-- A group with its timestamps gets its own span. -/
lemma ownSpan_of_timed {node : Tx} (h : Timed epoch node) (parentSpanID : SpanID)
    (retryDepth n : ℕ) :
    ∃ own, ownSpan epoch parentID traceID ids node parentSpanID retryDepth n = some own := by
  rcases h with ⟨hfetch, hstart, hstop⟩ | ⟨⟨hrequest, hesi⟩, hstart, hstop⟩
  · obtain ⟨fs, hfs⟩ := Option.isSome_iff_exists.1 hstart
    obtain ⟨fe, hfe⟩ := Option.isSome_iff_exists.1 hstop
    rw [ownSpan_fetch epoch parentID traceID ids node parentSpanID retryDepth n hfetch, fetchSpan,
      hfs, hfe]
    exact ⟨_, rfl⟩
  · obtain ⟨cs, hcs⟩ := Option.isSome_iff_exists.1 hstart
    obtain ⟨ce, hce⟩ := Option.isSome_iff_exists.1 hstop
    rw [ownSpan_request epoch parentID traceID ids node parentSpanID retryDepth n hrequest, esiSpan,
      if_pos hesi, hcs, hce]
    exact ⟨_, rfl⟩

/-- Its place comes first, and those of its children follow. -/
lemma placeChild_of_timed {tx : Tx} (h : Timed epoch tx) (parentSpanID : SpanID)
    (retryDepth n : ℕ) :
    ∃ sp m, (placeChild epoch parentID traceID ids tx parentSpanID retryDepth n).1 =
      ⟨[], tx, sp⟩ :: (placeChildren epoch parentID traceID ids 0 tx.children sp.spanID
        (depthBelow tx.type retryDepth) m).1 := by
  obtain ⟨own, hown⟩ := ownSpan_of_timed epoch parentID traceID ids h parentSpanID retryDepth n
  rcases placeChild_cases epoch parentID traceID ids tx parentSpanID retryDepth n with
    ⟨hnone, -⟩ | ⟨sp, m, -, hplace⟩
  · rw [hown] at hnone
    cases hnone
  · exact ⟨sp, m, congrArg Prod.fst hplace⟩

/-- The places of a child are among those of its siblings. -/
lemma mem_placeChildren {child : Tx} {j : ℕ} (txs : List Tx) (hchild : txs[j]? = some child)
    (parentSpanID : SpanID) (retryDepth i n : ℕ) :
    ∃ m, ∀ e ∈ (placeChild epoch parentID traceID ids child parentSpanID retryDepth m).1,
      e.under (i + j) ∈
        (placeChildren epoch parentID traceID ids i txs parentSpanID retryDepth n).1 := by
  induction txs generalizing i j n with
  | nil => cases hchild
  | cons t ts ih =>
    rw [placeChildren]
    cases j with
    | zero =>
      obtain rfl := Option.some.inj hchild
      exact ⟨n, fun e he => List.mem_append_left _ (List.mem_map_of_mem he)⟩
    | succ j =>
      obtain ⟨m, hm⟩ := ih hchild (i + 1)
        (placeChild epoch parentID traceID ids t parentSpanID retryDepth n).2
      refine ⟨m, fun e he => List.mem_append_right _ ?_⟩
      rw [show i + (j + 1) = i + 1 + j by omega]
      exact hm e he

/-- **A span for every group below timed ones.** By induction on the path: the own span of the group
at its top is built, and the rest of the path is below one of its children. -/
theorem mem_placeChild (p : Path) : ∀ {tx node : Tx} (parentSpanID : SpanID) (retryDepth n : ℕ),
    tx.get? p = some node →
    (∀ q above, q <+: p → tx.get? q = some above → Timed epoch above) →
    ∃ e ∈ (placeChild epoch parentID traceID ids tx parentSpanID retryDepth n).1, e.path = p := by
  induction p with
  | nil =>
    intro tx node parentSpanID retryDepth n hnode htimed
    obtain ⟨sp, m, hplace⟩ := placeChild_of_timed epoch parentID traceID ids
      (htimed [] tx List.prefix_rfl rfl) parentSpanID retryDepth n
    rw [hplace]
    exact ⟨_, List.mem_cons_self, rfl⟩
  | cons i p ih =>
    intro tx node parentSpanID retryDepth n hnode htimed
    obtain ⟨child, hchild, hbelow⟩ := Tx.exists_of_get?_cons hnode
    obtain ⟨sp, m, hplace⟩ := placeChild_of_timed epoch parentID traceID ids
      (htimed [] tx List.nil_prefix rfl) parentSpanID retryDepth n
    obtain ⟨k, hk⟩ := mem_placeChildren epoch parentID traceID ids tx.children hchild sp.spanID
      (depthBelow tx.type retryDepth) 0 m
    obtain ⟨e, he, rfl⟩ := ih sp.spanID (depthBelow tx.type retryDepth) k hbelow
      fun q above hq habove => htimed (i :: q) above (List.cons_prefix_cons.2 ⟨rfl, hq⟩)
        ((Tx.get?_cons hchild q).trans habove)
    rw [hplace]
    refine ⟨e.under i, List.mem_cons_of_mem _ ?_, rfl⟩
    have := hk e he
    rwa [Nat.zero_add] at this

end Below

/-! ## What is lost -/

/-- A request with its timestamps that is not marked unsampled. -/
structure Usable (tx : Tx) : Prop where
  request : tx.type = txTypeRequest
  start : (tx.timestamp epoch "Start").isSome
  stop : (respEnd epoch tx).isSome
  sampled : ∀ tid sid, incoming tx ≠ some (tid, sid, false)

/-- Such a request has spans and is not reported as unusable. -/
lemma Usable.spans {tx : Tx} (h : Usable epoch tx) (ids : IDSource) :
    (buildWithOutcome epoch tx ids).1 ≠ [] ∧ (buildWithOutcome epoch tx ids).2 = .spans := by
  obtain ⟨start, hstart⟩ := Option.isSome_iff_exists.1 h.start
  obtain ⟨stop, hstop⟩ := Option.isSome_iff_exists.1 h.stop
  have hsampled : ¬((incoming tx).any fun t => !t.2.2) = true := by
    cases hinc : incoming tx with
    | none => simp
    | some inc =>
      obtain ⟨tid, sid, sampled⟩ := inc
      cases sampled with
      | true => simp
      | false => exact absurd hinc (h.sampled tid sid)
  rw [buildWithOutcome, if_neg (not_not.2 h.request), hstart, hstop]
  dsimp only
  rw [if_neg hsampled]
  exact ⟨List.cons_ne_nil _ _, rfl⟩

/-- A fetch below timed groups has its span. -/
lemma exists_mem_places {tx : Tx} {ids : IDSource} {req : Span} {p : Path}
    (hfetched : Fetched epoch tx p)
    (htimed : ∀ q above, q <+: p → q ≠ [] → tx.get? q = some above → Timed epoch above) :
    ∃ e ∈ places epoch tx ids req, e.path = p := by
  obtain ⟨node, hnode, -⟩ := hfetched.fetch
  cases p with
  | nil => exact absurd rfl hfetched.below
  | cons i p =>
    obtain ⟨child, hchild, hbelow⟩ := Tx.exists_of_get?_cons hnode
    obtain ⟨m, hm⟩ := mem_placeChildren epoch (((incoming tx).map (·.2.1)).getD 0)
      (adoptedTraceID tx ids) ids tx.children hchild req.spanID (depthBelow tx.type 0) 0 1
    obtain ⟨e, he, rfl⟩ := mem_placeChild epoch (((incoming tx).map (·.2.1)).getD 0)
      (adoptedTraceID tx ids) ids p req.spanID (depthBelow tx.type 0) m hbelow
      fun q above hq habove => htimed (i :: q) above (List.cons_prefix_cons.2 ⟨rfl, hq⟩)
        (List.cons_ne_nil _ _) ((Tx.get?_cons hchild q).trans habove)
    refine ⟨e.under i, List.mem_cons_of_mem _ ?_, rfl⟩
    have := hm e he
    rwa [Nat.zero_add] at this

/-- **No fetch is lost exactly when the groups above each have their timestamps.**

**Proof sketch.** Places with spans are closed under prefixes and have the timestamps of their
spans, so a fetch with a span has timed groups above it. Conversely the builder goes down a path
as long as the groups on it are timed (`mem_placeChild`). -/
theorem nothingLost_iff {tx : Tx} (h : Usable epoch tx) (ids : IDSource) :
    NothingLost epoch tx ids ↔ ∀ p, Fetched epoch tx p →
      ∀ q above, q <+: p → q ≠ [] → tx.get? q = some above → Timed epoch above := by
  obtain ⟨hspans, houtcome⟩ := h.spans epoch ids
  constructor
  · rintro (⟨l, -, hmirrors, hall⟩ | hunusable)
    · intro p hfetched q above hq hne habove
      obtain ⟨e, he, hpath, -⟩ := hall p hfetched
      obtain ⟨e', he', rfl⟩ := hmirrors.above p ⟨e, he, hpath⟩ q hq
      rw [hmirrors.get? he'] at habove
      rw [← Option.some.inj habove]
      exact hmirrors.timed he' hne
    · rw [houtcome] at hunusable
      cases hunusable
  · intro htimed
    obtain ⟨req, hbuilt, hmirrors⟩ := places_span epoch hspans
    refine .inl ⟨_, hbuilt, hmirrors, fun p hfetched => ?_⟩
    obtain ⟨e, he, hpath⟩ := exists_mem_places epoch hfetched (htimed p hfetched)
    refine ⟨e, he, hpath, ?_⟩
    obtain ⟨node, hnode, htype, -⟩ := hfetched.fetch
    have hne : e.path ≠ [] := by
      rw [hpath]
      exact hfetched.below
    rw [← hpath, hmirrors.get? he] at hnode
    obtain rfl := Option.some.inj hnode
    rcases hmirrors.kind e he hne with ⟨-, hspan⟩ | ⟨⟨hrequest, -⟩, -⟩
    · exact hspan.name
    · exact absurd (htype.symm.trans hrequest) (by decide)

/-- A request whose first attempt was answered with an error, and retried. -/
def answeredAttempt : Tx :=
  .mk "Request" 2 [⟨"Timestamp", "Start: 1.0 0.0 0.0"⟩, ⟨"Timestamp", "Resp: 5.0 4.0 1.0"⟩]
    [.mk "BeReq" 3 [⟨"Begin", "bereq 2 fetch"⟩, ⟨"Timestamp", "Bereq: 1.0 0.0 0.0"⟩,
        ⟨"Timestamp", "Beresp: 2.0 1.0 1.0"⟩]
      [.mk "BeReq" 4 [⟨"Begin", "bereq 3 retry"⟩, ⟨"Timestamp", "Bereq: 3.0 1.0 1.0"⟩,
        ⟨"Timestamp", "Beresp: 4.0 2.0 1.0"⟩] []]]

/-- Both attempts have their spans. -/
theorem nothingLost_iff_answeredAttempt :
    NothingLost (fun _ => some 0) answeredAttempt ⟨1, fun n => n + 1⟩ := by
  have husable : Usable (fun _ => some 0) answeredAttempt := by
    refine ⟨rfl, by decide +kernel, by decide +kernel, fun tid sid => ?_⟩
    rw [show incoming answeredAttempt = none by decide +kernel]
    exact (Option.some_ne_none _).symm
  refine (nothingLost_iff (fun _ => some 0) husable _).2 fun p hfetched q above hq hne habove => ?_
  -- below the request there are the two attempts only
  have hnodes : (q, above) ∈ answeredAttempt.preorder := (Tx.mem_preorder _ _ _).2 habove
  have htimed : ∀ e ∈ answeredAttempt.preorder.tail, TimedFetch (fun _ => some 0) e.2 := by
    intro e he
    rcases List.mem_cons.1 he with rfl | he
    · exact ⟨rfl, by decide +kernel, by decide +kernel⟩
    · obtain rfl := List.mem_singleton.1 he
      exact ⟨rfl, by decide +kernel, by decide +kernel⟩
  rcases List.mem_cons.1 hnodes with heq | hbelow
  · exact absurd (congrArg Prod.fst heq) hne
  · exact .inl (htimed _ hbelow)

/-- A request whose first attempt was refused by the backend, so that it has no response. -/
def refusedAttempt : Tx :=
  .mk "Request" 2 [⟨"Timestamp", "Start: 1.0 0.0 0.0"⟩, ⟨"Timestamp", "Resp: 5.0 4.0 1.0"⟩]
    [.mk "BeReq" 3 [⟨"Begin", "bereq 2 fetch"⟩, ⟨"Timestamp", "Start: 1.0 0.0 0.0"⟩,
        ⟨"Timestamp", "Error: 2.0 1.0 1.0"⟩]
      [.mk "BeReq" 4 [⟨"Begin", "bereq 3 retry"⟩, ⟨"Timestamp", "Bereq: 3.0 1.0 1.0"⟩,
        ⟨"Timestamp", "Beresp: 4.0 2.0 1.0"⟩] []]]

/-- The request itself is usable. -/
lemma refusedAttempt_usable : Usable (fun _ => some 0) refusedAttempt := by
  refine ⟨rfl, by decide +kernel, by decide +kernel, fun tid sid => ?_⟩
  rw [show incoming refusedAttempt = none by decide +kernel]
  exact (Option.some_ne_none _).symm

/-- The second attempt is a fetch below the first. -/
lemma refusedAttempt_fetched : Fetched (fun _ => some 0) refusedAttempt [0, 0] := by
  refine ⟨List.cons_ne_nil _ _, ⟨_, rfl, rfl, by decide +kernel, by decide +kernel⟩, ?_⟩
  intro q above hq hne hne' habove
  have hq' : q <+: ([] ++ [0]) ++ [0] := hq
  rcases List.prefix_concat_iff.1 hq' with rfl | hq'
  · exact absurd rfl hne'
  · rcases List.prefix_concat_iff.1 hq' with rfl | hq'
    · obtain rfl := Option.some.inj habove
      exact .inl rfl
    · exact absurd (List.prefix_nil.1 hq') hne

/-- The second attempt has no span, and nothing is reported. -/
theorem refusedAttempt_lost :
    Usable (fun _ => some 0) refusedAttempt ∧ Fetched (fun _ => some 0) refusedAttempt [0, 0] ∧
      (buildWithOutcome (fun _ => some 0) refusedAttempt ⟨1, fun n => n + 1⟩).2 = .spans ∧
      ¬NothingLost (fun _ => some 0) refusedAttempt ⟨1, fun n => n + 1⟩ := by
  have houtcome : (buildWithOutcome (fun _ => some 0) refusedAttempt ⟨1, fun n => n + 1⟩).2 =
      .spans := by decide +kernel
  have hnames : (buildWithOutcome (fun _ => some 0) refusedAttempt ⟨1, fun n => n + 1⟩).1.all
      (fun sp => sp.name = .request) = true := by decide +kernel
  refine ⟨refusedAttempt_usable, refusedAttempt_fetched, houtcome, ?_⟩
  rintro (⟨l, hspans, -, hall⟩ | hunusable)
  · obtain ⟨e, he, -, hname⟩ := hall [0, 0] refusedAttempt_fetched
    rw [← hspans] at hnames
    have hrequest := List.all_eq_true.1 hnames e.span (List.mem_map_of_mem he)
    rw [hname] at hrequest
    exact absurd hrequest (by decide)
  · rw [houtcome] at hunusable
    cases hunusable

end CloudVinyl.Spans
