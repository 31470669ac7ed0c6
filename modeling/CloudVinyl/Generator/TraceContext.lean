import CloudVinyl.Generator.Relay
import CloudVinyl.Generator.TraceExprs

set_option relaxedAutoImplicit false
set_option autoImplicit false

/-!
# The trace context in VCL and in the tracer

The `traceparent` of a request on its way through `vcl_recv` and the attempts of a fetch. What
`vcl_recv` leaves is what the tracer accepts, and what an attempt sends is accepted by the tracer
and belongs to the trace of what was left.

## Main definitions

* `Generator.LeavesTraceparent` — a snippet that does not touch the header.
* `Generator.Attempt` — the attempts of a fetch, of which each starts with what the last one sent.
* `Generator.Continues` — a value that belongs to the trace of a request.

## Main results

* `Generator.vclRecv_traceparent`, `Generator.vclBackendFetch_traceparent` — the header after each
  of the two subroutines.
* `Generator.traceparent_agrees` — both sides agree on the trace context.
-/

namespace CloudVinyl.Generator

open Vcl Vcl.Code
open Spans (Traceparent parseTraceparent)

/-! ## The two subroutines -/

section Subroutines

variable {B W : Type} {E : Engine B W} {uuid : ℕ → State B W → Text} (hE : ReadsTraceparent E uuid)
  {d : TemplateData} (hd : d.hasTracing = true)

include hE

omit hE in
/-- A header is removed if a test says that its value does not pass. -/
lemma exec_unsetIf {text h : Text} {p : Text → Bool} {s : State B W}
    (htest : ∀ v, s.get .req h = some v → E.test text s = !p v) :
    ∃ s', exec E (block (.test text) (ofList [.unset .req h])) s = ⟨s', none, []⟩ ∧
      s'.get .req h = (s.get .req h).filter p := by
  have hblock := exec_block E (.test text) (ofList [.unset .req h]) s
  have hputs : E.test text s = true → exec E (block (.test text) (ofList [.unset .req h])) s =
      ⟨s.put .req h none, none, []⟩ := fun hholds => hblock.trans (if_pos hholds)
  have hleaves : E.test text s = false → exec E (block (.test text) (ofList [.unset .req h])) s =
      ⟨s, none, []⟩ := fun hholds => hblock.trans (if_neg (Bool.eq_false_iff.1 hholds))
  cases hget : s.get .req h with
  | none =>
    cases hholds : E.test text s with
    | true => exact ⟨_, hputs hholds, s.get_put_self .req h none⟩
    | false => exact ⟨_, hleaves hholds, hget⟩
  | some v =>
    rw [Option.filter_some]
    cases hp : p v with
    | true => exact ⟨_, hleaves (by rw [htest v hget, hp]; rfl), hget⟩
    | false => exact ⟨_, hputs (by rw [htest v hget, hp]; rfl), s.get_put_self .req h none⟩

/-- The gate leaves what passes its tests. -/
lemma recvTraceparent_exec (s : State B W) :
    ∃ s', exec E recvTraceparent s = ⟨s', none, []⟩ ∧
      s'.get .req traceparentHeader = (s.get .req traceparentHeader).filter keeps := by
  obtain ⟨notes, hnotes, heq⟩ := recvTraceparent_eq
  have hmalformed : ∀ v, s.get .req traceparentHeader = some v →
      E.test malformed.text s = !shape.matched v := by
    intro v hv
    rw [hE.malformed]
    simp [malformed, Test.eval, hv]
  obtain ⟨s₁, hexec₁, hget₁⟩ := exec_unsetIf hmalformed
  have hforbidden : ∀ v, s₁.get .req traceparentHeader = some v → E.test forbidden.text s₁ =
      !!(zeroTrace.matched v || zeroParent.matched v || versionFf.matched v) := by
    intro v hv
    rw [hE.forbidden]
    simp [forbidden, Test.eval, hv]
  obtain ⟨s₂, hexec₂, hget₂⟩ := exec_unsetIf
    (p := fun v => !(zeroTrace.matched v || zeroParent.matched v || versionFf.matched v)) hforbidden
  refine ⟨s₂, ?_, ?_⟩
  · rw [heq, exec_append, exec_append, exec_notes E hnotes, Result.bind_fallthrough, hexec₁,
      Result.bind_fallthrough, hexec₂]
  · rw [hget₂, hget₁, Option.filter_filter]
    rfl

/-- A snippet does not touch the header of a message. -/
def LeavesTraceparent (E : Engine B W) (o : Obj) (snippet : Text) : Prop :=
  ∀ s, (E.insert snippet s).1.get o traceparentHeader = s.get o traceparentHeader

/-- A statement of the program that does not touch the header, or the snippet. -/
def leaves (snippet : Text) (st : Stmt) : Bool :=
  st.keeps traceparentHeader && st.insertsOnly snippet

omit hE in
/-- The inserted text is the snippet itself. -/
lemma leaves_insert (place snippet : Text) : leaves snippet (.insert place snippet) = true :=
  decide_eq_true rfl

omit hE in
/-- A body that touches the header at most by a snippet, which does not. -/
lemma exec_leaves {snippet : Text} {o : Obj} {c : Code} (hc : c.all (leaves snippet) = true)
    (hsnippet : LeavesTraceparent E o snippet) (s : State B W) :
    (exec E c s).state.get o traceparentHeader = s.get o traceparentHeader := by
  have hboth : ∀ st ∈ c.stmts, st.keeps traceparentHeader = true ∧
      st.insertsOnly snippet = true := fun st hst =>
    (Bool.and_eq_true _ _).mp (List.all_eq_true.1 hc st hst)
  refine exec_get (List.all_eq_true.2 fun st hst => (hboth st hst).1) (fun place text hmem => ?_) s
  have honly : c.all (Stmt.insertsOnly snippet) = true :=
    List.all_eq_true.2 fun st hst => (hboth st hst).2
  rw [eq_of_insertsOnly honly hmem]
  exact hsnippet

omit hE in
/-- What `vcl_recv` does after the gate does not touch the header. -/
lemma vclRecv_eq (d : TemplateData) : ∃ rest : Code,
    vclRecv d = recvNormalize ++ (when d.hasTracing recvTraceparent ++ rest) ∧
      rest.all (leaves d.input.spec.vcl.snippets.vclRecv) = true := by
  refine ⟨recvPurge d ++ when d.hasBAN recvBan ++
    when d.hasCluster (recvStripShard d ++ recvRoute d) ++ recvServe d, ?_, ?_⟩
  · simp only [vclRecv, append_assoc]
  refine all_append (all_append (all_append ?_ (all_when rfl)) (all_when (all_append ?_ rfl))) ?_
  · exact all_append rfl (all_block (all_append (all_append (all_block rfl) (all_when rfl)) rfl))
  · exact all_append (all_append rfl (all_block rfl)) (all_when (all_append rfl (all_block rfl)))
  · refine all_append (all_append (all_append (all_append ?_ rfl) rfl) ?_) rfl
    · exact all_append (all_append (all_when rfl) (all_when rfl)) rfl
    · exact customSnippet_all (fun _ => rfl) (leaves_insert _ _)

include hd

/-- **The header after `vcl_recv`** is the one that came in, if it passes the tests. -/
theorem vclRecv_traceparent
    (hsnippet : LeavesTraceparent E .req d.input.spec.vcl.snippets.vclRecv) (s : State B W) :
    (exec E (vclRecv d) s).state.get .req traceparentHeader =
      (s.get .req traceparentHeader).filter keeps := by
  obtain ⟨rest, hcode, hrest⟩ := vclRecv_eq d
  have hnormalize : FallsThrough E traceparentHeader recvNormalize s :=
    fallsThrough_of_silent rfl s
  obtain ⟨s₁, hexec₁, hagree⟩ := hnormalize.exec_append (recvTraceparent ++ rest)
  obtain ⟨s₂, hexec₂, hget⟩ := recvTraceparent_exec hE s₁
  rw [hcode, hd, when, if_pos rfl, hexec₁, exec_append, hexec₂, Result.bind_fallthrough,
    exec_leaves hrest hsnippet, hget, hagree.get]

omit hd in
/-- A fetch sets the header to one of the two values. -/
lemma fetchTraceparent_exec (s : State B W) :
    ∃ s', exec E fetchTraceparent s = ⟨s', none, []⟩ ∧ s'.get .bereq traceparentHeader =
      some (if (s.get .bereq traceparentHeader).isSome then renewed.eval uuid s
        else minted.eval uuid s) := by
  obtain ⟨notes, hnotes, heq⟩ := fetchTraceparent_eq
  have hexec : exec E fetchTraceparent s = exec E (ifElse (.header .bereq traceparentHeader)
      (ofList [.set .bereq traceparentHeader renewed.text])
      (ofList [.set .bereq traceparentHeader minted.text])) s := by
    rw [heq, exec_append, exec_notes E hnotes, Result.bind_fallthrough]
  rw [hexec, exec_ifElse]
  cases hsome : (s.get .bereq traceparentHeader).isSome with
  | true =>
    have hholds : E.holds s (.header .bereq traceparentHeader) = true := hsome
    rw [if_pos hholds, ← hE.renewed]
    exact ⟨_, rfl, s.get_put_self _ _ _⟩
  | false =>
    have hholds : E.holds s (.header .bereq traceparentHeader) = false := hsome
    rw [hholds, ← hE.minted]
    exact ⟨_, rfl, s.get_put_self _ _ _⟩

omit hE hd in
/-- Before the header is set, `vcl_backend_fetch` can only choose a backend and run its snippet. -/
lemma vclBackendFetch_eq (d : TemplateData) : ∃ head : Code,
    vclBackendFetch d = head ++ when d.hasTracing fetchTraceparent ++ ofList [.ret .fetch] ∧
      ∀ {p : Stmt → Bool}, (∀ line, p (.note line) = true) → (∀ b, p (.backend b) = true) →
        p (.insert "vcl_backend_fetch" d.input.spec.vcl.snippets.vclBackendFetch) = true →
          head.all p = true := by
  refine ⟨_, rfl, fun {p} hnote hbackend hinsert => ?_⟩
  have hselect : ∀ c b, (block (.test c) (ofList [.backend b])).all p = true := fun c b =>
    all_block (all_ofList fun st hst => List.mem_singleton.1 hst ▸ hbackend b)
  refine all_append (all_append (all_when (all_append (notes_all hnote rfl) (all_block ?_)))
    (notes_all hnote rfl)) (ownerSnippet_all hnote rfl hinsert)
  exact all_append (all_foldr (fun g => all_when (hselect _ _)) _) (all_when (hselect _ _))

/-- **The header after `vcl_backend_fetch`** has one of the two values, unless the snippet
returned. -/
theorem vclBackendFetch_traceparent
    (hsnippet : LeavesTraceparent E .bereq d.input.spec.vcl.snippets.vclBackendFetch)
    (s : State B W) :
    ((∃ s, (E.insert d.input.spec.vcl.snippets.vclBackendFetch s).2 ≠ none) ∧
      (exec E (vclBackendFetch d) s).state.get .bereq traceparentHeader =
        s.get .bereq traceparentHeader) ∨
    ∃ t, t.get .bereq traceparentHeader = s.get .bereq traceparentHeader ∧
      (exec E (vclBackendFetch d) s).state.get .bereq traceparentHeader =
        some (if (t.get .bereq traceparentHeader).isSome then renewed.eval uuid t
          else minted.eval uuid t) := by
  obtain ⟨head, hcode, hall⟩ := vclBackendFetch_eq d
  have hhead : (exec E head s).state.get .bereq traceparentHeader =
      s.get .bereq traceparentHeader :=
    exec_leaves (hall (fun _ => rfl) (fun _ => rfl) (leaves_insert _ _)) hsnippet s
  rw [hcode, hd, when, if_pos rfl, append_assoc, exec_append]
  cases hret : (exec E head s).ret with
  | some a =>
    refine .inl ⟨?_, ?_⟩
    · -- otherwise the head would have reached its end
      by_contra hreturns
      have hnone : ∀ place text, .insert place text ∈ head.stmts →
          ∀ s, (E.insert text s).2 = none := by
        intro place text hmem s
        rw [eq_of_insertsOnly (hall (fun _ => rfl) (fun _ => rfl) (decide_eq_true rfl)) hmem]
        exact not_not.1 fun hne => hreturns ⟨s, hne⟩
      have hend := exec_onward (hall (fun _ => rfl) (fun _ => rfl) rfl) hnone s
      rw [hret] at hend
      cases hend
    · rw [Result.bind, hret]
      exact hhead
  | none =>
    obtain ⟨t, hexec, hget⟩ := fetchTraceparent_exec hE (exec E head s).state
    refine .inr ⟨_, hhead, ?_⟩
    rw [Result.bind, hret]
    dsimp only
    rw [exec_append, hexec, Result.bind_fallthrough, ← hget]
    rfl

end Subroutines

/-! ## Agreement -/

section Agreement

/-- The attempts of a fetch: the first starts with the header `kept` of the request, a retry with
the header that was sent before. -/
inductive Attempt {B W : Type} (E : Engine B W) (d : TemplateData) (kept : Option Text) :
    State B W → Prop where
  | first {s : State B W} (h : s.get .bereq traceparentHeader = kept) : Attempt E d kept s
  | retry {s t : State B W} (hs : Attempt E d kept s) (h : t.get .bereq traceparentHeader =
      (exec E (vclBackendFetch d) s).state.get .bereq traceparentHeader) : Attempt E d kept t

/-- The value `sent` belongs to the trace of the header `kept` of the request, and starts a sampled
one without it. -/
structure Continues (kept : Option Text) (sent : Text) : Prop where
  accepted : (parseTraceparent sent).isSome = true
  same : ∀ v, kept = some v → ∃ old new : Traceparent, old.Valid ∧ new.Valid ∧
    Text.trimSpace v = old.text ∧ Text.trimSpace sent = new.text ∧
    new.traceID = old.traceID ∧ new.flags = old.flags
  sampled : kept = none → ∃ ids, parseTraceparent sent = some ids ∧ ids.2.2 = true

/-- The fields of `sent` belong to the trace of `kept`. -/
structure Inherits (kept : Option Text) (sent : Traceparent) : Prop where
  valid : sent.Valid
  same : ∀ v, kept = some v → ∃ (old : Traceparent) (e : Text), old.Valid ∧ atEnd e = true ∧
    v = old.text ++ e ∧ sent.traceID = old.traceID ∧ sent.flags = old.flags
  sampled : kept = none → sent.ids.2.2 = true

/-- The header `h` can be sent for a request with the header `kept`. -/
def Carries (kept h : Option Text) : Prop :=
  (h = none → kept = none) ∧ ∀ w, h = some w →
    ∃ (t : Traceparent) (e : Text), atEnd e = true ∧ w = t.text ++ e ∧ Inherits kept t

/-- A header that is carried on continues the one before. -/
lemma Carries.continues {kept : Option Text} {w : Text} (h : Carries kept (some w)) :
    Continues kept w := by
  obtain ⟨t, e, he, rfl, ht⟩ := h.2 w rfl
  have hparse := parse_of_valid ht.valid he
  refine ⟨by rw [hparse]; rfl, fun v hv => ?_, fun hnone => ⟨_, hparse, ht.sampled hnone⟩⟩
  obtain ⟨old, e', hold, he', rfl, htrace, hflags⟩ := ht.same v hv
  exact ⟨old, t, hold, ht.valid, trimSpace_text (valid_iff.1 hold).1 he',
    trimSpace_text (valid_iff.1 ht.valid).1 he, htrace, hflags⟩

/-- A header that passed the tests belongs to its own trace. -/
lemma carries_filter (h : Option Text) : Carries (h.filter keeps) (h.filter keeps) := by
  refine ⟨id, fun w hw => ?_⟩
  obtain ⟨t, e, hvalid, he, rfl⟩ := (keeps_iff w).1 (Option.filter_eq_some_iff.1 hw).2
  refine ⟨t, e, he, rfl, hvalid, fun v hv => ?_, fun hnone => ?_⟩
  · rw [hw] at hv
    exact ⟨t, e, hvalid, he, (Option.some.inj hv).symm, rfl, rfl⟩
  · rw [hw] at hnone
    cases hnone

variable {B W : Type} {E : Engine B W} {uuid : ℕ → State B W → Text} {d : TemplateData}
  (hE : ReadsTraceparent E uuid) (huuid : ∀ k s, ∃ u : Uuid, u.V4 ∧ uuid k s = u.text)

section Attempts

variable {kept : Option Text} {s : State B W}

include huuid

/-- What a fetch makes of a header belongs to the same trace. -/
lemma Carries.value (h : Carries kept (s.get .bereq traceparentHeader)) :
    Carries kept (some (if (s.get .bereq traceparentHeader).isSome then renewed.eval uuid s
      else minted.eval uuid s)) := by
  refine ⟨fun hnone => (nomatch hnone), fun w hw => ?_⟩
  cases hget : s.get .bereq traceparentHeader with
  | none =>
    obtain ⟨t, htext, hvalid, hsampled⟩ := minted_eval huuid s
    have hkept := h.1 hget
    rw [hget] at hw
    refine ⟨t, [], rfl, ?_, hvalid, fun v hv => ?_, fun _ => hsampled⟩
    · rw [List.append_nil, ← htext, ← Option.some.inj hw]
      rfl
    · rw [hkept] at hv
      cases hv
  | some v =>
    obtain ⟨t, e, he, rfl, ht⟩ := h.2 v hget
    obtain ⟨m, htext, hvalid⟩ := renewed_eval huuid ht.valid he hget
    rw [hget] at hw
    refine ⟨{ t with parentID := m }, e, he, ?_, hvalid, ht.same, ht.sampled⟩
    rw [← htext, ← Option.some.inj hw]
    rfl

variable (hd : d.hasTracing = true)
  (hsnippet : LeavesTraceparent E .bereq d.input.spec.vcl.snippets.vclBackendFetch)

include hE hd hsnippet

/-- One attempt: what it sends belongs to the trace of what it started with. -/
lemma Carries.fetch (h : Carries kept (s.get .bereq traceparentHeader)) :
    Carries kept ((exec E (vclBackendFetch d) s).state.get .bereq traceparentHeader) := by
  rcases vclBackendFetch_traceparent hE hd hsnippet s with ⟨-, hget⟩ | ⟨t, ht, hget⟩
  · rwa [hget]
  · rw [hget]
    rw [← ht] at h
    exact h.value huuid

/-- All attempts start with a header of the same trace. -/
lemma Attempt.carries (hs : Attempt E d kept s) (hkept : Carries kept kept) :
    Carries kept (s.get .bereq traceparentHeader) := by
  induction hs with
  | first h => rwa [h]
  | retry _ h ih =>
    rw [h]
    exact ih.fetch hE huuid hd hsnippet

end Attempts

include hE huuid

/-- **VCL and tracer agree on the trace context.** Let a varnishd read the tests and values of the
two places as they are meant, with UUIDs in canonical form, and let the snippets not touch the
header. A value without white space around it is left by `vcl_recv` just when the tracer accepts
it. Every value that an attempt of the fetch sends is accepted by the tracer; it has the trace id
and the flags of the header that was left, and is marked as sampled if none was. An attempt whose
snippet does not return sends one.

**Proof sketch.** The header left is the one that passes the tests (`vclRecv_traceparent`), and
these are the values of the grammar that the tracer reads (`keeps_eq_isSome`). An attempt changes
the span id of such a value only, or sets a new one (`Carries.fetch`), and so does every further
attempt (`Attempt.carries`). -/
theorem traceparent_agrees (go : Go) (input : Input)
    (htracing : input.spec.tracing.enabled = true)
    (hrecv : LeavesTraceparent E .req input.spec.vcl.snippets.vclRecv)
    (hfetch : LeavesTraceparent E .bereq input.spec.vcl.snippets.vclBackendFetch)
    (s : State B W) :
    let d := buildTemplateData go input
    let kept := (exec E (vclRecv d) s).state.get .req traceparentHeader
    (∀ v, s.get .req traceparentHeader = some v → Text.trimSpace v = v →
      kept = if (parseTraceparent v).isSome then some v else none) ∧
    (∀ v, kept = some v → s.get .req traceparentHeader = some v) ∧
    ∀ t, Attempt E d kept t →
      (∀ sent, (exec E (vclBackendFetch d) t).state.get .bereq traceparentHeader = some sent →
        Continues kept sent) ∧
      ((∀ u, (E.insert input.spec.vcl.snippets.vclBackendFetch u).2 = none) →
        ((exec E (vclBackendFetch d) t).state.get .bereq traceparentHeader).isSome = true) := by
  intro d kept
  have hd : d.hasTracing = true := htracing
  have hkept : kept = (s.get .req traceparentHeader).filter keeps :=
    vclRecv_traceparent hE hd hrecv s
  refine ⟨fun v hv htrim => ?_, fun v hv => ?_, fun t ht => ⟨fun sent hsent => ?_, fun hend => ?_⟩⟩
  · rw [hkept, hv, Option.filter_some, keeps_eq_isSome htrim]
  · rw [hkept] at hv
    exact (Option.filter_eq_some_iff.1 hv).1
  · have hcarries : Carries kept kept := by
      rw [hkept]
      exact carries_filter _
    have hsends := (ht.carries hE huuid hd hfetch hcarries).fetch hE huuid hd hfetch
    rw [hsent] at hsends
    exact hsends.continues
  · rcases vclBackendFetch_traceparent hE hd hfetch t with ⟨⟨u, hu⟩, -⟩ | ⟨u, -, hget⟩
    · exact absurd (hend u) hu
    · rw [hget]
      rfl

end Agreement

/-! ## A request with a trace -/

/-- A UUID with digits of both cases. -/
def mixedUuid : Uuid := ⟨"9C5B94B1", "35ad", "49bb", "b118", "8E8FC24ABF80"⟩

/-- The sample is in canonical form. -/
lemma mixedUuid_v4 : mixedUuid.V4 := by
  refine ⟨⟨rfl, ?_⟩, ⟨rfl, ?_⟩, ⟨⟨rfl, ?_⟩, rfl⟩, ⟨rfl, ?_⟩, ⟨rfl, ?_⟩⟩ <;>
    exact List.all_eq_true.1 (by decide)

/-- A varnishd that reads the tests and values, and draws this UUID. -/
def tracingEngine : Engine Unit Unit where
  inAcl _ _ := false
  test text s :=
    if text = malformed.text then malformed.eval s
    else if text = forbidden.text then forbidden.eval s else false
  value text s :=
    if text = renewed.text then renewed.eval (fun _ _ => mixedUuid.text) s
    else if text = minted.text then minted.eval (fun _ _ => mixedUuid.text) s else []
  select _ _ := ()
  effect _ _ := ()
  insert _ s := (s, none)

/-- The sample engine reads the expressions as they are meant. -/
lemma tracingEngine_reads : ReadsTraceparent tracingEngine fun _ _ => mixedUuid.text where
  malformed s := by
    dsimp only [tracingEngine]
    rw [if_pos rfl]
  forbidden s := by
    have hne : forbidden.text ≠ malformed.text := by decide +kernel
    dsimp only [tracingEngine]
    rw [if_neg hne, if_pos rfl]
  renewed s := by
    dsimp only [tracingEngine]
    rw [if_pos rfl]
  minted s := by
    have hne : minted.text ≠ renewed.text := by decide +kernel
    dsimp only [tracingEngine]
    rw [if_neg hne, if_pos rfl]

/-- A cache with one backend and tracing. -/
def tracedInput : Input where
  spec := { replicas := 1, backends := [{ name := "app" }], tracing := { enabled := true } }
  peers := []
  endpoints := fun _ => []
  namespace_ := "prod"
  name := "shop"
  operatorIP := []

/-- The trace context of a client that samples its trace. -/
def clientTraceparent : Text := "00-0af7651916cd43dd8448eb211c80319c-b7ad6b7169203331-01"

/-- A request and a fetch with this trace context. -/
def tracedState : State Unit Unit where
  method := "GET"
  client := "192.0.2.1"
  esiLevel := 0
  retries := 0
  http _ h := if h = fieldName traceparentHeader then some clientTraceparent else none
  hint := ()
  backend := ()
  world := ()

/-- A client that sends a header. -/
theorem traceparent_agrees_client :
    let d := buildTemplateData ⟨fun _ => [], fun _ => [], id⟩ tracedInput
    (exec tracingEngine (vclRecv d) tracedState).state.get .req traceparentHeader =
      some clientTraceparent ∧
    ∃ sent, (exec tracingEngine (vclBackendFetch d) tracedState).state.get .bereq
        traceparentHeader = some sent ∧ Continues (some clientTraceparent) sent := by
  intro d
  obtain ⟨hkeeps, -, hsends⟩ := traceparent_agrees tracingEngine_reads
    (fun _ _ => ⟨mixedUuid, mixedUuid_v4, rfl⟩) ⟨fun _ => [], fun _ => [], id⟩ tracedInput rfl
    (fun _ => rfl) (fun _ => rfl) tracedState
  have hkept := hkeeps clientTraceparent rfl (by decide)
  have haccepted : (parseTraceparent clientTraceparent).isSome = true := by decide +kernel
  rw [if_pos haccepted] at hkept
  obtain ⟨hcontinues, hsent⟩ := hsends tracedState (.first hkept.symm)
  obtain ⟨sent, hsent⟩ := Option.isSome_iff_exists.1 (hsent fun _ => rfl)
  have h := hcontinues sent hsent
  rw [hkept] at h
  exact ⟨hkept, sent, hsent, h⟩

end CloudVinyl.Generator
