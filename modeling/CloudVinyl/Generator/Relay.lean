import CloudVinyl.Generator.Templates
import CloudVinyl.Lib.Varnishd

set_option relaxedAutoImplicit false
set_option autoImplicit false

/-!
# Relay and owner

What the generated subroutines do with a request on the two kinds of pods of a cluster. A request
that a peer sent with the shard header is *marked*: `vcl_recv` takes the header off and goes on to
the default backend. Every other request is relayed: `vcl_recv` sets the header, chooses a peer
and passes.

The snippets are inserted code, over which the results quantify.

## Main definitions

* `Generator.program` — the generated subroutines that take part in a request.
* `Generator.Marked` — the request was sent by a peer with the shard header.
* `Generator.Transparent`, `Generator.ChoosesNoPeer` — what is asked of snippets: they do not touch
  the shard header, and they do not choose a peer.

## Main results

* `Generator.visit_of_not_marked` — a request that is not marked is relayed, with the header, and
  runs none of the snippets that are meant for the owner.
* `Generator.visit_of_marked` — a marked request is not relayed, if snippets choose no peer.
-/

namespace CloudVinyl.Generator

open Vcl Vcl.Code

/-- Where a request can be sent to. -/
inductive Upstream where
  | peer (ip : Text)
  | origin (name : Text)
  deriving DecidableEq

/-- The request goes to a peer. -/
def Upstream.isPeer : Upstream → Bool
  | .peer _ => true
  | .origin _ => false

/-- The generated subroutines that take part in a request. -/
def program (d : TemplateData) : Program where
  recv := vclRecv d
  hash := vclHash d
  hit := vclHit d
  miss := vclMiss d
  pass := vclPass d
  pipe := vclPipe d
  synth := vclSynth d
  backendFetch := vclBackendFetch d
  backendResponse := vclBackendResponse d
  backendError := vclBackendError d
  deliver := vclDeliver d

/-- The program that the templates make of an input; a full override takes their place. -/
def generatedProgram (go : Go) (input : Input) : Option Program :=
  if input.spec.vcl.fullOverride = [] then some (program (buildTemplateData go input)) else none

/-- It is that of the template data. -/
lemma eq_of_generatedProgram {go : Go} {input : Input} {P : Program}
    (h : generatedProgram go input = some P) : P = program (buildTemplateData go input) := by
  unfold generatedProgram at h
  split_ifs at h
  exact (Option.some.inj h).symm

/-- The snippets that only the owner of a request may run. -/
def ownerPlaces : List Text :=
  ["vcl_recv", "vcl_hash", "vcl_pass", "vcl_backend_fetch", "vcl_backend_response", "vcl_deliver"]

/-! ## Kinds of statements -/

section Kinds

variable {p : Stmt → Bool} (hnote : ∀ line, p (.note line) = true)

include hnote

/-- Comments pass. -/
lemma notes_all {l : List Stmt} (h : l.all Stmt.isNote = true) : (ofList l).all p = true := by
  refine all_ofList fun st hst => ?_
  have hst := List.all_eq_true.1 h st hst
  cases st with
  | note line => exact hnote line
  | unset | set | hint | backend | other | insert | ret => exact Bool.noConfusion hst

/-- The lines of a snippet pass if the inserted text does. -/
lemma snippetLines_all {place text : Text} (h : p (.insert place text) = true) :
    (snippetLines place text).all p = true := by
  refine all_ofList fun st hst => ?_
  simp only [List.mem_cons, List.not_mem_nil, or_false] at hst
  obtain rfl | rfl | rfl := hst
  · exact hnote _
  · exact h
  · exact hnote _

/-- So does the place of a snippet. -/
lemma customSnippet_all {place text : Text} (h : p (.insert place text) = true) :
    (customSnippet place text).all p = true :=
  all_when (all_append (snippetLines_all hnote h) (notes_all hnote rfl))

/-- So does a place that only the owner reaches. -/
lemma ownerSnippet_all {d : TemplateData} {o : Obj} {notes : List Stmt} {place text : Text}
    (hnotes : notes.all Stmt.isNote = true) (h : p (.insert place text) = true) :
    (ownerSnippet d o notes place text).all p = true := by
  refine all_when (all_append ?_ (notes_all hnote rfl))
  split_ifs
  · exact all_append (notes_all hnote hnotes) (all_guarded (snippetLines_all hnote h))
  · exact snippetLines_all hnote h

/-- Every statement of `vcl_backend_error` is a comment, a retry or its own snippet. -/
lemma vclBackendError_all (d : TemplateData) (hretry : p (.ret .retry) = true)
    (hinsert : ∀ text, p (.insert "vcl_backend_error" text) = true) :
    (vclBackendError d).all p = true := by
  have herror : ∀ r b t, (errorRetry r b t).all p = true := fun r b t =>
    all_block (all_ofList fun st hst => List.mem_singleton.1 hst ▸ hretry)
  refine all_append (all_append (notes_all hnote rfl) (all_when (all_append (notes_all hnote rfl)
    (all_block (all_append ?_ (all_when (herror _ _ _)))))))
    (all_when (all_append (notes_all hnote rfl) (snippetLines_all hnote (hinsert _))))
  exact all_foldr (fun g => all_when (herror _ _ _)) _

end Kinds

section

variable {W : Type} {V : Varnishd Upstream W} {d : TemplateData} {s : State Upstream W}

/-! ## The head of vcl_recv -/

/-- The normalisation leaves the shard header alone. -/
lemma recvNormalize_silent : recvNormalize.all (Stmt.silent shardHeader) = true := by
  decide +kernel

/-- So does the part for the trace context. -/
lemma recvTraceparent_silent : recvTraceparent.all (Stmt.silent shardHeader) = true := by
  decide +kernel

/-- Requests that are neither `PURGE` nor `BAN` get to the cluster routing as they came. -/
lemma recvHead_fallsThrough (hpurge : s.method ≠ ("PURGE" : Text))
    (hban : s.method ≠ ("BAN" : Text)) :
    FallsThrough V.toEngine shardHeader
      ((recvNormalize ++ when d.hasTracing recvTraceparent) ++
        (recvPurge d ++ when d.hasBAN recvBan)) s := by
  refine .append ?_ fun t hst => ?_
  · exact fallsThrough_of_silent (all_append recvNormalize_silent
      (all_when recvTraceparent_silent)) s
  have hmethod : ∀ {m : Text} {u : State Upstream W}, s.method ≠ m → Agree shardHeader t u →
      V.toEngine.holds u (.method m) = false := by
    intro m u hne htu
    exact decide_eq_false (by rw [htu.method, hst.method]; exact hne)
  refine .append (.append ?_ fun u htu => ?_) fun u htu => .when fun _ => .append ?_ fun v huv => ?_
  · exact fallsThrough_of_silent rfl t
  · exact fallsThrough_block (hmethod hpurge htu)
  · exact fallsThrough_of_silent rfl u
  · exact fallsThrough_block (hmethod hban (htu.trans huv))

/-! ## The cluster routing -/

/-- The request was sent by a peer, with the shard header. -/
def Marked (V : Varnishd Upstream W) (s : State Upstream W) : Prop :=
  (s.get .req shardHeader).isSome = true ∧ V.inAcl "vinyl_cluster_peers" s.client = true

/-- Whether a request is marked can be decided. -/
instance : Decidable (Marked V s) := inferInstanceAs (Decidable (_ ∧ _))

/-- Only a fragment of a page, which no request of a client is, loses the header. -/
lemma recvStripFragment_fallsThrough (hesi : s.esiLevel = 0) :
    FallsThrough V.toEngine shardHeader (recvStripFragment d) s := by
  refine .when fun _ => .append (fallsThrough_of_silent rfl s) fun t hst => fallsThrough_block ?_
  have hlevel : t.esiLevel = 0 := hst.esiLevel.trans hesi
  exact decide_eq_false (by omega)

/-- After the first part the header is there only on a marked request. -/
lemma recvStripShard_exec (hesi : s.esiLevel = 0) :
    ∃ t, exec V.toEngine (recvStripShard d) s = ⟨t, none, []⟩ ∧ t.method = s.method ∧
      ((t.get .req shardHeader).isSome = true ↔ Marked V s) := by
  unfold recvStripShard
  rw [exec_append, exec_append, exec_notes _ (by rfl), Result.bind_fallthrough, exec_block]
  have hcond : V.toEngine.holds s
      (.and (.header .req shardHeader) (.not (.paren (.client "vinyl_cluster_peers")))) =
      ((s.get .req shardHeader).isSome && !V.inAcl "vinyl_cluster_peers" s.client) := rfl
  rw [hcond]
  split_ifs with h
  · obtain ⟨t, ht, hagree⟩ := recvStripFragment_fallsThrough (V := V) (d := d)
      (s := s.put .req shardHeader none) hesi
    refine ⟨t, ht, hagree.method, ?_⟩
    rw [hagree.get, State.get_put_self]
    refine ⟨fun hnone => Bool.noConfusion hnone, fun hmark => ?_⟩
    rw [hmark.2, Bool.not_true, Bool.and_false] at h
    exact Bool.noConfusion h
  · obtain ⟨t, ht, hagree⟩ := recvStripFragment_fallsThrough (V := V) (d := d) hesi
    refine ⟨t, ht, hagree.method, ?_⟩
    rw [hagree.get]
    simp only [Bool.and_eq_true, Bool.not_eq_true', not_and, Bool.not_eq_false] at h
    exact ⟨fun hs => ⟨hs, h hs⟩, And.left⟩

/-- The second part relays a request without the header. -/
lemma recvRoute_relay (h : (s.get .req shardHeader).isSome = false) :
    ∃ t u, exec V.toEngine (recvRoute d) s = ⟨t, some .pass, []⟩ ∧ t.method = s.method ∧
      (t.get .req shardHeader).isSome = true ∧ t.hint = V.select (peerSelection d) u := by
  unfold recvRoute
  rw [exec_append, exec_append, exec_notes _ (by rfl), Result.bind_fallthrough]
  have hcond : V.toEngine.holds s (.not (.header .req shardHeader)) = true := by
    change (!(s.get .req shardHeader).isSome) = true
    rw [h]
    rfl
  rw [exec_block, if_pos hcond]
  refine ⟨_, _, rfl, rfl, ?_, rfl⟩
  change ((s.put .req shardHeader (some _)).get .req shardHeader).isSome = true
  rw [State.get_put_self]
  rfl

/-- On a request with the header it ends without a `return`. -/
lemma recvRoute_owner (h : (s.get .req shardHeader).isSome = true) :
    exec V.toEngine (recvRoute d) s = ⟨s.put .req shardHeader none, none, []⟩ := by
  unfold recvRoute
  rw [exec_append, exec_append, exec_notes _ (by rfl), Result.bind_fallthrough]
  have hcond : V.toEngine.holds s (.not (.header .req shardHeader)) = false := by
    change (!(s.get .req shardHeader).isSome) = false
    rw [h]
    rfl
  rw [exec_block, hcond]
  rfl

section Recv

variable (hd : d.hasCluster = true) (hpurge : s.method ≠ ("PURGE" : Text))
  (hban : s.method ≠ ("BAN" : Text)) (hesi : s.esiLevel = 0)

include hd hpurge hban hesi

/-- The routing decides by the mark that the request came with. -/
lemma vclRecv_exec : ∃ t, t.method = s.method ∧
    ((t.get .req shardHeader).isSome = true ↔ Marked V s) ∧
    exec V.toEngine (vclRecv d) s =
      (exec V.toEngine (recvRoute d) t).bind (exec V.toEngine (recvServe d)) := by
  obtain ⟨t, ht, hst⟩ := (recvHead_fallsThrough (V := V) (d := d) hpurge hban).exec_append
    (recvStripShard d ++ recvRoute d)
  obtain ⟨u, hu, hmethod, hmark⟩ := recvStripShard_exec (V := V) (d := d) (hst.esiLevel.trans hesi)
  refine ⟨u, hmethod.trans hst.method, ?_, ?_⟩
  · rw [hmark, Marked, Marked, hst.get, hst.client]
  · have hwhen : when d.hasCluster (recvStripShard d ++ recvRoute d) =
        recvStripShard d ++ recvRoute d := by rw [hd]; rfl
    rw [vclRecv, hwhen, exec_append, ht, exec_append, hu, Result.bind_fallthrough]

/-- **A request that is not marked is passed to a peer**, with the shard header. -/
theorem vclRecv_relay (hm : ¬Marked V s) :
    ∃ t u, exec V.toEngine (vclRecv d) s = ⟨t, some .pass, []⟩ ∧ t.method = s.method ∧
      (t.get .req shardHeader).isSome = true ∧ t.hint = V.select (peerSelection d) u := by
  obtain ⟨t, hmethod, hmark, hexec⟩ := vclRecv_exec (V := V) hd hpurge hban hesi
  obtain ⟨u, v, hroute, hum, huh, huv⟩ :=
    recvRoute_relay (V := V) (d := d) (Bool.eq_false_iff.2 fun h => hm (hmark.1 h))
  exact ⟨u, v, by rw [hexec, hroute, Result.bind_returned], hum.trans hmethod, huh, huv⟩

/-- A marked request goes on to the part behind the routing. -/
lemma vclRecv_owner (hm : Marked V s) :
    ∃ t, exec V.toEngine (vclRecv d) s = exec V.toEngine (recvServe d) t := by
  obtain ⟨t, -, hmark, hexec⟩ := vclRecv_exec (V := V) hd hpurge hban hesi
  exact ⟨_, by rw [hexec, recvRoute_owner (hmark.2 hm), Result.bind_fallthrough]⟩

end Recv

/-! ## The way of a request that is relayed -/

/-- Where the shard header is, the code between the comments of a snippet does not run. -/
lemma ownerSnippet_fallsThrough {o : Obj} {notes : List Stmt} {place text : Text}
    (hd : d.hasCluster = true) (hnotes : notes.all Stmt.isNote = true)
    (h : (s.get o shardHeader).isSome = true) :
    FallsThrough V.toEngine shardHeader (ownerSnippet d o notes place text) s := by
  have hcond : V.toEngine.holds s (.not (.header o shardHeader)) = false := by
    change (!(s.get o shardHeader).isSome) = false
    rw [h]
    rfl
  unfold ownerSnippet
  rw [if_pos hd]
  refine .when fun _ => .append ⟨s, ?_, .refl _ s⟩ fun t _ => fallsThrough_of_silent rfl t
  rw [exec_append, exec_notes _ hnotes, Result.bind_fallthrough, exec_guarded, hcond]
  rfl

/-- A first fetch selects nothing anew. -/
lemma fetchReselect_fallsThrough (hretries : s.retries = 0) :
    FallsThrough V.toEngine shardHeader (when d.hasFetchRetry (fetchReselect d)) s := by
  refine .when fun _ => .append (fallsThrough_of_silent rfl s) fun t hst => fallsThrough_block ?_
  have hzero : t.retries = 0 := hst.retries.trans hretries
  exact decide_eq_false (by omega)

section Relay

variable (hd : d.hasCluster = true)

include hd

/-- On a relay `vcl_hash` runs no snippet. -/
lemma vclHash_relay (h : (s.get .req shardHeader).isSome = true) :
    ∃ t, exec V.toEngine (vclHash d) s = ⟨t, some .lookup, []⟩ ∧ Agree shardHeader s t := by
  refine FallsThrough.ret (.append (fallsThrough_of_silent rfl s) fun t hst => ?_) .lookup
  exact ownerSnippet_fallsThrough hd rfl (by rwa [hst.get])

/-- On a relay `vcl_pass` runs no snippet. -/
lemma vclPass_relay (h : (s.get .req shardHeader).isSome = true) :
    ∃ t, exec V.toEngine (vclPass d) s = ⟨t, some .fetch, []⟩ ∧ Agree shardHeader s t := by
  refine FallsThrough.ret (.append (fallsThrough_of_silent rfl s) fun t hst => ?_) .fetch
  exact ownerSnippet_fallsThrough hd rfl (by rwa [hst.get])

/-- On a relay `vcl_backend_fetch` runs no snippet. -/
lemma vclBackendFetch_relay (hretries : s.retries = 0)
    (h : (s.get .bereq shardHeader).isSome = true) :
    ∃ t, exec V.toEngine (vclBackendFetch d) s = ⟨t, some .fetch, []⟩ ∧
      Agree shardHeader s t := by
  refine FallsThrough.ret (.append (.append (.append ?_ fun t _ => ?_) fun t hst => ?_)
    fun t _ => ?_) .fetch
  · exact fetchReselect_fallsThrough hretries
  · exact fallsThrough_of_silent rfl t
  · exact ownerSnippet_fallsThrough hd rfl (by rwa [hst.get])
  · exact fallsThrough_of_silent (all_when (by decide +kernel)) t

/-- On a relay `vcl_backend_response` runs no snippet. -/
lemma vclBackendResponse_relay (h : (s.get .bereq shardHeader).isSome = true) :
    ∃ t, exec V.toEngine (vclBackendResponse d) s = ⟨t, some .deliver, []⟩ ∧
      Agree shardHeader s t := by
  refine FallsThrough.ret (.append (fallsThrough_of_silent ?_ s) fun t hst => ?_) .deliver
  · refine all_append (all_append (all_append ?_ (all_when ?_)) (all_when rfl)) rfl
    · rfl
    · decide +kernel
  · exact ownerSnippet_fallsThrough hd rfl (by rwa [hst.get])

/-- On a relay `vcl_deliver` runs no snippet. -/
lemma vclDeliver_relay (h : (s.get .req shardHeader).isSome = true) :
    ∃ t, exec V.toEngine (vclDeliver d) s = ⟨t, some .deliver, []⟩ ∧ Agree shardHeader s t := by
  refine FallsThrough.ret (.append (fallsThrough_of_silent ?_ s) fun t hst => ?_) .deliver
  · exact all_append (all_when (by decide +kernel)) rfl
  · exact ownerSnippet_fallsThrough hd rfl (by rwa [hst.get])

/-- Inserted code does not touch the shard header, and varnishd forwards it. -/
structure Transparent (V : Varnishd Upstream W) : Prop where
  insert : ∀ text s o, (V.insert text s).1.get o shardHeader = s.get o shardHeader
  forwards : V.hopByHop (fieldName shardHeader) = false

/-- After the fetch of a relayed request only `vcl_backend_error` and `vcl_synth` run snippets. -/
lemma responsePhase_relay (hV : Transparent V) (hreq : (s.get .req shardHeader).isSome = true)
    (hbereq : (s.get .bereq shardHeader).isSome = true) :
    ∀ p ∈ (responsePhase V (program d) s).ran, p = ("vcl_backend_error" : Text) ∨
      p = ("vcl_synth" : Text) := by
  have hdeliver : ∀ t : State Upstream W, (t.get .req shardHeader).isSome = true →
      (deliverPhase V (program d) t).ran = [] := by
    intro t ht
    obtain ⟨u, hu, -⟩ := vclDeliver_relay (V := V) hd ht
    change (exec V.toEngine (vclDeliver d) t).ran = []
    rw [hu]
  have hsynth : ∀ (t : State Upstream W), ∀ p ∈ (synthPhase V (program d) t).ran,
      p = ("vcl_synth" : Text) := by
    intro t
    refine exec_ran (c := vclSynth d) (all_append (all_append rfl ?_) rfl) t
    exact customSnippet_all (fun _ => rfl) (Stmt.insertsAt_self _ _)
  intro p hp
  by_cases hans : V.answered s = true
  · obtain ⟨t, ht, hagree⟩ := vclBackendResponse_relay (V := V) hd hbereq
    have hexec : exec V.toEngine (if V.answered s then (program d).backendResponse
        else (program d).backendError) s = ⟨t, some .deliver, []⟩ := by rwa [if_pos hans]
    obtain hp | hp | ⟨hne, -⟩ := mem_ran_responsePhase hexec hp
    · cases hp
    · rw [hdeliver t (by rwa [hagree.get])] at hp
      cases hp
    · exact absurd rfl hne
  · have hexec : exec V.toEngine (if V.answered s then (program d).backendResponse
        else (program d).backendError) s = exec V.toEngine (vclBackendError d) s := by
      rw [if_neg hans]
      rfl
    obtain hp | hp | ⟨-, hp⟩ := mem_ran_responsePhase hexec hp
    · exact .inl (exec_ran (vclBackendError_all (fun _ => rfl) d rfl
        fun _ => Stmt.insertsAt_self _ _) s p hp)
    · rw [hdeliver] at hp
      · cases hp
      · rwa [exec_get (vclBackendError_all (fun _ => rfl) d rfl fun _ => rfl)
          fun _ text _ s => hV.insert text s .req]
    · exact .inr (hsynth _ p hp)

/-- **A request that is not marked is relayed.** It is sent with its method and the shard header
to a backend that the cluster director chose, and no snippet of the owner runs. -/
theorem visit_of_not_marked (hV : Transparent V) (hpurge : s.method ≠ ("PURGE" : Text))
    (hban : s.method ≠ ("BAN" : Text)) (hesi : s.esiLevel = 0) (hm : ¬Marked V s) :
    ∃ x u, (visit V (program d) s).sent = some x ∧ x.backend = V.select (peerSelection d) u ∧
      x.method = s.method ∧ (x.http (fieldName shardHeader)).isSome = true ∧
      ∀ p ∈ ownerPlaces, p ∉ (visit V (program d) s).ran := by
  obtain ⟨t, q, hrecv, htm, hth, htq⟩ := vclRecv_relay (V := V) hd hpurge hban hesi hm
  obtain ⟨u, hhash, htu⟩ := vclHash_relay (V := V) hd hth
  have huh : (u.get .req shardHeader).isSome = true := by rwa [htu.get]
  obtain ⟨v, hpass, huv⟩ := vclPass_relay (V := V) hd huh
  have hvh : (v.get .req shardHeader).isSome = true := by rwa [huv.get]
  have hbereq := (V.get_request v shardHeader).2 hV.forwards
  obtain ⟨w, hfetch, hvw⟩ := vclBackendFetch_relay (V := V) (s := V.request v) hd rfl
    (by rwa [hbereq])
  have hwreq : (w.get .req shardHeader).isSome = true := by
    rwa [hvw.get, (V.get_request v shardHeader).1]
  have hwbereq : (w.get .bereq shardHeader).isSome = true := by rwa [hvw.get, hbereq]
  have hvisit := visit_of_pass (V := V) (P := program d) hrecv hhash hpass hfetch
  rw [hvisit]
  refine ⟨_, q, rfl, ?_, htu.method.trans htm, hwbereq, fun p hp hran => ?_⟩
  · calc w.backend = (V.request v).backend := hvw.backend
      _ = v.hint := rfl
      _ = t.hint := huv.hint.trans htu.hint
      _ = V.select (peerSelection d) q := htq
  · obtain rfl | rfl := responsePhase_relay hd hV hwreq hwbereq p hran
    · exact absurd hp (by decide)
    · exact absurd hp (by decide)

end Relay

/-! ## The way of a marked request -/

/-- Inserted code chooses no peer. -/
structure ChoosesNoPeer (V : Varnishd Upstream W) : Prop where
  hint : ∀ text s, s.hint.isPeer = false → (V.insert text s).1.hint.isPeer = false
  backend : ∀ text s, s.backend.isPeer = false → (V.insert text s).1.backend.isPeer = false

section Owner

variable (hV : ChoosesNoPeer V)

include hV

/-- Without a choice in the program, the hint stays off the peers. -/
lemma exec_hint {c : Code} (hc : c.all Stmt.routeless = true) (hs : s.hint.isPeer = false) :
    (exec V.toEngine c s).state.hint.isPeer = false :=
  exec_routeless hc (fun s t hhint _ hs => by rwa [hhint]) hV.hint hs

/-- A body that chooses no backend keeps the request off the peers. -/
lemma exec_backend {c : Code} (hc : c.all Stmt.routeless = true)
    (hs : s.backend.isPeer = false) : (exec V.toEngine c s).state.backend.isPeer = false :=
  exec_routeless hc (fun s t _ hback hs => by rwa [hback]) hV.backend hs

/-- Behind the routing, `vcl_recv` starts from the default backend. -/
lemma recvServe_hint (hdefault : d.defaultBackendHint ≠ [])
    (horigin : ∀ s, (V.select d.defaultBackendHint s).isPeer = false) :
    (exec V.toEngine (recvServe d) s).state.hint.isPeer = false := by
  unfold recvServe
  simp only [append_assoc]
  rw [exec_append, when, if_pos (by simpa using hdefault)]
  refine exec_hint hV (s := { s with hint := V.select d.defaultBackendHint s }) ?_ (horigin s)
  refine all_append (all_when rfl) (all_append rfl (all_append rfl (all_append rfl ?_)))
  exact all_append (customSnippet_all (fun _ => rfl) rfl) rfl

/-- Nor does the program choose a backend on the way of a first fetch. -/
lemma vclBackendFetch_backend (hretries : s.retries = 0) (hs : s.backend.isPeer = false) :
    (exec V.toEngine (vclBackendFetch d) s).state.backend.isPeer = false := by
  unfold vclBackendFetch
  simp only [append_assoc]
  obtain ⟨t, ht, hst⟩ := (fetchReselect_fallsThrough (V := V) (d := d) hretries).exec_append _
  rw [ht]
  refine exec_backend hV ?_ (by rwa [hst.backend])
  exact all_append rfl (all_append (ownerSnippet_all (fun _ => rfl) rfl rfl)
    (all_append (all_when rfl) rfl))

/-- **A marked request is not relayed.** Whatever is sent for it goes to no peer. -/
theorem visit_of_marked (hd : d.hasCluster = true) (hpurge : s.method ≠ ("PURGE" : Text))
    (hban : s.method ≠ ("BAN" : Text)) (hesi : s.esiLevel = 0)
    (hdefault : d.defaultBackendHint ≠ [])
    (horigin : ∀ s, (V.select d.defaultBackendHint s).isPeer = false) (hm : Marked V s) :
    ∀ x ∈ (visit V (program d) s).sent, x.backend.isPeer = false := by
  refine visit_sent (I := fun s : State Upstream W => s.hint.isPeer = false)
    (Q := fun b : Upstream => b.isPeer = false)
    (fun c hc s hs => exec_hint hV ?_ hs) (fun c hc s hs => ?_) ?_
  · have hsnippet : ∀ place text, (customSnippet place text).all Stmt.routeless = true :=
      fun _ _ => customSnippet_all (fun _ => rfl) rfl
    simp only [List.mem_cons, List.not_mem_nil, or_false] at hc
    obtain rfl | rfl | rfl | rfl := hc
    · exact all_append (all_append rfl (ownerSnippet_all (fun _ => rfl) rfl rfl)) rfl
    · exact all_append (all_append rfl (hsnippet _ _)) rfl
    · exact all_append (all_append rfl (hsnippet _ _)) rfl
    · exact all_append (all_append rfl (ownerSnippet_all (fun _ => rfl) rfl rfl)) rfl
  · simp only [List.mem_cons, List.not_mem_nil, or_false] at hc
    obtain rfl | rfl := hc
    · exact vclBackendFetch_backend hV rfl hs
    · exact exec_backend hV (all_append (all_append rfl
        (customSnippet_all (fun _ => rfl) rfl)) rfl) hs
  · obtain ⟨t, ht⟩ := vclRecv_owner (V := V) hd hpurge hban hesi hm
    change (exec V.toEngine (vclRecv d) s).state.hint.isPeer = false
    rw [ht]
    exact recvServe_hint hV hdefault horigin

end Owner

end

end CloudVinyl.Generator
