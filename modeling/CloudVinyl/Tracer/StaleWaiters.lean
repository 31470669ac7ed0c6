import CloudVinyl.Tracer.Origins

set_option relaxedAutoImplicit false
set_option autoImplicit false

/-!
# Waiters and the fetches they are linked to

Transaction numbers repeat when varnishd restarts, so a link by number alone may join what does not
belong together. `Build` of `internal/tracer/spans/linker.go` guards against that in two ways. It
releases groups that have waited too long before it records the fetches of its own group, and it
takes the identity of a fetch from a cache that forgets.

A link made by a call is judged here by the readings of the clock of three calls: the one that makes
it, the one that handed in the waiting group, and the one that built the fetch.

## Main definitions

* `Linker.fetchesUpTo` — the fetch spans of a transaction that the first calls have built, in order.
* `Linker.Timely` — a link to the last of these, made in time.

## Main results

* `Linker.Remembers.items_latest` — the cache knows the last fetch of a transaction, or none.
* `Linker.runNew_timely` — every link of every run is timely.
-/

namespace CloudVinyl.Linker

open Vsl Spans

variable (epoch : Text → Option Time)

/-! ## The fetches of a transaction -/

/-- The fetch spans of transaction `v` that the group of a call was stitched to. -/
def fetchesAt (cfg : Config) (calls : List Call) (v : ℕ) (e : Entry) : List (Entry × Span) :=
  ((stitchedAt epoch cfg calls e).toList.flatMap fun s => fetchesOf v s.spans).map (Prod.mk e)

/-- The fetch spans of transaction `v` that the first `k` calls have built, in order, each with its
call. -/
def fetchesUpTo (cfg : Config) (calls : List Call) (k v : ℕ) : List (Entry × Span) :=
  (calls.zipIdx.take k).flatMap (fetchesAt epoch cfg calls v)

/-- A link of a batch that a call returns. The call is the one that handed the group in, or the
group has not waited longer than the age limit. The link leads to the fetch span of the transaction
that the group hit which was built last, not longer than the time to live before. -/
structure Timely (cfg : Config) (calls : List Call) (e : Entry) (b : Batch Entry) (lk : Link) :
    Prop where
  waited : b.label = e ∨ e.1.now - b.label.1.now ≤ cfg.ageLimit
  latest : ∃ v origin fetch, hitVxid b.label.1.group.tx = some v ∧
    (fetchesUpTo epoch cfg calls (e.2 + 1) v).getLast? = some (origin, fetch) ∧
    lk = originLink (fetchInfo fetch) ∧ e.1.now - origin.1.now ≤ cfg.ttl

/-- A call is made no time after itself. -/
lemma Timely.within {cfg : Config} {calls : List Call} {e : Entry} {b : Batch Entry} {lk : Link}
    (h : Timely epoch cfg calls e b lk) (hage : 0 ≤ cfg.ageLimit) :
    e.1.now - b.label.1.now ≤ cfg.ageLimit := by
  rcases h.waited with rfl | hwaited
  · rwa [sub_self]
  · exact hwaited

section Runs

variable {epoch} {cfg : Config} {calls : List Call} {k : ℕ} {c : Call} {s : SpanSet}

/-- The fetches up to the next call. -/
lemma fetchesUpTo_succ (hc : calls[k]? = some c) (v : ℕ) :
    fetchesUpTo epoch cfg calls (k + 1) v =
      fetchesUpTo epoch cfg calls k v ++ fetchesAt epoch cfg calls v (c, k) := by
  have hget : calls.zipIdx[k]? = some (c, k) := by
    rw [List.getElem?_zipIdx, hc]
    simp
  rw [fetchesUpTo, List.take_add_one, hget, List.flatMap_append, Option.toList_some,
    List.flatMap_singleton]
  rfl

/-- A group without spans brings no fetch. -/
lemma fetchesAt_of_unbuilt (hs : stitchedAt epoch cfg calls (c, k) = none) (v : ℕ) :
    fetchesAt epoch cfg calls v (c, k) = [] := by
  rw [fetchesAt, hs]
  rfl

/-- A group with spans brings its fetches. -/
lemma fetchesAt_of_stitched (hs : stitchedAt epoch cfg calls (c, k) = some s) (v : ℕ) :
    fetchesAt epoch cfg calls v (c, k) = (fetchesOf v s.spans).map (Prod.mk (c, k)) := by
  rw [fetchesAt, hs, Option.toList_some, List.flatMap_singleton]

/-! ## What the linker remembers -/

/-- Before the call at position `k`: the parameters are those of the linker, a parked group carries
the reading of its own call, and the cache knows the last fetch of a transaction or none. -/
structure Remembers (epoch : Text → Option Time) (cfg : Config) (calls : List Call) (k : ℕ) :
    Prop where
  cfg_eq : (stateAt epoch cfg calls k).cfg = cfg
  ttl_eq : (stateAt epoch cfg calls k).fetches.ttl = cfg.ttl
  arrived : ∀ p ∈ (stateAt epoch cfg calls k).parked,
    p.arrivedAt = p.label.1.now ∧ hitVxid p.label.1.group.tx = some p.vxid
  latest : ∀ v x, (stateAt epoch cfg calls k).fetches.items v = some x →
    ∃ origin fetch, (fetchesUpTo epoch cfg calls k v).getLast? = some (origin, fetch) ∧
      x = ⟨fetchInfo fetch, origin.1.now⟩

/-- Recording fetches keeps the time to live. -/
lemma ttl_setFetches (f : VxidCache FetchInfo) (sps : List Span) (now : Time) :
    (setFetches f sps now).ttl = f.ttl := by
  induction sps generalizing f with
  | nil => rfl
  | cons sp sps ih =>
    refine (ih _).trans ?_
    dsimp only
    split_ifs
    · exact VxidCache.ttl_set _ _ _ _
    · rfl

/-- After the fetches of a call are recorded, the cache knows the last fetch up to and including
them, or none. -/
lemma Remembers.items_latest (h : Remembers epoch cfg calls k) (hc : calls[k]? = some c)
    (hs : stitchedAt epoch cfg calls (c, k) = some s) {v : ℕ} {x : CacheEntry FetchInfo}
    (hx : (setFetches (stateAt epoch cfg calls k).fetches s.spans c.now).items v = some x) :
    ∃ origin fetch, (fetchesUpTo epoch cfg calls (k + 1) v).getLast? = some (origin, fetch) ∧
      x = ⟨fetchInfo fetch, origin.1.now⟩ := by
  rw [fetchesUpTo_succ hc, fetchesAt_of_stitched hs]
  rcases items_setFetches hx with ⟨hnone, hold⟩ | ⟨fetch, hlast, rfl⟩
  · rw [hnone, List.map_nil, List.append_nil]
    exact h.latest v x hold
  · refine ⟨(c, k), fetch, ?_, rfl⟩
    rw [List.getLast?_append, List.getLast?_map, hlast]
    rfl

/-- At the beginning. -/
lemma Remembers.zero : Remembers epoch cfg calls 0 where
  cfg_eq := rfl
  ttl_eq := rfl
  arrived := by simp [stateAt, runNew, new]
  latest := by simp [stateAt, runNew, new, VxidCache.new]

/-- After the next call. -/
lemma Remembers.succ (h : Remembers epoch cfg calls k) (hc : calls[k]? = some c) :
    Remembers epoch cfg calls (k + 1) := by
  have hcfg : (step epoch (stateAt epoch cfg calls k) (c, k)).2.cfg = cfg :=
    ((stateAt epoch cfg calls k).build_cfg epoch (c, k) c).trans h.cfg_eq
  rw [← stateAt_succ epoch hc] at hcfg
  cases hs : stitchedAt epoch cfg calls (c, k) with
  | none =>
    obtain ⟨-, hparked, hfetches, -⟩ := step_of_unbuilt (stateAt epoch cfg calls k)
      (stitchedAt_eq_none.1 hs)
    rw [← stateAt_succ epoch hc] at hparked hfetches
    refine ⟨hcfg, by rw [hfetches, h.ttl_eq], fun p hp => h.arrived p (hparked hp),
      fun v x hx => ?_⟩
    rw [fetchesUpTo_succ hc, fetchesAt_of_unbuilt hs, List.append_nil]
    rw [hfetches] at hx
    exact h.latest v x hx
  | some s =>
    obtain ⟨-, hparked, hfetches, -⟩ := step_of_stitched hs
    rw [← stateAt_succ epoch hc] at hparked hfetches
    refine ⟨hcfg, by rw [hfetches, ttl_setFetches, h.ttl_eq], fun p hp => ?_, fun v x hx => ?_⟩
    · cases hparked p hp with
      | before hp => exact h.arrived p hp
      | own hv => exact ⟨rfl, hv⟩
    · rw [hfetches] at hx
      exact h.items_latest hc hs hx

/-- **At every call** the linker remembers the last fetches. -/
lemma remembers (hk : k ≤ calls.length) : Remembers epoch cfg calls k :=
  stateAt_induction .zero (fun _ _ hc h => h.succ hc) k hk

/-! ## The links of a call -/

/-- A fetch that is found is the last one, and not too old. -/
lemma Remembers.get_latest (h : Remembers epoch cfg calls k) (hc : calls[k]? = some c)
    (hs : stitchedAt epoch cfg calls (c, k) = some s) {v : ℕ} {info : FetchInfo}
    (hget : (setFetches (stateAt epoch cfg calls k).fetches s.spans c.now).get v c.now =
      some info) :
    ∃ origin fetch, (fetchesUpTo epoch cfg calls (k + 1) v).getLast? = some (origin, fetch) ∧
      info = fetchInfo fetch ∧ c.now - origin.1.now ≤ cfg.ttl := by
  obtain ⟨t, hitems, httl⟩ := VxidCache.items_of_get hget
  obtain ⟨origin, fetch, hlast, heq⟩ := h.items_latest hc hs hitems
  obtain ⟨rfl, rfl⟩ := CacheEntry.mk.inj heq
  rw [ttl_setFetches, h.ttl_eq] at httl
  exact ⟨origin, fetch, hlast, rfl, httl⟩

/-- A parked group has no link yet. -/
lemma links_of_parked (hk : k ≤ calls.length) :
    ∀ p ∈ (stateAt epoch cfg calls k).parked, ∀ sp ∈ p.set.spans, sp.links = [] := by
  have hcoherent : Coherent epoch cfg calls k := coherent hk
  exact fun p hp => links_of_stitched (hcoherent.parked p hp).1

/-- Nor has what is parked at the end and flushed. -/
lemma links_of_flushed {b : Batch Entry} (hb : b ∈ (runNew epoch cfg calls).2.flush.1) :
    ∀ sp ∈ b.set.spans, sp.links = [] := by
  have hlast : stateAt epoch cfg calls calls.length = (runNew epoch cfg calls).2 := by
    rw [stateAt, List.take_length]
  rw [← hlast] at hb
  obtain ⟨p, hp, rfl⟩ := List.mem_map.1 hb
  exact links_degrade (links_of_parked le_rfl p hp)

/-- A group that has waited is released without a link, or with a timely one. -/
lemma Remembers.timely (h : Remembers epoch cfg calls k) (hc : calls[k]? = some c)
    {b : Batch Entry} (hb : b ∈ (step epoch (stateAt epoch cfg calls k) (c, k)).1) {sp : Span}
    (hsp : sp ∈ b.set.spans) {lk : Link} (hlk : lk ∈ sp.links) :
    Timely epoch cfg calls (c, k) b lk := by
  have hlt := (List.getElem?_eq_some_iff.1 hc).1
  have hplain : ∀ p ∈ (stateAt epoch cfg calls k).parked, ∀ sp ∈ p.set.spans, sp.links = [] :=
    links_of_parked hlt.le
  have hdegraded : ∀ p ∈ (stateAt epoch cfg calls k).parked, b ≠ degradeRelease p := by
    rintro p hp rfl
    rw [links_degrade (hplain p hp) sp hsp] at hlk
    exact List.not_mem_nil hlk
  cases hs : stitchedAt epoch cfg calls (c, k) with
  | none =>
    obtain ⟨hout, -⟩ := step_of_unbuilt (stateAt epoch cfg calls k) (stitchedAt_eq_none.1 hs)
    obtain ⟨p, hp, hrelease⟩ := hout b hb
    exact absurd hrelease (hdegraded p hp)
  | some s =>
    have hown := links_of_stitched hs
    obtain ⟨s₀, hs₀, hstitch⟩ := Option.map_eq_some_iff.1 hs
    obtain ⟨hout, -⟩ := build_fresh epoch (stateAt epoch cfg calls k) (c, k) hs₀
    rw [show ((stateAt epoch cfg calls k).stitch c.group.tx s₀ c.now).1 = s from hstitch] at hout
    rcases hout b hb with ⟨p, hp, hrelease⟩ | hrelease
    · exact absurd hrelease (hdegraded p hp)
    · cases hrelease with
      | degraded hp => exact absurd rfl (hdegraded _ (List.mem_filter.1 hp).1)
      | linked hp hf =>
        obtain ⟨hp, hyoung⟩ := List.mem_filter.1 hp
        obtain ⟨harrived, hhit⟩ := h.arrived _ hp
        obtain ⟨origin, fetch, hlast, rfl, httl⟩ := h.get_latest hc hs hf
        refine ⟨.inr ?_, _, origin, fetch, hhit, hlast, links_linkHit (hplain _ hp) hsp hlk, httl⟩
        rw [State.aged, h.cfg_eq, harrived, Bool.not_eq_true'] at hyoung
        exact not_lt.1 (of_decide_eq_false hyoung)
      | own =>
        rw [hown sp hsp] at hlk
        exact absurd hlk List.not_mem_nil
      | ownLinked hv hf =>
        obtain ⟨origin, fetch, hlast, rfl, httl⟩ := h.get_latest hc hs hf
        exact ⟨.inl rfl, _, origin, fetch, hv, hlast, links_linkHit hown hsp hlk, httl⟩
      | ownDegraded =>
        rw [links_degrade hown sp hsp] at hlk
        exact absurd hlk List.not_mem_nil

/-- What a run records of a call is what the call returns in the state before it. -/
lemma mem_runNew {ev : Entry × List (Batch Entry)} (hev : ev ∈ (runNew epoch cfg calls).1) :
    ∃ k c, calls[k]? = some c ∧
      ev = ((c, k), (step epoch (stateAt epoch cfg calls k) (c, k)).1) := by
  have hall : ∀ k ≤ calls.length, ∀ ev ∈ (runNew epoch cfg (calls.take k)).1,
      ∃ j c, calls[j]? = some c ∧
        ev = ((c, j), (step epoch (stateAt epoch cfg calls j) (c, j)).1) := by
    refine stateAt_induction (by simp [runNew]) fun k c hc ih ev hev => ?_
    rw [runNew_take_succ epoch hc] at hev
    rcases List.mem_append.1 hev with hev | hev
    · exact ih ev hev
    · exact ⟨k, c, hc, List.mem_singleton.1 hev⟩
  refine hall calls.length le_rfl ev ?_
  rwa [List.take_length]

end Runs

/-- **Stale waiters are never linked**, and links lead to the latest fetch. In every run of `Build`
calls on a new linker, every link that a call returns is timely; with an age limit that is not
negative, such as that of `NewLinker`, no call links a group that has waited longer. What is flushed
after the run has no link.

**Proof sketch.** A call releases the groups that have waited too long first, and without a link, so
what it links later has not (`build_fresh`). By induction on the calls the cache knows the last
fetch of each transaction or none, as setting a number overwrites what was known of it
(`Remembers.items_latest`), and it answers with nothing older than its time to live. -/
theorem runNew_timely (cfg : Config) (calls : List Call) :
    (∀ ev ∈ (runNew epoch cfg calls).1, ∀ b ∈ ev.2, ∀ sp ∈ b.set.spans, ∀ lk ∈ sp.links,
      Timely epoch cfg calls ev.1 b lk ∧
        (0 ≤ cfg.ageLimit → ev.1.1.now - b.label.1.now ≤ cfg.ageLimit)) ∧
    ∀ b ∈ (runNew epoch cfg calls).2.flush.1, ∀ sp ∈ b.set.spans, sp.links = [] := by
  refine ⟨fun ev hev b hb sp hsp lk hlk => ?_, fun b hb => links_of_flushed hb⟩
  obtain ⟨k, c, hc, rfl⟩ := mem_runNew hev
  have hlt := (List.getElem?_eq_some_iff.1 hc).1
  have htimely := (remembers hlt.le).timely hc hb hsp hlk
  exact ⟨htimely, htimely.within⟩

end CloudVinyl.Linker
