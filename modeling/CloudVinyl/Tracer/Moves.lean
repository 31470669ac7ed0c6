import Mathlib.Algebra.BigOperators.Group.Multiset.Basic
import Mathlib.Tactic.Abel
import CloudVinyl.Tracer.Linker

set_option relaxedAutoImplicit false
set_option autoImplicit false

/-!
# What one call does to the parking lot

A group leaves the linker at once, or it is parked and leaves later: linked once its fetch is
known, or degraded because it is too old or the lot is full. This module says once what a
`Build` call does to the groups parked before it (`Linker.Moves`) and to the group it is handed
(`Linker.Fate`). Everything that is proved about whole runs rests on the two inversion lemmas.

## Main definitions

* `Linker.Moves` — the parked groups, by what becomes of them.
* `Linker.Stitched`, `Linker.Fate` — what becomes of the group handed in.
* `Linker.Accounts` — outputs, parking lot and counters of a call agree with its moves.

## Main results

* `Linker.State.build_accounts`, `Linker.State.build_of_none` — a `Build` call on a group with
  and without spans.
-/

namespace CloudVinyl.Linker

open Vsl Spans

variable {γ : Type}

/-- A parked group released with a link to `fetch`. -/
def linkRelease (fetch : FetchInfo) (p : ParkedSet γ) : Batch γ :=
  ⟨p.label, p.set.modifyTop (linkHit fetch)⟩

/-- The groups parked before a call, by what becomes of them: released degraded, released with a
link, or kept. -/
structure Moves (γ : Type) where
  degraded : Multiset (ParkedSet γ)
  linked : Multiset (ParkedSet γ × FetchInfo)
  kept : Multiset (ParkedSet γ)

namespace Moves

/-- All groups parked before the call. -/
def before (m : Moves γ) : Multiset (ParkedSet γ) := m.degraded + m.linked.map Prod.fst + m.kept

/-- The batches released from the lot. -/
def released (m : Moves γ) : Multiset (Batch γ) :=
  m.degraded.map degradeRelease + m.linked.map fun pf => linkRelease pf.2 pf.1

end Moves

/-- The group handed in after restart stitching, with the number of misses counted for it. -/
inductive Stitched (tx : Tx) (s : SpanSet) : SpanSet → ℕ → Prop
  | fresh : isRestartContinuation tx = false → Stitched tx s s 0
  | under (orig : RestartInfo) :
      isRestartContinuation tx = true → Stitched tx s (reparentRestart orig s) 0
  | lost : isRestartContinuation tx = true → Stitched tx s s 1

/-- What becomes of the group handed in: the batches released for it, the parked groups it adds
and the number of misses counted for it. -/
inductive Fate (g : γ) (tx : Tx) (s : SpanSet) (now : Time) :
    Multiset (Batch γ) → Multiset (ParkedSet γ) → ℕ → Prop
  | plain : hitVxid tx = none → Fate g tx s now {⟨g, s⟩} 0 0
  | linked (vxid : ℕ) (fetch : FetchInfo) : hitVxid tx = some vxid →
      Fate g tx s now {⟨g, s.modifyTop (linkHit fetch)⟩} 0 0
  | degraded (vxid : ℕ) : hitVxid tx = some vxid →
      Fate g tx s now {⟨g, s.modifyTop degrade⟩} 0 1
  | parked (vxid : ℕ) : hitVxid tx = some vxid → Fate g tx s now 0 {⟨g, vxid, s, now⟩} 0

/-- The outputs, the parking lot and the counters of a step agree with its moves, with the
batches `own` and the parked groups `new` of the group handed in, and with `n` misses counted
for that group. -/
structure Accounts (l : State γ) (m : Moves γ) (own : Multiset (Batch γ))
    (new : Multiset (ParkedSet γ)) (n : ℕ) (out : List (Batch γ)) (l' : State γ) : Prop where
  parked : (l.parked : Multiset (ParkedSet γ)) = m.before
  out : (out : Multiset (Batch γ)) = m.released + own
  parked' : (l'.parked : Multiset (ParkedSet γ)) = m.kept + new
  misses : l'.misses = l.misses + m.degraded.card + n
  hitsParked : l'.hitsParked = l.hitsParked + new.card
  cfg : l'.cfg = l.cfg
  room : l.parked.length ≤ l.cfg.maxParked → l'.parked.length ≤ l.cfg.maxParked

/-! ## The single operations -/

/-- The release of aged groups degrades them. -/
lemma releaseAgedParked_accounts (l : State γ) (now : Time) :
    Accounts l ⟨l.parked.filter (l.aged now), 0, l.parked.filter fun p => !l.aged now p⟩ 0 0 0
      (l.releaseAgedParked now).1 (l.releaseAgedParked now).2 where
  parked := by
    simp only [Moves.before, Multiset.map_zero, add_zero, Multiset.coe_add, Multiset.coe_eq_coe]
    exact (List.filter_append_perm (l.aged now) l.parked).symm
  out := by simp [Moves.released, State.releaseAgedParked]
  parked' := by simp [State.releaseAgedParked]
  misses := by simp [State.releaseAgedParked]
  hitsParked := by simp [State.releaseAgedParked]
  cfg := rfl
  room := fun h => (List.length_filter_le _ _).trans h

/-- The parked groups whose fetch is known, with that fetch. -/
def State.resolvable (l : State γ) (now : Time) : List (ParkedSet γ × FetchInfo) :=
  l.parked.filterMap fun p => (l.fetches.get p.vxid now).map fun fetch => (p, fetch)

/-- A list is the part on which `f` is defined, and the rest. -/
lemma coe_eq_filterMap_add_filter {α β : Type} (f : α → Option β) (l : List α) :
    (l : Multiset α) =
      ((l.filterMap fun a => (f a).map fun b => (a, b) : List (α × β)) : Multiset (α × β)).map
        Prod.fst + (l.filter fun a => (f a).isNone : List α) := by
  induction l with
  | nil => rfl
  | cons a l ih =>
    cases hf : f a with
    | none => simp_all [← Multiset.cons_coe]
    | some b => simp_all [← Multiset.cons_coe]

/-- Resolving the parked groups links those whose fetch is known. -/
lemma resolveParked_accounts (l : State γ) (now : Time) :
    Accounts l ⟨0, l.resolvable now, l.parked.filter fun p => (l.resolve now p).isNone⟩ 0 0 0
      (l.resolveParked now).1 (l.resolveParked now).2 where
  parked := by
    have h := coe_eq_filterMap_add_filter (fun p => l.fetches.get p.vxid now) l.parked
    simpa [Moves.before, State.resolvable, State.resolve] using h
  out := by
    have h : (l.resolvable now).map (fun pf => linkRelease pf.2 pf.1) =
        l.parked.filterMap (l.resolve now) := by
      rw [State.resolvable, List.map_filterMap]
      refine List.filterMap_congr fun p _ => ?_
      simp [State.resolve, linkRelease, Function.comp_def]
    simp [Moves.released, State.resolveParked, ← h]
  parked' := by simp [State.resolveParked]
  misses := by simp [State.resolveParked]
  hitsParked := by simp [State.resolveParked]
  cfg := rfl
  room := fun h => (List.length_filter_le _ _).trans h

/-- A step that leaves the lot and the parked counter alone. -/
lemma accounts_of_parked_eq {l l' : State γ} {n : ℕ} (own : List (Batch γ))
    (hp : l'.parked = l.parked) (hm : l'.misses = l.misses + n)
    (hh : l'.hitsParked = l.hitsParked) (hc : l'.cfg = l.cfg) :
    Accounts l ⟨0, 0, l.parked⟩ own 0 n own l' where
  parked := by simp [Moves.before]
  out := by simp [Moves.released]
  parked' := by simp [hp]
  misses := by simp [hm]
  hitsParked := by simp [hh]
  cfg := hc
  room := fun h => hp ▸ h

/-- Two consecutive steps, the first of which parks nothing. -/
lemma Accounts.trans {l l₁ l₂ : State γ} {m₁ m₂ : Moves γ} {own₁ own₂ : Multiset (Batch γ)}
    {new : Multiset (ParkedSet γ)} {n₁ n₂ : ℕ} {out₁ out₂ : List (Batch γ)}
    (h₁ : Accounts l m₁ own₁ 0 n₁ out₁ l₁) (h₂ : Accounts l₁ m₂ own₂ new n₂ out₂ l₂) :
    Accounts l ⟨m₁.degraded + m₂.degraded, m₁.linked + m₂.linked, m₂.kept⟩ (own₁ + own₂) new
      (n₁ + n₂) (out₁ ++ out₂) l₂ where
  parked := by
    have hk : m₁.kept = m₂.before := by simpa [h₁.parked'] using h₂.parked
    rw [h₁.parked, Moves.before, hk]
    simp only [Moves.before, Multiset.map_add]
    abel
  out := by
    rw [← Multiset.coe_add, h₁.out, h₂.out]
    simp only [Moves.released, Multiset.map_add]
    abel
  parked' := h₂.parked'
  misses := by
    rw [h₂.misses, h₁.misses, Multiset.card_add]
    omega
  hitsParked := by
    rw [h₂.hitsParked, h₁.hitsParked]
    simp
  cfg := h₂.cfg.trans h₁.cfg
  room := fun h => h₁.cfg ▸ h₂.room (h₁.cfg.symm ▸ h₁.room h)

/-- A full lot releases its oldest group to make room. -/
lemma park_of_full {l : State γ} {oldest : ParkedSet γ} {rest : List (ParkedSet γ)}
    (hp : l.parked = oldest :: rest) (hfull : l.cfg.maxParked ≤ l.parked.length) (g : γ)
    (vxid : ℕ) (s : SpanSet) (now : Time) :
    l.park g vxid s now = ([degradeRelease oldest],
      { l with
        parked := rest ++ [⟨g, vxid, s, now⟩]
        misses := l.misses + 1
        hitsParked := l.hitsParked + 1 }) := by
  rw [hp] at hfull
  simp only [State.park, hp, if_pos hfull]

/-- With room in the lot, the group is appended. -/
lemma park_of_room {l : State γ} (hroom : l.parked.length < l.cfg.maxParked) (g : γ) (vxid : ℕ)
    (s : SpanSet) (now : Time) :
    l.park g vxid s now =
      ([], { l with
        parked := l.parked ++ [⟨g, vxid, s, now⟩]
        hitsParked := l.hitsParked + 1 }) := by
  cases hp : l.parked with
  | nil => simp only [State.park, hp, List.nil_append]
  | cons oldest rest =>
    rw [hp] at hroom
    simp only [State.park, hp, if_neg hroom.not_ge]

/-- Parking a group releases at most the oldest group, and never the one just parked. -/
lemma park_accounts (l : State γ) (g : γ) (vxid : ℕ) (s : SpanSet) (now : Time) :
    ∃ m, Accounts l m 0 {⟨g, vxid, s, now⟩} 0 (l.park g vxid s now).1
      (l.park g vxid s now).2 := by
  by_cases hroom : l.parked.length < l.cfg.maxParked
  · rw [park_of_room hroom]
    exact ⟨⟨0, 0, l.parked⟩, by simp [Moves.before], by simp [Moves.released],
      (Multiset.coe_add _ _).symm, by simp, by simp, rfl,
      fun _ => by simpa [Nat.succ_le_iff] using hroom⟩
  · have hfull := not_lt.1 hroom
    cases hp : l.parked with
    | nil =>
      have hpos := l.cfg.one_le_maxParked
      simp only [hp, List.length_nil] at hfull
      omega
    | cons oldest rest =>
      rw [park_of_full hp hfull]
      exact ⟨⟨{oldest}, 0, rest⟩, by simp [hp, Moves.before], by simp [Moves.released],
        (Multiset.coe_add _ _).symm, by simp, by simp, rfl, fun h => by simpa [hp] using h⟩

/-! ## One call -/

section Build

variable (epoch : Text → Option Time)

/-- Stitching moves no group. -/
lemma stitch_accounts (l : State γ) (tx : Tx) (s : SpanSet) (now : Time) :
    ∃ n, Stitched tx s (l.stitch tx s now).1 n ∧
      Accounts l ⟨0, 0, l.parked⟩ 0 0 n [] (l.stitch tx s now).2 := by
  unfold State.stitch
  cases hr : isRestartContinuation tx with
  | false => exact ⟨0, .fresh hr, accounts_of_parked_eq [] rfl rfl rfl rfl⟩
  | true =>
    cases l.restarts.get tx.vxid now with
    | some orig => exact ⟨0, .under orig hr, accounts_of_parked_eq [] rfl rfl rfl rfl⟩
    | none => exact ⟨1, .lost hr, accounts_of_parked_eq [] rfl rfl rfl rfl⟩

/-- Resolving a hit decides what becomes of the group. -/
lemma resolveHit_accounts (l : State γ) (g : γ) (tx : Tx) (s : SpanSet) (now : Time) :
    ∃ m own new n, Fate g tx s now own new n ∧
      let r := l.resolveHit epoch g tx s now
      Accounts l m own new n (r.1 ++ (r.2.1.map (Batch.mk g)).toList) r.2.2 := by
  unfold State.resolveHit
  cases hv : hitVxid tx with
  | none => exact ⟨_, _, _, _, .plain hv, accounts_of_parked_eq [_] rfl rfl rfl rfl⟩
  | some vxid =>
    cases hf : l.fetches.get vxid now with
    | some fetch =>
      simp only [hf]
      exact ⟨_, _, _, _, .linked vxid fetch hv, accounts_of_parked_eq [_] rfl rfl rfl rfl⟩
    | none =>
      simp only [hf]
      split_ifs
      · exact ⟨_, _, _, _, .degraded vxid hv, accounts_of_parked_eq [_] rfl rfl rfl rfl⟩
      · obtain ⟨m, h⟩ := park_accounts l g vxid s now
        exact ⟨m, _, _, _, .parked vxid hv, by simpa using h⟩

/-- What `Build` does with a nonempty group. -/
lemma correlate_accounts (l : State γ) (g : γ) (tx : Tx) (s : SpanSet) (now : Time) :
    ∃ m own new s' k n, Stitched tx s s' k ∧ Fate g tx s' now own new n ∧
      Accounts l m own new (k + n) (l.correlate epoch g tx s now).1
        (l.correlate epoch g tx s now).2 := by
  obtain ⟨k, hst, h₁⟩ := stitch_accounts l tx s now
  let l₁ := (l.stitch tx s now).2.record tx (l.stitch tx s now).1 now
  have h₂ : Accounts (l.stitch tx s now).2 _ 0 0 0 [] l₁ :=
    accounts_of_parked_eq [] rfl rfl rfl rfl
  have h₃ := resolveParked_accounts l₁ now
  obtain ⟨m, own, new, n, hfate, h₄⟩ :=
    resolveHit_accounts epoch (l₁.resolveParked now).2 g tx (l.stitch tx s now).1 now
  have h := ((h₁.trans h₂).trans h₃).trans h₄
  simp only [zero_add, add_zero, List.nil_append] at h
  exact ⟨_, own, new, _, k, n, hst, hfate, by simpa [State.correlate] using h⟩

/-- `Build` on a group with spans ages out parked groups and correlates the group. -/
lemma State.build_of_some (l : State γ) (g : γ) {c : Call} {s : SpanSet}
    (hs : builtSet epoch c = some s) :
    (l.build epoch g c).1 = (l.releaseAgedParked c.now).1 ++
      ((l.releaseAgedParked c.now).2.correlate epoch g c.group.tx s c.now).1 ∧
    (l.build epoch g c).2.2 =
      ((l.releaseAgedParked c.now).2.correlate epoch g c.group.tx s c.now).2 := by
  have hspans := (builtSet_eq_some epoch).1 hs
  unfold State.build
  rcases hb : buildWithOutcome epoch c.group.tx c.group.ids with ⟨_ | ⟨top, below⟩, o⟩
  · simp [builtSpans, hb, SpanSet.spans] at hspans
  · obtain rfl : s = ⟨top, below⟩ := by
      simpa [builtSpans, hb, SpanSet.spans, SpanSet.ext_iff, eq_comm] using hspans
    exact ⟨rfl, rfl⟩

/-- **A `Build` call on a group with spans** releases some parked groups degraded and some
linked, keeps the others, and treats the group it is handed as `Fate` says. -/
theorem State.build_accounts (l : State γ) (g : γ) {c : Call} {s : SpanSet}
    (hs : builtSet epoch c = some s) :
    ∃ m own new s' k n, Stitched c.group.tx s s' k ∧ Fate g c.group.tx s' c.now own new n ∧
      Accounts l m own new (k + n) (l.build epoch g c).1 (l.build epoch g c).2.2 := by
  have h₁ := releaseAgedParked_accounts l c.now
  obtain ⟨m, own, new, s', k, n, hst, hfate, h₂⟩ :=
    correlate_accounts epoch (l.releaseAgedParked c.now).2 g c.group.tx s c.now
  have h := h₁.trans h₂
  simp only [zero_add] at h
  obtain ⟨hout, hl⟩ := l.build_of_some epoch g hs
  rw [hout, hl]
  exact ⟨_, own, new, s', k, n, hst, hfate, h⟩

/-- **A `Build` call on a group without spans** only ages out parked groups. In particular it
counts no lost restart continuation. -/
theorem State.build_of_none (l : State γ) (g : γ) {c : Call} (hs : builtSet epoch c = none) :
    (l.build epoch g c).1 = (l.releaseAgedParked c.now).1 ∧
      (l.build epoch g c).2.2 = (l.releaseAgedParked c.now).2 := by
  rw [builtSet_eq_none, builtSpans] at hs
  unfold State.build
  rcases hb : buildWithOutcome epoch c.group.tx c.group.ids with ⟨_ | ⟨top, below⟩, o⟩
  · refine ⟨rfl, if_neg ?_⟩
    rintro ⟨ho, hr, -⟩
    refine buildWithOutcome_nil epoch (by rw [hb]) (by rw [hb]; exact ho) ?_
    simpa using (Bool.and_eq_true_iff.1 hr).1
  · simp [hb] at hs

end Build

/-! ## Weights

Spans are weighed in a commutative monoid. A link adds no weight and a degradation adds `δ`. What
a call releases and withholds then weighs as much as what was withheld before and what the call
handed in, and `δ` for every degradation. -/

section Weight

variable {M : Type*} [AddCommMonoid M]

/-- The weight of a list of batches. -/
def weight (w : γ → SpanSet → M) (bs : List (Batch γ)) : M := (bs.map fun b => w b.label b.set).sum

/-- The weight of the groups in the lot. -/
def State.held (w : γ → SpanSet → M) (l : State γ) : M :=
  (l.parked.map fun p => w p.label p.set).sum

/-- The weight of two lists. -/
lemma weight_append (w : γ → SpanSet → M) (bs bs' : List (Batch γ)) :
    weight w (bs ++ bs') = weight w bs + weight w bs' := by
  simp [weight]

/-- The weight of a list of lists. -/
lemma weight_flatMap {ι : Type*} (w : γ → SpanSet → M) (f : ι → List (Batch γ)) (is : List ι) :
    weight w (is.flatMap f) = (is.map fun i => weight w (f i)).sum := by
  induction is with
  | nil => rfl
  | cons i is ih => rw [List.flatMap_cons, weight_append, ih, List.map_cons, List.sum_cons]

variable {w : γ → SpanSet → M} {δ : M}
  (hlink : ∀ g s fetch, w g (s.modifyTop (linkHit fetch)) = w g s)
  (hdeg : ∀ g s, w g (s.modifyTop degrade) = w g s + δ)

include hlink hdeg

/-- A step moves weight from the lot to the output, and degradations add to it. -/
lemma Accounts.weigh {l l' : State γ} {m : Moves γ} {own : Multiset (Batch γ)}
    {new : Multiset (ParkedSet γ)} {n : ℕ} {out : List (Batch γ)}
    (h : Accounts l m own new n out l') :
    weight w out + l'.held w = l.held w + m.degraded.card • δ +
      ((own.map fun b => w b.label b.set).sum + (new.map fun p => w p.label p.set).sum) := by
  have hout : weight w out = ((out : Multiset (Batch γ)).map fun b => w b.label b.set).sum := by
    simp [weight]
  have hheld : ∀ l : State γ, l.held w =
      ((l.parked : Multiset (ParkedSet γ)).map fun p => w p.label p.set).sum := by
    intro l; simp [State.held]
  rw [hout, hheld, hheld, h.out, h.parked, h.parked']
  simp only [Moves.before, Moves.released, Multiset.map_add, Multiset.sum_add, Multiset.map_map,
    Function.comp_def, degradeRelease, linkRelease, hlink, hdeg, Multiset.sum_map_add,
    Multiset.map_const', Multiset.sum_replicate]
  abel

/-- The group handed in is released or withheld, and adds its degradation. -/
lemma Fate.weigh {g : γ} {tx : Tx} {s : SpanSet} {now : Time} {own : Multiset (Batch γ)}
    {new : Multiset (ParkedSet γ)} {n : ℕ} (h : Fate g tx s now own new n) :
    (own.map fun b => w b.label b.set).sum + (new.map fun p => w p.label p.set).sum =
      w g s + n • δ := by
  cases h with
  | degraded vxid hv =>
    rw [one_nsmul]
    simp [hdeg]
  | _ => simp [hlink]

omit hlink in
/-- A final `Flush` releases the whole lot degraded. -/
lemma State.flush_weigh (l : State γ) :
    weight w l.flush.1 = l.held w + l.parked.length • δ := by
  simp [weight, State.flush, State.held, Function.comp_def, degradeRelease, hdeg,
    List.sum_map_add]

end Weight

end CloudVinyl.Linker
