import CloudVinyl.Lib.Table
import CloudVinyl.Lib.Words
import CloudVinyl.Tracer.VxidCache

set_option relaxedAutoImplicit false
set_option autoImplicit false

/-!
# The answers of the cache of the linker

The cache of `internal/tracer/spans/linker.go` over a whole sequence of `set` calls. Setting a key
again refreshes its time but not its place, so that the order of the keys is not that of their
ages, and expired entries are dropped from the front up to the first one that has not expired. The
map and the order stay in step nevertheless. An entry is found as long as it has not expired and
fewer other keys than the capacity have been set since the key was first set.

## Main definitions

* `VxidCache.SetCall`, `VxidCache.run` — a call of `set`, and the cache after a sequence of calls.
* `VxidCache.InStep` — the order lists the keys of the map, each of them once, and they fit.
* `VxidCache.Behind` — how many keys stand behind a key.
* `VxidCache.latest`, `VxidCache.othersSince` — the latest call for a key, and the number of calls
  for other keys since its first one.
* `VxidCache.Kept` — where a key stands after some calls, and when it is there.

## Main results

* `VxidCache.inStep_set`, `VxidCache.inStep_run` — one call, and every run, keeps the two in step.
* `VxidCache.kept_run` — which entries are still there after a run.
* `VxidCache.exact_answers` — the cache is a bounded map with exact answers.
-/

namespace CloudVinyl.VxidCache

open Vsl

variable {V : Type}

/-- A call of `set`. -/
structure SetCall (V : Type) where
  vxid : ℕ
  value : V
  now : Time

/-- One call. -/
def call (c : VxidCache V) (s : SetCall V) : VxidCache V := c.set s.vxid s.value s.now

/-- The cache after a sequence of calls. -/
def run (capacity ttl : ℤ) (calls : List (SetCall V)) : VxidCache V :=
  calls.foldl call (new capacity ttl)

section Run

variable (capacity ttl : ℤ) (calls : List (SetCall V)) (s : SetCall V)

/-- One call more. -/
lemma run_append_singleton :
    run capacity ttl (calls ++ [s]) = (run capacity ttl calls).set s.vxid s.value s.now := by
  rw [run, List.foldl_append]
  rfl

/-- The capacity stays. -/
@[simp] lemma capacity_run : (run capacity ttl calls).capacity = capacity := by
  induction calls using List.reverseRecOn with
  | nil => rfl
  | append_singleton calls s ih => rw [run_append_singleton, capacity_set, ih]

/-- The time to live stays. -/
@[simp] lemma ttl_run : (run capacity ttl calls).ttl = ttl := by
  induction calls using List.reverseRecOn with
  | nil => rfl
  | append_singleton calls s ih => rw [run_append_singleton, ttl_set, ih]

end Run

/-! ## The map and the order -/

/-- The list has the keys of the map, each of them once. -/
structure Lists (items : ℕ → Option (CacheEntry V)) (order : List ℕ) : Prop where
  nodup : order.Nodup
  mem_iff : ∀ k, k ∈ order ↔ (items k).isSome = true

/-- The order lists the keys of the map, and there are not more than fit. -/
structure InStep (c : VxidCache V) : Prop where
  lists : Lists c.items c.order
  length_le : (c.order.length : ℤ) ≤ c.capacity

section InStep

variable {c : VxidCache V} {items : ℕ → Option (CacheEntry V)} {order : List ℕ} {k v : ℕ}

/-- The first key leaves the map and the order together. -/
lemma Lists.drop {oldest : ℕ} {rest : List ℕ} (h : Lists items (oldest :: rest)) :
    Lists (Function.update items oldest none) rest := by
  obtain ⟨hnot, hnodup⟩ := List.nodup_cons.1 h.nodup
  refine ⟨hnodup, fun k => ?_⟩
  rw [Function.update_apply]
  split_ifs with hk
  · simpa [hk] using hnot
  · rw [← h.mem_iff, List.mem_cons, or_iff_right hk]

/-- Dropping expired entries keeps order and entries in step. -/
lemma Lists.dropExpired (h : Lists items order) (ttl : ℤ) (now : Time) :
    Lists (VxidCache.dropExpired ttl now items order).1
      (VxidCache.dropExpired ttl now items order).2 := by
  induction order generalizing items with
  | nil => exact h
  | cons oldest rest ih =>
    rw [VxidCache.dropExpired]
    split_ifs
    · exact h
    · exact ih h.drop

/-- A new key is put behind the others, and a key that is there already keeps its place. -/
lemma Lists.insert (h : Lists items order) (v : ℕ) (e : CacheEntry V) :
    Lists (Function.update items v (some e))
      (if (items v).isSome then order else order ++ [v]) := by
  have hupdate : ∀ k, (Function.update items v (some e) k).isSome = true ↔
      k = v ∨ (items k).isSome = true := by
    intro k
    rw [Function.update_apply]
    split_ifs with hk
    · simp [hk]
    · simp [hk]
  split_ifs with hv
  · refine ⟨h.nodup, fun k => ?_⟩
    rw [hupdate, h.mem_iff, iff_or_self]
    rintro rfl
    exact hv
  · have hnot : v ∉ order := mt (h.mem_iff v).1 hv
    refine ⟨List.nodup_append.2 ⟨h.nodup, by simp, ?_⟩, fun k => ?_⟩
    · rintro a ha b hb rfl
      exact hnot (List.mem_singleton.1 hb ▸ ha)
    · rw [hupdate, List.mem_append, List.mem_singleton, h.mem_iff, or_comm]

/-- The oldest key is evicted if there is one too many. -/
lemma inStep_evict (h : Lists c.items c.order) (hcap : 0 < c.capacity)
    (hlen : (c.order.length : ℤ) ≤ c.capacity + 1) : c.evict.InStep := by
  cases horder : c.order with
  | nil =>
    have hroom : ¬((c.order.length : ℤ) > c.capacity) := by
      rw [horder, List.length_nil]
      push_cast
      omega
    rw [evict, if_neg hroom]
    exact ⟨h, not_lt.1 hroom⟩
  | cons oldest rest =>
    rw [evict]
    split_ifs with hfull
    · rw [horder] at h hlen ⊢
      refine ⟨h.drop, ?_⟩
      rw [List.length_cons] at hlen
      push_cast at hlen
      exact le_of_add_le_add_right hlen
    · exact ⟨h, not_lt.1 hfull⟩

/-- **A call keeps the map and the order in step.** -/
theorem inStep_set (h : c.InStep) (hcap : 0 < c.capacity) (v : ℕ) (x : V) (now : Time) :
    (c.set v x now).InStep := by
  have hlists := h.lists.dropExpired c.ttl now
  have hlen := (dropExpired_spec c.ttl now c.items c.order).1.length_le
  have hle := h.length_le
  refine inStep_evict (hlists.insert v ⟨x, now⟩) hcap ?_
  dsimp only
  split_ifs
  · omega
  · rw [List.length_append, List.length_singleton]
    push_cast
    omega

/-- **The map and the order are in step after every run.** -/
theorem inStep_run (capacity ttl : ℤ) (hcap : 0 < capacity) (calls : List (SetCall V)) :
    (run capacity ttl calls).InStep := by
  induction calls using List.reverseRecOn with
  | nil => exact ⟨⟨List.nodup_nil, by simp [run, new]⟩, by simpa [run, new] using hcap.le⟩
  | append_singleton calls s ih =>
    rw [run_append_singleton]
    exact inStep_set ih (by rwa [capacity_run]) s.vxid s.value s.now

end InStep

/-! ## The place of a key -/

/-- At most `n` keys stand behind the key, if it is there. -/
def Behind (c : VxidCache V) (k n : ℕ) : Prop :=
  ∀ after, k :: after <:+ c.order → after.length ≤ n

section Places

variable {c : VxidCache V} {k v : ℕ} {x y : V} {t now : Time} {n : ℕ}

/-- An eviction takes entries from the front. -/
lemma evict_order_suffix (c : VxidCache V) : c.evict.order <:+ c.order := by
  cases horder : c.order with
  | nil =>
    unfold evict
    split_ifs
    · simp [horder]
    · simp [horder]
  | cons oldest rest =>
    rcases evict_cons c horder with heq | heq
    · rw [heq, horder]
    · rw [heq]
      exact List.suffix_cons oldest rest

/-- A call takes keys away from the front of the order, and puts its own behind it if it is not
there. -/
lemma order_set (c : VxidCache V) (v : ℕ) (y : V) (now : Time) :
    (c.set v y now).order <:+ c.order ∨ (c.set v y now).order <:+ c.order ++ [v] := by
  have hdrop := (dropExpired_spec c.ttl now c.items c.order).1
  have hset : (c.set v y now).order <:+
      if ((dropExpired c.ttl now c.items c.order).1 v).isSome then
        (dropExpired c.ttl now c.items c.order).2
      else (dropExpired c.ttl now c.items c.order).2 ++ [v] := evict_order_suffix _
  split_ifs at hset
  · exact .inl (hset.trans hdrop)
  · obtain ⟨before, hbefore⟩ := hdrop
    refine .inr (hset.trans ⟨before, ?_⟩)
    rw [← List.append_assoc, hbefore]

/-- A call puts at most one key behind. -/
lemma Behind.set (h : c.Behind k n) (v : ℕ) (y : V) (now : Time) :
    (c.set v y now).Behind k (n + 1) := by
  intro after hafter
  rcases order_set c v y now with hset | hset
  · exact (h after (hafter.trans hset)).trans n.le_succ
  · rcases List.eq_nil_or_concat after with rfl | ⟨after, w, rfl⟩
    · exact Nat.zero_le _
    · -- the last key is that of the call, and the others were behind before it
      obtain ⟨before, hbefore⟩ := hafter.trans hset
      have hlast : (before ++ k :: after) ++ [w] = c.order ++ [v] := by
        rw [← hbefore]
        simp
      have hle := h after ⟨before, (List.append_inj' hlast rfl).1⟩
      rw [List.length_concat]
      omega

/-- A key that is set again keeps its place, or is the last one. -/
lemma Behind.set_self (h : c.Behind k n) (hin : c.InStep) (hn : (n : ℤ) < c.capacity) (y : V)
    (now : Time) : (c.set k y now).Holds k y now n := by
  have hlists := hin.lists.dropExpired c.ttl now
  have hdrop := (dropExpired_spec c.ttl now c.items c.order).1
  refine Holds.evict ⟨Function.update_self .., ?_⟩ hn
  dsimp only
  split_ifs with hk
  · obtain ⟨before, after, horder⟩ := List.append_of_mem ((hlists.mem_iff k).2 hk)
    have hnodup := hlists.nodup
    rw [horder] at hnodup
    refine ⟨before, after, horder, fun hbefore => ?_, h after ?_⟩
    · exact (List.nodup_append.1 hnodup).2.2 k hbefore k List.mem_cons_self rfl
    · exact List.IsSuffix.trans ⟨before, horder.symm⟩ hdrop
  · exact ⟨_, [], rfl, mt (hlists.mem_iff k).1 hk, Nat.zero_le n⟩

/-- What is held has its place in the order. -/
lemma Holds.behind (h : c.Holds k x t n) (hnodup : c.order.Nodup) : c.Behind k n := by
  obtain ⟨-, before, after, horder, -, hafter⟩ := h
  -- a key stands in the order once
  have honce : ∀ {l r : List ℕ}, l ++ k :: r = c.order → k ∉ r := by
    intro l r heq
    rw [← heq] at hnodup
    exact (List.nodup_cons.1 (List.nodup_append.1 hnodup).2.1).1
  rintro after' ⟨before', horder'⟩
  obtain ⟨-, rfl⟩ := Words.append_cons_inj_right (honce horder') (honce horder.symm)
    (horder'.trans horder)
  exact hafter

end Places

/-! ## Answers -/

/-- The latest call for a key. -/
def latest (k : ℕ) (calls : List (SetCall V)) : Option (SetCall V) :=
  Table.last (fun s k => if s.vxid = k then some s else none) calls k

/-- The number of calls for other keys since the first one for the key. -/
def othersSince (k : ℕ) (calls : List (SetCall V)) : ℕ :=
  ((calls.dropWhile (·.vxid ≠ k)).filter (·.vxid ≠ k)).length

section Answers

variable {capacity ttl : ℤ} {k : ℕ} {calls : List (SetCall V)}

/-- The latest value is that of the last call for the key. -/
lemma latest_append_singleton (k : ℕ) (calls : List (SetCall V)) (s : SetCall V) :
    latest k (calls ++ [s]) = if s.vxid = k then some s else latest k calls := by
  rw [latest, Table.last_append_singleton]
  split_ifs
  · rfl
  · rfl

/-- What is found under a key comes from the latest call for it. -/
lemma latest_of_items {e : CacheEntry V} (h : (run capacity ttl calls).items k = some e) :
    latest k calls = some ⟨k, e.value, e.insertedAt⟩ := by
  induction calls using List.reverseRecOn with
  | nil => cases h
  | append_singleton calls s ih =>
    rw [run_append_singleton] at h
    rw [latest_append_singleton]
    rcases items_set h with ⟨rfl, rfl⟩ | ⟨hne, hitems⟩
    · rw [if_pos rfl]
    · rw [if_neg (Ne.symm hne), ih hitems]

/-- A key that was never set is absent. -/
lemma absent_run (h : ∀ s ∈ calls, s.vxid ≠ k) : (run capacity ttl calls).Absent k := by
  induction calls using List.reverseRecOn with
  | nil => exact absent_new capacity ttl
  | append_singleton calls s ih =>
    rw [run_append_singleton]
    refine Absent.set_of_ne (ih fun r hr => h r (List.mem_append_left _ hr)) ?_ _ _
    exact (h s (by simp)).symm

/-- What is known of a key after some calls: at most `n` keys stand behind it, and it is there if
its latest call is not older than `ttl`. -/
structure Kept (capacity ttl : ℤ) (k : ℕ) (calls : List (SetCall V)) (n : ℕ) : Prop where
  behind : (run capacity ttl calls).Behind k n
  holds : ∀ now, (∀ s ∈ calls, s.now ≤ now) → ∀ s, latest k calls = some s → now - s.now ≤ ttl →
    (run capacity ttl calls).Holds k s.value s.now n

/-- A key that the last call has put into its place. -/
lemma kept_of_holds (hcap : 0 < capacity) {n : ℕ} {s : SetCall V} (hs : s.vxid = k)
    (h : (run capacity ttl (calls ++ [s])).Holds k s.value s.now n) :
    Kept capacity ttl k (calls ++ [s]) n := by
  refine ⟨h.behind (inStep_run capacity ttl hcap _).lists.nodup, fun now _ r hr _ => ?_⟩
  rw [latest_append_singleton, if_pos hs] at hr
  obtain rfl := Option.some.inj hr
  exact h

/-- The first call for a key. -/
lemma kept_first (hcap : 0 < capacity) (h : ∀ s ∈ calls, s.vxid ≠ k) {first : SetCall V}
    (hfirst : first.vxid = k) : Kept capacity ttl k (calls ++ [first]) 0 := by
  subst hfirst
  apply kept_of_holds hcap rfl
  rw [run_append_singleton]
  exact (absent_run h).set_self (by rwa [capacity_run]) first.value first.now

/-- A further call for the key. -/
lemma Kept.again {n : ℕ} (h : Kept capacity ttl k calls n) (hn : (n : ℤ) < capacity)
    {s : SetCall V} (hs : s.vxid = k) : Kept capacity ttl k (calls ++ [s]) n := by
  have hcap : 0 < capacity := by omega
  subst hs
  apply kept_of_holds hcap rfl
  rw [run_append_singleton]
  exact h.behind.set_self (inStep_run capacity ttl hcap calls) (by rwa [capacity_run]) s.value s.now

/-- A call for another key. -/
lemma Kept.other {n : ℕ} (h : Kept capacity ttl k calls n) (hn : ((n + 1 : ℕ) : ℤ) < capacity)
    {s : SetCall V} (hs : s.vxid ≠ k) : Kept capacity ttl k (calls ++ [s]) (n + 1) := by
  constructor
  · rw [run_append_singleton]
    exact h.behind.set s.vxid s.value s.now
  · intro now hnow r hr hfresh
    rw [latest_append_singleton, if_neg hs] at hr
    have hlate : s.now ≤ now := hnow s (by simp)
    have hholds := h.holds now (fun r hr => hnow r (List.mem_append_left _ hr)) r hr hfresh
    rw [run_append_singleton]
    refine hholds.set_of_ne (Ne.symm hs) ?_ (by rwa [capacity_run]) s.value
    -- the key has not expired at the call, since it has not at the end
    rw [ttl_run]
    exact (sub_le_sub_right hlate r.now).trans hfresh

/-- **Which entries are still there.** After the first call for a key, and fewer calls for other
keys than the capacity, there are at most as many keys behind it as there were such calls; and it is
there if its latest call is not older than `ttl`.

**Proof sketch.** Induction on the calls after the first one. A call for the key itself leaves it in
its place, or puts it behind all others if it had been dropped. A call for another key puts that one
behind it, and does not drop the key if the latest call for it has not expired by the end. -/
theorem kept_run (ttl : ℤ) (hcap : 0 < capacity) {before : List (SetCall V)}
    (hbefore : ∀ s ∈ before, s.vxid ≠ k) {first : SetCall V} (hfirst : first.vxid = k)
    (after : List (SetCall V)) (hn : ((after.filter (·.vxid ≠ k)).length : ℤ) < capacity) :
    Kept capacity ttl k (before ++ first :: after) (after.filter (·.vxid ≠ k)).length := by
  induction after using List.reverseRecOn with
  | nil => exact kept_first hcap hbefore hfirst
  | append_singleton after s ih =>
    have hcalls : before ++ first :: (after ++ [s]) = (before ++ first :: after) ++ [s] := by simp
    rw [hcalls]
    rw [List.filter_append] at hn ⊢
    by_cases hs : s.vxid = k
    · have hcount : ([s].filter (·.vxid ≠ k)) = [] := by simp [hs]
      rw [hcount, List.append_nil] at hn ⊢
      exact (ih hn).again hn hs
    · have hcount : ([s].filter (·.vxid ≠ k)) = [s] := by simp [hs]
      rw [hcount, List.length_append, List.length_singleton] at hn ⊢
      exact (ih (by omega)).other hn hs

/-- The calls of a key that has been set: those before its first one, and those after it. -/
lemma exists_first {s : SetCall V} (h : latest k calls = some s) :
    ∃ before first after, calls = before ++ first :: after ∧ (∀ r ∈ before, r.vxid ≠ k) ∧
      first.vxid = k ∧ othersSince k calls = (after.filter (·.vxid ≠ k)).length := by
  obtain ⟨r, hr, hsome⟩ := List.exists_of_findSome?_eq_some h
  have hrk : r.vxid = k := by
    by_contra hne
    exact absurd hsome (by simp [hne])
  have hhead := List.head?_dropWhile_not (fun r : SetCall V => decide (r.vxid ≠ k)) calls
  cases hdrop : calls.dropWhile (·.vxid ≠ k) with
  | nil =>
    have hall := List.dropWhile_eq_nil_iff.1 hdrop r (List.mem_reverse.1 hr)
    simp [hrk] at hall
  | cons first after =>
    rw [hdrop] at hhead
    have hfirst : first.vxid = k := by simpa using hhead
    refine ⟨calls.takeWhile (·.vxid ≠ k), first, after, ?_, fun r hr => ?_, hfirst, ?_⟩
    · rw [← hdrop, List.takeWhile_append_dropWhile]
    · simpa using List.mem_takeWhile_imp hr
    · rw [othersSince, hdrop, List.filter_cons_of_neg (by simp [hfirst])]

/-- No call is later than a time that is not before the last one. -/
lemma now_le_of_mem {now : Time} (hclock : calls.Pairwise fun r s => r.now ≤ s.now)
    (hlast : ∀ s ∈ calls.getLast?, s.now ≤ now) : ∀ r ∈ calls, r.now ≤ now := by
  rcases List.eq_nil_or_concat calls with rfl | ⟨before, s, rfl⟩
  · simp
  · have hs : s.now ≤ now := hlast s (by simp)
    intro r hr
    rw [List.concat_eq_append] at hclock hr
    rcases List.mem_append.1 hr with hr | hr
    · exact ((List.pairwise_append.1 hclock).2.2 r hr s (List.mem_singleton_self s)).trans hs
    · rwa [List.mem_singleton.1 hr]

end Answers

/-- What `get` may return for a key after a run. -/
structure Exact (capacity ttl : ℤ) (calls : List (SetCall V)) (k : ℕ) (now : Time) : Prop where
  /-- It is the value of the latest call. -/
  value : ∀ x, (run capacity ttl calls).get k now = some x →
    ∃ s, latest k calls = some s ∧ s.value = x
  /-- There is nothing if that call is older than `ttl`. -/
  expired : ∀ s, latest k calls = some s → ttl < now - s.now →
    (run capacity ttl calls).get k now = none
  /-- There is something if it is not, and the key has not been crowded out. -/
  found : ∀ s, latest k calls = some s → now - s.now ≤ ttl →
    (othersSince k calls : ℤ) < capacity → (run capacity ttl calls).get k now = some s.value

/-- **The cache is a bounded map with exact answers.** -/
theorem exact_answers (capacity ttl : ℤ) (hcap : 1 ≤ capacity) (calls : List (SetCall V))
    (hclock : calls.Pairwise fun r s => r.now ≤ s.now) :
    ((run capacity ttl calls).order.Nodup ∧
      (∀ k, k ∈ (run capacity ttl calls).order ↔ ((run capacity ttl calls).items k).isSome = true) ∧
      ((run capacity ttl calls).order.length : ℤ) ≤ capacity) ∧
    ∀ k now, (∀ s ∈ calls.getLast?, s.now ≤ now) → Exact capacity ttl calls k now := by
  have hinStep := inStep_run capacity ttl hcap calls
  refine ⟨⟨hinStep.lists.nodup, hinStep.lists.mem_iff, ?_⟩, fun k now hlast => ⟨?_, ?_, ?_⟩⟩
  · simpa using hinStep.length_le
  · intro x hget
    obtain ⟨t, hitems, -⟩ := items_of_get hget
    exact ⟨_, latest_of_items hitems, rfl⟩
  · intro s hs hold
    by_contra hget
    obtain ⟨x, hx⟩ := Option.ne_none_iff_exists'.1 hget
    obtain ⟨t, hitems, hfresh⟩ := items_of_get hx
    rw [latest_of_items hitems, Option.some.injEq] at hs
    rw [ttl_run] at hfresh
    subst hs
    exact absurd hfresh (not_le.2 hold)
  · intro s hs hfresh hcount
    obtain ⟨before, first, after, rfl, hbefore, hfirst, hothers⟩ := exists_first hs
    rw [hothers] at hcount
    have hkept := kept_run ttl hcap hbefore hfirst after hcount
    exact (hkept.holds now (now_le_of_mem hclock hlast) s hs hfresh).get (by rwa [ttl_run])

/-- The theorem at a key that is set again after another one, in a cache for two. -/
theorem exact_answers_two :
    (run 2 10 [⟨1, 7, 0⟩, ⟨2, 8, 3⟩, ⟨1, 9, 6⟩] : VxidCache ℕ).get 1 15 = some 9 :=
  ((exact_answers 2 10 (by decide) [⟨1, 7, 0⟩, ⟨2, 8, 3⟩, ⟨1, 9, 6⟩] (by simp)).2 1 15
    (by simp)).found ⟨1, 9, 6⟩ rfl (by decide) (by decide)

end CloudVinyl.VxidCache
