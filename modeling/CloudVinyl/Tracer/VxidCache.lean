import Mathlib.Logic.Function.Basic
import Mathlib.Tactic.Linarith
import CloudVinyl.Tracer.Vsl

set_option relaxedAutoImplicit false
set_option autoImplicit false

/-!
# The bounded, expiring cache of the linker

`vxidCache` of `internal/tracer/spans/linker.go`: a map from transaction numbers to values,
with the keys in order of insertion. Setting a key first drops expired entries from the front
of the order and afterwards evicts the oldest entry if the capacity is exceeded.

## Main definitions

* `VxidCache`, `VxidCache.set`, `VxidCache.get` — the cache and its two operations.
* `VxidCache.Roomy` — the cache holds at most `n` entries, all inserted at times of a set.
* `VxidCache.Absent`, `VxidCache.Holds` — a key was never set, or `n` other keys after it at most.

## Main results

* `VxidCache.get_set_of_roomy`, `VxidCache.Roomy.set` — while there is room and no entry can
  expire, the cache is an ordinary map.
* `VxidCache.Holds.set_of_ne`, `VxidCache.Holds.get` — an entry stays until it expires or until
  as many other keys as the capacity have been set.
-/

namespace CloudVinyl

open Vsl

/-- A cached value with the wall-clock time it was inserted at. -/
structure CacheEntry (V : Type) where
  value : V
  insertedAt : Time

/-- A map with the keys in order of insertion, bounded by `capacity`, its entries valid for
`ttl`. -/
structure VxidCache (V : Type) where
  capacity : ℤ
  ttl : ℤ
  items : ℕ → Option (CacheEntry V)
  order : List ℕ

namespace VxidCache

variable {V : Type}

/-- The empty cache. -/
def new (capacity ttl : ℤ) : VxidCache V := ⟨capacity, ttl, fun _ => none, []⟩

/-- Drop entries from the front of the order up to the first one that has not expired. -/
def dropExpired (ttl : ℤ) (now : Time) :
    (ℕ → Option (CacheEntry V)) → List ℕ → (ℕ → Option (CacheEntry V)) × List ℕ
  | items, [] => (items, [])
  | items, oldest :: rest =>
    if (items oldest).any fun e => decide (now - e.insertedAt ≤ ttl) then
      (items, oldest :: rest)
    else dropExpired ttl now (Function.update items oldest none) rest

/-- Evict the oldest entry if there are more than `capacity`. -/
def evict (c : VxidCache V) : VxidCache V :=
  if (c.order.length : ℤ) > c.capacity then
    match c.order with
    | oldest :: rest => { c with items := Function.update c.items oldest none, order := rest }
    | [] => c
  else c

/-- Record `value` under `vxid` at time `now`. -/
def set (c : VxidCache V) (vxid : ℕ) (value : V) (now : Time) : VxidCache V :=
  let (items, order) := dropExpired c.ttl now c.items c.order
  let order := if (items vxid).isSome then order else order ++ [vxid]
  evict { c with items := Function.update items vxid (some ⟨value, now⟩), order := order }

/-- The value under `vxid`, unless it has expired at time `now`. -/
def get (c : VxidCache V) (vxid : ℕ) (now : Time) : Option V :=
  match c.items vxid with
  | some e => if now - e.insertedAt > c.ttl then none else some e.value
  | none => none

/-- An eviction keeps the time to live. -/
@[simp] lemma ttl_evict (c : VxidCache V) : c.evict.ttl = c.ttl := by
  unfold evict; split_ifs <;> [split <;> rfl; rfl]

/-- An eviction keeps the capacity. -/
@[simp] lemma capacity_evict (c : VxidCache V) : c.evict.capacity = c.capacity := by
  unfold evict; split_ifs <;> [split <;> rfl; rfl]

/-- `set` keeps the time to live. -/
@[simp] lemma ttl_set (c : VxidCache V) (vxid : ℕ) (value : V) (now : Time) :
    (c.set vxid value now).ttl = c.ttl := by
  simp [set]

/-- `set` keeps the capacity. -/
@[simp] lemma capacity_set (c : VxidCache V) (vxid : ℕ) (value : V) (now : Time) :
    (c.set vxid value now).capacity = c.capacity := by
  simp [set]

/-! ## Room for every entry -/

/-- The cache has at most `n` keys in order, each with an entry, and every entry was inserted at
a time in `S`. -/
structure Roomy (c : VxidCache V) (S : Set Time) (n : ℕ) : Prop where
  /-- There are at most `n` keys. -/
  length_le : c.order.length ≤ n
  /-- Every key in order has an entry. -/
  present : ∀ k ∈ c.order, (c.items k).isSome
  /-- Every entry was inserted at a time in `S`. -/
  times : ∀ k e, c.items k = some e → e.insertedAt ∈ S

/-- A new cache has room. -/
lemma roomy_new (capacity ttl : ℤ) (S : Set Time) :
    (new capacity ttl : VxidCache V).Roomy S 0 :=
  ⟨le_rfl, by simp [new], by simp [new]⟩

/-- No entry is dropped while the reading is within `ttl` of every insertion. -/
lemma dropExpired_of_roomy {c : VxidCache V} {S : Set Time} {n : ℕ} (h : c.Roomy S n)
    {now : Time} (hS : ∀ t ∈ S, now - t ≤ c.ttl) :
    dropExpired c.ttl now c.items c.order = (c.items, c.order) := by
  cases ho : c.order with
  | nil => rfl
  | cons oldest rest =>
    obtain ⟨e, he⟩ := Option.isSome_iff_exists.1 (h.present oldest (by simp [ho]))
    rw [dropExpired, if_pos]
    simpa [he] using hS _ (h.times oldest e he)

/-- With room for one more key, setting a key updates the map and evicts nothing.

**Proof sketch.** Nothing has expired (`dropExpired_of_roomy`). The order grows by at most one
key and stays within the capacity, so nothing is evicted. -/
lemma items_set_of_roomy {c : VxidCache V} {S : Set Time} {n : ℕ} (h : c.Roomy S n)
    {now : Time} (hS : ∀ t ∈ S, now - t ≤ c.ttl) (hn : (n : ℤ) < c.capacity) (vxid : ℕ)
    (value : V) :
    (c.set vxid value now).items = Function.update c.items vxid (some ⟨value, now⟩) ∧
    (c.set vxid value now).order =
      if (c.items vxid).isSome then c.order else c.order ++ [vxid] := by
  have hle := h.length_le
  have hlen : ¬ (((if (c.items vxid).isSome then c.order else c.order ++ [vxid]).length : ℕ) : ℤ)
      > c.capacity := by
    split_ifs
    · omega
    · rw [List.length_append, List.length_singleton]
      omega
  simp only [set, dropExpired_of_roomy h hS, evict, if_neg hlen, and_self]

/-- Setting a key takes up the room of at most one more key. -/
lemma Roomy.set {c : VxidCache V} {S : Set Time} {n : ℕ} (h : c.Roomy S n) {now : Time}
    (hS : ∀ t ∈ S, now - t ≤ c.ttl) (hnow : now ∈ S) (hn : (n : ℤ) < c.capacity) (vxid : ℕ)
    (value : V) : (c.set vxid value now).Roomy S (n + 1) := by
  obtain ⟨hi, ho⟩ := items_set_of_roomy h hS hn vxid value
  have hle := h.length_le
  refine ⟨?_, fun k hk => ?_, fun k e he => ?_⟩
  · rw [ho]
    split_ifs
    · omega
    · rw [List.length_append, List.length_singleton]
      omega
  · rw [hi, Function.update_apply]
    split_ifs with hkv
    · rfl
    · rw [ho] at hk
      split_ifs at hk
      · exact h.present k hk
      · rcases List.mem_append.1 hk with hk | hk
        · exact h.present k hk
        · exact absurd (List.mem_singleton.1 hk) hkv
  · rw [hi, Function.update_apply] at he
    split_ifs at he
    · obtain rfl := Option.some.inj he
      exact hnow
    · exact h.times k e he

/-- With room, a key reads back as it was last set. -/
lemma get_set_of_roomy {c : VxidCache V} {S : Set Time} {n : ℕ} (h : c.Roomy S n) {now : Time}
    (hS : ∀ t ∈ S, now - t ≤ c.ttl) (hn : (n : ℤ) < c.capacity) (vxid : ℕ) (value : V) (k : ℕ)
    {now' : Time} (hnow' : now' - now ≤ c.ttl) :
    (c.set vxid value now).get k now' = if k = vxid then some value else c.get k now' := by
  obtain ⟨hi, -⟩ := items_set_of_roomy h hS hn vxid value
  unfold get
  rw [hi, ttl_set, Function.update_apply]
  by_cases hk : k = vxid
  · rw [if_pos hk, if_pos hk]
    exact if_neg (by simpa using hnow')
  · rw [if_neg hk, if_neg hk]

/-! ## An entry that stays

An entry moves to the front of the order as older ones leave, and leaves itself when it has expired
or when as many keys as the capacity have been set after it. -/

/-- The key was never set. -/
structure Absent (c : VxidCache V) (k : ℕ) : Prop where
  items : c.items k = none
  order : k ∉ c.order

/-- The key was set to `x` at time `t`, and at most `n` other keys after it. -/
structure Holds (c : VxidCache V) (k : ℕ) (x : V) (t : Time) (n : ℕ) : Prop where
  items : c.items k = some ⟨x, t⟩
  order : ∃ before after, c.order = before ++ k :: after ∧ k ∉ before ∧ after.length ≤ n

section Stays

variable {c : VxidCache V} {k v : ℕ} {x y : V} {t now : Time} {n : ℕ}

/-- A new cache holds nothing. -/
lemma absent_new (capacity ttl : ℤ) : (new capacity ttl : VxidCache V).Absent k :=
  ⟨rfl, by simp [new]⟩

/-- What is held behind few entries is so behind more. -/
lemma Holds.mono {m : ℕ} (h : c.Holds k x t n) (hnm : n ≤ m) : c.Holds k x t m := by
  obtain ⟨hitems, before, after, horder, hbefore, hafter⟩ := h
  exact ⟨hitems, before, after, horder, hbefore, hafter.trans hnm⟩

/-- What has expired is dropped from the front, and nothing else changes. -/
lemma dropExpired_spec (ttl : ℤ) (now : Time) (items : ℕ → Option (CacheEntry V))
    (order : List ℕ) :
    (dropExpired ttl now items order).2 <:+ order ∧
      ∀ k, k ∉ order → (dropExpired ttl now items order).1 k = items k := by
  induction order generalizing items with
  | nil => exact ⟨List.suffix_rfl, fun _ _ => rfl⟩
  | cons oldest rest ih =>
    rw [dropExpired]
    split_ifs
    · exact ⟨List.suffix_rfl, fun _ _ => rfl⟩
    · obtain ⟨hsuffix, hkeep⟩ := ih (Function.update items oldest none)
      refine ⟨hsuffix.trans (List.suffix_cons oldest rest), fun k hk => ?_⟩
      obtain ⟨hne, hrest⟩ := not_or.1 (mt List.mem_cons.2 hk)
      rw [hkeep k hrest, Function.update_of_ne hne]

/-- An entry that has not expired is not dropped, nor are those behind it. -/
lemma dropExpired_of_fresh {ttl : ℤ} {e : CacheEntry V} (hfresh : now - e.insertedAt ≤ ttl)
    {items : ℕ → Option (CacheEntry V)} (hk : items k = some e) {before : List ℕ}
    (hbefore : k ∉ before) (after : List ℕ) :
    ∃ before', (dropExpired ttl now items (before ++ k :: after)).2 = before' ++ k :: after ∧
      k ∉ before' ∧ (dropExpired ttl now items (before ++ k :: after)).1 k = some e := by
  induction before generalizing items with
  | nil =>
    have hstop : (items k).any (fun e => decide (now - e.insertedAt ≤ ttl)) = true := by
      simpa [hk] using hfresh
    rw [List.nil_append, dropExpired, if_pos hstop]
    exact ⟨[], rfl, List.not_mem_nil, hk⟩
  | cons oldest before ih =>
    obtain ⟨hne, hrest⟩ := not_or.1 (mt List.mem_cons.2 hbefore)
    rw [List.cons_append, dropExpired]
    split_ifs
    · exact ⟨oldest :: before, rfl, hbefore, hk⟩
    · exact ih (by rwa [Function.update_of_ne hne]) hrest

/-- Only the oldest key is evicted. -/
lemma evict_cons (c : VxidCache V) {oldest : ℕ} {rest : List ℕ} (h : c.order = oldest :: rest) :
    c.evict = c ∨
      c.evict = { c with items := Function.update c.items oldest none, order := rest } := by
  unfold evict
  split_ifs
  · rw [h]
    exact .inr rfl
  · exact .inl rfl

/-- An eviction adds nothing. -/
lemma Absent.evict (h : c.Absent k) : c.evict.Absent k := by
  cases horder : c.order with
  | nil =>
    have hsame : c.evict = c := by
      unfold VxidCache.evict
      split_ifs
      · rw [horder]
      · rfl
    rwa [hsame]
  | cons oldest rest =>
    have hmem := h.order
    rw [horder] at hmem
    obtain ⟨hne, hrest⟩ := not_or.1 (mt List.mem_cons.2 hmem)
    rcases evict_cons c horder with heq | heq
    · rwa [heq]
    · rw [heq]
      exact ⟨(Function.update_of_ne hne _ _).trans h.items, hrest⟩

/-- An entry with fewer than `capacity` keys behind it is not evicted. -/
lemma Holds.evict (h : c.Holds k x t n) (hn : (n : ℤ) < c.capacity) : c.evict.Holds k x t n := by
  obtain ⟨hitems, before, after, horder, hbefore, hafter⟩ := h
  cases before with
  | nil =>
    -- the entry is the oldest one, and the cache is not too long
    have hlen : ¬ ((c.order.length : ℤ) > c.capacity) := by
      rw [horder, List.nil_append, List.length_cons]
      push_cast
      omega
    rw [VxidCache.evict, if_neg hlen]
    exact ⟨hitems, [], after, horder, hbefore, hafter⟩
  | cons oldest before =>
    obtain ⟨hne, hrest⟩ := not_or.1 (mt List.mem_cons.2 hbefore)
    rcases evict_cons c horder with heq | heq
    · rw [heq]
      exact ⟨hitems, oldest :: before, after, horder, hbefore, hafter⟩
    · rw [heq]
      exact ⟨(Function.update_of_ne hne _ _).trans hitems, before, after, rfl, hrest, hafter⟩

/-- `set` adds its own key only. -/
lemma Absent.set_of_ne (h : c.Absent k) (hne : k ≠ v) (y : V) (now : Time) :
    (c.set v y now).Absent k := by
  obtain ⟨hsuffix, hkeep⟩ := dropExpired_spec c.ttl now c.items c.order
  have horder : k ∉ (dropExpired c.ttl now c.items c.order).2 := fun hk =>
    h.order (hsuffix.subset hk)
  refine Absent.evict ⟨?_, ?_⟩
  · exact (Function.update_of_ne hne _ _).trans ((hkeep k h.order).trans h.items)
  · dsimp only
    split_ifs
    · exact horder
    · simpa [hne] using horder

/-- A key that is set for the first time is the last one in order. -/
lemma Absent.set_self (h : c.Absent k) (hcap : 0 < c.capacity) (x : V) (now : Time) :
    (c.set k x now).Holds k x now 0 := by
  obtain ⟨hsuffix, hkeep⟩ := dropExpired_spec c.ttl now c.items c.order
  have hnone : ((dropExpired c.ttl now c.items c.order).1 k).isSome = false := by
    rw [hkeep k h.order, h.items]
    rfl
  have horder : k ∉ (dropExpired c.ttl now c.items c.order).2 := fun hk =>
    h.order (hsuffix.subset hk)
  refine Holds.evict ⟨Function.update_self .., _, [], ?_, horder, le_rfl⟩ hcap
  dsimp only
  rw [hnone]
  rfl

/-- Setting another key leaves the entry, with one more key behind it. -/
lemma Holds.set_of_ne (h : c.Holds k x t n) (hne : k ≠ v) (hfresh : now - t ≤ c.ttl)
    (hn : ((n + 1 : ℕ) : ℤ) < c.capacity) (y : V) : (c.set v y now).Holds k x t (n + 1) := by
  obtain ⟨hitems, before, after, horder, hbefore, hafter⟩ := h
  obtain ⟨before', hrest, hbefore', hkeep⟩ :=
    dropExpired_of_fresh hfresh hitems hbefore after
  rw [← horder] at hrest hkeep
  refine Holds.evict ⟨?_, before', ?_⟩ hn
  · exact (Function.update_of_ne hne _ _).trans hkeep
  · dsimp only
    split_ifs
    · exact ⟨after, hrest, hbefore', by omega⟩
    · refine ⟨after ++ [v], by rw [hrest]; simp, hbefore', ?_⟩
      rw [List.length_append, List.length_singleton]
      omega

/-- Setting the key again at the same time leaves its place in the order. -/
lemma Holds.set_self (h : c.Holds k x t n) (httl : 0 ≤ c.ttl) (hn : (n : ℤ) < c.capacity)
    (y : V) : (c.set k y t).Holds k y t n := by
  obtain ⟨hitems, before, after, horder, hbefore, hafter⟩ := h
  have hfresh : t - (⟨x, t⟩ : CacheEntry V).insertedAt ≤ c.ttl := by simpa using httl
  obtain ⟨before', hrest, hbefore', hkeep⟩ := dropExpired_of_fresh hfresh hitems hbefore after
  rw [← horder] at hrest hkeep
  refine Holds.evict ⟨Function.update_self .., before', after, ?_, hbefore', hafter⟩ hn
  simp only [hkeep, Option.isSome_some, if_true, hrest]

/-- The entry is read back until it expires. -/
lemma Holds.get (h : c.Holds k x t n) (hfresh : now - t ≤ c.ttl) : c.get k now = some x := by
  unfold VxidCache.get
  rw [h.items]
  exact if_neg (by simpa using hfresh)

end Stays

/-! ## Where an entry comes from -/

section Origin

variable {c : VxidCache V} {k : ℕ} {e : CacheEntry V}

/-- What is left after expired entries are dropped was there before. -/
lemma items_dropExpired {ttl : ℤ} {now : Time} {items : ℕ → Option (CacheEntry V)}
    {order : List ℕ} (h : (dropExpired ttl now items order).1 k = some e) : items k = some e := by
  induction order generalizing items with
  | nil => exact h
  | cons oldest rest ih =>
    rw [dropExpired] at h
    split_ifs at h
    · exact h
    · have hkept := ih h
      rw [Function.update_apply] at hkept
      split_ifs at hkept
      exact hkept

/-- What is left after an eviction was there before. -/
lemma items_evict (h : c.evict.items k = some e) : c.items k = some e := by
  unfold evict at h
  split_ifs at h
  · split at h
    · have hkept : Function.update c.items _ none k = some e := h
      rw [Function.update_apply] at hkept
      split_ifs at hkept
      exact hkept
    · exact h
  · exact h

/-- An entry was there before, or it is the one just set. -/
lemma items_set {v : ℕ} {y : V} {now : Time} (h : (c.set v y now).items k = some e) :
    (k = v ∧ e = ⟨y, now⟩) ∨ (k ≠ v ∧ c.items k = some e) := by
  have hupd := items_evict h
  dsimp only at hupd
  rw [Function.update_apply] at hupd
  split_ifs at hupd with hk
  · exact .inl ⟨hk, (Option.some.inj hupd).symm⟩
  · exact .inr ⟨hk, items_dropExpired hupd⟩

/-- What is found is an entry that has not expired. -/
lemma items_of_get {now : Time} {x : V} (h : c.get k now = some x) :
    ∃ t, c.items k = some ⟨x, t⟩ ∧ now - t ≤ c.ttl := by
  unfold get at h
  split at h
  · rename_i e he
    split_ifs at h with hfresh
    refine ⟨e.insertedAt, ?_, not_lt.1 hfresh⟩
    rw [he, ← Option.some.inj h]
  · simp at h

end Origin

end VxidCache

end CloudVinyl
