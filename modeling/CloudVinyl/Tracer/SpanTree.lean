import CloudVinyl.Tracer.Parser
import CloudVinyl.Tracer.Traceparent

set_option relaxedAutoImplicit false
set_option autoImplicit false

/-!
# Spans and the tree of groups

How the spans of a request lie in its tree. The builder walks over the tree twice: once over all
groups, for the trace id that the VCL may have minted, and once over those that get a span. Here the
second walk is done again with the place of every span on record, and what the spans have to do with
their places is read off.

A place in the tree is a path. Depth-first preorder is the order in which a group comes before the
groups below it, and these one after the other.

## Main definitions

* `Vsl.Tx.preorder` — the groups of a tree with their paths, in depth-first preorder.
* `Vsl.Tx.retries` — the number of consecutive backend requests directly above a group.
* `Spans.Place` — a group with its path and its span.
* `Spans.Mirrors` — places that mirror the tree.

## Main results

* `Spans.placeChildren_span` — the walk with places builds the spans that the builder builds.
* `Spans.placeChildren_placed` — what a span has to do with its place.
* `Spans.buildWithOutcome_mirrors` — the spans of a request mirror its tree.
-/

namespace CloudVinyl.Vsl

/-! ## Groups and their paths -/

mutual

/-- The groups of a tree with their paths, in depth-first preorder. -/
def Tx.preorder : Tx → List (Path × Tx)
  | .mk type vxid records children =>
    ([], .mk type vxid records children) :: forestPreorder 0 children

/-- The same for the groups below one, from its child with index `i` on. -/
def forestPreorder : ℕ → List Tx → List (Path × Tx)
  | _, [] => []
  | i, t :: ts => t.preorder.map (fun (p, node) => (i :: p, node)) ++ forestPreorder (i + 1) ts

end

/-- The types of the groups above the one at a path, from the top. -/
def Tx.typesAbove : Path → Tx → List Text
  | [], _ => []
  | i :: p, .mk type _ _ children => type :: ((children[i]?).map (Tx.typesAbove p)).getD []

/-- The number of consecutive backend requests directly above the group at a path. -/
def Tx.retries (tx : Tx) (p : Path) : ℕ :=
  ((tx.typesAbove p).reverse.takeWhile (· = ("BeReq" : Text))).length

section Children

variable {tx child : Tx} {i : ℕ}

/-- A path leads through a child. -/
lemma Tx.get?_cons (h : tx.children[i]? = some child) (p : Path) :
    tx.get? (i :: p) = child.get? p := by
  obtain ⟨type, vxid, records, children⟩ := tx
  change (children[i]?).bind (Tx.get? p) = _
  rw [show children[i]? = some child from h, Option.bind_some]

/-- A path that leads somewhere leads through a child. -/
lemma Tx.exists_of_get?_cons {node : Tx} {p : Path} (h : tx.get? (i :: p) = some node) :
    ∃ child, tx.children[i]? = some child ∧ child.get? p = some node := by
  obtain ⟨type, vxid, records, children⟩ := tx
  exact Option.bind_eq_some_iff.1 h

/-- The types on the way, from the group itself on. -/
lemma Tx.typesAbove_cons (h : tx.children[i]? = some child) (p : Path) :
    tx.typesAbove (i :: p) = tx.type :: child.typesAbove p := by
  obtain ⟨type, vxid, records, children⟩ := tx
  change type :: ((children[i]?).map (Tx.typesAbove p)).getD [] = _
  rw [show children[i]? = some child from h]
  rfl

/-- The first of the groups that are left is the child with the next index. -/
lemma getElem?_of_drop {ts rest : List Tx} (h : ts.drop i = child :: rest) :
    ts[i]? = some child ∧ ts.drop (i + 1) = rest := by
  constructor
  · rw [← List.head?_drop, h]
    rfl
  · rw [← List.tail_drop, h]
    rfl

end Children

/-! ## Preorder -/

mutual

/-- The groups in preorder are those of the tree. -/
theorem Tx.mem_preorder : (tx : Tx) → (p : Path) → (node : Tx) →
    ((p, node) ∈ tx.preorder ↔ tx.get? p = some node)
  | .mk type vxid records children, p, node => by
    rw [Tx.preorder, List.mem_cons, mem_forestPreorder 0 children p node]
    cases p with
    | nil =>
      constructor
      · rintro (h | ⟨j, q, h, -⟩)
        · exact congrArg some (Prod.mk.inj h).2.symm
        · cases h
      · intro h
        exact .inl (congrArg ([], ·) (Option.some.inj h).symm)
    | cons i q =>
      change _ ↔ (children[i]?).bind (Tx.get? q) = some node
      constructor
      · rintro (h | ⟨j, q', h, hget⟩)
        · cases (Prod.mk.inj h).1
        · obtain ⟨rfl, rfl⟩ := List.cons.inj h
          rwa [Nat.zero_add]
      · intro h
        exact .inr ⟨i, q, by rw [Nat.zero_add], h⟩

/-- The groups of a list, by their paths. -/
theorem mem_forestPreorder : (i : ℕ) → (ts : List Tx) → (p : Path) → (node : Tx) →
    ((p, node) ∈ forestPreorder i ts ↔
      ∃ j q, p = (i + j) :: q ∧ (ts[j]?).bind (Tx.get? q) = some node)
  | i, [], p, node => by simp [forestPreorder]
  | i, t :: ts, p, node => by
    rw [forestPreorder, List.mem_append, mem_forestPreorder (i + 1) ts p node, List.mem_map]
    constructor
    · rintro (⟨⟨q, node'⟩, hmem, heq⟩ | ⟨j, q, rfl, hget⟩)
      · obtain ⟨rfl, rfl⟩ := Prod.mk.inj heq
        exact ⟨0, q, rfl, (Tx.mem_preorder t q node').1 hmem⟩
      · exact ⟨j + 1, q, by rw [Nat.add_right_comm, Nat.add_assoc], hget⟩
    · rintro ⟨j, q, rfl, hget⟩
      cases j with
      | zero => exact .inl ⟨(q, node), (Tx.mem_preorder t q node).2 hget, rfl⟩
      | succ j => exact .inr ⟨j, q, by rw [Nat.add_right_comm, Nat.add_assoc], hget⟩

end

mutual

/-- No place comes twice in preorder. -/
theorem Tx.preorder_nodup : (tx : Tx) → (tx.preorder.map Prod.fst).Nodup
  | .mk type vxid records children => by
    rw [Tx.preorder, List.map_cons, List.nodup_cons]
    refine ⟨fun hmem => ?_, forestPreorder_nodup 0 children⟩
    obtain ⟨⟨p, node⟩, hmem, rfl⟩ := List.mem_map.1 hmem
    obtain ⟨j, q, h, -⟩ := (mem_forestPreorder 0 children _ node).1 hmem
    cases h

/-- Each path of a list is listed once. -/
theorem forestPreorder_nodup : (i : ℕ) → (ts : List Tx) →
    ((forestPreorder i ts).map Prod.fst).Nodup
  | _, [] => List.nodup_nil
  | i, t :: ts => by
    have hown : (t.preorder.map fun e : Path × Tx => (i :: e.1, e.2)).map Prod.fst =
        (t.preorder.map Prod.fst).map (i :: ·) := by
      rw [List.map_map, List.map_map]
      rfl
    rw [forestPreorder, List.map_append, hown]
    refine List.Nodup.append ((Tx.preorder_nodup t).map List.cons_injective)
      (forestPreorder_nodup (i + 1) ts) fun p hp hp' => ?_
    -- the paths of later children start with a larger index
    obtain ⟨q, -, rfl⟩ := List.mem_map.1 hp
    obtain ⟨⟨p', node⟩, hmem, heq⟩ := List.mem_map.1 hp'
    obtain ⟨j, q', rfl, -⟩ := (mem_forestPreorder (i + 1) ts p' node).1 hmem
    have := (List.cons.inj heq).1
    omega

end

end CloudVinyl.Vsl

namespace CloudVinyl.Spans

open Vsl

/-! ## The depth of retries -/

/-- The depth of retries below a group. -/
def depthBelow (type : Text) (depth : ℕ) : ℕ := if type = "BeReq" then depth + 1 else 0

/-- The depth of retries below groups of these types, one under the other. -/
def depthAfter (depth : ℕ) (types : List Text) : ℕ :=
  types.foldl (fun d type => depthBelow type d) depth

/-- The depth is counted from the top down. -/
lemma depthAfter_cons (depth : ℕ) (type : Text) (types : List Text) :
    depthAfter depth (type :: types) = depthAfter (depthBelow type depth) types := rfl

/-- The depth counts the backend requests at the end. -/
lemma depthAfter_eq (types : List Text) :
    depthAfter 0 types = (types.reverse.takeWhile (· = ("BeReq" : Text))).length := by
  induction types using List.reverseRecOn with
  | nil => rfl
  | append_singleton types type ih =>
    rw [depthAfter, List.foldl_append, List.reverse_append]
    change depthBelow type (depthAfter 0 types) = _
    rw [ih, List.reverse_singleton, List.singleton_append, List.takeWhile_cons]
    rw [depthBelow]
    by_cases h : type = "BeReq"
    · rw [if_pos h, if_pos (decide_eq_true h), List.length_cons]
    · rw [if_neg h, if_neg (by simpa using h), List.length_nil]

/-! ## The span of a group -/

section Own

variable (epoch : Text → Option Time) (parentID : SpanID) (traceID : TraceID) (ids : IDSource)

/-- The span of a group below a request, if it has one. -/
def ownSpan (node : Tx) (parentSpanID : SpanID) (retryDepth n : ℕ) : Option (Span × ℕ) :=
  if node.type = "BeReq" then fetchSpan epoch parentID traceID ids node parentSpanID retryDepth n
  else if node.type = txTypeRequest then esiSpan epoch traceID ids node parentSpanID n
  else none

/-- A request is no backend request. -/
lemma type_ne_fetch {node : Tx} (h : node.type = txTypeRequest) : node.type ≠ "BeReq" := by
  rw [h]
  decide

section Types

variable (node : Tx) (parentSpanID : SpanID) (retryDepth n : ℕ)

/-- A backend request has a span of a fetch. -/
lemma ownSpan_fetch (h : node.type = "BeReq") :
    ownSpan epoch parentID traceID ids node parentSpanID retryDepth n =
      fetchSpan epoch parentID traceID ids node parentSpanID retryDepth n := if_pos h

/-- A request below another one has a span if it is a fragment. -/
lemma ownSpan_request (h : node.type = txTypeRequest) :
    ownSpan epoch parentID traceID ids node parentSpanID retryDepth n =
      esiSpan epoch traceID ids node parentSpanID n := by
  rw [ownSpan, if_neg (type_ne_fetch h), if_pos h]

/-- A group of another type has no span. -/
lemma ownSpan_other (hfetch : node.type ≠ "BeReq") (hrequest : node.type ≠ txTypeRequest) :
    ownSpan epoch parentID traceID ids node parentSpanID retryDepth n = none := by
  rw [ownSpan, if_neg hfetch, if_neg hrequest]

end Types

/-- The builder gives a group its own span and goes on below it. -/
lemma buildChild_eq (tx : Tx) (parentSpanID : SpanID) (retryDepth n : ℕ) :
    buildChild epoch parentID traceID ids tx parentSpanID retryDepth n =
      match ownSpan epoch parentID traceID ids tx parentSpanID retryDepth n with
      | some (sp, m) =>
        (sp :: (buildChildren epoch parentID traceID ids tx.children sp.spanID
          (depthBelow tx.type retryDepth) m).1,
        (buildChildren epoch parentID traceID ids tx.children sp.spanID
          (depthBelow tx.type retryDepth) m).2)
      | none => ([], n) := by
  obtain ⟨type, vxid, records, children⟩ := tx
  change _ = match ownSpan epoch parentID traceID ids (.mk type vxid records children) parentSpanID
      retryDepth n with
    | some ((sp : Span), m) =>
      (sp :: (buildChildren epoch parentID traceID ids children sp.spanID
        (depthBelow type retryDepth) m).1,
      (buildChildren epoch parentID traceID ids children sp.spanID
        (depthBelow type retryDepth) m).2)
    | none => ([], n)
  rw [buildChild]
  let tx : Tx := .mk type vxid records children
  by_cases hfetch : type = "BeReq"
  · rewrite [ownSpan_fetch epoch parentID traceID ids tx parentSpanID retryDepth n hfetch,
      depthBelow, if_pos hfetch, if_pos hfetch]
    rfl
  · by_cases hrequest : type = txTypeRequest
    · rewrite [ownSpan_request epoch parentID traceID ids tx parentSpanID retryDepth n hrequest,
        depthBelow, if_neg hfetch, if_neg hfetch, if_pos hrequest]
      rfl
    · rw [ownSpan_other epoch parentID traceID ids tx parentSpanID retryDepth n hfetch hrequest,
        if_neg hfetch, if_neg hrequest]

end Own

/-! ## The walk with places -/

/-- A group with its path and its span. -/
structure Place where
  path : Path
  node : Tx
  span : Span

/-- A place in a tree that is itself a child. -/
def Place.under (i : ℕ) (e : Place) : Place := { e with path := i :: e.path }

section Walk

variable (epoch : Text → Option Time) (parentID : SpanID) (traceID : TraceID) (ids : IDSource)

mutual

/-- `buildChild` with the places of the spans, as paths below the group. -/
def placeChild : Tx → SpanID → ℕ → ℕ → List Place × ℕ
  | .mk type vxid records children, parentSpanID, retryDepth, n =>
    match ownSpan epoch parentID traceID ids (.mk type vxid records children) parentSpanID
      retryDepth n with
    | some (sp, m) =>
      let below := placeChildren 0 children sp.spanID (depthBelow type retryDepth) m
      (⟨[], .mk type vxid records children, sp⟩ :: below.1, below.2)
    | none => ([], n)

/-- `buildChildren` with the places of the spans, from the child with index `i` on. -/
def placeChildren : ℕ → List Tx → SpanID → ℕ → ℕ → List Place × ℕ
  | _, [], _, _, n => ([], n)
  | i, child :: rest, parentSpanID, retryDepth, n =>
    let own := placeChild child parentSpanID retryDepth n
    let more := placeChildren (i + 1) rest parentSpanID retryDepth own.2
    (own.1.map (Place.under i) ++ more.1, more.2)

end

/-- What is placed for a group. -/
lemma placeChild_cases (tx : Tx) (parentSpanID : SpanID) (retryDepth n : ℕ) :
    (ownSpan epoch parentID traceID ids tx parentSpanID retryDepth n = none ∧
      placeChild epoch parentID traceID ids tx parentSpanID retryDepth n = ([], n)) ∨
    ∃ sp m, ownSpan epoch parentID traceID ids tx parentSpanID retryDepth n = some (sp, m) ∧
      placeChild epoch parentID traceID ids tx parentSpanID retryDepth n =
        (⟨[], tx, sp⟩ :: (placeChildren epoch parentID traceID ids 0 tx.children sp.spanID
            (depthBelow tx.type retryDepth) m).1,
          (placeChildren epoch parentID traceID ids 0 tx.children sp.spanID
            (depthBelow tx.type retryDepth) m).2) := by
  obtain ⟨type, vxid, records, children⟩ := tx
  rw [placeChild]
  cases h : ownSpan epoch parentID traceID ids (.mk type vxid records children) parentSpanID
    retryDepth n with
  | none => exact .inl ⟨rfl, rfl⟩
  | some own =>
    obtain ⟨sp, m⟩ := own
    exact .inr ⟨sp, m, rfl, rfl⟩

mutual

/-- The walk with places builds the same spans and draws as many ids. -/
theorem placeChild_span : (tx : Tx) → (parentSpanID : SpanID) → (retryDepth n : ℕ) →
    (placeChild epoch parentID traceID ids tx parentSpanID retryDepth n).1.map (·.span) =
        (buildChild epoch parentID traceID ids tx parentSpanID retryDepth n).1 ∧
      (placeChild epoch parentID traceID ids tx parentSpanID retryDepth n).2 =
        (buildChild epoch parentID traceID ids tx parentSpanID retryDepth n).2
  | .mk type vxid records children, parentSpanID, retryDepth, n => by
    rw [buildChild_eq]
    rcases placeChild_cases epoch parentID traceID ids (.mk type vxid records children)
      parentSpanID retryDepth n with ⟨hown, hplace⟩ | ⟨sp, m, hown, hplace⟩
    · rw [hown, hplace]
      exact ⟨rfl, rfl⟩
    · obtain ⟨hspans, hdrawn⟩ := placeChildren_span 0 children sp.spanID
        (depthBelow type retryDepth) m
      rw [hown, hplace]
      exact ⟨congrArg (sp :: ·) hspans, hdrawn⟩

/-- The same for a list of groups. -/
theorem placeChildren_span : (i : ℕ) → (txs : List Tx) → (parentSpanID : SpanID) →
    (retryDepth n : ℕ) →
    (placeChildren epoch parentID traceID ids i txs parentSpanID retryDepth n).1.map (·.span) =
        (buildChildren epoch parentID traceID ids txs parentSpanID retryDepth n).1 ∧
      (placeChildren epoch parentID traceID ids i txs parentSpanID retryDepth n).2 =
        (buildChildren epoch parentID traceID ids txs parentSpanID retryDepth n).2
  | _, [], _, _, _ => ⟨rfl, rfl⟩
  | i, child :: rest, parentSpanID, retryDepth, n => by
    obtain ⟨hspans, hdrawn⟩ := placeChild_span child parentSpanID retryDepth n
    obtain ⟨hmore, hlast⟩ := placeChildren_span (i + 1) rest parentSpanID retryDepth
      (placeChild epoch parentID traceID ids child parentSpanID retryDepth n).2
    have hunder : ((placeChild epoch parentID traceID ids child parentSpanID retryDepth n).1.map
        (Place.under i)).map (·.span) =
        (placeChild epoch parentID traceID ids child parentSpanID retryDepth n).1.map (·.span) := by
      rw [List.map_map]
      rfl
    rw [placeChildren, buildChildren]
    dsimp only
    rw [List.map_append, hunder, hspans, hmore, hlast, hdrawn]
    exact ⟨rfl, rfl⟩

end

/-! ## What a span has to do with its place -/

mutual

/-- The places of a group are groups of its tree in preorder. -/
theorem placeChild_sublist : (tx : Tx) → (parentSpanID : SpanID) → (retryDepth n : ℕ) →
    ((placeChild epoch parentID traceID ids tx parentSpanID retryDepth n).1.map
      fun e => (e.path, e.node)).Sublist tx.preorder
  | .mk type vxid records children, parentSpanID, retryDepth, n => by
    rcases placeChild_cases epoch parentID traceID ids (.mk type vxid records children)
      parentSpanID retryDepth n with ⟨-, hplace⟩ | ⟨sp, m, -, hplace⟩
    · rw [hplace]
      exact List.nil_sublist _
    · rw [hplace, Tx.preorder, List.map_cons]
      exact (placeChildren_sublist 0 children sp.spanID (depthBelow type retryDepth) m).cons_cons _

/-- The same for a list of groups. -/
theorem placeChildren_sublist : (i : ℕ) → (txs : List Tx) → (parentSpanID : SpanID) →
    (retryDepth n : ℕ) →
    ((placeChildren epoch parentID traceID ids i txs parentSpanID retryDepth n).1.map
      fun e => (e.path, e.node)).Sublist (forestPreorder i txs)
  | _, [], _, _, _ => List.nil_sublist _
  | i, child :: rest, parentSpanID, retryDepth, n => by
    have hown := placeChild_sublist child parentSpanID retryDepth n
    have hmore := placeChildren_sublist (i + 1) rest parentSpanID retryDepth
      (placeChild epoch parentID traceID ids child parentSpanID retryDepth n).2
    rw [placeChildren, forestPreorder, List.map_append, List.map_map]
    refine List.Sublist.append ?_ hmore
    have hunder := hown.map fun e : Path × Tx => (i :: e.1, e.2)
    rwa [List.map_map] at hunder

end

/-- The place of a span below a group `tx`: its node is the group there, and its span is that
node's own, hung below a span with the given id. The depth of retries is the one its place has. -/
structure Placed (tx : Tx) (retryDepth : ℕ) (parentSpanID : SpanID) (e : Place) : Prop where
  node : tx.get? e.path = some e.node
  own : ∃ n m, ownSpan epoch parentID traceID ids e.node parentSpanID
    (depthAfter retryDepth (tx.typesAbove e.path)) n = some (e.span, m)

/-- A place below a child is a place below the group. -/
lemma Placed.under {tx child : Tx} {i retryDepth : ℕ} {parentSpanID : SpanID} {e : Place}
    (hchild : tx.children[i]? = some child)
    (h : Placed epoch parentID traceID ids child (depthBelow tx.type retryDepth) parentSpanID e) :
    Placed epoch parentID traceID ids tx retryDepth parentSpanID (e.under i) := by
  refine ⟨(Tx.get?_cons hchild e.path).trans h.node, ?_⟩
  change ∃ n m, ownSpan epoch parentID traceID ids e.node parentSpanID
    (depthAfter retryDepth (tx.typesAbove (i :: e.path))) n = some (e.span, m)
  rw [Tx.typesAbove_cons hchild, depthAfter_cons]
  exact h.own

mutual

/-- A span of a group is its own or hangs below the span of the group above its node. -/
theorem placeChild_placed : (tx : Tx) → (parentSpanID : SpanID) → (retryDepth n : ℕ) →
    ∀ e ∈ (placeChild epoch parentID traceID ids tx parentSpanID retryDepth n).1,
      (e.path = [] ∧ Placed epoch parentID traceID ids tx retryDepth parentSpanID e) ∨
      (e.path ≠ [] ∧
        ∃ above ∈ (placeChild epoch parentID traceID ids tx parentSpanID retryDepth n).1,
          above.path = e.path.dropLast ∧
          Placed epoch parentID traceID ids tx retryDepth above.span.spanID e)
  | .mk type vxid records children, parentSpanID, retryDepth, n => by
    intro e he
    rcases placeChild_cases epoch parentID traceID ids (.mk type vxid records children)
      parentSpanID retryDepth n with ⟨-, hplace⟩ | ⟨sp, m, hown, hplace⟩
    · rw [hplace] at he
      simp at he
    · rw [hplace] at he ⊢
      rcases List.mem_cons.1 he with rfl | he
      · exact .inl ⟨rfl, rfl, n, m, hown⟩
      · obtain ⟨hne, hbelow⟩ := placeChildren_placed (.mk type vxid records children) retryDepth 0
          children rfl sp.spanID m e he
        refine .inr ⟨hne, ?_⟩
        rcases hbelow with ⟨htop, hplaced⟩ | ⟨above, habove, hpath, hplaced⟩
        · exact ⟨_, List.mem_cons_self, htop.symm, hplaced⟩
        · exact ⟨above, List.mem_cons_of_mem _ habove, hpath, hplaced⟩

/-- The same for the children that are left, whose own spans hang below a given one. -/
theorem placeChildren_placed (tx : Tx) (retryDepth i : ℕ) : (txs : List Tx) →
    tx.children.drop i = txs → (parentSpanID : SpanID) → (n : ℕ) →
    ∀ e ∈ (placeChildren epoch parentID traceID ids i txs parentSpanID
        (depthBelow tx.type retryDepth) n).1,
      e.path ≠ [] ∧
      ((e.path.dropLast = [] ∧ Placed epoch parentID traceID ids tx retryDepth parentSpanID e) ∨
      (∃ above ∈ (placeChildren epoch parentID traceID ids i txs parentSpanID
          (depthBelow tx.type retryDepth) n).1,
        above.path = e.path.dropLast ∧
        Placed epoch parentID traceID ids tx retryDepth above.span.spanID e))
  | [], _, _, _ => by simp [placeChildren]
  | child :: rest, hdrop, parentSpanID, n => by
    intro e he
    obtain ⟨hchild, hrest⟩ := getElem?_of_drop hdrop
    rw [placeChildren] at he ⊢
    rcases List.mem_append.1 he with he | he
    · obtain ⟨own, hown, rfl⟩ := List.mem_map.1 he
      refine ⟨List.cons_ne_nil _ _, ?_⟩
      rcases placeChild_placed child parentSpanID (depthBelow tx.type retryDepth) n own hown with
        ⟨htop, hplaced⟩ | ⟨hne, above, habove, hpath, hplaced⟩
      · refine .inl ⟨?_, hplaced.under epoch parentID traceID ids hchild⟩
        rw [Place.under, htop, List.dropLast_singleton]
      · refine .inr ⟨above.under i, List.mem_append_left _ (List.mem_map_of_mem habove), ?_,
          hplaced.under epoch parentID traceID ids hchild⟩
        rw [Place.under, Place.under, hpath, List.dropLast_cons_of_ne_nil hne]
    · obtain ⟨hne, hbelow⟩ := placeChildren_placed tx retryDepth (i + 1) rest hrest parentSpanID
        (placeChild epoch parentID traceID ids child parentSpanID (depthBelow tx.type retryDepth)
          n).2 e he
      refine ⟨hne, hbelow.imp_right ?_⟩
      rintro ⟨above, habove, hplaced⟩
      exact ⟨above, List.mem_append_right _ habove, hplaced⟩

end

/-! ## The ids that are drawn -/

/-- The span of a group has the minted id, or the next one of the source. -/
lemma ownSpan_drawn {node : Tx} {parentSpanID : SpanID} {retryDepth n m : ℕ} {sp : Span}
    (h : ownSpan epoch parentID traceID ids node parentSpanID retryDepth n = some (sp, m)) :
    (minted parentID node = none ∧ sp.spanID = ids.spanID n ∧ m = n + 1) ∨
      ∃ tid, minted parentID node = some (tid, sp.spanID) ∧ m = n := by
  by_cases hfetch : node.type = "BeReq"
  · rw [ownSpan_fetch epoch parentID traceID ids node parentSpanID retryDepth n hfetch] at h
    unfold fetchSpan at h
    split at h
    · obtain ⟨rfl, rfl⟩ := Prod.mk.inj (Option.some.inj h)
      cases hm : minted parentID node with
      | none => exact .inl ⟨rfl, rfl, rfl⟩
      | some ids => exact .inr ⟨ids.1, rfl, rfl⟩
    · cases h
  · refine .inl ⟨if_neg hfetch, ?_⟩
    by_cases hrequest : node.type = txTypeRequest
    · rw [ownSpan_request epoch parentID traceID ids node parentSpanID retryDepth n hrequest] at h
      unfold esiSpan at h
      split_ifs at h
      split at h
      · obtain ⟨rfl, rfl⟩ := Prod.mk.inj (Option.some.inj h)
        exact ⟨rfl, rfl⟩
      · cases h
    · rw [ownSpan_other epoch parentID traceID ids node parentSpanID retryDepth n hfetch
        hrequest] at h
      cases h

/-- The ids of the spans that have no minted one. -/
def drawn (places : List Place) : List SpanID :=
  (places.filter fun e => (minted parentID e.node).isNone).map (·.span.spanID)

/-- The ids that were drawn for two lists. -/
lemma drawn_append (places more : List Place) :
    drawn parentID (places ++ more) = drawn parentID places ++ drawn parentID more := by
  rw [drawn, List.filter_append, List.map_append]
  rfl

/-- The paths do not matter for the ids. -/
lemma drawn_under (i : ℕ) (places : List Place) :
    drawn parentID (places.map (Place.under i)) = drawn parentID places := by
  rw [drawn, List.filter_map, List.map_map]
  rfl

mutual

/-- The ids that are drawn for a group are the next ones of the source. -/
theorem placeChild_drawn : (tx : Tx) → (parentSpanID : SpanID) → (retryDepth n : ℕ) →
    ∃ k, (placeChild epoch parentID traceID ids tx parentSpanID retryDepth n).2 = n + k ∧
      drawn parentID (placeChild epoch parentID traceID ids tx parentSpanID retryDepth n).1 =
        (List.range' n k).map ids.spanID
  | .mk type vxid records children, parentSpanID, retryDepth, n => by
    rcases placeChild_cases epoch parentID traceID ids (.mk type vxid records children)
      parentSpanID retryDepth n with ⟨-, hplace⟩ | ⟨sp, m, hown, hplace⟩
    · rw [hplace]
      exact ⟨0, rfl, rfl⟩
    · obtain ⟨k, hlast, hdrawn⟩ := placeChildren_drawn 0 children sp.spanID
        (depthBelow type retryDepth) m
      rw [hplace, drawn, List.filter_cons]
      rcases ownSpan_drawn epoch parentID traceID ids hown with
        ⟨hminted, hid, rfl⟩ | ⟨tid, hminted, rfl⟩
      · refine ⟨k + 1, hlast.trans (by omega), ?_⟩
        rw [hminted, Option.isNone_none, if_pos rfl, List.map_cons, List.range'_succ,
          List.map_cons]
        exact congrArg₂ List.cons hid hdrawn
      · refine ⟨k, hlast, ?_⟩
        rw [hminted, if_neg (by simp)]
        exact hdrawn

/-- The same for a list of groups. -/
theorem placeChildren_drawn : (i : ℕ) → (txs : List Tx) → (parentSpanID : SpanID) →
    (retryDepth n : ℕ) →
    ∃ k, (placeChildren epoch parentID traceID ids i txs parentSpanID retryDepth n).2 = n + k ∧
      drawn parentID (placeChildren epoch parentID traceID ids i txs parentSpanID retryDepth n).1 =
        (List.range' n k).map ids.spanID
  | _, [], _, _, _ => ⟨0, rfl, rfl⟩
  | i, child :: rest, parentSpanID, retryDepth, n => by
    obtain ⟨k, hlast, hdrawn⟩ := placeChild_drawn child parentSpanID retryDepth n
    obtain ⟨l, hlast', hdrawn'⟩ := placeChildren_drawn (i + 1) rest parentSpanID retryDepth
      (placeChild epoch parentID traceID ids child parentSpanID retryDepth n).2
    refine ⟨k + l, ?_, ?_⟩
    · rw [placeChildren]
      dsimp only
      omega
    · rw [placeChildren, drawn_append, drawn_under, hdrawn, hdrawn', hlast, ← List.map_append,
        List.range'_append_1]

end

end Walk

/-! ## The ids that the VCL minted -/

/-- The ids of a backend request's own `traceparent`, when it is valid. -/
def ownTraceparent (node : Tx) : Option (TraceID × SpanID × Bool) :=
  if node.type = "BeReq" then (node.header "BereqHeader" "traceparent").bind parseTraceparent
  else none

/-- The trace and span ids of a valid `traceparent` that does not name the incoming parent of the
request `tx`. -/
def notForwarded (tx node : Tx) : Option (TraceID × SpanID) :=
  (ownTraceparent node).bind fun (tid, sid, _) =>
    if (incoming tx).map (·.2.1) = some sid then none else some (tid, sid)

/-- The trace of a request: the incoming one, else the first that a backend request names, else a
new one. -/
def adoptedTraceID (tx : Tx) (ids : IDSource) : TraceID :=
  ((incoming tx).map (·.1) <|>
    tx.preorder.findSome? fun e => (ownTraceparent e.2).map (·.1)).getD ids.traceID

/-- The minted ids of a group are those of a traceparent of its own. -/
lemma minted_eq_bind (parentID : SpanID) (node : Tx) :
    minted parentID node = (ownTraceparent node).bind fun (tid, sid, _) =>
      if sid ≠ parentID then some (tid, sid) else none := by
  unfold minted ownTraceparent
  split_ifs
  · cases (node.header "BereqHeader" "traceparent").bind parseTraceparent <;> rfl
  · rfl

/-- Ids that were read are not zero, also below a header. -/
lemma ownTraceparent_ne_zero {node : Tx} {tid : TraceID} {sid : SpanID} {sampled : Bool}
    (h : ownTraceparent node = some (tid, sid, sampled)) : tid ≠ 0 ∧ sid ≠ 0 := by
  unfold ownTraceparent at h
  split_ifs at h
  obtain ⟨v, -, hv⟩ := Option.bind_eq_some_iff.1 h
  exact parseTraceparent_ne_zero hv

/-- A minted trace id is not zero. -/
lemma minted_ne_zero {parentID : SpanID} {node : Tx} {own : TraceID × SpanID}
    (h : minted parentID node = some own) : own.1 ≠ 0 := by
  rw [minted_eq_bind] at h
  obtain ⟨⟨tid, sid, sampled⟩, hown, hif⟩ := Option.bind_eq_some_iff.1 h
  dsimp only at hif
  split_ifs at hif
  obtain rfl := Option.some.inj hif
  exact (ownTraceparent_ne_zero hown).1

/-- The builder takes no parent for the span id zero, which no `traceparent` has. -/
lemma minted_eq (tx node : Tx) :
    minted (((incoming tx).map (·.2.1)).getD 0) node = notForwarded tx node := by
  rw [minted_eq_bind, notForwarded]
  cases hown : ownTraceparent node with
  | none => rfl
  | some own =>
    obtain ⟨tid, sid, sampled⟩ := own
    have hsid := (ownTraceparent_ne_zero hown).2
    cases incoming tx with
    | none => exact if_pos hsid
    | some inc => simp [eq_comm (a := inc.2.1)]

mutual

/-- The first trace id minted in a group or below it. -/
theorem collectMinted_eq (parentID : SpanID) : (tx : Tx) →
    ((minted parentID tx).map Prod.fst <|> collectMinted parentID tx) =
      tx.preorder.findSome? fun e => (minted parentID e.2).map Prod.fst
  | .mk type vxid records children => by
    rw [Tx.preorder, List.findSome?_cons, collectMinted, collectMintedList_eq parentID 0 children]
    cases (minted parentID (.mk type vxid records children)).map Prod.fst <;> rfl

/-- The same for a list of groups. -/
theorem collectMintedList_eq (parentID : SpanID) : (i : ℕ) → (txs : List Tx) →
    collectMintedList parentID txs =
      (forestPreorder i txs).findSome? fun e => (minted parentID e.2).map Prod.fst
  | _, [] => rfl
  | i, child :: rest => by
    rw [collectMintedList, forestPreorder, List.findSome?_append, List.findSome?_map,
      collectMinted_eq parentID child, collectMintedList_eq parentID (i + 1) rest]
    change _ = (child.preorder.findSome? fun e => (minted parentID e.2).map Prod.fst).or _
    cases child.preorder.findSome? fun e => (minted parentID e.2).map Prod.fst <;> rfl

end

/-- The builder adopts the trace of the request. -/
lemma adoptedTraceID_eq {tx : Tx} (htype : tx.type = txTypeRequest) (ids : IDSource) :
    ((incoming tx).map (·.1) <|>
      collectMinted (((incoming tx).map (·.2.1)).getD 0) tx).getD ids.traceID =
        adoptedTraceID tx ids := by
  unfold adoptedTraceID
  cases hinc : incoming tx with
  | some inc => rfl
  | none =>
    have hown : minted 0 tx = none := if_neg (type_ne_fetch htype)
    have hcollect := collectMinted_eq 0 tx
    rw [hown] at hcollect
    change (collectMinted 0 tx).getD _ = _
    have hminted : ∀ e : Path × Tx,
        (minted 0 e.2).map Prod.fst = (ownTraceparent e.2).map (·.1) := by
      intro e
      rw [minted_eq_bind]
      cases hown : ownTraceparent e.2 with
      | none => rfl
      | some own =>
        obtain ⟨tid, sid, sampled⟩ := own
        rw [Option.bind_some]
        dsimp only
        rw [if_pos (ownTraceparent_ne_zero hown).2]
        rfl
    rw [show collectMinted 0 tx = _ from hcollect]
    simp only [hminted]
    rfl

/-! ## Fetch spans -/

section Fetch

variable (epoch : Text → Option Time)

/-- A span from the sending of a backend request to the end of its response. -/
def FetchTimes (node : Tx) (sp : Span) : Prop :=
  node.timestamp epoch "Bereq" = some sp.startTime ∧
    (node.timestamp epoch "BerespBody" <|> node.timestamp epoch "Beresp") = some sp.endTime

/-- A span from the start of a request to its end. -/
def RequestTimes (node : Tx) (sp : Span) : Prop :=
  node.timestamp epoch "Start" = some sp.startTime ∧ respEnd epoch node = some sp.endTime

/-- The attribute a fetch span has for the depth of its retry. -/
def retryAttrs (retryDepth : ℕ) : List KeyValue :=
  if retryDepth = 0 then [] else [⟨.retry, .int retryDepth⟩]

/-- The attribute a fetch span has when its own `traceparent` names another trace. -/
def mismatchAttrs (traceID : TraceID) (own : Option (TraceID × SpanID)) : List KeyValue :=
  if own.any fun ids => ids.1 ≠ traceID then [⟨.mintedTraceMismatch, .bool true⟩] else []

/-- The attribute of a retry, as the builder sets it. -/
lemma retryAttrs_eq (retryDepth : ℕ) :
    (if retryDepth > 0 then [⟨.retry, .int retryDepth⟩] else []) = retryAttrs retryDepth := by
  cases retryDepth with
  | zero => rfl
  | succ retryDepth =>
    rw [retryAttrs, if_pos (Nat.succ_pos retryDepth), if_neg (Nat.succ_ne_zero retryDepth)]

/-- The attribute of a trace id that does not agree, as the builder sets it. -/
lemma mismatchAttrs_eq (parentID : SpanID) (traceID : TraceID) (node : Tx) :
    (match minted parentID node with
      | some (tid, _) =>
        if tid ≠ 0 ∧ tid ≠ traceID then [⟨.mintedTraceMismatch, .bool true⟩] else []
      | none => []) = mismatchAttrs traceID (minted parentID node) := by
  cases hminted : minted parentID node with
  | none => rfl
  | some own =>
    have hne : own.1 ≠ 0 := minted_ne_zero hminted
    rw [mismatchAttrs]
    dsimp only [Option.any_some]
    simp only [decide_eq_true_eq, ne_eq, hne, not_false_eq_true, true_and]

/-- The span of a fetch. -/
lemma fetchSpan_eq_some {parentID : SpanID} {traceID : TraceID} {ids : IDSource} {node : Tx}
    {parentSpanID : SpanID} {retryDepth n m : ℕ} {sp : Span}
    (h : fetchSpan epoch parentID traceID ids node parentSpanID retryDepth n = some (sp, m)) :
    FetchTimes epoch node sp ∧ sp.name = .fetch ∧ sp.traceID = traceID ∧
      sp.parentID = parentSpanID ∧ sp.attrs = fetchAttrs node ++ retryAttrs retryDepth ++
        mismatchAttrs traceID (minted parentID node) := by
  unfold fetchSpan at h
  split at h
  · next fs fe hstart hstop =>
    obtain ⟨rfl, -⟩ := Prod.mk.inj (Option.some.inj h)
    exact ⟨⟨hstart, hstop⟩, rfl, rfl, rfl, congrArg₂ (fetchAttrs node ++ · ++ ·)
      (retryAttrs_eq retryDepth) (mismatchAttrs_eq parentID traceID node)⟩
  · cases h

/-- The attributes of a fetch span for retries and mismatches. -/
lemma fetchAttrs_filter (node : Tx) (traceID : TraceID) (retryDepth : ℕ)
    (own : Option (TraceID × SpanID)) :
    (fetchAttrs node ++ retryAttrs retryDepth ++ mismatchAttrs traceID own).filter
        (·.key = .retry) = retryAttrs retryDepth ∧
      (fetchAttrs node ++ retryAttrs retryDepth ++ mismatchAttrs traceID own).filter
        (·.key = .mintedTraceMismatch) = mismatchAttrs traceID own := by
  have hown : ∀ key : Key, key ∉ [Key.backend, Key.statusCode, Key.bgfetch] →
      (fetchAttrs node).filter (·.key = key) = [] := by
    intro key hkey
    refine List.filter_eq_nil_iff.2 fun kv hkv heq => hkey ?_
    rw [← of_decide_eq_true heq]
    exact fetchAttrs_key node kv hkv
  rw [List.filter_append, List.filter_append, List.filter_append, List.filter_append,
    hown _ (by decide), hown _ (by decide), retryAttrs, mismatchAttrs]
  constructor <;> split_ifs <;> simp

end Fetch

/-! ## The spans mirror the tree -/

/-- A request that an ESI include made. -/
def IsFragment (node : Tx) : Prop :=
  node.type = txTypeRequest ∧ ((node.first "Begin").getD []).contains "esi" = true

section Places

variable (epoch : Text → Option Time)

/-- The span of a backend request, with the times, ids and attributes its place asks for. -/
structure MirrorsFetch (tx : Tx) (ids : IDSource) (e : Place) : Prop where
  times : FetchTimes epoch e.node e.span
  name : e.span.name = .fetch
  spanID : ∀ own ∈ notForwarded tx e.node, e.span.spanID = own.2
  mismatch : e.span.attrs.filter (·.key = .mintedTraceMismatch) =
    mismatchAttrs (adoptedTraceID tx ids) (notForwarded tx e.node)
  retry : e.span.attrs.filter (·.key = .retry) = retryAttrs (tx.retries e.path)

/-- The span of a request that an ESI include made. -/
structure MirrorsFragment (e : Place) : Prop where
  times : RequestTimes epoch e.node e.span
  name : e.span.name = .request

/-- Groups of the tree of a request with their spans, as the tree asks for. -/
structure Mirrors (tx : Tx) (ids : IDSource) (places : List Place) : Prop where
  /-- The places are groups of the tree, in depth-first preorder. -/
  preorder : (places.map fun e => (e.path, e.node)).Sublist tx.preorder
  distinct : (places.map (·.path)).Nodup
  root : ∃ top, places.head? = some top ∧ top.path = [] ∧ top.node = tx
  /-- Below the root they are backend requests and ESI fragments. -/
  kind : ∀ e ∈ places, e.path ≠ [] →
    (e.node.type = "BeReq" ∧ MirrorsFetch epoch tx ids e) ∨
      (IsFragment e.node ∧ MirrorsFragment epoch e)
  /-- The group above one with a span has a span, and that is the parent. -/
  parent : ∀ e ∈ places, e.path ≠ [] →
    ∃ above ∈ places, above.path = e.path.dropLast ∧ e.span.parentID = above.span.spanID
  oneTrace : ∀ e ∈ places, e.span.traceID = adoptedTraceID tx ids
  /-- The other span ids are those of the source, in order. -/
  fresh : ∃ k, (places.filter fun e => (notForwarded tx e.node).isNone).map (·.span.spanID) =
    (List.range k).map ids.spanID

end Places

section Mirrors

variable (epoch : Text → Option Time)

/-- What a group's own span says about it. -/
lemma ownSpan_kind {parentID : SpanID} {traceID : TraceID} {ids : IDSource} {node : Tx}
    {parentSpanID : SpanID} {retryDepth n m : ℕ} {sp : Span}
    (h : ownSpan epoch parentID traceID ids node parentSpanID retryDepth n = some (sp, m)) :
    sp.traceID = traceID ∧ sp.parentID = parentSpanID ∧
      ((node.type = "BeReq" ∧ FetchTimes epoch node sp ∧ sp.name = .fetch ∧
          sp.attrs.filter (·.key = .retry) = retryAttrs retryDepth ∧
          sp.attrs.filter (·.key = .mintedTraceMismatch) =
            mismatchAttrs traceID (minted parentID node)) ∨
        (IsFragment node ∧ RequestTimes epoch node sp ∧ sp.name = .request)) := by
  by_cases hfetch : node.type = "BeReq"
  · rw [ownSpan_fetch epoch parentID traceID ids node parentSpanID retryDepth n hfetch] at h
    obtain ⟨htimes, hname, htrace, hparent, hattrs⟩ := fetchSpan_eq_some epoch h
    rw [hattrs]
    exact ⟨htrace, hparent, .inl ⟨hfetch, htimes, hname,
      fetchAttrs_filter node traceID retryDepth (minted parentID node)⟩⟩
  · by_cases hrequest : node.type = txTypeRequest
    · rw [ownSpan_request epoch parentID traceID ids node parentSpanID retryDepth n hrequest] at h
      unfold esiSpan at h
      split_ifs at h with hesi
      split at h
      · next cs ce hstart hstop =>
        obtain ⟨rfl, -⟩ := Prod.mk.inj (Option.some.inj h)
        exact ⟨rfl, rfl, .inr ⟨⟨hrequest, hesi⟩, ⟨hstart, hstop⟩, rfl⟩⟩
      · cases h
    · rw [ownSpan_other epoch parentID traceID ids node parentSpanID retryDepth n hfetch
        hrequest] at h
      cases h

/-- What is built when there are spans. -/
lemma buildWithOutcome_ne_nil {tx : Tx} {ids : IDSource}
    (h : (buildWithOutcome epoch tx ids).1 ≠ []) :
    tx.type = txTypeRequest ∧ ∃ start stop,
      let parentID := ((incoming tx).map (·.2.1)).getD 0
      let req := requestSpan tx ids parentID (adoptedTraceID tx ids) start stop
      (buildWithOutcome epoch tx ids).1 =
        req :: (buildChildren epoch parentID (adoptedTraceID tx ids) ids tx.children req.spanID
          0 1).1 := by
  unfold buildWithOutcome at h ⊢
  by_cases htype : tx.type = txTypeRequest
  · rw [if_neg (not_not.2 htype)] at h ⊢
    refine ⟨htype, ?_⟩
    split at h
    · next start stop _ _ =>
      split_ifs at h ⊢
      · exact absurd rfl h
      · dsimp only
        rw [adoptedTraceID_eq htype]
        exact ⟨start, stop, rfl⟩
    · exact absurd rfl h
  · rw [if_pos htype] at h
    exact absurd rfl h

section Root

variable {tx : Tx} {ids : IDSource}

/-- A span that is placed below a request is as its place asks for. -/
lemma Placed.kind {parentSpanID : SpanID} {e : Place}
    (h : Placed epoch (((incoming tx).map (·.2.1)).getD 0) (adoptedTraceID tx ids) ids tx 0
      parentSpanID e) :
    e.span.traceID = adoptedTraceID tx ids ∧ e.span.parentID = parentSpanID ∧
      ((e.node.type = "BeReq" ∧ MirrorsFetch epoch tx ids e) ∨
        (IsFragment e.node ∧ MirrorsFragment epoch e)) := by
  obtain ⟨n, m, hown⟩ := h.own
  obtain ⟨htrace, hparent, hkind⟩ := ownSpan_kind epoch hown
  have hdrawn := ownSpan_drawn epoch _ _ ids hown
  rw [minted_eq] at hkind hdrawn
  refine ⟨htrace, hparent, hkind.imp ?_ fun ⟨hesi, htimes, hname⟩ => ⟨hesi, htimes, hname⟩⟩
  rintro ⟨hfetch, htimes, hname, hretry, hmismatch⟩
  refine ⟨hfetch, htimes, hname, fun own hmem => ?_, hmismatch, ?_⟩
  · rcases hdrawn with ⟨hnone, -⟩ | ⟨tid, hsome, -⟩
    · rw [hnone] at hmem
      cases hmem
    · rw [Option.mem_def, hsome] at hmem
      rw [← Option.some.inj hmem]
  · rw [hretry, depthAfter_eq]
    rfl

/-- The places of a request's spans. -/
def places (tx : Tx) (ids : IDSource) (req : Span) : List Place :=
  ⟨[], tx, req⟩ :: (placeChildren epoch (((incoming tx).map (·.2.1)).getD 0)
    (adoptedTraceID tx ids) ids 0 tx.children req.spanID (depthBelow tx.type 0) 1).1

/-- A span below the request hangs below that of the group above its node. -/
lemma mem_places {req : Span} {e : Place} (he : e ∈ places epoch tx ids req)
    (hne : e ≠ ⟨[], tx, req⟩) :
    e.path ≠ [] ∧ ∃ above ∈ places epoch tx ids req, above.path = e.path.dropLast ∧
      Placed epoch (((incoming tx).map (·.2.1)).getD 0) (adoptedTraceID tx ids) ids tx 0
        above.span.spanID e := by
  rcases List.mem_cons.1 he with he | he
  · exact absurd he hne
  · obtain ⟨hpath, hbelow⟩ := placeChildren_placed epoch _ _ ids tx 0 0 tx.children rfl _ _ e he
    refine ⟨hpath, ?_⟩
    rcases hbelow with ⟨htop, hplaced⟩ | ⟨above, habove, hdrop, hplaced⟩
    · exact ⟨_, List.mem_cons_self, htop.symm, hplaced⟩
    · exact ⟨above, List.mem_cons_of_mem _ habove, hdrop, hplaced⟩

/-- The spans that are placed from the root on mirror the tree. -/
theorem places_mirrors (htype : tx.type = txTypeRequest) {req : Span}
    (htrace : req.traceID = adoptedTraceID tx ids) (hid : req.spanID = ids.spanID 0) :
    Mirrors epoch tx ids (places epoch tx ids req) := by
  have hsublist : ((places epoch tx ids req).map fun e => (e.path, e.node)).Sublist
      tx.preorder := by
    obtain ⟨type, vxid, records, children⟩ := tx
    rw [Tx.preorder]
    exact (placeChildren_sublist epoch _ _ ids 0 children _ _ _).cons_cons _
  have hbelow : ∀ e ∈ places epoch tx ids req, e.path ≠ [] → e ≠ ⟨[], tx, req⟩ := by
    rintro e - hne rfl
    exact hne rfl
  refine ⟨hsublist, ?_, ⟨_, rfl, rfl, rfl⟩, ?_, ?_, ?_, ?_⟩
  · have hpaths := hsublist.map Prod.fst
    rw [List.map_map] at hpaths
    exact hpaths.nodup (Tx.preorder_nodup tx)
  · intro e he hne
    obtain ⟨-, above, -, -, hplaced⟩ := mem_places epoch he (hbelow e he hne)
    exact hplaced.kind.2.2
  · intro e he hne
    obtain ⟨-, above, habove, hdrop, hplaced⟩ := mem_places epoch he (hbelow e he hne)
    exact ⟨above, habove, hdrop, hplaced.kind.2.1⟩
  · intro e he
    by_cases htop : e = ⟨[], tx, req⟩
    · rw [htop]
      exact htrace
    · obtain ⟨-, above, -, -, hplaced⟩ := mem_places epoch he htop
      exact hplaced.kind.1
  · obtain ⟨k, -, hdrawn⟩ := placeChildren_drawn epoch (((incoming tx).map (·.2.1)).getD 0)
      (adoptedTraceID tx ids) ids 0 tx.children req.spanID (depthBelow tx.type 0) 1
    have hroot : notForwarded tx tx = none := by
      rw [notForwarded, ownTraceparent, if_neg (type_ne_fetch htype)]
      rfl
    refine ⟨k + 1, ?_⟩
    simp only [drawn, minted_eq] at hdrawn
    rw [places, List.filter_cons, hroot, Option.isNone_none, if_pos rfl, List.map_cons,
      List.range_eq_range', List.range'_succ, List.map_cons]
    exact congrArg₂ List.cons hid hdrawn

/-- The spans that are built are those of the places. -/
lemma places_span (h : (buildWithOutcome epoch tx ids).1 ≠ []) :
    ∃ req, (places epoch tx ids req).map (·.span) = (buildWithOutcome epoch tx ids).1 ∧
      Mirrors epoch tx ids (places epoch tx ids req) := by
  obtain ⟨htype, start, stop, hbuilt⟩ := buildWithOutcome_ne_nil epoch h
  have hdepth : depthBelow tx.type 0 = 0 := by
    rw [depthBelow, htype]
    rfl
  refine ⟨requestSpan tx ids (((incoming tx).map (·.2.1)).getD 0) (adoptedTraceID tx ids) start
    stop, ?_, places_mirrors epoch htype rfl rfl⟩
  rw [hbuilt, places, hdepth, List.map_cons]
  exact congrArg₂ List.cons rfl (placeChildren_span epoch _ _ ids 0 tx.children _ 0 1).1

end Root

/-- **The spans of a request mirror its tree.** They stand one for one, in depth-first preorder, for
the request and for backend requests and ESI fragments below it whose parents all have spans as
well. They share the trace of the request, each hangs below the span of the group above its own, and
a fetch span has the ids and attributes that its `traceparent` and its place ask for.

**Proof sketch.** The builder is walked with places (`placeChildren_span`). By induction on the tree
the span of each place is its node's own, with the depth of retries that the types above it give and
with the id of the span above it as parent (`placeChildren_placed`), and ids are drawn in order
(`placeChildren_drawn`). The walk for the minted trace is a search in preorder
(`collectMinted_eq`). -/
theorem buildWithOutcome_mirrors {tx : Tx} {ids : IDSource}
    (h : (buildWithOutcome epoch tx ids).1 ≠ []) :
    ∃ l : List Place, l.map (·.span) = (buildWithOutcome epoch tx ids).1 ∧
      Mirrors epoch tx ids l := by
  obtain ⟨req, hspans, hmirrors⟩ := places_span epoch h
  exact ⟨places epoch tx ids req, hspans, hmirrors⟩

/-- A request whose fetch was retried, the first attempt with an id from the VCL. -/
def retriedFetch : Tx :=
  .mk "Request" 2 [⟨"Timestamp", "Start: 1.0 0.0 0.0"⟩, ⟨"Timestamp", "Resp: 5.0 4.0 1.0"⟩]
    [.mk "BeReq" 3 [⟨"Timestamp", "Bereq: 2.0 1.0 1.0"⟩, ⟨"BereqHeader",
        "traceparent: 00-0af7651916cd43dd8448eb211c80319c-b7ad6b7169203331-01"⟩,
        ⟨"Timestamp", "Beresp: 3.0 2.0 1.0"⟩]
      [.mk "BeReq" 4 [⟨"Timestamp", "Bereq: 3.0 1.0 1.0"⟩, ⟨"Timestamp", "Beresp: 4.0 2.0 1.0"⟩]
        []]]

/-- A request with a retried fetch. -/
theorem buildWithOutcome_mirrors_retriedFetch :
    (buildWithOutcome (fun _ => some 0) retriedFetch ⟨1, fun n => n + 1⟩).1 ≠ [] ∧
      ∃ l : List Place, l.map (·.span) =
          (buildWithOutcome (fun _ => some 0) retriedFetch ⟨1, fun n => n + 1⟩).1 ∧
        Mirrors (fun _ => some 0) retriedFetch ⟨1, fun n => n + 1⟩ l := by
  have hbuilt : (buildWithOutcome (fun _ => some 0) retriedFetch ⟨1, fun n => n + 1⟩).1 ≠ [] := by
    decide +kernel
  exact ⟨hbuilt, buildWithOutcome_mirrors (fun _ => some 0) hbuilt⟩

end Mirrors

end CloudVinyl.Spans
