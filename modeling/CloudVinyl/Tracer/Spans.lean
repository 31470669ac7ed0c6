import Mathlib.Data.BitVec
import CloudVinyl.Tracer.Vsl

set_option relaxedAutoImplicit false
set_option autoImplicit false

/-!
# Spans of one transaction group

The span builder of `internal/tracer/spans/spans.go`: one span for the top request of a group,
one for each backend fetch and one for each ESI subrequest below it, parented along the tree.

The id source answers a sequence of calls. `Spans.IDSource` holds the answers it gives during
the building of one group: the trace id (asked for at most once) and the span ids in order.
`mintedSpanIDs` and `mintedTraceIDs` of the source are keyed by the group they were found in,
so they are the function `Spans.minted` of that group here.

## Main definitions

* `Spans.Span`, `Spans.Link`, `Spans.Outcome` — what the builder returns.
* `Spans.parseTraceparent` — the W3C header.
* `Spans.buildChildren`, `Spans.buildWithOutcome` — the builder.

## Main results

* `Spans.buildWithOutcome_unmarked` — the builder leaves the marks of the linker to the linker.
* `Spans.buildWithOutcome_nil` — a request group that builds nothing reports why.
* `Spans.buildWithOutcome_oneTrace` — the spans of a group are in one trace.
-/

namespace CloudVinyl.Spans

open Vsl

/-! ## Spans -/

/-- A trace id: sixteen bytes. -/
abbrev TraceID := BitVec 128

/-- A span id: eight bytes. -/
abbrev SpanID := BitVec 64

/-- The keys of the attributes the tracer attaches. -/
inductive Key where
  | requestMethod | urlPath | statusCode | handling | synthetic | pipe | respBytes | restarts
  | retry | mintedTraceMismatch | esi | backend | bgfetch
  | link | restartContinuation | coalesced | coalescedUnlinked
  deriving DecidableEq, Repr

/-- The value of an attribute. -/
inductive Value where
  | string (s : Text)
  | int (n : ℤ)
  | bool (b : Bool)
  deriving DecidableEq, Repr

/-- An attribute. -/
structure KeyValue where
  key : Key
  value : Value
  deriving DecidableEq, Repr

/-- A soft reference from one span to another. -/
structure Link where
  traceID : TraceID
  spanID : SpanID
  attrs : List KeyValue
  deriving DecidableEq, Repr

/-- The two names a span can have. -/
inductive Name where
  | request
  | fetch
  deriving DecidableEq, Repr

/-- Server spans serve a client, client spans talk to a backend. -/
inductive Kind where
  | server
  | client
  deriving DecidableEq, Repr

/-- One span, with the transaction number of the group it was built from. -/
structure Span where
  traceID : TraceID
  spanID : SpanID
  parentID : SpanID
  name : Name
  kind : Kind
  startTime : Time
  endTime : Time
  attrs : List KeyValue
  links : List Link := []
  vxid : ℕ
  deriving DecidableEq, Repr

/-- Why spans were or were not built. -/
inductive Outcome where
  | spans
  | unsampled
  | unusable
  deriving DecidableEq, Repr

/-- The answers of the id source during the building of one group. -/
structure IDSource where
  traceID : TraceID
  spanID : ℕ → SpanID

/-! ## The traceparent header -/

/-- A lower-case hexadecimal digit. -/
def isLowerHex (c : Char) : Bool := ('0' ≤ c && c ≤ '9') || ('a' ≤ c && c ≤ 'f')

/-- The value of a lower-case hexadecimal text. -/
def hexVal (s : Text) : ℕ :=
  s.foldl (fun n c =>
    16 * n + if '0' ≤ c ∧ c ≤ '9' then c.toNat - '0'.toNat else c.toNat - 'a'.toNat + 10) 0

/-- The pattern `^([0-9a-f]{2})-([0-9a-f]{32})-([0-9a-f]{16})-([0-9a-f]{2})$` and its groups. -/
def traceparentRe (s : Text) : Option (Text × Text × Text × Text) :=
  match s.splitOn '-' with
  | [m1, m2, m3, m4] =>
    if m1.length = 2 ∧ m2.length = 32 ∧ m3.length = 16 ∧ m4.length = 2 ∧
        (m1 ++ m2 ++ m3 ++ m4).all isLowerHex then
      some (m1, m2, m3, m4)
    else none
  | _ => none

/-- The trace id, the parent span id and the sampled flag of a valid `traceparent` value. -/
def parseTraceparent (v : Text) : Option (TraceID × SpanID × Bool) :=
  match traceparentRe (Text.trimSpace v) with
  | none => none
  | some (m1, m2, m3, m4) =>
    if m1 = "ff" ∨ m2 = List.replicate 32 '0' ∨ m3 = List.replicate 16 '0' then none
    else some (BitVec.ofNat 128 (hexVal m2), BitVec.ofNat 64 (hexVal m3), (hexVal m4).testBit 0)

/-! ## Attributes -/

/-- The type of a client request group and of an ESI subrequest. -/
def txTypeRequest : Text := "Request"

/-- The reason field of restart links and restarted groups. -/
def restartReason : Text := "restart"

/-- The vxid field of a `Link req <vxid> restart` payload. -/
def restartLink (r : Record) : Option Text :=
  if r.tag = "Link" then
    match Text.fields r.payload with
    | f0 :: f1 :: f2 :: _ => if f0 = "req" ∧ f2 = restartReason then some f1 else none
    | _ => none
  else none

/-- The number of `Link req <vxid> restart` records of the group itself. -/
def countRestarts (tx : Tx) : ℕ := (tx.records.filter fun r => (restartLink r).isSome).length

/-- How the request was handled, from its `VCL_call` records and else its `Hit` record. -/
def handling (tx : Tx) : Text :=
  let call (r : Record) : Option Text :=
    if r.tag = "VCL_call" then
      if r.payload = "HIT" then some "hit"
      else if r.payload = "PASS" then some "pass"
      else if r.payload = "SYNTH" then some "synth"
      else if r.payload = "MISS" then some "miss"
      else if r.payload = "PIPE" then some "pipe"
      else none
    else none
  match tx.records.findSome? call with
  | some h => h
  | none => if tx.has "Hit" then "hit" else "miss"

/-- The attributes of a request span. -/
def requestAttrs (tx : Tx) : List KeyValue :=
  let method := (tx.first "ReqMethod").map fun m => ⟨.requestMethod, .string m⟩
  let url := (tx.first "ReqURL").map fun u => ⟨.urlPath, .string u⟩
  let status := ((tx.last "RespStatus").bind Text.atoi).map fun n => ⟨.statusCode, .int n⟩
  let h := handling tx
  let flag : List KeyValue :=
    if h = "synth" then [⟨.synthetic, .bool true⟩]
    else if h = "pipe" then [⟨.pipe, .bool true⟩]
    else []
  let bytes := (tx.first "ReqAcct").bind fun a =>
    match Text.fields a with
    | [_, _, _, _, _, total] => (Text.atoi total).map fun n => ⟨.respBytes, .int n⟩
    | _ => none
  method.toList ++ url.toList ++ status.toList ++ [⟨.handling, .string h⟩] ++ flag ++ bytes.toList

/-- The attributes of a fetch span. -/
def fetchAttrs (tx : Tx) : List KeyValue :=
  let backend := (tx.first "BackendOpen").bind fun b =>
    match Text.fields b with
    | _ :: name :: _ => some ⟨.backend, .string name⟩
    | _ => none
  let status := ((tx.last "BerespStatus").bind Text.atoi).map fun n => ⟨.statusCode, .int n⟩
  let bgfetch : List KeyValue := match tx.first "Begin" with
    | some b => if b.contains "bgfetch" then [⟨.bgfetch, .bool true⟩] else []
    | none => []
  backend.toList ++ status.toList ++ bgfetch

/-! ## The builder -/

section Build

variable (epoch : Text → Option Time)

/-- The time that closes a request group: its response, else its restart, else the end of its
piped session. -/
def respEnd (tx : Tx) : Option Time :=
  (tx.timestamp epoch "Resp" <|> tx.timestamp epoch "Restart") <|> tx.timestamp epoch "PipeSess"

/-- The ids the VCL minted for a backend request: those of its own `traceparent`, unless that
names the incoming parent `parentID` and so was merely forwarded. -/
def minted (parentID : SpanID) (tx : Tx) : Option (TraceID × SpanID) :=
  if tx.type = "BeReq" then
    match (tx.header "BereqHeader" "traceparent").bind parseTraceparent with
    | some (tid, sid, _) => if sid ≠ parentID then some (tid, sid) else none
    | none => none
  else none

mutual

/-- The first trace id minted in the groups below `tx`, in depth-first order. -/
def collectMinted (parentID : SpanID) : Tx → Option TraceID
  | .mk _ _ _ children => collectMintedList parentID children

/-- The first trace id minted in a list of groups or below them. -/
def collectMintedList (parentID : SpanID) : List Tx → Option TraceID
  | [] => none
  | child :: rest =>
    ((minted parentID child).map Prod.fst <|> collectMinted parentID child)
      <|> collectMintedList parentID rest

end

/-- The span of a backend fetch, when the group has its timestamps. -/
def fetchSpan (parentID : SpanID) (traceID : TraceID) (ids : IDSource) (child : Tx)
    (parentSpanID : SpanID) (retryDepth n : ℕ) : Option (Span × ℕ) :=
  match child.timestamp epoch "Bereq",
      (child.timestamp epoch "BerespBody" <|> child.timestamp epoch "Beresp") with
  | some fs, some fe =>
    let m := minted parentID child
    let retry : List KeyValue :=
      if retryDepth > 0 then [⟨.retry, .int retryDepth⟩] else []
    let mismatch : List KeyValue := match m with
      | some (tid, _) =>
        if tid ≠ 0 ∧ tid ≠ traceID then [⟨.mintedTraceMismatch, .bool true⟩] else []
      | none => []
    some ({ traceID := traceID, spanID := (m.map Prod.snd).getD (ids.spanID n),
            parentID := parentSpanID, name := .fetch, kind := .client, startTime := fs,
            endTime := fe, attrs := fetchAttrs child ++ retry ++ mismatch, vxid := child.vxid },
          if m.isSome then n else n + 1)
  | _, _ => none

/-- The span of an ESI subrequest, when the group is one and has its timestamps. -/
def esiSpan (traceID : TraceID) (ids : IDSource) (child : Tx) (parentSpanID : SpanID)
    (n : ℕ) : Option (Span × ℕ) :=
  if ((child.first "Begin").getD []).contains "esi" then
    match child.timestamp epoch "Start", respEnd epoch child with
    | some cs, some ce =>
      some ({ traceID := traceID, spanID := ids.spanID n, parentID := parentSpanID,
              name := .request, kind := .server, startTime := cs, endTime := ce,
              attrs := requestAttrs child ++ [⟨.esi, .bool true⟩], vxid := child.vxid }, n + 1)
    | _, _ => none
  else none

mutual

/-- The spans of one nested group and of the groups below it: a backend fetch, an ESI
subrequest, or nothing. `n` counts the span ids drawn so far. -/
def buildChild (parentID : SpanID) (traceID : TraceID) (ids : IDSource) :
    Tx → SpanID → ℕ → ℕ → List Span × ℕ
  | .mk type vxid records children, parentSpanID, retryDepth, n =>
    let child := Tx.mk type vxid records children
    if type = "BeReq" then
      match fetchSpan epoch parentID traceID ids child parentSpanID retryDepth n with
      | some (sp, n) =>
        -- a backend request nested in this one is its next attempt
        let (below, n) := buildChildren parentID traceID ids children sp.spanID (retryDepth + 1) n
        (sp :: below, n)
      | none => ([], n)
    else if type = txTypeRequest then
      match esiSpan epoch traceID ids child parentSpanID n with
      | some (sp, n) =>
        let (below, n) := buildChildren parentID traceID ids children sp.spanID 0 n
        (sp :: below, n)
      | none => ([], n)
    else ([], n)

/-- The spans of a list of nested groups, in order. -/
def buildChildren (parentID : SpanID) (traceID : TraceID) (ids : IDSource) :
    List Tx → SpanID → ℕ → ℕ → List Span × ℕ
  | [], _, _, n => ([], n)
  | child :: rest, parentSpanID, retryDepth, n =>
    let (spans, n) := buildChild parentID traceID ids child parentSpanID retryDepth n
    let (more, n) := buildChildren parentID traceID ids rest parentSpanID retryDepth n
    (spans ++ more, n)

end

/-- The incoming `traceparent` of a request, when it is valid. -/
def incoming (tx : Tx) : Option (TraceID × SpanID × Bool) :=
  (tx.header "ReqHeader" "traceparent").bind parseTraceparent

/-- The span of the top request of a group. -/
def requestSpan (tx : Tx) (ids : IDSource) (parentID : SpanID) (traceID : TraceID)
    (start stop : Time) : Span :=
  let restarts : List KeyValue :=
    if countRestarts tx > 0 then [⟨.restarts, .int (countRestarts tx)⟩] else []
  { traceID := traceID, spanID := ids.spanID 0, parentID := parentID, name := .request,
    kind := .server, startTime := start, endTime := stop, attrs := requestAttrs tx ++ restarts,
    vxid := tx.vxid }

/-- The spans of a request group, and why there are none. -/
def buildWithOutcome (tx : Tx) (ids : IDSource) : List Span × Outcome :=
  if tx.type ≠ txTypeRequest then ([], .spans)
  else
    match tx.timestamp epoch "Start", respEnd epoch tx with
    | some start, some stop =>
      if (incoming tx).any fun t => !t.2.2 then ([], .unsampled)
      else
        let parentID := ((incoming tx).map (·.2.1)).getD 0
        let traceID := ((incoming tx).map (·.1) <|> collectMinted parentID tx).getD ids.traceID
        let req := requestSpan tx ids parentID traceID start stop
        (req :: (buildChildren epoch parentID traceID ids tx.children req.spanID 0 1).1, .spans)
    | _, _ => ([], .unusable)

end Build

/-! ## The spans below a request -/

section Nested

variable (epoch : Text → Option Time)

/-- The span of a nested group: a backend fetch or an ESI subrequest. -/
inductive Nested (parentID : SpanID) (traceID : TraceID) (ids : IDSource) (sp : Span) : Prop
  | fetch {child : Tx} {parentSpanID : SpanID} {retryDepth n n' : ℕ} :
      fetchSpan epoch parentID traceID ids child parentSpanID retryDepth n = some (sp, n') →
      Nested parentID traceID ids sp
  | esi {child : Tx} {parentSpanID : SpanID} {n n' : ℕ} :
      esiSpan epoch traceID ids child parentSpanID n = some (sp, n') →
      Nested parentID traceID ids sp

mutual

/-- What is built for a nested group. The group's own span comes first, those below it follow by
induction. -/
lemma buildChild_nested (parentID : SpanID) (traceID : TraceID) (ids : IDSource) :
    ∀ (tx : Tx) (parentSpanID : SpanID) (retryDepth n : ℕ),
      ∀ sp ∈ (buildChild epoch parentID traceID ids tx parentSpanID retryDepth n).1,
        Nested epoch parentID traceID ids sp
  | .mk type vxid records children, parentSpanID, retryDepth, n => by
    intro sp hsp
    rw [buildChild] at hsp
    dsimp only at hsp
    split_ifs at hsp
    · split at hsp
      · rename_i own n' hown
        rcases List.mem_cons.1 hsp with rfl | hsp
        · exact .fetch hown
        · exact buildChildren_nested parentID traceID ids children _ _ _ sp hsp
      · simp at hsp
    · split at hsp
      · rename_i own n' hown
        rcases List.mem_cons.1 hsp with rfl | hsp
        · exact .esi hown
        · exact buildChildren_nested parentID traceID ids children _ _ _ sp hsp
      · simp at hsp
    · simp at hsp

/-- The same for a list of groups. -/
lemma buildChildren_nested (parentID : SpanID) (traceID : TraceID) (ids : IDSource) :
    ∀ (txs : List Tx) (parentSpanID : SpanID) (retryDepth n : ℕ),
      ∀ sp ∈ (buildChildren epoch parentID traceID ids txs parentSpanID retryDepth n).1,
        Nested epoch parentID traceID ids sp
  | [], _, _, _ => by simp [buildChildren]
  | child :: rest, parentSpanID, retryDepth, n => by
    intro sp hsp
    rw [buildChildren] at hsp
    rcases List.mem_append.1 hsp with hsp | hsp
    · exact buildChild_nested parentID traceID ids child _ _ _ sp hsp
    · exact buildChildren_nested parentID traceID ids rest _ _ _ sp hsp

end

end Nested

/-! ## What the builder leaves to the linker -/

section Unmarked

/-- The attribute keys that only the linker sets. -/
def linkerKeys : List Key := [.restartContinuation, .coalesced, .coalescedUnlinked]

/-- A span without links and without any mark of the linker. -/
def Unmarked (sp : Span) : Prop :=
  sp.links = [] ∧ ∀ kv ∈ sp.attrs, kv.key ∉ linkerKeys

variable (epoch : Text → Option Time)

/-- The attributes of a request are none of the linker's. -/
lemma requestAttrs_unmarked (tx : Tx) : ∀ kv ∈ requestAttrs tx, kv.key ∉ linkerKeys := by
  intro kv h
  simp only [requestAttrs, List.mem_append, Option.mem_toList, Option.map_eq_some_iff,
    Option.bind_eq_some_iff] at h
  rcases h with ((((⟨_, _, rfl⟩ | ⟨_, _, rfl⟩) | ⟨_, _, rfl⟩) | h) | h) | ⟨a, _, h⟩
  · simp [linkerKeys]
  · simp [linkerKeys]
  · simp [linkerKeys]
  · obtain rfl := List.mem_singleton.1 h
    simp [linkerKeys]
  · split_ifs at h <;> simp_all [linkerKeys]
  · split at h
    · obtain ⟨_, _, rfl⟩ := Option.map_eq_some_iff.1 h
      simp [linkerKeys]
    · simp at h

/-- The keys of a fetch span's own attributes. -/
lemma fetchAttrs_key (tx : Tx) :
    ∀ kv ∈ fetchAttrs tx, kv.key ∈ [Key.backend, Key.statusCode, Key.bgfetch] := by
  intro kv h
  simp only [fetchAttrs, List.mem_append, Option.mem_toList, Option.map_eq_some_iff,
    Option.bind_eq_some_iff] at h
  rcases h with (⟨b, _, h⟩ | ⟨_, _, rfl⟩) | h
  · split at h
    · obtain rfl := Option.some.inj h
      simp
    · simp at h
  · simp
  · split at h
    · split_ifs at h <;> simp_all
    · simp at h

/-- The attributes of a fetch are none of the linker's. -/
lemma fetchAttrs_unmarked (tx : Tx) : ∀ kv ∈ fetchAttrs tx, kv.key ∉ linkerKeys := by
  intro kv h
  have hkey := fetchAttrs_key tx kv h
  simp only [List.mem_cons, List.not_mem_nil, or_false] at hkey
  rcases hkey with hkey | hkey | hkey <;> simp [linkerKeys, hkey]

/-- A fetch is built without marks. -/
lemma fetchSpan_unmarked {parentID : SpanID} {traceID : TraceID} {ids : IDSource} {child : Tx}
    {parentSpanID : SpanID} {retryDepth n n' : ℕ} {sp : Span}
    (h : fetchSpan epoch parentID traceID ids child parentSpanID retryDepth n = some (sp, n')) :
    Unmarked sp := by
  unfold fetchSpan at h
  split at h
  · obtain ⟨rfl, -⟩ := Prod.mk.inj (Option.some.inj h)
    refine ⟨rfl, fun kv hkv => ?_⟩
    simp only [List.mem_append] at hkv
    rcases hkv with (hkv | hkv) | hkv
    · exact fetchAttrs_unmarked child kv hkv
    · split_ifs at hkv <;> simp_all [linkerKeys]
    · split at hkv
      · split_ifs at hkv <;> simp_all [linkerKeys]
      · simp at hkv
  · simp at h

/-- A fragment is built without marks. -/
lemma esiSpan_unmarked {traceID : TraceID} {ids : IDSource} {child : Tx}
    {parentSpanID : SpanID} {n n' : ℕ} {sp : Span}
    (h : esiSpan epoch traceID ids child parentSpanID n = some (sp, n')) : Unmarked sp := by
  unfold esiSpan at h
  split_ifs at h
  split at h
  · obtain ⟨rfl, -⟩ := Prod.mk.inj (Option.some.inj h)
    refine ⟨rfl, fun kv hkv => ?_⟩
    rcases List.mem_append.1 hkv with hkv | hkv
    · exact requestAttrs_unmarked child kv hkv
    · obtain rfl := List.mem_singleton.1 hkv
      simp [linkerKeys]
  · simp at h

/-- The spans of nested groups are unmarked. -/
lemma Nested.unmarked {parentID : SpanID} {traceID : TraceID} {ids : IDSource} {sp : Span}
    (h : Nested epoch parentID traceID ids sp) : Unmarked sp := by
  cases h with
  | fetch hsp => exact fetchSpan_unmarked epoch hsp
  | esi hsp => exact esiSpan_unmarked epoch hsp

/-- A request is built without marks. -/
lemma requestSpan_unmarked (tx : Tx) (ids : IDSource) (parentID : SpanID) (traceID : TraceID)
    (start stop : Time) : Unmarked (requestSpan tx ids parentID traceID start stop) := by
  refine ⟨rfl, fun kv hkv => ?_⟩
  rcases List.mem_append.1 hkv with hkv | hkv
  · exact requestAttrs_unmarked tx kv hkv
  · split_ifs at hkv <;> simp_all [linkerKeys]

/-- What the builder returns: nothing and why, or the request span and those below it. -/
lemma buildWithOutcome_cases (tx : Tx) (ids : IDSource) :
    (tx.type ≠ txTypeRequest ∧ buildWithOutcome epoch tx ids = ([], .spans)) ∨
    (∃ o, o ≠ .spans ∧ buildWithOutcome epoch tx ids = ([], o)) ∨
    (tx.type = txTypeRequest ∧ ∃ parentID traceID start stop,
      let req := requestSpan tx ids parentID traceID start stop
      buildWithOutcome epoch tx ids =
        (req :: (buildChildren epoch parentID traceID ids tx.children req.spanID 0 1).1,
          .spans)) := by
  unfold buildWithOutcome
  by_cases ht : tx.type = txTypeRequest
  · rw [if_neg (by simp [ht])]
    split
    · split
      · exact .inr (.inl ⟨.unsampled, by simp, rfl⟩)
      · exact .inr (.inr ⟨ht, _, _, _, _, rfl⟩)
    · exact .inr (.inl ⟨.unusable, by simp, rfl⟩)
  · rw [if_pos ht]
    exact .inl ⟨ht, rfl⟩

/-- **The builder sets no link and no mark of the linker.** -/
theorem buildWithOutcome_unmarked (tx : Tx) (ids : IDSource) :
    ∀ sp ∈ (buildWithOutcome epoch tx ids).1, Unmarked sp := by
  intro sp hsp
  rcases buildWithOutcome_cases epoch tx ids with ⟨-, h⟩ | ⟨o, -, h⟩ | ⟨-, _, _, _, _, h⟩
  · simp [h] at hsp
  · simp [h] at hsp
  · rw [h] at hsp
    rcases List.mem_cons.1 hsp with rfl | hsp
    · exact requestSpan_unmarked tx ids _ _ _ _
    · exact (buildChildren_nested epoch _ _ ids _ _ _ _ sp hsp).unmarked

/-- A group that builds nothing without a reason is no request group. -/
theorem buildWithOutcome_nil {tx : Tx} {ids : IDSource}
    (h : (buildWithOutcome epoch tx ids).1 = [])
    (ho : (buildWithOutcome epoch tx ids).2 = .spans) : tx.type ≠ txTypeRequest := by
  rcases buildWithOutcome_cases epoch tx ids with ⟨ht, -⟩ | ⟨o, hne, e⟩ | ⟨-, _, _, _, _, e⟩
  · exact ht
  · rw [e] at ho
    exact absurd ho hne
  · simp [e] at h

end Unmarked

/-! ## One trace for a group -/

section OneTrace

variable (epoch : Text → Option Time)

/-- The spans of nested groups are in the trace of the request. -/
lemma Nested.traceID_eq {parentID : SpanID} {traceID : TraceID} {ids : IDSource} {sp : Span}
    (h : Nested epoch parentID traceID ids sp) : sp.traceID = traceID := by
  cases h with
  | fetch hsp =>
    unfold fetchSpan at hsp
    split at hsp
    · obtain ⟨rfl, -⟩ := Prod.mk.inj (Option.some.inj hsp)
      rfl
    · simp at hsp
  | esi hsp =>
    unfold esiSpan at hsp
    split_ifs at hsp
    split at hsp
    · obtain ⟨rfl, -⟩ := Prod.mk.inj (Option.some.inj hsp)
      rfl
    · simp at hsp

/-- **The spans of a group are in one trace**, that of its request span. The group is a request. -/
theorem buildWithOutcome_oneTrace {tx : Tx} {ids : IDSource} {top : Span} {below : List Span}
    (h : (buildWithOutcome epoch tx ids).1 = top :: below) :
    tx.type = txTypeRequest ∧ ∀ sp ∈ below, sp.traceID = top.traceID := by
  rcases buildWithOutcome_cases epoch tx ids with ⟨-, e⟩ | ⟨o, -, e⟩ | ⟨ht, _, _, _, _, e⟩
  · simp [e] at h
  · simp [e] at h
  · rw [e] at h
    obtain ⟨rfl, rfl⟩ := List.cons.inj h
    exact ⟨ht, fun sp hsp => (buildChildren_nested epoch _ _ ids _ _ _ _ sp hsp).traceID_eq⟩

end OneTrace

end CloudVinyl.Spans
