import Mathlib.Data.Char
import Mathlib.Data.List.Lex
import CloudVinyl.Generator.TemplateData
import CloudVinyl.Lib.Sorting

set_option relaxedAutoImplicit false
set_option autoImplicit false

/-!
# The endpoints of a backend

`listBackendEndpoints` of `internal/controller/endpoints.go` collects the ready endpoints of the
EndpointSlices of a Service, and sorts them by address with `sort.Slice`, which is not stable. The
cluster may list the slices and their endpoints in any order, and the same address in several of
them. The generated VCL has a backend for each endpoint, so another order is another VCL.

## Main definitions

* `Controller.listBackendEndpoints` — the endpoints of a backend.
* `Controller.Offers` — the pairs of an address and a port that a listing is about.
* `Controller.offered` — these pairs, as often and in the order in which they are listed.
* `Controller.Canonical` — two listings lead to the same endpoints, each pair once.

## Main results

* `Controller.listBackendEndpoints_ok` — the endpoints are the offered pairs in another order.
* `Controller.canonical_iff` — when two listings of the same pairs lead to the same endpoints.
-/

namespace CloudVinyl.Controller

open Generator (Endpoint)

/-- An endpoint of an EndpointSlice. -/
structure SliceEndpoint where
  addresses : List Text
  ready : Option Bool := none
  terminating : Option Bool := none

/-- The ports of an EndpointSlice may be without a value. -/
structure EndpointSlice where
  ports : List (Option ℤ)
  endpoints : List SliceEndpoint

/-- The order of the endpoints: that of the addresses, as texts. -/
abbrev AddressSorter : Type := Sorter fun e : Endpoint => e.ip

/-- `endpointReady` -/
def endpointReady (ep : SliceEndpoint) : Bool :=
  if ep.terminating = some true then false else ep.ready.getD true

/-- `pickPort` -/
def pickPort (ports : List (Option ℤ)) (b : BackendSpec) : ℤ :=
  if 0 < b.port then b.port else (ports.findSome? id).getD 0

/-! ## The listing -/

/-- The inner loop: the addresses of an endpoint, if it is ready. -/
def appendEndpoint (port : ℤ) (endpoints : List Endpoint) (ep : SliceEndpoint) : List Endpoint :=
  if endpointReady ep then ep.addresses.foldl (fun acc addr => acc ++ [⟨addr, port⟩]) endpoints
  else endpoints

/-- The outer loop: the endpoints of a slice, if it has a port. -/
def appendSlice (b : BackendSpec) (endpoints : List Endpoint) (slice : EndpointSlice) :
    List Endpoint :=
  let port := pickPort slice.ports b
  if port = 0 then endpoints else slice.endpoints.foldl (appendEndpoint port) endpoints

/-- `listBackendEndpoints`, for what the cluster answers and what `sort.Slice` does. -/
def listBackendEndpoints (sort : AddressSorter) (b : BackendSpec)
    (list : Except Text (List EndpointSlice)) : Except Text (List Endpoint) :=
  match list with
  | .error err => .error ("listing EndpointSlices for service " ++ b.serviceRef ++ ": " ++ err)
  | .ok items => .ok (sort.run (items.foldl (appendSlice b) []))

/-! ## The pairs of a listing -/

/-- The listing has a ready, non-terminating endpoint with this address, in a slice with this
port. -/
def Offers (b : BackendSpec) (items : List EndpointSlice) (e : Endpoint) : Prop :=
  ∃ slice ∈ items, pickPort slice.ports b = e.port ∧ e.port ≠ 0 ∧
    ∃ ep ∈ slice.endpoints, endpointReady ep = true ∧ e.ip ∈ ep.addresses

/-- The pairs of a slice with a port. -/
def sliceOffers (port : ℤ) (slice : EndpointSlice) : List Endpoint :=
  (slice.endpoints.filter endpointReady).flatMap fun ep => ep.addresses.map fun addr => ⟨addr, port⟩

/-- The pairs of a listing, at each place where they are listed. -/
def offered (b : BackendSpec) (items : List EndpointSlice) : List Endpoint :=
  (items.filter fun slice => pickPort slice.ports b ≠ 0).flatMap fun slice =>
    sliceOffers (pickPort slice.ports b) slice

/-- For every sorting function, both listings lead to the same endpoints, which are the pairs of the
first one, each of them once. -/
def Canonical (b : BackendSpec) (items items' : List EndpointSlice) : Prop :=
  ∀ sort : AddressSorter, ∃ endpoints,
    listBackendEndpoints sort b (.ok items) = .ok endpoints ∧
      listBackendEndpoints sort b (.ok items') = .ok endpoints ∧
      endpoints.Nodup ∧ ∀ e, e ∈ endpoints ↔ Offers b items e

section Listing

variable {b : BackendSpec} {items items' : List EndpointSlice}

/-- What is offered, address by address. -/
lemma mem_offered_iff {e : Endpoint} : e ∈ offered b items ↔ Offers b items e := by
  simp only [offered, sliceOffers, Offers, List.mem_flatMap, List.mem_filter, List.mem_map,
    decide_eq_true_eq]
  constructor
  · rintro ⟨slice, ⟨hslice, hport⟩, ep, ⟨hep, hready⟩, addr, haddr, rfl⟩
    exact ⟨slice, hslice, rfl, hport, ep, hep, hready, haddr⟩
  · rintro ⟨slice, hslice, hpick, hport, ep, hep, hready, haddr⟩
    exact ⟨slice, ⟨hslice, hpick ▸ hport⟩, ep, ⟨hep, hready⟩, e.ip, haddr, by rw [hpick]⟩

/-! ### The loops -/

/-- Appending one after the other is mapping. -/
lemma foldl_append_singleton {α β : Type} (f : α → β) (l : List α) (acc : List β) :
    l.foldl (fun acc a => acc ++ [f a]) acc = acc ++ l.map f := by
  induction l generalizing acc with
  | nil => simp
  | cons a l ih => simp [ih]

/-- The endpoints of one slice. -/
lemma foldl_appendEndpoint (port : ℤ) (eps : List SliceEndpoint) (acc : List Endpoint) :
    eps.foldl (appendEndpoint port) acc =
      acc ++ (eps.filter endpointReady).flatMap fun ep =>
        ep.addresses.map fun addr => ⟨addr, port⟩ := by
  induction eps generalizing acc with
  | nil => simp
  | cons ep eps ih =>
    rw [List.foldl_cons, ih, appendEndpoint, List.filter_cons]
    split_ifs with hready
    · rw [foldl_append_singleton, List.flatMap_cons, List.append_assoc]
    · rfl

/-- The endpoints of all slices. -/
lemma foldl_appendSlice (items : List EndpointSlice) (acc : List Endpoint) :
    items.foldl (appendSlice b) acc = acc ++ offered b items := by
  unfold offered
  induction items generalizing acc with
  | nil => simp
  | cons slice items ih =>
    rw [List.foldl_cons, ih, appendSlice, List.filter_cons]
    by_cases hport : pickPort slice.ports b = 0
    · simp [hport]
    · simp [hport, foldl_appendEndpoint, sliceOffers]

/-- The endpoints are the offered pairs, sorted. -/
theorem listBackendEndpoints_ok (sort : AddressSorter) :
    listBackendEndpoints sort b (.ok items) = .ok (sort.run (offered b items)) := by
  rw [listBackendEndpoints, foldl_appendSlice, List.nil_append]

/-! ### Two listings -/

/-- The result is canonical if every sort of it is the same. -/
lemma canonical_iff_forall_run : Canonical b items items' ↔
    (offered b items).Nodup ∧
      ∀ sort : AddressSorter, sort.run (offered b items) = sort.run (offered b items') := by
  constructor
  · intro h
    have hrun (sort : AddressSorter) : sort.run (offered b items) = sort.run (offered b items') ∧
        (sort.run (offered b items)).Nodup := by
      obtain ⟨endpoints, hitems, hitems', hnodup, -⟩ := h sort
      rw [listBackendEndpoints_ok, Except.ok.injEq] at hitems hitems'
      exact ⟨hitems.trans hitems'.symm, hitems ▸ hnodup⟩
    exact ⟨(Sorter.nodup_run _).1 (hrun (Sorter.stable _)).2, fun sort => (hrun sort).1⟩
  · rintro ⟨hnodup, hrun⟩ sort
    refine ⟨sort.run (offered b items), listBackendEndpoints_ok sort, ?_,
      sort.nodup_run.2 hnodup, fun e => sort.mem_run.trans mem_offered_iff⟩
    rw [hrun sort, listBackendEndpoints_ok]

/-- **When the endpoints do not depend on the listing.** Two listings of the same pairs lead to the
same endpoints, each pair once, just when neither lists a pair twice and they list the pairs in the
same order, unless no address has two ports. -/
theorem canonical_iff (b : BackendSpec) (items items' : List EndpointSlice)
    (h : ∀ e, Offers b items e ↔ Offers b items' e) :
    Canonical b items items' ↔
      (offered b items).Nodup ∧ (offered b items').Nodup ∧
        (offered b items = offered b items' ∨ ((offered b items).map (·.ip)).Nodup) := by
  have hsame : ∀ e, e ∈ offered b items ↔ e ∈ offered b items' := fun e => by
    rw [mem_offered_iff, mem_offered_iff, h e]
  rw [canonical_iff_forall_run]
  constructor
  · rintro ⟨hnodup, hrun⟩
    have hperm : (offered b items).Perm (offered b items') :=
      (Sorter.stable _).perm_of_run_eq (hrun (Sorter.stable _))
    refine ⟨hnodup, hperm.nodup_iff.1 hnodup, ?_⟩
    rw [List.nodup_map_iff_inj_on hnodup]
    exact (Sorter.forall_run_eq_iff hperm).1 hrun
  · rintro ⟨hnodup, hnodup', hcase⟩
    have hperm := (List.perm_ext_iff_of_nodup hnodup hnodup').2 hsame
    rw [List.nodup_map_iff_inj_on hnodup] at hcase
    exact ⟨hnodup, (Sorter.forall_run_eq_iff hperm).2 hcase⟩

end Listing

/-! ### Slices with an address in common -/

/-- A slice with one port and one endpoint. -/
def singleSlice (port : ℤ) (addr : Text) : EndpointSlice := ⟨[some port], [{ addresses := [addr] }]⟩

/-- Slices with different addresses may be listed in any order. -/
theorem canonical_iff_swapped :
    Canonical { name := "shop" }
      [singleSlice 8080 "10.0.0.1", singleSlice 8080 "10.0.0.2"]
      [singleSlice 8080 "10.0.0.2", singleSlice 8080 "10.0.0.1"] :=
  (canonical_iff _ _ _ fun e => by
    rw [← mem_offered_iff, ← mem_offered_iff]
    exact (List.Perm.swap (⟨"10.0.0.2", 8080⟩ : Endpoint) ⟨"10.0.0.1", 8080⟩ []).mem_iff).2
    ⟨by decide, by decide, .inr (by decide)⟩

/-- An address that two slices have in common is listed twice, whatever the sorting function
does. -/
theorem sharedAddress_listedTwice :
    let shared := [singleSlice 8080 "10.0.0.1", singleSlice 8080 "10.0.0.1"]
    let single := [singleSlice 8080 "10.0.0.1"]
    (∀ e, Offers { name := "shop" } shared e ↔ Offers { name := "shop" } single e) ∧
      (∀ sort, ∃ endpoints,
        listBackendEndpoints sort { name := "shop" } (.ok shared) = .ok endpoints ∧
          endpoints.count ⟨"10.0.0.1", 8080⟩ = 2) ∧
      ¬Canonical { name := "shop" } shared single := by
  refine ⟨fun e => ?_, fun sort => ?_, fun h => ?_⟩
  · rw [← mem_offered_iff, ← mem_offered_iff]
    change e ∈ [_, _] ↔ e ∈ [_]
    simp
  · exact ⟨_, listBackendEndpoints_ok sort, by rw [(sort.perm _).count_eq]; decide⟩
  · exact absurd (canonical_iff_forall_run.1 h).1 (by decide)

end CloudVinyl.Controller
