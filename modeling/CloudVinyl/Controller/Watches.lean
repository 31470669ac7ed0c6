import CloudVinyl.Controller.Endpoints
import CloudVinyl.Controller.Pods
import CloudVinyl.Controller.Selectors
import CloudVinyl.Lib.Keyed
import CloudVinyl.Lib.LevelTriggered

set_option relaxedAutoImplicit false
set_option autoImplicit false

/-!
# The watches of the operator

`SetupWithManager` of `internal/controller/vinylcache_controller.go` watches the resources, the pods
and the EndpointSlices. `podToVinylCache` and `endpointSliceToVinylCache` map an event to the caches
that are reconciled, and `Reconcile` reads the resource, then lists the pods of the cache
(`collectPeers`) and the slices of each backend (`resolveBackendEndpoints`), and generates the VCL
from them. A pass may end before that: it fails, it is paused, or the debouncer sends it back.

The informers hold the objects. A change reaches them first and the handlers later, and what
`endpointSliceToVinylCache` does depends on the resources that the informers hold by then. Assumed
of the client libraries: an update is mapped for the old and the new object, a key that is added
while it is worked on is handed out again afterwards, and a key whose pass returned an error or a
time to come back is added again. Every list may come in another order than the one before, and the
list in `endpointSliceToVinylCache` may fail: then the event is lost.

## Main definitions

* `Controller.Informers`, `Controller.Change` — what the informers hold, and how it changes.
* `Controller.Listings` — how the lists come out.
* `Controller.endpointSliceToVinylCache` — the caches that an event of a slice is mapped to.
* `Controller.reconciler` — the operator as a level-triggered control loop.
* `Controller.currentVCL` — the VCL of a pass without interruption.

## Main results

* `Controller.covered` — no change that a pass depends on goes unnoticed.
* `Controller.vcl_current_or_pending` — the VCL generated last belongs to the cluster as it is now,
  or another pass is pending.
-/

namespace CloudVinyl.Controller

open Generator (Endpoint Go Result)

/-! ## What the informers hold -/

/-- A pod with its labels. -/
structure PodObject extends PodMeta where
  pod : Pod

/-- The key of a pod. -/
def PodObject.key (p : PodObject) : ObjectKey := ⟨p.namespace_, p.pod.name⟩

/-- An EndpointSlice with its labels. -/
structure SliceObject where
  namespace_ : Text
  name : Text
  labels : Table Text Text
  slice : EndpointSlice

/-- The key of a slice. -/
def SliceObject.key (s : SliceObject) : ObjectKey := ⟨s.namespace_, s.name⟩

/-- The objects that the informers hold. -/
structure Informers where
  caches : Keyed cacheKey
  pods : Keyed PodObject.key
  slices : Keyed SliceObject.key

/-- A change of an object. -/
inductive Change where
  | putCache (vc : VinylCache)
  | deleteCache (k : ObjectKey)
  | putPod (p : PodObject)
  | deletePod (k : ObjectKey)
  | putSlice (s : SliceObject)
  | deleteSlice (k : ObjectKey)

/-- What the informers hold after a change. -/
def Informers.apply (i : Informers) : Change → Informers
  | .putCache vc => { i with caches := i.caches.put vc }
  | .deleteCache k => { i with caches := i.caches.delete k }
  | .putPod p => { i with pods := i.pods.put p }
  | .deletePod k => { i with pods := i.pods.delete k }
  | .putSlice s => { i with slices := i.slices.put s }
  | .deleteSlice k => { i with slices := i.slices.delete k }

/-! ## Events and what they are mapped to -/

/-- The label `discoveryv1.LabelServiceName`. -/
def labelServiceName : Text := "kubernetes.io/service-name"

/-- An event for a handler. An update has the old and the new object. -/
inductive WatchEvent where
  | cache (k : ObjectKey)
  | pod (objects : List PodObject)
  | slice (objects : List SliceObject)

/-- The event of a change. -/
def Informers.event (i : Informers) : Change → WatchEvent
  | .putCache vc => .cache (cacheKey vc)
  | .deleteCache k => .cache k
  | .putPod p => .pod ((i.pods.get p.key).toList ++ [p])
  | .deletePod k => .pod (i.pods.get k).toList
  | .putSlice s => .slice ((i.slices.get s.key).toList ++ [s])
  | .deleteSlice k => .slice (i.slices.get k).toList

/-- How the lists of a handler and of a pass come out: the order of each, and whether the list of
the caches that is made for an object of an event, by its position, fails. -/
structure Listings where
  caches : ℕ → Option (Listing VinylCache)
  pods : Listing PodObject
  slices : Listing SliceObject

/-- No list of the caches fails. -/
def Listings.Complete (o : Listings) : Prop := ∀ n, (o.caches n).isSome = true

/-- `endpointSliceToVinylCache`, for the caches that are listed in its namespace; a list that fails
is logged, and there is no request. -/
def endpointSliceToVinylCache (list : Text → Option (List VinylCache)) (es : SliceObject) :
    List ObjectKey :=
  let svcName := (es.labels labelServiceName).getD []
  if svcName = [] then []
  else
    match list es.namespace_ with
    | none => []
    | some caches =>
      (caches.filter fun vc => vc.spec.backends.any fun b => b.serviceRef = svcName).map cacheKey

/-- The caches of a namespace, as they are listed. -/
def Informers.listCaches (i : Informers) (o : Option (Listing VinylCache)) (namespace_ : Text) :
    Option (List VinylCache) :=
  o.map fun o => o.run (i.caches.objects.filter fun vc => vc.namespace_ = namespace_)

/-- The keys that an event is mapped to when it is delivered. -/
def requests (i : Informers) (o : Listings) : WatchEvent → List ObjectKey
  | .cache k => [k]
  | .pod objects => objects.flatMap fun p => podToVinylCache p.toPodMeta
  | .slice objects => objects.zipIdx.flatMap fun (s, n) =>
    endpointSliceToVinylCache (i.listCaches (o.caches n)) s

/-! ## What a pass reads -/

/-- A question of a pass. -/
inductive Query where
  | cache (k : ObjectKey)
  /-- the pods with this value of the label `app` -/
  | pods (namespace_ app : Text)
  | slices (namespace_ service : Text)

/-- An answer to a pass. -/
inductive Answer where
  | cache (vc : Option VinylCache)
  | pods (pods : List Pod)
  | slices (slices : List EndpointSlice)

/-- The pods of a cache, as they are listed. -/
def Informers.listPods (i : Informers) (o : Listing PodObject) (namespace_ app : Text) : List Pod :=
  (o.run (i.pods.objects.filter fun p =>
    p.namespace_ = namespace_ && p.labels labelApp = some app)).map (·.pod)

/-- The slices of a Service, as they are listed. -/
def Informers.listSlices (i : Informers) (o : Listing SliceObject) (namespace_ service : Text) :
    List EndpointSlice :=
  (o.run (i.slices.objects.filter fun s =>
    s.namespace_ = namespace_ && s.labels labelServiceName = some service)).map (·.slice)

/-- What the informers answer. -/
def Informers.answer (i : Informers) (o : Listings) : Query → Answer
  | .cache k => .cache (i.caches.get k)
  | .pods namespace_ app => .pods (i.listPods o.pods namespace_ app)
  | .slices namespace_ service => .slices (i.listSlices o.slices namespace_ service)

/-- The reads of `Reconcile` that the VCL depends on, in their order. A resource that is gone or
being deleted is the only thing that is read. -/
def plan (k : ObjectKey) : List (Query × Answer) → Option Query
  | [] => some (.cache k)
  | (_, .cache (some vc)) :: reads =>
    if vc.deletionTimestamp.isSome then none
    else
      match reads with
      | [] => some (.pods vc.namespace_ vc.name)
      | _ :: lists =>
        vc.spec.backends[lists.length]?.map fun b => .slices vc.namespace_ b.serviceRef
  | _ => none

/-- **The operator as a control loop.** -/
def reconciler :
    LevelTriggered.Loop Informers Change WatchEvent ObjectKey Query Answer Listings where
  apply := Informers.apply
  note := Informers.event
  wakes i o e k := k ∈ requests i o e
  plan := plan
  answer := Informers.answer

/-! ## The VCL of a pass -/

section VCL

variable (go : Go) (sort : AddressSorter) (operatorIP : Text)

/-- `resolveBackendEndpoints`, for the slices listed for each backend. -/
def resolveBackendEndpoints (listed : List (BackendSpec × List EndpointSlice)) :
    Text → List Endpoint :=
  listed.foldl (fun out e =>
    Function.update out e.1.name (sort.run (e.2.foldl (appendSlice e.1) []))) fun _ => []

/-- The VCL that a pass generates from what it has read. -/
def passVCL : List (Query × Answer) → Option Result
  | (_, .cache (some vc)) :: (_, .pods pods) :: lists =>
    let slices := lists.filterMap fun e => match e.2 with
      | .slices slices => some slices
      | _ => none
    some (desiredVCL go vc (resolveBackendEndpoints sort (vc.spec.backends.zip slices)) operatorIP
      pods)
  | _ => none

/-- The VCL that belongs to what the informers hold, for an order of the pods and one of the slices
of each backend, by its position. There is none for a resource that is gone or being deleted. -/
def currentVCL (pods : Listing PodObject) (slices : ℕ → Listing SliceObject) (i : Informers)
    (k : ObjectKey) : Option Result :=
  (i.caches.get k).bind fun vc =>
    if vc.deletionTimestamp.isSome then none
    else
      let listed := vc.spec.backends.mapIdx fun n b =>
        (b, i.listSlices (slices n) vc.namespace_ b.serviceRef)
      some (desiredVCL go vc (resolveBackendEndpoints sort listed) operatorIP
        (i.listPods pods vc.namespace_ vc.name))

end VCL

/-! ## Every change is noticed -/

/-- A pod that is listed for a cache is also mapped to it: the two labels agree. -/
def PodObject.Tidy (p : PodObject) : Prop :=
  ∀ app, p.labels labelApp = some app → p.labels labelVinylCacheName = some app

/-- The resource definition asks for the name of a Service. -/
def NamesServices (vc : VinylCache) : Prop := ∀ b ∈ vc.spec.backends, b.serviceRef ≠ []

/-- The labels of all pods agree, and all backends name a Service. -/
structure Informers.Tidy (i : Informers) : Prop where
  pods : ∀ p ∈ i.pods.objects, p.Tidy
  caches : ∀ vc ∈ i.caches.objects, NamesServices vc

/-- A change that brings in nothing untidy. -/
def Change.Tidy : Change → Prop
  | .putCache vc => NamesServices vc
  | .putPod p => p.Tidy
  | _ => True

section Noticed

variable {i : Informers} {o : Listings} {k : ObjectKey}

/-- What the informers hold stays tidy. -/
lemma Informers.Tidy.apply (hi : i.Tidy) {c : Change} (hc : c.Tidy) : (i.apply c).Tidy := by
  cases c with
  | putCache vc =>
    refine ⟨hi.pods, fun vc' hvc' => ?_⟩
    rcases i.caches.mem_put.1 hvc' with rfl | ⟨hvc', -⟩
    · exact hc
    · exact hi.caches vc' hvc'
  | deleteCache k => exact ⟨hi.pods, fun vc hvc => hi.caches vc (i.caches.mem_delete.1 hvc).1⟩
  | putPod p =>
    refine ⟨fun p' hp' => ?_, hi.caches⟩
    rcases i.pods.mem_put.1 hp' with rfl | ⟨hp', -⟩
    · exact hc
    · exact hi.pods p' hp'
  | deletePod k => exact ⟨fun p hp => hi.pods p (i.pods.mem_delete.1 hp).1, hi.caches⟩
  | putSlice s => exact ⟨hi.pods, hi.caches⟩
  | deleteSlice k => exact ⟨hi.pods, hi.caches⟩

/-- What a pass asks: the resource, and then what the resource names. -/
lemma query_of_isPass {h : List (Query × Answer)} (hp : reconciler.IsPass k h)
    {e : Query × Answer} (he : e ∈ h) :
    e.1 = .cache k ∨ ∃ vc, (.cache k, .cache (some vc)) ∈ h ∧
      (e.1 = .pods vc.namespace_ vc.name ∨
        ∃ b ∈ vc.spec.backends, e.1 = .slices vc.namespace_ b.serviceRef) := by
  obtain ⟨n, hn, rfl⟩ := List.mem_iff_getElem.1 he
  have hplan := hp.plan_take n hn
  cases h with
  | nil => exact absurd hn (Nat.not_lt_zero _)
  | cons first rest =>
    have hfirst : first.1 = .cache k := by
      have := hp.plan_take 0 (Nat.succ_pos _)
      exact (Option.some.inj this).symm
    cases n with
    | zero => exact .inl hfirst
    | succ n =>
      obtain ⟨q, r⟩ := first
      obtain rfl : q = .cache k := hfirst
      rw [List.take_succ_cons] at hplan
      change plan k ((Query.cache k, r) :: rest.take n) = _ at hplan
      unfold plan at hplan
      split at hplan
      · next heq => cases heq
      · next vc reads heq =>
        obtain ⟨hr, hreads⟩ := List.cons.inj heq
        obtain ⟨-, rfl⟩ := Prod.mk.inj hr
        refine .inr ⟨vc, List.mem_cons_self, ?_⟩
        split at hplan
        · cases hplan
        split at hplan
        · exact .inl (Option.some.inj hplan).symm
        · obtain ⟨b, hb, hq⟩ := Option.map_eq_some_iff.1 hplan
          exact .inr ⟨b, List.mem_of_getElem? hb, hq.symm⟩
      · cases hplan

/-- A change of a resource is mapped to the resource. -/
lemma get_caches_apply (c : Change) (h : (i.apply c).caches.get k ≠ i.caches.get k) :
    k ∈ requests (i.apply c) o (i.event c) := by
  cases c with
  | putCache vc =>
    have hkey : k = cacheKey vc := by
      by_contra hne
      exact h ((i.caches.get_put vc k).trans (if_neg hne))
    exact List.mem_singleton.2 hkey
  | deleteCache k' =>
    have hkey : k = k' := by
      by_contra hne
      exact h ((i.caches.get_delete k' k).trans (if_neg hne))
    exact List.mem_singleton.2 hkey
  | putPod p => exact absurd rfl h
  | deletePod k' => exact absurd rfl h
  | putSlice s => exact absurd rfl h
  | deleteSlice k' => exact absurd rfl h

/-- The pods that are listed change only with a pod that is mapped to the cache. -/
lemma listPods_apply (hi : i.Tidy) {c : Change} (hc : c.Tidy) {order : Listing PodObject}
    (h : (i.apply c).listPods order k.namespace_ k.name ≠ i.listPods order k.namespace_ k.name) :
    k ∈ requests (i.apply c) o (i.event c) := by
  -- an object of the event that is listed is mapped to the cache
  have hmapped {objects : List PodObject} {p : PodObject} (hp : p ∈ objects) (htidy : p.Tidy)
      (hlisted : (p.namespace_ = k.namespace_ && p.labels labelApp = some k.name) = true) :
      k ∈ objects.flatMap fun p => podToVinylCache p.toPodMeta := by
    simp only [Bool.and_eq_true, decide_eq_true_eq] at hlisted
    refine List.mem_flatMap.2 ⟨p, hp, ?_⟩
    rw [podToVinylCache, htidy k.name hlisted.2, hlisted.1]
    exact List.mem_singleton_self k
  by_contra hnot
  refine h ?_
  cases c with
  | putPod p =>
    refine congrArg (fun l => (order.run l).map _) (i.pods.filter_put (fun old hold => ?_) ?_)
    · by_contra hlisted
      have hmem := (i.pods.get_eq_some_iff.1 hold).1
      exact hnot (hmapped (by simp [hold]) (hi.pods old hmem) (by simpa using hlisted))
    · by_contra hlisted
      exact hnot (hmapped (by simp) hc (by simpa using hlisted))
  | deletePod k' =>
    refine congrArg (fun l => (order.run l).map _) (i.pods.filter_delete fun old hold => ?_)
    by_contra hlisted
    have hmem := (i.pods.get_eq_some_iff.1 hold).1
    exact hnot (hmapped (by simp [hold]) (hi.pods old hmem) (by simpa using hlisted))
  | putCache vc => rfl
  | deleteCache k' => rfl
  | putSlice s => rfl
  | deleteSlice k' => rfl

/-- **The caches that a slice is mapped to**, unless the list of them fails. -/
lemma mem_endpointSliceToVinylCache_iff {order : Option (Listing VinylCache)}
    (hlisted : order.isSome = true) {es : SliceObject} :
    k ∈ endpointSliceToVinylCache (i.listCaches order) es ↔
      ∃ vc, i.caches.get k = some vc ∧ vc.namespace_ = es.namespace_ ∧
        ∃ b ∈ vc.spec.backends, b.serviceRef ≠ [] ∧
          (es.labels labelServiceName).getD [] = b.serviceRef := by
  obtain ⟨order, rfl⟩ := Option.isSome_iff_exists.1 hlisted
  unfold endpointSliceToVinylCache Informers.listCaches
  dsimp only [Option.map_some]
  split_ifs with hname
  · refine iff_of_false List.not_mem_nil ?_
    rintro ⟨vc, -, -, b, -, hne, heq⟩
    exact hne (heq.symm.trans hname)
  · constructor
    · intro hk
      obtain ⟨vc, hvc, rfl⟩ := List.mem_map.1 hk
      obtain ⟨hmem, hany⟩ := List.mem_filter.1 hvc
      obtain ⟨hmem, hns⟩ := List.mem_filter.1 (order.mem_run.1 hmem)
      obtain ⟨b, hb, href⟩ := List.any_eq_true.1 hany
      have href := of_decide_eq_true href
      exact ⟨vc, i.caches.get_eq_some_iff.2 ⟨hmem, rfl⟩, of_decide_eq_true hns, b, hb,
        fun hnil => hname (href ▸ hnil), href.symm⟩
    · rintro ⟨vc, hget, hns, b, hb, -, heq⟩
      obtain ⟨hmem, rfl⟩ := i.caches.get_eq_some_iff.1 hget
      refine List.mem_map_of_mem (List.mem_filter.2 ⟨order.mem_run.2 (List.mem_filter.2
        ⟨hmem, decide_eq_true hns⟩), List.any_eq_true.2 ⟨b, hb, decide_eq_true heq.symm⟩⟩)

/-- The caches that an event of slices is mapped to. -/
lemma mem_requests_slice_iff (ho : o.Complete) {objects : List SliceObject} :
    k ∈ requests i o (.slice objects) ↔
      ∃ es ∈ objects, ∃ vc, i.caches.get k = some vc ∧ vc.namespace_ = es.namespace_ ∧
        ∃ b ∈ vc.spec.backends, b.serviceRef ≠ [] ∧
          (es.labels labelServiceName).getD [] = b.serviceRef := by
  refine List.mem_flatMap.trans ?_
  constructor
  · rintro ⟨⟨es, n⟩, hes, hk⟩
    exact ⟨es, List.fst_mem_of_mem_zipIdx hes, (mem_endpointSliceToVinylCache_iff (ho n)).1 hk⟩
  · rintro ⟨es, hes, hk⟩
    obtain ⟨n, hn⟩ := List.mem_iff_getElem?.1 hes
    exact ⟨(es, n), List.mem_zipIdx_iff_getElem?.2 hn,
      (mem_endpointSliceToVinylCache_iff (ho n)).2 hk⟩

/-- The slices of a backend change only with a slice that is mapped to the cache. -/
lemma listSlices_apply (ho : o.Complete) {vc : VinylCache} (hvc : i.caches.get k = some vc)
    {b : BackendSpec} (hb : b ∈ vc.spec.backends) (hname : b.serviceRef ≠ []) {c : Change}
    {order : Listing SliceObject}
    (h : (i.apply c).listSlices order vc.namespace_ b.serviceRef ≠
      i.listSlices order vc.namespace_ b.serviceRef) :
    k ∈ requests (i.apply c) o (i.event c) := by
  have hmapped {objects : List SliceObject} (es : SliceObject) (hes : es ∈ objects)
      (hlisted : (es.namespace_ = vc.namespace_ &&
        es.labels labelServiceName = some b.serviceRef) = true) :
      k ∈ requests i o (.slice objects) := by
    simp only [Bool.and_eq_true, decide_eq_true_eq] at hlisted
    refine (mem_requests_slice_iff ho).2 ⟨es, hes, vc, hvc, hlisted.1.symm, b, hb, hname, ?_⟩
    rw [hlisted.2]
    rfl
  by_contra hnot
  refine h ?_
  cases c with
  | putSlice s =>
    refine congrArg (fun l => (order.run l).map _) (i.slices.filter_put (fun old hold => ?_) ?_)
    · by_contra hlisted
      exact hnot (hmapped old (by simp [hold]) (by simpa using hlisted))
    · by_contra hlisted
      exact hnot (hmapped s (by simp) (by simpa using hlisted))
  | deleteSlice k' =>
    refine congrArg (fun l => (order.run l).map _) (i.slices.filter_delete fun old hold => ?_)
    by_contra hlisted
    exact hnot (hmapped old (by simp [hold]) (by simpa using hlisted))
  | putCache vc => rfl
  | deleteCache k' => rfl
  | putPod p => rfl
  | deletePod k' => rfl

/-- An event of a slice stays mapped to a cache, unless the cache itself changes. -/
lemma requests_apply (ho : o.Complete) {e : WatchEvent} (h : k ∈ requests i o e) (c : Change)
    (hsame : (i.apply c).caches.get k = i.caches.get k) : k ∈ requests (i.apply c) o e := by
  cases e with
  | cache k' => exact h
  | pod objects => exact h
  | slice objects =>
    rw [mem_requests_slice_iff ho] at h ⊢
    rwa [hsame]

end Noticed

/-- **No change goes unnoticed**, as long as the two labels of every pod agree and no list of the
caches fails.

**Proof sketch.** A pass reads its own resource, the pods with its name in one label and the slices
of its backends (`query_of_isPass`). The first is mapped to itself, the second through the other
label, and the third through the backends of the resource, which are those that the pass has read
unless the resource has changed since. -/
theorem covered :
    LevelTriggered.Covered reconciler Listings.Complete Informers.Tidy Change.Tidy where
  good_apply hi hc := hi.apply hc
  noticed {i c k h} hi hc hp hcur := by
    by_contra hnot
    push Not at hnot
    obtain ⟨hchanged, o, ho, hunnoticed⟩ := hnot
    replace hunnoticed : k ∉ requests (i.apply c) o (i.event c) :=
      of_decide_eq_false (Bool.eq_false_iff.2 hunnoticed)
    -- the resource is the one that the pass has read
    have hget {vc : VinylCache} (hvc : (Query.cache k, Answer.cache (some vc)) ∈ h) :
        i.caches.get k = some vc := by
      obtain ⟨_, hanswer⟩ := hcur _ hvc
      exact Answer.cache.inj hanswer
    refine hchanged fun e he => ?_
    obtain ⟨o', hanswer⟩ := hcur e he
    refine ⟨o', ?_⟩
    rw [← hanswer]
    show (i.apply c).answer o' e.1 = i.answer o' e.1
    rcases query_of_isPass hp he with hq | ⟨vc, hvc, hq | ⟨b, hb, hq⟩⟩
    · rw [hq]
      by_contra hne
      exact hunnoticed (get_caches_apply c fun heq => hne (congrArg Answer.cache heq))
    · obtain ⟨-, rfl⟩ := i.caches.get_eq_some_iff.1 (hget hvc)
      rw [hq]
      by_contra hne
      exact hunnoticed (listPods_apply hi hc fun heq => hne (congrArg Answer.pods heq))
    · have hname := hi.caches vc (i.caches.get_eq_some_iff.1 (hget hvc)).1 b hb
      rw [hq]
      by_contra hne
      exact hunnoticed
        (listSlices_apply ho (hget hvc) hb hname fun heq => hne (congrArg Answer.slices heq))
  kept {i c e k} h := by
    by_cases hsame : (i.apply c).caches.get k = i.caches.get k
    · exact .inl fun o ho =>
        decide_eq_true (requests_apply ho (of_decide_eq_true (h o ho)) c hsame)
    · exact .inr fun o ho => decide_eq_true (get_caches_apply c hsame)

/-! ## The VCL is current, or a pass is pending -/

section Current

variable {i : Informers} {k : ObjectKey} {reads : List (Query × Answer)}

/-- A complete pass begins with the resource. -/
lemma exists_first_read (hp : reconciler.IsPass k reads) (hcur : reconciler.Current i reads)
    (hend : plan k reads = none) :
    ∃ rest, reads = (.cache k, .cache (i.caches.get k)) :: rest := by
  cases reads with
  | nil => cases hend
  | cons first rest =>
    obtain ⟨q, r⟩ := first
    obtain rfl : Query.cache k = q := Option.some.inj (hp.plan_take 0 (Nat.succ_pos _))
    obtain ⟨o, hanswer⟩ := hcur _ List.mem_cons_self
    obtain rfl : Answer.cache (i.caches.get k) = r := hanswer
    exact ⟨rest, rfl⟩

/-- **What a complete pass has read** of a resource that is gone or being deleted: nothing else. -/
lemma reads_of_gone (hgone : ∀ vc, i.caches.get k = some vc → vc.deletionTimestamp.isSome = true)
    (hp : reconciler.IsPass k reads) (hcur : reconciler.Current i reads)
    (hend : plan k reads = none) : reads = [(.cache k, .cache (i.caches.get k))] := by
  obtain ⟨rest, rfl⟩ := exists_first_read hp hcur hend
  have hplan : plan k [(.cache k, .cache (i.caches.get k))] = none := by
    cases hget : i.caches.get k with
    | none => rfl
    | some vc => exact if_pos (hgone vc hget)
  cases rest with
  | nil => rfl
  | cons second lists =>
    have hsecond := hp.plan_take 1 (by simp)
    rw [List.take_succ_cons, List.take_zero] at hsecond
    exact absurd (hplan.symm.trans hsecond) (Option.some_ne_none _).symm

/-- After the pods, a pass asks for the slices of one backend after the other. -/
lemma plan_lists {vc : VinylCache} (hlive : ¬vc.deletionTimestamp.isSome = true)
    (second : Query × Answer) (lists : List (Query × Answer)) :
    plan k ((.cache k, .cache (some vc)) :: second :: lists) =
      vc.spec.backends[lists.length]?.map fun b => .slices vc.namespace_ b.serviceRef := by
  simp only [plan]
  rw [if_neg hlive]

/-- What a pass has read behind the pods, at a position: the slices of the backend there, in some
order. -/
lemma exists_listing_of_pass {vc : VinylCache} (hlive : ¬vc.deletionTimestamp.isSome = true)
    {second : Query × Answer} {lists : List (Query × Answer)}
    (hp : reconciler.IsPass k ((.cache k, .cache (some vc)) :: second :: lists))
    (hcur : reconciler.Current i lists) {n : ℕ} (hn : n < lists.length) :
    ∃ order : Listing SliceObject, some (lists[n]) =
      vc.spec.backends[n]?.map fun b => (Query.slices vc.namespace_ b.serviceRef,
        Answer.slices (i.listSlices order vc.namespace_ b.serviceRef)) := by
  have hplan := hp.plan_take (n + 2) (by simpa using hn)
  rw [List.take_succ_cons, List.take_succ_cons] at hplan
  have hlist := plan_lists (k := k) hlive second (lists.take n)
  rw [List.length_take, Nat.min_eq_left hn.le] at hlist
  obtain ⟨b, hb, hq⟩ := Option.map_eq_some_iff.1 (hlist.symm.trans hplan)
  replace hq : Query.slices vc.namespace_ b.serviceRef = (lists[n]).1 := hq
  obtain ⟨o, hanswer⟩ := hcur (lists[n]) (List.getElem_mem hn)
  rw [← hq] at hanswer
  refine ⟨o.slices, ?_⟩
  rw [hb, Option.map_some, Option.some.injEq]
  exact Prod.ext hq.symm hanswer.symm

/-- **What a complete pass has read** of another resource: its pods, and the slices of each of its
backends. -/
lemma reads_of_live {vc : VinylCache} (hget : i.caches.get k = some vc)
    (hlive : ¬vc.deletionTimestamp.isSome = true) (hp : reconciler.IsPass k reads)
    (hcur : reconciler.Current i reads) (hend : plan k reads = none) :
    ∃ (pods : Listing PodObject) (slices : ℕ → Listing SliceObject),
      reads = (.cache k, .cache (some vc)) ::
        (.pods vc.namespace_ vc.name, .pods (i.listPods pods vc.namespace_ vc.name)) ::
        vc.spec.backends.mapIdx fun n b => (.slices vc.namespace_ b.serviceRef,
          .slices (i.listSlices (slices n) vc.namespace_ b.serviceRef)) := by
  obtain ⟨rest, rfl⟩ := exists_first_read hp hcur hend
  rw [hget] at *
  have hsecond : plan k [(.cache k, .cache (some vc))] =
      some (.pods vc.namespace_ vc.name) := if_neg hlive
  cases rest with
  | nil => exact absurd (hsecond.symm.trans hend) (Option.some_ne_none _)
  | cons second lists =>
    obtain ⟨q, r⟩ := second
    obtain rfl : Query.pods vc.namespace_ vc.name = q :=
      Option.some.inj (hsecond.symm.trans (hp.plan_take 1 (by simp)))
    obtain ⟨o, hanswer⟩ := hcur (.pods vc.namespace_ vc.name, r) (by simp)
    obtain rfl : Answer.pods (i.listPods o.pods vc.namespace_ vc.name) = r := hanswer
    have hlength : vc.spec.backends.length ≤ lists.length := by
      rw [plan_lists hlive, Option.map_eq_none_iff] at hend
      exact List.getElem?_eq_none_iff.1 hend
    have hslices (n : ℕ) : ∃ order : Listing SliceObject,
        lists[n]? = vc.spec.backends[n]?.map fun b => (Query.slices vc.namespace_ b.serviceRef,
          Answer.slices (i.listSlices order vc.namespace_ b.serviceRef)) := by
      by_cases hn : n < lists.length
      · rw [List.getElem?_eq_getElem hn]
        exact exists_listing_of_pass hlive hp (fun e he => hcur e (by simp [he])) hn
      · refine ⟨.inOrder, ?_⟩
        rw [List.getElem?_eq_none (Nat.le_of_not_lt hn),
          List.getElem?_eq_none (hlength.trans (Nat.le_of_not_lt hn)), Option.map_none]
    choose slices hslices using hslices
    refine ⟨o.pods, slices, ?_⟩
    congr 2
    refine List.ext_getElem? fun n => ?_
    rw [hslices n, List.getElem?_mapIdx]

variable (go : Go) (sort : AddressSorter) (operatorIP : Text)

/-- **A complete pass over what the informers hold generates a current VCL.** -/
lemma exists_currentVCL (hp : reconciler.IsPass k reads) (hcur : reconciler.Current i reads)
    (hend : plan k reads = none) :
    ∃ pods slices,
      passVCL go sort operatorIP reads = currentVCL go sort operatorIP pods slices i k := by
  by_cases hgone : ∀ vc, i.caches.get k = some vc → vc.deletionTimestamp.isSome = true
  · refine ⟨.inOrder, fun _ => .inOrder, ?_⟩
    rw [reads_of_gone hgone hp hcur hend, currentVCL]
    cases hget : i.caches.get k with
    | none => rfl
    | some vc => simp [passVCL, hgone vc hget]
  · push Not at hgone
    obtain ⟨vc, hget, hlive⟩ := hgone
    have hlive : ¬vc.deletionTimestamp.isSome = true := by simpa using hlive
    obtain ⟨pods, slices, rfl⟩ := reads_of_live hget hlive hp hcur hend
    refine ⟨pods, slices, ?_⟩
    have hlists : (vc.spec.backends.mapIdx fun n b => ((.slices vc.namespace_ b.serviceRef,
        .slices (i.listSlices (slices n) vc.namespace_ b.serviceRef)) : Query × Answer)).filterMap
          (fun e => match e.2 with | .slices slices => some slices | _ => none) =
        vc.spec.backends.mapIdx fun n b =>
          i.listSlices (slices n) vc.namespace_ b.serviceRef := by
      rw [List.mapIdx_eq_zipIdx_map, List.mapIdx_eq_zipIdx_map, List.filterMap_map]
      exact congrFun List.filterMap_eq_map _
    have hzip : vc.spec.backends.zip (vc.spec.backends.mapIdx fun n b =>
          i.listSlices (slices n) vc.namespace_ b.serviceRef) =
        vc.spec.backends.mapIdx fun n b =>
          (b, i.listSlices (slices n) vc.namespace_ b.serviceRef) := by
      refine List.ext_getElem (by simp) fun n h₁ h₂ => ?_
      simp
    rw [currentVCL, hget, Option.bind_some, if_neg hlive, passVCL]
    dsimp only
    rw [hlists, hzip]

/-- **The VCL is current, or a pass is pending.** Take any run of the operator: objects come, change
and go, their events are delivered in any order, passes begin, read and end in between, any of them
may fail or be sent back, and every list comes in an order of its own. If the two labels of every
pod agree, every backend names a Service, and no list of the caches for an event of a slice fails,
then for every cache the VCL that the last complete pass has generated is one that belongs to what
the informers hold now, in some order of the lists, or an event that will be mapped to the cache is
still to be delivered, the cache is queued, a pass is running, or one was sent back and will be
repeated. The regular passes, every few minutes, are not needed for that.

**Proof sketch.** No change that a pass depends on goes unnoticed (`covered`), so what it has read
can be read now or another pass is pending (`LevelTriggered.current_or_pending`). What can be read
now is what a pass without interruption reads (`reads_of_live`). -/
theorem vcl_current_or_pending {start : Informers} (hstart : start.Tidy)
    {events : List (LevelTriggered.Event Change ObjectKey Listings)}
    (hevents : ∀ e ∈ events, e.Allowed Listings.Complete Change.Tidy)
    (hused : (LevelTriggered.run reconciler (.start start) events).used k = some reads) :
    (∃ pods slices, passVCL go sort operatorIP reads = currentVCL go sort operatorIP pods slices
        (LevelTriggered.run reconciler (.start start) events).store k) ∨
      LevelTriggered.Pending reconciler Listings.Complete
        (LevelTriggered.run reconciler (.start start) events) k := by
  obtain ⟨hpass, hend, hcur⟩ :=
    LevelTriggered.current_or_pending reconciler covered hstart hevents k hused
  exact hcur.imp_left fun hcur => exists_currentVCL go sort operatorIP hpass hcur hend

end Current

/-! ### Two slices -/

/-- A cache with a backend. -/
def watchedCache : VinylCache where
  namespace_ := "prod"
  name := "shop"
  spec := { backends := [{ name := "app", serviceRef := "app" }] }

/-- A slice of the Service of this backend. -/
def watchedSlice (name address : Text) : SliceObject where
  namespace_ := "prod"
  name := name
  labels := Table.ofList [(labelServiceName, "app")]
  slice := ⟨[some 8080], [{ addresses := [address] }]⟩

/-- Every list comes in the order of the informer. -/
def inOrder : Listings := ⟨fun _ => some .inOrder, .inOrder, .inOrder⟩

/-- Every list comes the other way round. -/
def reversed : Listings := ⟨fun _ => some .reversed, .reversed, .reversed⟩

/-- A pass for the cache. -/
def wholePass (o : Listings) : List (LevelTriggered.Event Change ObjectKey Listings) :=
  let k := cacheKey watchedCache
  [.begin k, .read k o, .read k o, .read k o, .finish k]

/-- Two slices appear, one before and one after a first pass. Another pass follows when the event of
the first one has been delivered. -/
def slicesAppear : List (LevelTriggered.Event Change ObjectKey Listings) :=
  [.change (.putCache watchedCache), .deliver 0 inOrder,
    .change (.putSlice (watchedSlice "app-1" "10.0.0.1"))] ++ wholePass inOrder ++
  [.change (.putSlice (watchedSlice "app-2" "10.0.0.2")), .deliver 0 reversed] ++
    wholePass reversed

/-- Once the other event has been delivered, too, and a third pass has been made, nothing is
pending, and the VCL is a current one. -/
theorem vcl_current_or_pending_slicesAppear :
    let go : Go := ⟨fun _ => [], fun _ => [], id⟩
    let s := LevelTriggered.run reconciler (.start ⟨.empty, .empty, .empty⟩)
      (slicesAppear ++ .deliver 0 inOrder :: wholePass inOrder)
    ∃ reads, s.used (cacheKey watchedCache) = some reads ∧
      ∃ pods slices, passVCL go (Sorter.stable _) [] reads =
        currentVCL go (Sorter.stable _) [] pods slices s.store (cacheKey watchedCache) := by
  refine ⟨_, rfl, (vcl_current_or_pending _ _ _ ⟨?_, ?_⟩ ?_ rfl).resolve_right ?_⟩
  · exact fun p hp => absurd hp List.not_mem_nil
  · exact fun vc hvc => absurd hvc List.not_mem_nil
  · simp [slicesAppear, wholePass, LevelTriggered.Event.Allowed, Change.Tidy, NamesServices,
      watchedCache, inOrder, reversed, Listings.Complete]
  · rintro ((hqueued | ⟨n, hn, -⟩) | hrunning | hpostponed)
    · cases hqueued
    · cases hn
    · cases hrunning
    · cases hpostponed

end CloudVinyl.Controller
