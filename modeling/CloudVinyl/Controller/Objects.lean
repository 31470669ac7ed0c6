import CloudVinyl.Api.VinylCache
import CloudVinyl.Lib.Words

set_option relaxedAutoImplicit false
set_option autoImplicit false

/-!
# The objects of a cache

A reconcile creates or updates a number of objects for a cache, each of which has the name of the
cache with a fixed suffix: `statefulset.go`, `service.go`, `networkpolicy.go`, `endpointslice.go`,
`configmap.go` and `monitoring.go` of `internal/controller`, with the names that
`internal/monitoring` gives. The Secret of the agent is shared by all caches of a namespace and is
left out.

## Main definitions

* `Controller.ObjectRef` — an object of the cluster by kind, namespace and name.
* `Controller.reconciledObjects` — the objects that a reconcile creates or updates, in order.

## Main results

* `Controller.disjoint_reconciledObjects_iff` — when two caches have no object in common.
-/

namespace CloudVinyl.Controller

/-- The kinds of objects that a pass applies. -/
inductive Kind where
  | statefulSet
  | service
  | serviceMonitor
  | prometheusRule
  | endpointSlice
  | networkPolicy
  | configMap
  deriving DecidableEq

/-- An object, by its kind and name. -/
structure ObjectRef where
  kind : Kind
  namespace_ : Text
  name : Text
  deriving DecidableEq

/-- What a reconcile finds besides the resource: whether the catalog has its runtime, and which
kinds of the monitoring group the cluster knows. -/
structure Surroundings where
  resolved : Bool
  crdInstalled : Kind → Bool

/-- The object of a kind whose name is that of the cache with a suffix. -/
def objectOf (vc : VinylCache) (kind : Kind) (suffix : Text) : ObjectRef :=
  ⟨kind, vc.namespace_, vc.name ++ suffix⟩

/-! ## The steps of a reconcile -/

/-- `reconcileStatefulSet` -/
def reconcileStatefulSet (vc : VinylCache) : List ObjectRef := [objectOf vc .statefulSet ""]

/-- `reconcileHeadlessService` -/
def reconcileHeadlessService (vc : VinylCache) : List ObjectRef := [objectOf vc .service ""]

/-- `reconcileTrafficService` -/
def reconcileTrafficService (vc : VinylCache) : List ObjectRef := [objectOf vc .service "-traffic"]

/-- `reconcileInvalidationService` -/
def reconcileInvalidationService (vc : VinylCache) : List ObjectRef :=
  [objectOf vc .service "-invalidation"]

/-- `reconcileServices` -/
def reconcileServices (vc : VinylCache) : List ObjectRef :=
  reconcileHeadlessService vc ++ reconcileTrafficService vc ++ reconcileInvalidationService vc

/-- `reconcileMonitoring`: what is asked for and known to the cluster. -/
def reconcileMonitoring (around : Surroundings) (vc : VinylCache) : List ObjectRef :=
  (if vc.spec.monitoring.serviceMonitor.any (·.enabled) && around.crdInstalled .serviceMonitor
    then [objectOf vc .serviceMonitor "-metrics"] else []) ++
  (if vc.spec.monitoring.prometheusRules.any (·.enabled) && around.crdInstalled .prometheusRule
    then [objectOf vc .prometheusRule "-alerts"] else [])

/-- `reconcileEndpointSlice` -/
def reconcileEndpointSlice (vc : VinylCache) : List ObjectRef :=
  [objectOf vc .endpointSlice "-invalidation-operator"]

/-- `reconcileTrafficNetworkPolicy` -/
def reconcileTrafficNetworkPolicy (vc : VinylCache) : List ObjectRef :=
  [objectOf vc .networkPolicy "-traffic"]

/-- `reconcileInvalidationNetworkPolicy` -/
def reconcileInvalidationNetworkPolicy (vc : VinylCache) : List ObjectRef :=
  [objectOf vc .networkPolicy "-invalidation"]

/-- `reconcileAgentNetworkPolicy` -/
def reconcileAgentNetworkPolicy (vc : VinylCache) : List ObjectRef :=
  [objectOf vc .networkPolicy "-agent"]

/-- `reconcileExporterNetworkPolicy`; without an exporter the policy is deleted. -/
def reconcileExporterNetworkPolicy (vc : VinylCache) : List ObjectRef :=
  if vc.spec.exporter.any (·.enabled) then [objectOf vc .networkPolicy "-exporter"] else []

/-- `reconcileTracerNetworkPolicy`; without tracing the policy is deleted. -/
def reconcileTracerNetworkPolicy (vc : VinylCache) : List ObjectRef :=
  if vc.spec.tracing.enabled then [objectOf vc .networkPolicy "-tracer"] else []

/-- `reconcileNetworkPolicies` -/
def reconcileNetworkPolicies (vc : VinylCache) : List ObjectRef :=
  reconcileTrafficNetworkPolicy vc ++ reconcileInvalidationNetworkPolicy vc ++
    reconcileAgentNetworkPolicy vc ++ reconcileExporterNetworkPolicy vc ++
    reconcileTracerNetworkPolicy vc

/-- `reconcileConfigMap` -/
def reconcileConfigMap (vc : VinylCache) : List ObjectRef :=
  [objectOf vc .configMap "-bootstrap-vcl"]

/-- The objects that a reconcile creates or updates for a cache, in the order of `Reconcile`; one
that fails on the way stops at a part of them. -/
def reconciledObjects (around : Surroundings) (vc : VinylCache) : List ObjectRef :=
  (if around.resolved then reconcileStatefulSet vc else []) ++ reconcileServices vc ++
    reconcileMonitoring around vc ++ reconcileEndpointSlice vc ++ reconcileNetworkPolicies vc ++
    reconcileConfigMap vc

/-! ## Names -/

/-- The kinds of the objects with their suffixes. -/
def suffixes : List (Kind × Text) :=
  [(.statefulSet, ""), (.service, ""), (.service, "-traffic"), (.service, "-invalidation"),
    (.serviceMonitor, "-metrics"), (.prometheusRule, "-alerts"),
    (.endpointSlice, "-invalidation-operator"), (.networkPolicy, "-traffic"),
    (.networkPolicy, "-invalidation"), (.networkPolicy, "-agent"), (.networkPolicy, "-exporter"),
    (.networkPolicy, "-tracer"), (.configMap, "-bootstrap-vcl")]

/-- No step of a reconcile makes up a name of its own. -/
lemma reconciledObjects_sublist (around : Surroundings) (vc : VinylCache) :
    List.Sublist (reconciledObjects around vc) (suffixes.map fun p => objectOf vc p.1 p.2) := by
  have hite : ∀ (b : Bool) (l : List ObjectRef), List.Sublist (if b then l else []) l := by
    intro b l
    cases b
    · exact List.nil_sublist l
    · exact List.Sublist.refl l
  have hmonitoring : List.Sublist (reconcileMonitoring around vc)
      ([objectOf vc .serviceMonitor "-metrics"] ++ [objectOf vc .prometheusRule "-alerts"]) :=
    (hite _ _).append (hite _ _)
  have hpolicies : List.Sublist (reconcileNetworkPolicies vc)
      (reconcileTrafficNetworkPolicy vc ++ reconcileInvalidationNetworkPolicy vc ++
        reconcileAgentNetworkPolicy vc ++ [objectOf vc .networkPolicy "-exporter"] ++
        [objectOf vc .networkPolicy "-tracer"]) :=
    ((List.Sublist.refl _).append (hite _ _)).append (hite _ _)
  exact (((((hite _ _).append (List.Sublist.refl _)).append hmonitoring).append
    (List.Sublist.refl _)).append hpolicies).append (List.Sublist.refl _)

/-- The Services of a cache are reconciled in any case. -/
lemma service_mem_reconciledObjects (around : Surroundings) (vc : VinylCache) {suffix : Text}
    (h : suffix ∈ [("" : Text), "-traffic", "-invalidation"]) :
    objectOf vc .service suffix ∈ reconciledObjects around vc := by
  have hmem : objectOf vc .service suffix ∈ reconcileServices vc :=
    List.mem_map_of_mem (f := objectOf vc .service) h
  unfold reconciledObjects
  simp only [List.mem_append, hmem, true_or, or_true]

/-- Among the suffixes of one kind, only the empty one of the headless Service is the end of
another one. -/
lemma eq_or_headless_of_suffix : ∀ p ∈ suffixes, ∀ q ∈ suffixes, p.1 = q.1 → p.2 <:+ q.2 →
    p.2 = q.2 ∨ (p.2 = [] ∧ (q.2 = "-traffic" ∨ q.2 = "-invalidation")) := by
  decide +kernel

/-- The name `c` is the name `d` with the suffix of a Service. -/
def Extends (c d : Text) : Prop := c = d ++ "-traffic" ∨ c = d ++ "-invalidation"

/-- Two names with suffixes of one kind coincide only if one extends the other. -/
lemma extends_of_append_eq {c d : Text} {p q : Kind × Text} (hp : p ∈ suffixes)
    (hq : q ∈ suffixes) (hkind : p.1 = q.1) (hne : c ≠ d) (h : c ++ p.2 = d ++ q.2) :
    Extends c d ∨ Extends d c := by
  have hcase : ∀ {c d : Text} {p q : Kind × Text}, p ∈ suffixes → q ∈ suffixes → p.1 = q.1 →
      c ≠ d → c ++ p.2 = d ++ q.2 → p.2 <:+ q.2 → Extends c d := by
    intro c d p q hp hq hkind hne h hsuf
    rcases eq_or_headless_of_suffix p hp q hq hkind hsuf with heq | ⟨hnil, hservice⟩
    · rw [heq] at h
      exact absurd (List.append_cancel_right h) hne
    · rw [hnil, List.append_nil] at h
      rcases hservice with heq | heq
      · exact .inl (heq ▸ h)
      · exact .inr (heq ▸ h)
  -- both suffixes end the common name, so one of them ends the other
  rcases List.suffix_or_suffix_of_suffix (List.suffix_append c p.2) (h ▸ List.suffix_append d q.2)
    with hsuf | hsuf
  · exact .inl (hcase hp hq hkind hne h hsuf)
  · exact .inr (hcase hq hp hkind.symm hne.symm h.symm hsuf)

/-- **Caches with an object in common.** Two caches of one namespace have no object in common
exactly when the name of neither is that of the other with the suffix of the traffic or the
invalidation Service.

**Proof sketch.** A common object has the name of each cache with a suffix of its kind, and only
the suffix of the headless Service, which is empty, is the end of another suffix of its kind. In
the other direction the headless Service of one cache is a Service of the other. -/
theorem disjoint_reconciledObjects_iff (around around' : Surroundings) (vc vc' : VinylCache)
    (hns : vc.namespace_ = vc'.namespace_) (hne : vc.name ≠ vc'.name) :
    List.Disjoint (reconciledObjects around vc) (reconciledObjects around' vc') ↔
      ¬ Extends vc.name vc'.name ∧ ¬ Extends vc'.name vc.name := by
  -- the headless Service of a cache whose name extends that of another one
  have hclash : ∀ {c d : VinylCache}, c.namespace_ = d.namespace_ → Extends c.name d.name →
      ∃ suffix ∈ [("" : Text), "-traffic", "-invalidation"],
        objectOf c .service "" = objectOf d .service suffix := by
    intro c d hns hext
    rcases hext with hname | hname
    · exact ⟨"-traffic", by simp, by rw [objectOf, objectOf, hns, hname]; simp⟩
    · exact ⟨"-invalidation", by simp, by rw [objectOf, objectOf, hns, hname]; simp⟩
  have hempty : ("" : Text) ∈ [("" : Text), "-traffic", "-invalidation"] := List.mem_cons_self
  constructor
  · intro hdis
    refine ⟨fun hext => ?_, fun hext => ?_⟩
    · obtain ⟨suffix, hsuffix, heq⟩ := hclash hns hext
      refine hdis (service_mem_reconciledObjects around vc hempty) ?_
      rw [heq]
      exact service_mem_reconciledObjects around' vc' hsuffix
    · obtain ⟨suffix, hsuffix, heq⟩ := hclash hns.symm hext
      refine hdis ?_ (service_mem_reconciledObjects around' vc' hempty)
      rw [heq]
      exact service_mem_reconciledObjects around vc hsuffix
  · rintro ⟨hvc, hvc'⟩ o ho ho'
    obtain ⟨p, hp, rfl⟩ := List.mem_map.1 ((reconciledObjects_sublist around vc).subset ho)
    obtain ⟨q, hq, heq⟩ := List.mem_map.1 ((reconciledObjects_sublist around' vc').subset ho')
    simp only [objectOf, ObjectRef.mk.injEq] at heq
    rcases extends_of_append_eq hp hq heq.1.symm hne heq.2.2.symm with hext | hext
    · exact hvc hext
    · exact hvc' hext

/-- The caches `shop` and `blog` have no object in common. -/
theorem disjoint_reconciledObjects_shop_blog :
    List.Disjoint
      (reconciledObjects ⟨true, fun _ => true⟩
        { namespace_ := "prod", name := "shop", spec := { tracing := { enabled := true } } })
      (reconciledObjects ⟨true, fun _ => true⟩
        { namespace_ := "prod", name := "blog", spec := { exporter := some {} } }) := by
  refine (disjoint_reconciledObjects_iff _ _ _ _ ?_ ?_).2 ⟨?_, ?_⟩
  · rfl
  · decide
  · rintro (h | h) <;> exact absurd h (by decide)
  · rintro (h | h) <;> exact absurd h (by decide)

/-- The traffic Service of the cache `shop` is the headless Service of the cache `shop-traffic`. -/
theorem trafficService_shop_eq_headlessService :
    ¬ List.Disjoint
      (reconciledObjects ⟨true, fun _ => true⟩ { namespace_ := "prod", name := "shop", spec := {} })
      (reconciledObjects ⟨true, fun _ => true⟩
        { namespace_ := "prod", name := "shop-traffic", spec := {} }) := by
  intro h
  exact h (a := ⟨.service, "prod", "shop-traffic"⟩) (by decide) (by decide)

end CloudVinyl.Controller
