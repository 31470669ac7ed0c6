import CloudVinyl.Controller.Objects
import CloudVinyl.Lib.Table
import CloudVinyl.Webhook.Update

set_option relaxedAutoImplicit false
set_option autoImplicit false

/-!
# The labels of the pods

The pods of a cache are found by two labels that the template of the StatefulSet gives them:
`reconcileStatefulSet` of `statefulset.go`, with the selectors of `status.go`, `service.go`,
`networkpolicy.go` and `vcl_push.go` and the mapping of pod events of `vinylcache_controller.go`,
all in `internal/controller`. The labels of the user are put over those of the operator.

## Main definitions

* `Controller.podLabels` — the labels of the pod template.
* `Controller.podSelectors` — the objects that select pods, with their selectors.
* `Controller.FindsPods` — everything that looks for the pods of a cache finds them.

## Main results

* `Controller.podLabels_eq_iff` — when a label of the operator stays as it is.
* `Controller.findsPods_iff` — the labels of the user with which the pods are found.
-/

namespace CloudVinyl.Controller

open Webhook (validateVinylCache)

/-- `labelApp` -/
def labelApp : Text := "app"

/-- `labelVinylCacheName` -/
def labelVinylCacheName : Text := "vinyl.bluedynamics.eu/cache-name"

/-- The labels of a pod, and its namespace. -/
structure PodMeta where
  namespace_ : Text
  labels : Table Text Text

section Labels

variable (vc : VinylCache)

/-- The labels that the operator gives to its pods. -/
def operatorLabels : Table Text Text :=
  Table.ofList [(labelApp, vc.name), (labelVinylCacheName, vc.name)]

/-- The labels of the pod template, with those of the user. -/
def podLabels : Table Text Text := (operatorLabels vc).copy (Table.ofList vc.spec.pod.labels)

/-- A pod of the StatefulSet. -/
def podMeta : PodMeta := ⟨vc.namespace_, podLabels vc⟩

/-! ## Who looks for pods -/

/-- `podSelectorLabels`, which the StatefulSet selects by. -/
def podSelectorLabels : List (Text × Text) := [(labelApp, vc.name)]

/-- Objects that select the pods with the label of the cache. -/
def selecting (objects : List ObjectRef) : List (ObjectRef × List (Text × Text)) :=
  objects.map fun o => (o, [(labelApp, vc.name)])

/-- The objects that select pods, with their selectors. The invalidation Service has none. -/
def podSelectors : List (ObjectRef × List (Text × Text)) :=
  (reconcileStatefulSet vc).map (fun o => (o, podSelectorLabels vc)) ++
    selecting vc (reconcileHeadlessService vc) ++ selecting vc (reconcileTrafficService vc) ++
    selecting vc (reconcileNetworkPolicies vc)

/-- The pods that `collectPeers` lists. -/
def Listed (pod : PodMeta) : Prop :=
  pod.namespace_ = vc.namespace_ ∧ Table.Selects [(labelApp, vc.name)] pod.labels

end Labels

/-- A resource by namespace and name. -/
structure ObjectKey where
  namespace_ : Text
  name : Text
  deriving DecidableEq

/-- The key of a resource. -/
def cacheKey (vc : VinylCache) : ObjectKey := ⟨vc.namespace_, vc.name⟩

/-- `podToVinylCache`: the resources to reconcile after an event of a pod. -/
def podToVinylCache (pod : PodMeta) : List ObjectKey :=
  match pod.labels labelVinylCacheName with
  | none => []
  | some cacheName => [⟨pod.namespace_, cacheName⟩]

/-- Everything that looks for the pods of a cache finds them. -/
structure FindsPods (vc : VinylCache) : Prop where
  selected : ∀ s ∈ podSelectors vc, Table.Selects s.2 (podLabels vc)
  listed : Listed vc (podMeta vc)
  mapped : podToVinylCache (podMeta vc) = [⟨vc.namespace_, vc.name⟩]

/-! ## Whose pods they are -/

section Labels

variable {vc : VinylCache}

/-- A label of the operator stays as it is just when the user gives it no other value. -/
lemma podLabels_eq_iff {k : Text} (hk : k ∈ [labelApp, labelVinylCacheName]) :
    podLabels vc k = some vc.name ↔
      ∀ v, vc.spec.pod.labels.lookup k = some v → v = vc.name := by
  have hown : operatorLabels vc k = some vc.name := by
    rcases List.mem_pair.1 hk with rfl | rfl
    · rfl
    · rfl
  exact Table.copy_eq_some_iff hown

/-- The selector of a cache selects its pods just when their label is its name. -/
lemma selects_app_iff :
    Table.Selects [(labelApp, vc.name)] (podLabels vc) ↔ podLabels vc labelApp = some vc.name :=
  List.forall_mem_singleton

/-- All selectors ask for the same label. -/
lemma eq_of_mem_podSelectors {s : ObjectRef × List (Text × Text)} (h : s ∈ podSelectors vc) :
    s.2 = [(labelApp, vc.name)] := by
  simp only [podSelectors, selecting, List.mem_append, List.mem_map] at h
  rcases h with ((⟨o, -, rfl⟩ | ⟨o, -, rfl⟩) | ⟨o, -, rfl⟩) | ⟨o, -, rfl⟩
  · rfl
  · rfl
  · rfl
  · rfl

/-- An event of a pod is for the cache that the other label names. -/
lemma podToVinylCache_podMeta : podToVinylCache (podMeta vc) = [⟨vc.namespace_, vc.name⟩] ↔
    podLabels vc labelVinylCacheName = some vc.name := by
  have hlabels : (podMeta vc).labels = podLabels vc := rfl
  unfold podToVinylCache
  rw [hlabels]
  cases podLabels vc labelVinylCacheName with
  | none => simp
  | some cacheName => simp [podMeta]

end Labels

/-- **The pods are found** just when the labels of the user give neither label of the operator
another value than the name of the cache. -/
theorem findsPods_iff (vc : VinylCache) : FindsPods vc ↔
    ∀ k ∈ [labelApp, labelVinylCacheName], ∀ v, vc.spec.pod.labels.lookup k = some v →
      v = vc.name := by
  have hlabels : (∀ k ∈ [labelApp, labelVinylCacheName], ∀ v,
      vc.spec.pod.labels.lookup k = some v → v = vc.name) ↔
      podLabels vc labelApp = some vc.name ∧ podLabels vc labelVinylCacheName = some vc.name := by
    rw [List.forall_mem_cons, List.forall_mem_singleton, podLabels_eq_iff (by simp),
      podLabels_eq_iff (by simp)]
  rw [hlabels]
  constructor
  · intro h
    exact ⟨selects_app_iff.1 h.listed.2, podToVinylCache_podMeta.1 h.mapped⟩
  · rintro ⟨happ, hname⟩
    refine ⟨fun s hs => ?_, ⟨rfl, selects_app_iff.2 happ⟩, podToVinylCache_podMeta.2 hname⟩
    rw [eq_of_mem_podSelectors hs]
    exact selects_app_iff.2 happ

/-- The webhook accepts a label of the user that takes the pods away from the StatefulSet. -/
theorem appLabel_notFound :
    let vc : VinylCache :=
      { namespace_ := "prod", name := "shop"
        spec := { pod := { labels := [("app", "frontend")] } } }
    validateVinylCache Webhook.asciiStd vc = none ∧
      ¬Table.Selects (podSelectorLabels vc) (podLabels vc) ∧ ¬Listed vc (podMeta vc) ∧
      ¬FindsPods vc := by
  intro vc
  have hselects : ¬Table.Selects (podSelectorLabels vc) (podLabels vc) := by
    intro h
    have happ := h (labelApp, vc.name) List.mem_cons_self
    revert happ
    decide
  exact ⟨by decide +kernel, hselects, fun h => hselects h.2, fun h => hselects h.listed.2⟩

end CloudVinyl.Controller
