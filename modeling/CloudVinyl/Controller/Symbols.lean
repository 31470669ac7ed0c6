import Mathlib.Data.List.Nodup
import CloudVinyl.Controller.PodOrder
import CloudVinyl.Webhook.Validator

set_option relaxedAutoImplicit false
set_option autoImplicit false

/-!
# The symbols of the generated VCL

Backends and directors share one namespace in a VCL, and the generator builds their names in five
ways: `<group>_<index>` for an endpoint, `noendpoints_<group>` for a placeholder, the sanitized
name of a pod for a peer, the name of the group for its director, and `director_<cache>` for the
cluster director. Whether two of them meet depends on the names that the user chose.

## Main definitions

* `Controller.NoClash` — the conditions on names, endpoints and pods under which no two names meet.

## Main results

* `Controller.declaredNames_eq` — the symbols are the names that the text declares.
* `Controller.symbols_nodup_iff` — the declared names are pairwise distinct exactly under these
  conditions, or under a full override.
-/

namespace CloudVinyl.Controller

open Generator

/-! ## The five kinds of names -/

/-- The backend of an endpoint. -/
def endpointName (group : Text) (i : ℕ) : Text := group ++ "_" ++ Text.decimal i

/-- The placeholder of a group without endpoints. -/
def placeholderName (group : Text) : Text := "noendpoints_" ++ group

/-- The cluster director. -/
def clusterDirectorName (cache : Text) : Text := "director_" ++ sanitizeName cache

/-- The name of an endpoint tells its group and its index. -/
lemma endpointName_inj {g g' : Text} {i i' : ℕ} (h : endpointName g i = endpointName g' i') :
    g = g' ∧ i = i' := by
  have hdigits : ∀ n, '_' ∉ Text.decimal n := fun n hn =>
    absurd (Text.isDigit_of_mem_decimal hn) (by decide)
  have hcut : g ++ '_' :: Text.decimal i = g' ++ '_' :: Text.decimal i' := by
    simpa [endpointName] using h
  obtain ⟨hg, hi⟩ := Words.append_cons_inj_right (hdigits i) (hdigits i') hcut
  exact ⟨hg, Text.decimal_injective hi⟩

/-- The name of a placeholder tells its group. -/
lemma placeholderName_inj {g g' : Text} (h : placeholderName g = placeholderName g') : g = g' := by
  unfold placeholderName at h
  exact List.append_cancel_left h

/-- A placeholder has a name. -/
lemma placeholderName_ne_nil (g : Text) : placeholderName g ≠ [] := by
  unfold placeholderName
  exact List.append_ne_nil_of_left_ne_nil (by decide) g

/-- How the name of a placeholder begins. -/
lemma head_placeholder : List.head? ("noendpoints_" : Text) = some 'n' := by decide

/-- How the name of the cluster director begins. -/
lemma head_director : List.head? ("director_" : Text) = some 'd' := by decide

/-- That beginning has one `d`. -/
lemma count_director : List.count 'd' ("director_" : Text) = 1 := by decide

/-- A placeholder is not named like the cluster director. -/
lemma placeholderName_ne_director (g cache : Text) :
    placeholderName g ≠ clusterDirectorName cache := by
  intro h
  have hfirst : (placeholderName g).head? = (clusterDirectorName cache).head? := by rw [h]
  unfold placeholderName clusterDirectorName at hfirst
  rw [List.head?_append, List.head?_append, head_placeholder, head_director, Option.some_or,
    Option.some_or, Option.some.injEq] at hfirst
  revert hfirst
  decide

/-- The peer of the pod with ordinal `i` is never named like the cluster director: the name of the
director has one letter `d` more than that of the cache. -/
lemma endpointName_ne_director (cache : Text) (i : ℕ) :
    endpointName (sanitizeName cache) i ≠ clusterDirectorName cache := by
  intro h
  have hcount : List.count 'd' (endpointName (sanitizeName cache) i) =
      List.count 'd' (clusterDirectorName cache) := by rw [h]
  have hdigits : List.count 'd' (Text.decimal i) = 0 :=
    List.count_eq_zero.2 fun hd => absurd (Text.isDigit_of_mem_decimal hd) (by decide)
  have hunder : List.count 'd' ("_" : Text) = 0 := by decide
  unfold endpointName clusterDirectorName at hcount
  rw [List.count_append, List.count_append, List.count_append, hdigits, hunder,
    count_director] at hcount
  omega

/-! ## Names in the template data -/

/-- What the pattern does not admit is in no name. -/
lemma not_mem_of_conforms {b : BackendSpec} (h : b.nameConforms = true) {c : Char}
    (hc : (c.isAlphanum || c = '_') = false) : c ∉ b.name := by
  intro hmem
  unfold BackendSpec.nameConforms at h
  cases hb : b.name with
  | nil =>
    rw [hb] at hmem
    exact absurd hmem List.not_mem_nil
  | cons d ds =>
    rw [hb] at h hmem
    simp only [Bool.and_eq_true, List.all_eq_true] at h
    rcases List.mem_cons.1 hmem with rfl | hmem
    · rw [Char.isAlphanum, h.1] at hc
      exact absurd hc (by simp)
    · exact absurd (h.2 _ hmem) (Bool.eq_false_iff.1 hc)

/-- An admitted name is used as it is. -/
lemma sanitizeName_of_conforms {b : BackendSpec} (h : b.nameConforms = true) :
    sanitizeName b.name = b.name := by
  have hdash : '-' ∉ b.name := not_mem_of_conforms h (by decide)
  have hid : ∀ c ∈ b.name, (if c = '-' then '_' else c) = c := by
    intro c hc
    exact if_neg fun (h : c = '-') => hdash (h ▸ hc)
  unfold sanitizeName Text.replaceAll
  rw [List.map_congr_left hid, List.map_id']

section Groups

variable (go : Go) (endpoints : Text → List Endpoint) (b : BackendSpec)

/-- The name of an endpoint's backend. -/
lemma endpointDef_name (group : Text) (i : ℕ) (ep : Endpoint) :
    (endpointDef group b i ep).name = endpointName group i := by
  have hprobe : ∀ (d : BackendDef) (p : Option BackendProbeSpec),
      (d.withProbe p).name = d.name := by
    intro d p
    cases p with
    | none => rfl
    | some p =>
      simp only [BackendDef.withProbe]
      split <;> rfl
  have hconn : ∀ (d : BackendDef) (c : Option ConnectionParameters),
      (d.withConnection c).name = d.name := by
    intro d c
    cases c <;> rfl
  simp only [endpointDef, hconn, hprobe, endpointName]

/-- The name of a group. -/
lemma backendGroup_name : (backendGroup go endpoints b).name = sanitizeName b.name :=
  (setGroupRetry_rest go b _).1

/-- The names of the backends of a group. -/
lemma backendGroup_backends :
    (backendGroup go endpoints b).backends.map (·.name) =
      (List.range (endpoints b.name).length).map (endpointName (sanitizeName b.name)) := by
  unfold backendGroup
  rw [(setGroupRetry_rest go b _).2.1]
  apply List.ext_getElem
  · simp
  · intro i h₁ h₂
    simp [endpointDef_name]

/-- The placeholder of a group without endpoints. -/
lemma backendGroup_placeholder :
    (backendGroup go endpoints b).placeholder =
      if endpoints b.name = [] then placeholderName (sanitizeName b.name) else [] := by
  unfold backendGroup
  rw [(setGroupRetry_rest go b _).2.2]
  simp only [List.mapIdx_eq_nil_iff]
  rfl

end Groups

/-! ## The symbols of a cache -/

section Symbols

variable (go : Go) {vc : VinylCache} (endpoints : Text → List Endpoint) (operatorIP : Text)
  (pods : List Pod) (hnames : ∀ b ∈ vc.spec.backends, b.nameConforms = true)

/-- The backends of all endpoints. -/
def endpointSymbols (vc : VinylCache) (endpoints : Text → List Endpoint) : List Text :=
  vc.spec.backends.flatMap fun b =>
    (List.range (endpoints b.name).length).map (endpointName b.name)

/-- The placeholders. -/
def placeholderSymbols (vc : VinylCache) (endpoints : Text → List Endpoint) : List Text :=
  (vc.spec.backends.filter fun b => (endpoints b.name).isEmpty).map fun b => placeholderName b.name

/-- The peers, if clustering is on. -/
def peerSymbols (vc : VinylCache) (pods : List Pod) : List Text :=
  if vc.spec.cluster.enabled then (collectPeers pods).ready.map (·.name) else []

/-- The cluster director, if there is a cluster. -/
def directorSymbols (vc : VinylCache) (pods : List Pod) : List Text :=
  if vc.spec.cluster.enabled && !(collectPeers pods).ready.isEmpty then
    [clusterDirectorName vc.name]
  else []

section Parts

variable {d : TemplateData}
  (hgroups : d.backendGroups = vc.spec.backends.map (backendGroup go endpoints))

include hnames hgroups

/-- The backends of all groups. -/
lemma endpointDefs_names : d.endpointDefs.map (·.name) = endpointSymbols vc endpoints := by
  rw [TemplateData.endpointDefs, hgroups, List.map_flatMap, List.flatMap_map, endpointSymbols]
  refine List.flatMap_congr fun b hb => ?_
  rw [backendGroup_backends, sanitizeName_of_conforms (hnames b hb)]

/-- The placeholders of all groups. -/
lemma emptyGroups_placeholders :
    d.emptyGroups.map (·.placeholder) = placeholderSymbols vc endpoints := by
  have hempty : ∀ b ∈ vc.spec.backends,
      ((fun g : BackendGroup => !g.placeholder.isEmpty) ∘ backendGroup go endpoints) b =
        (endpoints b.name).isEmpty := by
    intro b _
    rw [Function.comp_apply, backendGroup_placeholder]
    by_cases hb : endpoints b.name = []
    · simp [hb, placeholderName_ne_nil]
    · simp [hb]
  rw [TemplateData.emptyGroups, hgroups, List.filter_map, List.map_map, placeholderSymbols,
    List.filter_congr hempty]
  refine List.map_congr_left fun b hb => ?_
  obtain ⟨hmem, hb⟩ := List.mem_filter.1 hb
  simp only [Function.comp_apply, backendGroup_placeholder,
    sanitizeName_of_conforms (hnames b hmem), if_pos (List.isEmpty_iff.1 hb)]

/-- The groups are named like the backends of the resource. -/
lemma backendGroups_names : d.backendGroups.map (·.name) = vc.spec.backends.map (·.name) := by
  rw [hgroups, List.map_map]
  refine List.map_congr_left fun b hb => ?_
  rw [Function.comp_apply, backendGroup_name, sanitizeName_of_conforms (hnames b hb)]

end Parts

/-- The peers that are declared in a cluster. -/
lemma declaredPeers_names {d : TemplateData}
    (hcluster : d.hasCluster = (vc.spec.cluster.enabled && !(collectPeers pods).ready.isEmpty))
    (hpeers : d.peerDefs = (collectPeers pods).ready.map peerDef) :
    d.declaredPeers.map (·.name) = peerSymbols vc pods := by
  rw [TemplateData.declaredPeers, peerSymbols, hcluster, hpeers]
  cases vc.spec.cluster.enabled with
  | false => simp
  | true => cases (collectPeers pods).ready <;> simp [peerDef]

include hnames in
/-- The symbols of the generated VCL, kind by kind. -/
lemma symbols_eq :
    (buildTemplateData go (generatorInput vc endpoints operatorIP pods)).symbols =
      endpointSymbols vc endpoints ++ peerSymbols vc pods ++ placeholderSymbols vc endpoints ++
        (vc.spec.backends.map (·.name) ++ directorSymbols vc pods) := by
  have hgroups := buildTemplateData_backendGroups go (generatorInput vc endpoints operatorIP pods)
  have hcluster := buildTemplateData_hasCluster go (generatorInput vc endpoints operatorIP pods)
  have hpeers := buildTemplateData_peerDefs go (generatorInput vc endpoints operatorIP pods)
  rw [TemplateData.symbols, endpointDefs_names go endpoints hnames hgroups,
    declaredPeers_names pods hcluster hpeers, emptyGroups_placeholders go endpoints hnames hgroups,
    TemplateData.directors, backendGroups_names go endpoints hnames hgroups, hcluster]
  rfl

end Symbols

/-! ## When they are distinct -/

/-- The pods of the StatefulSet of a cache: their names are that of the cache with an ordinal. -/
structure StatefulSetPods (vc : VinylCache) (pods : List Pod) : Prop where
  nodup : (pods.map (·.name)).Nodup
  named : ∀ p ∈ pods, ∃ i : ℕ, p.name = vc.name ++ "-" ++ Text.decimal i

/-- No two names meet: the backends have different names, none of them is named like an endpoint or
a placeholder of another, no placeholder like an endpoint, and in a cluster none of these is named
like a peer, and no backend or endpoint like the cluster director. -/
structure NoClash (vc : VinylCache) (endpoints : Text → List Endpoint) (pods : List Pod) :
    Prop where
  backends : (vc.spec.backends.map (·.name)).Nodup
  backend_endpoint : ∀ b ∈ vc.spec.backends, b.name ∉ endpointSymbols vc endpoints
  backend_placeholder : ∀ b ∈ vc.spec.backends, b.name ∉ placeholderSymbols vc endpoints
  placeholder_endpoint : ∀ n ∈ placeholderSymbols vc endpoints, n ∉ endpointSymbols vc endpoints
  backend_peer : ∀ b ∈ vc.spec.backends, b.name ∉ peerSymbols vc pods
  endpoint_peer : ∀ n ∈ endpointSymbols vc endpoints, n ∉ peerSymbols vc pods
  placeholder_peer : ∀ n ∈ placeholderSymbols vc endpoints, n ∉ peerSymbols vc pods
  backend_director : ∀ b ∈ vc.spec.backends, b.name ∉ directorSymbols vc pods
  endpoint_director : ∀ n ∈ endpointSymbols vc endpoints, n ∉ directorSymbols vc pods

section Distinct

variable {vc : VinylCache} {endpoints : Text → List Endpoint} {pods : List Pod}

/-- Endpoints of backends with different names have different names. -/
lemma endpointSymbols_nodup (h : (vc.spec.backends.map (·.name)).Nodup) :
    (endpointSymbols vc endpoints).Nodup := by
  rw [endpointSymbols, List.nodup_flatMap]
  refine ⟨fun b _ => ?_, ?_⟩
  · exact List.Nodup.map (fun i j hij => (endpointName_inj hij).2) List.nodup_range
  · refine (List.pairwise_map.1 h).imp fun {b b'} hne => ?_
    intro n hn hn'
    obtain ⟨i, -, rfl⟩ := List.mem_map.1 hn
    obtain ⟨j, -, hj⟩ := List.mem_map.1 hn'
    exact hne (endpointName_inj hj).1.symm

/-- Placeholders of backends with different names have different names. -/
lemma placeholderSymbols_nodup (h : (vc.spec.backends.map (·.name)).Nodup) :
    (placeholderSymbols vc endpoints).Nodup := by
  have hsub : ((vc.spec.backends.filter fun b => (endpoints b.name).isEmpty).map (·.name)).Nodup :=
    h.sublist (List.filter_sublist.map _)
  have hmap := hsub.map fun g g' h => placeholderName_inj h
  rw [List.map_map] at hmap
  exact hmap

/-- The pods of a StatefulSet have different names in the VCL. -/
lemma peerSymbols_nodup (h : StatefulSetPods vc pods) : (peerSymbols vc pods).Nodup := by
  unfold peerSymbols
  split_ifs
  · have hserving : ((pods.filter isServing).map (·.name)).Nodup :=
      h.nodup.sublist (List.filter_sublist.map _)
    simp only [collectPeers, List.map_map]
    rw [List.Nodup, List.pairwise_map] at hserving ⊢
    exact hserving.imp fun hne heq => hne (peerOf_name_inj heq)
  · exact List.nodup_nil

/-- A peer is named like its pod. -/
lemma exists_pod_of_mem_peerSymbols {n : Text} (hn : n ∈ peerSymbols vc pods) :
    ∃ p ∈ pods, (peerOf p).name = n := by
  unfold peerSymbols at hn
  split_ifs at hn
  · simp only [collectPeers, List.map_map, List.mem_map, Function.comp_apply] at hn
    obtain ⟨p, hp, rfl⟩ := hn
    exact ⟨p, List.mem_of_mem_filter hp, rfl⟩
  · exact absurd hn List.not_mem_nil

/-- The name of a peer is built like that of an endpoint. -/
lemma exists_of_mem_peerSymbols (h : StatefulSetPods vc pods) {n : Text}
    (hn : n ∈ peerSymbols vc pods) : ∃ i, n = endpointName (sanitizeName vc.name) i := by
  obtain ⟨p, hp, rfl⟩ := exists_pod_of_mem_peerSymbols hn
  obtain ⟨i, hi⟩ := h.named p hp
  refine ⟨i, ?_⟩
  have hdigits : ∀ c ∈ Text.decimal i, (if c = '-' then '_' else c) = c := by
    intro c hc
    refine if_neg fun (hd : c = '-') => ?_
    exact absurd (hd ▸ Text.isDigit_of_mem_decimal hc) (by decide)
  simp only [peerOf, hi, endpointName, sanitizeName, Text.replaceAll, List.map_append,
    List.map_congr_left hdigits, List.map_id']
  rfl

/-- There is one cluster director. -/
lemma eq_of_mem_directorSymbols {n : Text} (hn : n ∈ directorSymbols vc pods) :
    n = clusterDirectorName vc.name := by
  unfold directorSymbols at hn
  split_ifs at hn
  · exact List.mem_singleton.1 hn
  · exact absurd hn List.not_mem_nil

/-- There is a cluster director only if there are peers. -/
lemma exists_pod_of_mem_directorSymbols {n : Text} (hn : n ∈ directorSymbols vc pods) :
    ∃ p, p ∈ pods := by
  unfold directorSymbols at hn
  split_ifs at hn with hcluster
  · simp only [Bool.and_eq_true, Bool.not_eq_true', List.isEmpty_eq_false_iff] at hcluster
    obtain ⟨q, hq⟩ := List.exists_mem_of_ne_nil _ hcluster.2
    obtain ⟨p, hp, -⟩ := List.mem_map.1 hq
    exact ⟨p, List.mem_of_mem_filter hp⟩
  · exact absurd hn List.not_mem_nil

/-- The cluster director meets no peer. -/
lemma not_mem_peerSymbols_of_director (h : StatefulSetPods vc pods) {n : Text}
    (hn : n ∈ directorSymbols vc pods) : n ∉ peerSymbols vc pods := by
  intro hp
  obtain ⟨i, hi⟩ := exists_of_mem_peerSymbols h hp
  exact endpointName_ne_director vc.name i (hi.symm.trans (eq_of_mem_directorSymbols hn))

/-- The cluster director meets no placeholder. -/
lemma not_mem_placeholderSymbols_of_director {n : Text} (hn : n ∈ directorSymbols vc pods) :
    n ∉ placeholderSymbols vc endpoints := by
  intro hp
  obtain ⟨b, -, hb⟩ := List.mem_map.1 hp
  exact placeholderName_ne_director b.name vc.name (hb.trans (eq_of_mem_directorSymbols hn))

/-! ### The names in the text -/

/-- The name of an endpoint has no blank if that of its group has none. -/
lemma blank_not_mem_endpointName {g : Text} (h : ' ' ∉ g) (i : ℕ) : ' ' ∉ endpointName g i := by
  have hdigits : ' ' ∉ Text.decimal i := fun hi =>
    absurd (Text.isDigit_of_mem_decimal hi) (by decide)
  unfold endpointName
  rw [List.mem_append, List.mem_append, not_or, not_or]
  exact ⟨⟨h, by decide⟩, hdigits⟩

/-- The name of a placeholder has no blank if that of its group has none. -/
lemma blank_not_mem_placeholderName {g : Text} (h : ' ' ∉ g) : ' ' ∉ placeholderName g := by
  unfold placeholderName
  rw [List.mem_append, not_or]
  exact ⟨by decide, h⟩

/-- The cluster gives objects names without blanks, so that pods and the cache have none. -/
lemma blank_not_mem_sanitizeName {p : Pod} {t : Text} (h : t <+: p.name) :
    ' ' ∉ sanitizeName t := by
  intro hmem
  obtain ⟨c, hc, hblank⟩ := List.mem_map.1 hmem
  have hvalid := List.all_eq_true.1 p.name_valid c (h.subset hc)
  split_ifs at hblank
  · exact absurd hblank (by decide)
  · rw [hblank] at hvalid
    exact absurd hvalid (by decide)

/-- No symbol has a blank in it. -/
lemma blank_not_mem_symbols (go : Go) (hnames : ∀ b ∈ vc.spec.backends, b.nameConforms = true)
    (operatorIP : Text) (hpods : StatefulSetPods vc pods) :
    ∀ n ∈ (buildTemplateData go (generatorInput vc endpoints operatorIP pods)).symbols,
      ' ' ∉ n := by
  have hbackend : ∀ b ∈ vc.spec.backends, ' ' ∉ b.name := fun b hb =>
    not_mem_of_conforms (hnames b hb) (by decide)
  intro n hn
  rw [symbols_eq go endpoints operatorIP pods hnames] at hn
  simp only [List.mem_append] at hn
  rcases hn with ((hn | hn) | hn) | (hn | hn)
  · obtain ⟨b, hb, hn⟩ := List.mem_flatMap.1 hn
    obtain ⟨i, -, rfl⟩ := List.mem_map.1 hn
    exact blank_not_mem_endpointName (hbackend b hb) i
  · obtain ⟨p, -, rfl⟩ := exists_pod_of_mem_peerSymbols hn
    exact blank_not_mem_sanitizeName (List.prefix_refl p.name)
  · obtain ⟨b, hb, rfl⟩ := List.mem_map.1 hn
    exact blank_not_mem_placeholderName (hbackend b (List.mem_of_mem_filter hb))
  · obtain ⟨b, hb, rfl⟩ := List.mem_map.1 hn
    exact hbackend b hb
  · obtain ⟨p, hp⟩ := exists_pod_of_mem_directorSymbols hn
    obtain ⟨i, hi⟩ := hpods.named p hp
    rw [eq_of_mem_directorSymbols hn]
    unfold clusterDirectorName
    rw [List.mem_append, not_or]
    refine ⟨by decide, blank_not_mem_sanitizeName (p := p) ?_⟩
    rw [hi, List.append_assoc]
    exact List.prefix_append _ _

end Distinct

/-- **The symbols of a cache are the names that its VCL declares**, for backend names that the
resource definition admits and the pods of its StatefulSet. Under a full override none is
declared. -/
theorem declaredNames_eq (go : Go) {vc : VinylCache}
    (hnames : ∀ b ∈ vc.spec.backends, b.nameConforms = true)
    (endpoints : Text → List Endpoint) (operatorIP : Text) {pods : List Pod}
    (hpods : StatefulSetPods vc pods) :
    declaredNames go (generatorInput vc endpoints operatorIP pods) =
      if vc.spec.vcl.fullOverride = [] then
        (buildTemplateData go (generatorInput vc endpoints operatorIP pods)).symbols
      else [] := by
  have hblank : ∀ n ∈ (buildTemplateData go (generatorInput vc endpoints operatorIP pods)).symbols,
      ' ' ∉ n := blank_not_mem_symbols go hnames operatorIP hpods
  have hdeclared := symbols_eq_declared go hblank
  rw [← hdeclared]
  rfl

/-- The symbols of the templates are distinct just when no two names meet.

**Proof sketch.** Take the list of symbols apart into its kinds. Endpoints of different backends
never meet, since the index stands behind the last underscore, and neither do placeholders or
peers among themselves. The cluster director differs from a placeholder in its first letter and
from a peer in the number of letters `d`. The remaining pairs of kinds are those of `NoClash`. -/
lemma nodup_symbols_iff (go : Go) {vc : VinylCache}
    (hnames : ∀ b ∈ vc.spec.backends, b.nameConforms = true)
    (endpoints : Text → List Endpoint) (operatorIP : Text) {pods : List Pod}
    (hpods : StatefulSetPods vc pods) :
    (buildTemplateData go (generatorInput vc endpoints operatorIP pods)).symbols.Nodup ↔
      NoClash vc endpoints pods := by
  rw [symbols_eq go endpoints operatorIP pods hnames]
  simp only [List.nodup_append, List.mem_append]
  constructor
  · rintro ⟨⟨⟨-, -, hEP⟩, -, hH⟩, ⟨hN, -, hNC⟩, hD⟩
    have hmem : ∀ b ∈ vc.spec.backends, b.name ∈ vc.spec.backends.map (·.name) :=
      fun b hb => List.mem_map_of_mem hb
    exact {
      backends := hN
      backend_endpoint := fun b hb h => hD _ (Or.inl (Or.inl h)) _ (Or.inl (hmem b hb)) rfl
      backend_placeholder := fun b hb h => hD _ (Or.inr h) _ (Or.inl (hmem b hb)) rfl
      placeholder_endpoint := fun n hn h => hH _ (Or.inl h) _ hn rfl
      backend_peer := fun b hb h => hD _ (Or.inl (Or.inr h)) _ (Or.inl (hmem b hb)) rfl
      endpoint_peer := fun n hn h => hEP _ hn _ h rfl
      placeholder_peer := fun n hn h => hH _ (Or.inr h) _ hn rfl
      backend_director := fun b hb h => hNC _ (hmem b hb) _ h rfl
      endpoint_director := fun n hn h => hD _ (Or.inl (Or.inl hn)) _ (Or.inr h) rfl }
  · intro h
    have hdirector : (directorSymbols vc pods).Nodup := by
      unfold directorSymbols
      split_ifs
      · exact List.nodup_singleton _
      · exact List.nodup_nil
    refine ⟨⟨⟨endpointSymbols_nodup h.backends, peerSymbols_nodup hpods, ?_⟩,
      placeholderSymbols_nodup h.backends, ?_⟩, ⟨h.backends, hdirector, ?_⟩, ?_⟩
    · rintro n hn _ hn' rfl
      exact h.endpoint_peer n hn hn'
    · rintro n (hn | hn) _ hn' rfl
      · exact h.placeholder_endpoint n hn' hn
      · exact h.placeholder_peer n hn' hn
    · rintro n hn _ hn' rfl
      obtain ⟨b, hb, rfl⟩ := List.mem_map.1 hn
      exact h.backend_director b hb hn'
    · rintro n hn _ (hn' | hn') rfl
      · obtain ⟨b, hb, rfl⟩ := List.mem_map.1 hn'
        rcases hn with (hn | hn) | hn
        · exact h.backend_endpoint b hb hn
        · exact h.backend_peer b hb hn
        · exact h.backend_placeholder b hb hn
      · rcases hn with (hn | hn) | hn
        · exact h.endpoint_director n hn hn'
        · exact not_mem_peerSymbols_of_director hpods hn' hn
        · exact not_mem_placeholderSymbols_of_director hn' hn

/-- **When the names that the generated VCL declares are pairwise distinct.** For backend names that
the resource definition admits, any endpoints and any pods of the cache's StatefulSet: exactly if
the user writes the whole VCL, or no two names meet in the sense of `NoClash`. -/
theorem symbols_nodup_iff (go : Go) {vc : VinylCache}
    (hnames : ∀ b ∈ vc.spec.backends, b.nameConforms = true)
    (endpoints : Text → List Endpoint) (operatorIP : Text) {pods : List Pod}
    (hpods : StatefulSetPods vc pods) :
    (declaredNames go (generatorInput vc endpoints operatorIP pods)).Nodup ↔
      vc.spec.vcl.fullOverride ≠ [] ∨ NoClash vc endpoints pods := by
  rw [declaredNames_eq go hnames endpoints operatorIP hpods]
  split_ifs with hvcl
  · rw [nodup_symbols_iff go hnames endpoints operatorIP hpods]
    exact ⟨.inr, fun h => h.resolve_left (not_not_intro hvcl)⟩
  · exact ⟨fun _ => .inl hvcl, fun _ => List.nodup_nil⟩

/-- One endpoint for every backend. -/
def oneEndpoint : Text → List Endpoint := fun _ => [⟨"10.0.1.1", 80⟩]

/-- The VCL of a clustered cache with two pods declares every name once. -/
theorem shop_symbols_nodup :
    (declaredNames ⟨fun _ => [], fun _ => [], id⟩
      (generatorInput shop oneEndpoint [] [shopPod0, shopPod1])).Nodup := by
  refine (symbols_nodup_iff _ (by decide) _ _ ⟨by decide, ?_⟩).2 (.inr ?_)
  · intro p hp
    rcases List.mem_pair.1 hp with rfl | rfl
    · exact ⟨0, by decide⟩
    · exact ⟨1, by decide⟩
  · constructor <;> decide +kernel

/-- A cache with a backend that is named like the first endpoint of another. -/
def clashing : VinylCache where
  namespace_ := "prod"
  name := "shop"
  spec := { replicas := 1, backends := [{ name := "app" }, { name := "app_0" }] }

/-- **An accepted cache whose VCL declares a symbol twice.** The backend `app` has one endpoint, so
its backend is named `app_0`, like the director of the other backend. -/
theorem clashing_symbols :
    (∀ b ∈ clashing.spec.backends, b.nameConforms = true) ∧
      (∀ std, Webhook.validateVinylCache std clashing = none) ∧ StatefulSetPods clashing [] ∧
      ∀ go, ¬ (declaredNames go (generatorInput clashing oneEndpoint [] [])).Nodup := by
  have hnames : ∀ b ∈ clashing.spec.backends, b.nameConforms = true := by decide
  have hpods : StatefulSetPods clashing [] := ⟨List.nodup_nil, by simp⟩
  refine ⟨hnames, fun std => ?_, hpods, fun go => ?_⟩
  · have hbackends : Webhook.backendErrors std clashing.spec = [] := by
      refine List.flatMap_eq_nil_iff.2 fun b hb => ?_
      rw [Webhook.isValidVCLIdentifier_of_nameConforms std (hnames b hb)]
      rfl
    have herrors : Webhook.errors std clashing = [] := by
      simp only [Webhook.errors, hbackends]
      rfl
    rw [Webhook.validateVinylCache, if_pos herrors]
  · have htemplates : clashing.spec.vcl.fullOverride = [] := rfl
    rw [declaredNames_eq go hnames oneEndpoint [] hpods, if_pos htemplates,
      symbols_eq go oneEndpoint [] [] hnames]
    decide +kernel

end CloudVinyl.Controller
