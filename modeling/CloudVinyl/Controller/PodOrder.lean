import Mathlib.Data.List.Perm.Basic
import CloudVinyl.Controller.Pods

set_option relaxedAutoImplicit false
set_option autoImplicit false

/-!
# The order of pods in the generated VCL

The client lists the pods of a cache in no fixed order, and `collectPeers` keeps the order of the
list. The peers are declared in the VCL in that order, so two listings of the same pods give
different texts as soon as two peers are declared.

## Main results

* `Controller.desiredVCL_order_irrelevant_iff` — when the VCL, its hash and its name do not depend
  on the order in which the pods are listed.
-/

namespace CloudVinyl.Controller

open Generator

/-! ## Names of peers -/

/-- A valid name has no such character. -/
lemma not_mem_name {pod : Pod} {c : Char} (hc : isNameChar c = false) : c ∉ pod.name := by
  intro h
  rw [List.all_eq_true.1 pod.name_valid c h] at hc
  exact Bool.noConfusion hc

/-- Pods with different names are peers with different names. -/
lemma peerOf_name_inj {p q : Pod} (h : (peerOf p).name = (peerOf q).name) : p.name = q.name :=
  Text.replaceAll_inj (not_mem_name (by decide)) (not_mem_name (by decide)) h

/-- The name of a peer holds no blank. -/
lemma not_mem_peerOf_name (p : Pod) : ' ' ∉ (peerOf p).name := by
  intro h
  simp only [peerOf, Text.replaceAll, List.mem_map] at h
  obtain ⟨c, hc, hblank⟩ := h
  split_ifs at hblank
  · exact absurd hblank (by decide)
  · exact not_mem_name (by decide) (hblank ▸ hc)

/-! ## The text up to the first peer -/

/-- With a cluster, the text names the first peer after a part that does not depend on the
peers. -/
lemma mainText_of_peers (go : Go) {d : TemplateData} (h : d.hasCluster = true) {p : BackendDef}
    {ps : List BackendDef} (hp : d.peerDefs = p :: ps) :
    ∃ rest, mainText go d =
      unlines (headLines d ++ d.endpointDefs.flatMap endpointBackend) ++
        ("\n\nbackend " ++ (p.name ++ ' ' :: rest)) := by
  refine ⟨"\x7b\n" ++ unlines (("    .host = \"" ++ p.ip ++ "\";") ::
    ("    .port = \"" ++ Text.decimalInt p.port ++ "\";") :: ("\x7d" : Text) ::
    (ps.flatMap peerBackend ++ blank :: d.emptyGroups.flatMap placeholderBackend ++
      (aclLines d ++ subroutineLines go d))), ?_⟩
  simp [mainText, backendLines, TemplateData.declaredPeers, h, hp, peerBackend, backendHead,
    unlines, blank]

section

variable (go : Go) (vc : VinylCache) (endpoints : Text → List Endpoint) (operatorIP : Text)

/-- The part of the text before the peers, for any listing of the pods. -/
def textBeforePeers : Text :=
  let d := buildTemplateData go (generatorInput vc endpoints operatorIP [])
  unlines (headLines d ++ d.endpointDefs.flatMap endpointBackend)

variable {vc}

/-- In a cluster the text goes on with the name of the first peer. -/
lemma desiredVCL_of_serving (hvcl : vc.spec.vcl.fullOverride = [])
    (hc : vc.spec.cluster.enabled = true) {pods : List Pod} {p : Pod} {ps : List Pod}
    (hp : pods.filter isServing = p :: ps) :
    ∃ rest, (desiredVCL go vc endpoints operatorIP pods).vcl =
      textBeforePeers go vc endpoints operatorIP ++
        ("\n\nbackend " ++ ((peerOf p).name ++ ' ' :: rest)) := by
  have hpeers : (generatorInput vc endpoints operatorIP pods).peers =
      peerOf p :: ps.map peerOf := by simp [generatorInput, collectPeers, hp]
  have hcluster : (buildTemplateData go
      (generatorInput vc endpoints operatorIP pods)).hasCluster = true := by
    rw [buildTemplateData_hasCluster, hpeers]
    simpa [generatorInput] using hc
  have hdefs : (buildTemplateData go (generatorInput vc endpoints operatorIP pods)).peerDefs =
      peerDef (peerOf p) :: (ps.map peerOf).map peerDef := by
    rw [buildTemplateData_peerDefs, hpeers, List.map_cons]
  obtain ⟨rest, h⟩ := mainText_of_peers go hcluster hdefs
  exact ⟨rest, (generate_of_templates go hvcl).trans h⟩

/-- With a cluster, two listings that begin with different serving pods give different texts. -/
lemma desiredVCL_ne (hvcl : vc.spec.vcl.fullOverride = []) (hc : vc.spec.cluster.enabled = true)
    {pods pods' : List Pod} {p p' : Pod} {ps ps' : List Pod}
    (hp : pods.filter isServing = p :: ps) (hp' : pods'.filter isServing = p' :: ps')
    (hne : p.name ≠ p'.name) :
    (desiredVCL go vc endpoints operatorIP pods).vcl ≠
      (desiredVCL go vc endpoints operatorIP pods').vcl := by
  intro heq
  obtain ⟨rest, h⟩ := desiredVCL_of_serving go endpoints operatorIP hvcl hc hp
  obtain ⟨rest', h'⟩ := desiredVCL_of_serving go endpoints operatorIP hvcl hc hp'
  rw [h, h'] at heq
  have hnames := List.append_cancel_left (List.append_cancel_left heq)
  apply hne
  apply peerOf_name_inj
  exact (Words.append_cons_inj_left (not_mem_peerOf_name p) (not_mem_peerOf_name p') hnames).1

/-! ## Without a cluster -/

/-- The same data with other peers. -/
def withPeers (d : TemplateData) (peers : List PeerBackend) (defs : List BackendDef) :
    TemplateData :=
  { d with input := { d.input with peers := peers }, peerDefs := defs }

/-- Without a cluster the text does not depend on the peers. -/
lemma mainText_withPeers {d : TemplateData} (h : d.hasCluster = false) (peers : List PeerBackend)
    (defs : List BackendDef) : mainText go (withPeers d peers defs) = mainText go d := by
  have hbackends : backendLines (withPeers d peers defs) = backendLines d := by
    simp [backendLines, TemplateData.declaredPeers, TemplateData.endpointDefs,
      TemplateData.emptyGroups, withPeers, h]
  have hacls : aclLines (withPeers d peers defs) = aclLines d := by
    simp [aclLines, controlAcl, withPeers, h]
  have hinit : vclInit go (withPeers d peers defs) = vclInit go d := by
    simp [vclInit, withPeers, h, Vcl.Code.when]
  simp only [mainText, subroutineLines, hbackends, hacls, hinit]
  rfl

/-- Without a cluster the pods do not matter. -/
lemma desiredVCL_of_disabled (hvcl : vc.spec.vcl.fullOverride = [])
    (hc : vc.spec.cluster.enabled = false) (pods pods' : List Pod) :
    desiredVCL go vc endpoints operatorIP pods = desiredVCL go vc endpoints operatorIP pods' := by
  have hcluster : (buildTemplateData go
      (generatorInput vc endpoints operatorIP pods)).hasCluster = false := by
    rw [buildTemplateData_hasCluster]
    simp [generatorInput, hc]
  have hdata : buildTemplateData go (generatorInput vc endpoints operatorIP pods') =
      withPeers (buildTemplateData go (generatorInput vc endpoints operatorIP pods))
        (collectPeers pods').ready ((collectPeers pods').ready.map peerDef) := by
    simp [buildTemplateData, generatorInput, withPeers, hc]
  apply generate_congr
  rw [generate_of_templates go hvcl, generate_of_templates go hvcl, hdata,
    mainText_withPeers go hcluster]

/-- With a full override the pods do not matter. -/
lemma desiredVCL_of_override (hvcl : vc.spec.vcl.fullOverride ≠ []) (pods pods' : List Pod) :
    desiredVCL go vc endpoints operatorIP pods = desiredVCL go vc endpoints operatorIP pods' := by
  apply generate_congr
  rw [generate_of_override go hvcl, generate_of_override go hvcl]
  rfl

/-! ## Any order -/

/-- With at most one serving pod, every listing has the same peers. -/
lemma desiredVCL_of_length_le {pods pods' : List Pod} (hperm : pods'.Perm pods)
    (hlen : (pods.filter isServing).length ≤ 1) :
    desiredVCL go vc endpoints operatorIP pods' = desiredVCL go vc endpoints operatorIP pods := by
  have hserving : pods'.filter isServing = pods.filter isServing := by
    have hfilter := hperm.filter isServing
    match hp : pods.filter isServing, hlen with
    | [], _ => exact (hp ▸ hfilter).eq_nil
    | [p], _ => exact List.perm_singleton.1 (hp ▸ hfilter)
  have hinput : generatorInput vc endpoints operatorIP pods' =
      generatorInput vc endpoints operatorIP pods := by
    simp [generatorInput, collectPeers, hserving]
  simp only [desiredVCL, hinput]

end

/-- **When the order of the pods does not matter.** For pods with distinct names, every listing of
them gives the same VCL, hash and VCL name, if and only if a full override replaces the templates,
or clustering is off, or at most one pod may take traffic.

**Proof sketch.** In the three cases the text does not mention the peers, or there is only one
list of peers. Otherwise list a serving pod other than the first one at the front: the texts agree
up to the name of the first peer, and there they differ. -/
theorem desiredVCL_order_irrelevant_iff (go : Go) (vc : VinylCache)
    (endpoints : Text → List Endpoint) (operatorIP : Text) {pods : List Pod}
    (hpods : (pods.map (·.name)).Nodup) :
    (∀ pods', pods'.Perm pods →
      desiredVCL go vc endpoints operatorIP pods' = desiredVCL go vc endpoints operatorIP pods ∧
      vclNameFor vc (desiredVCL go vc endpoints operatorIP pods').hash =
        vclNameFor vc (desiredVCL go vc endpoints operatorIP pods).hash) ↔
      vc.spec.vcl.fullOverride ≠ [] ∨ vc.spec.cluster.enabled = false ∨
        (pods.filter isServing).length ≤ 1 := by
  constructor
  · intro h
    by_contra hcon
    push Not at hcon
    obtain ⟨hvcl, hc, hlen⟩ := hcon
    obtain ⟨p, q, ps, hserving⟩ : ∃ p q ps, pods.filter isServing = p :: q :: ps := by
      match hs : pods.filter isServing, hlen with
      | p :: q :: ps, _ => exact ⟨p, q, ps, rfl⟩
    have hq : q ∈ pods ∧ isServing q = true := List.mem_filter.1 (by simp [hserving])
    have hne : p.name ≠ q.name := by
      have hsub : (p :: q :: ps).Sublist pods := hserving ▸ List.filter_sublist
      have hnodup := hpods.sublist (hsub.map (·.name))
      simp only [List.map_cons, List.nodup_cons, List.mem_cons, not_or] at hnodup
      exact hnodup.1.1
    -- the listing with `q` in front
    obtain ⟨s, t, rfl⟩ := List.append_of_mem hq.1
    have hfront : (q :: (s ++ t)).filter isServing = q :: (s ++ t).filter isServing :=
      List.filter_cons_of_pos hq.2
    have heq := (h (q :: (s ++ t)) List.perm_middle.symm).1
    exact desiredVCL_ne go endpoints operatorIP hvcl (by simpa using hc) hserving hfront hne
      (congrArg Result.vcl heq).symm
  · rintro h pods' hperm
    have heq : desiredVCL go vc endpoints operatorIP pods' =
        desiredVCL go vc endpoints operatorIP pods := by
      by_cases hvcl : vc.spec.vcl.fullOverride = []
      · rcases h with h | hc | hlen
        · exact absurd hvcl h
        · exact desiredVCL_of_disabled go endpoints operatorIP hvcl hc pods' pods
        · exact desiredVCL_of_length_le go endpoints operatorIP hperm hlen
      · exact desiredVCL_of_override go endpoints operatorIP hvcl pods' pods
    exact ⟨heq, by rw [heq]⟩

/-! ## Two pods of a clustered cache -/

/-- A cache with one backend and clustering. -/
def shop : VinylCache where
  namespace_ := "prod"
  name := "shop"
  spec := { replicas := 2, backends := [{ name := "app" }], cluster := { enabled := true } }

/-- Its first pod, ready. -/
def shopPod0 : Pod where
  name := "shop-0"
  phase := .running
  podIP := "10.0.0.10"
  conditions := [⟨"Ready", .true_⟩]

/-- Its second pod, ready, too. -/
def shopPod1 : Pod where
  name := "shop-1"
  phase := .running
  podIP := "10.0.0.11"
  conditions := [⟨"Ready", .true_⟩]

/-- The second pod before it is ready. -/
def startingPod1 : Pod := { shopPod1 with conditions := [⟨"Ready", .false_⟩] }

/-- As long as one of the two pods is not ready, both listings give one VCL. -/
theorem shop_order_of_starting :
    ([shopPod0, startingPod1].map (·.name)).Nodup ∧
      [startingPod1, shopPod0].Perm [shopPod0, startingPod1] ∧
      ∀ go, desiredVCL go shop (fun _ => []) [] [startingPod1, shopPod0] =
          desiredVCL go shop (fun _ => []) [] [shopPod0, startingPod1] ∧
        vclNameFor shop (desiredVCL go shop (fun _ => []) [] [startingPod1, shopPod0]).hash =
          vclNameFor shop (desiredVCL go shop (fun _ => []) [] [shopPod0, startingPod1]).hash := by
  have hswap : [startingPod1, shopPod0].Perm [shopPod0, startingPod1] := List.Perm.swap _ _ _
  refine ⟨by decide, hswap, fun go => ?_⟩
  exact (desiredVCL_order_irrelevant_iff go shop _ _ (by decide)).2 (.inr (.inr (by decide)))
    _ hswap

/-- **The order of the listing shows in the VCL.** The same two pods, listed the other way round,
give another text, whatever the hash function and the number formats. -/
theorem shop_order_matters :
    ([shopPod0, shopPod1].map (·.name)).Nodup ∧ [shopPod1, shopPod0].Perm [shopPod0, shopPod1] ∧
      ∀ go, (desiredVCL go shop (fun _ => []) [] [shopPod1, shopPod0]).vcl ≠
        (desiredVCL go shop (fun _ => []) [] [shopPod0, shopPod1]).vcl := by
  refine ⟨by decide, List.Perm.swap _ _ _, fun go => ?_⟩
  have hfirst : [shopPod0, shopPod1].filter isServing = [shopPod0, shopPod1] := by
    simp only [List.filter_cons, List.filter_nil]
    rfl
  have hsecond : [shopPod1, shopPod0].filter isServing = [shopPod1, shopPod0] := by
    simp only [List.filter_cons, List.filter_nil]
    rfl
  exact desiredVCL_ne go _ _ rfl rfl hsecond hfirst (by decide)

end CloudVinyl.Controller
