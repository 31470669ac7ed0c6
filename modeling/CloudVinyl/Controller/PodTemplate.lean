import Mathlib.Data.List.Nodup
import CloudVinyl.Controller.StatefulSet

set_option relaxedAutoImplicit false
set_option autoImplicit false

/-!
# Pod templates of accepted resources

The API server refuses a pod template in which two volumes have one name, a mount names no volume,
or two mounts of a container have one path. The webhook keeps the names that the user declares apart
from each other and from those of the operator, and the paths that the user mounts away from those
of the operator. It looks neither at the volumes that the operator provisions for file storages nor
at two mounts of the user.

## Main definitions

* `Controller.WellFormed` — a template that the API server takes.
* `Controller.Apart` — what the webhook does not check.

## Main results

* `Controller.volumeNames_nodup_iff`, `Controller.mountPaths_nodup_iff`, `Controller.mounts_named` —
  the three parts.
* `Controller.statefulSet_wellFormed_iff` — the template of an accepted resource is well formed
  just when the rest is apart, too.
-/

namespace CloudVinyl.Controller

open Webhook (Conforms declaredVolumes reservedVolumeNames reservedMountPaths Std
  pathConflictsWithReserved validateVinylCache)

/-- A template that the API server takes. -/
structure WellFormed (lower : Char → Char) (vc : VinylCache) : Prop where
  names : (statefulSet lower vc).volumeNames.Nodup
  mounts : ∀ m ∈ (varnishContainer lower vc).volumeMounts,
    m.name ∈ (statefulSet lower vc).volumeNames
  paths : (mountPaths lower vc).Nodup

/-- The names and paths that the webhook does not compare: those of provisioned volumes with each
other, with those of the user, and their paths with those of the operator; and the paths of the user
with each other. -/
structure Apart (lower : Char → Char) (spec : VinylCacheSpec) : Prop where
  volumes : ((provisionedFileStorages lower spec.storage).map (·.volume)).Nodup
  declared : ∀ p ∈ provisionedFileStorages lower spec.storage, p.volume ∉ declaredVolumes spec
  mounts : (spec.pod.volumeMounts.map (·.mountPath)).Nodup
  paths : ((provisionedFileStorages lower spec.storage).map (·.mountPath)).Nodup
  fixed : ∀ p ∈ provisionedFileStorages lower spec.storage,
    p.mountPath ∉ operatorMounts.map (·.mountPath) ∧
      p.mountPath ∉ spec.pod.volumeMounts.map (·.mountPath)

section Accepted

variable {std : Std} {lower : Char → Char} {vc : VinylCache}

/-- A provisioned volume does not have the name of a volume of the operator. -/
lemma volume_notMem_reserved {p : ProvisionedStorage}
    (hp : p ∈ provisionedFileStorages lower vc.spec.storage) : p.volume ∉ reservedVolumeNames := by
  obtain ⟨s, -, rfl⟩ := List.mem_map.1 hp
  intro hmem
  have hno : ∀ n ∈ reservedVolumeNames, ¬("storage-" : Text) <+: n := by decide
  exact hno _ hmem (prefix_fileStorageVolumeName lower s.name)

/-- **The names of the volumes** of an accepted resource are pairwise distinct just when those of
the provisioned ones are distinct from each other and from those of the user. -/
lemma volumeNames_nodup_iff (h : Conforms std vc.spec) :
    (statefulSet lower vc).volumeNames.Nodup ↔
      ((provisionedFileStorages lower vc.spec.storage).map (·.volume)).Nodup ∧
        ∀ p ∈ provisionedFileStorages lower vc.spec.storage,
          p.volume ∉ declaredVolumes vc.spec := by
  have hreserved : reservedVolumeNames.Nodup := by decide
  rw [statefulSet_volumeNames, List.nodup_append', List.nodup_append']
  constructor
  · rintro ⟨-, ⟨hvolumes, -, hdisjoint⟩, -⟩
    exact ⟨hvolumes, fun p hp hmem => hdisjoint (List.mem_map_of_mem hp) hmem⟩
  · rintro ⟨hvolumes, hdeclared⟩
    refine ⟨hreserved, ⟨hvolumes, h.volumes.1, fun n hn hmem => ?_⟩, fun n hn hmem => ?_⟩
    · obtain ⟨p, hp, rfl⟩ := List.mem_map.1 hn
      exact hdeclared p hp hmem
    · rcases List.mem_append.1 hmem with hmem | hmem
      · obtain ⟨p, hp, rfl⟩ := List.mem_map.1 hmem
        exact volume_notMem_reserved hp hn
      · exact h.volumes.2 n hmem hn

/-- A path that the user mounts is none of the operator's. -/
lemma mountPath_notMem_operator (h : Conforms std vc.spec) {m : VolumeMount}
    (hm : m ∈ vc.spec.pod.volumeMounts) : m.mountPath ∉ operatorMounts.map (·.mountPath) := by
  intro hmem
  have hsub : ∀ path ∈ operatorMounts.map (·.mountPath),
      pathConflictsWithReserved path = true := by decide
  have hfree := (h.mounts m hm).1
  rw [hsub _ hmem] at hfree
  cases hfree

/-- **The paths of the mounts** of an accepted resource are pairwise distinct just when those of the
user are, and those of the provisioned volumes from each other and from all others. -/
lemma mountPaths_nodup_iff (h : Conforms std vc.spec) :
    (mountPaths lower vc).Nodup ↔
      (vc.spec.pod.volumeMounts.map (·.mountPath)).Nodup ∧
        ((provisionedFileStorages lower vc.spec.storage).map (·.mountPath)).Nodup ∧
        ∀ p ∈ provisionedFileStorages lower vc.spec.storage,
          p.mountPath ∉ operatorMounts.map (·.mountPath) ∧
            p.mountPath ∉ vc.spec.pod.volumeMounts.map (·.mountPath) := by
  have hoperator : (operatorMounts.map (·.mountPath)).Nodup := by decide
  rw [varnishContainer_mountPaths, List.nodup_append', List.nodup_append']
  constructor
  · rintro ⟨-, ⟨hpaths, hmounts, hdisjoint⟩, hfixed⟩
    refine ⟨hmounts, hpaths, fun p hp => ⟨fun hmem => ?_, fun hmem => ?_⟩⟩
    · exact hfixed hmem (List.mem_append_left _ (List.mem_map_of_mem hp))
    · exact hdisjoint (List.mem_map_of_mem hp) hmem
  · rintro ⟨hmounts, hpaths, hfixed⟩
    refine ⟨hoperator, ⟨hpaths, hmounts, fun path hpath hmem => ?_⟩, fun path hpath hmem => ?_⟩
    · obtain ⟨p, hp, rfl⟩ := List.mem_map.1 hpath
      exact (hfixed p hp).2 hmem
    · rcases List.mem_append.1 hmem with hmem | hmem
      · obtain ⟨p, hp, rfl⟩ := List.mem_map.1 hmem
        exact (hfixed p hp).1 hpath
      · obtain ⟨m, hm, rfl⟩ := List.mem_map.1 hmem
        exact mountPath_notMem_operator h hm hpath

/-- **Every mount names a volume.** -/
lemma mounts_named (h : Conforms std vc.spec) {m : VolumeMount}
    (hm : m ∈ (varnishContainer lower vc).volumeMounts) :
    m.name ∈ (statefulSet lower vc).volumeNames := by
  have hoperator : ∀ m ∈ operatorMounts, m.name ∈ reservedVolumeNames := by decide
  rw [statefulSet_volumeNames, List.mem_append, List.mem_append]
  rcases List.mem_append.1 hm with hm | hm
  · exact .inl (hoperator m hm)
  rcases List.mem_append.1 hm with hm | hm
  · obtain ⟨p, hp, rfl⟩ := List.mem_map.1 hm
    exact .inr (.inl (List.mem_map_of_mem hp))
  · rcases (h.mounts m hm).2 with hdeclared | hreserved
    · exact .inr (.inr hdeclared)
    · exact .inl hreserved

/-- **The template of an accepted resource** is well formed just when what the webhook does not
compare is apart. -/
theorem statefulSet_wellFormed_iff (std : Std) (lower : Char → Char) (vc : VinylCache)
    (h : validateVinylCache std vc = none) : WellFormed lower vc ↔ Apart lower vc.spec := by
  have hconforms := Webhook.validateVinylCache_eq_none_iff.1 h
  constructor
  · rintro ⟨hnames, -, hpaths⟩
    obtain ⟨hvolumes, hdeclared⟩ := (volumeNames_nodup_iff hconforms).1 hnames
    obtain ⟨hmounts, hprovisioned, hfixed⟩ := (mountPaths_nodup_iff hconforms).1 hpaths
    exact ⟨hvolumes, hdeclared, hmounts, hprovisioned, hfixed⟩
  · intro hapart
    refine ⟨(volumeNames_nodup_iff hconforms).2 ⟨hapart.volumes, hapart.declared⟩, ?_, ?_⟩
    · exact fun m hm => mounts_named hconforms hm
    · exact (mountPaths_nodup_iff hconforms).2 ⟨hapart.mounts, hapart.paths, hapart.fixed⟩

end Accepted

/-! ### Two storages of one name -/

/-- A cache with two file storages for which volumes are provisioned. -/
def twoStorages (name name' : Text) : VinylCache where
  namespace_ := "prod"
  name := "shop"
  spec := { storage := [⟨name, "file", 1073741824, []⟩, ⟨name', "file", 1073741824, []⟩] }

/-- Two storages with names of their own. -/
theorem statefulSet_wellFormed_iff_twoStorages :
    WellFormed Char.toLower (twoStorages "hot" "cold") ∧
      Apart Char.toLower (twoStorages "hot" "cold").spec := by
  have hapart : Apart Char.toLower (twoStorages "hot" "cold").spec :=
    { volumes := by decide
      declared := by decide
      mounts := List.nodup_nil
      paths := by decide
      fixed := by decide }
  refine ⟨?_, hapart⟩
  exact (statefulSet_wellFormed_iff Webhook.asciiStd Char.toLower (twoStorages "hot" "cold")
    (by decide +kernel)).2 hapart

/-- Two storages of one name are accepted, and their volumes have one name. -/
theorem twoStorages_malformed :
    validateVinylCache Webhook.asciiStd (twoStorages "disk" "disk") = none ∧
      ¬WellFormed Char.toLower (twoStorages "disk" "disk") := by
  refine ⟨by decide +kernel, fun h => ?_⟩
  have hnames := h.names
  rw [statefulSet_volumeNames] at hnames
  revert hnames
  decide +kernel

end CloudVinyl.Controller
