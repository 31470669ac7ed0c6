import CloudVinyl.Controller.StatefulSet
import CloudVinyl.Lib.Wrapping

set_option relaxedAutoImplicit false
set_option autoImplicit false

/-!
# The sizes of provisioned volumes

A provisioned volume has to hold the cache file and what the file system adds to it, or the pod is
evicted: `fileStorageSizeLimit` of `internal/controller/filestorage.go` adds five per cent, and 64Mi
at least. `varnishResources` asks the scheduler for the disk that the volumes may take.

The margin is computed in 64-bit integers, and the size is multiplied before it is divided. A
quantity is a 64-bit integer itself (`Value`), and sums of quantities do not wrap around (`Add`).

## Main definitions

* `Controller.varnishResources` — the requests of the varnish container.
* `Controller.VolumesFit` — volumes and requests that are large enough.

## Main results

* `Controller.fileStorageSizeLimit_of_fits`, `Controller.fileStorageSizeLimit_lt` — the limit of a
  volume, if the product fits into 64 bits or not.
* `Controller.volumesFit_iff` — volumes and requests are large enough just when all products fit.
-/

namespace CloudVinyl.Controller

open Webhook (Std validateVinylCache)

/-- `corev1.ResourceEphemeralStorage` -/
def resourceEphemeralStorage : Text := "ephemeral-storage"

/-- The requests of `varnishResources`. -/
def varnishResources (lower : Char → Char) (vc : VinylCache) : List (Text × ℤ) :=
  let ps := provisionedFileStorages lower vc.spec.storage
  if ps = [] then vc.spec.requests
  else if (vc.spec.requests.lookup resourceEphemeralStorage).isSome then vc.spec.requests
  else (resourceEphemeralStorage, (ps.map (·.sizeLimit)).sum) :: vc.spec.requests

/-- The limit that a storage of this size needs. -/
def neededLimit (size : ℤ) : ℤ := size + max (64 * 2 ^ 20) (size * 5 / 100)

/-- Every volume has room for its storage and the margin, and the request for disk, if the user made
none, covers the storages. -/
structure VolumesFit (lower : Char → Char) (vc : VinylCache) : Prop where
  limits : ∀ s ∈ vc.spec.storage, isProvisionedFileStorage s = true →
    neededLimit s.size ≤ (provisionFileStorage lower s).sizeLimit
  request : vc.spec.requests.lookup resourceEphemeralStorage = none →
    ((vc.spec.storage.filter isProvisionedFileStorage).map (·.size)).sum ≤
      ((varnishResources lower vc).lookup resourceEphemeralStorage).getD 0

/-! ## The limit of a volume -/

section Limit

variable {size : ℤ}

/-- A number in the range of an `int64` does not wrap. -/
lemma int64_of_fits {n : ℤ} (h : -2 ^ 63 ≤ n) (h' : n < 2 ^ 63) : int64 n = n :=
  Int.bmod_eq_of_le (by omega) (by omega)

/-- If the product fits, the limit is the one that is needed. -/
lemma fileStorageSizeLimit_of_fits (hpos : 0 < size) (hfits : 5 * size < 2 ^ 63) :
    fileStorageSizeLimit size = neededLimit size := by
  have hproduct : int64 (size * fileStorageMarginPercent) = size * 5 :=
    int64_of_fits (by unfold fileStorageMarginPercent; omega)
      (by unfold fileStorageMarginPercent; omega)
  have hquotient : (size * 5).tdiv 100 = size * 5 / 100 :=
    Int.tdiv_eq_ediv_of_nonneg (by omega)
  unfold fileStorageSizeLimit neededLimit fileStorageMinMargin
  rw [hproduct, hquotient, max_comm]
  exact int64_of_fits (by omega) (by omega)

/-- If the product does not fit, the margin is less than five per cent.

**Proof sketch.** The product comes out smaller by `2 ^ 64`, at least. The five per cent are more
than the least margin, since the size is great. -/
lemma margin_lt (hvalue : size < 2 ^ 63) (hgreat : 2 ^ 63 ≤ 5 * size) :
    max ((int64 (size * fileStorageMarginPercent)).tdiv 100) fileStorageMinMargin <
      size * 5 / 100 := by
  have hproduct : int64 (size * fileStorageMarginPercent) ≤ size * 5 - 2 ^ 64 :=
    Wrapping.bmod_le_sub (by decide) (by unfold fileStorageMarginPercent; omega)
  refine max_lt ?_ (by unfold fileStorageMinMargin; omega)
  rcases le_or_gt 0 (int64 (size * fileStorageMarginPercent)) with hnonneg | hneg
  · rw [Int.tdiv_eq_ediv_of_nonneg hnonneg]
    omega
  · have hle := Int.tdiv_le_tdiv (by decide : (0 : ℤ) < 100) hneg.le
    rw [Int.zero_tdiv] at hle
    omega

/-- So the limit is too small: the sum does not come out greater than it is. -/
lemma fileStorageSizeLimit_lt (hvalue : size < 2 ^ 63) (hgreat : 2 ^ 63 ≤ 5 * size) :
    fileStorageSizeLimit size < neededLimit size := by
  have hless := margin_lt hvalue hgreat
  have hleast := le_max_right ((int64 (size * fileStorageMarginPercent)).tdiv 100)
    fileStorageMinMargin
  unfold fileStorageSizeLimit
  generalize max ((int64 (size * fileStorageMarginPercent)).tdiv 100) fileStorageMinMargin = margin
    at hless hleast ⊢
  have hnonneg : 0 ≤ fileStorageMinMargin := by decide
  calc int64 (size + margin)
      ≤ size + margin := Wrapping.bmod_le_self (by decide) (by omega)
    _ < size + size * 5 / 100 := by omega
    _ ≤ neededLimit size := by
        unfold neededLimit
        have := le_max_right (64 * 2 ^ 20) (size * 5 / 100)
        omega

end Limit

/-! ## Volumes and requests -/

section Request

variable {lower : Char → Char} {vc : VinylCache}

/-- Without a request of the user the request is the sum of the limits. -/
lemma lookup_varnishResources
    (h : vc.spec.requests.lookup resourceEphemeralStorage = none) :
    ((varnishResources lower vc).lookup resourceEphemeralStorage).getD 0 =
      ((provisionedFileStorages lower vc.spec.storage).map (·.sizeLimit)).sum := by
  unfold varnishResources
  dsimp only
  split_ifs with hnil hset
  · rw [h, hnil]
    rfl
  · rw [h] at hset
    cases hset
  · rw [List.lookup_cons_self, Option.getD_some]

/-- Limits that cover their storages make a request that covers all of them. -/
lemma sum_size_le (h : ∀ s ∈ vc.spec.storage, isProvisionedFileStorage s = true →
    s.size ≤ (provisionFileStorage lower s).sizeLimit) :
    ((vc.spec.storage.filter isProvisionedFileStorage).map (·.size)).sum ≤
      ((provisionedFileStorages lower vc.spec.storage).map (·.sizeLimit)).sum := by
  rw [provisionedFileStorages, List.map_map]
  refine List.sum_le_sum fun s hs => ?_
  obtain ⟨hmem, hprovisioned⟩ := List.mem_filter.1 hs
  exact h s hmem hprovisioned

/-- **Volumes and requests are large enough** just when five times the size of every provisioned
storage fits into 64 bits. -/
theorem volumesFit_iff (std : Std) (lower : Char → Char) (vc : VinylCache)
    (h : validateVinylCache std vc = none) (hvalue : ∀ s ∈ vc.spec.storage, s.size < 2 ^ 63) :
    VolumesFit lower vc ↔
      ∀ s ∈ vc.spec.storage, isProvisionedFileStorage s = true → 5 * s.size < 2 ^ 63 := by
  have hpos : ∀ s ∈ vc.spec.storage, isProvisionedFileStorage s = true → 0 < s.size := by
    intro s hs hprovisioned
    obtain ⟨htype, hpath⟩ : s.type = "file" ∧ s.path = [] := by
      simpa [isProvisionedFileStorage] using hprovisioned
    exact ((Webhook.validateVinylCache_eq_none_iff.1 h).fileStorage s hs htype).1 hpath
  constructor
  · intro hfit s hs hprovisioned
    by_contra hgreat
    have hlt := fileStorageSizeLimit_lt (hvalue s hs) (not_lt.1 hgreat)
    exact absurd (hfit.limits s hs hprovisioned) (not_le.2 hlt)
  · intro hfits
    have hlimit : ∀ s ∈ vc.spec.storage, isProvisionedFileStorage s = true →
        (provisionFileStorage lower s).sizeLimit = neededLimit s.size := fun s hs hprovisioned =>
      fileStorageSizeLimit_of_fits (hpos s hs hprovisioned) (hfits s hs hprovisioned)
    refine ⟨fun s hs hprovisioned => (hlimit s hs hprovisioned).ge, fun hunset => ?_⟩
    rw [lookup_varnishResources hunset]
    refine sum_size_le fun s hs hprovisioned => ?_
    rw [hlimit s hs hprovisioned, neededLimit]
    have := le_max_left (64 * 2 ^ 20) (s.size * 5 / 100)
    omega

end Request

/-! ### A storage of two exbibytes -/

/-- A cache with one provisioned file storage. -/
def diskCache (size : ℤ) : VinylCache where
  namespace_ := "prod"
  name := "shop"
  spec := { storage := [⟨"disk", "file", size, []⟩] }

/-- A storage of one gibibyte. -/
theorem volumesFit_iff_gibibyte : VolumesFit Char.toLower (diskCache (2 ^ 30)) :=
  (volumesFit_iff Webhook.asciiStd Char.toLower (diskCache (2 ^ 30)) (by decide +kernel)
    (by decide)).2 (by decide)

/-- The limit of a volume for `2Ei` leaves 64Mi of room, where five per cent are needed. -/
theorem twoExbibytes_tooSmall :
    validateVinylCache Webhook.asciiStd (diskCache (2 ^ 61)) = none ∧
      fileStorageSizeLimit (2 ^ 61) = 2 ^ 61 + 64 * 2 ^ 20 ∧
      ¬VolumesFit Char.toLower (diskCache (2 ^ 61)) := by
  refine ⟨by decide +kernel, by decide, fun h => ?_⟩
  have hlimit := h.limits ⟨"disk", "file", 2 ^ 61, []⟩ List.mem_cons_self (by decide)
  revert hlimit
  decide

end CloudVinyl.Controller
