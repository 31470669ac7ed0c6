import CloudVinyl.Controller.StatefulSet
import CloudVinyl.Webhook.Mounts

set_option relaxedAutoImplicit false
set_option autoImplicit false

/-!
# The places of provisioned volumes

`provisionFileStorage` mounts the volume of a file storage at the path that its name leads to from
`fileStorageMountRoot`, and puts the cache file at the path that the name with `.bin` behind it
leads to from there. A name is any text: it may have slashes, and segments that lead up.

## Main definitions

* `Controller.Confined` — volumes below the root, files in their volumes, and no volume in the way
  of another one.
* `Controller.mountRoute`, `Controller.fileRoute` — the ways to the volume and to the directory of
  the file, with `Controller.fileDirectory` — where they lead.
* `Controller.Settles` — a name that leads to a volume of its own.

## Main results

* `Controller.below_root_iff`, `Controller.below_mountPath_iff` — when a volume lies below the root,
  and its file in it.
* `Controller.owned_filePath_iff`, `Controller.filePath_within_root_iff` — what the name says about
  the place of its file.
* `Controller.confined_iff` — the names by which the volumes are confined.
-/

namespace CloudVinyl.Controller

open Paths
open Webhook (Owned reservedMountPaths validateVinylCache)

/-- Every provisioned volume lies below the root, and its file below it; none is at, above or below
another one or a reserved path, the root apart. -/
structure Confined (lower : Char → Char) (storage : List StorageSpec) : Prop where
  volume : ∀ p ∈ provisionedFileStorages lower storage, Below p.mountPath fileStorageMountRoot
  file : ∀ p ∈ provisionedFileStorages lower storage, Below p.filePath p.mountPath
  apart : (provisionedFileStorages lower storage).Pairwise fun p q =>
    ¬Within p.mountPath q.mountPath ∧ ¬Within q.mountPath p.mountPath
  reserved : ∀ p ∈ provisionedFileStorages lower storage, ∀ r ∈ reservedMountPaths,
    r ≠ fileStorageMountRoot → ¬Within p.mountPath r ∧ ¬Within r p.mountPath

/-! ## The names of storages -/

/-- The names on the way to `fileStorageMountRoot`. -/
def rootNames : List Text := ["var", "lib", "vinyl-storage"]

/-- The way from the root to the volume. -/
def mountRoute (name : Text) : Relative := .ofSegments (name.splitOn '/')

/-- The way from the volume to the directory of the file. -/
def fileRoute (name : Text) : Relative := .ofSegments (name.splitOn '/').dropLast

/-- The directory of the file, from the root of the file system. -/
def fileDirectory (name : Text) : List Text :=
  (fileRoute name).leads ((mountRoute name).leads rootNames)

/-- What a name names below the root, if it leads there. -/
def volumeNames (name : Text) : List Text :=
  (mountRoute name).trail.drop (min (mountRoute name).climb rootNames.length)

/-- The name leads to a place below the root: if it climbs above the root, it names the way back
first. From that place its directory leads to the same place, or below it. -/
structure Settles (name : Text) : Prop where
  returns : rootNames.drop (rootNames.length - (mountRoute name).climb) <+: (mountRoute name).trail
  volume : volumeNames name ≠ []
  file : let place := rootNames ++ volumeNames name
    place.drop (place.length - (fileRoute name).climb) <+: (fileRoute name).trail

/-- Whether a name settles can be decided. -/
instance (name : Text) : Decidable (Settles name) :=
  decidable_of_iff (_ ∧ _ ∧ _)
    ⟨fun h => ⟨h.1, h.2.1, h.2.2⟩, fun h => ⟨h.returns, h.volume, h.file⟩⟩

/-- The last segment of a name, and those before it. -/
lemma exists_splitOn_eq (name : Text) : ∃ ws w, name.splitOn '/' = ws ++ [w] :=
  ⟨_, _, (List.dropLast_append_getLast (List.splitOn_ne_nil '/' name)).symm⟩

/-! ## Where the paths lead -/

section Places

variable {lower : Char → Char} {s : StorageSpec}

/-- Where a joined path leads. -/
lemma names_joinPath {p q : Text} (h : IsAbsolute p) :
    names (joinPath p q) = (Relative.ofSegments (q.splitOn '/')).leads (names p) := by
  rw [joinPath, names_clean, ← foldl_walk_eq, ← names_append h]
  simp

/-- The place of the volume. -/
lemma names_mountPath :
    names (provisionFileStorage lower s).mountPath = (mountRoute s.name).leads rootNames :=
  names_joinPath (by decide)

/-- The file has a name of its own below its directory. -/
lemma names_filePath (lower : Char → Char) (s : StorageSpec) : ∃ w : Text,
    names (provisionFileStorage lower s).filePath =
      fileDirectory s.name ++ [w ++ ".bin".toList] := by
  obtain ⟨ws, w, hsplit⟩ := exists_splitOn_eq s.name
  have hsegments := Words.splitOn_append_of_notMem (r := ".bin".toList) hsplit (by decide)
  have hname : isName (w ++ ".bin".toList) = true := by
    have hlength : 4 ≤ (w ++ ".bin".toList).length := by
      rw [List.length_append]
      exact Nat.le_add_left _ _
    exact isName_of_length (by omega)
  refine ⟨w, ?_⟩
  calc names (provisionFileStorage lower s).filePath
      = (Relative.ofSegments ((s.name ++ ".bin".toList).splitOn '/')).leads
          (names (provisionFileStorage lower s).mountPath) := names_joinPath rfl
    _ = walk (ws.foldl walk (names (provisionFileStorage lower s).mountPath))
          (w ++ ".bin".toList) := by
        rw [← foldl_walk_eq, hsegments, List.foldl_append, List.foldl_cons, List.foldl_nil]
    _ = fileDirectory s.name ++ [w ++ ".bin".toList] := by
        rw [walk, if_pos hname, foldl_walk_eq, names_mountPath, fileDirectory, fileRoute, hsplit,
          List.dropLast_concat]

/-- No reserved path ends in the name of a cache file. -/
lemma reserved_prefix_concat_iff {r : Text} (hr : r ∈ reservedMountPaths) (place : List Text)
    (w : Text) : names r <+: place ++ [w ++ ".bin".toList] ↔ names r <+: place := by
  have hlast : ∀ r ∈ reservedMountPaths, ¬".bin".toList <:+ ((names r).getLast?.getD []) := by
    decide
  rw [List.prefix_concat_iff, or_iff_right]
  intro heq
  refine hlast r hr ?_
  rw [heq, List.getLast?_concat]
  exact List.suffix_append _ _

/-- **The file lies under a reserved path** just when its directory does. -/
lemma owned_filePath_iff :
    Owned (names (provisionFileStorage lower s).filePath) ↔ Owned (fileDirectory s.name) := by
  obtain ⟨w, hfile⟩ := names_filePath lower s
  rw [hfile]
  exact exists_congr fun r => and_congr_right fun hr => reserved_prefix_concat_iff hr _ w

/-- **The file lies under the root** just when its directory does. -/
lemma filePath_within_root_iff :
    Within (provisionFileStorage lower s).filePath fileStorageMountRoot ↔
      rootNames <+: fileDirectory s.name := by
  have hroot : names fileStorageMountRoot = rootNames := by decide
  have hreserved : fileStorageMountRoot ∈ reservedMountPaths := by decide
  obtain ⟨w, hfile⟩ := names_filePath lower s
  rw [Within, hfile, reserved_prefix_concat_iff hreserved, hroot]

/-- The volume lies below the root just when the name comes back to the root and goes on. -/
lemma below_root_iff : Below (provisionFileStorage lower s).mountPath fileStorageMountRoot ↔
    rootNames.drop (rootNames.length - (mountRoute s.name).climb) <+: (mountRoute s.name).trail ∧
      volumeNames s.name ≠ [] := by
  have hroot : names fileStorageMountRoot = rootNames := by decide
  rw [Below, Within, hroot, names_mountPath, Relative.prefix_leads_iff]
  refine and_congr_right fun hreturns => ?_
  rw [Relative.leads_of_prefix hreturns, Ne, List.self_eq_append_right]
  rfl

/-- The file lies in the volume just when its directory does. -/
lemma below_mountPath_iff :
    Below (provisionFileStorage lower s).filePath (provisionFileStorage lower s).mountPath ↔
      let place := names (provisionFileStorage lower s).mountPath
      place.drop (place.length - (fileRoute s.name).climb) <+: (fileRoute s.name).trail := by
  obtain ⟨w, hfile⟩ := names_filePath lower s
  dsimp only
  rw [← Relative.prefix_leads_iff, Below, Within, hfile, fileDirectory, ← names_mountPath,
    List.prefix_concat_iff]
  constructor
  · rintro ⟨heq | hdirectory, hne⟩
    · exact absurd heq hne
    · exact hdirectory
  · intro hdirectory
    refine ⟨.inr hdirectory, fun heq => ?_⟩
    have hlength := congrArg List.length heq
    rw [List.length_append, List.length_singleton] at hlength
    have := hdirectory.length_le
    omega

/-- The place of a volume whose name settles. -/
lemma names_mountPath_of_settles (h : Settles s.name) :
    names (provisionFileStorage lower s).mountPath = rootNames ++ volumeNames s.name := by
  rw [names_mountPath, Relative.leads_of_prefix h.returns]
  rfl

/-- A name settles just when its volume and its file lie where they should. -/
lemma settles_iff : Settles s.name ↔
    Below (provisionFileStorage lower s).mountPath fileStorageMountRoot ∧
      Below (provisionFileStorage lower s).filePath (provisionFileStorage lower s).mountPath := by
  rw [below_root_iff, below_mountPath_iff]
  constructor
  · intro h
    refine ⟨⟨h.returns, h.volume⟩, ?_⟩
    rw [names_mountPath_of_settles h]
    exact h.file
  · rintro ⟨⟨hreturns, hvolume⟩, hfile⟩
    refine ⟨hreturns, hvolume, ?_⟩
    rw [names_mountPath, Relative.leads_of_prefix hreturns] at hfile
    exact hfile

/-- A volume below the root has nothing to do with the other reserved paths. -/
lemma not_within_reserved (h : Settles s.name) {r : Text} (hr : r ∈ reservedMountPaths)
    (hne : r ≠ fileStorageMountRoot) :
    ¬Within (provisionFileStorage lower s).mountPath r ∧
      ¬Within r (provisionFileStorage lower s).mountPath := by
  have happart : ∀ r ∈ reservedMountPaths, r ≠ fileStorageMountRoot →
      ¬names r <+: rootNames ∧ ¬rootNames <+: names r := by decide
  obtain ⟨hbelow, habove⟩ := happart r hr hne
  rw [Within, Within, names_mountPath_of_settles h]
  have hroot : rootNames <+: rootNames ++ volumeNames s.name := List.prefix_append _ _
  constructor
  · intro hwithin
    exact (List.prefix_or_prefix_of_prefix hwithin hroot).elim hbelow habove
  · intro hwithin
    exact habove (hroot.trans hwithin)

end Places

/-- **The volumes are confined** just when every name settles and no name names a volume at or below
that of another one. -/
theorem confined_iff (lower : Char → Char) (storage : List StorageSpec) :
    Confined lower storage ↔
      (∀ s ∈ storage.filter isProvisionedFileStorage, Settles s.name) ∧
        (storage.filter isProvisionedFileStorage).Pairwise fun s t =>
          ¬volumeNames s.name <+: volumeNames t.name ∧
            ¬volumeNames t.name <+: volumeNames s.name := by
  have happart (hsettles : ∀ s ∈ storage.filter isProvisionedFileStorage, Settles s.name) :
      (provisionedFileStorages lower storage).Pairwise (fun p q =>
        ¬Within p.mountPath q.mountPath ∧ ¬Within q.mountPath p.mountPath) ↔
        (storage.filter isProvisionedFileStorage).Pairwise fun s t =>
          ¬volumeNames s.name <+: volumeNames t.name ∧
            ¬volumeNames t.name <+: volumeNames s.name := by
    rw [provisionedFileStorages, List.pairwise_map]
    refine List.Pairwise.iff_of_mem fun {s t} hs ht => ?_
    rw [Within, Within, names_mountPath_of_settles (hsettles s hs),
      names_mountPath_of_settles (hsettles t ht), List.prefix_append_right_inj,
      List.prefix_append_right_inj]
    exact and_comm
  constructor
  · intro h
    have hsettles : ∀ s ∈ storage.filter isProvisionedFileStorage, Settles s.name := fun s hs =>
      settles_iff.2 ⟨h.volume _ (List.mem_map_of_mem hs), h.file _ (List.mem_map_of_mem hs)⟩
    exact ⟨hsettles, (happart hsettles).1 h.apart⟩
  · rintro ⟨hsettles, hpairs⟩
    refine ⟨?_, ?_, (happart hsettles).2 hpairs, ?_⟩
    · intro p hp
      obtain ⟨s, hs, rfl⟩ := List.mem_map.1 hp
      exact (settles_iff.1 (hsettles s hs)).1
    · intro p hp
      obtain ⟨s, hs, rfl⟩ := List.mem_map.1 hp
      exact (settles_iff.1 (hsettles s hs)).2
    · intro p hp
      obtain ⟨s, hs, rfl⟩ := List.mem_map.1 hp
      exact fun r hr hne => not_within_reserved (hsettles s hs) hr hne

/-- The webhook accepts a name that leads up: the volume is mounted over the working directory of
varnishd, which is a reserved path. -/
theorem varnish_notConfined :
    let vc : VinylCache :=
      { namespace_ := "prod", name := "shop"
        spec := { storage := [⟨"../varnish", "file", 2 ^ 30, []⟩] } }
    validateVinylCache Webhook.asciiStd vc = none ∧
      (provisionedFileStorages Char.toLower vc.spec.storage).map (·.mountPath) =
        ["/var/lib/varnish"] ∧
      ¬Confined Char.toLower vc.spec.storage := by
  refine ⟨by decide +kernel, by decide +kernel, fun h => ?_⟩
  have hbelow := h.volume _ List.mem_cons_self
  revert hbelow
  decide +kernel

end CloudVinyl.Controller
