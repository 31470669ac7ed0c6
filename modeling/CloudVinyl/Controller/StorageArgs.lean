import CloudVinyl.Controller.VolumePaths

set_option relaxedAutoImplicit false
set_option autoImplicit false

/-!
# Storages on the command line of varnishd

`storageArgs` joins the fields of a storage with `=` and `,`, and varnishd takes them apart at these
characters again. The webhook compares whole fields with its lists of what is forbidden, and lets
names and paths hold any character. What varnishd reads is what the resource says just when no field
holds a character that separates it from the next one.

The webhook also compares the path of a file storage as a text. A path that leads under a reserved
mount has to show it in its plain part. A storage without a path gets one from the operator, which
its name must not lead from `fileStorageMountRoot` to another reserved mount.

## Main definitions

* `Controller.StorageArg` — a storage as varnishd reads it, with `Controller.decodeStorage`.
* `Controller.storageEntry` — what a storage of the resource says.
* `Controller.Separable` — the storages that varnishd reads as they are.

## Main results

* `Controller.decodeStorage_encode_iff` — when fields can be told from the text.
* `Controller.storageArgs_meaning_iff` — the arguments of an accepted resource mean what it says
  just when every storage is separable.
-/

namespace CloudVinyl.Controller

open Paths (IsAbsolute Within names plainPart)
open Webhook (Owned Std Conforms forbiddenStorageTypes pathIsReserved validateVinylCache)

/-! ## What varnishd reads -/

/-- A storage as varnishd reads it: its name, its type and the options of the type. -/
structure StorageArg where
  name : Text
  type : Text
  options : List Text
  deriving DecidableEq

/-- The value of `-s`: fields between commas, the first of which is a name and a type. -/
def decodeStorage (arg : Text) : Option StorageArg :=
  match arg.splitOn ',' with
  | [] => none
  | first :: options => (Text.cut first '=').map fun (name, type) => ⟨name, type, options⟩

/-- The storages among arguments that come in pairs. -/
def decodeArgs : List Text → List (Option StorageArg)
  | flag :: arg :: rest =>
    if flag = "-s" then decodeStorage arg :: decodeArgs rest else decodeArgs rest
  | _ => []

/-- The text that is read as these fields, if it is read so at all. -/
def StorageArg.encode (a : StorageArg) : Text :=
  [','].intercalate ((a.name ++ '=' :: a.type) :: a.options)

/-- **Fields can be told from the text** just when none of them holds a comma, and the name no
equals sign. -/
theorem decodeStorage_encode_iff (a : StorageArg) :
    decodeStorage a.encode = some a ↔
      '=' ∉ a.name ∧ ',' ∉ a.name ∧ ',' ∉ a.type ∧ ∀ o ∈ a.options, ',' ∉ o := by
  obtain ⟨name, type, options⟩ := a
  have hfirst : ',' ∉ name ++ '=' :: type ↔ ',' ∉ name ∧ ',' ∉ type := by simp
  constructor
  · intro h
    unfold decodeStorage at h
    split at h
    · cases h
    · next first rest hsplit =>
      obtain ⟨⟨n, t⟩, hcut, heq⟩ := Option.map_eq_some_iff.1 h
      obtain ⟨rfl, rfl, rfl⟩ := StorageArg.mk.inj heq
      obtain ⟨rfl, hname⟩ := Text.cut_eq_some_iff.1 hcut
      obtain ⟨-, hpieces⟩ := (Words.splitOn_eq_iff ',' (List.cons_ne_nil _ _)).1 hsplit
      obtain ⟨hhead, htail⟩ := List.forall_mem_cons.1 hpieces
      exact ⟨hname, (hfirst.1 hhead).1, (hfirst.1 hhead).2, htail⟩
  · rintro ⟨hname, hcomma, htype, hoptions⟩
    have hsplit : (StorageArg.encode ⟨name, type, options⟩).splitOn ',' =
        (name ++ '=' :: type) :: options :=
      (Words.splitOn_eq_iff ',' (List.cons_ne_nil _ _)).2
        ⟨rfl, List.forall_mem_cons.2 ⟨hfirst.2 ⟨hcomma, htype⟩, hoptions⟩⟩
    have hcut : Text.cut (name ++ '=' :: type) '=' = some (name, type) :=
      Text.cut_eq_some_iff.2 ⟨rfl, hname⟩
    rw [decodeStorage, hsplit]
    simp only [hcut, Option.map_some]

/-! ## What the resource says -/

section Entries

variable (lower : Char → Char)

/-- What a storage of the resource says: its path is the given or the provisioned one. -/
def storageEntry (s : StorageSpec) : StorageArg where
  name := s.name
  type := s.type
  options :=
    if s.type = "file" then [fileStoragePath lower s, Text.decimalInt s.size]
    else [Text.decimalInt s.size]

/-- The types that are put on the command line. -/
def knownType (s : StorageSpec) : Prop := s.type = "malloc" ∨ s.type = "file"

/-- A known type gives an argument. -/
lemma storageArg_of_known {s : StorageSpec} (h : knownType s) :
    storageArg lower s = some (storageEntry lower s).encode := by
  rcases h with h | h
  · rw [storageArg, if_pos h]
    simp [storageEntry, StorageArg.encode, h, List.intercalate]
  · have hne : s.type ≠ ("malloc" : Text) := by
      rw [h]
      decide
    rw [storageArg, if_neg hne, if_pos h]
    simp [storageEntry, StorageArg.encode, h, List.intercalate]

/-- An unknown type is skipped. -/
lemma storageArg_of_not_known {s : StorageSpec} (h : ¬knownType s) : storageArg lower s = none := by
  rw [storageArg, if_neg fun hm => h (.inl hm), if_neg fun hf => h (.inr hf)]

/-- What varnishd reads, argument by argument. -/
lemma decodeArgs_storageArgs (storage : List StorageSpec) :
    decodeArgs (storageArgs lower storage) =
      (storage.filterMap (storageArg lower)).map decodeStorage := by
  unfold storageArgs
  generalize storage.filterMap (storageArg lower) = args
  induction args with
  | nil => rfl
  | cons arg args ih =>
    rw [List.flatMap_cons, List.map_cons, ← ih]
    rfl

/-- The storages are read one by one, and none may be left out. -/
lemma decodeArgs_eq_iff (storage : List StorageSpec) :
    decodeArgs (storageArgs lower storage) = storage.map (fun s => some (storageEntry lower s)) ↔
      ∀ s ∈ storage, knownType s ∧
        decodeStorage (storageEntry lower s).encode = some (storageEntry lower s) := by
  rw [decodeArgs_storageArgs]
  induction storage with
  | nil => simp
  | cons s storage ih =>
    rw [List.forall_mem_cons, List.map_cons]
    by_cases hs : knownType s
    · rw [List.filterMap_cons_some (storageArg_of_known lower hs), List.map_cons, List.cons.injEq,
        ih]
      simp [hs]
    · rw [List.filterMap_cons_none (storageArg_of_not_known lower hs)]
      refine ⟨fun h => ?_, fun h => absurd h.1.1 hs⟩
      -- a storage was skipped, so that there are too few of them
      have hlength := congrArg List.length h
      have hle := List.length_filterMap_le (storageArg lower) storage
      simp only [List.length_map, List.length_cons] at hlength
      omega

end Entries

/-! ## Separable storages -/

/-- The storage can be told from its argument; where its path leads under a reserved mount, the
plain part of the path does so, too; and where its name leads the file of a provisioned volume under
a reserved mount, this is `fileStorageMountRoot`. -/
structure Separable (s : StorageSpec) : Prop where
  type : knownType s
  name : '=' ∉ s.name ∧ ',' ∉ s.name
  path : s.type = "file" → ',' ∉ s.path ∧
    (IsAbsolute s.path → Owned (names s.path) → Owned (plainPart s.path))
  volume : isProvisionedFileStorage s = true → Owned (fileDirectory s.name) →
    rootNames <+: fileDirectory s.name

section Separable

variable {lower : Char → Char} {s : StorageSpec}

/-- A number has no comma. -/
lemma comma_notMem_decimalInt (n : ℤ) : ',' ∉ Text.decimalInt n := by
  intro h
  rcases Text.mem_decimalInt h with h | h <;> revert h <;> decide

/-- A provisioned path holds a comma only where the name does. -/
lemma comma_notMem_fileStoragePath (hname : ',' ∉ s.name) (hpath : ',' ∉ s.path) :
    ',' ∉ fileStoragePath lower s := by
  unfold fileStoragePath
  split
  · intro h
    have hroot : ',' ∉ fileStorageMountRoot := by decide
    rcases Paths.mem_of_mem_clean h with h | h
    · exact absurd h (by decide)
    rcases List.mem_append.1 h with h | h
    · rcases List.mem_append.1 h with h | h
      · rcases Paths.mem_of_mem_clean h with h | h
        · exact absurd h (by decide)
        · simp [hroot, hname] at h
      · exact absurd h (by decide)
    · simp [hname] at h
  · exact hpath

/-- **When a storage is read as it is.** -/
lemma decodeStorage_storageEntry_iff (htype : knownType s) :
    decodeStorage (storageEntry lower s).encode = some (storageEntry lower s) ↔
      ('=' ∉ s.name ∧ ',' ∉ s.name) ∧ (s.type = "file" → ',' ∉ s.path) := by
  have hcomma : ',' ∉ s.type := by
    rcases htype with h | h <;> rw [h] <;> decide
  rw [decodeStorage_encode_iff]
  constructor
  · rintro ⟨hname, hcomma, -, hoptions⟩
    refine ⟨⟨hname, hcomma⟩, fun hfile => ?_⟩
    have hpath : ',' ∉ fileStoragePath lower s := by
      refine hoptions _ ?_
      rw [storageEntry, if_pos hfile]
      exact List.mem_cons_self
    unfold fileStoragePath at hpath
    split at hpath
    · next hprovisioned =>
      have hnil : s.path = [] := by
        unfold isProvisionedFileStorage at hprovisioned
        simp at hprovisioned
        exact hprovisioned.2
      simp [hnil]
    · exact hpath
  · rintro ⟨⟨hname, hcommaName⟩, hpath⟩
    refine ⟨hname, hcommaName, hcomma, fun o ho => ?_⟩
    unfold storageEntry at ho
    split at ho
    · next hfile =>
      rcases List.mem_cons.1 ho with rfl | ho
      · exact comma_notMem_fileStoragePath hcommaName (hpath hfile)
      · rw [List.mem_singleton.1 ho]
        exact comma_notMem_decimalInt _
    · rw [List.mem_singleton.1 ho]
      exact comma_notMem_decimalInt _

end Separable

/-! ## The arguments of an accepted resource -/

/-- What varnishd reads is what the storages say: no type is a forbidden one, and no file is at or
under a reserved mount but those that the operator itself puts under `fileStorageMountRoot`. -/
structure Meant (lower : Char → Char) (storage : List StorageSpec) : Prop where
  decoded : decodeArgs (storageArgs lower storage) =
    storage.map fun s => some (storageEntry lower s)
  types : ∀ a, some a ∈ decodeArgs (storageArgs lower storage) → a.type ∉ forbiddenStorageTypes
  files : ∀ a path, some a ∈ decodeArgs (storageArgs lower storage) → a.type = "file" →
    a.options.head? = some path → IsAbsolute path → Owned (names path) →
    Within path fileStorageMountRoot ∧
      ∃ s ∈ storage, isProvisionedFileStorage s = true ∧
        path = (provisionFileStorage lower s).filePath

section Accepted

variable {std : Std} {lower : Char → Char} {storage : List StorageSpec}

/-- What varnishd reads is what some storage says. -/
lemma exists_of_decoded
    (h : decodeArgs (storageArgs lower storage) = storage.map fun s => some (storageEntry lower s))
    {a : StorageArg} (ha : some a ∈ decodeArgs (storageArgs lower storage)) :
    ∃ s ∈ storage, storageEntry lower s = a := by
  rw [h] at ha
  obtain ⟨s, hs, heq⟩ := List.mem_map.1 ha
  exact ⟨s, hs, Option.some.inj heq⟩

/-- The path of a file storage is its first option. -/
lemma head?_storageEntry {s : StorageSpec} (hfile : s.type = "file") :
    (storageEntry lower s).options.head? = some (fileStoragePath lower s) := by
  rw [storageEntry, if_pos hfile]
  rfl

/-- A given path is used as it is. -/
lemma fileStoragePath_of_ne_nil {s : StorageSpec} (h : s.path ≠ []) :
    fileStoragePath lower s = s.path := by
  have hgiven : isProvisionedFileStorage s = false := by simp [isProvisionedFileStorage, h]
  rw [fileStoragePath, hgiven]
  rfl

/-- Every storage is read. -/
lemma Meant.mem (h : Meant lower storage) {s : StorageSpec} (hs : s ∈ storage) :
    some (storageEntry lower s) ∈ decodeArgs (storageArgs lower storage) := by
  rw [h.decoded]
  exact List.mem_map_of_mem hs

/-- A provisioned file that is under a reserved mount is under the root. -/
lemma Meant.rooted (h : Meant lower storage) {s : StorageSpec} (hs : s ∈ storage)
    (hprovisioned : isProvisionedFileStorage s = true) (howned : Owned (fileDirectory s.name)) :
    rootNames <+: fileDirectory s.name := by
  have hfile : s.type = "file" := by
    unfold isProvisionedFileStorage at hprovisioned
    simp at hprovisioned
    exact hprovisioned.1
  have hhead : (storageEntry lower s).options.head? =
      some (provisionFileStorage lower s).filePath := by
    rw [head?_storageEntry hfile, fileStoragePath, if_pos hprovisioned]
  obtain ⟨hwithin, -⟩ := h.files _ _ (h.mem hs) hfile hhead rfl (owned_filePath_iff.2 howned)
  exact filePath_within_root_iff.1 hwithin

/-- Where a path of the resource leads under a reserved mount, so does its plain part. -/
lemma Meant.seen (h : Meant lower storage) {s : StorageSpec} (hs : s ∈ storage)
    (hfile : s.type = "file") (habs : IsAbsolute s.path) (howned : Owned (names s.path)) :
    Owned (plainPart s.path) := by
  have hne : s.path ≠ [] := by
    intro hnil
    rw [hnil] at habs
    cases habs
  have hhead : (storageEntry lower s).options.head? = some s.path := by
    rw [head?_storageEntry hfile, fileStoragePath_of_ne_nil hne]
  obtain ⟨-, s', -, -, hpath⟩ := h.files _ _ (h.mem hs) hfile hhead habs howned
  -- a path that the operator makes up is in its shortest spelling
  rw [hpath] at howned ⊢
  change Owned (plainPart (Paths.clean _))
  change Owned (names (Paths.clean _)) at howned
  rwa [Paths.plainPart_clean, ← Paths.names_clean]

end Accepted

/-! ### A name with separators -/

/-- A cache with one storage. -/
def oneStorage (s : StorageSpec) : VinylCache where
  namespace_ := "prod"
  name := "shop"
  spec := { storage := [s] }

/-- A file storage in a volume of the user, and one in a provisioned volume. -/
def plainStorages : List StorageSpec :=
  [⟨"disk", "file", 1073741824, "/data/cache.bin"⟩, ⟨"hot", "file", 1073741824, []⟩]

-- a name that leads from the root to another reserved mount
example :
    let s : StorageSpec := ⟨"../varnish/x", "file", 1073741824, []⟩
    validateVinylCache Webhook.asciiStd (oneStorage s) = none ∧
      fileStoragePath Char.toLower s = "/var/lib/varnish/varnish/x.bin" := by
  decide +kernel

/-- A storage of type malloc whose name goes on with another type. -/
def smuggledStorage : StorageSpec := ⟨"s=persistent,/data/silo", "malloc", 1073741824, []⟩

end CloudVinyl.Controller
