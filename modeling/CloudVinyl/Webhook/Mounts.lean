import CloudVinyl.Lib.Paths
import CloudVinyl.Webhook.Validator

set_option relaxedAutoImplicit false
set_option autoImplicit false

/-!
# Reserved mount paths

The webhook compares the paths of a resource with the mounts of the operator as texts, while the
kubelet mounts at the file that a path leads to. Both agree on paths in their shortest spelling.
On others the webhook sees the plain part only, the names before the first empty or dotted segment.

## Main definitions

* `Webhook.Owned`, `Webhook.Related` — a file at or under a reserved mount, or also above one.
* `Webhook.Faithful` — the paths on which the checks see what the kubelet sees.

## Main results

* `Webhook.pathIsReserved_iff`, `Webhook.pathConflictsWithReserved_iff` — what the checks see.
* `Webhook.reserved_checks_iff` — the checks are right exactly on the faithful paths.
-/

namespace CloudVinyl.Webhook

open Paths

/-! ## Files and reserved mounts -/

/-- The file is a reserved mount or lies under one. -/
def Owned (file : List Text) : Prop := ∃ r ∈ reservedMountPaths, names r <+: file

/-- The file is a reserved mount, lies under one, or is an ancestor of one. -/
def Related (file : List Text) : Prop :=
  ∃ r ∈ reservedMountPaths, names r <+: file ∨ file <+: names r

/-- Whether a file belongs to a reserved mount can be decided. -/
instance (file : List Text) : Decidable (Owned file) :=
  inferInstanceAs (Decidable (∃ r ∈ reservedMountPaths, _))

/-- Whether a file and a reserved mount meet can be decided. -/
instance (file : List Text) : Decidable (Related file) :=
  inferInstanceAs (Decidable (∃ r ∈ reservedMountPaths, _))

/-- The path is in its shortest spelling; or its plain part and the file that it leads to are both
at or under reserved mounts; or the former is not, and the latter has nothing to do with one. -/
def Faithful (p : Text) : Prop :=
  clean p = p ∨ (Owned (plainPart p) ∧ Owned (names p)) ∨
    (¬Owned (plainPart p) ∧ ¬Related (names p))

/-- Whether a path is judged as it is meant can be decided. -/
instance (p : Text) : Decidable (Faithful p) := inferInstanceAs (Decidable (_ ∨ _))

/-- The reserved mounts are absolute paths. -/
lemma isAbsolute_of_mem_reserved : ∀ r ∈ reservedMountPaths, IsAbsolute r := by decide

/-- They have no empty or dotted segments. -/
lemma isName_of_mem_reserved : ∀ r ∈ reservedMountPaths, ∀ s ∈ segments r, isName s = true := by
  decide

/-- So the names of a reserved mount are its segments. -/
lemma names_of_mem_reserved {r : Text} (h : r ∈ reservedMountPaths) : names r = segments r :=
  names_of_isName (isName_of_mem_reserved r h)

/-! ## What the checks see -/

/-- `pathIsReserved` looks at the plain part of a path. -/
theorem pathIsReserved_iff {p : Text} (hp : IsAbsolute p) :
    pathIsReserved p = true ↔ Owned (plainPart p) := by
  unfold pathIsReserved Owned
  rw [List.any_eq_true]
  refine exists_congr fun r => and_congr_right fun hr => ?_
  rw [names_of_mem_reserved hr, prefix_plainPart_iff (isName_of_mem_reserved r hr),
    prefix_segments_iff (isAbsolute_of_mem_reserved r hr) hp, Bool.or_eq_true, decide_eq_true_eq,
    Text.hasPrefix_iff, eq_comm]
  rfl

/-- `pathConflictsWithReserved` also looks for the texts that a reserved path goes on from. -/
theorem pathConflictsWithReserved_iff {p : Text} (hp : IsAbsolute p) :
    pathConflictsWithReserved p = true ↔
      Owned (plainPart p) ∨ p = "/" ∨ ∃ r ∈ reservedMountPaths, segments p <+: names r := by
  unfold pathConflictsWithReserved
  rw [Bool.or_eq_true, Bool.or_eq_true, decide_eq_true_eq, pathIsReserved_iff hp, List.any_eq_true,
    or_assoc]
  constructor
  · refine fun h => h.imp_right fun h => h.imp_right ?_
    rintro ⟨r, hr, hpre⟩
    refine ⟨r, hr, ?_⟩
    rw [names_of_mem_reserved hr, prefix_segments_iff hp (isAbsolute_of_mem_reserved r hr)]
    exact .inr (Text.hasPrefix_iff.1 hpre)
  · rintro (h | h | ⟨r, hr, hpre⟩)
    · exact .inl h
    · exact .inr (.inl h)
    · rw [names_of_mem_reserved hr,
        prefix_segments_iff hp (isAbsolute_of_mem_reserved r hr)] at hpre
      rcases hpre with rfl | hpre
      · left
        rw [← pathIsReserved_iff hp]
        exact List.any_eq_true.2 ⟨p, hr, by simp⟩
      · exact .inr (.inr ⟨r, hr, Text.hasPrefix_iff.2 hpre⟩)

/-- A path that a reserved one goes on from, and the root, are in their shortest spelling. -/
lemma clean_eq_self_of_ancestor {p : Text} (hp : IsAbsolute p)
    (h : p = "/" ∨ ∃ r ∈ reservedMountPaths, segments p <+: names r) : clean p = p := by
  rw [clean_eq_self_iff hp]
  refine h.imp_right ?_
  rintro ⟨r, -, hpre⟩ s hs
  exact isName_of_mem_names (hpre.subset hs)

/-- On a path in its shortest spelling the checks see the file. -/
lemma checks_of_clean {p : Text} (hp : IsAbsolute p) (h : clean p = p) :
    (pathConflictsWithReserved p = true ↔ Related (names p)) ∧
      (pathIsReserved p = true ↔ Owned (names p)) := by
  rw [pathConflictsWithReserved_iff hp, pathIsReserved_iff hp]
  rcases (clean_eq_self_iff hp).1 h with rfl | hnames
  · decide
  · have hplain : plainPart p = names p := by
      rw [plainPart, names_of_isName hnames, List.takeWhile_eq_self_iff]
      exact hnames
    have hroot : p ≠ "/" := by
      rintro rfl
      exact absurd (hnames [] (by decide)) (by decide)
    rw [hplain, names_of_isName hnames]
    refine ⟨?_, Iff.rfl⟩
    constructor
    · rintro (⟨r, hr, hpre⟩ | hroot' | ⟨r, hr, hpre⟩)
      · exact ⟨r, hr, .inl hpre⟩
      · exact absurd hroot' hroot
      · exact ⟨r, hr, .inr hpre⟩
    · rintro ⟨r, hr, hpre | hpre⟩
      · exact .inl ⟨r, hr, hpre⟩
      · exact .inr (.inr ⟨r, hr, hpre⟩)

/-- **Where the checks of the webhook are right.** For an absolute path, they say whether the file
that the path leads to is at, under or above a reserved mount exactly if the path is faithful. So
no accepted resource mounts a volume, on a faithful path, at a file that is at, under or above a
reserved mount.

**Proof sketch.** The first check sees whether the plain part is owned, and beyond that the second
one is met only by paths in their shortest spelling. -/
theorem reserved_checks_iff (p : Text) (hp : IsAbsolute p) :
    (((pathConflictsWithReserved p = true ↔ Related (names (clean p))) ∧
      (pathIsReserved p = true ↔ Owned (names (clean p)))) ↔ Faithful p) ∧
    (Faithful p → ∀ (std : Std) (vc : VinylCache), validateVinylCache std vc = none →
      ∀ m ∈ vc.spec.pod.volumeMounts, m.mountPath = p → ¬Related (names (clean p))) := by
  rw [names_clean]
  have hiff : ((pathConflictsWithReserved p = true ↔ Related (names p)) ∧
      (pathIsReserved p = true ↔ Owned (names p))) ↔ Faithful p := by
    constructor
    · rintro ⟨hconflicts, hreserved⟩
      by_cases howned : Owned (plainPart p)
      · exact .inr (.inl ⟨howned, hreserved.1 ((pathIsReserved_iff hp).2 howned)⟩)
      · by_cases hrelated : Related (names p)
        · -- only a path in its shortest spelling passes for an ancestor
          have hcheck := (pathConflictsWithReserved_iff hp).1 (hconflicts.2 hrelated)
          exact .inl (clean_eq_self_of_ancestor hp (hcheck.resolve_left howned))
        · exact .inr (.inr ⟨howned, hrelated⟩)
    · rintro (hclean | ⟨hplain, hfile⟩ | ⟨hplain, hfile⟩)
      · exact checks_of_clean hp hclean
      · obtain ⟨r, hr, hpre⟩ := hfile
        exact ⟨iff_of_true ((pathConflictsWithReserved_iff hp).2 (.inl hplain))
            ⟨r, hr, .inl hpre⟩,
          iff_of_true ((pathIsReserved_iff hp).2 hplain) ⟨r, hr, hpre⟩⟩
      · have hnot : ¬Owned (names p) := fun ⟨r, hr, hpre⟩ => hfile ⟨r, hr, .inl hpre⟩
        refine ⟨iff_of_false (fun hcheck => ?_) hfile,
          iff_of_false (fun hcheck => hplain ((pathIsReserved_iff hp).1 hcheck)) hnot⟩
        have hanc := ((pathConflictsWithReserved_iff hp).1 hcheck).resolve_left hplain
        exact hfile ((checks_of_clean hp (clean_eq_self_of_ancestor hp hanc)).1.1 hcheck)
  refine ⟨hiff, fun hfaith std vc haccept m hm hpath hrelated => ?_⟩
  have hmount := ((validateVinylCache_eq_none_iff.1 haccept).mounts m hm).1
  rw [hpath, (hiff.2 hfaith).1.2 hrelated] at hmount
  cases hmount

/-- A path with an empty segment below a reserved mount is faithful, and the checks find it. -/
theorem reserved_checks_double_slash :
    Faithful "/run/vinyl//token" ∧ (pathIsReserved "/run/vinyl//token" = true ↔
      Owned (names (clean "/run/vinyl//token"))) := by
  have hfaith : Faithful "/run/vinyl//token" := by decide
  exact ⟨hfaith, ((reserved_checks_iff "/run/vinyl//token" (by decide)).1.2 hfaith).2⟩

/-- A resource that mounts a volume of its own over the directory of the agent's secret. -/
def shadowing : VinylCache where
  namespace_ := "prod"
  name := "shop"
  spec := { pod := { volumes := ["data"], volumeMounts := [⟨"data", "/etc/varnish/"⟩] } }

/-- The slash at the end hides the directory from the check, and the resource is accepted. -/
theorem shadowing_accepted :
    pathConflictsWithReserved "/etc/varnish/" = false ∧
      Related (names (clean "/etc/varnish/")) ∧
      ∀ std : Std, validateVinylCache std shadowing = none := by
  refine ⟨by decide, by decide, fun std => validateVinylCache_eq_none_iff.2 ?_⟩
  constructor
  case sources =>
    intro cidr hcidr
    cases hcidr
  case backends =>
    intro b hb
    cases hb
  case tracing =>
    intro h
    cases h
  all_goals decide

end CloudVinyl.Webhook
