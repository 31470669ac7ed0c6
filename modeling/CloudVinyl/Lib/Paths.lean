import Mathlib.Data.List.DropRight
import CloudVinyl.Lib.Strings

set_option relaxedAutoImplicit false
set_option autoImplicit false

/-!
# Absolute paths

A path names a file by the names on the way to it. Many spellings lead to the same file: slashes
may be repeated, a segment may be empty or a dot, and two dots take back the name before them.
`Paths.clean` is `path.Clean` of Go on a path that starts with a slash, as it is documented.

## Main definitions

* `Paths.segments` — the pieces between the slashes.
* `Paths.names` — the names on the way to the file.
* `Paths.clean` — the shortest spelling.
* `Paths.plainPart` — the names before the first segment that is not one.
* `Paths.Relative` — a path from some directory on: how far it climbs, and what it names then.
* `Paths.Within`, `Paths.Below` — one path leads to a place at or below another, or below it.

## Main results

* `Paths.names_clean` — the shortest spelling leads to the same file.
* `Paths.clean_eq_self_iff` — the paths that are spelled in that way.
* `Paths.prefix_segments_iff` — when the segments of one path begin those of another, in terms of
  the texts.
* `Paths.names_append`, `Paths.foldl_walk_eq` — where a path leads from a directory.
* `Paths.Relative.prefix_leads_iff` — when it leads into the directory.
-/

namespace Paths

/-- The segments of a path, behind its leading slash. -/
def segments (p : Text) : List Text := (p.drop 1).splitOn '/'

/-- A segment that is a name. -/
def isName (s : Text) : Bool := s ≠ [] && s ≠ ['.'] && s ≠ ['.', '.']

/-- The segments that are no names are short. -/
lemma isName_of_length {s : Text} (h : 2 < s.length) : isName s = true := by
  unfold isName
  rw [Bool.and_eq_true, Bool.and_eq_true, decide_eq_true_eq, decide_eq_true_eq, decide_eq_true_eq]
  refine ⟨⟨?_, ?_⟩, ?_⟩
  · rintro rfl
    simp at h
  · rintro rfl
    simp at h
  · rintro rfl
    simp at h

/-- The names after one more segment. -/
def walk (names : List Text) (s : Text) : List Text :=
  if isName s then names ++ [s] else if s = ['.', '.'] then names.dropLast else names

/-- The names on the way to the file. -/
def names (p : Text) : List Text := (segments p).foldl walk []

/-- The path with the given segments. -/
def rooted (ss : List Text) : Text := '/' :: ['/'].intercalate ss

/-- `path.Clean` of a path that starts with a slash. -/
def clean (p : Text) : Text := rooted (names p)

/-- The names before the first segment that is not a name. -/
def plainPart (p : Text) : List Text := (segments p).takeWhile isName

/-- The path starts with a slash. -/
def IsAbsolute (p : Text) : Prop := p.head? = some '/'

/-- Whether a path is absolute can be decided. -/
instance (p : Text) : Decidable (IsAbsolute p) := inferInstanceAs (Decidable (_ = _))

/-! ## Segments and texts -/

/-- A path has at least one segment. -/
lemma segments_ne_nil (p : Text) : segments p ≠ [] := List.splitOn_ne_nil '/' _

/-- A segment has no slash. -/
lemma slash_notMem_of_mem_segments {p s : Text} (h : s ∈ segments p) : '/' ∉ s :=
  Words.not_mem_of_mem_splitOn '/' h

/-- An absolute path is put together from its segments. -/
lemma rooted_segments {p : Text} (h : IsAbsolute p) : rooted (segments p) = p := by
  cases p with
  | nil => cases h
  | cons c p =>
    obtain rfl : c = '/' := Option.some.inj h
    rw [rooted, segments, List.drop_one, List.tail_cons, List.intercalate_splitOn]

/-- The segments of a path that was put together. -/
lemma segments_rooted {ss : List Text} (hne : ss ≠ []) (h : ∀ s ∈ ss, '/' ∉ s) :
    segments (rooted ss) = ss := by
  rw [segments, rooted, List.drop_one, List.tail_cons]
  exact List.splitOn_intercalate '/' h hne

/-- **Segments at the front.** The segments of a path begin those of another one exactly when the
paths are the same, or the former goes on in the latter with a slash. -/
theorem prefix_segments_iff {p q : Text} (hp : IsAbsolute p) (hq : IsAbsolute q) :
    segments p <+: segments q ↔ p = q ∨ p ++ ['/'] <+: q := by
  rw [Words.prefix_iff_intercalate (c := '/') (fun _ => slash_notMem_of_mem_segments)
    (fun _ => slash_notMem_of_mem_segments) (segments_ne_nil p) (segments_ne_nil q)]
  conv_rhs => rw [← rooted_segments hp, ← rooted_segments hq]
  rw [rooted, rooted, List.cons.injEq, List.cons_append, List.cons_prefix_cons]
  simp

/-! ## Names -/

/-- Walking on keeps names only. -/
lemma isName_of_mem_foldl_walk {ss acc : List Text} (hacc : ∀ s ∈ acc, isName s = true) :
    ∀ s ∈ ss.foldl walk acc, isName s = true := by
  induction ss generalizing acc with
  | nil => exact hacc
  | cons s ss ih =>
    refine ih fun t ht => ?_
    unfold walk at ht
    split_ifs at ht with hname
    · rcases List.mem_append.1 ht with ht | ht
      · exact hacc t ht
      · exact List.mem_singleton.1 ht ▸ hname
    · exact hacc t (List.mem_of_mem_dropLast ht)
    · exact hacc t ht

/-- The names of a path are names. -/
lemma isName_of_mem_names {p s : Text} (h : s ∈ names p) : isName s = true :=
  isName_of_mem_foldl_walk (by simp) s h

/-- Names are taken over as they are. -/
lemma foldl_walk_of_isName {ss : List Text} (h : ∀ s ∈ ss, isName s = true) (acc : List Text) :
    ss.foldl walk acc = acc ++ ss := by
  induction ss generalizing acc with
  | nil => simp
  | cons s ss ih =>
    rw [List.foldl_cons, ih fun t ht => h t (by simp [ht]), walk, if_pos (h s (by simp)),
      List.append_assoc, List.singleton_append]

/-- A path in its shortest spelling has its segments as names. -/
lemma names_of_isName {p : Text} (h : ∀ s ∈ segments p, isName s = true) : names p = segments p :=
  foldl_walk_of_isName h []

/-- What a walk keeps was there or is one of the segments. -/
lemma mem_foldl_walk {ss acc : List Text} {s : Text} (h : s ∈ ss.foldl walk acc) :
    s ∈ acc ∨ s ∈ ss := by
  induction ss generalizing acc with
  | nil => exact .inl h
  | cons t ss ih =>
    rcases ih h with h | h
    · unfold walk at h
      split_ifs at h
      · rcases List.mem_append.1 h with h | h
        · exact .inl h
        · exact .inr (by simp [List.mem_singleton.1 h])
      · exact .inl (List.mem_of_mem_dropLast h)
      · exact .inl h
    · exact .inr (by simp [h])

/-- A name has no slash. -/
lemma slash_notMem_of_mem_names {p s : Text} (h : s ∈ names p) : '/' ∉ s := by
  rcases mem_foldl_walk h with h | h
  · cases h
  · exact slash_notMem_of_mem_segments h

/-- The shortest spelling is made of the characters of the path. -/
lemma mem_of_mem_clean {p : Text} {c : Char} (h : c ∈ clean p) : c = '/' ∨ c ∈ p := by
  rcases List.mem_cons.1 h with h | h
  · exact .inl h
  rcases Words.mem_intercalate h with h | ⟨s, hs, hc⟩
  · exact .inl h
  · have hsegment : s ∈ segments p := (mem_foldl_walk hs).resolve_left (List.not_mem_nil)
    have hjoin : ['/'].intercalate (segments p) = p.drop 1 := List.intercalate_splitOn '/'
    have hmem : c ∈ p.drop 1 := hjoin ▸ Words.mem_intercalate_of_mem hsegment hc
    exact .inr (List.mem_of_mem_drop hmem)

/-- The segments of the shortest spelling are the names, if there are any. -/
lemma segments_clean {p : Text} (h : names p ≠ []) : segments (clean p) = names p :=
  segments_rooted h fun _ => slash_notMem_of_mem_names

/-- The shortest spelling leads to the same file. -/
theorem names_clean (p : Text) : names (clean p) = names p := by
  by_cases hnil : names p = []
  · rw [clean, hnil]
    rfl
  · have hseg := segments_clean hnil
    rw [names_of_isName (by rw [hseg]; exact fun s => isName_of_mem_names), hseg]

/-- The shortest spelling is plain throughout. -/
lemma plainPart_clean (p : Text) : plainPart (clean p) = names p := by
  by_cases hnil : names p = []
  · rw [clean, hnil]
    rfl
  · rw [plainPart, segments_clean hnil]
    exact List.takeWhile_eq_self_iff.2 fun s => isName_of_mem_names

/-- A path is spelled in the shortest way exactly when it is the root or made of names. -/
theorem clean_eq_self_iff {p : Text} (h : IsAbsolute p) :
    clean p = p ↔ p = ['/'] ∨ ∀ s ∈ segments p, isName s = true := by
  constructor
  · intro heq
    by_cases hnil : names p = []
    · left
      rw [← heq, clean, hnil]
      rfl
    · right
      have hseg : segments p = names p := by
        conv_lhs => rw [← heq]
        exact segments_clean hnil
      rw [hseg]
      exact fun s => isName_of_mem_names
  · rintro (rfl | hnames)
    · rfl
    · rw [clean, names_of_isName hnames, rooted_segments h]

/-- Names begin a path exactly when they begin its plain part. -/
lemma prefix_plainPart_iff {l : List Text} {p : Text} (h : ∀ s ∈ l, isName s = true) :
    l <+: plainPart p ↔ l <+: segments p := by
  refine ⟨fun hl => hl.trans (List.takeWhile_prefix _), fun hl => ?_⟩
  obtain ⟨r, hr⟩ := hl
  rw [plainPart, ← hr, List.takeWhile_append_of_pos h]
  exact List.prefix_append _ _

/-! ## Relative paths -/

/-- A path that starts at some directory: it climbs so many levels above it, and takes these names
from there. -/
structure Relative where
  climb : ℕ
  trail : List Text
  deriving DecidableEq

namespace Relative

/-- One more segment. -/
def step (r : Relative) (s : Text) : Relative :=
  if isName s then { r with trail := r.trail ++ [s] }
  else if s = ['.', '.'] then
    if r.trail = [] then { r with climb := r.climb + 1 } else { r with trail := r.trail.dropLast }
  else r

/-- The path with the given segments. -/
def ofSegments (ss : List Text) : Relative := ss.foldl step ⟨0, []⟩

/-- Where the path leads from a directory; above the root there is nothing. -/
def leads (r : Relative) (dir : List Text) : List Text := dir.rdrop r.climb ++ r.trail

/-- Walking on from where a relative path leads is walking on in the relative path. -/
lemma walk_leads (r : Relative) (dir : List Text) (s : Text) :
    walk (r.leads dir) s = (r.step s).leads dir := by
  unfold walk step
  split_ifs with hname hdots htrail
  · rw [leads, leads, List.append_assoc]
  · have hdrop : (dir.rdrop r.climb).dropLast = dir.rdrop (r.climb + 1) := by
      rw [← List.rdrop_add, List.rdrop, List.rdrop, List.dropLast_eq_take]
    rw [leads, leads, htrail, List.append_nil, List.append_nil, hdrop]
  · rw [leads, leads, List.dropLast_append_of_ne_nil htrail]
  · rfl

/-- A path leads into the directory that it starts at exactly when it names again the levels that it
has climbed. -/
theorem prefix_leads_iff (r : Relative) (dir : List Text) :
    dir <+: r.leads dir ↔ dir.drop (dir.length - r.climb) <+: r.trail := by
  have hsplit := List.take_append_drop (dir.length - r.climb) dir
  calc dir <+: r.leads dir
      ↔ dir.take (dir.length - r.climb) ++ dir.drop (dir.length - r.climb) <+: r.leads dir := by
        rw [hsplit]
    _ ↔ dir.drop (dir.length - r.climb) <+: r.trail := List.prefix_append_right_inj _

/-- Then it leads to what it names behind these levels. -/
lemma leads_of_prefix {r : Relative} {dir : List Text}
    (h : dir.drop (dir.length - r.climb) <+: r.trail) :
    r.leads dir = dir ++ r.trail.drop (min r.climb dir.length) := by
  obtain ⟨rest, hrest⟩ := h
  have hlength : (dir.drop (dir.length - r.climb)).length = min r.climb dir.length := by
    rw [List.length_drop]
    omega
  rw [← hrest, ← hlength, List.drop_left, leads, ← hrest, List.rdrop, ← List.append_assoc,
    List.take_append_drop]

end Relative

/-- The segments lead where the relative path does. -/
theorem foldl_walk_eq (ss dir : List Text) :
    ss.foldl walk dir = (Relative.ofSegments ss).leads dir := by
  induction ss using List.reverseRecOn with
  | nil => simp [Relative.ofSegments, Relative.leads]
  | append_singleton ss s ih =>
    rw [List.foldl_append, List.foldl_cons, List.foldl_nil, ih, Relative.walk_leads,
      Relative.ofSegments, Relative.ofSegments, List.foldl_append, List.foldl_cons, List.foldl_nil]

/-- A path that goes on behind a slash goes on from the place it has reached. -/
theorem names_append {p : Text} (h : IsAbsolute p) (q : Text) :
    names (p ++ '/' :: q) = (q.splitOn '/').foldl walk (names p) := by
  cases p with
  | nil => cases h
  | cons c p =>
    have hsegments : segments (c :: p ++ '/' :: q) = segments (c :: p) ++ q.splitOn '/' := by
      rw [segments, segments, List.cons_append, List.drop_one, List.drop_one, List.tail_cons,
        List.tail_cons, List.splitOn_eq_splitOnP, List.splitOn_eq_splitOnP,
        List.splitOn_eq_splitOnP, List.splitOnP_append_cons _ _ (by simp)]
    rw [names, hsegments, List.foldl_append]
    rfl

/-- The path `p` leads to the place of `q`, or below it. -/
def Within (p q : Text) : Prop := names q <+: names p

/-- Whether a path is within another one can be decided. -/
instance (p q : Text) : Decidable (Within p q) := inferInstanceAs (Decidable (_ <+: _))

/-- The path `p` leads to a place below that of `q`. -/
def Below (p q : Text) : Prop := Within p q ∧ names q ≠ names p

/-- Whether a path is below another one can be decided. -/
instance (p q : Text) : Decidable (Below p q) := inferInstanceAs (Decidable (_ ∧ _))

end Paths
