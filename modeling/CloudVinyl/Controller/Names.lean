import CloudVinyl.Agent.Framing
import CloudVinyl.Controller.StatefulSet
import CloudVinyl.Lib.Dns
import Mathlib.Data.Nat.Digits.Defs

set_option relaxedAutoImplicit false
set_option autoImplicit false

/-!
# Names that are made of other names

The operator makes names out of what users choose. `fileStorageVolumeName` of
`internal/controller/filestorage.go` turns the name of a storage, which may be any text, into the
name of a volume, which has to be a label. `vclNameFor` of `vcl_push.go` puts a namespace, the name
of a cache and a hash together to the name of a VCL, which varnishd has to accept.

## Main definitions

* `Controller.isVCLName` — the names that varnishd takes for a VCL.
* `Controller.LegalPush` — both commands of a push carry such a name.

## Main results

* `Controller.isLabel_fileStorageVolumeName` — every text leads to a label.
* `Controller.legalPush_iff` — which namespaces and names of caches lead to names of VCLs.
-/

namespace CloudVinyl.Controller

open Admin Dns

/-! ## Names of volumes -/

section Volumes

variable {lower : Char → Char}

/-- Hexadecimal digits are letters and digits of a label. -/
lemma isAlnum_of_mem_toDigits {c : Char} (n : ℕ) (hc : c ∈ Nat.toDigits 16 n) :
    isAlnum c = true := by
  have hdigit : ∀ d < 16, isAlnum (Nat.digitChar d) = true := by decide
  induction n using Nat.strongRecOn with
  | ind n ih =>
    rw [Nat.toDigits_eq_if (by decide)] at hc
    split_ifs at hc with hn
    · obtain rfl := List.mem_singleton.1 hc
      exact hdigit n hn
    · rcases List.mem_append.1 hc with hc | hc
      · exact ih (n / 16) (by omega) hc
      · obtain rfl := List.mem_singleton.1 hc
        exact hdigit _ (Nat.mod_lt n (by decide))

/-- So are those of a checksum. -/
lemma isAlnum_of_mem_hex08 {n : UInt32} {c : Char} (hc : c ∈ hex08 n) : isAlnum c = true := by
  rcases List.mem_append.1 hc with hc | hc
  · obtain rfl := List.eq_of_mem_replicate hc
    rfl
  · exact isAlnum_of_mem_toDigits n.toNat hc

/-- A number of 32 bits has eight digits of base sixteen. -/
lemma length_hex08 (n : UInt32) : (hex08 n).length = 8 := by
  have hlen : (Nat.toDigits 16 n.toNat).length ≤ 8 :=
    Nat.toDigits_length 16 n.toNat 8 (by decide) n.toNat_lt
  rw [hex08, List.length_append, List.length_replicate]
  omega

/-- A checksum has the shape of a label. -/
lemma isShaped_hex08 (n : UInt32) : isShaped (hex08 n) = true := by
  have hne : hex08 n ≠ [] := List.ne_nil_of_length_pos (by rw [length_hex08]; decide)
  exact isShaped_of_isAlnum hne fun c hc => isAlnum_of_mem_hex08 hc

/-- Trimming leaves a part from the front. -/
lemma trimRightDashes_isStart (s : Text) : trimRightDashes s <+: s := by
  rw [trimRightDashes, ← List.reverse_suffix, List.reverse_reverse]
  exact List.dropWhile_suffix _

/-- A trimmed name does not end in a hyphen. -/
lemma not_mem_getLast?_trimRightDashes (s : Text) : '-' ∉ (trimRightDashes s).getLast? := by
  rw [trimRightDashes, List.getLast?_reverse]
  intro hdash
  have hstop := List.head?_dropWhile_not (fun c => decide (c = '-')) s.reverse
  rw [Option.mem_def] at hdash
  simp [hdash] at hstop

/-- A sanitized name has characters of a label only. -/
lemma isLabelChar_of_mem_sanitizeStorageName {name : Text} {c : Char}
    (hc : c ∈ sanitizeStorageName lower name) : isLabelChar c = true := by
  obtain ⟨d, -, rfl⟩ := List.mem_map.1 hc
  split_ifs with hd
  · exact isLabelChar_iff.2 (.inl (isAlnum_iff.2 hd))
  · rfl

/-- The part for the storage name is a trimmed beginning of what sanitizing leaves behind its
leading dashes, of at most 45 characters. -/
lemma storageBase_spec (lower : Char → Char) (name : Text) :
    ∃ t, storageBase lower name = trimRightDashes t ∧
      t <+: (sanitizeStorageName lower name).dropWhile (· = '-') ∧
      (storageBase lower name).length ≤ 45 := by
  unfold storageBase
  dsimp only
  split_ifs with hlen
  · refine ⟨_, rfl, (List.take_prefix 45 _).trans (trimRightDashes_isStart _), ?_⟩
    exact (trimRightDashes_isStart _).length_le.trans (List.length_take_le 45 _)
  · exact ⟨_, rfl, List.prefix_rfl, not_lt.1 hlen⟩

/-- The part for the storage name is a piece of a label, unless nothing is left of it.

**Proof sketch.** It begins as the sanitized name does behind its leading dashes, and so with a
letter or a digit. Dashes at its end are trimmed last, after the cut to 45 characters. -/
lemma isShaped_storageBase {name : Text} (hne : storageBase lower name ≠ []) :
    isShaped (storageBase lower name) = true := by
  obtain ⟨t, hbase, hstart, -⟩ := storageBase_spec lower name
  have hstart' : storageBase lower name <+:
      (sanitizeStorageName lower name).dropWhile (· = '-') :=
    hbase ▸ (trimRightDashes_isStart t).trans hstart
  refine isShaped_of_trimmed hne (fun c hc => ?_) (fun hdash => ?_) ?_
  · exact isLabelChar_of_mem_sanitizeStorageName
      ((List.dropWhile_suffix _).mem (hstart'.mem hc))
  · obtain ⟨rest, hrest⟩ := hstart'
    have hstop := List.head?_dropWhile_not (fun c => decide (c = '-'))
      (sanitizeStorageName lower name)
    rw [Option.mem_def] at hdash
    rw [← hrest, List.head?_append, hdash] at hstop
    simp at hstop
  · rw [hbase]
    exact not_mem_getLast?_trimRightDashes t

/-- **Every text leads to the name of a volume.**

**Proof sketch.** The word `storage`, the part for the storage name and the hash are pieces, with
dashes between them. Their lengths are 7, at most 45 and 8. -/
theorem isLabel_fileStorageVolumeName (lower : Char → Char) (name : Text) :
    isLabel (fileStorageVolumeName lower name) = true := by
  have hword : isShaped "storage" = true := by decide
  have hhash := isShaped_hex08 (fnv32a name)
  have hlen := length_hex08 (fnv32a name)
  unfold fileStorageVolumeName
  dsimp only
  split_ifs with hbase
  · refine isLabel_iff.2 ⟨isShaped_join hword hhash, ?_⟩
    rw [List.length_append, hlen]
    decide
  · obtain ⟨-, -, -, hle⟩ := storageBase_spec lower name
    have hjoin := isShaped_join hword (isShaped_join (isShaped_storageBase hbase) hhash)
    refine isLabel_iff.2 ⟨?_, ?_⟩
    · simpa using hjoin
    · simp only [List.length_append, hlen, String.length_toList]
      have : ("storage-" : String).length = 8 := by decide
      have : ("-" : String).length = 1 := by decide
      omega

end Volumes

/-! ## Names of VCLs -/

/-- What varnishd takes for the name of a VCL: a letter, and then letters, digits, underscores and
dashes. -/
def isVCLName : Text → Bool
  | [] => false
  | c :: cs => c.isAlpha && cs.all fun d => d.isAlphanum || d = '_' || d = '-'

/-- A digit of base sixteen, as `%x` prints it. -/
def isHexDigit (c : Char) : Bool := c.isDigit || (decide ('a' ≤ c) && decide (c ≤ 'f'))

/-- The second word of a command, which is the name of the VCL. -/
def commandName (B : Blanks) (stream : Text) : Option Text :=
  (Words.words B.isBlank (stream.takeWhile (· ≠ '\n')))[1]?

/-- The commands of `PushVCL` that load a VCL and make it the active one. -/
def pushCommands (name vcl : Text) : List Text :=
  [sendInlineVCL "vcl.inline" name vcl, vclUse name]

/-- Varnishd accepts the name in both commands of a push. -/
def LegalPush (B : Blanks) (vc : VinylCache) (hash vcl : Text) : Prop :=
  ∀ stream ∈ pushCommands (vclNameFor vc hash) vcl,
    ∃ name, commandName B stream = some name ∧ isVCLName name = true

section Commands

variable (B : Blanks)

/-- The name is the second word of a line, in front of its end or of a space. -/
lemma commandName_append {verb name rest : Text} (hverb : verb ≠ [])
    (hverb' : ∀ c ∈ verb, B.isBlank c = false ∧ c ≠ '\n') (hname : name ≠ [])
    (hname' : ∀ c ∈ name, B.isBlank c = false ∧ c ≠ '\n')
    (hrest : rest.head? = some '\n' ∨ rest.head? = some ' ') :
    commandName B (verb ++ ' ' :: (name ++ rest)) = some name := by
  have hfirst : (verb ++ ' ' :: (name ++ rest)).takeWhile (· ≠ '\n') =
      verb ++ ' ' :: (name ++ rest.takeWhile (· ≠ '\n')) := by
    rw [List.takeWhile_append_of_pos (fun c hc => by simpa using (hverb' c hc).2),
      List.takeWhile_cons_of_pos (by decide),
      List.takeWhile_append_of_pos (fun c hc => by simpa using (hname' c hc).2)]
  have hsecond : Words.words B.isBlank (name ++ rest.takeWhile (· ≠ '\n')) =
      name :: Words.words B.isBlank (rest.takeWhile (· ≠ '\n')) := by
    cases rest with
    | nil => simp at hrest
    | cons c rest =>
      simp only [List.head?_cons, Option.some.injEq] at hrest
      rcases hrest with rfl | rfl
      · rw [List.takeWhile_cons_of_neg (by decide), List.append_nil, Words.words_nil,
          Words.words_of_forall_not B.isBlank hname fun c hc => (hname' c hc).1]
      · rw [List.takeWhile_cons_of_pos (by decide), Words.words_cons _ _ _ B.space,
          words_append_space B _ hname fun c hc => (hname' c hc).1]
  rw [commandName, hfirst, words_append_space B _ hverb fun c hc => (hverb' c hc).1, hsecond]
  rfl

/-- Both commands of a push carry the name as it is. -/
lemma commandName_of_mem_pushCommands {name vcl stream : Text} (hname : name ≠ [])
    (hname' : ∀ c ∈ name, B.isBlank c = false ∧ c ≠ '\n') (h : stream ∈ pushCommands name vcl) :
    commandName B stream = some name := by
  -- the two verbs are printable
  have hverb : ∀ {verb : Text}, verb.all (fun c => '!' ≤ c && c ≤ '~') = true →
      ∀ c ∈ verb, B.isBlank c = false ∧ c ≠ '\n' := by
    intro verb hall c hc
    refine ⟨B.not_blank hall c hc, ?_⟩
    rintro rfl
    exact absurd (List.all_eq_true.1 hall _ hc) (by decide)
  have hinline : sendInlineVCL "vcl.inline" name vcl =
      "vcl.inline" ++ ' ' :: (name ++ (" << EOF\n" ++ vcl ++ "\nEOF\n")) := by
    simp [sendInlineVCL]
  have huse : vclUse name = "vcl.use" ++ ' ' :: (name ++ "\n") := by
    simp [vclUse, sendCommand]
  simp only [pushCommands, List.mem_cons, List.not_mem_nil, or_false] at h
  rcases h with rfl | rfl
  · rw [hinline]
    exact commandName_append B (by decide) (hverb (by decide)) hname hname' (.inr rfl)
  · rw [huse]
    exact commandName_append B (by decide) (hverb (by decide)) hname hname' (.inl rfl)

end Commands

section Legal

variable {vc : VinylCache} {hash : Text}

/-- A hexadecimal digit is a letter or digit of a label. -/
lemma isAlnum_of_isHexDigit {c : Char} (h : isHexDigit c = true) : isAlnum c = true := by
  simp only [isHexDigit, Bool.or_eq_true, Bool.and_eq_true, decide_eq_true_iff] at h
  rcases h with h | ⟨ha, hf⟩
  · rw [isAlnum, h, Bool.or_true]
  · exact isAlnum_iff.2 (.inl ⟨ha, Char.le_trans hf (by decide)⟩)

/-- A character of a label may stand inside the name of a VCL. -/
lemma inner_of_isLabelChar {c : Char} (h : isLabelChar c = true) :
    (c.isAlphanum || c = '_' || c = '-') = true := by
  rw [isLabelChar_iff, isAlnum, Bool.or_eq_true] at h
  rcases h with (h | h) | rfl
  · show (c.isUpper || c.isLower || c.isDigit || c = '_' || c = '-') = true
    simp [h]
  · simp [Char.isAlphanum, h]
  · rfl

/-- The characters of a label are printable. -/
lemma visible_of_isLabelChar {c : Char} (h : isLabelChar c = true) : '!' ≤ c ∧ c ≤ '~' := by
  rw [isLabelChar_iff, isAlnum_iff] at h
  rcases h with (⟨hl, hu⟩ | ⟨hl, hu⟩) | rfl
  · exact ⟨Char.le_trans (by decide : '!' ≤ 'a') hl, Char.le_trans hu (by decide : 'z' ≤ '~')⟩
  · exact ⟨Char.le_trans (by decide : '!' ≤ '0') hl, Char.le_trans hu (by decide : '9' ≤ '~')⟩
  · decide

/-- The name of a VCL has the characters of labels, and the dots of the name of the cache. -/
lemma mem_vclNameFor (hns : isLabel vc.namespace_ = true) (hname : isSubdomain vc.name = true)
    (hhash : hash.all isHexDigit = true) {c : Char} (hc : c ∈ vclNameFor vc hash) :
    isLabelChar c = true ∨ (c = '.' ∧ c ∈ vc.name) := by
  have hdash : ∀ c ∈ ("-" : Text), isLabelChar c = true := by simp [isLabelChar]
  simp only [vclNameFor, List.mem_append] at hc
  rcases hc with (((hc | hc) | hc) | hc) | hc
  · exact .inl ((isShaped_iff.1 (isShaped_of_isLabel hns)).2.2 c hc)
  · exact .inl (hdash c hc)
  · exact (isLabelChar_of_mem_subdomain hname hc).imp_right fun h => ⟨h, hc⟩
  · exact .inl (hdash c hc)
  · have halnum := isAlnum_of_isHexDigit (List.all_eq_true.1 hhash c (List.mem_of_mem_take hc))
    exact .inl (by rw [isLabelChar, halnum, Bool.true_or])

/-- A namespace begins with a letter or with a digit. -/
lemma exists_namespace_cons (hns : isLabel vc.namespace_ = true) :
    ∃ a ns, vc.namespace_ = a :: ns ∧ isAlnum a = true := by
  obtain ⟨⟨a, ha, halnum⟩, -⟩ := isShaped_iff.1 (isShaped_of_isLabel hns)
  obtain ⟨ns, hcons⟩ := List.head?_eq_some_iff.1 ha
  exact ⟨a, ns, hcons, halnum⟩

/-- A letter or digit of a label is a letter if it is no digit. -/
lemma isAlpha_iff_of_isAlnum {a : Char} (h : isAlnum a = true) :
    a.isAlpha = true ↔ a.isDigit = false := by
  have hapart : a.isAlpha = true → a.isDigit = false := by
    intro halpha
    rw [← Bool.not_eq_true]
    intro hdigit
    -- the digits come before all letters
    have hupper : a.isUpper = true → 'A' ≤ a := fun hu => (of_decide_eq_true hu).1
    have hlower : a.isLower = true → 'a' ≤ a := fun hl =>
      of_decide_eq_true (Bool.and_eq_true_iff.1 hl).1
    have hnine : a ≤ '9' := of_decide_eq_true (Bool.and_eq_true_iff.1 hdigit).2
    rcases Bool.or_eq_true_iff.1 halpha with halpha | halpha
    · exact absurd (Char.le_trans (hupper halpha) hnine) (by decide)
    · exact absurd (Char.le_trans (hlower halpha) hnine) (by decide)
  refine ⟨hapart, fun hdigit => ?_⟩
  rw [isAlnum, hdigit, Bool.or_false] at h
  show (a.isUpper || a.isLower) = true
  rw [h, Bool.or_true]

/-- **Which names of VCLs varnishd takes**: the namespace begins with a letter, and the name has no
dot. -/
lemma isVCLName_vclNameFor_iff (hns : isLabel vc.namespace_ = true)
    (hname : isSubdomain vc.name = true) (hhash : hash.all isHexDigit = true) :
    isVCLName (vclNameFor vc hash) = true ↔
      (∀ c ∈ vc.namespace_.head?, c.isDigit = false) ∧ '.' ∉ vc.name := by
  obtain ⟨a, ns, hcons, halnum⟩ := exists_namespace_cons hns
  have hshape : vclNameFor vc hash = a :: (ns ++ "-" ++ vc.name ++ "-" ++ hash.take 8) := by
    rw [vclNameFor, hcons]
    rfl
  have hhead : (∀ c ∈ vc.namespace_.head?, c.isDigit = false) ↔ a.isAlpha = true := by
    rw [hcons, isAlpha_iff_of_isAlnum halnum]
    simp
  rw [hhead, hshape, isVCLName, Bool.and_eq_true, List.all_eq_true]
  refine and_congr_right fun _ => ⟨fun h hdot => ?_, fun hdot c hc => ?_⟩
  · have hmem : '.' ∈ ns ++ ("-" : Text) ++ vc.name ++ ("-" : Text) ++ hash.take 8 := by
      simp [hdot]
    exact absurd (h '.' hmem) (by decide)
  · have hc' : c ∈ vclNameFor vc hash := hshape ▸ List.mem_cons_of_mem a hc
    rcases mem_vclNameFor hns hname hhash hc' with hc' | ⟨rfl, hmem⟩
    · exact inner_of_isLabelChar hc'
    · exact absurd hmem hdot

/-- The first word behind the verb of either command is the name, since it has no blanks. -/
lemma legalPush_iff_isVCLName (B : Blanks) (vcl : Text) (hns : isLabel vc.namespace_ = true)
    (hname : isSubdomain vc.name = true) (hhash : hash.all isHexDigit = true) :
    LegalPush B vc hash vcl ↔ isVCLName (vclNameFor vc hash) = true := by
  have hne : vclNameFor vc hash ≠ [] := by
    obtain ⟨a, ns, hcons, -⟩ := exists_namespace_cons hns
    simp [vclNameFor, hcons]
  have hword : ∀ c ∈ vclNameFor vc hash, B.isBlank c = false ∧ c ≠ '\n' := by
    intro c hc
    have hvisible : '!' ≤ c ∧ c ≤ '~' := by
      rcases mem_vclNameFor hns hname hhash hc with hc | ⟨rfl, -⟩
      · exact visible_of_isLabelChar hc
      · decide
    refine ⟨B.visible c hvisible.1 hvisible.2, ?_⟩
    rintro rfl
    exact absurd hvisible.1 (by decide)
  constructor
  · intro h
    have hmem : vclUse (vclNameFor vc hash) ∈ pushCommands (vclNameFor vc hash) vcl := by
      simp [pushCommands]
    obtain ⟨name, hread, hlegal⟩ := h _ hmem
    rw [commandName_of_mem_pushCommands B hne hword hmem] at hread
    exact Option.some.inj hread ▸ hlegal
  · intro h stream hmem
    exact ⟨_, commandName_of_mem_pushCommands B hne hword hmem, h⟩

/-- **When varnishd accepts the names under which VCLs are pushed:** the namespace begins with a
letter, and there is no dot in the name of the cache.

**Proof sketch.** Both commands carry the name as it is. Its first character is that of the
namespace. The others are letters, digits and dashes, up to the dots of the name of the cache. -/
theorem legalPush_iff (B : Blanks) (vc : VinylCache) (hash vcl : Text)
    (hns : isLabel vc.namespace_ = true) (hname : isSubdomain vc.name = true)
    (hhash : hash.all isHexDigit = true) :
    LegalPush B vc hash vcl ↔
      (∀ c ∈ vc.namespace_.head?, c.isDigit = false) ∧ '.' ∉ vc.name := by
  rw [legalPush_iff_isVCLName B vcl hns hname hhash]
  exact isVCLName_vclNameFor_iff hns hname hhash

/-- The theorem at a cache whose VCLs are accepted. -/
theorem legalPush_shop : LegalPush .spaceTab
    { namespace_ := "prod", name := "shop", spec := {} } "0a1b2c3d4e5f" "vcl 4.1;" :=
  (legalPush_iff .spaceTab { namespace_ := "prod", name := "shop", spec := {} } "0a1b2c3d4e5f"
    "vcl 4.1;" (by decide) (by decide) (by decide)).2 ⟨by simp, by decide⟩

/-- A namespace may begin with a digit, and the name of a cache may have dots: varnishd accepts
neither name. -/
theorem digit_dot_not_legalPush :
    (isLabel "7shop" = true ∧ isSubdomain "shop.example" = true) ∧
      ∀ B vcl,
        ¬LegalPush B { namespace_ := "7shop", name := "shop", spec := {} } "0a1b2c3d4e5f" vcl ∧
        ¬LegalPush B { namespace_ := "prod", name := "shop.example", spec := {} } "0a1b2c3d4e5f"
          vcl := by
  refine ⟨by decide, fun B vcl => ⟨?_, ?_⟩⟩
  · rw [legalPush_iff_isVCLName B vcl (by decide) (by decide) (by decide)]
    decide
  · rw [legalPush_iff_isVCLName B vcl (by decide) (by decide) (by decide)]
    decide

end Legal

end CloudVinyl.Controller
