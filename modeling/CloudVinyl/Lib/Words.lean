import Mathlib.Data.List.TakeWhile
import Mathlib.Data.List.Basic

set_option relaxedAutoImplicit false
set_option autoImplicit false

/-!
# Splitting a sequence into words and lines

Text protocols read a sequence of letters in two ways: as *words*, the maximal runs free of
separators, and as *lines*, the pieces between two occurrences of a terminator. Both are
stated here over an arbitrary alphabet, with the separators given by a predicate.

## Main definitions

* `Words.words` — the nonempty maximal separator-free runs of a sequence, in order.
* `Words.readLines` — the terminated lines of a stream and the unterminated rest.

## Main results

* `Words.words_append_cons` — a separator cuts the word list in two.
* `Words.words_eq_cons_iff` — where the first word stands.
* `Words.flatten_words` — the words run together are the letters that are not separators.
* `Words.readLines_append_singleton_iff` — when a stream is exactly one line.
* `Words.exists_take_flatMap` — where a sequence of pieces is cut.
* `Words.append_cons_inj_left`, `Words.append_cons_inj_right` — a sequence is cut at the first, or
  at the last, occurrence of a letter in one way.
* `Words.prefix_iff_intercalate` — when one list of pieces begins another, in terms of their texts.
-/

namespace Words

variable {α : Type}

/-! ## Words -/

section Words

variable (p : α → Bool)

/-- The words of `l`: the nonempty maximal runs of letters that are not separators. -/
def words (l : List α) : List (List α) :=
  (l.splitOnP p).filter fun w => !w.isEmpty

/-- The empty list has no words. -/
@[simp] lemma words_nil : words p [] = [] := by
  simp [words]

/-- A separator ends the word before it and starts a new one after it. -/
lemma words_append_cons (l r : List α) {c : α} (hc : p c = true) :
    words p (l ++ c :: r) = words p l ++ words p r := by
  simp only [words]
  rw [List.splitOnP_append_cons _ _ hc, List.filter_append]

/-- A separator in front changes nothing. -/
lemma words_cons (c : α) (l : List α) (hc : p c = true) : words p (c :: l) = words p l := by
  simpa using words_append_cons p [] l hc

/-- A nonempty run without separators is one word. -/
lemma words_of_forall_not {l : List α} (hl : l ≠ []) (h : ∀ c ∈ l, p c = false) :
    words p l = [l] := by
  rw [words, List.splitOnP_eq_singleton h]
  cases l with
  | nil => exact absurd rfl hl
  | cons c l => simp

/-- A run of separators holds no word. -/
lemma words_of_forall {l : List α} (h : ∀ c ∈ l, p c = true) : words p l = [] := by
  induction l with
  | nil => simp
  | cons c l ih =>
    rw [words_cons p c l (h c (by simp))]
    exact ih fun d hd => h d (by simp [hd])

/-- Separators before a sequence do not change its words. -/
lemma words_append_left {s : List α} (l : List α) (h : ∀ c ∈ s, p c = true) :
    words p (s ++ l) = words p l := by
  induction s with
  | nil => simp
  | cons c s ih =>
    rw [List.cons_append, words_cons p c _ (h c (by simp))]
    exact ih fun d hd => h d (by simp [hd])

/-- A word followed by at least one separator is read off the front. -/
lemma words_append_append {w s : List α} (l : List α) (hw : w ≠ []) (hs : s ≠ [])
    (hwp : ∀ c ∈ w, p c = false) (hsp : ∀ c ∈ s, p c = true) :
    words p (w ++ (s ++ l)) = w :: words p l := by
  cases s with
  | nil => exact absurd rfl hs
  | cons c s =>
    rw [List.cons_append, words_append_cons p w (s ++ l) (hsp c (by simp)),
      words_of_forall_not p hw hwp, words_append_left p l fun d hd => hsp d (by simp [hd])]
    rfl

/-- The words of a sequence, run together, are its letters that are not separators.

**Proof sketch.** Induction on the sequence: a separator starts a new empty word, any other
letter is put at the front of the first word of the rest. -/
lemma flatten_words (l : List α) : (words p l).flatten = l.filter fun c => !p c := by
  have h : (words p l).flatten = (l.splitOnP p).flatten := by
    rw [words]
    induction l.splitOnP p with
    | nil => rfl
    | cons w ws ih => cases w <;> simp [ih]
  rw [h]
  clear h
  induction l with
  | nil => simp
  | cons c l ih =>
    rw [List.splitOnP_cons_eq_if_modifyHead]
    cases hc : p c with
    | true => simp [hc, ih]
    | false =>
      obtain ⟨w, ws, hw⟩ := List.exists_cons_of_ne_nil (List.splitOnP_ne_nil p l)
      rw [hw] at ih ⊢
      simpa [hc] using ih

/-- Only a run of separators has no words. -/
lemma words_eq_nil_iff {l : List α} : words p l = [] ↔ ∀ c ∈ l, p c = true := by
  refine ⟨fun h c hc => ?_, words_of_forall p⟩
  have hf := flatten_words p l
  rw [h, List.flatten_nil, eq_comm, List.filter_eq_nil_iff] at hf
  simpa using hf c hc

/-- The first word of a sequence stands after separators and before the end or a separator.

**Proof sketch.** The separators are the longest prefix of separators, the word is the longest
prefix of other letters of what follows. -/
lemma words_eq_cons_iff {l w : List α} {ws : List (List α)} :
    words p l = w :: ws ↔
      ∃ s r, l = s ++ (w ++ r) ∧ (∀ c ∈ s, p c = true) ∧ w ≠ [] ∧ (∀ c ∈ w, p c = false) ∧
        (∀ c ∈ r.head?, p c = true) ∧ words p r = ws := by
  -- a word in front of a separator or of the end
  have hsplit : ∀ {w r : List α}, w ≠ [] → (∀ c ∈ w, p c = false) →
      (∀ c ∈ r.head?, p c = true) → words p (w ++ r) = w :: words p r := by
    intro w r hw hwp hr
    cases r with
    | nil => simp [words_of_forall_not p hw hwp]
    | cons c r =>
      have hc : p c = true := hr c (by simp)
      rw [words_append_cons p w r hc, words_of_forall_not p hw hwp, words_cons p c r hc]
      rfl
  constructor
  · intro h
    have hs : ∀ c ∈ l.takeWhile p, p c = true := fun c hc => (List.mem_takeWhile_imp hc)
    have hw : ∀ c ∈ (l.dropWhile p).takeWhile (!p ·), p c = false := fun c hc => by
      simpa using List.mem_takeWhile_imp hc
    have hr : ∀ c ∈ ((l.dropWhile p).dropWhile (!p ·)).head?, p c = true := by
      intro c hc
      have := List.head?_dropWhile_not (!p ·) (l.dropWhile p)
      rw [Option.mem_def] at hc
      simpa [hc] using this
    have hne : (l.dropWhile p).takeWhile (!p ·) ≠ [] := by
      intro hnil
      rcases hl : l.dropWhile p with _ | ⟨c, l'⟩
      · have hall : ∀ c ∈ l, p c = true := List.dropWhile_eq_nil_iff.1 hl
        simp [words_of_forall p hall] at h
      · have hc := List.head?_dropWhile_not p l
        rw [hl] at hnil hc
        simp only [List.head?_cons] at hc
        simp [hc] at hnil
    have hcut : l = l.takeWhile p ++
        ((l.dropWhile p).takeWhile (!p ·) ++ (l.dropWhile p).dropWhile (!p ·)) := by
      rw [List.takeWhile_append_dropWhile, List.takeWhile_append_dropWhile]
    rw [hcut, words_append_left p _ hs, hsplit hne hw hr, List.cons.injEq] at h
    obtain ⟨rfl, h⟩ := h
    exact ⟨_, _, hcut, hs, hne, hw, hr, h⟩
  · rintro ⟨s, r, rfl, hs, hw, hwp, hr, rfl⟩
    rw [words_append_left p _ hs, hsplit hw hwp hr]

/-- Separators that agree on a sequence give the same words. -/
lemma words_congr {q : α → Bool} {l : List α} (h : ∀ c ∈ l, p c = q c) :
    words p l = words q l := by
  induction hws : words p l generalizing l with
  | nil =>
    rw [words_eq_nil_iff] at hws
    exact ((words_eq_nil_iff q).2 fun c hc => h c hc ▸ hws c hc).symm
  | cons w ws ih =>
    obtain ⟨s, r, rfl, hs, hw, hwp, hr, hws⟩ := (words_eq_cons_iff p).1 hws
    refine ((words_eq_cons_iff q).2 ⟨s, r, rfl, fun c hc => ?_, hw, fun c hc => ?_, fun c hc => ?_,
      (ih (fun c hc => h c (by simp [hc])) hws).symm⟩).symm
    · exact h c (by simp [hc]) ▸ hs c hc
    · exact h c (by simp [hc]) ▸ hwp c hc
    · exact h c (by simp [List.mem_of_mem_head? hc]) ▸ hr c hc

end Words

/-! ## Lines -/

section Lines

variable [DecidableEq α] (nl : α)

/-- The lines of a stream: what stands before each terminator, and the unterminated rest. -/
def readLines (l : List α) : List (List α) × List α :=
  ((l.splitOn nl).dropLast, (l.splitOn nl).getLast?.getD [])

/-- A stream with no terminator but its last letter is one line with nothing left. -/
lemma readLines_append_singleton {l : List α} (h : nl ∉ l) :
    readLines nl (l ++ [nl]) = ([l], []) := by
  have hs : (l ++ [nl]).splitOn nl = [l, []] := by
    rw [List.splitOn_eq_splitOnP, List.splitOnP_append_cons _ _ (by simp),
      List.splitOnP_eq_singleton]
    · simp
    · intro c hc
      have : c ≠ nl := fun e => h (e ▸ hc)
      simpa using this
  simp [readLines, hs]

/-- The lines of a stream hold no terminator. -/
lemma not_mem_of_mem_splitOn {l w : List α} (hw : w ∈ l.splitOn nl) : nl ∉ w := by
  intro hm
  induction l generalizing w with
  | nil => simp_all
  | cons c l ih =>
    obtain ⟨v, vs, hv⟩ := List.exists_cons_of_ne_nil (List.splitOnP_ne_nil (· == nl) l)
    rw [List.splitOn_eq_splitOnP] at hw ih
    rw [List.splitOnP_cons_eq_if_modifyHead, hv] at hw
    rw [hv] at ih
    by_cases hc : c = nl
    · subst hc
      simp only [BEq.rfl, ↓reduceIte, List.mem_cons] at hw
      rcases hw with rfl | hw
      · simp at hm
      · exact ih (by simpa using hw) hm
    · simp only [beq_iff_eq, hc, ↓reduceIte, List.modifyHead_cons, List.mem_cons] at hw
      rcases hw with rfl | hw
      · rcases List.mem_cons.1 hm with h | h
        · exact hc h.symm
        · exact ih (by simp) h
      · exact ih (by simp [hw]) hm

/-- A stream ends as one line with nothing left exactly when its only terminator is its last
letter. -/
lemma readLines_append_singleton_iff {l w : List α} :
    readLines nl (l ++ [nl]) = ([w], []) ↔ w = l ∧ nl ∉ l := by
  constructor
  · intro h
    have hs : (l ++ [nl]).splitOn nl = [w, []] := by
      simp only [readLines, Prod.mk.injEq] at h
      have hne := List.splitOnP_ne_nil (· == nl) (l ++ [nl])
      rw [← List.splitOn_eq_splitOnP] at hne
      rw [List.getLast?_eq_getLast_of_ne_nil hne] at h
      rw [← List.dropLast_append_getLast hne, h.1]
      simpa using h.2
    have hw : nl ∉ w := not_mem_of_mem_splitOn nl (by rw [hs]; simp)
    have hj : w ++ [nl] = l ++ [nl] := by
      have hi : [nl].intercalate ((l ++ [nl]).splitOn nl) = l ++ [nl] :=
        List.intercalate_splitOn nl
      rw [hs] at hi
      simpa [List.intercalate] using hi
    obtain rfl : w = l := by simpa using hj
    exact ⟨rfl, hw⟩
  · rintro ⟨rfl, h⟩
    exact readLines_append_singleton nl h

/-- The pieces between separators. -/
lemma splitOn_eq_iff {l : List α} {ws : List (List α)} (hne : ws ≠ []) :
    l.splitOn nl = ws ↔ [nl].intercalate ws = l ∧ ∀ w ∈ ws, nl ∉ w := by
  constructor
  · rintro rfl
    exact ⟨List.intercalate_splitOn nl, fun w hw => not_mem_of_mem_splitOn nl hw⟩
  · rintro ⟨rfl, h⟩
    exact List.splitOn_intercalate nl h hne

/-- A stream of terminated lines and a rest is cut into these lines and the rest. -/
lemma splitOn_flatMap_append {ls : List (List α)} (h : ∀ l ∈ ls, nl ∉ l) {rest : List α}
    (hrest : nl ∉ rest) : ((ls.flatMap fun l => l ++ [nl]) ++ rest).splitOn nl = ls ++ [rest] := by
  have hone : ∀ l : List α, nl ∉ l → l.splitOnP (· == nl) = [l] := fun l hl => by
    refine List.splitOnP_eq_singleton fun c hc => ?_
    have hne : c ≠ nl := fun heq => hl (heq ▸ hc)
    simpa using hne
  rw [List.splitOn_eq_splitOnP]
  induction ls with
  | nil => exact hone rest hrest
  | cons l ls ih =>
    rw [List.flatMap_cons, List.append_assoc, List.append_assoc, List.singleton_append,
      List.splitOnP_append_cons _ _ (by simp), hone l (h l (by simp)),
      ih fun l' hl' => h l' (by simp [hl'])]
    rfl

/-- A stream of terminated lines is cut into these lines and an empty rest. -/
lemma splitOn_flatMap {ls : List (List α)} (h : ∀ l ∈ ls, nl ∉ l) :
    (ls.flatMap fun l => l ++ [nl]).splitOn nl = ls ++ [[]] := by
  rw [← splitOn_flatMap_append nl h List.not_mem_nil, List.append_nil]

end Lines

/-! ## Cuts -/

/-- Where a sequence of pieces is cut: within one of them, after all pieces before it. -/
lemma exists_take_flatMap {β : Type} (f : β → List α) {l : List β} {n : ℕ}
    (h : n < (l.flatMap f).length) :
    ∃ before x after m, l = before ++ x :: after ∧ m < (f x).length ∧
      n = (before.flatMap f).length + m ∧
      (l.flatMap f).take n = before.flatMap f ++ (f x).take m := by
  induction l generalizing n with
  | nil => simp at h
  | cons x l ih =>
    rw [List.flatMap_cons] at h ⊢
    by_cases hn : n < (f x).length
    · exact ⟨[], x, l, n, rfl, hn, by simp, by simp [List.take_append_of_le_length hn.le]⟩
    · obtain ⟨before, x', after, m, rfl, hm, hlen, htake⟩ := ih (n := n - (f x).length) (by
        rw [List.length_append] at h
        omega)
      refine ⟨x :: before, x', after, m, rfl, hm, ?_, ?_⟩
      · rw [List.flatMap_cons, List.length_append]
        omega
      · rw [List.take_append, List.take_of_length_le (by omega), htake, List.flatMap_cons,
          List.append_assoc]

/-- The first occurrence of a letter cuts a sequence in one way. -/
lemma append_cons_inj_left {c : α} {l l' r r' : List α} (hl : c ∉ l) (hl' : c ∉ l')
    (h : l ++ c :: r = l' ++ c :: r') : l = l' ∧ r = r' := by
  induction l generalizing l' with
  | nil =>
    cases l' with
    | nil => simpa using h
    | cons d l' =>
      obtain ⟨rfl, -⟩ := List.cons.inj h
      exact absurd (List.mem_cons_self) hl'
  | cons d l ih =>
    cases l' with
    | nil =>
      obtain ⟨rfl, -⟩ := List.cons.inj h
      exact absurd (List.mem_cons_self) hl
    | cons d' l' =>
      obtain ⟨rfl, htail⟩ := List.cons.inj h
      obtain ⟨rfl, rfl⟩ := ih (fun hc => hl (List.mem_cons_of_mem _ hc))
        (fun hc => hl' (List.mem_cons_of_mem _ hc)) htail
      exact ⟨rfl, rfl⟩

/-- The last occurrence of a letter cuts a sequence in one way. -/
lemma append_cons_inj_right {c : α} {l l' r r' : List α} (hr : c ∉ r) (hr' : c ∉ r')
    (h : l ++ c :: r = l' ++ c :: r') : l = l' ∧ r = r' := by
  have hrev : r.reverse ++ c :: l.reverse = r'.reverse ++ c :: l'.reverse := by
    simpa using congrArg List.reverse h
  obtain ⟨hr, hl⟩ := append_cons_inj_left (by simpa using hr) (by simpa using hr') hrev
  exact ⟨List.reverse_injective hl, List.reverse_injective hr⟩

/-- A sequence that is cut at the first occurrence of a letter begins another such sequence exactly
when the parts before that letter agree. -/
lemma append_cons_prefix_iff {c : α} {l l' r r' : List α} (hl : c ∉ l) (hl' : c ∉ l') :
    l ++ c :: r <+: l' ++ c :: r' ↔ l = l' ∧ r <+: r' := by
  constructor
  · rintro ⟨t, ht⟩
    rw [List.append_assoc, List.cons_append] at ht
    obtain ⟨rfl, rfl⟩ := append_cons_inj_left hl hl' ht
    exact ⟨rfl, List.prefix_append _ _⟩
  · rintro ⟨rfl, t, rfl⟩
    exact ⟨t, by simp⟩

/-- A separator stands between the first list and the rest. -/
lemma intercalate_cons_cons (c : α) (a b : List α) (l : List (List α)) :
    [c].intercalate (a :: b :: l) = a ++ c :: [c].intercalate (b :: l) := by
  simp [List.intercalate]

/-- What is put behind the pieces belongs to the last one. -/
lemma intercalate_append_singleton (c : α) (l : List (List α)) (a r : List α) :
    [c].intercalate (l ++ [a ++ r]) = [c].intercalate (l ++ [a]) ++ r := by
  induction l with
  | nil => simp [List.intercalate]
  | cons b l ih =>
    cases l with
    | nil => simp [List.intercalate]
    | cons d l =>
      simp only [List.cons_append, intercalate_cons_cons, List.append_assoc] at ih ⊢
      rw [ih]

/-- What is put behind a text belongs to its last piece. -/
lemma splitOn_append_of_notMem [DecidableEq α] {c : α} {l r a : List α} {ws : List (List α)}
    (h : l.splitOn c = ws ++ [a]) (hr : c ∉ r) : (l ++ r).splitOn c = ws ++ [a ++ r] := by
  obtain ⟨hjoin, hno⟩ := (splitOn_eq_iff c (by simp)).1 h
  refine (splitOn_eq_iff c (by simp)).2 ⟨?_, fun w hw => ?_⟩
  · rw [intercalate_append_singleton, hjoin]
  · rcases List.mem_append.1 hw with hw | hw
    · exact hno w (List.mem_append_left _ hw)
    · obtain rfl := List.mem_singleton.1 hw
      rw [List.mem_append, not_or]
      exact ⟨hno a (List.mem_append_right _ (List.mem_singleton_self a)), hr⟩

/-- The letters of pieces put together are theirs and the separator. -/
lemma mem_intercalate {c x : α} {l : List (List α)} (h : x ∈ [c].intercalate l) :
    x = c ∨ ∃ a ∈ l, x ∈ a := by
  induction l with
  | nil => simp [List.intercalate] at h
  | cons a l ih =>
    cases l with
    | nil => exact .inr ⟨a, by simp, by simpa [List.intercalate] using h⟩
    | cons b l =>
      rw [intercalate_cons_cons, List.mem_append, List.mem_cons] at h
      rcases h with h | h | h
      · exact .inr ⟨a, by simp, h⟩
      · exact .inl h
      · rcases ih h with h | ⟨d, hd, hx⟩
        · exact .inl h
        · exact .inr ⟨d, List.mem_cons_of_mem _ hd, hx⟩

/-- What is in a list is in the joined list. -/
lemma mem_intercalate_of_mem {c x : α} {l : List (List α)} {a : List α} (ha : a ∈ l) (hx : x ∈ a) :
    x ∈ [c].intercalate l := by
  induction l with
  | nil => cases ha
  | cons b l ih =>
    cases l with
    | nil =>
      obtain rfl : a = b := by simpa using ha
      simpa [List.intercalate] using hx
    | cons d l =>
      rw [intercalate_cons_cons, List.mem_append, List.mem_cons]
      rcases List.mem_cons.1 ha with rfl | ha
      · exact .inl hx
      · exact .inr (.inr (ih ha))

/-- **Pieces at the front.** A list of pieces without the separator begins another one exactly
when the text of the former is the text of the latter, or goes on in it with a separator.

**Proof sketch.** Induction on the first list; a piece is what stands before the first
separator. -/
lemma prefix_iff_intercalate {c : α} {l m : List (List α)} (hl : ∀ a ∈ l, c ∉ a)
    (hm : ∀ a ∈ m, c ∉ a) (hlne : l ≠ []) (hmne : m ≠ []) :
    l <+: m ↔ [c].intercalate l = [c].intercalate m ∨
      [c].intercalate l ++ [c] <+: [c].intercalate m := by
  induction l generalizing m with
  | nil => exact absurd rfl hlne
  | cons a l ih =>
    obtain ⟨s, m, rfl⟩ := List.exists_cons_of_ne_nil hmne
    have ha : c ∉ a := hl a (by simp)
    have hs : c ∉ s := hm s (by simp)
    have hsingle : ∀ x : List α, [c].intercalate [x] = x := fun x => by simp [List.intercalate]
    cases l with
    | nil =>
      cases m with
      | nil =>
        have hno : ¬ a ++ [c] <+: s := fun h => hs (h.subset (by simp))
        rw [hsingle, hsingle, List.cons_prefix_cons]
        simp [hno]
      | cons t m =>
        have hno : a ≠ s ++ c :: [c].intercalate (t :: m) := fun h => ha (h ▸ by simp)
        rw [hsingle, intercalate_cons_cons, append_cons_prefix_iff ha hs, List.cons_prefix_cons]
        simp [hno]
    | cons b l =>
      cases m with
      | nil =>
        rw [intercalate_cons_cons, hsingle, List.cons_prefix_cons]
        constructor
        · rintro ⟨-, h⟩
          simp at h
        · rintro (h | h)
          · exact absurd (h ▸ by simp) hs
          · exact absurd (h.subset (by simp)) hs
      | cons t m =>
        have hrest := ih (m := t :: m) (fun x hx => hl x (by simp [hx]))
          (fun x hx => hm x (by simp [hx])) (by simp) (by simp)
        rw [List.cons_prefix_cons, hrest, intercalate_cons_cons, intercalate_cons_cons,
          List.append_assoc, List.cons_append, append_cons_prefix_iff ha hs]
        constructor
        · rintro ⟨rfl, h | h⟩
          · exact .inl (by rw [h])
          · exact .inr ⟨rfl, h⟩
        · rintro (h | h)
          · obtain ⟨h₁, h₂⟩ := append_cons_inj_left ha hs h
            exact ⟨h₁, .inl h₂⟩
          · exact ⟨h.1, .inr h.2⟩

/-! ## Occurrences -/

/-- A word is found behind a part that lacks its first letter. -/
lemma infix_of_infix_append {c : α} {w l r : List α} (hl : c ∉ l) (h : c :: w <:+: l ++ r) :
    c :: w <:+: r := by
  induction l with
  | nil => exact h
  | cons d l ih =>
    rw [List.mem_cons, not_or] at hl
    rcases List.infix_cons_iff.1 h with hpre | hinf
    · exact absurd (List.cons_prefix_cons.1 hpre).1 hl.1
    · exact ih hl.2 hinf

/-- A word does not reach over a letter that it lacks. -/
lemma prefix_of_prefix_append_cons {d : α} {w l r : List α} (hd : d ∉ w)
    (h : w <+: l ++ d :: r) : w <+: l := by
  induction l generalizing w with
  | nil =>
    cases w with
    | nil => exact List.nil_prefix
    | cons c w =>
      obtain ⟨rfl, -⟩ := List.cons_prefix_cons.1 h
      exact absurd List.mem_cons_self hd
  | cons e l ih =>
    cases w with
    | nil => exact List.nil_prefix
    | cons c w =>
      obtain ⟨rfl, hw⟩ := List.cons_prefix_cons.1 h
      exact List.cons_prefix_cons.2 ⟨rfl, ih (fun hw => hd (List.mem_cons_of_mem _ hw)) hw⟩

/-- A list without the separator lies before it or behind it. -/
lemma infix_of_infix_append_cons {d : α} {w l r : List α} (hd : d ∉ w)
    (h : w <:+: l ++ d :: r) : w <:+: l ∨ w <:+: r := by
  induction l with
  | nil =>
    rcases List.infix_cons_iff.1 h with hpre | hinf
    · exact .inl (prefix_of_prefix_append_cons (l := []) hd hpre).isInfix
    · exact .inr hinf
  | cons e l ih =>
    rcases List.infix_cons_iff.1 h with hpre | hinf
    · exact .inl (prefix_of_prefix_append_cons (l := e :: l) hd hpre).isInfix
    · exact (ih hinf).imp_left fun hw => List.infix_cons_iff.2 (.inr hw)

/-- Letters are replaced by words, either by themselves or by words that begin with `e`. A word
that has no `e` and whose first letter occurs in none of the replacements is found only where it
was before. -/
lemma infix_of_infix_flatMap {f : α → List α} {e c : α} {w l : List α}
    (hf : ∀ a ∈ l, f a = [a] ∨ (c ∉ f a ∧ ∃ v, f a = e :: v)) (he : e ∉ c :: w)
    (h : c :: w <:+: l.flatMap f) : c :: w <:+: l := by
  -- a word without `e` that starts a replaced sequence starts the sequence itself
  have hstart : ∀ {u m : List α}, (∀ a ∈ m, f a = [a] ∨ (c ∉ f a ∧ ∃ v, f a = e :: v)) →
      e ∉ u → u <+: m.flatMap f → u <+: m := by
    intro u m hm hu hpre
    induction m generalizing u with
    | nil => exact hpre
    | cons a m ih =>
      cases u with
      | nil => exact List.nil_prefix
      | cons b u =>
        rw [List.mem_cons, not_or] at hu
        rw [List.flatMap_cons] at hpre
        rcases hm a (by simp) with ha | ⟨-, v, ha⟩
        · rw [ha] at hpre
          obtain ⟨hba, hrest⟩ := List.cons_prefix_cons.1 hpre
          exact List.cons_prefix_cons.2 ⟨hba, ih (fun x hx => hm x (by simp [hx])) hu.2 hrest⟩
        · rw [ha] at hpre
          exact absurd (List.cons_prefix_cons.1 hpre).1.symm hu.1
  induction l with
  | nil => exact h
  | cons a l ih =>
    have hl : ∀ x ∈ l, f x = [x] ∨ (c ∉ f x ∧ ∃ v, f x = e :: v) := fun x hx => hf x (by simp [hx])
    rw [List.flatMap_cons] at h
    rcases hf a (by simp) with ha | ⟨hc, -⟩
    · rw [ha] at h
      rcases List.infix_cons_iff.1 h with hpre | hinf
      · refine (hstart hf he ?_).isInfix
        rw [List.flatMap_cons, ha]
        exact hpre
      · exact List.infix_cons_iff.2 (.inr (ih hl hinf))
    · exact List.infix_cons_iff.2 (.inr (ih hl (infix_of_infix_append hc h)))

end Words
