import CloudVinyl.Agent.Admin
import CloudVinyl.Lib.Cli
import CloudVinyl.Proxy.Ban

set_option relaxedAutoImplicit false
set_option autoImplicit false

/-!
# Bans that match everything

The validator rejects the right-hand sides `.` and `.*` as they stand. The agent sends the
expression to varnishd behind `ban` (`Ban` of `internal/agent/admin.go`), and the command line of
varnishd takes off quotes and resolves escapes, so what it receives may be one of the two
nevertheless.

What varnishd takes for blanks and for the end of a line is left open. Where its blanks are not the
white space of the validator's pattern, its tokens need not be the three words that the validator
has checked.

## Main definitions

* `Proxy.Reader` — what varnishd takes for blanks and for the end of a line.
* `Proxy.rightArgument` — the right-hand argument that varnishd receives.
* `Proxy.SpellsWildcard` — a text whose first token is received as a wildcard.

## Main results

* `Proxy.tokens_wildcard_iff` — what a text is received as.
* `Proxy.rightArgument_eq` — the right-hand argument is the first token of the right-hand side, if
  the words of the line are those of the validator.
* `Proxy.wildcardFree_iff` — the accepted expressions for which no wildcard is received.
-/

namespace CloudVinyl.Proxy

open Cli

/-! ## The command -/

/-- The command line of varnishd: its blanks, and the characters that end a line. A newline is one,
and neither a space nor a printable character is. -/
structure Reader extends Admin.Blanks where
  isEnd : Char → Bool
  newline : isEnd '\n' = true
  inLine : ∀ c : Char, ' ' ≤ c → c ≤ '~' → isEnd c = false

/-- The line that is read as one command. -/
def Reader.firstLine (R : Reader) (t : Text) : Text := t.takeWhile (!R.isEnd ·)

/-- The tokens that varnishd makes of the command. -/
def banTokens (R : Reader) (expression : Text) : Option (List Text) :=
  tokens R.isBlank (R.firstLine (Admin.ban expression))

/-- The right-hand argument that varnishd receives, behind the name of the command, the left-hand
side and the operator. -/
def rightArgument (R : Reader) (expression : Text) : Option Text :=
  (banTokens R expression).bind fun ts => ts[3]?

/-- No wildcard is received for the expression. -/
def WildcardFree (R : Reader) (expression : Text) : Prop :=
  ∀ arg, rightArgument R expression = some arg → arg ≠ "." ∧ arg ≠ ".*"

/-- The ways to spell a wildcard. -/
def wildcardSpellings : List Text := wildcardRHS.flatMap textSpellings

example : textSpellings "." = [".".toList, "\\x2e".toList, "\\x2E".toList, "\\56".toList,
    "\\056".toList, "\\456".toList] := by
  decide +kernel

/-- Behind its blanks the text starts with a spelling of a wildcard that is a word or stands in
quotes, and goes on with something that varnishd can read. -/
def SpellsWildcard (R : Reader) (t : Text) : Prop :=
  ∃ s, ∃ w ∈ wildcardSpellings, ∃ r, (∀ c ∈ s, R.isBlank c = true) ∧
    (t = s ++ (w ++ r) ∧ (∀ c ∈ r.head?, R.isBlank c = true) ∨ t = s ++ '"' :: (w ++ '"' :: r)) ∧
    (tokens R.isBlank r).isSome = true

section Reader

variable (R : Reader)

/-- An escape has no blanks in it. -/
lemma isEscapeChar_of_isBlank (c : Char) (h : R.isBlank c = true) : isEscapeChar c = false := by
  by_contra hescape
  have hmem : c ∈ hexDigits.map Prod.fst ++ letterEscapes.map Prod.fst ++ ['x'] := by
    simp only [isEscapeChar, hexVal, Bool.or_eq_false_iff, not_and_or, Bool.not_eq_false,
      Option.isSome_iff_exists, decide_eq_true_eq] at hescape
    simp only [List.mem_append, List.mem_map, List.mem_singleton]
    rcases hescape with (⟨d, hd⟩ | ⟨d, hd⟩) | hx
    · exact .inl (.inl ⟨_, mem_of_lookup hd, rfl⟩)
    · exact .inl (.inr ⟨_, mem_of_lookup hd, rfl⟩)
    · exact .inr hx
  rw [R.not_blank (by decide) c hmem] at h
  cases h

/-! ## What a text is received as -/

/-- The characters of the wildcards are spelled as themselves or as numbers. -/
lemma ordinary_of_mem_wildcardRHS {arg : Text} (h : arg ∈ wildcardRHS) : ∀ d ∈ arg, Ordinary d := by
  have hall : (wildcardRHS.all fun arg => arg.all fun d => Ordinary d) = true := by decide
  intro d hd
  exact of_decide_eq_true (List.all_eq_true.1 (List.all_eq_true.1 hall arg h) d hd)

/-- A spelling is a word of printable characters, and starts with no quote. -/
lemma word_of_mem_wildcardSpellings {w : Text} (h : w ∈ wildcardSpellings) :
    w ≠ [] ∧ (∀ c ∈ w, R.isBlank c = false) ∧ w.head? ≠ some '"' := by
  have hall : (wildcardSpellings.all fun w => !w.isEmpty && w.all (fun c => '!' ≤ c && c ≤ '~') &&
      w.head? != some '"') = true := by decide +kernel
  have hw := List.all_eq_true.1 hall w h
  rw [Bool.and_eq_true, Bool.and_eq_true, Bool.not_eq_true', List.isEmpty_eq_false_iff,
    bne_iff_ne] at hw
  exact ⟨hw.1.1, R.not_blank hw.1.2, hw.2⟩

/-- Without quotes a word is received as a wildcard just when it spells one. -/
lemma tokens_plain_iff {w r : Text} (hne : w ≠ []) (hw : ∀ c ∈ w, R.isBlank c = false)
    (hquote : w.head? ≠ some '"') (hr : ∀ c ∈ r.head?, R.isBlank c = true) :
    (∃ arg ∈ wildcardRHS, ∃ ts, tokens R.isBlank (w ++ r) = some (arg :: ts)) ↔
      w ∈ wildcardSpellings ∧ (tokens R.isBlank r).isSome = true := by
  rw [tokens_append_word (isEscapeChar_of_isBlank R) hne hw hquote hr, wildcardSpellings,
    List.mem_flatMap]
  constructor
  · rintro ⟨arg, harg, ts, hts⟩
    obtain ⟨d, hd, hts⟩ := Option.bind_eq_some_iff.1 hts
    obtain ⟨us, hus, hcons⟩ := Option.map_eq_some_iff.1 hts
    obtain ⟨rfl, rfl⟩ := List.cons.inj hcons
    exact ⟨⟨d, harg, (unescape_eq_some_iff (ordinary_of_mem_wildcardRHS harg)).1 hd⟩,
      Option.isSome_of_eq_some hus⟩
  · rintro ⟨⟨arg, harg, hspelled⟩, hread⟩
    obtain ⟨us, hus⟩ := Option.isSome_iff_exists.1 hread
    refine ⟨arg, harg, us, ?_⟩
    rw [(unescape_eq_some_iff (ordinary_of_mem_wildcardRHS harg)).2 hspelled, hus]
    rfl

/-- In quotes a wildcard is received just when it is spelled up to the closing quote. -/
lemma tokens_quoted_iff {t : Text} :
    (∃ arg ∈ wildcardRHS, ∃ ts, tokens R.isBlank ('"' :: t) = some (arg :: ts)) ↔
      ∃ w ∈ wildcardSpellings, ∃ r, t = w ++ '"' :: r ∧ (tokens R.isBlank r).isSome = true := by
  have hquote : R.isBlank '"' = false := R.visible _ (by decide) (by decide)
  have htokens : tokens R.isBlank ('"' :: t) = Cli.run R.isBlank (.quoted []) 0 t := by
    rw [tokens, run_between_cons, hquote]
    rfl
  have hquoted {arg : Text} {ts : List Text} (harg : arg ∈ wildcardRHS) :
      Cli.run R.isBlank (.quoted []) 0 t = some (arg :: ts) ↔
        ∃ w ∈ textSpellings arg, ∃ r, t = w ++ '"' :: r ∧ tokens R.isBlank r = some ts :=
    quoted_eq_some_iff (ordinary_of_mem_wildcardRHS harg)
  rw [htokens]
  constructor
  · rintro ⟨arg, harg, ts, hts⟩
    obtain ⟨w, hw, r, hr, hrest⟩ := (hquoted harg).1 hts
    exact ⟨w, List.mem_flatMap.2 ⟨arg, harg, hw⟩, r, hr, by rw [hrest, Option.isSome_some]⟩
  · rintro ⟨w, hw, r, hr, hrest⟩
    obtain ⟨arg, harg, hw⟩ := List.mem_flatMap.1 hw
    obtain ⟨ts, hts⟩ := Option.isSome_iff_exists.1 hrest
    exact ⟨arg, harg, ts, (hquoted harg).2 ⟨w, hw, r, hr, hts⟩⟩

/-- A text that starts with no blank is received as a wildcard only if it starts with a spelling of
one, as a word or in quotes. -/
lemma spelled_of_tokens {c : Char} {u : Text} (hc : R.isBlank c = false)
    (h : ∃ arg ∈ wildcardRHS, ∃ ts, tokens R.isBlank (c :: u) = some (arg :: ts)) :
    ∃ w ∈ wildcardSpellings, ∃ r,
      (c :: u = w ++ r ∧ (∀ d ∈ r.head?, R.isBlank d = true) ∨ c :: u = '"' :: (w ++ '"' :: r)) ∧
      (tokens R.isBlank r).isSome = true := by
  by_cases hquote : c = '"'
  · subst hquote
    obtain ⟨w, hw, r, rfl, hread⟩ := (tokens_quoted_iff R).1 h
    exact ⟨w, hw, r, .inr rfl, hread⟩
  · -- the word goes up to the next blank
    have hword : (c :: u).takeWhile (!R.isBlank ·) ++ (c :: u).dropWhile (!R.isBlank ·) = c :: u :=
      List.takeWhile_append_dropWhile
    have hfirst : (c :: u).takeWhile (!R.isBlank ·) = c :: u.takeWhile (!R.isBlank ·) := by
      rw [List.takeWhile_cons, if_pos (by simp [hc])]
    have hnext : ∀ d ∈ ((c :: u).dropWhile (!R.isBlank ·)).head?, R.isBlank d = true := by
      intro d hd
      have hhead := List.head?_dropWhile_not (!R.isBlank ·) (c :: u)
      rw [hd] at hhead
      simpa using hhead
    rw [← hword] at h
    obtain ⟨hw, hread⟩ := (tokens_plain_iff R (by rw [hfirst]; exact List.cons_ne_nil _ _)
      (fun d hd => by simpa using List.mem_takeWhile_imp hd)
      (by rw [hfirst]; simpa using hquote) hnext).1 h
    exact ⟨_, hw, _, .inl ⟨hword.symm, hnext⟩, hread⟩

/-- **What a text is received as.** Its first token is a wildcard just when it spells one.

**Proof sketch.** Blanks at the front do not matter. What follows is a word up to the next blank, or
starts with a quote; in both cases the token is a wildcard just when one of its spellings is
written. -/
theorem tokens_wildcard_iff (t : Text) :
    (∃ arg ∈ wildcardRHS, ∃ ts, tokens R.isBlank t = some (arg :: ts)) ↔ SpellsWildcard R t := by
  constructor
  · intro h
    have hblank : ∀ c ∈ t.takeWhile R.isBlank, R.isBlank c = true :=
      fun c hc => List.mem_takeWhile_imp hc
    have hcut : t.takeWhile R.isBlank ++ t.dropWhile R.isBlank = t :=
      List.takeWhile_append_dropWhile
    rw [← hcut, tokens_sep hblank] at h
    cases hrest : t.dropWhile R.isBlank with
    | nil =>
      obtain ⟨arg, -, ts, hts⟩ := h
      rw [hrest] at hts
      cases hts
    | cons c u =>
      have hc : R.isBlank c = false := by
        have hhead := List.head?_dropWhile_not R.isBlank t
        rw [hrest] at hhead
        simpa using hhead
      rw [hrest] at h hcut
      obtain ⟨w, hw, r, ⟨hplain, hr⟩ | hquoted, hread⟩ := spelled_of_tokens R hc h
      · rw [hplain] at hcut
        exact ⟨_, w, hw, r, hblank, .inl ⟨hcut.symm, hr⟩, hread⟩
      · rw [hquoted] at hcut
        exact ⟨_, w, hw, r, hblank, .inr hcut.symm, hread⟩
  · rintro ⟨s, w, hw, r, hs, ⟨rfl, hr⟩ | rfl, hread⟩
    · obtain ⟨hne, hword, hquote⟩ := word_of_mem_wildcardSpellings R hw
      rw [tokens_sep hs]
      exact (tokens_plain_iff R hne hword hquote hr).2 ⟨hw, hread⟩
    · rw [tokens_sep hs]
      exact (tokens_quoted_iff R).2 ⟨w, hw, r, rfl, hread⟩

/-! ## The line -/

/-- What ends the command is not a part of the line. -/
lemma firstLine_ban (expression : Text) :
    R.firstLine (Admin.ban expression) = "ban".toList ++ ' ' :: R.firstLine expression := by
  have hend : R.firstLine (expression ++ "\n".toList) = R.firstLine expression := by
    refine takeWhile_append_of_not fun c hc => ?_
    obtain rfl : '\n' = c := Option.some.inj hc
    rw [R.newline]
    rfl
  have hfront : ∀ c ∈ "ban ".toList, (!R.isEnd c) = true := by
    have hall : ("ban ".toList.all fun c => ' ' ≤ c && c ≤ '~') = true := by decide
    intro c hc
    have hline : ' ' ≤ c ∧ c ≤ '~' := by simpa using List.all_eq_true.1 hall c hc
    rw [R.inLine c hline.1 hline.2]
    rfl
  have happend : R.firstLine ("ban ".toList ++ (expression ++ "\n".toList)) =
      "ban ".toList ++ R.firstLine (expression ++ "\n".toList) :=
    List.takeWhile_append_of_pos hfront
  rw [← hend]
  exact happend

/-- The name of the command is the first token. -/
lemma banTokens_eq (expression : Text) :
    banTokens R expression =
      (tokens R.isBlank (R.firstLine expression)).map (fun ts => "ban".toList :: ts) := by
  have hvisible : ∀ c ∈ "ban".toList, R.isBlank c = false := R.not_blank (by decide)
  rw [banTokens, firstLine_ban, tokens_append_word (isEscapeChar_of_isBlank R) (by decide)
    hvisible (by decide) (by simp [R.space]), ← List.singleton_append,
    tokens_sep (by simp [R.space])]
  rfl

/-- The right-hand argument is the third token of the expression. -/
lemma rightArgument_eq_third (expression : Text) :
    rightArgument R expression =
      (tokens R.isBlank (R.firstLine expression)).bind fun ts => ts[2]? := by
  rw [rightArgument, banTokens_eq]
  cases tokens R.isBlank (R.firstLine expression) with
  | none => rfl
  | some ts => rfl

/-- No wildcard is received just when the right-hand argument is not in the list. -/
lemma wildcardFree_iff_notMem (expr : Text) :
    WildcardFree R expr ↔ ¬∃ arg ∈ wildcardRHS, rightArgument R expr = some arg := by
  constructor
  · rintro hfree ⟨arg, harg, hright⟩
    obtain ⟨hone, hall⟩ := hfree arg hright
    rcases List.mem_cons.1 harg with rfl | harg
    · exact hall rfl
    · exact hone (List.mem_singleton.1 harg)
  · intro hnot arg hright
    refine ⟨?_, ?_⟩
    · rintro rfl
      exact hnot ⟨_, by decide, hright⟩
    · rintro rfl
      exact hnot ⟨_, by decide, hright⟩

/-- The first token of a text is a wildcard. -/
lemma head_wildcard_iff (t : Text) :
    (∃ arg ∈ wildcardRHS, (tokens R.isBlank t).bind List.head? = some arg) ↔
      SpellsWildcard R t := by
  rw [← tokens_wildcard_iff]
  refine exists_congr fun arg => and_congr_right fun _ => ?_
  constructor
  · intro h
    obtain ⟨ts, hts, hhead⟩ := Option.bind_eq_some_iff.1 h
    obtain ⟨ts, rfl⟩ := List.head?_eq_some_iff.1 hhead
    exact ⟨ts, hts⟩
  · rintro ⟨ts, hts⟩
    rw [hts]
    rfl

/-- A wildcard is received just when one is spelled behind two tokens of the line. -/
lemma rightArgument_wildcard_iff (expr : Text) :
    (∃ arg ∈ wildcardRHS, rightArgument R expr = some arg) ↔
      ∃ r, behindTwo R.isBlank (R.firstLine expr) = some r ∧ SpellsWildcard R r := by
  rw [rightArgument_eq_third, third_eq]
  cases behindTwo R.isBlank (R.firstLine expr) with
  | none => simp
  | some r =>
    simp only [Option.bind_some, Option.some.injEq, exists_eq_left']
    exact head_wildcard_iff R r

end Reader

/-! ## Readers that agree with the pattern -/

/-- In the expression the blanks are the white space of the pattern, and a line ends at white space
only. -/
def Reader.Agrees (R : Reader) (expr : Text) : Prop :=
  ∀ c ∈ expr, R.isBlank c = Patterns.space c ∧ (R.isEnd c = true → Patterns.space c = true)

section Agrees

variable {R : Reader} {expr lhs op rhs : Text}

/-- The words of the line are the first words of the expression. -/
lemma words_firstLine (hR : R.Agrees expr) :
    Words.words R.isBlank (R.firstLine expr) <+: Words.words Patterns.space expr := by
  have hcut : R.firstLine expr ++ expr.dropWhile (!R.isEnd ·) = expr :=
    List.takeWhile_append_dropWhile
  have hwords : Words.words R.isBlank (R.firstLine expr) =
      Words.words Patterns.space (R.firstLine expr) :=
    Words.words_congr _ fun c hc => (hR c ((List.takeWhile_prefix _).subset hc)).1
  rw [hwords]
  cases hrest : expr.dropWhile (!R.isEnd ·) with
  | nil =>
    rw [hrest, List.append_nil] at hcut
    rw [hcut]
  | cons c r =>
    have hend : R.isEnd c = true := by
      have hhead := List.head?_dropWhile_not (!R.isEnd ·) expr
      rw [hrest] at hhead
      simpa using hhead
    rw [hrest] at hcut
    have hc : Patterns.space c = true :=
      (hR c (hcut ▸ List.mem_append_right _ List.mem_cons_self)).2 hend
    nth_rewrite 2 [← hcut]
    rw [Words.words_append_cons Patterns.space _ r hc]
    exact List.prefix_append _ _

/-- An operator starts with no quote. -/
lemma head?_of_mem_banOps (h : op ∈ banOps) : op.head? ≠ some '"' := by
  have hall : ∀ op ∈ banOps, op.head? ≠ some '"' := by decide
  exact hall op h

/-- **The right-hand argument** is the first token of the right-hand side, if this is in the line
and the left-hand side can be read. -/
theorem rightArgument_eq (hlhs : lhs.head? ≠ some '"') (hop : op ∈ banOps)
    (hwords : Words.words R.isBlank (R.firstLine expr) = [lhs, op, rhs]) :
    rightArgument R expr =
      (unescape 0 lhs).bind fun _ => (tokens R.isBlank rhs).bind List.head? := by
  have hops : ∀ op ∈ banOps, unescape 0 op = some op := by decide
  obtain ⟨r₁, hr₁, hline⟩ := tokens_of_words (isEscapeChar_of_isBlank R) hwords hlhs
  obtain ⟨r₂, hr₂, hrest⟩ :=
    tokens_of_words (isEscapeChar_of_isBlank R) hr₁ (head?_of_mem_banOps hop)
  rw [rightArgument, banTokens_eq, hline, hrest, hops op hop,
    tokens_of_words_singleton (isEscapeChar_of_isBlank R) hr₂]
  cases unescape 0 lhs with
  | none => rfl
  | some d =>
    cases tokens R.isBlank rhs with
    | none => rfl
    | some ts => simp [List.head?_eq_getElem?]

/-- A line with fewer words has no right-hand argument. -/
lemma rightArgument_eq_none {ws : List Text}
    (hwords : Words.words R.isBlank (R.firstLine expr) = ws)
    (hquote : ∀ w ∈ ws, w.head? ≠ some '"') (hlength : ws.length < 3) :
    rightArgument R expr = none := by
  rw [rightArgument, banTokens_eq]
  cases hts : tokens R.isBlank (R.firstLine expr) with
  | none => rfl
  | some ts =>
    have hcount := length_tokens (isEscapeChar_of_isBlank R) hwords hquote hts
    simp only [Option.map_some, Option.bind_some, List.getElem?_cons_succ]
    exact List.getElem?_eq_none (by omega)

/-- The left-hand side of an accepted expression does not start with a quote. -/
lemma head?_lhs_of_accepted (haccepted : validateBanExpression expr = none)
    (hmatch : banExprPattern expr = some (lhs, op, rhs)) : lhs.head? ≠ some '"' := by
  unfold validateBanExpression at haccepted
  rw [hmatch] at haccepted
  dsimp only at haccepted
  split_ifs at haccepted with hempty hlhs
  rw [Bool.not_eq_true', Bool.not_eq_false] at hlhs
  obtain ⟨r, rfl⟩ := Text.hasPrefix_iff.1 hlhs
  rw [List.head?_append_of_ne_nil _ (by decide)]
  decide

/-- With all three words in the line, a wildcard is received just when the left-hand side can be
read and the right-hand side spells one. -/
lemma rightArgument_words_iff (hlhs : lhs.head? ≠ some '"') (hop : op ∈ banOps)
    (hwords : Words.words R.isBlank (R.firstLine expr) = [lhs, op, rhs]) :
    (∃ arg ∈ wildcardRHS, rightArgument R expr = some arg) ↔
      (unescape 0 lhs).isSome = true ∧ SpellsWildcard R rhs := by
  rw [rightArgument_eq hlhs hop hwords, ← head_wildcard_iff]
  cases unescape 0 lhs with
  | none => simp
  | some d => simp

/-- No wildcard is received if the line ends before the right-hand side. -/
lemma rightArgument_eq_none_of_short (hlhs : lhs.head? ≠ some '"') (hop : op ∈ banOps)
    (hinit : Words.words R.isBlank (R.firstLine expr) <+: [lhs, op, rhs])
    (hlength : (Words.words R.isBlank (R.firstLine expr)).length ≠ 3) :
    rightArgument R expr = none := by
  have hle : (Words.words R.isBlank (R.firstLine expr)).length ≤ 2 := by
    have hmax : _ ≤ 3 := hinit.length_le
    omega
  have hshort : Words.words R.isBlank (R.firstLine expr) <+: [lhs, op] :=
    List.prefix_of_prefix_length_le hinit (List.prefix_append [lhs, op] [rhs]) hle
  refine rightArgument_eq_none rfl (fun w hw => ?_) (by omega)
  rcases List.mem_cons.1 (hshort.subset hw) with rfl | hw
  · exact hlhs
  · rw [List.mem_singleton.1 hw]
    exact head?_of_mem_banOps hop

end Agrees

/-- **When no wildcard is received** for an accepted expression: unless one is spelled behind two
tokens of the line. To a reader that agrees with the pattern on the expression these are the
left-hand side and the operator, so that the three words are in one line, the left-hand side can be
read and the right-hand side spells the wildcard.

**Proof sketch.** The third token is the first one of what stands behind the second
(`Cli.third_eq`). To a reader that agrees, the words of the line are the first words of the
expression. With all three the right-hand argument is the first token of the right-hand side, and
with fewer there is none. -/
theorem wildcardFree_iff (R : Reader) {expr lhs op rhs : Text}
    (haccepted : validateBanExpression expr = none)
    (hmatch : banExprPattern expr = some (lhs, op, rhs)) :
    (WildcardFree R expr ↔
      ¬∃ r, behindTwo R.isBlank (R.firstLine expr) = some r ∧ SpellsWildcard R r) ∧
    (R.Agrees expr → (WildcardFree R expr ↔
      ¬((Words.words R.isBlank (R.firstLine expr)).length = 3 ∧ (unescape 0 lhs).isSome = true ∧
        SpellsWildcard R rhs))) := by
  rw [wildcardFree_iff_notMem]
  refine ⟨not_congr (rightArgument_wildcard_iff R expr), fun hR => not_congr ?_⟩
  have hlhs := head?_lhs_of_accepted haccepted hmatch
  have hban : BanMatch expr lhs op rhs := banExprPattern_eq_some_iff.1 hmatch
  have hinit : Words.words R.isBlank (R.firstLine expr) <+: [lhs, op, rhs] := by
    rw [← hban.words_eq]
    exact words_firstLine hR
  obtain ⟨_, _, _, _, -, -, -, -, hop, -⟩ := hban
  by_cases hlength : (Words.words R.isBlank (R.firstLine expr)).length = 3
  · rw [rightArgument_words_iff hlhs hop (hinit.eq_of_length hlength), hlength]
    simp
  · rw [rightArgument_eq_none_of_short hlhs hop hinit hlength]
    simp [hlength]

/-! ### The reader of varnishd -/

/-- `isspace` of C, and lines that end at a newline. -/
def varnishCLI : Reader where
  isBlank c := c ∈ ['\t', '\n', '\x0b', '\x0c', '\r', ' ']
  space := by decide
  visible := by
    intro c h _
    rw [decide_eq_false_iff_not]
    intro hc
    have hall : (['\t', '\n', '\x0b', '\x0c', '\r', ' '].all fun c => !decide ('!' ≤ c)) =
        true := by decide
    have hno := List.all_eq_true.1 hall c hc
    simp [h] at hno
  isEnd c := c = '\n'
  newline := rfl
  inLine := by
    intro c h _
    rw [decide_eq_false_iff_not]
    rintro rfl
    exact absurd h (by decide)

/-- An expression that is no wildcard in any spelling. -/
theorem wildcardFree_iff_anchored : WildcardFree varnishCLI "obj.http.x ~ ^a" := by
  have hmatch : banExprPattern "obj.http.x ~ ^a" =
      some ("obj.http.x".toList, "~".toList, "^a".toList) := by decide +kernel
  refine (wildcardFree_iff varnishCLI (by decide +kernel) hmatch).1.2 ?_
  rintro ⟨r, hr, hspells⟩
  have hbehind : behindTwo varnishCLI.isBlank (varnishCLI.firstLine "obj.http.x ~ ^a") =
      some "^a".toList := by decide +kernel
  obtain rfl : "^a".toList = r := Option.some.inj (hbehind.symm.trans hr)
  obtain ⟨arg, harg, hhead⟩ := (head_wildcard_iff varnishCLI "^a").2 hspells
  have htoken : (tokens varnishCLI.isBlank "^a").bind List.head? = some "^a".toList := by
    decide +kernel
  rw [htoken] at hhead
  obtain rfl : "^a".toList = arg := Option.some.inj hhead
  exact absurd harg (by decide)

/-- A wildcard in quotes is accepted, and varnishd receives it without the quotes. -/
theorem quotedWildcard_received : validateBanExpression "obj.http.x ~ \".\"" = none ∧
    rightArgument varnishCLI "obj.http.x ~ \".\"" = some ".".toList ∧
    ¬WildcardFree varnishCLI "obj.http.x ~ \".\"" := by
  have hright : rightArgument varnishCLI "obj.http.x ~ \".\"" = some ".".toList := by
    decide +kernel
  exact ⟨by decide +kernel, hright, fun hfree => (hfree _ hright).1 rfl⟩

-- a vertical tab is a letter to the pattern and a blank to varnishd
example : validateBanExpression "obj.http.x ~ .\x0b" = none ∧
    rightArgument varnishCLI "obj.http.x ~ .\x0b" = some ".".toList := by
  decide +kernel

end CloudVinyl.Proxy
