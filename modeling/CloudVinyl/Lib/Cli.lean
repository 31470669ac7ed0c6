import CloudVinyl.Lib.Strings

set_option relaxedAutoImplicit false
set_option autoImplicit false

/-!
# Command lines with quotes and escapes

The command line of varnishd is split into tokens at white space. A token that starts with a double
quote goes up to the next one, and is passed without the quotes. In all tokens a backslash starts an
escape: one of a few letters, up to three octal digits or an `x` with two hexadecimal digits. A
line with another escape, or without a closing quote, has no tokens at all.

## Main definitions

* `Cli.escape` — the character that an escape stands for, and how long the escape is.
* `Cli.unescape` — a text with its escapes resolved.
* `Cli.tokens` — the tokens of a line, and `Cli.behindTwo` what stands behind the second one.
* `Cli.spellings`, `Cli.textSpellings` — the ways to spell a character and a text.

## Main results

* `Cli.third_eq` — the third token is the first one of what stands behind the second.
* `Cli.tokens_append_word` — the first word of a line, if it has no quote, is a token.
* `Cli.tokens_append_sep` — white space at the end of a line does not matter.
* `Cli.length_tokens` — words without quotes are as many tokens.
* `Cli.unescape_eq_some_iff`, `Cli.quoted_eq_some_iff` — a text is what is read just when one of its
  spellings is written.
-/

namespace Cli

/-! ## Escapes -/

/-- The letters that may follow a backslash. -/
def letterEscapes : List (Char × Char) :=
  [('n', '\n'), ('r', '\r'), ('t', '\t'), ('"', '"'), ('\\', '\\')]

/-- The hexadecimal digits, of both cases, with their values. -/
def hexDigits : List (Char × ℕ) :=
  [('0', 0), ('1', 1), ('2', 2), ('3', 3), ('4', 4), ('5', 5), ('6', 6), ('7', 7), ('8', 8),
    ('9', 9), ('a', 10), ('b', 11), ('c', 12), ('d', 13), ('e', 14), ('f', 15), ('A', 10),
    ('B', 11), ('C', 12), ('D', 13), ('E', 14), ('F', 15)]

/-- The octal digits. -/
def octalDigits : List Char := ['0', '1', '2', '3', '4', '5', '6', '7']

/-- The value of a hexadecimal digit. -/
def hexVal (c : Char) : Option ℕ := hexDigits.lookup c

/-- The character is an octal digit. -/
def isOctal (c : Char) : Bool := c ∈ octalDigits

/-- The number with the given octal digits. -/
def octalValue (ds : Text) : ℕ := ds.foldl (fun v c => 8 * v + (c.toNat - '0'.toNat)) 0

/-- The octal digits at the front, three at most. -/
def octalRun (t : Text) : Text := (t.take 3).takeWhile isOctal

/-- The number with the two hexadecimal digits at the front. -/
def hexPair : Text → Option ℕ
  | a :: b :: _ => (hexVal a).bind fun i => (hexVal b).map fun j => 16 * i + j
  | _ => none

/-- The escape behind a backslash: the byte that it stands for, and its length. -/
def escape (t : Text) : Option (Char × ℕ) :=
  match t with
  | [] => none
  | c :: rest =>
    match letterEscapes.lookup c with
    | some d => some (d, 1)
    | none =>
      if c = 'x' then (hexPair rest).map fun v => (Char.ofNat v, 3)
      else if octalRun (c :: rest) = [] then none
      else some (Char.ofNat (octalValue (octalRun (c :: rest)) % 256),
        (octalRun (c :: rest)).length)

/-- A character that an escape may have. -/
def isEscapeChar (c : Char) : Bool :=
  (hexVal c).isSome || (letterEscapes.lookup c).isSome || c = 'x'

section Escapes

variable {t s : Text} {d : Char} {n : ℕ}

/-- What cannot stand in an escape is no octal digit. -/
lemma isOctal_eq_false {c : Char} (h : isEscapeChar c = false) : isOctal c = false := by
  have hall : octalDigits.all isEscapeChar = true := by decide
  rw [isOctal, decide_eq_false_iff_not]
  intro hc
  rw [List.all_eq_true.1 hall c hc] at h
  cases h

/-- A run of characters ends before something that does not go on with it. -/
lemma takeWhile_append_of_not {p : Char → Bool} (hs : ∀ c ∈ s.head?, p c = false) :
    (t ++ s).takeWhile p = t.takeWhile p := by
  induction t with
  | nil =>
    cases s with
    | nil => rfl
    | cons c s => simp [hs c rfl]
  | cons c t ih =>
    rw [List.cons_append, List.takeWhile_cons, List.takeWhile_cons, ih]

/-- What follows does not make an escape longer, unless it could be a part of one. -/
lemma octalRun_append (hs : ∀ c ∈ s.head?, isOctal c = false) :
    octalRun (t ++ s) = octalRun t := by
  rw [octalRun, octalRun, List.take_append]
  refine takeWhile_append_of_not fun c hc => hs c ?_
  rw [List.head?_take] at hc
  split_ifs at hc with hzero
  · cases hc
  · exact hc

/-- Two hexadecimal digits end before something that is no part of an escape. -/
lemma hexPair_append (hs : ∀ c ∈ s.head?, isEscapeChar c = false) :
    hexPair (t ++ s) = hexPair t := by
  have hval {c : Char} {r : Text} (hc : s = c :: r) : hexVal c = none := by
    have hnot := hs c (hc ▸ rfl)
    simp only [isEscapeChar, Bool.or_eq_false_iff] at hnot
    simpa using hnot.1.1
  rcases t with _ | ⟨a, _ | ⟨b, t⟩⟩
  · rcases hr : s with _ | ⟨c, _ | ⟨e, r⟩⟩
    · rfl
    · rfl
    · simp [hexPair, hval hr]
  · rcases hr : s with _ | ⟨c, r⟩
    · rfl
    · simp [hexPair, hval hr]
  · rfl

/-- An escape ends before something that is no part of it. -/
lemma escape_append (hs : ∀ c ∈ s.head?, isEscapeChar c = false) : escape (t ++ s) = escape t := by
  cases t with
  | nil =>
    cases hr : s with
    | nil => rfl
    | cons c r =>
      have hnot : isEscapeChar c = false := hs c (hr ▸ rfl)
      have hrun : octalRun (c :: r) = [] := by simp [octalRun, isOctal_eq_false hnot]
      simp only [isEscapeChar, Bool.or_eq_false_iff, Option.isSome_eq_false_iff,
        Option.isNone_iff_eq_none, decide_eq_false_iff_not] at hnot
      simp [escape, hnot, hrun]
  | cons c t =>
    have hrun := octalRun_append (t := c :: t) fun d hd => isOctal_eq_false (hs d hd)
    rw [List.cons_append] at hrun ⊢
    rw [escape, escape, hrun, hexPair_append hs]

/-- An escape is no longer than the text. -/
lemma escape_le (h : escape t = some (d, n)) : n ≤ t.length := by
  unfold escape at h
  split at h
  · cases h
  · rename_i c rest
    split at h
    · obtain ⟨-, rfl⟩ := Prod.mk.inj (Option.some.inj h)
      simp
    · split_ifs at h with hx hrun
      · obtain ⟨v, hv, hpair⟩ := Option.map_eq_some_iff.1 h
        obtain ⟨-, rfl⟩ := Prod.mk.inj hpair
        rcases rest with _ | ⟨a, _ | ⟨b, rest⟩⟩
        · cases hv
        · cases hv
        · simp
      · obtain ⟨-, rfl⟩ := Prod.mk.inj (Option.some.inj h)
        exact (List.takeWhile_prefix _).length_le.trans (List.take_prefix 3 _).length_le

end Escapes

/-! ## Tokens -/

/-- A text with its escapes resolved; the first `k` characters belong to one that is. -/
def unescape : ℕ → Text → Option Text
  | _, [] => some []
  | k + 1, _ :: rest => unescape k rest
  | 0, c :: rest =>
    if c = '\\' then (escape rest).bind fun e => (unescape e.2 rest).map (e.1 :: ·)
    else (unescape 0 rest).map (c :: ·)

/-- Where a line is read: between tokens, or in one of which a part has been read. -/
inductive Mode where
  | between
  | plain (acc : Text)
  | quoted (acc : Text)

/-- The tokens from some place of a line on, each with the part of the line behind it; the first `k`
characters belong to an escape that is resolved. -/
def scan (sep : Char → Bool) : Mode → ℕ → Text → Option (List (Text × Text))
  | .between, _, [] => some []
  | .plain acc, _, [] => some [(acc, [])]
  | .quoted _, _, [] => none
  | m, k + 1, _ :: rest => scan sep m k rest
  | .between, 0, c :: rest =>
    if sep c then scan sep .between 0 rest
    else if c = '"' then scan sep (.quoted []) 0 rest
    else if c = '\\' then (escape rest).bind fun e => scan sep (.plain [e.1]) e.2 rest
    else scan sep (.plain [c]) 0 rest
  | .plain acc, 0, c :: rest =>
    if sep c then (scan sep .between 0 rest).map ((acc, rest) :: ·)
    else if c = '\\' then (escape rest).bind fun e => scan sep (.plain (acc ++ [e.1])) e.2 rest
    else scan sep (.plain (acc ++ [c])) 0 rest
  | .quoted acc, 0, c :: rest =>
    if c = '"' then (scan sep .between 0 rest).map ((acc, rest) :: ·)
    else if c = '\\' then (escape rest).bind fun e => scan sep (.quoted (acc ++ [e.1])) e.2 rest
    else scan sep (.quoted (acc ++ [c])) 0 rest

/-- The tokens alone. -/
def run (sep : Char → Bool) (m : Mode) (k : ℕ) (t : Text) : Option (List Text) :=
  (scan sep m k t).map (List.map Prod.fst)

/-- The tokens of a line. -/
def tokens (sep : Char → Bool) (t : Text) : Option (List Text) := run sep .between 0 t

/-- What stands behind the second token of a line, if the line can be read and has that many. -/
def behindTwo (sep : Char → Bool) (t : Text) : Option Text :=
  (scan sep .between 0 t).bind fun ts => ts[1]?.map Prod.snd

section Tokens

variable {sep : Char → Bool} (acc : Text) (k : ℕ) (c : Char) (rest : Text)

/-! ### One character -/

/-- Nothing is left to be read. -/
@[simp] lemma unescape_nil : unescape k [] = some [] := by cases k <;> rfl

/-- A character that belongs to an escape is skipped. -/
@[simp] lemma unescape_succ : unescape (k + 1) (c :: rest) = unescape k rest := rfl

/-- The next character is read, or the escape that it begins. -/
lemma unescape_cons : unescape 0 (c :: rest) =
    if c = '\\' then (escape rest).bind fun e => (unescape e.2 rest).map (e.1 :: ·)
    else (unescape 0 rest).map (c :: ·) := rfl

/-- A line may end between tokens. -/
@[simp] lemma run_between_nil : run sep .between k [] = some [] := by cases k <;> rfl

/-- The end of the line ends a plain token. -/
@[simp] lemma run_plain_nil : run sep (.plain acc) k [] = some [acc] := by cases k <;> rfl

/-- The end of the line leaves a quote open. -/
@[simp] lemma run_quoted_nil : run sep (.quoted acc) k [] = none := by cases k <;> rfl

/-- A character that belongs to an escape is skipped in every mode. -/
@[simp] lemma run_succ (m : Mode) : run sep m (k + 1) (c :: rest) = run sep m k rest := by
  cases m <;> rfl

/-- Between tokens: a blank is skipped, and anything else begins a token. -/
lemma run_between_cons : run sep .between 0 (c :: rest) =
    if sep c then run sep .between 0 rest
    else if c = '"' then run sep (.quoted []) 0 rest
    else if c = '\\' then (escape rest).bind fun e => run sep (.plain [e.1]) e.2 rest
    else run sep (.plain [c]) 0 rest := by
  simp only [run, scan]
  split_ifs
  · rfl
  · rfl
  · rw [Option.map_bind]
    rfl
  · rfl

/-- A token that is read up to the end of the line or to white space. -/
lemma run_plain_cons : run sep (.plain acc) 0 (c :: rest) =
    if sep c then (run sep .between 0 rest).map (acc :: ·)
    else if c = '\\' then (escape rest).bind fun e => run sep (.plain (acc ++ [e.1])) e.2 rest
    else run sep (.plain (acc ++ [c])) 0 rest := by
  simp only [run, scan]
  split_ifs
  · rw [Option.map_map, Option.map_map]
    rfl
  · rw [Option.map_bind]
    rfl
  · rfl

/-- A token that is read up to the closing quote. -/
lemma run_quoted_cons : run sep (.quoted acc) 0 (c :: rest) =
    if c = '"' then (run sep .between 0 rest).map (acc :: ·)
    else if c = '\\' then (escape rest).bind fun e => run sep (.quoted (acc ++ [e.1])) e.2 rest
    else run sep (.quoted (acc ++ [c])) 0 rest := by
  simp only [run, scan]
  split_ifs
  · rw [Option.map_map, Option.map_map]
    rfl
  · rw [Option.map_bind]
    rfl
  · rfl

end Tokens

section Tokens

variable {sep : Char → Bool}

/-! ### What stands behind a token -/

/-- The tokens behind the first one are those of what stands behind it. -/
lemma scan_eq_cons {m : Mode} {k : ℕ} {t d r : Text} {ts : List (Text × Text)}
    (h : scan sep m k t = some ((d, r) :: ts)) : scan sep .between 0 r = some ts := by
  induction t generalizing m k with
  | nil =>
    cases m with
    | between => cases k <;> cases h
    | plain acc =>
      have h : [(acc, [])] = (d, r) :: ts := by cases k <;> exact Option.some.inj h
      obtain ⟨hpair, rfl⟩ := List.cons.inj h
      obtain ⟨-, rfl⟩ := Prod.mk.inj hpair
      rfl
    | quoted acc => cases k <;> cases h
  | cons c t ih =>
    -- a token ends at this character, or it goes on behind it
    have hend {acc : Text} (h : (scan sep .between 0 t).map ((acc, t) :: ·) =
        some ((d, r) :: ts)) : scan sep .between 0 r = some ts := by
      obtain ⟨ts', hts, hcons⟩ := Option.map_eq_some_iff.1 h
      obtain ⟨hpair, rfl⟩ := List.cons.inj hcons
      obtain ⟨-, rfl⟩ := Prod.mk.inj hpair
      exact hts
    have hescape {m : Char × ℕ → Mode} (h : ((escape t).bind fun e => scan sep (m e) e.2 t) =
        some ((d, r) :: ts)) : scan sep .between 0 r = some ts := by
      obtain ⟨e, -, he⟩ := Option.bind_eq_some_iff.1 h
      exact ih he
    cases k with
    | succ k => cases m <;> exact ih h
    | zero =>
      cases m with
      | between =>
        simp only [scan] at h
        split_ifs at h
        · exact ih h
        · exact ih h
        · exact hescape h
        · exact ih h
      | plain acc =>
        simp only [scan] at h
        split_ifs at h
        · exact hend h
        · exact hescape h
        · exact ih h
      | quoted acc =>
        simp only [scan] at h
        split_ifs at h
        · exact hend h
        · exact hescape h
        · exact ih h

/-- **The third token** is the first one of what stands behind the second. -/
theorem third_eq (t : Text) : ((tokens sep t).bind fun ts => ts[2]?) =
    (behindTwo sep t).bind fun r => (tokens sep r).bind List.head? := by
  cases hscan : scan sep .between 0 t with
  | none => simp [tokens, run, behindTwo, hscan]
  | some ts =>
    rcases ts with _ | ⟨⟨d, r⟩, _ | ⟨⟨d', r'⟩, ts⟩⟩
    · simp [tokens, run, behindTwo, hscan]
    · simp [tokens, run, behindTwo, hscan]
    · have hrest := scan_eq_cons (scan_eq_cons hscan)
      simp [tokens, run, behindTwo, hscan, hrest, List.head?_eq_getElem?]

/-! ### Words -/

/-- Skipping is the same as dropping. -/
lemma run_drop (m : Mode) (k : ℕ) (t : Text) : run sep m k t = run sep m 0 (t.drop k) := by
  induction t generalizing k with
  | nil =>
    cases m with
    | between => simp
    | plain acc => simp
    | quoted acc => simp
  | cons c t ih =>
    cases k with
    | zero => rfl
    | succ k =>
      rw [List.drop_succ_cons, ← ih, run_succ]

/-- Blanks in front make no tokens. -/
lemma tokens_sep {s : Text} (hs : ∀ c ∈ s, sep c = true) (t : Text) :
    tokens sep (s ++ t) = tokens sep t := by
  induction s with
  | nil => rfl
  | cons c s ih =>
    have hc : sep c = true := hs c List.mem_cons_self
    rw [← ih fun d hd => hs d (List.mem_cons_of_mem c hd), tokens, List.cons_append,
      run_between_cons, if_pos hc]
    rfl

/-- A token without quotes goes up to the end or to white space. -/
lemma run_plain (hsep : ∀ c, sep c = true → isEscapeChar c = false) {w r : Text}
    (hw : ∀ c ∈ w, sep c = false) (hr : ∀ c ∈ r.head?, sep c = true) (acc : Text) {k : ℕ}
    (hk : k ≤ w.length) :
    run sep (.plain acc) k (w ++ r) =
      (unescape k w).bind fun d => (tokens sep r).map ((acc ++ d) :: ·) := by
  induction w generalizing acc k with
  | nil =>
    obtain rfl := Nat.le_zero.1 hk
    cases r with
    | nil => simp [tokens]
    | cons c r =>
      have hc : sep c = true := hr c rfl
      simp [run_plain_cons, run_between_cons, tokens, hc]
  | cons c w ih =>
    have hw' : ∀ d ∈ w, sep d = false := fun d hd => hw d (List.mem_cons_of_mem c hd)
    cases k with
    | succ k =>
      rw [List.cons_append, run_succ, unescape_succ]
      exact ih hw' acc (Nat.le_of_succ_le_succ hk)
    | zero =>
      have hc : sep c = false := hw c List.mem_cons_self
      rw [List.cons_append, run_plain_cons, unescape_cons, hc, if_neg Bool.false_ne_true]
      by_cases hslash : c = '\\'
      · rw [if_pos hslash, if_pos hslash, escape_append fun d hd => hsep d (hr d hd)]
        cases he : escape w with
        | none => rfl
        | some e =>
          rw [Option.bind_some, Option.bind_some, ih hw' _ (escape_le he)]
          cases unescape e.2 w with
          | none => rfl
          | some d => simp
      · rw [if_neg hslash, if_neg hslash, ih hw' _ (Nat.zero_le _)]
        cases unescape 0 w with
        | none => rfl
        | some d => simp

/-- **The first word is a token**, with its escapes resolved, if it does not start with a quote. -/
theorem tokens_append_word (hsep : ∀ c, sep c = true → isEscapeChar c = false) {w r : Text}
    (hne : w ≠ []) (hw : ∀ c ∈ w, sep c = false) (hquote : w.head? ≠ some '"')
    (hr : ∀ c ∈ r.head?, sep c = true) :
    tokens sep (w ++ r) = (unescape 0 w).bind fun d => (tokens sep r).map (d :: ·) := by
  have hplain : tokens sep (w ++ r) = run sep (.plain []) 0 (w ++ r) := by
    obtain ⟨c, w, rfl⟩ := List.exists_cons_of_ne_nil hne
    have hc : sep c = false := hw c List.mem_cons_self
    have hnot : c ≠ '"' := fun heq => hquote (heq ▸ rfl)
    rw [tokens, List.cons_append, run_between_cons, run_plain_cons, hc,
      if_neg Bool.false_ne_true, if_neg hnot, if_neg Bool.false_ne_true]
    rfl
  rw [hplain, run_plain hsep hw hr [] (Nat.zero_le _)]
  rfl

/-- Nothing comes out of white space. -/
lemma run_sep (hsep : ∀ c, sep c = true → isEscapeChar c = false) {s : Text}
    (hs : ∀ c ∈ s, sep c = true) (m : Mode) : run sep m 0 s = run sep m 0 [] := by
  induction s generalizing m with
  | nil => rfl
  | cons c s ih =>
    have hs' : ∀ d ∈ s, sep d = true := fun d hd => hs d (List.mem_cons_of_mem c hd)
    have hc : sep c = true := hs c List.mem_cons_self
    cases m with
    | between =>
      rw [run_between_cons, if_pos hc, ih hs']
    | plain acc =>
      rw [run_plain_cons, if_pos hc, ih hs']
      rfl
    | quoted acc =>
      have hquote : c ≠ '"' := by
        rintro rfl
        exact absurd (hsep _ hc) (by decide)
      have hslash : c ≠ '\\' := by
        rintro rfl
        exact absurd (hsep _ hc) (by decide)
      rw [run_quoted_cons, if_neg hquote, if_neg hslash, ih hs']
      rfl

/-- White space at the end does not matter. -/
lemma run_append_sep (hsep : ∀ c, sep c = true → isEscapeChar c = false) {s : Text}
    (hs : ∀ c ∈ s, sep c = true) (m : Mode) (k : ℕ) (t : Text) :
    run sep m k (t ++ s) = run sep m k t := by
  have hhead : ∀ c ∈ s.head?, isEscapeChar c = false := fun c hc =>
    hsep c (hs c (List.mem_of_mem_head? hc))
  induction t generalizing m k with
  | nil =>
    rw [run_drop, run_drop m k [], List.drop_nil, List.nil_append]
    exact run_sep hsep (fun c hc => hs c (List.mem_of_mem_drop hc)) m
  | cons c t ih =>
    cases k with
    | succ k =>
      cases m with
      | between => exact ih _ _
      | plain acc => exact ih _ _
      | quoted acc => exact ih _ _
    | zero =>
      cases m with
      | between => simp only [List.cons_append, run_between_cons, ih, escape_append hhead]
      | plain acc => simp only [List.cons_append, run_plain_cons, ih, escape_append hhead]
      | quoted acc => simp only [List.cons_append, run_quoted_cons, ih, escape_append hhead]

/-- Blanks at the end make no tokens. -/
theorem tokens_append_sep (hsep : ∀ c, sep c = true → isEscapeChar c = false) {s : Text}
    (hs : ∀ c ∈ s, sep c = true) (t : Text) : tokens sep (t ++ s) = tokens sep t :=
  run_append_sep hsep hs _ _ _

/-- A line starts with its first word, and the rest of the words is the rest of the line. -/
lemma tokens_of_words (hsep : ∀ c, sep c = true → isEscapeChar c = false) {w l : Text}
    {ws : List Text} (hwords : Words.words sep l = w :: ws) (hquote : w.head? ≠ some '"') :
    ∃ r, Words.words sep r = ws ∧
      tokens sep l = (unescape 0 w).bind fun d => (tokens sep r).map (d :: ·) := by
  obtain ⟨s, r, rfl, hs, hne, hw, hr, hws⟩ := (Words.words_eq_cons_iff sep).1 hwords
  exact ⟨r, hws, by rw [tokens_sep hs, tokens_append_word hsep hne hw hquote hr]⟩

/-- The last word of a line is read as if it were alone. -/
lemma tokens_of_words_singleton (hsep : ∀ c, sep c = true → isEscapeChar c = false) {w l : Text}
    (hwords : Words.words sep l = [w]) : tokens sep l = tokens sep w := by
  obtain ⟨s, r, rfl, hs, -, -, -, hr⟩ := (Words.words_eq_cons_iff sep).1 hwords
  rw [tokens_sep hs, tokens_append_sep hsep ((Words.words_eq_nil_iff sep).1 hr)]

/-- Words that do not start with a quote are as many tokens. -/
theorem length_tokens (hsep : ∀ c, sep c = true → isEscapeChar c = false) {l : Text}
    {ws ts : List Text} (hwords : Words.words sep l = ws) (hquote : ∀ w ∈ ws, w.head? ≠ some '"')
    (h : tokens sep l = some ts) : ts.length = ws.length := by
  induction ws generalizing l ts with
  | nil =>
    have hnil : tokens sep l = tokens sep [] := by
      rw [← tokens_append_sep hsep ((Words.words_eq_nil_iff sep).1 hwords) [], List.nil_append]
    rw [hnil] at h
    obtain rfl := Option.some.inj h
    rfl
  | cons w ws ih =>
    obtain ⟨r, hr, htokens⟩ := tokens_of_words hsep hwords (hquote w List.mem_cons_self)
    rw [htokens] at h
    obtain ⟨d, -, h⟩ := Option.bind_eq_some_iff.1 h
    obtain ⟨us, hus, rfl⟩ := Option.map_eq_some_iff.1 h
    rw [List.length_cons, List.length_cons,
      ih hr (fun v hv => hquote v (List.mem_cons_of_mem w hv)) hus]

/-! ### Quotes -/

/-- What has been read of a token is the beginning of the token. -/
lemma prefix_of_run_quoted {acc arg t : Text} {ts : List Text} {k : ℕ}
    (h : run sep (.quoted acc) k t = some (arg :: ts)) : acc <+: arg := by
  induction t generalizing acc k with
  | nil => cases h
  | cons c t ih =>
    cases k with
    | succ k => exact ih h
    | zero =>
      rw [run_quoted_cons] at h
      split_ifs at h with hquote hslash
      · obtain ⟨ts', -, hcons⟩ := Option.map_eq_some_iff.1 h
        obtain ⟨rfl, -⟩ := List.cons.inj hcons
        exact List.prefix_refl _
      · obtain ⟨e, -, he⟩ := Option.bind_eq_some_iff.1 h
        exact (List.prefix_append _ _).trans (ih he)
      · exact (List.prefix_append _ _).trans (ih h)

/-- So the next character of the token is the one that is read next. -/
lemma eq_of_run_quoted {acc arg t : Text} {c d : Char} {ts : List Text} {k : ℕ}
    (h : run sep (.quoted (acc ++ [c])) k t = some ((acc ++ d :: arg) :: ts)) : c = d := by
  have hpre := (List.prefix_append_right_inj acc).1 (prefix_of_run_quoted h)
  exact (List.cons_prefix_cons.1 hpre).1

/-- A token in quotes ends with the quote. -/
theorem quoted_nil_iff {acc t : Text} {ts : List Text} :
    run sep (.quoted acc) 0 t = some (acc :: ts) ↔
      ∃ r, t = '"' :: r ∧ tokens sep r = some ts := by
  have hlonger {c : Char} {k : ℕ} {t : Text} :
      run sep (.quoted (acc ++ [c])) k t ≠ some (acc :: ts) := by
    intro h
    have hlength := (prefix_of_run_quoted h).length_le
    rw [List.length_append, List.length_singleton] at hlength
    omega
  constructor
  · intro h
    cases t with
    | nil => cases h
    | cons c t =>
      rw [run_quoted_cons] at h
      split_ifs at h with hquote hslash
      · obtain ⟨ts', hts, hcons⟩ := Option.map_eq_some_iff.1 h
        obtain ⟨-, rfl⟩ := List.cons.inj hcons
        exact ⟨t, by rw [hquote], hts⟩
      · obtain ⟨e, -, he⟩ := Option.bind_eq_some_iff.1 h
        exact absurd he hlonger
      · exact absurd h hlonger
  · rintro ⟨r, rfl, hr⟩
    have hr' : run sep .between 0 r = some ts := hr
    rw [run_quoted_cons, if_pos rfl, hr', Option.map_some]

/-- The text starts with a character, as it is or as an escape, and goes on with another text. -/
def Spells (d : Char) (t r : Text) : Prop :=
  (t = d :: r ∧ d ≠ '\\') ∨ ∃ e n, t = '\\' :: e ∧ escape e = some (d, n) ∧ r = e.drop n

/-- The characters of a token in quotes stand one after the other. -/
theorem quoted_cons_iff {acc t arg : Text} {d : Char} {ts : List Text} (hd : d ≠ '"') :
    run sep (.quoted acc) 0 t = some ((acc ++ d :: arg) :: ts) ↔
      ∃ r, Spells d t r ∧ run sep (.quoted (acc ++ [d])) 0 r = some ((acc ++ d :: arg) :: ts) := by
  constructor
  · intro h
    cases t with
    | nil => cases h
    | cons c t =>
      rw [run_quoted_cons] at h
      split_ifs at h with hquote hslash
      · obtain ⟨ts', -, hcons⟩ := Option.map_eq_some_iff.1 h
        have hlength := congrArg List.length (List.cons.inj hcons).1
        simp at hlength
      · obtain ⟨⟨c', n⟩, hescape, he⟩ := Option.bind_eq_some_iff.1 h
        obtain rfl := eq_of_run_quoted he
        refine ⟨t.drop n, .inr ⟨t, n, by rw [hslash], hescape, rfl⟩, ?_⟩
        rw [← run_drop]
        exact he
      · obtain rfl := eq_of_run_quoted h
        exact ⟨t, .inl ⟨rfl, hslash⟩, h⟩
  · rintro ⟨r, ⟨rfl, hslash⟩ | ⟨e, n, rfl, hescape, rfl⟩, h⟩
    · rw [run_quoted_cons, if_neg hd, if_neg hslash]
      exact h
    · rw [run_quoted_cons, if_neg (by decide), if_pos rfl, hescape, Option.bind_some, run_drop]
      exact h

/-! ### Texts without quotes -/

/-- Skipping is the same as dropping. -/
lemma unescape_drop (k : ℕ) (t : Text) : unescape k t = unescape 0 (t.drop k) := by
  induction t generalizing k with
  | nil => rw [List.drop_nil, unescape_nil, unescape_nil]
  | cons c t ih =>
    cases k with
    | zero => rfl
    | succ k =>
      rw [List.drop_succ_cons, ← ih, unescape_succ]

/-- Only the empty text is read as the empty text. -/
theorem unescape_nil_iff {t : Text} : unescape 0 t = some [] ↔ t = [] := by
  constructor
  · intro h
    cases t with
    | nil => rfl
    | cons c t =>
      rw [unescape_cons] at h
      split_ifs at h
      · obtain ⟨e, -, he⟩ := Option.bind_eq_some_iff.1 h
        obtain ⟨u, -, hu⟩ := Option.map_eq_some_iff.1 he
        cases hu
      · obtain ⟨u, -, hu⟩ := Option.map_eq_some_iff.1 h
        cases hu
  · rintro rfl
    rw [unescape_nil]

/-- A text that is read begins with a spelling of its first character. -/
theorem unescape_cons_iff {t u : Text} {d : Char} :
    unescape 0 t = some (d :: u) ↔ ∃ r, Spells d t r ∧ unescape 0 r = some u := by
  constructor
  · intro h
    cases t with
    | nil =>
      rw [unescape_nil] at h
      cases h
    | cons c t =>
      rw [unescape_cons] at h
      split_ifs at h with hslash
      · obtain ⟨⟨c', n⟩, hescape, he⟩ := Option.bind_eq_some_iff.1 h
        obtain ⟨v, hv, hcons⟩ := Option.map_eq_some_iff.1 he
        obtain ⟨rfl, rfl⟩ := List.cons.inj hcons
        refine ⟨t.drop n, .inr ⟨t, n, by rw [hslash], hescape, rfl⟩, ?_⟩
        rw [← unescape_drop]
        exact hv
      · obtain ⟨v, hv, hcons⟩ := Option.map_eq_some_iff.1 h
        obtain ⟨rfl, rfl⟩ := List.cons.inj hcons
        exact ⟨t, .inl ⟨rfl, hslash⟩, hv⟩
  · rintro ⟨r, ⟨rfl, hslash⟩ | ⟨e, n, rfl, hescape, rfl⟩, h⟩
    · rw [unescape_cons, if_neg hslash, h, Option.map_some]
    · rw [unescape_cons, if_pos rfl, hescape, Option.bind_some, unescape_drop, h, Option.map_some]

end Tokens

/-! ## Spellings -/

/-- The escapes with an `x` that stand for a character. -/
def hexSpellings (d : Char) : List Text :=
  hexDigits.flatMap fun a => hexDigits.filterMap fun b =>
    if Char.ofNat (16 * a.2 + b.2) = d then some ['x', a.1, b.1] else none

/-- The texts of one to three octal digits. -/
def octalTexts : List Text :=
  let one := octalDigits.map ([·])
  let two := octalDigits.flatMap fun c => one.map (c :: ·)
  let three := octalDigits.flatMap fun c => two.map (c :: ·)
  one ++ two ++ three

/-- The escapes with octal digits that stand for a character. -/
def octalSpellings (d : Char) : List Text :=
  octalTexts.filter fun w => Char.ofNat (octalValue w % 256) = d

/-- The ways to spell a character that no letter stands for. -/
def spellings (d : Char) : List Text :=
  [d] :: (hexSpellings d ++ octalSpellings d).map ('\\' :: ·)

section Spellings

variable {d : Char} {t r w : Text}

/-- One to three octal digits. -/
lemma mem_octalTexts_iff : w ∈ octalTexts ↔ w ≠ [] ∧ w.length ≤ 3 ∧ ∀ c ∈ w, isOctal c = true := by
  rcases w with _ | ⟨a, _ | ⟨b, _ | ⟨c, _ | ⟨e, w⟩⟩⟩⟩
  · simp [octalTexts]
  · simp [octalTexts, isOctal]
  · simp [octalTexts, isOctal]
  · simp [octalTexts, isOctal]
  · simp [octalTexts]

/-- What is found in a list is in it. -/
lemma mem_of_lookup {α β : Type} [BEq α] [LawfulBEq α] {l : List (α × β)} {a : α} {b : β}
    (h : l.lookup a = some b) : (a, b) ∈ l := by
  obtain ⟨l₁, l₂, rfl, -⟩ := List.lookup_eq_some_iff.1 h
  simp

/-- An escape is one of the spellings. -/
lemma take_mem_of_escape (hletter : ∀ p ∈ letterEscapes, p.2 ≠ d) {n : ℕ}
    (h : escape t = some (d, n)) : t.take n ∈ hexSpellings d ++ octalSpellings d := by
  unfold escape at h
  split at h
  · cases h
  · rename_i c rest
    split at h
    · rename_i d' hlookup
      obtain ⟨rfl, -⟩ := Prod.mk.inj (Option.some.inj h)
      exact absurd rfl (hletter _ (mem_of_lookup hlookup))
    · split_ifs at h with hx hrun
      · obtain ⟨v, hv, hpair⟩ := Option.map_eq_some_iff.1 h
        obtain ⟨rfl, rfl⟩ := Prod.mk.inj hpair
        rcases rest with _ | ⟨a, _ | ⟨b, rest⟩⟩
        · cases hv
        · cases hv
        · obtain ⟨i, hi, hv⟩ := Option.bind_eq_some_iff.1 hv
          obtain ⟨j, hj, rfl⟩ := Option.map_eq_some_iff.1 hv
          refine List.mem_append_left _ (List.mem_flatMap.2 ⟨(a, i), mem_of_lookup hi, ?_⟩)
          exact List.mem_filterMap.2 ⟨(b, j), mem_of_lookup hj, by simp [hx]⟩
      · obtain ⟨rfl, rfl⟩ := Prod.mk.inj (Option.some.inj h)
        have hprefix : octalRun (c :: rest) <+: c :: rest :=
          (List.takeWhile_prefix _).trans (List.take_prefix 3 _)
        rw [← List.prefix_iff_eq_take.1 hprefix]
        refine List.mem_append_right _ (List.mem_filter.2 ⟨mem_octalTexts_iff.2 ⟨hrun, ?_, ?_⟩, ?_⟩)
        · exact (List.takeWhile_prefix _).length_le.trans (List.length_take_le _ _)
        · exact fun x hx => List.mem_takeWhile_imp hx
        · simp

/-- A spelling that is not followed by an octal digit is an escape. -/
lemma escape_append_of_mem (hw : w ∈ hexSpellings d ++ octalSpellings d)
    (hr : ∀ c ∈ r.head?, isOctal c = false) : escape (w ++ r) = some (d, w.length) := by
  rcases List.mem_append.1 hw with hw | hw
  · have hval : ∀ p ∈ hexDigits, hexVal p.1 = some p.2 := by decide
    obtain ⟨a, ha, hw⟩ := List.mem_flatMap.1 hw
    obtain ⟨b, hb, hw⟩ := List.mem_filterMap.1 hw
    split_ifs at hw with hchar
    obtain rfl := Option.some.inj hw
    have hlookup : letterEscapes.lookup 'x' = none := by decide
    simp [escape, hlookup, hexPair, hval a ha, hval b hb, hchar]
  · obtain ⟨hw, hchar⟩ := List.mem_filter.1 hw
    obtain ⟨hne, hlength, hall⟩ := mem_octalTexts_iff.1 hw
    have hrun : octalRun (w ++ r) = w := by
      rw [octalRun_append hr, octalRun, List.take_of_length_le hlength]
      exact List.takeWhile_eq_self_iff.2 hall
    obtain ⟨c, w, rfl⟩ := List.exists_cons_of_ne_nil hne
    have hdigit : (octalDigits.all fun c => letterEscapes.lookup c = none ∧ c ≠ 'x') = true := by
      decide
    have hc : c ∈ octalDigits := of_decide_eq_true (hall c List.mem_cons_self)
    obtain ⟨hlookup, hx⟩ : letterEscapes.lookup c = none ∧ c ≠ 'x' :=
      of_decide_eq_true (List.all_eq_true.1 hdigit c hc)
    rw [List.cons_append] at hrun ⊢
    simp [escape, hlookup, hx, hrun, of_decide_eq_true hchar]

/-- **A text that starts with a character** starts with one of its spellings. -/
theorem exists_spelling_of_spells (hletter : ∀ p ∈ letterEscapes, p.2 ≠ d) (h : Spells d t r) :
    ∃ w ∈ spellings d, t = w ++ r := by
  rcases h with ⟨rfl, -⟩ | ⟨e, n, rfl, hescape, rfl⟩
  · exact ⟨[d], List.mem_cons_self, rfl⟩
  · refine ⟨'\\' :: e.take n, List.mem_cons_of_mem _ (List.mem_map_of_mem ?_), by simp⟩
    exact take_mem_of_escape hletter hescape

/-- **A spelling of a character** stands for it, unless an octal digit follows. -/
theorem spells_append (hd : d ≠ '\\') (hw : w ∈ spellings d)
    (hr : ∀ c ∈ r.head?, isOctal c = false) : Spells d (w ++ r) r := by
  rcases List.mem_cons.1 hw with rfl | hw
  · exact .inl ⟨rfl, hd⟩
  · obtain ⟨x, hx, rfl⟩ := List.mem_map.1 hw
    exact .inr ⟨x ++ r, x.length, rfl, escape_append_of_mem hx hr, by simp⟩

/-! ### Texts -/

/-- A character that no letter stands for, and that is not an octal digit. -/
def Ordinary (d : Char) : Prop := isOctal d = false ∧ ∀ p ∈ letterEscapes, p.2 ≠ d

/-- Whether a character is ordinary can be decided. -/
instance (d : Char) : Decidable (Ordinary d) := inferInstanceAs (Decidable (_ ∧ _))

/-- An ordinary character is no backslash. -/
lemma Ordinary.ne_slash (h : Ordinary d) : d ≠ '\\' :=
  (h.2 ('\\', '\\') (by decide)).symm

/-- An ordinary character is no quote. -/
lemma Ordinary.ne_quote (h : Ordinary d) : d ≠ '"' :=
  (h.2 ('"', '"') (by decide)).symm

/-- The ways to spell a text. -/
def textSpellings : Text → List Text
  | [] => [[]]
  | d :: ds => (spellings d).flatMap fun w => (textSpellings ds).map (w ++ ·)

variable {ds : Text}

/-- A spelling of a text is one of its first character and one of the rest. -/
lemma mem_textSpellings_cons :
    w ∈ textSpellings (d :: ds) ↔ ∃ u ∈ spellings d, ∃ v ∈ textSpellings ds, w = u ++ v := by
  simp only [textSpellings, List.mem_flatMap, List.mem_map, eq_comm]

/-- A spelling begins with the character itself or with a backslash. -/
lemma head?_of_mem_spellings (hw : w ∈ spellings d) : w.head? = some d ∨ w.head? = some '\\' := by
  rcases List.mem_cons.1 hw with rfl | hw
  · exact .inl rfl
  · obtain ⟨x, -, rfl⟩ := List.mem_map.1 hw
    exact .inr rfl

/-- A spelling does not start with an octal digit. -/
lemma isOctal_head (hds : ∀ d ∈ ds, Ordinary d) (hw : w ∈ textSpellings ds)
    (hr : ∀ c ∈ r.head?, isOctal c = false) : ∀ c ∈ (w ++ r).head?, isOctal c = false := by
  cases ds with
  | nil =>
    obtain rfl := List.mem_singleton.1 hw
    exact hr
  | cons d ds =>
    obtain ⟨u, hu, v, -, rfl⟩ := mem_textSpellings_cons.1 hw
    intro c hc
    rw [List.append_assoc, List.head?_append] at hc
    rcases head?_of_mem_spellings hu with hhead | hhead
    · rw [hhead] at hc
      obtain rfl := Option.some.inj hc
      exact (hds d List.mem_cons_self).1
    · rw [hhead] at hc
      obtain rfl := Option.some.inj hc
      decide

/-- The character that is read first is one of its spellings, in front of what is read next. -/
lemma exists_spells_iff {P : Text → Prop} (hd : Ordinary d)
    (hP : ∀ r, P r → ∀ c ∈ r.head?, isOctal c = false) :
    (∃ r, Spells d t r ∧ P r) ↔ ∃ w ∈ spellings d, ∃ r, t = w ++ r ∧ P r := by
  constructor
  · rintro ⟨r, hspells, hr⟩
    obtain ⟨w, hw, rfl⟩ := exists_spelling_of_spells hd.2 hspells
    exact ⟨w, hw, r, rfl, hr⟩
  · rintro ⟨w, hw, r, rfl, hr⟩
    exact ⟨r, spells_append hd.ne_slash hw (hP r hr), hr⟩

/-- **What is resolved to a text** is one of its spellings. -/
theorem unescape_eq_some_iff (hds : ∀ d ∈ ds, Ordinary d) :
    unescape 0 t = some ds ↔ t ∈ textSpellings ds := by
  induction ds generalizing t with
  | nil => rw [unescape_nil_iff, textSpellings, List.mem_singleton]
  | cons d ds ih =>
    have hds' : ∀ c ∈ ds, Ordinary c := fun c hc => hds c (List.mem_cons_of_mem d hc)
    have hoctal (r : Text) (hr : unescape 0 r = some ds) : ∀ c ∈ r.head?, isOctal c = false := by
      have hhead := isOctal_head (r := []) hds' ((ih hds').1 hr) (by simp)
      rwa [List.append_nil] at hhead
    rw [unescape_cons_iff, exists_spells_iff (hds d List.mem_cons_self) hoctal,
      mem_textSpellings_cons]
    simp only [ih hds', and_comm]

/-- **What stands in quotes** is a text just when one of its spellings is written there. -/
theorem quoted_eq_some_iff {sep : Char → Bool} {acc : Text} {ts : List Text}
    (hds : ∀ d ∈ ds, Ordinary d) :
    run sep (.quoted acc) 0 t = some ((acc ++ ds) :: ts) ↔
      ∃ w ∈ textSpellings ds, ∃ r, t = w ++ '"' :: r ∧ tokens sep r = some ts := by
  induction ds generalizing t acc with
  | nil => simp [quoted_nil_iff, textSpellings]
  | cons d ds ih =>
    have hd : Ordinary d := hds d List.mem_cons_self
    have hds' : ∀ c ∈ ds, Ordinary c := fun c hc => hds c (List.mem_cons_of_mem d hc)
    have hacc : acc ++ d :: ds = (acc ++ [d]) ++ ds := by simp
    have hoctal (r : Text) (hr : ∃ w ∈ textSpellings ds, ∃ s, r = w ++ '"' :: s ∧
        tokens sep s = some ts) : ∀ c ∈ r.head?, isOctal c = false := by
      obtain ⟨w, hw, s, rfl, -⟩ := hr
      refine isOctal_head hds' hw fun c hc => ?_
      obtain rfl := Option.some.inj hc
      decide
    rw [quoted_cons_iff hd.ne_quote, hacc]
    simp only [ih hds']
    rw [exists_spells_iff hd hoctal]
    constructor
    · rintro ⟨u, hu, _, rfl, v, hv, s, rfl, hs⟩
      exact ⟨u ++ v, mem_textSpellings_cons.2 ⟨u, hu, v, hv, rfl⟩, s, by simp, hs⟩
    · rintro ⟨w, hw, s, rfl, hs⟩
      obtain ⟨u, hu, v, hv, rfl⟩ := mem_textSpellings_cons.1 hw
      exact ⟨u, hu, v ++ '"' :: s, by simp, v, hv, s, rfl, hs⟩

end Spellings

end Cli
