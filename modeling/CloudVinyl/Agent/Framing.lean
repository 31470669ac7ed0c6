import CloudVinyl.Agent.Admin
import CloudVinyl.Generator.Generate
import CloudVinyl.Proxy.Ban

set_option relaxedAutoImplicit false
set_option autoImplicit false

/-!
# Framing of admin commands

Whether varnishd reads a command as the agent meant it depends on what the text of the command
is allowed to contain. A ban expression is checked by a pattern in another process, and the
pattern's white space includes the newline that ends a command. A VCL text is sent as a
here-document that ends at a fixed word, and nothing keeps that word out of the text.

## Main results

* `Admin.ban_framed_iff` — which accepted ban expressions arrive as the one command that was
  checked.
* `Admin.inline_framed_iff` — which VCL texts arrive as they were sent.
-/

namespace CloudVinyl.Admin

open Proxy

/-! ## Words -/

/-- A word of printable characters in front of a space is read off the front. -/
lemma words_append_space (B : Blanks) {w : Text} (l : Text) (hw : w ≠ [])
    (hwp : ∀ c ∈ w, B.isBlank c = false) :
    Words.words B.isBlank (w ++ (' ' :: l)) = w :: Words.words B.isBlank l := by
  have hspace : ∀ c ∈ (" " : Text), B.isBlank c = true := by
    intro c hc
    obtain rfl : c = ' ' := by simpa using hc
    exact B.space
  exact Words.words_append_append B.isBlank l hw (List.cons_ne_nil ' ' []) hwp hspace

/-! ## Bans -/

/-- The words of the command are `ban` and those of the expression. -/
lemma words_ban (B : Blanks) (expr : Text) :
    Words.words B.isBlank ("ban " ++ expr) = ("ban" : Text) :: Words.words B.isBlank expr :=
  words_append_space B (w := "ban") expr (by decide) (B.not_blank (by decide))

/-- **When an accepted ban expression is framed.** The bytes written for it are exactly one
command with the words `ban`, left-hand side, operator and right-hand side that the validator
matched, if and only if the expression holds no newline and the reader's blanks in it are the
white space of the validator's pattern.

**Proof sketch.** One line means no newline before the last. If the words agree then so do the
letters that are not separators (`Words.flatten_words`), so a character of the expression is a
blank exactly if it is white space. Conversely the words are the same because the separators
are. -/
theorem ban_framed_iff (B : Blanks) {expr : Text} (h : validateBanExpression expr = none) :
    ∃ lhs op rhs, banExprPattern expr = some (lhs, op, rhs) ∧
      (OneCommand B (ban expr) ["ban", lhs, op, rhs] ↔
        '\n' ∉ expr ∧ ∀ c ∈ expr, B.isBlank c = Patterns.space c) := by
  obtain ⟨lhs, op, rhs, hm⟩ := exists_match_of_accepted h
  have hwords := (banExprPattern_eq_some_iff.1 hm).words_eq
  have hline : ∀ line, Words.readLines '\n' (ban expr) = ([line], []) ↔
      line = "ban " ++ expr ∧ '\n' ∉ expr := by
    intro line
    have hiff := Words.readLines_append_singleton_iff '\n' (l := "ban " ++ expr) (w := line)
    have hmem : '\n' ∉ ("ban " : Text) ++ expr ↔ '\n' ∉ expr := by simp
    rw [hmem] at hiff
    exact hiff
  refine ⟨lhs, op, rhs, hm, ⟨?_, ?_⟩⟩
  · rintro ⟨line, hread, htokens⟩
    obtain ⟨rfl, hnl⟩ := (hline line).1 hread
    rw [words_ban, List.cons.injEq] at htokens
    have hfilter : expr.filter (!B.isBlank ·) = expr.filter (!Patterns.space ·) := by
      rw [← Words.flatten_words, ← Words.flatten_words, htokens.2, hwords]
    refine ⟨hnl, fun c hc => ?_⟩
    have hiff : (c ∈ expr.filter (!B.isBlank ·)) ↔ c ∈ expr.filter (!Patterns.space ·) := by
      rw [hfilter]
    simpa [hc] using hiff
  · rintro ⟨hnl, hagree⟩
    refine ⟨_, (hline _).2 ⟨rfl, hnl⟩, ?_⟩
    rw [words_ban, Words.words_congr B.isBlank hagree, hwords]

/-- A ban on one header arrives as it was checked. -/
theorem ban_framed_header :
    ∃ lhs op rhs, banExprPattern "obj.http.x-url ~ ^/news/" = some (lhs, op, rhs) ∧
      (OneCommand .spaceTab (ban "obj.http.x-url ~ ^/news/") ["ban", lhs, op, rhs] ↔
        '\n' ∉ ("obj.http.x-url ~ ^/news/" : Text) ∧
          ∀ c ∈ ("obj.http.x-url ~ ^/news/" : Text),
            Blanks.spaceTab.isBlank c = Patterns.space c) :=
  ban_framed_iff .spaceTab (by decide +kernel)

/-- **A ban expression can carry further commands.** The handler broadcasts an expression whose
words stand on three lines, and the agent writes three commands, the last of which stops the
cache. Whatever the reader takes for blanks, this is not one command. -/
theorem ban_carries_commands :
    handleBAN id ⟨"POST", [], some "obj.http.x\n~\nstop"⟩ = .ok "obj.http.x\n~\nstop" ∧
      Words.readLines '\n' (ban "obj.http.x\n~\nstop") =
        ([("ban obj.http.x" : Text), ("~" : Text), ("stop" : Text)], []) ∧
      ∀ B tokens, ¬ OneCommand B (ban "obj.http.x\n~\nstop") tokens := by
  have hread : Words.readLines '\n' (ban "obj.http.x\n~\nstop") =
      ([("ban obj.http.x" : Text), ("~" : Text), ("stop" : Text)], []) := by decide +kernel
  refine ⟨by decide +kernel, hread, ?_⟩
  rintro B tokens ⟨line, hline, -⟩
  rw [hread] at hline
  simp at hline

/-! ## Here-documents -/

/-- A here-document ends at the first line equal to the delimiter. -/
lemma hereDocument_append {delim : Text} {lines after : List Text} (hlines : delim ∉ lines)
    (hafter : after ≠ []) :
    hereDocument delim (lines ++ delim :: after) = some (lines, after) := by
  induction lines with
  | nil =>
    obtain ⟨x, after, rfl⟩ := List.exists_cons_of_ne_nil hafter
    simp [hereDocument]
  | cons l lines ih =>
    rw [List.mem_cons, not_or] at hlines
    -- the delimiter follows, so the first line is not the last piece of the stream
    obtain ⟨x, rest, hx⟩ := List.exists_cons_of_ne_nil
      (List.append_ne_nil_of_right_ne_nil lines (List.cons_ne_nil delim after))
    have hih := ih hlines.2
    rw [hx] at hih
    rw [List.cons_append, hx]
    simp only [hereDocument, if_neg (Ne.symm hlines.1), hih, Option.map_some]

/-- The words of the command line in front of a VCL. -/
lemma words_inline (B : Blanks) {name : Text} (hname : name ≠ [])
    (hb : ∀ c ∈ name, B.isBlank c = false) :
    Words.words B.isBlank ("vcl.inline" ++ " " ++ name ++ " << EOF") =
      [("vcl.inline" : Text), name, ("<<" : Text), ("EOF" : Text)] := by
  have hline : ("vcl.inline" : Text) ++ " " ++ name ++ " << EOF" =
      "vcl.inline" ++ ' ' :: (name ++ ' ' :: (("<<" : Text) ++ ' ' :: "EOF")) := by simp
  rw [hline, words_append_space B _ (by decide) (B.not_blank (by decide)),
    words_append_space B _ hname hb, words_append_space B _ (by decide) (B.not_blank (by decide)),
    Words.words_of_forall_not B.isBlank (by decide) (B.not_blank (by decide))]

/-- The pieces of the stream of an inline VCL. -/
lemma splitOn_sendInlineVCL {name : Text} (vcl : Text) (hnl : '\n' ∉ name) :
    (sendInlineVCL "vcl.inline" name vcl).splitOn '\n' =
      ("vcl.inline" ++ " " ++ name ++ " << EOF") :: (vcl.splitOn '\n' ++ [("EOF" : Text), []]) := by
  have hstream : sendInlineVCL "vcl.inline" name vcl =
      ("vcl.inline" ++ " " ++ name ++ " << EOF") ++ '\n' :: (vcl ++ '\n' :: ("EOF" ++ ['\n'])) := by
    simp [sendInlineVCL]
  have hfirst : ∀ c ∈ ("vcl.inline" : Text) ++ " " ++ name ++ " << EOF", (c == '\n') = false := by
    intro c hc
    have hne : c ≠ '\n' := by
      rintro rfl
      simp [hnl] at hc
    simpa using hne
  have hlast : ("EOF\n" : Text).splitOnP (· == '\n') = [("EOF" : Text), []] := by decide
  rw [hstream]
  simp only [List.splitOn_eq_splitOnP]
  rw [List.splitOnP_append_cons _ _ (by simp), List.splitOnP_append_cons _ _ (by simp),
    List.splitOnP_eq_singleton hfirst]
  exact congrArg (fun l => _ :: (vcl.splitOnP (· == '\n') ++ l)) hlast

/-- What the reader makes of the stream of an inline VCL, if the first line `EOF` of the document
is the given one. -/
lemma readInline_sendInlineVCL (B : Blanks) {name vcl : Text} {lines after : List Text}
    (hname : name ≠ []) (hb : ∀ c ∈ name, B.isBlank c = false ∧ c ≠ '\n')
    (hlines : ("EOF" : Text) ∉ lines) (hafter : after ≠ [])
    (hcut : vcl.splitOn '\n' ++ [("EOF" : Text), []] = lines ++ ("EOF" : Text) :: after) :
    readInline B (sendInlineVCL "vcl.inline" name vcl) =
      some ⟨["vcl.inline", name], lines, ['\n'].intercalate after⟩ := by
  have hnl : '\n' ∉ name := fun h => (hb _ h).2 rfl
  unfold readInline
  rw [splitOn_sendInlineVCL vcl hnl, hcut]
  simp only [words_inline B hname fun c hc => (hb c hc).1]
  simp only [List.reverse_cons, List.reverse_nil, List.nil_append, List.cons_append, and_self,
    ↓reduceIte, hereDocument_append hlines hafter, Option.map_some]

/-- **When a VCL text arrives as it was sent.** For a name without blanks, the reader recovers
the name and the text and finds nothing behind the terminator, if and only if no line of the text
is the word `EOF`.

**Proof sketch.** The pieces of the stream are the command line, the lines of the text, `EOF` and
an empty rest. If no line of the text is `EOF`, then the document is all of them. Otherwise the
document ends at the first such line, and at least the `EOF` that the agent wrote is left behind
it. -/
theorem inline_framed_iff (B : Blanks) {name : Text} (vcl : Text) (hname : name ≠ [])
    (hb : ∀ c ∈ name, B.isBlank c = false ∧ c ≠ '\n') :
    (∃ document, readInline B (sendInlineVCL "vcl.inline" name vcl) =
        some ⟨["vcl.inline", name], document, []⟩ ∧ ['\n'].intercalate document = vcl) ↔
      ("EOF" : Text) ∉ vcl.splitOn '\n' := by
  constructor
  · rintro ⟨document, hdoc, -⟩ hmem
    obtain ⟨lines, rest, hsplit, hlines⟩ := List.eq_append_cons_of_mem hmem
    have hcut : vcl.splitOn '\n' ++ [("EOF" : Text), []] =
        lines ++ ("EOF" : Text) :: (rest ++ [("EOF" : Text), []]) := by simp [hsplit]
    rw [readInline_sendInlineVCL B hname hb hlines (by simp) hcut] at hdoc
    have hrest : ['\n'].intercalate (rest ++ [("EOF" : Text), []]) = [] :=
      congrArg Inline.rest (Option.some.inj hdoc)
    have hnl : ∀ l ∈ rest ++ [("EOF" : Text), []], '\n' ∉ l := by
      intro l hl
      rcases List.mem_append.1 hl with hl | hl
      · exact Words.not_mem_of_mem_splitOn '\n' (by rw [hsplit]; simp [hl])
      · have hlast : ∀ l ∈ [("EOF" : Text), []], '\n' ∉ l := by decide
        exact hlast l hl
    -- splitting what is left gives back its pieces, and there are at least two
    have hpieces := List.splitOn_intercalate '\n' hnl (by simp)
    rw [hrest] at hpieces
    have hlen := congrArg List.length hpieces
    simp at hlen
  · intro h
    exact ⟨vcl.splitOn '\n',
      readInline_sendInlineVCL B hname hb h (List.cons_ne_nil [] []) rfl,
      List.intercalate_splitOn '\n'⟩

/-- A small VCL arrives as it was sent. -/
theorem inline_framed_small :
    ∃ document, readInline .spaceTab
        (sendInlineVCL "vcl.inline" "prod-shop-0a1b2c3d" "vcl 4.1;\nbackend default none;\n") =
      some ⟨["vcl.inline", "prod-shop-0a1b2c3d"], document, []⟩ ∧
      ['\n'].intercalate document = "vcl 4.1;\nbackend default none;\n" := by
  have hname : ("prod-shop-0a1b2c3d" : Text).all
      (fun c => !Blanks.spaceTab.isBlank c && c != '\n') = true := by decide
  refine (inline_framed_iff .spaceTab _ (by decide) fun c hc => ?_).2 (by decide)
  simpa using List.all_eq_true.1 hname c hc

/-- A cache whose full override has a line `EOF`. -/
def overrideWithEOF : Generator.Input where
  spec := { vcl := { fullOverride := "vcl 4.1;\nEOF\nstop" } }
  peers := []
  endpoints := fun _ => []
  namespace_ := "prod"
  name := "shop"
  operatorIP := []

/-- **A VCL text can end its own here-document.** The generator passes a full override on as it
is. The reader then takes the lines before `EOF` for the VCL, and what follows is read as
commands: the next one stops the cache. -/
theorem override_leaves_commands :
    overrideWithEOF.spec.vcl.fullOverride = "vcl 4.1;\nEOF\nstop" ∧
      ∀ go, readInline .spaceTab (sendInlineVCL "vcl.inline" "prod-shop-0a1b2c3d"
          (Generator.generate go overrideWithEOF).vcl) =
        some ⟨["vcl.inline", "prod-shop-0a1b2c3d"],
          ["# cloud-vinyl managed VCL (full override mode)", "# Name: prod/shop", "", "vcl 4.1;"],
          "stop\nEOF\n"⟩ := by
  refine ⟨rfl, fun go => ?_⟩
  rw [Generator.generate_of_override go (by decide)]
  decide +kernel

end CloudVinyl.Admin
