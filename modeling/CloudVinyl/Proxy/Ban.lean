import CloudVinyl.Lib.Patterns

set_option relaxedAutoImplicit false
set_option autoImplicit false

/-!
# Ban expressions at the invalidation proxy

`ValidateBanExpression` of `internal/proxy/ban_allowlist.go` and the handler `handleBAN` of
`internal/proxy/handler.go` in front of it. An expression passes if it matches the pattern
`^\s*(\S+)\s+(~|!~|==|!=)\s+(\S+)\s*$`, its left-hand side is one of `obj.http.*` and its
right-hand side does not match everything.

The pattern is anchored and `\s` and `\S` exclude each other, so a text matches in at most one
way: its words are the three groups.

## Main definitions

* `Proxy.BanMatch` — the pattern, read as a decomposition of the text.
* `Proxy.banExprPattern` — the groups of the match.
* `Proxy.validateBanExpression`, `Proxy.handleBAN` — the validator and the handler.

## Main results

* `Proxy.banExprPattern_eq_some_iff` — the groups are those of the decomposition.
-/

namespace CloudVinyl.Proxy

/-! ## The pattern -/

/-- The alternatives of the operator group. -/
def banOps : List Text := ["~", "!~", "==", "!="]

/-- A text that `\s*` matches. -/
def Spaces (s : Text) : Prop := ∀ c ∈ s, Patterns.space c = true

/-- A text that `\S+` matches. -/
def Solid (w : Text) : Prop := w ≠ [] ∧ ∀ c ∈ w, Patterns.space c = false

/-- The pattern `^\s*(\S+)\s+(~|!~|==|!=)\s+(\S+)\s*$` with its three groups. -/
def BanMatch (expr lhs op rhs : Text) : Prop :=
  ∃ s₀ s₁ s₂ s₃, expr = s₀ ++ (lhs ++ (s₁ ++ (op ++ (s₂ ++ (rhs ++ s₃))))) ∧
    Spaces s₀ ∧ Solid lhs ∧ (Spaces s₁ ∧ s₁ ≠ []) ∧ op ∈ banOps ∧ (Spaces s₂ ∧ s₂ ≠ []) ∧
    Solid rhs ∧ Spaces s₃

/-- `banExprPattern.FindStringSubmatch`: the three groups, if the text matches. -/
def banExprPattern (expr : Text) : Option (Text × Text × Text) :=
  match Words.words Patterns.space expr with
  | [lhs, op, rhs] => if op ∈ banOps then some (lhs, op, rhs) else none
  | _ => none

/-- The operators have no white space. -/
lemma solid_of_mem_banOps {op : Text} (h : op ∈ banOps) : Solid op := by
  have hall : banOps.all (fun op => !op.isEmpty && op.all (!Patterns.space ·)) = true := by decide
  simpa [Solid] using List.all_eq_true.1 hall op h

/-- A text has the three words of a match as its words. -/
lemma BanMatch.words_eq {expr lhs op rhs : Text} (h : BanMatch expr lhs op rhs) :
    Words.words Patterns.space expr = [lhs, op, rhs] := by
  obtain ⟨s₀, s₁, s₂, s₃, rfl, h₀, hl, ⟨h₁, n₁⟩, hop, ⟨h₂, n₂⟩, hr, h₃⟩ := h
  have ho := solid_of_mem_banOps hop
  rw [Words.words_append_left _ _ h₀, Words.words_append_append _ _ hl.1 n₁ hl.2 h₁,
    Words.words_append_append _ _ ho.1 n₂ ho.2 h₂]
  cases s₃ with
  | nil => rw [List.append_nil, Words.words_of_forall_not _ hr.1 hr.2]
  | cons c s₃ =>
    have hw := Words.words_append_append Patterns.space [] hr.1 (List.cons_ne_nil c s₃) hr.2 h₃
    rw [List.append_nil] at hw
    rw [hw, Words.words_nil]

/-- What follows a word up to the next word is a nonempty run of separators. -/
lemma spaces_ne_nil {s w r : Text} (hw : Solid w)
    (hhead : ∀ c ∈ (s ++ (w ++ r)).head?, Patterns.space c = true) : s ≠ [] := by
  rintro rfl
  obtain ⟨c, w', rfl⟩ := List.exists_cons_of_ne_nil hw.1
  have hc := hw.2 c (by simp)
  rw [hhead c (by simp)] at hc
  exact Bool.noConfusion hc

/-- **The groups of the pattern are those of the decomposition.** In particular a text matches in
at most one way.

**Proof sketch.** A match has the groups as its words. Conversely the words stand one after the
other, separated by nonempty runs of spaces (`Words.words_eq_cons_iff`). -/
theorem banExprPattern_eq_some_iff {expr lhs op rhs : Text} :
    banExprPattern expr = some (lhs, op, rhs) ↔ BanMatch expr lhs op rhs := by
  constructor
  · intro h
    unfold banExprPattern at h
    split at h
    · rename_i lhs' op' rhs' hw
      split_ifs at h with hop
      obtain ⟨rfl, rfl, rfl⟩ : lhs' = lhs ∧ op' = op ∧ rhs' = rhs := by simpa using h
      obtain ⟨s₀, r₀, rfl, h₀, hl, hlp, hh₀, hw⟩ := (Words.words_eq_cons_iff Patterns.space).1 hw
      obtain ⟨s₁, r₁, rfl, h₁, ho, hop', hh₁, hw⟩ := (Words.words_eq_cons_iff Patterns.space).1 hw
      obtain ⟨s₂, s₃, rfl, h₂, hr, hrp, -, hw⟩ := (Words.words_eq_cons_iff Patterns.space).1 hw
      exact ⟨s₀, s₁, s₂, s₃, rfl, h₀, ⟨hl, hlp⟩, ⟨h₁, spaces_ne_nil ⟨ho, hop'⟩ hh₀⟩, hop,
        ⟨h₂, spaces_ne_nil ⟨hr, hrp⟩ hh₁⟩, ⟨hr, hrp⟩, (Words.words_eq_nil_iff Patterns.space).1 hw⟩
    · simp at h
  · intro h
    have hop : op ∈ banOps := by
      obtain ⟨_, _, _, _, _, _, _, _, hop, _⟩ := h
      exact hop
    simp only [banExprPattern, h.words_eq, if_pos hop]

/-! ## The validator -/

/-- Why an expression is rejected. -/
inductive BanError where
  | empty
  | format (expr : Text)
  | lhs (lhs : Text)
  | rhs (rhs : Text)
  deriving DecidableEq

/-- The text of the error; `quote` is the verb `%q`. -/
def BanError.message (quote : Text → Text) : BanError → Text
  | .empty => "ban expression must not be empty"
  | .format expr =>
    "ban expression " ++ quote expr ++ " does not match expected format: <LHS> <op> <RHS>"
  | .lhs s =>
    "ban expression LHS " ++ quote s ++ " is not allowed; only obj.http.* is permitted"
  | .rhs s =>
    "ban expression RHS " ++ quote s ++
      " matches everything; this would invalidate the entire cache"

/-- The right-hand sides that match everything. -/
def wildcardRHS : List Text := [".*", "."]

/-- `ValidateBanExpression`: nothing if the expression is acceptable, else the reason. -/
def validateBanExpression (expr : Text) : Option BanError :=
  if Text.trimSpace expr = [] then some .empty
  else
    match banExprPattern expr with
    | none => some (.format expr)
    | some (lhs, _, rhs) =>
      if !lhs.hasPrefix "obj.http." then some (.lhs lhs)
      else if rhs ∈ wildcardRHS then some (.rhs rhs)
      else none

/-- An accepted expression matches the pattern. -/
lemma exists_match_of_accepted {expr : Text} (h : validateBanExpression expr = none) :
    ∃ lhs op rhs, banExprPattern expr = some (lhs, op, rhs) := by
  unfold validateBanExpression at h
  split_ifs at h
  split at h
  · simp at h
  · rename_i lhs op rhs hm
    exact ⟨lhs, op, rhs, hm⟩

/-! ## The handler -/

/-- What `handleBAN` reads of a request: the method, the header `X-Ban-Expression` (empty if
absent) and the expression in the JSON body, if the body decodes. -/
structure BanRequest where
  method : Text
  header : Text
  body : Option Text

/-- The expression of a request: from the header of a `BAN`, from the body of a `POST`. -/
def BanRequest.expression (r : BanRequest) : Except (ℕ × Text) Text :=
  if r.method = "BAN" then
    if r.header = [] then .error (400, "X-Ban-Expression header is required") else .ok r.header
  else if r.method = "POST" then
    match r.body with
    | none => .error (400, "invalid JSON body")
    | some expression => .ok expression
  else .error (405, "method not allowed")

/-- The checks on an expression before it is broadcast; `quote` is the verb `%q`. -/
def checkBanExpression (quote : Text → Text) (expression : Text) : Except (ℕ × Text) Text :=
  if expression = [] then .error (400, "ban expression must not be empty")
  else
    match validateBanExpression expression with
    | some err => .error (400, "invalid ban expression: " ++ err.message quote)
    | none => .ok expression

/-- `handleBAN`: the expression broadcast to the agents, or the status and message of the
refusal. -/
def handleBAN (quote : Text → Text) (r : BanRequest) : Except (ℕ × Text) Text :=
  r.expression >>= checkBanExpression quote

/-- Whatever the handler broadcasts was accepted by the validator. -/
theorem handleBAN_accepted {quote : Text → Text} {r : BanRequest} {expression : Text}
    (h : handleBAN quote r = .ok expression) : validateBanExpression expression = none := by
  unfold handleBAN at h
  cases he : r.expression with
  | error err =>
    rw [he] at h
    exact absurd h (by simp [bind, Except.bind])
  | ok e =>
    rw [he] at h
    change checkBanExpression quote e = .ok expression at h
    unfold checkBanExpression at h
    split_ifs at h
    split at h
    · simp at h
    · rename_i hv
      obtain rfl := Except.ok.inj h
      exact hv

end CloudVinyl.Proxy
