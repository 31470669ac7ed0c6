import CloudVinyl.Lib.Regexp
import CloudVinyl.Lib.Table

set_option relaxedAutoImplicit false
set_option autoImplicit false

/-!
# Matchers and relabelling of the query language of Prometheus

A series is selected by a list of matchers, each of which compares a label with a text or matches
it against an anchored regular expression. The function `label_replace` matches one label against
such an expression and sets another one to what a template makes of the groups. A label that a
series does not have is empty.

## Main definitions

* `PromQL.quote` — a text as a string literal.
* `PromQL.Matcher`, `PromQL.readMatchers` — a matcher, and a list of matchers read from its text.
* `PromQL.LabelReplace` — a call of `label_replace`.

## Main results

* `PromQL.read_equal`, `PromQL.read_regexp` — a matcher with a quoted text is read as the matcher
  for that text.
-/

namespace PromQL

/-- The verb `%q` for texts of printable ASCII characters. -/
def quote (s : Text) : Text :=
  '"' :: (s.flatMap (fun c => if c = '\\' ∨ c = '"' then ['\\', c] else [c]) ++ ['"'])

/-! ## Matchers -/

/-- The operators of label matchers. -/
inductive MatchOp where
  | equal
  | notEqual
  | regexp
  | notRegexp
  deriving DecidableEq

/-- A matcher for one label. -/
structure Matcher where
  label : Text
  op : MatchOp
  value : Text
  deriving DecidableEq

/-- The value of a label of a series. -/
def labelValue (labels : Table Text Text) (label : Text) : Text := (labels label).getD []

/-- The series with these labels passes the matcher. -/
def Matcher.selects (m : Matcher) (labels : Table Text Text) : Bool :=
  let v := labelValue labels m.label
  match m.op with
  | .equal => decide (v = m.value)
  | .notEqual => decide (v ≠ m.value)
  | .regexp => (Regexp.find m.value v).isSome
  | .notRegexp => !(Regexp.find m.value v).isSome

/-- The characters of the name of a label. -/
def isLabelNameChar (c : Char) : Bool := c.isAlphanum || c = '_'

/-- What has been read of a matcher. -/
inductive Reading where
  | label (name : Text)
  | equals (name : Text)
  | bang (name : Text)
  | opening (name : Text) (op : MatchOp)
  | value (name : Text) (op : MatchOp) (text : Text)
  | escape (name : Text) (op : MatchOp) (text : Text)
  | done

/-- The matchers from a state of the reader on; escapes other than of a quote and of a backslash
are left out. -/
def read : Reading → Text → Option (List Matcher)
  | .done, [] => some []
  | _, [] => none
  | .label name, c :: s =>
    if c = '=' then read (.equals name) s
    else if c = '!' then read (.bang name) s
    else if isLabelNameChar c then read (.label (name ++ [c])) s
    else none
  | .equals name, c :: s =>
    if c = '~' then read (.opening name .regexp) s
    else if c = '"' then read (.value name .equal []) s
    else none
  | .bang name, c :: s =>
    if c = '~' then read (.opening name .notRegexp) s
    else if c = '=' then read (.opening name .notEqual) s
    else none
  | .opening name op, c :: s => if c = '"' then read (.value name op []) s else none
  | .value name op text, c :: s =>
    if c = '\\' then read (.escape name op text) s
    else if c = '"' then (read .done s).map (⟨name, op, text⟩ :: ·)
    else read (.value name op (text ++ [c])) s
  | .escape name op text, c :: s =>
    if c = '\\' ∨ c = '"' then read (.value name op (text ++ [c])) s else none
  | .done, c :: s => if c = ',' then read (.label []) s else none

/-- A list of matchers without the braces around it. -/
def readMatchers (s : Text) : Option (List Matcher) := read (.label []) s

section Reading

variable (name : Text) (op : MatchOp) (text : Text) (c : Char) (s : Text)

/-- The next character of a value, which may be escaped. -/
lemma read_value_cons : read (.value name op text) (c :: s) =
    if c = '\\' then read (.escape name op text) s
    else if c = '"' then (read .done s).map (⟨name, op, text⟩ :: ·)
    else read (.value name op (text ++ [c])) s := rfl

/-- Behind a backslash there is a backslash or a quote. -/
lemma read_escape_cons : read (.escape name op text) (c :: s) =
    if c = '\\' ∨ c = '"' then read (.value name op (text ++ [c])) s else none := rfl

/-- A quote ends the value. -/
lemma read_value_end : read (.value name op text) ('"' :: s) =
    (read .done s).map (⟨name, op, text⟩ :: ·) := rfl

/-- A literal is read as the text that was quoted. -/
lemma read_value_quote (v : Text) :
    read (.value name op text) ((quote v).tail ++ s) =
      (read .done s).map (⟨name, op, text ++ v⟩ :: ·) := by
  have hloop : ∀ v text, read (.value name op text)
      (v.flatMap (fun c => if c = '\\' ∨ c = '"' then ['\\', c] else [c]) ++ '"' :: s) =
        (read .done s).map (⟨name, op, text ++ v⟩ :: ·) := by
    intro v
    induction v with
    | nil =>
      intro text
      rw [List.append_nil]
      exact read_value_end name op text s
    | cons c v ih =>
      intro text
      rw [List.flatMap_cons, List.append_assoc]
      split_ifs with hc
      · rw [List.cons_append, read_value_cons, if_pos rfl, List.singleton_append, read_escape_cons,
          if_pos hc, ih, List.append_assoc]
        rfl
      · obtain ⟨hescape, hquote⟩ := not_or.1 hc
        rw [List.singleton_append, read_value_cons, if_neg hescape, if_neg hquote, ih,
          List.append_assoc]
        rfl
  rw [← hloop v text, quote, List.tail_cons, List.append_assoc]
  rfl

/-- The next character of a label name, or of its operator. -/
lemma read_label_cons : read (.label name) (c :: s) =
    if c = '=' then read (.equals name) s
    else if c = '!' then read (.bang name) s
    else if isLabelNameChar c then read (.label (name ++ [c])) s
    else none := rfl

/-- The name of a label is read up to its operator. -/
lemma read_label_append {name : Text} (h : name.all isLabelNameChar = true) (before : Text) :
    read (.label before) (name ++ '=' :: s) = read (.equals (before ++ name)) s := by
  induction name generalizing before with
  | nil =>
    rw [List.append_nil, List.nil_append, read_label_cons, if_pos rfl]
  | cons c name ih =>
    rw [List.all_cons, Bool.and_eq_true] at h
    have hequals : c ≠ '=' := by
      rintro rfl
      exact absurd h.1 (by decide)
    have hbang : c ≠ '!' := by
      rintro rfl
      exact absurd h.1 (by decide)
    rw [List.cons_append, read_label_cons, if_neg hequals, if_neg hbang, if_pos h.1, ih h.2,
      List.append_assoc]
    rfl

/-- A matcher that compares a label with a text. -/
lemma read_equal {name : Text} (h : name.all isLabelNameChar = true) (v : Text) :
    read (.label []) (name ++ '=' :: (quote v ++ s)) =
      (read .done s).map (⟨name, .equal, v⟩ :: ·) := by
  rw [read_label_append _ h]
  exact read_value_quote name .equal [] s v

/-- A matcher that matches a label against an expression. -/
lemma read_regexp {name : Text} (h : name.all isLabelNameChar = true) (v : Text) :
    read (.label []) (name ++ '=' :: '~' :: (quote v ++ s)) =
      (read .done s).map (⟨name, .regexp, v⟩ :: ·) := by
  rw [read_label_append _ h]
  exact read_value_quote name .regexp [] s v

end Reading

/-! ## Relabelling -/

/-- What a template makes of the groups of a match; `pending` is the name behind a dollar sign, as
far as it has been read. Names in braces are left out. -/
def expand (groups : ℕ → Text) (pending : Option Text) : Text → Text
  | [] => (pending.map (reference groups)).getD []
  | c :: s =>
    match pending with
    | none => if c = '$' then expand groups (some []) s else c :: expand groups none s
    | some name =>
      if isLabelNameChar c then expand groups (some (name ++ [c])) s
      else if name = [] ∧ c = '$' then '$' :: expand groups none s
      else
        reference groups name ++
          (if c = '$' then expand groups (some []) s else c :: expand groups none s)
where
  /-- The text of a group by its number; a name that is no number is that of no group, and without
  a name the dollar sign stands for itself. -/
  reference (groups : ℕ → Text) (name : Text) : Text :=
    if name = [] then "$" else ((Text.digits name).map groups).getD []

/-- The arguments of `label_replace` behind the expression. -/
structure LabelReplace where
  dst : Text
  replacement : Text
  src : Text
  regex : Text

/-- The arguments as they stand behind the expression. -/
def LabelReplace.arguments (r : LabelReplace) : Text :=
  ", " ++ quote r.dst ++ ", " ++ quote r.replacement ++ ", " ++ quote r.src ++ ", " ++
    quote r.regex ++ ")"

/-- The call with its expression. -/
def LabelReplace.render (r : LabelReplace) (expr : Text) : Text :=
  "label_replace(" ++ expr ++ r.arguments

/-- The labels of a series of the result. -/
def LabelReplace.apply (r : LabelReplace) (labels : Table Text Text) : Table Text Text :=
  match Regexp.find r.regex (labelValue labels r.src) with
  | none => labels
  | some groups =>
    let v := expand groups none r.replacement
    if v = [] then labels.delete r.dst else labels.set r.dst v

/-- A label is replaced if the pattern is found. -/
lemma LabelReplace.apply_of_find {r : LabelReplace} {labels : Table Text Text} {groups : ℕ → Text}
    (h : Regexp.find r.regex (labelValue labels r.src) = some groups)
    (hne : expand groups none r.replacement ≠ []) :
    r.apply labels r.dst = some (expand groups none r.replacement) := by
  rw [LabelReplace.apply, h]
  simp only [hne, if_false, Table.set, Function.update_self]

end PromQL
