import CloudVinyl.Lib.Strings

set_option relaxedAutoImplicit false
set_option autoImplicit false

/-!
# The admin client of the agent

`varnishAdminClient` of `internal/agent/admin.go` opens a fresh connection to the varnishd
command line for every command, writes the command and reads one answer. The definitions here
are the bytes it writes after the authentication, and the two readings of such a stream that
its framing relies on: lines split into words, and here-documents.

## Main definitions

* `Admin.sendCommand`, `Admin.ban`, `Admin.sendInlineVCL` — the bytes of a command.
* `Admin.Blanks` — what the reader takes for blanks between words.
* `Admin.OneCommand` — a stream that is one command with the given words.
* `Admin.readInline` — a command line followed by a here-document.
-/

namespace CloudVinyl.Admin

/-! ## What is written -/

/-- `sendCommand`: the command and a newline. -/
def sendCommand (cmd : Text) : Text := cmd ++ "\n"

/-- `Ban`: the expression is put behind the word `ban` as it is. -/
def ban (expression : Text) : Text := sendCommand ("ban " ++ expression)

/-- `vcl.use` of a name. -/
def vclUse (name : Text) : Text := sendCommand ("vcl.use " ++ name)

/-- `vcl.discard` of a name. -/
def vclDiscard (name : Text) : Text := sendCommand ("vcl.discard " ++ name)

/-- `sendInlineVCL`: the VCL as a here-document that ends at the word `EOF`. -/
def sendInlineVCL (cmd name vcl : Text) : Text :=
  cmd ++ " " ++ name ++ " << EOF\n" ++ vcl ++ "\nEOF\n"

/-! ## How it is read -/

/-- The characters the reader takes for blanks. A space is one; a printable character is not. -/
structure Blanks where
  isBlank : Char → Bool
  space : isBlank ' ' = true
  visible : ∀ c : Char, '!' ≤ c → c ≤ '~' → isBlank c = false

/-- A visible character is no blank. -/
lemma Blanks.not_blank (B : Blanks) {w : Text} (h : w.all (fun c => '!' ≤ c && c ≤ '~') = true) :
    ∀ c ∈ w, B.isBlank c = false := by
  intro c hc
  have hvis : '!' ≤ c ∧ c ≤ '~' := by simpa using List.all_eq_true.1 h c hc
  exact B.visible c hvis.1 hvis.2

/-- The space and the tab. -/
def Blanks.spaceTab : Blanks where
  isBlank c := c = ' ' || c = '\t'
  space := rfl
  visible := by
    intro c h _
    have hs : c ≠ ' ' := by rintro rfl; exact absurd h (by decide)
    have ht : c ≠ '\t' := by rintro rfl; exact absurd h (by decide)
    simp [hs, ht]

/-- The stream is exactly one line, and the words of that line are `tokens`. -/
def OneCommand (B : Blanks) (stream : Text) (tokens : List Text) : Prop :=
  ∃ line, Words.readLines '\n' stream = ([line], []) ∧ Words.words B.isBlank line = tokens

/-- The lines of a here-document up to the first one equal to `delim`, and the lines after it.
The last piece of the stream has no newline behind it and is no line. -/
def hereDocument (delim : Text) : List Text → Option (List Text × List Text)
  | [] => none
  | [_] => none
  | line :: rest =>
    if line = delim then some ([], rest)
    else (hereDocument delim rest).map fun doc => (line :: doc.1, doc.2)

/-- What the reader makes of a command with a here-document. -/
structure Inline where
  /-- The words of the command line in front of the document. -/
  command : List Text
  /-- The lines of the document. -/
  document : List Text
  /-- The bytes after the terminator line. -/
  rest : Text
  deriving DecidableEq

/-- Read a command line that announces a here-document ended by `EOF`, and the document. -/
def readInline (B : Blanks) (stream : Text) : Option Inline :=
  match stream.splitOn '\n' with
  | [] => none
  | first :: pieces =>
    match (Words.words B.isBlank first).reverse with
    | delim :: op :: command =>
      if delim = "EOF" ∧ op = "<<" then
        (hereDocument delim pieces).map fun doc =>
          ⟨command.reverse, doc.1, ['\n'].intercalate doc.2⟩
      else none
    | _ => none

end CloudVinyl.Admin
