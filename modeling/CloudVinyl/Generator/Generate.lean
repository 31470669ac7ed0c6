import CloudVinyl.Generator.Templates

set_option relaxedAutoImplicit false
set_option autoImplicit false

/-!
# The generated VCL

The templates `main`, `backends` and `acls`, and `Generate` of
`internal/generator/generator.go`. The text is a list of lines: the header, the declarations of
backends and access lists, and the subroutines.

The backends of a VCL are those of the endpoints, then those of the peers, then the placeholders
of groups without endpoints; the directors are created in `vcl_init`. All of them share one
namespace.

## Main definitions

* `Generator.generate` — the text and its hash.
* `Generator.TemplateData.symbols` — the names of all backends and directors.

## Main results

* `Generator.symbols_eq_declared` — these are the names that the text declares.
-/

namespace CloudVinyl.Generator

open Vcl

/-- Every line with its newline. -/
def unlines (lines : List Text) : Text := lines.flatMap (· ++ "\n")

/-- An empty line. -/
def blank : Text := []

/-! ## Backends -/

/-- A line that is there if the value is. -/
def lineIf (present : Bool) (line : Text) : List Text := if present then [line] else []

/-- The probe of a backend with a probe URL. -/
def probeLines (b : BackendDef) : List Text :=
  if b.probeURL = [] then []
  else
    [("    .probe = \x7b" : Text),
      "        .url = \"" ++ b.probeURL ++ "\";",
      "        .interval = " ++ b.probeInterval ++ ";",
      "        .timeout = " ++ b.probeTimeout ++ ";",
      "        .window = " ++ Text.decimalInt b.probeWindow ++ ";",
      "        .threshold = " ++ Text.decimalInt b.probeThreshold ++ ";"] ++
    lineIf (decide (b.probeExpectedResponse ≠ 0))
      ("        .expected_response = " ++ Text.decimalInt b.probeExpectedResponse ++ ";") ++
    [("    \x7d" : Text)]

/-- The first lines of the declaration of a backend, after an empty line. -/
def backendHead (b : BackendDef) : List Text :=
  [blank,
    "backend " ++ b.name ++ " \x7b",
    "    .host = \"" ++ b.ip ++ "\";",
    "    .port = \"" ++ Text.decimalInt b.port ++ "\";"]

/-- The backend of an endpoint. -/
def endpointBackend (b : BackendDef) : List Text :=
  backendHead b ++ probeLines b ++
    lineIf (!b.connectTimeout.isEmpty) ("    .connect_timeout = " ++ b.connectTimeout ++ ";") ++
    lineIf (!b.firstByteTimeout.isEmpty)
      ("    .first_byte_timeout = " ++ b.firstByteTimeout ++ ";") ++
    lineIf (!b.betweenBytesTimeout.isEmpty)
      ("    .between_bytes_timeout = " ++ b.betweenBytesTimeout ++ ";") ++
    lineIf (decide (b.maxConnections ≠ 0))
      ("    .max_connections = " ++ Text.decimalInt b.maxConnections ++ ";") ++
    [("\x7d" : Text)]

/-- The backend of a peer. -/
def peerBackend (b : BackendDef) : List Text := backendHead b ++ [("\x7d" : Text)]

/-- The placeholder of a group without endpoints. -/
def placeholderBackend (g : BackendGroup) : List Text :=
  [blank,
    "# " ++ g.name ++ " has no endpoints: a backend that is sick from the start keeps",
    "# the director non-empty and answers 503 until endpoints appear.",
    "backend " ++ g.placeholder ++ " \x7b",
    "    .host = \"127.0.0.1\";",
    "    .port = \"1\";",
    "    .probe = \x7b",
    "        .interval = 1h;",
    "        .timeout = 1s;",
    "        .window = 1;",
    "        .threshold = 1;",
    "        .initial = 0;",
    "    \x7d",
    "\x7d"]

/-- The backends of all endpoints. -/
def TemplateData.endpointDefs (d : TemplateData) : List BackendDef :=
  d.backendGroups.flatMap (·.backends)

/-- The peers that are declared: none without a cluster. -/
def TemplateData.declaredPeers (d : TemplateData) : List BackendDef :=
  if d.hasCluster then d.peerDefs else []

/-- The groups that have a placeholder. -/
def TemplateData.emptyGroups (d : TemplateData) : List BackendGroup :=
  d.backendGroups.filter fun g => !g.placeholder.isEmpty

/-- The backends: those of endpoints, of peers and the placeholders. -/
def backendLines (d : TemplateData) : List Text :=
  d.endpointDefs.flatMap endpointBackend ++
    ((if d.hasCluster then [blank] else []) ++ d.declaredPeers.flatMap peerBackend ++
      blank :: d.emptyGroups.flatMap placeholderBackend)

/-- The directors that `vcl_init` creates. -/
def TemplateData.directors (d : TemplateData) : List Text :=
  d.backendGroups.map (·.name) ++ if d.hasCluster then [d.directorName] else []

/-- The names of all backends and directors of the VCL, in the order of the text. -/
def TemplateData.symbols (d : TemplateData) : List Text :=
  d.endpointDefs.map (·.name) ++ d.declaredPeers.map (·.name) ++
    d.emptyGroups.map (·.placeholder) ++ d.directors

/-! ## The declared names -/

/-- The word behind a keyword at the beginning of a line. -/
def wordAfter (keyword line : Text) : Option Text :=
  if keyword.isPrefixOf line then some ((line.drop keyword.length).takeWhile (· ≠ ' ')) else none

/-- The name that a statement of `vcl_init` creates, foreign code aside. -/
def newName : Stmt → Option Text
  | .other text => wordAfter "new " text
  | _ => none

/-- The word behind a keyword. -/
lemma wordAfter_keyword (keyword : Text) {name : Text} (hname : ' ' ∉ name) (rest : Text) :
    wordAfter keyword (keyword ++ (name ++ ' ' :: rest)) = some name := by
  have hword : (name ++ ' ' :: rest).takeWhile (· ≠ ' ') = name := by
    rw [List.takeWhile_append_of_pos, List.takeWhile_cons_of_neg (by simp), List.append_nil]
    intro c hc
    exact decide_eq_true fun h => hname (h ▸ hc)
  rw [wordAfter, if_pos (List.isPrefixOf_iff_prefix.2 (List.prefix_append _ _)), List.drop_left,
    hword]

/-- A line that begins with another letter. -/
lemma wordAfter_of_head {c : Char} {keyword line : Text} (h : line.head? ≠ some c) :
    wordAfter (c :: keyword) line = none := by
  refine if_neg fun hpre => h ?_
  obtain ⟨rest, rfl⟩ := List.isPrefixOf_iff_prefix.1 hpre
  rfl

/-- A call of a method does not begin with a keyword. -/
lemma wordAfter_call {keyword name : Text} (hblank : ' ' ∈ keyword) (hdot : '.' ∉ keyword)
    (hname : ' ' ∉ name) (rest : Text) : wordAfter keyword (name ++ '.' :: rest) = none := by
  refine if_neg fun hpre => hname ?_
  have hname := Words.prefix_of_prefix_append_cons hdot (List.isPrefixOf_iff_prefix.1 hpre)
  exact hname.subset hblank

/-- The name that a line declares. -/
lemma wordAfter_backend {name : Text} (hname : ' ' ∉ name) :
    wordAfter "backend " ("backend " ++ name ++ " \x7b") = some name := by
  rw [List.append_assoc]
  exact wordAfter_keyword "backend " hname "\x7b"

/-- An indented line, a comment and a closing brace declare no backend. -/
lemma wordAfter_backend_of_head {line : Text} (h : decide (line.head? ≠ some 'b') = true) :
    wordAfter "backend " line = none := wordAfter_of_head (of_decide_eq_true h)

/-- A line that may be left out and begins otherwise declares nothing. -/
lemma filterMap_lineIf (present : Bool) {line : Text}
    (h : decide (line.head? ≠ some 'b') = true) :
    (lineIf present line).filterMap (wordAfter "backend ") = [] := by
  cases present with
  | false => rfl
  | true => exact List.filterMap_cons_none (wordAfter_backend_of_head h)

/-- Lines of which none begins like a declaration. -/
lemma filterMap_of_heads {lines : List Text} (h : lines.all (fun l => l.head? ≠ some 'b') = true) :
    lines.filterMap (wordAfter "backend ") = [] := by
  refine List.filterMap_eq_nil_iff.2 fun line hline => wordAfter_backend_of_head ?_
  exact List.all_eq_true.1 h line hline

/-- The head of a backend declares its name. -/
lemma filterMap_backendHead {b : BackendDef} (hname : ' ' ∉ b.name) :
    (backendHead b).filterMap (wordAfter "backend ") = [b.name] := by
  unfold backendHead
  rw [List.filterMap_cons_none (wordAfter_backend_of_head rfl),
    List.filterMap_cons_some (wordAfter_backend hname), filterMap_of_heads rfl]

/-- A probe declares nothing. -/
lemma filterMap_probeLines (b : BackendDef) :
    (probeLines b).filterMap (wordAfter "backend ") = [] := by
  unfold probeLines
  split_ifs
  · rfl
  · rw [List.filterMap_append, List.filterMap_append, filterMap_of_heads rfl,
      filterMap_lineIf _ rfl, filterMap_of_heads rfl, List.append_nil, List.append_nil]

/-- The backend of an endpoint declares its name. -/
lemma filterMap_endpointBackend {b : BackendDef} (hname : ' ' ∉ b.name) :
    (endpointBackend b).filterMap (wordAfter "backend ") = [b.name] := by
  unfold endpointBackend
  simp only [List.filterMap_append]
  rw [filterMap_backendHead hname, filterMap_probeLines, filterMap_lineIf _ rfl,
    filterMap_lineIf _ rfl, filterMap_lineIf _ rfl, filterMap_lineIf _ rfl,
    filterMap_of_heads rfl]
  rfl

/-- The backend of a peer declares its name. -/
lemma filterMap_peerBackend {b : BackendDef} (hname : ' ' ∉ b.name) :
    (peerBackend b).filterMap (wordAfter "backend ") = [b.name] := by
  unfold peerBackend
  rw [List.filterMap_append, filterMap_backendHead hname, filterMap_of_heads rfl, List.append_nil]

/-- A placeholder declares its name. -/
lemma filterMap_placeholderBackend {g : BackendGroup} (hname : ' ' ∉ g.placeholder) :
    (placeholderBackend g).filterMap (wordAfter "backend ") = [g.placeholder] := by
  unfold placeholderBackend
  rw [List.filterMap_cons_none (wordAfter_backend_of_head rfl),
    List.filterMap_cons_none (wordAfter_backend_of_head rfl),
    List.filterMap_cons_none (wordAfter_backend_of_head rfl),
    List.filterMap_cons_some (wordAfter_backend hname), filterMap_of_heads rfl]

/-- The backends that the text declares. -/
lemma filterMap_backendLines {d : TemplateData} (hnames : ∀ n ∈ d.symbols, ' ' ∉ n) :
    (backendLines d).filterMap (wordAfter "backend ") = d.endpointDefs.map (·.name) ++
      (d.declaredPeers.map (·.name) ++ d.emptyGroups.map (·.placeholder)) := by
  have hgap : (if d.hasCluster then [blank] else []).filterMap (wordAfter "backend ") = [] := by
    split_ifs <;> rfl
  have hendpoints : ∀ b ∈ d.endpointDefs,
      (endpointBackend b).filterMap (wordAfter "backend ") = [b.name] := fun b hb =>
    filterMap_endpointBackend (hnames _ (by simp [TemplateData.symbols, List.mem_map_of_mem hb]))
  have hpeers : ∀ b ∈ d.declaredPeers,
      (peerBackend b).filterMap (wordAfter "backend ") = [b.name] := fun b hb =>
    filterMap_peerBackend (hnames _ (by simp [TemplateData.symbols, List.mem_map_of_mem hb]))
  have hplaceholders : ∀ g ∈ d.emptyGroups,
      (placeholderBackend g).filterMap (wordAfter "backend ") = [g.placeholder] := fun g hg =>
    filterMap_placeholderBackend
      (hnames _ (by simp [TemplateData.symbols, List.mem_map_of_mem hg]))
  unfold backendLines
  rw [List.filterMap_append, List.filterMap_append, List.filterMap_append,
    List.filterMap_cons_none (wordAfter_backend_of_head rfl), hgap, List.nil_append,
    List.filterMap_flatMap, List.filterMap_flatMap, List.filterMap_flatMap,
    List.flatMap_congr hendpoints, List.flatMap_congr hpeers, List.flatMap_congr hplaceholders,
    ← List.map_eq_flatMap, ← List.map_eq_flatMap, ← List.map_eq_flatMap]

/-- A call of a method of a director creates nothing. -/
lemma newName_call {name : Text} (hname : ' ' ∉ name) (rest : Text) :
    newName (.other (name ++ '.' :: rest)) = none :=
  wordAfter_call (by decide) (by decide) hname rest

/-- A new director declares its name. -/
lemma filterMap_newDirector {name : Text} (hname : ' ' ∉ name) (kind weight : Text)
    (backends : List Text) :
    (newDirector name kind weight backends).filterMap newName = [name] := by
  have hnew : newName (.other ("new " ++ name ++ " = directors." ++ kind ++ "();")) =
      some name := by
    have htext : "new " ++ name ++ " = directors." ++ kind ++ "();" =
        "new " ++ (name ++ ' ' :: ("= directors." ++ kind ++ "();")) := by
      simp only [List.append_assoc]
      rfl
    rw [htext]
    exact wordAfter_keyword "new " hname _
  have hadd : (backends.map fun b =>
      (.other (name ++ ".add_backend(" ++ b ++ weight ++ ");") : Stmt)).filterMap newName = [] := by
    refine List.filterMap_eq_nil_iff.2 fun st hst => ?_
    obtain ⟨b, -, rfl⟩ := List.mem_map.1 hst
    rw [List.append_assoc, List.append_assoc, List.append_assoc]
    exact newName_call hname _
  unfold newDirector
  rw [List.filterMap_cons_some hnew, hadd]

/-- Statements that create nothing may follow. -/
lemma filterMap_append_of_nil {name : Text} {l m : List Stmt} (hl : l.filterMap newName = [name])
    (hm : m.filterMap newName = []) : (l ++ m).filterMap newName = [name] := by
  rw [List.filterMap_append, hl, hm, List.append_nil]

/-- A setting of a director declares nothing. -/
lemma filterMap_setting {name : Text} (hname : ' ' ∉ name) (p : Prop) [Decidable p]
    (method arg : Text) :
    (if p then [] else [(.other (name ++ '.' :: method ++ arg ++ ");") : Stmt)]).filterMap
      newName = [] := by
  split_ifs
  · rfl
  · rw [List.append_assoc, List.append_assoc]
    exact List.filterMap_cons_none (newName_call hname _)

/-- Neither does its reconfiguration. -/
lemma filterMap_reconfigure {name : Text} (hname : ' ' ∉ name) :
    [(.other (name ++ ".reconfigure();") : Stmt)].filterMap newName = [] :=
  List.filterMap_cons_none (newName_call hname _)

/-- The director of a group declares its name. -/
lemma filterMap_groupDirector (go : Go) {g : BackendGroup} (hname : ' ' ∉ g.name) :
    (groupDirector go g).filterMap newName = [g.name] := by
  unfold groupDirector
  split
  · refine filterMap_append_of_nil (filterMap_append_of_nil (filterMap_append_of_nil ?_ ?_) ?_)
      (filterMap_reconfigure hname)
    · exact filterMap_newDirector hname _ _ _
    · exact filterMap_setting hname _ "set_warmup(" _
    · exact filterMap_setting hname _ "set_rampup(" _
  all_goals exact filterMap_newDirector hname _ _ _

/-- The director of the cluster declares its name. -/
lemma filterMap_clusterDirector (go : Go) {d : TemplateData} (hname : ' ' ∉ d.directorName) :
    (clusterDirector go d).filterMap newName = [d.directorName] := by
  unfold clusterDirector
  refine filterMap_append_of_nil (filterMap_append_of_nil ?_ ?_) (filterMap_reconfigure hname)
  · rw [List.filterMap_cons_none rfl]
    exact filterMap_newDirector hname _ _ _
  · cases d.input.spec.director.shard with
    | none => rfl
    | some shard =>
      rw [List.filterMap_append]
      refine List.append_eq_nil_iff.2 ⟨?_, filterMap_setting hname _ "set_rampup(" _⟩
      cases shard.warmup with
      | none => rfl
      | some w => exact filterMap_setting hname False "set_warmup(" _

/-- The directors that `vcl_init` creates. -/
lemma filterMap_vclInit (go : Go) {d : TemplateData} (hnames : ∀ n ∈ d.symbols, ' ' ∉ n) :
    (vclInit go d).stmts.filterMap newName = d.directors := by
  have hgroups : ∀ g ∈ d.backendGroups, (groupDirector go g).filterMap newName = [g.name] :=
    fun g hg => filterMap_groupDirector go (hnames _ (by
      simp [TemplateData.symbols, TemplateData.directors, List.mem_map_of_mem hg]))
  have hcluster : (Code.when d.hasCluster (Code.ofList (clusterDirector go d))).stmts.filterMap
      newName = if d.hasCluster then [d.directorName] else [] := by
    cases hc : d.hasCluster with
    | false => rfl
    | true =>
      rw [Code.when, if_pos rfl, Code.stmts_ofList]
      exact filterMap_clusterDirector go (hnames _ (by
        simp [TemplateData.symbols, TemplateData.directors, hc]))
  have hsnippet : (customSnippet "vcl_init" d.input.spec.vcl.snippets.vclInit).stmts.filterMap
      newName = [] := by
    unfold customSnippet
    cases !d.input.spec.vcl.snippets.vclInit.isEmpty <;> rfl
  have hnote : ∀ line, [(.note line : Stmt)].filterMap newName = [] := fun _ => rfl
  have hret : [(.ret .ok : Stmt)].filterMap newName = [] := rfl
  unfold vclInit TemplateData.directors
  simp only [Code.stmts_append, List.filterMap_append, hcluster, hsnippet]
  rw [Code.stmts_ofList, Code.stmts_ofList, Code.stmts_ofList, Code.stmts_ofList,
    List.filterMap_flatMap, List.flatMap_congr hgroups, ← List.map_eq_flatMap, hnote, hnote, hret,
    List.nil_append, List.append_nil, List.append_nil, List.append_nil]

/-- **The symbols are the names that the text declares**: those of the backends in their part of
the text, and those of the directors in `vcl_init`. -/
theorem symbols_eq_declared (go : Go) {d : TemplateData} (hnames : ∀ n ∈ d.symbols, ' ' ∉ n) :
    (backendLines d).filterMap (wordAfter "backend ") ++ (vclInit go d).stmts.filterMap newName =
      d.symbols := by
  rw [filterMap_backendLines hnames, filterMap_vclInit go hnames, TemplateData.symbols,
    ← List.append_assoc]

/-! ## Access lists -/

/-- An address of an access list. -/
def aclEntry (address : Text) : Text := "    \"" ++ address ++ "\";"

/-- An access list with the addresses that every one of them has. -/
def controlAcl (name : Text) (d : TemplateData) (sources : List Text) : List Text :=
  ["acl " ++ name ++ " \x7b", ("    \"127.0.0.1\";  // localhost always allowed" : Text)] ++
    lineIf (!d.input.operatorIP.isEmpty)
      ("    \"" ++ d.input.operatorIP ++ "\";  // operator pod IP (invalidation proxy source)") ++
    sources.map aclEntry ++ [("\x7d" : Text)]

/-- The access lists for purges and bans, and that of the peers. -/
def aclLines (d : TemplateData) : List Text :=
  controlAcl "vinyl_purge_allowed" d
    (match d.input.spec.invalidation.purge with
      | some purge => purge.allowedSources
      | none => []) ++
  (if d.hasBAN then
    blank :: controlAcl "vinyl_ban_allowed" d
      (match d.input.spec.invalidation.ban with
        | some ban => ban.allowedSources
        | none => [])
    else []) ++
  (if d.hasCluster then
    [blank, ("acl vinyl_cluster_peers \x7b" : Text)] ++
      d.peerDefs.map (fun p => aclEntry p.ip) ++ [("\x7d" : Text)]
    else [])

/-! ## The whole text -/

/-- A subroutine. -/
def subLines (name : Text) (body : Code) : List Text :=
  ("sub " ++ name ++ " \x7b") :: (body.render 4 ++ [("\x7d" : Text)])

/-- What stands before the backends. -/
def headLines (d : TemplateData) : List Text :=
  [("# cloud-vinyl managed VCL" : Text),
    "# Cache: " ++ d.input.namespace_ ++ "/" ++ d.input.name,
    "# Generated by cloud-vinyl operator", blank, "vcl 4.1;", blank, "import std;",
    "import directors;", "import purge;"] ++
  lineIf d.hasXkey "import xkey;" ++
  lineIf d.hasTracing "import uuid;" ++
  (if d.input.spec.vcl.snippets.header = [] then []
    else [blank, "# --- custom header snippet ---", d.input.spec.vcl.snippets.header,
      "# --- end custom header snippet ---"])

/-- All subroutines in the order of `main.vcl.tmpl`. -/
def subroutineLines (go : Go) (d : TemplateData) : List Text :=
  blank :: subLines "vcl_init" (vclInit go d) ++
  blank :: subLines "vcl_recv" (vclRecv d) ++
  blank :: subLines "vcl_hash" (vclHash d) ++
  blank :: subLines "vcl_hit" (vclHit d) ++
  blank :: subLines "vcl_miss" (vclMiss d) ++
  blank :: subLines "vcl_pass" (vclPass d) ++
  subLines "vcl_backend_fetch" (vclBackendFetch d) ++
  blank :: subLines "vcl_backend_response" (vclBackendResponse d) ++
  blank :: subLines "vcl_backend_error" (vclBackendError d) ++
  blank :: subLines "vcl_deliver" (vclDeliver d) ++
  [blank,
    "# vcl_purge only runs when a request returns from the \"purge\" built-in",
    "# action. Nothing in the generated dispatch does that anymore (#94):",
    "# vcl_recv hashes PURGE requests through, and vcl_hit/vcl_miss purge via",
    "# vmod_purge directly, ending in a synth response themselves. This sub is",
    "# unreachable by default and survives only as a target for a custom",
    "# VCLRecv snippet that returns to the purge action itself — do not assume",
    "# it is live."] ++
  subLines "vcl_purge" (vclPurge d) ++
  blank :: subLines "vcl_pipe" (vclPipe d) ++
  blank :: subLines "vcl_synth" (vclSynth d) ++
  blank :: subLines "vcl_fini" (vclFini d) ++ [blank]

/-- `main.vcl.tmpl` -/
def mainText (go : Go) (d : TemplateData) : Text :=
  unlines (headLines d ++ (backendLines d ++ (aclLines d ++ subroutineLines go d)))

/-- `Result`: the VCL and its hash. -/
structure Result where
  vcl : Text
  hash : Text

/-- The header of a full override. -/
def overrideHead (input : Input) : Text :=
  "# cloud-vinyl managed VCL (full override mode)\n# Name: " ++ input.namespace_ ++ "/" ++
    input.name ++ "\n\n"

/-- `Generate`: a full override replaces the templates. -/
def generate (go : Go) (input : Input) : Result :=
  let vcl : Text :=
    if input.spec.vcl.fullOverride = [] then mainText go (buildTemplateData go input)
    else overrideHead input ++ input.spec.vcl.fullOverride
  { vcl := vcl, hash := go.sha256 vcl }

/-- With a full override the text is that of the user, below the head. -/
lemma generate_of_override (go : Go) {input : Input} (h : input.spec.vcl.fullOverride ≠ []) :
    (generate go input).vcl = overrideHead input ++ input.spec.vcl.fullOverride := by
  simp only [generate, if_neg h]

/-- Without one the text is that of the templates. -/
lemma generate_of_templates (go : Go) {input : Input} (h : input.spec.vcl.fullOverride = []) :
    (generate go input).vcl = mainText go (buildTemplateData go input) := by
  simp only [generate, if_pos h]

/-- The names that the generator declares in its VCL, as the backends part and `vcl_init` of the
templates have them. A full override takes the place of the templates, and nothing is declared
beside it. -/
def declaredNames (go : Go) (input : Input) : List Text :=
  if input.spec.vcl.fullOverride = [] then
    let d := buildTemplateData go input
    (backendLines d).filterMap (wordAfter "backend ") ++ (vclInit go d).stmts.filterMap newName
  else []

/-- The hash is that of the text. -/
lemma generate_congr (go : Go) {input input' : Input}
    (h : (generate go input).vcl = (generate go input').vcl) :
    generate go input = generate go input' := by
  have hhash : ∀ i, generate go i = ⟨(generate go i).vcl, go.sha256 (generate go i).vcl⟩ :=
    fun _ => rfl
  rw [hhash input, hhash input', h]

end CloudVinyl.Generator
