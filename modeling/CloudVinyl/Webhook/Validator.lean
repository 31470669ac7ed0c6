import CloudVinyl.Api.VinylCache

set_option relaxedAutoImplicit false
set_option autoImplicit false

/-!
# Admission of VinylCache resources

`ValidateVinylCache` of `internal/webhook/vinylcache_validator.go`. Every check contributes its
messages, and a resource is accepted if there are none. The warnings of the webhook do not
decide about acceptance and are left out.

## Main definitions

* `Webhook.Std` — the functions of the Go library that the checks call.
* `Webhook.errors` — the messages of all checks, in the order of the source.
* `Webhook.validateVinylCache` — the error, if there is one.
* `Webhook.Conforms` — the rules, one by one.

## Main results

* `Webhook.validateVinylCache_eq_none_iff` — a resource is accepted exactly when it conforms.
* `Webhook.isValidVCLIdentifier_of_nameConforms` — a name that the resource definition admits
  passes the check for VCL identifiers.
-/

namespace CloudVinyl.Webhook

/-- The functions of the Go library that the checks call: the verb `%q`, the errors of
`net.ParseCIDR` and `net.SplitHostPort`, and the character classes of `unicode`. -/
structure Std where
  quote : Text → Text
  parseCIDR : Text → Option Text
  splitHostPort : Text → Option Text
  isLetter : Char → Bool
  isDigit : Char → Bool
  isLetter_of_isAlpha : ∀ c : Char, c.isAlpha = true → isLetter c = true
  isDigit_of_isDigit : ∀ c : Char, c.isDigit = true → isDigit c = true

/-! ## Tables -/

/-- `forbiddenVarnishParams`: parameters with which the VCL could run code. -/
def forbiddenVarnishParams : List Text := ["vcc_allow_inline_c", "cc_command"]

/-- `forbiddenStorageTypes`: types that are broken, of another system or misleading. -/
def forbiddenStorageTypes : List Text := ["persistent", "umem", "default"]

/-- `reservedStorageNames`: names that varnishd uses itself. -/
def reservedStorageNames : List Text := ["synth"]

/-- `reservedVolumeNames`: the volumes of the operator. -/
def reservedVolumeNames : List Text :=
  ["agent-token", "varnish-secret", "varnish-workdir", "varnish-tmp", "bootstrap-vcl"]

/-- `reservedPodPorts`: the fixed ports of a pod, and whose they are. -/
def reservedPodPorts : List (ℤ × Text) :=
  [(8080, "the varnish HTTP listener"), (6082, "the varnishd admin CLI"), (9090, "the vinyl-agent"),
    (9131, "the metrics exporter"), (9464, "the tracer metrics endpoint")]

/-- `reservedMountPaths`: where the operator mounts its volumes. -/
def reservedMountPaths : List Text :=
  ["/run/vinyl", "/etc/varnish/secret", "/etc/varnish/default.vcl", "/var/lib/varnish", "/tmp",
    "/var/lib/vinyl-storage"]

/-! ## Paths -/

/-- `pathIsReserved` -/
def pathIsReserved (p : Text) : Bool :=
  reservedMountPaths.any fun r => p = r || Text.hasPrefix p (r ++ "/")

/-- `pathConflictsWithReserved` -/
def pathConflictsWithReserved (p : Text) : Bool :=
  pathIsReserved p || p = "/" || reservedMountPaths.any fun r => Text.hasPrefix r (p ++ "/")

/-! ## Shapes of names -/

/-- `isValidVCLIdentifier` -/
def isValidVCLIdentifier (std : Std) : Text → Bool
  | [] => false
  | c :: cs => std.isLetter c && cs.all fun d => std.isLetter d || std.isDigit d || d = '_'

/-- `isValidVarnishParamKey` -/
def isValidVarnishParamKey : Text → Bool
  | [] => false
  | c :: cs => c.isLower && cs.all fun d => d.isLower || d.isDigit || d = '_'

/-- The pattern `^[A-Za-z][A-Za-z0-9_-]*$` of `httpHeaderToken`. -/
def httpHeaderToken : Text → Bool
  | [] => false
  | c :: cs => c.isAlpha && cs.all fun d => d.isAlphanum || d = '_' || d = '-'

/-- A name that the resource definition admits passes the check for VCL identifiers. -/
theorem isValidVCLIdentifier_of_nameConforms (std : Std) {b : BackendSpec}
    (h : b.nameConforms = true) : isValidVCLIdentifier std b.name = true := by
  unfold BackendSpec.nameConforms at h
  cases hb : b.name with
  | nil => simp [hb] at h
  | cons c cs =>
    rw [hb] at h
    simp only [Bool.and_eq_true, List.all_eq_true, Bool.or_eq_true, decide_eq_true_eq] at h
    simp only [isValidVCLIdentifier, Bool.and_eq_true, List.all_eq_true, Bool.or_eq_true,
      decide_eq_true_eq]
    refine ⟨std.isLetter_of_isAlpha c h.1, fun d hd => ?_⟩
    rcases h.2 d hd with hd | hd
    · rcases Bool.or_eq_true_iff.1 hd with ha | hn
      · exact Or.inl (Or.inl (std.isLetter_of_isAlpha d ha))
      · exact Or.inl (Or.inr (std.isDigit_of_isDigit d hn))
    · exact Or.inr hd

/-! ## The checks -/

/-- A message if something is wrong. -/
def complain (wrong : Bool) (message : Text) : List Text := if wrong then [message] else []

section Checks

variable (std : Std)

/-- The complaints about the parameters of varnishd. -/
def paramErrors (spec : VinylCacheSpec) : List Text :=
  spec.varnishParams.flatMap fun (k, _) =>
    complain (!isValidVarnishParamKey k)
      ("varnishParameters key " ++ std.quote k ++ " is not a valid varnishd parameter name " ++
        "(must start with a lowercase letter and contain only lowercase letters, digits, " ++
        "and underscores)") ++
    complain (forbiddenVarnishParams.contains k)
      ("varnishParameters key " ++ std.quote k ++ " is not allowed")

/-- The complaints about the types and names of storages. -/
def storageErrors (spec : VinylCacheSpec) : List Text :=
  spec.storage.flatMap fun s =>
    complain (forbiddenStorageTypes.contains s.type)
      ("storage type " ++ std.quote s.type ++ " is not allowed (use malloc or file)") ++
    complain (reservedStorageNames.contains s.name)
      ("storage name " ++ std.quote s.name ++ " is reserved by varnishd")

/-- The complaints about the names of backends. -/
def backendErrors (spec : VinylCacheSpec) : List Text :=
  spec.backends.flatMap fun b =>
    complain (!isValidVCLIdentifier std b.name)
      ("backend name " ++ std.quote b.name ++
        " must start with a letter and contain only letters, digits, underscores")

/-- The check of `validateHashHeaders` on one director. -/
def hashHeaderErrors (path : Text) (d : DirectorSpec) : List Text :=
  match d.hash with
  | none => []
  | some hash =>
    if hash.header = [] || httpHeaderToken hash.header then []
    else [path ++ ".hash.header " ++ std.quote hash.header ++
      " is not a header name VCL accepts (a letter, then letters, digits, \"-\" or \"_\")"]

/-- `validateHashHeaders` -/
def validateHashHeaders (spec : VinylCacheSpec) : List Text :=
  hashHeaderErrors std "spec.director" spec.director ++
    spec.backends.flatMap fun b =>
      match b.director with
      | none => []
      | some d => hashHeaderErrors std ("spec.backends[" ++ std.quote b.name ++ "].director") d

/-- The sources of one kind of invalidation; without a section for it there are none. -/
def sectionSources {α : Type} (sources : α → List Text) : Option α → List Text
  | none => []
  | some part => sources part

/-- `purgeAllowedSources` -/
def purgeAllowedSources (inv : InvalidationSpec) : List Text :=
  sectionSources PurgeSpec.allowedSources inv.purge

/-- `banAllowedSources` -/
def banAllowedSources (inv : InvalidationSpec) : List Text :=
  sectionSources BANSpec.allowedSources inv.ban

/-- `xkeyAllowedSources` -/
def xkeyAllowedSources (inv : InvalidationSpec) : List Text :=
  sectionSources XkeySpec.allowedSources inv.xkey

/-- The sources of all kinds of invalidation. -/
def allowedSources (inv : InvalidationSpec) : List Text :=
  purgeAllowedSources inv ++ banAllowedSources inv ++ xkeyAllowedSources inv

/-- The messages for sources that are no blocks of addresses. -/
def cidrErrors (spec : VinylCacheSpec) : List Text :=
  (allowedSources spec.invalidation).flatMap fun cidr =>
    match std.parseCIDR cidr with
    | none => []
    | some err => ["invalid CIDR " ++ std.quote cidr ++ ": " ++ err]

/-- Declare names one after the other: the messages for reserved and repeated ones, and all names
declared. -/
def declareNames (reserved repeated : Text → Text) : List Text → List Text → List Text × List Text
  | declared, [] => ([], declared)
  | declared, n :: names =>
    if reservedVolumeNames.contains n then
      let r := declareNames reserved repeated declared names
      (reserved n :: r.1, r.2)
    else if declared.contains n then
      let r := declareNames reserved repeated declared names
      (repeated n :: r.1, r.2)
    else declareNames reserved repeated (n :: declared) names

/-- The volumes of the pod. -/
def podVolumes (spec : VinylCacheSpec) : List Text × List Text :=
  declareNames
    (fun n => "spec.pod.volumes[" ++ std.quote n ++ "]: name is reserved by the operator")
    (fun n => "spec.pod.volumes[" ++ std.quote n ++ "]: duplicate volume name")
    [] spec.pod.volumes

/-- The claim templates, after the volumes of the pod. -/
def claimTemplates (spec : VinylCacheSpec) : List Text × List Text :=
  declareNames
    (fun n => "spec.volumeClaimTemplates[" ++ std.quote n ++ "]: name is reserved by the operator")
    (fun n => "spec.volumeClaimTemplates[" ++ std.quote n ++ "]: duplicate — name already used " ++
      "in spec.pod.volumes or another claim template")
    (podVolumes std spec).2 (spec.volumeClaimTemplates.map fun c => c.name)

/-- The complaints about the mounts: their paths, and the volumes that they name. -/
def mountErrors (spec : VinylCacheSpec) : List Text :=
  spec.pod.volumeMounts.flatMap fun m =>
    complain (pathConflictsWithReserved m.mountPath)
      ("spec.pod.volumeMounts[" ++ std.quote m.name ++ "]: mountPath " ++ std.quote m.mountPath ++
        " conflicts with a reserved operator mount") ++
    complain (!(claimTemplates std spec).2.contains m.name && !reservedVolumeNames.contains m.name)
      ("spec.pod.volumeMounts[" ++ std.quote m.name ++
        "]: volume is not declared in spec.pod.volumes or spec.volumeClaimTemplates")

/-- `validatePodEnv`: a message for each name that was there before. -/
def validatePodEnv : List Text → List Text → List Text
  | _, [] => []
  | seen, n :: names =>
    if seen.contains n then
      ("spec.pod.env[" ++ std.quote n ++ "]: duplicate env name") :: validatePodEnv seen names
    else validatePodEnv (n :: seen) names

/-- `validatePodAntiAffinity` -/
def validatePodAntiAffinity (pod : PodSpec) : List Text :=
  if pod.podAntiAffinity && pod.affinityPodAntiAffinity then
    ["spec.pod.podAntiAffinity and spec.pod.affinity.podAntiAffinity are mutually exclusive: " ++
      "set the shorthand or a full podAntiAffinity, not both"]
  else []

/-- `validateProxyProtocolPort` -/
def validateProxyProtocolPort (spec : VinylCacheSpec) : List Text :=
  let port := spec.proxyProtocol.port
  let taken (what : Text) : List Text :=
    ["spec.proxyProtocol.port " ++ Text.decimalInt port ++ " is taken by " ++ what]
  if spec.proxyProtocol.enabled then
    match reservedPodPorts.lookup port with
    | some what => taken what
    | none =>
      match spec.exporter with
      | some exp => if exp.enabled && exp.port = port then taken "the metrics exporter" else []
      | none => []
  else []

/-- `validateFileStorage` -/
def validateFileStorage (spec : VinylCacheSpec) : List Text :=
  spec.storage.flatMap fun s =>
    if s.type ≠ ("file" : Text) then []
    else if s.path = [] ∧ s.size ≤ 0 then
      ["spec.storage[" ++ std.quote s.name ++ "]: a file storage without path needs a size; " ++
        "the operator provisions a volume of that size"]
    else if pathIsReserved s.path then
      ["spec.storage[" ++ std.quote s.name ++ "].path " ++ std.quote s.path ++
        " is reserved by the operator; mount your own volume and place the cache file there, " ++
        "or omit path to let the operator provision one"]
    else []

/-- The complaints about the endpoint of the tracer. -/
def tracingErrors (spec : VinylCacheSpec) : List Text :=
  let ep := spec.tracing.endpoint
  if spec.tracing.enabled then
    if ep = [] then ["tracing.otlp.endpoint is required when tracing is enabled"]
    else
      match std.splitHostPort ep with
      | none => []
      | some err =>
        ["tracing.otlp.endpoint " ++ std.quote ep ++ " must be host:port: " ++ err]
  else []

/-- The messages of all checks, in the order of the source. -/
def errors (vc : VinylCache) : List Text :=
  paramErrors std vc.spec ++ storageErrors std vc.spec ++ backendErrors std vc.spec ++
    validateHashHeaders std vc.spec ++ cidrErrors std vc.spec ++ (podVolumes std vc.spec).1 ++
    (claimTemplates std vc.spec).1 ++ mountErrors std vc.spec ++
    validatePodEnv std [] vc.spec.pod.env ++ validatePodAntiAffinity vc.spec.pod ++
    validateProxyProtocolPort vc.spec ++ validateFileStorage std vc.spec ++
    tracingErrors std vc.spec

/-- `ValidateVinylCache`: the error, if there is one. -/
def validateVinylCache (vc : VinylCache) : Option Text :=
  if errors std vc = [] then none else some (Text.join (errors std vc) "; ")

end Checks

/-! ## Accepted resources -/

/-- The headers that the directors of a resource hash on. -/
def hashHeaders (spec : VinylCacheSpec) : List Text :=
  (spec.director :: spec.backends.filterMap fun b => b.director).filterMap fun d =>
    d.hash.map fun h => h.header

/-- The volumes that the user declares. -/
def declaredVolumes (spec : VinylCacheSpec) : List Text :=
  spec.pod.volumes ++ spec.volumeClaimTemplates.map fun c => c.name

/-- What the webhook asks of a resource, rule by rule. -/
structure Conforms (std : Std) (spec : VinylCacheSpec) : Prop where
  params : ∀ kv ∈ spec.varnishParams,
    isValidVarnishParamKey kv.1 = true ∧ kv.1 ∉ forbiddenVarnishParams
  storage : ∀ s ∈ spec.storage, s.type ∉ forbiddenStorageTypes ∧ s.name ∉ reservedStorageNames
  backends : ∀ b ∈ spec.backends, isValidVCLIdentifier std b.name = true
  headers : ∀ header ∈ hashHeaders spec, header = [] ∨ httpHeaderToken header = true
  sources : ∀ cidr ∈ allowedSources spec.invalidation, std.parseCIDR cidr = none
  volumes : (declaredVolumes spec).Nodup ∧ ∀ n ∈ declaredVolumes spec, n ∉ reservedVolumeNames
  mounts : ∀ m ∈ spec.pod.volumeMounts, pathConflictsWithReserved m.mountPath = false ∧
    (m.name ∈ declaredVolumes spec ∨ m.name ∈ reservedVolumeNames)
  env : spec.pod.env.Nodup
  antiAffinity : ¬(spec.pod.podAntiAffinity = true ∧ spec.pod.affinityPodAntiAffinity = true)
  proxyPort : spec.proxyProtocol.enabled = true →
    reservedPodPorts.lookup spec.proxyProtocol.port = none ∧
      ∀ e, spec.exporter = some e → ¬(e.enabled = true ∧ e.port = spec.proxyProtocol.port)
  fileStorage : ∀ s ∈ spec.storage, s.type = "file" →
    (s.path = [] → 0 < s.size) ∧ pathIsReserved s.path = false
  tracing : spec.tracing.enabled = true →
    spec.tracing.endpoint ≠ [] ∧ std.splitHostPort spec.tracing.endpoint = none

section Conforms

variable {std : Std} {spec : VinylCacheSpec}

/-- There is no complaint just when nothing is wrong. -/
lemma complain_eq_nil {wrong : Bool} {message : Text} :
    complain wrong message = [] ↔ wrong = false := by
  cases wrong <;> simp [complain]

/-- What a list does not contain is no member of it. -/
lemma contains_eq_false {l : List Text} {x : Text} : l.contains x = false ↔ x ∉ l := by
  rw [← Bool.not_eq_true, List.contains_iff_mem]

/-- The rule for parameters. -/
lemma paramErrors_eq_nil : paramErrors std spec = [] ↔ ∀ kv ∈ spec.varnishParams,
    isValidVarnishParamKey kv.1 = true ∧ kv.1 ∉ forbiddenVarnishParams := by
  unfold paramErrors
  rw [List.flatMap_eq_nil_iff]
  refine forall₂_congr fun kv _ => ?_
  rw [List.append_eq_nil_iff, complain_eq_nil, complain_eq_nil, Bool.not_eq_false',
    contains_eq_false]

/-- The rule for storages. -/
lemma storageErrors_eq_nil : storageErrors std spec = [] ↔ ∀ s ∈ spec.storage,
    s.type ∉ forbiddenStorageTypes ∧ s.name ∉ reservedStorageNames := by
  unfold storageErrors
  rw [List.flatMap_eq_nil_iff]
  refine forall₂_congr fun s _ => ?_
  rw [List.append_eq_nil_iff, complain_eq_nil, complain_eq_nil, contains_eq_false,
    contains_eq_false]

/-- The rule for the names of backends. -/
lemma backendErrors_eq_nil : backendErrors std spec = [] ↔ ∀ b ∈ spec.backends,
    isValidVCLIdentifier std b.name = true := by
  unfold backendErrors
  rw [List.flatMap_eq_nil_iff]
  refine forall₂_congr fun b _ => ?_
  rw [complain_eq_nil, Bool.not_eq_false']

/-- The rule for the header of one director. -/
lemma hashHeaderErrors_eq_nil {path : Text} {d : DirectorSpec} :
    hashHeaderErrors std path d = [] ↔
      ∀ h, d.hash = some h → h.header = [] ∨ httpHeaderToken h.header = true := by
  unfold hashHeaderErrors
  cases hd : d.hash with
  | none => exact ⟨fun _ h hh => (by cases hh), fun _ => rfl⟩
  | some hash =>
    have hif : ∀ (wrong : Text),
        (if (decide (hash.header = []) || httpHeaderToken hash.header) = true
        then [] else [wrong]) = [] ↔ hash.header = [] ∨ httpHeaderToken hash.header = true := by
      intro wrong
      by_cases hok : hash.header = [] ∨ httpHeaderToken hash.header = true <;> simp [hok]
    exact (hif _).trans ⟨fun h _ hh => Option.some.inj hh ▸ h, fun h => h hash rfl⟩

/-- The rule for the headers of all directors. -/
lemma validateHashHeaders_eq_nil : validateHashHeaders std spec = [] ↔
    ∀ header ∈ hashHeaders spec, header = [] ∨ httpHeaderToken header = true := by
  -- the directors, one after the other
  have hmem : (∀ header ∈ hashHeaders spec, header = [] ∨ httpHeaderToken header = true) ↔
      ∀ d ∈ spec.director :: spec.backends.filterMap fun b => b.director,
        ∀ h, d.hash = some h → h.header = [] ∨ httpHeaderToken h.header = true := by
    simp only [hashHeaders, List.mem_filterMap, Option.map_eq_some_iff]
    constructor
    · intro hall d hd h hh
      exact hall h.header ⟨d, hd, h, hh, rfl⟩
    · rintro hall header ⟨d, hd, h, hh, rfl⟩
      exact hall d hd h hh
  rw [hmem, List.forall_mem_cons]
  unfold validateHashHeaders
  rw [List.append_eq_nil_iff, hashHeaderErrors_eq_nil, List.flatMap_eq_nil_iff]
  refine and_congr_right fun _ => ?_
  simp only [List.mem_filterMap]
  constructor
  · rintro hall d ⟨b, hb, hd⟩
    have hnil := hall b hb
    rw [hd] at hnil
    exact hashHeaderErrors_eq_nil.1 hnil
  · intro hall b hb
    cases hd : b.director with
    | none => rfl
    | some d => exact hashHeaderErrors_eq_nil.2 (hall d ⟨b, hb, hd⟩)

/-- The rule for the sources of invalidations. -/
lemma cidrErrors_eq_nil : cidrErrors std spec = [] ↔
    ∀ cidr ∈ allowedSources spec.invalidation, std.parseCIDR cidr = none := by
  unfold cidrErrors
  rw [List.flatMap_eq_nil_iff]
  refine forall₂_congr fun cidr _ => ?_
  cases std.parseCIDR cidr with
  | none => exact ⟨fun _ => rfl, fun _ => rfl⟩
  | some err => exact ⟨fun h => (by cases h), fun h => (by cases h)⟩

/-- What is declared in the end: everything but the reserved names. -/
lemma mem_declareNames (reserved repeated : Text → Text) (declared names : List Text) (x : Text) :
    x ∈ (declareNames reserved repeated declared names).2 ↔
      x ∈ declared ∨ x ∈ names ∧ x ∉ reservedVolumeNames := by
  induction names generalizing declared with
  | nil => simp [declareNames]
  | cons n names ih =>
    unfold declareNames
    split_ifs with hres hdec
    · rw [List.contains_iff_mem] at hres
      simp only [ih, List.mem_cons]
      constructor
      · exact fun h => h.imp_right fun h => ⟨.inr h.1, h.2⟩
      · exact fun h => h.imp_right fun h => ⟨h.1.resolve_left fun heq => h.2 (heq ▸ hres), h.2⟩
    · rw [List.contains_iff_mem] at hdec
      simp only [ih, List.mem_cons]
      constructor
      · exact fun h => h.imp_right fun h => ⟨.inr h.1, h.2⟩
      · rintro (h | ⟨rfl | h, hx⟩)
        · exact .inl h
        · exact .inl hdec
        · exact .inr ⟨h, hx⟩
    · rw [List.contains_iff_mem] at hres
      simp only [ih, List.mem_cons]
      constructor
      · rintro ((rfl | h) | h)
        · exact .inr ⟨.inl rfl, hres⟩
        · exact .inl h
        · exact .inr ⟨.inr h.1, h.2⟩
      · rintro (h | ⟨rfl | h, hx⟩)
        · exact .inl (.inr h)
        · exact .inl (.inl rfl)
        · exact .inr ⟨h, hx⟩

/-- There is no message exactly when the names are neither reserved nor repeated. -/
lemma declareNames_eq_nil (reserved repeated : Text → Text) (declared names : List Text) :
    (declareNames reserved repeated declared names).1 = [] ↔
      names.Nodup ∧ ∀ n ∈ names, n ∉ reservedVolumeNames ∧ n ∉ declared := by
  induction names generalizing declared with
  | nil => simp [declareNames]
  | cons n names ih =>
    unfold declareNames
    split_ifs with hres hdec
    · rw [List.contains_iff_mem] at hres
      simp [hres]
    · rw [List.contains_iff_mem] at hdec
      simp [hdec]
    · rw [List.contains_iff_mem] at hres hdec
      rw [ih, List.nodup_cons, List.forall_mem_cons]
      constructor
      · rintro ⟨hnodup, hall⟩
        refine ⟨⟨fun hn => ?_, hnodup⟩, ⟨hres, hdec⟩, fun m hm => ?_⟩
        · exact (hall n hn).2 List.mem_cons_self
        · exact ⟨(hall m hm).1, fun h => (hall m hm).2 (List.mem_cons_of_mem _ h)⟩
      · rintro ⟨⟨hn, hnodup⟩, -, hall⟩
        refine ⟨hnodup, fun m hm => ⟨(hall m hm).1, fun h => ?_⟩⟩
        rcases List.mem_cons.1 h with rfl | h
        · exact hn hm
        · exact (hall m hm).2 h

/-- The rule for the names of volumes, over both lists that declare them. -/
lemma volumes_eq_nil : (podVolumes std spec).1 = [] ∧ (claimTemplates std spec).1 = [] ↔
    (declaredVolumes spec).Nodup ∧ ∀ n ∈ declaredVolumes spec, n ∉ reservedVolumeNames := by
  have hmem := mem_declareNames
    (fun n => "spec.pod.volumes[" ++ std.quote n ++ "]: name is reserved by the operator")
    (fun n => "spec.pod.volumes[" ++ std.quote n ++ "]: duplicate volume name") [] spec.pod.volumes
  unfold claimTemplates
  rw [declareNames_eq_nil]
  unfold podVolumes
  rw [declareNames_eq_nil]
  simp only [hmem, declaredVolumes, List.nodup_append, List.mem_append, List.not_mem_nil,
    not_false_eq_true, and_true, false_or, not_and, not_not]
  constructor
  · rintro ⟨⟨hp, hpr⟩, hc, hcr⟩
    refine ⟨⟨hp, hc, fun a ha b hb hab => ?_⟩, fun n hn => hn.elim (hpr n) fun hn => (hcr n hn).1⟩
    subst hab
    exact hpr a ha ((hcr a hb).2 ha)
  · rintro ⟨⟨hp, hc, hdis⟩, hres⟩
    refine ⟨⟨hp, fun n hn => hres n (.inl hn)⟩, hc, fun n hn => ⟨hres n (.inr hn), fun h => ?_⟩⟩
    exact absurd rfl (hdis n h n hn)

/-- The volumes that may be mounted: those that are declared and not the operator's. -/
lemma mem_claimTemplates {x : Text} : x ∈ (claimTemplates std spec).2 ↔
    x ∈ declaredVolumes spec ∧ x ∉ reservedVolumeNames := by
  unfold claimTemplates
  rw [mem_declareNames]
  unfold podVolumes
  rw [mem_declareNames, declaredVolumes, List.mem_append]
  simp only [List.not_mem_nil, false_or, or_and_right]

/-- The rule for mounts, with the operator's volumes among those that may be named. -/
lemma mountErrors_eq_nil : mountErrors std spec = [] ↔ ∀ m ∈ spec.pod.volumeMounts,
    pathConflictsWithReserved m.mountPath = false ∧
      (m.name ∈ declaredVolumes spec ∨ m.name ∈ reservedVolumeNames) := by
  unfold mountErrors
  rw [List.flatMap_eq_nil_iff]
  refine forall₂_congr fun m _ => ?_
  rw [List.append_eq_nil_iff, complain_eq_nil, complain_eq_nil, Bool.and_eq_false_iff,
    Bool.not_eq_false', Bool.not_eq_false', List.contains_iff_mem, List.contains_iff_mem,
    mem_claimTemplates]
  refine and_congr_right fun _ => ?_
  by_cases hres : m.name ∈ reservedVolumeNames <;> simp [hres]

/-- The rule for environment variables: none twice, and none that was seen before. -/
lemma validatePodEnv_eq_nil {seen names : List Text} : validatePodEnv std seen names = [] ↔
    names.Nodup ∧ ∀ n ∈ names, n ∉ seen := by
  induction names generalizing seen with
  | nil => simp [validatePodEnv]
  | cons n names ih =>
    unfold validatePodEnv
    split_ifs with hseen
    · rw [List.contains_iff_mem] at hseen
      simp [hseen]
    · rw [List.contains_iff_mem] at hseen
      rw [ih, List.nodup_cons, List.forall_mem_cons]
      constructor
      · rintro ⟨hnodup, hall⟩
        refine ⟨⟨fun hn => hall n hn List.mem_cons_self, hnodup⟩, hseen, fun m hm h => ?_⟩
        exact hall m hm (List.mem_cons_of_mem _ h)
      · rintro ⟨⟨hn, hnodup⟩, -, hall⟩
        refine ⟨hnodup, fun m hm h => ?_⟩
        rcases List.mem_cons.1 h with rfl | h
        · exact hn hm
        · exact hall m hm h

/-- The rule for the two ways to ask for anti-affinity. -/
lemma validatePodAntiAffinity_eq_nil {pod : PodSpec} : validatePodAntiAffinity pod = [] ↔
    ¬(pod.podAntiAffinity = true ∧ pod.affinityPodAntiAffinity = true) := by
  unfold validatePodAntiAffinity
  rw [← Bool.and_eq_true]
  split_ifs with h
  · exact ⟨fun hnil => absurd hnil (by decide), fun hnot => absurd h hnot⟩
  · exact ⟨fun _ => h, fun _ => rfl⟩

/-- The rule for the port of the PROXY listener. -/
lemma validateProxyProtocolPort_eq_nil : validateProxyProtocolPort spec = [] ↔
    (spec.proxyProtocol.enabled = true →
      reservedPodPorts.lookup spec.proxyProtocol.port = none ∧
        ∀ e, spec.exporter = some e → ¬(e.enabled = true ∧ e.port = spec.proxyProtocol.port)) := by
  unfold validateProxyProtocolPort
  by_cases henabled : spec.proxyProtocol.enabled = true
  · simp only [henabled, if_true, true_implies]
    cases reservedPodPorts.lookup spec.proxyProtocol.port with
    | some what => exact ⟨fun h => (by cases h), fun h => (by cases h.1)⟩
    | none =>
      cases spec.exporter with
      | none => exact ⟨fun _ => ⟨rfl, fun e he => (by cases he)⟩, fun _ => rfl⟩
      | some exp =>
        by_cases htaken : exp.enabled = true ∧ exp.port = spec.proxyProtocol.port
        · simp [htaken]
        · have hif : (exp.enabled && decide (exp.port = spec.proxyProtocol.port)) = false := by
            simpa using htaken
          simp only [hif, Bool.false_eq_true, if_false, true_and, true_iff]
          intro e he
          exact Option.some.inj he ▸ htaken
  · simp [henabled]

/-- The rule for the sizes and paths of file storages. -/
lemma validateFileStorage_eq_nil : validateFileStorage std spec = [] ↔ ∀ s ∈ spec.storage,
    s.type = "file" → (s.path = [] → 0 < s.size) ∧ pathIsReserved s.path = false := by
  unfold validateFileStorage
  rw [List.flatMap_eq_nil_iff]
  refine forall₂_congr fun s _ => ?_
  split_ifs with htype hsize hres
  · exact ⟨fun _ h => absurd h htype, fun _ => rfl⟩
  · refine ⟨fun h => h.elim, fun h => ?_⟩
    have hpos := (h (not_not.1 htype)).1 hsize.1
    omega
  · refine ⟨fun h => h.elim, fun h => ?_⟩
    rw [(h (not_not.1 htype)).2] at hres
    cases hres
  · refine ⟨fun _ _ => ⟨fun hpath => ?_, Bool.not_eq_true _ ▸ hres⟩, fun _ => rfl⟩
    have hnot := not_and.1 hsize hpath
    omega

/-- The rule for the endpoint of the tracer. -/
lemma tracingErrors_eq_nil : tracingErrors std spec = [] ↔ (spec.tracing.enabled = true →
    spec.tracing.endpoint ≠ [] ∧ std.splitHostPort spec.tracing.endpoint = none) := by
  unfold tracingErrors
  by_cases henabled : spec.tracing.enabled = true
  · simp only [henabled, if_true, true_implies]
    by_cases hep : spec.tracing.endpoint = []
    · rw [if_pos hep]
      exact ⟨fun h => absurd h (List.cons_ne_nil _ _), fun h => absurd hep h.1⟩
    · rw [if_neg hep]
      cases std.splitHostPort spec.tracing.endpoint with
      | none => exact ⟨fun _ => ⟨hep, rfl⟩, fun _ => rfl⟩
      | some err => exact ⟨fun h => absurd h (List.cons_ne_nil _ _), fun h => (by cases h.2)⟩
  · simp [henabled]

/-- **The rules of the webhook.** A resource is accepted exactly when it conforms to every rule. -/
theorem validateVinylCache_eq_none_iff {vc : VinylCache} :
    validateVinylCache std vc = none ↔ Conforms std vc.spec := by
  have herrors : validateVinylCache std vc = none ↔ errors std vc = [] := by
    unfold validateVinylCache
    split_ifs with h
    · exact ⟨fun _ => h, fun _ => rfl⟩
    · exact ⟨fun hnone => (by cases hnone), fun hnil => absurd hnil h⟩
  rw [herrors]
  unfold errors
  simp only [List.append_eq_nil_iff]
  rw [paramErrors_eq_nil, storageErrors_eq_nil, backendErrors_eq_nil, validateHashHeaders_eq_nil,
    cidrErrors_eq_nil, mountErrors_eq_nil, validatePodEnv_eq_nil, validatePodAntiAffinity_eq_nil,
    validateProxyProtocolPort_eq_nil, validateFileStorage_eq_nil, tracingErrors_eq_nil]
  constructor
  · rintro ⟨⟨⟨⟨⟨⟨⟨⟨⟨⟨⟨⟨hparams, hstorage⟩, hbackends⟩, hheaders⟩, hsources⟩, hvol⟩, hclaims⟩,
      hmounts⟩, henv⟩, hanti⟩, hport⟩, hfile⟩, htracing⟩
    exact ⟨hparams, hstorage, hbackends, hheaders, hsources, volumes_eq_nil.1 ⟨hvol, hclaims⟩,
      hmounts, henv.1, hanti, hport, hfile, htracing⟩
  · intro h
    obtain ⟨hvol, hclaims⟩ := (@volumes_eq_nil std vc.spec).2 h.volumes
    exact ⟨⟨⟨⟨⟨⟨⟨⟨⟨⟨⟨⟨h.params, h.storage⟩, h.backends⟩, h.headers⟩, h.sources⟩, hvol⟩, hclaims⟩,
      h.mounts⟩, ⟨h.env, by simp⟩⟩, h.antiAffinity⟩, h.proxyPort⟩, h.fileStorage⟩, h.tracing⟩

end Conforms

end CloudVinyl.Webhook
