import CloudVinyl.Webhook.Validator

set_option relaxedAutoImplicit false
set_option autoImplicit false

/-!
# Admission of updates

`ValidateUpdate` of `internal/webhook/v1/vinylcache_webhook.go`: the rules for the new resource and
for the change of its claim templates (`ValidateVinylCacheUpdate`), and those that the runtime
catalog adds (`ValidateRuntime` of `internal/webhook/runtime.go`, `internal/catalog`). The
controller removes the finalizer of a deleted resource by an update, which passes through here.

## Main definitions

* `Webhook.Catalog`, `Webhook.Catalog.resolve` — the runtimes that there are.
* `Webhook.validateRuntime`, `Webhook.validateVinylCacheUpdate`, `Webhook.validateUpdate`.

## Main results

* `Webhook.validateUpdate_eq_none_iff` — an update that leaves the spec as it is passes exactly
  when the stored resource conforms to the rules.
-/

namespace CloudVinyl.Webhook

/-! ## The runtime catalog -/

/-- The container images of one version. -/
structure Images where
  daemon : Text
  exporter : Text
  tracer : Text

/-- The section of a flavor: the version taken if none is asked for, and the images by version. -/
structure FlavorEntry where
  default_ : Text
  versions : List (Text × Images)

/-- The catalog of the runtimes that an operator may start. -/
structure Catalog where
  flavors : Flavor → Option FlavorEntry

/-- What `Resolve` has chosen for a resource. -/
structure Runtime where
  flavor : Flavor
  version : Text
  images : Images

/-- `sort.Strings`: the order of the texts is that of their characters. -/
def sortStrings (l : List Text) : List Text :=
  l.mergeSort fun s t => !List.lex t s fun c d => c.toNat.blt d.toNat

/-- A sorted list of strings, as the verb `%v` prints it. -/
def sortedList (l : List Text) : Text := "[" ++ Text.join (sortStrings l) " " ++ "]"

/-- `effectiveFlavor` -/
def effectiveFlavor (f : Option Flavor) : Flavor := f.getD .varnish

/-- `Catalog.flavorNames` -/
def Catalog.flavorNames (c : Catalog) : List Text :=
  ([Flavor.varnish, .vinyl].filter fun f => (c.flavors f).isSome).map Flavor.text

/-- `Catalog.Resolve`: the runtime of a flavor and a version, or what is wrong with them; `quote`
is the verb `%q`. -/
def Catalog.resolve (quote : Text → Text) (c : Catalog) (f : Flavor) (version : Text) :
    Except Text Runtime :=
  match c.flavors f with
  | none =>
    .error ("flavor " ++ quote f.text ++ " is not in the runtime catalog (flavors available: " ++
      sortedList c.flavorNames ++ ")")
  | some entry =>
    let version := if version = [] then entry.default_ else version
    match entry.versions.lookup version with
    | none =>
      .error ("flavor " ++ quote f.text ++ " version " ++ quote version ++
        " is not in the runtime catalog (versions available: " ++
        sortedList (entry.versions.map Prod.fst) ++ ")")
    | some images => .ok ⟨f, version, images⟩

/-! ## The checks of an update -/

/-- `ValidateRuntime`; `old` is missing when a resource is created. The catalog is asked if flavor
or version have changed. -/
def validateRuntime (quote : Text → Text) (old : Option VinylCache) (vc : VinylCache)
    (cat : Option Catalog) : List Text :=
  match cat with
  | none => []
  | some c =>
    let flavor := effectiveFlavor vc.spec.flavor
    let changed := match old with
      | none => true
      | some o => effectiveFlavor o.spec.flavor ≠ flavor || o.spec.version ≠ vc.spec.version
    if changed then
      match c.resolve quote flavor vc.spec.version with
      | .error err => [err]
      | .ok _ => []
    else []

/-- The message for a change of the claim templates. -/
def claimTemplatesImmutable : Text :=
  "spec.volumeClaimTemplates is immutable after creation, as on a StatefulSet. " ++
    "Existing PVCs outlive the VinylCache and are reused when it is recreated, so to change " ++
    "their size resize the PVCs directly (if the StorageClass allows expansion), or delete " ++
    "the VinylCache and its PVCs and create it again"

section Update

variable (std : Std)
  (semanticEqual : List PersistentVolumeClaim → List PersistentVolumeClaim → Bool)

/-- `ValidateVinylCacheUpdate`; `semanticEqual` is `equality.Semantic.DeepEqual`. -/
def validateVinylCacheUpdate (old vc : VinylCache) : Option Text :=
  let errs := (validateVinylCache std vc).toList ++
    complain (!semanticEqual old.spec.volumeClaimTemplates vc.spec.volumeClaimTemplates)
      claimTemplatesImmutable
  if errs = [] then none else some (Text.join errs "; ")

/-- `withRuntime`: the errors of the catalog are added to the one that there is. -/
def withRuntime (cat : Option Catalog) (old : Option VinylCache) (vc : VinylCache)
    (err : Option Text) : Option Text :=
  let rtErrs := validateRuntime std.quote old vc cat
  if rtErrs = [] then err else some (Text.join (err.toList ++ rtErrs) "; ")

/-- `ValidateCreate` -/
def validateCreate (cat : Option Catalog) (obj : VinylCache) : Option Text :=
  withRuntime std cat none obj (validateVinylCache std obj)

/-- `ValidateUpdate` -/
def validateUpdate (cat : Option Catalog) (oldObj newObj : VinylCache) : Option Text :=
  withRuntime std cat (some oldObj) newObj
    (validateVinylCacheUpdate std semanticEqual oldObj newObj)

/-! ## Updates that leave the spec as it is -/

variable {std semanticEqual}

/-- The catalog has nothing to say about them. -/
lemma validateRuntime_of_spec_eq (quote : Text → Text) {old vc : VinylCache}
    (h : vc.spec = old.spec) (cat : Option Catalog) :
    validateRuntime quote (some old) vc cat = [] := by
  cases cat with
  | none => rfl
  | some c => simp [validateRuntime, h]

/-- Neither has the rule about the claim templates. -/
lemma validateVinylCacheUpdate_of_spec_eq (hrefl : ∀ l, semanticEqual l l = true)
    {old vc : VinylCache} (h : vc.spec = old.spec) :
    validateVinylCacheUpdate std semanticEqual old vc = none ↔
      validateVinylCache std vc = none := by
  have hclaims : ∀ message : Text, complain (!semanticEqual old.spec.volumeClaimTemplates
      vc.spec.volumeClaimTemplates) message = [] := by
    intro message
    rw [h, hrefl, complain_eq_nil]
    rfl
  unfold validateVinylCacheUpdate
  rw [hclaims, List.append_nil]
  cases validateVinylCache std vc with
  | none => exact ⟨fun _ => rfl, fun _ => rfl⟩
  | some err => exact ⟨fun h => (by cases h), fun h => (by cases h)⟩

/-- What is left are the rules for the resource. -/
lemma validateUpdate_of_spec_eq (hrefl : ∀ l, semanticEqual l l = true) (cat : Option Catalog)
    {old vc : VinylCache} (h : vc.spec = old.spec) :
    validateUpdate std semanticEqual cat old vc = none ↔ validateVinylCache std vc = none := by
  have hruntime := validateRuntime_of_spec_eq std.quote h cat
  unfold validateUpdate withRuntime
  simp only [hruntime, if_true]
  exact validateVinylCacheUpdate_of_spec_eq hrefl h

end Update

/-- **Updates that leave the spec as it is.** Such an update, the removal of the finalizer among
them, passes the webhook exactly when the stored resource conforms to every rule, whatever the
runtime catalog is. The equality of the claim templates is taken to be reflexive. -/
theorem validateUpdate_eq_none_iff (std : Std)
    (semanticEqual : List PersistentVolumeClaim → List PersistentVolumeClaim → Bool)
    (hrefl : ∀ l, semanticEqual l l = true) (cat : Option Catalog) (old new : VinylCache)
    (hspec : new.spec = old.spec) :
    validateUpdate std semanticEqual cat old new = none ↔ Conforms std old.spec := by
  rw [validateUpdate_of_spec_eq hrefl cat hspec, validateVinylCache_eq_none_iff, hspec]

/-- The functions of the Go library on ASCII, with every address well formed. -/
def asciiStd : Std where
  quote s := '"' :: (s ++ ['"'])
  parseCIDR _ := none
  splitHostPort _ := none
  isLetter := Char.isAlpha
  isDigit := Char.isDigit
  isLetter_of_isAlpha _ h := h
  isDigit_of_isDigit _ h := h

/-- A deleted cache that waits for the removal of its finalizer. -/
def deletedCache (params : List (Text × Text)) : VinylCache where
  namespace_ := "prod"
  name := "shop"
  deletionTimestamp := some 1
  finalizers := ["vinyl.bluedynamics.eu/finalizer"]
  spec :=
    { replicas := 2
      backends := [{ name := "app", serviceRef := "app" }]
      varnishParams := params
      storage := [⟨"hot", "malloc", 1073741824, []⟩, ⟨"disk", "file", 1073741824, "/data/disk"⟩]
      pod := { volumes := ["data"], volumeMounts := [⟨"data", "/data"⟩] }
      volumeClaimTemplates := [⟨"claim", []⟩] }

/-- With a parameter that is allowed it is removed, also when its flavor is no longer in the
catalog. -/
theorem validateUpdate_deletedCache :
    validateUpdate asciiStd (fun l l' => l = l') (some ⟨fun _ => none⟩)
        (deletedCache [("thread_pool_max", "500")])
        { deletedCache [("thread_pool_max", "500")] with finalizers := [] } = none ∧
      Conforms asciiStd (deletedCache [("thread_pool_max", "500")]).spec := by
  have hconforms : Conforms asciiStd (deletedCache [("thread_pool_max", "500")]).spec :=
    validateVinylCache_eq_none_iff.1 (by decide +kernel)
  refine ⟨?_, hconforms⟩
  exact (validateUpdate_eq_none_iff asciiStd (fun l l' => l = l') (fun _ => decide_eq_true rfl)
    (some ⟨fun _ => none⟩) _ _ rfl).2 hconforms

/-- With a parameter that was admitted before it was forbidden, it is not. -/
theorem deletedCache_stays :
    { deletedCache [("cc_command", "exec cc")] with finalizers := [] }.spec =
        (deletedCache [("cc_command", "exec cc")]).spec ∧
      ∀ std semanticEqual cat, (∀ l, semanticEqual l l = true) →
        validateUpdate std semanticEqual cat (deletedCache [("cc_command", "exec cc")])
          { deletedCache [("cc_command", "exec cc")] with finalizers := [] } ≠ none := by
  refine ⟨rfl, fun std semanticEqual cat hrefl hnone => ?_⟩
  have hconforms :=
    validateVinylCache_eq_none_iff.1 ((validateUpdate_of_spec_eq hrefl cat rfl).1 hnone)
  exact (hconforms.params ("cc_command", "exec cc") (by decide)).2 (by decide)

end CloudVinyl.Webhook
