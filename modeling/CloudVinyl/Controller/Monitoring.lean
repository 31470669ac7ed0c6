import CloudVinyl.Controller.NetworkPolicies
import CloudVinyl.Controller.Objects
import CloudVinyl.Monitoring.PrometheusRule

set_option relaxedAutoImplicit false
set_option autoImplicit false

/-!
# Scraping and alerts

The monitoring of a cache is spread over several objects. The exporter listens in the pods
(`statefulset.go`), a NetworkPolicy lets its port through (`networkpolicy.go`), the headless Service
names that port (`service.go`), and a ServiceMonitor tells Prometheus to scrape the port of that
name (`internal/monitoring/servicemonitor.go`). `reconcileMonitoring` of `monitoring.go` applies the
ServiceMonitor and the rule object of the cache, and deletes the rule object that all caches of a
namespace shared under one name in earlier versions.

## Main definitions

* `Controller.ScrapedWhereListening` — the four places name one port.
* `Controller.Manifests`, `Controller.Manifests.reconcileMonitoring` — the objects of the monitoring
  group, and what a reconcile does to them.
* `Controller.AlertsExist` — the requested rule object is there, and those of others still are.

## Main results

* `Controller.scrapedWhereListening_iff` — the configured ports at which the exporter is scraped.
* `Controller.alertsExist_iff` — the names of caches for which the rule object stays.
-/

namespace CloudVinyl.Controller

open Monitoring

/-! ## The port of the exporter -/

/-- `corev1.ServicePort` -/
structure ServicePort where
  name : Text
  port : ℤ
  targetPort : ℤ

/-- `corev1.Service`: its labels, the pods it selects and its ports. -/
structure Service where
  labels : List (Text × Text)
  selector : List (Text × Text)
  ports : List ServicePort

/-- The Service of `reconcileHeadlessService`. -/
def headlessService (vc : VinylCache) : Service where
  labels := [(labelApp, vc.name), (labelVinylCacheName, vc.name)]
  selector := [(labelApp, vc.name)]
  ports := [⟨"cache-http", varnishPort, varnishPort⟩, ⟨"exporter", exporterPort, exporterPort⟩]

/-- One endpoint of a ServiceMonitor. -/
structure ScrapeEndpoint where
  port : Text
  path : Text
  interval : Text
  scrapeTimeout : Text

/-- The ServiceMonitor of a cache. -/
structure ServiceMonitor where
  name : Text
  namespace_ : Text
  labels : List (Text × Text)
  selector : List (Text × Text)
  endpoints : List ScrapeEndpoint

/-- `GenerateServiceMonitor` -/
def generateServiceMonitor (name namespace_ : Text) : ServiceMonitor where
  name := name ++ "-metrics"
  namespace_ := namespace_
  labels := [("app.kubernetes.io/name".toList, name)]
  selector := [("app".toList, name)]
  endpoints := [⟨"exporter", "/metrics", "30s", "10s"⟩]

/-- The ports of the pods that the monitor reaches through the headless Service. -/
def scrapeTargets (vc : VinylCache) : List ℤ :=
  (generateServiceMonitor vc.name vc.namespace_).endpoints.flatMap fun e =>
    ((headlessService vc).ports.filter (·.name = e.port)).map (·.targetPort)

/-- The container of the exporter in the pods. -/
def exporterContainer (lower : Char → Char) (vc : VinylCache) : Option Container :=
  (statefulSet lower vc).containers.find? (·.name = "vinyl-exporter")

/-- The flag of the exporter for its address. -/
def listenFlag : Text := "-web.listen-address"

/-- The argument behind the flag of the listen address. -/
def listenAddress : List Text → Option Text
  | flag :: value :: rest =>
    if flag = listenFlag then some value else listenAddress (value :: rest)
  | _ => none

/-- The exporter listens on the port that its container declares, that its policy lets through, and
that is scraped. -/
def ScrapedWhereListening (lower : Char → Char) (vc : VinylCache) : Prop :=
  ∃ port : ℤ,
    (∃ c, exporterContainer lower vc = some c ∧
      listenAddress c.args = some (":" ++ Text.decimalInt port) ∧
      c.ports.map (·.containerPort) = [port]) ∧
    (∃ np, exporterNetworkPolicy vc = some np ∧ np.ingressPorts = [port]) ∧
    scrapeTargets vc = [port]

section Exporter

variable {lower : Char → Char} {vc : VinylCache} {exp : ExporterSpec}

/-- The container of the exporter, if it is enabled. -/
lemma exporterContainer_eq (h : enabledExporter vc.spec = some exp) :
    exporterContainer lower vc =
      some (buildExporterContainer exp (Webhook.effectiveFlavor vc.spec.flavor)) := by
  rw [exporterContainer, statefulSet, h]
  rfl

/-- The address is looked for behind the flag. -/
lemma listenAddress_cons_cons {a b : Text} {rest : List Text} (ha : a ≠ listenFlag) :
    listenAddress (a :: b :: rest) = listenAddress (b :: rest) := if_neg ha

/-- The exporter listens on the port that is in effect. -/
lemma listenAddress_exporter (exp : ExporterSpec) (f : Flavor) :
    listenAddress (buildExporterContainer exp f).args =
      some (":" ++ Text.decimalInt (effectiveExporterPort exp)) := by
  have hfirst : ("-n" : Text) ≠ listenFlag := by decide +kernel
  have hsecond : varnishWorkdir ≠ listenFlag := by decide +kernel
  exact (listenAddress_cons_cons hfirst).trans
    ((listenAddress_cons_cons hsecond).trans (if_pos rfl))

/-- Prometheus is told the default port, whatever is configured. -/
lemma scrapeTargets_eq (vc : VinylCache) : scrapeTargets vc = [exporterPort] := by
  simp [scrapeTargets, generateServiceMonitor, headlessService]

/-- **Where the exporter is scraped.** The container and the policy follow the configured port, and
the Service names the default one: the two agree if no other port is configured. -/
theorem scrapedWhereListening_iff (lower : Char → Char) (vc : VinylCache) (exp : ExporterSpec)
    (h : enabledExporter vc.spec = some exp) :
    ScrapedWhereListening lower vc ↔ exp.port = 0 ∨ exp.port = exporterPort := by
  have heffective : effectiveExporterPort exp = exporterPort ↔
      exp.port = 0 ∨ exp.port = exporterPort := by
    unfold effectiveExporterPort
    split_ifs with hport
    · simp [hport]
    · simp [not_not.1 hport]
  rw [← heffective]
  constructor
  · rintro ⟨port, -, ⟨np, hnp, hports⟩, htargets⟩
    rw [exporterNetworkPolicy, h, Option.map_some, Option.some.injEq] at hnp
    rw [scrapeTargets_eq, List.singleton_inj] at htargets
    subst hnp
    rw [htargets]
    exact List.singleton_inj.1 hports
  · intro hsame
    have hpolicy : exporterNetworkPolicy vc = some (ingressPolicy vc [] exporterPort) := by
      rw [exporterNetworkPolicy, h, Option.map_some, hsame]
    refine ⟨exporterPort, ⟨_, exporterContainer_eq h, ?_, ?_⟩, ⟨_, hpolicy, rfl⟩,
      scrapeTargets_eq vc⟩
    · rw [listenAddress_exporter, hsame]
    · rw [← hsame]
      rfl

/-- The theorem at a cache that leaves the port to the operator. -/
theorem scrapedWhereListening_default : ScrapedWhereListening id
    { namespace_ := "prod", name := "shop", spec := { exporter := some { enabled := true } } } :=
  (scrapedWhereListening_iff id _ { enabled := true } rfl).2 (.inl rfl)

/-- An exporter on port 9200 is scraped on port 9131. -/
theorem port_notScraped : ¬ScrapedWhereListening id
    { namespace_ := "prod", name := "shop"
      spec := { exporter := some { enabled := true, port := 9200 } } } := by
  rintro ⟨port, -, ⟨np, hnp, hports⟩, htargets⟩
  obtain rfl := Option.some.inj hnp
  rw [scrapeTargets_eq, ← hports] at htargets
  exact absurd htargets (by decide)

end Exporter

/-! ## The objects of the monitoring group -/

/-- What an object says; `other` stands for whatever the operator has not written. -/
inductive Manifest where
  | serviceMonitor (m : ServiceMonitor)
  | prometheusRule (r : PrometheusRule)
  | other (content : Text)

/-- An object with the identifier of the resource that controls it, if there is one. -/
structure MonitoringObject where
  manifest : Manifest
  controller : Option Text

/-- The objects of the monitoring group. -/
abbrev Manifests := Table ObjectRef MonitoringObject

/-- The calls of the API server. -/
inductive Verb where
  | get
  | create
  | update
  | delete

/-- The calls of the API server that fail, with their errors; an object that is not found is none
of them. -/
abbrev Failures := Verb → ObjectRef → Option Text

namespace Manifests

section Reconcile

variable (fails : Failures)

/-- A call that turns one state of the objects into another, and the error if it fails. -/
def call (verb : Verb) (ref : ObjectRef) (before after : Manifests) : Option Text × Manifests :=
  match fails verb ref with
  | some err => (some err, before)
  | none => (none, after)

/-- What is done after a step that has not failed. -/
def andThen (r : Option Text × Manifests) (f : Manifests → Option Text × Manifests) :
    Option Text × Manifests :=
  match r with
  | (some err, objects) => (some err, objects)
  | (none, objects) => f objects

/-- `applyOwned` -/
def applyOwned (uid : Text) (ref : ObjectRef) (manifest : Manifest) (objects : Manifests) :
    Option Text × Manifests :=
  andThen (call fails .get ref objects objects) fun objects =>
    let verb := if (objects ref).isSome then Verb.update else .create
    call fails verb ref objects (objects.set ref ⟨manifest, some uid⟩)

/-- The rule object that the caches of a namespace shared. -/
def legacyRule (vc : VinylCache) : ObjectRef :=
  ⟨.prometheusRule, vc.namespace_, legacyPrometheusRuleName⟩

/-- `deleteLegacyPrometheusRule` -/
def deleteLegacyPrometheusRule (uid : Text) (vc : VinylCache) (objects : Manifests) :
    Option Text × Manifests :=
  andThen (call fails .get (legacyRule vc) objects objects) fun objects =>
    match objects (legacyRule vc) with
    | none => (none, objects)
    | some legacy =>
      if legacy.controller = some uid then
        call fails .delete (legacyRule vc) objects (objects.delete (legacyRule vc))
      else (none, objects)

/-- The rule object of a cache. -/
def ruleOf (vc : VinylCache) : ObjectRef :=
  ⟨.prometheusRule, vc.namespace_, prometheusRuleName vc.name⟩

/-- `reconcileMonitoring`; `uid` identifies the resource, and `opts` are the options of its rule. -/
def reconcileMonitoring (crdInstalled : Kind → Bool) (formatFloat : ℚ → Text) (opts : Options)
    (uid : Text) (vc : VinylCache) (objects : Manifests) : Option Text × Manifests :=
  let monitor := generateServiceMonitor vc.name vc.namespace_
  let rule := generatePrometheusRule formatFloat vc.name vc.namespace_ opts
  andThen
    (if vc.spec.monitoring.serviceMonitor.any (·.enabled) && crdInstalled .serviceMonitor then
      applyOwned fails uid ⟨.serviceMonitor, monitor.namespace_, monitor.name⟩
        (.serviceMonitor monitor) objects
    else (none, objects)) fun objects =>
  if vc.spec.monitoring.prometheusRules.any (·.enabled) && crdInstalled .prometheusRule then
    andThen
      (applyOwned fails uid ⟨.prometheusRule, rule.namespace_, rule.name⟩ (.prometheusRule rule)
        objects)
      (deleteLegacyPrometheusRule fails uid vc)
  else (none, objects)

end Reconcile

/-! ### What is left of the other objects -/

section Steps

variable {fails : Failures} {uid : Text} {ref : ObjectRef} {vc : VinylCache}
  {before after : Manifests}

/-- A call that does not fail has its effect. -/
lemma call_eq_none {verb : Verb} {written : Manifests}
    (h : call fails verb ref before written = (none, after)) : after = written := by
  unfold call at h
  split at h
  · cases h
  · exact (Prod.mk.inj h).2.symm

/-- If two steps return no error, neither of them does. -/
lemma andThen_eq_none {r : Option Text × Manifests} {f : Manifests → Option Text × Manifests}
    (h : andThen r f = (none, after)) :
    ∃ between, r = (none, between) ∧ f between = (none, after) := by
  obtain ⟨err, between⟩ := r
  cases err with
  | some err => cases h
  | none => exact ⟨between, rfl, h⟩

/-- An object that is applied is there afterwards, and no other one changes. -/
lemma applyOwned_eq_none {manifest : Manifest}
    (h : applyOwned fails uid ref manifest before = (none, after)) :
    after = before.set ref ⟨manifest, some uid⟩ := by
  obtain ⟨between, hget, hwrite⟩ := andThen_eq_none h
  obtain rfl := call_eq_none hget
  exact call_eq_none hwrite

/-- The shared rule object is deleted if the resource controls it, and no other one changes. -/
lemma deleteLegacyPrometheusRule_eq_none
    (h : deleteLegacyPrometheusRule fails uid vc before = (none, after)) (ref : ObjectRef) :
    after ref =
      if ref = legacyRule vc ∧ (before ref).any (fun o => o.controller = some uid) then none
      else before ref := by
  obtain ⟨between, hget, hrest⟩ := andThen_eq_none h
  obtain rfl := call_eq_none hget
  cases hlegacy : between (legacyRule vc) with
  | none =>
    simp only [hlegacy, Prod.mk.injEq, true_and] at hrest
    rw [← hrest, if_neg]
    rintro ⟨rfl, howned⟩
    simp [hlegacy] at howned
  | some legacy =>
    simp only [hlegacy] at hrest
    split_ifs at hrest with howned
    · rw [call_eq_none hrest, Table.delete, Function.update_apply]
      by_cases href : ref = legacyRule vc
      · simp [href, hlegacy, howned]
      · simp [href]
    · simp only [Prod.mk.injEq, true_and] at hrest
      rw [← hrest, if_neg]
      rintro ⟨rfl, howned'⟩
      simp [hlegacy, howned] at howned'

/-- If no call fails, no error is returned. -/
lemma exists_reconcileMonitoring (crdInstalled : Kind → Bool) (formatFloat : ℚ → Text)
    (opts : Options) (uid : Text) (vc : VinylCache) (before : Manifests) :
    ∃ after, reconcileMonitoring (fun _ _ => none) crdInstalled formatFloat opts uid vc before =
      (none, after) := by
  have hdelete : ∀ objects, ∃ after,
      deleteLegacyPrometheusRule (fun _ _ => none) uid vc objects = (none, after) := by
    intro objects
    simp only [deleteLegacyPrometheusRule, call, andThen]
    split
    · exact ⟨_, rfl⟩
    · split_ifs
      · exact ⟨_, rfl⟩
      · exact ⟨_, rfl⟩
  simp only [reconcileMonitoring, applyOwned, call, andThen]
  split_ifs
  · exact hdelete _
  · exact ⟨_, rfl⟩
  · exact hdelete _
  · exact ⟨_, rfl⟩

end Steps

end Manifests

/-- The rule object of the cache exists, and of those that other resources controlled none is
missing. -/
structure AlertsExist (uid : Text) (vc : VinylCache) (before after : Manifests) : Prop where
  requested : (after ⟨.prometheusRule, vc.namespace_, prometheusRuleName vc.name⟩).isSome = true
  kept : ∀ ref o other, ref.kind = .prometheusRule → before ref = some o →
    o.controller = some other → other ≠ uid → (after ref).isSome = true

section Alerts

variable {fails : Failures} {crdInstalled : Kind → Bool} {formatFloat : ℚ → Text} {opts : Options}
  {uid : Text} {vc : VinylCache} {before after : Manifests}

/-- The rule object of a cache is the shared one just when the cache is called `cloud-vinyl`. -/
lemma ruleOf_eq_legacyRule_iff (vc : VinylCache) :
    Manifests.ruleOf vc = Manifests.legacyRule vc ↔ vc.name = "cloud-vinyl" := by
  have hname : legacyPrometheusRuleName = "cloud-vinyl" ++ "-alerts" := by decide +kernel
  simp only [Manifests.ruleOf, Manifests.legacyRule, ObjectRef.mk.injEq, true_and, hname,
    prometheusRuleName]
  exact List.append_left_inj _

section Returned

-- alerts are requested and can be had, and no error is returned
variable (henabled : vc.spec.monitoring.prometheusRules.any (·.enabled) = true)
  (hcrd : crdInstalled .prometheusRule = true)
  (h : Manifests.reconcileMonitoring fails crdInstalled formatFloat opts uid vc before =
    (none, after))

include henabled hcrd h

/-- A reconcile that returns no error has applied the rule object and then looked for the shared
one; before that it may have applied the ServiceMonitor. -/
lemma reconcileMonitoring_eq_none :
    ∃ between : Manifests, (∀ ref, ref.kind = .prometheusRule → between ref = before ref) ∧
      ∃ rule, Manifests.deleteLegacyPrometheusRule fails uid vc
        (between.set (Manifests.ruleOf vc) ⟨.prometheusRule rule, some uid⟩) = (none, after) := by
  obtain ⟨between, hmonitor, hrule⟩ := Manifests.andThen_eq_none h
  refine ⟨between, fun ref href => ?_, ?_⟩
  · split_ifs at hmonitor
    · rw [Manifests.applyOwned_eq_none hmonitor, Table.set, Function.update_of_ne]
      rintro rfl
      cases href
    · rw [← (Prod.mk.inj hmonitor).2]
  · simp only [henabled, hcrd, Bool.and_self, if_true] at hrule
    obtain ⟨applied, happly, hdelete⟩ := Manifests.andThen_eq_none hrule
    rw [Manifests.applyOwned_eq_none happly] at hdelete
    exact ⟨_, hdelete⟩

/-- The rule object is there after a reconcile, unless it is the shared one: then it is deleted
right after it has been applied. -/
lemma isSome_rule_iff :
    (after (Manifests.ruleOf vc)).isSome = true ↔ vc.name ≠ "cloud-vinyl" := by
  obtain ⟨between, -, rule, hdelete⟩ := reconcileMonitoring_eq_none henabled hcrd h
  rw [Manifests.deleteLegacyPrometheusRule_eq_none hdelete, Table.set, Function.update_self, Ne,
    ← ruleOf_eq_legacyRule_iff vc]
  by_cases heq : Manifests.ruleOf vc = Manifests.legacyRule vc
  · simp [heq]
  · simp [heq]

/-- Of the rule objects that others control none is deleted, unless the cache has the name of the
shared one. -/
lemma isSome_of_controlled {ref : ObjectRef} {o : MonitoringObject} {other : Text}
    (hkind : ref.kind = .prometheusRule) (hother : ref ≠ Manifests.ruleOf vc)
    (ho : before ref = some o) (hcontroller : o.controller = some other) (hapart : other ≠ uid) :
    (after ref).isSome = true := by
  obtain ⟨between, hsame, rule, hdelete⟩ := reconcileMonitoring_eq_none henabled hcrd h
  have hkeep : between.set (Manifests.ruleOf vc) ⟨.prometheusRule rule, some uid⟩ ref = some o := by
    rw [Table.set, Function.update_of_ne hother, hsame ref hkind, ho]
  rw [Manifests.deleteLegacyPrometheusRule_eq_none hdelete, hkeep, if_neg]
  · rfl
  · rintro ⟨-, howned⟩
    simp [hcontroller, hapart] at howned

end Returned

/-- **Requested alerts exist** just when the cache is not called `cloud-vinyl`.

**Proof sketch.** The rule object is applied and controlled by the resource. If it is the shared
one, it is deleted right away. Otherwise only the shared one can be deleted, and only if the
resource controls it. -/
theorem alertsExist_iff (fails : Failures) (crdInstalled : Kind → Bool) (formatFloat : ℚ → Text)
    (opts : Options) (uid : Text) (vc : VinylCache) (before after : Manifests)
    (henabled : vc.spec.monitoring.prometheusRules.any (·.enabled) = true)
    (hcrd : crdInstalled .prometheusRule = true)
    (h : Manifests.reconcileMonitoring fails crdInstalled formatFloat opts uid vc before =
      (none, after)) :
    AlertsExist uid vc before after ↔ vc.name ≠ "cloud-vinyl" := by
  have hrule := isSome_rule_iff henabled hcrd h
  constructor
  · exact fun hall => hrule.1 hall.requested
  · intro hname
    refine ⟨hrule.2 hname, fun ref o other hkind ho hcontroller hapart => ?_⟩
    by_cases href : ref = Manifests.ruleOf vc
    · rw [href]
      exact hrule.2 hname
    · exact isSome_of_controlled henabled hcrd h hkind href ho hcontroller hapart

/-- A cache with alerts. -/
def alerting (name : Text) : VinylCache where
  namespace_ := "prod"
  name := name
  spec := { monitoring := { prometheusRules := some { enabled := true } } }

/-- The rule object that the caches of the namespace shared, controlled by one of them. -/
def sharedRule : Manifests := fun ref =>
  if ref = Manifests.legacyRule (alerting "blog") then some ⟨.other "alerts of blog", some "blog"⟩
  else none

/-- A cache of another name gets its rule object, and the shared one of another cache stays. -/
theorem alertsExist_shop : ∃ after,
    Manifests.reconcileMonitoring (fun _ _ => none) (fun _ => true) (fun _ => []) {} "shop"
      (alerting "shop") sharedRule = (none, after) ∧
    AlertsExist "shop" (alerting "shop") sharedRule after ∧
    (after (Manifests.legacyRule (alerting "shop"))).isSome = true := by
  obtain ⟨after, h⟩ := Manifests.exists_reconcileMonitoring (fun _ => true) (fun _ => []) {} "shop"
    (alerting "shop") sharedRule
  have hexist : AlertsExist "shop" (alerting "shop") sharedRule after :=
    (alertsExist_iff (fun _ _ => none) (fun _ => true) (fun _ => []) {} "shop" (alerting "shop")
      sharedRule after rfl rfl h).2 (by decide)
  have hshared : sharedRule (Manifests.legacyRule (alerting "shop")) =
      some ⟨.other "alerts of blog", some "blog"⟩ := if_pos rfl
  exact ⟨after, h, hexist, hexist.kept _ _ "blog" rfl hshared rfl (by decide)⟩

/-- In a namespace without rule objects no call fails, and that of a cache called `cloud-vinyl` does
not exist afterwards. -/
theorem cloudVinyl_alertsMissing : ∃ after,
    Manifests.reconcileMonitoring (fun _ _ => none) (fun _ => true) (fun _ => []) {} "uid"
      (alerting "cloud-vinyl") (fun _ => none) = (none, after) ∧
    ¬AlertsExist "uid" (alerting "cloud-vinyl") (fun _ => none) after := by
  obtain ⟨after, h⟩ := Manifests.exists_reconcileMonitoring (fun _ => true) (fun _ => []) {} "uid"
    (alerting "cloud-vinyl") (fun _ => none)
  exact ⟨after, h, fun hall => (isSome_rule_iff rfl rfl h).1 hall.requested rfl⟩

end Alerts

end CloudVinyl.Controller
