import Mathlib.Data.List.Nodup
import CloudVinyl.Controller.StatefulSet
import CloudVinyl.Webhook.Defaulter

set_option relaxedAutoImplicit false
set_option autoImplicit false

/-!
# The listeners of a pod

The containers of a pod share one network, so that no two of them can listen on one port. Two of the
ports are the user's: that of the PROXY listener and that of the exporter. The webhook compares the
former with all others, and the latter with the former only.

## Main definitions

* `Controller.boundPorts` — the ports that the containers of a pod listen on.
* `Controller.ExporterApart` — the port of the exporter is none of the fixed ones.

## Main results

* `Controller.proxyPort_notMem` — the port of an accepted PROXY listener is none of the others.
* `Controller.boundPorts_nodup_iff` — the ports of an accepted resource are pairwise distinct just
  when that of the exporter is apart.
-/

namespace CloudVinyl.Controller

open Webhook (Conforms Std defaultVinylCache reservedPodPorts validateVinylCache)

/-- The ports that the containers of a pod listen on: those that they declare, and that of the admin
CLI. -/
def boundPorts (lower : Char → Char) (vc : VinylCache) : List ℤ :=
  adminPort :: (statefulSet lower vc).containers.flatMap fun c => c.ports.map (·.containerPort)

/-- The port of the exporter is none of those that every pod has, nor that of the tracer. -/
def ExporterApart (spec : VinylCacheSpec) : Prop :=
  ∀ exp, enabledExporter spec = some exp →
    effectiveExporterPort exp ∉ [varnishPort, adminPort, agentPort] ∧
      (spec.tracing.enabled = true → effectiveExporterPort exp ≠ tracerMetricsPort)

/-- The port of the PROXY listener, if there is one. -/
def proxyPorts (vc : VinylCache) : List ℤ :=
  if vc.spec.proxyProtocol.enabled then [proxyProtocolPort vc] else []

/-- The port of the exporter, if it is enabled. -/
def exporterPorts (spec : VinylCacheSpec) : List ℤ :=
  (enabledExporter spec).toList.map effectiveExporterPort

/-- The port of the tracer, if it is enabled. -/
def tracerPorts (spec : VinylCacheSpec) : List ℤ :=
  if spec.tracing.enabled then [tracerMetricsPort] else []

section Ports

variable {std : Std} {vc : VinylCache}

/-- The ports, from one container after the other. -/
lemma boundPorts_eq (lower : Char → Char) (vc : VinylCache) :
    boundPorts lower vc =
      adminPort :: varnishPort :: (proxyPorts vc ++ (agentPort ::
        (exporterPorts vc.spec ++ tracerPorts vc.spec))) := by
  have hvarnish : (varnishContainer lower vc).ports.map (·.containerPort) =
      varnishPort :: proxyPorts vc := by
    have hports : (varnishContainer lower vc).ports = ⟨"cache-http", varnishPort⟩ ::
        if vc.spec.proxyProtocol.enabled then [⟨"proxy", proxyProtocolPort vc⟩] else [] := rfl
    rw [hports, proxyPorts, List.map_cons]
    cases vc.spec.proxyProtocol.enabled <;> rfl
  have hexporter : ((enabledExporter vc.spec).toList.map fun exp =>
      buildExporterContainer exp (Webhook.effectiveFlavor vc.spec.flavor)).flatMap
        (fun c => c.ports.map (·.containerPort)) = exporterPorts vc.spec := by
    unfold exporterPorts
    cases enabledExporter vc.spec <;> rfl
  have htracer : (if vc.spec.tracing.enabled then [buildTracerContainer] else []).flatMap
      (fun c => c.ports.map (·.containerPort)) = tracerPorts vc.spec := by
    unfold tracerPorts
    cases vc.spec.tracing.enabled <;> rfl
  have hcontainers : (statefulSet lower vc).containers =
      varnishContainer lower vc :: agentContainer ::
        (((enabledExporter vc.spec).toList.map fun exp =>
          buildExporterContainer exp (Webhook.effectiveFlavor vc.spec.flavor)) ++
        if vc.spec.tracing.enabled then [buildTracerContainer] else []) := rfl
  rw [boundPorts, hcontainers, List.flatMap_cons, List.flatMap_cons, List.flatMap_append,
    hvarnish, hexporter, htracer]
  rfl

/-- A port that the webhook does not find in its table is none of those in it. -/
lemma notMem_of_lookup_eq_none {port : ℤ} (h : reservedPodPorts.lookup port = none) :
    port ∉ [varnishPort, adminPort, agentPort, exporterPort, tracerMetricsPort] := by
  have hkeys : reservedPodPorts.map Prod.fst =
      [varnishPort, adminPort, agentPort, exporterPort, tracerMetricsPort] := rfl
  rw [← hkeys]
  intro hmem
  obtain ⟨entry, hentry, rfl⟩ := List.mem_map.1 hmem
  have hnone := List.lookup_eq_none_iff.1 h entry hentry
  simp at hnone

/-- **The port of an accepted PROXY listener** is none of the others. -/
lemma proxyPort_notMem (h : Conforms std (defaultVinylCache vc).spec)
    (henabled : (defaultVinylCache vc).spec.proxyProtocol.enabled = true) :
    proxyProtocolPort (defaultVinylCache vc) ∉
      [adminPort, varnishPort] ++ (agentPort ::
        (exporterPorts (defaultVinylCache vc).spec ++
          tracerPorts (defaultVinylCache vc).spec)) := by
  have hport : proxyProtocolPort (defaultVinylCache vc) =
      (defaultVinylCache vc).spec.proxyProtocol.port :=
    if_pos (Webhook.defaultVinylCache_proxyPort vc henabled)
  obtain ⟨hlookup, hexporter⟩ := h.proxyPort henabled
  have hfixed := notMem_of_lookup_eq_none hlookup
  simp only [List.mem_cons, List.not_mem_nil, or_false, not_or] at hfixed
  obtain ⟨hvarnish, hadmin, hagent, hdefault, htracer⟩ := hfixed
  rw [hport]
  intro hmem
  rcases List.mem_append.1 hmem with hmem | hmem
  · simp [hadmin, hvarnish] at hmem
  rcases List.mem_cons.1 hmem with hmem | hmem
  · exact hagent hmem
  rcases List.mem_append.1 hmem with hmem | hmem
  · obtain ⟨exp, hexp, heq⟩ := List.mem_map.1 hmem
    obtain ⟨hsome, hon⟩ := Option.filter_eq_some_iff.1 (Option.mem_toList.1 hexp)
    unfold effectiveExporterPort at heq
    split at heq
    · exact hexporter exp hsome ⟨hon, heq⟩
    · exact hdefault heq.symm
  · unfold tracerPorts at hmem
    split at hmem
    · exact htracer (List.mem_singleton.1 hmem)
    · cases hmem

/-- The PROXY listener can be left out. -/
lemma nodup_proxyPorts_iff {vc : VinylCache} {before after : List ℤ}
    (h : vc.spec.proxyProtocol.enabled = true → proxyProtocolPort vc ∉ before ++ after) :
    (before ++ (proxyPorts vc ++ after)).Nodup ↔ (before ++ after).Nodup := by
  unfold proxyPorts
  split
  · next henabled =>
    rw [List.singleton_append, List.nodup_middle, List.nodup_cons]
    exact and_iff_right (h henabled)
  · rw [List.nil_append]

/-- Among the other ports, only that of the exporter can be taken. -/
lemma nodup_exporterPorts_iff (spec : VinylCacheSpec) :
    ([adminPort, varnishPort] ++ (agentPort :: (exporterPorts spec ++ tracerPorts spec))).Nodup ↔
      ExporterApart spec := by
  unfold ExporterApart exporterPorts tracerPorts
  cases enabledExporter spec with
  | none =>
    cases spec.tracing.enabled <;> simp [adminPort, varnishPort, agentPort, tracerMetricsPort]
  | some exp =>
    simp only [Option.some.injEq, forall_eq', Option.toList_some, List.map_singleton]
    generalize effectiveExporterPort exp = port
    cases spec.tracing.enabled
    · simp [adminPort, varnishPort, agentPort]
      omega
    · simp [adminPort, varnishPort, agentPort, tracerMetricsPort]
      omega

/-- **The ports of an accepted resource** are pairwise distinct just when the port of the exporter
is none of the fixed ones. -/
theorem boundPorts_nodup_iff (std : Std) (lower : Char → Char) (vc : VinylCache)
    (h : validateVinylCache std (defaultVinylCache vc) = none) :
    (boundPorts lower (defaultVinylCache vc)).Nodup ↔
      ExporterApart (defaultVinylCache vc).spec := by
  have hconforms := Webhook.validateVinylCache_eq_none_iff.1 h
  have hports := boundPorts_eq lower (defaultVinylCache vc)
  change _ = [adminPort, varnishPort] ++ (proxyPorts _ ++ _) at hports
  rw [hports, nodup_proxyPorts_iff (proxyPort_notMem hconforms), nodup_exporterPorts_iff]

end Ports

/-! ### The exporter on the port of the agent -/

/-- A cache with an exporter. -/
def exporting (port : ℤ) : VinylCache where
  namespace_ := "prod"
  name := "shop"
  spec := { exporter := some ⟨true, port⟩, proxyProtocol := ⟨true, 0⟩ }

/-- An exporter on a port of its own. -/
theorem boundPorts_nodup_iff_exporting :
    ExporterApart (defaultVinylCache (exporting 9200)).spec ∧
      (boundPorts Char.toLower (defaultVinylCache (exporting 9200))).Nodup := by
  have hapart : ExporterApart (defaultVinylCache (exporting 9200)).spec := by
    intro exp hexp
    obtain rfl := Option.some.inj hexp
    decide
  refine ⟨hapart, ?_⟩
  exact (boundPorts_nodup_iff Webhook.asciiStd Char.toLower (exporting 9200)
    (by decide +kernel)).2 hapart

/-- An exporter on the port of the agent is accepted, and both listen there. -/
theorem exporting_agentPort :
    validateVinylCache Webhook.asciiStd (defaultVinylCache (exporting 9090)) = none ∧
      boundPorts Char.toLower (defaultVinylCache (exporting 9090)) =
        [6082, 8080, 8081, 9090, 9090] ∧
      ¬(boundPorts Char.toLower (defaultVinylCache (exporting 9090))).Nodup := by
  decide +kernel

end CloudVinyl.Controller
