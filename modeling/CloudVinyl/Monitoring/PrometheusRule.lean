import CloudVinyl.Lib.PromQL
import CloudVinyl.Lib.Words
import Mathlib.Data.Rat.Init
import Mathlib.Algebra.Order.Ring.Unbundled.Rat

set_option relaxedAutoImplicit false
set_option autoImplicit false

/-!
# The alerts of a cache

`GeneratePrometheusRule` of `internal/monitoring/prometheusrule.go` makes one rule object for a
cache, with ten alerts. The metrics of the operator carry the name of the cache, while those of the
exporter know nothing of caches: they are selected by the names of the pods of the StatefulSet, and
the name of the cache is taken out of the name of the pod again.

## Main definitions

* `Monitoring.podSelector`, `Monitoring.withCacheLabel` — the two directions between the names of
  caches and of pods.
* `Monitoring.generatePrometheusRule` — the rule object.

## Main results

* `Monitoring.alerts_select` — the matcher of a cache selects its pods among all pods, and a series
  of a pod gets the name of its cache.
-/

namespace CloudVinyl.Monitoring

open PromQL (quote Matcher LabelReplace)

/-! ## Expressions -/

/-- `appName` -/
def appName : Text := "cloud-vinyl"

/-- One alert: its name, its expression and how long it has to hold. -/
structure Rule where
  alert : Text
  expr : Text
  for_ : Text

/-- A group of alerts. -/
structure RuleGroup where
  name : Text
  rules : List Rule

/-- The rule object of a cache. -/
structure PrometheusRule where
  name : Text
  namespace_ : Text
  labels : List (Text × Text)
  groups : List RuleGroup

/-- `LegacyPrometheusRuleName`: the name that all caches shared. -/
def legacyPrometheusRuleName : Text := "cloud-vinyl-alerts"

/-- `PrometheusRuleName` -/
def prometheusRuleName (cache : Text) : Text := cache ++ "-alerts"

/-- `Options`: what can be chosen for the alerts. -/
structure Options where
  /-- The hit ratio below which the alert fires; zero stands for the default. -/
  lowHitRatioThreshold : ℚ := 0
  /-- How long it has to stay below; empty stands for the default. -/
  lowHitRatioFor : Text := []

/-- `braces` -/
def braces (matchers : Text) : Text :=
  if matchers = [] then [] else "\x7b" ++ matchers ++ "\x7d"

/-- `join` -/
def join (matchers : List Text) : Text := [','].intercalate (matchers.filter (· ≠ []))

/-- `withCacheLabel` -/
def withCacheLabel (expr : Text) : Text :=
  "label_replace(" ++ expr ++ ", \"cache\", \"$1\", \"pod\", \"(.+)-[0-9]+\")"

/-- `lowHitRatioExpr` -/
def lowHitRatioExpr (podSelector threshold : Text) : Text :=
  let hit : Text :=
    "sum by (namespace, pod) (rate(varnish_main_cache_hit" ++ braces podSelector ++ "[5m]))"
  let miss : Text :=
    "sum by (namespace, pod) (rate(varnish_main_cache_miss" ++ braces podSelector ++ "[5m]))"
  withCacheLabel (hit ++ " / (" ++ hit ++ " + " ++ miss ++ ")") ++ " < " ++ threshold

/-- The matchers for the series of the operator. -/
def cacheSelector (cache namespace_ : Text) : Text :=
  "cache=" ++ quote cache ++ ",cache_namespace=" ++ quote namespace_

/-- The matchers for the series of the exporter. -/
def podSelector (cache namespace_ : Text) : Text :=
  "namespace=" ++ quote namespace_ ++ ",pod=~" ++ quote (Regexp.quoteMeta cache ++ "-[0-9]+")

section Alerts

variable (formatFloat : ℚ → Text)

/-- `Options.lowHitRatio`: the threshold and the duration; `formatFloat` is
`strconv.FormatFloat`. -/
def Options.lowHitRatio (o : Options) : Text × Text :=
  let t := if o.lowHitRatioThreshold ≤ 0 then 1 / 2 else o.lowHitRatioThreshold
  (formatFloat t, if o.lowHitRatioFor = [] then "15m" else o.lowHitRatioFor)

/-- `allAlerts`, without severities and annotations. -/
def allAlerts (cacheSel podSel : Text) (opts : Options) : List Rule :=
  let (threshold, lowHitFor) := opts.lowHitRatio formatFloat
  let errors := braces (join ["result=\"error\"".toList, cacheSel])
  [{ alert := "VinylCacheVCLSyncFailed"
     expr := "rate(vinyl_vcl_push_total" ++ errors ++ "[5m]) > 0"
     for_ := "5m" },
   { alert := "VinylCachePartialVCLSync"
     expr := "vinyl_partial_failure_total" ++ braces cacheSel ++ " > 0"
     for_ := "2m" },
   { alert := "VinylCacheAllPodsUnreachable"
     expr := "rate(vinyl_vcl_push_total" ++ errors ++ "[5m]) > 0 and vinyl_reconcile_total" ++
       errors ++ " > 0"
     for_ := "1m" },
   { alert := "VinylCacheBackendUnhealthy"
     expr := withCacheLabel ("varnish_backend_happy" ++ braces podSel) ++ " == 0"
     for_ := "5m" },
   { alert := "VinylCacheLowHitRatio"
     expr := lowHitRatioExpr podSel threshold
     for_ := lowHitFor },
   { alert := "VinylCacheHighInvalidationRate"
     expr := "rate(vinyl_invalidation_total" ++ braces cacheSel ++ "[5m]) > 100"
     for_ := "5m" },
   { alert := "VinylCacheReconcileErrors"
     expr := "rate(vinyl_reconcile_total" ++ errors ++ "[5m]) > 0"
     for_ := "5m" },
   { alert := "VinylCacheOperatorDown"
     expr := "absent(vinyl_reconcile_total)"
     for_ := "5m" },
   { alert := "VinylCacheVCLDrift"
     expr := "vinyl_vcl_versions_loaded" ++ braces cacheSel ++ " > 2"
     for_ := "10m" },
   { alert := "VinylCacheBroadcastFailures"
     expr := "sum by (cache_namespace, cache) (rate(vinyl_broadcast_total" ++ errors ++
       "[5m])) > 0.1"
     for_ := "5m" }]

/-- `GeneratePrometheusRule` -/
def generatePrometheusRule (cache namespace_ : Text) (opts : Options) : PrometheusRule where
  name := prometheusRuleName cache
  namespace_ := namespace_
  labels := [("app.kubernetes.io/name".toList, appName),
    ("app.kubernetes.io/part-of".toList, appName)]
  groups := [⟨appName, allAlerts formatFloat (cacheSelector cache namespace_)
    (podSelector cache namespace_) opts⟩]

end Alerts

/-! ## Names of pods -/

/-- The name of a pod of the StatefulSet of a cache. -/
def podName (cache : Text) (ordinal : ℕ) : Text := cache ++ "-" ++ Text.decimal ordinal

/-- The arguments with which `withCacheLabel` calls `label_replace`. -/
def cacheLabel : LabelReplace where
  dst := "cache"
  replacement := "$1"
  src := "pod"
  regex := "(.+)-[0-9]+"

/-- The matcher for the pods of a cache. -/
def podMatcher (cache : Text) : Matcher where
  label := "pod"
  op := .regexp
  value := Regexp.quoteMeta cache ++ "-[0-9]+"

section Names

open Regexp

/-- The text around an expression is that of the replacement of its label. -/
lemma withCacheLabel_eq (expr : Text) : withCacheLabel expr = cacheLabel.render expr := by
  have hargs : (", \"cache\", \"$1\", \"pod\", \"(.+)-[0-9]+\")" : Text) =
      cacheLabel.arguments := by decide +kernel
  exact congrArg (fun t => "label_replace(" ++ expr ++ t) hargs

/-- The text of the matchers is read as a matcher for the namespace and one for the pods. -/
lemma readMatchers_podSelector (cache namespace_ : Text) :
    PromQL.readMatchers (podSelector cache namespace_) =
      some [⟨"namespace", .equal, namespace_⟩, podMatcher cache] := by
  have hfirst : ("namespace=" : Text) = "namespace" ++ ['='] := by decide +kernel
  have hsecond : (",pod=~" : Text) = ',' :: ("pod" ++ ['=', '~']) := by decide +kernel
  have hshape : podSelector cache namespace_ = "namespace" ++ '=' :: (quote namespace_ ++
      ',' :: ("pod" ++ '=' :: '~' :: (quote (podMatcher cache).value ++ []))) := by
    calc podSelector cache namespace_
        = "namespace" ++ ['='] ++ quote namespace_ ++ ',' :: ("pod" ++ ['=', '~']) ++
            quote (podMatcher cache).value :=
          congrArg₂ (fun a b => a ++ quote namespace_ ++ b ++ quote (podMatcher cache).value)
            hfirst hsecond
      _ = _ := by
          simp only [List.append_assoc, List.cons_append, List.nil_append, List.append_nil]
  have hcomma : ∀ s, PromQL.read .done (',' :: s) = PromQL.read (.label []) s := fun _ => rfl
  rw [PromQL.readMatchers, hshape, PromQL.read_equal _ (by decide +kernel), hcomma,
    PromQL.read_regexp _ (by decide +kernel)]
  rfl

/-- The tail `-[0-9]+` of an expression. -/
lemma parse_podMatcher (cache : Text) : parse (podMatcher cache).value =
    some (cache.map (fun c => ⟨.one c, false, 0⟩) ++
      [⟨.one '-', false, 0⟩, ⟨.range '0' '9', true, 0⟩]) := by
  have htail : lex "-[0-9]+" =
      some [.set (.one '-'), .set (.range '0' '9'), .plus] := by decide +kernel
  rw [podMatcher, parse, lex_quoteMeta, htail, Option.map_some, Option.bind_some, assemble_chars]
  rfl

/-- A dash and a number. -/
lemma fits_ordinal_iff {ws : List Text} :
    Fits [⟨.one '-', false, 0⟩, ⟨.range '0' '9', true, 0⟩] ws ↔
      ∃ w, w ≠ [] ∧ (∀ c ∈ w, '0' ≤ c ∧ c ≤ '9') ∧ ws = [['-'], w] := by
  rw [fits_cons_iff]
  constructor
  · rintro ⟨dash, rest, hdash, hrest, rfl⟩
    obtain ⟨w, last, ⟨hne, hmem, -⟩, hlast, rfl⟩ := fits_cons_iff.1 hrest
    obtain rfl := List.forall₂_nil_left_iff.1 hlast
    refine ⟨w, hne, fun c hc => ?_, by rw [takes_one_iff.1 hdash]⟩
    simpa [CharSet.mem] using hmem c hc
  · rintro ⟨w, hne, hmem, rfl⟩
    refine ⟨['-'], [w], takes_one_iff.2 rfl, .cons ⟨hne, fun c hc => ?_, ?_⟩ .nil, rfl⟩
    · simpa [CharSet.mem] using hmem c hc
    · exact fun h => absurd h (by decide)

/-- A decimal has digits only. -/
lemma range_of_mem_decimal {n : ℕ} {c : Char} (hc : c ∈ Text.decimal n) : '0' ≤ c ∧ c ≤ '9' := by
  simpa [Char.isDigit, Char.le_def] using Text.isDigit_of_mem_decimal hc

/-- The name of a pod ends in one way in a dash and a number.

**Proof sketch.** The number has no dash, so the cut is at the last one. -/
lemma eq_of_podName_eq {d l w : Text} {n : ℕ} (hw : ∀ c ∈ w, '0' ≤ c ∧ c ≤ '9')
    (h : l ++ '-' :: w = podName d n) : l = d := by
  have hdash : ∀ {w : Text}, (∀ c ∈ w, '0' ≤ c ∧ c ≤ '9') → '-' ∉ w := fun hw hmem =>
    absurd (hw _ hmem) (by decide)
  have hname : podName d n = d ++ '-' :: Text.decimal n := by
    rw [podName, List.append_assoc]
    rfl
  rw [hname] at h
  exact (Words.append_cons_inj_right (hdash hw) (hdash fun c hc => range_of_mem_decimal hc) h).1

/-- The matcher of a cache selects a pod just when it is a pod of that cache. -/
lemma podMatcher_selects_iff (c d : Text) (n : ℕ) {labels : Table Text Text}
    (h : labels "pod" = some (podName d n)) : (podMatcher c).selects labels = true ↔ c = d := by
  have hvalue : PromQL.labelValue labels "pod" = podName d n := by
    rw [PromQL.labelValue, h, Option.getD_some]
  have hselects : (podMatcher c).selects labels =
      (find (podMatcher c).value (PromQL.labelValue labels "pod")).isSome := rfl
  rw [hselects, hvalue, find_isSome_iff (parse_podMatcher c)]
  constructor
  · rintro ⟨ws, hfits, hflat⟩
    obtain ⟨ws', hfits', rfl⟩ := fits_chars_append_iff.1 hfits
    obtain ⟨w, -, hw, rfl⟩ := fits_ordinal_iff.1 hfits'
    have hflat' : c ++ '-' :: w = podName d n := by
      rw [← hflat, List.flatten_append]
      simp [← List.flatMap_def]
    exact eq_of_podName_eq hw hflat'
  · rintro rfl
    refine ⟨c.map (fun d => [d]) ++ [['-'], Text.decimal n], ?_, ?_⟩
    · exact fits_chars_append_iff.2 ⟨_, fits_ordinal_iff.2 ⟨_, Text.decimal_ne_nil n,
        fun c hc => range_of_mem_decimal hc, rfl⟩, rfl⟩
    · rw [List.flatten_append, podName]
      simp [← List.flatMap_def]

/-- The pattern for the names of pods. -/
lemma parse_cacheLabel : parse cacheLabel.regex =
    some [⟨.any, true, 1⟩, ⟨.one '-', false, 0⟩, ⟨.range '0' '9', true, 0⟩] := by decide +kernel

/-- A series of a pod gets the name of its cache.

**Proof sketch.** The name of the pod matches, with the name of the cache for the group. In whatever
way it matches, the group is what stands in front of the last dash. -/
lemma cacheLabel_apply {d : Text} (hd : d ≠ []) (n : ℕ) {labels : Table Text Text}
    (h : labels "pod" = some (podName d n)) : cacheLabel.apply labels "cache" = some d := by
  have hvalue : PromQL.labelValue labels cacheLabel.src = podName d n := by
    have hsrc : labels cacheLabel.src = some (podName d n) := h
    rw [PromQL.labelValue, hsrc, Option.getD_some]
  have hsome : (find cacheLabel.regex (podName d n)).isSome = true := by
    rw [find_isSome_iff parse_cacheLabel]
    refine ⟨[d, ['-'], Text.decimal n], ?_, by simp [podName]⟩
    exact fits_cons_iff.2 ⟨d, _, ⟨hd, fun _ _ => rfl, fun h => absurd h (by decide)⟩,
      fits_ordinal_iff.2 ⟨_, Text.decimal_ne_nil n, fun c hc => range_of_mem_decimal hc, rfl⟩, rfl⟩
  obtain ⟨g, hg⟩ := Option.isSome_iff_exists.1 hsome
  obtain ⟨ws, hfits, hflat, hgroup⟩ := exists_fits_of_find parse_cacheLabel hg
  obtain ⟨l, rest, -, hrest, rfl⟩ := fits_cons_iff.1 hfits
  obtain ⟨w, -, hw, rfl⟩ := fits_ordinal_iff.1 hrest
  have hone : g 1 = d := by
    have hl : l = d := eq_of_podName_eq hw (by simpa using hflat)
    rw [hgroup 1 Nat.one_ne_zero, ← hl]
    simp [groupText]
  have hexpand : PromQL.expand g none cacheLabel.replacement = g 1 := by
    have htemplate : cacheLabel.replacement = ['$', '1'] := by decide +kernel
    rw [htemplate]
    rfl
  rw [← hone, ← hexpand]
  refine LabelReplace.apply_of_find (by rw [hvalue, hg]) ?_
  rwa [hexpand, hone]

end Names

/-- **Alerts name and select the right cache.** The matchers in the expressions of a cache are read
as one for the namespace and one for the pods, and the latter selects the pods of that cache among
those of all caches. In the other direction, `withCacheLabel` is a call of `label_replace` that
gives a series of a pod the name of its cache. -/
theorem alerts_select (c d namespace_ : Text) (hd : d ≠ []) (n : ℕ) (labels : Table Text Text)
    (h : labels "pod" = some (podName d n)) :
    (PromQL.readMatchers (podSelector c namespace_) =
        some [⟨"namespace", .equal, namespace_⟩, podMatcher c] ∧
      ((podMatcher c).selects labels = true ↔ c = d)) ∧
    ((∀ expr, withCacheLabel expr = cacheLabel.render expr) ∧
      cacheLabel.apply labels "cache" = some d) :=
  ⟨⟨readMatchers_podSelector c namespace_, podMatcher_selects_iff c d n h⟩,
    withCacheLabel_eq, cacheLabel_apply hd n h⟩

/-- The theorem at two caches of which the name of one is that of the other with a number: the pod
`shop-1-0` is not one of `shop`. -/
theorem alerts_select_shop :
    ((podMatcher "shop").selects (Table.ofList [("pod".toList, podName "shop-1" 0)]) = true ↔
      ("shop" : Text) = "shop-1") ∧
    cacheLabel.apply (Table.ofList [("pod".toList, podName "shop-1" 0)]) "cache" =
      some "shop-1".toList :=
  have hall := alerts_select "shop" "shop-1" "prod" (by decide) 0
    (Table.ofList [("pod".toList, podName "shop-1" 0)]) rfl
  ⟨hall.1.2, hall.2.2⟩

end CloudVinyl.Monitoring
