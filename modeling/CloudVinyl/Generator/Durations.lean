import Mathlib.Data.Int.Log
import CloudVinyl.Generator.Generate
import CloudVinyl.Lib.Patterns

set_option relaxedAutoImplicit false
set_option autoImplicit false

/-!
# Durations in the generated text

`fmtDuration` prints a duration as a whole number of hours, of minutes or of seconds, whichever is
the greatest unit that fits. The number is rounded, so that the text denotes the duration just when
that unit divides it. The bound of a retry, on the other hand, is printed in seconds by
`FormatFloat`. A backend's `.first_byte_timeout` and the bound of its group agree just when nothing
was rounded.

The two numbers that matter are converted to `float64` on the way; what is needed of it is that
whole numbers below `2 ^ 53` are kept and that no number is carried over a bound that it represents.

## Main definitions

* `Generator.vclDuration` — the number of seconds that a duration of VCL denotes.
* `Generator.WholeUnits` — the durations that are a whole number of their greatest unit.
* `Generator.ReadsBound` — an engine reads the bound of a group as a bound of the elapsed time.

## Main results

* `Generator.le_float64`, `Generator.float64_le` — a `float64` that bounds a number bounds its
  conversion.
* `Generator.vclDuration_fmtDuration_iff` — which durations survive `fmtDuration`.
* `Generator.fmtDuration_exact_iff` — the same with what follows for the retry of a fetch.
-/

namespace CloudVinyl.Generator

open Vcl (Engine State exec)

/-! ## Rounding -/

section Rounding

variable {q : ℚ} {n : ℤ}

/-- The nearest integer is next to the number. -/
lemma roundEven_bounds (q : ℚ) : ⌊q⌋ ≤ roundEven q ∧ roundEven q ≤ ⌊q⌋ + 1 := by
  unfold roundEven
  dsimp only
  split_ifs <;> omega

/-- An integer is not rounded. -/
@[simp] lemma roundEven_intCast (n : ℤ) : roundEven n = n := by
  simp [roundEven]

/-- An integer below a number is below its rounding. -/
lemma le_roundEven (h : n ≤ q) : n ≤ roundEven q :=
  (Int.le_floor.2 h).trans (roundEven_bounds q).1

/-- An integer above a number is above its rounding. -/
lemma roundEven_le (h : q ≤ n) : roundEven q ≤ n := by
  rcases h.eq_or_lt with rfl | hlt
  · rw [roundEven_intCast]
  · have hfloor : ⌊q⌋ < n := Int.floor_lt.2 hlt
    have hround := (roundEven_bounds q).2
    omega

/-- The distance of `float64` numbers next to a number. -/
def ulp (q : ℚ) : ℚ := 2 ^ (Int.log 2 |q| - 52)

/-- The unit in the last place is positive. -/
lemma ulp_pos (q : ℚ) : 0 < ulp q := zpow_pos (by norm_num) _

/-- The conversion of a number other than zero. -/
lemma float64_eq (h : q ≠ 0) : float64 q = roundEven (q / ulp q) * ulp q := if_neg h

/-- A multiple of a power of two that is not finer is a whole number of units. -/
lemma div_ulp_eq {e : ℤ} (m : ℤ) (he : Int.log 2 |q| - 52 ≤ e) :
    ∃ k : ℤ, (m * 2 ^ e : ℚ) / ulp q = k := by
  obtain ⟨j, hj⟩ := Int.eq_ofNat_of_zero_le (Int.sub_nonneg.2 he)
  refine ⟨m * 2 ^ j, ?_⟩
  rw [ulp, mul_div_assoc, ← zpow_sub₀ (by norm_num), hj, zpow_natCast]
  push_cast
  rfl

/-- **A number is not carried below a `float64` under it.** -/
lemma le_float64 {m e : ℤ} (hq : q ≠ 0) (he : Int.log 2 |q| - 52 ≤ e) (h : m * 2 ^ e ≤ q) :
    m * 2 ^ e ≤ float64 q := by
  obtain ⟨k, hk⟩ := div_ulp_eq m he
  have hle : (k : ℚ) ≤ q / ulp q := hk ▸ div_le_div_of_nonneg_right h (ulp_pos q).le
  have hround : (k : ℚ) ≤ roundEven (q / ulp q) := by exact_mod_cast le_roundEven hle
  rw [float64_eq hq, ← div_le_iff₀ (ulp_pos q), hk]
  exact hround

/-- **A number is not carried above a `float64` over it.** -/
lemma float64_le {m e : ℤ} (hq : q ≠ 0) (he : Int.log 2 |q| - 52 ≤ e) (h : q ≤ m * 2 ^ e) :
    float64 q ≤ m * 2 ^ e := by
  obtain ⟨k, hk⟩ := div_ulp_eq m he
  have hle : q / ulp q ≤ (k : ℚ) := hk ▸ div_le_div_of_nonneg_right h (ulp_pos q).le
  have hround : (roundEven (q / ulp q) : ℚ) ≤ k := by exact_mod_cast roundEven_le hle
  rw [float64_eq hq, ← le_div_iff₀ (ulp_pos q), hk]
  exact hround

/-- The exponent of a number below a power of two. -/
lemma log_le_of_lt {k : ℤ} (hq : 0 < q) (h : q < 2 ^ (k + 1)) : Int.log 2 |q| ≤ k := by
  have hlog : Int.log 2 q < k + 1 :=
    (Int.lt_zpow_iff_log_lt (by norm_num) hq).1 (by exact_mod_cast h)
  rw [abs_of_pos hq]
  omega

/-- **Whole numbers below `2 ^ 53` are kept.** -/
lemma float64_natCast {n : ℕ} (h : n < 2 ^ 53) : float64 n = n := by
  rcases Nat.eq_zero_or_pos n with rfl | hpos
  · rw [Nat.cast_zero]
    exact if_pos rfl
  have hq : (0 : ℚ) < n := by exact_mod_cast hpos
  have hlog : Int.log 2 |(n : ℚ)| ≤ 52 := log_le_of_lt hq (by exact_mod_cast h)
  have hle := le_float64 (m := n) (e := 0) hq.ne' (by omega) (by simp)
  have hge := float64_le (m := n) (e := 0) hq.ne' (by omega) (by simp)
  simp only [zpow_zero, mul_one, Int.cast_natCast] at hle hge
  exact le_antisymm hge hle

/-- A number from one on stays there. -/
lemma one_le_float64 (h : 1 ≤ q) (hlt : q < 2 ^ 53) : 1 ≤ float64 q := by
  have hpos : 0 < q := lt_of_lt_of_le one_pos h
  have hlog : Int.log 2 |q| ≤ 52 := log_le_of_lt hpos (by exact_mod_cast hlt)
  have hle := le_float64 (m := 1) (e := 0) hpos.ne' (by omega) (by simpa using h)
  simpa using hle

/-- A number that is not next to one stays below one. -/
lemma float64_le_of_le (hq : 0 ≤ q) (h : q ≤ 4095 / 4096) : float64 q ≤ 4095 / 4096 := by
  rcases hq.eq_or_lt with rfl | hpos
  · rw [float64, if_pos rfl]
    norm_num
  have hlog : Int.log 2 |q| ≤ -1 := log_le_of_lt hpos (by norm_num; linarith)
  have hbound : ((4095 : ℤ) : ℚ) * 2 ^ (-12 : ℤ) = 4095 / 4096 := by norm_num
  have hle := float64_le (m := 4095) (e := -12) hpos.ne' (by omega) (by rw [hbound]; exact h)
  rwa [hbound] at hle

/-- The conversion keeps the sign. -/
lemma float64_nonneg (hq : 0 ≤ q) : 0 ≤ float64 q := by
  rcases hq.eq_or_lt with rfl | hpos
  · rw [float64, if_pos rfl]
  · have hround : 0 ≤ roundEven (q / ulp q) :=
      le_roundEven (by exact_mod_cast (div_pos hpos (ulp_pos q)).le)
    rw [float64_eq hpos.ne']
    exact mul_nonneg (by exact_mod_cast hround) (ulp_pos q).le

end Rounding

/-! ## Whole seconds in a unit -/

section Units

/-- A `time.Duration` of whole seconds. -/
def ofSeconds (d : ℕ) : ℤ := d * 1000000000

variable {d u : ℕ}

/-- `Duration.Hours` counts 3600 seconds. -/
lemma hours_eq (d : ℤ) : hours d = durationIn (ofSeconds 3600) d := rfl

/-- `Duration.Minutes` counts 60 seconds. -/
lemma minutes_eq (d : ℤ) : minutes d = durationIn (ofSeconds 60) d := rfl

/-- `Duration.Seconds` counts single seconds. -/
lemma seconds_eq (d : ℤ) : seconds d = durationIn (ofSeconds 1) d := rfl

/-- The whole units and the rest, as they are converted. -/
lemma durationIn_ofSeconds (hu : 0 < u) (hu' : u ≤ 3600) (hd : d < 2 ^ 53) :
    durationIn (ofSeconds u) (ofSeconds d) =
      float64 ((d / u : ℕ) + float64 ((d % u : ℕ) / u)) := by
  have hdiv : (ofSeconds d).tdiv (ofSeconds u) = (d / u : ℕ) := by
    unfold ofSeconds
    rw [Int.mul_tdiv_mul_of_pos_left _ _ (by norm_num)]
    rfl
  have hmod : (ofSeconds d).tmod (ofSeconds u) = (d % u * 1000000000 : ℕ) := by
    have hcast : ∀ n : ℕ, ofSeconds n = (n * 1000000000 : ℕ) := fun n => by simp [ofSeconds]
    rw [hcast, hcast, ← Int.ofNat_tmod, Nat.mul_mod_mul_right]
  have hwhole : float64 ((d / u : ℕ) : ℚ) = (d / u : ℕ) :=
    float64_natCast ((Nat.div_le_self d u).trans_lt hd)
  have hrest : float64 ((d % u * 1000000000 : ℕ) : ℚ) = (d % u * 1000000000 : ℕ) := by
    have := Nat.mod_lt d hu
    exact float64_natCast (by omega)
  have hunit : ((d % u * 1000000000 : ℕ) : ℚ) / (ofSeconds u : ℚ) = (d % u : ℕ) / u := by
    simp only [ofSeconds]
    push_cast
    rw [mul_div_mul_right _ _ (by norm_num)]
  rw [durationIn, hdiv, hmod, Int.cast_natCast, Int.cast_natCast, hwhole, hrest, hunit]

/-- A whole number of units is kept. -/
lemma durationIn_of_dvd (hu : 0 < u) (hu' : u ≤ 3600) (hd : d < 2 ^ 53) (h : u ∣ d) :
    durationIn (ofSeconds u) (ofSeconds d) = (d / u : ℕ) := by
  have hzero : float64 ((d % u : ℕ) / u) = 0 := by
    rw [Nat.mod_eq_zero_of_dvd h, Nat.cast_zero, zero_div]
    exact if_pos rfl
  rw [durationIn_ofSeconds hu hu' hd, hzero, add_zero]
  exact float64_natCast ((Nat.div_le_self d u).trans_lt hd)

/-- What is converted for the rest is below one. -/
lemma float64_rest_le (hu : 0 < u) (hu' : u ≤ 3600) (r : ℕ) (hr : r < u) :
    float64 ((r : ℚ) / u) ≤ 4095 / 4096 := by
  have hr' : (r : ℚ) + 1 ≤ u := by exact_mod_cast hr
  have hu3600 : (u : ℚ) ≤ 3600 := by exact_mod_cast hu'
  have hupos : (0 : ℚ) < u := by exact_mod_cast hu
  refine float64_le_of_le (by positivity) ?_
  rw [div_le_iff₀ hupos]
  linarith

/-- **The unit fits just when the duration has that many seconds.** -/
lemma one_le_durationIn_iff (hu : 0 < u) (hu' : u ≤ 3600) (hd : d < 2 ^ 52) :
    1 ≤ durationIn (ofSeconds u) (ofSeconds d) ↔ u ≤ d := by
  have hrest := float64_rest_le hu hu' (d % u) (Nat.mod_lt d hu)
  have hnonneg : 0 ≤ float64 ((d % u : ℕ) / (u : ℚ)) := float64_nonneg (by positivity)
  rw [durationIn_ofSeconds hu hu' (by omega)]
  constructor
  · intro h
    by_contra hlt
    rw [Nat.div_eq_of_lt (not_le.1 hlt), Nat.cast_zero, zero_add] at h
    have hle := float64_le_of_le hnonneg hrest
    linarith
  · intro h
    have hone : (1 : ℚ) ≤ (d / u : ℕ) := by exact_mod_cast Nat.div_pos h hu
    have hwhole : ((d / u : ℕ) : ℚ) < 2 ^ 52 := by
      exact_mod_cast (Nat.div_le_self d u).trans_lt hd
    refine one_le_float64 (by linarith) ?_
    calc ((d / u : ℕ) : ℚ) + float64 ((d % u : ℕ) / u) < 2 ^ 52 + 1 := by linarith
      _ < 2 ^ 53 := by norm_num

end Units

/-! ## The meaning of a duration in VCL -/

/-- The characters of a number. -/
def numeral (c : Char) : Bool := c.isDigit || c = '.'

/-- A number with or without a fraction. -/
def vclNumber (s : Text) : Option ℚ :=
  match s.splitOn '.' with
  | [whole] => (Text.parseUint whole).map fun n : ℕ => (n : ℚ)
  | [whole, fraction] => do
    let n ← Text.parseUint whole
    let f ← Text.parseUint fraction
    return n + f / 10 ^ fraction.length
  | _ => none

/-- The units, in seconds. -/
def vclUnits : List (Text × ℚ) :=
  [("ms", 1 / 1000), ("s", 1), ("m", 60), ("h", 3600), ("d", 86400), ("w", 604800),
    ("y", 31536000)]

/-- The number of seconds that a duration denotes: a number with a unit behind it. -/
def vclDuration (text : Text) : Option ℚ := do
  let number ← vclNumber (text.takeWhile numeral)
  let unit ← vclUnits.lookup (text.dropWhile numeral)
  return number * unit

/-- A whole number with a unit behind it. -/
lemma vclDuration_decimal (n : ℕ) {unit : Text} {seconds : ℚ}
    (hunit : vclUnits.lookup unit = some seconds) (hstops : Patterns.Stops numeral unit) :
    vclDuration (Text.decimal n ++ unit) =
      (Text.parseUint (Text.decimal n)).map fun k : ℕ => (k : ℚ) * seconds := by
  have hdigits : ∀ c ∈ Text.decimal n, numeral c = true := fun c hc => by
    simp [numeral, Text.isDigit_of_mem_decimal hc]
  have hsplit : (Text.decimal n).splitOn '.' = [Text.decimal n] := by
    rw [List.splitOn_eq_splitOnP]
    refine List.splitOnP_eq_singleton fun c hc => ?_
    have hdigit := Text.isDigit_of_mem_decimal hc
    have hne : c ≠ '.' := by
      rintro rfl
      exact absurd hdigit (by decide)
    simpa using hne
  have hnumber : vclNumber (Text.decimal n) =
      (Text.parseUint (Text.decimal n)).map fun k : ℕ => (k : ℚ) := by
    rw [vclNumber, hsplit]
  rw [vclDuration, Patterns.takeWhile_of_stops hdigits hstops,
    Patterns.dropWhile_of_stops hdigits hstops, hunit, hnumber]
  cases Text.parseUint (Text.decimal n) with
  | none => rfl
  | some k => rfl

/-! ## What fmtDuration keeps -/

/-- A whole number of the greatest unit that fits. -/
def WholeUnits (d : ℕ) : Prop := d < 60 ∨ d < 3600 ∧ 60 ∣ d ∨ 3600 ∣ d

/-- Whether a duration has whole units can be decided. -/
instance : DecidablePred WholeUnits := fun d =>
  inferInstanceAs (Decidable (d < 60 ∨ d < 3600 ∧ 60 ∣ d ∨ 3600 ∣ d))

section FmtDuration

variable {d : ℕ}

/-- A number of units as it is printed: without a sign. -/
lemma formatF0_of_nonneg {q : ℚ} (h : 0 ≤ q) : formatF0 q = Text.decimal (roundEven q).toNat := by
  rw [formatF0, if_neg (not_lt.2 h), abs_of_nonneg h]
  rfl

/-- **A duration survives being printed in a unit just when the unit divides it.**

**Proof sketch.** Whatever number is printed, it is a whole one, so the text denotes a multiple of
the unit. If the duration is one, its number of units is converted and printed exactly. -/
lemma vclDuration_durationIn_iff {u : ℕ} (hu : 0 < u) (hu' : u ≤ 3600) (hd : d < 2 ^ 52)
    {unit : Text} (hunit : vclUnits.lookup unit = some (u : ℚ))
    (hstops : Patterns.Stops numeral unit) :
    vclDuration (formatF0 (durationIn (ofSeconds u) (ofSeconds d)) ++ unit) = some (d : ℚ) ↔
      u ∣ d := by
  constructor
  · intro h
    have hnonneg : 0 ≤ durationIn (ofSeconds u) (ofSeconds d) := by
      rw [durationIn_ofSeconds hu hu' (by omega)]
      exact float64_nonneg (add_nonneg (Nat.cast_nonneg _) (float64_nonneg (by positivity)))
    rw [formatF0_of_nonneg hnonneg, vclDuration_decimal _ hunit hstops] at h
    obtain ⟨k, -, hk⟩ := Option.map_eq_some_iff.1 h
    have hmul : k * u = d := by exact_mod_cast hk
    exact ⟨k, by rw [← hmul, Nat.mul_comm]⟩
  · intro h
    have hprint := durationIn_of_dvd hu hu' (show d < 2 ^ 53 by omega) h
    have hrange : d / u < 2 ^ 64 := (Nat.div_le_self d u).trans_lt (by omega)
    have hround : (roundEven ((d / u : ℕ) : ℚ)).toNat = d / u := by
      rw [← Int.cast_natCast, roundEven_intCast, Int.toNat_natCast]
    rw [hprint, formatF0_of_nonneg (Nat.cast_nonneg _), hround, vclDuration_decimal _ hunit hstops,
      Text.parseUint_decimal hrange, Option.map_some]
    exact congrArg some (by exact_mod_cast Nat.div_mul_cancel h)

/-- **The durations that survive `fmtDuration`.** -/
theorem vclDuration_fmtDuration_iff (hd : d < 2 ^ 52) :
    vclDuration (fmtDuration (ofSeconds d)) = some (d : ℚ) ↔ WholeUnits d := by
  have hhour : 1 ≤ hours (ofSeconds d) ↔ 3600 ≤ d := by
    rw [hours_eq]
    exact one_le_durationIn_iff (by decide) le_rfl hd
  have hminute : 1 ≤ minutes (ofSeconds d) ↔ 60 ≤ d := by
    rw [minutes_eq]
    exact one_le_durationIn_iff (by decide) (by decide) hd
  have hhours : vclDuration (formatF0 (hours (ofSeconds d)) ++ "h") = some (d : ℚ) ↔ 3600 ∣ d := by
    rw [hours_eq]
    exact vclDuration_durationIn_iff (by decide) le_rfl hd rfl (Patterns.stops_cons (by decide))
  have hminutes : vclDuration (formatF0 (minutes (ofSeconds d)) ++ "m") = some (d : ℚ) ↔
      60 ∣ d := by
    rw [minutes_eq]
    exact vclDuration_durationIn_iff (by decide) (by decide) hd rfl
      (Patterns.stops_cons (by decide))
  have hseconds : vclDuration (formatF0 (seconds (ofSeconds d)) ++ "s") = some (d : ℚ) ↔ 1 ∣ d := by
    rw [seconds_eq]
    exact vclDuration_durationIn_iff (by decide) (by decide) hd rfl
      (Patterns.stops_cons (by decide))
  rw [fmtDuration]
  by_cases h3600 : 3600 ≤ d
  · rw [if_pos (hhour.2 h3600), hhours, WholeUnits]
    omega
  rw [if_neg (mt hhour.1 h3600)]
  by_cases h60 : 60 ≤ d
  · rw [if_pos (hminute.2 h60), hminutes, WholeUnits]
    omega
  · rw [if_neg (mt hminute.1 h60), hseconds, WholeUnits]
    omega

end FmtDuration

/-! ## The retry of a fetch that ran into its timeout -/

/-- `FormatFloat` prints a whole number that a `float64` keeps with its digits. -/
def Go.PrintsIntegers (go : Go) : Prop := ∀ n : ℕ, n < 2 ^ 53 → go.formatFloat n = Text.decimal n

/-- The condition of a group's retries ends in a comparison of the time since the fetch began with
the bound of the group, and holds only if the comparison does. -/
def ReadsBound {B W : Type} (E : Engine B W) (elapsed : State B W → ℚ) (g : BackendGroup) : Prop :=
  ∀ (t : ℚ) (s : State B W), vclDuration g.retryFirstByteTimeout = some t →
    E.test (retryTest g.retries g.retryMatch g.retryFirstByteTimeout) s = true → elapsed s < t

section Retry

variable (go : Go) (endpoints : Text → List Endpoint) {b : BackendSpec}
  {cp : ConnectionParameters}

/-- The bound of a group that retries. -/
lemma setGroupRetry_bound (g : BackendGroup) (hg : g.retries = 0)
    (h : (setGroupRetry go g b).retries ≠ 0) (hcp : b.connectionParameters = some cp)
    (hpos : 0 < cp.firstByteTimeout) :
    (setGroupRetry go g b).retryFirstByteTimeout =
      go.formatFloat (seconds cp.firstByteTimeout) ++ "s" := by
  unfold setGroupRetry at h ⊢
  by_cases hnil : g.backends = []
  · exact absurd hg (by rwa [if_pos hnil] at h)
  rw [if_neg hnil] at h ⊢
  cases hsel : retrySelection g with
  | none => exact absurd hg (by rwa [hsel] at h)
  | some selection =>
    obtain ⟨reselect, names⟩ := selection
    rw [hsel] at h
    by_cases hzero : resolveMaxRetries b.retry = 0
    · exact absurd hg (by simpa [hzero] using h)
    · simp only [if_neg hzero, hcp, if_pos hpos]

/-- The timeout of an endpoint's backend. -/
lemma firstByteTimeout_of_mem (hcp : b.connectionParameters = some cp)
    (hpos : 0 < cp.firstByteTimeout) {defn : BackendDef}
    (hdefn : defn ∈ (backendGroup go endpoints b).backends) :
    defn.firstByteTimeout = fmtDuration cp.firstByteTimeout := by
  unfold backendGroup at hdefn
  rw [(setGroupRetry_rest go b _).2.1] at hdefn
  obtain ⟨i, hi, rfl⟩ := List.mem_mapIdx.1 hdefn
  rw [endpointDef, hcp]
  exact if_pos hpos

end Retry

/-- What a timeout of a group's backends has to do with its retries: the `.first_byte_timeout` of
each of them is the bound of the group, and a fetch that took as long is not retried. -/
def BoundedRetry (g : BackendGroup) : Prop :=
  ∀ defn ∈ g.backends,
    "    .first_byte_timeout = " ++ defn.firstByteTimeout ++ ";" ∈ endpointBackend defn ∧
    vclDuration defn.firstByteTimeout = vclDuration g.retryFirstByteTimeout ∧
    ∀ (B W : Type) (E : Engine B W) (elapsed : State B W → ℚ), ReadsBound E elapsed g →
      ∀ (s : State B W) (t : ℚ), vclDuration defn.firstByteTimeout = some t → t ≤ elapsed s →
        (exec E (errorRetry g.retries g.retryMatch g.retryFirstByteTimeout) s).ret = none

/-- A timeout that is set is rendered. -/
lemma firstByteTimeout_mem {defn : BackendDef} (h : defn.firstByteTimeout ≠ []) :
    "    .first_byte_timeout = " ++ defn.firstByteTimeout ++ ";" ∈ endpointBackend defn := by
  have hline : "    .first_byte_timeout = " ++ defn.firstByteTimeout ++ ";" ∈
      lineIf (!defn.firstByteTimeout.isEmpty)
        ("    .first_byte_timeout = " ++ defn.firstByteTimeout ++ ";") := by
    rw [lineIf, if_pos (by simpa using h)]
    exact List.mem_singleton_self _
  unfold endpointBackend
  simp only [List.mem_append]
  exact .inl (.inl (.inl (.inr hline)))

/-- After the bound there is no retry. -/
lemma errorRetry_ret {B W : Type} {E : Engine B W} {elapsed : State B W → ℚ} {g : BackendGroup}
    (hE : ReadsBound E elapsed g) {s : State B W} {t : ℚ}
    (hbound : vclDuration g.retryFirstByteTimeout = some t) (hle : t ≤ elapsed s) :
    (exec E (errorRetry g.retries g.retryMatch g.retryFirstByteTimeout) s).ret = none := by
  have hfalse : ¬E.test (retryTest g.retries g.retryMatch g.retryFirstByteTimeout) s = true :=
    fun htest => absurd (hE t s hbound htest) (not_lt.2 hle)
  rw [errorRetry, Vcl.exec_block]
  exact congrArg Vcl.Result.ret (if_neg hfalse)

/-- **Which durations survive rendering.** A duration of whole seconds is what its text denotes,
and as the `firstByteTimeout` of a backend whose fetches are retried it bounds the retries, just
when it is a whole number of the unit in which `fmtDuration` prints it.

**Proof sketch.** The first part is `vclDuration_fmtDuration_iff`. The bound of the group is printed
in seconds and denotes the duration itself, so that the second part follows from the first. -/
theorem fmtDuration_exact_iff (go : Go) (hgo : go.PrintsIntegers) (d : ℕ) (hpos : 0 < d)
    (hrange : ofSeconds d < 2 ^ 63) :
    (vclDuration (fmtDuration (ofSeconds d)) = some (d : ℚ) ∧
      ∀ (endpoints : Text → List Endpoint) (b : BackendSpec) (cp : ConnectionParameters),
        b.connectionParameters = some cp → cp.firstByteTimeout = ofSeconds d →
        (backendGroup go endpoints b).retries ≠ 0 → BoundedRetry (backendGroup go endpoints b)) ↔
      WholeUnits d := by
  have hd : d < 2 ^ 52 := by
    unfold ofSeconds at hrange
    omega
  rw [← vclDuration_fmtDuration_iff hd]
  refine ⟨fun h => h.1, fun h => ⟨h, ?_⟩⟩
  intro endpoints b cp hcp htimeout hretries defn hdefn
  have hset : 0 < cp.firstByteTimeout := by
    rw [htimeout, ofSeconds]
    omega
  have htext : defn.firstByteTimeout = fmtDuration (ofSeconds d) := by
    rw [firstByteTimeout_of_mem go endpoints hcp hset hdefn, htimeout]
  have hbound : vclDuration (backendGroup go endpoints b).retryFirstByteTimeout = some (d : ℚ) := by
    have hseconds : seconds (ofSeconds d) = d := by
      rw [seconds_eq, durationIn_of_dvd one_pos (by decide) (by omega) (one_dvd d), Nat.div_one]
    have hbound : (backendGroup go endpoints b).retryFirstByteTimeout = Text.decimal d ++ "s" := by
      rw [backendGroup, setGroupRetry_bound go _ rfl hretries hcp hset, htimeout, hseconds,
        hgo d (by omega)]
    have hunit : vclUnits.lookup ("s" : Text) = some 1 := rfl
    rw [hbound, vclDuration_decimal d hunit (Patterns.stops_cons (by decide)),
      Text.parseUint_decimal (by omega), Option.map_some, mul_one]
  rw [← htext] at h
  have hne : defn.firstByteTimeout ≠ [] := by
    intro hnil
    rw [hnil] at h
    cases h
  refine ⟨firstByteTimeout_mem hne, h.trans hbound.symm, fun B W E elapsed hE s t ht hle => ?_⟩
  obtain rfl : (d : ℚ) = t := Option.some.inj (h.symm.trans ht)
  exact errorRetry_ret hE hbound hle

/-! ### A minute, eighty seconds -/

/-- Whole numbers as `FormatFloat` prints them. -/
def integersOnly : Go where
  sprint _ := []
  formatFloat q := Text.decimal q.num.toNat
  sha256 := id

/-- It prints whole numbers as their digits. -/
lemma integersOnly_printsIntegers : integersOnly.PrintsIntegers := by
  intro n _
  simp [integersOnly]

/-- What varnishd makes of the condition of a group, where the world is the time since the fetch
began: the three comparisons are made as they are written. -/
def stopwatch (g : BackendGroup) : Engine Text ℚ where
  inAcl _ _ := false
  test text s :=
    text = retryTest g.retries g.retryMatch g.retryFirstByteTimeout && s.retries < g.retries &&
      (g.backends.map (·.name)).contains s.backend &&
      (vclDuration g.retryFirstByteTimeout).all (s.world < ·)
  value _ _ := []
  select text _ := text
  effect _ s := s.world
  insert _ s := (s, none)

/-- It reads the bound. -/
lemma readsBound_stopwatch (g : BackendGroup) : ReadsBound (stopwatch g) (·.world) g := by
  intro t s ht htest
  simp only [stopwatch, ht, Option.all_some, Bool.and_eq_true, decide_eq_true_eq] at htest
  exact htest.2

/-- A backend with a timeout. -/
def timedBackend (d : ℕ) : BackendSpec where
  name := "app"
  connectionParameters := some ⟨0, ofSeconds d, 0, 0⟩

/-- Its group, with one endpoint. -/
def timedGroup (d : ℕ) : BackendGroup :=
  backendGroup integersOnly (fun _ => [⟨"10.0.0.1", 80⟩]) (timedBackend d)

/-- A first attempt that got no answer for some time. -/
def waited (t : ℚ) : State Text ℚ :=
  ⟨"GET", "10.1.0.7", 0, 0, fun _ _ => none, "app_0", "app_0", t⟩

/-- A timeout of a minute is rendered as it is. A fetch that took as long is not retried, and one
that ended before is. -/
theorem fmtDuration_exact_iff_minute :
    BoundedRetry (timedGroup 60) ∧
      (exec (stopwatch (timedGroup 60)) (errorRetry (timedGroup 60).retries
        (timedGroup 60).retryMatch (timedGroup 60).retryFirstByteTimeout) (waited 60)).ret = none ∧
      (exec (stopwatch (timedGroup 60)) (errorRetry (timedGroup 60).retries
        (timedGroup 60).retryMatch (timedGroup 60).retryFirstByteTimeout) (waited 59)).ret =
          some .retry := by
  have hunits : WholeUnits 60 := by decide
  have hexact := (fmtDuration_exact_iff integersOnly integersOnly_printsIntegers 60 (by decide)
    (by decide)).2 hunits
  have hretries : (timedGroup 60).retries ≠ 0 := by decide
  have hbounded : BoundedRetry (timedGroup 60) :=
    hexact.2 _ (timedBackend 60) ⟨0, ofSeconds 60, 0, 0⟩ rfl rfl hretries
  obtain ⟨defn, hdefn⟩ : ∃ defn, defn ∈ (timedGroup 60).backends := ⟨_, List.mem_cons_self⟩
  have htimeout : vclDuration defn.firstByteTimeout = some 60 := by
    rw [(hbounded defn hdefn).2.1]
    decide +kernel
  refine ⟨hbounded, ?_, by decide +kernel⟩
  exact (hbounded defn hdefn).2.2 Text ℚ (stopwatch (timedGroup 60)) (·.world)
    (readsBound_stopwatch _) (waited 60) 60 htimeout le_rfl

/-- A timeout of eighty seconds is rendered as one minute, while the bound of the retry is eighty
seconds: a fetch that ran into the timeout still meets the condition of its group. -/
theorem fmtDuration_eighty :
    fmtDuration (ofSeconds 80) = "1m" ∧ vclDuration "1m" = some 60 ∧
      (timedGroup 80).backends.map (·.firstByteTimeout) = ["1m"] ∧
      (timedGroup 80).retries = 1 ∧ (timedGroup 80).retryFirstByteTimeout = "80s" ∧
      vclDuration "80s" = some 80 ∧
      ReadsBound (stopwatch (timedGroup 80)) (·.world) (timedGroup 80) ∧
      (exec (stopwatch (timedGroup 80)) (errorRetry (timedGroup 80).retries
        (timedGroup 80).retryMatch (timedGroup 80).retryFirstByteTimeout) (waited 60)).ret =
          some .retry :=
  ⟨by decide +kernel, by decide +kernel, by decide +kernel, by decide +kernel, by decide +kernel,
    by decide +kernel, readsBound_stopwatch _, by decide +kernel⟩

end CloudVinyl.Generator
