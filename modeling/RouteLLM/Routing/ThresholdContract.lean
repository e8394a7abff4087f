import RouteLLM.Lib.FloatBounds
import RouteLLM.Routing.PolicyOrder

/-!
# The threshold contract

`validate_quality_threshold` promises a probability or the policy's own error, on every value. It
converts the value to a float before it compares: an integer beyond the floats raises in the conversion,
and a decimal just outside the unit interval is rounded into it. Every other value keeps the contract.
-/

namespace RouteLLM

/-- `AdaptiveInferencePayload.apply_routing_threshold_contract`: no threshold is left alone. -/
def applyRoutingThresholdContract : Option ThresholdValue → Except Exc (Option Probability)
  | none => .ok none
  | some value => some <$> validateQualityThreshold value

namespace ThresholdValue

/-- A number of the unit interval, exactly. -/
def InUnit (value : ThresholdValue) : Prop := ∃ q, value.rational? = some q ∧ 0 ≤ q ∧ q ≤ 1

/-- An integer that no float is near. -/
def Overflows : ThresholdValue → Prop
  | .int n => (2 ^ 1024 - 2 ^ 970 : ℚ) ≤ |(n : ℚ)|
  | _ => False

/-- A decimal outside the unit interval that is rounded into it. -/
def RoundsIntoUnit : ThresholdValue → Prop
  | .decimal (.finite d) =>
    (-(1 / 2 ^ 1075) ≤ d.toRat ∧ d.toRat < 0) ∨ (1 < d.toRat ∧ d.toRat ≤ 1 + 1 / 2 ^ 53)
  | _ => False

end ThresholdValue

/-- A threshold is accepted or refused by the policy's own error. -/
def ThresholdError (e : Exc) : Prop := ∃ message, e = .raised .invalidQualityThresholdError message

/-- The errors that the policy raises on its own account. -/
def PolicyError (e : Exc) : Prop :=
  ThresholdError e ∨ (∃ message, e = .raised .noEligibleCandidatesError message) ∨
    ∃ message, e = .raised .duplicateCandidatePredictionError message

/-- The contract at a value: what is returned is a `Probability`. -/
structure ThresholdContract (value : ThresholdValue) : Prop where
  error_class : ∀ e, validateQualityThreshold value = .error e → ThresholdError e
  accepts_iff : (∃ threshold, validateQualityThreshold value = .ok threshold) ↔ value.InUnit
  route_error : ∀ candidates e, CostAwareRoutingPolicy.route candidates value = .error e →
    PolicyError e
  payload_error : ∀ e, applyRoutingThresholdContract (some value) = .error e → ThresholdError e

variable {value : ThresholdValue} {fieldName : String}

/-! ## Conversion and comparison -/

theorem ofInt?_eq_none {n : ℤ} :
    PyFloat.ofInt? n = none ↔ Binary64.ofRat? (n : ℚ) = none := by
  rw [PyFloat.ofInt?, Option.map_eq_none_iff]

theorem toFloat_int_of_none {n : ℤ} (h : PyFloat.ofInt? n = none) :
    (ThresholdValue.int n).toFloat fieldName =
      .error (.raised .overflowError "int too large to convert to float") := by
  unfold ThresholdValue.toFloat
  dsimp only
  rw [h]

/-- A value is validated where its float is a number of the unit interval. -/
theorem validatedProbability_eq_ok {p : Probability} :
    validatedProbability value fieldName = .ok p ↔
      value.toFloat fieldName = .ok (.finite p.float) := by
  unfold validatedProbability
  rw [Except.bind_eq_ok]
  constructor
  · intro h
    obtain ⟨x, hx, h⟩ := h
    cases x with
    | finite x =>
      by_cases hunit : 0 ≤ x.val ∧ x.val ≤ 1
      · simp only [dif_pos hunit] at h
        cases h
        exact hx
      · simp only [dif_neg hunit] at h
        cases h
    | posInf | negInf | nan => cases h
  · intro h
    exact ⟨_, h, dif_pos ⟨p.nonneg, p.le_one⟩⟩

/-- A value that is not validated raises a `ValueError` unless its conversion raises otherwise. -/
theorem error_of_validatedProbability {e : Exc}
    (h : validatedProbability value fieldName = .error e) :
    (∃ message, e = .raised .valueError message) ∨ value.toFloat fieldName = .error e := by
  unfold validatedProbability at h
  rcases Except.bind_eq_error.mp h with herror | ⟨x, hx, h⟩
  · exact .inr herror
  · left
    cases x with
    | finite x =>
      by_cases hunit : 0 ≤ x.val ∧ x.val ≤ 1
      · simp only [dif_pos hunit] at h
        cases h
      · simp only [dif_neg hunit] at h
        cases h
        exact ⟨_, rfl⟩
    | posInf | negInf | nan =>
      cases h
      exact ⟨_, rfl⟩

/-- A value whose conversion does not overflow raises a `ValueError` alone. -/
theorem valueError_of_toFloat (hvalue : ¬ value.Overflows) {e : Exc}
    (h : value.toFloat fieldName = .error e) : ∃ message, e = .raised .valueError message := by
  cases value with
  | int n =>
    have hsome : Binary64.ofRat? (n : ℚ) ≠ none := by
      intro hnone
      exact hvalue (Binary64.ofRat?_eq_none.mp hnone)
    obtain ⟨x, hx⟩ := Option.ne_none_iff_exists'.mp hsome
    rw [ThresholdValue.toFloat_int fieldName (PyFloat.ofInt?_eq_some.mpr ⟨x, hx, rfl⟩)] at h
    cases h
  | float x => cases h
  | decimal d =>
    cases d with
    | finite d => cases h
    | infinity negative => cases h
    | quietNan => cases h
    | signalingNan =>
      cases h
      exact ⟨_, rfl⟩
  | bool b =>
    cases h
    exact ⟨_, rfl⟩
  | other =>
    cases h
    exact ⟨_, rfl⟩

theorem validateQualityThreshold_eq_ok {threshold : Probability} :
    validateQualityThreshold value = .ok threshold ↔
      value.toFloat "quality_threshold" = .ok (.finite threshold.float) := by
  rw [← validatedProbability_eq_ok]
  unfold validateQualityThreshold
  split
  · rename_i h
    rw [h]
    exact iff_of_false (fun h => by cases h) (fun h => by cases h)
  · exact Iff.rfl

/-- A value whose conversion does not overflow is refused by the policy's own error. -/
theorem thresholdError_of_error (hvalue : ¬ value.Overflows) {e : Exc}
    (h : validateQualityThreshold value = .error e) : ThresholdError e := by
  unfold validateQualityThreshold at h
  split at h
  · cases h
    exact ⟨_, rfl⟩
  · rename_i hnot
    obtain ⟨message, rfl⟩ : ∃ message, e = .raised .valueError message := by
      rcases error_of_validatedProbability h with hraised | hfloat
      · exact hraised
      · exact valueError_of_toFloat hvalue hfloat
    exact absurd h (hnot message)

/-- An integer beyond the floats raises an error of its own. -/
theorem error_of_overflows (h : value.Overflows) : ∃ message,
    validateQualityThreshold value = .error (.raised .overflowError message) := by
  cases value with
  | int n =>
    have hnone : Binary64.ofRat? (n : ℚ) = none := Binary64.ofRat?_eq_none.mpr h
    refine ⟨"int too large to convert to float", ?_⟩
    unfold validateQualityThreshold validatedProbability
    rw [toFloat_int_of_none (ofInt?_eq_none.mpr hnone)]
    rfl
  | float | decimal | bool | other => cases h

/-! ## The accepted values -/

/-- A rational is rounded into the unit interval up to half a unit outside it. -/
theorem exists_ofRat?_unit_iff {q : ℚ} :
    (∃ x, Binary64.ofRat? q = some x ∧ 0 ≤ x.val ∧ x.val ≤ 1) ↔
      -(1 / 2 ^ 1075) ≤ q ∧ q ≤ 1 + 1 / 2 ^ 53 := by
  rw [← Binary64.round_nonneg_iff, ← Binary64.round_le_one_iff]
  constructor
  · intro h
    obtain ⟨x, hx, hunit⟩ := h
    rwa [Binary64.val_of_ofRat? hx] at hunit
  · intro h
    have hlt : |Binary64.round q| < 2 ^ 1024 := by
      rw [abs_of_nonneg h.1]
      exact h.2.trans_lt (one_lt_pow₀ (by norm_num) (by norm_num))
    exact ⟨⟨Binary64.round q, Binary64.round_round q, hlt⟩, dif_pos hlt, h⟩

/-- The exact numbers whose conversion is a rounding. -/
theorem accepts_of_rational {q : ℚ}
    (h : ∀ x, value.toFloat "quality_threshold" = .ok (.finite x) ↔ Binary64.ofRat? q = some x) :
    (∃ threshold, validateQualityThreshold value = .ok threshold) ↔
      -(1 / 2 ^ 1075) ≤ q ∧ q ≤ 1 + 1 / 2 ^ 53 := by
  rw [← exists_ofRat?_unit_iff]
  constructor
  · intro haccept
    obtain ⟨threshold, hthreshold⟩ := haccept
    exact ⟨threshold.float, (h _).mp (validateQualityThreshold_eq_ok.mp hthreshold),
      threshold.nonneg, threshold.le_one⟩
  · intro hexists
    obtain ⟨x, hx, hunit⟩ := hexists
    exact ⟨⟨x, hunit.1, hunit.2⟩, validateQualityThreshold_eq_ok.mpr ((h x).mpr hx)⟩

theorem accepts_int (n : ℤ) :
    (∃ threshold, validateQualityThreshold (.int n) = .ok threshold) ↔
      (ThresholdValue.int n).InUnit := by
  have hfloat : ∀ x, (ThresholdValue.int n).toFloat "quality_threshold" = .ok (.finite x) ↔
      Binary64.ofRat? (n : ℚ) = some x := by
    intro x
    cases hfloat : Binary64.ofRat? (n : ℚ) with
    | none =>
      rw [toFloat_int_of_none (ofInt?_eq_none.mpr hfloat)]
      exact iff_of_false (fun h => by cases h) (fun h => by cases h)
    | some y =>
      rw [ThresholdValue.toFloat_int _ (PyFloat.ofInt?_eq_some.mpr ⟨y, hfloat, rfl⟩),
        Except.ok.injEq, PyFloat.finite.injEq, Option.some.injEq]
  rw [accepts_of_rational hfloat]
  constructor
  · intro h
    refine ⟨n, rfl, ?_, ?_⟩
    · have hlt : ((-1 : ℤ) : ℚ) < n := by
        refine lt_of_lt_of_le ?_ h.1
        push_cast
        exact neg_lt_neg ((div_lt_one (by positivity)).mpr
          (one_lt_pow₀ (by norm_num) (by norm_num)))
      exact_mod_cast Int.cast_lt.mp hlt
    · have hlt : (n : ℚ) < (2 : ℤ) := by
        refine lt_of_le_of_lt h.2 ?_
        norm_num
      exact_mod_cast Int.lt_add_one_iff.mp (Int.cast_lt.mp hlt)
  · intro h
    obtain ⟨q, hq, h0, h1⟩ := h
    cases hq
    exact ⟨le_trans (by simp) h0, h1.trans (by norm_num)⟩

theorem accepts_float (x : PyFloat) :
    (∃ threshold, validateQualityThreshold (.float x) = .ok threshold) ↔
      (ThresholdValue.float x).InUnit := by
  constructor
  · intro h
    obtain ⟨threshold, hthreshold⟩ := h
    have hfloat := validateQualityThreshold_eq_ok.mp hthreshold
    cases hfloat
    exact ⟨_, rfl, threshold.nonneg, threshold.le_one⟩
  · intro h
    obtain ⟨q, hq, h0, h1⟩ := h
    cases x with
    | finite x =>
      cases hq
      exact ⟨⟨x, h0, h1⟩, validateQualityThreshold_eq_ok.mpr rfl⟩
    | posInf | negInf | nan => cases hq

theorem accepts_decimal (d : Decimal) :
    (∃ threshold, validateQualityThreshold (.decimal (.finite d)) = .ok threshold) ↔
      -(1 / 2 ^ 1075) ≤ d.toRat ∧ d.toRat ≤ 1 + 1 / 2 ^ 53 := by
  refine accepts_of_rational fun x => ?_
  show Except.ok (PyFloat.ofDecimal d) = .ok (.finite x) ↔ _
  rw [Except.ok.injEq, PyFloat.ofDecimal_eq_finite]

/-- A value that is not a number has no value to compare. -/
theorem not_accepts (h : ∀ x, value.toFloat "quality_threshold" ≠ .ok (.finite x)) :
    ¬ ∃ threshold, validateQualityThreshold value = .ok threshold := by
  intro haccept
  obtain ⟨threshold, hthreshold⟩ := haccept
  exact h _ (validateQualityThreshold_eq_ok.mp hthreshold)

/-- An interval around the unit interval is that interval where nothing lies between them. -/
theorem unit_iff {q a b : ℚ} (ha : a ≤ 0) (hb : 1 ≤ b) :
    ((a ≤ q ∧ q ≤ b) ↔ (0 ≤ q ∧ q ≤ 1)) ↔ ¬ ((a ≤ q ∧ q < 0) ∨ (1 < q ∧ q ≤ b)) := by
  constructor
  · intro h hout
    rcases hout with hlow | hhigh
    · have hunit := h.mp ⟨hlow.1, by linarith⟩
      linarith
    · have hunit := h.mp ⟨by linarith, hhigh.2⟩
      linarith
  · intro h
    constructor
    · intro hwide
      refine ⟨?_, ?_⟩
      · by_contra hneg
        exact h (.inl ⟨hwide.1, not_le.mp hneg⟩)
      · by_contra hgt
        exact h (.inr ⟨not_le.mp hgt, hwide.2⟩)
    · intro hunit
      exact ⟨ha.trans hunit.1, hunit.2.trans hb⟩

/-- **The accepted values** are the numbers of the unit interval, unless a decimal is rounded into
it. -/
theorem accepts_iff_inUnit :
    ((∃ threshold, validateQualityThreshold value = .ok threshold) ↔ value.InUnit) ↔
      ¬ value.RoundsIntoUnit := by
  have hnone : ∀ v : ThresholdValue, (∀ x, v.toFloat "quality_threshold" ≠ .ok (.finite x)) →
      v.rational? = none →
      ((∃ threshold, validateQualityThreshold v = .ok threshold) ↔ v.InUnit) := by
    intro v hfloat hrational
    refine iff_of_false (not_accepts hfloat) ?_
    intro h
    obtain ⟨q, hq, -⟩ := h
    rw [hrational] at hq
    cases hq
  cases value with
  | int n => exact iff_of_true (accepts_int n) id
  | float x => exact iff_of_true (accepts_float x) id
  | bool b => exact iff_of_true (hnone _ (fun x h => by cases h) rfl) id
  | other => exact iff_of_true (hnone _ (fun x h => by cases h) rfl) id
  | decimal d =>
    cases d with
    | infinity negative =>
      refine iff_of_true (hnone _ (fun x h => ?_) rfl) id
      cases negative <;> cases h
    | quietNan => exact iff_of_true (hnone _ (fun x h => by cases h) rfl) id
    | signalingNan => exact iff_of_true (hnone _ (fun x h => by cases h) rfl) id
    | finite d =>
      have hsmall : -(1 / 2 ^ 1075 : ℚ) ≤ 0 := by simp
      have hunit : (ThresholdValue.decimal (.finite d)).InUnit ↔ 0 ≤ d.toRat ∧ d.toRat ≤ 1 := by
        constructor
        · intro h
          obtain ⟨q, hq, hrange⟩ := h
          cases hq
          exact hrange
        · intro h
          exact ⟨_, rfl, h⟩
      rw [accepts_decimal, hunit]
      exact unit_iff hsmall (by norm_num)

/-! ## The contract -/

/-- The policy raises its own errors where the threshold does. -/
theorem policyError_of_route (hvalue : ¬ value.Overflows) {candidates : List CandidatePrediction}
    {e : Exc} (h : CostAwareRoutingPolicy.route candidates value = .error e) : PolicyError e := by
  unfold CostAwareRoutingPolicy.route at h
  split at h
  · cases h
    exact .inr (.inl ⟨_, rfl⟩)
  rename_i hne
  rcases Except.bind_eq_error.mp h with hthreshold | ⟨threshold, -, h⟩
  · exact .inl (thresholdError_of_error hvalue hthreshold)
  split at h
  · cases h
    exact .inr (.inr ⟨_, rfl⟩)
  split at h
  · cases h
  · split at h
    · cases h
    · rename_i hnone
      exact absurd (List.argmin_eq_none.mp hnone) hne

/-- **The threshold contract** holds of every value except the integers beyond the floats and the
decimals that are rounded into the unit interval. -/
theorem thresholdContract_iff (value : ThresholdValue) :
    ThresholdContract value ↔ ¬ value.Overflows ∧ ¬ value.RoundsIntoUnit := by
  constructor
  · intro h
    refine ⟨?_, accepts_iff_inUnit.mp h.accepts_iff⟩
    intro hvalue
    obtain ⟨message, herror⟩ := error_of_overflows hvalue
    obtain ⟨message', he⟩ := h.error_class _ herror
    cases he
  · intro h
    obtain ⟨hvalue, hrounds⟩ := h
    constructor
    · intro e he
      exact thresholdError_of_error hvalue he
    · exact accepts_iff_inUnit.mpr hrounds
    · intro candidates e he
      exact policyError_of_route hvalue he
    · intro e he
      exact thresholdError_of_error hvalue (Except.map_eq_error.mp he)

/-- An integer beyond the floats raises an `OverflowError`, and a decimal above one is accepted. -/
theorem thresholdContract_fails :
    ¬ ThresholdContract (.int (2 ^ 1024)) ∧
      ¬ ThresholdContract (.decimal (.finite ⟨10 ^ 27 + 1, -27⟩)) := by
  constructor
  · intro h
    have hvalue : (ThresholdValue.int (2 ^ 1024)).Overflows := by
      show (2 ^ 1024 - 2 ^ 970 : ℚ) ≤ |((2 ^ 1024 : ℤ) : ℚ)|
      rw [Int.cast_pow, Int.cast_ofNat, abs_of_pos (by positivity)]
      exact sub_le_self _ (by positivity)
    obtain ⟨message, herror⟩ := error_of_overflows hvalue
    obtain ⟨message', he⟩ := h.error_class _ herror
    cases he
  · intro h
    refine accepts_iff_inUnit.mp h.accepts_iff (.inr ?_)
    norm_num [Decimal.toRat]

end RouteLLM
