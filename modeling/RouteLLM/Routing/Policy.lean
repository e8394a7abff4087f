import Mathlib.Data.List.MinMax
import Mathlib.Data.Prod.Lex
import Mathlib.Data.String.Basic
import RouteLLM.Lib.Except
import RouteLLM.Lib.PyFloat
import RouteLLM.Routing.Features

/-!
# The cost-aware routing policy

`routing/policy.py`: the cheapest candidate that meets the quality threshold, and when none does the
candidate of the highest predicted acceptability. Ties go to the cheaper candidate and then to the
smaller model id.
-/

namespace RouteLLM

/-- A `Decimal` object, which may be special. -/
inductive PyDecimal
  | finite (d : Decimal)
  | infinity (negative : Bool)
  | quietNan
  | signalingNan

/-- A value handed over as a quality threshold. -/
inductive ThresholdValue
  | bool (b : Bool)
  | int (n : ℤ)
  | float (x : PyFloat)
  | decimal (d : PyDecimal)
  | other

/-- `float()` of a threshold that is a number. -/
def ThresholdValue.toFloat (fieldName : String) : ThresholdValue → Except Exc PyFloat
  | .int n =>
    match PyFloat.ofInt? n with
    | some x => .ok x
    | none => .error (.raised .overflowError "int too large to convert to float")
  | .float x => .ok x
  | .decimal (.finite d) => .ok (PyFloat.ofDecimal d)
  | .decimal (.infinity negative) => .ok (if negative then .negInf else .posInf)
  | .decimal .quietNan => .ok .nan
  | .decimal .signalingNan =>
    .error (.raised .valueError "cannot convert signaling NaN to float")
  | .bool _ | .other =>
    .error (.raised .valueError (fieldName ++ " must be a number between 0 and 1"))

theorem ThresholdValue.toFloat_int (fieldName : String) {n : ℤ} {x : PyFloat}
    (h : PyFloat.ofInt? n = some x) : (ThresholdValue.int n).toFloat fieldName = .ok x := by
  show (match PyFloat.ofInt? n with
    | some x => Except.ok x
    | none => _) = _
  rw [h]

/-- `_validated_probability`. -/
def validatedProbability (value : ThresholdValue) (fieldName : String) :
    Except Exc Probability := do
  match ← value.toFloat fieldName with
  | .finite x =>
    if h : 0 ≤ x.val ∧ x.val ≤ 1 then .ok ⟨x, h.1, h.2⟩
    else .error (.raised .valueError (fieldName ++ " must be a finite number between 0 and 1"))
  | _ => .error (.raised .valueError (fieldName ++ " must be a finite number between 0 and 1"))

/-- `validate_quality_threshold`: a `ValueError` becomes the policy's own error, an overflow does
not. -/
def validateQualityThreshold (value : ThresholdValue) : Except Exc Probability :=
  match validatedProbability value "quality_threshold" with
  | .error (.raised .valueError message) =>
    .error (.raised .invalidQualityThresholdError message)
  | result => result

structure ModelAcceptabilityPrediction where
  modelId : Identifier
  predictedAcceptability : Probability
  deriving DecidableEq

structure CandidatePrediction extends ModelAcceptabilityPrediction where
  projectedCostUsd : Money
  deriving DecidableEq

inductive RoutingDecisionReason
  | qualityThresholdMet | noModelMetThresholdFallback
  deriving DecidableEq

@[inherit_doc ReasoningEffort.value]
def RoutingDecisionReason.value : RoutingDecisionReason → String
  | .qualityThresholdMet => "quality_threshold_met"
  | .noModelMetThresholdFallback => "no_model_met_threshold_fallback"

structure RoutingDecision where
  selectedModelId : Identifier
  selectedPredictedAcceptability : Probability
  selectedProjectedCostUsd : Money
  qualityThreshold : Probability
  thresholdSatisfied : Bool
  fallbackUsed : Bool
  eligibleCandidateCount : ℕ
  qualifyingCandidateCount : ℕ
  reason : RoutingDecisionReason
  eligible_ne_zero : eligibleCandidateCount ≠ 0
  deriving DecidableEq

namespace CostAwareRoutingPolicy

/-- The order of the qualifying candidates: the cost, then the id. -/
def costKey (c : CandidatePrediction) : ℚ ×ₗ String :=
  toLex (c.projectedCostUsd.toRat, c.modelId.value)

/-- The order of the fallback: the highest acceptability, then the cost, then the id. -/
def fallbackKey (c : CandidatePrediction) : ℚ ×ₗ (ℚ ×ₗ String) :=
  toLex (-c.predictedAcceptability.float.val, costKey c)

/-- The candidates that meet a threshold. -/
def qualifying (candidates : List CandidatePrediction) (threshold : Probability) :
    List CandidatePrediction :=
  candidates.filter (threshold ≤ ·.predictedAcceptability)

/-- The decision for a selected candidate of a nonempty list. -/
def decisionOf (candidates : List CandidatePrediction) (threshold : Probability)
    (selected : CandidatePrediction) (fallbackUsed : Bool) (h : candidates ≠ []) :
    RoutingDecision where
  selectedModelId := selected.modelId
  selectedPredictedAcceptability := selected.predictedAcceptability
  selectedProjectedCostUsd := selected.projectedCostUsd
  qualityThreshold := threshold
  thresholdSatisfied := !fallbackUsed
  fallbackUsed := fallbackUsed
  eligibleCandidateCount := candidates.length
  qualifyingCandidateCount := (qualifying candidates threshold).length
  reason := if fallbackUsed then .noModelMetThresholdFallback else .qualityThresholdMet
  eligible_ne_zero := (List.length_pos_iff.mpr h).ne'

/-- `CostAwareRoutingPolicy.route`. Python's `min` is `List.argmin`, which returns nothing on an
empty list only. -/
def route (candidates : List CandidatePrediction) (qualityThreshold : ThresholdValue) :
    Except Exc RoutingDecision :=
  if h : candidates = [] then
    .error (.raised .noEligibleCandidatesError "at least one eligible candidate is required")
  else do
    let threshold ← validateQualityThreshold qualityThreshold
    if ¬ (candidates.map (·.modelId)).Nodup then
      .error (.raised .duplicateCandidatePredictionError
        "eligible candidate model identifiers must be unique")
    else
      match (qualifying candidates threshold).argmin costKey with
      | some selected => .ok (decisionOf candidates threshold selected false h)
      | none =>
        match candidates.argmin fallbackKey with
        | some selected => .ok (decisionOf candidates threshold selected true h)
        | none => .error (.raised .valueError "min() arg is an empty sequence")

/-- What a returned decision records: the candidates have distinct ids, the selected one is of them,
and it meets the threshold unless none does. -/
theorem route_eq_ok {candidates : List CandidatePrediction} {value : ThresholdValue}
    {decision : RoutingDecision} (h : route candidates value = .ok decision) :
    (candidates.map (·.modelId)).Nodup ∧
      ∃ selected ∈ candidates, ∃ hne threshold fallback,
        decision = decisionOf candidates threshold selected fallback hne ∧
        (fallback = false → threshold ≤ selected.predictedAcceptability) ∧
        (fallback = true → ∀ c ∈ candidates, c.predictedAcceptability < threshold) := by
  unfold route at h
  split at h
  · cases h
  rename_i hne
  obtain ⟨threshold, -, h⟩ := Except.bind_eq_ok.mp h
  obtain ⟨hnd, h⟩ := Except.guard_eq_ok.mp h
  refine ⟨not_not.mp hnd, ?_⟩
  split at h
  · rename_i selected hsel
    have hmem := List.mem_filter.mp (List.argmin_mem hsel)
    cases h
    exact ⟨selected, hmem.1, hne, threshold, false, rfl, fun _ => by simpa using hmem.2, nofun⟩
  · rename_i hnone
    have hempty := List.filter_eq_nil_iff.mp (List.argmin_eq_none.mp hnone)
    split at h
    · rename_i selected hsel
      cases h
      exact ⟨selected, List.argmin_mem hsel, hne, threshold, true, rfl, nofun,
        fun _ c hc => by simpa using hempty c hc⟩
    · cases h

end CostAwareRoutingPolicy

end RouteLLM
