import RouteLLM.Benchmarks.RoutingExport

/-!
# Training rows

`routing/ml_features.py`: the predictive features of an exported row, with every number as a float.
-/

namespace RouteLLM

/-- `float()` of an integer, which raises beyond the finite range. -/
def floatOfInt (n : ℕ) : Except Exc PyFloat :=
  match PyFloat.ofInt? n with
  | some x => .ok x
  | none => .error (.raised .overflowError "int too large to convert to float")

/-- An integer is converted exactly where the conversion does not raise. -/
theorem floatOfInt_eq_ok {n : ℕ} {x : PyFloat} :
    floatOfInt n = .ok x ↔ PyFloat.ofInt? n = some x := by
  unfold floatOfInt
  split <;> simp_all

/-- The features of `_feature_values`. -/
structure FeatureValues where
  category : String
  candidateId : Identifier
  upstreamProviderPin : String
  reasoningEffort : String
  promptCharacters : PyFloat
  approximateInputTokens : PyFloat
  requestedMaxOutputTokens : PyFloat
  constraintIndicatorCount : PyFloat
  reasoningIndicatorCount : PyFloat
  configuredInputCostPer1mTokens : PyFloat
  configuredOutputCostPer1mTokens : PyFloat
  contextWindow : PyFloat
  effectiveMaxOutputTokens : PyFloat
  containsCode : Bool
  requestsStructuredOutput : Bool
  supportsTemperature : Bool

/-- Python's `value or default` of an optional string. -/
def orDefault (value : Option String) (default : String) : String :=
  match value with
  | some s => if s = "" then default else s
  | none => default

/-- `_feature_values`. -/
def featureValues (row : RoutingDatasetRow) : Except Exc FeatureValues := do
  let promptCharacters ← floatOfInt row.requestFeatures.promptCharacters
  let approximateInputTokens ← floatOfInt row.requestFeatures.approximateInputTokens
  let requestedMaxOutputTokens ← floatOfInt row.requestFeatures.maxOutputTokens.val
  let constraintIndicatorCount ← floatOfInt row.requestFeatures.constraintIndicatorCount
  let reasoningIndicatorCount ← floatOfInt row.requestFeatures.reasoningIndicatorCount
  let contextWindow ← floatOfInt row.candidate.contextWindow.val
  let effectiveMaxOutputTokens ← floatOfInt row.effectiveMaxOutputTokens.val
  return {
    category := orDefault row.requestFeatures.category "unknown"
    candidateId := row.candidate.internalId
    upstreamProviderPin := row.candidate.upstreamProviderPin
    reasoningEffort := orDefault row.candidate.reasoningEffort "none"
    promptCharacters
    approximateInputTokens
    requestedMaxOutputTokens
    constraintIndicatorCount
    reasoningIndicatorCount
    configuredInputCostPer1mTokens := .ofDecimal row.candidate.inputCostPer1mTokens.dec
    configuredOutputCostPer1mTokens := .ofDecimal row.candidate.outputCostPer1mTokens.dec
    contextWindow
    effectiveMaxOutputTokens
    containsCode := row.requestFeatures.containsCode
    requestsStructuredOutput := row.requestFeatures.requestsStructuredOutput
    supportsTemperature :=
      ((row.candidate.capabilities.lookup (PyStr.ofString "supports_temperature")).getD
        (.bool false)).truthy }

/-- The part of `MLExperimentRow` that the canonical adapter reads, with its check that the candidate
predictor is the row's candidate. -/
structure MLExperimentRow where
  candidateId : Identifier
  features : FeatureValues
  candidate_eq : features.candidateId = candidateId

/-- The constructor of a row with its check. -/
def MLExperimentRow.ofFeatures (candidateId : Identifier) (features : FeatureValues) :
    Except Exc MLExperimentRow :=
  if h : features.candidateId = candidateId then .ok ⟨candidateId, features, h⟩
  else .error (.raised .validationError "Candidate predictor must match the row candidate")

end RouteLLM
