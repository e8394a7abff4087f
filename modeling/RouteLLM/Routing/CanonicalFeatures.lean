import RouteLLM.Routing.MlFeatures
import RouteLLM.Routing.QualityFeatures

/-!
# Canonical quality features

The versioned predictor input of `routing/quality_features.py` and its two adapters: one from a
training row, one from a production request and a candidate. The keyword arguments of the constructor
are `CanonicalInputs`; it accepts exactly the finite ones in range (`validate_eq_ok`).
-/

namespace RouteLLM

/-- `CanonicalQualityFeatures`, with the bounds of its fields. -/
structure CanonicalQualityFeatures where
  schemaVersion : String := "1.0.0"
  category : RoutingCategory
  candidateId : Identifier
  reasoningEffort : ReasoningEffort
  promptCharacters : {x : Binary64 // 0 ≤ x}
  approximateInputTokens : {x : Binary64 // 0 ≤ x}
  requestedMaxOutputTokens : {x : Binary64 // 0 < x}
  constraintIndicatorCount : {x : Binary64 // 0 ≤ x}
  reasoningIndicatorCount : {x : Binary64 // 0 ≤ x}
  configuredInputCostPer1mTokens : {x : Binary64 // 0 ≤ x}
  configuredOutputCostPer1mTokens : {x : Binary64 // 0 ≤ x}
  contextWindow : {x : Binary64 // 0 < x}
  effectiveMaxOutputTokens : {x : Binary64 // 0 < x}
  containsCode : Bool
  requestsStructuredOutput : Bool
  supportsTemperature : Bool
  deriving DecidableEq

/-- A field with `ge=0, allow_inf_nan=False`. -/
def nonnegField (name : String) : PyFloat → Except Exc {x : Binary64 // 0 ≤ x}
  | .finite x =>
    if h : 0 ≤ x then .ok ⟨x, h⟩
    else .error (.raised .validationError (name ++ ": Input should be greater than or equal to 0"))
  | _ => .error (.raised .validationError (name ++ ": Input should be a finite number"))

/-- A field with `gt=0, allow_inf_nan=False`. -/
def positiveField (name : String) : PyFloat → Except Exc {x : Binary64 // 0 < x}
  | .finite x =>
    if h : 0 < x then .ok ⟨x, h⟩
    else .error (.raised .validationError (name ++ ": Input should be greater than 0"))
  | _ => .error (.raised .validationError (name ++ ": Input should be a finite number"))

theorem nonnegField_eq_ok {name : String} {p : PyFloat} {x : {x : Binary64 // 0 ≤ x}} :
    nonnegField name p = .ok x ↔ p = .finite x := by
  cases p with
  | finite y =>
    rw [nonnegField]
    split
    · simp [Subtype.ext_iff]
    · rename_i h
      simpa using fun hy : y = x => h (hy ▸ x.2)
  | _ => simp [nonnegField]

theorem positiveField_eq_ok {name : String} {p : PyFloat} {x : {x : Binary64 // 0 < x}} :
    positiveField name p = .ok x ↔ p = .finite x := by
  cases p with
  | finite y =>
    rw [positiveField]
    split
    · simp [Subtype.ext_iff]
    · rename_i h
      simpa using fun hy : y = x => h (hy ▸ x.2)
  | _ => simp [positiveField]

/-- The keyword arguments of the constructor. -/
structure CanonicalInputs where
  category : RoutingCategory
  candidateId : Identifier
  reasoningEffort : ReasoningEffort
  promptCharacters : PyFloat
  approximateInputTokens : PyFloat
  requestedMaxOutputTokens : PyFloat
  constraintIndicatorCount : PyFloat
  reasoningIndicatorCount : PyFloat
  configuredInputCostPer1mTokens : PyFloat
  configuredOutputCostPer1mTokens : PyFloat
  contextWindow : PyFloat
  effectiveMaxOutputTokens : PyFloat
  containsCode : Bool
  requestsStructuredOutput : Bool
  supportsTemperature : Bool

/-- The constructor of `CanonicalQualityFeatures`. -/
def CanonicalInputs.validate (inputs : CanonicalInputs) : Except Exc CanonicalQualityFeatures := do
  let promptCharacters ← nonnegField "prompt_characters" inputs.promptCharacters
  let approximateInputTokens ←
    nonnegField "approximate_input_tokens" inputs.approximateInputTokens
  let requestedMaxOutputTokens ←
    positiveField "requested_max_output_tokens" inputs.requestedMaxOutputTokens
  let constraintIndicatorCount ←
    nonnegField "constraint_indicator_count" inputs.constraintIndicatorCount
  let reasoningIndicatorCount ←
    nonnegField "reasoning_indicator_count" inputs.reasoningIndicatorCount
  let configuredInputCostPer1mTokens ←
    nonnegField "configured_input_cost_per_1m_tokens" inputs.configuredInputCostPer1mTokens
  let configuredOutputCostPer1mTokens ←
    nonnegField "configured_output_cost_per_1m_tokens" inputs.configuredOutputCostPer1mTokens
  let contextWindow ← positiveField "context_window" inputs.contextWindow
  let effectiveMaxOutputTokens ←
    positiveField "effective_max_output_tokens" inputs.effectiveMaxOutputTokens
  return {
    category := inputs.category
    candidateId := inputs.candidateId
    reasoningEffort := inputs.reasoningEffort
    promptCharacters
    approximateInputTokens
    requestedMaxOutputTokens
    constraintIndicatorCount
    reasoningIndicatorCount
    configuredInputCostPer1mTokens
    configuredOutputCostPer1mTokens
    contextWindow
    effectiveMaxOutputTokens
    containsCode := inputs.containsCode
    requestsStructuredOutput := inputs.requestsStructuredOutput
    supportsTemperature := inputs.supportsTemperature }

/-- The arguments that make a value. -/
def CanonicalQualityFeatures.inputs (f : CanonicalQualityFeatures) : CanonicalInputs where
  category := f.category
  candidateId := f.candidateId
  reasoningEffort := f.reasoningEffort
  promptCharacters := .finite f.promptCharacters
  approximateInputTokens := .finite f.approximateInputTokens
  requestedMaxOutputTokens := .finite f.requestedMaxOutputTokens
  constraintIndicatorCount := .finite f.constraintIndicatorCount
  reasoningIndicatorCount := .finite f.reasoningIndicatorCount
  configuredInputCostPer1mTokens := .finite f.configuredInputCostPer1mTokens
  configuredOutputCostPer1mTokens := .finite f.configuredOutputCostPer1mTokens
  contextWindow := .finite f.contextWindow
  effectiveMaxOutputTokens := .finite f.effectiveMaxOutputTokens
  containsCode := f.containsCode
  requestsStructuredOutput := f.requestsStructuredOutput
  supportsTemperature := f.supportsTemperature

/-- The constructor accepts exactly the arguments that make a value of the current schema. -/
theorem CanonicalInputs.validate_eq_ok {inputs : CanonicalInputs} {f : CanonicalQualityFeatures} :
    inputs.validate = .ok f ↔ inputs = f.inputs ∧ f.schemaVersion = "1.0.0" := by
  constructor
  · intro h
    simp only [validate, Except.bind_eq_ok, nonnegField_eq_ok, positiveField_eq_ok,
      Except.pure_eq_ok] at h
    obtain ⟨_, h1, _, h2, _, h3, _, h4, _, h5, _, h6, _, h7, _, h8, _, h9, rfl⟩ := h
    cases inputs
    simp_all [CanonicalQualityFeatures.inputs]
  · rintro ⟨rfl, hschema⟩
    simp only [validate, Except.bind_eq_ok, nonnegField_eq_ok, positiveField_eq_ok,
      Except.pure_eq_ok]
    refine ⟨_, rfl, _, rfl, _, rfl, _, rfl, _, rfl, _, rfl, _, rfl, _, rfl, _, rfl, ?_⟩
    cases f
    cases hschema
    rfl

/-- `canonicalize_reasoning_effort` of a string. -/
def canonicalizeReasoningEffortText (value : String) : Except Exc ReasoningEffort :=
  match ReasoningEffort.ofValue? value with
  | some effort => .ok effort
  | none => .error (.raised .valueError "is not a valid ReasoningEffort")

/-- `canonical_from_training_row`. The features of a row are floats already. -/
def canonicalFromTrainingRow (row : MLExperimentRow) : Except Exc CanonicalQualityFeatures := do
  let values := row.features
  let category ← canonicalizeCategory values.category
  let reasoningEffort ← canonicalizeReasoningEffortText values.reasoningEffort
  CanonicalInputs.validate {
    category
    candidateId := row.candidateId
    reasoningEffort
    promptCharacters := values.promptCharacters
    approximateInputTokens := values.approximateInputTokens
    requestedMaxOutputTokens := values.requestedMaxOutputTokens
    constraintIndicatorCount := values.constraintIndicatorCount
    reasoningIndicatorCount := values.reasoningIndicatorCount
    configuredInputCostPer1mTokens := values.configuredInputCostPer1mTokens
    configuredOutputCostPer1mTokens := values.configuredOutputCostPer1mTokens
    contextWindow := values.contextWindow
    effectiveMaxOutputTokens := values.effectiveMaxOutputTokens
    containsCode := values.containsCode
    requestsStructuredOutput := values.requestsStructuredOutput
    supportsTemperature := values.supportsTemperature }

/-- `canonical_from_production`. -/
def canonicalFromProduction (features : RoutingRequestFeatures) (candidate : ModelConfig) :
    Except Exc CanonicalQualityFeatures := do
  let some hint := features.category
    | .error (.raised .missingRoutingCategoryError
        "quality prediction requires an explicit routing category")
  let category ← canonicalizeCategory hint.value
  let promptCharacters ← floatOfInt features.promptCharacters
  let approximateInputTokens ← floatOfInt features.approximateInputTokens
  let requestedMaxOutputTokens ← floatOfInt features.maxOutputTokens.val
  let constraintIndicatorCount ← floatOfInt features.constraintIndicatorCount
  let reasoningIndicatorCount ← floatOfInt features.reasoningIndicatorCount
  let contextWindow ← floatOfInt candidate.contextWindow.val
  let allowance ← resolveEffectiveOutputAllowance features candidate
  let effectiveMaxOutputTokens ← floatOfInt allowance.val
  CanonicalInputs.validate {
    category
    candidateId := candidate.modelId
    reasoningEffort := canonicalizeReasoningEffort candidate.reasoningEffort
    promptCharacters
    approximateInputTokens
    requestedMaxOutputTokens
    constraintIndicatorCount
    reasoningIndicatorCount
    configuredInputCostPer1mTokens := .ofDecimal candidate.inputCostPer1mTokens.dec
    configuredOutputCostPer1mTokens := .ofDecimal candidate.outputCostPer1mTokens.dec
    contextWindow
    effectiveMaxOutputTokens
    containsCode := features.containsCode
    requestsStructuredOutput := features.requestsStructuredOutput
    supportsTemperature := candidate.capabilities.supportsTemperature }

end RouteLLM
