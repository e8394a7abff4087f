import RouteLLM.Errors
import RouteLLM.Validation.Contracts

/-!
# Execution telemetry

The validation and execution summaries of `telemetry/contracts.py`. The random id and the creation
time of a summary are left out: nothing reads them.
-/

namespace RouteLLM

structure ValidationTelemetry where
  status : ValidationStatus
  failureCodes : List ValidationFailureCode
  durationMs : ℚ≥0
  failureCodes_length : failureCodes.length ≤ maxFailures
  deriving DecidableEq

/-- `ValidationTelemetry.from_result`. Both versions are the one literal the models admit. -/
def ValidationTelemetry.fromResult (result : ValidationResult) : ValidationTelemetry where
  status := result.status
  failureCodes := result.failures.map (·.code)
  durationMs := result.durationMs
  failureCodes_length := by simpa using result.failures_length

inductive AdaptiveTerminalOutcome
  | returned | validationFailed | providerFailure | deadlineExceeded
  deriving DecidableEq

/-- The fields of an `AdaptiveExecutionTelemetry` before its checks. -/
structure AdaptiveExecutionFields where
  requestId : String
  initialRoutedModelId : Identifier
  returnedModelId : Option Identifier
  attemptCount : ℕ
  escalated : Bool
  validationOutcome : ValidationStatus
  terminalOutcome : AdaptiveTerminalOutcome
  cumulativeKnownCostUsd : Money
  costComplete : Bool
  cumulativeLatencyMs : ℚ≥0
  validatorVersion : Option String
  validationDurationMs : ℚ≥0
  failureCodes : List ValidationFailureCode := []
  deriving DecidableEq

/-- `AdaptiveExecutionTelemetry`: one bounded summary of a validation-enabled request. -/
structure AdaptiveExecutionTelemetry extends AdaptiveExecutionFields where
  requestId_length : 1 ≤ requestId.length ∧ requestId.length ≤ 128
  attemptCount_range : 0 < attemptCount ∧ attemptCount ≤ 3
  validatorVersion_length : ∀ v, validatorVersion = some v → v.length ≤ 64
  failureCodes_length : failureCodes.length ≤ maxFailures

/-- The constructor, which raises on a field out of its bounds. -/
def AdaptiveExecutionTelemetry.create (fields : AdaptiveExecutionFields) :
    Except Exc AdaptiveExecutionTelemetry :=
  if h : (1 ≤ fields.requestId.length ∧ fields.requestId.length ≤ 128) ∧
      (0 < fields.attemptCount ∧ fields.attemptCount ≤ 3) ∧
      (∀ v ∈ fields.validatorVersion, v.length ≤ 64) ∧
      fields.failureCodes.length ≤ maxFailures then
    .ok ⟨fields, h.1, h.2.1, h.2.2.1, h.2.2.2⟩
  else .error (.raised .validationError "AdaptiveExecutionTelemetry")

/-- Fields within their bounds make a summary of these fields. -/
theorem AdaptiveExecutionTelemetry.create_eq_ok {fields : AdaptiveExecutionFields}
    (hid : 1 ≤ fields.requestId.length ∧ fields.requestId.length ≤ 128)
    (hcount : 0 < fields.attemptCount ∧ fields.attemptCount ≤ 3)
    (hversion : ∀ v ∈ fields.validatorVersion, v.length ≤ 64)
    (hcodes : fields.failureCodes.length ≤ maxFailures) :
    ∃ event, AdaptiveExecutionTelemetry.create fields = .ok event ∧
      event.toAdaptiveExecutionFields = fields :=
  ⟨⟨fields, hid, hcount, hversion, hcodes⟩, dif_pos ⟨hid, hcount, hversion, hcodes⟩, rfl⟩

end RouteLLM
