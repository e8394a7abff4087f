import RouteLLM.Telemetry

/-!
# Chat activity

`ChatActivityRecord` of `telemetry/contracts.py`: one summary of a chat request. The random id and the
creation time that the constructor adds are fields of the stored row.
-/

namespace RouteLLM

inductive ChatExecutionMode
  | direct | adaptive
  deriving DecidableEq

inductive CategorySource
  | manual
  deriving DecidableEq

inductive ChatActivityOutcome
  | returned | providerFailure | validationFailed | deadlineExceeded
  deriving DecidableEq

@[inherit_doc ReasoningEffort.value]
def ChatActivityOutcome.value : ChatActivityOutcome → String
  | .returned => "returned"
  | .providerFailure => "provider_failure"
  | .validationFailed => "validation_failed"
  | .deadlineExceeded => "deadline_exceeded"

/-- The fields of a `ChatActivityRecord` before its checks. -/
structure ChatActivityFields where
  requestId : String
  executionMode : ChatExecutionMode
  category : Option String := none
  categorySource : Option CategorySource := none
  initialModelId : Option Identifier := none
  finalModelId : Option Identifier := none
  provider : Option Identifier := none
  routingThresholdSatisfied : Option Bool := none
  routingFallbackUsed : Option Bool := none
  attemptCount : Option ℕ := none
  escalated : Option Bool := none
  validationOutcome : Option ValidationStatus := none
  outcome : ChatActivityOutcome
  errorCategory : Option String := none
  inputTokens : Option ℕ := none
  outputTokens : Option ℕ := none
  latencyMs : Option ℚ≥0 := none
  estimatedCostUsd : Option Money := none
  costComplete : Bool
  deriving DecidableEq

/-- `ChatActivityRecord`. -/
structure ChatActivityRecord extends ChatActivityFields where
  requestId_length : 1 ≤ requestId.length ∧ requestId.length ≤ 128
  category_length : ∀ c ∈ category, c.length ≤ 64
  attemptCount_range : ∀ n ∈ attemptCount, 0 < n ∧ n ≤ 3
  errorCategory_length : ∀ c ∈ errorCategory, c.length ≤ 64
  deriving DecidableEq

/-- The constructor, which raises on a field out of its bounds. -/
def ChatActivityRecord.create (fields : ChatActivityFields) : Except Exc ChatActivityRecord :=
  if h : (1 ≤ fields.requestId.length ∧ fields.requestId.length ≤ 128) ∧
      (∀ c ∈ fields.category, c.length ≤ 64) ∧ (∀ n ∈ fields.attemptCount, 0 < n ∧ n ≤ 3) ∧
      ∀ c ∈ fields.errorCategory, c.length ≤ 64 then
    .ok ⟨fields, h.1, h.2.1, h.2.2.1, h.2.2.2⟩
  else .error (.raised .validationError "ChatActivityRecord")

end RouteLLM
