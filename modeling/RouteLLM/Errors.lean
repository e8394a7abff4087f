import RouteLLM.Lib.PyJson
import RouteLLM.Models

/-!
# Application and provider errors

The exception hierarchy of `errors.py` over the built-in classes the modelled code raises or
catches. An `except` clause is the test `Exc.isInstance` against its classes; `CancelledError` is a
`BaseException` only, so that no `except Exception` catches it.
-/

namespace RouteLLM

/-- The exception classes. -/
inductive ExcClass
  | baseException | exception | cancelledError
  | arithmeticError | assertionError | attributeError | indexError | keyError | memoryError
  | recursionError | runtimeError | syntaxError | timeoutError | typeError | valueError | osError
  | fileNotFoundError | overflowError | zeroDivisionError | validationError | modelNotFoundError
  | modelDisabledError | contextLimitError | providerUnavailableError | providerFailureError
  | inferenceDeadlineExceededError | rateLimitExceededError | rateLimitUnavailableError
  | gatewayError | completionRejectedError | responseValidationError
  | adaptiveRoutingUnavailableError | telemetryUnavailableError | invalidActivityCursorError
  | evaluationNotFoundError | evaluationArtifactError
  | routingPolicyError | noEligibleCandidatesError | invalidQualityThresholdError
  | duplicateCandidatePredictionError
  | qualityPredictorError | predictorInputCompatibilityError | missingRoutingCategoryError
  deriving DecidableEq

namespace ExcClass

/-- The direct base classes. A pydantic `ValidationError` is a `ValueError`. -/
def bases : ExcClass → List ExcClass
  | baseException => []
  | exception | cancelledError => [baseException]
  | arithmeticError | assertionError | attributeError | indexError | keyError | memoryError
  | runtimeError | syntaxError | typeError | valueError | osError => [exception]
  | recursionError => [runtimeError]
  | timeoutError | fileNotFoundError => [osError]
  | overflowError | zeroDivisionError => [arithmeticError]
  | modelNotFoundError => [keyError]
  | validationError | modelDisabledError | contextLimitError | evaluationArtifactError
  | invalidActivityCursorError | routingPolicyError => [valueError]
  | providerUnavailableError | providerFailureError | inferenceDeadlineExceededError
  | rateLimitExceededError | rateLimitUnavailableError | responseValidationError
  | adaptiveRoutingUnavailableError | telemetryUnavailableError
  | qualityPredictorError => [runtimeError]
  | gatewayError => [providerFailureError]
  | completionRejectedError => [gatewayError]
  | evaluationNotFoundError => [fileNotFoundError]
  | noEligibleCandidatesError | invalidQualityThresholdError
  | duplicateCandidatePredictionError => [routingPolicyError]
  | predictorInputCompatibilityError => [qualityPredictorError, valueError]
  | missingRoutingCategoryError => [predictorInputCompatibilityError]

/-- The classes at most `n` steps above a class, itself included. -/
def ancestors : ℕ → ExcClass → List ExcClass
  | 0, c => [c]
  | n + 1, c => c :: c.bases.flatMap (ancestors n)

/-- `issubclass`. No class of the hierarchy is more than six steps below `BaseException`. -/
def isSubclass (c d : ExcClass) : Bool := (ancestors 6 c).contains d

/-- No `except Exception` catches a cancellation. -/
theorem isSubclass_exception_of_cancelledError {c : ExcClass}
    (h : c.isSubclass cancelledError = true) : c.isSubclass exception = false := by
  revert h
  cases c <;> decide

end ExcClass

inductive GatewayErrorCategory
  | notConfigured | authentication | invalidModel | invalidRequest | contextLimit | rateLimit
  | timeout | upstream | malformedResponse | missingUsage | emptyResponse | outputBudgetExhaustion
  deriving DecidableEq

@[inherit_doc ReasoningEffort.value]
def GatewayErrorCategory.value : GatewayErrorCategory → String
  | .notConfigured => "gateway_not_configured"
  | .authentication => "gateway_authentication"
  | .invalidModel => "gateway_invalid_model"
  | .invalidRequest => "gateway_invalid_request"
  | .contextLimit => "context_limit_exceeded"
  | .rateLimit => "gateway_rate_limit"
  | .timeout => "gateway_timeout"
  | .upstream => "gateway_upstream"
  | .malformedResponse => "gateway_malformed_response"
  | .missingUsage => "gateway_missing_usage"
  | .emptyResponse => "gateway_empty_response"
  | .outputBudgetExhaustion => "output_budget_exhaustion"

/-- Safe structured diagnostics of a gateway error. -/
abbrev Diagnostics := List (PyStr × PyJson)

/-- A raised exception: a class with its message, or one of the two that carry data. The category of
a rejected completion is one of the two its constructor accepts. -/
inductive Exc
  | raised (cls : ExcClass) (message : String)
  | gateway (category : GatewayErrorCategory) (diagnostics : Diagnostics)
  | completionRejected (category : GatewayErrorCategory) (completion : InferenceResponse)
      (diagnostics : Diagnostics)
      (supported : category = .emptyResponse ∨ category = .outputBudgetExhaustion)

namespace Exc

/-- The class of an exception. -/
def cls : Exc → ExcClass
  | raised c _ => c
  | gateway .. => .gatewayError
  | completionRejected .. => .completionRejectedError

/-- `isinstance`. -/
def isInstance (e : Exc) (c : ExcClass) : Bool := e.cls.isSubclass c

/-- `isinstance` of a tuple of classes, as an `except` clause tests it. -/
def isInstanceOf (e : Exc) (cs : List ExcClass) : Bool := cs.any e.isInstance

@[simp] theorem isInstance_raised (c d : ExcClass) (m : String) :
    (raised c m).isInstance d = c.isSubclass d := rfl

end Exc

/-- A run that a cancellation ended: it raised what no `except Exception` catches. -/
def Cancelled {α : Type} (result : Except Exc α) : Prop :=
  ∃ e, result = .error e ∧ e.isInstance .exception = false

instance Cancelled.decidable {α : Type} : (result : Except Exc α) → Decidable (Cancelled result)
  | .ok _ => isFalse (by simp [Cancelled])
  | .error e => decidable_of_iff (e.isInstance .exception = false) (by simp [Cancelled])

end RouteLLM
