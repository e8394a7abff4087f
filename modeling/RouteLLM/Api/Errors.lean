import RouteLLM.Application.Inference
import RouteLLM.RateLimitRetry

/-!
# The errors of the API

The table of `api/app.py` and its handlers. An exception is answered by `application_error` where one of
its classes is registered, and by `unexpected_error` where it is any other `Exception`; what is no
`Exception` is not answered. The texts of an answer are those of the table, so that nothing of a request or
of an exception's message reaches a client.
-/

namespace RouteLLM

/-- The class of what the limiter raises. -/
def AdmissionError.cls : AdmissionError → ExcClass
  | .inferenceDeadlineExceeded => .inferenceDeadlineExceededError
  | .rateLimitUnavailable => .rateLimitUnavailableError
  | .rateLimitExceeded .. => .rateLimitExceededError

/-- An exception of an endpoint: of a service, of the limiter, `RequestLimitExceededError`, which is a
`ValueError`, or the `RequestValidationError` of a body that does not match its schema. -/
inductive ApiExc
  | service (e : Exc)
  | admission (e : AdmissionError)
  | requestLimitExceeded (reason : String)
  | requestValidation

/-- A class that `_ERRORS` registers. The last three are of no exception of the modelled services. -/
inductive ApiErrorClass
  | known (c : ExcClass)
  | requestLimitExceededError | predictorArtifactError | unsupportedPredictorCandidateError
  deriving DecidableEq

namespace ApiExc

/-- `isinstance` of a class of `errors.py`. -/
def isInstance (e : ApiExc) (c : ExcClass) : Bool :=
  match e with
  | service e => e.isInstance c
  | admission e => e.cls.isSubclass c
  | requestLimitExceeded _ => ExcClass.valueError.isSubclass c
  | requestValidation => ExcClass.exception.isSubclass c

/-- `isinstance` of a registered class. -/
def isRegistered (e : ApiExc) : ApiErrorClass → Bool
  | .known c => e.isInstance c
  | .requestLimitExceededError =>
    match e with
    | requestLimitExceeded _ => true
    | _ => false
  | _ => false

/-- The category of a `GatewayError`. -/
def gatewayCategory? : ApiExc → Option GatewayErrorCategory
  | service e => e.gatewayCategory?
  | _ => none

/-- `exc.retry_after_seconds` of a `RateLimitExceededError`. -/
def retryAfterSeconds? : ApiExc → Option ℤ
  | admission (.rateLimitExceeded retryAfterSeconds _) => some retryAfterSeconds
  | _ => none

end ApiExc

/-- What an error answers: a status, and a code and a message for the body. -/
structure ErrorAnswer where
  status : ℕ
  code : String
  message : String
  deriving DecidableEq

def adaptiveUnavailableCode : String := "adaptive_routing_unavailable"

/-- `_ERRORS`. -/
def apiErrors : List (ApiErrorClass × ErrorAnswer) :=
  [(.known .inferenceDeadlineExceededError,
      ⟨504, "inference_deadline_exceeded", "The inference deadline was exceeded."⟩),
    (.known .rateLimitExceededError,
      ⟨429, "rate_limit_exceeded", "The inference rate limit was exceeded."⟩),
    (.known .rateLimitUnavailableError,
      ⟨503, "rate_limit_unavailable", "Inference protection is currently unavailable."⟩),
    (.known .responseValidationError,
      ⟨502, "response_validation_failed", "No response passed the configured validation checks."⟩),
    (.known .adaptiveRoutingUnavailableError,
      ⟨503, adaptiveUnavailableCode, "Adaptive inference is not configured."⟩),
    (.predictorArtifactError, ⟨503, adaptiveUnavailableCode, "Adaptive inference is unavailable."⟩),
    (.unsupportedPredictorCandidateError,
      ⟨503, adaptiveUnavailableCode, "Adaptive inference is unavailable."⟩),
    (.known .noEligibleCandidatesError,
      ⟨503, adaptiveUnavailableCode, "Adaptive inference is unavailable."⟩),
    (.known .invalidQualityThresholdError,
      ⟨422, "invalid_adaptive_request", "The adaptive routing request is invalid."⟩),
    (.requestLimitExceededError,
      ⟨422, "invalid_request", "The request exceeds the configured production limits."⟩),
    (.known .invalidActivityCursorError,
      ⟨422, "invalid_activity_cursor", "The activity cursor is invalid."⟩),
    (.known .missingRoutingCategoryError,
      ⟨422, "invalid_adaptive_request", "The adaptive routing request is invalid."⟩),
    (.known .evaluationNotFoundError,
      ⟨404, "evaluation_not_found", "The benchmark evaluation was not found."⟩),
    (.known .evaluationArtifactError,
      ⟨422, "evaluation_artifact_invalid", "The benchmark evaluation artifact is invalid."⟩),
    (.known .telemetryUnavailableError,
      ⟨503, "telemetry_unavailable", "Telemetry is currently unavailable."⟩),
    (.known .modelNotFoundError, ⟨404, "model_not_found", "The requested model was not found."⟩),
    (.known .modelDisabledError, ⟨403, "model_disabled", "The requested model is disabled."⟩),
    (.known .contextLimitError,
      ⟨422, "context_limit_exceeded", "Input plus requested output exceeds the context window."⟩),
    (.known .providerUnavailableError,
      ⟨503, "provider_unavailable", "No adapter is available for this model."⟩),
    (.known .providerFailureError,
      ⟨502, "provider_failure", "The provider could not complete inference."⟩)]

/-- The status of a gateway error. -/
def GatewayErrorCategory.status : GatewayErrorCategory → ℕ
  | .notConfigured => 503
  | .rateLimit => 429
  | .timeout => 504
  | .contextLimit => 422
  | .invalidRequest => 422
  | _ => 502

/-- The answer to a gateway error. -/
def gatewayAnswer (category : GatewayErrorCategory) : ErrorAnswer :=
  ⟨category.status, category.value, "The gateway request could not be completed."⟩

def internalError : ErrorAnswer := ⟨500, "internal_error", "An internal error occurred."⟩

def invalidRequest : ErrorAnswer :=
  ⟨422, "invalid_request", "Request body does not match the inference schema."⟩

def invalidRequestId : ErrorAnswer :=
  ⟨400, "invalid_request_id",
    "X-Request-ID must contain 1-128 ASCII letters, digits, dots, underscores or hyphens, " ++
      "starting with a letter or digit."⟩

/-- A class of the exception is registered. -/
def ApiExc.registered (e : ApiExc) : Bool := apiErrors.any fun entry => e.isRegistered entry.1

/-- `application_error`: the answer, and the value of `Retry-After` where it is set. -/
def applicationError (e : ApiExc) : ErrorAnswer × Option ℤ :=
  match e.gatewayCategory? with
  | some category => (gatewayAnswer category, none)
  | none =>
    match apiErrors.find? fun entry => e.isRegistered entry.1 with
    | some entry => (entry.2, e.retryAfterSeconds?)
    | none => (internalError, none)

/-- The answer of the handler that is registered for a class of the exception, if one is. -/
def handlerAnswer? (e : ApiExc) : Option (ErrorAnswer × Option ℤ) :=
  match e with
  | .requestValidation => some (invalidRequest, none)
  | _ => if e.registered then some (applicationError e) else none

/-- The answers that the inference endpoints document. -/
def DocumentedAnswer (answer : ErrorAnswer) : Prop :=
  answer = invalidRequest ∨ answer = invalidRequestId ∨ answer ∈ apiErrors.map (·.2) ∨
    ∃ category, answer = gatewayAnswer category

/-- The statuses of `responses` of the inference endpoints. -/
def documentedStatuses : List ℕ := [400, 403, 404, 422, 429, 502, 503, 504]

/-- A documented answer has a documented status. -/
theorem DocumentedAnswer.status_mem {answer : ErrorAnswer} (h : DocumentedAnswer answer) :
    answer.status ∈ documentedStatuses := by
  rcases h with rfl | rfl | h | ⟨category, rfl⟩
  · decide
  · decide
  · revert answer
    decide
  · cases category <;> decide

/-- A registered exception has a documented answer. -/
theorem applicationError_documented {e : ApiExc} (h : e.registered = true) :
    DocumentedAnswer (applicationError e).1 ∧ (applicationError e).2 = e.retryAfterSeconds? := by
  rw [applicationError]
  cases hcategory : e.gatewayCategory? with
  | some category =>
    refine ⟨.inr (.inr (.inr ⟨category, rfl⟩)), ?_⟩
    cases e with
    | service e | requestLimitExceeded | requestValidation => rfl
    | admission e => cases hcategory
  | none =>
    dsimp only
    cases hfound : apiErrors.find? fun entry => e.isRegistered entry.1 with
    | some entry =>
      exact ⟨.inr (.inr (.inl (List.mem_map_of_mem (List.mem_of_find?_eq_some hfound)))), rfl⟩
    | none =>
      rw [List.find?_eq_none] at hfound
      obtain ⟨entry, hentry, hregistered⟩ := List.any_eq_true.mp h
      exact absurd hregistered (hfound entry hentry)

/-- **What a handler answers is documented**, with `Retry-After` exactly where the limiter has rejected the
request. -/
theorem handlerAnswer?_documented {e : ApiExc} {answer : ErrorAnswer × Option ℤ}
    (h : handlerAnswer? e = some answer) :
    DocumentedAnswer answer.1 ∧ answer.2 = e.retryAfterSeconds? := by
  cases e with
  | requestValidation =>
    cases h
    exact ⟨.inl rfl, rfl⟩
  | service | admission | requestLimitExceeded =>
    simp only [handlerAnswer?, Option.ite_none_right_eq_some, Option.some.injEq] at h
    obtain ⟨hregistered, rfl⟩ := h
    exact applicationError_documented hregistered

/-- An exception of a class that is registered is handled. -/
theorem ApiExc.registered_of_mem {e : ApiExc} {c : ExcClass}
    (hc : ApiErrorClass.known c ∈ apiErrors.map (·.1)) (h : e.isInstance c = true) :
    e.registered = true := by
  obtain ⟨entry, hentry, heq⟩ := List.mem_map.mp hc
  refine List.any_eq_true.mpr ⟨entry, hentry, ?_⟩
  rw [heq]
  exact h

/-- An exception of an endpoint is answered by a handler, or it is no `Exception`. -/
def ApiExc.Answerable (e : ApiExc) : Prop :=
  (handlerAnswer? e).isSome = true ∨ e.isInstance .exception = false

theorem ApiExc.answerable_of_registered {e : ApiExc} (h : e.registered = true) : e.Answerable := by
  left
  cases e with
  | requestValidation => rfl
  | service | admission | requestLimitExceeded => simp only [handlerAnswer?, if_pos h, Option.isSome_some]

end RouteLLM
