import RouteLLM.Api.Errors
import RouteLLM.Application.StartedCalls
import RouteLLM.Lib.FloatOrder

/-!
# The inference endpoints

The middleware and the handlers of `api/app.py` around the three inference endpoints of `api/routes.py`,
with the checks of `api/limits.py` and the payloads of `api/schemas.py`. The dependencies of an endpoint
are resolved before its body is validated; a payload is nothing where the body does not match its schema.
The template of the matched route is a parameter, and so is the text of a fresh request id.
-/

namespace RouteLLM

/-! ## Payloads -/

/-- `RequestLimitSettings`, with its field bounds. -/
structure RequestLimitSettings where
  maxPromptCharacters : ℕ := 100000
  maxOutputTokens : ℕ := 8192
  prompt_range : 0 < maxPromptCharacters ∧ maxPromptCharacters ≤ 100000
  output_range : 0 < maxOutputTokens ∧ maxOutputTokens ≤ 8192

/-- `validate_request`. -/
def RequestLimitSettings.validateRequest (limits : RequestLimitSettings) (request : InferenceRequest) :
    Except ApiExc Unit :=
  let totalCharacters := request.prompt.length + (request.systemPrompt.getD "").length
  if limits.maxPromptCharacters < totalCharacters then .error (.requestLimitExceeded "prompt_limit_exceeded")
  else if limits.maxOutputTokens < request.maxOutputTokens.val then
    .error (.requestLimitExceeded "output_limit_exceeded")
  else .ok ()

/-- `InferencePayload`. Its `to_domain` is the request. -/
structure InferencePayload extends InferenceRequest where
  modelId : Identifier

/-- `AdaptiveInferencePayload`. Its `to_domain` is the request. -/
structure AdaptiveInferencePayload extends InferenceRequest where
  validation : Option ValidationContract := none
  category : RoutingCategory
  qualityThreshold : Option Probability := none

/-- `ChatPayload`, with the checks of `validate_mode_specific_fields`. Its `to_domain` is the request. -/
structure ChatPayload extends InferenceRequest where
  routingMode : ChatRoutingMode
  category : Option RoutingCategory := none
  validation : Option ValidationContract := none
  mode_fields : match routingMode with
    | .auto => category = none ∧ validation = none
    | .manual => category ≠ none

/-- `InferenceResult`: the response, of which the two termination fields are not shown, and the request id. -/
structure InferenceResult where
  response : InferenceResponse
  requestId : String

/-- `PublicRoutingMetadata`. -/
structure PublicRoutingMetadata where
  selectedModelId : Identifier
  thresholdSatisfied : Bool
  fallbackUsed : Bool
  reason : RoutingDecisionReason

/-- `PublicExecutionMetadata`; `validation_outcome` is the one literal that it admits. -/
structure PublicExecutionMetadata where
  attempts : ℕ
  escalated : Bool
  totalEstimatedCostUsd : Option Money
  totalLatencyMs : ℚ≥0
  attempts_range : 0 < attempts ∧ attempts ≤ 3

/-- `AdaptiveInferenceResult` of the API. -/
structure PublicAdaptiveResult extends InferenceResult where
  routing : PublicRoutingMetadata
  execution : Option PublicExecutionMetadata

/-- `ChatResult`. -/
structure ChatResult extends InferenceResult where
  executionMode : ChatExecutionMode
  category : Option RoutingCategory
  categorySource : Option CategorySource
  routing : Option PublicRoutingMetadata
  execution : Option PublicExecutionMetadata

def publicRouting (decision : RoutingDecision) : PublicRoutingMetadata where
  selectedModelId := decision.selectedModelId
  thresholdSatisfied := decision.thresholdSatisfied
  fallbackUsed := decision.fallbackUsed
  reason := decision.reason

/-- The constructor of `PublicExecutionMetadata`, which raises on a count out of its bounds. -/
def publicExecution : Option AdaptiveExecution → Except ApiExc (Option PublicExecutionMetadata)
  | none => .ok none
  | some execution =>
    if h : 0 < execution.attempts.length ∧ execution.attempts.length ≤ 3 then
      .ok (some {
        attempts := execution.attempts.length
        escalated := execution.escalated
        totalEstimatedCostUsd := execution.totalEstimatedCostUsd
        totalLatencyMs := execution.totalLatencyMs
        attempts_range := h })
    else .error (.service (.raised .validationError "PublicExecutionMetadata"))

/-! ## Responses -/

/-- `ErrorResponse`. -/
structure ErrorBody where
  code : String
  message : String
  requestId : String

/-- A response: its status, its body, and the headers `X-Request-ID` and `Retry-After`. -/
structure HttpResponse (α : Type) where
  status : ℕ
  body : α ⊕ ErrorBody
  requestId : String
  retryAfter : Option ℤ := none

/-- `error_response`. -/
def errorResponse {α : Type} (requestId : String) (answer : ErrorAnswer) (retryAfter : Option ℤ) :
    HttpResponse α where
  status := answer.status
  body := .inr ⟨answer.code, answer.message, requestId⟩
  requestId
  retryAfter

/-- `_REQUEST_ID.fullmatch`. -/
def requestIdMatches (id : String) : Bool :=
  match id.toList with
  | [] => false
  | c :: rest => c.isAlphanum && rest.length ≤ 127 &&
      rest.all fun c => c.isAlphanum || c = '.' || c = '_' || c = '-'

/-- `f"{status_code // 100}xx"`. -/
def statusClass (status : ℕ) : String := toString (status / 100) ++ "xx"

def statusOutcome (status : ℕ) : String :=
  if status < 400 then "success" else if status < 500 then "client_error" else "server_error"

/-- What the API records of a request: the metrics and the event of the middleware, the decision of the
limiter, and the calls of the services. -/
inductive ApiCall
  | httpStarted (route : String)
  | httpFinished (route method statusClass outcome : String)
  | emit (event requestId route method : String) (statusCode : ℕ) (outcome : String)
  | admission (client : String) (kind : InferenceKind) (granted : Bool)
  | rejection (r : RateLimitRejection)
  | inference (call : InferenceCall)
  | adaptive (call : Call)
  | chat (call : ChatCall)

/-- `DisabledRateLimiter` or `RedisRateLimiter`. -/
inductive InferenceRateLimiter (σ : Type)
  | disabled
  | redis (limiter : RedisLimiter σ)

/-- The state of the application. -/
structure GatewayApp (σ : Type) where
  inferenceService : InferenceService σ
  adaptiveRuntime : Option (AdaptiveRuntime σ)
  chatService : Option (ChatOrchestrationService σ)
  rateLimiter : InferenceRateLimiter σ
  requestLimits : RequestLimitSettings

namespace GatewayApp

/-- A program of the API. -/
abbrev Act (σ α : Type) := Traced ApiExc σ ApiCall α

variable {σ α : Type} (app : GatewayApp σ)

/-- `admit` of the configured limiter. -/
def admitClient (client : String) (kind : InferenceKind) (deadline : RequestDeadline) :
    Traced AdmissionError σ RateLimitRejection Unit :=
  match app.rateLimiter with
  | .disabled => do
    let now ← .query app.inferenceService.clock
    if deadline.expired now then .raise .inferenceDeadlineExceeded else pure ()
  | .redis limiter => limiter.admitRequest client kind deadline

/-- `_effective_client`. -/
def effectiveClient (client : Option String) : String := client.getD "unknown"

/-- The deadline of a request and its admission, and then what the endpoint executes. -/
def admitted (client : Option String) (kind : InferenceKind) (execute : RequestDeadline → Act σ α) :
    Act σ α := do
  let now ← .query app.inferenceService.clock
  let deadline := RequestDeadline.start app.inferenceService.inferenceDeadlineSeconds now
  let admission ← .attempt (.translate .admission .rejection
    (app.admitClient (effectiveClient client) kind deadline))
  .tell [.admission (effectiveClient client) kind admission.isOk]
  .ofExcept admission
  execute deadline

/-- A body that matches its schema. -/
def validPayload {π : Type} : Option π → Except ApiExc π
  | some payload => .ok payload
  | none => .error .requestValidation

/-- `inference`. -/
def inference (payload : Option InferencePayload) (client : Option String) (requestId : String) :
    Act σ InferenceResult := do
  let payload ← .ofExcept (validPayload payload)
  .ofExcept (app.requestLimits.validateRequest payload.toInferenceRequest)
  app.admitted client .explicit fun deadline => do
    let response ← .translate .service .inference (app.inferenceService.generate payload.modelId.value
      payload.toInferenceRequest (some requestId) (some deadline) .explicit)
    return { response, requestId }

/-- A component of the application state, which may not be configured. -/
def configured {β : Type} (component : Option β) (message : String) : Except ApiExc β :=
  match component with
  | some component => .ok component
  | none => .error (.service (.raised .adaptiveRoutingUnavailableError message))

/-- `get_adaptive_runtime`. -/
def getAdaptiveRuntime : Except ApiExc (AdaptiveRuntime σ) :=
  configured app.adaptiveRuntime "adaptive routing is not configured"

/-- `get_chat_service`. -/
def getChatService : Except ApiExc (ChatOrchestrationService σ) :=
  configured app.chatService "chat orchestration is not configured"

/-- `adaptive_inference`. -/
def adaptiveInference (payload : Option AdaptiveInferencePayload) (client : Option String)
    (requestId : String) : Act σ PublicAdaptiveResult := do
  let runtime ← .ofExcept app.getAdaptiveRuntime
  let payload ← .ofExcept (validPayload payload)
  .ofExcept (app.requestLimits.validateRequest payload.toInferenceRequest)
  if ∃ threshold ∈ payload.qualityThreshold,
      ¬ (PyFloat.finite threshold.float).Equal runtime.approvedQualityThreshold then
    .raise (.service (.raised .invalidQualityThresholdError "unapproved production threshold"))
  else
    app.admitted client .adaptive fun deadline => do
      let result ← .translate .service .adaptive ((runtime.service app.inferenceService).generate
        payload.toInferenceRequest (some payload.category.value) (.float runtime.approvedQualityThreshold)
        (runtime.candidateModelIds.map (·.value)) payload.validation false (some requestId)
        (some deadline))
      let execution ← .ofExcept (publicExecution result.execution)
      return {
        response := result.response
        requestId
        routing := publicRouting result.routingDecision
        execution }

/-- `chat_inference`. -/
def chatInference (payload : Option ChatPayload) (client : Option String) (requestId : String) :
    Act σ ChatResult := do
  let chat ← .ofExcept app.getChatService
  let payload ← .ofExcept (validPayload payload)
  .ofExcept (app.requestLimits.validateRequest payload.toInferenceRequest)
  let kind := if payload.routingMode = .auto then .explicit else .adaptive
  app.admitted client kind fun deadline => do
    let result ← .translate .service .chat (chat.generate payload.toInferenceRequest payload.routingMode
      payload.category payload.validation requestId deadline)
    let execution ← .ofExcept (publicExecution result.execution)
    return {
      response := result.response
      requestId
      executionMode := result.executionMode
      category := result.category
      categorySource := result.categorySource
      routing := result.routingDecision.map publicRouting
      execution }

/-! ## The middleware -/

/-- The supplied request id, where the header is absent or well formed. -/
def suppliedId : List String → Except Unit (Option String)
  | [] => .ok none
  | [id] => if requestIdMatches id then .ok (some id) else .error ()
  | _ => .error ()

/-- The report of a response of this status. -/
def finishedCalls (route method requestId : String) (status : ℕ) : List ApiCall :=
  [.httpFinished route method (statusClass status) (statusOutcome status),
    .emit "http_request_completed" requestId route method status (statusOutcome status)]

/-- The report of a cancelled request. -/
def cancelledCalls (route method requestId : String) : List ApiCall :=
  [.httpFinished route method "cancelled" "cancelled",
    .emit "request_cancelled" requestId route method 499 "cancelled"]

/-- The endpoint under its registered handlers. -/
def callNext (endpoint : String → Act σ α) (requestId : String) : Act σ (HttpResponse α) := do
  let outcome ← .attempt (endpoint requestId)
  match outcome with
  | .ok value => return { status := 200, body := .inl value, requestId }
  | .error e =>
    match handlerAnswer? e with
    | some answer => return errorResponse requestId answer.1 answer.2
    | none => .raise e

/-- `correlation_id` once the id of the request is known, under the handler of all other exceptions,
`unexpected_error`. -/
def identified (route method : String) (endpoint : String → Act σ α) (requestId : String) :
    Act σ (HttpResponse α) := do
  let outcome ← .attempt (callNext endpoint requestId)
  match outcome with
  | .ok response => do
    .tell (finishedCalls route method requestId response.status)
    return response
  | .error e => do
    .tell (if e.isInstance .cancelledError then cancelledCalls route method requestId
      else finishedCalls route method requestId 500)
    if e.isInstance .exception then return errorResponse requestId internalError none
    else .raise e

/-- `correlation_id`. -/
def serve (route method : String) (supplied : List String) (endpoint : String → Act σ α) :
    Act σ (HttpResponse α) := do
  .tell [.httpStarted route]
  let fresh ← .query app.inferenceService.newUuid
  match suppliedId supplied with
  | .error () => do
    .tell (finishedCalls route method fresh.text invalidRequestId.status)
    return errorResponse fresh.text invalidRequestId none
  | .ok given => identified route method endpoint (given.getD fresh.text)

end GatewayApp

end RouteLLM
