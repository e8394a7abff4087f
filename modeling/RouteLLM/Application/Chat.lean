import RouteLLM.Application.Adaptive
import RouteLLM.Application.Inference
import RouteLLM.Telemetry.Activity
import RouteLLM.Validation.Validator

/-!
# The chat orchestration service

`application/chat.py` over the two inference services. AUTO calls the inference service for the
default model, MANUAL calls the adaptive service of the configured runtime; each path hands one
`ChatActivityRecord` to `_record_activity` where it ends in a result or in an exception of its own
tuple.
-/

namespace RouteLLM

inductive ChatRoutingMode
  | auto | manual
  deriving DecidableEq

/-- `ChatOrchestrationResult`. -/
structure ChatOrchestrationResult where
  response : InferenceResponse
  executionMode : ChatExecutionMode
  category : Option RoutingCategory := none
  categorySource : Option CategorySource := none
  routingDecision : Option RoutingDecision := none
  execution : Option AdaptiveExecution := none

/-- `AdaptiveRuntime` as `build_adaptive_runtime` builds it: the routing service of a trusted artifact
has no eligibility filter, and the validator is the deterministic one. -/
structure AdaptiveRuntime (σ : Type) where
  routing : RoutingDecisionService
  unfiltered : routing.eligibilityFilter = none
  recursionLimit : ℕ
  recordAdaptiveExecution : Option (AdaptiveExecutionTelemetry → ℚ → σ → Except Exc Unit × σ)
  maxValidationAttempts : ℕ
  attempts_range : 1 ≤ maxValidationAttempts ∧ maxValidationAttempts ≤ 3
  candidateModelIds : List Identifier
  approvedQualityThreshold : PyFloat

/-- The adaptive service of a runtime, over the inference service. -/
def AdaptiveRuntime.service {σ : Type} (runtime : AdaptiveRuntime σ)
    (inference : InferenceService σ) : AdaptiveInferenceService σ where
  clock := inference.clock
  newUuid := inference.newUuid
  inferenceDeadlineSeconds := inference.inferenceDeadlineSeconds
  telemetryTimeout := inference.telemetryTimeout
  registryGet := inference.registry.get
  resolverSupports := inference.resolver.supports
  inference modelId request requestId deadline := Traced.unheard
    (inference.generate modelId.value request (some requestId) (some deadline) .adaptive)
  validator response contract s :=
    let duration := inference.durationSeconds s
    (.ok (DeterministicResponseValidator.validate runtime.recursionLimit response (some contract)
      (milliseconds duration.1)), duration.2)
  recordAdaptiveExecution := runtime.recordAdaptiveExecution
  routing := runtime.routing
  maxValidationAttempts := runtime.maxValidationAttempts
  attempts_range := runtime.attempts_range

/-- A call of the chat service: those of the two services below it, the activity handed to
`_record_activity`, and the reports of the write. -/
inductive ChatCall
  | inference (call : InferenceCall)
  | adaptive (call : Call)
  | recordActivity (event : ChatActivityRecord)
  | telemetryWrite (outcome : String)
  | telemetryWriteFailed (requestId : String)

/-- The service and its environment, whose state is of type `σ`. -/
structure ChatOrchestrationService (σ : Type) where
  inferenceService : InferenceService σ
  /-- `record_chat_activity` under a timeout, where the repository has it -/
  recordChatActivity : Option (ChatActivityRecord → ℚ → σ → Except Exc Unit × σ)
  defaultModelId : Identifier
  adaptiveRuntime : Option (AdaptiveRuntime σ) := none

namespace ChatOrchestrationService

/-- A program of the service. -/
abbrev Act (σ α : Type) := Traced Exc σ ChatCall α

/-- The exceptions whose activity the AUTO path records. -/
def directFailures : List ExcClass :=
  [.providerFailureError, .providerUnavailableError, .inferenceDeadlineExceededError]

/-- The exceptions whose activity the MANUAL path records. -/
def adaptiveFailures : List ExcClass :=
  [.providerFailureError, .providerUnavailableError, .inferenceDeadlineExceededError,
    .responseValidationError]

/-- `_failure_outcome`. -/
def failureOutcome (e : Exc) : ChatActivityOutcome :=
  if e.isInstance .responseValidationError then .validationFailed
  else if e.isInstance .inferenceDeadlineExceededError then .deadlineExceeded
  else .providerFailure

/-- The activity of a failed AUTO call. -/
def directFailureFields (requestId : String) (defaultModelId : Identifier) (model : ModelConfig)
    (e : Exc) : ChatActivityFields where
  requestId
  executionMode := .direct
  initialModelId := some defaultModelId
  provider := some model.provider
  outcome := failureOutcome e
  errorCategory := some (failureOutcome e).value
  costComplete := false

/-- The activity of a returned AUTO call. -/
def directFields (requestId : String) (response : InferenceResponse) : ChatActivityFields where
  requestId
  executionMode := .direct
  finalModelId := some response.modelId
  provider := some response.provider
  attemptCount := some 1
  escalated := some false
  outcome := .returned
  inputTokens := some response.inputTokens
  outputTokens := some response.outputTokens
  latencyMs := some response.latencyMs
  estimatedCostUsd := some response.estimatedCostUsd
  costComplete := true

/-- The activity of a failed MANUAL call. -/
def adaptiveFailureFields (requestId : String) (category : Option RoutingCategory) (e : Exc) :
    ChatActivityFields where
  requestId
  executionMode := .adaptive
  category := category.map (·.value)
  categorySource := some .manual
  outcome := failureOutcome e
  errorCategory := some (failureOutcome e).value
  costComplete := false

/-- The total cost of a result: that of its execution, or of its response. -/
def totalCost (response : InferenceResponse) (execution : Option AdaptiveExecution) :
    Option Money :=
  match execution with
  | some execution => execution.totalEstimatedCostUsd
  | none => some response.estimatedCostUsd

/-- The activity of a returned MANUAL call. -/
def adaptiveFields (requestId : String) (category : Option RoutingCategory)
    (result : AdaptiveInferenceResult) : ChatActivityFields where
  requestId
  executionMode := .adaptive
  category := category.map (·.value)
  categorySource := some .manual
  initialModelId := some result.routingDecision.selectedModelId
  finalModelId := some result.response.modelId
  provider := some result.response.provider
  routingThresholdSatisfied := some result.routingDecision.thresholdSatisfied
  routingFallbackUsed := some result.routingDecision.fallbackUsed
  attemptCount := some ((result.execution.map (·.attempts.length)).getD 1)
  escalated := some ((result.execution.map (·.escalated)).getD false)
  validationOutcome := result.execution.map (·.validationOutcome)
  outcome := .returned
  inputTokens := some result.response.inputTokens
  outputTokens := some result.response.outputTokens
  latencyMs := some ((result.execution.map (·.totalLatencyMs)).getD result.response.latencyMs)
  estimatedCostUsd := totalCost result.response result.execution
  costComplete := (totalCost result.response result.execution).isSome

variable {σ : Type} (chat : ChatOrchestrationService σ)

/-- `_record_activity`: a failed write is reported and swallowed, a cancellation is not. -/
def recordActivity (event : ChatActivityRecord) (deadline : RequestDeadline) : Act σ Unit := do
  .tell [.recordActivity event]
  match chat.recordChatActivity with
  | none => pure ()
  | some record => do
    let now ← .query chat.inferenceService.clock
    match deadline.constrainTimeout now chat.inferenceService.telemetryTimeout with
    | none => pure ()
    | some timeout => do
      let outcome ← .query (record event timeout)
      match outcome with
      | .ok () => .tell [.telemetryWrite "success"]
      | .error e =>
        if e.isInstance .exception then
          .tell [.telemetryWrite "failure", .telemetryWriteFailed event.requestId]
        else .raise e

/-- `await self._record_activity(ChatActivityRecord(…), deadline)`. -/
def recordFields (fields : ChatActivityFields) (deadline : RequestDeadline) : Act σ Unit := do
  let event ← .ofExcept (ChatActivityRecord.create fields)
  chat.recordActivity event deadline

/-- `generate` in the mode AUTO. -/
def generateDirect (request : InferenceRequest) (requestId : String) (deadline : RequestDeadline) :
    Act σ ChatOrchestrationResult := do
  let outcome ← .attempt (.embed .inference (chat.inferenceService.generate
    chat.defaultModelId.value request (some requestId) (some deadline) .explicit))
  match outcome with
  | .error e =>
    if e.isInstanceOf directFailures then do
      let model ← .ofExcept (chat.inferenceService.registry.get chat.defaultModelId.value)
      chat.recordFields (directFailureFields requestId chat.defaultModelId model e) deadline
      .raise e
    else .raise e
  | .ok response => do
    chat.recordFields (directFields requestId response) deadline
    return { response, executionMode := .direct }

/-- `generate` in the mode MANUAL, with a runtime. -/
def generateAdaptive (runtime : AdaptiveRuntime σ) (request : InferenceRequest)
    (category : Option RoutingCategory) (validation : Option ValidationContract)
    (requestId : String) (deadline : RequestDeadline) : Act σ ChatOrchestrationResult := do
  let outcome ← .attempt (.embed .adaptive ((runtime.service chat.inferenceService).generate request
    (category.map (·.value)) (.float runtime.approvedQualityThreshold)
    (runtime.candidateModelIds.map (·.value)) validation false (some requestId) (some deadline)))
  match outcome with
  | .error e =>
    if e.isInstanceOf adaptiveFailures then do
      chat.recordFields (adaptiveFailureFields requestId category e) deadline
      .raise e
    else .raise e
  | .ok result => do
    chat.recordFields (adaptiveFields requestId category result) deadline
    return {
      response := result.response
      executionMode := .adaptive
      category
      categorySource := some .manual
      routingDecision := some result.routingDecision
      execution := result.execution }

/-- `generate`. -/
def generate (request : InferenceRequest) (routingMode : ChatRoutingMode)
    (category : Option RoutingCategory) (validation : Option ValidationContract)
    (requestId : String) (deadline : RequestDeadline) : Act σ ChatOrchestrationResult :=
  match routingMode, chat.adaptiveRuntime with
  | .auto, _ => chat.generateDirect request requestId deadline
  | .manual, none => .raise (.raised .adaptiveRoutingUnavailableError
      "adaptive routing is not configured")
  | .manual, some runtime =>
    chat.generateAdaptive runtime request category validation requestId deadline

end ChatOrchestrationService

end RouteLLM
