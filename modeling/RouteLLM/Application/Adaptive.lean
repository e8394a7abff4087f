import RouteLLM.Deadline
import RouteLLM.Lib.Traced
import RouteLLM.Routing.Service
import RouteLLM.Telemetry

/-!
# The adaptive inference service

`application/adaptive.py`. The service routes once and, under a validation contract, executes the
selected model and then the next qualifying candidates until one response passes. The clock, the
inference service, the validator and the telemetry repository are its environment: each answers
anything at each call. A run records every call it makes with its answer, in order, so that the
properties of a run are properties of its recorded calls.
-/

namespace RouteLLM

structure AdaptiveAttempt where
  attemptNumber : ℕ
  modelId : Identifier
  validation : ValidationTelemetry
  latencyMs : Option ℚ≥0
  estimatedCostUsd : Option Money
  deriving DecidableEq

structure AdaptiveExecution where
  attempts : List AdaptiveAttempt
  escalated : Bool
  validationOutcome : ValidationStatus
  totalEstimatedCostUsd : Option Money
  totalLatencyMs : ℚ≥0
  deriving DecidableEq

structure AdaptiveInferenceResult where
  response : InferenceResponse
  routingDecision : RoutingDecision
  execution : Option AdaptiveExecution := none
  deriving DecidableEq

/-- The arguments of `observability.adaptive_request`. -/
structure AdaptiveRequestEvent where
  terminalOutcome : AdaptiveTerminalOutcome
  escalated : Bool
  recovered : Bool
  attempts : ℕ
  requestId : String
  validationOutcome : ValidationStatus

/-- A call to a collaborator, with its answer. -/
inductive Call
  | expired (found : Bool)
  | routingDecision (selectedModel : Identifier) (reason : RoutingDecisionReason)
  | generate (modelId : Identifier) (outcome : Except Exc InferenceResponse)
  | validate (response : InferenceResponse) (outcome : Except Exc ValidationResult)
  | validationFailure (model : Identifier) (reason : ValidationFailureCode) (attempt : ℕ)
  | recordExecution (event : AdaptiveExecutionTelemetry)
  | telemetryWrite (outcome : String)
  | telemetryWriteFailed (requestId : String)
  | adaptiveRequest (event : AdaptiveRequestEvent)

/-- The service and its environment, whose state is of type `σ`. -/
structure AdaptiveInferenceService (σ : Type) where
  clock : σ → ℚ × σ
  newUuid : σ → Uuid × σ
  inferenceDeadlineSeconds : ℚ
  telemetryTimeout : ℚ
  registryGet : String → Except Exc ModelConfig
  resolverSupports : Identifier → Bool
  /-- `InferenceService.generate` of a model id, a request, a correlation id and a deadline -/
  inference : Identifier → InferenceRequest → String → RequestDeadline → σ →
    Except Exc InferenceResponse × σ
  validator : InferenceResponse → ValidationContract → σ → Except Exc ValidationResult × σ
  /-- `record_adaptive_execution` under a timeout, where the repository has it -/
  recordAdaptiveExecution :
    Option (AdaptiveExecutionTelemetry → ℚ → σ → Except Exc Unit × σ)
  routing : RoutingDecisionService
  maxValidationAttempts : ℕ
  attempts_range : 1 ≤ maxValidationAttempts ∧ maxValidationAttempts ≤ 3

/-- What `_generate_validated` holds fixed while it loops. -/
structure ValidatedRun where
  request : InferenceRequest
  validation : ValidationContract
  decision : RoutingDecision
  correlationId : String
  deadline : RequestDeadline
  modelIds : List Identifier

namespace AdaptiveInferenceService

/-- A program of the service. -/
abbrev Act (σ α : Type) := Traced Exc σ Call α

def deadlineExceeded : Exc :=
  .raised .inferenceDeadlineExceededError "inference_deadline_exceeded"

def validationFailedError : Exc := .raised .responseValidationError "response_validation_failed"

/-- The sum of two amounts in the default decimal context. -/
def addMoney (a b : Money) : Money :=
  ⟨Decimal.add 28 a.dec b.dec, Decimal.add_nonneg a.nonneg b.nonneg⟩

/-- `_known_cost`. -/
def knownCost (attempts : List AdaptiveAttempt) : Money :=
  (attempts.filterMap (·.estimatedCostUsd)).foldl addMoney .zero

/-- `_total_cost`: unknown as soon as one cost is. -/
def totalCost (attempts : List AdaptiveAttempt) : Option Money :=
  if attempts.any (·.estimatedCostUsd.isNone) then none else some (knownCost attempts)

def totalLatency (attempts : List AdaptiveAttempt) : ℚ≥0 :=
  (attempts.map (·.latencyMs.getD 0)).sum

def totalValidationDuration (attempts : List AdaptiveAttempt) : ℚ≥0 :=
  (attempts.map (·.validation.durationMs)).sum

/-- `_execution`. -/
def execution (attempts : List AdaptiveAttempt) (outcome : ValidationStatus) :
    AdaptiveExecution where
  attempts
  escalated := 1 < attempts.length
  validationOutcome := outcome
  totalEstimatedCostUsd := totalCost attempts
  totalLatencyMs := totalLatency attempts

/-- The status of the last validated attempt. -/
def lastStatus (attempts : List AdaptiveAttempt) : ValidationStatus :=
  (attempts.getLast?.map (·.validation.status)).getD .notRun

/-- The terminal outcome of a provider failure. -/
def failureOutcome (e : Exc) : AdaptiveTerminalOutcome :=
  if e.isInstance .inferenceDeadlineExceededError then .deadlineExceeded else .providerFailure

/-- The response of a call, which a rejected completion carries too. -/
def completed : Except Exc InferenceResponse → Except Exc InferenceResponse
  | .error (.completionRejected _ completion _ _) => .ok completion
  | outcome => outcome

/-- The other qualifying candidates, by cost and id. -/
def otherCandidates (routing : RoutingResult) : List RoutingCandidateSnapshot :=
  (routing.candidates.filter fun c =>
    c.qualifies && c.modelId ≠ routing.decision.selectedModelId).insertionSort
      fun a b => CostAwareRoutingPolicy.costKey a.toCandidatePrediction ≤
        CostAwareRoutingPolicy.costKey b.toCandidatePrediction

/-- The ids to execute: the selected one and, unless the decision fell back, the other qualifying
candidates, up to the attempt limit. -/
def candidateIds (routing : RoutingResult) (maxAttempts : ℕ) : List Identifier :=
  let others :=
    if routing.decision.fallbackUsed then [] else (otherCandidates routing).map (·.modelId)
  (routing.decision.selectedModelId :: others).take maxAttempts

variable {σ α : Type} (service : AdaptiveInferenceService σ)

/-- `if deadline.expired(): raise InferenceDeadlineExceededError(…)`. -/
def checkDeadline (deadline : RequestDeadline) : Act σ Unit := do
  let now ← .query service.clock
  .tell [.expired (deadline.expired now)]
  if deadline.expired now then .raise deadlineExceeded else pure ()

/-- `_record_execution`: a failed write is reported and swallowed, a cancellation is not. -/
def recordExecution (event : AdaptiveExecutionTelemetry) (deadline : RequestDeadline) :
    Act σ Unit := do
  .tell [.recordExecution event]
  match service.recordAdaptiveExecution with
  | none => .tell [.telemetryWrite "skipped_unconfigured"]
  | some record => do
    let now ← .query service.clock
    match deadline.constrainTimeout now service.telemetryTimeout with
    | none => .tell [.telemetryWrite "skipped_deadline"]
    | some timeout => do
      let outcome ← .query (record event timeout)
      match outcome with
      | .ok () => .tell [.telemetryWrite "success"]
      | .error e =>
        if e.isInstance .exception then
          .tell [.telemetryWrite "failure", .telemetryWriteFailed event.requestId]
        else .raise e

/-- The summary of a provider failure. -/
def failureFields (run : ValidatedRun) (attempts : List AdaptiveAttempt) (attemptNumber : ℕ)
    (e : Exc) : AdaptiveExecutionFields where
  requestId := run.correlationId
  initialRoutedModelId := run.decision.selectedModelId
  returnedModelId := none
  attemptCount := attemptNumber
  escalated := 1 < attemptNumber
  validationOutcome := lastStatus attempts
  terminalOutcome := failureOutcome e
  cumulativeKnownCostUsd := knownCost attempts
  costComplete := false
  cumulativeLatencyMs := totalLatency attempts
  validatorVersion := attempts.getLast?.map fun _ => validatorVersion
  validationDurationMs := totalValidationDuration attempts

/-- The handler of an exception of the provider call. A cancellation passes through it. -/
def providerFailed (run : ValidatedRun) (attempts : List AdaptiveAttempt) (attemptNumber : ℕ)
    (e : Exc) : Act σ α :=
  if ¬ e.isInstance .exception then .raise e
  else do
    let event ← .ofExcept
      (AdaptiveExecutionTelemetry.create (failureFields run attempts attemptNumber e))
    service.recordExecution event run.deadline
    .tell [.adaptiveRequest {
      terminalOutcome := failureOutcome e
      escalated := 1 < attemptNumber
      recovered := false
      attempts := attemptNumber
      requestId := run.correlationId
      validationOutcome := lastStatus attempts }]
    .raise e

/-- The summary of a returned response. -/
def returnedFields (run : ValidatedRun) (attempts : List AdaptiveAttempt)
    (response : InferenceResponse) (result : ValidationResult) : AdaptiveExecutionFields where
  requestId := run.correlationId
  initialRoutedModelId := run.decision.selectedModelId
  returnedModelId := some response.modelId
  attemptCount := attempts.length
  escalated := 1 < attempts.length
  validationOutcome := result.status
  terminalOutcome := .returned
  cumulativeKnownCostUsd := knownCost attempts
  costComplete := (execution attempts result.status).totalEstimatedCostUsd.isSome
  cumulativeLatencyMs := (execution attempts result.status).totalLatencyMs
  validatorVersion := some validatorVersion
  validationDurationMs := totalValidationDuration attempts

/-- The exit on a response that passed. -/
def returned (run : ValidatedRun) (attempts : List AdaptiveAttempt) (response : InferenceResponse)
    (result : ValidationResult) : Act σ AdaptiveInferenceResult := do
  let event ← .ofExcept
    (AdaptiveExecutionTelemetry.create (returnedFields run attempts response result))
  service.recordExecution event run.deadline
  .tell [.adaptiveRequest {
    terminalOutcome := .returned
    escalated := 1 < attempts.length
    recovered := 1 < attempts.length && attempts.dropLast.any (·.validation.status = .failed)
    attempts := attempts.length
    requestId := run.correlationId
    validationOutcome := result.status }]
  return {
    response := response
    routingDecision := run.decision
    execution := some (execution attempts result.status) }

/-- The summary of a response that did not pass and is not retried. -/
def rejectedFields (run : ValidatedRun) (attempts : List AdaptiveAttempt)
    (result : ValidationResult) : AdaptiveExecutionFields where
  requestId := run.correlationId
  initialRoutedModelId := run.decision.selectedModelId
  returnedModelId := none
  attemptCount := attempts.length
  escalated := 1 < attempts.length
  validationOutcome := result.status
  terminalOutcome := .validationFailed
  cumulativeKnownCostUsd := knownCost attempts
  costComplete := (execution attempts result.status).totalEstimatedCostUsd.isSome
  cumulativeLatencyMs := (execution attempts result.status).totalLatencyMs
  validatorVersion := some validatorVersion
  validationDurationMs := totalValidationDuration attempts
  failureCodes := result.failures.map (·.code)

/-- The exit on a response that did not pass and is not retried. -/
def validationFailed (run : ValidatedRun) (attempts : List AdaptiveAttempt)
    (result : ValidationResult) : Act σ α := do
  let event ← .ofExcept (AdaptiveExecutionTelemetry.create (rejectedFields run attempts result))
  service.recordExecution event run.deadline
  .tell [.adaptiveRequest {
    terminalOutcome := .validationFailed
    escalated := 1 < attempts.length
    recovered := false
    attempts := attempts.length
    requestId := run.correlationId
    validationOutcome := result.status }]
  .raise validationFailedError

/-- The attempt that an executed and validated candidate appends. -/
def attemptOf (attemptNumber : ℕ) (modelId : Identifier) (response : InferenceResponse)
    (result : ValidationResult) : AdaptiveAttempt where
  attemptNumber
  modelId
  validation := .fromResult result
  latencyMs := some response.latencyMs
  estimatedCostUsd := some response.estimatedCostUsd

/-- One iteration of the loop: it appends an attempt and goes on, returns a result, or raises. -/
def attemptStep (run : ValidatedRun) (attempts : List AdaptiveAttempt) (attemptNumber : ℕ)
    (modelId : Identifier) : Act σ (AdaptiveAttempt ⊕ AdaptiveInferenceResult) := do
  service.checkDeadline run.deadline
  let outcome ← .query (service.inference modelId run.request run.correlationId run.deadline)
  .tell [.generate modelId outcome]
  match completed outcome with
  | .error e => service.providerFailed run attempts attemptNumber e
  | .ok response => do
    service.checkDeadline run.deadline
    let validated ← .query (service.validator response run.validation)
    .tell [.validate response validated]
    let result ← .ofExcept validated
    service.checkDeadline run.deadline
    .tell (result.failures.map fun f => .validationFailure modelId f.code attemptNumber)
    let attempt := attemptOf attemptNumber modelId response result
    if result.status = .passed then do
      let answer ← service.returned run (attempts ++ [attempt]) response result
      return .inr answer
    else if ¬ result.recoverable ∨ attemptNumber = run.modelIds.length then
      service.validationFailed run (attempts ++ [attempt]) result
    else return .inl attempt

/-- The loop over the model ids that are left, numbered from `attemptNumber`. -/
def attemptLoop (run : ValidatedRun) (attempts : List AdaptiveAttempt) (attemptNumber : ℕ) :
    List Identifier → Act σ AdaptiveInferenceResult
  | [] => .raise (.raised .assertionError "validated execution requires an initial candidate")
  | modelId :: rest => do
    let step ← service.attemptStep run attempts attemptNumber modelId
    match step with
    | .inr answer => return answer
    | .inl attempt => attemptLoop run (attempts ++ [attempt]) (attemptNumber + 1) rest

/-- `request_id or str(uuid4())`. -/
def correlationId (requestId : Option String) : Act σ String :=
  match requestId.filter (· ≠ "") with
  | some id => pure id
  | none => do
    let fresh ← .query service.newUuid
    return fresh.text

/-- `_generate_validated`. -/
def generateValidated (request : InferenceRequest) (validation : ValidationContract)
    (routing : RoutingResult) (requestId : Option String) (deadline : RequestDeadline) :
    Act σ AdaptiveInferenceResult := do
  let correlationId ← service.correlationId requestId
  let modelIds := candidateIds routing service.maxValidationAttempts
  let run := {
    request, validation, decision := routing.decision, correlationId, deadline, modelIds }
  service.attemptLoop run [] 1 modelIds

/-- `_resolve_candidates`. The message quotes the id as `repr` does where the id has no quote. -/
def resolveCandidates (candidateModelIds : List String) : Except Exc (List ModelConfig) :=
  candidateModelIds.mapM fun modelId => do
    let model ← service.registryGet modelId
    if ¬ model.enabled then
      .error (.raised .modelDisabledError ("Model is disabled: '" ++ model.modelId.value ++ "'"))
    else if ¬ service.resolverSupports model.provider then
      .error (.raised .providerUnavailableError
        "No provider adapter is registered for an adaptive candidate")
    else return model

/-- The single attempt of a request without a validation contract. -/
def generateUnvalidated (request : InferenceRequest) (decision : RoutingDecision)
    (requestId : Option String) (deadline : RequestDeadline) : Act σ AdaptiveInferenceResult := do
  .tell [.routingDecision decision.selectedModelId decision.reason]
  let correlationId ← service.correlationId requestId
  let outcome ← .query (service.inference decision.selectedModelId request correlationId deadline)
  .tell [.generate decision.selectedModelId outcome]
  let event (terminalOutcome : AdaptiveTerminalOutcome) : Call := .adaptiveRequest {
    terminalOutcome
    escalated := false
    recovered := false
    attempts := 1
    requestId := correlationId
    validationOutcome := .notRun }
  match outcome with
  | .error e =>
    if e.isInstance .exception then do
      .tell [event (failureOutcome e)]
      .raise e
    else .raise e
  | .ok response => do
    .tell [event .returned]
    return { response, routingDecision := decision }

/-- `deadline or self._inference_service.new_deadline()`. -/
def deadlineOrNew : Option RequestDeadline → Act σ RequestDeadline
  | some deadline => pure deadline
  | none => do
    let now ← .query service.clock
    return .start service.inferenceDeadlineSeconds now

/-- `generate`. -/
def generate (request : InferenceRequest) (category : Option String)
    (qualityThreshold : ThresholdValue) (candidateModelIds : List String)
    (validation : Option ValidationContract) (structuredOutputRequired : Bool)
    (requestId : Option String) (deadline : Option RequestDeadline) :
    Act σ AdaptiveInferenceResult := do
  let requestDeadline ← service.deadlineOrNew deadline
  service.checkDeadline requestDeadline
  let candidates ← .ofExcept (service.resolveCandidates candidateModelIds)
  let routing ← .ofExcept (service.routing.routeWithSnapshot request candidates qualityThreshold
    category structuredOutputRequired)
  match validation with
  | none => service.generateUnvalidated request routing.decision requestId requestDeadline
  | some validation => do
    .tell [.routingDecision routing.decision.selectedModelId routing.decision.reason]
    service.generateValidated request validation routing requestId requestDeadline

end AdaptiveInferenceService

end RouteLLM
