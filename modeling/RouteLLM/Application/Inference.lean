import RouteLLM.Deadline
import RouteLLM.Lib.Except
import RouteLLM.Lib.Traced
import RouteLLM.Registry

/-!
# The inference service

`application/service.py` over `providers/resolver.py`. A provider answers anything within its
timeout: a response, an object of another type, or an exception. The service normalizes what it
raises: for a registered model, `generate_holds` names the exceptions that leave it.
-/

namespace RouteLLM

inductive RequestMode
  | explicit | adaptive
  deriving DecidableEq

/-- `TelemetryEvent`. Its random id and creation time are left out: nothing reads them. -/
structure TelemetryEvent where
  requestId : String
  modelId : Identifier
  provider : Identifier
  success : Bool
  latencyMs : ℚ≥0
  maxOutputTokens : PositiveTokenCount
  temperature : Binary64
  promptCharacters : ℕ
  systemPromptCharacters : ℕ
  inputTokens : Option ℕ := none
  outputTokens : Option ℕ := none
  estimatedCostUsd : Option Money := none
  errorCategory : Option String := none

/-- The arguments of `observability.provider_attempt`. -/
structure ProviderAttempt where
  provider : Identifier
  model : Identifier
  outcome : String
  errorCategory : String
  durationSeconds : ℚ≥0
  requestMode : RequestMode
  estimatedCostUsd : Option Money
  requestId : String

/-- A call to a collaborator of the service: the deadline check at the entry, the resolution of the
adapter with its outcome, and the reports. -/
inductive InferenceCall
  | expired (found : Bool)
  | resolve (modelId : Identifier) (outcome : Except Exc Unit)
  | providerAttempt (event : ProviderAttempt)
  | recordTelemetry (event : TelemetryEvent)
  | telemetryWrite (outcome : String)
  | telemetryWriteFailed (requestId : String)

/-- An adapter bound to one model, called with a request and a timeout. It may return an object that
is no response. -/
abbrev Provider (σ : Type) := InferenceRequest → ℚ → σ → Except Exc (Option InferenceResponse) × σ

/-- `ProviderResolver`: an adapter factory for each provider. -/
structure ProviderResolver (σ : Type) where
  factories : List (Identifier × (ModelConfig → σ → Except Exc (Provider σ) × σ))

namespace ProviderResolver

variable {σ : Type} (resolver : ProviderResolver σ)

/-- `supports`. -/
def supports (provider : Identifier) : Bool := (resolver.factories.lookup provider).isSome

/-- `resolve`. -/
def resolve (model : ModelConfig) (s : σ) : Except Exc (Provider σ) × σ :=
  match resolver.factories.lookup model.provider with
  | some factory => factory model s
  | none => (.error (.raised .providerUnavailableError "No provider adapter is registered"), s)

end ProviderResolver

namespace Exc

/-- The category of a gateway error. -/
def gatewayCategory? : Exc → Option GatewayErrorCategory
  | gateway c _ | completionRejected c .. => some c
  | raised .. => none

/-- The completion of a rejected completion. -/
def completion? : Exc → Option InferenceResponse
  | completionRejected _ completion .. => some completion
  | _ => none

/-- The diagnostics of a gateway error. -/
def diagnostics : Exc → Diagnostics
  | gateway _ details | completionRejected _ _ details _ => details
  | raised .. => []

/-- The category of a gateway error, or the first one in the table whose class the exception has. -/
def categoryIn (table : List (ExcClass × String)) (e : Exc) : String :=
  match e.gatewayCategory? with
  | some c => c.value
  | none => ((table.find? fun entry => e.isInstance entry.1).map (·.2)).getD "provider_failure"

end Exc

/-- A duration in milliseconds. -/
def milliseconds (seconds : ℚ≥0) : ℚ≥0 := seconds * 1000

/-- The default deadline is positive. -/
theorem defaultDeadline_pos : (0 : ℚ) < 60 := by norm_num

/-- The service and its environment, whose state is of type `σ`. A duration is the difference of two
readings of the performance counter. -/
structure InferenceService (σ : Type) where
  registry : ModelRegistry
  resolver : ProviderResolver σ
  /-- `telemetry.record` under a timeout, where a repository is configured -/
  telemetry : Option (TelemetryEvent → ℚ → σ → Except Exc Unit × σ) := none
  telemetryTimeout : ℚ := 2
  inferenceDeadlineSeconds : ℚ := 60
  clock : σ → ℚ × σ
  durationSeconds : σ → ℚ≥0 × σ
  newUuid : σ → Uuid × σ
  deadline_pos : 0 < inferenceDeadlineSeconds

namespace InferenceService

/-- A program of the service. -/
abbrev Act (σ α : Type) := Traced Exc σ InferenceCall α

def deadlineExceeded : Exc :=
  .raised .inferenceDeadlineExceededError "inference_deadline_exceeded"

def providerFailure : Exc :=
  .raised .providerFailureError "Provider could not complete inference"

/-- The classes that the service raises on its own account. -/
def normalizedErrors : List ExcClass :=
  [.contextLimitError, .inferenceDeadlineExceededError, .modelDisabledError,
    .providerUnavailableError, .providerFailureError]

/-- The categories of the telemetry. Every normalized error has one of the classes. -/
def telemetryCategories : List (ExcClass × String) :=
  [(.contextLimitError, "context_limit_exceeded"), (.modelDisabledError, "model_disabled"),
    (.providerUnavailableError, "provider_unavailable"), (.providerFailureError, "provider_failure"),
    (.inferenceDeadlineExceededError, "inference_deadline_exceeded")]

/-- The categories of the observability, with `provider_failure` for all others. -/
def attemptCategories : List (ExcClass × String) :=
  [(.inferenceDeadlineExceededError, "inference_deadline_exceeded"),
    (.contextLimitError, "context_limit_exceeded"), (.modelDisabledError, "model_disabled"),
    (.providerUnavailableError, "provider_unavailable")]

variable {σ : Type} (service : InferenceService σ)

/-- `_record`: a failed write is reported and swallowed, a cancellation is not. -/
def record (event : TelemetryEvent) (deadline : RequestDeadline) : Act σ Unit := do
  .tell [.recordTelemetry event]
  match service.telemetry with
  | none => .tell [.telemetryWrite "skipped_unconfigured"]
  | some write => do
    let now ← .query service.clock
    match deadline.constrainTimeout now service.telemetryTimeout with
    | none => .tell [.telemetryWrite "skipped_deadline"]
    | some timeout => do
      let outcome ← .query (write event timeout)
      match outcome with
      | .ok () => .tell [.telemetryWrite "success"]
      | .error e =>
        if e.isInstance .exception then
          .tell [.telemetryWrite "failure", .telemetryWriteFailed event.requestId]
        else .raise e

/-- What the service accepts of a provider's answer. -/
def acceptResponse (model : ModelConfig) : Option InferenceResponse → Except Exc InferenceResponse
  | none => .error (.raised .typeError "Provider returned an invalid response")
  | some response =>
    if response.modelId ≠ model.modelId ∨ response.provider ≠ model.provider then
      .error (.raised .valueError "Provider returned inconsistent model metadata")
    else .ok response

/-- The body of the `try` of `_generate`: the provider's answer under the remaining time. -/
def callProvider (provider : Provider σ) (model : ModelConfig) (request : InferenceRequest)
    (deadline : RequestDeadline) : Act σ InferenceResponse := do
  let now ← .query service.clock
  if deadline.remainingSeconds now ≤ 0 then .raise deadlineExceeded
  else do
    let answer ← .query (provider request (deadline.remainingSeconds now))
    match answer with
    | .ok response => .ofExcept (acceptResponse model response)
    | .error e =>
      if e.isInstance .timeoutError then do
        let later ← .query service.clock
        if deadline.expired later then .raise deadlineExceeded else .raise e
      else .raise e

/-- The observability event of an attempt. -/
def attemptEvent (model : ModelConfig) (requestId : String) (requestMode : RequestMode)
    (durationSeconds : ℚ≥0) (outcome errorCategory : String) (estimatedCostUsd : Option Money) :
    InferenceCall :=
  .providerAttempt {
    provider := model.provider
    model := model.modelId
    outcome
    errorCategory
    durationSeconds
    requestMode
    estimatedCostUsd
    requestId }

/-- `_generate`. -/
def generateModel (model : ModelConfig) (request : InferenceRequest) (deadline : RequestDeadline)
    (requestId : String) (requestMode : RequestMode) : Act σ InferenceResponse :=
  if ¬ model.enabled then
    .raise (.raised .modelDisabledError ("Model is disabled: '" ++ model.modelId.value ++ "'"))
  else do
    let resolved ← .query (service.resolver.resolve model)
    .tell [.resolve model.modelId (resolved.map fun _ => ())]
    match resolved with
    | .error e =>
      if e.isInstanceOf [.providerUnavailableError, .providerFailureError] then .raise e
      else if e.isInstance .exception then .raise providerFailure
      else .raise e
    | .ok provider => do
      let outcome ← .attempt (service.callProvider provider model request deadline)
      let duration ← .query service.durationSeconds
      let event := attemptEvent model requestId requestMode duration
      match outcome with
      | .ok response => do
        .tell [event "success" "none" (some response.estimatedCostUsd)]
        return response
      | .error e =>
        if e.isInstance .cancelledError then do
          .tell [event "cancelled" "cancelled" none]
          .raise e
        else if e.isInstanceOf normalizedErrors then do
          .tell [event (if e.completion?.isSome then "rejected" else "error")
            (e.categoryIn attemptCategories) (e.completion?.map (·.estimatedCostUsd))]
          .raise e
        else if e.isInstance .exception then do
          .tell [event "error" "provider_failure" none]
          .raise providerFailure
        else .raise e

/-- The telemetry of a failed call. -/
def failureEvent (model : ModelConfig) (request : InferenceRequest) (requestId : String)
    (durationSeconds : ℚ≥0) (e : Exc) : TelemetryEvent where
  requestId
  modelId := model.modelId
  provider := model.provider
  success := false
  errorCategory := some (e.categoryIn telemetryCategories)
  latencyMs := (e.completion?.map (·.latencyMs)).getD (milliseconds durationSeconds)
  inputTokens := e.completion?.map (·.inputTokens)
  outputTokens := e.completion?.map (·.outputTokens)
  estimatedCostUsd := e.completion?.map (·.estimatedCostUsd)
  maxOutputTokens := request.maxOutputTokens
  temperature := request.temperature
  promptCharacters := request.prompt.length
  systemPromptCharacters := (request.systemPrompt.getD "").length

/-- The telemetry of a response. -/
def successEvent (request : InferenceRequest) (requestId : String) (result : InferenceResponse) :
    TelemetryEvent where
  requestId
  modelId := result.modelId
  provider := result.provider
  success := true
  inputTokens := some result.inputTokens
  outputTokens := some result.outputTokens
  latencyMs := result.latencyMs
  estimatedCostUsd := some result.estimatedCostUsd
  maxOutputTokens := request.maxOutputTokens
  temperature := request.temperature
  promptCharacters := request.prompt.length
  systemPromptCharacters := (request.systemPrompt.getD "").length

/-- `deadline or self.new_deadline()`. -/
def deadlineOrNew : Option RequestDeadline → Act σ RequestDeadline
  | some deadline => pure deadline
  | none => do
    let now ← .query service.clock
    return .start service.inferenceDeadlineSeconds now

/-- `request_id if request_id is not None else str(uuid4())`. -/
def correlationId : Option String → Act σ String
  | some id => pure id
  | none => do
    let fresh ← .query service.newUuid
    return fresh.text

/-- `generate`. The type of the mode excludes the values on which it raises a `ValueError`. -/
def generate (modelId : String) (request : InferenceRequest) (requestId : Option String)
    (deadline : Option RequestDeadline) (requestMode : RequestMode) : Act σ InferenceResponse := do
  let requestDeadline ← service.deadlineOrNew deadline
  let now ← .query service.clock
  .tell [.expired (requestDeadline.expired now)]
  if requestDeadline.expired now then .raise deadlineExceeded
  else do
    let model ← .ofExcept (service.registry.get modelId)
    let correlationId ← service.correlationId requestId
    let outcome ← .attempt
      (service.generateModel model request requestDeadline correlationId requestMode)
    match outcome with
    | .ok result => do
      service.record (successEvent request correlationId result) requestDeadline
      return result
    | .error e =>
      if e.isInstanceOf normalizedErrors then do
        let duration ← .query service.durationSeconds
        service.record (failureEvent model request correlationId duration e) requestDeadline
        .raise e
      else .raise e

/-! ## What leaves the service -/

/-- An outcome of a call to a model: a response of this model, a normalized error, or a cancellation,
which no `except Exception` catches. -/
def Normalized (model : ModelConfig) : Except Exc InferenceResponse → Prop
  | .ok response => response.modelId = model.modelId ∧ response.provider = model.provider
  | .error e => e.isInstanceOf normalizedErrors = true ∨ e.isInstance .exception = false

theorem normalized_deadlineExceeded (model : ModelConfig) :
    Normalized model (.error deadlineExceeded) := .inl (by decide)

theorem normalized_providerFailure (model : ModelConfig) :
    Normalized model (.error providerFailure) := .inl (by decide)

/-- An accepted response is one of the model. -/
theorem acceptResponse_eq_ok {model : ModelConfig} {answer : Option InferenceResponse}
    {response : InferenceResponse} (h : acceptResponse model answer = .ok response) :
    Normalized model (.ok response) := by
  cases answer with
  | none => cases h
  | some found =>
    obtain ⟨hmeta, h⟩ := Except.guard_eq_ok.mp h
    cases h
    rw [not_or, not_not, not_not] at hmeta
    exact hmeta

/-- The body of the `try` reports nothing and returns a response of the model; what it raises is
normalized later. -/
theorem callProvider_holds (provider : Provider σ) (model : ModelConfig)
    (request : InferenceRequest) (deadline : RequestDeadline) :
    (service.callProvider provider model request deadline).Holds fun r calls =>
      calls = [] ∧ ∀ response, r = .ok response → Normalized model (.ok response) := by
  have hraise : ∀ e : Exc, (Traced.raise e : Act σ InferenceResponse).Holds fun r calls =>
      calls = [] ∧ ∀ response, r = .ok response → Normalized model (.ok response) :=
    fun e => Traced.holds_raise ⟨rfl, (fun _ h => nomatch h)⟩
  refine Traced.holds_query_bind fun now => ?_
  split
  · exact hraise _
  refine Traced.holds_query_bind fun answer => ?_
  cases answer with
  | ok found =>
    dsimp only
    cases haccept : acceptResponse model found with
    | ok response =>
      refine Traced.holds_pure ⟨rfl, fun response' h => ?_⟩
      cases h
      exact acceptResponse_eq_ok haccept
    | error e => exact hraise e
  | error e =>
    dsimp only
    split
    · refine Traced.holds_query_bind fun later => ?_
      split
      · exact hraise _
      · exact hraise _
    · exact hraise _

/-- A write of the telemetry raises nothing but a cancellation. -/
theorem record_holds (event : TelemetryEvent) (deadline : RequestDeadline) :
    (service.record event deadline).Holds fun r _ =>
      ∀ e, r = .error e → e.isInstance .exception = false := by
  refine Traced.holds_tell_bind ?_
  split
  · exact Traced.holds_tell fun _ h => nomatch h
  refine Traced.holds_query_bind fun now => ?_
  split
  · exact Traced.holds_tell fun _ h => nomatch h
  refine Traced.holds_query_bind fun outcome => ?_
  split
  · exact Traced.holds_tell fun _ h => nomatch h
  · split
    · exact Traced.holds_tell fun _ h => nomatch h
    · rename_i hexception
      refine Traced.holds_raise fun e h => ?_
      cases h
      exact Bool.eq_false_iff.mpr hexception

/-- `_generate` normalizes whatever the resolver and the provider do. -/
theorem generateModel_holds (model : ModelConfig) (request : InferenceRequest)
    (deadline : RequestDeadline) (requestId : String) (requestMode : RequestMode) :
    (service.generateModel model request deadline requestId requestMode).Holds fun r _ =>
      Normalized model r := by
  rw [generateModel]
  split
  · exact Traced.holds_raise (.inl rfl)
  refine Traced.holds_query_bind fun resolved => Traced.holds_tell_bind ?_
  cases resolved with
  | error e =>
    dsimp only
    split_ifs with hcaught hexception
    · refine Traced.holds_raise (.inl ?_)
      simp only [Exc.isInstanceOf, List.any_eq_true] at hcaught ⊢
      obtain ⟨c, hc, he⟩ := hcaught
      exact ⟨c, by simp only [normalizedErrors, List.mem_cons] at hc ⊢; tauto, he⟩
    · exact Traced.holds_raise (normalized_providerFailure model)
    · exact Traced.holds_raise (.inr (Bool.eq_false_iff.mpr hexception))
  | ok provider =>
    refine Traced.holds_attempt_bind (service.callProvider_holds provider model request deadline)
      fun outcome calls houtcome => Traced.holds_query_bind fun duration => ?_
    cases outcome with
    | ok response => exact Traced.holds_tell_bind (Traced.holds_pure (houtcome.2 response rfl))
    | error e =>
      dsimp only
      by_cases hcancelled : e.isInstance .cancelledError = true
      · rw [if_pos hcancelled]
        exact Traced.holds_tell_bind (Traced.holds_raise
          (.inr (ExcClass.isSubclass_exception_of_cancelledError hcancelled)))
      rw [if_neg hcancelled]
      by_cases hnormalized : e.isInstanceOf normalizedErrors = true
      · rw [if_pos hnormalized]
        exact Traced.holds_tell_bind (Traced.holds_raise (.inl hnormalized))
      rw [if_neg hnormalized]
      split
      · exact Traced.holds_tell_bind (Traced.holds_raise (normalized_providerFailure model))
      · rename_i hexception
        exact Traced.holds_raise (.inr (Bool.eq_false_iff.mpr hexception))

/-- A call to a registered model ends in a normalized outcome. -/
theorem generate_holds {modelId : String} {model : ModelConfig}
    (hmodel : service.registry.get modelId = .ok model) (request : InferenceRequest)
    (requestId : Option String) (deadline : Option RequestDeadline) (requestMode : RequestMode) :
    (service.generate modelId request requestId deadline requestMode).Holds fun r _ =>
      Normalized model r := by
  refine Traced.Holds.bind (Q := fun r _ => ∃ d, r = .ok d) ?_ ?_ ?_
  · cases deadline with
    | some d => exact Traced.holds_pure ⟨d, rfl⟩
    | none => exact Traced.holds_query_bind fun now => Traced.holds_pure ⟨_, rfl⟩
  rotate_left
  · rintro e calls ⟨d, hd⟩
    cases hd
  intro requestDeadline _ _
  refine Traced.holds_query_bind fun now => Traced.holds_tell_bind ?_
  split
  · exact Traced.holds_raise (normalized_deadlineExceeded model)
  refine Traced.holds_ofExcept_bind (fun found hfound => ?_) (fun e he => ?_)
  rotate_left
  · rw [hmodel] at he
    cases he
  rw [hmodel] at hfound
  cases hfound
  refine Traced.Holds.bind (Q := fun r _ => ∃ id, r = .ok id) ?_ ?_ ?_
  · cases requestId with
    | some id => exact Traced.holds_pure ⟨id, rfl⟩
    | none => exact Traced.holds_query_bind fun fresh => Traced.holds_pure ⟨_, rfl⟩
  rotate_left
  · rintro e calls ⟨d, hd⟩
    cases hd
  intro correlationId _ _
  refine Traced.holds_attempt_bind
    (service.generateModel_holds model request requestDeadline correlationId requestMode)
    fun outcome calls houtcome => ?_
  cases outcome with
  | ok result =>
    exact (service.record_holds _ _).bind (fun _ _ _ => Traced.holds_pure houtcome)
      (fun e _ he => .inr (he e rfl))
  | error e =>
    dsimp only
    split
    · refine Traced.holds_query_bind fun duration => ?_
      exact (service.record_holds _ _).bind (fun _ _ _ => Traced.holds_raise houtcome)
        (fun e _ he => .inr (he e rfl))
    · exact Traced.holds_raise houtcome

/-- The service of the sample model; the state is the clock. -/
def sample (provider : Provider ℚ) : InferenceService ℚ where
  registry := ⟨[.sample], by simp⟩
  resolver := ⟨[(ModelConfig.sample.provider, fun _ s => (.ok provider, s))]⟩
  clock := fun s => (s, s)
  durationSeconds := fun s => (0, s)
  newUuid := fun s => (.sample, s)
  deadline_pos := defaultDeadline_pos

end InferenceService

/-- A provider that answers at once. -/
def promptProvider : Provider ℚ := fun _ _ s => (.ok (some .sample), s)

end RouteLLM
