import RouteLLM.Api.Conformance
import RouteLLM.Lib.TracedPair

/-!
# What the telemetry does not see

Prompts, responses and the messages of exceptions are never stored or reported. Stated about two calls side
by side: if their requests have equal lengths and limits, and what the adapters answer to them differs in
texts, messages and diagnostics only, then the two calls hand over the same events, report the same metrics
and leave the environment in the same state.
-/

namespace RouteLLM

/-! ## Redaction -/

/-- A response without the texts of the provider. -/
def InferenceResponse.redacted (response : InferenceResponse) : InferenceResponse :=
  { response with text := "", providerTerminationReason := none }

/-- An exception without its message and its diagnostics. -/
def Exc.redacted : Exc → Exc
  | raised cls _ => .raised cls ""
  | gateway category _ => .gateway category []
  | completionRejected category completion _ supported =>
    .completionRejected category completion.redacted [] supported

/-- Responses that differ in texts only. -/
def InferenceResponse.Same (r r' : InferenceResponse) : Prop := r.redacted = r'.redacted

/-- Exceptions that differ in messages, diagnostics and texts only. -/
def Exc.Same (e e' : Exc) : Prop := e.redacted = e'.redacted

/-- Reports that differ in the message of an exception of the resolver only. -/
inductive InferenceCall.Same : InferenceCall → InferenceCall → Prop
  | resolve (modelId : Identifier) {outcome outcome' : Except Exc Unit}
      (h : Except.Alike Exc.Same Eq outcome outcome') :
      InferenceCall.Same (.resolve modelId outcome) (.resolve modelId outcome')
  | refl (call : InferenceCall) : InferenceCall.Same call call

/-- Requests of equal lengths and limits. -/
structure InferenceRequest.SameShape (request request' : InferenceRequest) : Prop where
  prompt : request.prompt.length = request'.prompt.length
  systemPrompt : (request.systemPrompt.getD "").length = (request'.systemPrompt.getD "").length
  maxOutputTokens : request.maxOutputTokens = request'.maxOutputTokens
  temperature : request.temperature = request'.temperature

namespace Exc

theorem Same.refl (e : Exc) : Exc.Same e e := rfl

variable {e e' : Exc}

theorem cls_redacted (e : Exc) : e.redacted.cls = e.cls := by
  cases e <;> rfl

theorem gatewayCategory?_redacted (e : Exc) : e.redacted.gatewayCategory? = e.gatewayCategory? := by
  cases e <;> rfl

theorem completion?_redacted (e : Exc) :
    e.redacted.completion? = e.completion?.map InferenceResponse.redacted := by
  cases e <;> rfl

/-- Every `except` clause treats the two alike. -/
theorem Same.isInstance_eq (h : e.Same e') (c : ExcClass) : e.isInstance c = e'.isInstance c := by
  rw [isInstance, isInstance, ← cls_redacted e, ← cls_redacted e', h]

theorem Same.isInstanceOf_eq (h : e.Same e') (cs : List ExcClass) :
    e.isInstanceOf cs = e'.isInstanceOf cs := by
  rw [isInstanceOf, isInstanceOf, funext h.isInstance_eq]

theorem Same.categoryIn_eq (h : e.Same e') (table : List (ExcClass × String)) :
    e.categoryIn table = e'.categoryIn table := by
  have hcategory : e.gatewayCategory? = e'.gatewayCategory? := by
    rw [← gatewayCategory?_redacted e, ← gatewayCategory?_redacted e', h]
  have hfind : (fun entry : ExcClass × String => e.isInstance entry.1) = fun entry =>
      e'.isInstance entry.1 := funext fun entry => h.isInstance_eq entry.1
  rw [categoryIn, categoryIn, hcategory, hfind]

/-- What is read of a rejected completion, its texts apart, is the same. -/
theorem Same.map_completion?_eq {α : Type} (h : e.Same e') (f : InferenceResponse → α)
    (hf : ∀ r, f r.redacted = f r) : e.completion?.map f = e'.completion?.map f := by
  have hredacted := congrArg completion? h
  rw [completion?_redacted, completion?_redacted] at hredacted
  have hmapped := congrArg (Option.map f) hredacted
  simpa only [Option.map_map, Function.comp_def, hf] using hmapped

theorem Same.isSome_completion?_eq (h : e.Same e') : e.completion?.isSome = e'.completion?.isSome := by
  have hmap := h.map_completion?_eq (fun _ => ()) fun _ => rfl
  simpa using congrArg Option.isSome hmap

end Exc

namespace InferenceService

variable {σ : Type} (service : InferenceService σ) {request request' : InferenceRequest}

/-- An event of two responses that differ in texts only, for requests of one shape. -/
theorem successEvent_eq (hshape : request.SameShape request') (requestId : String)
    {r r' : InferenceResponse} (h : r.Same r') :
    successEvent request requestId r = successEvent request' requestId r' := by
  have hredacted (r : InferenceResponse) :
      successEvent request requestId r.redacted = successEvent request requestId r := rfl
  rw [← hredacted r, h, hredacted r', successEvent, successEvent, hshape.prompt, hshape.systemPrompt,
    hshape.maxOutputTokens, hshape.temperature]

/-- An event of two failures that differ in messages only, for requests of one shape. -/
theorem failureEvent_eq (hshape : request.SameShape request') (model : ModelConfig) (requestId : String)
    (duration : ℚ≥0) {e e' : Exc} (h : e.Same e') :
    failureEvent model request requestId duration e =
      failureEvent model request' requestId duration e' := by
  rw [failureEvent, failureEvent, h.categoryIn_eq, h.map_completion?_eq _ fun _ => rfl,
    h.map_completion?_eq _ fun _ => rfl, h.map_completion?_eq _ fun _ => rfl,
    h.map_completion?_eq _ fun _ => rfl, hshape.prompt, hshape.systemPrompt, hshape.maxOutputTokens,
    hshape.temperature]

/-- Adapters whose answers to two requests differ in texts, messages and diagnostics only. -/
def SameAnswers (request request' : InferenceRequest) (provider provider' : Provider σ) : Prop :=
  ∀ timeout s, Except.Alike Exc.Same (Option.Rel InferenceResponse.Same)
      (provider request timeout s).1 (provider' request' timeout s).1 ∧
    (provider request timeout s).2 = (provider' request' timeout s).2

/-- Resolvers of such adapters, whose exceptions differ in messages and diagnostics only. -/
def SameAdapters (request request' : InferenceRequest) (resolver resolver' : ProviderResolver σ) : Prop :=
  ∀ model s, Except.Alike Exc.Same (SameAnswers request request')
      (resolver.resolve model s).1 (resolver'.resolve model s).1 ∧
    (resolver.resolve model s).2 = (resolver'.resolve model s).2

/-- The service over other adapters. -/
def withResolver (resolver : ProviderResolver σ) : InferenceService σ := { service with resolver }

/-- Both answers are accepted, or neither is. -/
theorem acceptResponse_alike (model : ModelConfig) {answer answer' : Option InferenceResponse}
    (h : Option.Rel InferenceResponse.Same answer answer') :
    Except.Alike Exc.Same InferenceResponse.Same (acceptResponse model answer)
      (acceptResponse model answer') := by
  cases h with
  | none => exact .error rfl
  | @some r r' h =>
    have hmodel : r.modelId = r'.modelId := congrArg (·.modelId) h
    have hprovider : r.provider = r'.provider := congrArg (·.provider) h
    rw [acceptResponse, acceptResponse, hmodel, hprovider]
    split
    · exact .error rfl
    · exact .ok h

variable {resolver : ProviderResolver σ}

/-- The body of the `try`. -/
theorem callProvider_alike {provider provider' : Provider σ}
    (h : SameAnswers request request' provider provider') (model : ModelConfig)
    (deadline : RequestDeadline) :
    Traced.Alike InferenceCall.Same Exc.Same InferenceResponse.Same
      (service.callProvider provider model request deadline)
      ((service.withResolver resolver).callProvider provider' model request' deadline) := by
  refine (Traced.alike_query_same _).bind_eq fun now => ?_
  split
  · exact Traced.alike_raise (.refl _)
  refine (Traced.alike_query (h _)).bind fun answer answer' hanswer => ?_
  cases hanswer with
  | ok hresponse => exact Traced.alike_ofExcept (acceptResponse_alike model hresponse)
  | error he =>
    dsimp only
    rw [he.isInstance_eq]
    split
    · refine (Traced.alike_query_same _).bind_eq fun later => ?_
      split
      · exact Traced.alike_raise (.refl _)
      · exact Traced.alike_raise he
    · exact Traced.alike_raise he

/-- `_generate`. -/
theorem generateModel_alike (h : SameAdapters request request' service.resolver resolver)
    (model : ModelConfig) (deadline : RequestDeadline) (requestId : String) (requestMode : RequestMode) :
    Traced.Alike InferenceCall.Same Exc.Same InferenceResponse.Same
      (service.generateModel model request deadline requestId requestMode)
      ((service.withResolver resolver).generateModel model request' deadline requestId requestMode) := by
  rw [generateModel, generateModel]
  split
  · exact Traced.alike_raise (.refl _)
  refine (Traced.alike_query (h model)).bind fun resolved resolved' hresolved => ?_
  have hcall : InferenceCall.Same (.resolve model.modelId (resolved.map fun _ => ()))
      (.resolve model.modelId (resolved'.map fun _ => ())) := by
    refine .resolve _ ?_
    cases hresolved with
    | ok _ => exact .ok rfl
    | error he => exact .error he
  refine (Traced.alike_tell_one hcall).bind_eq fun _ => ?_
  cases hresolved with
  | error he =>
    dsimp only
    rw [he.isInstanceOf_eq, he.isInstance_eq]
    split
    · exact Traced.alike_raise he
    · split
      · exact Traced.alike_raise (.refl _)
      · exact Traced.alike_raise he
  | ok hprovider =>
    refine (service.callProvider_alike hprovider model deadline).attempt.bind fun outcome outcome' h => ?_
    refine (Traced.alike_query_same _).bind_eq fun duration => ?_
    cases h with
    | @ok r r' h =>
      have hcost : r.estimatedCostUsd = r'.estimatedCostUsd := congrArg (·.estimatedCostUsd) h
      dsimp only
      rw [hcost]
      exact (Traced.alike_tell_one (.refl _)).bind_eq fun _ => Traced.alike_pure h
    | error he =>
      dsimp only
      rw [he.isInstance_eq, he.isInstanceOf_eq, he.isInstance_eq, he.isSome_completion?_eq,
        he.categoryIn_eq, he.map_completion?_eq _ fun _ => rfl]
      split
      · exact (Traced.alike_tell_one (.refl _)).bind_eq fun _ => Traced.alike_raise he
      · split
        · exact (Traced.alike_tell_one (.refl _)).bind_eq fun _ => Traced.alike_raise he
        · split
          · exact (Traced.alike_tell_one (.refl _)).bind_eq fun _ => Traced.alike_raise (.refl _)
          · exact Traced.alike_raise he

/-- `generate`. -/
theorem generate_alike (h : SameAdapters request request' service.resolver resolver)
    (hshape : request.SameShape request') (modelId : String) (requestId : Option String)
    (deadline : Option RequestDeadline) (requestMode : RequestMode) :
    Traced.Alike InferenceCall.Same Exc.Same InferenceResponse.Same
      (service.generate modelId request requestId deadline requestMode)
      ((service.withResolver resolver).generate modelId request' requestId deadline requestMode) := by
  have hrecord (event : TelemetryEvent) (deadline : RequestDeadline) :
      Traced.Alike InferenceCall.Same Exc.Same Eq (service.record event deadline)
        ((service.withResolver resolver).record event deadline) :=
    Traced.alike_refl .refl .refl _
  refine (Traced.alike_refl .refl .refl (service.deadlineOrNew deadline)).bind_eq fun requestDeadline => ?_
  refine (Traced.alike_query_same _).bind_eq fun now => ?_
  refine (Traced.alike_tell_one (.refl _)).bind_eq fun _ => ?_
  split
  · exact Traced.alike_raise (.refl _)
  refine (Traced.alike_refl .refl .refl (Traced.ofExcept (service.registry.get modelId))).bind_eq
    fun model => ?_
  refine (Traced.alike_refl .refl .refl (service.correlationId requestId)).bind_eq fun id => ?_
  refine (service.generateModel_alike h model requestDeadline id requestMode).attempt.bind
    fun outcome outcome' houtcome => ?_
  cases houtcome with
  | ok hresponse =>
    dsimp only
    rw [successEvent_eq hshape id hresponse]
    exact (hrecord _ _).bind_eq fun _ => Traced.alike_pure hresponse
  | error he =>
    dsimp only
    rw [he.isInstanceOf_eq]
    split
    · refine (Traced.alike_query_same _).bind_eq fun duration => ?_
      rw [failureEvent_eq hshape model id duration he]
      exact (hrecord _ _).bind_eq fun _ => Traced.alike_raise he
    · exact Traced.alike_raise he

end InferenceService

/-! ## Direct chat requests -/

/-- Reports that differ in the message of an exception of the resolver only. -/
inductive ChatCall.Same : ChatCall → ChatCall → Prop
  | inference {call call' : InferenceCall} (h : call.Same call') :
      ChatCall.Same (.inference call) (.inference call')
  | refl (call : ChatCall) : ChatCall.Same call call

namespace ChatOrchestrationService

variable {σ : Type} (chat : ChatOrchestrationService σ) {resolver : ProviderResolver σ}
  {request request' : InferenceRequest}

/-- The service over other adapters. -/
def withResolver (resolver : ProviderResolver σ) : ChatOrchestrationService σ :=
  { chat with inferenceService := chat.inferenceService.withResolver resolver }

/-- Results of AUTO requests that differ in texts only. -/
def SameDirect (result result' : ChatOrchestrationResult) : Prop :=
  ∃ response response' : InferenceResponse, response.Same response' ∧
    result = { response, executionMode := .direct } ∧
    result' = { response := response', executionMode := .direct }

/-- The activity of two responses that differ in texts only. -/
theorem directFields_eq (requestId : String) {r r' : InferenceResponse} (h : r.Same r') :
    directFields requestId r = directFields requestId r' := by
  have hredacted (r : InferenceResponse) :
      directFields requestId r.redacted = directFields requestId r := rfl
  rw [← hredacted r, h, hredacted r']

theorem directFailureFields_eq (requestId : String) (defaultModelId : Identifier) (model : ModelConfig)
    {e e' : Exc} (h : e.Same e') :
    directFailureFields requestId defaultModelId model e =
      directFailureFields requestId defaultModelId model e' := by
  have houtcome : failureOutcome e = failureOutcome e' := by
    rw [failureOutcome, failureOutcome, h.isInstance_eq, h.isInstance_eq]
  rw [directFailureFields, directFailureFields, houtcome]

/-- `generate` in the mode AUTO. -/
theorem generateDirect_alike
    (h : InferenceService.SameAdapters request request' chat.inferenceService.resolver resolver)
    (hshape : request.SameShape request') (requestId : String) (deadline : RequestDeadline) :
    Traced.Alike ChatCall.Same Exc.Same SameDirect (chat.generateDirect request requestId deadline)
      ((chat.withResolver resolver).generateDirect request' requestId deadline) := by
  have hrecord (fields : ChatActivityFields) :
      Traced.Alike ChatCall.Same Exc.Same Eq (chat.recordFields fields deadline)
        ((chat.withResolver resolver).recordFields fields deadline) :=
    Traced.alike_refl .refl .refl _
  refine ((chat.inferenceService.generate_alike h hshape chat.defaultModelId.value (some requestId)
    (some deadline) .explicit).embed fun _ _ => .inference).attempt.bind
      fun outcome outcome' houtcome => ?_
  cases houtcome with
  | @ok r r' hresponse =>
    dsimp only
    rw [directFields_eq requestId hresponse]
    exact (hrecord _).bind_eq fun _ => Traced.alike_pure ⟨r, r', hresponse, rfl, rfl⟩
  | error he =>
    dsimp only
    rw [he.isInstanceOf_eq]
    split
    · refine (Traced.alike_refl .refl .refl (Traced.ofExcept
        (chat.inferenceService.registry.get chat.defaultModelId.value))).bind_eq fun model => ?_
      rw [directFailureFields_eq requestId chat.defaultModelId model he]
      exact (hrecord _).bind_eq fun _ => Traced.alike_raise he
    · exact Traced.alike_raise he

end ChatOrchestrationService

/-! ## The endpoints -/

/-- Exceptions of an endpoint that differ in messages, diagnostics and texts only. -/
inductive ApiExc.Same : ApiExc → ApiExc → Prop
  | service {e e' : Exc} (h : e.Same e') : ApiExc.Same (.service e) (.service e')
  | refl (e : ApiExc) : ApiExc.Same e e

/-- Calls that differ in the message of an exception of the resolver only. -/
inductive ApiCall.Same : ApiCall → ApiCall → Prop
  | inference {call call' : InferenceCall} (h : call.Same call') :
      ApiCall.Same (.inference call) (.inference call')
  | chat {call call' : ChatCall} (h : call.Same call') : ApiCall.Same (.chat call) (.chat call')
  | refl (call : ApiCall) : ApiCall.Same call call

/-- Responses whose bodies are related results, or the same error. -/
structure HttpResponse.Same {α : Type} (V : α → α → Prop) (r r' : HttpResponse α) : Prop where
  status : r.status = r'.status
  requestId : r.requestId = r'.requestId
  retryAfter : r.retryAfter = r'.retryAfter
  body : Sum.LiftRel V Eq r.body r'.body

namespace ApiExc

variable {e e' : ApiExc}

theorem Same.isInstance_eq (h : e.Same e') (c : ExcClass) : e.isInstance c = e'.isInstance c := by
  cases h with
  | service h => exact h.isInstance_eq c
  | refl => rfl

theorem Same.isRegistered_eq (h : e.Same e') (c : ApiErrorClass) : e.isRegistered c = e'.isRegistered c := by
  cases h with
  | service h =>
    cases c with
    | known c => exact h.isInstance_eq c
    | requestLimitExceededError | predictorArtifactError | unsupportedPredictorCandidateError => rfl
  | refl => rfl

/-- **The answer of a handler does not tell the two apart.** -/
theorem Same.handlerAnswer?_eq (h : e.Same e') : handlerAnswer? e = handlerAnswer? e' := by
  cases h with
  | refl => rfl
  | @service e e' h =>
    have hregistered :
        (fun entry : ApiErrorClass × ErrorAnswer => (ApiExc.service e).isRegistered entry.1) =
          fun entry => (ApiExc.service e').isRegistered entry.1 :=
      funext fun entry => (Same.service h).isRegistered_eq entry.1
    have hcategory : (ApiExc.service e).gatewayCategory? = (ApiExc.service e').gatewayCategory? := by
      have hredacted := congrArg Exc.gatewayCategory? h
      rwa [Exc.gatewayCategory?_redacted, Exc.gatewayCategory?_redacted] at hredacted
    have hanswer (e : Exc) : handlerAnswer? (.service e) =
        if registered (.service e) then some (applicationError (.service e)) else none := rfl
    rw [hanswer, hanswer, registered, registered, hregistered, applicationError, applicationError,
      hcategory, hregistered]
    rfl

end ApiExc

namespace GatewayApp

variable {σ α : Type} (app : GatewayApp σ) {resolver : ProviderResolver σ}

/-- The application over other adapters. -/
def withResolver (resolver : ProviderResolver σ) : GatewayApp σ :=
  { app with
    inferenceService := app.inferenceService.withResolver resolver
    chatService := app.chatService.map (·.withResolver resolver) }

/-- Programs of the API that differ in texts and messages only. -/
abbrev AlikeActs (V : α → α → Prop) (x y : Act σ α) : Prop := Traced.Alike ApiCall.Same ApiExc.Same V x y

variable {app} {V : α → α → Prop}

theorem callNext_alike {endpoint endpoint' : String → Act σ α} {id : String}
    (h : AlikeActs V (endpoint id) (endpoint' id)) :
    AlikeActs (HttpResponse.Same V) (callNext endpoint id) (callNext endpoint' id) := by
  refine h.attempt.bind fun outcome outcome' houtcome => ?_
  cases houtcome with
  | ok hvalue => exact Traced.alike_pure ⟨rfl, rfl, rfl, .inl hvalue⟩
  | error he =>
    dsimp only
    rw [he.handlerAnswer?_eq]
    split
    · exact Traced.alike_pure ⟨rfl, rfl, rfl, .inr rfl⟩
    · exact Traced.alike_raise he

/-- The middleware. -/
theorem serve_alike {endpoint endpoint' : String → Act σ α}
    (h : ∀ id, AlikeActs V (endpoint id) (endpoint' id)) (route method : String)
    (supplied : List String) :
    AlikeActs (HttpResponse.Same V) (app.serve route method supplied endpoint)
      ((app.withResolver resolver).serve route method supplied endpoint') := by
  have htell (calls : List ApiCall) :
      AlikeActs Eq (Traced.tell calls : Act σ Unit) (Traced.tell calls) :=
    Traced.alike_refl .refl .refl _
  refine (htell _).bind_eq fun _ => (Traced.alike_query_same _).bind_eq fun fresh => ?_
  split
  · exact (htell _).bind_eq fun _ => Traced.alike_pure ⟨rfl, rfl, rfl, .inr rfl⟩
  refine (callNext_alike (h _)).attempt.bind fun outcome outcome' houtcome => ?_
  cases houtcome with
  | ok hresponse =>
    dsimp only
    rw [hresponse.status]
    exact (htell _).bind_eq fun _ => Traced.alike_pure hresponse
  | error he =>
    dsimp only
    rw [he.isInstance_eq, he.isInstance_eq]
    refine (htell _).bind_eq fun _ => ?_
    split
    · exact Traced.alike_pure ⟨rfl, rfl, rfl, .inr rfl⟩
    · exact Traced.alike_raise he

/-- The limiter. -/
theorem admitted_alike {execute execute' : RequestDeadline → Act σ α}
    (h : ∀ deadline, AlikeActs V (execute deadline) (execute' deadline)) (client : Option String)
    (kind : InferenceKind) :
    AlikeActs V (app.admitted client kind execute)
      ((app.withResolver resolver).admitted client kind execute') := by
  refine (Traced.alike_query_same _).bind_eq fun now => ?_
  have hadmission (deadline : RequestDeadline) : AlikeActs Eq
      (Traced.translate ApiExc.admission ApiCall.rejection
        (app.admitClient (effectiveClient client) kind deadline) : Act σ Unit)
      (Traced.translate ApiExc.admission ApiCall.rejection
        ((app.withResolver resolver).admitClient (effectiveClient client) kind deadline)) :=
    Traced.alike_refl .refl .refl _
  refine (hadmission _).attempt.bind fun admission admission' hsame => ?_
  have heq : admission.isOk = admission'.isOk := hsame.isOk_eq
  rw [heq]
  refine (Traced.alike_tell_one (.refl _)).bind_eq fun _ => ?_
  exact (Traced.alike_ofExcept hsame).bind_eq fun _ => h _

/-- The limits count characters and tokens only. -/
theorem validateRequest_eq (limits : RequestLimitSettings) {request request' : InferenceRequest}
    (hshape : request.SameShape request') :
    limits.validateRequest request = limits.validateRequest request' := by
  rw [RequestLimitSettings.validateRequest, RequestLimitSettings.validateRequest, hshape.prompt,
    hshape.systemPrompt, hshape.maxOutputTokens]

/-- Results of `/v1/inference` that differ in texts only. -/
def SameResult (result result' : InferenceResult) : Prop :=
  result.response.Same result'.response ∧ result.requestId = result'.requestId

/-- Results of `/v1/chat` in the mode AUTO that differ in texts only. -/
def SameChatResult (result result' : ChatResult) : Prop :=
  SameResult result.toInferenceResult result'.toInferenceResult ∧
    result.executionMode = result'.executionMode ∧ result.category = result'.category ∧
    result.categorySource = result'.categorySource ∧ result.routing = result'.routing ∧
    result.execution = result'.execution

theorem inference_alike {payload payload' : InferencePayload}
    (hmodel : payload.modelId = payload'.modelId)
    (hshape : payload.toInferenceRequest.SameShape payload'.toInferenceRequest)
    (h : InferenceService.SameAdapters payload.toInferenceRequest payload'.toInferenceRequest
      app.inferenceService.resolver resolver) (client : Option String) (id : String) :
    AlikeActs SameResult (app.inference (some payload) client id)
      ((app.withResolver resolver).inference (some payload') client id) := by
  refine Traced.Alike.bind (V := fun p p' => p = payload ∧ p' = payload')
    (Traced.alike_pure ⟨rfl, rfl⟩) ?_
  rintro _ _ ⟨rfl, rfl⟩
  rw [show (app.withResolver resolver).requestLimits = app.requestLimits from rfl,
    validateRequest_eq _ hshape, hmodel]
  refine (Traced.alike_refl .refl .refl _).bind_eq fun _ => ?_
  refine admitted_alike (fun deadline => ?_) client .explicit
  exact ((app.inferenceService.generate_alike h hshape _ _ _ _).translate (fun _ _ => .service)
    fun _ _ => .inference).bind fun _ _ hresponse => Traced.alike_pure ⟨hresponse, rfl⟩

theorem chatInference_alike {payload payload' : ChatPayload} (hauto : payload.routingMode = .auto)
    (hauto' : payload'.routingMode = .auto)
    (hshape : payload.toInferenceRequest.SameShape payload'.toInferenceRequest)
    (h : ∀ chat ∈ app.chatService,
      InferenceService.SameAdapters payload.toInferenceRequest payload'.toInferenceRequest
        chat.inferenceService.resolver resolver) (client : Option String) (id : String) :
    AlikeActs SameChatResult (app.chatInference (some payload) client id)
      ((app.withResolver resolver).chatInference (some payload') client id) := by
  cases hchat : app.chatService with
  | none =>
    rw [chatInference, chatInference, getChatService, getChatService, hchat,
      show (app.withResolver resolver).chatService = none from congrArg (Option.map _) hchat]
    exact Traced.alike_raise (.refl _)
  | some chat =>
    rw [chatInference, chatInference, getChatService, getChatService, hchat,
      show (app.withResolver resolver).chatService = some (chat.withResolver resolver) from
        congrArg (Option.map _) hchat]
    refine Traced.Alike.bind (V := fun c c' => c = chat ∧ c' = chat.withResolver resolver)
      (Traced.alike_pure ⟨rfl, rfl⟩) ?_
    rintro chat _ ⟨rfl, rfl⟩
    refine Traced.Alike.bind (V := fun p p' => p = payload ∧ p' = payload')
      (Traced.alike_pure ⟨rfl, rfl⟩) ?_
    rintro _ _ ⟨rfl, rfl⟩
    rw [show (app.withResolver resolver).requestLimits = app.requestLimits from rfl,
      validateRequest_eq _ hshape, hauto, hauto']
    refine (Traced.alike_refl .refl .refl _).bind_eq fun _ => ?_
    refine admitted_alike (fun deadline => ?_) client _
    refine ((chat.generateDirect_alike (h chat hchat) hshape id deadline).translate (fun _ _ => .service)
      fun _ _ => .chat).bind ?_
    rintro _ _ ⟨response, response', hresponse, rfl, rfl⟩
    exact Traced.alike_pure ⟨⟨hresponse, rfl⟩, rfl, rfl, rfl, rfl, rfl⟩

/-- What the telemetry, the metrics and the log hold of a request: all but the resolution of the adapter. -/
def isReport : ApiCall → Bool
  | .inference (.resolve ..) | .chat (.inference (.resolve ..)) => false
  | _ => true

/-- Two programs that an observer of the reports, of the environment and of the responses, their texts
apart, does not tell apart. -/
def Unobserved (V : α → α → Prop) (x y : Act σ (HttpResponse α)) : Prop :=
  ∀ s, Except.Alike ApiExc.Same (HttpResponse.Same V) (x s).1 (y s).1 ∧ (x s).2.1 = (y s).2.1 ∧
    (x s).2.2.filter isReport = (y s).2.2.filter isReport

/-- Calls that differ in messages only are one report, or none. -/
theorem report_eq {call call' : ApiCall} (h : call.Same call') :
    isReport call = isReport call' ∧ (isReport call = true → call = call') := by
  cases h with
  | inference h =>
    cases h with
    | resolve => exact ⟨rfl, nofun⟩
    | refl => exact ⟨rfl, fun _ => rfl⟩
  | chat h =>
    cases h with
    | inference h =>
      cases h with
      | resolve => exact ⟨rfl, nofun⟩
      | refl => exact ⟨rfl, fun _ => rfl⟩
    | refl => exact ⟨rfl, fun _ => rfl⟩
  | refl => exact ⟨rfl, fun _ => rfl⟩

theorem reports_eq {calls calls' : List ApiCall} (h : List.Forall₂ ApiCall.Same calls calls') :
    calls.filter isReport = calls'.filter isReport := by
  induction h with
  | nil => rfl
  | cons hcall _ ih =>
    obtain ⟨hsame, heq⟩ := report_eq hcall
    rw [List.filter_cons, List.filter_cons, ← hsame, ih]
    split
    · rename_i hreport
      rw [heq hreport]
    · rfl

theorem unobserved_of_alike {x y : Act σ (HttpResponse α)} (h : AlikeActs (HttpResponse.Same V) x y) :
    Unobserved V x y :=
  fun s => ⟨(h s).1, (h s).2.1, reports_eq (h s).2.2⟩

/-- **Texts are not observed.** Two requests to `/v1/inference` for one model, or two AUTO requests to
`/v1/chat`, of equal lengths and limits, whose adapters answer alike but for the texts of responses and the
messages and diagnostics of exceptions: every event, metric and log line is the same, the environment ends
in the same state, and the HTTP responses differ in the text of a response at most. -/
theorem direct_requests_unobserved (app : GatewayApp σ) (resolver : ProviderResolver σ)
    (client : Option String) (route method : String) (supplied : List String) :
    (∀ payload payload' : InferencePayload, payload.modelId = payload'.modelId →
        payload.toInferenceRequest.SameShape payload'.toInferenceRequest →
        InferenceService.SameAdapters payload.toInferenceRequest payload'.toInferenceRequest
          app.inferenceService.resolver resolver →
        Unobserved SameResult
          (app.serve route method supplied (app.inference (some payload) client))
          ((app.withResolver resolver).serve route method supplied
            ((app.withResolver resolver).inference (some payload') client))) ∧
      ∀ payload payload' : ChatPayload, payload.routingMode = .auto → payload'.routingMode = .auto →
        payload.toInferenceRequest.SameShape payload'.toInferenceRequest →
        (∀ chat ∈ app.chatService,
          InferenceService.SameAdapters payload.toInferenceRequest payload'.toInferenceRequest
            chat.inferenceService.resolver resolver) →
        Unobserved SameChatResult
          (app.serve route method supplied (app.chatInference (some payload) client))
          ((app.withResolver resolver).serve route method supplied
            ((app.withResolver resolver).chatInference (some payload') client)) :=
  ⟨fun _ _ hmodel hshape h =>
      unobserved_of_alike (serve_alike (inference_alike hmodel hshape h client) route method supplied),
    fun _ _ hauto hauto' hshape h => unobserved_of_alike
      (serve_alike (chatInference_alike hauto hauto' hshape h client) route method supplied)⟩

/-- Another prompt of the same length. -/
def otherRequest : InferenceRequest :=
  { InferenceRequest.sample with
    prompt := "World"
    prompt_nonblank := by decide }

/-- An adapter with another answer. -/
def otherProvider : Provider ℚ := fun _ _ s => (.ok (some { InferenceResponse.sample with text := "Bye" }), s)

theorem other_sameShape : InferenceRequest.sample.SameShape otherRequest := ⟨by decide, rfl, rfl, rfl⟩

theorem other_sameAdapters : InferenceService.SameAdapters .sample otherRequest
    (InferenceService.sample promptProvider).resolver (InferenceService.sample otherProvider).resolver := by
  intro model s
  have hresolve (provider : Provider ℚ) : (InferenceService.sample provider).resolver.resolve model s =
      if model.provider = ModelConfig.sample.provider then (.ok provider, s)
      else (.error (.raised .providerUnavailableError "No provider adapter is registered"), s) := by
    rw [ProviderResolver.resolve, InferenceService.sample]
    dsimp only
    rw [List.lookup_cons]
    split_ifs with h
    · simp [h]
    · simp [beq_eq_false_iff_ne.mpr h]
  rw [hresolve, hresolve]
  split
  · exact ⟨.ok fun _ _ => ⟨.ok (.some rfl), rfl⟩, rfl⟩
  · exact ⟨.error rfl, rfl⟩

/-- A request to `/v1/inference`. -/
def samplePayload (request : InferenceRequest) : InferencePayload where
  toInferenceRequest := request
  modelId := ModelConfig.sample.modelId

theorem direct_requests_unobserved_sample : Unobserved SameResult
    (sampleApp.serve "/v1/inference" "POST" ["request-1"]
      (sampleApp.inference (some (samplePayload .sample)) none))
    ((sampleApp.withResolver (InferenceService.sample otherProvider).resolver).serve "/v1/inference" "POST"
      ["request-1"] ((sampleApp.withResolver (InferenceService.sample otherProvider).resolver).inference
        (some (samplePayload otherRequest)) none)) :=
  (direct_requests_unobserved sampleApp (InferenceService.sample otherProvider).resolver none
    "/v1/inference" "POST" ["request-1"]).1 (samplePayload .sample) (samplePayload otherRequest) rfl
      other_sameShape other_sameAdapters

end GatewayApp

end RouteLLM
