import RouteLLM.Api.Routes
import RouteLLM.Application.ChatRecord

/-!
# What the services report

What holds of every report that a service can make for a request holds of those that it makes
(`generate_emits`). So every report that names a request names the one that the service was called for.
-/

namespace RouteLLM

/-- The request that a call of the inference service names. -/
def InferenceCall.requestId? : InferenceCall → Option String
  | providerAttempt event => some event.requestId
  | recordTelemetry event => some event.requestId
  | telemetryWriteFailed requestId => some requestId
  | _ => none

/-- The request that a call of the adaptive service names. -/
def Call.requestId? : Call → Option String
  | recordExecution event => some event.requestId
  | telemetryWriteFailed requestId => some requestId
  | adaptiveRequest event => some event.requestId
  | _ => none

/-- The request that a call of the chat service names. -/
def ChatCall.requestId? : ChatCall → Option String
  | inference call => call.requestId?
  | adaptive call => call.requestId?
  | recordActivity event => some event.requestId
  | telemetryWriteFailed requestId => some requestId
  | telemetryWrite _ => none

/-- The request that a call of the API names. -/
def ApiCall.requestId? : ApiCall → Option String
  | emit _ requestId _ _ _ _ => some requestId
  | inference call => call.requestId?
  | adaptive call => call.requestId?
  | chat call => call.requestId?
  | httpStarted _ | httpFinished .. | admission .. | rejection _ => none

/-- The call names this request, if it names one. -/
def NamesRequest {τ : Type} (name? : τ → Option String) (requestId : String) (call : τ) : Prop :=
  ∀ name ∈ name? call, name = requestId

section
variable {τ : Type} {name? : τ → Option String} {requestId : String} {call : τ}

theorem names_of_none (h : name? call = none) : NamesRequest name? requestId call := by
  rw [NamesRequest, h]
  exact fun _ h => nomatch h

theorem names_of_some (h : name? call = some requestId) : NamesRequest name? requestId call := by
  rw [NamesRequest, h]
  exact fun _ h => (Option.some.inj h).symm

end

abbrev InferenceCall.Names (requestId : String) : InferenceCall → Prop :=
  NamesRequest InferenceCall.requestId? requestId

abbrev Call.Names (requestId : String) : Call → Prop := NamesRequest Call.requestId? requestId

abbrev ChatCall.Names (requestId : String) : ChatCall → Prop := NamesRequest ChatCall.requestId? requestId

variable {σ α : Type}

namespace InferenceService

variable (service : InferenceService σ)

theorem record_emits {p : InferenceCall → Prop} (hwrite : ∀ outcome, p (.telemetryWrite outcome))
    {event : TelemetryEvent} (hevent : p (.recordTelemetry event))
    (hfailed : p (.telemetryWriteFailed event.requestId)) (deadline : RequestDeadline) :
    (service.record event deadline).Emits p := by
  refine (Traced.emits_tell_one hevent).bind fun _ => ?_
  split
  · exact Traced.emits_tell_one (hwrite _)
  refine (Traced.emits_query _).bind fun now => ?_
  split
  · exact Traced.emits_tell_one (hwrite _)
  refine (Traced.emits_query _).bind fun outcome => ?_
  split
  · exact Traced.emits_tell_one (hwrite _)
  · split
    · exact Traced.emits_tell (by simpa using ⟨hwrite _, hfailed⟩)
    · exact Traced.emits_raise _

theorem callProvider_emits (provider : Provider σ) (model : ModelConfig) (request : InferenceRequest)
    (deadline : RequestDeadline) (p : InferenceCall → Prop) :
    (service.callProvider provider model request deadline).Emits p := by
  refine (Traced.emits_query _).bind fun now => ?_
  split
  · exact Traced.emits_raise _
  refine (Traced.emits_query _).bind fun answer => ?_
  split
  · exact Traced.emits_ofExcept _
  · split
    · refine (Traced.emits_query _).bind fun later => ?_
      split <;> exact Traced.emits_raise _
    · exact Traced.emits_raise _

/-- What holds of every report that a call for this request can make under this id. -/
structure Reports (p : InferenceCall → Prop) (request : InferenceRequest) (requestId : String) :
    Prop where
  unnamed : ∀ call : InferenceCall, call.requestId? = none → p call
  attempt : ∀ event : ProviderAttempt, event.requestId = requestId → p (.providerAttempt event)
  success : ∀ result, p (.recordTelemetry (successEvent request requestId result))
  failure : ∀ model duration e, p (.recordTelemetry (failureEvent model request requestId duration e))
  writeFailed : p (.telemetryWriteFailed requestId)

theorem generateModel_emits {p : InferenceCall → Prop} {request : InferenceRequest} {requestId : String}
    (h : Reports p request requestId) (model : ModelConfig) (deadline : RequestDeadline)
    (requestMode : RequestMode) :
    (service.generateModel model request deadline requestId requestMode).Emits p := by
  have hattempt (duration : ℚ≥0) (outcome errorCategory : String) (cost : Option Money) :
      (Traced.tell [attemptEvent model requestId requestMode duration outcome errorCategory cost] :
        Act σ Unit).Emits p :=
    Traced.emits_tell_one (h.attempt _ rfl)
  rw [generateModel]
  split
  · exact Traced.emits_raise _
  refine (Traced.emits_query _).bind fun resolved => ?_
  refine (Traced.emits_tell_one (h.unnamed _ rfl)).bind fun _ => ?_
  cases resolved with
  | error e =>
    dsimp only
    split_ifs <;> exact Traced.emits_raise _
  | ok provider =>
    refine (service.callProvider_emits provider model request deadline p).attempt.bind
      fun outcome => ?_
    refine (Traced.emits_query _).bind fun duration => ?_
    cases outcome with
    | ok response => exact (hattempt _ _ _ _).bind fun _ => Traced.emits_pure _
    | error e =>
      dsimp only
      split
      · exact (hattempt _ _ _ _).bind fun _ => Traced.emits_raise _
      · split
        · exact (hattempt _ _ _ _).bind fun _ => Traced.emits_raise _
        · split
          · exact (hattempt _ _ _ _).bind fun _ => Traced.emits_raise _
          · exact Traced.emits_raise _

/-- The id that a call reports under. -/
inductive IdOf : Option String → String → Prop
  | given (id : String) : IdOf (some id) id
  | fresh (uuid : Uuid) : IdOf none uuid.text

/-- The reports after the id is chosen, for each id that may be chosen. -/
theorem correlationId_bind_emits {p : InferenceCall → Prop} {requestId : Option String}
    {rest : String → Act σ α} (h : ∀ id, IdOf requestId id → (rest id).Emits p) :
    (service.correlationId requestId >>= rest).Emits p := by
  cases requestId with
  | some id => exact Traced.emits_pure_bind (h id (.given id))
  | none => exact fun s => h _ (.fresh (service.newUuid s).1) (service.newUuid s).2

/-- What holds of every report that a call can make holds of those that it makes. -/
theorem generate_emits {p : InferenceCall → Prop} {request : InferenceRequest}
    {requestId : Option String} (h : ∀ id, IdOf requestId id → Reports p request id) (modelId : String)
    (deadline : Option RequestDeadline) (requestMode : RequestMode) :
    (service.generate modelId request requestId deadline requestMode).Emits p := by
  have hplain : ∀ call : InferenceCall, call.requestId? = none → p call := by
    cases requestId with
    | some id => exact (h id (.given id)).unnamed
    | none => exact (h _ (.fresh .sample)).unnamed
  have hdeadline : (service.deadlineOrNew deadline).Emits p := by
    cases deadline with
    | some d => exact Traced.emits_pure _
    | none => exact (Traced.emits_query _).bind fun now => Traced.emits_pure _
  refine hdeadline.bind fun requestDeadline => (Traced.emits_query _).bind fun now => ?_
  refine (Traced.emits_tell_one (hplain _ rfl)).bind fun _ => ?_
  split
  · exact Traced.emits_raise _
  refine (Traced.emits_ofExcept _).bind fun model => ?_
  refine service.correlationId_bind_emits fun id hid => ?_
  have hreports := h id hid
  refine (service.generateModel_emits hreports model requestDeadline requestMode).attempt.bind
    fun outcome => ?_
  cases outcome with
  | ok result =>
    exact (service.record_emits (fun _ => hplain _ rfl) (hreports.success result)
      hreports.writeFailed requestDeadline).bind fun _ => Traced.emits_pure _
  | error e =>
    dsimp only
    split
    · refine (Traced.emits_query _).bind fun duration => ?_
      exact (service.record_emits (fun _ => hplain _ rfl) (hreports.failure model duration e)
        hreports.writeFailed requestDeadline).bind fun _ => Traced.emits_raise _
    · exact Traced.emits_raise _

theorem reports_names (request : InferenceRequest) (requestId : String) :
    Reports (InferenceCall.Names requestId) request requestId where
  unnamed _ h := names_of_none h
  attempt _ h := names_of_some (congrArg some h)
  success _ := names_of_some rfl
  failure _ _ _ := names_of_some rfl
  writeFailed := names_of_some rfl

/-- **The inference service names the request it is called for.** -/
theorem generate_names (modelId : String) (request : InferenceRequest) (requestId : String)
    (deadline : RequestDeadline) (requestMode : RequestMode) :
    (service.generate modelId request (some requestId) (some deadline) requestMode).Emits
      (InferenceCall.Names requestId) := by
  refine service.generate_emits ?_ modelId (some deadline) requestMode
  rintro _ ⟨⟩
  exact reports_names request requestId

end InferenceService

namespace AdaptiveInferenceService

variable (service : AdaptiveInferenceService σ)

theorem checkDeadline_names (deadline : RequestDeadline) (requestId : String) :
    (service.checkDeadline deadline).Emits (Call.Names requestId) := by
  refine (Traced.emits_query _).bind fun now => ?_
  refine (Traced.emits_tell_one (names_of_none rfl)).bind fun _ => ?_
  split
  · exact Traced.emits_raise _
  · exact Traced.emits_pure _

theorem recordExecution_names {event : AdaptiveExecutionTelemetry} {requestId : String}
    (h : event.requestId = requestId) (deadline : RequestDeadline) :
    (service.recordExecution event deadline).Emits (Call.Names requestId) := by
  have hsome : Call.Names requestId (.recordExecution event) := names_of_some (congrArg some h)
  refine (Traced.emits_tell_one hsome).bind fun _ => ?_
  split
  · exact Traced.emits_tell_one (names_of_none rfl)
  refine (Traced.emits_query _).bind fun now => ?_
  split
  · exact Traced.emits_tell_one (names_of_none rfl)
  refine (Traced.emits_query _).bind fun outcome => ?_
  split
  · exact Traced.emits_tell_one (names_of_none rfl)
  · split
    · have hfailed : Call.Names requestId (.telemetryWriteFailed event.requestId) :=
        names_of_some (congrArg some h)
      exact Traced.emits_tell (by simpa using ⟨names_of_none rfl, hfailed⟩)
    · exact Traced.emits_raise _

/-- An exit: the summary of its fields and an event, both of this request. -/
theorem exit_names {fields : AdaptiveExecutionFields} {requestId : String}
    (hfields : fields.requestId = requestId) {event : AdaptiveRequestEvent}
    (hevent : event.requestId = requestId) (deadline : RequestDeadline) {last : Act σ α}
    (hlast : last.Emits (Call.Names requestId)) :
    (do
      let summary ← Traced.ofExcept (AdaptiveExecutionTelemetry.create fields)
      service.recordExecution summary deadline
      Traced.tell [Call.adaptiveRequest event]
      last : Act σ α).Emits (Call.Names requestId) := by
  cases hcreate : AdaptiveExecutionTelemetry.create fields with
  | error e => exact Traced.emits_raise e
  | ok summary =>
    have hsummary : summary.requestId = requestId := by
      rw [AdaptiveExecutionTelemetry.create] at hcreate
      split at hcreate
      · cases hcreate
        exact hfields
      · cases hcreate
    refine Traced.emits_pure_bind ((service.recordExecution_names hsummary deadline).bind fun _ => ?_)
    have hsome : Call.Names requestId (.adaptiveRequest event) := names_of_some (congrArg some hevent)
    exact (Traced.emits_tell_one hsome).bind fun _ => hlast

section
variable (run : ValidatedRun)

theorem providerFailed_names (attempts : List AdaptiveAttempt) (attemptNumber : ℕ) (e : Exc) :
    (service.providerFailed run attempts attemptNumber e : Act σ α).Emits (Call.Names run.correlationId) := by
  rw [providerFailed]
  split
  · exact Traced.emits_raise _
  · exact service.exit_names rfl rfl run.deadline (Traced.emits_raise e)

theorem attemptStep_names (attempts : List AdaptiveAttempt) (attemptNumber : ℕ) (modelId : Identifier) :
    (service.attemptStep run attempts attemptNumber modelId).Emits (Call.Names run.correlationId) := by
  refine (service.checkDeadline_names run.deadline _).bind fun _ => ?_
  refine (Traced.emits_query _).bind fun outcome => ?_
  refine (Traced.emits_tell_one (names_of_none rfl)).bind fun _ => ?_
  split
  · exact service.providerFailed_names run attempts attemptNumber _
  refine (service.checkDeadline_names run.deadline _).bind fun _ => ?_
  refine (Traced.emits_query _).bind fun validated => ?_
  refine (Traced.emits_tell_one (names_of_none rfl)).bind fun _ => ?_
  refine (Traced.emits_ofExcept _).bind fun result => ?_
  refine (service.checkDeadline_names run.deadline _).bind fun _ => ?_
  have hfailures : ∀ call ∈ result.failures.map fun f =>
      Call.validationFailure modelId f.code attemptNumber, Call.Names run.correlationId call := by
    intro call hcall
    obtain ⟨f, -, rfl⟩ := List.mem_map.mp hcall
    exact names_of_none rfl
  refine (Traced.emits_tell hfailures).bind fun _ => ?_
  split
  · refine Traced.Emits.bind ?_ fun answer => Traced.emits_pure _
    exact service.exit_names rfl rfl run.deadline (Traced.emits_pure _)
  · split
    · exact service.exit_names rfl rfl run.deadline (Traced.emits_raise _)
    · exact Traced.emits_pure _

theorem attemptLoop_names (attempts : List AdaptiveAttempt) (attemptNumber : ℕ) (ids : List Identifier) :
    (service.attemptLoop run attempts attemptNumber ids).Emits (Call.Names run.correlationId) := by
  induction ids generalizing attempts attemptNumber with
  | nil => exact Traced.emits_raise _
  | cons modelId rest ih =>
    refine (service.attemptStep_names run attempts attemptNumber modelId).bind fun step => ?_
    cases step with
    | inr answer => exact Traced.emits_pure _
    | inl attempt => exact ih _ _

end

theorem correlationId_some {requestId : String} (hid : requestId ≠ "") :
    service.correlationId (some requestId) = pure requestId := by
  rw [correlationId, Option.filter_some, if_pos (by simpa using hid)]

/-- **The adaptive service names the request it is called for.** -/
theorem generate_names (request : InferenceRequest) (category : Option String)
    (qualityThreshold : ThresholdValue) (candidateModelIds : List String)
    (validation : Option ValidationContract) (structuredOutputRequired : Bool) {requestId : String}
    (hid : requestId ≠ "") (deadline : RequestDeadline) :
    (service.generate request category qualityThreshold candidateModelIds validation
      structuredOutputRequired (some requestId) (some deadline)).Emits (Call.Names requestId) := by
  refine Traced.emits_pure_bind ((service.checkDeadline_names deadline requestId).bind fun _ => ?_)
  refine (Traced.emits_ofExcept _).bind fun candidates => ?_
  refine (Traced.emits_ofExcept _).bind fun routing => ?_
  cases validation with
  | none =>
    refine (Traced.emits_tell_one (names_of_none rfl)).bind fun _ => ?_
    rw [service.correlationId_some hid]
    refine Traced.emits_pure_bind ((Traced.emits_query _).bind fun outcome => ?_)
    refine (Traced.emits_tell_one (names_of_none rfl)).bind fun _ => ?_
    have hevent (event : AdaptiveRequestEvent) (h : event.requestId = requestId) :
        (Traced.tell [Call.adaptiveRequest event] : Act σ Unit).Emits (Call.Names requestId) := by
      have hsome : Call.Names requestId (.adaptiveRequest event) := names_of_some (congrArg some h)
      exact Traced.emits_tell_one hsome
    split
    · split
      · exact (hevent _ rfl).bind fun _ => Traced.emits_raise _
      · exact Traced.emits_raise _
    · exact (hevent _ rfl).bind fun _ => Traced.emits_pure _
  | some validation =>
    refine (Traced.emits_tell_one (names_of_none rfl)).bind fun _ => ?_
    rw [generateValidated, service.correlationId_some hid]
    refine Traced.emits_pure_bind ?_
    exact service.attemptLoop_names ⟨request, validation, routing.decision, requestId, deadline, _⟩ [] 1 _

end AdaptiveInferenceService

namespace ChatOrchestrationService

variable (chat : ChatOrchestrationService σ)

/-- What holds of every report that a chat request can make under this id. -/
structure Reports (p : ChatCall → Prop) (requestId : String) : Prop where
  adaptive : ∀ call, Call.Names requestId call → p (.adaptive call)
  activity : ∀ event : ChatActivityRecord, event.requestId = requestId → p (.recordActivity event)
  write : ∀ outcome, p (.telemetryWrite outcome)
  writeFailed : p (.telemetryWriteFailed requestId)

theorem recordFields_emits {p : ChatCall → Prop} {requestId : String} (h : Reports p requestId)
    {fields : ChatActivityFields} (hfields : fields.requestId = requestId) (deadline : RequestDeadline) :
    (chat.recordFields fields deadline).Emits p := by
  cases hcreate : ChatActivityRecord.create fields with
  | error e =>
    rw [recordFields, hcreate]
    exact Traced.emits_raise e
  | ok event =>
    have hevent : event.requestId = requestId := by
      rw [ChatActivityRecord.of_create hcreate]
      exact hfields
    rw [recordFields, hcreate]
    refine Traced.emits_pure_bind ((Traced.emits_tell_one (h.activity event hevent)).bind fun _ => ?_)
    split
    · exact Traced.emits_pure _
    refine (Traced.emits_query _).bind fun now => ?_
    split
    · exact Traced.emits_pure _
    refine (Traced.emits_query _).bind fun outcome => ?_
    split
    · exact Traced.emits_tell_one (h.write _)
    · split
      · have hfailed : p (.telemetryWriteFailed event.requestId) := hevent ▸ h.writeFailed
        exact Traced.emits_tell (by simpa using ⟨h.write _, hfailed⟩)
      · exact Traced.emits_raise _

/-- What holds of every report that a chat request can make holds of those that it makes. -/
theorem generate_emits {p : ChatCall → Prop} {request : InferenceRequest} {requestId : String}
    (h : Reports p requestId)
    (hinference : InferenceService.Reports (fun call => p (.inference call)) request requestId)
    (hid : requestId ≠ "") (routingMode : ChatRoutingMode) (category : Option RoutingCategory)
    (validation : Option ValidationContract) (deadline : RequestDeadline) :
    (chat.generate request routingMode category validation requestId deadline).Emits p := by
  unfold generate
  split
  · have hcall : (chat.inferenceService.generate chat.defaultModelId.value request (some requestId)
        (some deadline) .explicit).Emits fun call => p (.inference call) := by
      refine chat.inferenceService.generate_emits ?_ _ _ _
      rintro _ ⟨⟩
      exact hinference
    refine (hcall.embed (g := ChatCall.inference) fun _ h => h).attempt.bind fun outcome => ?_
    cases outcome with
    | error e =>
      dsimp only
      split
      · refine (Traced.emits_ofExcept _).bind fun model => ?_
        exact (chat.recordFields_emits h rfl deadline).bind fun _ => Traced.emits_raise _
      · exact Traced.emits_raise _
    | ok response => exact (chat.recordFields_emits h rfl deadline).bind fun _ => Traced.emits_pure _
  · exact Traced.emits_raise _
  · rename_i runtime hsome
    have hcall := (runtime.service chat.inferenceService).generate_names request (category.map (·.value))
      (.float runtime.approvedQualityThreshold) (runtime.candidateModelIds.map (·.value)) validation false
      hid deadline
    refine (hcall.embed (g := ChatCall.adaptive) h.adaptive).attempt.bind fun outcome => ?_
    cases outcome with
    | error e =>
      dsimp only
      split
      · exact (chat.recordFields_emits h rfl deadline).bind fun _ => Traced.emits_raise _
      · exact Traced.emits_raise _
    | ok result => exact (chat.recordFields_emits h rfl deadline).bind fun _ => Traced.emits_pure _

/-- **The chat service names the request it is called for.** -/
theorem generate_names (request : InferenceRequest) (routingMode : ChatRoutingMode)
    (category : Option RoutingCategory) (validation : Option ValidationContract) {requestId : String}
    (hid : requestId ≠ "") (deadline : RequestDeadline) :
    (chat.generate request routingMode category validation requestId deadline).Emits
      (ChatCall.Names requestId) := by
  have hreports : Reports (ChatCall.Names requestId) requestId := {
    adaptive := fun _ h => h
    activity := fun _ h => names_of_some (congrArg some h)
    write := fun _ => names_of_none rfl
    writeFailed := names_of_some rfl }
  exact chat.generate_emits hreports (InferenceService.reports_names request requestId) hid routingMode
    category validation deadline

end ChatOrchestrationService

namespace GatewayApp

variable {app : GatewayApp σ} {p : ApiCall → Prop}

/-- What holds of the decisions of the limiter and of what is executed under it holds of both. -/
theorem admitted_emits (hadmission : ∀ client kind granted, p (.admission client kind granted))
    (hrejection : ∀ rejection, p (.rejection rejection)) {execute : RequestDeadline → Act σ α}
    (h : ∀ deadline, (execute deadline).Emits p) (client : Option String) (kind : InferenceKind) :
    (app.admitted client kind execute).Emits p := by
  refine (Traced.emits_query _).bind fun now => ?_
  have hlimiter (deadline : RequestDeadline) : (Traced.translate ApiExc.admission ApiCall.rejection
      (app.admitClient (effectiveClient client) kind deadline) : Act σ Unit).Emits p := by
    intro s call hcall
    obtain ⟨rejection, -, rfl⟩ := List.mem_map.mp hcall
    exact hrejection rejection
  refine (hlimiter _).attempt.bind fun admission => ?_
  refine (Traced.emits_tell_one (hadmission _ _ _)).bind fun _ => ?_
  exact (Traced.emits_ofExcept _).bind fun _ => h _

end GatewayApp

end RouteLLM
