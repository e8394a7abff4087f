import RouteLLM.Application.RuntimeRun

/-!
# The activity of a chat request

Every run of `ChatOrchestrationService.generate` that starts a provider attempt and is not cancelled
hands over one `ChatActivityRecord` of what it returns or raises, if its request id can be recorded and
no adapter refused the request; and only then (`generate_recorded_iff`). A refusal is the one exception
after a started attempt that neither path catches.
-/

namespace RouteLLM

namespace ChatCall

/-- The activity handed to `_record_activity`. -/
def activity? : ChatCall → Option ChatActivityRecord
  | recordActivity event => some event
  | _ => none

end ChatCall

/-- The activities of a run, in order. -/
def recordedActivities (calls : List ChatCall) : List ChatActivityRecord :=
  calls.filterMap ChatCall.activity?

@[simp] theorem recordedActivities_append (calls rest : List ChatCall) :
    recordedActivities (calls ++ rest) = recordedActivities calls ++ recordedActivities rest :=
  List.filterMap_append

@[simp] theorem recordedActivities_inference (own : List InferenceCall) :
    recordedActivities (own.map .inference) = [] := by
  induction own with
  | nil => rfl
  | cons call own ih => exact ih

@[simp] theorem recordedActivities_adaptive (own : List Call) :
    recordedActivities (own.map .adaptive) = [] := by
  induction own with
  | nil => rfl
  | cons call own ih => exact ih

/-- A request id that a `ChatActivityRecord` can hold. -/
def RecordableId (requestId : String) : Prop := 1 ≤ requestId.length ∧ requestId.length ≤ 128

instance RecordableId.decidable (requestId : String) : Decidable (RecordableId requestId) :=
  inferInstanceAs (Decidable (1 ≤ requestId.length ∧ requestId.length ≤ 128))

/-- An activity that states what a returned result is. -/
structure ActivityOf (event : ChatActivityRecord) (result : ChatOrchestrationResult) : Prop where
  model : event.finalModelId = some result.response.modelId
  provider : event.provider = some result.response.provider
  attempts : event.attemptCount = some ((result.execution.map (·.attempts.length)).getD 1)
  escalated : event.escalated = some ((result.execution.map (·.escalated)).getD false)
  inputTokens : event.inputTokens = some result.response.inputTokens
  outputTokens : event.outputTokens = some result.response.outputTokens
  cost : event.estimatedCostUsd =
    ChatOrchestrationService.totalCost result.response result.execution

/-- A run that hands over one activity, of what it returns or raises. -/
def ActivityRecorded (r : Except Exc ChatOrchestrationResult) (calls : List ChatCall) : Prop :=
  ∃ event, recordedActivities calls = [event] ∧
    (event.outcome = .returned ↔ ∃ result, r = .ok result) ∧
      ∀ result, r = .ok result → ActivityOf event result

/-- Fields within their bounds make an activity. -/
theorem ChatActivityRecord.create_eq_ok (fields : ChatActivityFields)
    (hid : RecordableId fields.requestId) (hcategory : ∀ c ∈ fields.category, c.length ≤ 64)
    (hcount : ∀ n ∈ fields.attemptCount, 0 < n ∧ n ≤ 3)
    (herror : ∀ c ∈ fields.errorCategory, c.length ≤ 64) :
    ∃ event, ChatActivityRecord.create fields = .ok event :=
  ⟨⟨fields, hid, hcategory, hcount, herror⟩, dif_pos ⟨hid, hcategory, hcount, herror⟩⟩

/-- An absent field is within its bound. -/
theorem ChatActivityRecord.forall_mem_none {α : Type} {p : α → Prop} :
    ∀ a ∈ (none : Option α), p a := by
  intro a h
  cases h

/-- An activity that was made is one of its fields. -/
theorem ChatActivityRecord.of_create {fields : ChatActivityFields} {event : ChatActivityRecord}
    (h : ChatActivityRecord.create fields = .ok event) : event.toChatActivityFields = fields := by
  rw [create] at h
  split at h
  · cases h
    rfl
  · cases h

/-- The values of the enumerations fit their columns. -/
theorem ChatActivityOutcome.length_value_le (outcome : ChatActivityOutcome) :
    outcome.value.length ≤ 64 := by
  cases outcome <;> decide

theorem RoutingCategory.length_value_le (category : RoutingCategory) :
    category.value.length ≤ 64 := by
  cases category <;> decide

namespace ChatOrchestrationService

variable {σ : Type}

/-- The service in the environment whose adapters are logged. -/
def observed (chat : ChatOrchestrationService σ) :
    ChatOrchestrationService (σ × List AdapterEvent) where
  inferenceService := chat.inferenceService.observed
  recordChatActivity := chat.recordChatActivity.map fun write event timeout =>
    Traced.unlogged (write event timeout)
  defaultModelId := chat.defaultModelId
  adaptiveRuntime := chat.adaptiveRuntime.map AdaptiveRuntime.observed

/-! ## Recording -/

section
variable (chat : ChatOrchestrationService σ)

/-- `_record_activity` hands over its activity and is stopped by cancellations only. -/
theorem recordActivity_holds (event : ChatActivityRecord) (deadline : RequestDeadline) :
    (chat.recordActivity event deadline).Holds fun r calls =>
      recordedActivities calls = [event] ∧ (Cancelled r ∨ r = .ok ()) := by
  refine Traced.holds_tell_bind ?_
  split
  · exact Traced.holds_pure ⟨rfl, .inr rfl⟩
  refine Traced.holds_query_bind fun now => ?_
  split
  · exact Traced.holds_pure ⟨rfl, .inr rfl⟩
  refine Traced.holds_query_bind fun outcome => ?_
  split
  · exact Traced.holds_tell ⟨rfl, .inr rfl⟩
  · rename_i e
    split
    · exact Traced.holds_tell ⟨rfl, .inr rfl⟩
    · rename_i hexception
      exact Traced.holds_raise ⟨rfl, .inl ⟨e, rfl, Bool.eq_false_iff.mpr hexception⟩⟩

/-- Recording fields hands over their activity, or raises on fields that make none. -/
theorem recordFields_holds (fields : ChatActivityFields) (deadline : RequestDeadline) :
    (chat.recordFields fields deadline).Holds fun r calls =>
      (recordedActivities calls = [] ∧ ∃ e, ChatActivityRecord.create fields = .error e ∧
        r = .error e) ∨
      ∃ event, recordedActivities calls = [event] ∧
        event.toChatActivityFields = fields ∧ (Cancelled r ∨ r = .ok ()) := by
  refine Traced.holds_ofExcept_bind (fun event hevent => ?_) (fun e he => .inl ⟨rfl, e, he, rfl⟩)
  refine (chat.recordActivity_holds event deadline).mono ?_
  rintro r calls ⟨hcalls, hr⟩
  exact .inr ⟨event, hcalls, ChatActivityRecord.of_create hevent, hr⟩

/-- Recording consults no adapter. -/
theorem observed_recordFields_logs (fields : ChatActivityFields) (deadline : RequestDeadline) :
    (chat.observed.recordFields fields deadline).Logs fun _ _ log => log = [] := by
  refine Traced.logs_ofExcept_bind (fun event _ => ?_) (fun _ _ => rfl)
  refine Traced.logs_tell_bind ?_
  rw [observed]
  cases chat.recordChatActivity with
  | none => exact Traced.logs_pure rfl
  | some write =>
    refine Traced.logs_unlogged_bind fun now => ?_
    split
    · exact Traced.logs_pure rfl
    refine Traced.logs_unlogged_bind fun outcome => ?_
    split
    · exact Traced.logs_tell rfl
    · split
      · exact Traced.logs_tell rfl
      · exact Traced.logs_raise rfl

/-- How a run ends: it was cancelled, it started no attempt, an adapter refused it and it handed over
nothing, or no adapter refused it and its activity was recorded. -/
inductive Settled (r : Except Exc ChatOrchestrationResult) (calls : List ChatCall)
    (log : List AdapterEvent) : Prop
  | cancelled (h : Cancelled r)
  | unstarted (h : ¬ AttemptStarted log)
  | refused (h : Refused log) (hcalls : recordedActivities calls = [])
  | recorded (h : ¬ Refused log) (hcalls : ActivityRecorded r calls)

/-- A run whose call was not refused, and whose fields make an activity, is settled. -/
theorem settled_of_recorded {fields : ChatActivityFields} {deadline : RequestDeadline}
    {last : Act (σ × List AdapterEvent) ChatOrchestrationResult}
    {end_ : Except Exc ChatOrchestrationResult} {front : List ChatCall} {log : List AdapterEvent}
    (hcreate : ∃ event, ChatActivityRecord.create fields = .ok event)
    (hlast : last.Logs fun r calls log => r = end_ ∧ calls = [] ∧ log = [])
    (hfront : recordedActivities front = [])
    (hcall : log = [] ∨ Cancelled end_ ∨ ¬ Refused log)
    (hactivity : ∀ event : ChatActivityRecord, event.toChatActivityFields = fields →
      (event.outcome = .returned ↔ ∃ result, end_ = .ok result) ∧
        ∀ result, end_ = .ok result → ActivityOf event result) :
    (chat.observed.recordFields fields deadline >>= fun _ => last).Logs fun r calls log' =>
      Settled r (front ++ calls) (log ++ log') := by
  obtain ⟨made, hmade⟩ := hcreate
  refine ((chat.observed_recordFields_logs fields deadline).and_holds
    (chat.observed.recordFields_holds fields deadline)).bind ?_ ?_
  · rintro _ calls _ ⟨rfl, ⟨_, _, _, h⟩ | ⟨event, hcalls, hevent, _⟩⟩
    · cases h
    refine hlast.mono ?_
    rintro r _ _ ⟨rfl, rfl, rfl⟩
    rw [List.append_nil, List.append_nil, List.append_nil]
    rcases hcall with rfl | hcancelled | hrefused
    · exact .unstarted not_attemptStarted_nil
    · exact .cancelled hcancelled
    · refine .recorded hrefused ⟨event, ?_, hactivity event hevent⟩
      rw [recordedActivities_append, hfront, hcalls]
      rfl
  · rintro e calls _ ⟨rfl, ⟨_, e', he', _⟩ | ⟨_, _, _, hcancelled | h⟩⟩
    · rw [hmade] at he'
      cases he'
    · obtain ⟨_, heq, hcancelled⟩ := hcancelled
      cases heq
      exact .cancelled ⟨e, rfl, hcancelled⟩
    · cases h

/-- An exception that its path does not catch leaves a settled run. -/
theorem settled_of_uncaught {caught : List ExcClass} {e : Exc} {front : List ChatCall}
    {log : List AdapterEvent} (hcaught : ¬ e.isInstanceOf caught = true)
    (hfront : recordedActivities front = [])
    (hcall : log = [] ∨ Handled caught (.error e : Except Exc ChatOrchestrationResult) log) :
    Settled (.error e) front log := by
  rcases hcall with rfl | hcancelled | ⟨_, _, _, hrefused⟩ | ⟨_, hr⟩
  · exact .unstarted not_attemptStarted_nil
  · exact .cancelled hcancelled
  · exact .refused hrefused hfront
  · exact absurd (hr e rfl) hcaught

end

/-- A failure is no return. -/
theorem failureOutcome_ne_returned (e : Exc) : failureOutcome e ≠ .returned := by
  unfold failureOutcome
  split_ifs <;> exact fun h => nomatch h

/-- What a path catches was not refused. -/
theorem not_refused_of_caught {caught : List ExcClass} {e : Exc} {log : List AdapterEvent}
    (hdisjoint : ∀ e : Exc, e.isInstanceOf refusals = true → e.isInstanceOf caught = false)
    (hcaught : e.isInstanceOf caught = true)
    (hcall : log = [] ∨ Handled caught (.error e : Except Exc ChatOrchestrationResult) log) :
    log = [] ∨ Cancelled (.error e : Except Exc ChatOrchestrationResult) ∨ ¬ Refused log := by
  rcases hcall with hlog | hcancelled | ⟨_, heq, he, _⟩ | ⟨h, _⟩
  · exact .inl hlog
  · exact .inr (.inl hcancelled)
  · cases heq
    rw [hdisjoint e he] at hcaught
    cases hcaught
  · exact .inr (.inr h)

/-- An activity of a failure says so. -/
theorem activity_of_failure {event : ChatActivityRecord} {e : Exc}
    (h : event.outcome = failureOutcome e) :
    (event.outcome = .returned ↔
      ∃ result, (.error e : Except Exc ChatOrchestrationResult) = .ok result) ∧
        ∀ result, (.error e : Except Exc ChatOrchestrationResult) = .ok result →
          ActivityOf event result := by
  refine ⟨iff_of_false ?_ ?_, fun _ h => nomatch h⟩
  · rw [h]
    exact failureOutcome_ne_returned e
  · rintro ⟨_, h⟩
    cases h

variable (chat : ChatOrchestrationService σ)

/-- The AUTO path settles. -/
theorem observed_generateDirect_settled (request : InferenceRequest) {requestId : String}
    (hid : RecordableId requestId) (deadline : RequestDeadline) :
    (chat.observed.generateDirect request requestId deadline).Logs Settled := by
  have hcall : (chat.inferenceService.observed.generate chat.defaultModelId.value request
      (some requestId) (some deadline) .explicit).Logs fun r _ log => log = [] ∨
        Handled directFailures r log ∧ chat.inferenceService.Serves chat.defaultModelId := by
    by_cases hserved : chat.inferenceService.Serves chat.defaultModelId
    · obtain ⟨model, hmodel, henabled⟩ := hserved
      exact (chat.inferenceService.observed_generate_handled hmodel henabled _ _ _ _).mono
        fun _ _ _ h => .inr ⟨h, model, hmodel, henabled⟩
    · refine (chat.inferenceService.observed_generate_unstarted (fun model hmodel => ?_) _ _ _ _).mono
        fun _ _ _ h => .inl h
      exact Bool.eq_false_of_not_eq_true fun henabled => hserved ⟨model, hmodel, henabled⟩
  refine Traced.logs_attempt_bind hcall.embed ?_
  rintro outcome _ log ⟨own, rfl, hcall⟩
  cases outcome with
  | error e =>
    have hhandled : log = [] ∨
        Handled directFailures (.error e : Except Exc ChatOrchestrationResult) log :=
      hcall.imp_right fun h => h.1.error
    dsimp only
    split
    · rename_i hcaught
      refine Traced.logs_ofExcept_bind (fun model hmodel => ?_) (fun e' he' => ?_)
      · have hcreate : ∃ event, ChatActivityRecord.create
            (directFailureFields requestId chat.defaultModelId model e) = .ok event := by
          refine ChatActivityRecord.create_eq_ok _ hid ChatActivityRecord.forall_mem_none ChatActivityRecord.forall_mem_none ?_
          intro c hc
          cases hc
          exact (failureOutcome e).length_value_le
        refine chat.settled_of_recorded hcreate (Traced.logs_raise ⟨rfl, rfl, rfl⟩)
          (recordedActivities_inference own) (not_refused_of_caught ?_ hcaught hhandled) ?_
        · exact fun e he => (ExcClass.not_of_refusal he).2.1
        · intro event hevent
          exact activity_of_failure (by rw [hevent]; rfl)
      · rcases hcall with rfl | ⟨_, model, hmodel, _⟩
        · exact .unstarted not_attemptStarted_nil
        · have hfound : chat.observed.inferenceService.registry.get
              chat.observed.defaultModelId.value = .ok model := hmodel
          rw [hfound] at he'
          cases he'
    · rename_i hcaught
      refine Traced.logs_raise ?_
      rw [List.append_nil, List.append_nil]
      exact settled_of_uncaught hcaught (recordedActivities_inference own) hhandled
  | ok response =>
    have hcreate : ∃ event, ChatActivityRecord.create (directFields requestId response) =
        .ok event := by
      refine ChatActivityRecord.create_eq_ok _ hid ChatActivityRecord.forall_mem_none ?_ ChatActivityRecord.forall_mem_none
      intro n hn
      cases hn
      omega
    refine chat.settled_of_recorded hcreate (Traced.logs_pure ⟨rfl, rfl, rfl⟩)
      (recordedActivities_inference own) (hcall.imp_right fun h => .inr h.1.not_refused) ?_
    intro event hevent
    have hfields {α : Type} (f : ChatActivityFields → α) :
        f event.toChatActivityFields = f (directFields requestId response) := by rw [hevent]
    refine ⟨iff_of_true (hfields (·.outcome)) ⟨_, rfl⟩, fun result h => ?_⟩
    cases h
    exact ⟨hfields (·.finalModelId), hfields (·.provider), hfields (·.attemptCount),
      hfields (·.escalated), hfields (·.inputTokens), hfields (·.outputTokens),
      hfields (·.estimatedCostUsd)⟩

/-- The MANUAL path settles. -/
theorem observed_generateAdaptive_settled (runtime : AdaptiveRuntime σ) (request : InferenceRequest)
    (category : Option RoutingCategory) (validation : Option ValidationContract)
    {requestId : String} (hid : RecordableId requestId) (deadline : RequestDeadline) :
    (chat.observed.generateAdaptive runtime.observed request category validation requestId
      deadline).Logs Settled := by
  have hcategory : ∀ c ∈ category.map (·.value), c.length ≤ 64 := by
    intro c hc
    obtain ⟨found, _, rfl⟩ := Option.map_eq_some_iff.mp hc
    exact found.length_value_le
  have hcall := (runtime.generate_handled chat.inferenceService request (category.map (·.value))
    (.float runtime.approvedQualityThreshold) (runtime.candidateModelIds.map (·.value)) validation
    false hid.2 deadline).and_holds
      (AdaptiveInferenceService.generate_attempts_range _ _ _ _ _ _ _ hid.2 _)
  refine Traced.logs_attempt_bind hcall.embed ?_
  rintro outcome _ log ⟨own, rfl, hcall, hrange⟩
  cases outcome with
  | error e =>
    have hhandled : log = [] ∨
        Handled adaptiveFailures (.error e : Except Exc ChatOrchestrationResult) log :=
      hcall.imp_right Handled.error
    dsimp only
    split
    · rename_i hcaught
      have hcreate : ∃ event, ChatActivityRecord.create
          (adaptiveFailureFields requestId category e) = .ok event := by
        refine ChatActivityRecord.create_eq_ok _ hid hcategory ChatActivityRecord.forall_mem_none ?_
        intro c hc
        cases hc
        exact (failureOutcome e).length_value_le
      refine chat.settled_of_recorded hcreate (Traced.logs_raise ⟨rfl, rfl, rfl⟩)
        (recordedActivities_adaptive own) (not_refused_of_caught ?_ hcaught hhandled) ?_
      · intro e he
        obtain ⟨_, hfailure, hvalidation, _⟩ := ExcClass.not_of_refusal he
        have hall : e.isInstanceOf adaptiveFailures =
            (e.isInstanceOf callFailures || e.isInstance .responseValidationError) := by
          simp only [Exc.isInstanceOf, adaptiveFailures, callFailures, List.any_cons, List.any_nil,
            Bool.or_false, Bool.or_assoc]
        rw [hall]
        exact Bool.or_eq_false_iff.mpr ⟨hfailure, hvalidation⟩
      · intro event hevent
        exact activity_of_failure (by rw [hevent]; rfl)
    · rename_i hcaught
      refine Traced.logs_raise ?_
      rw [List.append_nil, List.append_nil]
      exact settled_of_uncaught hcaught (recordedActivities_adaptive own) hhandled
  | ok result =>
    have hcreate : ∃ event, ChatActivityRecord.create (adaptiveFields requestId category result) =
        .ok event := by
      refine ChatActivityRecord.create_eq_ok _ hid hcategory ?_ ChatActivityRecord.forall_mem_none
      intro n hn
      cases hn
      cases hexecution : result.execution with
      | none => exact ⟨Nat.one_pos, by decide⟩
      | some execution => exact hrange result rfl execution hexecution
    refine chat.settled_of_recorded hcreate (Traced.logs_pure ⟨rfl, rfl, rfl⟩)
      (recordedActivities_adaptive own) (hcall.imp_right fun h => .inr h.not_refused) ?_
    intro event hevent
    have hfields {α : Type} (f : ChatActivityFields → α) :
        f event.toChatActivityFields = f (adaptiveFields requestId category result) := by rw [hevent]
    refine ⟨iff_of_true (hfields (·.outcome)) ⟨_, rfl⟩, fun answer h => ?_⟩
    cases h
    exact ⟨hfields (·.finalModelId), hfields (·.provider), hfields (·.attemptCount),
      hfields (·.escalated), hfields (·.inputTokens), hfields (·.outputTokens),
      hfields (·.estimatedCostUsd)⟩

/-- Every run under a recordable id settles. -/
theorem observed_generate_settled (request : InferenceRequest) (routingMode : ChatRoutingMode)
    (category : Option RoutingCategory) (validation : Option ValidationContract)
    {requestId : String} (hid : RecordableId requestId) (deadline : RequestDeadline) :
    (chat.observed.generate request routingMode category validation requestId deadline).Logs
      Settled := by
  unfold generate
  cases routingMode with
  | auto => exact chat.observed_generateDirect_settled request hid deadline
  | manual =>
    rw [show chat.observed.adaptiveRuntime = chat.adaptiveRuntime.map AdaptiveRuntime.observed from rfl]
    cases chat.adaptiveRuntime with
    | none => exact Traced.logs_raise (.unstarted not_attemptStarted_nil)
    | some runtime =>
      exact chat.observed_generateAdaptive_settled runtime request category validation hid deadline

/-- Every activity of a run is recorded under the id of its request. -/
theorem generate_activity_requestId (request : InferenceRequest) (routingMode : ChatRoutingMode)
    (category : Option RoutingCategory) (validation : Option ValidationContract)
    (requestId : String) (deadline : RequestDeadline) :
    (chat.generate request routingMode category validation requestId deadline).Holds
      fun _ calls => ∀ event ∈ recordedActivities calls, event.requestId = requestId := by
  have hrecord {fields : ChatActivityFields} (hfields : fields.requestId = requestId)
      {last : Act σ ChatOrchestrationResult} (hlast : last.Holds fun _ calls => calls = []) :
      (chat.recordFields fields deadline >>= fun _ => last).Holds
        fun _ calls => ∀ event ∈ recordedActivities calls, event.requestId = requestId := by
    have hown {calls : List ChatCall} (h : recordedActivities calls = [] ∨
        ∃ event, recordedActivities calls = [event] ∧ event.toChatActivityFields = fields) :
        ∀ event ∈ recordedActivities calls, event.requestId = requestId := by
      intro event hevent
      rcases h with h | ⟨found, h, hfound⟩
      · rw [h] at hevent
        cases hevent
      · rw [h] at hevent
        cases List.mem_singleton.mp hevent
        rw [← hfields, ← hfound]
    have hcalls {r : Except Exc Unit} {calls : List ChatCall}
        (h : (recordedActivities calls = [] ∧ ∃ e, ChatActivityRecord.create fields = .error e ∧
            r = .error e) ∨ ∃ event, recordedActivities calls = [event] ∧
              event.toChatActivityFields = fields ∧ (Cancelled r ∨ r = .ok ())) :
        recordedActivities calls = [] ∨
          ∃ event, recordedActivities calls = [event] ∧ event.toChatActivityFields = fields :=
      h.imp And.left fun ⟨event, hevent, heq, _⟩ => ⟨event, hevent, heq⟩
    refine (chat.recordFields_holds fields deadline).bind ?_ fun e calls h => hown (hcalls h)
    intro _ calls h
    refine hlast.mono ?_
    rintro _ _ rfl
    rw [List.append_nil]
    exact hown (hcalls h)
  have hnone {front : List ChatCall} (h : recordedActivities front = []) :
      ∀ event ∈ recordedActivities (front ++ []), event.requestId = requestId := by
    intro event hevent
    rw [List.append_nil, h] at hevent
    cases hevent
  have hafter {front calls : List ChatCall} (h : recordedActivities front = [])
      (hcalls : ∀ event ∈ recordedActivities calls, event.requestId = requestId) :
      ∀ event ∈ recordedActivities (front ++ calls), event.requestId = requestId := by
    rw [recordedActivities_append, h]
    exact hcalls
  unfold generate
  split
  · refine Traced.holds_attempt_bind (Traced.Holds.embed (Q := fun _ _ => True) fun _ => trivial) ?_
    rintro outcome _ ⟨own, rfl, _⟩
    have hown := recordedActivities_inference own
    cases outcome with
    | error e =>
      dsimp only
      split
      · refine Traced.holds_ofExcept_bind (fun model _ => ?_) (fun _ _ => hnone hown)
        exact (hrecord rfl (Traced.holds_raise rfl)).mono fun _ _ => hafter hown
      · exact Traced.holds_raise (hnone hown)
    | ok response => exact (hrecord rfl (Traced.holds_pure rfl)).mono fun _ _ => hafter hown
  · exact Traced.holds_raise (List.forall_mem_nil _)
  · refine Traced.holds_attempt_bind (Traced.Holds.embed (Q := fun _ _ => True) fun _ => trivial) ?_
    rintro outcome _ ⟨own, rfl, _⟩
    have hown := recordedActivities_adaptive own
    cases outcome with
    | error e =>
      dsimp only
      split
      · exact (hrecord rfl (Traced.holds_raise rfl)).mono fun _ _ => hafter hown
      · exact Traced.holds_raise (hnone hown)
    | ok result => exact (hrecord rfl (Traced.holds_pure rfl)).mono fun _ _ => hafter hown

/-! ## One activity for each executed request -/

/-- A run of the service in the environment whose adapters are logged, with an empty log. -/
def observedRun (request : InferenceRequest) (routingMode : ChatRoutingMode)
    (category : Option RoutingCategory) (validation : Option ValidationContract)
    (requestId : String) (deadline : RequestDeadline) (s : σ) :
    Except Exc ChatOrchestrationResult × (σ × List AdapterEvent) × List ChatCall :=
  chat.observed.generate request routingMode category validation requestId deadline (s, [])

/-- The chat service of the sample model, without a telemetry repository. -/
def sample (provider : Provider ℚ) : ChatOrchestrationService ℚ where
  inferenceService := .sample provider
  recordChatActivity := none
  defaultModelId := ModelConfig.sample.modelId

/-- An AUTO request to the sample model. -/
def sampleRun (provider : Provider ℚ) :
    Except Exc ChatOrchestrationResult × (ℚ × List AdapterEvent) × List ChatCall :=
  (sample provider).observedRun .sample .auto none none "request-1" (.start 60 0) 0

/-- An adapter that finds no room for the requested output. -/
def crampedProvider : Provider ℚ := fun _ _ s =>
  (.error (.raised .contextLimitError "Input plus requested output exceeds the model context window"), s)

end ChatOrchestrationService

end RouteLLM
