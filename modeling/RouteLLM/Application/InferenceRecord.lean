import RouteLLM.Application.Inference

/-!
# What a call of the inference service reports

Every call of `InferenceService.generate` for a registered model that starts before its deadline
hands one `TelemetryEvent` to `_record`, and it is the event of what the call returns or raises.
`Generated` lists the reports of a call in full (`generate_generated`); the exceptions that leave a
call unreported are those that no `except Exception` catches.
-/

namespace RouteLLM

namespace InferenceCall

/-- The event handed to `_record`. -/
def event? : InferenceCall → Option TelemetryEvent
  | recordTelemetry event => some event
  | _ => none

/-- The event of the attempt metric. -/
def attempt? : InferenceCall → Option ProviderAttempt
  | providerAttempt event => some event
  | _ => none

/-- An adapter was resolved. -/
def resolved : InferenceCall → Bool
  | resolve _ (.ok ()) => true
  | _ => false

/-- The deadline had expired at the entry. -/
def late : InferenceCall → Bool
  | expired found => found
  | _ => false

/-- The outcome of a telemetry write. -/
def writeReport : InferenceCall → Bool
  | telemetryWrite _ | telemetryWriteFailed _ => true
  | _ => false

end InferenceCall

/-- The events handed to `_record`, in order. -/
def handedEvents (calls : List InferenceCall) : List TelemetryEvent :=
  calls.filterMap InferenceCall.event?

/-- The attempt metrics, in order. -/
def providerAttempts (calls : List InferenceCall) : List ProviderAttempt :=
  calls.filterMap InferenceCall.attempt?

/-- The deadline check at the entry found the deadline open. -/
def EnteredInTime (calls : List InferenceCall) : Prop := ∀ c ∈ calls, c.late = false

instance (calls : List InferenceCall) : Decidable (EnteredInTime calls) :=
  inferInstanceAs (Decidable (∀ c ∈ calls, c.late = false))

namespace InferenceService

/-! ## The reports of a call -/

/-- The reports of `_generate`: the resolution of the adapter, and the metric once it is resolved,
unless an exception outside `Exception` went through. -/
inductive ModelCalls (r : Except Exc InferenceResponse) : List InferenceCall → Prop
  | disabled : ModelCalls r []
  | unresolved (modelId : Identifier) (e : Exc) : ModelCalls r [.resolve modelId (.error e)]
  | interrupted (modelId : Identifier) (h : Cancelled r) : ModelCalls r [.resolve modelId (.ok ())]
  | attempted (modelId : Identifier) (event : ProviderAttempt) :
      ModelCalls r [.resolve modelId (.ok ()), .providerAttempt event]

/-- The event of an outcome of a call to a model. -/
inductive EventOf (model : ModelConfig) (request : InferenceRequest) (requestId : String) :
    Except Exc InferenceResponse → TelemetryEvent → Prop
  | returned (response : InferenceResponse) (h : Normalized model (.ok response)) :
      EventOf model request requestId (.ok response) (successEvent request requestId response)
  | raised (e : Exc) (duration : ℚ≥0) (h : e.isInstanceOf normalizedErrors = true) :
      EventOf model request requestId (.error e) (failureEvent model request requestId duration e)

/-- A call of `generate` to a registered model: it found the deadline expired, or an exception outside
`Exception` went through it, or it has handed over the event of its outcome. -/
inductive Generated (model : ModelConfig) (request : InferenceRequest) (requestId : Option String) :
    Except Exc InferenceResponse → List InferenceCall → Prop
  | late : Generated model request requestId (.error deadlineExceeded) [.expired true]
  | cancelled {r calls} (h : Cancelled r) : Generated model request requestId r calls
  | ended {r front reports} (id : String) (hid : ∀ given, requestId = some given → id = given)
      (event : TelemetryEvent) (hevent : EventOf model request id r event)
      (hfront : ModelCalls r front) (hreports : ∀ c ∈ reports, c.writeReport = true) :
      Generated model request requestId r
        (.expired false :: (front ++ .recordTelemetry event :: reports))

variable {σ : Type} (service : InferenceService σ)

/-- `_generate` reports as `ModelCalls` says. -/
theorem generateModel_calls (model : ModelConfig) (request : InferenceRequest)
    (deadline : RequestDeadline) (requestId : String) (requestMode : RequestMode) :
    (service.generateModel model request deadline requestId requestMode).Holds ModelCalls := by
  rw [generateModel]
  split
  · exact Traced.holds_raise .disabled
  refine Traced.holds_query_bind fun resolved => Traced.holds_tell_bind ?_
  cases resolved with
  | error e =>
    dsimp only
    split
    · exact Traced.holds_raise (.unresolved _ e)
    · split
      · exact Traced.holds_raise (.unresolved _ e)
      · exact Traced.holds_raise (.unresolved _ e)
  | ok provider =>
    refine Traced.holds_attempt_bind (service.callProvider_holds provider model request deadline) ?_
    rintro outcome calls ⟨rfl, _⟩
    refine Traced.holds_query_bind fun duration => ?_
    cases outcome with
    | ok response => exact Traced.holds_tell_bind (Traced.holds_pure (.attempted _ _))
    | error e =>
      dsimp only
      split
      · exact Traced.holds_tell_bind (Traced.holds_raise (.attempted _ _))
      · split
        · exact Traced.holds_tell_bind (Traced.holds_raise (.attempted _ _))
        · split
          · exact Traced.holds_tell_bind (Traced.holds_raise (.attempted _ _))
          · rename_i hexception
            exact Traced.holds_raise
              (.interrupted _ ⟨e, rfl, Bool.eq_false_iff.mpr hexception⟩)

/-- `_record` hands over its event and reports the write. -/
theorem record_calls (event : TelemetryEvent) (deadline : RequestDeadline) :
    (service.record event deadline).Holds fun r calls => (r = .ok () ∨ Cancelled r) ∧
      ∃ reports, calls = .recordTelemetry event :: reports ∧
        ∀ c ∈ reports, c.writeReport = true := by
  refine Traced.holds_tell_bind ?_
  split
  · exact Traced.holds_tell ⟨.inl rfl, _, rfl, by simp [InferenceCall.writeReport]⟩
  refine Traced.holds_query_bind fun now => ?_
  split
  · exact Traced.holds_tell ⟨.inl rfl, _, rfl, by simp [InferenceCall.writeReport]⟩
  refine Traced.holds_query_bind fun outcome => ?_
  split
  · exact Traced.holds_tell ⟨.inl rfl, _, rfl, by simp [InferenceCall.writeReport]⟩
  · rename_i e
    split
    · exact Traced.holds_tell ⟨.inl rfl, _, rfl, by simp [InferenceCall.writeReport]⟩
    · rename_i hexception
      exact Traced.holds_raise
        ⟨.inr ⟨e, rfl, Bool.eq_false_iff.mpr hexception⟩, [], rfl, List.forall_mem_nil _⟩

/-- The telemetry of an outcome ends a call that has not been cancelled. -/
theorem record_ends {model : ModelConfig} {request : InferenceRequest} {requestId : Option String}
    {r : Except Exc InferenceResponse} {front : List InferenceCall} {id : String}
    (hid : ∀ given, requestId = some given → id = given) {event : TelemetryEvent}
    (hevent : EventOf model request id r event) (hfront : ModelCalls r front)
    (deadline : RequestDeadline) {last : Act σ InferenceResponse}
    (hlast : last.Holds fun r' calls => r' = r ∧ calls = []) :
    (service.record event deadline >>= fun _ => last).Holds fun r' calls =>
      Generated model request requestId r' (.expired false :: (front ++ calls)) := by
  refine (service.record_calls event deadline).bind ?_ ?_
  · rintro _ _ ⟨_, reports, rfl, hreports⟩
    refine hlast.mono ?_
    rintro _ _ ⟨rfl, rfl⟩
    rw [List.append_nil]
    exact .ended id hid event hevent hfront hreports
  · rintro e calls ⟨he | ⟨e', he, hcancelled⟩, _⟩
    · cases he
    · cases he
      exact .cancelled ⟨e, rfl, hcancelled⟩

/-- The request id that the service uses: a given one is kept. -/
theorem correlationId_holds (requestId : Option String) :
    (service.correlationId requestId).Holds fun r calls =>
      ∃ id, r = .ok id ∧ calls = [] ∧ ∀ given, requestId = some given → id = given := by
  cases requestId with
  | some id =>
    exact Traced.holds_pure ⟨id, rfl, rfl, fun given h => Option.some.inj h⟩
  | none =>
    exact Traced.holds_query_bind fun fresh => Traced.holds_pure ⟨_, rfl, rfl, by simp⟩

theorem deadlineOrNew_holds (deadline : Option RequestDeadline) :
    (service.deadlineOrNew deadline).Holds fun r calls => ∃ d, r = .ok d ∧ calls = [] := by
  cases deadline with
  | some d => exact Traced.holds_pure ⟨d, rfl, rfl⟩
  | none => exact Traced.holds_query_bind fun now => Traced.holds_pure ⟨_, rfl, rfl⟩

/-- Every call to a registered model is `Generated`. -/
theorem generate_generated {modelId : String} {model : ModelConfig}
    (hmodel : service.registry.get modelId = .ok model) (request : InferenceRequest)
    (requestId : Option String) (deadline : Option RequestDeadline) (requestMode : RequestMode) :
    (service.generate modelId request requestId deadline requestMode).Holds
      (Generated model request requestId) := by
  refine (service.deadlineOrNew_holds deadline).bind ?_ (fun e _ ⟨_, h, _⟩ => nomatch h)
  rintro requestDeadline _ ⟨_, _, rfl⟩
  refine Traced.holds_query_bind fun now => Traced.holds_tell_bind ?_
  cases hexpired : requestDeadline.expired now with
  | true => exact Traced.holds_raise .late
  | false =>
    refine Traced.holds_ofExcept_bind (fun found hfound => ?_) (fun e he => ?_)
    rotate_left
    · rw [hmodel] at he
      cases he
    rw [hmodel] at hfound
    cases hfound
    refine (service.correlationId_holds requestId).bind ?_ (fun e _ ⟨_, h, _⟩ => nomatch h)
    rintro id _ ⟨_, hok, rfl, hid⟩
    cases hok
    have hboth : (service.generateModel model request requestDeadline id requestMode).Holds
        fun r calls => Normalized model r ∧ ModelCalls r calls := fun s =>
      ⟨service.generateModel_holds model request requestDeadline id requestMode s,
        service.generateModel_calls model request requestDeadline id requestMode s⟩
    refine Traced.holds_attempt_bind hboth ?_
    rintro outcome front ⟨hnormalized, hfront⟩
    cases outcome with
    | ok response =>
      exact service.record_ends hid (.returned response hnormalized) hfront requestDeadline
        (Traced.holds_pure ⟨rfl, rfl⟩)
    | error e =>
      dsimp only
      split
      · rename_i hcaught
        refine Traced.holds_query_bind fun duration => ?_
        exact service.record_ends hid (.raised e duration hcaught) hfront requestDeadline
          (Traced.holds_raise ⟨rfl, rfl⟩)
      · rename_i hcaught
        refine Traced.holds_raise (.cancelled ⟨e, rfl, ?_⟩)
        exact hnormalized.resolve_left hcaught

/-! ## Adapters and telemetry that raise exceptions only -/

/-- What this outcome raises, if it does, is an `Exception`. -/
def RaisesException {α : Type} (r : Except Exc α) : Prop :=
  ∀ e, r = .error e → e.isInstance .exception = true

/-- Whatever the factories and the adapters do, they raise `Exception`s only. -/
def AdaptersRaiseExceptions (resolver : ProviderResolver σ) : Prop :=
  ∀ entry ∈ resolver.factories, ∀ model s, RaisesException (entry.2 model s).1 ∧
    ∀ provider : Provider σ, (entry.2 model s).1 = .ok provider →
      ∀ request timeout s', RaisesException (provider request timeout s').1

/-- Whatever the telemetry repository does, it raises `Exception`s only. -/
def TelemetryRaisesExceptions : Prop :=
  ∀ write ∈ service.telemetry, ∀ event timeout s, RaisesException (write event timeout s).1

/-- The factory of a provider is one of the resolver's. -/
theorem mem_factories_of_lookup {α β : Type} [DecidableEq α] {entries : List (α × β)} {k : α} {v : β}
    (h : entries.lookup k = some v) : ∃ entry ∈ entries, entry.2 = v := by
  induction entries with
  | nil => cases h
  | cons entry entries ih =>
    rw [List.lookup_cons] at h
    split at h
    · exact ⟨entry, .head _, Option.some.inj h⟩
    · obtain ⟨found, hmem, heq⟩ := ih h
      exact ⟨found, .tail _ hmem, heq⟩

/-- The resolver raises `Exception`s only. -/
theorem resolve_raisesException {resolver : ProviderResolver σ}
    (hadapters : AdaptersRaiseExceptions resolver) (model : ModelConfig) (s : σ) :
    RaisesException (resolver.resolve model s).1 ∧
      ∀ provider : Provider σ, (resolver.resolve model s).1 = .ok provider →
        ∀ request timeout s', RaisesException (provider request timeout s').1 := by
  rw [ProviderResolver.resolve]
  split
  · rename_i factory hfactory
    obtain ⟨entry, hmem, rfl⟩ := mem_factories_of_lookup hfactory
    exact hadapters entry hmem model s
  · refine ⟨fun e he => ?_, fun provider h => nomatch h⟩
    cases he
    rfl

/-- A telemetry that raises `Exception`s only changes nothing: `_record` returns. -/
theorem record_returns (htelemetry : service.TelemetryRaisesExceptions) (event : TelemetryEvent)
    (deadline : RequestDeadline) (s : σ) :
    ∃ u, ((service.record event deadline) s).1 = .ok u := by
  suffices h : (service.record event deadline).Holds fun r _ => ∃ u, r = .ok u from h s
  refine Traced.holds_tell_bind ?_
  split
  · exact Traced.holds_tell ⟨_, rfl⟩
  rename_i write hwrite
  refine Traced.holds_query_bind fun now => ?_
  split
  · exact Traced.holds_tell ⟨_, rfl⟩
  rename_i timeout htimeout
  refine Traced.holds_query_bind_of fun s => ?_
  have hraises := htelemetry write (by rw [hwrite]; rfl) event timeout s
  cases houtcome : (write event timeout s).1 with
  | ok u => exact Traced.holds_tell ⟨_, rfl⟩
  | error e =>
    dsimp only
    rw [if_pos (hraises e houtcome)]
    exact Traced.holds_tell ⟨_, rfl⟩

/-- The body of the `try` raises `Exception`s only. -/
theorem callProvider_raisesException {provider : Provider σ} {request : InferenceRequest}
    (hprovider : ∀ timeout s, RaisesException (provider request timeout s).1) (model : ModelConfig)
    (deadline : RequestDeadline) :
    (service.callProvider provider model request deadline).Holds fun r _ => RaisesException r := by
  have hdeadline : RaisesException (.error deadlineExceeded : Except Exc InferenceResponse) := by
    intro e he
    cases he
    rfl
  refine Traced.holds_query_bind fun now => ?_
  split
  · exact Traced.holds_raise hdeadline
  refine Traced.holds_query_bind_of fun s => ?_
  have hanswer := hprovider (deadline.remainingSeconds now) s
  cases houtcome : (provider request (deadline.remainingSeconds now) s).1 with
  | ok found =>
    dsimp only
    cases haccept : acceptResponse model found with
    | ok response => exact Traced.holds_pure fun _ h => nomatch h
    | error e =>
      refine Traced.holds_raise fun e' he => ?_
      cases he
      -- The two errors of the checks are a `TypeError` and a `ValueError`.
      cases found with
      | none =>
        cases haccept
        rfl
      | some response =>
        unfold acceptResponse at haccept
        dsimp only at haccept
        split at haccept
        · cases haccept
          rfl
        · cases haccept
  | error e =>
    have he : RaisesException (.error e : Except Exc InferenceResponse) := by
      intro e' he'
      cases he'
      exact hanswer e houtcome
    dsimp only
    split
    · refine Traced.holds_query_bind fun later => ?_
      split
      · exact Traced.holds_raise hdeadline
      · exact Traced.holds_raise he
    · exact Traced.holds_raise he

/-- `_generate` raises `Exception`s only. -/
theorem generateModel_raisesException (hadapters : AdaptersRaiseExceptions service.resolver)
    (model : ModelConfig) (request : InferenceRequest) (deadline : RequestDeadline)
    (requestId : String) (requestMode : RequestMode) :
    (service.generateModel model request deadline requestId requestMode).Holds
      fun r _ => RaisesException r := by
  have hraise : ∀ e : Exc, e.isInstance .exception = true →
      (Traced.raise e : Act σ InferenceResponse).Holds fun r _ => RaisesException r := by
    intro e he
    refine Traced.holds_raise fun e' he' => ?_
    cases he'
    exact he
  rw [generateModel]
  split
  · exact hraise _ rfl
  refine Traced.holds_query_bind_of fun s => Traced.holds_tell_bind ?_
  obtain ⟨hresolve, hprovider⟩ := resolve_raisesException hadapters model s
  cases hresolved : (service.resolver.resolve model s).1 with
  | error e =>
    have he := hresolve e hresolved
    dsimp only
    split
    · exact hraise e he
    · exact hraise _ rfl
  | ok provider =>
    refine Traced.holds_attempt_bind (service.callProvider_raisesException
      (hprovider provider hresolved request) model deadline) ?_
    intro outcome calls houtcome
    refine Traced.holds_query_bind fun duration => ?_
    cases outcome with
    | ok response =>
      refine Traced.holds_tell_bind (Traced.holds_pure fun _ h => ?_)
      cases h
    | error e =>
      have he := houtcome e rfl
      dsimp only
      split
      · exact Traced.holds_tell_bind (hraise e he)
      · split
        · exact Traced.holds_tell_bind (hraise e he)
        · exact Traced.holds_tell_bind (hraise _ rfl)

/-- A call to a registered model raises `Exception`s only. -/
theorem generate_raisesException (hadapters : AdaptersRaiseExceptions service.resolver)
    (htelemetry : service.TelemetryRaisesExceptions) {modelId : String} {model : ModelConfig}
    (hmodel : service.registry.get modelId = .ok model) (request : InferenceRequest)
    (requestId : Option String) (deadline : Option RequestDeadline) (requestMode : RequestMode) :
    (service.generate modelId request requestId deadline requestMode).Holds
      fun r _ => RaisesException r := by
  refine (service.deadlineOrNew_holds deadline).bind ?_ (fun e _ ⟨_, h, _⟩ => nomatch h)
  rintro requestDeadline _ ⟨_, _, rfl⟩
  refine Traced.holds_query_bind fun now => Traced.holds_tell_bind ?_
  split
  · refine Traced.holds_raise fun e he => ?_
    cases he
    rfl
  refine Traced.holds_ofExcept_bind (fun found hfound => ?_) (fun e he => ?_)
  rotate_left
  · rw [hmodel] at he
    cases he
  rw [hmodel] at hfound
  cases hfound
  refine (service.correlationId_holds requestId).bind ?_ (fun e _ ⟨_, h, _⟩ => nomatch h)
  rintro id _ ⟨_, hok, rfl, hid⟩
  refine Traced.holds_attempt_bind (service.generateModel_raisesException hadapters model request
    requestDeadline id requestMode) ?_
  intro outcome calls houtcome
  have hrecord : ∀ event, (service.record event requestDeadline).Holds
      fun r _ => ∃ u, r = .ok u :=
    fun event s => service.record_returns htelemetry event requestDeadline s
  cases outcome with
  | ok response =>
    refine (hrecord _).bind (fun _ _ _ => Traced.holds_pure houtcome) ?_
    rintro e _ ⟨_, he⟩
    cases he
  | error e =>
    dsimp only
    split
    · refine Traced.holds_query_bind fun duration => ?_
      refine (hrecord _).bind (fun _ _ _ => Traced.holds_raise houtcome) ?_
      rintro e' _ ⟨_, he⟩
      cases he
    · exact Traced.holds_raise houtcome

/-! ## The record of an attempt -/

/-- An outcome and its event: a response of the registered model with an event that carries its usage,
latency and cost, or one of the five normalized errors with an event of a category. -/
def TrueOutcome (model : ModelConfig) :
    Except Exc InferenceResponse → TelemetryEvent → Prop
  | .ok response, event =>
    response.modelId = model.modelId ∧ response.provider = model.provider ∧ event.success = true ∧
      event.inputTokens = some response.inputTokens ∧
      event.outputTokens = some response.outputTokens ∧ event.latencyMs = response.latencyMs ∧
      event.estimatedCostUsd = some response.estimatedCostUsd
  | .error e, event =>
    e.isInstanceOf normalizedErrors = true ∧ event.success = false ∧
      ∃ category, event.errorCategory = some category ∧ category ≠ ""

/-- A call that left exactly one event, of its outcome, and one metric if and only if it resolved its
adapter. -/
structure RecordedOnce (model : ModelConfig) (r : Except Exc InferenceResponse)
    (calls : List InferenceCall) : Prop where
  event : ∃ event, handedEvents calls = [event] ∧ TrueOutcome model r event
  metric : (providerAttempts calls).length = if calls.any (·.resolved) then 1 else 0

theorem GatewayErrorCategory.value_ne_empty (c : GatewayErrorCategory) : c.value ≠ "" := by
  cases c <;> decide

/-- A category of the telemetry is not empty. -/
theorem categoryIn_ne_empty (e : Exc) : e.categoryIn telemetryCategories ≠ "" := by
  unfold Exc.categoryIn
  cases e.gatewayCategory? with
  | some c => exact GatewayErrorCategory.value_ne_empty c
  | none =>
    cases hfound : telemetryCategories.find? fun entry => e.isInstance entry.1 with
    | none => exact fun h => nomatch h
    | some entry =>
      have hnonempty : ∀ entry ∈ telemetryCategories, entry.2 ≠ "" := by
        simp [telemetryCategories]
      exact hnonempty entry (List.mem_of_find?_eq_some hfound)

/-- The event of an outcome is true to it. -/
theorem EventOf.trueOutcome {model : ModelConfig} {request : InferenceRequest} {requestId : String}
    {r : Except Exc InferenceResponse} {event : TelemetryEvent}
    (h : EventOf model request requestId r event) : TrueOutcome model r event := by
  cases h with
  | returned response h => exact ⟨h.1, h.2, rfl, rfl, rfl, rfl, rfl⟩
  | raised e duration h => exact ⟨h, rfl, _, rfl, categoryIn_ne_empty e⟩

/-- Reports of the write are no events and no metrics. -/
theorem writeReports {reports : List InferenceCall} (h : ∀ c ∈ reports, c.writeReport = true) :
    handedEvents reports = [] ∧ providerAttempts reports = [] ∧
      reports.any (·.resolved) = false := by
  induction reports with
  | nil => exact ⟨rfl, rfl, rfl⟩
  | cons c reports ih =>
    have hc := h c (.head _)
    obtain ⟨hevents, hattempts, hresolved⟩ := ih fun d hd => h d (.tail _ hd)
    cases c with
    | telemetryWrite | telemetryWriteFailed => exact ⟨hevents, hattempts, hresolved⟩
    | expired | resolve | providerAttempt | recordTelemetry => cases hc

/-- A call that started in time and was not cancelled is recorded once. -/
theorem Generated.recordedOnce {model : ModelConfig} {request : InferenceRequest}
    {requestId : Option String} {r : Except Exc InferenceResponse} {calls : List InferenceCall}
    (h : Generated model request requestId r calls) (hentered : EnteredInTime calls)
    (hlive : ¬ Cancelled r) : RecordedOnce model r calls := by
  cases h with
  | late => exact absurd (hentered _ (.head _)) (fun h => nomatch h)
  | cancelled h => exact absurd h hlive
  | @ended _ front reports id hid event hevent hfront hreports =>
    obtain ⟨hevents, hattempts, hresolved⟩ := writeReports hreports
    have hsplit : handedEvents (.expired false :: (front ++ .recordTelemetry event :: reports)) =
        handedEvents front ++ event :: handedEvents reports := List.filterMap_append
    have hmetrics : providerAttempts (.expired false :: (front ++ .recordTelemetry event :: reports)) =
        providerAttempts front ++ providerAttempts reports := List.filterMap_append
    have hany : (InferenceCall.expired false :: (front ++ .recordTelemetry event :: reports)).any
        (·.resolved) = front.any (·.resolved) := by
      rw [List.any_cons, List.any_append, List.any_cons, hresolved]
      exact Bool.or_false _
    rw [hevents] at hsplit
    rw [hattempts, List.append_nil] at hmetrics
    refine ⟨⟨event, ?_, hevent.trueOutcome⟩, ?_⟩
    · rw [hsplit]
      cases hfront <;> rfl
    · rw [hmetrics, hany]
      cases hfront with
      | interrupted modelId h => exact absurd h hlive
      | disabled | unresolved | attempted => rfl

/-- The service without its telemetry. -/
def silent : InferenceService σ := { service with telemetry := none }

theorem silent_raisesExceptions : service.silent.TelemetryRaisesExceptions :=
  fun _ h => nomatch h

/-- A call as it would go without `_record`. -/
def generateUnrecorded (modelId : String) (request : InferenceRequest) (requestId : Option String)
    (deadline : Option RequestDeadline) (requestMode : RequestMode) : Act σ InferenceResponse := do
  let requestDeadline ← service.deadlineOrNew deadline
  let now ← .query service.clock
  .tell [.expired (requestDeadline.expired now)]
  if requestDeadline.expired now then .raise deadlineExceeded
  else do
    let model ← .ofExcept (service.registry.get modelId)
    let correlationId ← service.correlationId requestId
    let outcome ← .attempt
      (service.generateModel model request requestDeadline correlationId requestMode)
    .ofExcept outcome

/-- Recording changes no result. -/
theorem generate_agrees_unrecorded (htelemetry : service.TelemetryRaisesExceptions)
    (modelId : String) (request : InferenceRequest) (requestId : Option String)
    (deadline : Option RequestDeadline) (requestMode : RequestMode) :
    Traced.Agrees (service.generate modelId request requestId deadline requestMode)
      (service.generateUnrecorded modelId request requestId deadline requestMode) := by
  refine Traced.Agrees.bind _ fun requestDeadline => Traced.Agrees.bind _ fun now =>
    Traced.Agrees.bind _ fun _ => ?_
  split
  · exact Traced.Agrees.refl _
  refine Traced.Agrees.bind _ fun model => Traced.Agrees.bind _ fun id =>
    Traced.Agrees.bind _ fun outcome => ?_
  cases outcome with
  | ok response =>
    exact Traced.agrees_then_pure (service.record_returns htelemetry _ requestDeadline) response
  | error e =>
    dsimp only
    split
    · exact fun s => Traced.agrees_then_raise (service.record_returns htelemetry _ requestDeadline) e
        (service.durationSeconds s).2
    · exact Traced.Agrees.refl _

/-- A call to a registered model whose adapters and telemetry raise `Exception`s only: unless the
deadline has expired at its entry, it is recorded once; and it returns or raises what it would
without the telemetry. -/
theorem generate_recorded_once {modelId : String} {model : ModelConfig}
    (hmodel : service.registry.get modelId = .ok model)
    (hadapters : AdaptersRaiseExceptions service.resolver)
    (htelemetry : service.TelemetryRaisesExceptions) (request : InferenceRequest)
    (requestId : Option String) (deadline : Option RequestDeadline) (requestMode : RequestMode)
    (s : σ) :
    (EnteredInTime (service.generate modelId request requestId deadline requestMode s).2.2 →
      RecordedOnce model (service.generate modelId request requestId deadline requestMode s).1
        (service.generate modelId request requestId deadline requestMode s).2.2) ∧
      (service.generate modelId request requestId deadline requestMode s).1 =
        (service.silent.generate modelId request requestId deadline requestMode s).1 := by
  constructor
  · intro hentered
    refine (service.generate_generated hmodel request requestId deadline requestMode s).recordedOnce
      hentered ?_
    rintro ⟨e, he, hcancelled⟩
    have hexception := service.generate_raisesException hadapters htelemetry hmodel request requestId
      deadline requestMode s e he
    rw [hexception] at hcancelled
    cases hcancelled
  · have hloud := service.generate_agrees_unrecorded htelemetry modelId request requestId deadline
      requestMode
    have hsilent := service.silent.generate_agrees_unrecorded service.silent_raisesExceptions modelId
      request requestId deadline requestMode
    exact (hloud.trans hsilent.symm) s

/-- A call of the sample model, from the clock reading zero. -/
def sampleCall (provider : Provider ℚ) : Except Exc InferenceResponse × ℚ × List InferenceCall :=
  (sample provider).generate ModelConfig.sample.modelId.value .sample none none .explicit 0

theorem sample_adaptersRaiseExceptions {provider : Provider ℚ}
    (h : ∀ request timeout s, RaisesException (provider request timeout s).1) :
    AdaptersRaiseExceptions (sample provider).resolver := by
  intro entry hentry model s
  cases List.mem_singleton.mp hentry
  refine ⟨(fun e he => nomatch he), fun found hfound => ?_⟩
  cases hfound
  exact h

/-- A prompt answer is recorded once. -/
theorem generate_recorded_once_sample :
    RecordedOnce .sample (sampleCall promptProvider).1 (sampleCall promptProvider).2.2 :=
  ((sample promptProvider).generate_recorded_once (ModelRegistry.get_of_mem (.head _))
    (sample_adaptersRaiseExceptions fun _ _ _ _ he => nomatch he) (fun _ h => nomatch h) .sample none
    none .explicit 0).1 (by decide +kernel)

/-- An adapter that leaves through a `BaseException`, as `SystemExit` is. -/
def exitingProvider : Provider ℚ := fun _ _ s => (.error (.raised .baseException ""), s)

/-- The exception passes every handler: the adapter was resolved in time and not cancelled, and the
call leaves no event and no metric. -/
theorem exiting_adapter_unrecorded :
    EnteredInTime (sampleCall exitingProvider).2.2 ∧
      (sampleCall exitingProvider).2.2.any (·.resolved) = true ∧
      (handedEvents (sampleCall exitingProvider).2.2).length = 0 ∧
      (providerAttempts (sampleCall exitingProvider).2.2).length = 0 ∧
      ¬ RecordedOnce .sample (sampleCall exitingProvider).1 (sampleCall exitingProvider).2.2 := by
  have hnone : (handedEvents (sampleCall exitingProvider).2.2).length = 0 := by decide +kernel
  refine ⟨by decide +kernel, by decide +kernel, hnone, by decide +kernel, ?_⟩
  intro hrecorded
  obtain ⟨event, hevent, _⟩ := hrecorded.event
  rw [hevent] at hnone
  cases hnone

end InferenceService

end RouteLLM
