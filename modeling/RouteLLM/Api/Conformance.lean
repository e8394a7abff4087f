import RouteLLM.Api.Correlation
import RouteLLM.Api.ServiceErrors
import RouteLLM.Application.InferenceRecord

/-!
# What an inference request is answered

A request to an inference endpoint is answered with a result or with a documented error under the request's
own id, or it ends in something that is no `Exception`; the internal error of the last handler is never the
answer. No service is called before the limiter has admitted the request, and what the middleware reports at
the end is what the client is told. `serve_served` carries this from an endpoint over the middleware,
`admitted_ends` from a service over the limiter.
-/

namespace RouteLLM

/-! ## The admission -/

/-- What the limiter does with a request: it admits it, it raises an error without a wait, or it rejects
the request, reports that, and tells a wait of at least a second. -/
inductive Decided : Except AdmissionError Unit → List RateLimitRejection → Prop
  | granted : Decided (.ok ()) []
  | refused (e : AdmissionError) (h : e = .inferenceDeadlineExceeded ∨ e = .rateLimitUnavailable) :
      Decided (.error e) []
  | rejected (retryAfterSeconds : ℤ) (h : 1 ≤ retryAfterSeconds) (scope : RateLimitScope)
      (route : String) :
      Decided (.error (.rateLimitExceeded retryAfterSeconds scope)) [⟨scope, route⟩]

namespace RedisRateLimiter

theorem admitReply_decided (kind : InferenceKind) (reply : List ℤ) :
    Decided (admitReply kind reply).1 (admitReply kind reply).2 := by
  match reply with
  | [] | [_] => exact .refused _ (.inr rfl)
  | admitted :: retryMs :: rest =>
    rw [admitReply]
    split
    · exact .granted
    split
    · exact .refused _ (.inr rfl)
    split
    · exact .refused _ (.inr rfl)
    · exact .rejected _ (le_max_left _ _) _ _

theorem admitRequest_decided (settings : RateLimitSettings) (kind : InferenceKind)
    (deadline : RequestDeadline) (now : ℚ) (eval : ℚ → EvalOutcome) :
    Decided (admitRequest settings kind deadline now eval).1
      (admitRequest settings kind deadline now eval).2 := by
  rw [admitRequest]
  split
  · exact .refused _ (.inl rfl)
  split
  · exact admitReply_decided kind _
  · refine .refused _ ?_
    split_ifs
    · exact .inl rfl
    · exact .inr rfl
  · exact .refused _ (.inr rfl)

end RedisRateLimiter

theorem RedisLimiter.admitRequest_holds {σ : Type} (limiter : RedisLimiter σ) (client : String)
    (kind : InferenceKind) (deadline : RequestDeadline) :
    (limiter.admitRequest client kind deadline).Holds Decided := by
  intro s
  have h := limiter.admitRequest_eq client kind deadline s
  rw [Prod.ext_iff] at h
  rw [h.1, h.2]
  exact RedisRateLimiter.admitRequest_decided _ _ _ _ _

namespace GatewayApp

variable {σ α : Type} (app : GatewayApp σ)

/-- Either limiter decides. -/
theorem admitClient_holds (client : String) (kind : InferenceKind) (deadline : RequestDeadline) :
    (app.admitClient client kind deadline).Holds Decided := by
  rw [admitClient]
  split
  · refine Traced.holds_query_bind fun now => ?_
    split
    · exact Traced.holds_raise (.refused _ (.inl rfl))
    · exact Traced.holds_pure .granted
  · exact RedisLimiter.admitRequest_holds _ client kind deadline

/-! ## An endpoint -/

/-- A call of a service. -/
def ofService : ApiCall → Bool
  | .inference _ | .adaptive _ | .chat _ => true
  | _ => false

/-- A call of a service that names no other request than this one. -/
def OwnCall (id : String) (call : ApiCall) : Prop :=
  ofService call = true ∧ NamesRequest ApiCall.requestId? id call

/-- What an endpoint records before it fails, with the wait that its answer tells: nothing, where the
request is refused before the limiter; the decision of the limiter; or a granted admission, and calls of
services for the request after it. -/
inductive Before (client : String) (kind : InferenceKind) (id : String) : List ApiCall → Option ℤ → Prop
  | refused : Before client kind id [] none
  | unadmitted : Before client kind id [.admission client kind false] none
  | rejected (rejection : RateLimitRejection) (retryAfterSeconds : ℤ) (h : 1 ≤ retryAfterSeconds) :
      Before client kind id [.rejection rejection, .admission client kind false] (some retryAfterSeconds)
  | admitted (own : List ApiCall) (h : ∀ call ∈ own, OwnCall id call) :
      Before client kind id (.admission client kind true :: own) none

/-- How an endpoint ends: with a value, after a granted admission, or with an exception that is answered. -/
inductive Ends (client : String) (kind : InferenceKind) (id : String) (good : α → Prop) :
    Except ApiExc α → List ApiCall → Prop
  | returned {value : α} (hvalue : good value) (own : List ApiCall) (h : ∀ call ∈ own, OwnCall id call) :
      Ends client kind id good (.ok value) (.admission client kind true :: own)
  | raised {e : ApiExc} (he : e.Answerable) {calls : List ApiCall}
      (h : Before client kind id calls e.retryAfterSeconds?) : Ends client kind id good (.error e) calls

/-- What a service under a granted admission does. -/
def ServiceEnds (id : String) (good : α → Prop) (r : Except ApiExc α) (calls : List ApiCall) : Prop :=
  (∀ call ∈ calls, OwnCall id call) ∧ (∀ value, r = .ok value → good value) ∧
    ∀ e, r = .error e → e.Answerable ∧ e.retryAfterSeconds? = none

variable {app} {good : α → Prop}

/-- A request that is refused before the limiter. -/
theorem ends_refused {client : String} {kind : InferenceKind} {id : String} {e : ApiExc} (he : e.Answerable)
    (hretry : e.retryAfterSeconds? = none) : Ends client kind id good (.error e) [] := by
  refine .raised he ?_
  rw [hretry]
  exact .refused

/-- What the limiter raises is answered. -/
theorem admission_answerable (e : AdmissionError) : (ApiExc.admission e).Answerable := by
  cases e with
  | inferenceDeadlineExceeded =>
    exact ApiExc.answerable_of_registered
      (ApiExc.registered_of_mem (c := .inferenceDeadlineExceededError) (by decide) rfl)
  | rateLimitUnavailable =>
    exact ApiExc.answerable_of_registered
      (ApiExc.registered_of_mem (c := .rateLimitUnavailableError) (by decide) rfl)
  | rateLimitExceeded =>
    exact ApiExc.answerable_of_registered
      (ApiExc.registered_of_mem (c := .rateLimitExceededError) (by decide) rfl)

/-- **A service under the limiter.** -/
theorem admitted_ends {execute : RequestDeadline → Act σ α}
    {id : String} (hexecute : ∀ deadline, (execute deadline).Holds (ServiceEnds id good))
    (client : Option String) (kind : InferenceKind) :
    (app.admitted client kind execute).Holds (Ends (effectiveClient client) kind id good) := by
  refine Traced.holds_query_bind fun now => ?_
  refine Traced.holds_attempt_bind (app.admitClient_holds _ _ _).translate ?_
  rintro _ _ ⟨_, _, rfl, rfl, hdecided⟩
  cases hdecided with
  | granted =>
    refine Traced.holds_tell_bind (Traced.holds_ofExcept_bind (fun _ _ => ?_) (fun _ h => nomatch h))
    refine (hexecute _).mono ?_
    rintro (e | value) own ⟨hown, hvalue, he⟩
    · obtain ⟨hanswerable, hretry⟩ := he e rfl
      refine .raised hanswerable ?_
      rw [hretry]
      exact .admitted own hown
    · exact .returned (hvalue value rfl) own hown
  | refused e h =>
    refine Traced.holds_tell_bind (Traced.holds_ofExcept_bind (fun _ h => nomatch h) ?_)
    rintro _ ⟨⟩
    refine .raised (admission_answerable e) ?_
    rcases h with rfl | rfl
    · exact .unadmitted
    · exact .unadmitted
  | rejected retryAfterSeconds h scope route =>
    refine Traced.holds_tell_bind (Traced.holds_ofExcept_bind (fun _ h => nomatch h) ?_)
    rintro _ ⟨⟩
    exact .raised (admission_answerable _) (.rejected _ _ h)

/-- What a service raises is answered without a wait. -/
theorem answerable_translate {β : Type} {r : Except Exc β} (h : Answers r) {e : ApiExc}
    (he : r.mapError .service = .error e) : e.Answerable ∧ e.retryAfterSeconds? = none := by
  cases r with
  | ok value => cases he
  | error e' =>
    cases he
    exact ⟨h e' rfl, rfl⟩

/-! ## The middleware -/

/-- The id of a request: the supplied one, if exactly one is supplied and it is well formed, or else that
of a fresh UUID. -/
inductive IdOf : List String → String → Prop
  | supplied {id : String} (h : requestIdMatches id = true) : IdOf [id] id
  | fresh (uuid : Uuid) : IdOf [] uuid.text

/-- How a request ends, and what has been recorded of it: its start, what the endpoint has recorded, and a
report of the status that is answered. -/
inductive Served (client : String) (kind : InferenceKind) (good : String → α → Prop)
    (route method : String) (supplied : List String) :
    Except ApiExc (HttpResponse α) → List ApiCall → Prop
  | refusedId (uuid : Uuid) (h : ∀ id, ¬ IdOf supplied id) :
      Served client kind good route method supplied
        (.ok (errorResponse uuid.text invalidRequestId none))
        (.httpStarted route :: finishedCalls route method uuid.text invalidRequestId.status)
  | returned {id : String} (hid : IdOf supplied id) {value : α} (hvalue : good id value)
      (own : List ApiCall) (h : ∀ call ∈ own, OwnCall id call) :
      Served client kind good route method supplied
        (.ok { status := 200, body := .inl value, requestId := id })
        (.httpStarted route :: (.admission client kind true :: own) ++
          finishedCalls route method id 200)
  | failed {id : String} (hid : IdOf supplied id) {answer : ErrorAnswer}
      (hanswer : DocumentedAnswer answer) {calls : List ApiCall} {retryAfter : Option ℤ}
      (h : Before client kind id calls retryAfter) :
      Served client kind good route method supplied (.ok (errorResponse id answer retryAfter))
        (.httpStarted route :: calls ++ finishedCalls route method id answer.status)
  | interrupted {id : String} (hid : IdOf supplied id) {e : ApiExc}
      (he : e.isInstance .exception = false) {calls : List ApiCall} {retryAfter : Option ℤ}
      (h : Before client kind id calls retryAfter) :
      Served client kind good route method supplied (.error e)
        (.httpStarted route :: calls ++
          if e.isInstance .cancelledError then cancelledCalls route method id
          else finishedCalls route method id 500)

/-- A well-formed supplied id has 1 to 128 characters. -/
theorem recordableId_of_matches {id : String} (h : requestIdMatches id = true) : RecordableId id := by
  rw [requestIdMatches] at h
  rw [RecordableId, ← String.length_toList]
  split at h
  · cases h
  · rename_i c rest heq
    simp only [Bool.and_eq_true, decide_eq_true_eq] at h
    rw [heq, List.length_cons]
    omega

theorem ne_empty_of_recordableId {id : String} (h : RecordableId id) : id ≠ "" := by
  rintro rfl
  exact absurd h.1 (by decide)

/-- The id of a request has 1 to 128 characters. -/
theorem IdOf.recordable {supplied : List String} {id : String} (h : IdOf supplied id) :
    RecordableId id := by
  cases h with
  | supplied h => exact recordableId_of_matches h
  | fresh uuid =>
    rw [RecordableId, uuid.length_eq]
    decide

/-- An endpoint under its handlers. -/
theorem callNext_holds {endpoint : String → Act σ α} {client : String} {kind : InferenceKind}
    {good : String → α → Prop} {id : String}
    (h : (endpoint id).Holds (Ends client kind id (good id))) :
    (callNext endpoint id).Holds fun r calls =>
      (∃ value own, r = .ok { status := 200, body := .inl value, requestId := id } ∧ good id value ∧
          calls = .admission client kind true :: own ∧ ∀ call ∈ own, OwnCall id call) ∨
        ∃ retryAfter, Before client kind id calls retryAfter ∧
          ((∃ answer, DocumentedAnswer answer ∧ r = .ok (errorResponse id answer retryAfter)) ∨
            ∃ e, e.isInstance .exception = false ∧ r = .error e) := by
  refine Traced.holds_attempt_bind h ?_
  rintro outcome calls hends
  cases hends with
  | returned hvalue own hown =>
    refine Traced.holds_pure (.inl ⟨_, own, rfl, hvalue, ?_, hown⟩)
    rw [List.append_nil]
  | @raised e he _ hbefore =>
    dsimp only
    split
    · rename_i answer hanswer
      obtain ⟨hdocumented, hretry⟩ := handlerAnswer?_documented hanswer
      refine Traced.holds_pure (.inr ⟨answer.2, ?_, .inl ⟨answer.1, hdocumented, rfl⟩⟩)
      rw [List.append_nil, hretry]
      exact hbefore
    · rename_i hnone
      refine Traced.holds_raise (.inr ⟨e.retryAfterSeconds?, ?_, .inr ⟨e, ?_, rfl⟩⟩)
      · rw [List.append_nil]
        exact hbefore
      · exact he.resolve_left (by simp [hnone])

/-- An endpoint under the middleware, once the id of the request is known. -/
theorem identified_served {endpoint : String → Act σ α} {client : String} {kind : InferenceKind}
    {good : String → α → Prop} {supplied : List String} (route method : String) {id : String}
    (hid : IdOf supplied id) (h : (endpoint id).Holds (Ends client kind id (good id))) :
    (identified route method endpoint id).Holds fun r calls =>
      Served client kind good route method supplied r (.httpStarted route :: calls) := by
  refine Traced.holds_attempt_bind (callNext_holds h) ?_
  rintro outcome calls (⟨value, own, rfl, hvalue, rfl, hown⟩ |
    ⟨retryAfter, hbefore, ⟨answer, hanswer, rfl⟩ | ⟨e, he, rfl⟩⟩)
  · refine Traced.holds_tell_bind (Traced.holds_pure ?_)
    rw [List.append_nil]
    exact .returned hid hvalue own hown
  · refine Traced.holds_tell_bind (Traced.holds_pure ?_)
    rw [List.append_nil]
    exact .failed hid hanswer hbefore
  · dsimp only
    refine Traced.holds_tell_bind ?_
    rw [if_neg (by simp [he])]
    refine Traced.holds_raise ?_
    rw [List.append_nil]
    exact .interrupted hid he hbefore

/-- The id that the middleware settles on, if it accepts what is supplied. -/
theorem idOf_of_suppliedId {supplied : List String} {given : Option String}
    (h : suppliedId supplied = .ok given) (uuid : Uuid) : IdOf supplied (given.getD uuid.text) := by
  match supplied with
  | [] =>
    cases h
    exact .fresh uuid
  | [id] =>
    rw [suppliedId] at h
    split at h
    · rename_i hmatches
      cases h
      exact .supplied hmatches
    · cases h
  | _ :: _ :: _ => cases h

/-- Nothing is the id of a request whose supplied ids are refused. -/
theorem not_idOf_of_suppliedId {supplied : List String} (h : suppliedId supplied = .error ()) (id : String) :
    ¬ IdOf supplied id := by
  rintro (hmatches | uuid)
  · rw [suppliedId, if_pos hmatches] at h
    cases h
  · cases h

/-- **An endpoint under the middleware.** -/
theorem serve_served {endpoint : String → Act σ α} {client : String} {kind : InferenceKind}
    {good : String → α → Prop} {supplied : List String} (route method : String)
    (h : ∀ id, IdOf supplied id → (endpoint id).Holds (Ends client kind id (good id))) :
    (app.serve route method supplied endpoint).Holds
      (Served client kind good route method supplied) := by
  refine Traced.holds_tell_bind (Traced.holds_query_bind fun uuid => ?_)
  split
  · rename_i hrefused
    refine Traced.holds_tell_bind (Traced.holds_pure ?_)
    rw [List.append_nil]
    exact .refusedId uuid (not_idOf_of_suppliedId hrefused)
  · rename_i given hgiven
    have hid := idOf_of_suppliedId hgiven uuid
    exact identified_served route method hid (h _ hid)

/-! ## The endpoints -/

/-- A check before the limiter. -/
theorem check_ends {β : Type} {check : Except ApiExc β} {f : β → Act σ α} {client : String}
    {kind : InferenceKind} {id : String}
    (hcheck : ∀ e, check = .error e → e.Answerable ∧ e.retryAfterSeconds? = none)
    (hf : ∀ b, check = .ok b → (f b).Holds (Ends client kind id good)) :
    (Traced.ofExcept check >>= f).Holds (Ends client kind id good) :=
  Traced.holds_ofExcept_bind hf fun e he => ends_refused (hcheck e he).1 (hcheck e he).2

/-- An exception of a registered class of the services. -/
theorem service_answerable {e : Exc} {c : ExcClass} (hc : ApiErrorClass.known c ∈ apiErrors.map (·.1))
    (h : e.isInstance c = true) : (ApiExc.service e).Answerable ∧
      (ApiExc.service e).retryAfterSeconds? = none := ⟨answerable_of_class hc h, rfl⟩

theorem validPayload_error {π : Type} {payload : Option π} (e : ApiExc)
    (h : validPayload payload = .error e) : e.Answerable ∧ e.retryAfterSeconds? = none := by
  cases payload with
  | some p => cases h
  | none =>
    cases h
    exact ⟨.inl rfl, rfl⟩

theorem validPayload_eq_ok {π : Type} {payload : Option π} {p : π} (h : validPayload payload = .ok p) :
    payload = some p := by
  cases payload with
  | some found =>
    cases h
    rfl
  | none => cases h

theorem validateRequest_error {limits : RequestLimitSettings} {request : InferenceRequest} (e : ApiExc)
    (h : limits.validateRequest request = .error e) : e.Answerable ∧ e.retryAfterSeconds? = none := by
  obtain ⟨reason, rfl⟩ : ∃ reason, e = .requestLimitExceeded reason := by
    rw [RequestLimitSettings.validateRequest] at h
    split_ifs at h
    · cases h
      exact ⟨_, rfl⟩
    · cases h
      exact ⟨_, rfl⟩
  have hregistered : (ApiExc.requestLimitExceeded reason).registered = true := by rfl
  exact ⟨ApiExc.answerable_of_registered hregistered, rfl⟩

/-- The execution metadata of one to three attempts. -/
theorem publicExecution_ok {execution : Option AdaptiveExecution}
    (h : ∀ e ∈ execution, 0 < e.attempts.length ∧ e.attempts.length ≤ 3) :
    ∃ metadata, publicExecution execution = .ok metadata := by
  cases execution with
  | none => exact ⟨_, rfl⟩
  | some e => exact ⟨_, dif_pos (h e rfl)⟩

/-- Translated calls of a service for a request. -/
theorem ownCalls_of_names {τ : Type} {g : τ → ApiCall} {name? : τ → Option String} {id : String}
    {calls : List τ} (hg : ∀ call, ofService (g call) = true ∧ (g call).requestId? = name? call)
    (h : ∀ call ∈ calls, NamesRequest name? id call) : ∀ call ∈ calls.map g, OwnCall id call := by
  intro call hcall
  obtain ⟨inner, hinner, rfl⟩ := List.mem_map.mp hcall
  refine ⟨(hg inner).1, ?_⟩
  rw [NamesRequest, (hg inner).2]
  exact h inner hinner

/-- A service that names its request only, answers what it raises, and of whose results the endpoint makes
a value. -/
theorem service_ends {β τ : Type} {x : Traced Exc σ τ β} {g : τ → ApiCall} {name? : τ → Option String}
    {id : String} {returned : β → Prop}
    (hg : ∀ call, ofService (g call) = true ∧ (g call).requestId? = name? call)
    (hnames : x.Emits (NamesRequest name? id))
    (hx : x.Holds fun r _ => Answers r ∧ ∀ b, r = .ok b → returned b) {f : β → Act σ α}
    (hf : ∀ b, returned b → ∃ value, good value ∧ f b = pure value) :
    (Traced.translate .service g x >>= f).Holds (ServiceEnds id good) := by
  refine Traced.Holds.bind (hnames.holds.and hx).translate ?_ ?_
  · rintro b _ ⟨r, calls, hr, rfl, hcalls, -, hreturned⟩
    cases r with
    | error e => cases hr
    | ok b =>
      cases hr
      obtain ⟨value, hvalue, heq⟩ := hf b (hreturned b rfl)
      rw [heq]
      refine Traced.holds_pure ⟨?_, ?_, fun _ h => nomatch h⟩
      · rw [List.append_nil]
        exact ownCalls_of_names hg hcalls
      · rintro _ ⟨⟩
        exact hvalue
  · rintro e _ ⟨r, calls, hr, rfl, hcalls, he, -⟩
    refine ⟨ownCalls_of_names hg hcalls, (fun _ h => nomatch h), ?_⟩
    rintro _ ⟨⟩
    exact answerable_translate he hr.symm

/-- What a service returns is of its request: within the limits, and under the request's id. -/
def Within {π : Type} (limits : RequestLimitSettings) (request : π → InferenceRequest) (payload : Option π)
    (good : String → π → α → Prop) (id : String) (value : α) : Prop :=
  ∃ p, payload = some p ∧ limits.validateRequest (request p) = .ok () ∧ good id p value

/-! ### Explicit inference -/

/-- A result of `/v1/inference`: a response of the model that was asked for. -/
def InferenceValue (id : String) (payload : InferencePayload) (value : InferenceResult) : Prop :=
  value.requestId = id ∧ value.response.modelId = payload.modelId

/-- The endpoint `/v1/inference`. -/
theorem inference_ends (payload : Option InferencePayload) (client : Option String) (id : String) :
    (app.inference payload client id).Holds (Ends (effectiveClient client) .explicit id
      (Within app.requestLimits InferencePayload.toInferenceRequest payload InferenceValue id)) := by
  refine check_ends validPayload_error fun p hp => ?_
  refine check_ends validateRequest_error fun _ hlimits => ?_
  refine admitted_ends (fun deadline => ?_) client .explicit
  refine service_ends (fun _ => ⟨rfl, rfl⟩)
    (app.inferenceService.generate_names p.modelId.value p.toInferenceRequest id deadline .explicit)
    (app.inferenceService.generate_outcome p.modelId.value p.toInferenceRequest (some id) (some deadline)
      .explicit) fun response hresponse => ⟨_, ?_, rfl⟩
  exact ⟨p, validPayload_eq_ok hp, hlimits, rfl, Identifier.ext hresponse⟩

/-- A request within the limits of the application. -/
def Admits (app : GatewayApp σ) (request : InferenceRequest) : Prop :=
  app.requestLimits.validateRequest request = .ok ()

/-- The runtimes of the application are configured. -/
structure Configured (app : GatewayApp σ) : Prop where
  adaptive : ∀ runtime ∈ app.adaptiveRuntime, runtime.Configured app.inferenceService app.Admits
  chat : ∀ chat ∈ app.chatService, ∀ runtime ∈ chat.adaptiveRuntime,
    runtime.Configured chat.inferenceService app.Admits

/-- What is not configured is answered. -/
theorem configured_error {β : Type} {component : Option β} {message : String} (e : ApiExc)
    (h : configured component message = .error e) : e.Answerable ∧ e.retryAfterSeconds? = none := by
  cases component with
  | some found => cases h
  | none =>
    cases h
    exact service_answerable (c := .adaptiveRoutingUnavailableError) (by decide) rfl

theorem configured_eq_ok {β : Type} {component : Option β} {message : String} {found : β}
    (h : configured component message = .ok found) : found ∈ component := by
  cases component with
  | some component =>
    cases h
    rfl
  | none => cases h

/-- A result of `/v1/inference/adaptive`. -/
def AdaptiveValue (id : String) (_ : AdaptiveInferencePayload) (value : PublicAdaptiveResult) : Prop :=
  value.requestId = id

/-- The endpoint `/v1/inference/adaptive`. -/
theorem adaptiveInference_ends (h : app.Configured) (payload : Option AdaptiveInferencePayload)
    (client : Option String) {id : String} (hid : RecordableId id) :
    (app.adaptiveInference payload client id).Holds (Ends (effectiveClient client) .adaptive id
      (Within app.requestLimits AdaptiveInferencePayload.toInferenceRequest payload AdaptiveValue id)) := by
  refine check_ends configured_error fun runtime hruntime => ?_
  have hconfigured := h.adaptive runtime (configured_eq_ok hruntime)
  refine check_ends validPayload_error fun p hp => ?_
  refine check_ends validateRequest_error fun _ hlimits => ?_
  split
  · have hthreshold := service_answerable (e := .raised .invalidQualityThresholdError
      "unapproved production threshold") (c := .invalidQualityThresholdError) (by decide) rfl
    exact Traced.holds_raise (ends_refused hthreshold.1 hthreshold.2)
  refine admitted_ends (fun deadline => ?_) client .adaptive
  have hadmits : app.Admits p.toInferenceRequest := hlimits
  have hanswers := hconfigured.generate_answers hadmits p.category
    runtime.approvedQualityThreshold p.validation hid deadline
  have hattempts := (runtime.service app.inferenceService).generate_attempts_range p.toInferenceRequest
    (some p.category.value) (.float runtime.approvedQualityThreshold)
    (runtime.candidateModelIds.map (·.value)) p.validation false hid.2 deadline
  refine service_ends (fun _ => ⟨rfl, rfl⟩) ((runtime.service app.inferenceService).generate_names _ _ _ _ _ _
    (ne_empty_of_recordableId hid) deadline) (hanswers.and hattempts) fun result hrange => ?_
  obtain ⟨metadata, hmetadata⟩ := publicExecution_ok hrange
  refine ⟨_, ?_, by rw [hmetadata]; rfl⟩
  exact ⟨p, validPayload_eq_ok hp, hlimits, rfl⟩

/-- The kind of admission of a chat request: that of the body, and a body that is refused has none. -/
def chatKind (payload : Option ChatPayload) : InferenceKind :=
  if payload.all fun p => p.routingMode = .auto then .explicit else .adaptive

/-- A result of `/v1/chat`. -/
def ChatValue (id : String) (_ : ChatPayload) (value : ChatResult) : Prop := value.requestId = id

/-- The endpoint `/v1/chat`. -/
theorem chatInference_ends (h : app.Configured) (payload : Option ChatPayload) (client : Option String)
    {id : String} (hid : RecordableId id) :
    (app.chatInference payload client id).Holds (Ends (effectiveClient client) (chatKind payload) id
      (Within app.requestLimits ChatPayload.toInferenceRequest payload ChatValue id)) := by
  refine check_ends configured_error fun chat hchat => ?_
  refine check_ends validPayload_error fun p hp => ?_
  refine check_ends validateRequest_error fun _ hlimits => ?_
  have hkind : chatKind payload = if p.routingMode = .auto then .explicit else .adaptive := by
    rw [validPayload_eq_ok hp]
    simp [chatKind]
  rw [hkind]
  refine admitted_ends (fun deadline => ?_) client _
  have hcategory : p.routingMode = .manual → p.category ≠ none := by
    intro hmanual
    have hfields := p.mode_fields
    rw [hmanual] at hfields
    exact hfields
  have hadmits : app.Admits p.toInferenceRequest := hlimits
  have hends := chat.generate_ends (h.chat chat (configured_eq_ok hchat)) hadmits
    p.routingMode p.category hcategory p.validation hid deadline
  refine service_ends (fun _ => ⟨rfl, rfl⟩) (chat.generate_names _ _ _ _ (ne_empty_of_recordableId hid)
    deadline) hends fun result hrange => ?_
  obtain ⟨metadata, hmetadata⟩ := publicExecution_ok hrange
  refine ⟨_, ?_, by rw [hmetadata]; rfl⟩
  exact ⟨p, validPayload_eq_ok hp, hlimits, rfl⟩

/-- A runtime of the sample model. -/
def sampleRuntime : AdaptiveRuntime ℚ where
  routing := RoutingDecisionService.sampleService
  unfiltered := rfl
  recursionLimit := 1000
  recordAdaptiveExecution := none
  maxValidationAttempts := 2
  attempts_range := by decide
  candidateModelIds := [ModelConfig.sample.modelId]
  approvedQualityThreshold := .finite 1

theorem sampleRuntime_configured (admitted : InferenceRequest → Prop) :
    sampleRuntime.Configured (.sample promptProvider) admitted where
  candidates_nodup := List.nodup_singleton _
  resolvable := by
    intro id _ model hmodel category
    obtain rfl := List.mem_singleton.mp (ModelRegistry.get_eq_ok hmodel).1
    exact ⟨fun _ h => absurd h List.not_mem_nil, Nat.zero_le 1⟩
  predicted _ _ _ _ _ _ _ _ _ := by
    refine ⟨answers_ok _, ?_⟩
    rintro _ ⟨⟩
    exact List.Perm.refl _

/-- An application of the sample model. -/
def sampleApp : GatewayApp ℚ where
  inferenceService := .sample promptProvider
  adaptiveRuntime := some sampleRuntime
  chatService := some { ChatOrchestrationService.sample promptProvider with
    adaptiveRuntime := some sampleRuntime }
  rateLimiter := .redis sampleLimiter
  requestLimits := { prompt_range := by decide, output_range := by decide }

theorem sampleApp_configured : sampleApp.Configured where
  adaptive := by
    rintro _ ⟨⟩
    exact sampleRuntime_configured _
  chat := by
    rintro _ ⟨⟩ _ ⟨⟩
    exact sampleRuntime_configured _

/-- A chat request for a category. -/
def sampleChat : ChatPayload where
  toInferenceRequest := .sample
  routingMode := .manual
  category := some .qa
  mode_fields := nofun

/-- The response to it. -/
def sampleServed : Except ApiExc (HttpResponse ChatResult) × ℚ × List ApiCall :=
  sampleApp.serve "/v1/chat" "POST" ["request-1"] (sampleApp.chatInference (some sampleChat) none) 0

end GatewayApp

end RouteLLM
