import RouteLLM.Api.Errors
import RouteLLM.Application.ChatRecord
import RouteLLM.Routing.Outcome
import RouteLLM.Routing.ThresholdContract

/-!
# The exceptions that leave the services

What `InferenceService.generate`, the adaptive service of a runtime and the chat service raise is answered
by a registered handler, or is no `Exception`. For the adaptive service this rests on its configuration:
a predictor that gives its candidates one prediction each, and output-token policies that name each
canonical category at most once (`AdaptiveRuntime.Configured`).
-/

namespace RouteLLM

variable {σ α : Type}

/-- Whatever a service raises here is answered by a handler, or is no `Exception`. -/
def Answers (r : Except Exc α) : Prop := ∀ e, r = .error e → (ApiExc.service e).Answerable

theorem answers_ok (a : α) : Answers (.ok a : Except Exc α) := fun _ h => nomatch h

theorem answers_error {e : Exc} (h : (ApiExc.service e).Answerable) :
    Answers (.error e : Except Exc α) := by
  rintro _ ⟨⟩
  exact h

theorem Answers.error {β : Type} {e : Exc} (h : Answers (.error e : Except Exc α)) :
    Answers (.error e : Except Exc β) := answers_error (h e rfl)

/-- An exception of a registered class. -/
theorem answerable_of_class {e : Exc} {c : ExcClass} (hc : ApiErrorClass.known c ∈ apiErrors.map (·.1))
    (h : e.isInstance c = true) : (ApiExc.service e).Answerable :=
  ApiExc.answerable_of_registered (ApiExc.registered_of_mem hc h)

/-- A cancellation. -/
theorem answerable_of_cancelled {e : Exc} (h : e.isInstance .exception = false) :
    (ApiExc.service e).Answerable := .inr h

theorem answers_of_cancelled {r : Except Exc α} (h : Cancelled r) : Answers r := by
  obtain ⟨e, rfl, he⟩ := h
  exact answers_error (answerable_of_cancelled he)

/-- The deadline exception of the services. -/
theorem answers_deadlineExceeded :
    Answers (.error AdaptiveInferenceService.deadlineExceeded : Except Exc α) :=
  answers_error (answerable_of_class (c := .inferenceDeadlineExceededError) (by decide) rfl)

namespace InferenceService

variable (service : InferenceService σ)

/-- The classes that the inference service re-raises are registered. -/
theorem known_of_normalized :
    ∀ c ∈ normalizedErrors, ApiErrorClass.known c ∈ apiErrors.map (·.1) := by decide

/-- A normalized outcome is answered. -/
theorem answers_of_normalized {model : ModelConfig} {r : Except Exc InferenceResponse}
    (h : Normalized model r) : Answers r := by
  rintro e rfl
  rcases h with hnormalized | hcancelled
  · obtain ⟨c, hc, he⟩ := List.any_eq_true.mp hnormalized
    exact answerable_of_class (known_of_normalized c hc) he
  · exact answerable_of_cancelled hcancelled

/-- What leaves the inference service is answered, and what it returns is a response of the model that was
asked for. -/
theorem generate_outcome (modelId : String) (request : InferenceRequest) (requestId : Option String)
    (deadline : Option RequestDeadline) (requestMode : RequestMode) :
    (service.generate modelId request requestId deadline requestMode).Holds fun r _ =>
      Answers r ∧ ∀ response, r = .ok response → response.modelId.value = modelId := by
  cases hmodel : service.registry.get modelId with
  | ok model =>
    refine (service.generate_holds hmodel request requestId deadline requestMode).mono fun r _ h =>
      ⟨answers_of_normalized h, ?_⟩
    rintro response rfl
    rw [h.1]
    exact (ModelRegistry.get_eq_ok hmodel).2
  | error e =>
    have hraised {e' : Exc} (h : Answers (.error e' : Except Exc InferenceResponse)) :
        Answers (.error e' : Except Exc InferenceResponse) ∧ ∀ response,
          (.error e' : Except Exc InferenceResponse) = .ok response → response.modelId.value = modelId :=
      ⟨h, fun _ h => nomatch h⟩
    refine (service.deadlineOrNew_holds deadline).bind ?_ (fun _ _ ⟨_, h, _⟩ => nomatch h)
    rintro requestDeadline _ ⟨_, _, rfl⟩
    refine Traced.holds_query_bind fun now => Traced.holds_tell_bind ?_
    split
    · exact Traced.holds_raise (hraised answers_deadlineExceeded)
    · refine Traced.holds_ofExcept_bind (fun model h => ?_) (fun e' he' => hraised ?_)
      · rw [hmodel] at h
        cases h
      · obtain ⟨message, rfl⟩ := ModelRegistry.get_eq_error he'
        exact answers_error (answerable_of_class (c := .modelNotFoundError) (by decide) rfl)

/-- **What leaves the inference service is answered**, whatever model is asked for. -/
theorem generate_answers (modelId : String) (request : InferenceRequest) (requestId : Option String)
    (deadline : Option RequestDeadline) (requestMode : RequestMode) :
    (service.generate modelId request requestId deadline requestMode).Holds fun r _ => Answers r :=
  (service.generate_outcome modelId request requestId deadline requestMode).mono fun _ _ h => h.1

end InferenceService

namespace AdaptiveInferenceService

variable (service : AdaptiveInferenceService σ)

/-- The environment of the runtime: model calls that are answered, and a validator that returns. -/
structure Sound : Prop where
  inference : ∀ modelId request requestId deadline s,
    Answers (service.inference modelId request requestId deadline s).1
  validator : ∀ response contract s, ∃ result, (service.validator response contract s).1 = .ok result
  registry : ∀ modelId, Answers (service.registryGet modelId)

variable {service} (h : service.Sound)
include h

/-- Candidates that cannot be resolved are answered. -/
theorem resolveCandidates_answers (candidateModelIds : List String) :
    Answers (service.resolveCandidates candidateModelIds) := by
  intro e he
  obtain ⟨modelId, -, hmodel⟩ := List.exists_of_mapM_eq_error he
  rcases Except.bind_eq_error.mp hmodel with hget | ⟨model, -, hmodel⟩
  · exact h.registry modelId e hget
  rcases Except.guard_eq_error hmodel with rfl | hmodel
  · exact answerable_of_class (c := .modelDisabledError) (by decide) rfl
  rcases Except.guard_eq_error hmodel with rfl | hmodel
  · exact answerable_of_class (c := .providerUnavailableError) (by decide) rfl
  · cases hmodel

section
variable {run : ValidatedRun} (hrun : run.Bounded) {attempts : List AdaptiveAttempt}
include hrun

/-- What an iteration raises is answered, and the iteration of the last candidate does not go on. -/
theorem attemptStep_answers {attemptNumber : ℕ} (hlen : attempts.length < 3) (h1 : 1 ≤ attemptNumber)
    (h3 : attemptNumber ≤ 3) (modelId : Identifier) :
    (service.attemptStep run attempts attemptNumber modelId).Holds fun r _ => Answers r ∧
      ∀ attempt, r = .ok (.inl attempt) → attemptNumber ≠ run.modelIds.length := by
  have hlen1 (a : AdaptiveAttempt) : 1 ≤ (attempts ++ [a]).length := by simp
  have hlen3 (a : AdaptiveAttempt) : (attempts ++ [a]).length ≤ 3 := by
    rw [List.length_append, List.length_singleton]
    exact hlen
  have hlate : Answers (.error deadlineExceeded : Except Exc (AdaptiveAttempt ⊕ AdaptiveInferenceResult)) ∧
      ∀ attempt, (.error deadlineExceeded : Except Exc (AdaptiveAttempt ⊕ AdaptiveInferenceResult)) =
        .ok (.inl attempt) → attemptNumber ≠ run.modelIds.length :=
    ⟨answers_deadlineExceeded, fun _ h => nomatch h⟩
  refine service.checkDeadline_bind_holds ?_ hlate
  refine Traced.holds_query_bind_of fun s => Traced.holds_tell_bind ?_
  have houtcome := h.inference modelId run.request run.correlationId run.deadline s
  cases hout : completed (service.inference modelId run.request run.correlationId run.deadline s).1 with
  | error e =>
    dsimp only
    rw [completed_eq_error hout] at houtcome
    refine (service.providerFailed_holds hrun h1 h3 e).mono ?_
    rintro r calls ⟨-, hcancelled | ⟨rfl, -⟩⟩
    · refine ⟨answers_of_cancelled hcancelled, ?_⟩
      obtain ⟨e', rfl, -⟩ := hcancelled
      exact fun _ h => nomatch h
    · exact ⟨houtcome.error, fun _ h => nomatch h⟩
  | ok response =>
    dsimp only
    refine service.checkDeadline_bind_holds ?_ hlate
    refine Traced.holds_query_bind_of fun s => Traced.holds_tell_bind ?_
    obtain ⟨result, hresult⟩ := h.validator response run.validation s
    rw [hresult]
    refine Traced.holds_ofExcept_bind (fun found hfound => ?_) (fun _ h => nomatch h)
    cases hfound
    refine service.checkDeadline_bind_holds ?_ hlate
    refine Traced.holds_tell_bind ?_
    split
    · refine (service.returned_holds hrun (hlen1 _) (hlen3 _) response result).bind ?_ ?_
      · exact fun answer _ _ => Traced.holds_pure ⟨answers_ok _, fun _ h => nomatch h⟩
      · rintro e calls ⟨-, hcancelled | ⟨h, -⟩⟩
        · exact ⟨(answers_of_cancelled hcancelled).error, fun _ h => nomatch h⟩
        · cases h
    · split
      · refine (service.validationFailed_holds hrun (hlen1 _) (hlen3 _) result).mono ?_
        rintro r calls ⟨-, hcancelled | ⟨rfl, -⟩⟩
        · refine ⟨answers_of_cancelled hcancelled, ?_⟩
          obtain ⟨e', rfl, -⟩ := hcancelled
          exact fun _ h => nomatch h
        · exact ⟨answers_error (answerable_of_class (c := .responseValidationError) (by decide) rfl),
            fun _ h => nomatch h⟩
      · rename_i hnext
        rw [not_or] at hnext
        exact Traced.holds_pure ⟨answers_ok _, fun _ _ => hnext.2⟩

/-- What the loop raises is answered: it never runs out of candidates. -/
theorem attemptLoop_answers {ids : List Identifier} (hne : ids ≠ []) {attemptNumber : ℕ}
    (h1 : 1 ≤ attemptNumber) (hattempts : attempts.length + ids.length ≤ 3)
    (hlast : attemptNumber + ids.length = run.modelIds.length + 1) (hids : run.modelIds.length ≤ 3) :
    (service.attemptLoop run attempts attemptNumber ids).Holds fun r _ => Answers r := by
  induction ids generalizing attempts attemptNumber with
  | nil => exact absurd rfl hne
  | cons modelId rest ih =>
    rw [List.length_cons] at hattempts hlast
    refine (attemptStep_answers h hrun (by omega) h1 (by omega) modelId).bind ?_
      fun e _ hstep => hstep.1.error
    rintro (attempt | answer) _ ⟨-, hnext⟩
    · have hrest : rest ≠ [] := by
        rintro rfl
        rw [List.length_nil] at hlast
        exact hnext attempt rfl (by omega)
      refine ih hrest (by omega) ?_ (by omega)
      rw [List.length_append, List.length_singleton]
      omega
    · exact Traced.holds_pure (answers_ok _)

end

/-- What a run raises is answered, if what its routing raises is. -/
theorem generate_answers (request : InferenceRequest) (category : Option String)
    (qualityThreshold : ThresholdValue) (candidateModelIds : List String)
    (validation : Option ValidationContract) (structuredOutputRequired : Bool) {requestId : String}
    (hid : 1 ≤ requestId.length ∧ requestId.length ≤ 128) (deadline : RequestDeadline)
    (hrouting : ∀ models, service.resolveCandidates candidateModelIds = .ok models →
      Answers (service.routing.routeWithSnapshot request models qualityThreshold category
        structuredOutputRequired)) :
    (service.generate request category qualityThreshold candidateModelIds validation
      structuredOutputRequired (some requestId) (some deadline)).Holds fun r _ => Answers r := by
  refine Traced.Holds.bind (x := service.deadlineOrNew (some deadline)) (Q := fun r _ => ∃ d, r = .ok d)
    (fun _ => ⟨_, rfl⟩) ?_ (fun _ _ ⟨_, h⟩ => nomatch h)
  intro requestDeadline _ _
  refine service.checkDeadline_bind_holds ?_ answers_deadlineExceeded
  refine Traced.holds_ofExcept_bind (fun models hmodels => ?_) (fun e he => ?_)
  rotate_left
  · exact Answers.error fun _ h' => resolveCandidates_answers h candidateModelIds _ (by rw [he, h'])
  refine Traced.holds_ofExcept_bind (fun routing _ => ?_) (fun e he => ?_)
  rotate_left
  · exact Answers.error fun _ h' => hrouting models hmodels _ (by rw [he, h'])
  have hids : ∀ id, some requestId = some id → id.length ≤ 128 := by
    rintro _ ⟨⟩
    exact hid.2
  cases validation with
  | none =>
    refine Traced.holds_tell_bind ?_
    refine (service.correlationId_holds hids).bind (fun id _ _ => ?_) (fun _ _ ⟨_, h, _⟩ => nomatch h)
    refine Traced.holds_query_bind_of fun s => Traced.holds_tell_bind ?_
    have houtcome := h.inference routing.decision.selectedModelId request id requestDeadline s
    cases hout : (service.inference routing.decision.selectedModelId request id requestDeadline s).1 with
    | ok response => exact Traced.holds_tell_bind (Traced.holds_pure (answers_ok _))
    | error e =>
      rw [hout] at houtcome
      dsimp only
      split
      · exact Traced.holds_tell_bind (Traced.holds_raise houtcome.error)
      · exact Traced.holds_raise houtcome.error
  | some validation =>
    refine Traced.holds_tell_bind ?_
    refine (service.correlationId_holds hids).bind ?_ (fun _ _ ⟨_, h, _⟩ => nomatch h)
    rintro _ _ ⟨id, ⟨⟩, -, hpos, hle⟩
    have hlen : (candidateIds routing service.maxValidationAttempts).length ≤ 3 :=
      (List.length_take_le _ _).trans service.attempts_range.2
    have hne : candidateIds routing service.maxValidationAttempts ≠ [] := by
      rw [candidateIds, Ne, List.take_eq_nil_iff]
      rintro (hzero | hnil)
      · exact absurd service.attempts_range.1 (by omega)
      · cases hnil
    exact attemptLoop_answers h ⟨hpos, hle⟩ hne le_rfl (by simpa using hlen) (Nat.add_comm _ _) hlen

end AdaptiveInferenceService

/-! ## The runtime -/

namespace AdaptiveRuntime

/-- A runtime as it is configured: distinct candidates, whose registered models have output-token policies
that can be resolved for every category, and a predictor that gives each of them one prediction for the
features of an admitted request, or raises what is answered. -/
structure Configured (runtime : AdaptiveRuntime σ) (inference : InferenceService σ)
    (admitted : InferenceRequest → Prop) : Prop where
  candidates_nodup : runtime.candidateModelIds.Nodup
  resolvable : ∀ id ∈ runtime.candidateModelIds, ∀ model, inference.registry.get id.value = .ok model →
    ∀ category, RoutingDecisionService.Resolvable category model
  predicted : ∀ request, admitted request → ∀ (category : RoutingCategory) structured features,
    extract runtime.routing.indicators request (some category.value) structured = .ok features →
    ∀ models : List ModelConfig, models.map (·.modelId) = runtime.candidateModelIds →
    (∀ model ∈ models, model ∈ inference.registry.models) →
    Answers (runtime.routing.predict features models) ∧
      ∀ predictions, runtime.routing.predict features models = .ok predictions →
        (predictions.map (·.modelId)).Perm runtime.candidateModelIds

variable (runtime : AdaptiveRuntime σ) (inference : InferenceService σ)

/-- The environment of a runtime is sound. -/
theorem service_sound : (runtime.service inference).Sound where
  inference modelId request requestId deadline s :=
    inference.generate_answers modelId.value request (some requestId) (some deadline) .adaptive s
  validator _ _ _ := ⟨_, rfl⟩
  registry modelId := by
    intro e he
    obtain ⟨message, rfl⟩ := ModelRegistry.get_eq_error he
    exact answerable_of_class (c := .modelNotFoundError) (by decide) rfl

variable {runtime inference} {admitted : InferenceRequest → Prop}

/-- The candidates are the registered models of their ids. -/
theorem resolveCandidates_eq_ok {ids : List Identifier} {models : List ModelConfig}
    (h : (runtime.service inference).resolveCandidates (ids.map (·.value)) = .ok models) :
    models.map (·.modelId) = ids ∧
      ∀ model ∈ models, ∃ id ∈ ids, inference.registry.get id.value = .ok model := by
  have hget := List.mapM_eq_ok.mp h
  rw [List.forall₂_map_left_iff] at hget
  clear h
  induction hget with
  | nil => exact ⟨rfl, fun _ h => nomatch h⟩
  | @cons id model ids models hmodel _ ih =>
    obtain ⟨found, hfound, hmodel⟩ := Except.bind_eq_ok.mp hmodel
    obtain ⟨-, hmodel⟩ := Except.guard_eq_ok.mp hmodel
    obtain ⟨-, hmodel⟩ := Except.guard_eq_ok.mp hmodel
    cases hmodel
    refine ⟨?_, List.forall_mem_cons.mpr ⟨⟨id, List.mem_cons_self, hfound⟩, ?_⟩⟩
    · rw [List.map_cons, ih.1, Identifier.ext (ModelRegistry.get_eq_ok hfound).2]
    · intro m hm
      obtain ⟨i, hi, hi'⟩ := ih.2 m hm
      exact ⟨i, List.mem_cons_of_mem _ hi, hi'⟩

/-- A float that is no quality threshold is answered. -/
theorem validateQualityThreshold_answers (x : PyFloat) :
    Answers (validateQualityThreshold (.float x)) := by
  intro e he
  obtain ⟨message, rfl⟩ := thresholdError_of_error id he
  exact answerable_of_class (c := .invalidQualityThresholdError) (by decide) rfl

/-- What the policy raises for candidates of distinct ids is answered. -/
theorem route_answers {candidates : List CandidatePrediction} (hnodup : (candidates.map (·.modelId)).Nodup)
    (x : PyFloat) : Answers (CostAwareRoutingPolicy.route candidates (.float x)) := by
  intro e he
  unfold CostAwareRoutingPolicy.route at he
  split at he
  · cases he
    exact answerable_of_class (c := .noEligibleCandidatesError) (by decide) rfl
  rename_i hne
  rcases Except.bind_eq_error.mp he with he | ⟨threshold, -, he⟩
  · exact validateQualityThreshold_answers x e he
  split at he
  · cases he
  · split at he
    · cases he
    · rename_i hnone
      exact absurd (List.argmin_eq_none.mp hnone) hne

/-- What the routing of a configured runtime raises is answered. -/
theorem Configured.routeWithSnapshot_answers (h : runtime.Configured inference admitted)
    {models : List ModelConfig} (hmodels : (runtime.service inference).resolveCandidates
      (runtime.candidateModelIds.map (·.value)) = .ok models)
    {request : InferenceRequest} (hadmitted : admitted request) (x : PyFloat) (category : RoutingCategory) (structured : Bool) :
    Answers (runtime.routing.routeWithSnapshot request models (.float x) (some category.value)
      structured) := by
  obtain ⟨hids, hregistered⟩ := resolveCandidates_eq_ok hmodels
  intro e he
  rcases Except.bind_eq_error.mp he with he | ⟨features, hfeatures, he⟩
  · rcases Except.bind_eq_error.mp he with he | ⟨_, -, he⟩
    · rw [categoryOfHint_value] at he
      cases he
    · cases he
  have hcategory : features.category = some category := by
    obtain ⟨found, hfound, hfeatures⟩ := Except.bind_eq_ok.mp hfeatures
    rw [categoryOfHint_value] at hfound
    cases hfound
    cases hfeatures
    rfl
  have hnodup : (models.map (·.modelId)).Nodup := by
    rw [hids]
    exact h.candidates_nodup
  obtain ⟨hanswers, hperm⟩ := h.predicted request hadmitted category structured features hfeatures models hids
    fun model hmodel => by
      obtain ⟨id, -, hget⟩ := hregistered model hmodel
      exact (ModelRegistry.get_eq_ok hget).1
  rw [RoutingDecisionService.routeFeaturesWithSnapshot, RoutingDecisionService.eligibleCandidates,
    runtime.unfiltered, Except.ok_bind, if_neg (not_not.mpr hnodup)] at he
  rcases Except.bind_eq_error.mp he with he | ⟨predictions, hpredictions, he⟩
  · exact hanswers e he
  have hperm := hperm predictions hpredictions
  rw [← hids] at hperm
  have hp : RoutingDecisionService.Predicted models predictions :=
    RoutingDecisionService.predicted_iff_perm.mpr ⟨hnodup, hperm.nodup_iff.mpr hnodup, hperm⟩
  rw [if_neg (not_not.mpr hp.predictions_nodup),
    if_neg (not_not.mpr ⟨hp.predicted_eligible, hp.eligible_predicted, hp.length_eq⟩)] at he
  rcases Except.bind_eq_error.mp he with he | ⟨priced, hpriced, he⟩
  · obtain ⟨model, hmodel, hprice⟩ := List.exists_of_mapM_eq_error he
    obtain ⟨p, hp', hid⟩ := hp.exists_prediction hmodel
    rw [RoutingDecisionService.price_of_mem hp.predictions_nodup hp' hid] at hprice
    obtain ⟨id, hid, hget⟩ := hregistered model hmodel
    exact absurd (h.resolvable id hid model hget category)
      (RoutingDecisionService.resolve_eq_error hcategory (Except.map_eq_error.mp hprice)).2
  · rcases Except.bind_eq_error.mp he with he | ⟨decision, -, he⟩
    · refine route_answers ?_ x e he
      rw [RoutingDecisionService.map_modelId_of_priced (List.mapM_eq_ok.mp hpriced)]
      exact hnodup
    · cases he

/-- **What leaves the adaptive service of a configured runtime is answered.** -/
theorem Configured.generate_answers (h : runtime.Configured inference admitted)
    {request : InferenceRequest} (hadmitted : admitted request) (category : RoutingCategory) (x : PyFloat) (validation : Option ValidationContract)
    {requestId : String} (hid : RecordableId requestId) (deadline : RequestDeadline) :
    ((runtime.service inference).generate request (some category.value) (.float x)
      (runtime.candidateModelIds.map (·.value)) validation false (some requestId) (some deadline)).Holds
        fun r _ => Answers r :=
  AdaptiveInferenceService.generate_answers (runtime.service_sound inference) request _ _ _ validation
    false hid deadline fun _ hmodels => h.routeWithSnapshot_answers hmodels hadmitted x category false

end AdaptiveRuntime

/-! ## The chat service -/

namespace ChatOrchestrationService

variable (chat : ChatOrchestrationService σ)

/-- What the chat service ends in: its exceptions are answered, and a result that it returns has been
attempted one to three times. -/
def Ends (r : Except Exc ChatOrchestrationResult) : Prop :=
  Answers r ∧ ∀ result, r = .ok result → ∀ execution ∈ result.execution,
    0 < execution.attempts.length ∧ execution.attempts.length ≤ 3

theorem ends_of_answers {e : Exc} (h : Answers (.error e : Except Exc ChatOrchestrationResult)) :
    Ends (.error e) := ⟨h, fun _ h => nomatch h⟩

/-- A record that can be made does not change how the chat service ends, unless it is cancelled. -/
theorem recordFields_ends {fields : ChatActivityFields}
    (hmade : ∃ event, ChatActivityRecord.create fields = .ok event) (deadline : RequestDeadline)
    {last : Act σ ChatOrchestrationResult} (hlast : last.Holds fun r _ => Ends r) :
    (chat.recordFields fields deadline >>= fun _ => last).Holds fun r _ => Ends r := by
  obtain ⟨made, hmade⟩ := hmade
  refine (chat.recordFields_holds fields deadline).bind (fun _ _ _ => hlast) ?_
  rintro e calls (⟨-, e', he', -⟩ | ⟨_, -, -, hcancelled | h⟩)
  · rw [hmade] at he'
    cases he'
  · exact ends_of_answers (answers_of_cancelled hcancelled).error
  · cases h

/-- The AUTO path. -/
theorem generateDirect_ends (request : InferenceRequest) {requestId : String}
    (hid : RecordableId requestId) (deadline : RequestDeadline) :
    (chat.generateDirect request requestId deadline).Holds fun r _ => Ends r := by
  refine Traced.holds_attempt_bind (Traced.Holds.embed (chat.inferenceService.generate_answers _ _ _ _ _)) ?_
  rintro outcome _ ⟨own, rfl, houtcome⟩
  cases outcome with
  | error e =>
    have hraise : (Traced.raise e : Act σ ChatOrchestrationResult).Holds fun r _ => Ends r :=
      Traced.holds_raise (ends_of_answers houtcome.error)
    dsimp only
    split
    · refine Traced.holds_ofExcept_bind (fun model _ => ?_) (fun e' he' => ?_)
      · refine chat.recordFields_ends (ChatActivityRecord.create_eq_ok _ hid
          ChatActivityRecord.forall_mem_none ChatActivityRecord.forall_mem_none ?_) deadline hraise
        rintro c ⟨⟩
        exact (failureOutcome e).length_value_le
      · obtain ⟨message, rfl⟩ := ModelRegistry.get_eq_error he'
        exact ends_of_answers
          (answers_error (answerable_of_class (c := .modelNotFoundError) (by decide) rfl))
    · exact hraise
  | ok response =>
    refine chat.recordFields_ends (ChatActivityRecord.create_eq_ok _ hid
      ChatActivityRecord.forall_mem_none ?_ ChatActivityRecord.forall_mem_none) deadline
      (Traced.holds_pure ⟨answers_ok _, ?_⟩)
    · rintro n ⟨⟩
      exact ⟨Nat.one_pos, by decide⟩
    · rintro _ ⟨⟩ execution hexecution
      cases hexecution

/-- The MANUAL path. -/
theorem generateAdaptive_ends {runtime : AdaptiveRuntime σ} {admitted : InferenceRequest → Prop}
    (hruntime : runtime.Configured chat.inferenceService admitted) {request : InferenceRequest}
    (hadmitted : admitted request) (category : RoutingCategory) (validation : Option ValidationContract) {requestId : String}
    (hid : RecordableId requestId) (deadline : RequestDeadline) :
    (chat.generateAdaptive runtime request (some category) validation requestId deadline).Holds
      fun r _ => Ends r := by
  have hanswers := hruntime.generate_answers hadmitted category runtime.approvedQualityThreshold validation
    hid deadline
  have hattempts := (runtime.service chat.inferenceService).generate_attempts_range request
    (some category.value) (.float runtime.approvedQualityThreshold)
    (runtime.candidateModelIds.map (·.value)) validation false hid.2 deadline
  have hcategory : ∀ c ∈ (some category).map (·.value), c.length ≤ 64 := by
    rintro c ⟨⟩
    exact category.length_value_le
  refine Traced.holds_attempt_bind (hanswers.and hattempts).embed ?_
  rintro outcome _ ⟨own, rfl, houtcome, hrange⟩
  cases outcome with
  | error e =>
    have hraise : (Traced.raise e : Act σ ChatOrchestrationResult).Holds fun r _ => Ends r :=
      Traced.holds_raise (ends_of_answers houtcome.error)
    dsimp only
    split
    · refine chat.recordFields_ends (ChatActivityRecord.create_eq_ok _ hid hcategory
        ChatActivityRecord.forall_mem_none ?_) deadline hraise
      rintro c ⟨⟩
      exact (failureOutcome e).length_value_le
    · exact hraise
  | ok result =>
    have hrange : ∀ execution ∈ result.execution,
        0 < execution.attempts.length ∧ execution.attempts.length ≤ 3 := hrange result rfl
    refine chat.recordFields_ends (ChatActivityRecord.create_eq_ok _ hid hcategory ?_
      ChatActivityRecord.forall_mem_none) deadline (Traced.holds_pure ⟨answers_ok _, ?_⟩)
    · rintro n ⟨⟩
      cases hexecution : result.execution with
      | none => exact ⟨Nat.one_pos, by decide⟩
      | some execution => exact hrange execution hexecution
    · rintro _ ⟨⟩
      exact hrange

/-- **What leaves the chat service is answered**, with a configured runtime if it has one. -/
theorem generate_ends {admitted : InferenceRequest → Prop}
    (hruntime : ∀ runtime ∈ chat.adaptiveRuntime, runtime.Configured chat.inferenceService admitted)
    {request : InferenceRequest} (hadmitted : admitted request) (routingMode : ChatRoutingMode) (category : Option RoutingCategory)
    (hcategory : routingMode = .manual → category ≠ none) (validation : Option ValidationContract)
    {requestId : String} (hid : RecordableId requestId) (deadline : RequestDeadline) :
    (chat.generate request routingMode category validation requestId deadline).Holds
      fun r _ => Ends r := by
  unfold generate
  split
  · exact chat.generateDirect_ends request hid deadline
  · exact Traced.holds_raise (ends_of_answers (answers_error
      (answerable_of_class (c := .adaptiveRoutingUnavailableError) (by decide) rfl)))
  · rename_i runtime hsome
    obtain ⟨found, rfl⟩ := Option.ne_none_iff_exists'.mp (hcategory rfl)
    exact chat.generateAdaptive_ends (hruntime runtime hsome) hadmitted found validation hid deadline

end ChatOrchestrationService

end RouteLLM
