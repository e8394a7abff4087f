import RouteLLM.Application.AdapterEvents
import RouteLLM.Application.AdaptiveLog
import RouteLLM.Application.AdaptiveSafety
import RouteLLM.Application.Chat

/-!
# The adapters in a run of the adaptive runtime

The adaptive service of a runtime over the observed inference service. The ids that a run executes
are those of enabled registered models, so that every model call ends as handled, and so does every
run that has passed the routing (`generate_handled`).
-/

namespace RouteLLM

variable {σ : Type}

/-- The runtime in the environment whose adapters are logged. -/
def AdaptiveRuntime.observed (runtime : AdaptiveRuntime σ) :
    AdaptiveRuntime (σ × List AdapterEvent) where
  routing := runtime.routing
  unfiltered := runtime.unfiltered
  recursionLimit := runtime.recursionLimit
  recordAdaptiveExecution := runtime.recordAdaptiveExecution.map fun write event timeout =>
    Traced.unlogged (write event timeout)
  maxValidationAttempts := runtime.maxValidationAttempts
  attempts_range := runtime.attempts_range
  candidateModelIds := runtime.candidateModelIds
  approvedQualityThreshold := runtime.approvedQualityThreshold

/-- The id of an enabled registered model. -/
def InferenceService.Serves (inference : InferenceService σ) (modelId : Identifier) : Prop :=
  ∃ model, inference.registry.get modelId.value = .ok model ∧ model.enabled = true

namespace AdaptiveInferenceService

/-- A call that has no completion raised its exception. -/
theorem completed_eq_error {outcome : Except Exc InferenceResponse} {e : Exc}
    (h : completed outcome = .error e) : outcome = .error e := by
  cases outcome with
  | ok response => cases h
  | error e' =>
    cases e' with
    | completionRejected => cases h
    | raised | gateway => exact h

/-- A call that has a completion was not refused. -/
theorem not_refused_of_completed {caught : List ExcClass} {outcome : Except Exc InferenceResponse}
    {response : InferenceResponse} {log : List AdapterEvent}
    (hout : completed outcome = .ok response) (h : Handled caught outcome log) :
    ¬ Refused log := by
  cases h with
  | answered h => exact h
  | cancelled h =>
    obtain ⟨e, rfl, hcancelled⟩ := h
    cases e with
    | completionRejected => cases hcancelled
    | raised | gateway => cases hout
  | refused e hr he =>
    subst hr
    cases e with
    | completionRejected => cases he
    | raised | gateway => cases hout

/-- The executed attempts of an answer are at least one and at most three. -/
theorem generate_attempts_range (service : AdaptiveInferenceService σ) (request : InferenceRequest)
    (category : Option String) (qualityThreshold : ThresholdValue) (candidateModelIds : List String)
    (validation : Option ValidationContract) (structuredOutputRequired : Bool) {requestId : String}
    (hid : requestId.length ≤ 128) (deadline : RequestDeadline) :
    (service.generate request category qualityThreshold candidateModelIds validation
      structuredOutputRequired (some requestId) (some deadline)).Holds fun r _ =>
        ∀ answer, r = .ok answer → ∀ execution, answer.execution = some execution →
          0 < execution.attempts.length ∧ execution.attempts.length ≤ 3 := by
  refine Traced.Holds.bind (x := service.deadlineOrNew (some deadline)) (Q := fun _ _ => True)
    (fun _ => trivial) ?_ (fun _ _ _ _ h => nomatch h)
  intro requestDeadline _ _
  refine service.checkDeadline_bind_holds ?_ (fun _ h => nomatch h)
  refine Traced.holds_ofExcept_bind (fun candidates _ => ?_) (fun _ _ _ h => nomatch h)
  refine Traced.holds_ofExcept_bind (fun routing _ => ?_) (fun _ _ _ h => nomatch h)
  have hids : ∀ id, some requestId = some id → id.length ≤ 128 := by
    intro id h
    cases h
    exact hid
  cases validation with
  | none =>
    refine Traced.holds_tell_bind ?_
    refine (service.correlationId_holds hids).bind (fun id _ _ => ?_) (fun _ _ _ _ h => nomatch h)
    refine Traced.holds_query_bind fun outcome => Traced.holds_tell_bind ?_
    cases outcome with
    | ok response =>
      refine Traced.holds_tell_bind (Traced.holds_pure fun answer h execution hexecution => ?_)
      cases h
      cases hexecution
    | error e =>
      dsimp only
      split
      · exact Traced.holds_tell_bind (Traced.holds_raise fun _ h => nomatch h)
      · exact Traced.holds_raise fun _ h => nomatch h
  | some validation =>
    refine Traced.holds_tell_bind ?_
    refine (service.generateValidated_holds request validation routing hids requestDeadline).mono ?_
    intro r calls hrun answer hr execution hexecution
    obtain ⟨run, _, hmodelIds, hloop⟩ := hrun
    obtain ⟨_, ⟨a, ha, _⟩, found, hfound, hexecuted⟩ := hloop.answer answer hr
    cases hfound.symm.trans hexecution
    have hlength : execution.attempts.length = (executedAttempts calls).length := by
      have hboth := congrArg List.length hexecuted
      rw [List.length_map, List.length_append, length_executedIds] at hboth
      exact hboth.trans (Nat.zero_add _)
    have hle : (executedIds calls).length ≤ 3 := by
      refine hloop.executedIds_prefix.length_le.trans ?_
      rw [hmodelIds]
      exact (List.length_take_le _ _).trans service.attempts_range.2
    rw [hlength]
    refine ⟨List.length_pos_of_mem (List.mem_of_getLast? ha), ?_⟩
    rw [← length_executedIds]
    exact hle

end AdaptiveInferenceService

namespace AdaptiveRuntime

open AdaptiveInferenceService ChatOrchestrationService

variable {runtime : AdaptiveRuntime σ} {inference : InferenceService σ}

/-- The service logs its model calls only. -/
theorem observed_logsApart : LogsApart (runtime.observed.service inference.observed) where
  clock := ⟨_, rfl⟩
  newUuid := ⟨_, rfl⟩
  record := by
    intro write hwrite event timeout
    obtain ⟨g, -, rfl⟩ := Option.map_eq_some_iff.mp hwrite
    exact ⟨_, rfl⟩

/-! ## The executed ids -/

/-- The candidates are enabled registered models. -/
theorem resolveCandidates_serves {candidateModelIds : List String} {models : List ModelConfig}
    (h : (runtime.observed.service inference.observed).resolveCandidates candidateModelIds =
      .ok models) : ∀ model ∈ models, inference.Serves model.modelId := by
  intro model hmodel
  obtain ⟨id, -, hid⟩ := (List.mapM_eq_ok.mp h).flip.exists_of_mem hmodel
  obtain ⟨found, hfound, hid⟩ := Except.bind_eq_ok.mp hid
  obtain ⟨henabled, hid⟩ := Except.guard_eq_ok.mp hid
  obtain ⟨_, hid⟩ := Except.guard_eq_ok.mp hid
  cases hid
  have hmem := ModelRegistry.get_eq_ok hfound
  exact ⟨model, ModelRegistry.get_of_mem hmem.1, not_not.mp henabled⟩

/-- The candidates of a routing result of the runtime are among the given models. -/
theorem routeWithSnapshot_mem {request : InferenceRequest} {models : List ModelConfig}
    {threshold : ThresholdValue} {category : Option String} {structured : Bool}
    {routing : RoutingResult}
    (h : runtime.routing.routeWithSnapshot request models threshold category structured =
      .ok routing) :
    (∀ c ∈ routing.candidates, ∃ model ∈ models, model.modelId = c.modelId) ∧
      ∃ c ∈ routing.candidates, c.modelId = routing.decision.selectedModelId := by
  obtain ⟨features, _, h⟩ := Except.bind_eq_ok.mp h
  obtain ⟨c, hc, hselected, _⟩ := RoutingDecisionService.routeFeaturesWithSnapshot_selected h
  refine ⟨?_, c, hc, hselected⟩
  obtain ⟨eligible, _, priced, heligible, _, hpriced, _, hcandidates⟩ :=
    RoutingDecisionService.routeFeaturesWithSnapshot_eq_ok h
  rw [RoutingDecisionService.eligibleCandidates, runtime.unfiltered] at heligible
  cases heligible
  intro c hc
  rw [hcandidates] at hc
  obtain ⟨p, hp, rfl⟩ := List.mem_map.mp hc
  obtain ⟨model, hmodel, hprice⟩ := hpriced.flip.exists_of_mem hp
  exact ⟨model, hmodel, (RoutingDecisionService.price_eq_ok hprice).1.symm⟩

/-- The ids that a run executes are candidates of its routing result. -/
theorem mem_of_mem_candidateIds {routing : RoutingResult} {maxAttempts : ℕ} {id : Identifier}
    (hselected : ∃ c ∈ routing.candidates, c.modelId = routing.decision.selectedModelId)
    (h : id ∈ candidateIds routing maxAttempts) : ∃ c ∈ routing.candidates, c.modelId = id := by
  rcases List.mem_cons.mp (List.mem_of_mem_take h) with rfl | h
  · exact hselected
  · split at h
    · cases h
    · obtain ⟨c, hc, rfl⟩ := List.mem_map.mp h
      have hmem := (List.perm_insertionSort _ _).mem_iff.mp hc
      exact ⟨c, (List.mem_filter.mp hmem).1, rfl⟩

/-! ## The validated loop -/

/-- An exit that logs nothing and ends in `end_`, unless cancelled, ends what came before as handled. -/
theorem handled_of_exit {α : Type} {x : AdaptiveInferenceService.Act (σ × List AdapterEvent) α}
    {outcome : AdaptiveTerminalOutcome} {end_ : Except Exc α} {log : List AdapterEvent}
    (hexit : x.Holds (Exit outcome end_)) (hlog : x.Logs fun _ _ log => log = [])
    (hend : Handled adaptiveFailures end_ log) :
    x.Logs fun r _ log' => Handled adaptiveFailures r (log ++ log') := by
  refine (hlog.and_holds hexit).mono ?_
  rintro r calls _ ⟨rfl, _, hcancelled | ⟨rfl, _⟩⟩
  · exact .cancelled hcancelled
  · rw [List.append_nil]
    exact hend

/-- The validator answers with a result and consults no adapter. -/
theorem observed_validator_logs (response : InferenceResponse) (contract : ValidationContract)
    (s : σ) (log : List AdapterEvent) :
    ∃ inner, ((runtime.observed.service inference.observed).validator response contract
        (s, log)).2.2 = log ++ inner ∧ inner = [] ∧
      ∃ result, ((runtime.observed.service inference.observed).validator response contract
        (s, log)).1 = .ok result :=
  ⟨[], (List.append_nil log).symm, rfl, _, rfl⟩

section
variable {run : ValidatedRun} (hrun : run.Bounded) {attempts : List AdaptiveAttempt}
include hrun

/-- An iteration that executes an enabled registered model ends as handled. -/
theorem attemptStep_handled {attemptNumber : ℕ} (hlen : attempts.length < 3)
    (h1 : 1 ≤ attemptNumber) (h3 : attemptNumber ≤ 3) {modelId : Identifier}
    (hserved : inference.Serves modelId) :
    ((runtime.observed.service inference.observed).attemptStep run attempts attemptNumber
      modelId).Logs fun r _ log => Handled adaptiveFailures r log := by
  obtain ⟨model, hmodel, henabled⟩ := hserved
  have hlen1 (a : AdaptiveAttempt) : 1 ≤ (attempts ++ [a]).length := by simp
  have hlen3 (a : AdaptiveAttempt) : (attempts ++ [a]).length ≤ 3 := by
    rw [List.length_append, List.length_singleton]
    exact hlen
  refine checkDeadline_bind_logs observed_logsApart ?_ (.error_of_not_refused not_refused_nil rfl)
  refine Traced.logs_unheard_bind (inference.observed_generate_handled hmodel henabled _ _ _ _) ?_
  intro outcome _ log houtcome
  refine Traced.logs_tell_bind ?_
  cases hout : completed outcome with
  | error e =>
    dsimp only
    have hend : Handled adaptiveFailures
        (.error e : Except Exc (AdaptiveAttempt ⊕ AdaptiveInferenceResult)) log := by
      rw [completed_eq_error hout] at houtcome
      exact houtcome.error.mono (by decide)
    exact handled_of_exit (providerFailed_holds _ hrun h1 h3 e)
      ((providerFailed_logs observed_logsApart attemptNumber e).mono fun _ _ _ h => h.1) hend
  | ok response =>
    have hanswered := not_refused_of_completed hout houtcome
    have hlate : Handled adaptiveFailures (.error deadlineExceeded :
        Except Exc (AdaptiveAttempt ⊕ AdaptiveInferenceResult)) (log ++ []) := by
      rw [List.append_nil]
      exact .error_of_not_refused hanswered rfl
    refine checkDeadline_bind_logs observed_logsApart ?_ hlate
    refine Traced.logs_query_bind (Q := fun validated log => log = [] ∧ ∃ result, validated = .ok result)
      (observed_validator_logs response run.validation) ?_
    rintro _ _ ⟨rfl, result, rfl⟩
    refine Traced.logs_tell_bind ?_
    refine checkDeadline_bind_logs observed_logsApart ?_ hlate
    refine Traced.logs_tell_bind ?_
    dsimp only
    split
    · have hexit := handled_of_exit
        (returned_holds (runtime.observed.service inference.observed) hrun
          (hlen1 (attemptOf attemptNumber modelId response result)) (hlen3 _) response result)
        ((returned_logs observed_logsApart response result).mono fun _ _ _ h => h.1)
        (.ok_of_not_refused hanswered)
      refine hexit.bind ?_ ?_
      · intro answer _ log' h
        exact Traced.logs_pure (.ok_of_not_refused (by simpa using h.not_refused))
      · intro e _ log' h
        exact h.error
    · split
      · exact handled_of_exit (validationFailed_holds _ hrun (hlen1 _) (hlen3 _) result)
          ((validationFailed_logs observed_logsApart result).mono fun _ _ _ h => h.1)
          (.error_of_not_refused hanswered rfl)
      · refine Traced.logs_pure (.ok_of_not_refused ?_)
        rw [List.append_nil, List.append_nil]
        exact hanswered

/-- **The loop ends as handled**, by recursion on the ids that are left: after the last one no
iteration goes on. -/
theorem attemptLoop_handled {ids : List Identifier} (hne : ids ≠ [])
    (hserved : ∀ id ∈ ids, inference.Serves id) {attemptNumber : ℕ} (h1 : 1 ≤ attemptNumber)
    (hattempts : attempts.length + ids.length ≤ 3)
    (hlast : attemptNumber + ids.length = run.modelIds.length + 1)
    (hids : run.modelIds.length ≤ 3) :
    ((runtime.observed.service inference.observed).attemptLoop run attempts attemptNumber ids).Logs
      fun r _ log => Handled adaptiveFailures r log := by
  induction ids generalizing attempts attemptNumber with
  | nil => exact absurd rfl hne
  | cons modelId rest ih =>
    rw [List.length_cons] at hattempts hlast
    have hstep : ((runtime.observed.service inference.observed).attemptStep run attempts
        attemptNumber modelId).Logs fun r calls log =>
          Handled adaptiveFailures r log ∧ StepRun run attempts attemptNumber modelId r calls :=
      Traced.Logs.and_holds
        (attemptStep_handled hrun (by omega) h1 (by omega) (hserved modelId (.head _)))
        (attemptStep_holds _ hrun (by omega) h1 (by omega) modelId)
    refine hstep.bind ?_ fun e _ log h => h.1.error
    rintro (attempt | answer) _ log ⟨hhandled, hnext⟩
    · have hrest : rest ≠ [] := by
        rintro rfl
        rw [List.length_nil] at hlast
        cases hnext with
        | mk _ _ hnotLast => omega
      refine (ih hrest (fun id hid => hserved id (.tail _ hid)) (by omega) ?_ (by omega)).mono ?_
      · rw [List.length_append, List.length_singleton]
        omega
      · exact fun r _ log' h => h.append hhandled.not_refused
    · refine Traced.logs_pure (.ok_of_not_refused ?_)
      rw [List.append_nil]
      exact hhandled.not_refused

end

/-- A validated run over ids of enabled registered models ends as handled. -/
theorem generateValidated_handled (request : InferenceRequest) (validation : ValidationContract)
    (routing : RoutingResult) {requestId : String} (hid : requestId.length ≤ 128)
    (deadline : RequestDeadline)
    (hserved : ∀ id ∈ candidateIds routing runtime.maxValidationAttempts, inference.Serves id) :
    ((runtime.observed.service inference.observed).generateValidated request validation routing
      (some requestId) deadline).Logs fun r _ log => Handled adaptiveFailures r log := by
  have hids : ∀ id, some requestId = some id → id.length ≤ 128 := by
    intro id h
    cases h
    exact hid
  have hle : (candidateIds routing runtime.maxValidationAttempts).length ≤ 3 :=
    (List.length_take_le _ _).trans runtime.attempts_range.2
  have hne : candidateIds routing runtime.maxValidationAttempts ≠ [] := by
    rw [candidateIds, Ne, List.take_eq_nil_iff]
    rintro (hzero | hnil)
    · exact absurd runtime.attempts_range.1 (by omega)
    · cases hnil
  refine ((correlationId_logs observed_logsApart (some requestId)).and_holds
    (correlationId_holds _ hids)).bind ?_ ?_
  rotate_left
  · rintro e _ _ ⟨⟨⟨_, h⟩, _⟩, _⟩
    cases h
  rintro id _ _ ⟨⟨_, rfl, rfl⟩, _, hid, _, h1, h128⟩
  cases hid
  exact attemptLoop_handled ⟨h1, h128⟩ hne hserved le_rfl (by simpa using hle) (Nat.add_comm _ _) hle

/-- The single attempt of a request without a contract ends as handled. -/
theorem generateUnvalidated_handled (request : InferenceRequest) (decision : RoutingDecision)
    (requestId : Option String) (deadline : RequestDeadline)
    (hserved : inference.Serves decision.selectedModelId) :
    ((runtime.observed.service inference.observed).generateUnvalidated request decision requestId
      deadline).Logs fun r _ log => Handled adaptiveFailures r log := by
  obtain ⟨model, hmodel, henabled⟩ := hserved
  refine Traced.logs_tell_bind ?_
  refine (correlationId_logs observed_logsApart requestId).bind ?_ ?_
  rotate_left
  · rintro e _ _ ⟨⟨_, h⟩, _⟩
    cases h
  rintro id _ _ ⟨_, rfl, rfl⟩
  refine Traced.logs_unheard_bind (inference.observed_generate_handled hmodel henabled _ _ _ _) ?_
  intro outcome _ log houtcome
  refine Traced.logs_tell_bind ?_
  have hlog : [] ++ (log ++ []) = log := by simp
  cases outcome with
  | ok response =>
    refine Traced.logs_tell_bind (Traced.logs_pure (.ok_of_not_refused ?_))
    rw [hlog]
    exact houtcome.not_refused
  | error e =>
    have hend : Handled adaptiveFailures (.error e : Except Exc AdaptiveInferenceResult)
        ([] ++ (log ++ [])) := by
      rw [hlog]
      exact houtcome.error.mono (by decide)
    dsimp only
    split
    · exact Traced.logs_tell_bind (Traced.logs_raise hend)
    · exact Traced.logs_raise hend

variable (runtime inference) in
/-- **A run of the runtime starts no attempt or ends as handled.** -/
theorem generate_handled (request : InferenceRequest) (category : Option String)
    (qualityThreshold : ThresholdValue) (candidateModelIds : List String)
    (validation : Option ValidationContract) (structuredOutputRequired : Bool) {requestId : String}
    (hid : requestId.length ≤ 128) (deadline : RequestDeadline) :
    ((runtime.observed.service inference.observed).generate request category qualityThreshold
      candidateModelIds validation structuredOutputRequired (some requestId) (some deadline)).Logs
        fun r _ log => log = [] ∨ Handled adaptiveFailures r log := by
  refine Traced.Logs.bind (x := (runtime.observed.service inference.observed).deadlineOrNew
    (some deadline)) (Q := fun _ _ log => log = []) (Traced.logs_pure rfl) ?_ (fun _ _ _ h => .inl h)
  rintro requestDeadline _ _ rfl
  refine checkDeadline_bind_logs observed_logsApart ?_ (.inl rfl)
  refine Traced.logs_ofExcept_bind (fun models hmodels => ?_) (fun _ _ => .inl rfl)
  refine Traced.logs_ofExcept_bind (fun routing hrouting => ?_) (fun _ _ => .inl rfl)
  obtain ⟨hcandidates, hselected⟩ := routeWithSnapshot_mem hrouting
  have hserved : ∀ c ∈ routing.candidates, inference.Serves c.modelId := by
    intro c hc
    obtain ⟨model, hmodel, heq⟩ := hcandidates c hc
    rw [← heq]
    exact resolveCandidates_serves hmodels model hmodel
  cases validation with
  | none =>
    obtain ⟨c, hc, heq⟩ := hselected
    exact (generateUnvalidated_handled request routing.decision _ requestDeadline
      (heq ▸ hserved c hc)).mono fun _ _ _ h => .inr h
  | some validation =>
    refine Traced.logs_tell_bind ?_
    refine (generateValidated_handled request validation routing hid requestDeadline ?_).mono
      fun _ _ _ h => .inr h
    intro id hmem
    obtain ⟨c, hc, rfl⟩ := mem_of_mem_candidateIds hselected hmem
    exact hserved c hc

end AdaptiveRuntime

end RouteLLM
