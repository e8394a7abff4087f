import RouteLLM.Application.AdaptiveLog
import RouteLLM.Application.AdaptiveSafety
import RouteLLM.Application.InferenceRecord
import RouteLLM.Lib.TracedLog

/-!
# The ledger of a validated run

The adaptive service over an inference service: the per-attempt events of the one against the summary
of the other. Every summary counts the model calls of its run and folds exactly the costs that the
per-attempt events of its request carry (`attemptLoop_books`), but it folds them in the default
decimal context. It therefore states their sum where every partial sum fits that context
(`generateValidated_ledger`).
-/

namespace RouteLLM

namespace InferenceCall

/-- The deadline check at the entry of a call of `generate`. -/
def entry : InferenceCall → Bool
  | expired _ => true
  | _ => false

end InferenceCall

/-- The number of calls of `generate`. -/
def entries (log : List InferenceCall) : ℕ := log.countP (·.entry)

/-- The number of provider attempts started, one for each resolved adapter. -/
def startedAttempts (log : List InferenceCall) : ℕ := log.countP (·.resolved)

/-- The known costs in the per-attempt events of a request. -/
def loggedCosts (requestId : String) (log : List InferenceCall) : List Money :=
  ((handedEvents log).filter (·.requestId = requestId)).filterMap (·.estimatedCostUsd)

@[simp] theorem entries_append (log rest : List InferenceCall) :
    entries (log ++ rest) = entries log + entries rest := List.countP_append

@[simp] theorem loggedCosts_append (requestId : String) (log rest : List InferenceCall) :
    loggedCosts requestId (log ++ rest) =
      loggedCosts requestId log ++ loggedCosts requestId rest := by
  simp only [loggedCosts, handedEvents, List.filterMap_append, List.filter_append]

/-- The cost of a completion, if the call has one. -/
def completedCost (outcome : Except Exc InferenceResponse) : List Money :=
  match AdaptiveInferenceService.completed outcome with
  | .ok response => [response.estimatedCostUsd]
  | .error _ => []

namespace InferenceService

/-! ## What one model call logs -/

/-- A call of `generate` under a request id: one entry, and the cost of its completion. -/
structure Spent (requestId : String) (outcome : Except Exc InferenceResponse)
    (log : List InferenceCall) : Prop where
  entered : entries log = 1
  costs : loggedCosts requestId log = completedCost outcome

/-- The event of an outcome carries the cost of its completion. -/
theorem EventOf.cost {model : ModelConfig} {request : InferenceRequest} {requestId : String}
    {r : Except Exc InferenceResponse} {event : TelemetryEvent}
    (h : EventOf model request requestId r event) :
    event.requestId = requestId ∧ event.estimatedCostUsd.toList = completedCost r := by
  cases h with
  | returned response => exact ⟨rfl, rfl⟩
  | raised e =>
    cases e with
    | raised | gateway | completionRejected => exact ⟨rfl, rfl⟩

/-- The reports of a write leave the ledger alone. -/
theorem ledger_writeReports {reports : List InferenceCall} (h : ∀ c ∈ reports, c.writeReport = true) :
    entries reports = 0 ∧ handedEvents reports = [] := by
  refine ⟨List.countP_eq_zero.mpr fun c hc => ?_, (writeReports h).1⟩
  have hreport := h c hc
  cases c with
  | telemetryWrite | telemetryWriteFailed => exact Bool.false_ne_true
  | expired | resolve | providerAttempt | recordTelemetry => cases hreport

/-- So do the reports of `_generate`. -/
theorem ModelCalls.ledger {r : Except Exc InferenceResponse} {front : List InferenceCall}
    (h : ModelCalls r front) : entries front = 0 ∧ handedEvents front = [] := by
  cases h with
  | disabled | unresolved | interrupted | attempted => exact ⟨rfl, rfl⟩

variable {σ : Type} (service : InferenceService σ)

/-- A call to a registered model spends the cost of its completion. -/
theorem Generated.spent {model : ModelConfig} {request : InferenceRequest} {requestId : String}
    {r : Except Exc InferenceResponse} {log : List InferenceCall}
    (h : Generated model request (some requestId) r log) (hlive : ¬ Cancelled r) :
    Spent requestId r log := by
  cases h with
  | late => exact ⟨rfl, rfl⟩
  | cancelled h => exact absurd h hlive
  | @ended _ front reports id hid event hevent hfront hreports =>
    obtain ⟨hfrontEntries, hfrontEvents⟩ := hfront.ledger
    obtain ⟨hreportEntries, hreportEvents⟩ := ledger_writeReports hreports
    obtain ⟨hrequest, hcost⟩ := hevent.cost
    have hevents : handedEvents (.expired false :: (front ++ .recordTelemetry event :: reports)) =
        [event] := by
      calc handedEvents (.expired false :: (front ++ .recordTelemetry event :: reports))
          = handedEvents front ++ event :: handedEvents reports := List.filterMap_append
        _ = [event] := by rw [hfrontEvents, hreportEvents]; rfl
    refine ⟨?_, ?_⟩
    · show entries ([.expired false] ++ (front ++ ([.recordTelemetry event] ++ reports))) = 1
      rw [entries_append, entries_append, entries_append, hfrontEntries, hreportEntries]
      rfl
    · rw [loggedCosts, hevents, List.filter_singleton, hrequest, hid requestId rfl, ← hcost]
      cases hknown : event.estimatedCostUsd with
      | none => simp [hknown]
      | some cost => simp [hknown]

/-- **Every call under a request id logs one entry and the cost of its completion**, unless it is
cancelled. -/
theorem generate_spent (modelId : String) (request : InferenceRequest) (requestId : String)
    (deadline : RequestDeadline) (requestMode : RequestMode) :
    (service.generate modelId request (some requestId) (some deadline) requestMode).Holds
      fun r log => Cancelled r ∨ Spent requestId r log := by
  cases hmodel : service.registry.get modelId with
  | ok model =>
    refine (service.generate_generated hmodel request _ _ requestMode).mono fun r log h => ?_
    exact or_iff_not_imp_left.mpr h.spent
  | error e =>
    obtain ⟨message, rfl⟩ := ModelRegistry.get_eq_error hmodel
    refine (service.deadlineOrNew_holds (some deadline)).bind ?_ (fun e _ ⟨_, h, _⟩ => nomatch h)
    rintro requestDeadline _ ⟨_, _, rfl⟩
    refine Traced.holds_query_bind fun now => Traced.holds_tell_bind ?_
    split
    · exact Traced.holds_raise (.inr ⟨rfl, rfl⟩)
    refine Traced.holds_ofExcept_bind (fun model h => ?_) (fun e he => ?_)
    · rw [hmodel] at h
      cases h
    · rw [hmodel] at he
      cases he
      exact .inr ⟨rfl, rfl⟩

end InferenceService

namespace AdaptiveInferenceService

variable {σ : Type}

/-! ## The service over the inference service -/

/-- The service whose model calls are those of an inference service, under one clock and one
telemetry. The calls of the inference service go to a log in the state. -/
def via (inference : InferenceService σ) (routing : RoutingDecisionService)
    (validator : InferenceResponse → ValidationContract → σ → Except Exc ValidationResult × σ)
    (record : Option (AdaptiveExecutionTelemetry → ℚ → σ → Except Exc Unit × σ))
    (maxValidationAttempts : ℕ)
    (attempts_range : 1 ≤ maxValidationAttempts ∧ maxValidationAttempts ≤ 3) :
    AdaptiveInferenceService (σ × List InferenceCall) where
  clock := Traced.unlogged inference.clock
  newUuid := Traced.unlogged inference.newUuid
  inferenceDeadlineSeconds := inference.inferenceDeadlineSeconds
  telemetryTimeout := inference.telemetryTimeout
  registryGet := inference.registry.get
  resolverSupports := inference.resolver.supports
  inference modelId request requestId deadline := Traced.logged
    (inference.generate modelId.value request (some requestId) (some deadline) .adaptive)
  validator response contract := Traced.unlogged (validator response contract)
  recordAdaptiveExecution := record.map fun write event timeout =>
    Traced.unlogged (write event timeout)
  routing
  maxValidationAttempts
  attempts_range

/-! ## Books -/

/-- The known costs of attempts. -/
def costs (attempts : List AdaptiveAttempt) : List Money :=
  attempts.filterMap (·.estimatedCostUsd)

/-- A summary of a run that entered the loop with `attempts`, against what the loop logged. -/
structure Booked (run : ValidatedRun) (attempts : List AdaptiveAttempt)
    (r : Except Exc AdaptiveInferenceResult) (log : List InferenceCall)
    (event : AdaptiveExecutionTelemetry) : Prop where
  request : event.requestId = run.correlationId
  count : event.attemptCount = attempts.length + entries log
  escalated : event.escalated = decide (1 < event.attemptCount)
  known : event.cumulativeKnownCostUsd =
    (costs attempts ++ loggedCosts run.correlationId log).foldl addMoney .zero
  execution : event.terminalOutcome = .returned ∨ event.terminalOutcome = .validationFailed →
    event.costComplete = true ∧ (loggedCosts run.correlationId log).length = entries log ∧
      ∃ execution : AdaptiveExecution, execution.attempts.length = event.attemptCount ∧
        execution.totalEstimatedCostUsd = some event.cumulativeKnownCostUsd ∧
        ∀ answer, r = .ok answer → answer.execution = some execution

/-- Every summary of the calls is booked. -/
def Books (run : ValidatedRun) (attempts : List AdaptiveAttempt)
    (r : Except Exc AdaptiveInferenceResult) (calls : List Call) (log : List InferenceCall) : Prop :=
  ∀ event ∈ recordedExecutions calls, Booked run attempts r log event

/-- Calls without a summary book nothing. -/
theorem books_of_unrecorded {run : ValidatedRun} {attempts : List AdaptiveAttempt}
    {r : Except Exc AdaptiveInferenceResult} {calls : List Call} {log : List InferenceCall}
    (h : recordedExecutions calls = []) : Books run attempts r calls log := by
  intro event hevent
  rw [h] at hevent
  cases hevent

/-- All costs of attempts are known exactly when none is missing. -/
theorem totalCost_of_known {attempts : List AdaptiveAttempt}
    (h : ∀ a ∈ attempts, a.estimatedCostUsd.isSome) :
    totalCost attempts = some (knownCost attempts) := by
  rw [totalCost, if_neg]
  intro hany
  obtain ⟨a, ha, hnone⟩ := List.any_eq_true.mp hany
  have hsome := h a ha
  rw [Option.isNone_iff_eq_none.mp hnone] at hsome
  cases hsome

/-! ## The calls of the loop and its log -/

section walk
variable {inference : InferenceService σ} {routing : RoutingDecisionService}
  {validator : InferenceResponse → ValidationContract → σ → Except Exc ValidationResult × σ}
  {record : Option (AdaptiveExecutionTelemetry → ℚ → σ → Except Exc Unit × σ)}
  {maxValidationAttempts : ℕ}
  {range : 1 ≤ maxValidationAttempts ∧ maxValidationAttempts ≤ 3}

/-- The service logs its model calls only. -/
theorem via_logsApart :
    LogsApart (via inference routing validator record maxValidationAttempts range) where
  clock := ⟨_, rfl⟩
  newUuid := ⟨_, rfl⟩
  record := by
    intro write hwrite event timeout
    obtain ⟨g, -, rfl⟩ := Option.map_eq_some_iff.mp hwrite
    exact ⟨_, rfl⟩

/-- What an iteration books: an attempt with its cost if the loop goes on, else its summary. -/
def StepBooks (run : ValidatedRun) (attempts : List AdaptiveAttempt) :
    Except Exc (AdaptiveAttempt ⊕ AdaptiveInferenceResult) → List Call → List InferenceCall → Prop
  | .ok (.inl attempt), calls, log => recordedExecutions calls = [] ∧ entries log = 1 ∧
      ∃ cost, attempt.estimatedCostUsd = some cost ∧ loggedCosts run.correlationId log = [cost]
  | .ok (.inr answer), calls, log => Books run attempts (.ok answer) calls log
  | .error e, calls, log => Books run attempts (.error e) calls log

variable {run : ValidatedRun} {attempts : List AdaptiveAttempt}

/-- Books depend on the summaries of the calls only. -/
theorem StepBooks.of_recorded {r : Except Exc (AdaptiveAttempt ⊕ AdaptiveInferenceResult)}
    {calls calls' : List Call} {log : List InferenceCall} (h : StepBooks run attempts r calls log)
    (heq : recordedExecutions calls' = recordedExecutions calls) :
    StepBooks run attempts r calls' log := by
  cases r with
  | error e =>
    rw [StepBooks, Books, heq]
    exact h
  | ok step =>
    cases step with
    | inl attempt =>
      rw [StepBooks, heq]
      exact h
    | inr answer =>
      rw [StepBooks, Books, heq]
      exact h

/-- A provider failure counts an attempt of unknown cost. -/
theorem providerFailed_books {attemptNumber : ℕ} (hn : attemptNumber = attempts.length + 1) {e : Exc}
    (spent : List InferenceCall) (hspent : e.isInstance .exception = true →
      entries spent = 1 ∧ loggedCosts run.correlationId spent = []) :
    ((via inference routing validator record maxValidationAttempts range).providerFailed run
      attempts attemptNumber e).Logs fun r calls log =>
        StepBooks run attempts r calls (spent ++ log) := by
  refine (providerFailed_logs via_logsApart attemptNumber e).mono ?_
  rintro r calls _ ⟨rfl, hr, hevents⟩
  cases r with
  | ok step => exact absurd rfl (hr step)
  | error e' =>
    intro event hevent
    obtain ⟨he, hfields⟩ := hevents event hevent
    obtain ⟨hentered, hcosts⟩ := hspent he
    rw [List.append_nil]
    refine ⟨?_, ?_, ?_, ?_, ?_⟩
    · rw [hfields]
      rfl
    · rw [hfields, hentered]
      exact hn
    · rw [hfields]
      rfl
    · rw [hfields, hcosts, List.append_nil]
      rfl
    · rw [hfields]
      intro hterminal
      simp only [failureFields, failureOutcome] at hterminal
      split at hterminal
      · rcases hterminal with h | h
        · cases h
        · cases h
      · rcases hterminal with h | h
        · cases h
        · cases h

/-- The summary of a validated exit is booked with the cost of the last attempt. -/
theorem booked_of_attempts {attempt : AdaptiveAttempt} {cost : Money}
    (hcost : attempt.estimatedCostUsd = some cost)
    (hknown : ∀ a ∈ attempts, a.estimatedCostUsd.isSome) {spent : List InferenceCall}
    (hentered : entries spent = 1) (hspent : loggedCosts run.correlationId spent = [cost])
    {event : AdaptiveExecutionTelemetry} {status : ValidationStatus}
    {r : Except Exc AdaptiveInferenceResult} (hrequest : event.requestId = run.correlationId)
    (hcount : event.attemptCount = (attempts ++ [attempt]).length)
    (hescalated : event.escalated = decide (1 < (attempts ++ [attempt]).length))
    (htotal : event.cumulativeKnownCostUsd = knownCost (attempts ++ [attempt]))
    (hcomplete : event.costComplete =
      (execution (attempts ++ [attempt]) status).totalEstimatedCostUsd.isSome)
    (hr : ∀ answer, r = .ok answer →
      answer.execution = some (execution (attempts ++ [attempt]) status)) :
    Booked run attempts r spent event := by
  have hall : ∀ a ∈ attempts ++ [attempt], a.estimatedCostUsd.isSome := by
    intro a ha
    rcases List.mem_append.mp ha with ha | ha
    · exact hknown a ha
    · rw [List.mem_singleton.mp ha, hcost]
      rfl
  have htotalCost := totalCost_of_known hall
  refine ⟨hrequest, ?_, ?_, ?_, fun _ => ⟨?_, ?_, _, ?_, ?_, hr⟩⟩
  · rw [hcount, hentered, List.length_append, List.length_singleton]
  · rw [hcount]
    exact hescalated
  · rw [htotal, hspent, knownCost, List.filterMap_append]
    simp only [List.filterMap_cons, List.filterMap_nil, hcost, costs]
  · rw [hcomplete]
    exact congrArg Option.isSome htotalCost
  · rw [hspent, hentered]
    rfl
  · exact hcount.symm
  · rw [htotal]
    exact htotalCost

/-- Every iteration books its call. -/
theorem attemptStep_logs {attemptNumber : ℕ} (hn : attemptNumber = attempts.length + 1)
    (hknown : ∀ a ∈ attempts, a.estimatedCostUsd.isSome) (modelId : Identifier) :
    ((via inference routing validator record maxValidationAttempts range).attemptStep run attempts
      attemptNumber modelId).Logs (StepBooks run attempts) := by
  refine checkDeadline_bind_logs via_logsApart ?_ (books_of_unrecorded rfl)
  refine Traced.logs_logged_bind (inference.generate_spent modelId.value run.request
    run.correlationId run.deadline .adaptive) fun outcome spent hspent => ?_
  refine Traced.logs_tell_bind ?_
  cases hout : completed outcome with
  | error e =>
    refine (providerFailed_books hn spent fun he => ?_).mono fun r calls log h =>
      h.of_recorded rfl
    have hlive : ¬ Cancelled outcome := by
      rintro ⟨e', rfl, hcancelled⟩
      cases e' with
      | completionRejected => cases hout
      | raised | gateway =>
        cases hout
        rw [he] at hcancelled
        cases hcancelled
    have hspent := hspent.resolve_left hlive
    refine ⟨hspent.entered, hspent.costs.trans ?_⟩
    rw [completedCost, hout]
  | ok response =>
    have hlive : ¬ Cancelled outcome := by
      rintro ⟨e', rfl, hcancelled⟩
      cases e' with
      | completionRejected => cases hcancelled
      | raised | gateway => cases hout
    obtain ⟨hentered, hcosts⟩ := hspent.resolve_left hlive
    rw [completedCost, hout] at hcosts
    refine checkDeadline_bind_logs via_logsApart ?_ (books_of_unrecorded rfl)
    refine Traced.logs_unlogged_bind fun validated => Traced.logs_tell_bind ?_
    refine Traced.logs_ofExcept_bind (fun result hresult => ?_)
      (fun e he => books_of_unrecorded rfl)
    refine checkDeadline_bind_logs via_logsApart ?_ (books_of_unrecorded rfl)
    refine Traced.logs_tell_bind ?_
    have hfailures : recordedExecutions (result.failures.map
        fun f => Call.validationFailure modelId f.code attemptNumber) = [] := by
      simp [recordedExecutions, Call.recorded?]
    have hfront (calls : List Call) : recordedExecutions (.expired false ::
        ([.generate modelId outcome] ++ .expired false :: ([.validate response validated] ++
          .expired false :: (result.failures.map
            (fun f => Call.validationFailure modelId f.code attemptNumber) ++ calls)))) =
        recordedExecutions calls := by
      show recordedExecutions (result.failures.map
        (fun f => Call.validationFailure modelId f.code attemptNumber) ++ calls) = _
      rw [recordedExecutions_append, hfailures, List.nil_append]
    have hcost : (attemptOf attemptNumber modelId response result).estimatedCostUsd =
        some response.estimatedCostUsd := rfl
    dsimp only
    split
    · have hbooked {r calls} (hr : ∀ answer, r = Except.ok answer → answer.execution =
          some (execution (attempts ++ [attemptOf attemptNumber modelId response result])
            result.status)) (hevents : ∀ event ∈ recordedExecutions calls,
          event.toAdaptiveExecutionFields = returnedFields run
            (attempts ++ [attemptOf attemptNumber modelId response result]) response result) :
          Books run attempts r calls spent := by
        intro event hevent
        have hfields := hevents event hevent
        exact booked_of_attempts hcost hknown hentered hcosts (by rw [hfields]; rfl)
          (by rw [hfields]; rfl) (by rw [hfields]; rfl) (by rw [hfields]; rfl)
          (by rw [hfields]; rfl) hr
      refine (returned_logs via_logsApart response result).bind ?_ ?_
      · rintro answer calls _ ⟨rfl, hr, hevents⟩
        refine Traced.logs_pure ?_
        rw [List.append_nil, List.append_nil, List.append_nil]
        exact StepBooks.of_recorded (hbooked hr hevents) (hfront calls)
      · rintro e calls _ ⟨rfl, hr, hevents⟩
        rw [List.append_nil]
        exact StepBooks.of_recorded (hbooked hr hevents) (hfront calls)
    · split
      · refine (validationFailed_logs via_logsApart result).mono ?_
        rintro r calls _ ⟨rfl, hr, hevents⟩
        rw [List.append_nil]
        refine StepBooks.of_recorded ?_ (hfront calls)
        have hbooked : ∀ r', (∀ answer, r' ≠ Except.ok answer) → Books run attempts r' calls spent := by
          intro r' hr' event hevent
          have hfields := hevents event hevent
          exact booked_of_attempts hcost hknown hentered hcosts (by rw [hfields]; rfl)
            (by rw [hfields]; rfl) (by rw [hfields]; rfl) (by rw [hfields]; rfl)
            (by rw [hfields]; rfl) fun answer h => absurd h (hr' answer)
        cases r with
        | ok step => exact absurd rfl (hr step)
        | error e =>
          refine hbooked (.error e) fun answer h => ?_
          cases h
      · refine Traced.logs_pure ?_
        rw [List.append_nil spent]
        exact ⟨hfront [], hentered, _, hcost, hcosts⟩

/-- **Every summary of the loop is booked**, by recursion on the ids that are left: an iteration that
goes on adds one call and its cost to both sides. -/
theorem attemptLoop_books {attemptNumber : ℕ} (hn : attemptNumber = attempts.length + 1)
    (hknown : ∀ a ∈ attempts, a.estimatedCostUsd.isSome) (ids : List Identifier) :
    ((via inference routing validator record maxValidationAttempts range).attemptLoop run attempts
      attemptNumber ids).Logs (Books run attempts) := by
  induction ids generalizing attempts attemptNumber with
  | nil => exact Traced.logs_raise (books_of_unrecorded rfl)
  | cons modelId rest ih =>
    refine (attemptStep_logs hn hknown modelId).bind ?_ (fun e calls log h => h)
    rintro (attempt | answer) calls log hstep
    rotate_left
    · refine Traced.logs_pure ?_
      rw [List.append_nil, List.append_nil]
      exact hstep
    obtain ⟨hrecorded, hentered, cost, hcost, hlogged⟩ := hstep
    have hlength : (attempts ++ [attempt]).length = attempts.length + 1 := by
      rw [List.length_append, List.length_singleton]
    have hall : ∀ a ∈ attempts ++ [attempt], a.estimatedCostUsd.isSome := by
      intro a ha
      rcases List.mem_append.mp ha with ha | ha
      · exact hknown a ha
      · rw [List.mem_singleton.mp ha, hcost]
        rfl
    refine (ih (by rw [hlength, hn]) hall).mono ?_
    intro r calls' log' hbooks event hevent
    rw [recordedExecutions_append, hrecorded, List.nil_append] at hevent
    obtain ⟨hrequest, hcount, hescalated, htotal, hexecution⟩ := hbooks event hevent
    refine ⟨hrequest, ?_, hescalated, ?_, fun hterminal => ?_⟩
    · rw [hcount, hlength, entries_append, hentered, Nat.add_assoc]
    · have hcosts : costs (attempts ++ [attempt]) = costs attempts ++ [cost] := by
        rw [costs, List.filterMap_append]
        simp only [List.filterMap_cons, List.filterMap_nil, hcost, costs]
      rw [htotal, hcosts, loggedCosts_append, hlogged, List.append_assoc]
    · obtain ⟨hcomplete, hlen, hanswer⟩ := hexecution hterminal
      refine ⟨hcomplete, ?_, hanswer⟩
      rw [loggedCosts_append, List.length_append, hlen, entries_append, hentered, hlogged]
      rfl

end walk

/-! ## Exact sums -/

/-- A value that the default decimal context holds without rounding. -/
def FitsContext (q : ℚ) : Prop :=
  ∃ d : Decimal, Decimal.digits d.coeff.natAbs ≤ 28 ∧ -1000026 ≤ d.exp ∧
    d.exp + Decimal.digits d.coeff.natAbs - 1 ≤ 999999 ∧ d.toRat = q

/-- Every partial sum of the costs fits the default context. -/
def SumsFit (costs : List Money) : Prop :=
  ∀ front, front <+: costs → FitsContext (front.map Money.toRat).sum

theorem FitsContext.representable {q : ℚ} (h : FitsContext q) : Decimal.Representable 28 q := by
  obtain ⟨d, hdigits, _, _, hd⟩ := h
  exact ⟨d, hdigits, hd⟩

/-- Costs whose partial sums fit are added without rounding, by recursion from the last one. -/
theorem toRat_foldl_addMoney {costs : List Money} (h : SumsFit costs) :
    (costs.foldl addMoney .zero).toRat = (costs.map Money.toRat).sum := by
  induction costs using List.reverseRecOn with
  | nil => exact Decimal.toRat_zero 0
  | append_singleton front cost ih =>
    have hfront := ih fun part hpart => h part (hpart.trans (List.prefix_append _ _))
    have hsum : ((front ++ [cost]).map Money.toRat).sum =
        (front.foldl addMoney .zero).toRat + cost.toRat := by
      rw [List.map_append, List.sum_append, hfront]
      simp
    have hfit := (h _ (List.prefix_refl _)).representable
    rw [hsum] at hfit ⊢
    rw [List.foldl_append]
    exact Decimal.toRat_add_of_representable hfit

/-! ## The ledger -/

/-- Every model call of the run resolved its adapter. -/
def ReachedProviders (log : List InferenceCall) : Prop := startedAttempts log = entries log

/-- A summary that counts the model calls of its run, and claims complete costs exactly where every
attempt has a known one. -/
structure Counted (log : List InferenceCall) (event : AdaptiveExecutionTelemetry) : Prop where
  attempts : event.attemptCount = entries log
  escalated : event.escalated = true ↔ 1 < event.attemptCount
  complete : event.terminalOutcome = .returned ∨ event.terminalOutcome = .validationFailed →
    (event.costComplete = true ↔ (loggedCosts event.requestId log).length = event.attemptCount)

/-- A summary of the exact sum of the costs in the per-attempt events of its request, which is also
the total of the execution it was made from. -/
structure Summed (r : Except Exc AdaptiveInferenceResult) (log : List InferenceCall)
    (event : AdaptiveExecutionTelemetry) : Prop where
  known : event.cumulativeKnownCostUsd.toRat =
    ((loggedCosts event.requestId log).map Money.toRat).sum
  total : event.terminalOutcome = .returned ∨ event.terminalOutcome = .validationFailed →
    event.costComplete = true → ∃ (execution : AdaptiveExecution) (total : Money),
      execution.attempts.length = event.attemptCount ∧
        (∀ answer, r = .ok answer → answer.execution = some execution) ∧
          execution.totalEstimatedCostUsd = some total ∧
            total.toRat = ((loggedCosts event.requestId log).map Money.toRat).sum

/-- The books of a run that starts without attempts are its ledger. -/
theorem Booked.ledger {run : ValidatedRun} {r : Except Exc AdaptiveInferenceResult}
    {log : List InferenceCall} {event : AdaptiveExecutionTelemetry}
    (h : Booked run [] r log event) :
    Counted log event ∧ (SumsFit (loggedCosts event.requestId log) → Summed r log event) := by
  obtain ⟨hrequest, hcount, hescalated, hknown, hexecution⟩ := h
  rw [List.length_nil, Nat.zero_add] at hcount
  rw [hrequest]
  refine ⟨⟨hcount, ?_, fun hterminal => ?_⟩, fun hfit => ⟨?_, fun hterminal _ => ?_⟩⟩
  · rw [hescalated]
    exact decide_eq_true_iff
  · obtain ⟨hcomplete, hlength, _⟩ := hexecution hterminal
    rw [hrequest, hlength, hcount]
    exact iff_of_true hcomplete rfl
  · rw [hrequest, hknown]
    exact toRat_foldl_addMoney hfit
  · obtain ⟨_, _, execution, hattempts, htotal, hanswer⟩ := hexecution hterminal
    refine ⟨execution, _, hattempts, hanswer, htotal, ?_⟩
    rw [hrequest, hknown]
    exact toRat_foldl_addMoney hfit

/-- **The ledger of a validated run.** Every summary counts the model calls, which are the provider
attempts started where every call reached its provider; and it states the exact sum of the logged
costs where every partial sum fits the default decimal context. -/
theorem generateValidated_ledger (inference : InferenceService σ) (routing : RoutingDecisionService)
    (validator : InferenceResponse → ValidationContract → σ → Except Exc ValidationResult × σ)
    (record : Option (AdaptiveExecutionTelemetry → ℚ → σ → Except Exc Unit × σ))
    {maxValidationAttempts : ℕ} (range : 1 ≤ maxValidationAttempts ∧ maxValidationAttempts ≤ 3)
    (request : InferenceRequest) (validation : ValidationContract) (result : RoutingResult)
    (requestId : Option String) (deadline : RequestDeadline) :
    ((via inference routing validator record maxValidationAttempts range).generateValidated request
      validation result requestId deadline).Logs fun r calls log =>
        ∀ event ∈ recordedExecutions calls, Counted log event ∧
          (ReachedProviders log → event.attemptCount = startedAttempts log) ∧
          (SumsFit (loggedCosts event.requestId log) → Summed r log event) := by
  refine (correlationId_logs via_logsApart requestId).bind ?_
    (fun e _ _ ⟨⟨_, h⟩, _⟩ => nomatch h)
  rintro id _ _ ⟨_, rfl, rfl⟩
  refine (attemptLoop_books rfl (List.forall_mem_nil _) _).mono ?_
  intro r calls log hbooks event hevent
  obtain ⟨hcounted, hsummed⟩ := (hbooks event hevent).ledger
  exact ⟨hcounted, fun hreached => hcounted.attempts.trans hreached.symm, hsummed⟩

/-- The decision for the sample model. -/
def sampleRouting : RoutingResult where
  decision := {
    selectedModelId := ModelConfig.sample.modelId
    selectedPredictedAcceptability := .one
    selectedProjectedCostUsd := .zero
    qualityThreshold := .one
    thresholdSatisfied := true
    fallbackUsed := false
    eligibleCandidateCount := 1
    qualifyingCandidateCount := 1
    reason := .qualityThresholdMet
    eligible_ne_zero := Nat.one_ne_zero }
  candidates := []

/-- A run of the sample request over the inference service, whose one completion has a cost and passes
its validation. -/
def ledgerRun (cost : Money) :
    Except Exc AdaptiveInferenceResult × (ℚ × List InferenceCall) × List Call :=
  (via (.sample fun _ _ s => (.ok (some { InferenceResponse.sample with estimatedCostUsd := cost }), s))
    (sampleService 1).routing (fun _ _ s => (.ok .pass, s)) none 3
    (sampleService 1).attempts_range).generateValidated
    .sample .nonemptyText sampleRouting none (.start 60 0) (0, [])

/-- The summary and the logged costs of a run. -/
def ledgerOf (cost : Money) : List (String × Money) × List Money :=
  ((recordedExecutions (ledgerRun cost).2.2).map fun event =>
    (event.requestId, event.cumulativeKnownCostUsd),
    loggedCosts Uuid.sample.text (ledgerRun cost).2.1.2)

/-- A dollar. -/
def dollar : Money := ⟨⟨1, 0⟩, Int.one_nonneg⟩

/-- A completion of one dollar is summed exactly. -/
theorem generateValidated_ledger_sample :
    ∃ event ∈ recordedExecutions (ledgerRun dollar).2.2,
      Summed (ledgerRun dollar).1 (ledgerRun dollar).2.1.2 event := by
  have hledger : ledgerOf dollar = ([(Uuid.sample.text, dollar)], [dollar]) := by decide +kernel
  obtain ⟨hsummary, hlogged⟩ := Prod.mk.inj hledger
  obtain ⟨event, hevent, heq⟩ := List.mem_map.mp (hsummary ▸ List.mem_singleton_self _)
  obtain ⟨log, hlog, hbooks⟩ := generateValidated_ledger
    (.sample fun _ _ s => (.ok (some { InferenceResponse.sample with estimatedCostUsd := dollar }), s))
    (sampleService 1).routing (fun _ _ s => (.ok .pass, s)) none (by decide : 1 ≤ 3 ∧ 3 ≤ 3)
    .sample .nonemptyText sampleRouting none (.start 60 0) 0 []
  obtain rfl : (ledgerRun dollar).2.1.2 = log := hlog
  refine ⟨event, hevent, (hbooks event hevent).2.2 ?_⟩
  rw [(Prod.mk.inj heq).1]
  intro front hfront
  rw [show loggedCosts Uuid.sample.text _ = [dollar] from hlogged, List.prefix_cons_iff] at hfront
  rcases hfront with rfl | ⟨part, rfl, hpart⟩
  · exact ⟨⟨0, 0⟩, by decide, by decide, by decide, Decimal.toRat_zero 0⟩
  · rw [List.prefix_nil.mp hpart]
    exact ⟨⟨1, 0⟩, by decide, by decide, by decide, by decide +kernel⟩

/-- A model whose input price has 29 digits. -/
def preciseModel : ModelConfig :=
  { ModelConfig.sample with inputCostPer1mTokens := ⟨⟨10 ^ 28 + 1, -28⟩, by decide⟩ }

/-- Its price for one token is exact and has 29 digits; the summary of its only attempt rounds it
to 28. -/
theorem precise_cost_rounded :
    ReachedProviders (ledgerRun (calculateCost 1 1 preciseModel)).2.1.2 ∧
      ¬ ∀ event ∈ recordedExecutions (ledgerRun (calculateCost 1 1 preciseModel)).2.2,
        Summed (ledgerRun (calculateCost 1 1 preciseModel)).1
          (ledgerRun (calculateCost 1 1 preciseModel)).2.1.2 event := by
  have hledger : ledgerOf (calculateCost 1 1 preciseModel) =
      ([(Uuid.sample.text, ⟨⟨10 ^ 27, -33⟩, by decide⟩)],
        [⟨⟨10 ^ 28 + 1, -34⟩, by decide⟩]) := by decide +kernel
  refine ⟨by unfold ReachedProviders; decide +kernel, fun h => ?_⟩
  obtain ⟨hsummary, hlogged⟩ := Prod.mk.inj hledger
  obtain ⟨event, hevent, heq⟩ := List.mem_map.mp (hsummary ▸ List.mem_singleton_self _)
  obtain ⟨hrequest, hcost⟩ := Prod.mk.inj heq
  have hknown := (h event hevent).known
  rw [hrequest, hcost, show loggedCosts Uuid.sample.text _ = _ from hlogged] at hknown
  exact absurd hknown (by decide +kernel)

end AdaptiveInferenceService

end RouteLLM
