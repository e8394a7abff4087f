import RouteLLM.Application.Adaptive

/-!
# What one iteration of the validated loop does

The recorded calls of an iteration, once for all properties of the loop. `NextStep` is an iteration
after which the loop goes on, `FinalStep` one that ends it; `attemptStep_holds` says that these are
all. An iteration that executes a model records it right after a deadline check that passed, and
ends in one of the ways of `StepEnd`.
-/

namespace RouteLLM

namespace Call

/-- Calls to the observability and the telemetry: no deadline check, no execution, no validation. -/
def quiet : Call → Bool
  | expired _ | generate .. | validate .. => false
  | _ => true

/-- The summary handed to `_record_execution`. -/
def recorded? : Call → Option AdaptiveExecutionTelemetry
  | recordExecution event => some event
  | _ => none

/-- The terminal event. -/
def terminal? : Call → Option AdaptiveRequestEvent
  | adaptiveRequest event => some event
  | _ => none

end Call

/-- The execution of a model, with the result of its validation if it was validated. -/
structure ExecutedAttempt where
  modelId : Identifier
  outcome : Except Exc InferenceResponse
  validation : Option ValidationResult

/-- The validation result recorded before the next execution. -/
def validationOf : List Call → Option ValidationResult
  | [] => none
  | .validate _ (.ok result) :: _ => some result
  | .generate .. :: _ => none
  | _ :: calls => validationOf calls

/-- The executed attempts of a run, in order. -/
def executedAttempts : List Call → List ExecutedAttempt
  | [] => []
  | .generate modelId outcome :: calls =>
    ⟨modelId, outcome, validationOf calls⟩ :: executedAttempts calls
  | _ :: calls => executedAttempts calls

/-- The ids of the executed models, in order. -/
def executedIds (calls : List Call) : List Identifier := (executedAttempts calls).map (·.modelId)

@[simp] theorem length_executedIds (calls : List Call) :
    (executedIds calls).length = (executedAttempts calls).length := List.length_map _

/-- The summaries of a run. -/
def recordedExecutions (calls : List Call) : List AdaptiveExecutionTelemetry :=
  calls.filterMap Call.recorded?

/-- The terminal events of a run. -/
def terminalEvents (calls : List Call) : List AdaptiveRequestEvent := calls.filterMap Call.terminal?

/-- Calls that close a run: one summary and one terminal event, of one outcome. -/
structure Closed (outcome : AdaptiveTerminalOutcome) (calls : List Call) : Prop where
  recorded : ∃ event, recordedExecutions calls = [event] ∧ event.terminalOutcome = outcome
  terminal : ∃ event, terminalEvents calls = [event] ∧ event.terminalOutcome = outcome

/-- The bounds of the ids of a run under which every exit can create its summary. -/
structure ValidatedRun.Bounded (run : ValidatedRun) : Prop where
  id_pos : 1 ≤ run.correlationId.length
  id_le : run.correlationId.length ≤ 128

@[simp] theorem executedAttempts_generate (modelId : Identifier)
    (outcome : Except Exc InferenceResponse) (calls : List Call) :
    executedAttempts (.generate modelId outcome :: calls) =
      ⟨modelId, outcome, validationOf calls⟩ :: executedAttempts calls := rfl

@[simp] theorem executedAttempts_expired (found : Bool) (calls : List Call) :
    executedAttempts (.expired found :: calls) = executedAttempts calls := rfl

@[simp] theorem executedAttempts_validate (response : InferenceResponse)
    (outcome : Except Exc ValidationResult) (calls : List Call) :
    executedAttempts (.validate response outcome :: calls) = executedAttempts calls := rfl

@[simp] theorem validationOf_expired (found : Bool) (calls : List Call) :
    validationOf (.expired found :: calls) = validationOf calls := rfl

@[simp] theorem validationOf_validate (response : InferenceResponse) (result : ValidationResult)
    (calls : List Call) : validationOf (.validate response (.ok result) :: calls) = some result :=
  rfl

/-! ## Quiet calls -/

section
variable {calls rest : List Call}

/-- Quiet calls execute nothing. -/
theorem executedAttempts_quiet_append (h : ∀ c ∈ calls, c.quiet = true) (rest : List Call) :
    executedAttempts (calls ++ rest) = executedAttempts rest := by
  induction calls with
  | nil => rfl
  | cons c calls ih =>
    have hc := h c (.head _)
    have ih := ih fun d hd => h d (.tail _ hd)
    cases c with
    | expired | generate | validate => cases hc
    | _ => exact ih

theorem executedAttempts_quiet (h : ∀ c ∈ calls, c.quiet = true) : executedAttempts calls = [] := by
  simpa [executedAttempts] using executedAttempts_quiet_append h []

/-- Quiet calls validate nothing. -/
theorem validationOf_quiet (h : ∀ c ∈ calls, c.quiet = true) : validationOf calls = none := by
  induction calls with
  | nil => rfl
  | cons c calls ih =>
    have hc := h c (.head _)
    have ih := ih fun d hd => h d (.tail _ hd)
    cases c with
    | expired | generate | validate => cases hc
    | _ => exact ih

/-- Quiet calls consult no deadline. -/
theorem expired_notMem_quiet (h : ∀ c ∈ calls, c.quiet = true) (b : Bool) :
    Call.expired b ∉ calls := fun hc => nomatch h _ hc

theorem validate_notMem_quiet (h : ∀ c ∈ calls, c.quiet = true) {response : InferenceResponse}
    {outcome : Except Exc ValidationResult} : Call.validate response outcome ∉ calls :=
  fun hc => nomatch h _ hc

@[simp] theorem recordedExecutions_append :
    recordedExecutions (calls ++ rest) = recordedExecutions calls ++ recordedExecutions rest :=
  List.filterMap_append

@[simp] theorem terminalEvents_append :
    terminalEvents (calls ++ rest) = terminalEvents calls ++ terminalEvents rest :=
  List.filterMap_append

end

/-! ## The parts of an iteration -/

namespace AdaptiveInferenceService

variable {σ α : Type} (service : AdaptiveInferenceService σ)

/-- A check finds the deadline open and goes on, or finds it expired and raises. -/
theorem checkDeadline_bind_holds {deadline : RequestDeadline} {f : Unit → Act σ α}
    {P : Except Exc α → List Call → Prop}
    (hopen : (f ()).Holds fun r calls => P r (.expired false :: calls))
    (hlate : P (.error deadlineExceeded) [.expired true]) :
    (service.checkDeadline deadline >>= f).Holds P := by
  have hcheck : (service.checkDeadline deadline).Holds fun r calls =>
      (r = .ok () ∧ calls = [.expired false]) ∨
        (r = .error deadlineExceeded ∧ calls = [.expired true]) := by
    refine Traced.holds_query_bind fun now => Traced.holds_tell_bind ?_
    cases deadline.expired now with
    | true => exact Traced.holds_raise (.inr ⟨rfl, rfl⟩)
    | false => exact Traced.holds_pure (.inl ⟨rfl, rfl⟩)
  refine hcheck.bind ?_ ?_
  · rintro ⟨⟩ calls (⟨-, rfl⟩ | ⟨h, -⟩)
    · exact hopen
    · cases h
  · rintro e calls (⟨h, -⟩ | ⟨⟨⟩, rfl⟩)
    · cases h
    · exact hlate

/-- Recording hands over the one summary, whatever becomes of the write, unless it is cancelled. -/
theorem recordExecution_holds (event : AdaptiveExecutionTelemetry) (deadline : RequestDeadline) :
    (service.recordExecution event deadline).Holds fun r calls =>
      (∀ c ∈ calls, c.quiet = true) ∧ (Cancelled r ∨
        (r = .ok () ∧ recordedExecutions calls = [event] ∧ terminalEvents calls = [])) := by
  refine Traced.holds_tell_bind ?_
  cases service.recordAdaptiveExecution with
  | none => exact Traced.holds_tell ⟨by simp [Call.quiet], .inr ⟨rfl, rfl, rfl⟩⟩
  | some record =>
    refine Traced.holds_query_bind fun now => ?_
    split
    · exact Traced.holds_tell ⟨by simp [Call.quiet], .inr ⟨rfl, rfl, rfl⟩⟩
    · refine Traced.holds_query_bind fun outcome => ?_
      split
      · exact Traced.holds_tell ⟨by simp [Call.quiet], .inr ⟨rfl, rfl, rfl⟩⟩
      · rename_i e
        by_cases he : e.isInstance .exception = true
        · rw [if_pos he]
          exact Traced.holds_tell ⟨by simp [Call.quiet], .inr ⟨rfl, rfl, rfl⟩⟩
        · rw [if_neg he]
          exact Traced.holds_raise
            ⟨by simp [Call.quiet], .inl ⟨e, rfl, Bool.eq_false_of_not_eq_true he⟩⟩

/-- An exit: quiet calls that close the run with an outcome and end in `r`, unless cancelled. -/
def Exit (outcome : AdaptiveTerminalOutcome) (end_ : Except Exc α) (r : Except Exc α)
    (calls : List Call) : Prop :=
  (∀ c ∈ calls, c.quiet = true) ∧ (Cancelled r ∨ (r = end_ ∧ Closed outcome calls))

/-- Every exit creates one summary, records it, and emits one terminal event. -/
theorem exit_holds {fields : AdaptiveExecutionFields} {request : AdaptiveRequestEvent}
    {deadline : RequestDeadline} {outcome : AdaptiveTerminalOutcome} {last : Act σ α}
    {end_ : Except Exc α} (hcreate : ∃ event, AdaptiveExecutionTelemetry.create fields = .ok event ∧
      event.toAdaptiveExecutionFields = fields)
    (hf : fields.terminalOutcome = outcome) (hr : request.terminalOutcome = outcome)
    (hlast : last.Holds fun r calls => r = end_ ∧ calls = []) :
    Traced.Holds (do
      let event ← .ofExcept (AdaptiveExecutionTelemetry.create fields)
      service.recordExecution event deadline
      .tell [.adaptiveRequest request]
      last : Act σ α) (Exit outcome end_) := by
  obtain ⟨event, hevent, hfields⟩ := hcreate
  refine Traced.holds_ofExcept_bind (fun ev hev => ?_) (by simp [hevent])
  obtain rfl : event = ev := by simpa [hevent] using hev
  refine (service.recordExecution_holds event deadline).bind ?_ ?_
  · rintro ⟨⟩ calls ⟨hquiet, ⟨e, he, -⟩ | ⟨-, hrec, hterm⟩⟩
    · cases he
    refine Traced.holds_tell_bind (hlast.mono ?_)
    rintro r calls' ⟨rfl, rfl⟩
    refine ⟨?_, .inr ⟨rfl, ?_, ?_⟩⟩
    · simpa [or_imp, forall_and, Call.quiet] using hquiet
    · refine ⟨event, by rw [recordedExecutions_append, hrec]; rfl, ?_⟩
      rw [hfields, hf]
    · exact ⟨request, by rw [terminalEvents_append, hterm]; rfl, hr⟩
  · rintro e calls ⟨hquiet, ⟨e', he, hc⟩ | ⟨he, -⟩⟩
    · cases he
      exact ⟨hquiet, .inl ⟨e, rfl, hc⟩⟩
    · cases he

section exits
variable {run : ValidatedRun} (hrun : run.Bounded) {attempts : List AdaptiveAttempt}
include hrun

/-- The handler of a provider exception records the failure, unless it was a cancellation. -/
theorem providerFailed_holds {attemptNumber : ℕ} (h1 : 1 ≤ attemptNumber) (h3 : attemptNumber ≤ 3)
    (e : Exc) : (service.providerFailed run attempts attemptNumber e : Act σ α).Holds
      (Exit (failureOutcome e) (.error e)) := by
  unfold providerFailed
  by_cases he : e.isInstance .exception = true
  rotate_left
  · rw [if_pos he]
    exact Traced.holds_raise
      ⟨List.forall_mem_nil _, .inl ⟨e, rfl, Bool.eq_false_of_not_eq_true he⟩⟩
  · rw [if_neg (not_not.mpr he)]
    have hversion : ∀ v ∈ (failureFields run attempts attemptNumber e).validatorVersion,
        v.length ≤ 64 := by
      intro v hv
      obtain ⟨-, -, rfl⟩ := Option.map_eq_some_iff.mp hv
      decide
    exact service.exit_holds (AdaptiveExecutionTelemetry.create_eq_ok
      ⟨hrun.id_pos, hrun.id_le⟩ ⟨h1, h3⟩ hversion (Nat.zero_le _)) rfl rfl
      (Traced.holds_raise ⟨rfl, rfl⟩)

/-- The exit on a passed response records the return. -/
theorem returned_holds (h1 : 1 ≤ attempts.length) (h3 : attempts.length ≤ 3)
    (response : InferenceResponse) (result : ValidationResult) :
    (service.returned run attempts response result).Holds
      (Exit .returned (.ok ⟨response, run.decision, some (execution attempts result.status)⟩)) := by
  have hversion : ∀ v ∈ (returnedFields run attempts response result).validatorVersion,
      v.length ≤ 64 := by
    rintro v ⟨⟩
    decide
  exact service.exit_holds (AdaptiveExecutionTelemetry.create_eq_ok
    ⟨hrun.id_pos, hrun.id_le⟩ ⟨h1, h3⟩ hversion (Nat.zero_le _)) rfl rfl
    (Traced.holds_pure ⟨rfl, rfl⟩)

/-- The exit on a rejected response records the failed validation. -/
theorem validationFailed_holds (h1 : 1 ≤ attempts.length) (h3 : attempts.length ≤ 3)
    (result : ValidationResult) : (service.validationFailed run attempts result : Act σ α).Holds
      (Exit .validationFailed (.error validationFailedError)) := by
  have hversion : ∀ v ∈ (rejectedFields run attempts result).validatorVersion, v.length ≤ 64 := by
    rintro v ⟨⟩
    decide
  have hcodes : (rejectedFields run attempts result).failureCodes.length ≤ maxFailures := by
    simpa [rejectedFields] using result.failures_length
  exact service.exit_holds (AdaptiveExecutionTelemetry.create_eq_ok
    ⟨hrun.id_pos, hrun.id_le⟩ ⟨h1, h3⟩ hversion hcodes) rfl rfl (Traced.holds_raise ⟨rfl, rfl⟩)

end exits

/-! ## The iteration -/

/-- How an iteration that executed a model ends the loop: the calls after the execution, and the
result of the loop. -/
inductive StepEnd (run : ValidatedRun) (attempts : List AdaptiveAttempt) (attemptNumber : ℕ)
    (modelId : Identifier) (outcome : Except Exc InferenceResponse) :
    List Call → Except Exc AdaptiveInferenceResult → Prop
  | cancelled {calls r} (hr : Cancelled r) : StepEnd run attempts attemptNumber modelId outcome calls r
  | providerFailed {e calls} (hout : completed outcome = .error e)
      (hquiet : ∀ c ∈ calls, c.quiet = true) (hclosed : Closed (failureOutcome e) calls) :
      StepEnd run attempts attemptNumber modelId outcome calls (.error e)
  | lateResponse {response} (hout : completed outcome = .ok response) :
      StepEnd run attempts attemptNumber modelId outcome [.expired true] (.error deadlineExceeded)
  | validatorRaised {response e} (hout : completed outcome = .ok response) :
      StepEnd run attempts attemptNumber modelId outcome
        [.expired false, .validate response (.error e)] (.error e)
  | lateValidation {response result} (hout : completed outcome = .ok response) :
      StepEnd run attempts attemptNumber modelId outcome
        [.expired false, .validate response (.ok result), .expired true] (.error deadlineExceeded)
  | passed {response result calls} (hout : completed outcome = .ok response)
      (hstatus : result.status = .passed) (hquiet : ∀ c ∈ calls, c.quiet = true)
      (hclosed : Closed .returned calls) :
      StepEnd run attempts attemptNumber modelId outcome
        (.expired false :: .validate response (.ok result) :: .expired false :: calls)
        (.ok ⟨response, run.decision, some (execution
          (attempts ++ [attemptOf attemptNumber modelId response result]) result.status)⟩)
  | rejected {response result calls} (hout : completed outcome = .ok response)
      (hstatus : result.status ≠ .passed) (hquiet : ∀ c ∈ calls, c.quiet = true)
      (hclosed : Closed .validationFailed calls) :
      StepEnd run attempts attemptNumber modelId outcome
        (.expired false :: .validate response (.ok result) :: .expired false :: calls)
        (.error validationFailedError)

/-- An iteration after which the loop goes on: the response failed recoverably, and the candidate
was not the last one. -/
inductive NextStep (run : ValidatedRun) (attemptNumber : ℕ) (modelId : Identifier) :
    AdaptiveAttempt → List Call → Prop
  | mk {outcome response result calls} (hout : completed outcome = .ok response)
      (hrecoverable : result.recoverable = true) (hlast : attemptNumber ≠ run.modelIds.length)
      (hquiet : ∀ c ∈ calls, c.quiet = true) (hrecorded : recordedExecutions calls = [])
      (hterminal : terminalEvents calls = []) :
      NextStep run attemptNumber modelId (attemptOf attemptNumber modelId response result)
        (.expired false :: .generate modelId outcome :: .expired false ::
          .validate response (.ok result) :: .expired false :: calls)

/-- An iteration that ends the loop: its first check found the deadline expired, or it executed its
model once. -/
inductive FinalStep (run : ValidatedRun) (attempts : List AdaptiveAttempt) (attemptNumber : ℕ)
    (modelId : Identifier) : Except Exc AdaptiveInferenceResult → List Call → Prop
  | late : FinalStep run attempts attemptNumber modelId (.error deadlineExceeded) [.expired true]
  | executed {outcome calls r} (hexec : executedAttempts calls = [])
      (hend : StepEnd run attempts attemptNumber modelId outcome calls r) :
      FinalStep run attempts attemptNumber modelId r
        (.expired false :: .generate modelId outcome :: calls)

/-- What an iteration does. -/
def StepRun (run : ValidatedRun) (attempts : List AdaptiveAttempt) (attemptNumber : ℕ)
    (modelId : Identifier) :
    Except Exc (AdaptiveAttempt ⊕ AdaptiveInferenceResult) → List Call → Prop
  | .ok (.inl attempt), calls => NextStep run attemptNumber modelId attempt calls
  | .ok (.inr answer), calls => FinalStep run attempts attemptNumber modelId (.ok answer) calls
  | .error e, calls => FinalStep run attempts attemptNumber modelId (.error e) calls

/-- **Every iteration is a `NextStep` or a `FinalStep`.** -/
theorem attemptStep_holds {run : ValidatedRun} (hrun : run.Bounded)
    {attempts : List AdaptiveAttempt} (hlen : attempts.length < 3) {attemptNumber : ℕ}
    (h1 : 1 ≤ attemptNumber) (h3 : attemptNumber ≤ 3) (modelId : Identifier) :
    (service.attemptStep run attempts attemptNumber modelId).Holds
      (StepRun run attempts attemptNumber modelId) := by
  have hlen1 (a : AdaptiveAttempt) : 1 ≤ (attempts ++ [a]).length := by simp
  have hlen3 (a : AdaptiveAttempt) : (attempts ++ [a]).length ≤ 3 := by
    rw [List.length_append, List.length_singleton]
    exact hlen
  refine service.checkDeadline_bind_holds ?_ .late
  refine Traced.holds_query_bind fun outcome => Traced.holds_tell_bind ?_
  cases hout : completed outcome with
  | error e =>
    refine (service.providerFailed_holds hrun h1 h3 e).mono ?_
    rintro r calls ⟨hquiet, ⟨e', rfl, he'⟩ | ⟨rfl, hclosed⟩⟩
    · exact .executed (executedAttempts_quiet hquiet) (.cancelled ⟨e', rfl, he'⟩)
    · exact .executed (executedAttempts_quiet hquiet) (.providerFailed hout hquiet hclosed)
  | ok response =>
    refine service.checkDeadline_bind_holds ?_ (.executed rfl (.lateResponse hout))
    refine Traced.holds_query_bind fun validated => Traced.holds_tell_bind ?_
    refine Traced.holds_ofExcept_bind (fun result hresult => ?_) (fun e he => ?_)
    rotate_left
    · subst he
      exact .executed rfl (.validatorRaised hout)
    subst hresult
    refine service.checkDeadline_bind_holds ?_ (.executed rfl (.lateValidation hout))
    refine Traced.holds_tell_bind ?_
    generalize hfail : result.failures.map
      (fun f => Call.validationFailure modelId f.code attemptNumber) = failures
    have hquiet : ∀ c ∈ failures, c.quiet = true := by
      subst hfail
      simp [Call.quiet]
    have hrecorded : recordedExecutions failures = [] := by
      subst hfail
      simp [recordedExecutions, Call.recorded?]
    have hterminal : terminalEvents failures = [] := by
      subst hfail
      simp [terminalEvents, Call.terminal?]
    have hclosed {t calls} (h : Closed t calls) : Closed t (failures ++ calls) := by
      constructor
      · simpa [hrecorded] using h.recorded
      · simpa [hterminal] using h.terminal
    have hquiet' {calls : List Call} (h : ∀ c ∈ calls, c.quiet = true) :
        ∀ c ∈ failures ++ calls, c.quiet = true :=
      fun c hc => (List.mem_append.mp hc).elim (hquiet c) (h c)
    have hexec {calls : List Call} (h : ∀ c ∈ calls, c.quiet = true) :
        executedAttempts (.expired false :: .validate response (.ok result) :: .expired false ::
          (failures ++ calls)) = [] := by
      simpa only [executedAttempts] using executedAttempts_quiet (hquiet' h)
    dsimp only
    split
    · rename_i hpassed
      refine (service.returned_holds hrun (hlen1 _) (hlen3 _) response result).bind ?_ ?_
      · rintro answer calls ⟨hq, ⟨e, he, -⟩ | ⟨⟨⟩, hc⟩⟩
        · cases he
        refine Traced.holds_pure ?_
        rw [List.append_nil]
        exact .executed (hexec hq)
          (.passed hout hpassed (hquiet' hq) (hclosed hc))
      · rintro e calls ⟨hq, ⟨e', ⟨⟩, he'⟩ | ⟨he, -⟩⟩
        · exact .executed (hexec hq) (.cancelled ⟨e, rfl, he'⟩)
        · cases he
    · rename_i hpassed
      split
      · refine (service.validationFailed_holds hrun (hlen1 _) (hlen3 _) result).mono ?_
        rintro r calls ⟨hq, ⟨e, rfl, he⟩ | ⟨rfl, hc⟩⟩
        · exact .executed (hexec hq) (.cancelled ⟨e, rfl, he⟩)
        · exact .executed (hexec hq)
            (.rejected hout hpassed (hquiet' hq) (hclosed hc))
      · rename_i hnext
        rw [not_or, not_not] at hnext
        refine Traced.holds_pure ?_
        rw [List.append_nil]
        exact .mk hout hnext.1 hnext.2 hquiet hrecorded hterminal

/-! ## The loop -/

/-- The runs of the loop over the model ids that are left. -/
inductive LoopRun (run : ValidatedRun) : List AdaptiveAttempt → ℕ → List Identifier →
    Except Exc AdaptiveInferenceResult → List Call → Prop
  | exhausted {attempts n e} : LoopRun run attempts n [] (.error e) []
  | final {attempts n modelId rest r calls} (hstep : FinalStep run attempts n modelId r calls) :
      LoopRun run attempts n (modelId :: rest) r calls
  | next {attempts n modelId rest attempt r calls calls'}
      (hstep : NextStep run n modelId attempt calls)
      (hrest : LoopRun run (attempts ++ [attempt]) (n + 1) rest r calls') :
      LoopRun run attempts n (modelId :: rest) r (calls ++ calls')

/-- **Every run of the loop is a `LoopRun`**, by recursion on the ids that are left. -/
theorem attemptLoop_holds {run : ValidatedRun} (hrun : run.Bounded) {attempts : List AdaptiveAttempt}
    {n : ℕ} {ids : List Identifier} (hattempts : attempts.length + ids.length ≤ 3) (h1 : 1 ≤ n)
    (h3 : n + ids.length ≤ 4) :
    (service.attemptLoop run attempts n ids).Holds (LoopRun run attempts n ids) := by
  induction ids generalizing attempts n with
  | nil => exact Traced.holds_raise .exhausted
  | cons modelId rest ih =>
    simp only [List.length_cons] at hattempts h3
    refine (service.attemptStep_holds hrun (by omega) h1 (by omega) modelId).bind ?_ ?_
    · rintro (attempt | answer) calls hstep
      · have hlen : (attempts ++ [attempt]).length + rest.length ≤ 3 := by
          simpa [Nat.add_assoc, Nat.add_comm 1] using hattempts
        exact (ih hlen (by omega) (by omega)).mono fun _ _ hrest => .next hstep hrest
      · refine Traced.holds_pure ?_
        rw [List.append_nil]
        exact .final hstep
    · exact fun e calls hstep => .final hstep

end AdaptiveInferenceService

end RouteLLM
