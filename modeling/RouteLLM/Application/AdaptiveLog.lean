import RouteLLM.Application.AdaptiveRun
import RouteLLM.Lib.TracedLog

/-!
# The adaptive service beside a log

An environment in which only the model calls and the validator may log. The deadline checks and the
exits of the validated loop then leave the log alone.
-/

namespace RouteLLM

namespace AdaptiveInferenceService

variable {σ υ α : Type}

/-- The clock, the random ids and the telemetry leave the log alone. -/
structure LogsApart (service : AdaptiveInferenceService (σ × List υ)) : Prop where
  clock : ∃ g, service.clock = Traced.unlogged g
  newUuid : ∃ g, service.newUuid = Traced.unlogged g
  record : ∀ write ∈ service.recordAdaptiveExecution, ∀ event timeout,
    ∃ g, write event timeout = Traced.unlogged g

variable {service : AdaptiveInferenceService (σ × List υ)} (hservice : LogsApart service)
include hservice

/-- A deadline check logs nothing. -/
theorem checkDeadline_bind_logs {deadline : RequestDeadline} {f : Unit → Act (σ × List υ) α}
    {R : Except Exc α → List Call → List υ → Prop}
    (hopen : (f ()).Logs fun r calls log => R r (.expired false :: calls) log)
    (hlate : R (.error deadlineExceeded) [.expired true] []) :
    (service.checkDeadline deadline >>= f).Logs R := by
  obtain ⟨clock, hclock⟩ := hservice.clock
  have hcheck : (service.checkDeadline deadline).Logs fun r calls log => log = [] ∧
      ((r = .ok () ∧ calls = [.expired false]) ∨
        (r = .error deadlineExceeded ∧ calls = [.expired true])) := by
    rw [checkDeadline, hclock]
    refine Traced.logs_unlogged_bind fun now => Traced.logs_tell_bind ?_
    cases deadline.expired now with
    | true => exact Traced.logs_raise ⟨rfl, .inr ⟨rfl, rfl⟩⟩
    | false => exact Traced.logs_pure ⟨rfl, .inl ⟨rfl, rfl⟩⟩
  refine hcheck.bind ?_ ?_
  · rintro ⟨⟩ calls log ⟨rfl, ⟨_, rfl⟩ | ⟨h, _⟩⟩
    · exact hopen
    · cases h
  · rintro e calls log ⟨rfl, ⟨h, _⟩ | ⟨h, rfl⟩⟩
    · cases h
    · cases h
      exact hlate

/-- Choosing the correlation id logs and records nothing. -/
theorem correlationId_logs (requestId : Option String) :
    (service.correlationId requestId).Logs fun r calls log =>
      (∃ id, r = .ok id) ∧ calls = [] ∧ log = [] := by
  obtain ⟨newUuid, hnewUuid⟩ := hservice.newUuid
  rw [correlationId, hnewUuid]
  split
  · exact Traced.logs_pure ⟨⟨_, rfl⟩, rfl, rfl⟩
  · exact Traced.logs_unlogged_bind fun fresh => Traced.logs_pure ⟨⟨_, rfl⟩, rfl, rfl⟩

/-- Recording hands over its summary and logs nothing. -/
theorem recordExecution_logs (event : AdaptiveExecutionTelemetry) (deadline : RequestDeadline) :
    (service.recordExecution event deadline).Logs fun _ calls log =>
      log = [] ∧ recordedExecutions calls = [event] := by
  obtain ⟨clock, hclock⟩ := hservice.clock
  refine Traced.logs_tell_bind ?_
  cases hrecord : service.recordAdaptiveExecution with
  | none => exact Traced.logs_tell ⟨rfl, rfl⟩
  | some write =>
    rw [hclock]
    refine Traced.logs_unlogged_bind fun now => ?_
    split
    · exact Traced.logs_tell ⟨rfl, rfl⟩
    rename_i timeout _
    obtain ⟨g, hg⟩ := hservice.record write hrecord event timeout
    rw [hg]
    refine Traced.logs_unlogged_bind fun outcome => ?_
    split
    · exact Traced.logs_tell ⟨rfl, rfl⟩
    · split
      · exact Traced.logs_tell ⟨rfl, rfl⟩
      · exact Traced.logs_raise ⟨rfl, rfl⟩

/-- An exit records at most the summary of its fields, logs nothing, and ends as its last program
does if it returns. -/
theorem exit_logs {fields : AdaptiveExecutionFields} {deadline : RequestDeadline}
    {request : AdaptiveRequestEvent} {last : Act (σ × List υ) α} {end_ : Except Exc α}
    (hlast : last.Logs fun r calls log => r = end_ ∧ calls = [] ∧ log = []) :
    Traced.Logs (do
      let event ← .ofExcept (AdaptiveExecutionTelemetry.create fields)
      service.recordExecution event deadline
      .tell [.adaptiveRequest request]
      last : Act (σ × List υ) α) fun r calls log =>
        log = [] ∧ (∀ answer, r = .ok answer → end_ = .ok answer) ∧
          ∀ event ∈ recordedExecutions calls, event.toAdaptiveExecutionFields = fields := by
  refine Traced.logs_ofExcept_bind (fun event hevent => ?_) (fun e _ => ⟨rfl, ?_, ?_⟩)
  rotate_left
  · intro answer h
    cases h
  · intro event hevent
    cases hevent
  have hfields : event.toAdaptiveExecutionFields = fields := by
    rw [AdaptiveExecutionTelemetry.create] at hevent
    split at hevent
    · cases hevent
      rfl
    · cases hevent
  refine (recordExecution_logs hservice event deadline).bind ?_ ?_
  · rintro _ calls log ⟨rfl, hrecorded⟩
    refine Traced.logs_tell_bind (hlast.mono ?_)
    rintro r _ _ ⟨rfl, rfl, rfl⟩
    refine ⟨rfl, fun answer h => h, fun found hfound => ?_⟩
    rw [recordedExecutions_append, hrecorded] at hfound
    cases List.mem_singleton.mp hfound
    exact hfields
  · rintro e calls log ⟨rfl, hrecorded⟩
    refine ⟨rfl, fun answer h => (nomatch h), fun found hfound => ?_⟩
    rw [hrecorded] at hfound
    cases List.mem_singleton.mp hfound
    exact hfields

variable {run : ValidatedRun} {attempts : List AdaptiveAttempt}

/-- The exit on a passed response. -/
theorem returned_logs (response : InferenceResponse) (result : ValidationResult) :
    (service.returned run attempts response result).Logs fun r calls log => log = [] ∧
      (∀ answer, r = .ok answer → answer.execution = some (execution attempts result.status)) ∧
        ∀ event ∈ recordedExecutions calls,
          event.toAdaptiveExecutionFields = returnedFields run attempts response result := by
  have hlast : Traced.Logs (pure ⟨response, run.decision, some (execution attempts result.status)⟩ :
      Act (σ × List υ) AdaptiveInferenceResult) fun r calls log =>
        r = .ok ⟨response, run.decision, some (execution attempts result.status)⟩ ∧ calls = [] ∧
          log = [] := Traced.logs_pure ⟨rfl, rfl, rfl⟩
  refine (exit_logs hservice hlast).mono ?_
  rintro r calls log ⟨hlog, hr, hevents⟩
  refine ⟨hlog, fun answer hanswer => ?_, hevents⟩
  cases hr answer hanswer
  rfl

/-- The exit on a rejected response. -/
theorem validationFailed_logs (result : ValidationResult) :
    (service.validationFailed run attempts result : Act (σ × List υ) α).Logs fun r calls log =>
      log = [] ∧ (∀ answer, r ≠ .ok answer) ∧ ∀ event ∈ recordedExecutions calls,
        event.toAdaptiveExecutionFields = rejectedFields run attempts result := by
  refine (exit_logs hservice (Traced.logs_raise (R := fun r calls log =>
    r = .error validationFailedError ∧ calls = [] ∧ log = []) ⟨rfl, rfl, rfl⟩)).mono ?_
  rintro r calls log ⟨hlog, hr, hevents⟩
  refine ⟨hlog, fun answer hanswer => ?_, hevents⟩
  cases hr answer hanswer

/-- The exit on a provider failure. -/
theorem providerFailed_logs (attemptNumber : ℕ) (e : Exc) :
    (service.providerFailed run attempts attemptNumber e : Act (σ × List υ) α).Logs fun r calls log =>
      log = [] ∧ (∀ answer, r ≠ .ok answer) ∧ ∀ event ∈ recordedExecutions calls,
        e.isInstance .exception = true ∧
          event.toAdaptiveExecutionFields = failureFields run attempts attemptNumber e := by
  unfold providerFailed
  split
  · exact Traced.logs_raise ⟨rfl, (fun _ h => nomatch h), List.forall_mem_nil _⟩
  · rename_i hexception
    refine (exit_logs hservice (Traced.logs_raise (R := fun r calls log =>
      r = .error e ∧ calls = [] ∧ log = []) ⟨rfl, rfl, rfl⟩)).mono ?_
    rintro r calls log ⟨hlog, hr, hevents⟩
    refine ⟨hlog, fun answer hanswer => ?_, fun event hevent => ⟨not_not.mp hexception, ?_⟩⟩
    · cases hr answer hanswer
    · exact hevents event hevent

end AdaptiveInferenceService

end RouteLLM
