import RouteLLM.Application.InferenceRecord
import RouteLLM.Lib.AssocList
import RouteLLM.Lib.TracedLog

/-!
# What the adapters do in a call

The environment of the inference service with a log of its adapters (`observed`): which were resolved
and what they answered. A call to an enabled model ends in one of the ways of `Handled`: an adapter
that refuses the request, with one of two error classes, is the one whose exception no clause for
failures catches.
-/

namespace RouteLLM

/-- What an adapter did: its factory built it, or it answered. -/
inductive AdapterEvent
  | resolved
  | answered (answer : Except Exc (Option InferenceResponse))

/-- The classes with which an adapter refuses a request. -/
def refusals : List ExcClass := [.contextLimitError, .modelDisabledError]

/-- The exceptions of a call that failed. -/
def callFailures : List ExcClass :=
  [.providerFailureError, .providerUnavailableError, .inferenceDeadlineExceededError]

/-- An adapter answered with a refusal. -/
def AdapterEvent.refused : AdapterEvent → Bool
  | answered (.error e) => e.isInstanceOf refusals
  | _ => false

/-- An adapter was resolved. -/
def AdapterEvent.started : AdapterEvent → Bool
  | resolved => true
  | answered _ => false

/-- An adapter refused the request. -/
def Refused (log : List AdapterEvent) : Prop := ∃ event ∈ log, event.refused = true

/-- A provider attempt was started. -/
def AttemptStarted (log : List AdapterEvent) : Prop := ∃ event ∈ log, event.started = true

instance Refused.decidable (log : List AdapterEvent) : Decidable (Refused log) :=
  inferInstanceAs (Decidable (∃ event ∈ log, event.refused = true))

instance AttemptStarted.decidable (log : List AdapterEvent) : Decidable (AttemptStarted log) :=
  inferInstanceAs (Decidable (∃ event ∈ log, event.started = true))

theorem not_refused_nil : ¬ Refused [] := by decide

theorem not_attemptStarted_nil : ¬ AttemptStarted [] := by decide

theorem refused_append {log rest : List AdapterEvent} :
    Refused (log ++ rest) ↔ Refused log ∨ Refused rest := by
  simp only [Refused, List.mem_append, or_and_right, exists_or]

theorem not_refused_resolved : ¬ Refused [.resolved] := by decide

/-- An answer refuses exactly where it raises a refusal. -/
theorem refused_answered {answer : Except Exc (Option InferenceResponse)} :
    Refused [.answered answer] ↔ ∃ e, answer = .error e ∧ e.isInstanceOf refusals = true := by
  simp only [Refused, List.mem_singleton, exists_eq_left]
  cases answer with
  | ok response => simp [AdapterEvent.refused]
  | error e => simp [AdapterEvent.refused]

/-- A normalized error is a refusal or a failure. -/
theorem failure_of_normalized {e : Exc} (h : e.isInstanceOf InferenceService.normalizedErrors = true)
    (hrefusal : ¬ e.isInstanceOf refusals = true) : e.isInstanceOf callFailures = true := by
  simp only [Exc.isInstanceOf, InferenceService.normalizedErrors, refusals, callFailures,
    List.any_cons, List.any_nil, Bool.or_eq_true, Bool.or_false] at h hrefusal ⊢
  tauto

theorem normalized_of_refusal {e : Exc} (h : e.isInstanceOf refusals = true) :
    e.isInstanceOf InferenceService.normalizedErrors = true := by
  simp only [Exc.isInstanceOf, InferenceService.normalizedErrors, refusals,
    List.any_cons, List.any_nil, Bool.or_eq_true, Bool.or_false] at h ⊢
  tauto

/-- Refusals are neither timeouts nor failures nor failed validations. -/
theorem ExcClass.not_of_refusal {c : ExcClass}
    (h : refusals.any c.isSubclass = true) :
    c.isSubclass .timeoutError = false ∧ callFailures.any c.isSubclass = false ∧
      c.isSubclass .responseValidationError = false ∧ c.isSubclass .exception = true := by
  revert h
  cases c <;> decide

/-- How a call ends: it was cancelled, an adapter refused it and the refusal left it, or no adapter
refused and what it raises is caught. -/
inductive Handled {α : Type} (caught : List ExcClass) (r : Except Exc α) (log : List AdapterEvent) :
    Prop
  | cancelled (h : Cancelled r)
  | refused (e : Exc) (hr : r = .error e) (he : e.isInstanceOf refusals = true) (h : Refused log)
  | answered (h : ¬ Refused log) (hr : ∀ e, r = .error e → e.isInstanceOf caught = true)

namespace Handled

variable {α β : Type} {caught : List ExcClass} {r : Except Exc α} {log rest : List AdapterEvent}

theorem ok_of_not_refused {a : α} (h : ¬ Refused log) : Handled caught (.ok a) log :=
  .answered h fun _ hr => nomatch hr

theorem error_of_not_refused {e : Exc} (h : ¬ Refused log) (he : e.isInstanceOf caught = true) :
    Handled caught (.error e : Except Exc α) log := by
  refine .answered h fun e' hr => ?_
  cases hr
  exact he

/-- A result was not refused. -/
theorem not_refused {a : α} (h : Handled caught (.ok a) log) : ¬ Refused log := by
  cases h with
  | cancelled h =>
    obtain ⟨_, h, _⟩ := h
    cases h
  | refused _ hr => cases hr
  | answered h => exact h

/-- An exception ends a sequence as it ended its first program. -/
theorem error {e : Exc} (h : Handled caught (.error e : Except Exc α) log) :
    Handled caught (.error e : Except Exc β) log := by
  cases h with
  | cancelled h =>
    obtain ⟨_, heq, h⟩ := h
    cases heq
    exact .cancelled ⟨e, rfl, h⟩
  | refused _ hr he h =>
    cases hr
    exact .refused e rfl he h
  | answered h hr => exact error_of_not_refused h (hr e rfl)

/-- What follows a program that was not refused. -/
theorem append (h : ¬ Refused log) (hrest : Handled caught r rest) :
    Handled caught r (log ++ rest) := by
  cases hrest with
  | cancelled hr => exact .cancelled hr
  | refused e hr he hrest => exact .refused e hr he (refused_append.mpr (.inr hrest))
  | answered hrest hr => exact .answered (mt refused_append.mp (not_or.mpr ⟨h, hrest⟩)) hr

/-- More classes may be caught. -/
theorem mono {caught' : List ExcClass} (hsub : caught ⊆ caught') (h : Handled caught r log) :
    Handled caught' r log := by
  cases h with
  | cancelled hr => exact .cancelled hr
  | refused e hr he h => exact .refused e hr he h
  | answered h hr =>
    refine .answered h fun e he => ?_
    obtain ⟨c, hc, hec⟩ := List.any_eq_true.mp (hr e he)
    exact List.any_eq_true.mpr ⟨c, hsub hc, hec⟩

end Handled

/-! ## The observed environment -/

variable {σ : Type}

/-- An adapter that logs its answers. -/
def Provider.observed (provider : Provider σ) : Provider (σ × List AdapterEvent) :=
  fun request timeout s =>
    let answer := provider request timeout s.1
    (answer.1, answer.2, s.2 ++ [.answered answer.1])

/-- A factory that logs the adapters it builds. -/
def observedFactory (factory : ModelConfig → σ → Except Exc (Provider σ) × σ) :
    ModelConfig → σ × List AdapterEvent →
      Except Exc (Provider (σ × List AdapterEvent)) × (σ × List AdapterEvent) :=
  fun model s =>
    match factory model s.1 with
    | (.ok provider, s') => (.ok provider.observed, s', s.2 ++ [.resolved])
    | (.error e, s') => (.error e, s', s.2)

/-- The resolver whose adapters are logged. -/
def ProviderResolver.observed (resolver : ProviderResolver σ) :
    ProviderResolver (σ × List AdapterEvent) where
  factories := resolver.factories.map fun entry => (entry.1, observedFactory entry.2)

namespace InferenceService

/-- The service in the environment whose adapters are logged. -/
def observed (service : InferenceService σ) : InferenceService (σ × List AdapterEvent) where
  registry := service.registry
  resolver := service.resolver.observed
  telemetry := service.telemetry.map fun write event timeout => Traced.unlogged (write event timeout)
  telemetryTimeout := service.telemetryTimeout
  inferenceDeadlineSeconds := service.inferenceDeadlineSeconds
  clock := Traced.unlogged service.clock
  durationSeconds := Traced.unlogged service.durationSeconds
  newUuid := Traced.unlogged service.newUuid
  deadline_pos := service.deadline_pos

variable (service : InferenceService σ)

/-- An observed adapter logs its answer. -/
theorem observed_provider_logs (provider : Provider σ) (request : InferenceRequest) (timeout : ℚ)
    (s : σ) (log : List AdapterEvent) :
    ∃ inner, (provider.observed request timeout (s, log)).2.2 = log ++ inner ∧
      inner = [.answered (provider.observed request timeout (s, log)).1] := ⟨_, rfl, rfl⟩

/-- A resolution built an adapter, which is observed, or failed. -/
def ResolutionLogged (resolution : Except Exc (Provider (σ × List AdapterEvent)))
    (log : List AdapterEvent) : Prop :=
  (∃ provider : Provider σ, resolution = .ok provider.observed ∧ log = [.resolved]) ∨
    ∃ e, resolution = .error e ∧ log = []

/-- Resolving logs the adapter it builds. -/
theorem observed_resolve_logs (model : ModelConfig) (s : σ) (log : List AdapterEvent) :
    ∃ inner, (service.observed.resolver.resolve model (s, log)).2.2 = log ++ inner ∧
      ResolutionLogged (service.observed.resolver.resolve model (s, log)).1 inner := by
  have hlookup : service.observed.resolver.factories.lookup model.provider =
      (service.resolver.factories.lookup model.provider).map observedFactory :=
    AssocList.lookup_map_snd observedFactory _ _
  rw [ProviderResolver.resolve, hlookup]
  cases service.resolver.factories.lookup model.provider with
  | none => exact ⟨[], (List.append_nil log).symm, .inr ⟨_, rfl, rfl⟩⟩
  | some factory =>
    dsimp only [Option.map_some, observedFactory]
    rcases factory model s with ⟨provider | e, s'⟩
    · exact ⟨[], (List.append_nil log).symm, .inr ⟨_, rfl, rfl⟩⟩
    · exact ⟨_, rfl, .inl ⟨_, rfl, rfl⟩⟩

/-- The body of the `try` raises a refusal exactly where the adapter refused. -/
theorem observed_callProvider_logs (provider : Provider σ) (model : ModelConfig)
    (request : InferenceRequest) (deadline : RequestDeadline) :
    (service.observed.callProvider provider.observed model request deadline).Logs fun r _ log =>
      Refused log ↔ ∃ e, r = .error e ∧ e.isInstanceOf refusals = true := by
  have hplain {e : Exc} (he : e.isInstanceOf refusals = false) :
      ¬ ∃ e', (Except.error e : Except Exc InferenceResponse) = .error e' ∧
        e'.isInstanceOf refusals = true := by
    rintro ⟨e', heq, h⟩
    cases heq
    rw [he] at h
    cases h
  refine Traced.logs_unlogged_bind fun now => ?_
  split
  · exact Traced.logs_raise (iff_of_false not_refused_nil (hplain rfl))
  refine Traced.logs_query_bind (Q := fun answer log => log = [.answered answer])
    (observed_provider_logs provider request _) ?_
  rintro answer _ rfl
  cases answer with
  | ok found =>
    have hanswered : ¬ Refused [.answered (.ok found)] := by
      rw [refused_answered]
      rintro ⟨_, h, _⟩
      cases h
    dsimp only
    cases haccept : acceptResponse model found with
    | ok response =>
      refine Traced.logs_pure (iff_of_false hanswered ?_)
      rintro ⟨_, h, _⟩
      cases h
    | error e =>
      refine Traced.logs_raise (iff_of_false hanswered (hplain ?_))
      cases found with
      | none =>
        cases haccept
        rfl
      | some response =>
        rw [acceptResponse] at haccept
        split at haccept
        · cases haccept
          rfl
        · cases haccept
  | error e =>
    have hraise : Refused ([.answered (.error e)] ++ []) ↔
        ∃ e', (Except.error e : Except Exc InferenceResponse) = .error e' ∧
          e'.isInstanceOf refusals = true := by
      rw [List.append_nil, refused_answered]
      simp
    dsimp only
    split
    · rename_i htimeout
      refine Traced.logs_unlogged_bind fun later => ?_
      split
      · -- A timeout is no refusal.
        refine Traced.logs_raise (iff_of_false ?_ (hplain rfl))
        rw [List.append_nil, refused_answered]
        rintro ⟨_, heq, hrefusal⟩
        cases heq
        have h := (ExcClass.not_of_refusal hrefusal).1
        rw [Exc.isInstance] at htimeout
        rw [htimeout] at h
        cases h
      · exact Traced.logs_raise hraise
    · exact Traced.logs_raise hraise

/-- `_generate` of an enabled model ends as handled. -/
theorem observed_generateModel_logs {model : ModelConfig} (henabled : model.enabled = true)
    (request : InferenceRequest) (deadline : RequestDeadline) (requestId : String)
    (requestMode : RequestMode) :
    (service.observed.generateModel model request deadline requestId requestMode).Logs
      fun r _ log => Handled callFailures r log := by
  rw [generateModel, if_neg (not_not.mpr henabled)]
  refine Traced.logs_query_bind (Q := ResolutionLogged) (service.observed_resolve_logs model) ?_
  intro resolved log hresolved
  refine Traced.logs_tell_bind ?_
  rcases hresolved with ⟨provider, rfl, rfl⟩ | ⟨e, rfl, rfl⟩
  · refine Traced.logs_attempt_bind
      (service.observed_callProvider_logs provider model request deadline) ?_
    intro outcome _ log hrefused
    refine Traced.logs_unlogged_bind fun duration => ?_
    have hlog : Refused ([AdapterEvent.resolved] ++ (log ++ [])) ↔ Refused log := by
      rw [refused_append, List.append_nil]
      exact or_iff_right not_refused_resolved
    cases outcome with
    | ok response =>
      refine Traced.logs_tell_bind (Traced.logs_pure (.ok_of_not_refused ?_))
      rw [hlog, hrefused]
      rintro ⟨_, h, _⟩
      cases h
    | error e =>
      have hiff : Refused ([AdapterEvent.resolved] ++ (log ++ [])) ↔
          e.isInstanceOf refusals = true := by
        rw [hlog, hrefused]
        simp
      dsimp only
      by_cases hcancelled : e.isInstance .cancelledError = true
      · rw [if_pos hcancelled]
        exact Traced.logs_tell_bind (Traced.logs_raise
          (.cancelled ⟨e, rfl, ExcClass.isSubclass_exception_of_cancelledError hcancelled⟩))
      rw [if_neg hcancelled]
      by_cases hnormalized : e.isInstanceOf normalizedErrors = true
      · rw [if_pos hnormalized]
        refine Traced.logs_tell_bind (Traced.logs_raise ?_)
        by_cases hrefusal : e.isInstanceOf refusals = true
        · exact .refused e rfl hrefusal (hiff.mpr hrefusal)
        · exact .error_of_not_refused (mt hiff.mp hrefusal)
            (failure_of_normalized hnormalized hrefusal)
      rw [if_neg hnormalized]
      split
      · refine Traced.logs_tell_bind (Traced.logs_raise (.error_of_not_refused (mt hiff.mp ?_) rfl))
        exact mt normalized_of_refusal hnormalized
      · rename_i hexception
        exact Traced.logs_raise (.cancelled ⟨e, rfl, Bool.eq_false_iff.mpr hexception⟩)
  · dsimp only
    split_ifs with hcaught hexception
    · refine Traced.logs_raise (.error_of_not_refused not_refused_nil ?_)
      have hsub : [.providerUnavailableError, .providerFailureError] ⊆ callFailures := by decide
      obtain ⟨c, hc, hec⟩ := List.any_eq_true.mp hcaught
      exact List.any_eq_true.mpr ⟨c, hsub hc, hec⟩
    · exact Traced.logs_raise (.error_of_not_refused not_refused_nil rfl)
    · exact Traced.logs_raise (.cancelled ⟨e, rfl, Bool.eq_false_iff.mpr hexception⟩)

/-- A write of the telemetry consults no adapter. -/
theorem observed_record_logs (event : TelemetryEvent) (deadline : RequestDeadline) :
    (service.observed.record event deadline).Logs fun r _ log =>
      log = [] ∧ ∀ e, r = .error e → e.isInstance .exception = false := by
  suffices h : (service.observed.record event deadline).Logs fun _ _ log => log = [] from
    h.and_holds (service.observed.record_holds event deadline)
  refine Traced.logs_tell_bind ?_
  rw [observed]
  cases service.telemetry with
  | none => exact Traced.logs_tell rfl
  | some write =>
    refine Traced.logs_unlogged_bind fun now => ?_
    split
    · exact Traced.logs_tell rfl
    refine Traced.logs_unlogged_bind fun outcome => ?_
    split
    · exact Traced.logs_tell rfl
    · split
      · exact Traced.logs_tell rfl
      · exact Traced.logs_raise rfl

theorem observed_deadlineOrNew_logs (deadline : Option RequestDeadline) :
    (service.observed.deadlineOrNew deadline).Logs fun r _ log => log = [] ∧ ∃ d, r = .ok d := by
  cases deadline with
  | some d => exact Traced.logs_pure ⟨rfl, d, rfl⟩
  | none => exact Traced.logs_unlogged_bind fun now => Traced.logs_pure ⟨rfl, _, rfl⟩

theorem observed_correlationId_logs (requestId : Option String) :
    (service.observed.correlationId requestId).Logs fun r _ log => log = [] ∧ ∃ id, r = .ok id := by
  cases requestId with
  | some id => exact Traced.logs_pure ⟨rfl, id, rfl⟩
  | none => exact Traced.logs_unlogged_bind fun fresh => Traced.logs_pure ⟨rfl, _, rfl⟩

/-- What `_generate` logs and raises, `generate` logs and raises, unless it is cancelled or finds the
deadline expired. -/
theorem observed_generate_logs_of {Q : Except Exc InferenceResponse → List AdapterEvent → Prop}
    {modelId : String} {model : ModelConfig} (hmodel : service.registry.get modelId = .ok model)
    {request : InferenceRequest} {requestMode : RequestMode}
    (hgenerate : ∀ deadline id, (service.observed.generateModel model request deadline id
      requestMode).Logs fun r _ log => Q r log)
    (hlate : Q (.error deadlineExceeded) [])
    (hcancelled : ∀ r r' log, Cancelled r' → Q r log → Q r' log)
    (requestId : Option String) (deadline : Option RequestDeadline) :
    (service.observed.generate modelId request requestId deadline requestMode).Logs
      fun r _ log => Q r log := by
  refine (service.observed_deadlineOrNew_logs deadline).bind ?_ ?_
  rotate_left
  · rintro e _ _ ⟨_, _, h⟩
    cases h
  rintro requestDeadline _ _ ⟨rfl, _⟩
  refine Traced.logs_unlogged_bind fun now => Traced.logs_tell_bind ?_
  split
  · exact Traced.logs_raise hlate
  refine Traced.logs_ofExcept_bind (fun found hfound => ?_) (fun e he => ?_)
  rotate_left
  · rw [show service.observed.registry.get modelId = .ok model from hmodel] at he
    cases he
  rw [show service.observed.registry.get modelId = .ok model from hmodel] at hfound
  cases hfound
  refine (service.observed_correlationId_logs requestId).bind ?_ ?_
  rotate_left
  · rintro e _ _ ⟨_, _, h⟩
    cases h
  rintro id _ _ ⟨rfl, _⟩
  refine Traced.logs_attempt_bind (hgenerate requestDeadline id) fun outcome _ log houtcome => ?_
  have hrecord {event : TelemetryEvent} {last : Act (σ × List AdapterEvent) InferenceResponse}
      (hlast : last.Logs fun r _ log' => r = outcome ∧ log' = []) :
      (service.observed.record event requestDeadline >>= fun _ => last).Logs
        fun r _ log' => Q r (log ++ log') := by
    refine (service.observed_record_logs event requestDeadline).bind ?_ ?_
    · rintro _ _ _ ⟨rfl, _⟩
      refine hlast.mono ?_
      rintro r _ _ ⟨rfl, rfl⟩
      rw [List.append_nil, List.append_nil]
      exact houtcome
    · rintro e _ _ ⟨rfl, he⟩
      rw [List.append_nil]
      exact hcancelled _ _ _ ⟨e, rfl, he e rfl⟩ houtcome
  cases outcome with
  | ok result => exact hrecord (Traced.logs_pure ⟨rfl, rfl⟩)
  | error e =>
    dsimp only
    split
    · exact Traced.logs_unlogged_bind fun duration => hrecord (Traced.logs_raise ⟨rfl, rfl⟩)
    · refine Traced.logs_raise ?_
      rw [List.append_nil]
      exact houtcome

/-- **A call to an enabled model ends as handled.** -/
theorem observed_generate_handled {modelId : String} {model : ModelConfig}
    (hmodel : service.registry.get modelId = .ok model) (henabled : model.enabled = true)
    (request : InferenceRequest) (requestId : Option String) (deadline : Option RequestDeadline)
    (requestMode : RequestMode) :
    (service.observed.generate modelId request requestId deadline requestMode).Logs
      fun r _ log => Handled callFailures r log :=
  service.observed_generate_logs_of hmodel
    (fun deadline id => service.observed_generateModel_logs henabled request deadline id requestMode)
    (.error_of_not_refused not_refused_nil rfl) (fun _ _ _ h _ => .cancelled h) requestId deadline

/-- A call to another model starts no attempt. -/
theorem observed_generate_unstarted {modelId : String}
    (hunavailable : ∀ model, service.registry.get modelId = .ok model → model.enabled = false)
    (request : InferenceRequest) (requestId : Option String) (deadline : Option RequestDeadline)
    (requestMode : RequestMode) :
    (service.observed.generate modelId request requestId deadline requestMode).Logs
      fun _ _ log => log = [] := by
  cases hmodel : service.registry.get modelId with
  | ok model =>
    refine service.observed_generate_logs_of (Q := fun _ log => log = []) hmodel
      (fun deadline id => ?_) rfl (fun _ _ _ _ h => h) requestId deadline
    rw [generateModel, if_pos (by rw [hunavailable model hmodel]; exact Bool.false_ne_true)]
    exact Traced.logs_raise rfl
  | error e =>
    refine (service.observed_deadlineOrNew_logs deadline).bind ?_ fun _ _ _ h => h.1
    rintro requestDeadline _ _ ⟨rfl, _⟩
    refine Traced.logs_unlogged_bind fun now => Traced.logs_tell_bind ?_
    split
    · exact Traced.logs_raise rfl
    refine Traced.logs_ofExcept_bind (fun found hfound => ?_) (fun _ _ => rfl)
    rw [show service.observed.registry.get modelId = .error e from hmodel] at hfound
    cases hfound

end InferenceService

end RouteLLM
