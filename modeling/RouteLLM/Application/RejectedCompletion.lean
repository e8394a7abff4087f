import RouteLLM.Application.AdaptiveRun
import RouteLLM.Providers.Completion
import RouteLLM.Routing.CostBound
import RouteLLM.Validation.Language

/-!
# Rejected completions under validation

The adapter refuses a completion whose text is blank or was cut off, and the escalation loop hands
the refused completion to the validator. The two decide separately; `rejection_agrees` states that
they agree, so that the loop goes on from every refused completion.
-/

namespace RouteLLM

namespace DeterministicResponseValidator

variable {recursionLimit : ℕ} {contract : ValidationContract} {response : InferenceResponse}

/-- The decoder appends to the codes of the earlier checks. -/
theorem isPrefix_checkJson {text : List Char} {codes codes' : List ValidationFailureCode}
    (h : checkJson recursionLimit contract text codes = .ok codes') : codes <+: codes' := by
  unfold checkJson at h
  split at h
  · cases h
    exact List.prefix_append _ _
  · split at h
    · split at h
      · cases h
        exact List.prefix_append _ _
      · cases h
    · cases h
      exact List.prefix_append _ _

/-- A text that the adapter refuses does not pass the checks, whatever the contract. -/
theorem check_ne_nil (h : VercelGatewayProvider.Refused response) :
    check recursionLimit response contract ≠ .ok [] := by
  intro hcheck
  unfold check at hcheck
  dsimp only at hcheck
  split at hcheck
  · simp at hcheck
  · split at hcheck
    · simp at hcheck
    · rename_i hblank
      have hlength := h.resolve_left hblank
      rw [if_pos hlength] at hcheck
      split at hcheck
      · simp at hcheck
      · have hpre := isPrefix_checkJson hcheck
        simp at hpre

/-- The result of checks that found `codes`. -/
theorem validate_eq_resultOf {codes : List ValidationFailureCode} (durationMs : ℚ≥0)
    (hcodes : check recursionLimit response contract = .ok codes) :
    validate recursionLimit response (some contract) durationMs =
      resultOf codes durationMs (validatorError_notMem_check hcodes) := by
  rw [validate]
  split
  · rename_i codes' h
    cases hcodes.symm.trans h
    rfl
  · rename_i h
    cases hcodes.symm.trans h

/-- A refused completion fails its validation, and each of its failures lets the loop go on: no code
of a check is a validator error. -/
theorem validate_refused (h : VercelGatewayProvider.Refused response) (durationMs : ℚ≥0) :
    (validate recursionLimit response (some contract) durationMs).recoverable = true := by
  obtain ⟨codes, hcodes⟩ := check_ok recursionLimit response contract
  have hne : codes ≠ [] := by
    rintro rfl
    exact check_ne_nil h hcodes
  rw [validate_eq_resultOf durationMs hcodes, ValidationResult.recoverable_iff]
  have hfailed : (resultOf codes durationMs (validatorError_notMem_check hcodes)).status = .failed :=
    if_neg hne
  refine ⟨hfailed, (ValidationResult.failures_iff _).mp (.inl hfailed), ?_⟩
  intro f hf
  obtain ⟨code, hmem, rfl⟩ := List.mem_map.mp hf
  have hcode : code ≠ .validatorError := by
    rintro rfl
    exact validatorError_notMem_check hcodes (List.mem_of_mem_take hmem)
  exact decide_eq_true hcode

end DeterministicResponseValidator

namespace AdaptiveInferenceService

open DeterministicResponseValidator

variable {σ : Type} (service : AdaptiveInferenceService σ)

/-- The validator of the service is the deterministic one, at the recursion limit and the duration of
each call. -/
def ValidatesDeterministically : Prop :=
  ∀ response contract s, ∃ recursionLimit durationMs,
    (service.validator response contract s).1 =
      .ok (validate recursionLimit response (some contract) durationMs)

/-- The exit on a response that did not pass returns nothing. -/
theorem validationFailed_raises {α : Type} (run : ValidatedRun) (attempts : List AdaptiveAttempt)
    (result : ValidationResult) :
    (service.validationFailed run attempts result : Act σ α).Holds fun r _ => ∃ e, r = .error e := by
  refine Traced.holds_ofExcept_bind (fun event _ => ?_) (fun e _ => ⟨e, rfl⟩)
  refine Traced.Holds.bind (Q := fun _ _ => True) (fun _ => trivial) ?_ (fun e _ _ => ⟨e, rfl⟩)
  intro _ _ _
  exact Traced.holds_tell_bind (Traced.holds_raise ⟨_, rfl⟩)

/-- The loop goes on from a refused completion unless it was the last candidate's, or the deadline
has passed, and never returns it. -/
theorem attemptStep_refused (hvalidator : service.ValidatesDeterministically) {run : ValidatedRun}
    {attempts : List AdaptiveAttempt} {attemptNumber : ℕ} {modelId : Identifier}
    {completion : InferenceResponse} (hrefused : VercelGatewayProvider.Refused completion)
    (houtcome : ∀ s, ∃ category diagnostics supported,
      (service.inference modelId run.request run.correlationId run.deadline s).1 =
        .error (.completionRejected category completion diagnostics supported)) :
    (service.attemptStep run attempts attemptNumber modelId).Holds fun r _ =>
      (∃ attempt, r = .ok (.inl attempt)) ∨ r = .error deadlineExceeded ∨
        attemptNumber = run.modelIds.length ∧ ∃ e, r = .error e := by
  refine service.checkDeadline_bind_holds ?_ (.inr (.inl rfl))
  refine Traced.holds_query_bind_of fun s => Traced.holds_tell_bind ?_
  obtain ⟨category, diagnostics, supported, hs⟩ := houtcome s
  rw [hs]
  refine service.checkDeadline_bind_holds ?_ (.inr (.inl rfl))
  refine Traced.holds_query_bind_of fun s' => Traced.holds_tell_bind ?_
  obtain ⟨recursionLimit, durationMs, hvalidated⟩ := hvalidator completion run.validation s'
  rw [hvalidated]
  have hrecoverable : (validate recursionLimit completion (some run.validation)
      durationMs).recoverable = true := validate_refused hrefused durationMs
  refine Traced.holds_ofExcept_bind (fun result hresult => ?_) (fun e he => ?_)
  · cases hresult
    refine service.checkDeadline_bind_holds ?_ (.inr (.inl rfl))
    refine Traced.holds_tell_bind ?_
    dsimp only
    rw [if_neg (ValidationResult.recoverable.ne_passed hrecoverable)]
    split
    · rename_i hlast
      have hlast := hlast.resolve_left (not_not.mpr hrecoverable)
      exact (service.validationFailed_raises run _ _).mono fun r _ h => .inr (.inr ⟨hlast, h⟩)
    · exact Traced.holds_pure (.inl ⟨_, rfl⟩)
  · cases he

end AdaptiveInferenceService

/-! ## The adapter and the validator -/

open AdaptiveInferenceService DeterministicResponseValidator

/-- What the rest of the application makes of a completion that the adapter refused: every contract
fails it with failures that all let the loop go on, and the loop neither returns it nor stops at it,
unless the deadline passed or no candidate is left. -/
structure RejectionUpheld (category : GatewayErrorCategory) (completion : InferenceResponse)
    (diagnostics : Diagnostics)
    (supported : category = .emptyResponse ∨ category = .outputBudgetExhaustion) : Prop where
  failed : ∀ recursionLimit contract durationMs,
    (validate recursionLimit completion (some contract) durationMs).status = .failed
  recoverable : ∀ recursionLimit contract durationMs,
    ∀ f ∈ (validate recursionLimit completion (some contract) durationMs).failures,
      f.recoverableByEscalation = true
  escalated : ∀ {σ : Type} (service : AdaptiveInferenceService σ),
    service.ValidatesDeterministically → ∀ (run : ValidatedRun) (attempts : List AdaptiveAttempt)
      (attemptNumber : ℕ) (modelId : Identifier),
      (∀ s, (service.inference modelId run.request run.correlationId run.deadline s).1 =
        .error (.completionRejected category completion diagnostics supported)) →
      (service.attemptStep run attempts attemptNumber modelId).Holds fun r _ =>
        (∃ attempt, r = .ok (.inl attempt)) ∨ r = .error deadlineExceeded ∨
          attemptNumber = run.modelIds.length ∧ ∃ e, r = .error e

/-- **Adapter and validator agree.** A completion that the adapter rejects is one of its registered
model, with the reported usage and its exact cost, and the validator upholds the rejection under every
contract; a completion that it returns is neither blank nor cut off. -/
theorem VercelGatewayProvider.rejection_agrees (provider : VercelGatewayProvider)
    (request : InferenceRequest) (response : GatewayResponse)
    (latency : {x : Binary64 // 0 ≤ x.val}) :
    (∀ category completion diagnostics supported,
      provider.generateWithTimeout request (fun _ => .response response latency) =
        .error (.completionRejected category completion diagnostics supported) →
      CompletionOf provider.model response completion ∧
        RejectionUpheld category completion diagnostics supported) ∧
    ∀ completion,
      provider.generateWithTimeout request (fun _ => .response response latency) =
        .ok completion →
      PyStr.strip completion.text.toList ≠ [] ∧ completion.terminationReason ≠ .length := by
  constructor
  · intro category completion diagnostics supported h
    obtain ⟨hof, hrefused⟩ := generateWithTimeout_eq_rejected h
    refine ⟨hof, fun _ _ durationMs => ?_, fun _ _ durationMs => ?_,
      fun service hvalidator run attempts attemptNumber modelId houtcome => ?_⟩
    · exact (ValidationResult.recoverable_iff.mp (validate_refused hrefused durationMs)).1
    · exact (ValidationResult.recoverable_iff.mp (validate_refused hrefused durationMs)).2.2
    · exact service.attemptStep_refused hvalidator hrefused fun s => ⟨_, _, _, houtcome s⟩
  · intro completion h
    exact not_or.mp (generateWithTimeout_eq_ok h).2

namespace VercelGatewayProvider

/-- An answer whose text was cut off, as one upstream provider spells it. -/
def truncatedAnswer : GatewayResponse where
  statusCode := 200
  headers _ := none
  json := .ok (.dict [
    (PyStr.ofString "choices", .list [.dict [
      (PyStr.ofString "message", .dict [(PyStr.ofString "content", .str (PyStr.ofString "Hi"))]),
      (PyStr.ofString "finishReason", .str (PyStr.ofString "MAX_TOKENS"))]]),
    (PyStr.ofString "usage", .dict [
      (PyStr.ofString "prompt_tokens", .int 3),
      (PyStr.ofString "completion_tokens", .int 256)])])

/-- The category of a rejection. -/
def rejectedCategory : Except Exc InferenceResponse → Option GatewayErrorCategory
  | .error (.completionRejected category _ _ _) => some category
  | _ => none

/-- The truncated answer is rejected, and the rejection upheld. -/
theorem rejection_agrees_sample :
    ∃ completion diagnostics supported,
      RoutingDecisionService.sampleProvider.generateWithTimeout .sample
        (fun _ => .response truncatedAnswer ⟨0, le_rfl⟩) =
        .error (.completionRejected .outputBudgetExhaustion completion diagnostics supported) ∧
      RejectionUpheld .outputBudgetExhaustion completion diagnostics supported := by
  have hcategory : rejectedCategory (RoutingDecisionService.sampleProvider.generateWithTimeout
      .sample (fun _ => .response truncatedAnswer ⟨0, le_rfl⟩)) =
      some .outputBudgetExhaustion := by decide +kernel
  have hagrees := (rejection_agrees RoutingDecisionService.sampleProvider .sample truncatedAnswer
    ⟨0, le_rfl⟩).1
  unfold rejectedCategory at hcategory
  split at hcategory
  · rename_i category completion diagnostics supported heq
    cases hcategory
    exact ⟨completion, diagnostics, supported, heq, (hagrees _ _ _ _ heq).2⟩
  · cases hcategory

end VercelGatewayProvider

end RouteLLM
