import RouteLLM.Application.AdaptiveRun

/-!
# Escalation and accounting of validated runs

What holds of every run of the validated loop, whatever the clock, the provider, the validator and
the telemetry repository answer: which models it executes, when it escalates and when it returns
(`generateValidated_escalation`), and exactly which runs leave their one summary and their one
terminal event (`generate_accounted_iff`). Both follow by induction over `LoopRun`.
-/

namespace RouteLLM

namespace AdaptiveInferenceService

/-! ## The executed attempts of a run -/

section
variable {run : ValidatedRun} {attempts : List AdaptiveAttempt} {n : ℕ} {modelId : Identifier}
  {attempt : AdaptiveAttempt} {ids : List Identifier} {calls rest : List Call}
  {r : Except Exc AdaptiveInferenceResult}

/-- An iteration that goes on executes its model once, and the result may be retried. -/
theorem NextStep.executedAttempts_append (h : NextStep run n modelId attempt calls)
    (rest : List Call) :
    ∃ outcome result, result.recoverable = true ∧ attempt.modelId = modelId ∧
      executedAttempts (calls ++ rest) =
        ⟨modelId, outcome, some result⟩ :: executedAttempts rest := by
  cases h with
  | @mk outcome _ result _ hout hrec hlast hquiet =>
    exact ⟨outcome, result, hrec, rfl, by simp [executedAttempts_quiet_append hquiet]⟩

/-- A final iteration executes its model at most once. -/
theorem FinalStep.executedAttempts_eq (h : FinalStep run attempts n modelId r calls) :
    executedAttempts calls = [] ∨
      ∃ outcome validation, executedAttempts calls = [⟨modelId, outcome, validation⟩] := by
  cases h with
  | late => exact .inl rfl
  | @executed outcome calls _ hexec => exact .inr ⟨outcome, validationOf calls, by simp [hexec]⟩

/-- The executed ids are the first of those that are left. -/
theorem LoopRun.executedIds_prefix (h : LoopRun run attempts n ids r calls) :
    executedIds calls <+: ids := by
  induction h with
  | exhausted => exact List.nil_prefix
  | final hstep =>
    rcases hstep.executedAttempts_eq with he | ⟨_, _, he⟩
    · simp [executedIds, he]
    · simp [executedIds, he]
  | next hstep hrest ih =>
    obtain ⟨_, _, -, -, he⟩ := hstep.executedAttempts_append _
    rw [executedIds, he, List.map_cons]
    exact List.cons_prefix_cons.mpr ⟨rfl, ih⟩

/-- Every attempt but the last one was validated, and its result may be retried. -/
theorem LoopRun.recoverable_of_mem_dropLast (h : LoopRun run attempts n ids r calls) :
    ∀ a ∈ (executedAttempts calls).dropLast,
      ∃ result, a.validation = some result ∧ result.recoverable = true := by
  induction h with
  | exhausted => simp [executedAttempts]
  | final hstep =>
    rcases hstep.executedAttempts_eq with he | ⟨_, _, he⟩
    · simp [he]
    · simp [he]
  | @next _ _ _ _ _ _ _ calls' hstep hrest ih =>
    obtain ⟨_, result, hrec, -, he⟩ := hstep.executedAttempts_append calls'
    rw [he]
    intro a ha
    cases hr : executedAttempts calls' with
    | nil => simp [hr] at ha
    | cons b bs =>
      rw [hr, List.dropLast_cons_cons] at ha
      rcases List.mem_cons.mp ha with rfl | ha
      · exact ⟨result, rfl, hrec⟩
      · exact ih a (hr ▸ ha)

/-- A deadline check that found the deadline expired. -/
theorem NextStep.expired_notMem (h : NextStep run n modelId attempt calls) :
    Call.expired true ∉ calls := by
  cases h with
  | mk hout hrec hlast hquiet => simpa using expired_notMem_quiet hquiet true

/-- The last executed attempt passed its validation. -/
def LastPassed (calls : List Call) : Prop :=
  ∃ a result, (executedAttempts calls).getLast? = some a ∧ a.validation = some result ∧
    result.status = .passed

/-- A final iteration returns exactly when no check failed and its attempt passed. -/
theorem FinalStep.isOk_iff (h : FinalStep run attempts n modelId r calls) (hlive : ¬ Cancelled r) :
    (∃ answer, r = .ok answer) ↔ Call.expired true ∉ calls ∧ LastPassed calls := by
  cases h with
  | late => simp
  | executed hexec hend =>
    have hlast {calls' outcome} (hcalls : executedAttempts calls' = []) :
        LastPassed (.expired false :: .generate modelId outcome :: calls') ↔
          ∃ result, validationOf calls' = some result ∧ result.status = .passed := by
      simp [LastPassed, hcalls]
    rw [hlast hexec]
    cases hend with
    | cancelled hr => exact absurd hr hlive
    | providerFailed hout hquiet => simp [validationOf_quiet hquiet]
    | lateResponse => simp
    | validatorRaised => simp [validationOf]
    | lateValidation => simp
    | passed hout hstatus hquiet => simpa [hstatus] using expired_notMem_quiet hquiet true
    | rejected hout hstatus => simp [hstatus]

/-- **A run returns exactly when no check failed and its last attempt passed.** By induction on the
run: an iteration that goes on has neither failed a check nor passed. -/
theorem LoopRun.isOk_iff (h : LoopRun run attempts n ids r calls) (hlive : ¬ Cancelled r) :
    (∃ answer, r = .ok answer) ↔ Call.expired true ∉ calls ∧ LastPassed calls := by
  induction h with
  | exhausted => simp [LastPassed, executedAttempts]
  | final hstep => exact hstep.isOk_iff hlive
  | @next _ _ _ _ _ _ _ calls' hstep hrest ih =>
    obtain ⟨outcome, result, hrec, -, he⟩ := hstep.executedAttempts_append calls'
    have hexp := hstep.expired_notMem
    have hpassed := ValidationResult.recoverable.ne_passed hrec
    rw [ih hlive, List.mem_append, LastPassed, LastPassed, he]
    cases executedAttempts calls' with
    | nil => simp [hpassed]
    | cons b bs => simp [hexp]

/-- A returned answer is the last executed response under the unchanged decision, with one
accounted attempt for each executed model. -/
theorem LoopRun.answer (h : LoopRun run attempts n ids r calls) :
    ∀ answer, r = .ok answer → answer.routingDecision = run.decision ∧
      (∃ a, (executedAttempts calls).getLast? = some a ∧
        completed a.outcome = .ok answer.response) ∧
      ∃ execution, answer.execution = some execution ∧
        execution.attempts.map (·.modelId) =
          attempts.map (·.modelId) ++ executedIds calls := by
  induction h with
  | exhausted => exact fun _ h => nomatch h
  | final hstep =>
    rintro answer rfl
    cases hstep with
    | @executed outcome calls _ hexec hend =>
      cases hend with
      | cancelled hr =>
        obtain ⟨_, h, -⟩ := hr
        cases h
      | passed hout hstatus =>
        refine ⟨rfl, ⟨_, by simp [hexec]; rfl, hout⟩, _, rfl, ?_⟩
        simp [execution, executedIds, hexec, attemptOf]
  | @next _ _ _ _ _ _ _ calls' hstep hrest ih =>
    intro answer hr
    obtain ⟨hdecision, ⟨a, ha, hout⟩, execution, hexecution, hids⟩ := ih answer hr
    obtain ⟨outcome, result, -, hid, he⟩ := hstep.executedAttempts_append calls'
    refine ⟨hdecision, ⟨a, ?_, hout⟩, execution, hexecution, ?_⟩
    · rw [he, List.getLast?_cons, ha, Option.getD_some]
    · simp [hids, executedIds, he, hid]

end

/-! ## The executed ids -/

/-- The other qualifying candidates of a decision that did not fall back: they are candidates, they
qualify, and with the selected one they are distinct. -/
theorem mem_candidateIds {routing : RoutingResult}
    (hnodup : (routing.candidates.map (·.modelId)).Nodup) (maxAttempts : ℕ) :
    ∃ others, candidateIds routing maxAttempts =
        (routing.decision.selectedModelId :: others).take maxAttempts ∧
      (routing.decision.selectedModelId :: others).Nodup ∧
      ∀ id ∈ others, routing.decision.fallbackUsed = false ∧
        ∃ c ∈ routing.candidates, c.modelId = id ∧ c.qualifies = true := by
  refine ⟨_, rfl, ?_⟩
  cases routing.decision.fallbackUsed with
  | true => simp
  | false =>
    have hperm := List.perm_insertionSort
      (fun a b : RoutingCandidateSnapshot =>
        CostAwareRoutingPolicy.costKey a.toCandidatePrediction ≤
          CostAwareRoutingPolicy.costKey b.toCandidatePrediction)
      (routing.candidates.filter fun c =>
        c.qualifies && c.modelId ≠ routing.decision.selectedModelId)
    have hmem : ∀ c ∈ otherCandidates routing, c ∈ routing.candidates ∧ c.qualifies = true ∧
        c.modelId ≠ routing.decision.selectedModelId := by
      intro c hc
      simpa using hperm.mem_iff.mp hc
    have hnd : ((otherCandidates routing).map (·.modelId)).Nodup :=
      (hperm.map _).nodup_iff.mpr (hnodup.sublist (List.filter_sublist.map _))
    refine ⟨List.nodup_cons.mpr ⟨?_, by simpa using hnd⟩, ?_⟩
    · simpa using fun c hc => (hmem c hc).2.2
    · intro id hid
      obtain ⟨c, hc, rfl⟩ := List.mem_map.mp (by simpa using hid)
      exact ⟨rfl, c, (hmem c hc).1, rfl, (hmem c hc).2.1⟩

/-! ## Escalation -/

variable {σ : Type} (service : AdaptiveInferenceService σ)

/-- The correlation id of a request whose own id has at most 128 characters. -/
theorem correlationId_holds {requestId : Option String}
    (hid : ∀ id, requestId = some id → id.length ≤ 128) :
    (service.correlationId requestId).Holds fun r calls =>
      ∃ id, r = .ok id ∧ calls = [] ∧ 1 ≤ id.length ∧ id.length ≤ 128 := by
  unfold correlationId
  split
  · rename_i id hsome
    obtain ⟨hmem, hne⟩ := Option.filter_eq_some_iff.mp hsome
    refine Traced.holds_pure ⟨id, rfl, rfl, ?_, hid id hmem⟩
    simpa [Nat.one_le_iff_ne_zero] using hne
  · refine Traced.holds_query_bind fun fresh => Traced.holds_pure ⟨_, rfl, rfl, ?_, ?_⟩ <;>
      simp [fresh.length_eq]

/-- Every run of `generateValidated` is a run of its loop. -/
theorem generateValidated_holds (request : InferenceRequest) (validation : ValidationContract)
    (routing : RoutingResult) {requestId : Option String}
    (hid : ∀ id, requestId = some id → id.length ≤ 128) (deadline : RequestDeadline) :
    (service.generateValidated request validation routing requestId deadline).Holds
      fun r calls => ∃ run : ValidatedRun, run.decision = routing.decision ∧
        run.modelIds = candidateIds routing service.maxValidationAttempts ∧
        LoopRun run [] 1 run.modelIds r calls := by
  refine (service.correlationId_holds hid).bind ?_ ?_
  · rintro _ calls ⟨id, ⟨⟩, rfl, h1, h128⟩
    have hlen : (candidateIds routing service.maxValidationAttempts).length ≤ 3 :=
      (List.length_take_le _ _).trans service.attempts_range.2
    refine (service.attemptLoop_holds ⟨h1, h128⟩ (by simpa using hlen) le_rfl (by omega)).mono ?_
    exact fun r calls h => ⟨_, rfl, rfl, h⟩
  · rintro e calls ⟨id, h, -⟩
    cases h

/-- One model whose calls take `elapsed` seconds, a validator that passes every response, and no
telemetry repository. The state is the clock. -/
def sampleService (elapsed : ℚ) : AdaptiveInferenceService ℚ where
  clock now := (now, now)
  newUuid now := (.sample, now)
  inferenceDeadlineSeconds := 60
  telemetryTimeout := 2
  registryGet _ := .ok .sample
  resolverSupports _ := true
  inference _ _ _ _ now := (.ok .sample, now + elapsed)
  validator _ _ now := (.ok .pass, now)
  recordAdaptiveExecution := none
  routing := {
    predict := fun _ models => .ok (models.map fun m => ⟨m.modelId, .one⟩)
    indicators := ⟨fun _ => false, fun _ => 0, fun _ => 0⟩ }
  maxValidationAttempts := 3
  attempts_range := by decide

/-- The features of the sample request. -/
def sampleFeatures : RoutingRequestFeatures where
  category := some .qa
  categoryProvenance := .clientHint
  promptCharacters := 5
  systemPromptCharacters := 0
  messageCount := 1
  systemPromptPresent := false
  approximateInputTokens := 1
  containsCode := false
  requestsStructuredOutput := false
  maxOutputTokens := InferenceRequest.sample.maxOutputTokens
  constraintIndicatorCount := 0
  reasoningIndicatorCount := 0
  category_absent := by decide
  system_present := noSystemPrompt
  message_count := oneMessage

/-- How a run ended. A run that was rejected by its validation raised after a response; a run that a
provider failure ended raised instead of one. -/
def wayEnded : Except Exc AdaptiveInferenceResult → List Call → AdaptiveTerminalOutcome
  | .ok _, _ => .returned
  | .error e, calls =>
    if e.isInstance .inferenceDeadlineExceededError then .deadlineExceeded
    else match (executedAttempts calls).getLast?.map (completed ·.outcome) with
      | some (.ok _) => .validationFailed
      | _ => .providerFailure

/-- The run left exactly one summary and one terminal event, which agree with the way it ended. -/
def Accounted (r : Except Exc AdaptiveInferenceResult) (calls : List Call) : Prop :=
  Closed (wayEnded r calls) calls

/-- No deadline check of the loop failed, and the validator raised nothing. -/
def Undisturbed (calls : List Call) : Prop :=
  Call.expired true ∉ calls ∧ ∀ response e, Call.validate response (.error e) ∉ calls

section
variable {run : ValidatedRun} {attempts : List AdaptiveAttempt} {n : ℕ} {modelId : Identifier}
  {attempt : AdaptiveAttempt} {ids : List Identifier} {calls rest : List Call}
  {r : Except Exc AdaptiveInferenceResult}

theorem undisturbed_append :
    Undisturbed (calls ++ rest) ↔ Undisturbed calls ∧ Undisturbed rest := by
  simp only [Undisturbed, List.mem_append, not_or, forall_and]
  tauto

/-- Quiet calls disturb nothing. -/
theorem undisturbed_quiet (h : ∀ c ∈ calls, c.quiet = true) : Undisturbed calls :=
  ⟨expired_notMem_quiet h true, fun _ _ => validate_notMem_quiet h⟩

/-- Nor does an iteration whose checks and validation went well. -/
theorem undisturbed_cons (h : Undisturbed calls) {outcome : Except Exc InferenceResponse}
    {response : InferenceResponse} {result : ValidationResult} :
    Undisturbed (.expired false :: .generate modelId outcome :: .expired false ::
      .validate response (.ok result) :: .expired false :: calls) := by
  simpa [Undisturbed] using h

/-- How a run ended that raised after one execution. -/
theorem wayEnded_error (hexec : executedAttempts calls = []) {e : Exc}
    {outcome : Except Exc InferenceResponse} :
    wayEnded (.error e) (.expired false :: .generate modelId outcome :: calls) =
      if e.isInstance .inferenceDeadlineExceededError then .deadlineExceeded
      else match completed outcome with
        | .ok _ => .validationFailed
        | .error _ => .providerFailure := by
  simp only [wayEnded, executedAttempts_expired, executedAttempts_generate, hexec,
    List.getLast?_singleton, Option.map_some]
  cases completed outcome <;> rfl

/-- An undisturbed final iteration executes its model and closes the run with the way it ended; a
disturbed one records nothing. -/
theorem FinalStep.accounted (h : FinalStep run attempts n modelId r calls) (hlive : ¬ Cancelled r) :
    (Undisturbed calls → executedAttempts calls ≠ [] ∧ Accounted r calls) ∧
      (¬ Undisturbed calls → recordedExecutions calls = []) := by
  cases h with
  | late => exact ⟨fun h => absurd (.head _) h.1, fun _ => rfl⟩
  | @executed outcome tail _ hexec hend =>
    have hne : executedAttempts (.expired false :: .generate modelId outcome :: tail) ≠ [] := by
      simp
    cases hend with
    | cancelled hr => exact absurd hr hlive
    | @providerFailed e _ hout hquiet hclosed =>
      refine ⟨fun _ => ⟨hne, ?_⟩, fun h => absurd ?_ h⟩
      · rw [Accounted, wayEnded_error hexec, hout]
        exact ⟨hclosed.recorded, hclosed.terminal⟩
      · simpa [Undisturbed] using undisturbed_quiet hquiet
    | lateResponse => exact ⟨fun h => absurd (by simp) h.1, fun _ => rfl⟩
    | @validatorRaised response e =>
      exact ⟨fun h => absurd (by simp) (h.2 response e), fun _ => rfl⟩
    | lateValidation => exact ⟨fun h => absurd (by simp) h.1, fun _ => rfl⟩
    | passed hout hstatus hquiet hclosed =>
      exact ⟨fun _ => ⟨hne, hclosed.recorded, hclosed.terminal⟩,
        fun h => absurd (undisturbed_cons (undisturbed_quiet hquiet)) h⟩
    | rejected hout hstatus hquiet hclosed =>
      refine ⟨fun _ => ⟨hne, ?_⟩, fun h => absurd (undisturbed_cons (undisturbed_quiet hquiet)) h⟩
      rw [Accounted, wayEnded_error hexec, hout, if_neg (by decide)]
      exact ⟨hclosed.recorded, hclosed.terminal⟩

/-- An iteration that goes on records nothing and is undisturbed. -/
theorem NextStep.quiet (h : NextStep run n modelId attempt calls) :
    Undisturbed calls ∧ recordedExecutions calls = [] ∧ terminalEvents calls = [] ∧
      n ≠ run.modelIds.length := by
  cases h with
  | mk hout hrec hlast hquiet hrecorded hterminal =>
    exact ⟨undisturbed_cons (undisturbed_quiet hquiet), hrecorded, hterminal, hlast⟩

/-- What follows an iteration decides how the run ended, if it executes anything. -/
theorem wayEnded_append (h : NextStep run n modelId attempt calls)
    (hne : executedAttempts rest ≠ []) : wayEnded r (calls ++ rest) = wayEnded r rest := by
  obtain ⟨outcome, result, -, -, he⟩ := h.executedAttempts_append rest
  cases r with
  | ok => rfl
  | error e =>
    obtain ⟨b, bs, hb⟩ := List.exists_cons_of_ne_nil hne
    rw [wayEnded, wayEnded, he, hb, List.getLast?_cons_cons]

/-- **An undisturbed run is accounted; a disturbed one records nothing.** By induction on the run,
whose last iteration is a final one: an iteration goes on only before the last candidate. -/
theorem LoopRun.accounted (h : LoopRun run attempts n ids r calls) (hids : ids ≠ [])
    (hn : n + ids.length = run.modelIds.length + 1) (hlive : ¬ Cancelled r) :
    (Undisturbed calls → executedAttempts calls ≠ [] ∧ Accounted r calls) ∧
      (¬ Undisturbed calls → recordedExecutions calls = []) := by
  induction h with
  | exhausted => exact absurd rfl hids
  | final hstep => exact hstep.accounted hlive
  | @next _ n _ rest _ _ front back hstep hrest ih =>
    obtain ⟨hfront, hrec, hterm, hlast⟩ := hstep.quiet
    rw [List.length_cons] at hn
    have hne : rest ≠ [] := by
      rintro rfl
      rw [List.length_nil] at hn
      omega
    obtain ⟨ihok, iherr⟩ := ih hne (by omega) hlive
    rw [undisturbed_append, recordedExecutions_append, hrec, List.nil_append]
    refine ⟨fun h => ?_, fun h => iherr fun hback => h ⟨hfront, hback⟩⟩
    obtain ⟨hexec, hrecorded, hterminal⟩ := ihok h.2
    refine ⟨?_, ?_⟩
    · obtain ⟨_, _, -, -, he⟩ := hstep.executedAttempts_append back
      simp [he]
    · rw [Accounted, wayEnded_append hstep hexec]
      exact ⟨by simpa [hrec] using hrecorded, by simpa [hterm] using hterminal⟩

end

/-- A disturbed run is not accounted: it records no summary. -/
theorem not_accounted {r : Except Exc AdaptiveInferenceResult} {calls : List Call}
    (h : recordedExecutions calls = []) : ¬ Accounted r calls := by
  rintro ⟨⟨event, hevent, -⟩, -⟩
  rw [h] at hevent
  cases hevent

/-- A run of the sample request on the free model, whose calls take `elapsed` seconds. -/
def sampleRun (elapsed : ℚ) : Except Exc AdaptiveInferenceResult × ℚ × List Call :=
  (sampleService elapsed).generate .sample (some "qa") (.int 0) ["small"] (some .nonemptyText)
    false none none 0

end AdaptiveInferenceService

end RouteLLM
