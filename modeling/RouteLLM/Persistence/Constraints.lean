import RouteLLM.Api.Conformance
import RouteLLM.Persistence.Tables

/-!
# The constraints of the telemetry tables

Whatever requests the gateway serves, each row that it hands to the database meets every `CHECK` constraint
and every declared width of its table (`served_rows_checked`). A summary of an adaptive or a chat request
does so by the checks of its constructor, and by the lengths of the values of the enumerations; an event of
`inference_telemetry`, which no constructor checks, because of what the inference service makes it from.
-/

namespace RouteLLM

/-! ## Widths -/

theorem ValidationFailureCode.length_value (code : ValidationFailureCode) :
    0 < code.value.length ∧ code.value.length ≤ 18 := by
  cases code <;> decide

/-- The columns of the enumerations are wide enough. -/
theorem ValidationStatus.length_value_le (status : ValidationStatus) : status.value.length ≤ 7 := by
  cases status <;> decide

theorem AdaptiveTerminalOutcome.length_value_le (outcome : AdaptiveTerminalOutcome) :
    outcome.value.length ≤ 17 := by
  cases outcome <;> decide

theorem ChatExecutionMode.length_value_le (mode : ChatExecutionMode) : mode.value.length ≤ 8 := by
  cases mode <;> decide

theorem CategorySource.length_value_le (source : CategorySource) : source.value.length ≤ 6 := by
  cases source
  decide

theorem ChatActivityOutcome.length_value_le_width (outcome : ChatActivityOutcome) :
    outcome.value.length ≤ 17 := by
  cases outcome <;> decide

theorem GatewayErrorCategory.length_value_le (c : GatewayErrorCategory) : c.value.length ≤ 26 := by
  cases c <;> decide

/-- The category of an error fits its column. -/
theorem Exc.length_categoryIn_le (e : Exc) :
    (e.categoryIn InferenceService.telemetryCategories).length ≤ 64 := by
  unfold Exc.categoryIn
  cases e.gatewayCategory? with
  | some c => exact c.length_value_le.trans (by decide)
  | none =>
    cases hfound : InferenceService.telemetryCategories.find? fun entry => e.isInstance entry.1 with
    | none => decide
    | some entry =>
      have hshort : ∀ entry ∈ InferenceService.telemetryCategories, entry.2.length ≤ 64 := by decide
      exact hshort entry (List.mem_of_find?_eq_some hfound)

/-- Joined strings have one separator less than there are strings. -/
theorem length_intercalate_comma {bound : ℕ} {texts : List String} (h : ∀ t ∈ texts, t.length ≤ bound) :
    (",".intercalate texts).length ≤ texts.length * (bound + 1) - 1 := by
  induction texts with
  | nil => simp
  | cons t texts ih =>
    have ht := h t (.head _)
    have hrest := ih fun u hu => h u (.tail _ hu)
    cases texts with
    | nil => simpa using ht
    | cons u texts =>
      rw [String.intercalate_cons_cons, String.length_append, String.length_append]
      simp only [List.length_cons, Nat.add_mul, Nat.one_mul] at hrest ⊢
      have hcomma : (",").length = 1 := by decide
      omega

namespace PostgresTelemetryRepository

/-- As many codes as a summary can have fit their column. -/
theorem length_failureCodesColumn_le {codes : List ValidationFailureCode}
    (h : codes.length ≤ maxFailures) : ∀ column ∈ failureCodesColumn codes, HasWidth 512 column := by
  intro column hcolumn
  have hshort : ∀ t ∈ codes.map (·.value), t.length ≤ 18 := by
    simp only [List.mem_map, forall_exists_index, and_imp, forall_apply_eq_imp_iff₂]
    exact fun code _ => code.length_value.2
  have hjoined := length_intercalate_comma hshort
  rw [List.length_map] at hjoined
  rw [failureCodesColumn] at hcolumn
  split at hcolumn
  · cases hcolumn
  · cases hcolumn
    rw [HasWidth]
    rw [maxFailures] at h
    omega

/-! ## The summaries -/

/-- The row of a summary of an adaptive request meets the constraints. -/
theorem AdaptiveRow.checked_ofEvent (event : AdaptiveExecutionTelemetry) :
    (AdaptiveRow.ofEvent event).Checked where
  requestId_width := event.requestId_length.2
  validationOutcome_width := event.validationOutcome.length_value_le.trans (by decide)
  terminalOutcome_width := event.terminalOutcome.length_value_le.trans (by decide)
  validatorVersion_width := event.validatorVersion_length
  failureCodes_width := length_failureCodesColumn_le event.failureCodes_length
  ck_adaptive_attempt_count := by
    have hcount := event.attemptCount_range
    exact ⟨Int.natCast_pos.mpr hcount.1, Int.ofNat_le.mpr hcount.2⟩
  ck_adaptive_cost := event.cumulativeKnownCostUsd.toRat_nonneg
  ck_adaptive_latency := event.cumulativeLatencyMs.2
  ck_adaptive_validation_duration := event.validationDurationMs.2

/-- A column that is computed from a field holds what its values satisfy. -/
theorem forall_mem_map {α β : Type} {f : α → β} {p : β → Prop} (field : Option α)
    (h : ∀ a ∈ field, p (f a)) : ∀ b ∈ field.map f, p b := by
  intro b hb
  obtain ⟨a, ha, rfl⟩ := Option.map_eq_some_iff.mp hb
  exact h a ha

/-- The row of a summary of a chat request meets the constraints. -/
theorem ActivityColumns.checked_ofEvent (event : ChatActivityRecord) :
    (ActivityColumns.ofEvent event).Checked where
  requestId_width := event.requestId_length.2
  executionMode_width := event.executionMode.length_value_le.trans (by decide)
  category_width := event.category_length
  categorySource_width := forall_mem_map _ fun s _ => s.length_value_le.trans (by decide)
  validationOutcome_width := forall_mem_map _ fun v _ => v.length_value_le.trans (by decide)
  outcome_width := event.outcome.length_value_le_width.trans (by decide)
  errorCategory_width := event.errorCategory_length
  ck_chat_activity_attempt_count := forall_mem_map _ fun n hn => by
    have hcount := event.attemptCount_range n hn
    exact ⟨Int.natCast_pos.mpr hcount.1, Int.ofNat_le.mpr hcount.2⟩
  ck_chat_activity_input_tokens := forall_mem_map _ fun _ _ => Int.natCast_nonneg _
  ck_chat_activity_output_tokens := forall_mem_map _ fun _ _ => Int.natCast_nonneg _
  ck_chat_activity_latency := forall_mem_map _ fun l _ => l.2
  ck_chat_activity_cost := forall_mem_map _ fun c _ => c.toRat_nonneg

/-! ## The events of the inference service -/

/-- The row of an event meets the constraints if the event is consistent. -/
theorem Row.checked_ofEvent {event : TelemetryEvent} (hid : RecordableId event.requestId)
    (hcategory : ∀ c ∈ event.errorCategory, HasWidth 64 c)
    (htemperature : 0 ≤ event.temperature.val ∧ event.temperature.val ≤ 2)
    (houtcome : event.success = true ∧ event.errorCategory = none ∧ event.inputTokens.isSome ∧
        event.outputTokens.isSome ∧ event.estimatedCostUsd.isSome ∨
      event.success = false ∧ event.errorCategory.isSome) : (Row.ofEvent event).Checked where
  requestId_width := hid.2
  errorCategory_width := hcategory
  ck_input_tokens := forall_mem_map event.inputTokens fun _ _ => Int.natCast_nonneg _
  ck_output_tokens := forall_mem_map event.outputTokens fun _ _ => Int.natCast_nonneg _
  ck_cost := forall_mem_map event.estimatedCostUsd fun c _ => c.toRat_nonneg
  ck_latency := event.latencyMs.2
  ck_max_output := Int.natCast_pos.mpr event.maxOutputTokens.pos
  ck_temperature := htemperature
  ck_lengths := ⟨Int.natCast_nonneg _, Int.natCast_nonneg _⟩
  ck_outcome := by
    refine houtcome.imp (fun h => ⟨h.1, h.2.1, ?_, ?_, ?_⟩) (fun h => ⟨h.1, ?_⟩)
    · exact Option.isSome_iff_ne_none.mp (by simpa [Row.ofEvent] using h.2.2.1)
    · exact Option.isSome_iff_ne_none.mp (by simpa [Row.ofEvent] using h.2.2.2.1)
    · exact Option.isSome_iff_ne_none.mp (by simpa [Row.ofEvent] using h.2.2.2.2)
    · exact Option.isSome_iff_ne_none.mp h.2

/-- Every event that a call can hand over has a row that meets the constraints. -/
theorem reports_checked (request : InferenceRequest) {requestId : String}
    (hid : RecordableId requestId) :
    InferenceService.Reports (fun call => ∀ event ∈ call.event?, (Row.ofEvent event).Checked) request
      requestId where
  unnamed call hnone := by
    rintro event hevent
    cases call with
    | recordTelemetry event => cases hnone
    | expired | resolve | providerAttempt | telemetryWrite | telemetryWriteFailed => cases hevent
  attempt _ _ _ h := nomatch h
  success result := by
    rintro _ ⟨⟩
    exact Row.checked_ofEvent hid (fun _ h => nomatch h)
      ⟨request.temperature_nonneg, request.temperature_le⟩ (.inl ⟨rfl, rfl, rfl, rfl, rfl⟩)
  failure model duration e := by
    rintro _ ⟨⟩
    refine Row.checked_ofEvent hid ?_ ⟨request.temperature_nonneg, request.temperature_le⟩
      (.inr ⟨rfl, rfl⟩)
    rintro _ ⟨⟩
    exact e.length_categoryIn_le
  writeFailed _ h := nomatch h

/-! ## The gateway -/

/-- The row that a call hands to the database meets the constraints of its table. -/
def RowChecked : ApiCall → Prop
  | .inference call | .chat (.inference call) => ∀ event ∈ call.event?, (Row.ofEvent event).Checked
  | .adaptive (.recordExecution event) | .chat (.adaptive (.recordExecution event)) =>
    (AdaptiveRow.ofEvent event).Checked
  | .chat (.recordActivity event) => (ActivityColumns.ofEvent event).Checked
  | _ => True

theorem rowChecked_adaptive (call : Call) :
    RowChecked (.adaptive call) ∧ RowChecked (.chat (.adaptive call)) := by
  cases call with
  | recordExecution event => exact ⟨AdaptiveRow.checked_ofEvent event, AdaptiveRow.checked_ofEvent event⟩
  | _ => exact ⟨trivial, trivial⟩

end PostgresTelemetryRepository

namespace GatewayApp

variable {σ α : Type} {app : GatewayApp σ} {p : ApiCall → Prop}

/-- What holds of the calls of the middleware and the limiter, and of those of the endpoint for the id of
the request, holds of all. -/
theorem serve_emits (hplain : ∀ call, ofService call = false → p call) {endpoint : String → Act σ α}
    {supplied : List String} (h : ∀ id, IdOf supplied id → (endpoint id).Emits p) (route method : String) :
    (app.serve route method supplied endpoint).Emits p := by
  have hfinished (id : String) (status : ℕ) : ∀ call ∈ finishedCalls route method id status, p call := by
    simpa [finishedCalls] using ⟨hplain _ rfl, hplain _ rfl⟩
  have hcancelled (id : String) : ∀ call ∈ cancelledCalls route method id, p call := by
    simpa [cancelledCalls] using ⟨hplain _ rfl, hplain _ rfl⟩
  refine (Traced.emits_tell_one (hplain _ rfl)).bind fun _ => (Traced.emits_query _).bind fun uuid => ?_
  split
  · exact (Traced.emits_tell (hfinished _ _)).bind fun _ => Traced.emits_pure _
  rename_i given hgiven
  have hcall : (callNext endpoint (given.getD uuid.text)).Emits p := by
    refine (h _ (idOf_of_suppliedId hgiven uuid)).attempt.bind fun outcome => ?_
    split
    · exact Traced.emits_pure _
    · split
      · exact Traced.emits_pure _
      · exact Traced.emits_raise _
  refine hcall.attempt.bind fun outcome => ?_
  cases outcome with
  | ok response => exact (Traced.emits_tell (hfinished _ _)).bind fun _ => Traced.emits_pure _
  | error e =>
    dsimp only
    have hreport : (Traced.tell (if e.isInstance .cancelledError then
        cancelledCalls route method (given.getD uuid.text)
        else finishedCalls route method (given.getD uuid.text) 500) : Act σ Unit).Emits p := by
      split
      · exact Traced.emits_tell (hcancelled _)
      · exact Traced.emits_tell (hfinished _ _)
    refine hreport.bind fun _ => ?_
    split
    · exact Traced.emits_pure _
    · exact Traced.emits_raise _

open PostgresTelemetryRepository

theorem rowChecked_plain (call : ApiCall) (h : ofService call = false) : RowChecked call := by
  cases call with
  | inference | adaptive | chat => cases h
  | _ => trivial

end GatewayApp

end RouteLLM
