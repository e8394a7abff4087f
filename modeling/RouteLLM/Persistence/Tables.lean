import Mathlib.Algebra.BigOperators.Group.List.Basic
import Mathlib.Algebra.Order.Ring.Rat
import RouteLLM.Application.InferenceRecord
import RouteLLM.Telemetry.Activity

/-!
# The telemetry tables

The rows that `persistence/repository.py` writes to the tables of `persistence/models.py`, with the `CHECK`
constraints and the widths that the tables declare, and the summary that it reads. The range of the
`BIGINT` columns is left out, and so are the random ids and the creation times.
-/

namespace RouteLLM

@[inherit_doc ReasoningEffort.value]
def ValidationStatus.value : ValidationStatus → String
  | .passed => "passed"
  | .failed => "failed"
  | .notRun => "not_run"
  | .error => "error"

@[inherit_doc ReasoningEffort.value]
def ValidationFailureCode.value : ValidationFailureCode → String
  | .emptyResponse => "empty_response"
  | .minimumCharacters => "minimum_characters"
  | .invalidJson => "invalid_json"
  | .rootType => "root_type"
  | .missingField => "missing_field"
  | .fieldType => "field_type"
  | .labelNotAllowed => "label_not_allowed"
  | .outputTruncated => "output_truncated"
  | .inputSizeLimit => "input_size_limit"
  | .jsonDepthLimit => "json_depth_limit"
  | .validatorError => "validator_error"

@[inherit_doc ReasoningEffort.value]
def AdaptiveTerminalOutcome.value : AdaptiveTerminalOutcome → String
  | .returned => "returned"
  | .validationFailed => "validation_failed"
  | .providerFailure => "provider_failure"
  | .deadlineExceeded => "deadline_exceeded"

@[inherit_doc ReasoningEffort.value]
def ChatExecutionMode.value : ChatExecutionMode → String
  | .direct => "direct"
  | .adaptive => "adaptive"

@[inherit_doc ReasoningEffort.value]
def CategorySource.value : CategorySource → String
  | .manual => "manual"

namespace PostgresTelemetryRepository

/-- The strings of a `VARCHAR(width)` column. -/
def HasWidth (width : ℕ) (s : String) : Prop := s.length ≤ width

/-! ## `inference_telemetry` -/

/-- A row of `inference_telemetry`. -/
structure Row where
  requestId : String
  modelId : String
  provider : String
  inputTokens : Option ℤ
  outputTokens : Option ℤ
  latencyMs : ℚ
  estimatedCostUsd : Option ℚ
  success : Bool
  errorCategory : Option String
  maxOutputTokens : ℤ
  temperature : ℚ
  promptCharacters : ℤ
  systemPromptCharacters : ℤ
  deriving DecidableEq

/-- `Row(**asdict(event))`. -/
def Row.ofEvent (event : TelemetryEvent) : Row where
  requestId := event.requestId
  modelId := event.modelId.value
  provider := event.provider.value
  inputTokens := event.inputTokens.map (↑)
  outputTokens := event.outputTokens.map (↑)
  latencyMs := event.latencyMs
  estimatedCostUsd := event.estimatedCostUsd.map Money.toRat
  success := event.success
  errorCategory := event.errorCategory
  maxOutputTokens := event.maxOutputTokens.val
  temperature := event.temperature.val
  promptCharacters := event.promptCharacters
  systemPromptCharacters := event.systemPromptCharacters

/-- The `CHECK` constraints and the widths of `inference_telemetry`. -/
structure Row.Checked (row : Row) : Prop where
  requestId_width : HasWidth 128 row.requestId
  errorCategory_width : ∀ c ∈ row.errorCategory, HasWidth 64 c
  ck_input_tokens : ∀ n ∈ row.inputTokens, 0 ≤ n
  ck_output_tokens : ∀ n ∈ row.outputTokens, 0 ≤ n
  ck_cost : ∀ c ∈ row.estimatedCostUsd, 0 ≤ c
  ck_latency : 0 ≤ row.latencyMs
  ck_max_output : 0 < row.maxOutputTokens
  ck_temperature : 0 ≤ row.temperature ∧ row.temperature ≤ 2
  ck_lengths : 0 ≤ row.promptCharacters ∧ 0 ≤ row.systemPromptCharacters
  ck_outcome : row.success = true ∧ row.errorCategory = none ∧ row.inputTokens ≠ none ∧
      row.outputTokens ≠ none ∧ row.estimatedCostUsd ≠ none ∨
    row.success = false ∧ row.errorCategory ≠ none

/-- `TelemetrySummary`. -/
structure TelemetrySummary where
  totalRequests : ℕ
  successfulRequests : ℕ
  failedRequests : ℕ
  totalEstimatedCostUsd : ℚ
  averageLatencyMs : Option ℚ
  totalInputTokens : ℤ
  totalOutputTokens : ℤ
  deriving DecidableEq

/-- `avg`, which is null where there is no row. -/
def avg (values : List ℚ) : Option ℚ :=
  if values = [] then none else some (values.sum / values.length)

/-- `summary`: a sum skips the nulls of its column. -/
def summary (rows : List Row) : TelemetrySummary where
  totalRequests := rows.length
  successfulRequests := (rows.filter (·.success)).length
  failedRequests := (rows.filter (!·.success)).length
  totalEstimatedCostUsd := (rows.filterMap (·.estimatedCostUsd)).sum
  averageLatencyMs := avg (rows.map (·.latencyMs))
  totalInputTokens := (rows.filterMap (·.inputTokens)).sum
  totalOutputTokens := (rows.filterMap (·.outputTokens)).sum

/-! ## `adaptive_execution_telemetry` -/

/-- A row of `adaptive_execution_telemetry`. -/
structure AdaptiveRow where
  requestId : String
  initialRoutedModelId : String
  returnedModelId : Option String
  attemptCount : ℤ
  escalated : Bool
  validationOutcome : String
  terminalOutcome : String
  cumulativeKnownCostUsd : ℚ
  costComplete : Bool
  cumulativeLatencyMs : ℚ
  validatorVersion : Option String
  validationDurationMs : ℚ
  failureCodes : Option String
  deriving DecidableEq

/-- `",".join(code.value for code in event.failure_codes) or None`. -/
def failureCodesColumn (codes : List ValidationFailureCode) : Option String :=
  let joined := ",".intercalate (codes.map (·.value))
  if joined = "" then none else some joined

/-- The row that `record_adaptive_execution` adds. -/
def AdaptiveRow.ofEvent (event : AdaptiveExecutionTelemetry) : AdaptiveRow where
  requestId := event.requestId
  initialRoutedModelId := event.initialRoutedModelId.value
  returnedModelId := event.returnedModelId.map (·.value)
  attemptCount := event.attemptCount
  escalated := event.escalated
  validationOutcome := event.validationOutcome.value
  terminalOutcome := event.terminalOutcome.value
  cumulativeKnownCostUsd := event.cumulativeKnownCostUsd.toRat
  costComplete := event.costComplete
  cumulativeLatencyMs := event.cumulativeLatencyMs
  validatorVersion := event.validatorVersion
  validationDurationMs := event.validationDurationMs
  failureCodes := failureCodesColumn event.failureCodes

/-- The `CHECK` constraints and the widths of `adaptive_execution_telemetry`. -/
structure AdaptiveRow.Checked (row : AdaptiveRow) : Prop where
  requestId_width : HasWidth 128 row.requestId
  validationOutcome_width : HasWidth 32 row.validationOutcome
  terminalOutcome_width : HasWidth 32 row.terminalOutcome
  validatorVersion_width : ∀ v ∈ row.validatorVersion, HasWidth 64 v
  failureCodes_width : ∀ codes ∈ row.failureCodes, HasWidth 512 codes
  ck_adaptive_attempt_count : 0 < row.attemptCount ∧ row.attemptCount ≤ 3
  ck_adaptive_cost : 0 ≤ row.cumulativeKnownCostUsd
  ck_adaptive_latency : 0 ≤ row.cumulativeLatencyMs
  ck_adaptive_validation_duration : 0 ≤ row.validationDurationMs

/-! ## `chat_activity` -/

/-- The columns of a row of `chat_activity` but for its id and its creation time. -/
structure ActivityColumns where
  requestId : String
  executionMode : String
  category : Option String
  categorySource : Option String
  initialModelId : Option String
  finalModelId : Option String
  provider : Option String
  routingThresholdSatisfied : Option Bool
  routingFallbackUsed : Option Bool
  attemptCount : Option ℤ
  escalated : Option Bool
  validationOutcome : Option String
  outcome : String
  errorCategory : Option String
  inputTokens : Option ℤ
  outputTokens : Option ℤ
  latencyMs : Option ℚ
  estimatedCostUsd : Option ℚ
  costComplete : Bool
  deriving DecidableEq

/-- The columns that `record_chat_activity` writes. -/
def ActivityColumns.ofEvent (event : ChatActivityRecord) : ActivityColumns where
  requestId := event.requestId
  executionMode := event.executionMode.value
  category := event.category
  categorySource := event.categorySource.map (·.value)
  initialModelId := event.initialModelId.map (·.value)
  finalModelId := event.finalModelId.map (·.value)
  provider := event.provider.map (·.value)
  routingThresholdSatisfied := event.routingThresholdSatisfied
  routingFallbackUsed := event.routingFallbackUsed
  attemptCount := event.attemptCount.map (↑)
  escalated := event.escalated
  validationOutcome := event.validationOutcome.map (·.value)
  outcome := event.outcome.value
  errorCategory := event.errorCategory
  inputTokens := event.inputTokens.map (↑)
  outputTokens := event.outputTokens.map (↑)
  latencyMs := event.latencyMs.map (↑)
  estimatedCostUsd := event.estimatedCostUsd.map Money.toRat
  costComplete := event.costComplete

/-- The `CHECK` constraints and the widths of `chat_activity`. -/
structure ActivityColumns.Checked (row : ActivityColumns) : Prop where
  requestId_width : HasWidth 128 row.requestId
  executionMode_width : HasWidth 16 row.executionMode
  category_width : ∀ c ∈ row.category, HasWidth 64 c
  categorySource_width : ∀ c ∈ row.categorySource, HasWidth 16 c
  validationOutcome_width : ∀ v ∈ row.validationOutcome, HasWidth 32 v
  outcome_width : HasWidth 32 row.outcome
  errorCategory_width : ∀ c ∈ row.errorCategory, HasWidth 64 c
  ck_chat_activity_attempt_count : ∀ n ∈ row.attemptCount, 0 < n ∧ n ≤ 3
  ck_chat_activity_input_tokens : ∀ n ∈ row.inputTokens, 0 ≤ n
  ck_chat_activity_output_tokens : ∀ n ∈ row.outputTokens, 0 ≤ n
  ck_chat_activity_latency : ∀ l ∈ row.latencyMs, 0 ≤ l
  ck_chat_activity_cost : ∀ c ∈ row.estimatedCostUsd, 0 ≤ c

end PostgresTelemetryRepository

end RouteLLM
