import RouteLLM.Benchmarks.Models
import RouteLLM.Lib.DecimalContext
import RouteLLM.Lib.DecimalGrid
import RouteLLM.Routing.Features

/-!
# The cost estimate of the benchmark

`build_cost_estimate` of `benchmarks/routing_benchmark_v1.py`: what the calls of the data set and of its pilot are
expected to cost, beside what they may cost at most. The figures are computed in the default decimal context. The
text of a canonical response that is no text is a parameter.
-/

namespace RouteLLM.RoutingBenchmark

/-! ## The models of the benchmark -/

theorem vercel_stripped : PyStr.strip "vercel".toList = "vercel".toList := by decide

theorem vercel_nonempty : 1 ≤ "vercel".length := by decide

/-- A model of `CANDIDATE_MODELS`, with its prices in hundredths. -/
def candidateModel (modelId providerModelName : Identifier) (inputPrice outputPrice : ℕ)
    (contextWindow : PositiveTokenCount) (supportsTemperature : Bool) (effort : ReasoningEffort)
    (policy : OutputTokenPolicy) (hpolicy : policy.reasoningHeadroomTokens = 0) : ModelConfig where
  modelId := modelId
  provider := ⟨"vercel", vercel_stripped, vercel_nonempty⟩
  providerModelName := providerModelName
  inputCostPer1mTokens := ⟨⟨inputPrice, -2⟩, Int.natCast_nonneg inputPrice⟩
  outputCostPer1mTokens := ⟨⟨outputPrice, -2⟩, Int.natCast_nonneg outputPrice⟩
  contextWindow := contextWindow
  capabilities :=
    { supportsTemperature := supportsTemperature
      supportsStructuredOutput := true
      reasoning := .providerDefault }
  reasoningEffort := some effort
  outputTokenPolicy := policy
  effort_supported := fun _ h => ReasoningBehavior.noConfusion h
  native_is_google := fun h => ReasoningControlMechanism.noConfusion h
  native_has_effort := fun h => ReasoningControlMechanism.noConfusion h
  visible_no_headroom := fun _ => hpolicy

/-- `_benchmark_execution_model`. -/
def benchmarkExecutionModel (model : ModelConfig) (headroom expectedReasoning : ℕ)
    (hheadroom : headroom ≤ 1024) (hexpected : expectedReasoning ≤ headroom) : ModelConfig :=
  { model with
    capabilities :=
      { model.capabilities with
        outputTokenAccounting := if headroom = 0 then .visibleOnly else .reasoningAndVisible }
    outputTokenPolicy := ⟨[], headroom, expectedReasoning, hheadroom, hexpected.trans hheadroom,
      OutputTokenPolicy.default.categories_nodup, hexpected⟩
    visible_no_headroom := by
      intro h
      by_contra hne
      rw [if_neg hne] at h
      cases h }

theorem reasoningLimit_pos : 0 < 256 := Nat.succ_pos 255

theorem no_headroom_le : 0 ≤ 1024 := Nat.zero_le 1024

theorem no_reasoning_le : 0 ≤ 0 := le_rfl

/-- The policy of a candidate with a limit of its own for reasoning tasks. -/
def reasoningOverride : OutputTokenPolicy where
  categoryOverrides := [⟨⟨"reasoning", by decide, by decide⟩, ⟨256, reasoningLimit_pos⟩⟩]
  reasoningHeadroomTokens := 0
  expectedReasoningTokens := 0
  headroom_le := no_headroom_le
  expected_le := no_headroom_le
  categories_nodup := List.nodup_singleton _
  expected_le_headroom := no_reasoning_le

/-- `ROUTING_BENCHMARK_MODELS`, the models of `CANDIDATE_MODELS` with their headrooms. -/
def routingBenchmarkModels : List ModelConfig :=
  [benchmarkExecutionModel
      (candidateModel ⟨"candidate-nemotron-3.5-lightning", by decide, by decide⟩
        ⟨"nvidia/nemotron-3.5-lightning", by decide, by decide⟩ 5 15 ⟨262144, by decide⟩ true .none .default rfl)
      0 0 no_headroom_le no_reasoning_le,
    benchmarkExecutionModel
      (candidateModel ⟨"candidate-gpt-6-luna", by decide, by decide⟩
        ⟨"openai/gpt-6-luna", by decide, by decide⟩ 10 50 ⟨1050000, by decide⟩ true .low .default rfl)
      128 32 (by decide) (by decide),
    benchmarkExecutionModel
      (candidateModel ⟨"candidate-gemini-3-flash", by decide, by decide⟩
        ⟨"google/gemini-3-flash", by decide, by decide⟩ 50 300 ⟨1000000, by decide⟩ true .low reasoningOverride rfl)
      256 160 (by decide) (by decide),
    benchmarkExecutionModel
      (candidateModel ⟨"candidate-claude-sonnet-5", by decide, by decide⟩
        ⟨"anthropic/claude-sonnet-5", by decide, by decide⟩ 200 1000 ⟨1000000, by decide⟩ false .low .default rfl)
      128 32 (by decide) (by decide)]

/-! ## The figures of a call -/

/-- The precision of the default context. -/
def defaultPrecision : ℕ := 28

/-- `int()` of a decimal. -/
def decimalToInt (d : Decimal) : ℤ := RoundingMode.truncate d.toRat

/-- `metadata["deterministic_constraints"]["max_words"]`, where it can be multiplied by a decimal. -/
def maxWords (task : BenchmarkTask) : Option ℤ :=
  match task.evaluationMetadata.lookup (PyStr.ofString "deterministic_constraints") with
  | some (.dict constraints) =>
    match constraints.lookup (PyStr.ofString "max_words") with
    | some (.int words) => some words
    | some (.bool b) => some (if b then 1 else 0)
    | _ => none
  | _ => none

variable (str : PyJson → PyStr)

/-- `_canonical_tokens`. -/
def canonicalTokens (task : BenchmarkTask) : Option ℕ :=
  if task.category = .summarization then
    (maxWords task).map fun words =>
      (max 20 (decimalToInt (Decimal.mul defaultPrecision (.ofInt words) ⟨75, -2⟩))).toNat
  else
    let response := (task.evaluationMetadata.lookup (PyStr.ofString "canonical_response")).getD (.str [])
    some (max 1 (((str response).length + 3) / 4))

/-- The visible tokens that are expected of a call. -/
def expectedVisible (task : BenchmarkTask) (canonical : ℕ) : ℕ :=
  max canonical
    (decimalToInt (Decimal.mul defaultPrecision (.ofInt task.maxOutputTokens.val) ⟨35, -2⟩)).toNat

/-- The output that a call is allowed. -/
def callAllowance (task : BenchmarkTask) (model : ModelConfig) : ℕ :=
  (model.providerOutputAllowance task.maxOutputTokens task.category.value).val

def expectedOutput (task : BenchmarkTask) (canonical : ℕ) (model : ModelConfig) : ℕ :=
  min (callAllowance task model)
    (expectedVisible task canonical + model.outputTokenPolicy.expectedReasoningTokens)

/-- The cost of a number of tokens, at prices for a million. -/
def tokenCost (inputTokens outputTokens : ℕ) (inputPrice outputPrice : Decimal) : Decimal :=
  Decimal.div defaultPrecision
    (Decimal.add defaultPrecision (Decimal.mul defaultPrecision (.ofInt inputTokens) inputPrice)
      (Decimal.mul defaultPrecision (.ofInt outputTokens) outputPrice)) ⟨10 ^ 6, 0⟩

/-- The cost of a call of a candidate. -/
def candidateCost (model : ModelConfig) (inputTokens outputTokens : ℕ) : Decimal :=
  tokenCost inputTokens outputTokens model.inputCostPer1mTokens.dec model.outputCostPer1mTokens.dec

/-! ## The totals -/

structure Totals where
  candidateInput : ℕ
  candidateOutput : ℕ
  worstCandidateOutput : ℕ
  candidateCost : Decimal
  worstCandidateCost : Decimal
  judgeInput : ℕ
  judgeOutput : ℕ
  judgeCalls : ℕ
  worstJudgeInput : ℕ
  worstJudgeOutput : ℕ

def Totals.zero : Totals := ⟨0, 0, 0, .ofInt 0, .ofInt 0, 0, 0, 0, 0, 0⟩

/-- One round of the loop over the models. -/
def Totals.addCall (task : BenchmarkTask) (inputTokens canonical : ℕ) (totals : Totals) (model : ModelConfig) :
    Totals :=
  let totals :=
    { totals with
      candidateInput := totals.candidateInput + inputTokens
      candidateOutput := totals.candidateOutput + expectedOutput task canonical model
      worstCandidateOutput := totals.worstCandidateOutput + callAllowance task model
      candidateCost := Decimal.add defaultPrecision totals.candidateCost
        (RoutingBenchmark.candidateCost model inputTokens (expectedOutput task canonical model))
      worstCandidateCost := Decimal.add defaultPrecision totals.worstCandidateCost
        (RoutingBenchmark.candidateCost model inputTokens (callAllowance task model)) }
  if task.category = .summarization then
    { totals with
      judgeCalls := totals.judgeCalls + 1
      judgeInput := totals.judgeInput + (inputTokens + expectedVisible task canonical + 320)
      judgeOutput := totals.judgeOutput + 180
      worstJudgeInput := totals.worstJudgeInput + (inputTokens + callAllowance task model + 320)
      worstJudgeOutput := totals.worstJudgeOutput + 256 }
  else totals

/-- One round of the loop over the tasks. -/
def Totals.addTask (totals : Totals) (task : BenchmarkTask) : Option Totals :=
  (canonicalTokens str task).map fun canonical =>
    routingBenchmarkModels.foldl
      (Totals.addCall task (approximateInputTokens task.toInferenceRequest) canonical) totals

/-- `worst_case_authorized_allowance`. -/
structure AuthorizedAllowance where
  candidateOutputTokens : ℕ
  candidateCostUsd : Decimal
  judgeInputTokens : ℕ
  judgeOutputTokens : ℕ
  judgeCostUsd : Decimal
  retryContingencyUsd : Decimal
  totalCostUsd : Decimal

/-- The figures of an estimate, with the decimals that it prints. -/
structure CostEstimate where
  requests : ℕ
  candidateCalls : ℕ
  candidateInputTokens : ℕ
  candidateOutputTokens : ℕ
  candidateCostUsd : Decimal
  semanticJudgeCalls : ℕ
  judgeInputTokens : ℕ
  judgeOutputTokens : ℕ
  judgeCostUsd : Decimal
  retryContingencyUsd : Decimal
  totalBudgetUsd : Decimal
  expectedTotalCostUsd : Decimal
  worstCase : AuthorizedAllowance

/-- `quantize(Decimal("0.00000001"))`. -/
def quantizeUsd (d : Decimal) : Option Decimal := Decimal.quantize defaultPrecision (-8) d

/-- The cost of the judge's tokens. -/
def judgeCost (inputTokens outputTokens : ℕ) : Decimal :=
  tokenCost inputTokens outputTokens ⟨1000, -2⟩ ⟨5000, -2⟩

/-- The figures that an estimate makes of a cost of the candidates and one of the judge, in the order candidates,
judge, contingency, total. -/
def budgetFigures (candidate judge : Decimal) : Option (Decimal × Decimal × Decimal × Decimal) := do
  let subtotal := Decimal.add defaultPrecision candidate judge
  let contingency := Decimal.mul defaultPrecision subtotal ⟨10, -2⟩
  some (← quantizeUsd candidate, ← quantizeUsd judge, ← quantizeUsd contingency,
    ← quantizeUsd (Decimal.add defaultPrecision subtotal contingency))

/-- `estimate`. -/
def estimate (tasks : List BenchmarkTask) : Option CostEstimate := do
  let totals ← tasks.foldlM (Totals.addTask str) Totals.zero
  let expected ← budgetFigures totals.candidateCost (judgeCost totals.judgeInput totals.judgeOutput)
  let worst ← budgetFigures totals.worstCandidateCost (judgeCost totals.worstJudgeInput totals.worstJudgeOutput)
  some
    { requests := tasks.length
      candidateCalls := tasks.length * 4
      candidateInputTokens := totals.candidateInput
      candidateOutputTokens := totals.candidateOutput
      candidateCostUsd := expected.1
      semanticJudgeCalls := totals.judgeCalls
      judgeInputTokens := totals.judgeInput
      judgeOutputTokens := totals.judgeOutput
      judgeCostUsd := expected.2.1
      retryContingencyUsd := expected.2.2.1
      totalBudgetUsd := expected.2.2.2
      expectedTotalCostUsd := expected.2.2.2
      worstCase :=
        { candidateOutputTokens := totals.worstCandidateOutput
          candidateCostUsd := worst.1
          judgeInputTokens := totals.worstJudgeInput
          judgeOutputTokens := totals.worstJudgeOutput
          judgeCostUsd := worst.2.1
          retryContingencyUsd := worst.2.2.1
          totalCostUsd := worst.2.2.2 } }

/-- `build_cost_estimate`: the estimates of the pilot and of the data set. The manifest of the pilot names the
tasks. -/
def buildCostEstimate (dataset : BenchmarkDataset) (pilot : List String) : Option (CostEstimate × CostEstimate) := do
  let tasks ← pilot.mapM fun taskId => dataset.tasks.find? fun task => task.taskId.value = taskId
  some (← estimate str tasks, ← estimate str dataset.tasks)

end RouteLLM.RoutingBenchmark
