import Mathlib.Data.NNRat.BigOperators
import Mathlib.Data.Prod.Lex
import Mathlib.Data.String.Basic
import RouteLLM.Benchmarks.Models
import RouteLLM.Evaluation.Models
import RouteLLM.Lib.Combinations
import RouteLLM.Lib.DecimalSum
import RouteLLM.Lib.FloatMean
import RouteLLM.Lib.FloatOrder
import RouteLLM.Lib.KeySort

/-!
# The aggregation of evaluations

`evaluation/aggregation.py` and `MetricGroup`. A total is summed in the context of the process, and only the
averages are computed in a wider one. What `Decimal(str(value))` is for a value of the error details is a
parameter: nothing where it raises or is not finite.
-/

namespace PyFloat

/-- The float of a number. -/
def ofRat (q : ℚ) : PyFloat :=
  match Binary64.ofRat? q with
  | some x => finite x
  | none => if 0 ≤ q then posInf else negInf

/-- `-x`. -/
def neg : PyFloat → PyFloat
  | finite x => ofRat (-x.val)
  | posInf => negInf
  | negInf => posInf
  | nan => nan

/-- `x + y`. -/
def add : PyFloat → PyFloat → PyFloat
  | finite x, finite y => ofRat (x.val + y.val)
  | nan, _ | _, nan | posInf, negInf | negInf, posInf => nan
  | posInf, _ | _, posInf => posInf
  | negInf, _ | _, negInf => negInf

/-- `abs(x)`. -/
def abs : PyFloat → PyFloat
  | finite x => ofRat |x.val|
  | negInf => posInf
  | x => x

/-- A step of the built-in `sum`: the sum so far and what its roundings lost. -/
def sumStep (total : PyFloat × PyFloat) (x : PyFloat) : PyFloat × PyFloat :=
  let next := add total.1 x
  let lost := if (abs x).Le (abs total.1) then add (add total.1 (neg next)) x else add (add x (neg next)) total.1
  (next, add total.2 lost)

/-- The built-in `sum` of floats, which adds what was lost at the end where it is finite. -/
def sum (xs : List PyFloat) : PyFloat :=
  let total := xs.foldl sumStep (finite 0, finite 0)
  match total.2 with
  | finite _ => add total.1 total.2
  | _ => total.1

end PyFloat

namespace RouteLLM

/-- An `EvaluationResult` with the fields of the call that made it. -/
structure MeteredEvaluation extends EvaluationResult where
  evaluationCallMade : Bool := false
  evaluationInputTokens : ℕ := 0
  evaluationOutputTokens : ℕ := 0
  evaluationLatencyMs : ℚ≥0 := 0
  evaluationCostUsd : Money := .zero

/-- The fields of a group, before its validator has run. -/
structure MetricFields where
  modelId : Option String
  category : Option TaskCategory
  evaluatedTasks : ℕ
  fullyEvaluatedTasks : ℕ
  incompleteEvaluations : ℕ
  successfulResponses : ℕ
  acceptableResponses : ℕ
  meanQualityScore : Option Probability
  acceptableRate : Option PyFloat
  totalEstimatedCostUsd : Money
  averageCostPerTaskUsd : Money
  costPerAcceptableResponseUsd : Option Money
  averageLatencyMs : ℚ≥0

/-- `MetricGroup`, with the checks of `consistent_evaluation_counts`. -/
structure MetricGroup extends MetricFields where
  evaluated_eq : fullyEvaluatedTasks + incompleteEvaluations = evaluatedTasks
  acceptable_le : acceptableResponses ≤ fullyEvaluatedTasks

/-- The count that the validator assigns where both counts of the status are zero. -/
def MetricFields.assigned (fields : MetricFields) : MetricFields :=
  if fields.evaluatedTasks ≠ 0 ∧ fields.fullyEvaluatedTasks = 0 ∧ fields.incompleteEvaluations = 0 then
    { fields with fullyEvaluatedTasks := fields.evaluatedTasks }
  else fields

/-- `consistent_evaluation_counts`. -/
def MetricFields.consistentEvaluationCounts (fields : MetricFields) : Except Exc MetricGroup :=
  if heq : fields.assigned.fullyEvaluatedTasks + fields.assigned.incompleteEvaluations =
      fields.assigned.evaluatedTasks then
    if hle : fields.assigned.acceptableResponses ≤ fields.assigned.fullyEvaluatedTasks then
      .ok ⟨fields.assigned, heq, hle⟩
    else .error (.raised .validationError "Acceptable responses cannot exceed fully evaluated tasks")
  else .error (.raised .validationError "Evaluation status counts must equal evaluated tasks")

structure ModelComparison where
  leftModelId : String
  rightModelId : String
  meanQualityDifference : Option PyFloat
  totalCostDifferenceUsd : Decimal
  averageLatencyDifferenceMs : ℚ

structure EvaluationSummary where
  runId : Uuid
  overall : MetricGroup
  byModel : List MetricGroup
  byModelCategory : List MetricGroup
  comparisons : List ModelComparison
  candidateInferenceCostUsd : Money
  judgeEvaluationCostUsd : Money
  judgeCalls : ℕ
  judgeInputTokens : ℕ
  judgeOutputTokens : ℕ
  judgeLatencyMs : ℚ≥0
  evaluationConfiguration : List (PyStr × PyJson)

namespace Aggregation

/-- The precision of the context of the process. -/
def ambientPrecision : ℕ := 28

variable (decimalOf : PyJson → Option Decimal)

/-- `_known_candidate_cost`. -/
def knownCandidateCost (result : BenchmarkResult) : Money :=
  match result.response with
  | some response => response.estimatedCostUsd
  | none =>
    match decimalOf ((result.errorDetails.lookup (PyStr.ofString "estimated_cost_usd")).getD .null) with
    | some cost => if h : 0 ≤ cost.coeff then ⟨cost, h⟩ else .zero
    | none => .zero

/-- `sum(costs, Decimal(0))`. -/
def totalCost (costs : List Money) : Money :=
  ⟨Decimal.sum ambientPrecision (costs.map (·.dec)), Decimal.sum_nonneg fun d hd => by
    obtain ⟨cost, _, rfl⟩ := List.mem_map.mp hd
    exact cost.nonneg⟩

/-- A total by a count, in the wider context. -/
def costPer (total : Money) (count : ℕ) : Money :=
  ⟨Decimal.div 50 total.dec (.ofInt count), Decimal.div_nonneg total.nonneg (Int.natCast_nonneg count)⟩

abbrev Item := BenchmarkResult × MeteredEvaluation

/-- The mean of the quality scores, where there are some. -/
def meanQuality (fullyEvaluated : List Item) : Except Exc (Option Probability) :=
  if fullyEvaluated = [] then .ok none
  else
    let scores := fullyEvaluated.map fun item => (item.2.qualityScore.map fun p => .finite p.float).getD (.finite 0)
    match Probability.ofFloat? (PyFloat.divCount fullyEvaluated.length (PyFloat.sum scores)) with
    | some mean => .ok (some mean)
    | none => .error (.raised .validationError "MetricGroup")

/-- `_metric_group`. -/
def metricGroup (items : List Item) (modelId : Option String) (category : Option TaskCategory) :
    Except Exc MetricGroup := do
  let fullyEvaluated := items.filter (·.2.evaluationStatus = .evaluated)
  let acceptable := fullyEvaluated.countP (·.2.acceptable.getD false)
  let total := totalCost (items.map fun item => knownCandidateCost decimalOf item.1)
  if items.length = 0 then
    throw (.raised .zeroDivisionError "division by zero")
  let quality ← meanQuality fullyEvaluated
  MetricFields.consistentEvaluationCounts
    { modelId
      category
      evaluatedTasks := items.length
      fullyEvaluatedTasks := fullyEvaluated.length
      incompleteEvaluations := items.length - fullyEvaluated.length
      successfulResponses := items.countP (·.1.success)
      acceptableResponses := acceptable
      meanQualityScore := quality
      acceptableRate := if fullyEvaluated = [] then none else some (PyFloat.ratio acceptable fullyEvaluated.length)
      totalEstimatedCostUsd := total
      averageCostPerTaskUsd := costPer total items.length
      costPerAcceptableResponseUsd := if acceptable = 0 then none else some (costPer total acceptable)
      averageLatencyMs := (items.map (·.1.latencyMs)).sum / items.length }

/-- The difference of two means, where there are two. -/
def qualityDifference (left right : MetricGroup) : Except Exc (Option PyFloat) :=
  match left.meanQualityScore, right.meanQualityScore with
  | some leftMean, some rightMean =>
    let difference := PyFloat.add (.finite leftMean.float) (PyFloat.neg (.finite rightMean.float))
    if (PyFloat.ofRat (-1)).Le difference ∧ difference.Le (.finite 1) then .ok (some difference)
    else .error (.raised .validationError "ModelComparison")
  | _, _ => .ok none

/-- The comparison of two groups. -/
def comparison (left right : MetricGroup) : Except Exc ModelComparison := do
  let quality ← qualityDifference left right
  return {
    leftModelId := left.modelId.getD ""
    rightModelId := right.modelId.getD ""
    meanQualityDifference := quality
    totalCostDifferenceUsd := Decimal.add ambientPrecision left.totalEstimatedCostUsd.dec
      ⟨-right.totalEstimatedCostUsd.dec.coeff, right.totalEstimatedCostUsd.dec.exp⟩
    averageLatencyDifferenceMs := left.averageLatencyMs - right.averageLatencyMs }

/-- `evaluation_by_result[result.result_id]` with the result. -/
def pairOf (evaluations : List MeteredEvaluation) (result : BenchmarkResult) : Except Exc Item :=
  match evaluations.find? (·.benchmarkResultId = result.resultId) with
  | some evaluation => .ok (result, evaluation)
  | none => .error (.raised .keyError result.resultId.text)

/-- `task_categories.get(task_id)`. -/
def taskCategory (dataset : BenchmarkDataset) (taskId : TaskId) : Option TaskCategory :=
  (dataset.tasks.find? (·.taskId = taskId)).map (·.category)

/-- The key of an item in the second grouping, with the item. -/
def keyOf (dataset : BenchmarkDataset) (item : Item) : Except Exc ((String × TaskCategory) × Item) :=
  match taskCategory dataset item.1.taskId with
  | some category => .ok ((item.1.modelId.value, category), item)
  | none => .error (.raised .keyError item.1.taskId.value)

/-- The models of some items, in order. -/
def sortedModels (items : List Item) : List String :=
  KeySort.sortBy id (items.map (·.1.modelId.value)).dedup

/-- The keys of some keyed items, in order. -/
def sortedKeys (keyed : List ((String × TaskCategory) × Item)) : List (String × TaskCategory) :=
  KeySort.sortBy (fun key => toLex (key.1, key.2.value)) (keyed.map (·.1)).dedup

/-- The items of a model. -/
def itemsOfModel (items : List Item) (modelId : String) : List Item := items.filter (·.1.modelId.value = modelId)

/-- The items of a key. -/
def itemsOfKey (keyed : List ((String × TaskCategory) × Item)) (key : String × TaskCategory) : List Item :=
  (keyed.filter (·.1 = key)).map (·.2)

/-- `aggregate`. -/
def aggregate (run : BenchmarkRun) (results : List BenchmarkResult) (evaluations : List MeteredEvaluation)
    (evaluationConfiguration : List (PyStr × PyJson)) : Except Exc EvaluationSummary := do
  if results = [] then
    throw (.raised .valueError "Cannot aggregate an empty benchmark run")
  let evaluated := evaluations.map (·.benchmarkResultId)
  if ¬ (evaluated.Nodup ∧ evaluated ⊆ results.map (·.resultId) ∧ results.map (·.resultId) ⊆ evaluated) then
    throw (.raised .valueError "Every benchmark result must have exactly one evaluation")
  let paired ← results.mapM (pairOf evaluations)
  let keyed ← paired.mapM (keyOf run.dataset)
  let byModel ← (sortedModels paired).mapM fun modelId =>
    metricGroup decimalOf (itemsOfModel paired modelId) (some modelId) none
  let byModelCategory ← (sortedKeys keyed).mapM fun key =>
    metricGroup decimalOf (itemsOfKey keyed key) (some key.1) (some key.2)
  let comparisons ← (Itertools.combinations byModel).mapM fun pair => comparison pair.1 pair.2
  let overall ← metricGroup decimalOf paired none none
  let judgeEvaluations := evaluations.filter (·.evaluationCallMade)
  return {
    runId := run.runId
    overall
    byModel
    byModelCategory
    comparisons
    candidateInferenceCostUsd := overall.totalEstimatedCostUsd
    judgeEvaluationCostUsd := totalCost (judgeEvaluations.map (·.evaluationCostUsd))
    judgeCalls := judgeEvaluations.length
    judgeInputTokens := (judgeEvaluations.map (·.evaluationInputTokens)).sum
    judgeOutputTokens := (judgeEvaluations.map (·.evaluationOutputTokens)).sum
    judgeLatencyMs := (judgeEvaluations.map (·.evaluationLatencyMs)).sum
    evaluationConfiguration }

end Aggregation

end RouteLLM
