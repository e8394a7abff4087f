import Mathlib.Data.List.MinMax
import Mathlib.Data.Prod.Lex
import Mathlib.Data.String.Basic
import RouteLLM.Benchmarks.RoutingBenchmark
import RouteLLM.Errors
import RouteLLM.Lib.DecimalSum
import RouteLLM.Lib.Except
import RouteLLM.Lib.FloatMean
import RouteLLM.Lib.KeySort

/-!
# Retrospective evaluation of routing policies

`evaluate_decisions` and `oracle_cheapest_acceptable` of `routing/analysis.py`, over the rows that were
observed for the tasks and candidates of a frozen data set.
-/

namespace RouteLLM.RoutingAnalysis

inductive LabelStatus
  | valid | missing
  deriving DecidableEq

/-- The labels that a row of a status carries. -/
def LabelStatus.Consistent (status : LabelStatus) (acceptable : Option Bool)
    (qualityScore : Option Probability) : Prop :=
  match status with
  | .valid => acceptable.isSome ∧ qualityScore.isSome
  | .missing => acceptable = none ∧ qualityScore = none

/-- The fields of a row that the evaluation reads. -/
structure RowObservation where
  taskId : String
  candidateId : String
  features : RequestFeatures
  analysisDifficulty : Option Difficulty
  labelStatus : LabelStatus
  acceptable : Option Bool
  qualityScore : Option Probability
  realizedCostUsd : Option Money
  latencyMs : NonnegFloat
  label_state_is_consistent : labelStatus.Consistent acceptable qualityScore

structure RoutingDecision where
  policy : String
  taskId : String
  candidateId : Option String
  reason : String
  deriving DecidableEq

/-- The row was labelled acceptable. -/
def RowObservation.Accepted (row : RowObservation) : Prop :=
  row.labelStatus = .valid ∧ row.acceptable = some true

instance (row : RowObservation) : Decidable row.Accepted := inferInstanceAs (Decidable (_ ∧ _))

/-- The tasks of the rows, each once. -/
def tasks (observations : List RowObservation) : List String :=
  (observations.map (·.taskId)).dedup

/-! ## Evaluation of decisions -/

/-- `index[(task_id, candidate_id)]`: of equal keys the last row is kept. -/
def rowOf (observations : List RowObservation) (taskId candidateId : String) :
    Option RowObservation :=
  observations.reverse.find? fun row => row.taskId = taskId ∧ row.candidateId = candidateId

/-- The row that a decision selects: none for an abstention. -/
def selectedRow (observations : List RowObservation) (decision : RoutingDecision) :
    Except Exc (Option RowObservation) :=
  match decision.candidateId with
  | none => .ok none
  | some candidateId =>
    match rowOf observations decision.taskId candidateId with
    | some row => .ok (some row)
    | none => .error (.raised .valueError "Policy selected an unavailable task/candidate row")

/-- The key of a decision in the distribution. -/
def distributionKey : Option RowObservation → String
  | none => "no_acceptable_candidate"
  | some row => row.candidateId

/-- The share of a candidate. -/
structure Share where
  candidateId : String
  count : ℕ
  percentageOfRequests : PyFloat

/-- A `Counter` over the sorted keys. -/
def distribution (keys : List String) (totalRequests : ℕ) : List Share :=
  (KeySort.sortBy id keys.dedup).map fun key =>
    ⟨key, keys.count key, .ratio (keys.count key) totalRequests⟩

/-- An entry of `_rates_by`. -/
structure LabelRate where
  key : String
  validLabels : ℕ
  acceptable : ℕ
  acceptableRate : PyFloat

/-- `sum(bool(row.acceptable) for row in rows)`. -/
def acceptableCount (rows : List RowObservation) : ℕ := rows.countP (·.acceptable = some true)

/-- `_rates_by`. -/
def ratesBy (keyOf : RowObservation → String) (rows : List RowObservation) : List LabelRate :=
  (KeySort.sortBy id (rows.map keyOf).dedup).map fun key =>
    let items := rows.filter (keyOf · = key)
    ⟨key, items.length, acceptableCount items, .ratio (acceptableCount items) items.length⟩

/-- `str()` of an optional category. -/
def categoryText (row : RowObservation) : String := row.features.category.getD "None"

/-- `str()` of an optional difficulty. -/
def difficultyText (row : RowObservation) : String :=
  (row.analysisDifficulty.map Difficulty.value).getD "None"

/-- The summary of the decisions of a policy, less the medians and the percentiles. -/
structure PolicySummary where
  policy : String
  totalRequests : ℕ
  selectedRows : ℕ
  validSelectedLabels : ℕ
  missingSelectedLabels : ℕ
  validLabelCoverage : PyFloat
  acceptable : ℕ
  unacceptable : ℕ
  acceptableRateAmongValid : Option PyFloat
  meanQualityAmongValid : Option PyFloat
  totalRealizedCostUsd : Decimal
  averageRealizedCostPerRequestUsd : Decimal
  averageRealizedCostPerSelectedRequestUsd : Option Decimal
  missingRealizedCosts : ℕ
  meanLatencyMs : Option PyFloat
  modelDistribution : List Share
  categoryAcceptableRates : List LabelRate
  difficultyAcceptableRates : List LabelRate

/-- The precision of the ambient context. -/
def ambientPrecision : ℕ := 28

/-- `statistics.fmean` of a list, where it is not empty. -/
def meanOf (xs : List PyFloat) : Except Exc (Option PyFloat) :=
  if xs = [] then .ok none
  else match PyFloat.fmean? xs with
    | some mean => .ok (some mean)
    | none => .error (.raised .overflowError "intermediate overflow in fsum")

/-- The known costs of the rows. -/
def knownCosts (rows : List RowObservation) : List Decimal :=
  rows.filterMap fun row => row.realizedCostUsd.map (·.dec)

/-- The summary of the selected rows. -/
def summarize (policy : String) (totalRequests : ℕ) (outcomes : List (Option RowObservation)) :
    Except Exc PolicySummary := do
  let selected := outcomes.filterMap id
  let valid := selected.filter (·.labelStatus = .valid)
  let totalCost := Decimal.sum ambientPrecision (knownCosts selected)
  let acceptable := acceptableCount valid
  if totalRequests = 0 then throw (.raised .zeroDivisionError "division by zero")
  let meanQuality ← meanOf (valid.filterMap fun row => row.qualityScore.map (.finite ·.float))
  let meanLatency ← meanOf (selected.map (·.latencyMs.float))
  return {
    policy
    totalRequests
    selectedRows := selected.length
    validSelectedLabels := valid.length
    missingSelectedLabels := selected.length - valid.length
    validLabelCoverage := .ratio valid.length totalRequests
    acceptable
    unacceptable := valid.length - acceptable
    acceptableRateAmongValid := if valid = [] then none else some (.ratio acceptable valid.length)
    meanQualityAmongValid := meanQuality
    totalRealizedCostUsd := totalCost
    averageRealizedCostPerRequestUsd :=
      Decimal.div ambientPrecision totalCost (.ofInt totalRequests)
    averageRealizedCostPerSelectedRequestUsd :=
      if selected = [] then none
      else some (Decimal.div ambientPrecision totalCost (.ofInt selected.length))
    missingRealizedCosts := selected.length - (knownCosts selected).length
    meanLatencyMs := meanLatency
    modelDistribution := distribution (outcomes.map distributionKey) totalRequests
    categoryAcceptableRates := ratesBy categoryText valid
    difficultyAcceptableRates := ratesBy difficultyText valid }

/-- `evaluate_decisions`: the summary, and each decision with the row that it selects. -/
def evaluateDecisions (observations : List RowObservation) (decisions : List RoutingDecision) :
    Except Exc (PolicySummary × List (RoutingDecision × Option RowObservation)) := do
  let decisions := KeySort.sortBy (·.taskId) decisions
  let totalRequests := (tasks observations).length
  if decisions.length ≠ totalRequests ∨
      (decisions.map (·.taskId)).dedup.length ≠ totalRequests then
    throw (.raised .valueError "Policy must return exactly one decision per request")
  let outcomes ← decisions.mapM (selectedRow observations)
  let summary ← summarize ((decisions.head?.map (·.policy)).getD "") totalRequests outcomes
  return (summary, decisions.zip outcomes)

/-! ## The oracle -/

/-- The rows of a task, in their order. -/
def rowsOf (observations : List RowObservation) (taskId : String) : List RowObservation :=
  observations.filter (·.taskId = taskId)

/-- `(row.realized_cost_usd, row.candidate_id)`. -/
def oracleKey (row : RowObservation) : WithTop ℚ ×ₗ String :=
  toLex (row.realizedCostUsd.elim ⊤ fun cost => (cost.toRat : WithTop ℚ), row.candidateId)

/-- `min` of the acceptable rows: a known cost and a missing one cannot be compared, two missing ones
are equal. -/
def cheapest (rows : List RowObservation) : Except Exc (Option RowObservation) :=
  if (∃ row ∈ rows, row.realizedCostUsd.isSome) ∧ ∃ row ∈ rows, row.realizedCostUsd = none then
    .error (.raised .typeError "'<' not supported between instances")
  else .ok (rows.argmin oracleKey)

inductive ObservationState
  | noAcceptableCandidate | partiallyObserved | fullyObserved
  deriving DecidableEq

/-- The choice of the oracle for a task. -/
def oracleChoice (observations : List RowObservation) (taskId : String) :
    Except Exc (RoutingDecision × ObservationState) := do
  let rows := rowsOf observations taskId
  match ← cheapest (rows.filter (·.Accepted)) with
  | none =>
    return (⟨"ORACLE_CHEAPEST_ACCEPTABLE", taskId, none, "no_acceptable_candidate"⟩,
      .noAcceptableCandidate)
  | some selected =>
    if ∀ row ∈ rows, row.labelStatus = .valid then
      return (⟨"ORACLE_CHEAPEST_ACCEPTABLE", taskId, some selected.candidateId,
        "lowest realized cost among valid acceptable rows; fully_observed"⟩, .fullyObserved)
    else
      return (⟨"ORACLE_CHEAPEST_ACCEPTABLE", taskId, some selected.candidateId,
        "lowest realized cost among valid acceptable rows; partially_observed"⟩,
        .partiallyObserved)

/-- `oracle_cheapest_acceptable`: the decisions, and a count for each state. -/
def oracleCheapestAcceptable (observations : List RowObservation) :
    Except Exc (List RoutingDecision × (ObservationState → ℕ)) := do
  let choices ← (KeySort.sortBy id (tasks observations)).mapM (oracleChoice observations)
  return (choices.map Prod.fst, fun state => (choices.map Prod.snd).count state)

end RouteLLM.RoutingAnalysis
