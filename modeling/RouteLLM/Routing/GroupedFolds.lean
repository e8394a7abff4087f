import Mathlib.Algebra.BigOperators.Group.List.Basic
import Mathlib.Data.List.Sort
import Mathlib.Data.Prod.Lex
import RouteLLM.Routing.Analysis

/-!
# Grouped folds

`build_grouped_folds` and `generate_oof` of `routing/phase9_retraining.py`: the tasks of a training data set are
dealt to five folds, and the rows of a fold are predicted by a pipeline that is fitted to the others. The pipeline
and the adapter of a row's features are parameters.
-/

namespace RouteLLM

namespace Retraining

open RoutingAnalysis (LabelStatus)

variable {φ : Type}

/-- The fields of `MLExperimentRow` that the folds read, with its checks of the label. -/
structure ExperimentRow (φ : Type) where
  taskId : String
  candidateId : String
  category : String
  features : φ
  labelStatus : LabelStatus
  acceptable : Option Bool
  valid_target : labelStatus = .valid → acceptable ≠ none
  missing_target : labelStatus = .missing → acceptable = none

/-- `FOLDS`. -/
abbrev Fold := Fin 5

/-! ## The rows of a task -/

variable (rows : List (ExperimentRow φ))

/-- The keys of `by_task`. -/
def taskIds : List String := (rows.map (·.taskId)).dedup

/-- `by_task[task]`. -/
def rowsOf (task : String) : List (ExperimentRow φ) := rows.filter (·.taskId = task)

/-- `by_task[task][0].category`. -/
def categoryOf (task : String) : String := ((rowsOf rows task).head?.map (·.category)).getD ""

/-- The number of rows of a task with a property. -/
def rowCount (p : ExperimentRow φ → Bool) (task : String) : ℕ := (rowsOf rows task).countP p

def isValid (row : ExperimentRow φ) : Bool := row.labelStatus = .valid

def isMissing (row : ExperimentRow φ) : Bool := row.labelStatus = .missing

def isPositive (row : ExperimentRow φ) : Bool := row.acceptable = some true

def isNegative (row : ExperimentRow φ) : Bool := row.acceptable = some false

/-! ## Dealing the tasks -/

structure FoldState where
  tasks : Fold → List String
  positive : Fold → ℕ
  missing : Fold → ℕ

def FoldState.empty : FoldState := ⟨fun _ => [], fun _ => 0, fun _ => 0⟩

/-- The order of the tasks of a category. -/
def taskKey (task : String) : ℤ ×ₗ ℤ ×ₗ String :=
  toLex (-(rowCount rows isMissing task : ℤ), toLex (-(rowCount rows isPositive task : ℤ), task))

/-- What is compared to choose a fold. -/
def foldKey (state : FoldState) (counts : Fold → ℕ) (fold : Fold) : ℕ ×ₗ ℕ ×ₗ ℕ ×ₗ Fold :=
  toLex (counts fold, toLex (state.missing fold, toLex (state.positive fold, fold)))

/-- The fold of the next task, of those with less than four tasks of the category. -/
def chooseFold (state : FoldState) (counts : Fold → ℕ) : Option Fold :=
  ((List.finRange 5).filter (counts · < 4)).argmin (foldKey state counts)

/-- The totals with a task in a fold. -/
def FoldState.add (state : FoldState) (fold : Fold) (task : String) : FoldState where
  tasks := Function.update state.tasks fold (state.tasks fold ++ [task])
  positive := Function.update state.positive fold (state.positive fold + rowCount rows isPositive task)
  missing := Function.update state.missing fold (state.missing fold + rowCount rows isMissing task)

/-- One round of the loop over the tasks of a category. -/
def placeTask (current : FoldState × (Fold → ℕ)) (task : String) : Except Exc (FoldState × (Fold → ℕ)) :=
  match chooseFold current.1 current.2 with
  | none => .error (.raised .valueError "min() iterable argument is empty")
  | some fold => .ok (current.1.add rows fold task, Function.update current.2 fold (current.2 fold + 1))

/-- One round of the loop over the categories. -/
def placeCategory (state : FoldState) (category : String) : Except Exc FoldState :=
  let tasks := (taskIds rows).filter (categoryOf rows · = category)
  if tasks.length ≠ 20 then
    .error (.raised .valueError "five-fold balance requires 20 requests per category")
  else do
    let placed ← (KeySort.sortBy (taskKey rows) tasks).foldlM (placeTask rows) (state, fun _ => 0)
    return placed.1

/-- The categories, in order. -/
def sortedCategories : List String := KeySort.sortBy id ((taskIds rows).map (categoryOf rows)).dedup

structure FoldAssignment where
  fold : Fold
  taskIds : List String
  requestCount : ℕ
  categoryCounts : List (String × ℕ)
  validRows : ℕ
  positive : ℕ
  negative : ℕ
  missing : ℕ
  deriving DecidableEq

/-- The number of rows of the tasks with a property. -/
def foldCount (p : ExperimentRow φ → Bool) (tasks : List String) : ℕ := (tasks.map (rowCount rows p)).sum

/-- The `Counter` of the categories of the tasks, in order. -/
def categoryCounts (tasks : List String) : List (String × ℕ) :=
  (KeySort.sortBy id (tasks.map (categoryOf rows)).dedup).map fun category =>
    (category, (tasks.map (categoryOf rows)).count category)

/-- One round of the loop that makes the assignments. -/
def foldAssignment (state : FoldState) (fold : Fold) : Except Exc FoldAssignment :=
  let tasks := state.tasks fold
  let counts := categoryCounts rows tasks
  if tasks.length ≠ 28 ∨ (counts.map Prod.snd).dedup ≠ [4] then
    .error (.raised .valueError "each fold must hold 28 requests and four per category")
  else
    .ok { fold := fold
          taskIds := KeySort.sortBy id tasks
          requestCount := tasks.length
          categoryCounts := counts
          validRows := foldCount rows isValid tasks
          positive := foldCount rows isPositive tasks
          negative := foldCount rows isNegative tasks
          missing := foldCount rows isMissing tasks }

/-- `build_grouped_folds`. -/
def buildGroupedFolds : Except Exc (List FoldAssignment) := do
  let state ← (sortedCategories rows).foldlM (placeCategory rows) FoldState.empty
  let assignments ← (List.finRange 5).mapM (foldAssignment rows state)
  if (assignments.flatMap (·.taskIds)).dedup.length ≠ 140 then
    .error (.raised .valueError "request groups must appear in exactly one fold")
  else return assignments

/-! ## Predictions out of fold -/

/-- The key of a row. -/
def ExperimentRow.key (row : ExperimentRow φ) : String × String := (row.taskId, row.candidateId)

structure OofRecord where
  taskId : String
  candidateId : String
  category : String
  fold : Fold
  predictedProbability : PyFloat
  labelStatus : LabelStatus
  target : Option Bool

structure OofAudit where
  fold : Fold
  trainRequestGroups : ℕ
  testRequestGroups : ℕ
  validFitRows : ℕ
  testRows : ℕ
  groupOverlap : ℕ

/-- The rows that a fold is fitted to. -/
def trainRows (assignment : FoldAssignment) : List (ExperimentRow φ) :=
  rows.filter fun row => row.taskId ∉ assignment.taskIds ∧ row.labelStatus = .valid

/-- The rows that a fold predicts. -/
def testRows (assignment : FoldAssignment) : List (ExperimentRow φ) := rows.filter (·.taskId ∈ assignment.taskIds)

/-- The key of a record. -/
def OofRecord.key (record : OofRecord) : String × String := (record.taskId, record.candidateId)

variable {C : Type}

/-- `canonical[row.task_id, row.candidate_id]`: of equal keys the last entry is kept. -/
def canonicalOf (canonical : List ((String × String) × C)) (row : ExperimentRow φ) : Except Exc C :=
  match canonical.reverse.lookup row.key with
  | some features => .ok features
  | none => .error (.raised .keyError "")

/-- The record of a row. -/
def oofRecord (assignment : FoldAssignment) (row : ExperimentRow φ) (probability : PyFloat) : OofRecord where
  taskId := row.taskId
  candidateId := row.candidateId
  category := row.category
  fold := assignment.fold
  predictedProbability := probability
  labelStatus := row.labelStatus
  target := row.acceptable

/-- The audit of a fold. -/
def oofAudit (assignment : FoldAssignment) : OofAudit where
  fold := assignment.fold
  trainRequestGroups := ((trainRows rows assignment).map (·.taskId)).dedup.length
  testRequestGroups := assignment.taskIds.dedup.length
  validFitRows := (trainRows rows assignment).length
  testRows := (testRows rows assignment).length
  groupOverlap := 0

/-- The features and the label of a row that a pipeline is fitted to. -/
def fitRow (canonical : List ((String × String) × C)) (row : ExperimentRow φ) : Except Exc (C × Bool) :=
  return (← canonicalOf canonical row, decide (row.acceptable = some true))

variable (fitPredict : List (C × Bool) → List C → List PyFloat)

/-- One round of the loop over the folds. -/
def predictFold (canonical : List ((String × String) × C)) (assignment : FoldAssignment) :
    Except Exc (List OofRecord × OofAudit) :=
  if (trainRows rows assignment).any (fun row => row.taskId ∈ assignment.taskIds) then
    .error (.raised .valueError "group leakage")
  else do
    let fit ← (trainRows rows assignment).mapM (fitRow canonical)
    let features ← (testRows rows assignment).mapM (canonicalOf canonical)
    let probabilities := fitPredict fit features
    return (((testRows rows assignment).zip probabilities).map fun pair => oofRecord assignment pair.1 pair.2,
      oofAudit rows assignment)

/-- The order of the records. -/
def recordKey (record : OofRecord) : String ×ₗ String := toLex record.key

/-- `generate_oof`. -/
def generateOof (adapt : ExperimentRow φ → Except Exc C) (folds : List FoldAssignment) :
    Except Exc (List OofRecord × List OofAudit) := do
  let canonical ← rows.mapM fun row => return (row.key, ← adapt row)
  let predicted ← folds.mapM (predictFold rows fitPredict canonical)
  let records := KeySort.sortBy recordKey (predicted.flatMap (·.1))
  if records.length ≠ 560 ∨ (records.map (·.key)).dedup.length ≠ 560 then
    .error (.raised .valueError "every row requires one OOF prediction")
  else return (records, predicted.map (·.2))

end Retraining

end RouteLLM
