import RouteLLM.Errors
import RouteLLM.Lib.Except
import RouteLLM.Models

/-!
# Evaluation results

`evaluation/models.py`. An evaluated result has a score, and it is acceptable where the score reaches the
threshold; an incomplete one claims nothing.
-/

namespace RouteLLM

inductive EvaluationStatus
  | evaluated | partially | requiresSemanticJudge | requiresFunctionalExecution
  deriving DecidableEq

/-- The string of a status. -/
def EvaluationStatus.value : EvaluationStatus → String
  | .evaluated => "evaluated"
  | .partially => "partial"
  | .requiresSemanticJudge => "requires_semantic_judge"
  | .requiresFunctionalExecution => "requires_functional_execution"

theorem Probability.nonneg_of_unit {x : Binary64} (h : 0 ≤ x.val ∧ x.val ≤ 1) : 0 ≤ x.val := h.1

theorem Probability.le_one_of_unit {x : Binary64} (h : 0 ≤ x.val ∧ x.val ≤ 1) : x.val ≤ 1 := h.2

/-- A float of the unit interval, where it is one. -/
def Probability.ofFloat? : PyFloat → Option Probability
  | .finite x =>
    if h : 0 ≤ x.val ∧ x.val ≤ 1 then some ⟨x, Probability.nonneg_of_unit h, Probability.le_one_of_unit h⟩ else none
  | _ => none

theorem Probability.ofFloat?_float (p : Probability) : ofFloat? (.finite p.float) = some p := by
  rw [ofFloat?, dif_pos ⟨p.nonneg, p.le_one⟩]

/-- `EvaluationResult`, with the checks of `consistent_acceptability`. -/
structure EvaluationResult where
  benchmarkResultId : Uuid
  runId : Uuid
  taskId : String
  modelId : String
  evaluatorName : String
  evaluationStatus : EvaluationStatus
  qualityScore : Option Probability := none
  acceptableThreshold : Probability
  acceptable : Option Bool
  componentScores : List (String × Probability) := []
  consistent : if evaluationStatus = .evaluated then
    ∃ score ∈ qualityScore, acceptable = some (decide (acceptableThreshold ≤ score)) else acceptable = none

namespace EvaluationResult

/-- A copy of a result with a score, or the error of its validation. -/
def scored (result : EvaluationResult) (evaluatorName : String) (quality : PyFloat) (threshold : Probability)
    (components : List (String × PyFloat)) : Except Exc EvaluationResult :=
  match Probability.ofFloat? quality,
      components.mapM fun entry => (Probability.ofFloat? entry.2).map fun score => (entry.1, score) with
  | some score, some componentScores =>
    .ok { result with
      evaluatorName := evaluatorName
      evaluationStatus := .evaluated
      qualityScore := some score
      acceptableThreshold := threshold
      acceptable := some (decide (threshold ≤ score))
      componentScores := componentScores
      consistent := by rw [if_pos rfl]; exact ⟨score, rfl, rfl⟩ }
  | _, _ => .error (.raised .validationError "EvaluationResult")

theorem unscored_consistent : (none : Option Bool) = none := rfl

/-- A copy of a result that has no score and claims nothing. -/
def unscored (result : EvaluationResult) (evaluatorName : String) : EvaluationResult :=
  { result with
    evaluatorName := evaluatorName
    evaluationStatus := .partially
    qualityScore := none
    acceptable := none
    consistent := unscored_consistent }

end EvaluationResult

end RouteLLM
