import RouteLLM.Evaluation.Aggregation
import RouteLLM.Evaluation.Repository

/-!
# Evaluating a run

`EvaluationService.evaluate` and the part of `FileEvaluationRepository` that stores what it computed. How one
result is evaluated, by the evaluator of its category, the sandbox and the judges, is a parameter. A file is what
it reads back as.
-/

namespace RouteLLM

/-- The evaluation files of a run and its `evaluation-summary.json`. -/
structure EvaluationFiles where
  evaluations : List (String × MeteredEvaluation) := []
  summary : Option EvaluationSummary := none

/-- A write of one file. -/
inductive EvaluationWrite
  | evaluation (result : MeteredEvaluation)
  | summary (aggregated : EvaluationSummary)

/-- The file of an evaluation. -/
def evaluationFile (evaluation : MeteredEvaluation) : String × MeteredEvaluation :=
  (evaluation.benchmarkResultId.text ++ ".json", evaluation)

/-- `_write`: the old file or the new one. -/
def EvaluationWrite.apply : EvaluationWrite → EvaluationFiles → EvaluationFiles
  | .evaluation result, files => { files with evaluations := FileTable.put (evaluationFile result) files.evaluations }
  | .summary aggregated, files => { files with summary := some aggregated }

namespace FileEvaluationRepository

/-- The writes of `save`, in order. -/
def save (evaluations : List MeteredEvaluation) (summary : EvaluationSummary) : List EvaluationWrite :=
  evaluations.map .evaluation ++ [.summary summary]

/-- The files after some writes. -/
def written (writes : List EvaluationWrite) (files : EvaluationFiles) : EvaluationFiles :=
  writes.foldl (fun files write => write.apply files) files

/-- `_load_summary`. -/
def loadSummary (files : EvaluationFiles) (runId : Uuid) : Except Exc EvaluationSummary := do
  let some summary := files.summary
    | throw (.raised .evaluationNotFoundError ("Evaluation summary for " ++ runId.text ++ " was not found"))
  if summary.runId ≠ runId then
    throw (artifactError "Evaluation summary belongs to a different run")
  return summary

end FileEvaluationRepository

/-- `evaluations[result_id]`. The last file of an id is kept. -/
def evaluationOf (evaluations : List MeteredEvaluation) (resultId : Uuid) : Except Exc MeteredEvaluation :=
  match evaluations.reverse.find? (·.benchmarkResultId = resultId) with
  | some evaluation => .ok evaluation
  | none => .error (.raised .keyError resultId.text)

/-- The evaluations that `export_routing_dataset` labels the results with. -/
def exportedEvaluations (files : EvaluationFiles) (results : List BenchmarkResult) :
    Except Exc (List MeteredEvaluation) :=
  let evaluations : List MeteredEvaluation := (KeySort.sortBy (·.1) files.evaluations).map (·.2)
  let evaluated : List Uuid := evaluations.map (·.benchmarkResultId)
  if evaluated ⊆ results.map (·.resultId) ∧ results.map (·.resultId) ⊆ evaluated then
    results.mapM fun result => evaluationOf evaluations result.resultId
  else .error (.raised .valueError "Every benchmark result must have exactly one persisted evaluation")

/-- How a service evaluates a result of a task: an evaluation is one of its result. -/
structure EvaluationService where
  evaluateResult : BenchmarkTask → BenchmarkResult → Except Exc MeteredEvaluation
  configuration : List (PyStr × PyJson)
  evaluateResult_id : ∀ {task result evaluation}, evaluateResult task result = .ok evaluation →
    evaluation.benchmarkResultId = result.resultId

namespace EvaluationService

variable (service : EvaluationService) {Text : Type} (texts : ArtifactText Text)
  (decimalOf : PyJson → Option Decimal)

/-- `except (KeyError, TypeError, ValueError) as exc: raise EvaluationArtifactError(message) from exc`. -/
def orArtifactError {α : Type} (message : String) : Except Exc α → Except Exc α
  | .ok a => .ok a
  | .error e =>
    if e.isInstanceOf [.keyError, .typeError, .valueError] then
      .error (FileEvaluationRepository.artifactError message)
    else .error e

/-- One iteration of the loop. -/
def evaluateOne (run : BenchmarkRun) (result : BenchmarkResult) : Except Exc MeteredEvaluation :=
  match run.dataset.tasks.find? (·.taskId = result.taskId) with
  | none => .error (FileEvaluationRepository.artifactError ("Result references unknown task '" ++
      result.taskId.value ++ "'"))
  | some task =>
    orArtifactError ("Task '" ++ task.taskId.value ++ "' has invalid evaluation metadata")
      (service.evaluateResult task result)

/-- `evaluate`, up to the call of `save`. -/
def evaluate (directory : RunDirectory Text) (runId : Uuid) :
    Except Exc (List MeteredEvaluation × EvaluationSummary) := do
  let (run, results) ← FileEvaluationRepository.loadRun texts directory runId
  let evaluations ← results.mapM (service.evaluateOne run)
  let summary ← orArtifactError "Benchmark evaluations could not be aggregated"
    (Aggregation.aggregate decimalOf run results evaluations service.configuration)
  return (evaluations, summary)

end EvaluationService

end RouteLLM
