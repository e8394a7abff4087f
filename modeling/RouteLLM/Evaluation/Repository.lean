import Mathlib.Data.String.Basic
import RouteLLM.Benchmarks.FileRepository
import RouteLLM.Lib.KeySort

/-!
# Loading a run

`_load_run` of `evaluation/repository.py`: the artifacts of a run are read and checked against its manifest.
-/

namespace RouteLLM.FileEvaluationRepository

/-- `raise EvaluationArtifactError(message)`. -/
def artifactError (message : String) : Exc := .raised .evaluationArtifactError message

variable {Text : Type} (texts : ArtifactText Text)

/-- `status.get("status") == "completed"`. -/
def isCompleted (entries : List (PyStr × PyJson)) : Bool :=
  match entries.lookup (PyStr.ofString "status") with
  | some (.str s) => s == PyStr.ofString "completed"
  | _ => false

/-- The manifest and the status. -/
def readManifest (directory : RunDirectory Text) (runId : Uuid) : Except Exc (BenchmarkRun × PyJson) := do
  let missing : Exc := .raised .evaluationNotFoundError ("Benchmark run " ++ runId.text ++ " was not found")
  let malformed := artifactError "Benchmark manifest or status is malformed"
  let some manifest := directory.manifest | throw missing
  let some run := texts.readRun manifest | throw malformed
  let some status := directory.status | throw missing
  let some value := texts.readJson status | throw malformed
  return (run, value)

/-- The results, in the order of their file names. -/
def readResults (directory : RunDirectory Text) : Except Exc (List BenchmarkResult) :=
  (KeySort.sortBy (·.1) directory.results).mapM fun file =>
    match texts.readResult file.2 with
    | some result => .ok result
    | none => .error (artifactError "A benchmark result is malformed")

/-- The pairs that the manifest selects. -/
def expectedPairs (run : BenchmarkRun) : List (TaskId × Identifier) :=
  run.selectedTaskIds.flatMap fun taskId => run.models.map fun model => (taskId, model.modelId)

/-- The pair of a result. -/
def pairOf (result : BenchmarkResult) : TaskId × Identifier := (result.taskId, result.modelId)

/-- The checks of the results against the manifest. -/
def checkResults (run : BenchmarkRun) (runId : Uuid) (results : List BenchmarkResult) : Except Exc Unit := do
  if results = [] then throw (artifactError "Benchmark run contains no results")
  if ¬ (results.map (·.resultId)).Nodup then throw (artifactError "Benchmark result IDs must be unique")
  if run.selectedTaskIds = [] ∨ ¬ run.selectedTaskIds.Nodup ∨
      ¬ run.selectedTaskIds ⊆ run.dataset.tasks.map (·.taskId) then
    throw (artifactError "Benchmark manifest contains invalid selected task IDs")
  if run.models = [] ∨ ¬ (run.models.map (·.modelId)).Nodup then
    throw (artifactError "Benchmark manifest contains duplicate or empty model selection")
  if ¬ ((results.map pairOf).Nodup ∧ results.map pairOf ⊆ expectedPairs run ∧
      expectedPairs run ⊆ results.map pairOf) then
    throw (artifactError "Benchmark results must contain exactly one result per selected task/model pair")
  if ¬ ∀ result ∈ results, result.runId = runId then
    throw (artifactError "Benchmark result belongs to a different run")

/-- `_load_run`. -/
def loadRun (directory : RunDirectory Text) (runId : Uuid) : Except Exc (BenchmarkRun × List BenchmarkResult) := do
  let (run, status) ← readManifest texts directory runId
  let .dict entries := status | throw (artifactError "Benchmark status is malformed")
  if run.runId ≠ runId then
    throw (artifactError "Benchmark manifest run ID does not match its directory")
  if ¬ isCompleted entries then
    throw (artifactError "Only completed benchmark runs can be evaluated")
  let results ← readResults texts directory
  let _ ← checkResults run runId results
  return (run, results)

end RouteLLM.FileEvaluationRepository
