import RouteLLM.Lib.PyJson
import RouteLLM.Models

/-!
# Benchmark tasks, runs and results

`benchmarks/models.py`. A task is an inference request with its provenance, a run is a manifest with
the configuration that was frozen before the first call, and a result holds either a response or a
failure category. The configuration has the entries that the modelled code reads back.
-/

namespace RouteLLM

/-- The experimental categories, in which structured answers are called `json`. -/
inductive TaskCategory
  | qa | summarization | extraction | classification | json | reasoning | coding
  deriving DecidableEq

@[inherit_doc ReasoningEffort.value]
def TaskCategory.value : TaskCategory → String
  | .qa => "qa"
  | .summarization => "summarization"
  | .extraction => "extraction"
  | .classification => "classification"
  | .json => "json"
  | .reasoning => "reasoning"
  | .coding => "coding"

inductive ExpectedOutputType
  | text | json | code
  deriving DecidableEq

/-- The pattern `[a-z0-9][a-z0-9_-]*` of a task id. -/
def isTaskId : List Char → Bool
  | [] => false
  | c :: cs => (c.isLower || c.isDigit) &&
      cs.all fun c => c.isLower || c.isDigit || c = '_' || c = '-'

/-- A task id. -/
structure TaskId where
  value : String
  pattern : isTaskId value.toList = true
  deriving DecidableEq

theorem TaskId.value_injective : Function.Injective TaskId.value := by
  intro a b h
  cases a
  cases b
  cases h
  rfl

/-- `BenchmarkTask`. The request that it makes is the request it extends. -/
structure BenchmarkTask extends InferenceRequest where
  taskId : TaskId
  category : TaskCategory
  expectedOutputType : ExpectedOutputType := .text
  evaluationMetadata : List (PyStr × PyJson) := []
  acceptableThreshold : Option Probability := none
  taskFamilyId : Option TaskId := none
  sourceType : Option String := none
  sourceId : Option String := none
  evaluatorType : Option String := none
  familyVariant : Option String := none

/-- `BenchmarkDataset`, with the check of `unique_ids`. -/
structure BenchmarkDataset where
  name : String
  version : String
  tasks : List BenchmarkTask
  name_nonempty : 1 ≤ name.length
  version_nonempty : 1 ≤ version.length
  tasks_nonempty : tasks ≠ []
  tasks_nodup : (tasks.map (·.taskId)).Nodup

/-- A task without an answer type of its own. -/
def BenchmarkTask.sample : BenchmarkTask where
  toInferenceRequest := .sample
  taskId := ⟨"task-1", by decide⟩
  category := .qa

/-- The data set of the sample task. -/
def BenchmarkDataset.sample : BenchmarkDataset where
  name := "sample"
  version := "1"
  tasks := [.sample]
  name_nonempty := by decide
  version_nonempty := by decide
  tasks_nonempty := by simp
  tasks_nodup := by simp

/-- `RequestFeatures` of `benchmarks/features.py`: what is known of a request before a model is
selected. -/
structure RequestFeatures where
  category : Option String
  promptCharacters : ℕ
  systemPromptCharacters : ℕ
  approximateInputTokens : ℕ
  containsCode : Bool
  requestsStructuredOutput : Bool
  maxOutputTokens : PositiveTokenCount
  constraintIndicatorCount : ℕ
  reasoningIndicatorCount : ℕ
  deriving DecidableEq

/-- The entry of a model in the frozen configuration. -/
structure FrozenModelConfiguration where
  upstreamProviderPin : Option String
  serviceTier : String
  region : String
  reasoningEffort : Option String
  deriving DecidableEq

/-- The configuration of a run, with dictionaries as association lists. -/
structure RunConfiguration where
  requestFeatures : List (TaskId × RequestFeatures)
  effectiveMaxOutputTokens : List (TaskId × List (Identifier × PositiveTokenCount))
  frozenModelConfiguration : List (Identifier × FrozenModelConfiguration)
  deriving DecidableEq

structure BenchmarkRun where
  runId : Uuid
  dataset : BenchmarkDataset
  selectedTaskIds : List TaskId
  models : List ModelConfig
  configuration : RunConfiguration

/-- `BenchmarkResult`, with the checks of `consistent_outcome`. -/
structure BenchmarkResult where
  resultId : Uuid
  runId : Uuid
  requestId : String
  taskId : TaskId
  modelId : Identifier
  success : Bool
  response : Option InferenceResponse := none
  errorCategory : Option String := none
  errorDetails : List (PyStr × PyJson) := []
  latencyMs : ℚ≥0
  response_iff : success = response.isSome
  category_iff : success = errorCategory.isNone
  response_model : ∀ r, response = some r → r.modelId = modelId
  success_details : success = true → errorDetails = []

end RouteLLM
