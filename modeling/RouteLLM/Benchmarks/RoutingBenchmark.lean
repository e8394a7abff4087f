import RouteLLM.Benchmarks.Models
import RouteLLM.Errors
import RouteLLM.Lib.Except
import RouteLLM.Lib.PyHash

/-!
# The routing benchmark

`validate_routing_benchmark` of `benchmarks/routing_benchmark_v1.py`: the counts, the provenance and the
budgets that a data set of the benchmark has, and the digest that its content must have. What is
computed from the text of a JSON dump is a parameter.
-/

namespace RouteLLM

inductive Difficulty
  | easy | medium | hard
  deriving DecidableEq

@[inherit_doc ReasoningEffort.value]
def Difficulty.value : Difficulty → String
  | .easy => "easy"
  | .medium => "medium"
  | .hard => "hard"

/-- `BenchmarkTask.difficulty`, which raises on a value that is not hashable. -/
def BenchmarkTask.difficulty (task : BenchmarkTask) : Except Exc (Option Difficulty) :=
  match ((task.evaluationMetadata.lookup (PyStr.ofString "difficulty")).getD .null).hashKey? with
  | none => .error (.raised .typeError "unhashable type")
  | some key =>
    .ok ([.easy, .medium, .hard].find? fun d => key = .str (PyStr.ofString (Difficulty.value d)))

namespace RoutingBenchmark

/-- `CATEGORIES`. -/
def categories : List TaskCategory :=
  [.classification, .coding, .extraction, .json, .qa, .reasoning, .summarization]

theorem mem_categories (c : TaskCategory) : c ∈ categories := by
  cases c <;> simp [categories]

/-- `DISPLAY_CATEGORY.get(category, category)`. -/
def displayCategory : TaskCategory → String
  | .json => "structured_json"
  | category => category.value

/-- `DIFFICULTY_COUNTS`. -/
def difficultyCounts : List (Difficulty × ℕ) := [(.easy, 8), (.medium, 13), (.hard, 11)]

/-- `EVALUATOR_TYPES`. -/
def evaluatorTypes : TaskCategory → String
  | .classification => "classification_label_match"
  | .coding => "docker_python_functional"
  | .extraction => "structured_extraction_f1"
  | .json => "json_structure_and_value"
  | .qa => "accepted_answer_exact_match"
  | .reasoning => "reasoning_final_answer_match"
  | .summarization => "semantic_summary_judge"

/-- `TOKEN_RANGES`. -/
def tokenRanges : TaskCategory → ℕ × ℕ
  | .classification => (32, 32)
  | .coding => (128, 256)
  | .extraction | .json => (64, 192)
  | .qa => (64, 160)
  | .reasoning => (160, 160)
  | .summarization => (64, 192)

def benchmarkName : String := "routellm-routing-benchmark-v1"

def benchmarkVersion : String := "1.1.0"

theorem benchmarkName_nonempty : 1 ≤ benchmarkName.length := by decide

theorem benchmarkVersion_nonempty : 1 ≤ benchmarkVersion.length := by decide

/-- `SUPPORTED_BENCHMARK_DATASETS`, the digest of each version of the benchmark. -/
def supportedBenchmarkDatasets : List ((String × String) × String) :=
  [((benchmarkName, benchmarkVersion),
      "761c10b4fc9898977109412386015874d1b31c53cb710e514250c8eed8fb9839"),
   ((benchmarkName, "1.2.0"),
      "dcc95c9330d40881d216bbedf4bf0ac709fc5aa76c19b1f3fce71b7f0df43c99")]

/-- What the validation reads off the text of a value: the length of `str(value)`, whether the
case-folded dump of a task has the id of a candidate, and the digest of a dump. -/
structure DumpedContent where
  strLength : PyJson → ℕ
  namesCandidate : BenchmarkTask → Bool
  semanticSha256 : BenchmarkDataset → String

/-- `int(budget * 0.8)` of a float product. -/
def comfortableBudget (budget : ℕ) : ℤ := ⌊Binary64.round (budget * Binary64.round (4 / 5))⌋

/-- The checks of one category. -/
def validateCategory (tasks : List BenchmarkTask) (category : TaskCategory) : Except Exc Unit := do
  let own := tasks.filter (·.category = category)
  let actual ← own.mapM (·.difficulty)
  if ¬ counterEq actual (difficultyCounts.map fun e => (some e.1, e.2)) then
    throw (.raised .valueError (category.value ++ " has an invalid difficulty distribution"))
  let families : List (Option TaskId) := own.map (·.taskFamilyId)
  if none ∈ families ∨ families.dedup.length < 16 then
    throw (.raised .valueError (category.value ++ " requires at least 16 declared families"))
  if ∃ family ∈ families, 2 < families.count family then
    throw (.raised .valueError (category.value ++ " exceeds the default two-task family maximum"))

/-- The checks of one task. -/
def validateTask (content : DumpedContent) (task : BenchmarkTask) : Except Exc Unit := do
  let difficulty ← task.difficulty
  let declared (text : Option String) : Bool := text.any (· ≠ "")
  if ¬ (task.taskFamilyId.isSome ∧ declared task.sourceType ∧ declared task.sourceId ∧
      declared task.evaluatorType ∧ declared task.familyVariant ∧ difficulty.isSome) then
    throw (.raised .valueError (task.taskId.value ++ " lacks benchmark provenance metadata"))
  if task.evaluatorType ≠ some (evaluatorTypes task.category) then
    throw (.raised .valueError (task.taskId.value ++ " has an incorrect evaluator type"))
  if ¬ ((tokenRanges task.category).1 ≤ task.maxOutputTokens.val ∧
      task.maxOutputTokens.val ≤ (tokenRanges task.category).2) then
    throw (.raised .valueError (task.taskId.value ++ " has an invalid output-token budget"))
  let canonical := content.strLength
    ((task.evaluationMetadata.lookup (PyStr.ofString "canonical_response")).getD (.str []))
  if canonical ≠ 0 ∧ comfortableBudget task.maxOutputTokens.val < ((canonical + 3) / 4 : ℕ) then
    throw (.raised .valueError (task.taskId.value ++ " canonical output does not fit its budget"))
  if content.namesCandidate task then
    throw (.raised .valueError
      (task.taskId.value ++ " contains a candidate-specific budget/configuration hack"))

/-- `validate_routing_benchmark`. -/
def validateRoutingBenchmark (content : DumpedContent) (dataset : BenchmarkDataset) :
    Except Exc Unit := do
  match supportedBenchmarkDatasets.lookup (dataset.name, dataset.version) with
  | none => throw (.raised .valueError "Routing Benchmark v1 identity/version mismatch")
  | some expected =>
    if dataset.tasks.length ≠ 224 then
      throw (.raised .valueError "Routing Benchmark v1 requires exactly 224 tasks")
    if ¬ counterEq (dataset.tasks.map (·.category)) (categories.map fun c => (c, 32)) then
      throw (.raised .valueError "Routing Benchmark v1 requires exactly 32 tasks per category")
    for category in categories do
      validateCategory dataset.tasks category
    for task in dataset.tasks do
      validateTask content task
    if content.semanticSha256 dataset ≠ expected then
      throw (.raised .valueError "Routing Benchmark v1 version/content hash mismatch")

/-- A validated data set has 224 tasks. -/
theorem length_of_validated {content : DumpedContent} {dataset : BenchmarkDataset}
    (h : validateRoutingBenchmark content dataset = .ok ()) : dataset.tasks.length = 224 := by
  unfold validateRoutingBenchmark at h
  split at h
  · cases h
  · by_contra hlength
    rw [if_pos hlength] at h
    cases h

end RoutingBenchmark

end RouteLLM
