import Mathlib.Data.List.Lex
import Mathlib.Data.Prod.Lex
import RouteLLM.Benchmarks.RoutingBenchmark
import RouteLLM.Lib.KeySort
import RouteLLM.Lib.PaddedDigits

/-!
# The families of the benchmark

`construct_dataset` of `benchmarks/routing_benchmark_v1.py`. A family has a slug and variants; the table of
the families, which `FAMILY_BUILDERS` and `_redesign_families` give, is a parameter. A task gets its
difficulty from the rank of its content in its category and its id from a counter of the difficulty.
-/

namespace RouteLLM.RoutingBenchmark

/-- A variant of a family. The metadata is what `_task_metadata` adds to the difficulty. -/
structure FamilyVariant where
  prompt : String
  metadata : List (PyStr × PyJson)
  canonical : String
  outputType : ExpectedOutputType
  threshold : Probability

/-- `FamilySpec`, with its entry of `CONTENT_COMPLEXITY`. -/
structure FamilySpec where
  slug : String
  complexity : ℕ
  variants : List FamilyVariant

/-- The families of every category, in their order. -/
abbrev FamilyTable := TaskCategory → List FamilySpec

/-- `_materialize_family_inputs`: the families at some indexes. -/
def materialize (families : List FamilySpec) (indexes : List ℕ) : Except Exc (List FamilySpec) :=
  if ¬ indexes.Nodup then .error (.raised .valueError "Family indexes must be unique")
  else indexes.mapM fun i =>
    match families[i]? with
    | some family => .ok family
    | none => .error (.raised .valueError "Family index is outside the benchmark family plan")

/-- A variant at its place in the benchmark. -/
structure FamilySlot where
  category : TaskCategory
  index : ℕ
  slug : String
  position : ℕ
  variant : FamilyVariant

/-- The variants of the family at an index. -/
def familySlots (category : TaskCategory) (family : FamilySpec) (index : ℕ) : List FamilySlot :=
  family.variants.zipIdx.map fun v => ⟨category, index, family.slug, v.2, v.1⟩

/-- The variants of the families of a category, in their order. -/
def slots (category : TaskCategory) (families : List FamilySpec) : List FamilySlot :=
  families.zipIdx.flatMap fun f => familySlots category f.1 f.2

/-- `rbv1-{category}-{family_index:02d}-{slug}`. -/
def familyIdText (category : TaskCategory) (index : ℕ) (slug : String) : String :=
  String.ofList ("rbv1-".toList ++ (category.value.toList ++
    '-' :: (PaddedDigits.padded 10 2 (index + 1) ++ '-' :: slug.toList)))

/-- `{category}-{difficulty}-{number:03d}`. -/
def taskIdText (category : TaskCategory) (difficulty : Difficulty) (number : ℕ) : String :=
  String.ofList (category.value.toList ++
    '-' :: (difficulty.value.toList ++ '-' :: PaddedDigits.padded 10 3 number))

/-- The score of a variant. -/
def complexityScore (category : TaskCategory) (family : FamilySpec) (position : ℕ)
    (variant : FamilyVariant) : ℕ :=
  family.complexity +
    (if position = 1 ∧ (category = .coding ∨ category = .summarization) then 1 else 0) +
    min 2 (((PyStr.split variant.prompt.toList).length - 35) / 25)

/-- The order of the scored variants. -/
def scoredKey (entry : ℕ × String × ℕ) : ℕ ×ₗ PyStr ×ₗ ℕ :=
  toLex (entry.1, toLex (PyStr.ofString entry.2.1, entry.2.2))

/-- The labels in the order of the scores. -/
def difficultyLabels : List Difficulty :=
  List.replicate 8 .easy ++ List.replicate 13 .medium ++ List.replicate 11 .hard

/-- The variants with their scores. -/
def scoredVariants (category : TaskCategory) (families : List FamilySpec) : List (ℕ × String × ℕ) :=
  families.flatMap fun family => family.variants.zipIdx.map fun v =>
    (complexityScore category family v.2 v.1, family.slug, v.2)

/-- `_difficulty_assignments`. -/
def difficultyAssignments (category : TaskCategory) (families : List FamilySpec) :
    Except Exc (List ((String × ℕ) × Difficulty)) :=
  let scored := KeySort.sortBy scoredKey (scoredVariants category families)
  if scored.length = difficultyLabels.length then
    .ok ((scored.map Prod.snd).zip difficultyLabels)
  else .error (.raised .valueError "zip() arguments have different lengths")

/-- `_budget`. -/
def budgetTokens : TaskCategory → Difficulty → ℕ
  | .classification, _ => 32
  | .coding, .easy => 128
  | .coding, .medium => 192
  | .coding, .hard => 256
  | .extraction, .easy | .json, .easy => 64
  | .extraction, .medium | .json, .medium => 128
  | .extraction, .hard | .json, .hard => 192
  | .qa, .easy => 64
  | .qa, .medium => 128
  | .qa, .hard => 160
  | .reasoning, _ => 160
  | .summarization, .easy => 96
  | .summarization, .medium => 128
  | .summarization, .hard => 192

theorem budgetTokens_pos (category : TaskCategory) (difficulty : Difficulty) :
    0 < budgetTokens category difficulty := by
  cases category <;> cases difficulty <;> decide

def systemPromptText : String :=
  "Follow the requested output format exactly. Use only the supplied task information."

theorem systemPromptText_nonblank :
    ∀ s, some systemPromptText = some s → PyStr.strip s.toList ≠ [] := by
  intro s h
  cases h
  decide

theorem temperature_zero_nonneg : 0 ≤ (0 : Binary64).val := le_rfl

theorem temperature_zero_le : (0 : Binary64).val ≤ 2 := by decide

/-- The task of a variant under its number. -/
def taskOfSlot (slot : FamilySlot) (difficulty : Difficulty) (number : ℕ) :
    Except Exc BenchmarkTask :=
  let taskId := taskIdText slot.category difficulty number
  let familyId := familyIdText slot.category slot.index slot.slug
  let tokens := budgetTokens slot.category difficulty
  if slot.variant.canonical ≠ "" ∧
      comfortableBudget tokens < (max 1 ((slot.variant.canonical.length + 3) / 4) : ℕ) then
    .error (.raised .valueError ("Canonical response does not fit comfortably: " ++ taskId))
  else if hprompt : PyStr.strip slot.variant.prompt.toList = [] then
    .error (.raised .validationError "prompt")
  else if htask : isTaskId taskId.toList = false then
    .error (.raised .validationError "task_id")
  else if hfamily : isTaskId familyId.toList = false then
    .error (.raised .validationError "task_family_id")
  else .ok {
    prompt := slot.variant.prompt
    systemPrompt := some systemPromptText
    maxOutputTokens := ⟨tokens, budgetTokens_pos slot.category difficulty⟩
    temperature := 0
    prompt_nonblank := hprompt
    systemPrompt_nonblank := systemPromptText_nonblank
    temperature_nonneg := temperature_zero_nonneg
    temperature_le := temperature_zero_le
    taskId := ⟨taskId, Bool.eq_true_of_not_eq_false htask⟩
    category := slot.category
    expectedOutputType := slot.variant.outputType
    evaluationMetadata :=
      (PyStr.ofString "difficulty", .str (PyStr.ofString difficulty.value)) :: slot.variant.metadata
    acceptableThreshold := some slot.variant.threshold
    taskFamilyId := some ⟨familyId, Bool.eq_true_of_not_eq_false hfamily⟩
    sourceType := some "controlled_programmatic_construction"
    sourceId := some ("routing-benchmark-v1/" ++ slot.category.value ++ "/" ++ slot.slug ++ "@1")
    evaluatorType := some (evaluatorTypes slot.category)
    familyVariant := some (if slot.position = 0 then "a" else "b") }

/-- The tasks of the variants, numbered by difficulty from what the counters have reached. -/
def numberTasks (difficulties : List ((String × ℕ) × Difficulty)) :
    (Difficulty → ℕ) → List FamilySlot → Except Exc (List BenchmarkTask)
  | _, [] => .ok []
  | counters, slot :: rest => do
    match difficulties.lookup (slot.slug, slot.position) with
    | none => throw (.raised .keyError slot.slug)
    | some difficulty =>
      let number := counters difficulty + 1
      let task ← taskOfSlot slot difficulty number
      return task :: (← numberTasks difficulties (Function.update counters difficulty number) rest)

/-- The tasks of a category. -/
def categoryTasks (category : TaskCategory) (families : List FamilySpec) :
    Except Exc (List BenchmarkTask) := do
  let difficulties ← difficultyAssignments category families
  if families.length ≠ 16 ∨ (families.map (·.slug)).dedup.length ≠ 16 then
    throw (.raised .valueError (category.value ++ " must define exactly 16 unique families"))
  numberTasks difficulties (fun _ => 0) (slots category families)

/-- `construct_dataset`. -/
def constructDataset (table : FamilyTable) : Except Exc BenchmarkDataset := do
  let tasks := (← categories.mapM fun category => categoryTasks category (table category)).flatten
  if hne : tasks = [] then
    throw (.raised .validationError "tasks")
  else if hnodup : (tasks.map (·.taskId)).Nodup then
    return {
      name := benchmarkName
      version := benchmarkVersion
      tasks := tasks
      name_nonempty := benchmarkName_nonempty
      version_nonempty := benchmarkVersion_nonempty
      tasks_nonempty := hne
      tasks_nodup := hnodup }
  else throw (.raised .validationError "Dataset task IDs must be unique")

end RouteLLM.RoutingBenchmark
