import RouteLLM.Benchmarks.RoutingBenchmark
import RouteLLM.Lib.Labels

/-!
# The split manifest

`validate_split_manifest`, `select_execution_dataset` and `build_split_manifest` of
`benchmarks/routing_benchmark_v1.py`. A manifest is a JSON document whose entries name tasks of the data
set; the validation reads the category and the family of a task from its entry, the selection takes
the task from the data set.
-/

namespace RouteLLM.RoutingBenchmark

/-- The splits of the benchmark. -/
inductive BenchmarkSplit
  | train | development | final
  deriving DecidableEq

@[inherit_doc ReasoningEffort.value]
def BenchmarkSplit.value : BenchmarkSplit → String
  | .train => "train"
  | .development => "development"
  | .final => "final"

def splits : List BenchmarkSplit := [.train, .development, .final]

/-- `SPLIT_COUNTS`. -/
def splitCounts : BenchmarkSplit → ℕ
  | .train => 20
  | .development => 6
  | .final => 6

/-- The key of a text. -/
def textKey (text : String) : HashKey := .str (PyStr.ofString text)

/-- `entry[field]`. -/
def item (field : String) : PyJson → Except Exc PyJson
  | .dict entries =>
    match entries.lookup (PyStr.ofString field) with
    | some value => .ok value
    | none => .error (.raised .keyError field)
  | _ => .error (.raised .typeError "indices must be integers")

/-- `entry[field]` as an element of a set, a `Counter` or a dictionary. -/
def itemKey (field : String) (entry : PyJson) : Except Exc HashKey := do
  match (← item field entry).hashKey? with
  | some key => .ok key
  | none => .error (.raised .typeError "unhashable type")

/-- A pair of items as a key. -/
def itemPair (field : String) (entry : PyJson) : Except Exc (HashKey × HashKey) := do
  return (← itemKey field entry, ← itemKey "split" entry)

/-- A manifest. -/
abbrev SplitManifest := List (PyStr × PyJson)

/-- The entries of a manifest, where it has a list of them. -/
def SplitManifest.entries? (manifest : SplitManifest) : Option (List PyJson) :=
  match manifest.lookup (PyStr.ofString "entries") with
  | some (.list entries) => some entries
  | _ => none

/-- The totals that the splits must have. -/
def expectedTotals : List (HashKey × ℕ) :=
  [(textKey "train", 140), (textKey "development", 42), (textKey "final", 42)]

/-- The totals that each category must have in each split. -/
def expectedPerCategory : List ((HashKey × HashKey) × ℕ) :=
  categories.flatMap fun category =>
    splits.map fun split => ((textKey category.value, textKey split.value), splitCounts split)

/-- The families whose entries are not in exactly one split. -/
def leaked (families : List (HashKey × HashKey)) : List HashKey :=
  (families.map Prod.fst).dedup.filter fun family =>
    ((families.filter (·.1 = family)).map Prod.snd).dedup.length ≠ 1

/-- `validate_split_manifest`. -/
def validateSplitManifest (dataset : BenchmarkDataset) (manifest : SplitManifest) :
    Except Exc Unit := do
  match manifest.entries? with
  | none => throw (.raised .valueError "Split manifest requires 224 entries")
  | some entries =>
    if entries.length ≠ 224 then
      throw (.raised .valueError "Split manifest requires 224 entries")
    let ids ← entries.mapM (itemKey "task_id")
    let taskIds := dataset.tasks.map fun task => textKey task.taskId.value
    if ¬ (ids ⊆ taskIds ∧ taskIds ⊆ ids) then
      throw (.raised .valueError "Split manifest task IDs do not match the dataset")
    let totals ← entries.mapM (itemKey "split")
    if ¬ counterEq totals expectedTotals then
      throw (.raised .valueError "Split totals must be exactly 140/42/42")
    let perCategory ← entries.mapM (itemPair "internal_category")
    if ¬ counterEq perCategory expectedPerCategory then
      throw (.raised .valueError "Each category requires exactly 20/6/6 split membership")
    let families ← entries.mapM (itemPair "task_family_id")
    if leaked families ≠ [] then
      throw (.raised .valueError "Task families cross split boundaries")
    match manifest.lookup (PyStr.ofString "outcome_features_used") with
    | some (.bool false) => return ()
    | _ =>
      throw (.raised .valueError "Split assignment must record that candidate outcomes were not used")

/-- `FAMILY_SPLITS`. -/
def familySplits : List BenchmarkSplit :=
  List.replicate 10 .train ++ List.replicate 3 .development ++ List.replicate 3 .final

/-- `split_for_family`: the split of the two-digit index in a family id. -/
def splitForFamily (familyId : String) : Except Exc BenchmarkSplit :=
  let invalid : Except Exc BenchmarkSplit :=
    .error (.raised .valueError ("Invalid Routing Benchmark family ID: " ++ familyId))
  match familyId.toList with
  | 'r' :: 'b' :: 'v' :: '1' :: '-' :: rest =>
    match rest.takeWhile Char.isLower, rest.dropWhile Char.isLower with
    | _ :: _, '-' :: tens :: units :: '-' :: c :: cs =>
      if tens.isDigit ∧ units.isDigit ∧
          (c :: cs).all fun c => c.isLower || c.isDigit || c = '_' || c = '-' then
        match 10 * (tens.toNat - 48) + (units.toNat - 48) with
        | 0 => .error (.raised .valueError ("Family index is outside the split plan: " ++ familyId))
        | index + 1 =>
          match familySplits[index]? with
          | some split => .ok split
          | none =>
            .error (.raised .valueError ("Family index is outside the split plan: " ++ familyId))
      else invalid
    | _, _ => invalid
  | _ => invalid

/-- The entry that `build_split_manifest` writes for a task. -/
def splitEntry (task : BenchmarkTask) : Except Exc PyJson := do
  let difficulty ← task.difficulty
  let split ← splitForFamily ((task.taskFamilyId.map (·.value)).getD "")
  let text (s : String) : PyJson := .str (PyStr.ofString s)
  return .dict
    [(PyStr.ofString "task_id", text task.taskId.value),
     (PyStr.ofString "category", text (displayCategory task.category)),
     (PyStr.ofString "internal_category", text task.category.value),
     (PyStr.ofString "difficulty", (difficulty.map fun d => text d.value).getD .null),
     (PyStr.ofString "task_family_id", (task.taskFamilyId.map fun id => text id.value).getD .null),
     (PyStr.ofString "split", text split.value)]

/-- `build_split_manifest`. -/
def buildSplitManifest (dataset : BenchmarkDataset) : Except Exc SplitManifest := do
  let entries ← dataset.tasks.mapM splitEntry
  return [(PyStr.ofString "benchmark", .str (PyStr.ofString benchmarkName)),
    (PyStr.ofString "version", .str (PyStr.ofString benchmarkVersion)),
    (PyStr.ofString "assignment_seed", .int 20260926),
    (PyStr.ofString "grouping_key", .str (PyStr.ofString "task_family_id")),
    (PyStr.ofString "outcome_features_used", .bool false),
    (PyStr.ofString "entries", .list entries)]

/-- `{entry["task_id"] for entry in split_manifest["entries"] if entry["split"] == split}`. -/
def selectedIds (split : BenchmarkSplit) : List PyJson → Except Exc (List HashKey)
  | [] => .ok []
  | entry :: entries => do
    if (← item "split" entry).isText (PyStr.ofString split.value) then
      return (← itemKey "task_id" entry) :: (← selectedIds split entries)
    else selectedIds split entries

/-- The tasks of the data set whose ids are selected. -/
def selectTasks (dataset : BenchmarkDataset) (manifest : SplitManifest) (split : BenchmarkSplit) :
    Except Exc (List BenchmarkTask) := do
  match ← item "entries" (.dict manifest) with
  | .list entries =>
    let selected ← selectedIds split entries
    return dataset.tasks.filter fun task => textKey task.taskId.value ∈ selected
  | _ => throw (.raised .typeError "string indices must be integers")

/-- `_valid_identity`. -/
def validIdentity (value : Option String) : Bool :=
  value.any fun text => text.length = 64 ∧ text.toList.all fun c => c.isDigit || ('a' ≤ c && c ≤ 'f')

theorem splitName_nonempty (split : BenchmarkSplit) :
    1 ≤ (benchmarkName ++ "-" ++ split.value).length := by
  cases split <;> decide

/-- `select_execution_dataset`. -/
def selectExecutionDataset (content : DumpedContent) (dataset : BenchmarkDataset)
    (manifest : SplitManifest) (split : BenchmarkSplit) (allowFinalEvaluation : Bool)
    (predictorSha256 policySha256 : Option String) : Except Exc BenchmarkDataset := do
  validateRoutingBenchmark content dataset
  validateSplitManifest dataset manifest
  if split = .final ∧ allowFinalEvaluation = false then
    throw (.raised .valueError "Final-test execution requires the explicit final-evaluation gate")
  if split = .final ∧ ¬ (validIdentity predictorSha256 ∧ validIdentity policySha256) then
    throw (.raised .valueError
      "Final-test execution requires frozen predictor and policy identities")
  let selected ← selectTasks dataset manifest split
  if hne : selected = [] then
    throw (.raised .validationError "tasks")
  else if hnodup : (selected.map (·.taskId)).Nodup then
    return {
      name := benchmarkName ++ "-" ++ split.value
      version := benchmarkVersion
      tasks := selected
      name_nonempty := splitName_nonempty split
      version_nonempty := benchmarkVersion_nonempty
      tasks_nonempty := hne
      tasks_nodup := hnodup }
  else throw (.raised .validationError "Dataset task IDs must be unique")

end RouteLLM.RoutingBenchmark
