import RouteLLM.Benchmarks.Families
import RouteLLM.Benchmarks.SplitManifest

/-!
# The prompts of the category detector

`export_category_detector_prompts` of `benchmarks/routing_benchmark_v1.py`. The prompts come from the
families of a split, the ids and the categories from the entries of its manifest; the entries of a family
and its variants are joined by their positions.
-/

namespace RouteLLM.RoutingBenchmark

/-- `_CATEGORY_DETECTOR_SPLITS`: the family indexes and the split that the manifest names. -/
def categoryDetectorSplits (split : String) : Option (List ℕ × BenchmarkSplit) :=
  if split = "train" then some (List.range 10, .train)
  else if split = "dev" then some ([10, 11, 12], .development)
  else none

/-- A record of the projection. -/
structure DetectorPrompt where
  taskId : PyStr
  split : String
  category : PyJson
  prompt : String

/-- `CategoryDetectorProjectionError`, which is a `ValueError`. -/
def projectionError (message : String) : Exc := .raised .valueError message

/-- `entry.get(field)`. -/
def getItem (field : String) : PyJson → Except Exc PyJson
  | .dict entries => .ok ((entries.lookup (PyStr.ofString field)).getD .null)
  | _ => .error (.raised .attributeError "object has no attribute 'get'")

/-- A nonempty text under a field, or the error of the projection. -/
def textItem (field message : String) (entry : PyJson) : Except Exc PyStr := do
  match ← getItem field entry with
  | .str (c :: cs) => .ok (c :: cs)
  | _ => .error (projectionError message)

/-- The entry names the split. -/
def namesSplit (split : String) (entry : PyJson) : Except Exc Unit := do
  if (← getItem "split" entry).isText (PyStr.ofString split) then .ok ()
  else .error (projectionError "Unexpected split entry in split manifest")

/-- `entry["category"]`, which is a key of a `Counter` later on. -/
def categoryItem : PyJson → Except Exc PyJson
  | .dict entries =>
    match entries.lookup (PyStr.ofString "category") with
    | some value => .ok value
    | none => .error (.raised .keyError "category")
  | _ => .error (.raised .typeError "indices must be integers")

/-- The record of an entry and a variant. -/
def recordOf (split : String) (category : TaskCategory) (entry : PyJson) (variant : FamilyVariant) :
    Except Exc DetectorPrompt := do
  if ¬ (← getItem "internal_category" entry).isText (PyStr.ofString category.value) then
    throw (projectionError "Manifest category mismatch")
  if variant.prompt = "" then
    throw (projectionError "Missing prompt")
  return {
    taskId := ← textItem "task_id" "Invalid task ID in split manifest" entry
    split
    category := ← categoryItem entry
    prompt := variant.prompt }

/-- The records of the entries of a family, one for each variant. -/
def zipRecords (split : String) (category : TaskCategory) :
    List PyJson → List FamilyVariant → Except Exc (List DetectorPrompt)
  | entry :: entries, variant :: variants => do
    return (← recordOf split category entry variant) :: (← zipRecords split category entries variants)
  | _, _ => .ok []

/-- The entries of a family, in their order: `entries_by_family`. -/
def entriesOfFamily (entries : List (PyStr × PyJson)) (familyId : PyStr) : List PyJson :=
  (entries.filter (·.1 = familyId)).map Prod.snd

/-- The records of a family. -/
def familyRecords (split : String) (entries : List (PyStr × PyJson)) (category : TaskCategory)
    (index : ℕ) (family : FamilySpec) : Except Exc (List DetectorPrompt) :=
  let familyId := familyIdText category index family.slug
  let own := entriesOfFamily entries (PyStr.ofString familyId)
  if own.length ≠ family.variants.length then
    .error (projectionError ("Manifest membership mismatch for " ++ familyId))
  else zipRecords split category own family.variants

/-- The records of a category. -/
def categoryRecords (table : FamilyTable) (split : String) (indexes : List ℕ)
    (entries : List (PyStr × PyJson)) (category : TaskCategory) :
    Except Exc (List DetectorPrompt) := do
  let families ← materialize (table category) indexes
  if families.length ≠ indexes.length then
    throw (projectionError ("Unexpected family count for " ++ category.value))
  return (← (indexes.zip families).mapM fun f =>
    familyRecords split entries category f.1 f.2).flatten

/-- The ids of the families that are consumed. -/
def consumedFamilies (table : FamilyTable) (indexes : List ℕ) : List PyStr :=
  categories.flatMap fun category => indexes.filterMap fun i =>
    (table category)[i]?.map fun family => PyStr.ofString (familyIdText category i family.slug)

/-- `entry["category"]` of a record as a key. -/
def categoryKey (record : DetectorPrompt) : Except Exc HashKey :=
  match record.category.hashKey? with
  | some key => .ok key
  | none => .error (.raised .typeError "unhashable type")

/-- The counts of the displayed categories. -/
def expectedDisplay (count : ℕ) : List (HashKey × ℕ) :=
  categories.map fun category => (.str (PyStr.ofString (displayCategory category)), count)

/-- `export_category_detector_prompts`. -/
def exportCategoryDetectorPrompts (table : FamilyTable) (split : String)
    (manifest : List (PyStr × PyJson)) : Except Exc (List DetectorPrompt) := do
  match categoryDetectorSplits split with
  | none =>
    throw (projectionError "Category-detector prompt projection permits only 'train' or 'dev'")
  | some (indexes, manifestSplit) =>
    match manifest.lookup (PyStr.ofString "tasks") with
    | some (.list entries) =>
      let _ ← entries.mapM (getItem "task_id")
      let taskIds ← entries.mapM (textItem "task_id" "Invalid task ID in split manifest")
      if ¬ taskIds.Nodup then
        throw (projectionError "Duplicate task ID in split manifest")
      let _ ← entries.mapM (namesSplit manifestSplit.value)
      let familyIds ← entries.mapM (textItem "task_family_id" "Missing family ID in split manifest")
      let records := (← categories.mapM
        (categoryRecords table split indexes (familyIds.zip entries))).flatten
      let consumed := consumedFamilies table indexes
      if ¬ (consumed ⊆ familyIds ∧ familyIds ⊆ consumed) then
        throw (projectionError "Unexpected family in split manifest")
      let expected := if split = "train" then 20 else 6
      let displayed ← records.mapM categoryKey
      if ¬ counterEq displayed (expectedDisplay expected) then
        throw (projectionError "Unexpected category balance in split projection")
      if records.length ≠ expected * categories.length then
        throw (projectionError "Unexpected task count in split projection")
      return records
    | _ => throw (projectionError "Invalid split manifest")

end RouteLLM.RoutingBenchmark
