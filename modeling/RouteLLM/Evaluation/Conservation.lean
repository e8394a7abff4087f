import RouteLLM.Evaluation.Aggregation
import RouteLLM.Lib.Grouping

/-!
# What an aggregation conserves

The groups of a summary share out its results: every count of the whole is the sum of the counts of the groups.
The totals of money are added to 28 digits, group by group and in the order of the results, so that they agree
with the exact sums, and with each other, where the rounding errors of every group cancel.
-/

namespace RouteLLM.Aggregation

variable {decimalOf : PyJson → Option Decimal} {dataset : BenchmarkDataset} {run : BenchmarkRun}
  {results results' : List BenchmarkResult} {evaluations evaluations' : List MeteredEvaluation}
  {configuration : List (PyStr × PyJson)} {summary summary' : EvaluationSummary}

theorem category_value_injective : Function.Injective TaskCategory.value := by
  intro c d h
  cases c <;> cases d <;> first | rfl | simp [TaskCategory.value] at h

/-! ## One group -/

/-- The counts of a group: evaluated, fully evaluated, incomplete, successful and acceptable. -/
def counts (group : MetricGroup) : ℕ × ℕ × ℕ × ℕ × ℕ :=
  (group.evaluatedTasks, group.fullyEvaluatedTasks, group.incompleteEvaluations, group.successfulResponses,
    group.acceptableResponses)

/-- What an item adds to each count. -/
def itemCounts (item : Item) : ℕ × ℕ × ℕ × ℕ × ℕ :=
  (1, if item.2.evaluationStatus = .evaluated then 1 else 0, if item.2.evaluationStatus = .evaluated then 0 else 1,
    if item.1.success then 1 else 0,
    if item.2.evaluationStatus = .evaluated ∧ item.2.acceptable.getD false then 1 else 0)

theorem sum_itemCounts (items : List Item) :
    (items.map itemCounts).sum =
      (items.length, (items.filter (·.2.evaluationStatus = .evaluated)).length,
        items.length - (items.filter (·.2.evaluationStatus = .evaluated)).length, items.countP (·.1.success),
        (items.filter (·.2.evaluationStatus = .evaluated)).countP (·.2.acceptable.getD false)) := by
  induction items with
  | nil => rfl
  | cons item items ih =>
    have hle := List.length_filter_le (fun item : Item => item.2.evaluationStatus = .evaluated) items
    rw [List.map_cons, List.sum_cons, ih, itemCounts, List.countP_cons, List.length_cons]
    by_cases hstatus : item.2.evaluationStatus = .evaluated
    · rw [List.filter_cons_of_pos (by simpa using hstatus), List.length_cons, List.countP_cons]
      simp only [hstatus, Prod.mk_add_mk, true_and, if_true]
      refine Prod.ext ?_ (Prod.ext ?_ (Prod.ext ?_ (Prod.ext ?_ ?_))) <;> dsimp only <;> omega
    · rw [List.filter_cons_of_neg (by simpa using hstatus)]
      simp only [hstatus, Prod.mk_add_mk, false_and, if_false]
      refine Prod.ext ?_ (Prod.ext ?_ (Prod.ext ?_ (Prod.ext ?_ ?_))) <;> dsimp only <;> omega

theorem toMetricFields_of_ok {fields : MetricFields} {group : MetricGroup}
    (h : fields.consistentEvaluationCounts = .ok group) : group.toMetricFields = fields.assigned := by
  rw [MetricFields.consistentEvaluationCounts] at h
  split at h
  · split at h
    · cases h
      rfl
    · cases h
  · cases h

/-- The validator assigns nothing where a status has a count. -/
theorem assigned_of_pos {fields : MetricFields} (h : 0 < fields.fullyEvaluatedTasks + fields.incompleteEvaluations) :
    fields.assigned = fields :=
  if_neg fun hzero => by omega

/-- A group has its keys, its items counted, and the total of their costs. -/
theorem metricGroup_eq_ok {items : List Item} {modelId : Option String} {category : Option TaskCategory}
    {group : MetricGroup} (h : metricGroup decimalOf items modelId category = .ok group) :
    group.modelId = modelId ∧ group.category = category ∧ counts group = (items.map itemCounts).sum ∧
      group.totalEstimatedCostUsd = totalCost ((items.map Prod.fst).map (knownCandidateCost decimalOf)) := by
  rw [metricGroup] at h
  dsimp only at h
  by_cases hlength : items.length = 0
  · rw [if_pos hlength] at h
    cases h
  rw [if_neg hlength] at h
  obtain ⟨quality, -, h⟩ := Except.bind_eq_ok.mp h
  have hfields := toMetricFields_of_ok h
  rw [assigned_of_pos (by dsimp only; omega)] at hfields
  rw [counts, sum_itemCounts, hfields, List.map_map]
  exact ⟨rfl, rfl, rfl, rfl⟩

/-! ## The items of the groups -/

/-- The results of a model. -/
def ofModel (results : List BenchmarkResult) (modelId : String) : List BenchmarkResult :=
  results.filter (·.modelId.value = modelId)

/-- The results of a model and a category. -/
def ofKey (dataset : BenchmarkDataset) (results : List BenchmarkResult) (key : String × TaskCategory) :
    List BenchmarkResult :=
  results.filter fun result => result.modelId.value = key.1 ∧ taskCategory dataset result.taskId = some key.2

variable {items items' : List Item} {keyed keyed' : List ((String × TaskCategory) × Item)}

theorem pairOf_eq_ok {result : BenchmarkResult} {item : Item} (h : pairOf evaluations result = .ok item) :
    item.1 = result := by
  rw [pairOf] at h
  split at h
  · cases h
    rfl
  · cases h

theorem keyOf_eq_ok {item : Item} {entry : (String × TaskCategory) × Item} (h : keyOf dataset item = .ok entry) :
    entry.2 = item ∧ entry.1.1 = item.1.modelId.value ∧ taskCategory dataset item.1.taskId = some entry.1.2 := by
  rw [keyOf] at h
  split at h
  · rename_i category hcategory
    cases h
    exact ⟨rfl, rfl, hcategory⟩
  · cases h

theorem map_fst_itemsOfModel (items : List Item) (modelId : String) :
    (itemsOfModel items modelId).map Prod.fst = ofModel (items.map Prod.fst) modelId := by
  rw [itemsOfModel, ofModel, List.filter_map]
  rfl

/-- The items of a key are those of its model and its category. -/
theorem map_fst_itemsOfKey (h : items.mapM (keyOf dataset) = .ok keyed) (key : String × TaskCategory) :
    (itemsOfKey keyed key).map Prod.fst = ofKey dataset (items.map Prod.fst) key := by
  have hitems : keyed.map Prod.snd = items := by
    rw [List.map_of_mapM (fun _ _ hentry => (keyOf_eq_ok hentry).1) h, List.map_id']
  have hfilter : keyed.filter (·.1 = key) = keyed.filter fun entry =>
      entry.2.1.modelId.value = key.1 ∧ taskCategory dataset entry.2.1.taskId = some key.2 := by
    refine List.filter_congr fun entry hentry => ?_
    obtain ⟨item, -, hitem⟩ := (List.mapM_eq_ok.mp h).flip.exists_of_mem hentry
    obtain ⟨hsnd, hmodel, hcategory⟩ := keyOf_eq_ok hitem
    refine decide_eq_decide.mpr ?_
    rw [hsnd, hcategory, ← hmodel, Option.some_inj, ← Prod.ext_iff]
  rw [itemsOfKey, ofKey, hfilter, ← hitems, List.map_map, List.map_map, List.filter_map]
  rfl

theorem sortedModels_nodup (items : List Item) : (sortedModels items).Nodup :=
  (KeySort.sortBy_perm id _).nodup_iff.mpr (List.nodup_dedup _)

theorem mem_sortedModels {modelId : String} :
    modelId ∈ sortedModels items ↔ modelId ∈ (items.map Prod.fst).map (·.modelId.value) := by
  rw [sortedModels, KeySort.mem_sortBy, List.mem_dedup, List.map_map]
  rfl

theorem sortedKeys_nodup (keyed : List ((String × TaskCategory) × Item)) : (sortedKeys keyed).Nodup :=
  (KeySort.sortBy_perm _ _).nodup_iff.mpr (List.nodup_dedup _)

/-- The models share out the items. -/
theorem sum_sortedModels {M : Type} [AddCommMonoid M] (items : List Item) (g : Item → M) :
    ((sortedModels items).map fun modelId => ((itemsOfModel items modelId).map g).sum).sum = (items.map g).sum := by
  refine Grouping.sum_map_filter_key (sortedModels_nodup items) (fun item hitem => ?_) g
  exact mem_sortedModels.mpr (List.mem_map_of_mem (List.mem_map_of_mem hitem))

/-- The keys share out the items. -/
theorem sum_sortedKeys {M : Type} [AddCommMonoid M] (h : items.mapM (keyOf dataset) = .ok keyed) (g : Item → M) :
    ((sortedKeys keyed).map fun key => ((itemsOfKey keyed key).map g).sum).sum = (items.map g).sum := by
  have hitems : keyed.map Prod.snd = items := by
    rw [List.map_of_mapM (fun _ _ hentry => (keyOf_eq_ok hentry).1) h, List.map_id']
  have hshares := Grouping.sum_map_filter_key (sortedKeys_nodup keyed)
    (fun entry hentry => KeySort.mem_sortBy.mpr (List.mem_dedup.mpr (List.mem_map_of_mem hentry)))
    (fun entry => g entry.2)
  rw [← hitems, List.map_map]
  refine Eq.trans ?_ hshares
  simp only [itemsOfKey, List.map_map, Function.comp_def]

/-! ## The rows of a summary -/

/-- The total of the exact costs of some results. -/
def exactCost (decimalOf : PyJson → Option Decimal) (results : List BenchmarkResult) : ℚ :=
  (results.map fun result => (knownCandidateCost decimalOf result).toRat).sum

/-- The rounding errors of the total of some results cancel. -/
def Cancels (decimalOf : PyJson → Option Decimal) (results : List BenchmarkResult) : Prop :=
  Decimal.sumErrors ambientPrecision (.ofInt 0) (results.map fun result => (knownCandidateCost decimalOf result).dec) = 0

theorem toRat_totalCost (costs : List Money) :
    (totalCost costs).toRat = (Decimal.sum ambientPrecision (costs.map (·.dec))).toRat := rfl

/-- A total is exact where its errors cancel. -/
theorem toRat_totalCost_eq_iff : (totalCost (results.map (knownCandidateCost decimalOf))).toRat =
    exactCost decimalOf results ↔ Cancels decimalOf results := by
  have hsum := @Decimal.toRat_sum_eq_iff ambientPrecision
    (results.map fun result => (knownCandidateCost decimalOf result).dec)
  rw [List.map_map] at hsum
  rw [Cancels, ← hsum, toRat_totalCost, List.map_map]
  rfl

/-- What a summary was made of. -/
structure MadeOf (decimalOf : PyJson → Option Decimal) (dataset : BenchmarkDataset) (items : List Item)
    (keyed : List ((String × TaskCategory) × Item)) (summary : EvaluationSummary) : Prop where
  keys : items.mapM (keyOf dataset) = .ok keyed
  overall : metricGroup decimalOf items none none = .ok summary.overall
  byModel : (sortedModels items).mapM (fun modelId => metricGroup decimalOf (itemsOfModel items modelId) (some modelId)
    none) = .ok summary.byModel
  byModelCategory : (sortedKeys keyed).mapM (fun key => metricGroup decimalOf (itemsOfKey keyed key) (some key.1)
    (some key.2)) = .ok summary.byModelCategory
  comparisons : (Itertools.combinations summary.byModel).mapM (fun pair => comparison pair.1 pair.2) =
    .ok summary.comparisons
  candidate : summary.candidateInferenceCostUsd = summary.overall.totalEstimatedCostUsd

theorem aggregate_eq_ok (h : aggregate decimalOf run results evaluations configuration = .ok summary) :
    (evaluations.map (·.benchmarkResultId)).Nodup ∧ ∃ items keyed, results.mapM (pairOf evaluations) = .ok items ∧
      MadeOf decimalOf run.dataset items keyed summary := by
  rw [aggregate] at h
  dsimp only at h
  obtain ⟨-, h⟩ := Except.guard_eq_ok.mp h
  obtain ⟨hids, h⟩ := Except.guard_eq_ok.mp h
  obtain ⟨items, hitems, h⟩ := Except.bind_eq_ok.mp h
  obtain ⟨keyed, hkeyed, h⟩ := Except.bind_eq_ok.mp h
  obtain ⟨byModel, hbyModel, h⟩ := Except.bind_eq_ok.mp h
  obtain ⟨byModelCategory, hbyModelCategory, h⟩ := Except.bind_eq_ok.mp h
  obtain ⟨comparisons, hcomparisons, h⟩ := Except.bind_eq_ok.mp h
  obtain ⟨overall, hoverall, h⟩ := Except.bind_eq_ok.mp h
  cases Except.pure_eq_ok.mp h
  exact ⟨(not_not.mp hids).1, items, keyed, hitems, hkeyed, hoverall, hbyModel, hbyModelCategory, hcomparisons, rfl⟩

namespace MadeOf

theorem map_modelId (h : MadeOf decimalOf dataset items keyed summary) :
    summary.byModel.map (·.modelId) = (sortedModels items).map some :=
  List.map_of_mapM (fun _ _ hgroup => (metricGroup_eq_ok hgroup).1) h.byModel

theorem map_key (h : MadeOf decimalOf dataset items keyed summary) :
    summary.byModelCategory.map (fun group => (group.modelId, group.category)) =
      (sortedKeys keyed).map fun key => (some key.1, some key.2) :=
  List.map_of_mapM (fun _ _ hgroup => Prod.ext (metricGroup_eq_ok hgroup).1 (metricGroup_eq_ok hgroup).2.1)
    h.byModelCategory

theorem map_counts (h : MadeOf decimalOf dataset items keyed summary) :
    summary.byModel.map counts =
      (sortedModels items).map fun modelId => ((itemsOfModel items modelId).map itemCounts).sum :=
  List.map_of_mapM (fun _ _ hgroup => (metricGroup_eq_ok hgroup).2.2.1) h.byModel

theorem map_counts_key (h : MadeOf decimalOf dataset items keyed summary) :
    summary.byModelCategory.map counts =
      (sortedKeys keyed).map fun key => ((itemsOfKey keyed key).map itemCounts).sum :=
  List.map_of_mapM (fun _ _ hgroup => (metricGroup_eq_ok hgroup).2.2.1) h.byModelCategory

/-- The comparisons are those of the models in order. -/
theorem map_compared (h : MadeOf decimalOf dataset items keyed summary) :
    summary.comparisons.map (fun c => (c.leftModelId, c.rightModelId)) =
      Itertools.combinations (sortedModels items) := by
  have hpairs : summary.comparisons.map (fun c => (c.leftModelId, c.rightModelId)) =
      (Itertools.combinations summary.byModel).map fun pair => (pair.1.modelId.getD "", pair.2.modelId.getD "") := by
    refine List.map_of_mapM (fun pair c hc => ?_) h.comparisons
    obtain ⟨_, -, hc⟩ := Except.bind_eq_ok.mp hc
    cases Except.pure_eq_ok.mp hc
    rfl
  have hids : summary.byModel.map (fun group => group.modelId.getD "") = sortedModels items := by
    have hmap := congrArg (List.map fun modelId : Option String => modelId.getD "") h.map_modelId
    rw [List.map_map, List.map_map] at hmap
    exact hmap.trans (List.map_id _)
  rw [hpairs, ← hids, Itertools.combinations_map]
  rfl

end MadeOf

/-! ## The law -/

/-- Every result is in one group of its model and in one of its model and category, the counts of the whole are
the sums of those of the groups, the totals are exact and add up, and every two models are compared once. -/
structure Conserves (decimalOf : PyJson → Option Decimal) (dataset : BenchmarkDataset)
    (results : List BenchmarkResult) (summary : EvaluationSummary) : Prop where
  one_model : ∀ result ∈ results, summary.byModel.countP (·.modelId = some result.modelId.value) = 1
  one_key : ∀ result ∈ results, ∃ category ∈ taskCategory dataset result.taskId,
    summary.byModelCategory.countP (fun group =>
      (group.modelId, group.category) = (some result.modelId.value, some category)) = 1
  model_results : ∀ group ∈ summary.byModel, ∀ modelId ∈ group.modelId,
    group.evaluatedTasks = (ofModel results modelId).length ∧
      group.totalEstimatedCostUsd.toRat = exactCost decimalOf (ofModel results modelId)
  key_results : ∀ group ∈ summary.byModelCategory, ∀ modelId ∈ group.modelId, ∀ category ∈ group.category,
    group.evaluatedTasks = (ofKey dataset results (modelId, category)).length ∧
      group.totalEstimatedCostUsd.toRat = exactCost decimalOf (ofKey dataset results (modelId, category))
  overall_results : summary.overall.evaluatedTasks = results.length ∧
    summary.overall.totalEstimatedCostUsd.toRat = exactCost decimalOf results
  model_counts : (summary.byModel.map counts).sum = counts summary.overall
  key_counts : (summary.byModelCategory.map counts).sum = counts summary.overall
  model_costs : (summary.byModel.map (·.totalEstimatedCostUsd.toRat)).sum = summary.overall.totalEstimatedCostUsd.toRat
  key_costs : (summary.byModelCategory.map (·.totalEstimatedCostUsd.toRat)).sum =
    summary.overall.totalEstimatedCostUsd.toRat
  candidate : summary.candidateInferenceCostUsd = summary.overall.totalEstimatedCostUsd
  compared_once : (Itertools.unordered (summary.comparisons.map fun c => (c.leftModelId, c.rightModelId))).Nodup
  compared : ∀ left right, s(left, right) ∈ Itertools.unordered (summary.comparisons.map fun c =>
      (c.leftModelId, c.rightModelId)) ↔
    left ≠ right ∧ left ∈ results.map (·.modelId.value) ∧ right ∈ results.map (·.modelId.value)

/-- The rounding errors cancel in the whole and in every group. -/
structure EveryGroupCancels (decimalOf : PyJson → Option Decimal) (dataset : BenchmarkDataset)
    (results : List BenchmarkResult) : Prop where
  overall : Cancels decimalOf results
  models : ∀ modelId, Cancels decimalOf (ofModel results modelId)
  keys : ∀ key, Cancels decimalOf (ofKey dataset results key)

theorem evaluatedTasks_eq {modelId : Option String} {category : Option TaskCategory} {group : MetricGroup}
    (h : metricGroup decimalOf items modelId category = .ok group) :
    group.evaluatedTasks = (items.map Prod.fst).length := by
  have hcounts := (metricGroup_eq_ok h).2.2.1
  rw [sum_itemCounts] at hcounts
  rw [List.length_map]
  exact congrArg Prod.fst hcounts

/-- The total of a group is exact where its errors cancel. -/
theorem total_eq_iff {modelId : Option String} {category : Option TaskCategory} {group : MetricGroup}
    (h : metricGroup decimalOf items modelId category = .ok group) :
    group.totalEstimatedCostUsd.toRat = exactCost decimalOf (items.map Prod.fst) ↔
      Cancels decimalOf (items.map Prod.fst) := by
  rw [(metricGroup_eq_ok h).2.2.2]
  exact toRat_totalCost_eq_iff

theorem exactCost_map_fst (items : List Item) : exactCost decimalOf (items.map Prod.fst) =
    (items.map fun item => (knownCandidateCost decimalOf item.1).toRat).sum := by
  rw [exactCost, List.map_map]
  rfl

namespace MadeOf

/-- The group of a model. -/
theorem exists_model (h : MadeOf decimalOf dataset items keyed summary) {group : MetricGroup}
    (hgroup : group ∈ summary.byModel) : ∃ modelId ∈ sortedModels items,
      metricGroup decimalOf (itemsOfModel items modelId) (some modelId) none = .ok group :=
  (List.mapM_eq_ok.mp h.byModel).flip.exists_of_mem hgroup

/-- The group of a key. -/
theorem exists_key (h : MadeOf decimalOf dataset items keyed summary) {group : MetricGroup}
    (hgroup : group ∈ summary.byModelCategory) : ∃ key ∈ sortedKeys keyed,
      metricGroup decimalOf (itemsOfKey keyed key) (some key.1) (some key.2) = .ok group :=
  (List.mapM_eq_ok.mp h.byModelCategory).flip.exists_of_mem hgroup

theorem map_total (h : MadeOf decimalOf dataset items keyed summary)
    (hcancels : ∀ modelId, Cancels decimalOf (ofModel (items.map Prod.fst) modelId)) :
    summary.byModel.map (·.totalEstimatedCostUsd.toRat) =
      (sortedModels items).map fun modelId => exactCost decimalOf ((itemsOfModel items modelId).map Prod.fst) := by
  refine List.map_of_mapM (fun modelId group hgroup => (total_eq_iff hgroup).mpr ?_) h.byModel
  rw [map_fst_itemsOfModel]
  exact hcancels modelId

theorem map_total_key (h : MadeOf decimalOf dataset items keyed summary)
    (hcancels : ∀ key, Cancels decimalOf (ofKey dataset (items.map Prod.fst) key)) :
    summary.byModelCategory.map (·.totalEstimatedCostUsd.toRat) =
      (sortedKeys keyed).map fun key => exactCost decimalOf ((itemsOfKey keyed key).map Prod.fst) := by
  refine List.map_of_mapM (fun key group hgroup => (total_eq_iff hgroup).mpr ?_) h.byModelCategory
  rw [map_fst_itemsOfKey h.keys]
  exact hcancels key

/-- A summary conserves what it was made of where the errors cancel. -/
theorem conserves (h : MadeOf decimalOf dataset items keyed summary)
    (hcancels : EveryGroupCancels decimalOf dataset (items.map Prod.fst)) :
    Conserves decimalOf dataset (items.map Prod.fst) summary where
  one_model := by
    intro result hresult
    have hnodup : (summary.byModel.map (·.modelId)).Nodup := by
      rw [h.map_modelId]
      exact (sortedModels_nodup items).map (Option.some_injective _)
    refine Grouping.countP_key_eq_one hnodup ?_
    rw [h.map_modelId]
    exact List.mem_map_of_mem (mem_sortedModels.mpr (List.mem_map_of_mem hresult))
  one_key := by
    intro result hresult
    obtain ⟨item, hitem, rfl⟩ := List.mem_map.mp hresult
    obtain ⟨entry, hentry, hkey⟩ := (List.mapM_eq_ok.mp h.keys).exists_of_mem hitem
    obtain ⟨-, hmodel, hcategory⟩ := keyOf_eq_ok hkey
    refine ⟨entry.1.2, hcategory, ?_⟩
    have hnodup : (summary.byModelCategory.map fun group => (group.modelId, group.category)).Nodup := by
      rw [h.map_key]
      refine (sortedKeys_nodup keyed).map fun key key' hkeys => ?_
      exact Prod.ext (Option.some.inj (congrArg Prod.fst hkeys)) (Option.some.inj (congrArg Prod.snd hkeys))
    refine Grouping.countP_key_eq_one hnodup ?_
    rw [h.map_key, ← hmodel]
    refine List.mem_map_of_mem (f := fun key : String × TaskCategory => (some key.1, some key.2)) ?_
    exact KeySort.mem_sortBy.mpr (List.mem_dedup.mpr (List.mem_map_of_mem hentry))
  model_results := by
    intro group hgroup modelId hmodelId
    obtain ⟨modelId', -, hmade⟩ := h.exists_model hgroup
    rw [(metricGroup_eq_ok hmade).1] at hmodelId
    cases hmodelId
    rw [← map_fst_itemsOfModel]
    refine ⟨evaluatedTasks_eq hmade, (total_eq_iff hmade).mpr ?_⟩
    rw [map_fst_itemsOfModel]
    exact hcancels.models _
  key_results := by
    intro group hgroup modelId hmodelId category hcategory
    obtain ⟨key, -, hmade⟩ := h.exists_key hgroup
    rw [(metricGroup_eq_ok hmade).1] at hmodelId
    rw [(metricGroup_eq_ok hmade).2.1] at hcategory
    cases hmodelId
    cases hcategory
    rw [← map_fst_itemsOfKey h.keys]
    refine ⟨evaluatedTasks_eq hmade, (total_eq_iff hmade).mpr ?_⟩
    rw [map_fst_itemsOfKey h.keys]
    exact hcancels.keys _
  overall_results := ⟨evaluatedTasks_eq h.overall, (total_eq_iff h.overall).mpr hcancels.overall⟩
  model_counts := by
    rw [h.map_counts, sum_sortedModels, (metricGroup_eq_ok h.overall).2.2.1]
  key_counts := by
    rw [h.map_counts_key, sum_sortedKeys h.keys, (metricGroup_eq_ok h.overall).2.2.1]
  model_costs := by
    rw [h.map_total hcancels.models, (total_eq_iff h.overall).mpr hcancels.overall]
    simp only [exactCost_map_fst]
    exact sum_sortedModels items _
  key_costs := by
    rw [h.map_total_key hcancels.keys, (total_eq_iff h.overall).mpr hcancels.overall]
    simp only [exactCost_map_fst]
    exact sum_sortedKeys h.keys _
  candidate := h.candidate
  compared_once := by
    rw [h.map_compared]
    exact Itertools.unordered_combinations_nodup (sortedModels_nodup items)
  compared := by
    intro left right
    rw [h.map_compared, Itertools.mem_unordered_combinations (sortedModels_nodup items), mem_sortedModels,
      mem_sortedModels]

/-- The errors cancel where a summary conserves what it was made of. -/
theorem cancels (h : MadeOf decimalOf dataset items keyed summary)
    (hconserves : Conserves decimalOf dataset (items.map Prod.fst) summary) :
    EveryGroupCancels decimalOf dataset (items.map Prod.fst) where
  overall := (total_eq_iff h.overall).mp hconserves.overall_results.2
  models := by
    intro modelId
    by_cases hmem : modelId ∈ sortedModels items
    · obtain ⟨group, hgroup, hmade⟩ := (List.mapM_eq_ok.mp h.byModel).exists_of_mem hmem
      have htotal := (hconserves.model_results group hgroup modelId (metricGroup_eq_ok hmade).1).2
      rw [← map_fst_itemsOfModel] at htotal ⊢
      exact (total_eq_iff hmade).mp htotal
    · have hnil : ofModel (items.map Prod.fst) modelId = [] := by
        refine List.filter_eq_nil_iff.mpr fun result hresult hmodel => hmem (mem_sortedModels.mpr ?_)
        exact List.mem_map.mpr ⟨result, hresult, of_decide_eq_true hmodel⟩
      rw [hnil]
      rfl
  keys := by
    intro key
    by_cases hmem : key ∈ sortedKeys keyed
    · obtain ⟨group, hgroup, hmade⟩ := (List.mapM_eq_ok.mp h.byModelCategory).exists_of_mem hmem
      have hmodel := (metricGroup_eq_ok hmade).1
      have hcategory := (metricGroup_eq_ok hmade).2.1
      have htotal := (hconserves.key_results group hgroup key.1 hmodel key.2 hcategory).2
      rw [← map_fst_itemsOfKey h.keys] at htotal ⊢
      exact (total_eq_iff hmade).mp htotal
    · have hnil : itemsOfKey keyed key = [] := by
        refine List.map_eq_nil_iff.mpr (List.filter_eq_nil_iff.mpr fun entry hentry hkey => hmem ?_)
        exact KeySort.mem_sortBy.mpr (List.mem_dedup.mpr (List.mem_map.mpr ⟨entry, hentry, of_decide_eq_true hkey⟩))
      rw [← map_fst_itemsOfKey h.keys, hnil]
      rfl

end MadeOf

/-! ## Orders of the lists -/

/-- The figures of a summary: of the whole, of the models, of the models and categories, the compared models, and
the cost of the candidates. -/
def figures (summary : EvaluationSummary) :=
  ((counts summary.overall, summary.overall.totalEstimatedCostUsd.toRat),
    summary.byModel.map fun group => (group.modelId, counts group, group.totalEstimatedCostUsd.toRat),
    summary.byModelCategory.map fun group =>
      (group.modelId, group.category, counts group, group.totalEstimatedCostUsd.toRat),
    summary.comparisons.map fun c => (c.leftModelId, c.rightModelId),
    summary.candidateInferenceCostUsd.toRat)

/-- The counts and the exact cost of some items. -/
def share (decimalOf : PyJson → Option Decimal) (items : List Item) : (ℕ × ℕ × ℕ × ℕ × ℕ) × ℚ :=
  ((items.map itemCounts).sum, exactCost decimalOf (items.map Prod.fst))

/-- The exact figures of some items. -/
def itemFigures (decimalOf : PyJson → Option Decimal) (items : List Item)
    (keyed : List ((String × TaskCategory) × Item)) :=
  (share decimalOf items,
    (sortedModels items).map fun modelId => (some modelId, share decimalOf (itemsOfModel items modelId)),
    (sortedKeys keyed).map fun key => (some key.1, some key.2, share decimalOf (itemsOfKey keyed key)),
    Itertools.combinations (sortedModels items),
    (share decimalOf items).2)

/-- The figures of a group are those of its items where its errors cancel. -/
theorem share_eq {modelId : Option String} {category : Option TaskCategory} {group : MetricGroup}
    (h : metricGroup decimalOf items modelId category = .ok group) (hcancels : Cancels decimalOf (items.map Prod.fst)) :
    (counts group, group.totalEstimatedCostUsd.toRat) = share decimalOf items :=
  Prod.ext (metricGroup_eq_ok h).2.2.1 ((total_eq_iff h).mpr hcancels)

theorem MadeOf.figures_eq (h : MadeOf decimalOf dataset items keyed summary)
    (hcancels : EveryGroupCancels decimalOf dataset (items.map Prod.fst)) :
    figures summary = itemFigures decimalOf items keyed := by
  have hmodels : summary.byModel.map (fun group => (group.modelId, counts group, group.totalEstimatedCostUsd.toRat)) =
      (sortedModels items).map fun modelId => (some modelId, share decimalOf (itemsOfModel items modelId)) := by
    refine List.map_of_mapM (fun modelId group hgroup => ?_) h.byModel
    rw [(metricGroup_eq_ok hgroup).1, share_eq hgroup]
    rw [map_fst_itemsOfModel]
    exact hcancels.models modelId
  have hkeys : summary.byModelCategory.map (fun group =>
        (group.modelId, group.category, counts group, group.totalEstimatedCostUsd.toRat)) =
      (sortedKeys keyed).map fun key => (some key.1, some key.2, share decimalOf (itemsOfKey keyed key)) := by
    refine List.map_of_mapM (fun key group hgroup => ?_) h.byModelCategory
    rw [(metricGroup_eq_ok hgroup).1, (metricGroup_eq_ok hgroup).2.1, share_eq hgroup]
    rw [map_fst_itemsOfKey h.keys]
    exact hcancels.keys key
  have hoverall := share_eq h.overall hcancels.overall
  rw [figures, itemFigures, hmodels, hkeys, h.map_compared, h.candidate, ← hoverall]

theorem sortedModels_congr (h : items'.Perm items) : sortedModels items' = sortedModels items := by
  refine KeySort.sortBy_congr ?_ (h.map _).dedup
  rw [List.map_id]
  exact List.nodup_dedup _

theorem sortedKeys_congr (h : keyed'.Perm keyed) : sortedKeys keyed' = sortedKeys keyed := by
  refine KeySort.sortBy_congr ((List.nodup_dedup _).map fun key key' hkeys => ?_) (h.map _).dedup
  have hpair := Prod.mk.inj (toLex.injective hkeys)
  exact Prod.ext hpair.1 (category_value_injective hpair.2)

theorem share_congr (h : items'.Perm items) : share decimalOf items' = share decimalOf items :=
  Prod.ext (h.map _).sum_eq ((h.map _).map _).sum_eq

/-- The exact figures do not depend on the order of the items. -/
theorem itemFigures_congr (h : items'.Perm items) (hkeyed : keyed'.Perm keyed) :
    itemFigures decimalOf items' keyed' = itemFigures decimalOf items keyed := by
  have hmodel : ∀ modelId, share decimalOf (itemsOfModel items' modelId) = share decimalOf (itemsOfModel items modelId) :=
    fun modelId => share_congr (h.filter _)
  have hkey : ∀ key, share decimalOf (itemsOfKey keyed' key) = share decimalOf (itemsOfKey keyed key) :=
    fun key => share_congr ((hkeyed.filter _).map _)
  simp only [itemFigures, sortedModels_congr h, sortedKeys_congr hkeyed, share_congr h, hmodel, hkey]

theorem map_fst_of_mapM (h : results.mapM (pairOf evaluations) = .ok items) : items.map Prod.fst = results :=
  (List.map_of_mapM (fun _ _ => pairOf_eq_ok) h).trans (List.map_id _)

/-- The items of permuted lists are permuted. -/
theorem items_perm (hids : (evaluations.map (·.benchmarkResultId)).Nodup) (hresults : results'.Perm results)
    (hevaluations : evaluations'.Perm evaluations) (hitems : results.mapM (pairOf evaluations) = .ok items)
    (hitems' : results'.mapM (pairOf evaluations') = .ok items') : items'.Perm items := by
  have hpair : pairOf evaluations' = pairOf evaluations := by
    funext result
    rw [pairOf, pairOf, AssocList.find?_perm hids hevaluations]
  rw [List.eq_filterMap_of_mapM hitems, List.eq_filterMap_of_mapM hitems', hpair]
  exact hresults.filterMap _

theorem keyed_perm (h : items'.Perm items) (hkeyed : items.mapM (keyOf dataset) = .ok keyed)
    (hkeyed' : items'.mapM (keyOf dataset) = .ok keyed') : keyed'.Perm keyed := by
  rw [List.eq_filterMap_of_mapM hkeyed, List.eq_filterMap_of_mapM hkeyed']
  exact h.filterMap _

/-- Every order of the lists that is accepted has a summary that conserves the results, with the same figures. -/
def Conserved (decimalOf : PyJson → Option Decimal) (run : BenchmarkRun) (results : List BenchmarkResult)
    (evaluations : List MeteredEvaluation) (configuration : List (PyStr × PyJson)) : Prop :=
  ∀ results' evaluations' summary', results'.Perm results → evaluations'.Perm evaluations →
    aggregate decimalOf run results' evaluations' configuration = .ok summary' →
      Conserves decimalOf run.dataset results' summary' ∧
        ∀ summary, aggregate decimalOf run results evaluations configuration = .ok summary →
          figures summary' = figures summary

/-- Nothing is rounded where the costs of no part of the results need more digits than the precision. -/
theorem everyGroupCancels_of_representable (h : ∀ part : List BenchmarkResult, part.Sublist results →
    Decimal.Representable ambientPrecision (exactCost decimalOf part)) :
    EveryGroupCancels decimalOf dataset results := by
  have hcancels : ∀ part : List BenchmarkResult, part.Sublist results → Cancels decimalOf part := by
    intro part hpart
    refine Decimal.sumErrors_eq_zero fun front rest heq => ?_
    obtain ⟨part₁, part₂, hparts, hfront, -⟩ := List.map_eq_append_iff.mp heq
    have hprefix : part₁.Sublist results := (hparts ▸ List.sublist_append_left part₁ part₂).trans hpart
    have hrepresentable := h part₁ hprefix
    rw [exactCost] at hrepresentable
    rw [← hfront, List.map_map, Decimal.toRat_ofInt, Int.cast_zero, zero_add]
    exact hrepresentable
  exact ⟨hcancels results (List.Sublist.refl _), fun _ => hcancels _ List.filter_sublist,
    fun _ => hcancels _ List.filter_sublist⟩

/-! ## A cost of 29 digits -/

/-- The id of a second task. -/
def otherTaskId : TaskId := ⟨"task-other", by decide⟩

/-- Two tasks of one category. -/
def sampleDataset : BenchmarkDataset :=
  { BenchmarkDataset.sample with
    tasks := [.sample, { BenchmarkTask.sample with taskId := otherTaskId }]
    tasks_nonempty := List.cons_ne_nil _ _
    tasks_nodup := by decide }

def sampleRun : BenchmarkRun where
  runId := .sample
  dataset := sampleDataset
  selectedTaskIds := sampleDataset.tasks.map (·.taskId)
  models := [.sample]
  configuration := ⟨[], [], []⟩

theorem success_without_category : true = (none : Option String).isNone := rfl

theorem success_without_details : true = true → ([] : List (PyStr × PyJson)) = [] := fun _ => rfl

/-- A successful result of a task with a cost. -/
def sampleResult (resultId : Uuid) (taskId : TaskId) (cost : Money) : BenchmarkResult where
  resultId := resultId
  runId := .sample
  requestId := "request"
  taskId := taskId
  modelId := ModelConfig.sample.modelId
  success := true
  response := some { InferenceResponse.sample with estimatedCostUsd := cost }
  latencyMs := 1
  response_iff := rfl
  category_iff := success_without_category
  response_model := by
    intro r hr
    cases hr
    rfl
  success_details := success_without_details

/-- An incomplete evaluation of a result. -/
def sampleEvaluation (resultId : Uuid) (taskId : String) : MeteredEvaluation where
  benchmarkResultId := resultId
  runId := .sample
  taskId := taskId
  modelId := "small"
  evaluatorName := "qa"
  evaluationStatus := .partially
  acceptableThreshold := .one
  acceptable := none
  consistent := EvaluationResult.unscored_consistent

/-- The id of the second result. -/
def otherUuid : Uuid := ⟨"00000000-0000-4000-8000-00000000000f", by decide⟩

/-- A power of ten. -/
def powerOfTen (exp : ℤ) : Money := ⟨⟨1, exp⟩, Int.one_nonneg⟩

/-- A dollar, and a cost with one digit in the twenty-eighth decimal place. -/
def sampleResults : List BenchmarkResult :=
  [sampleResult .sample BenchmarkTask.sample.taskId (powerOfTen 0), sampleResult otherUuid otherTaskId (powerOfTen (-28))]

def sampleEvaluations : List MeteredEvaluation :=
  [sampleEvaluation .sample "task-1", sampleEvaluation otherUuid "task-other"]

end RouteLLM.Aggregation
