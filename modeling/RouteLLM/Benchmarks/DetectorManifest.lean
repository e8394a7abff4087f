import RouteLLM.Benchmarks.ProjectionAgreement

/-!
# The manifest of a split

The entries that are written for the tasks of a split, family by family. The projection accepts them, and
with them the agreement of a projected manifest is shown to depend on the order of its entries.
-/

namespace RouteLLM.RoutingBenchmark

open Labels

variable {table : FamilyTable} {dataset : BenchmarkDataset} {split : String} {indexes : List ℕ}
  {manifestSplit : BenchmarkSplit}

/-- The entry that is written for a task of a split. -/
def detectorEntry (manifestSplit : BenchmarkSplit) (task : BenchmarkTask) : PyJson := .dict
  [(PyStr.ofString "task_id", .str (taskKey task)),
   (PyStr.ofString "category", .str (PyStr.ofString (displayCategory task.category))),
   (PyStr.ofString "internal_category", .str (PyStr.ofString task.category.value)),
   (PyStr.ofString "task_family_id", .str ((familyKey task).getD [])),
   (PyStr.ofString "split", .str (PyStr.ofString manifestSplit.value))]

theorem getItem_detectorEntry (manifestSplit : BenchmarkSplit) (task : BenchmarkTask) :
    getItem "task_id" (detectorEntry manifestSplit task) = .ok (.str (taskKey task)) ∧
    categoryItem (detectorEntry manifestSplit task) =
      .ok (.str (PyStr.ofString (displayCategory task.category))) ∧
    getItem "internal_category" (detectorEntry manifestSplit task) =
      .ok (.str (PyStr.ofString task.category.value)) ∧
    getItem "task_family_id" (detectorEntry manifestSplit task) =
      .ok (.str ((familyKey task).getD [])) ∧
    getItem "split" (detectorEntry manifestSplit task) =
      .ok (.str (PyStr.ofString manifestSplit.value)) :=
  ⟨rfl, rfl, rfl, rfl, rfl⟩

/-- The tasks of a planned family. -/
def familyTasks (dataset : BenchmarkDataset) (planned : PlannedFamily) : List BenchmarkTask :=
  dataset.tasks.filter fun task => familyKey task = some (PyStr.ofString planned.familyId)

theorem mem_familyTasks {planned : PlannedFamily} {task : BenchmarkTask} :
    task ∈ familyTasks dataset planned ↔
      task ∈ dataset.tasks ∧ familyKey task = some (PyStr.ofString planned.familyId) := by
  rw [familyTasks, List.mem_filter, decide_eq_true_eq]

/-- The entries of the tasks of a plan, family by family. -/
def listedEntries (table : FamilyTable) (dataset : BenchmarkDataset) (indexes : List ℕ)
    (manifestSplit : BenchmarkSplit) : List PyJson :=
  (plan table indexes).flatMap fun planned =>
    (familyTasks dataset planned).map (detectorEntry manifestSplit)

theorem taskKey_ne_nil (task : BenchmarkTask) : taskKey task ≠ [] := by
  intro h
  have hnil : task.taskId.value.toList = [] := List.map_eq_nil_iff.mp h
  have hpattern := task.taskId.pattern
  rw [hnil] at hpattern
  cases hpattern

theorem textOf_detectorEntry (manifestSplit : BenchmarkSplit) (task : BenchmarkTask) :
    textOf "task_id" (detectorEntry manifestSplit task) = taskKey task ∧
    textOf "task_family_id" (detectorEntry manifestSplit task) = (familyKey task).getD [] ∧
    shownCategory (detectorEntry manifestSplit task) =
      .str (PyStr.ofString (displayCategory task.category)) := by
  obtain ⟨hid, hshown, -, hfamily, -⟩ := getItem_detectorEntry manifestSplit task
  rw [textOf, hid, textOf, hfamily, shownCategory, hshown]
  exact ⟨rfl, rfl, rfl⟩

/-- The entries of a family are those of its tasks. -/
theorem own_listedEntries (hids : ((plan table indexes).map PlannedFamily.familyId).Nodup)
    {planned : PlannedFamily} (hplanned : planned ∈ plan table indexes) :
    planned.own (listedEntries table dataset indexes manifestSplit) =
      (familyTasks dataset planned).map (detectorEntry manifestSplit) := by
  rw [PlannedFamily.own, listedEntries, List.filter_flatMap,
    ← flatMap_key_eq (g := fun planned => (familyTasks dataset planned).map
      (detectorEntry manifestSplit)) hids hplanned]
  refine List.flatMap_congr fun other _ => ?_
  have htext : ∀ entry ∈ (familyTasks dataset other).map (detectorEntry manifestSplit),
      textOf "task_family_id" entry = PyStr.ofString other.familyId := by
    intro entry hentry
    obtain ⟨task, htask, rfl⟩ := List.mem_map.mp hentry
    rw [(textOf_detectorEntry manifestSplit task).2.1, (mem_familyTasks.mp htask).2]
    rfl
  split
  · rename_i heq
    refine List.filter_eq_self.mpr fun entry hentry => ?_
    rw [htext entry hentry, heq, decide_eq_true_eq]
  · rename_i hne
    refine List.filter_eq_nil_iff.mpr fun entry hentry => ?_
    rw [htext entry hentry, decide_eq_true_eq]
    exact fun h => hne (PyStr.ofString_injective h)

theorem mem_listedEntries {entry : PyJson} :
    entry ∈ listedEntries table dataset indexes manifestSplit ↔
      ∃ planned ∈ plan table indexes, ∃ task ∈ familyTasks dataset planned,
        entry = detectorEntry manifestSplit task := by
  rw [listedEntries, List.mem_flatMap]
  constructor
  · intro h
    obtain ⟨planned, hplanned, h⟩ := h
    obtain ⟨task, htask, rfl⟩ := List.mem_map.mp h
    exact ⟨planned, hplanned, task, htask, rfl⟩
  · intro h
    obtain ⟨planned, hplanned, task, htask, rfl⟩ := h
    exact ⟨planned, hplanned, List.mem_map_of_mem htask⟩

theorem names_listedEntries : ∀ entry ∈ listedEntries table dataset indexes manifestSplit,
    ∃ task ∈ dataset.tasks, Names entry task := by
  intro entry hentry
  obtain ⟨planned, _, task, htask, rfl⟩ := mem_listedEntries.mp hentry
  obtain ⟨htask, hfamily⟩ := mem_familyTasks.mp htask
  obtain ⟨hid, hfamilyId, -⟩ := textOf_detectorEntry manifestSplit task
  exact ⟨task, htask, hid, by rw [hfamilyId, hfamily]; rfl⟩

section Listed

variable (hwell : WellFormed table) (hdataset : constructDataset table = .ok dataset)
  (hsplit : categoryDetectorSplits split = some (indexes, manifestSplit))

include hwell hsplit

omit hwell in
/-- The indexes of a split are distinct, in the table and as many as the split has families. -/
theorem indexes_spec : indexes.Nodup ∧ (∀ i ∈ indexes, i < 16) ∧
    2 * indexes.length = expectedPerSplit split := by
  unfold categoryDetectorSplits at hsplit
  split_ifs at hsplit with htrain hdev
  · cases hsplit
    rw [expectedPerSplit, if_pos htrain]
    decide
  · cases hsplit
    rw [expectedPerSplit, if_neg htrain]
    decide

theorem exists_spec (category : TaskCategory) {i : ℕ} (hi : i ∈ indexes) :
    ∃ spec, (table category)[i]? = some spec := by
  have hlt := (indexes_spec hsplit).2.1 i hi
  rw [← hwell.length_eq category] at hlt
  exact ⟨_, List.getElem?_eq_getElem hlt⟩

omit hwell in
theorem nodup_planIds : ((plan table indexes).map PlannedFamily.familyId).Nodup := by
  have hplaces : ∀ p ∈ plan table indexes,
      p.index < 99 ∧ (table p.category)[p.index]? = some p.spec :=
    fun p hp => ⟨(indexes_of_split hsplit).1 _ (mem_plan.mp hp).1, (mem_plan.mp hp).2⟩
  exact nodup_familyIds (nodup_plan (indexes_spec hsplit).1) hplaces

include hdataset

omit hsplit in
/-- A planned family has two tasks. -/
theorem length_familyTasks {planned : PlannedFamily} (hplanned : planned ∈ plan table indexes) :
    (familyTasks dataset planned).length = 2 := by
  have hmap := prompts_of_family hdataset (mem_fullPlan_of_mem_plan hplanned)
  have hlength := congrArg List.length hmap
  rw [List.length_map, List.length_map] at hlength
  have hspec := List.mem_of_getElem? (mem_plan.mp hplanned).2
  rw [familyTasks, hlength, hwell.two planned.category planned.spec hspec]

/-- Each category of the plan has its number of tasks. -/
theorem categories_familyTasks :
    ((plan table indexes).flatMap fun planned =>
      (familyTasks dataset planned).map (·.category)) =
      categories.flatMap fun category => List.replicate (expectedPerSplit split) category := by
  rw [plan, List.flatMap_assoc]
  refine List.flatMap_congr fun category _ => ?_
  have hplan : ∀ planned ∈ categoryPlan table indexes category,
      planned.category = category ∧ planned ∈ plan table indexes := by
    intro planned hmem
    refine ⟨?_, List.mem_flatMap.mpr ⟨category, mem_categories _, hmem⟩⟩
    obtain ⟨_, _, hmem⟩ := List.mem_filterMap.mp hmem
    obtain ⟨_, _, rfl⟩ := Option.map_eq_some_iff.mp hmem
    rfl
  have hlength : (categoryPlan table indexes category).length = indexes.length := by
    rw [categoryPlan, List.length_filterMap_eq_countP]
    refine List.countP_eq_length.mpr fun i hi => ?_
    obtain ⟨spec, hspec⟩ := exists_spec hwell hsplit category hi
    rw [hspec]
    rfl
  refine List.eq_replicate_iff.mpr ⟨?_, ?_⟩
  · rw [List.length_flatMap]
    have hconst : (categoryPlan table indexes category).map (fun planned =>
        ((familyTasks dataset planned).map (·.category)).length) =
        List.replicate indexes.length 2 := by
      refine List.eq_replicate_iff.mpr ⟨by rw [List.length_map, hlength], ?_⟩
      intro n hn
      obtain ⟨planned, hmem, rfl⟩ := List.mem_map.mp hn
      rw [List.length_map, length_familyTasks hwell hdataset (hplan planned hmem).2]
    rw [hconst, List.sum_replicate_nat, ← (indexes_spec hsplit).2.2]
    omega
  · intro c hc
    obtain ⟨planned, hmem, hc⟩ := List.mem_flatMap.mp hc
    obtain ⟨task, htask, rfl⟩ := List.mem_map.mp hc
    obtain ⟨htask, hfamily⟩ := mem_familyTasks.mp htask
    rw [category_of_family hdataset (mem_fullPlan_of_mem_plan (hplan planned hmem).2) htask hfamily,
      (hplan planned hmem).1]

omit hwell hdataset in
/-- The ids of the listed tasks are distinct. -/
theorem nodup_listedEntries : ((listedEntries table dataset indexes manifestSplit).map
    (textOf "task_id")).Nodup := by
  have hmap : (listedEntries table dataset indexes manifestSplit).map (textOf "task_id") =
      (plan table indexes).flatMap fun planned => (familyTasks dataset planned).map taskKey := by
    rw [listedEntries, List.map_flatMap]
    refine List.flatMap_congr fun planned _ => ?_
    rw [List.map_map]
    exact List.map_congr_left fun task _ => (textOf_detectorEntry manifestSplit task).1
  rw [hmap]
  refine List.nodup_flatMap.mpr ⟨fun planned _ => ?_, ?_⟩
  · exact (nodup_taskKey dataset).sublist (List.filter_sublist.map taskKey)
  · refine (List.pairwise_map.mp (nodup_planIds hsplit)).imp ?_
    intro p q hne id hp hq
    obtain ⟨task, htask, hid⟩ := List.mem_map.mp hp
    obtain ⟨task', htask', hid'⟩ := List.mem_map.mp hq
    obtain ⟨htask, hfamily⟩ := mem_familyTasks.mp htask
    obtain ⟨htask', hfamily'⟩ := mem_familyTasks.mp htask'
    have hsame : some task' = some task := by
      rw [← taskOfId_eq htask', ← taskOfId_eq htask, hid, hid']
    rw [Option.some.inj hsame, hfamily] at hfamily'
    exact hne (PyStr.ofString_injective (Option.some.inj hfamily'))

omit hwell hsplit hdataset in
theorem ofString_familyId_ne_nil (planned : PlannedFamily) :
    PyStr.ofString planned.familyId ≠ [] := by
  intro h
  have hnil : planned.familyId.toList = [] := List.map_eq_nil_iff.mp h
  have htext : planned.familyId.toList = "rbv1-".toList ++ _ := String.toList_ofList
  exact absurd (String.toList_eq_nil_iff.mp (List.append_eq_nil_iff.mp (htext.symm.trans hnil)).1)
    (by decide)

omit hsplit in
/-- The families of the listed entries. -/
theorem familyIds_listedEntries :
    (listedEntries table dataset indexes manifestSplit).map (textOf "task_family_id") =
      (plan table indexes).flatMap fun planned =>
        List.replicate 2 (PyStr.ofString planned.familyId) := by
  rw [listedEntries, List.map_flatMap]
  refine List.flatMap_congr fun planned hplanned => ?_
  rw [List.map_map]
  refine List.eq_replicate_iff.mpr ⟨?_, ?_⟩
  · rw [List.length_map, length_familyTasks hwell hdataset hplanned]
  · intro id hid
    obtain ⟨task, htask, rfl⟩ := List.mem_map.mp hid
    rw [Function.comp_apply, (textOf_detectorEntry manifestSplit task).2.1,
      (mem_familyTasks.mp htask).2]
    rfl

/-- The displayed categories of the listed entries. -/
theorem shownKeys_listedEntries :
    (listedEntries table dataset indexes manifestSplit).map shownKey =
      (categories.flatMap fun category =>
        List.replicate (expectedPerSplit split) category).map fun category =>
          HashKey.str (PyStr.ofString (displayCategory category)) := by
  rw [← categories_familyTasks hwell hdataset hsplit, listedEntries, List.map_flatMap,
    List.map_flatMap]
  refine List.flatMap_congr fun planned _ => ?_
  rw [List.map_map, List.map_map]
  refine List.map_congr_left fun task _ => ?_
  rw [Function.comp_apply, shownKey, (textOf_detectorEntry manifestSplit task).2.2]
  rfl

omit hwell hsplit hdataset in
theorem displayKey_injective : Function.Injective fun category : TaskCategory =>
    HashKey.str (PyStr.ofString (displayCategory category)) := by
  intro c d h
  have htext : displayCategory c = displayCategory d :=
    PyStr.ofString_injective (HashKey.str.inj h)
  cases c <;> cases d <;> first | rfl | simp [displayCategory, TaskCategory.value] at htext

omit hwell hsplit hdataset in
/-- The categories are balanced where each is repeated alike. -/
theorem balanced (split : String) :
    counterEq (categories.flatMap fun category =>
      List.replicate (expectedPerSplit split) category)
      (categories.map fun category => (category, expectedPerSplit split)) := by
  unfold expectedPerSplit
  split_ifs
  · decide +kernel
  · decide +kernel

/-- Each family fits its listed entries. -/
theorem fits_listedEntries {planned : PlannedFamily} (hplanned : planned ∈ plan table indexes) :
    Fits (listedEntries table dataset indexes manifestSplit) planned := by
  have hspec := List.mem_of_getElem? (mem_plan.mp hplanned).2
  have hown : planned.own (listedEntries table dataset indexes manifestSplit) =
      (familyTasks dataset planned).map (detectorEntry manifestSplit) :=
    own_listedEntries (nodup_planIds hsplit) hplanned
  constructor
  · rw [hown, List.length_map, length_familyTasks hwell hdataset hplanned,
      hwell.two planned.category planned.spec hspec]
  · intro entry hentry
    rw [hown] at hentry
    obtain ⟨task, htask, rfl⟩ := List.mem_map.mp hentry
    obtain ⟨hmem, hfamily⟩ := mem_familyTasks.mp htask
    obtain ⟨hid, hshown, hinternal, -, -⟩ := getItem_detectorEntry manifestSplit task
    have hcategory := category_of_family hdataset (mem_fullPlan_of_mem_plan hplanned) hmem hfamily
    refine ⟨⟨_, hinternal, ?_⟩, ⟨_, hid, taskKey_ne_nil task⟩, ⟨_, hshown⟩⟩
    rw [hcategory]
    exact decide_eq_true rfl
  · intro variant hvariant hempty
    refine hwell.prompts planned.category planned.spec hspec variant hvariant ?_
    rw [hempty]
    rfl

/-- The manifest of the tasks of a split is acceptable. -/
theorem acceptable_listedEntries : Acceptable table split indexes manifestSplit
    (listedEntries table dataset indexes manifestSplit) := by
  have hfamilies : (listedEntries table dataset indexes manifestSplit).map
      (textOf "task_family_id") = _ := familyIds_listedEntries hwell hdataset
  have hshown := shownKeys_listedEntries hwell hdataset hsplit
  exact {
    taskId := fun entry hentry => by
      obtain ⟨_, _, task, _, rfl⟩ := mem_listedEntries.mp hentry
      exact ⟨_, (getItem_detectorEntry manifestSplit task).1, taskKey_ne_nil task⟩
    nodup := nodup_listedEntries hsplit
    split_eq := fun entry hentry => by
      obtain ⟨_, _, task, _, rfl⟩ := mem_listedEntries.mp hentry
      rw [namesSplit, (getItem_detectorEntry manifestSplit task).2.2.2.2, Except.ok_bind]
      exact if_pos (decide_eq_true rfl)
    familyId := fun entry hentry => by
      obtain ⟨planned, _, task, htask, rfl⟩ := mem_listedEntries.mp hentry
      refine ⟨_, (getItem_detectorEntry manifestSplit task).2.2.2.1, ?_⟩
      rw [(mem_familyTasks.mp htask).2]
      exact ofString_familyId_ne_nil planned
    indexes_nodup := (indexes_spec hsplit).1
    materialized := fun category i hi => exists_spec hwell hsplit category hi
    fits := fun planned hplanned => fits_listedEntries hwell hdataset hsplit hplanned
    consumed := by
      rw [hfamilies, consumedFamilies_eq]
      intro id hid
      obtain ⟨planned, hplanned, rfl⟩ := List.mem_map.mp hid
      exact List.mem_flatMap.mpr ⟨planned, hplanned, List.mem_cons_self⟩
    planned := by
      rw [hfamilies, consumedFamilies_eq]
      intro id hid
      obtain ⟨planned, hplanned, hid⟩ := List.mem_flatMap.mp hid
      rw [List.eq_of_mem_replicate hid]
      exact List.mem_map_of_mem hplanned
    hashable := fun entry hentry => by
      obtain ⟨_, _, task, _, rfl⟩ := mem_listedEntries.mp hentry
      rw [(textOf_detectorEntry manifestSplit task).2.2]
      exact ⟨_, rfl⟩
    balance := by
      rw [hshown]
      exact (counterEq_map displayKey_injective).mpr (balanced split)
    count := by
      rw [← List.length_map (f := shownKey), hshown, List.length_map, List.length_flatMap]
      simp only [List.length_replicate, List.map_const', List.sum_replicate_nat]
      exact Nat.mul_comm _ _ }

omit hwell hdataset in
/-- The listed entries are in the order of the data set. -/
theorem inDatasetOrder_listedEntries : InDatasetOrder dataset
    (listedEntries table dataset indexes manifestSplit) := by
  constructor
  · intro entry hentry
    obtain ⟨planned, hplanned, task, htask, rfl⟩ := mem_listedEntries.mp hentry
    have hid : textOf "task_family_id" (detectorEntry manifestSplit task) =
        PyStr.ofString planned.familyId := by
      rw [(textOf_detectorEntry manifestSplit task).2.1, (mem_familyTasks.mp htask).2]
      rfl
    have hown : planned.own (listedEntries table dataset indexes manifestSplit) =
        (familyTasks dataset planned).map (detectorEntry manifestSplit) :=
      own_listedEntries (nodup_planIds hsplit) hplanned
    rw [hid]
    show (planned.own (listedEntries table dataset indexes manifestSplit)).map _ = _
    rw [hown, List.map_map]
    exact List.map_congr_left fun task htask => promptOf_eq (mem_familyTasks.mp htask).1
      (textOf_detectorEntry manifestSplit task).1
  · intro entry hentry category hcategory
    obtain ⟨_, _, task, _, rfl⟩ := mem_listedEntries.mp hentry
    rw [textOf, (getItem_detectorEntry manifestSplit task).2.2.1] at hcategory
    rw [(textOf_detectorEntry manifestSplit task).2.2,
      value_injective (PyStr.ofString_injective hcategory)]

end Listed

/-! ## A table -/

def sampleVariant (prompt : String) : FamilyVariant where
  prompt
  metadata := []
  canonical := ""
  outputType := .text
  threshold := .one

/-- A family of two variants, whose slug is its number. -/
def sampleFamily (i : ℕ) : FamilySpec where
  slug := String.ofList (PaddedDigits.padded 10 2 i)
  complexity := i
  variants := [sampleVariant "First", sampleVariant "Second"]

/-- Sixteen families in every category. -/
def sampleTable : FamilyTable := fun _ => (List.range 16).map sampleFamily

theorem mem_sampleTable {category : TaskCategory} {family : FamilySpec}
    (h : family ∈ sampleTable category) : ∃ i, family = sampleFamily i := by
  obtain ⟨i, _, hi⟩ := List.mem_map.mp h
  exact ⟨i, hi.symm⟩

theorem wellFormed_sampleTable : WellFormed sampleTable where
  length_eq _ := rfl
  slugs _ := by
    rw [sampleTable, List.map_map]
    refine List.Nodup.map_on ?_ List.nodup_range
    intro i hi j hj h
    have hdigits := String.ofList_injective h
    have hi := List.mem_range.mp hi
    have hj := List.mem_range.mp hj
    exact padded_inj (by omega) (by omega) hdigits
  slug_chars _ family hfamily c hc := by
    obtain ⟨i, rfl⟩ := mem_sampleTable hfamily
    rw [sampleFamily, String.toList_ofList] at hc
    exact isIdChar_of_mem_padded hc
  two _ family hfamily := by
    obtain ⟨i, rfl⟩ := mem_sampleTable hfamily
    rfl
  prompts _ family hfamily variant hvariant := by
    obtain ⟨i, rfl⟩ := mem_sampleTable hfamily
    have hall : ∀ v ∈ [sampleVariant "First", sampleVariant "Second"],
        PyStr.strip v.prompt.toList ≠ [] := by decide
    exact hall variant hvariant
  fits _ family hfamily variant hvariant := by
    obtain ⟨i, rfl⟩ := mem_sampleTable hfamily
    intro difficulty h
    have hall : ∀ v ∈ [sampleVariant "First", sampleVariant "Second"], v.canonical = "" := by
      decide
    exact h.1 (hall variant hvariant)

/-- **The projection** of a manifest that names constructed tasks and their families agrees with the
data set exactly where its entries are in the order of the data set. Of such a manifest, another order
permutes the records exactly where it is in the order of the data set too. -/
theorem projection_agrees_iff (table : FamilyTable) (dataset : BenchmarkDataset) (split : String)
    (manifest : List (PyStr × PyJson)) (entries : List PyJson) (records : List DetectorPrompt)
    (hdataset : constructDataset table = .ok dataset)
    (htasks : manifest.lookup (PyStr.ofString "tasks") = some (.list entries))
    (hexport : exportCategoryDetectorPrompts table split manifest = .ok records)
    (hnames : ∀ entry ∈ entries, ∃ task ∈ dataset.tasks, Names entry task) :
    ∃ indexes manifestSplit, categoryDetectorSplits split = some (indexes, manifestSplit) ∧
      (Agrees table dataset manifestSplit entries records ↔ InDatasetOrder dataset entries) ∧
      (InDatasetOrder dataset entries → ∀ manifest' entries',
        manifest'.lookup (PyStr.ofString "tasks") = some (.list entries') → entries'.Perm entries →
        ∃ records', exportCategoryDetectorPrompts table split manifest' = .ok records' ∧
          (records'.Perm records ↔ InDatasetOrder dataset entries')) := by
  cases hsplit : categoryDetectorSplits split with
  | none =>
    rw [exportCategoryDetectorPrompts, hsplit] at hexport
    cases hexport
  | some found =>
    obtain ⟨indexes, manifestSplit⟩ := found
    have hlt := (indexes_of_split hsplit).1
    obtain ⟨haccept, hrecords⟩ := (export_eq_ok hsplit hlt htasks).mp hexport
    refine ⟨indexes, manifestSplit, rfl, ?_, ?_⟩
    · rw [hrecords, haccept.agrees_iff_right hsplit, haccept.right_iff hdataset hnames]
    · intro horder manifest' entries' htasks' hperm
      have haccept' := haccept.of_perm hperm
      have hnames' : ∀ entry ∈ entries', ∃ task ∈ dataset.tasks, Names entry task :=
        fun entry hentry => hnames entry (hperm.mem_iff.mp hentry)
      refine ⟨projected table indexes split entries',
        (export_eq_ok hsplit hlt htasks').mpr ⟨haccept', rfl⟩, ?_⟩
      have hright := (haccept.right_iff hdataset hnames).mpr horder
      rw [hrecords, ← haccept'.right_iff hdataset hnames']
      constructor
      · intro hsame r hr
        exact hright r (hsame.mem_iff.mp hr)
      · intro hright'
        refine perm_of_right (fun r hr => split_of_mem_projected hr)
          (fun r hr => split_of_mem_projected hr) hright hright' ?_
        exact (taskIds_perm (haccept'.perm_records hsplit)).trans
          ((hperm.map _).trans (taskIds_perm (haccept.perm_records hsplit)).symm)

/-- The manifest of a list of entries. -/
def manifestOf (entries : List PyJson) : List (PyStr × PyJson) :=
  [(PyStr.ofString "tasks", .list entries)]

/-- The projection returns on the entries of a plan in any order. -/
theorem export_of_perm (hwell : WellFormed table) (hdataset : constructDataset table = .ok dataset)
    (hsplit : categoryDetectorSplits split = some (indexes, manifestSplit)) {entries : List PyJson}
    (hperm : entries.Perm (listedEntries table dataset indexes manifestSplit)) :
    exportCategoryDetectorPrompts table split (manifestOf entries) =
      .ok (projected table indexes split entries) :=
  (export_eq_ok hsplit (indexes_of_split hsplit).1 rfl).mpr
    ⟨(acceptable_listedEntries hwell hdataset hsplit).of_perm hperm, rfl⟩

/-- The entries of the training split of the sample table agree with its data set. -/
theorem projection_agrees_iff_sample : ∃ dataset entries records manifestSplit,
    constructDataset sampleTable = .ok dataset ∧
    exportCategoryDetectorPrompts sampleTable "train" (manifestOf entries) = .ok records ∧
    Agrees sampleTable dataset manifestSplit entries records := by
  obtain ⟨dataset, hdataset⟩ := constructDataset_ok wellFormed_sampleTable
  have hsplit : categoryDetectorSplits "train" = some (List.range 10, .train) := rfl
  have hexport := export_of_perm wellFormed_sampleTable hdataset hsplit (.refl _)
  obtain ⟨indexes, manifestSplit, hfound, hagrees, -⟩ := projection_agrees_iff sampleTable dataset
    "train" (manifestOf _) _ _ hdataset rfl hexport names_listedEntries
  cases hfound
  exact ⟨dataset, _, _, .train, hdataset, hexport,
    hagrees.mpr (inDatasetOrder_listedEntries hsplit)⟩

/-- Two entries in the reverse order exchange the prompts of their tasks. -/
theorem reversed_entries_disagree : ∃ dataset entries records,
    constructDataset sampleTable = .ok dataset ∧
    (∀ entry ∈ entries, ∃ task ∈ dataset.tasks, Names entry task) ∧
    exportCategoryDetectorPrompts sampleTable "train" (manifestOf entries) = .ok records ∧
    ¬ Agrees sampleTable dataset .train entries records := by
  obtain ⟨dataset, hdataset⟩ := constructDataset_ok wellFormed_sampleTable
  have hsplit : categoryDetectorSplits "train" = some (List.range 10, .train) := rfl
  have haccept := acceptable_listedEntries wellFormed_sampleTable hdataset hsplit
  have hperm := List.reverse_perm (listedEntries sampleTable dataset (List.range 10) .train)
  have hnames : ∀ entry ∈ (listedEntries sampleTable dataset (List.range 10) .train).reverse,
      ∃ task ∈ dataset.tasks, Names entry task :=
    fun entry hentry => names_listedEntries entry (List.mem_reverse.mp hentry)
  refine ⟨dataset, _, _, hdataset, hnames,
    export_of_perm wellFormed_sampleTable hdataset hsplit hperm, ?_⟩
  rw [(haccept.of_perm hperm).agrees_iff_right hsplit,
    (haccept.of_perm hperm).right_iff hdataset hnames]
  intro horder
  have hplanned : (⟨.coding, 0, sampleFamily 0⟩ : PlannedFamily) ∈
      plan sampleTable (List.range 10) := mem_plan.mpr ⟨by decide, rfl⟩
  generalize hp : (⟨.coding, 0, sampleFamily 0⟩ : PlannedFamily) = planned at hplanned
  have hprompts := prompts_of_family hdataset (mem_fullPlan_of_mem_plan hplanned)
  have hlisted : InDatasetOrder dataset
      (listedEntries sampleTable dataset (List.range 10) .train) :=
    inDatasetOrder_listedEntries hsplit
  obtain ⟨entry, hown⟩ : ∃ entry, entry ∈ planned.own
      (listedEntries sampleTable dataset (List.range 10) .train) := by
    refine List.exists_mem_of_length_pos ?_
    rw [(haccept.fits planned hplanned).length_eq, ← hp]
    decide
  obtain ⟨hentry, hid⟩ := mem_own.mp hown
  have hforward := hlisted.prompts entry hentry
  have hbackward := horder.prompts entry (List.mem_reverse.mpr hentry)
  rw [List.filter_reverse, List.map_reverse, hforward, hid, hprompts, ← hp] at hbackward
  have hnot : ([some "First", some "Second"] : List (Option String)).reverse ≠
      [some "First", some "Second"] := by decide
  exact hnot hbackward

end RouteLLM.RoutingBenchmark
