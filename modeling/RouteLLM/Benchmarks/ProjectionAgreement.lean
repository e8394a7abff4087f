import RouteLLM.Benchmarks.DetectorProjection
import RouteLLM.Benchmarks.WellFormedFamilies

/-!
# Agreement of the projection with the data set

A manifest whose entries name constructed tasks and their families is projected to the prompts and the
categories of these tasks exactly where each family is listed in the order of the data set and the
entries show the categories that they carry. Another order of such a manifest permutes the records
exactly where it keeps to the same rule.
-/

namespace RouteLLM.RoutingBenchmark

open Labels

variable {table : FamilyTable} {dataset : BenchmarkDataset} {split : String} {indexes : List ℕ}
  {manifestSplit : BenchmarkSplit} {entries entries' : List PyJson}

/-- The key of a task. -/
def taskKey (task : BenchmarkTask) : PyStr := PyStr.ofString task.taskId.value

/-- The key of the family of a task. -/
def familyKey (task : BenchmarkTask) : Option PyStr :=
  task.taskFamilyId.map fun id => PyStr.ofString id.value

/-- An entry names a task and its family. -/
structure Names (entry : PyJson) (task : BenchmarkTask) : Prop where
  taskId : textOf "task_id" entry = taskKey task
  familyId : familyKey task = some (textOf "task_family_id" entry)

/-- The task of an id. -/
def taskOfId (dataset : BenchmarkDataset) (id : PyStr) : Option BenchmarkTask :=
  dataset.tasks.find? fun task => taskKey task = id

/-- The prompt of the task that an entry names. -/
def promptOf (dataset : BenchmarkDataset) (entry : PyJson) : Option String :=
  (taskOfId dataset (textOf "task_id" entry)).map (·.prompt)

/-- A record has the prompt and the displayed category of the task with its id. -/
def Right (dataset : BenchmarkDataset) (r : DetectorPrompt) : Prop :=
  ∃ task ∈ dataset.tasks, r.taskId = taskKey task ∧ r.prompt = task.prompt ∧
    r.category = .str (PyStr.ofString (displayCategory task.category))

/-- The records agree with the data set: they are right, there is one for each named task, and their
prompts are those of families of the split. -/
structure Agrees (table : FamilyTable) (dataset : BenchmarkDataset) (manifestSplit : BenchmarkSplit)
    (entries : List PyJson) (records : List DetectorPrompt) : Prop where
  right : ∀ r ∈ records, Right dataset r
  once : ∀ task ∈ dataset.tasks, (∃ entry ∈ entries, textOf "task_id" entry = taskKey task) →
    (records.map (·.taskId)).count (taskKey task) = 1
  ownSplit : ∀ r ∈ records, ∃ planned : PlannedFamily,
    (table planned.category)[planned.index]? = some planned.spec ∧
    familySplits[planned.index]? = some manifestSplit ∧
    ∃ variant ∈ planned.spec.variants, r.prompt = variant.prompt

/-- The entries of each family are listed in the order of the data set, up to tasks of one prompt, and
every entry shows the category that it carries. -/
structure InDatasetOrder (dataset : BenchmarkDataset) (entries : List PyJson) : Prop where
  prompts : ∀ entry ∈ entries,
    (entries.filter fun other =>
      textOf "task_family_id" other = textOf "task_family_id" entry).map (promptOf dataset) =
    (dataset.tasks.filter fun task =>
      familyKey task = some (textOf "task_family_id" entry)).map fun task => some task.prompt
  categories : ∀ entry ∈ entries, ∀ category : TaskCategory,
    textOf "internal_category" entry = PyStr.ofString category.value →
    shownCategory entry = .str (PyStr.ofString (displayCategory category))

/-! ## Tasks by id -/

theorem nodup_taskKey (dataset : BenchmarkDataset) : (dataset.tasks.map taskKey).Nodup := by
  have h := dataset.tasks_nodup.map (PyStr.ofString_injective.comp TaskId.value_injective)
  rwa [List.map_map] at h

/-- A task is found by its id. -/
theorem taskOfId_eq {task : BenchmarkTask} (h : task ∈ dataset.tasks) :
    taskOfId dataset (taskKey task) = some task :=
  AssocList.find?_of_nodup (nodup_taskKey dataset) h

theorem promptOf_eq {entry : PyJson} {task : BenchmarkTask} (htask : task ∈ dataset.tasks)
    (h : textOf "task_id" entry = taskKey task) : promptOf dataset entry = some task.prompt := by
  rw [promptOf, h, taskOfId_eq htask]
  rfl

/-- A right record is determined by its id. -/
theorem Right.eq {r : DetectorPrompt} (h : Right dataset r) (hsplit : r.split = split) :
    some r = (taskOfId dataset r.taskId).map fun task =>
      ⟨r.taskId, split, .str (PyStr.ofString (displayCategory task.category)), task.prompt⟩ := by
  obtain ⟨task, htask, hid, hprompt, hcategory⟩ := h
  rw [hid, taskOfId_eq htask, Option.map_some, ← hid, ← hsplit, ← hprompt, ← hcategory]

/-! ## The records of a family -/

/-- Two lists of one length are mapped alike exactly where their pairs are. -/
theorem map_eq_map_iff {α β γ : Type*} {f : α → γ} {g : β → γ} {xs : List α} {ys : List β}
    (hlength : xs.length = ys.length) :
    xs.map f = ys.map g ↔ ∀ pair ∈ xs.zip ys, f pair.1 = g pair.2 := by
  have hforall : xs.map f = ys.map g ↔ List.Forall₂ (fun x y => f x = g y) xs ys := by
    rw [← List.forall₂_eq_eq_eq, List.forall₂_map_left_iff, List.forall₂_map_right_iff]
  rw [hforall, List.forall₂_iff_zip]
  constructor
  · intro h pair hpair
    exact h.2 hpair
  · intro h
    exact ⟨hlength, fun {x y} hxy => h (x, y) hxy⟩

/-- The key of a family is the id that the task has. -/
theorem familyKey_eq_some {task : BenchmarkTask} {id : String} :
    familyKey task = some (PyStr.ofString id) ↔ task.taskFamilyId.map (·.value) = some id := by
  rw [familyKey]
  cases task.taskFamilyId with
  | none => simp
  | some family =>
    rw [Option.map_some, Option.map_some, Option.some.injEq, Option.some.injEq]
    exact PyStr.ofString_injective.eq_iff

/-- The prompts of the tasks of a family are those of its variants. -/
theorem prompts_of_family (h : constructDataset table = .ok dataset) {planned : PlannedFamily}
    (hplanned : planned ∈ fullPlan table) :
    (dataset.tasks.filter fun task =>
      familyKey task = some (PyStr.ofString planned.familyId)).map (fun task => some task.prompt) =
      planned.spec.variants.map fun variant => some variant.prompt := by
  have hrel := tasks_of_family h hplanned
  have hfilter : (dataset.tasks.filter fun task =>
      familyKey task = some (PyStr.ofString planned.familyId)) =
      dataset.tasks.filter fun task => task.taskFamilyId.map (·.value) = some planned.familyId :=
    List.filter_congr fun task _ => decide_eq_decide.mpr familyKey_eq_some
  have hslots : planned.spec.variants.map (fun variant => some variant.prompt) =
      planned.slots.map fun slot => some slot.variant.prompt := by
    rw [PlannedFamily.slots, familySlots, List.map_map]
    have hvariants : planned.spec.variants = planned.spec.variants.zipIdx.map Prod.fst :=
      (List.zipIdx_map_fst 0 _).symm
    conv_lhs => rw [hvariants, List.map_map]
    rfl
  rw [hfilter, hslots, ← List.forall₂_eq_eq_eq, List.forall₂_map_left_iff,
    List.forall₂_map_right_iff]
  exact hrel.flip.imp fun task slot hof => congrArg some hof.prompt

/-- A task of a planned family has its category. -/
theorem category_of_family (h : constructDataset table = .ok dataset) {planned : PlannedFamily}
    (hplanned : planned ∈ fullPlan table) {task : BenchmarkTask} (htask : task ∈ dataset.tasks)
    (hfamily : familyKey task = some (PyStr.ofString planned.familyId)) :
    task.category = planned.category := by
  have hmem : task ∈ dataset.tasks.filter fun task =>
      task.taskFamilyId.map (·.value) = some planned.familyId :=
    List.mem_filter.mpr ⟨htask, decide_eq_true (familyKey_eq_some.mp hfamily)⟩
  obtain ⟨slot, hslot, hof⟩ := (tasks_of_family h hplanned).flip.exists_of_mem hmem
  obtain ⟨v, _, rfl⟩ := List.mem_map.mp hslot
  exact hof.category

theorem mem_fullPlan_of_mem_plan {planned : PlannedFamily} (h : planned ∈ plan table indexes) :
    planned ∈ fullPlan table :=
  mem_fullPlan.mpr (mem_plan.mp h).2

/-- A record of a family comes from an entry and the variant at its position. -/
theorem mem_records {planned : PlannedFamily} {r : DetectorPrompt} :
    r ∈ planned.records split entries ↔
      ∃ pair ∈ (planned.own entries).zip planned.spec.variants, r = record split pair.1 pair.2 := by
  rw [PlannedFamily.records, ← List.map_uncurry_zip_eq_zipWith, List.mem_map]
  constructor
  · intro h
    obtain ⟨pair, hpair, hr⟩ := h
    exact ⟨pair, hpair, hr.symm⟩
  · intro h
    obtain ⟨pair, hpair, hr⟩ := h
    exact ⟨pair, hpair, hr.symm⟩

theorem mem_projected {r : DetectorPrompt} : r ∈ projected table indexes split entries ↔
    ∃ planned ∈ plan table indexes,
      ∃ pair ∈ (planned.own entries).zip planned.spec.variants, r = record split pair.1 pair.2 := by
  rw [projected, List.mem_flatMap]
  simp only [mem_records]

theorem mem_own {planned : PlannedFamily} {entry : PyJson} :
    entry ∈ planned.own entries ↔
      entry ∈ entries ∧ textOf "task_family_id" entry = PyStr.ofString planned.familyId := by
  rw [PlannedFamily.own, List.mem_filter, decide_eq_true_eq]

namespace Acceptable

variable (h : Acceptable table split indexes manifestSplit entries)

include h

/-- The family of an entry is planned. -/
theorem exists_planned {entry : PyJson} (hentry : entry ∈ entries) :
    ∃ planned ∈ plan table indexes, entry ∈ planned.own entries := by
  have hmem := h.planned (List.mem_map_of_mem hentry)
  rw [consumedFamilies_eq] at hmem
  obtain ⟨planned, hplanned, hid⟩ := List.mem_map.mp hmem
  exact ⟨planned, hplanned, mem_own.mpr ⟨hentry, hid.symm⟩⟩

/-- The category that an entry carries is that of its family. -/
theorem textOf_internal {planned : PlannedFamily} (hplanned : planned ∈ plan table indexes)
    {entry : PyJson} (hown : entry ∈ planned.own entries) :
    textOf "internal_category" entry = PyStr.ofString planned.category.value := by
  obtain ⟨value, hget, htext⟩ := ((h.fits planned hplanned).recordable entry hown).internal
  cases value with
  | str s =>
    rw [textOf, hget]
    exact of_decide_eq_true htext
  | null | bool | int | float | list | dict => cases htext

variable (hdataset : constructDataset table = .ok dataset)
  (hnames : ∀ entry ∈ entries, ∃ task ∈ dataset.tasks, Names entry task)

include hdataset hnames

omit h in
/-- The record of an entry is right where the variant has the prompt of its task and the entry shows
the category of its family. -/
theorem right_record_iff {planned : PlannedFamily} (hplanned : planned ∈ plan table indexes)
    {entry : PyJson} (hown : entry ∈ planned.own entries) (variant : FamilyVariant) :
    Right dataset (record split entry variant) ↔
      promptOf dataset entry = some variant.prompt ∧
        shownCategory entry = .str (PyStr.ofString (displayCategory planned.category)) := by
  obtain ⟨hentry, hid⟩ := mem_own.mp hown
  obtain ⟨task, htask, hname⟩ := hnames entry hentry
  have hcategory := category_of_family hdataset (mem_fullPlan_of_mem_plan hplanned) htask
    (hid ▸ hname.familyId)
  rw [promptOf_eq htask hname.taskId, Option.some.injEq, ← hcategory]
  constructor
  · intro hright
    obtain ⟨task', htask', hkey, hprompt, hshown⟩ := hright
    have hsome : some task' = some task := by
      rw [← taskOfId_eq htask', ← taskOfId_eq htask, ← hkey, ← hname.taskId]
      rfl
    rw [Option.some.inj hsome] at hprompt hshown
    exact ⟨hprompt.symm, hshown⟩
  · intro hsame
    exact ⟨task, htask, hname.taskId, hsame.1.symm, hsame.2⟩

omit hnames in
/-- The entries of a family are in order where each meets the variant of its task. -/
theorem prompts_iff {planned : PlannedFamily} (hplanned : planned ∈ plan table indexes) :
    (planned.own entries).map (promptOf dataset) =
      (dataset.tasks.filter fun task =>
        familyKey task = some (PyStr.ofString planned.familyId)).map (fun task => some task.prompt) ↔
      ∀ pair ∈ (planned.own entries).zip planned.spec.variants,
        promptOf dataset pair.1 = some pair.2.prompt := by
  rw [prompts_of_family hdataset (mem_fullPlan_of_mem_plan hplanned)]
  exact map_eq_map_iff (h.fits planned hplanned).length_eq

/-- **The records are right** exactly where the entries are in the order of the data set. -/
theorem right_iff :
    (∀ r ∈ projected table indexes split entries, Right dataset r) ↔
      InDatasetOrder dataset entries := by
  constructor
  · intro hright
    have hpair : ∀ planned ∈ plan table indexes,
        ∀ pair ∈ (planned.own entries).zip planned.spec.variants,
        promptOf dataset pair.1 = some pair.2.prompt ∧
          shownCategory pair.1 = .str (PyStr.ofString (displayCategory planned.category)) := by
      intro planned hplanned pair hmem
      have hrecord := hright _ (mem_projected.mpr ⟨planned, hplanned, pair, hmem, rfl⟩)
      exact (right_record_iff hdataset hnames hplanned (List.of_mem_zip hmem).1 pair.2).mp hrecord
    constructor
    · intro entry hentry
      obtain ⟨planned, hplanned, hown⟩ := h.exists_planned hentry
      rw [(mem_own.mp hown).2]
      exact (h.prompts_iff hdataset hplanned).mpr fun pair hmem =>
        (hpair planned hplanned pair hmem).1
    · intro entry hentry category hcategory
      obtain ⟨planned, hplanned, hown⟩ := h.exists_planned hentry
      have hsame : category = planned.category := by
        rw [h.textOf_internal hplanned hown] at hcategory
        exact (value_injective (PyStr.ofString_injective hcategory)).symm
      obtain ⟨variant, hmem⟩ : ∃ variant, (entry, variant) ∈
          (planned.own entries).zip planned.spec.variants := by
        obtain ⟨n, hn, hget⟩ := List.mem_iff_getElem.mp hown
        have hlength := (h.fits planned hplanned).length_eq
        refine ⟨planned.spec.variants.get ⟨n, hlength ▸ hn⟩, List.mem_iff_getElem.mpr ⟨n, ?_, ?_⟩⟩
        · rw [List.length_zip]
          omega
        · rw [List.getElem_zip, hget]
          rfl
      rw [hsame]
      exact (hpair planned hplanned _ hmem).2
  · intro horder r hr
    obtain ⟨planned, hplanned, pair, hmem, hr⟩ := mem_projected.mp hr
    have hown := (List.of_mem_zip hmem).1
    obtain ⟨hentry, hid⟩ := mem_own.mp hown
    have hprompts := horder.prompts pair.1 hentry
    rw [hid] at hprompts
    rw [hr]
    refine (right_record_iff hdataset hnames hplanned hown pair.2).mpr ⟨?_, ?_⟩
    · exact (h.prompts_iff hdataset hplanned).mp hprompts pair hmem
    · exact horder.categories pair.1 hentry planned.category (h.textOf_internal hplanned hown)

end Acceptable

/-! ## The whole projection -/

/-- The indexes of a split are those that the plan of the families gives it. -/
theorem indexes_of_split (hsplit : categoryDetectorSplits split = some (indexes, manifestSplit)) :
    (∀ i ∈ indexes, i < 99) ∧ ∀ i ∈ indexes, familySplits[i]? = some manifestSplit := by
  unfold categoryDetectorSplits at hsplit
  split_ifs at hsplit
  · cases hsplit
    decide
  · cases hsplit
    decide

namespace Acceptable

variable (h : Acceptable table split indexes manifestSplit entries)
  (hsplit : categoryDetectorSplits split = some (indexes, manifestSplit))

include h hsplit

theorem perm_records :
    ((projected table indexes split entries).map fun r => (r.taskId, r.category)).Perm
      (entries.map fun entry => (textOf "task_id" entry, shownCategory entry)) :=
  projected_perm h.indexes_nodup (indexes_of_split hsplit).1 h.fits h.planned

/-- There is one record for each named task, of a prompt of the split. -/
theorem agrees_iff_right :
    Agrees table dataset manifestSplit entries (projected table indexes split entries) ↔
      ∀ r ∈ projected table indexes split entries, Right dataset r := by
  constructor
  · exact Agrees.right
  · intro hright
    refine ⟨hright, ?_, ?_⟩
    · intro task _ hnamed
      obtain ⟨entry, hentry, hkey⟩ := hnamed
      rw [(taskIds_perm (h.perm_records hsplit)).count_eq, ← hkey]
      exact List.count_eq_one_of_mem h.nodup (List.mem_map_of_mem hentry)
    · intro r hr
      obtain ⟨planned, hplanned, pair, hmem, hr⟩ := mem_projected.mp hr
      obtain ⟨hindex, hspec⟩ := mem_plan.mp hplanned
      refine ⟨planned, hspec, (indexes_of_split hsplit).2 _ hindex, pair.2,
        (List.of_mem_zip hmem).2, ?_⟩
      rw [hr]
      rfl

omit hsplit in
/-- Acceptance does not depend on the order of the entries. -/
theorem of_perm (hperm : entries'.Perm entries) :
    Acceptable table split indexes manifestSplit entries' := by
  have hown : ∀ planned : PlannedFamily, (planned.own entries').Perm (planned.own entries) :=
    fun planned => hperm.filter _
  have hfamilies := hperm.map (textOf "task_family_id")
  exact {
    taskId := fun entry hentry => h.taskId entry (hperm.mem_iff.mp hentry)
    nodup := (hperm.map _).nodup_iff.mpr h.nodup
    split_eq := fun entry hentry => h.split_eq entry (hperm.mem_iff.mp hentry)
    familyId := fun entry hentry => h.familyId entry (hperm.mem_iff.mp hentry)
    indexes_nodup := h.indexes_nodup
    materialized := h.materialized
    fits := fun planned hplanned => {
      length_eq := (hown planned).length_eq.trans (h.fits planned hplanned).length_eq
      recordable := fun entry hentry =>
        (h.fits planned hplanned).recordable entry ((hown planned).mem_iff.mp hentry)
      prompts := (h.fits planned hplanned).prompts }
    consumed := fun id hid => hfamilies.mem_iff.mpr (h.consumed hid)
    planned := fun id hid => h.planned (hfamilies.mem_iff.mp hid)
    hashable := fun entry hentry => h.hashable entry (hperm.mem_iff.mp hentry)
    balance := (counterEq_perm (hperm.map shownKey)).mpr h.balance
    count := hperm.length_eq.trans h.count }

end Acceptable

/-- Right records with the same ids are the same records. -/
theorem perm_of_right {records records' : List DetectorPrompt}
    (hsplit : ∀ r ∈ records, r.split = split) (hsplit' : ∀ r ∈ records', r.split = split)
    (hright : ∀ r ∈ records, Right dataset r) (hright' : ∀ r ∈ records', Right dataset r)
    (hids : (records'.map (·.taskId)).Perm (records.map (·.taskId))) : records'.Perm records := by
  have hsome : ∀ {rs : List DetectorPrompt}, (∀ r ∈ rs, r.split = split) →
      (∀ r ∈ rs, Right dataset r) → rs.map some = (rs.map (·.taskId)).map fun id =>
        (taskOfId dataset id).map fun task => (⟨id, split,
          .str (PyStr.ofString (displayCategory task.category)), task.prompt⟩ : DetectorPrompt) := by
    intro rs hs hr
    rw [List.map_map]
    exact List.map_congr_left fun r hmem => (hr r hmem).eq (hs r hmem)
  have hmapped : (records'.map some).Perm (records.map some) := by
    rw [hsome hsplit hright, hsome hsplit' hright']
    exact hids.map _
  exact (List.map_perm_map_iff (Option.some_injective _)).mp hmapped

theorem split_of_mem_projected {r : DetectorPrompt}
    (h : r ∈ projected table indexes split entries) : r.split = split := by
  obtain ⟨_, _, _, _, hr⟩ := mem_projected.mp h
  rw [hr]
  rfl

end RouteLLM.RoutingBenchmark
