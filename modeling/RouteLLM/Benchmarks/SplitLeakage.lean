import RouteLLM.Benchmarks.SplitManifest
import RouteLLM.Lib.AssocList

/-!
# Leakage across the splits of a manifest

What an accepted manifest guarantees of the tasks that are selected by it. The entries of a manifest
label the tasks, one entry each, so the parts are disjoint and cover the data set. Counts and families
are checked over the labels: of the tasks themselves they hold exactly as far as the labels agree with
them.
-/

namespace RouteLLM.RoutingBenchmark

open Labels

variable {dataset : BenchmarkDataset} {manifest : SplitManifest} {entries : List PyJson}

/-! ## The labels of a task -/

/-- The key under a field of an entry. -/
def value (field : String) (entry : PyJson) : HashKey :=
  (itemKey field entry).toOption.getD .null

/-- The entry of a task. -/
def SplitManifest.entryOf (manifest : SplitManifest) (task : BenchmarkTask) : Option PyJson :=
  (manifest.entries?.getD []).find? fun entry => value "task_id" entry = textKey task.taskId.value

/-- What the entry of a task has under a field. -/
def SplitManifest.label (manifest : SplitManifest) (field : String) (task : BenchmarkTask) :
    Option HashKey :=
  (manifest.entryOf task).map (value field)

theorem textKey_injective : Function.Injective textKey := by
  intro s t h
  exact PyStr.ofString_injective (HashKey.str.inj h)

/-- The keys of the tasks of a data set are distinct. -/
theorem nodup_taskKeys (dataset : BenchmarkDataset) :
    (dataset.tasks.map fun task => textKey task.taskId.value).Nodup := by
  have h := dataset.tasks_nodup.map (textKey_injective.comp TaskId.value_injective)
  rwa [List.map_map] at h

/-! ## What is accepted -/

theorem itemKey_eq_ok {field : String} {entry : PyJson} {key : HashKey}
    (h : itemKey field entry = .ok key) : value field entry = key := by
  rw [value, h]
  rfl

/-- What is read of every entry is what the entries have under the field. -/
theorem mapM_itemKey {field : String} {keys : List HashKey}
    (h : entries.mapM (itemKey field) = .ok keys) :
    keys = entries.map (value field) ∧
      ∀ entry ∈ entries, itemKey field entry = .ok (value field entry) := by
  have hrel := List.mapM_eq_ok.mp h
  clear h
  induction hrel with
  | nil => exact ⟨rfl, fun _ h => nomatch h⟩
  | cons hkey _ ih =>
    obtain ⟨hkeys, hread⟩ := ih
    have hvalue := itemKey_eq_ok hkey
    refine ⟨by rw [hkeys, List.map_cons, hvalue], ?_⟩
    intro entry hentry
    rcases List.mem_cons.mp hentry with heq | hentry
    · rw [heq, hvalue]
      exact hkey
    · exact hread entry hentry

theorem mapM_itemPair {field : String} {keys : List (HashKey × HashKey)}
    (h : entries.mapM (itemPair field) = .ok keys) :
    keys = entries.map fun entry => (value field entry, value "split" entry) := by
  have hrel := List.mapM_eq_ok.mp h
  clear h
  induction hrel with
  | nil => rfl
  | cons hpair _ ih =>
    obtain ⟨key, hkey, hpair⟩ := Except.bind_eq_ok.mp hpair
    obtain ⟨part, hpart, hpair⟩ := Except.bind_eq_ok.mp hpair
    rw [List.map_cons, itemKey_eq_ok hkey, itemKey_eq_ok hpart, ← ih]
    rw [Except.pure_eq_ok.mp hpair]

/-- What the validation has checked of the entries. -/
structure Accepted (dataset : BenchmarkDataset) (manifest : SplitManifest)
    (entries : List PyJson) : Prop where
  entries_eq : manifest.entries? = some entries
  length_eq : entries.length = 224
  ids : (dataset.tasks.map fun task => textKey task.taskId.value) ⊆ entries.map (value "task_id")
  totals : counterEq (entries.map (value "split")) expectedTotals
  perCategory : counterEq (entries.map fun entry =>
    (value "internal_category" entry, value "split" entry)) expectedPerCategory
  families : leaked (entries.map fun entry => (value "task_family_id" entry, value "split" entry)) = []
  taskId_read : ∀ entry ∈ entries, itemKey "task_id" entry = .ok (value "task_id" entry)
  split_read : ∀ entry ∈ entries, itemKey "split" entry = .ok (value "split" entry)

/-- A manifest is accepted with the checks passed. -/
theorem accepted_of_validated (h : validateSplitManifest dataset manifest = .ok ()) :
    ∃ entries, Accepted dataset manifest entries := by
  unfold validateSplitManifest at h
  split at h
  · cases h
  · rename_i entries hentries
    refine ⟨entries, ?_⟩
    obtain ⟨hlength, h⟩ := Except.guard_eq_ok.mp h
    obtain ⟨ids, hids, h⟩ := Except.bind_eq_ok.mp h
    obtain ⟨hsame, h⟩ := Except.guard_eq_ok.mp h
    obtain ⟨totals, htotals, h⟩ := Except.bind_eq_ok.mp h
    obtain ⟨hcounts, h⟩ := Except.guard_eq_ok.mp h
    obtain ⟨perCategory, hperCategory, h⟩ := Except.bind_eq_ok.mp h
    obtain ⟨hbalanced, h⟩ := Except.guard_eq_ok.mp h
    obtain ⟨families, hfamilies, h⟩ := Except.bind_eq_ok.mp h
    obtain ⟨hleaked, -⟩ := Except.guard_eq_ok.mp h
    obtain ⟨hids, htaskId⟩ := mapM_itemKey hids
    obtain ⟨htotals, hsplit⟩ := mapM_itemKey htotals
    have hperCategory := mapM_itemPair hperCategory
    have hfamilies := mapM_itemPair hfamilies
    exact {
      entries_eq := hentries
      length_eq := not_not.mp hlength
      ids := hids ▸ (not_not.mp hsame).2
      totals := htotals ▸ not_not.mp hcounts
      perCategory := hperCategory ▸ not_not.mp hbalanced
      families := hfamilies ▸ not_not.mp hleaked
      taskId_read := htaskId
      split_read := hsplit }

namespace Accepted

variable (h : Accepted dataset manifest entries)

include h

/-- The ids of the entries are those of the tasks in some order. -/
theorem perm_ids (h224 : dataset.tasks.length = 224) :
    (dataset.tasks.map fun task => textKey task.taskId.value).Perm
      (entries.map (value "task_id")) := by
  refine perm_of_subset (nodup_taskKeys dataset) h.ids ?_
  rw [List.length_map, List.length_map, h.length_eq, h224]

/-- An entry is found by its id. -/
theorem entryOf_eq (h224 : dataset.tasks.length = 224) {task : BenchmarkTask} {entry : PyJson}
    (hentry : entry ∈ entries) (hkey : value "task_id" entry = textKey task.taskId.value) :
    manifest.entryOf task = some entry := by
  have hnodup : (entries.map (value "task_id")).Nodup :=
    (h.perm_ids h224).nodup_iff.mp (nodup_taskKeys dataset)
  rw [SplitManifest.entryOf, h.entries_eq, Option.getD_some, ← hkey]
  exact AssocList.find?_of_nodup hnodup hentry

/-- Every task has one entry, and every entry is that of a task. -/
theorem labelled (h224 : dataset.tasks.length = 224) :
    Labelled (fun task entry => manifest.entryOf task = some entry ∧ entry ∈ entries)
      dataset.tasks entries := by
  obtain ⟨ordered, hforall, hrows⟩ :=
    (labelled_of_perm (h.perm_ids h224)).and_right fun _ hentry => hentry
  refine ⟨ordered, hforall.imp ?_, hrows⟩
  intro task entry hkey
  exact ⟨h.entryOf_eq h224 hkey.2 hkey.1, hkey.2⟩

/-- The label of a task is what its entry has. -/
theorem exists_entry (h224 : dataset.tasks.length = 224) {task : BenchmarkTask}
    (htask : task ∈ dataset.tasks) :
    ∃ entry ∈ entries, ∀ field, manifest.label field task = some (value field entry) := by
  obtain ⟨entry, hentry, hof, -⟩ := (h.labelled h224).exists_row htask
  exact ⟨entry, hentry, fun field => by rw [SplitManifest.label, hof]; rfl⟩

/-- Tasks are counted by their labels. -/
theorem countP_label (h224 : dataset.tasks.length = 224) {p : BenchmarkTask → Bool}
    {q : PyJson → Bool}
    (hpq : ∀ task entry, (∀ field, manifest.label field task = some (value field entry)) →
      p task = q entry) :
    dataset.tasks.countP p = entries.countP q := by
  refine (h.labelled h224).countP_eq fun task entry hentry => hpq task entry fun field => ?_
  rw [SplitManifest.label, hentry.1]
  rfl

end Accepted

theorem value_injective_split : Function.Injective fun split : BenchmarkSplit => textKey split.value := by
  intro s t h
  have hvalue : s.value = t.value := textKey_injective h
  cases s <;> cases t <;> first | rfl | simp [BenchmarkSplit.value] at hvalue

theorem value_injective_category : Function.Injective fun c : TaskCategory => textKey c.value := by
  intro c d h
  have hvalue : c.value = d.value := textKey_injective h
  cases c <;> cases d <;> first | rfl | simp [TaskCategory.value] at hvalue

theorem mem_splits (split : BenchmarkSplit) : split ∈ splits := by
  cases split <;> simp [splits]

/-- No family leaks exactly where a family determines its split. -/
theorem leaked_eq_nil_iff {families : List (HashKey × HashKey)} :
    leaked families = [] ↔
      ∀ entry ∈ families, ∀ other ∈ families, entry.1 = other.1 → entry.2 = other.2 := by
  have hmem : ∀ entry ∈ families, ∀ other ∈ families, other.1 = entry.1 →
      other.2 ∈ ((families.filter (·.1 = entry.1)).map Prod.snd).dedup := by
    intro entry _ other hother heq
    rw [List.mem_dedup]
    exact List.mem_map_of_mem (List.mem_filter.mpr ⟨hother, decide_eq_true heq⟩)
  rw [leaked, List.filter_eq_nil_iff]
  constructor
  · intro hone entry hentry other hother heq
    have hlength := hone entry.1 (List.mem_dedup.mpr (List.mem_map_of_mem hentry))
    rw [decide_eq_true_eq, not_not, List.length_eq_one_iff] at hlength
    obtain ⟨part, hpart⟩ := hlength
    have hfirst := hmem entry hentry entry hentry rfl
    have hsecond := hmem entry hentry other hother heq.symm
    rw [hpart, List.mem_singleton] at hfirst hsecond
    exact hfirst.trans hsecond.symm
  · intro hall family hfamily
    obtain ⟨entry, hentry, rfl⟩ := List.mem_map.mp (List.mem_dedup.mp hfamily)
    rw [decide_eq_true_eq, not_not, List.length_eq_one_iff]
    refine ⟨entry.2, List.perm_singleton.mp ?_⟩
    refine (List.perm_ext_iff_of_nodup (List.nodup_dedup _) (List.nodup_singleton _)).mpr ?_
    intro part
    rw [List.mem_singleton]
    constructor
    · intro hpart
      obtain ⟨other, hother, rfl⟩ := List.mem_map.mp (List.mem_dedup.mp hpart)
      obtain ⟨hmem, heq⟩ := List.mem_filter.mp hother
      exact (hall entry hentry other hmem (of_decide_eq_true heq).symm).symm
    · intro hpart
      rw [hpart]
      exact hmem entry hentry entry hentry rfl

namespace Accepted

variable (h : Accepted dataset manifest entries) (h224 : dataset.tasks.length = 224)

include h h224

/-- A task is in one of the splits. -/
theorem exists_split {task : BenchmarkTask} (htask : task ∈ dataset.tasks) :
    ∃ split : BenchmarkSplit, manifest.label "split" task = some (textKey split.value) := by
  obtain ⟨entry, hentry, hlabel⟩ := h.exists_entry h224 htask
  have hmem := h.totals.2 _ (List.mem_map_of_mem hentry)
  simp only [expectedTotals, List.map_cons, List.map_nil, List.mem_cons, List.not_mem_nil,
    or_false] at hmem
  rw [hlabel]
  rcases hmem with hmem | hmem | hmem
  · exact ⟨.train, congrArg some hmem⟩
  · exact ⟨.development, congrArg some hmem⟩
  · exact ⟨.final, congrArg some hmem⟩

/-- As many tasks of a split are entered under a category as the validation requires. -/
theorem countP_entered (split : BenchmarkSplit) (category : TaskCategory) :
    dataset.tasks.countP (fun task =>
      manifest.label "split" task = some (textKey split.value) &&
        manifest.label "internal_category" task = some (textKey category.value)) =
      splitCounts split := by
  have hmem : ((textKey category.value, textKey split.value), splitCounts split) ∈
      expectedPerCategory :=
    List.mem_flatMap.mpr ⟨category, mem_categories category,
      List.mem_map.mpr ⟨split, mem_splits split, rfl⟩⟩
  have hcount : (entries.map fun entry =>
      (value "internal_category" entry, value "split" entry)).countP
        (fun key => decide (key = (textKey category.value, textKey split.value))) =
      splitCounts split := h.perCategory.1 _ hmem
  rw [← hcount, List.countP_map]
  refine h.countP_label h224 fun task entry hlabel => ?_
  rw [hlabel, hlabel, Bool.eq_iff_iff]
  simp only [Bool.and_eq_true, decide_eq_true_eq, Function.comp_apply, Prod.mk.injEq,
    Option.some.injEq]
  exact and_comm

/-- Tasks that are entered under one family are in one split. -/
theorem split_of_entered_family {task task' : BenchmarkTask} (htask : task ∈ dataset.tasks)
    (htask' : task' ∈ dataset.tasks)
    (hfamily : manifest.label "task_family_id" task = manifest.label "task_family_id" task') :
    manifest.label "split" task = manifest.label "split" task' := by
  obtain ⟨entry, hentry, hlabel⟩ := h.exists_entry h224 htask
  obtain ⟨entry', hentry', hlabel'⟩ := h.exists_entry h224 htask'
  rw [hlabel, hlabel', Option.some.injEq] at hfamily ⊢
  exact leaked_eq_nil_iff.mp h.families _ (List.mem_map_of_mem hentry) _
    (List.mem_map_of_mem hentry') hfamily

end Accepted

/-! ## The selection -/

/-- The tasks whose entries are in a split. -/
def splitPart (dataset : BenchmarkDataset) (manifest : SplitManifest) (split : BenchmarkSplit) :
    List BenchmarkTask :=
  dataset.tasks.filter fun task => manifest.label "split" task = some (textKey split.value)

/-- The ids of the entries in a split are read. -/
theorem selectedIds_eq {split : BenchmarkSplit}
    (hid : ∀ entry ∈ entries, itemKey "task_id" entry = .ok (value "task_id" entry))
    (hsplit : ∀ entry ∈ entries, itemKey "split" entry = .ok (value "split" entry)) :
    selectedIds split entries = .ok ((entries.filter fun entry =>
      value "split" entry = textKey split.value).map (value "task_id")) := by
  induction entries with
  | nil => rfl
  | cons entry entries ih =>
    have hrest := ih (fun other hother => hid other (List.mem_cons_of_mem _ hother))
      (fun other hother => hsplit other (List.mem_cons_of_mem _ hother))
    have hentry := hsplit entry List.mem_cons_self
    obtain ⟨read, hread, hkey⟩ := Except.bind_eq_ok.mp hentry
    have hhash : read.hashKey? = some (value "split" entry) := by
      cases hhash : read.hashKey? with
      | none =>
        rw [hhash] at hkey
        cases hkey
      | some key =>
        rw [hhash] at hkey
        exact congrArg some (Except.ok.inj hkey)
    rw [selectedIds, hread, Except.ok_bind, hrest, hid entry List.mem_cons_self]
    by_cases hin : value "split" entry = textKey split.value
    · have htext : read.isText (PyStr.ofString split.value) = true :=
        PyJson.isText_iff.mpr (hhash.trans (congrArg some hin))
      rw [if_pos htext, List.filter_cons, if_pos (decide_eq_true hin)]
      rfl
    · have htext : ¬ read.isText (PyStr.ofString split.value) = true := by
        intro htext
        exact hin (Option.some.inj (hhash.symm.trans (PyJson.isText_iff.mp htext)))
      rw [if_neg htext, List.filter_cons, if_neg (by simpa using hin)]

/-- The selected tasks are those whose entries are in the split. -/
theorem Accepted.selectTasks_eq (h : Accepted dataset manifest entries)
    (h224 : dataset.tasks.length = 224) (split : BenchmarkSplit) :
    selectTasks dataset manifest split = .ok (splitPart dataset manifest split) := by
  have hlookup : manifest.lookup (PyStr.ofString "entries") = some (.list entries) := by
    have heq := h.entries_eq
    unfold SplitManifest.entries? at heq
    split at heq
    · rename_i found hfound
      rw [hfound, Option.some.inj heq]
    · cases heq
  rw [selectTasks, item, hlookup, Except.ok_bind]
  simp only [selectedIds_eq h.taskId_read h.split_read, Except.ok_bind]
  refine congrArg Except.ok (List.filter_congr fun task htask => ?_)
  obtain ⟨entry, hrow, hof, hentry⟩ := (h.labelled h224).exists_row htask
  have hlabel : ∀ field, manifest.label field task = some (value field entry) := by
    intro field
    rw [SplitManifest.label, hof]
    rfl
  rw [hlabel, decide_eq_decide, Option.some.injEq, List.mem_map]
  constructor
  · rintro ⟨other, hother, hkey⟩
    obtain ⟨hmem, hin⟩ := List.mem_filter.mp hother
    have hfound := h.entryOf_eq h224 hmem hkey
    rw [hof, Option.some.injEq] at hfound
    rw [hfound]
    exact of_decide_eq_true hin
  · intro hin
    refine ⟨entry, List.mem_filter.mpr ⟨hentry, decide_eq_true hin⟩, ?_⟩
    have hkey := List.find?_some hof
    exact of_decide_eq_true hkey

/-- A selected data set has the tasks of its part. -/
theorem Accepted.tasks_of_selected (h : Accepted dataset manifest entries)
    (h224 : dataset.tasks.length = 224) {content : DumpedContent} {split : BenchmarkSplit}
    {allowFinalEvaluation : Bool} {predictorSha256 policySha256 : Option String}
    {selected : BenchmarkDataset}
    (hselected : selectExecutionDataset content dataset manifest split allowFinalEvaluation
      predictorSha256 policySha256 = .ok selected) :
    selected.tasks = splitPart dataset manifest split := by
  obtain ⟨_, _, hselected⟩ := Except.bind_eq_ok.mp hselected
  obtain ⟨_, _, hselected⟩ := Except.bind_eq_ok.mp hselected
  obtain ⟨_, hselected⟩ := Except.guard_eq_ok.mp hselected
  obtain ⟨_, hselected⟩ := Except.guard_eq_ok.mp hselected
  rw [h.selectTasks_eq h224] at hselected
  simp only [Except.ok_bind] at hselected
  split at hselected
  · cases hselected
  · split at hselected
    · cases hselected
      rfl
    · cases hselected

/-! ## Leakage -/

/-- What the parts of a data set promise to an evaluation: they share no task and leave none out, each
has its count of every category, and no family is in two of them. -/
structure CleanSplits (dataset : BenchmarkDataset)
    (parts : BenchmarkSplit → List BenchmarkTask) : Prop where
  disjoint : Pairwise fun split split' => List.Disjoint (parts split) (parts split')
  covers : ∀ task, task ∈ dataset.tasks ↔ ∃ split, task ∈ parts split
  categories : ∀ split category,
    (parts split).countP (·.category = category) = splitCounts split
  families : ∀ split split', ∀ task ∈ parts split, ∀ task' ∈ parts split',
    task.taskFamilyId = task'.taskFamilyId → split = split'

/-- The tasks that are entered in a split under a category that is not theirs. -/
def wronglyEntered (dataset : BenchmarkDataset) (manifest : SplitManifest) (split : BenchmarkSplit)
    (category : TaskCategory) : ℕ :=
  dataset.tasks.countP fun task => manifest.label "split" task = some (textKey split.value) &&
    (task.category ≠ category &&
      manifest.label "internal_category" task = some (textKey category.value))

/-- The tasks of a category that are entered in a split under another. -/
def wronglyMissing (dataset : BenchmarkDataset) (manifest : SplitManifest) (split : BenchmarkSplit)
    (category : TaskCategory) : ℕ :=
  dataset.tasks.countP fun task => manifest.label "split" task = some (textKey split.value) &&
    (task.category = category &&
      manifest.label "internal_category" task ≠ some (textKey category.value))

/-- The entries that do not have the category or the family of their task do no harm: in every split
the wrong categories cancel out, and a family that is entered under several names is in one split. -/
structure LabelsBalanced (dataset : BenchmarkDataset) (manifest : SplitManifest) : Prop where
  categories : ∀ split category,
    wronglyMissing dataset manifest split category = wronglyEntered dataset manifest split category
  families : ∀ task ∈ dataset.tasks, ∀ task' ∈ dataset.tasks,
    task.taskFamilyId = task'.taskFamilyId →
    manifest.label "task_family_id" task ≠ manifest.label "task_family_id" task' →
    manifest.label "split" task = manifest.label "split" task'

theorem mem_splitPart {split : BenchmarkSplit} {task : BenchmarkTask} :
    task ∈ splitPart dataset manifest split ↔
      task ∈ dataset.tasks ∧ manifest.label "split" task = some (textKey split.value) := by
  rw [splitPart, List.mem_filter, decide_eq_true_eq]

/-- A task is entered in one split only. -/
theorem split_unique {split split' : BenchmarkSplit} {task : BenchmarkTask}
    (h : manifest.label "split" task = some (textKey split.value))
    (h' : manifest.label "split" task = some (textKey split'.value)) : split = split' :=
  value_injective_split (Option.some.inj (h.symm.trans h'))

namespace Accepted

variable (h : Accepted dataset manifest entries) (h224 : dataset.tasks.length = 224)

include h h224

/-- The counts of a category are right exactly where the wrong categories cancel out. -/
theorem countP_category_iff (split : BenchmarkSplit) (category : TaskCategory) :
    (splitPart dataset manifest split).countP (·.category = category) = splitCounts split ↔
      wronglyMissing dataset manifest split category =
        wronglyEntered dataset manifest split category := by
  have hentered := h.countP_entered h224 split category
  have hsum := countP_add_countP (fun task : BenchmarkTask => decide (task.category = category))
    (fun task => decide
      (manifest.label "internal_category" task = some (textKey category.value)))
    (splitPart dataset manifest split)
  have hin : (splitPart dataset manifest split).countP (fun task => decide
      (manifest.label "internal_category" task = some (textKey category.value))) =
      splitCounts split := by
    rw [← hentered, splitPart, List.countP_filter]
    exact List.countP_congr fun task _ => by rw [Bool.and_comm]
  have hmissing : (splitPart dataset manifest split).countP (fun task =>
      decide (task.category = category) && !decide
        (manifest.label "internal_category" task = some (textKey category.value))) =
      wronglyMissing dataset manifest split category := by
    rw [wronglyMissing, splitPart, List.countP_filter]
    exact List.countP_congr fun task _ => by rw [Bool.and_comm, decide_not]
  have hwrong : (splitPart dataset manifest split).countP (fun task =>
      !decide (task.category = category) && decide
        (manifest.label "internal_category" task = some (textKey category.value))) =
      wronglyEntered dataset manifest split category := by
    rw [wronglyEntered, splitPart, List.countP_filter]
    exact List.countP_congr fun task _ => by rw [Bool.and_comm, decide_not]
  omega

/-- No family is in two parts exactly where those entered under several names are in one split. -/
theorem families_iff :
    (∀ split split', ∀ task ∈ splitPart dataset manifest split,
      ∀ task' ∈ splitPart dataset manifest split',
        task.taskFamilyId = task'.taskFamilyId → split = split') ↔
      ∀ task ∈ dataset.tasks, ∀ task' ∈ dataset.tasks, task.taskFamilyId = task'.taskFamilyId →
        manifest.label "task_family_id" task ≠ manifest.label "task_family_id" task' →
        manifest.label "split" task = manifest.label "split" task' := by
  constructor
  · intro hfamilies task htask task' htask' hfamily _
    obtain ⟨split, hsplit⟩ := h.exists_split h224 htask
    obtain ⟨split', hsplit'⟩ := h.exists_split h224 htask'
    rw [hsplit, hsplit', hfamilies split split' task (mem_splitPart.mpr ⟨htask, hsplit⟩) task'
      (mem_splitPart.mpr ⟨htask', hsplit'⟩) hfamily]
  · intro hnamed split split' task hpart task' hpart' hfamily
    obtain ⟨htask, hsplit⟩ := mem_splitPart.mp hpart
    obtain ⟨htask', hsplit'⟩ := mem_splitPart.mp hpart'
    have hsame : manifest.label "split" task = manifest.label "split" task' := by
      by_cases hname : manifest.label "task_family_id" task = manifest.label "task_family_id" task'
      · exact h.split_of_entered_family h224 htask htask' hname
      · exact hnamed task htask task' htask' hfamily hname
    exact split_unique hsplit (hsame.trans hsplit')

/-- The parts are clean exactly where the labels balance. -/
theorem clean_iff :
    CleanSplits dataset (splitPart dataset manifest) ↔ LabelsBalanced dataset manifest := by
  constructor
  · intro hclean
    exact ⟨fun split category => (h.countP_category_iff h224 split category).mp
      (hclean.categories split category), (h.families_iff h224).mp hclean.families⟩
  · intro hbalanced
    refine ⟨?_, ?_, ?_, (h.families_iff h224).mpr hbalanced.families⟩
    · intro split split' hne task hpart hpart'
      exact hne (split_unique (mem_splitPart.mp hpart).2 (mem_splitPart.mp hpart').2)
    · intro task
      constructor
      · intro htask
        obtain ⟨split, hsplit⟩ := h.exists_split h224 htask
        exact ⟨split, mem_splitPart.mpr ⟨htask, hsplit⟩⟩
      · intro hpart
        obtain ⟨split, hpart⟩ := hpart
        exact (mem_splitPart.mp hpart).1
    · intro split category
      exact (h.countP_category_iff h224 split category).mpr (hbalanced.categories split category)

end Accepted

/-- Entries that have the category and the family of their tasks balance. -/
theorem labelsBalanced_of_own (familyKey : Option TaskId → HashKey)
    (hcategory : ∀ task ∈ dataset.tasks,
      manifest.label "internal_category" task = some (textKey task.category.value))
    (hfamily : ∀ task ∈ dataset.tasks,
      manifest.label "task_family_id" task = some (familyKey task.taskFamilyId)) :
    LabelsBalanced dataset manifest := by
  constructor
  · intro split category
    have hmissing : wronglyMissing dataset manifest split category = 0 := by
      refine List.countP_eq_zero.mpr fun task htask => ?_
      rw [hcategory task htask]
      simp only [Bool.and_eq_true, decide_eq_true_eq, not_and, not_not]
      intro _ hown
      rw [hown]
    have hentered : wronglyEntered dataset manifest split category = 0 := by
      refine List.countP_eq_zero.mpr fun task htask => ?_
      rw [hcategory task htask]
      simp only [Bool.and_eq_true, decide_eq_true_eq, not_and]
      intro _ hne heq
      exact hne (value_injective_category (Option.some.inj heq))
    rw [hmissing, hentered]
  · intro task htask task' htask' hsame hne
    refine absurd ?_ hne
    rw [hfamily task htask, hfamily task' htask', hsame]

/-- **No leakage**: the parts that an accepted manifest selects from a data set of 224 tasks are clean
exactly where the labels of its entries balance against the categories and families of the tasks. -/
theorem selected_clean_iff (dataset : BenchmarkDataset) (manifest : SplitManifest)
    (h224 : dataset.tasks.length = 224) (h : validateSplitManifest dataset manifest = .ok ()) :
    ∃ parts : BenchmarkSplit → List BenchmarkTask,
      (∀ split, selectTasks dataset manifest split = .ok (parts split)) ∧
      (∀ content split allowFinalEvaluation predictorSha256 policySha256 selected,
        selectExecutionDataset content dataset manifest split allowFinalEvaluation predictorSha256
          policySha256 = .ok selected → selected.tasks = parts split) ∧
      (CleanSplits dataset parts ↔ LabelsBalanced dataset manifest) := by
  obtain ⟨entries, haccepted⟩ := accepted_of_validated h
  refine ⟨splitPart dataset manifest, haccepted.selectTasks_eq h224, ?_, haccepted.clean_iff h224⟩
  intro content split allowFinalEvaluation predictorSha256 policySha256 selected hselected
  exact haccepted.tasks_of_selected h224 hselected

/-- What a written entry has of its task. -/
theorem itemKey_splitEntry {task : BenchmarkTask} {entry : PyJson} (h : splitEntry task = .ok entry) :
    itemKey "task_id" entry = .ok (textKey task.taskId.value) ∧
    itemKey "internal_category" entry = .ok (textKey task.category.value) ∧
    itemKey "task_family_id" entry =
      .ok ((task.taskFamilyId.map fun id => textKey id.value).getD .null) := by
  obtain ⟨_, _, h⟩ := Except.bind_eq_ok.mp h
  obtain ⟨_, _, h⟩ := Except.bind_eq_ok.mp h
  cases h
  refine ⟨rfl, rfl, ?_⟩
  cases task.taskFamilyId with
  | none => rfl
  | some id => rfl

/-- The manifest that is built for a data set selects clean parts where it is accepted. -/
theorem built_manifest_clean (h224 : dataset.tasks.length = 224)
    (hbuild : buildSplitManifest dataset = .ok manifest)
    (h : validateSplitManifest dataset manifest = .ok ()) :
    CleanSplits dataset (splitPart dataset manifest) := by
  obtain ⟨entries, haccepted⟩ := accepted_of_validated h
  obtain ⟨built, hmap, hmanifest⟩ := Except.bind_eq_ok.mp hbuild
  have hentries : built = entries := by
    have heq := haccepted.entries_eq
    rw [← Except.pure_eq_ok.mp hmanifest] at heq
    exact Option.some.inj heq
  have hlabel : ∀ task ∈ dataset.tasks, ∃ entry, splitEntry task = .ok entry ∧
      ∀ field, manifest.label field task = some (value field entry) := by
    intro task htask
    obtain ⟨entry, hentry, hwritten⟩ := (List.mapM_eq_ok.mp hmap).exists_of_mem htask
    refine ⟨entry, hwritten, fun field => ?_⟩
    rw [SplitManifest.label, haccepted.entryOf_eq h224 (hentries ▸ hentry)
      (itemKey_eq_ok (itemKey_splitEntry hwritten).1)]
    rfl
  refine (haccepted.clean_iff h224).mpr (labelsBalanced_of_own
    (fun family => (family.map fun id => textKey id.value).getD .null) ?_ ?_)
  · intro task htask
    obtain ⟨entry, hwritten, hlabel⟩ := hlabel task htask
    rw [hlabel, itemKey_eq_ok (itemKey_splitEntry hwritten).2.1]
  · intro task htask
    obtain ⟨entry, hwritten, hlabel⟩ := hlabel task htask
    rw [hlabel, itemKey_eq_ok (itemKey_splitEntry hwritten).2.2]

/-! ## Exchanged ids -/

/-- The last decimal digit. -/
def digit (n : ℕ) : Char := Char.ofNat (48 + n % 10)

theorem digit_isDigit (n : ℕ) : (digit n).isDigit = true := by
  have h : ∀ k < 10, (Char.ofNat (48 + k)).isDigit = true := by decide
  exact h _ (Nat.mod_lt n (by decide))

theorem digit_inj {m n : ℕ} (h : digit m = digit n) : m % 10 = n % 10 := by
  have hall : ∀ j < 10, ∀ k < 10, Char.ofNat (48 + j) = Char.ofNat (48 + k) → j = k := by decide
  exact hall _ (Nat.mod_lt m (by decide)) _ (Nat.mod_lt n (by decide)) h

/-- The text of a number below a thousand, after a letter. -/
theorem sampleId_pattern (n : ℕ) :
    isTaskId (String.ofList ['t', digit (n / 100), digit (n / 10), digit n]).toList = true := by
  rw [String.toList_ofList]
  simp [isTaskId, digit_isDigit]

/-- The id of a sample task or family. -/
def sampleId (n : ℕ) : TaskId where
  value := String.ofList ['t', digit (n / 100), digit (n / 10), digit n]
  pattern := sampleId_pattern n

theorem sampleId_inj {m n : ℕ} (hm : m < 1000) (hn : n < 1000)
    (h : (sampleId m).value = (sampleId n).value) : m = n := by
  have hchars := String.ofList_injective h
  simp only [List.cons.injEq, and_true, true_and] at hchars
  obtain ⟨hhundreds, htens, hunits⟩ := hchars
  have hhundreds := digit_inj hhundreds
  have htens := digit_inj htens
  have hunits := digit_inj hunits
  omega

/-- Thirty-two tasks of a category stand together, the two of a family next to each other. -/
def sampleCategory (i : ℕ) : TaskCategory := categories.getD (i / 32) .qa

def sampleSplit (i : ℕ) : BenchmarkSplit :=
  if i % 32 < 20 then .train else if i % 32 < 26 then .development else .final

def sampleTask (i : ℕ) : BenchmarkTask where
  toInferenceRequest := .sample
  taskId := sampleId i
  category := sampleCategory i
  taskFamilyId := some (sampleId (i / 2))

theorem sampleTasks_nonempty : (List.range 224).map sampleTask ≠ [] := by simp

theorem sampleTasks_nodup : (((List.range 224).map sampleTask).map (·.taskId)).Nodup := by
  rw [List.map_map]
  refine List.Nodup.map_on ?_ List.nodup_range
  intro i hi j hj h
  have hi := List.mem_range.mp hi
  have hj := List.mem_range.mp hj
  exact sampleId_inj (by omega) (by omega) (congrArg TaskId.value h)

/-- A data set of the shape of the benchmark. -/
def sampleBenchmark : BenchmarkDataset where
  name := benchmarkName
  version := benchmarkVersion
  tasks := (List.range 224).map sampleTask
  name_nonempty := benchmarkName_nonempty
  version_nonempty := benchmarkVersion_nonempty
  tasks_nonempty := sampleTasks_nonempty
  tasks_nodup := sampleTasks_nodup

/-- Exchanges a task of the first family with one of the eleventh. -/
def exchange (i : ℕ) : ℕ := if i = 1 then 21 else if i = 21 then 1 else i

/-- The entry of a task, under the id that it gets. -/
def sampleEntry (rename : ℕ → ℕ) (i : ℕ) : PyJson := .dict
  [(PyStr.ofString "task_id", .str (PyStr.ofString (sampleId (rename i)).value)),
   (PyStr.ofString "internal_category", .str (PyStr.ofString (sampleCategory i).value)),
   (PyStr.ofString "task_family_id", .str (PyStr.ofString (sampleId (i / 2)).value)),
   (PyStr.ofString "split", .str (PyStr.ofString (sampleSplit i).value))]

/-- The manifest of the sample tasks under the ids that they get. -/
def sampleManifest (rename : ℕ → ℕ) : SplitManifest :=
  [(PyStr.ofString "outcome_features_used", .bool false),
   (PyStr.ofString "entries", .list ((List.range 224).map (sampleEntry rename)))]

theorem itemKey_sampleEntry (rename : ℕ → ℕ) (i : ℕ) :
    itemKey "task_id" (sampleEntry rename i) = .ok (textKey (sampleId (rename i)).value) ∧
    itemKey "internal_category" (sampleEntry rename i) = .ok (textKey (sampleCategory i).value) ∧
    itemKey "task_family_id" (sampleEntry rename i) = .ok (textKey (sampleId (i / 2)).value) ∧
    itemKey "split" (sampleEntry rename i) = .ok (textKey (sampleSplit i).value) :=
  ⟨rfl, rfl, rfl, rfl⟩

/-- The totals of the sample splits. -/
theorem totals_sample :
    counterEq ((List.range 224).map fun i => textKey (sampleSplit i).value) expectedTotals := by
  have h : counterEq ((List.range 224).map sampleSplit)
      [(.train, 140), (.development, 42), (.final, 42)] := by decide +kernel
  have hkeys := (counterEq_map value_injective_split).mpr h
  rwa [List.map_map] at hkeys

/-- The categories of the sample splits. -/
theorem perCategory_sample :
    counterEq ((List.range 224).map fun i =>
      (textKey (sampleCategory i).value, textKey (sampleSplit i).value)) expectedPerCategory := by
  have h : counterEq ((List.range 224).map fun i => (sampleCategory i, sampleSplit i))
      (categories.flatMap fun category =>
        splits.map fun split => ((category, split), splitCounts split)) := by decide +kernel
  have hkeys := (counterEq_map (value_injective_category.prodMap value_injective_split)).mpr h
  rwa [List.map_map, List.map_flatMap] at hkeys

/-- The families of the sample tasks are in one split each. -/
theorem families_sample :
    leaked ((List.range 224).map fun i =>
      (textKey (sampleId (i / 2)).value, textKey (sampleSplit i).value)) = [] := by
  refine leaked_eq_nil_iff.mpr ?_
  intro entry hentry other hother h
  obtain ⟨i, hi, rfl⟩ := List.mem_map.mp hentry
  obtain ⟨j, hj, rfl⟩ := List.mem_map.mp hother
  have hi := List.mem_range.mp hi
  have hj := List.mem_range.mp hj
  have hfamily : i / 2 = j / 2 := sampleId_inj (by omega) (by omega) (textKey_injective h)
  have hsplit : sampleSplit i = sampleSplit j := by
    unfold sampleSplit
    split_ifs <;> first | rfl | omega
  exact congrArg (fun split : BenchmarkSplit => textKey split.value) hsplit

theorem mapM_sampleEntry {α : Type} {rename : ℕ → ℕ} {f : PyJson → Except Exc α} {g : ℕ → α}
    (h : ∀ i, f (sampleEntry rename i) = .ok (g i)) :
    ((List.range 224).map (sampleEntry rename)).mapM f = .ok ((List.range 224).map g) := by
  rw [List.mapM_eq_ok, List.forall₂_map_left_iff, List.forall₂_map_right_iff]
  exact List.forall₂_same.mpr fun i _ => h i

/-- The sample manifest is accepted under any exchange of the ids. -/
theorem validate_sampleManifest {rename : ℕ → ℕ}
    (hrename : ∀ i < 224, rename i < 224 ∧ rename (rename i) = i) :
    validateSplitManifest sampleBenchmark (sampleManifest rename) = .ok () := by
  have hread := itemKey_sampleEntry rename
  have hids := mapM_sampleEntry fun i => (hread i).1
  have htotals := mapM_sampleEntry fun i => (hread i).2.2.2
  have hperCategory := mapM_sampleEntry (f := itemPair "internal_category") fun i => by
    rw [itemPair, (hread i).2.1, (hread i).2.2.2]
    rfl
  have hfamilies := mapM_sampleEntry (f := itemPair "task_family_id") fun i => by
    rw [itemPair, (hread i).2.2.1, (hread i).2.2.2]
    rfl
  have hsame : ((List.range 224).map fun i => textKey (sampleId (rename i)).value) ⊆
      sampleBenchmark.tasks.map (fun task => textKey task.taskId.value) ∧
      sampleBenchmark.tasks.map (fun task => textKey task.taskId.value) ⊆
        (List.range 224).map fun i => textKey (sampleId (rename i)).value := by
    rw [show sampleBenchmark.tasks = (List.range 224).map sampleTask from rfl, List.map_map]
    constructor
    · intro key hkey
      obtain ⟨i, hi, rfl⟩ := List.mem_map.mp hkey
      have hi := (hrename i (List.mem_range.mp hi)).1
      exact List.mem_map.mpr ⟨rename i, List.mem_range.mpr hi, rfl⟩
    · intro key hkey
      obtain ⟨i, hi, rfl⟩ := List.mem_map.mp hkey
      obtain ⟨hlt, hback⟩ := hrename i (List.mem_range.mp hi)
      refine List.mem_map.mpr ⟨rename i, List.mem_range.mpr hlt, ?_⟩
      rw [hback]
      rfl
  have hentries : (sampleManifest rename).entries? =
      some ((List.range 224).map (sampleEntry rename)) := rfl
  rw [validateSplitManifest, hentries]
  dsimp only
  rw [if_neg (by simp), hids]
  dsimp only [bind, Except.bind]
  rw [if_neg (not_not.mpr hsame), htotals]
  dsimp only [bind, Except.bind]
  rw [if_neg (not_not.mpr totals_sample), hperCategory]
  dsimp only [bind, Except.bind]
  rw [if_neg (not_not.mpr perCategory_sample), hfamilies]
  dsimp only [bind, Except.bind]
  rw [if_neg (not_not.mpr families_sample)]
  rfl

theorem length_sampleBenchmark : sampleBenchmark.tasks.length = 224 := by
  rw [sampleBenchmark, List.length_map, List.length_range]

/-- The labels of a sample task are those of the entry that got its id. -/
theorem label_sample {rename : ℕ → ℕ} (hrename : ∀ i < 224, rename i < 224 ∧ rename (rename i) = i)
    {i : ℕ} (hi : i < 224) (field : String) :
    (sampleManifest rename).label field (sampleTask i) =
      some (value field (sampleEntry rename (rename i))) := by
  obtain ⟨entries, haccepted⟩ := accepted_of_validated (validate_sampleManifest hrename)
  obtain ⟨hlt, hback⟩ := hrename i hi
  have hentries : entries = (List.range 224).map (sampleEntry rename) :=
    (Option.some.inj haccepted.entries_eq).symm
  have hmem : sampleEntry rename (rename i) ∈ entries := by
    rw [hentries]
    exact List.mem_map_of_mem (List.mem_range.mpr hlt)
  have hkey : value "task_id" (sampleEntry rename (rename i)) =
      textKey (sampleTask i).taskId.value := by
    rw [itemKey_eq_ok (itemKey_sampleEntry rename (rename i)).1, hback]
    rfl
  rw [SplitManifest.label, haccepted.entryOf_eq length_sampleBenchmark hmem hkey]
  rfl

/-- The sample manifest under its own ids is clean. -/
theorem selected_clean_iff_sample :
    ∃ parts : BenchmarkSplit → List BenchmarkTask,
      (∀ split, selectTasks sampleBenchmark (sampleManifest id) split = .ok (parts split)) ∧
      CleanSplits sampleBenchmark parts := by
  have hrename : ∀ i < 224, id i < 224 ∧ id (id i) = i := fun i hi => ⟨hi, rfl⟩
  obtain ⟨parts, hparts, -, hiff⟩ := selected_clean_iff sampleBenchmark (sampleManifest id)
    length_sampleBenchmark (validate_sampleManifest hrename)
  refine ⟨parts, hparts, hiff.mpr (labelsBalanced_of_own (fun family =>
    textKey ((family.map (·.value)).getD "")) ?_ ?_)⟩
  · intro task htask
    obtain ⟨i, hi, rfl⟩ := List.mem_map.mp htask
    rw [label_sample hrename (List.mem_range.mp hi),
      itemKey_eq_ok (itemKey_sampleEntry id (id i)).2.1]
    rfl
  · intro task htask
    obtain ⟨i, hi, rfl⟩ := List.mem_map.mp htask
    rw [label_sample hrename (List.mem_range.mp hi),
      itemKey_eq_ok (itemKey_sampleEntry id (id i)).2.2.1]
    rfl

/-- With the ids of two entries exchanged the manifest is accepted, and a family of the data set has
one task to train on and one to develop with. -/
theorem exchanged_ids_leak :
    ∃ parts : BenchmarkSplit → List BenchmarkTask,
      sampleBenchmark.tasks.length = 224 ∧
      validateSplitManifest sampleBenchmark (sampleManifest exchange) = .ok () ∧
      (∀ split, selectTasks sampleBenchmark (sampleManifest exchange) split = .ok (parts split)) ∧
      sampleTask 0 ∈ parts .train ∧ sampleTask 1 ∈ parts .development ∧
      (sampleTask 0).taskFamilyId = (sampleTask 1).taskFamilyId ∧
      ¬ CleanSplits sampleBenchmark parts := by
  have hrename : ∀ i < 224, exchange i < 224 ∧ exchange (exchange i) = i := by
    intro i hi
    unfold exchange
    split_ifs <;> omega
  have hvalid := validate_sampleManifest hrename
  obtain ⟨entries, haccepted⟩ := accepted_of_validated hvalid
  have hpart : ∀ {i : ℕ} {split : BenchmarkSplit}, i < 224 → sampleSplit (exchange i) = split →
      sampleTask i ∈ splitPart sampleBenchmark (sampleManifest exchange) split := by
    intro i split hi hsplit
    refine mem_splitPart.mpr ⟨List.mem_map_of_mem (List.mem_range.mpr hi), ?_⟩
    rw [label_sample hrename hi, itemKey_eq_ok (itemKey_sampleEntry exchange (exchange i)).2.2.2,
      hsplit]
  have htrain : sampleTask 0 ∈ splitPart sampleBenchmark (sampleManifest exchange) .train :=
    hpart (by decide) (by decide)
  have hdevelopment :
      sampleTask 1 ∈ splitPart sampleBenchmark (sampleManifest exchange) .development :=
    hpart (by decide) (by decide)
  refine ⟨_, length_sampleBenchmark, hvalid, haccepted.selectTasks_eq length_sampleBenchmark, htrain,
    hdevelopment, rfl, ?_⟩
  intro hclean
  cases hclean.families _ _ _ htrain _ hdevelopment rfl

end RouteLLM.RoutingBenchmark
