import RouteLLM.Benchmarks.Families
import RouteLLM.Lib.Labels

/-!
# The tasks of the constructed data set

What `construct_dataset` guarantees of its tasks: there is one for each variant, in their order, with the
prompt, the category and the family of the variant. Families have distinct ids, so the tasks of a
family are those of its variants.
-/

namespace RouteLLM.RoutingBenchmark

open Labels

variable {table : FamilyTable} {dataset : BenchmarkDataset}

/-! ## Family ids -/

theorem value_injective : Function.Injective TaskCategory.value := by
  intro c d h
  cases c <;> cases d <;> first | rfl | simp [TaskCategory.value] at h

theorem dash_notMem_value (c : TaskCategory) : '-' ∉ c.value.toList := by
  cases c <;> decide

/-- A text is split at the first occurrence of a separator in one way. -/
theorem append_cons_inj_of_notMem {α : Type*} {sep : α} {xs xs' ys ys' : List α} (hxs : sep ∉ xs)
    (hxs' : sep ∉ xs') (h : xs ++ sep :: ys = xs' ++ sep :: ys') : xs = xs' ∧ ys = ys' := by
  induction xs generalizing xs' with
  | nil =>
    cases xs' with
    | nil => exact ⟨rfl, List.tail_eq_of_cons_eq h⟩
    | cons x xs' =>
      cases h
      exact absurd List.mem_cons_self hxs'
  | cons x xs ih =>
    cases xs' with
    | nil =>
      cases h
      exact absurd List.mem_cons_self hxs
    | cons x' xs' =>
      obtain ⟨hhead, htail⟩ := List.cons.inj h
      obtain ⟨heq, hrest⟩ := ih (fun hmem => hxs (List.mem_cons_of_mem _ hmem))
        (fun hmem => hxs' (List.mem_cons_of_mem _ hmem)) htail
      exact ⟨by rw [hhead, heq], hrest⟩

/-- Numbers are told apart by their last digits. -/
theorem padded_inj {width m n : ℕ} (hm : m < 10 ^ width) (hn : n < 10 ^ width)
    (h : PaddedDigits.padded 10 width m = PaddedDigits.padded 10 width n) : m = n := by
  have hvalue := PaddedDigits.value?_padded (by decide) (by decide) hm
  rw [h, PaddedDigits.value?_padded (by decide) (by decide) hn] at hvalue
  exact (Option.some.inj hvalue).symm

/-- The id of a family has its category and its index. -/
theorem familyIdText_inj {c d : TaskCategory} {i j : ℕ} {s t : String} (hi : i < 99) (hj : j < 99)
    (h : familyIdText c i s = familyIdText d j t) : c = d ∧ i = j := by
  have hchars := List.append_cancel_left (String.ofList_injective h)
  obtain ⟨hcategory, hrest⟩ :=
    append_cons_inj_of_notMem (dash_notMem_value c) (dash_notMem_value d) hchars
  have hdigits := (List.append_inj hrest (by
    rw [PaddedDigits.length_padded, PaddedDigits.length_padded])).1
  have hindex : i + 1 = j + 1 := padded_inj (by omega) (by omega) hdigits
  exact ⟨value_injective (String.toList_inj.mp hcategory), Nat.succ.inj hindex⟩

/-! ## The plan of the families -/

/-- A family at its place. -/
structure PlannedFamily where
  category : TaskCategory
  index : ℕ
  spec : FamilySpec

/-- The id of a family. -/
def PlannedFamily.familyId (planned : PlannedFamily) : String :=
  familyIdText planned.category planned.index planned.spec.slug

/-- The families of a category at some indexes. -/
def categoryPlan (table : FamilyTable) (indexes : List ℕ) (category : TaskCategory) :
    List PlannedFamily :=
  indexes.filterMap fun i => (table category)[i]?.map fun spec => ⟨category, i, spec⟩

/-- The families of all categories at some indexes. -/
def plan (table : FamilyTable) (indexes : List ℕ) : List PlannedFamily :=
  categories.flatMap (categoryPlan table indexes)

theorem mem_plan {indexes : List ℕ} {planned : PlannedFamily} :
    planned ∈ plan table indexes ↔ planned.index ∈ indexes ∧
      (table planned.category)[planned.index]? = some planned.spec := by
  constructor
  · intro h
    obtain ⟨category, _, h⟩ := List.mem_flatMap.mp h
    obtain ⟨i, hi, h⟩ := List.mem_filterMap.mp h
    obtain ⟨spec, hspec, rfl⟩ := Option.map_eq_some_iff.mp h
    exact ⟨hi, hspec⟩
  · intro h
    refine List.mem_flatMap.mpr ⟨planned.category, mem_categories _,
      List.mem_filterMap.mpr ⟨planned.index, h.1, ?_⟩⟩
    rw [h.2]
    rfl

/-- The families of a plan are at distinct places. -/
theorem nodup_plan {indexes : List ℕ} (hnodup : indexes.Nodup) : (plan table indexes).Nodup := by
  refine List.nodup_flatMap.mpr ⟨?_, ?_⟩
  · intro category _
    refine hnodup.filterMap ?_
    intro i j planned hi hj
    obtain ⟨_, _, rfl⟩ := Option.map_eq_some_iff.mp (Option.mem_def.mp hi)
    obtain ⟨_, _, hplanned⟩ := Option.map_eq_some_iff.mp (Option.mem_def.mp hj)
    exact (congrArg PlannedFamily.index hplanned).symm
  · have hcategories : categories.Nodup := by decide
    refine hcategories.imp ?_
    intro c d hne planned hc hd
    obtain ⟨_, _, hc⟩ := List.mem_filterMap.mp hc
    obtain ⟨_, _, hd⟩ := List.mem_filterMap.mp hd
    obtain ⟨_, _, rfl⟩ := Option.map_eq_some_iff.mp hc
    obtain ⟨_, _, hplanned⟩ := Option.map_eq_some_iff.mp hd
    exact hne (congrArg PlannedFamily.category hplanned).symm

/-- Families of a table at distinct places have distinct ids. -/
theorem nodup_familyIds {ps : List PlannedFamily} (hnodup : ps.Nodup)
    (hps : ∀ p ∈ ps, p.index < 99 ∧ (table p.category)[p.index]? = some p.spec) :
    (ps.map PlannedFamily.familyId).Nodup := by
  refine List.Nodup.map_on ?_ hnodup
  intro p hp q hq h
  obtain ⟨hltp, hspecp⟩ := hps p hp
  obtain ⟨hltq, hspecq⟩ := hps q hq
  obtain ⟨hcategory, hindex⟩ := familyIdText_inj hltp hltq h
  rw [hcategory, hindex, hspecq] at hspecp
  cases p
  cases q
  cases hcategory
  cases hindex
  cases Option.some.inj hspecp
  rfl

/-- All families. -/
def fullPlan (table : FamilyTable) : List PlannedFamily :=
  categories.flatMap fun category => (table category).zipIdx.map fun f => ⟨category, f.2, f.1⟩

theorem mem_fullPlan {planned : PlannedFamily} :
    planned ∈ fullPlan table ↔ (table planned.category)[planned.index]? = some planned.spec := by
  constructor
  · intro h
    obtain ⟨category, _, h⟩ := List.mem_flatMap.mp h
    obtain ⟨f, hf, rfl⟩ := List.mem_map.mp h
    exact List.mem_zipIdx_iff_getElem?.mp hf
  · intro h
    exact List.mem_flatMap.mpr ⟨planned.category, mem_categories _,
      List.mem_map.mpr ⟨(planned.spec, planned.index), List.mem_zipIdx_iff_getElem?.mpr h, rfl⟩⟩

theorem nodup_fullPlan : (fullPlan table).Nodup := by
  refine List.nodup_flatMap.mpr ⟨?_, ?_⟩
  · intro category _
    refine List.Nodup.of_map PlannedFamily.index ?_
    rw [List.map_map]
    have hindexes : ((table category).zipIdx.map Prod.snd).Nodup := by
      rw [List.zipIdx_map_snd]
      exact List.nodup_range'
    exact hindexes
  · have hcategories : categories.Nodup := by decide
    refine hcategories.imp ?_
    intro c d hne planned hc hd
    obtain ⟨_, _, rfl⟩ := List.mem_map.mp hc
    obtain ⟨_, _, hplanned⟩ := List.mem_map.mp hd
    exact hne (congrArg PlannedFamily.category hplanned).symm

/-! ## The tasks -/

/-- A task has the data of its slot. -/
structure TaskOf (slot : FamilySlot) (task : BenchmarkTask) : Prop where
  prompt : task.prompt = slot.variant.prompt
  category : task.category = slot.category
  familyId : task.taskFamilyId.map (·.value) =
    some (familyIdText slot.category slot.index slot.slug)

theorem taskOf_of_taskOfSlot {slot : FamilySlot} {difficulty : Difficulty} {number : ℕ}
    {task : BenchmarkTask} (h : taskOfSlot slot difficulty number = .ok task) : TaskOf slot task := by
  unfold taskOfSlot at h
  dsimp only at h
  split_ifs at h
  all_goals
    cases h
    exact ⟨rfl, rfl, rfl⟩

/-- The numbered tasks are those of the slots. -/
theorem numberTasks_forall₂ {difficulties : List ((String × ℕ) × Difficulty)}
    {counters : Difficulty → ℕ} {slots : List FamilySlot} {tasks : List BenchmarkTask}
    (h : numberTasks difficulties counters slots = .ok tasks) : List.Forall₂ TaskOf slots tasks := by
  induction slots generalizing counters tasks with
  | nil =>
    cases h
    exact .nil
  | cons slot rest ih =>
    rw [numberTasks] at h
    cases hlookup : difficulties.lookup (slot.slug, slot.position) with
    | none =>
      rw [hlookup] at h
      cases h
    | some difficulty =>
      rw [hlookup] at h
      obtain ⟨task, htask, h⟩ := Except.bind_eq_ok.mp h
      obtain ⟨tasks', htasks, h⟩ := Except.bind_eq_ok.mp h
      cases h
      exact .cons (taskOf_of_taskOfSlot htask) (ih htasks)

/-- The slots of a planned family. -/
def PlannedFamily.slots (planned : PlannedFamily) : List FamilySlot :=
  familySlots planned.category planned.spec planned.index

theorem familyId_of_mem_slots {planned : PlannedFamily} {slot : FamilySlot}
    (h : slot ∈ planned.slots) :
    familyIdText slot.category slot.index slot.slug = planned.familyId := by
  obtain ⟨v, _, rfl⟩ := List.mem_map.mp h
  rfl

/-- **The constructed tasks** are one for each variant of the families, in their order. -/
theorem constructDataset_forall₂ (h : constructDataset table = .ok dataset) :
    List.Forall₂ TaskOf ((fullPlan table).flatMap PlannedFamily.slots) dataset.tasks := by
  obtain ⟨tasks, htasks, h⟩ := Except.bind_eq_ok.mp h
  have hdataset : dataset.tasks = tasks.flatten := by
    dsimp only at h
    split_ifs at h
    cases h
    rfl
  have hslots : (fullPlan table).flatMap PlannedFamily.slots =
      (categories.map fun category => slots category (table category)).flatten := by
    rw [fullPlan, List.flatMap_assoc, List.flatMap_def]
    refine congrArg List.flatten (List.map_congr_left fun category _ => ?_)
    rw [slots, List.flatMap_map]
    rfl
  rw [hdataset, hslots]
  refine List.rel_flatten ?_
  rw [List.forall₂_map_left_iff]
  refine (List.mapM_eq_ok.mp htasks).imp ?_
  intro category tasks htasks
  obtain ⟨_, _, htasks⟩ := Except.bind_eq_ok.mp htasks
  obtain ⟨_, htasks⟩ := Except.guard_eq_ok.mp htasks
  exact numberTasks_forall₂ htasks

/-- A constructed category has sixteen families. -/
theorem length_of_constructed (h : constructDataset table = .ok dataset) (category : TaskCategory) :
    (table category).length = 16 := by
  obtain ⟨tasks, htasks, _⟩ := Except.bind_eq_ok.mp h
  obtain ⟨_, _, htasks⟩ := (List.mapM_eq_ok.mp htasks).exists_of_mem (mem_categories category)
  obtain ⟨_, _, htasks⟩ := Except.bind_eq_ok.mp htasks
  obtain ⟨hlength, _⟩ := Except.guard_eq_ok.mp htasks
  exact not_not.mp fun hne => hlength (.inl hne)

/-- The tasks of a family are those of its variants. -/
theorem tasks_of_family (h : constructDataset table = .ok dataset) {planned : PlannedFamily}
    (hplanned : planned ∈ fullPlan table) :
    List.Forall₂ TaskOf planned.slots (dataset.tasks.filter fun task =>
      task.taskFamilyId.map (·.value) = some planned.familyId) := by
  have hrel := constructDataset_forall₂ h
  have hplaces : ∀ p ∈ fullPlan table,
      p.index < 99 ∧ (table p.category)[p.index]? = some p.spec := by
    intro p hp
    have hspec := mem_fullPlan.mp hp
    have hlength := length_of_constructed h p.category
    have hlt := (List.getElem?_eq_some_iff.mp hspec).1
    exact ⟨by omega, hspec⟩
  have hids := nodup_familyIds nodup_fullPlan hplaces
  have hfilter := List.rel_filter (p := fun slot : FamilySlot => decide
    (familyIdText slot.category slot.index slot.slug = planned.familyId))
    (q := fun task : BenchmarkTask => decide
      (task.taskFamilyId.map (·.value) = some planned.familyId)) (fun slot task hof => by
        show decide _ = true ↔ decide _ = true
        rw [hof.familyId, decide_eq_true_eq, decide_eq_true_eq, Option.some.injEq]) hrel
  have hslots : ((fullPlan table).flatMap PlannedFamily.slots).filter (fun slot => decide
      (familyIdText slot.category slot.index slot.slug = planned.familyId)) = planned.slots := by
    rw [List.filter_flatMap, ← flatMap_key_eq (g := PlannedFamily.slots) hids hplanned]
    refine List.flatMap_congr fun other _ => ?_
    split
    · rename_i heq
      refine List.filter_eq_self.mpr fun slot hslot => ?_
      rw [familyId_of_mem_slots hslot, heq, decide_eq_true_eq]
    · rename_i hne
      refine List.filter_eq_nil_iff.mpr fun slot hslot => ?_
      rw [familyId_of_mem_slots hslot, decide_eq_true_eq]
      exact hne
  rwa [hslots] at hfilter

end RouteLLM.RoutingBenchmark
