import RouteLLM.Benchmarks.ConstructedTasks

/-!
# Tables that give a data set

`construct_dataset` returns for every table of sixteen families of two variants a category, with
distinct slugs of the characters of an id, prompts that are not blank and canonical responses that fit
their budgets. The ids are distinct since the counter of a difficulty grows with each task of it.
-/

namespace RouteLLM.RoutingBenchmark

variable {table : FamilyTable}

/-- The characters of an id after the first. -/
def isIdChar (c : Char) : Bool := c.isLower || c.isDigit || c = '_' || c = '-'

/-- The canonical response of a variant fits a budget of its category. -/
def CanonicalFits (category : TaskCategory) (variant : FamilyVariant) : Prop :=
  ∀ difficulty, ¬ (variant.canonical ≠ "" ∧
    comfortableBudget (budgetTokens category difficulty) <
      (max 1 ((variant.canonical.length + 3) / 4) : ℕ))

/-- A table of the shape of the benchmark. -/
structure WellFormed (table : FamilyTable) : Prop where
  length_eq : ∀ category, (table category).length = 16
  slugs : ∀ category, ((table category).map (·.slug)).Nodup
  slug_chars : ∀ category, ∀ family ∈ table category, ∀ c ∈ family.slug.toList, isIdChar c = true
  two : ∀ category, ∀ family ∈ table category, family.variants.length = 2
  prompts : ∀ category, ∀ family ∈ table category, ∀ variant ∈ family.variants,
    PyStr.strip variant.prompt.toList ≠ []
  fits : ∀ category, ∀ family ∈ table category, ∀ variant ∈ family.variants,
    CanonicalFits category variant

/-! ## Ids -/

theorem isTaskId_cons {c : Char} {cs : List Char} (hc : c.isLower = true)
    (hcs : ∀ d ∈ cs, isIdChar d = true) : isTaskId (c :: cs) = true := by
  rw [isTaskId, hc, Bool.true_or, Bool.true_and]
  exact List.all_eq_true.mpr hcs

theorem isIdChar_of_mem_padded {width n : ℕ} {c : Char} (h : c ∈ PaddedDigits.padded 10 width n) :
    isIdChar c = true := by
  obtain ⟨d, hd, rfl⟩ := PaddedDigits.mem_padded (by decide) h
  have hall : ∀ d < 10, isIdChar (Nat.digitChar d) = true := by decide
  exact hall d hd

theorem isIdChar_of_mem_value {category : TaskCategory} {c : Char} (h : c ∈ category.value.toList) :
    isIdChar c = true := by
  have hall : category.value.toList.all isIdChar = true := by cases category <;> decide
  exact List.all_eq_true.mp hall c h

theorem isIdChar_of_mem_difficulty {difficulty : Difficulty} {c : Char}
    (h : c ∈ difficulty.value.toList) : isIdChar c = true := by
  have hall : difficulty.value.toList.all isIdChar = true := by cases difficulty <;> decide
  exact List.all_eq_true.mp hall c h

/-- The id of a task is one. -/
theorem isTaskId_taskIdText (category : TaskCategory) (difficulty : Difficulty) (number : ℕ) :
    isTaskId (taskIdText category difficulty number).toList = true := by
  rw [taskIdText, String.toList_ofList]
  obtain ⟨c, cs, hvalue, hc⟩ : ∃ c cs, category.value.toList = c :: cs ∧ c.isLower = true := by
    cases category <;> exact ⟨_, _, rfl, by decide⟩
  have hmem : ∀ d ∈ cs, isIdChar d = true := fun d hd =>
    isIdChar_of_mem_value (by rw [hvalue]; exact List.mem_cons_of_mem _ hd)
  rw [hvalue, List.cons_append]
  refine isTaskId_cons hc fun d hd => ?_
  rcases List.mem_append.mp hd with hd | hd
  · exact hmem d hd
  rcases List.mem_cons.mp hd with hd | hd
  · rw [hd]
    decide
  rcases List.mem_append.mp hd with hd | hd
  · exact isIdChar_of_mem_difficulty hd
  rcases List.mem_cons.mp hd with hd | hd
  · rw [hd]
    decide
  · exact isIdChar_of_mem_padded hd

/-- The id of a family is one. -/
theorem isTaskId_familyIdText (category : TaskCategory) (index : ℕ) {slug : String}
    (hslug : ∀ c ∈ slug.toList, isIdChar c = true) :
    isTaskId (familyIdText category index slug).toList = true := by
  have hprefix : "rbv1-".toList = 'r' :: ['b', 'v', '1', '-'] := by decide
  have htext : (familyIdText category index slug).toList = 'r' :: (['b', 'v', '1', '-'] ++
      (category.value.toList ++
        '-' :: (PaddedDigits.padded 10 2 (index + 1) ++ '-' :: slug.toList))) :=
    String.toList_ofList.trans (congrArg (· ++ _) hprefix)
  rw [htext]
  refine isTaskId_cons (by decide) fun d hd => ?_
  rcases List.mem_append.mp hd with hd | hd
  · have hall : ['b', 'v', '1', '-'].all isIdChar = true := by decide
    exact List.all_eq_true.mp hall d hd
  rcases List.mem_append.mp hd with hd | hd
  · exact isIdChar_of_mem_value hd
  rcases List.mem_cons.mp hd with hd | hd
  · rw [hd]
    decide
  rcases List.mem_append.mp hd with hd | hd
  · exact isIdChar_of_mem_padded hd
  rcases List.mem_cons.mp hd with hd | hd
  · rw [hd]
    decide
  · exact hslug d hd

theorem dash_notMem_difficulty (d : Difficulty) : '-' ∉ d.value.toList := by
  cases d <;> decide

theorem difficulty_value_injective : Function.Injective Difficulty.value := by
  intro c d h
  cases c <;> cases d <;> first | rfl | simp [Difficulty.value] at h

/-- The id of a task has its category, its difficulty and its number. -/
theorem taskIdText_inj {c c' : TaskCategory} {d d' : Difficulty} {m n : ℕ} (hm : m < 1000)
    (hn : n < 1000) (h : taskIdText c d m = taskIdText c' d' n) : c = c' ∧ d = d' ∧ m = n := by
  obtain ⟨hcategory, hrest⟩ := append_cons_inj_of_notMem (dash_notMem_value c) (dash_notMem_value c')
    (String.ofList_injective h)
  obtain ⟨hdifficulty, hdigits⟩ :=
    append_cons_inj_of_notMem (dash_notMem_difficulty d) (dash_notMem_difficulty d') hrest
  exact ⟨value_injective (String.toList_inj.mp hcategory),
    difficulty_value_injective (String.toList_inj.mp hdifficulty), padded_inj hm hn hdigits⟩

/-! ## Numbers -/

/-- A slot that gives a task under every difficulty. -/
structure Constructible (category : TaskCategory) (slot : FamilySlot) : Prop where
  category_eq : slot.category = category
  prompt : PyStr.strip slot.variant.prompt.toList ≠ []
  fits : CanonicalFits category slot.variant
  slug : ∀ c ∈ slot.slug.toList, isIdChar c = true

theorem taskOfSlot_ok {category : TaskCategory} {slot : FamilySlot}
    (h : Constructible category slot) (difficulty : Difficulty) (number : ℕ) :
    ∃ task, taskOfSlot slot difficulty number = .ok task ∧
      task.taskId.value = taskIdText category difficulty number := by
  have hfits := h.fits difficulty
  rw [← h.category_eq] at hfits ⊢
  have htask := isTaskId_taskIdText slot.category difficulty number
  have hfamily := isTaskId_familyIdText slot.category slot.index h.slug
  unfold taskOfSlot
  dsimp only
  rw [if_neg hfits, dif_neg h.prompt, dif_neg (by rw [htask]; decide),
    dif_neg (by rw [hfamily]; decide)]
  exact ⟨_, rfl, rfl⟩

/-- The slots are numbered above what the counters have reached, each difficulty on its own. -/
theorem numberTasks_ok {category : TaskCategory} {difficulties : List ((String × ℕ) × Difficulty)}
    {slots : List FamilySlot} (hslots : ∀ slot ∈ slots, Constructible category slot)
    (hdifficulty : ∀ slot ∈ slots, ∃ d, difficulties.lookup (slot.slug, slot.position) = some d)
    (counters : Difficulty → ℕ) :
    ∃ tasks, ∃ marks : List (Difficulty × ℕ), numberTasks difficulties counters slots = .ok tasks ∧
      tasks.map (·.taskId.value) = marks.map (fun m => taskIdText category m.1 m.2) ∧
      marks.Nodup ∧ ∀ m ∈ marks, counters m.1 < m.2 ∧ m.2 ≤ counters m.1 + slots.length := by
  induction slots generalizing counters with
  | nil => exact ⟨[], [], rfl, rfl, List.nodup_nil, fun m hm => absurd hm List.not_mem_nil⟩
  | cons slot rest ih =>
    obtain ⟨d, hd⟩ := hdifficulty slot List.mem_cons_self
    obtain ⟨task, htask, hid⟩ := taskOfSlot_ok (hslots slot List.mem_cons_self) d (counters d + 1)
    obtain ⟨tasks, marks, htasks, hids, hnodup, hmarks⟩ :=
      ih (fun other hother => hslots other (List.mem_cons_of_mem _ hother))
        (fun other hother => hdifficulty other (List.mem_cons_of_mem _ hother))
        (Function.update counters d (counters d + 1))
    -- A later mark of the same difficulty is above this one.
    have habove : ∀ m ∈ marks, counters m.1 < m.2 ∧ m.2 ≤ counters m.1 + (rest.length + 1) ∧
        (m.1 = d → counters d + 1 < m.2) := by
      intro m hm
      have hbounds := hmarks m hm
      by_cases hmd : m.1 = d
      · rw [hmd, Function.update_self] at hbounds
        rw [hmd]
        omega
      · rw [Function.update_of_ne hmd] at hbounds
        exact ⟨hbounds.1, by omega, fun heq => absurd heq hmd⟩
    refine ⟨task :: tasks, (d, counters d + 1) :: marks, ?_, ?_, ?_, ?_⟩
    · rw [numberTasks, hd]
      dsimp only
      rw [htask, Except.ok_bind, htasks]
      rfl
    · rw [List.map_cons, List.map_cons, hid, hids]
    · refine List.nodup_cons.mpr ⟨fun hmem => ?_, hnodup⟩
      exact lt_irrefl _ ((habove _ hmem).2.2 rfl)
    · intro m hm
      rw [List.length_cons]
      rcases List.mem_cons.mp hm with hm | hm
      · rw [hm]
        dsimp only
        omega
      · exact ⟨(habove m hm).1, (habove m hm).2.1⟩

/-! ## Difficulties -/

/-- The variants of a category. -/
theorem length_scoredVariants (h : WellFormed table) (category : TaskCategory) :
    (scoredVariants category (table category)).length = 32 := by
  have hlengths : ((table category).map fun family => (family.variants.zipIdx.map fun v =>
      (complexityScore category family v.2 v.1, family.slug, v.2)).length) =
      List.replicate 16 2 := by
    refine List.eq_replicate_iff.mpr ⟨by rw [List.length_map, h.length_eq], ?_⟩
    intro n hn
    obtain ⟨family, hfamily, rfl⟩ := List.mem_map.mp hn
    rw [List.length_map, List.length_zipIdx, h.two category family hfamily]
  rw [scoredVariants, List.length_flatMap, hlengths]
  decide

/-- Every slot of a category gets a difficulty. -/
theorem difficultyAssignments_ok (h : WellFormed table) (category : TaskCategory) :
    ∃ difficulties, difficultyAssignments category (table category) = .ok difficulties ∧
      ∀ slot ∈ slots category (table category),
        ∃ d, difficulties.lookup (slot.slug, slot.position) = some d := by
  have hperm := KeySort.sortBy_perm scoredKey (scoredVariants category (table category))
  have hlength : (KeySort.sortBy scoredKey (scoredVariants category (table category))).length =
      difficultyLabels.length := by
    rw [hperm.length_eq, length_scoredVariants h]
    rfl
  refine ⟨_, if_pos hlength, ?_⟩
  intro slot hslot
  obtain ⟨⟨family, index⟩, hfamily, hslot⟩ := List.mem_flatMap.mp hslot
  obtain ⟨⟨variant, position⟩, hvariant, rfl⟩ := List.mem_map.mp hslot
  have hscored : (complexityScore category family position variant, family.slug, position) ∈
      scoredVariants category (table category) :=
    List.mem_flatMap.mpr ⟨family, (List.mem_zipIdx hfamily).2.2 ▸ List.getElem_mem _,
      List.mem_map.mpr ⟨(variant, position), hvariant, rfl⟩⟩
  have hkey : (family.slug, position) ∈
      (KeySort.sortBy scoredKey (scoredVariants category (table category))).map Prod.snd :=
    List.mem_map.mpr ⟨_, hperm.mem_iff.mpr hscored, rfl⟩
  refine Option.isSome_iff_exists.mp (List.lookup_isSome_iff.mpr ?_)
  obtain ⟨n, hn, hget⟩ := List.mem_iff_getElem.mp hkey
  rw [List.length_map] at hn
  refine ⟨((family.slug, position), difficultyLabels.get ⟨n, hlength ▸ hn⟩), ?_, beq_self_eq_true _⟩
  refine List.mem_iff_getElem.mpr ⟨n, ?_, ?_⟩
  · rw [List.length_zip, List.length_map]
    omega
  · rw [List.getElem_zip, hget]
    rfl

/-! ## The data set -/

theorem constructible_of_mem (h : WellFormed table) {category : TaskCategory} {slot : FamilySlot}
    (hslot : slot ∈ slots category (table category)) : Constructible category slot := by
  obtain ⟨⟨family, index⟩, hfamily, hslot⟩ := List.mem_flatMap.mp hslot
  obtain ⟨⟨variant, position⟩, hvariant, rfl⟩ := List.mem_map.mp hslot
  have hfamily : family ∈ table category := (List.mem_zipIdx hfamily).2.2 ▸ List.getElem_mem _
  have hvariant : variant ∈ family.variants := (List.mem_zipIdx hvariant).2.2 ▸ List.getElem_mem _
  exact ⟨rfl, h.prompts category family hfamily variant hvariant,
    h.fits category family hfamily variant hvariant, h.slug_chars category family hfamily⟩

theorem length_slots (h : WellFormed table) (category : TaskCategory) :
    (slots category (table category)).length = 32 := by
  have hlengths : ((table category).zipIdx.map fun f => (familySlots category f.1 f.2).length) =
      List.replicate 16 2 := by
    refine List.eq_replicate_iff.mpr ⟨by rw [List.length_map, List.length_zipIdx, h.length_eq], ?_⟩
    intro n hn
    obtain ⟨f, hf, rfl⟩ := List.mem_map.mp hn
    have hfamily : f.1 ∈ table category := (List.mem_zipIdx hf).2.2 ▸ List.getElem_mem _
    rw [familySlots, List.length_map, List.length_zipIdx, h.two category f.1 hfamily]
  rw [slots, List.length_flatMap, hlengths]
  decide

/-- A category gives tasks whose ids are its own and distinct. -/
theorem categoryTasks_ok (h : WellFormed table) (category : TaskCategory) :
    ∃ tasks, ∃ marks : List (Difficulty × ℕ), categoryTasks category (table category) = .ok tasks ∧
      tasks.map (·.taskId.value) = marks.map (fun m => taskIdText category m.1 m.2) ∧
      marks.Nodup ∧ ∀ m ∈ marks, m.2 < 1000 := by
  obtain ⟨difficulties, hdifficulties, hlookup⟩ := difficultyAssignments_ok h category
  obtain ⟨tasks, marks, htasks, hids, hnodup, hmarks⟩ :=
    numberTasks_ok (fun slot hslot => constructible_of_mem h hslot) hlookup fun _ => 0
  refine ⟨tasks, marks, ?_, hids, hnodup, ?_⟩
  · have hunique : ¬ ((table category).length ≠ 16 ∨
        ((table category).map (·.slug)).dedup.length ≠ 16) := by
      rw [List.dedup_eq_self.mpr (h.slugs category), List.length_map, h.length_eq]
      decide
    rw [categoryTasks, hdifficulties, Except.ok_bind]
    exact Except.guard_eq_ok.mpr ⟨hunique, htasks⟩
  · intro m hm
    have hbound := (hmarks m hm).2
    rw [length_slots h] at hbound
    omega

/-- **Construction**: a table of the shape of the benchmark gives a data set. -/
theorem constructDataset_ok (h : WellFormed table) :
    ∃ dataset, constructDataset table = .ok dataset := by
  choose tasks marks htasks hids hnodup hmarks using categoryTasks_ok h
  have hmap : categories.mapM (fun category => categoryTasks category (table category)) =
      .ok (categories.map tasks) := by
    rw [List.mapM_eq_ok, List.forall₂_map_right_iff]
    exact List.forall₂_same.mpr fun category _ => htasks category
  have hvalues : ((categories.map tasks).flatten.map (·.taskId.value)).Nodup := by
    rw [← List.flatMap_def, List.map_flatMap]
    simp only [hids]
    refine List.nodup_flatMap.mpr ⟨fun category _ => ?_, ?_⟩
    · refine List.Nodup.map_on ?_ (hnodup category)
      intro m hm n hn heq
      obtain ⟨-, hd, hnumber⟩ := taskIdText_inj (hmarks category m hm) (hmarks category n hn) heq
      exact Prod.ext hd hnumber
    · have hcategories : categories.Nodup := by decide
      refine hcategories.imp ?_
      intro c d hne id hc hd
      obtain ⟨m, hm, hid⟩ := List.mem_map.mp hc
      obtain ⟨n, hn, hid'⟩ := List.mem_map.mp hd
      exact hne (taskIdText_inj (hmarks c m hm) (hmarks d n hn) (hid.trans hid'.symm)).1
  have hunique : ((categories.map tasks).flatten.map (·.taskId)).Nodup := by
    refine List.Nodup.of_map TaskId.value ?_
    rwa [List.map_map]
  have hne : (categories.map tasks).flatten ≠ [] := by
    obtain ⟨slot, hslot⟩ := List.exists_mem_of_length_pos
      (show 0 < (slots .qa (table .qa)).length by rw [length_slots h]; decide)
    obtain ⟨_, _, hnumbered⟩ := Except.bind_eq_ok.mp (htasks .qa)
    obtain ⟨_, hnumbered⟩ := Except.guard_eq_ok.mp hnumbered
    obtain ⟨task, htask, _⟩ := (numberTasks_forall₂ hnumbered).exists_of_mem hslot
    exact List.ne_nil_of_mem (List.mem_flatten.mpr
      ⟨tasks .qa, List.mem_map_of_mem (mem_categories _), htask⟩)
  unfold constructDataset
  rw [hmap, Except.ok_bind]
  dsimp only
  rw [dif_neg hne, dif_pos hunique]
  exact ⟨_, rfl⟩

end RouteLLM.RoutingBenchmark
