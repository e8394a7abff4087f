import RouteLLM.Lib.EvenFill
import RouteLLM.Lib.Grouping
import RouteLLM.Routing.GroupedFolds

/-!
# Balanced folds

The tasks of a category go to a fold with the least number of them, so that the folds are even at any time: when
all tasks are dealt, and when those with a missing label are, which come first. The rest of the choice only depends
on the rows of the tasks, and not on their order.
-/

namespace RouteLLM

namespace Retraining

open EvenFill RoutingAnalysis

variable {φ : Type} {rows : List (ExperimentRow φ)}

/-! ## The shape of the data set -/

/-- What the folds expect: four rows for a task, of one category, and seven categories of twenty tasks. -/
structure GroupedShape (rows : List (ExperimentRow φ)) : Prop where
  keys_nodup : (rows.map (·.key)).Nodup
  four_rows : ∀ row ∈ rows, (rows.filter (·.taskId = row.taskId)).length = 4
  one_category : ∀ row ∈ rows, ∀ row' ∈ rows, row.taskId = row'.taskId → row.category = row'.category
  seven_categories : (rows.map (·.category)).dedup.length = 7
  twenty_tasks : ∀ row ∈ rows,
    ((rows.filter (·.category = row.category)).map (·.taskId)).dedup.length = 20

/-- A row of a task is of the category of its first row. -/
def OneCategory (rows : List (ExperimentRow φ)) : Prop :=
  ∀ row ∈ rows, ∀ row' ∈ rows, row.taskId = row'.taskId → row.category = row'.category

theorem mem_taskIds {task : String} : task ∈ taskIds rows ↔ ∃ row ∈ rows, row.taskId = task := by
  rw [taskIds, List.mem_dedup, List.mem_map]

theorem nodup_taskIds : (taskIds rows).Nodup := List.nodup_dedup _

theorem categoryOf_eq (h : OneCategory rows) {row : ExperimentRow φ} (hrow : row ∈ rows) :
    categoryOf rows row.taskId = row.category := by
  have hmem : row ∈ rowsOf rows row.taskId := List.mem_filter.mpr ⟨hrow, decide_eq_true rfl⟩
  obtain ⟨first, others, heq⟩ := List.exists_cons_of_ne_nil (List.ne_nil_of_mem hmem)
  have hfirst : first ∈ rowsOf rows row.taskId := by
    rw [heq]
    exact List.mem_cons_self
  obtain ⟨hfirst, htask⟩ := List.mem_filter.mp hfirst
  rw [categoryOf, heq]
  exact h first hfirst row hrow (of_decide_eq_true htask)

/-- The tasks of a category. -/
def categoryTasks (rows : List (ExperimentRow φ)) (category : String) : List String :=
  (taskIds rows).filter (categoryOf rows · = category)

/-! ## Dealing a list of tasks -/

/-- The tasks that went to a fold. -/
def dealt (tasks : List String) (folds : List Fold) (fold : Fold) : List String :=
  ((tasks.zip folds).filter (·.2 = fold)).map Prod.fst

theorem fst_le_of_toLex_le {α β : Type} [LinearOrder α] [LinearOrder β] {a c : α} {b d : β}
    (h : toLex (a, b) ≤ toLex (c, d)) : a ≤ c := by
  rcases Prod.Lex.toLex_le_toLex.mp h with hlt | ⟨heq, _⟩
  · exact hlt.le
  · exact heq.le

/-- A fold with the least number of tasks is chosen, as long as twenty are not dealt. -/
theorem exists_chooseFold (state : FoldState) {placed : List Fold} (hlength : placed.length < 20) :
    ∃ fold, chooseFold state (placed.count ·) = some fold ∧ ∀ other, placed.count fold ≤ placed.count other := by
  obtain ⟨free, hfree⟩ := @exists_count_lt _ _ placed _ 4 (by rw [Fintype.card_fin]; omega)
  have hmem : free ∈ (List.finRange 5).filter (placed.count · < 4) :=
    List.mem_filter.mpr ⟨List.mem_finRange free, decide_eq_true hfree⟩
  cases hchoose : chooseFold state (placed.count ·) with
  | none =>
    rw [chooseFold, List.argmin_eq_none] at hchoose
    rw [hchoose] at hmem
    cases hmem
  | some fold =>
    refine ⟨fold, rfl, fun other => ?_⟩
    rw [chooseFold] at hchoose
    have hfold := List.argmin_mem hchoose
    by_cases hother : placed.count other < 4
    · have hle := List.le_of_mem_argmin
        (List.mem_filter.mpr ⟨List.mem_finRange other, decide_eq_true hother⟩) hchoose
      exact fst_le_of_toLex_le hle
    · have hlt : placed.count fold < 4 := of_decide_eq_true (List.mem_filter.mp hfold).2
      omega

/-- A run of the loop over the tasks of a category. -/
theorem exists_foldlM_placeTask (tasks : List String) (state : FoldState) {placed : List Fold}
    (hgreedy : Greedy placed) (hlength : placed.length + tasks.length ≤ 20) :
    ∃ state' folds, tasks.foldlM (placeTask rows) (state, (placed.count ·)) =
        .ok (state', ((placed ++ folds).count ·)) ∧ folds.length = tasks.length ∧ Greedy (placed ++ folds) ∧
      ∀ fold, state'.tasks fold = state.tasks fold ++ dealt tasks folds fold := by
  induction tasks generalizing state placed with
  | nil =>
    refine ⟨state, [], ?_, rfl, ?_, fun fold => ?_⟩
    · rw [List.append_nil]
      rfl
    · rwa [List.append_nil]
    · exact (List.append_nil _).symm
  | cons task tasks ih =>
    rw [List.length_cons] at hlength
    obtain ⟨fold, hchoose, hmin⟩ := @exists_chooseFold state placed (by omega)
    have hcounts : Function.update (placed.count ·) fold (placed.count fold + 1) = ((placed ++ [fold]).count ·) := by
      funext other
      rw [List.count_append, List.count_singleton]
      by_cases hother : other = fold
      · rw [hother, Function.update_self, beq_self_eq_true, if_pos rfl]
      · rw [Function.update_of_ne hother, beq_eq_false_iff_ne.mpr fun h => hother h.symm, if_neg Bool.false_ne_true,
          Nat.add_zero]
    obtain ⟨state', folds, hrun, hfolds, hgreedy', htasks⟩ := ih (state.add rows fold task) (hgreedy.concat hmin)
      (by rw [List.length_append, List.length_singleton]; omega)
    rw [List.append_assoc, List.singleton_append] at hrun hgreedy'
    refine ⟨state', fold :: folds, ?_, by rw [List.length_cons, List.length_cons, hfolds], hgreedy', fun other => ?_⟩
    · rw [List.foldlM_cons, placeTask, hchoose]
      dsimp only
      rw [Except.ok_bind, hcounts]
      exact hrun
    · rw [htasks, dealt, dealt, List.zip_cons_cons, FoldState.add]
      dsimp only
      by_cases hother : fold = other
      · subst hother
        rw [Function.update_self, List.filter_cons_of_pos (by simp), List.map_cons, List.append_assoc,
          List.singleton_append]
      · rw [Function.update_of_ne fun h => hother h.symm, List.filter_cons_of_neg (by simpa using hother)]

/-! ## What was dealt -/

theorem dealt_perm {tasks : List String} {folds : List Fold} (hlength : folds.length = tasks.length) :
    ((List.finRange 5).flatMap (dealt tasks folds)).Perm tasks := by
  have hpairs := @Grouping.flatMap_filter_key_perm _ _ (tasks.zip folds) _ _ Prod.snd (List.nodup_finRange 5)
    fun x _ => List.mem_finRange x.2
  have hmap := hpairs.map Prod.fst
  rw [List.map_flatMap, List.map_fst_zip hlength.ge] at hmap
  exact hmap

theorem length_dealt {tasks : List String} {folds : List Fold} (hlength : folds.length = tasks.length) (fold : Fold) :
    (dealt tasks folds fold).length = folds.count fold := by
  have hcount : (tasks.zip folds).countP (·.2 = fold) = folds.countP (· = fold) := by
    conv_rhs => rw [← List.map_snd_zip hlength.le]
    rw [List.countP_map]
    rfl
  rw [dealt, List.length_map, ← List.countP_eq_length_filter, hcount, List.count]
  exact List.countP_congr fun k _ => by simp

theorem dealt_append {tasks tasks' : List String} {folds folds' : List Fold} (hlength : folds.length = tasks.length)
    (fold : Fold) : dealt (tasks ++ tasks') (folds ++ folds') fold = dealt tasks folds fold ++ dealt tasks' folds' fold := by
  rw [dealt, List.zip_append hlength.symm, List.filter_append, List.map_append]
  rfl

theorem mem_of_mem_dealt {tasks : List String} {folds : List Fold} {fold : Fold} {task : String}
    (h : task ∈ dealt tasks folds fold) : task ∈ tasks := by
  obtain ⟨pair, hpair, rfl⟩ := List.mem_map.mp h
  exact (List.of_mem_zip (List.mem_of_mem_filter hpair)).1

/-- The task has a row without a label. -/
def hasMissing (rows : List (ExperimentRow φ)) (task : String) : Bool := 0 < rowCount rows isMissing task

/-- In the order of dealing, the tasks with a missing label come first. -/
theorem exists_missing_first (tasks : List String) : ∃ missing others,
    KeySort.sortBy (taskKey rows) tasks = missing ++ others ∧ (∀ task ∈ missing, hasMissing rows task = true) ∧
      ∀ task ∈ others, hasMissing rows task = false := by
  have hsorted := KeySort.sortBy_pairwise (taskKey rows) tasks
  generalize KeySort.sortBy (taskKey rows) tasks = sorted at hsorted
  refine ⟨sorted.takeWhile (hasMissing rows), sorted.dropWhile (hasMissing rows),
    List.takeWhile_append_dropWhile.symm, fun task htask => List.mem_takeWhile_imp htask, fun task htask => ?_⟩
  have hsuffix := hsorted.sublist (List.dropWhile_sublist (hasMissing rows))
  have hfirst := List.head?_dropWhile_not (hasMissing rows) sorted
  cases hdrop : sorted.dropWhile (hasMissing rows) with
  | nil =>
    rw [hdrop] at htask
    cases htask
  | cons first others =>
    rw [hdrop] at htask hsuffix hfirst
    have hnone : hasMissing rows first = false := by simpa using hfirst
    rcases List.mem_cons.mp htask with rfl | htask
    · exact hnone
    · have hle := fst_le_of_toLex_le ((List.pairwise_cons.mp hsuffix).1 task htask)
      rw [hasMissing, decide_eq_false_iff_not] at hnone ⊢
      omega

/-- What the folds get of a category. -/
structure Dealt (rows : List (ExperimentRow φ)) (category : String) (part : Fold → List String) : Prop where
  perm : ((List.finRange 5).flatMap part).Perm (categoryTasks rows category)
  four : ∀ fold, (part fold).length = 4
  missing : ∀ fold other, (part fold).countP (hasMissing rows) ≤ (part other).countP (hasMissing rows) + 1

/-- Twenty tasks that are dealt greedily, those with a missing label first. -/
theorem dealt_of_greedy {category : String} (htwenty : (categoryTasks rows category).length = 20) {folds : List Fold}
    (hlength : folds.length = 20) (hgreedy : Greedy folds) :
    Dealt rows category (dealt (KeySort.sortBy (taskKey rows) (categoryTasks rows category)) folds) := by
  have hperm := KeySort.sortBy_perm (taskKey rows) (categoryTasks rows category)
  have hsorted := hperm.length_eq
  rw [htwenty] at hsorted
  refine ⟨(dealt_perm (hlength.trans hsorted.symm)).trans hperm, fun fold => ?_, fun fold other => ?_⟩
  · rw [length_dealt (hlength.trans hsorted.symm)]
    exact hgreedy.even.count_eq (by rw [hlength, Fintype.card_fin]) fold
  · obtain ⟨missing, others, heq, hmissing, hothers⟩ := @exists_missing_first _ rows (categoryTasks rows category)
    -- The folds of the tasks with a missing label are a first part of the run.
    have hsplit : folds = folds.take missing.length ++ folds.drop missing.length := (List.take_append_drop _ _).symm
    have hle : missing.length ≤ folds.length := by
      rw [hlength, ← hsorted, heq, List.length_append]
      exact Nat.le_add_right _ _
    have htake : (folds.take missing.length).length = missing.length := by
      rw [List.length_take, Nat.min_eq_left hle]
    have hcount : ∀ k, (dealt (missing ++ others) folds k).countP (hasMissing rows) =
        (folds.take missing.length).count k := by
      intro k
      rw [hsplit, dealt_append htake, List.countP_append, ← hsplit, ← length_dealt htake]
      have hall : (dealt missing (folds.take missing.length) k).countP (hasMissing rows) =
          (dealt missing (folds.take missing.length) k).length :=
        List.countP_eq_length.mpr fun task htask => hmissing task (mem_of_mem_dealt htask)
      have hnone : (dealt others (folds.drop missing.length) k).countP (hasMissing rows) = 0 :=
        List.countP_eq_zero.mpr fun task htask => by
          rw [hothers task (mem_of_mem_dealt htask)]
          exact Bool.false_ne_true
      rw [hall, hnone, Nat.add_zero]
    rw [heq, hcount, hcount]
    rw [hsplit] at hgreedy
    exact hgreedy.front.even fold other

/-! ## The run -/

/-- A category of twenty tasks is dealt. -/
theorem exists_placeCategory {category : String} (htwenty : (categoryTasks rows category).length = 20)
    (state : FoldState) :
    ∃ (state' : FoldState) (part : Fold → List String),
      placeCategory rows state category = .ok state' ∧ Dealt rows category part ∧
        ∀ fold, state'.tasks fold = state.tasks fold ++ part fold := by
  have hsorted := (KeySort.sortBy_perm (taskKey rows) (categoryTasks rows category)).length_eq
  rw [htwenty] at hsorted
  obtain ⟨state', folds, hrun, hfolds, hgreedy, htasks⟩ := @exists_foldlM_placeTask _ rows
    (KeySort.sortBy (taskKey rows) (categoryTasks rows category)) state [] Greedy.nil (by rw [hsorted, List.length_nil])
  rw [List.nil_append] at hgreedy
  refine ⟨state', _, ?_, dealt_of_greedy htwenty (hfolds.trans hsorted) hgreedy, htasks⟩
  rw [placeCategory]
  change (if (categoryTasks rows category).length ≠ 20 then _ else _) = _
  rw [if_neg (not_not.mpr htwenty)]
  exact congrArg (· >>= fun placed => pure placed.1) hrun

/-- The categories are dealt one after another. -/
theorem exists_foldlM_placeCategory {categories : List String} (hnodup : categories.Nodup)
    (htwenty : ∀ category ∈ categories, (categoryTasks rows category).length = 20) (state : FoldState) :
    ∃ (state' : FoldState) (parts : String → Fold → List String), categories.foldlM (placeCategory rows) state = .ok state' ∧
      (∀ category ∈ categories, Dealt rows category (parts category)) ∧
      ∀ fold, state'.tasks fold = state.tasks fold ++ categories.flatMap fun category => parts category fold := by
  induction categories generalizing state with
  | nil =>
    refine ⟨state, fun _ _ => [], rfl, fun category h => absurd h List.not_mem_nil, fun fold => ?_⟩
    exact (List.append_nil _).symm
  | cons category categories ih =>
    obtain ⟨hfirst, hrest⟩ := List.forall_mem_cons.mp htwenty
    obtain ⟨hnotmem, hnodup⟩ := List.nodup_cons.mp hnodup
    obtain ⟨middle, part, hplace, hpart, hmiddle⟩ := exists_placeCategory hfirst state
    obtain ⟨state', parts, hrun, hparts, hstate⟩ := ih hnodup hrest middle
    have hother : ∀ other ∈ categories, Function.update parts category part other = parts other := by
      intro other hmem
      refine Function.update_of_ne (fun h => ?_) _ _
      rw [h] at hmem
      exact hnotmem hmem
    refine ⟨state', Function.update parts category part, ?_, ?_, fun fold => ?_⟩
    · rw [List.foldlM_cons, hplace, Except.ok_bind]
      exact hrun
    · refine List.forall_mem_cons.mpr ⟨?_, fun other hmem => ?_⟩
      · rw [Function.update_self]
        exact hpart
      · rw [hother other hmem]
        exact hparts other hmem
    · have hlater : (categories.flatMap fun other => Function.update parts category part other fold) =
          categories.flatMap fun other => parts other fold :=
        List.flatMap_congr fun other hmem => by rw [hother other hmem]
      rw [hstate, hmiddle, List.flatMap_cons, Function.update_self, hlater, List.append_assoc]

/-! ## The shape, as the code reads it -/

theorem GroupedShape.oneCategory (h : GroupedShape rows) : OneCategory rows := h.one_category

theorem mem_sortedCategories (h : OneCategory rows) {category : String} :
    category ∈ sortedCategories rows ↔ ∃ row ∈ rows, row.category = category := by
  rw [sortedCategories, KeySort.mem_sortBy, List.mem_dedup, List.mem_map]
  constructor
  · rintro ⟨task, htask, rfl⟩
    obtain ⟨row, hrow, rfl⟩ := mem_taskIds.mp htask
    exact ⟨row, hrow, (categoryOf_eq h hrow).symm⟩
  · rintro ⟨row, hrow, rfl⟩
    exact ⟨row.taskId, mem_taskIds.mpr ⟨row, hrow, rfl⟩, categoryOf_eq h hrow⟩

theorem nodup_sortedCategories : (sortedCategories rows).Nodup :=
  (KeySort.sortBy_perm id _).nodup_iff.mpr (List.nodup_dedup _)

/-- There are as many categories as the rows name. -/
theorem GroupedShape.length_sortedCategories (h : GroupedShape rows) : (sortedCategories rows).length = 7 := by
  rw [← h.seven_categories]
  refine List.Perm.length_eq ((List.perm_ext_iff_of_nodup nodup_sortedCategories (List.nodup_dedup _)).mpr ?_)
  intro category
  rw [mem_sortedCategories h.oneCategory, List.mem_dedup, List.mem_map]

/-- The tasks of a category are those of its rows. -/
theorem categoryTasks_perm (h : OneCategory rows) (category : String) :
    (categoryTasks rows category).Perm ((rows.filter (·.category = category)).map (·.taskId)).dedup := by
  refine (List.perm_ext_iff_of_nodup (nodup_taskIds.filter _) (List.nodup_dedup _)).mpr fun task => ?_
  rw [List.mem_filter, List.mem_dedup, List.mem_map, mem_taskIds, decide_eq_true_iff]
  constructor
  · rintro ⟨⟨row, hrow, rfl⟩, hcategory⟩
    rw [categoryOf_eq h hrow] at hcategory
    exact ⟨row, List.mem_filter.mpr ⟨hrow, decide_eq_true hcategory⟩, rfl⟩
  · rintro ⟨row, hrow, rfl⟩
    obtain ⟨hrow, hcategory⟩ := List.mem_filter.mp hrow
    refine ⟨⟨row, hrow, rfl⟩, ?_⟩
    rw [categoryOf_eq h hrow]
    exact of_decide_eq_true hcategory

theorem GroupedShape.length_categoryTasks (h : GroupedShape rows) :
    ∀ category ∈ sortedCategories rows, (categoryTasks rows category).length = 20 := by
  intro category hcategory
  obtain ⟨row, hrow, rfl⟩ := (mem_sortedCategories h.oneCategory).mp hcategory
  rw [(categoryTasks_perm h.oneCategory row.category).length_eq]
  exact h.twenty_tasks row hrow

/-- The tasks are those of the categories. -/
theorem flatMap_categoryTasks_perm (h : OneCategory rows) :
    ((sortedCategories rows).flatMap (categoryTasks rows)).Perm (taskIds rows) := by
  refine Grouping.flatMap_filter_key_perm nodup_sortedCategories fun task htask => ?_
  rw [mem_sortedCategories h]
  obtain ⟨row, hrow, rfl⟩ := mem_taskIds.mp htask
  exact ⟨row, hrow, (categoryOf_eq h hrow).symm⟩

theorem GroupedShape.length_taskIds (h : GroupedShape rows) : (taskIds rows).length = 140 := by
  have hlengths : (sortedCategories rows).map (fun category => (categoryTasks rows category).length) =
      (sortedCategories rows).map fun _ => 20 :=
    List.map_congr_left h.length_categoryTasks
  rw [← (flatMap_categoryTasks_perm h.oneCategory).length_eq, List.length_flatMap, hlengths, List.map_const',
    List.sum_replicate, h.length_sortedCategories]
  rfl

/-- The state after the categories were dealt. -/
structure DealtState (rows : List (ExperimentRow φ)) (state : FoldState) (parts : String → Fold → List String) :
    Prop where
  run : (sortedCategories rows).foldlM (placeCategory rows) FoldState.empty = .ok state
  dealt : ∀ category ∈ sortedCategories rows, Dealt rows category (parts category)
  tasks : ∀ fold, state.tasks fold = (sortedCategories rows).flatMap fun category => parts category fold

theorem GroupedShape.exists_dealtState (h : GroupedShape rows) : ∃ state parts, DealtState rows state parts := by
  obtain ⟨state, parts, hrun, hparts, htasks⟩ :=
    exists_foldlM_placeCategory nodup_sortedCategories h.length_categoryTasks FoldState.empty
  exact ⟨state, parts, hrun, hparts, fun fold => (htasks fold).trans (List.nil_append _)⟩

variable {state : FoldState} {parts : String → Fold → List String}

/-- The tasks of a part are of its category. -/
theorem Dealt.mem {category : String} {part : Fold → List String} (h : Dealt rows category part) {fold : Fold}
    {task : String} (htask : task ∈ part fold) : task ∈ taskIds rows ∧ categoryOf rows task = category := by
  have hmem : task ∈ categoryTasks rows category :=
    h.perm.mem_iff.mp (List.mem_flatMap.mpr ⟨fold, List.mem_finRange fold, htask⟩)
  obtain ⟨hmem, hcategory⟩ := List.mem_filter.mp hmem
  exact ⟨hmem, of_decide_eq_true hcategory⟩

/-- The tasks of a category in a fold are its part. -/
theorem DealtState.filter_category (h : DealtState rows state parts) {category : String}
    (hcategory : category ∈ sortedCategories rows) (fold : Fold) :
    (state.tasks fold).filter (categoryOf rows · = category) = parts category fold := by
  have hfilter : ∀ other ∈ sortedCategories rows, (parts other fold).filter (categoryOf rows · = category) =
      if other = category then parts category fold else [] := by
    intro other hother
    by_cases heq : other = category
    · subst heq
      rw [if_pos rfl]
      exact List.filter_eq_self.mpr fun task htask => decide_eq_true ((h.dealt other hother).mem htask).2
    · rw [if_neg heq]
      refine List.filter_eq_nil_iff.mpr fun task htask hdec => heq ?_
      rw [← ((h.dealt other hother).mem htask).2]
      exact of_decide_eq_true hdec
  have hone : ∀ categories : List String, categories.Nodup → category ∈ categories →
      (categories.flatMap fun other => if other = category then parts category fold else []) = parts category fold := by
    intro categories hnodup hmem
    induction categories with
    | nil => cases hmem
    | cons other categories ih =>
      obtain ⟨hnotmem, hnodup⟩ := List.nodup_cons.mp hnodup
      rw [List.flatMap_cons]
      by_cases heq : other = category
      · subst heq
        have hnil : (categories.flatMap fun o => if o = other then parts other fold else []) = [] := by
          refine List.flatMap_eq_nil_iff.mpr fun o ho => if_neg fun hsame => hnotmem ?_
          rwa [← hsame]
        rw [if_pos rfl, hnil, List.append_nil]
      · rw [if_neg heq, List.nil_append]
        exact ih hnodup ((List.mem_cons.mp hmem).resolve_left fun hsame => heq hsame.symm)
  rw [h.tasks fold, List.filter_flatMap, List.flatMap_congr hfilter]
  exact hone _ nodup_sortedCategories hcategory

/-- Every task is dealt to one fold. -/
theorem DealtState.flatMap_tasks_perm (h : DealtState rows state parts) (hone : OneCategory rows) :
    ((List.finRange 5).flatMap state.tasks).Perm (taskIds rows) := by
  have htasks : (List.finRange 5).flatMap state.tasks =
      (List.finRange 5).flatMap fun fold => (sortedCategories rows).flatMap fun category => parts category fold :=
    List.flatMap_congr fun fold _ => h.tasks fold
  rw [htasks]
  refine (Grouping.flatMap_comm _ _ _).trans ?_
  refine (List.Perm.flatMap_left _ fun category hcategory => ?_).trans (flatMap_categoryTasks_perm hone)
  exact (h.dealt category hcategory).perm

theorem DealtState.mem_taskIds_of_mem (h : DealtState rows state parts) {fold : Fold} {task : String}
    (htask : task ∈ state.tasks fold) : task ∈ taskIds rows := by
  rw [h.tasks] at htask
  obtain ⟨category, hcategory, htask⟩ := List.mem_flatMap.mp htask
  exact ((h.dealt category hcategory).mem htask).1

theorem DealtState.length_tasks (h : DealtState rows state parts) (hshape : GroupedShape rows) (fold : Fold) :
    (state.tasks fold).length = 28 := by
  have hlengths : (sortedCategories rows).map (fun category => (parts category fold).length) =
      (sortedCategories rows).map fun _ => 4 :=
    List.map_congr_left fun category hcategory => (h.dealt category hcategory).four fold
  rw [h.tasks, List.length_flatMap, hlengths, List.map_const', List.sum_replicate, hshape.length_sortedCategories]
  rfl

/-! ## The assignments -/

/-- The assignment of a fold that passes the check. -/
def assignmentOf (rows : List (ExperimentRow φ)) (state : FoldState) (fold : Fold) : FoldAssignment where
  fold := fold
  taskIds := KeySort.sortBy id (state.tasks fold)
  requestCount := (state.tasks fold).length
  categoryCounts := categoryCounts rows (state.tasks fold)
  validRows := foldCount rows isValid (state.tasks fold)
  positive := foldCount rows isPositive (state.tasks fold)
  negative := foldCount rows isNegative (state.tasks fold)
  missing := foldCount rows isMissing (state.tasks fold)

/-- Every category has four tasks in a fold. -/
theorem DealtState.count_category (h : DealtState rows state parts) {category : String}
    (hcategory : category ∈ sortedCategories rows) (fold : Fold) :
    ((state.tasks fold).filter (categoryOf rows · = category)).length = 4 := by
  rw [h.filter_category hcategory]
  exact (h.dealt category hcategory).four fold

theorem DealtState.foldAssignment_eq (h : DealtState rows state parts) (hshape : GroupedShape rows) (fold : Fold) :
    foldAssignment rows state fold = .ok (assignmentOf rows state fold) := by
  have hfour : ((categoryCounts rows (state.tasks fold)).map Prod.snd).dedup = [4] := by
    have hcounts : (categoryCounts rows (state.tasks fold)).map Prod.snd =
        (KeySort.sortBy id ((state.tasks fold).map (categoryOf rows)).dedup).map fun _ => 4 := by
      rw [categoryCounts, List.map_map]
      refine List.map_congr_left fun category hcategory => ?_
      rw [KeySort.mem_sortBy, List.mem_dedup, List.mem_map] at hcategory
      obtain ⟨task, htask, rfl⟩ := hcategory
      have hmem : categoryOf rows task ∈ sortedCategories rows := by
        rw [sortedCategories, KeySort.mem_sortBy, List.mem_dedup]
        exact List.mem_map_of_mem (h.mem_taskIds_of_mem htask)
      rw [← h.count_category hmem fold, Function.comp_apply, List.count, List.countP_map, List.countP_eq_length_filter]
      refine congrArg List.length (List.filter_congr fun other _ => ?_)
      rfl
    have hne : (KeySort.sortBy id ((state.tasks fold).map (categoryOf rows)).dedup).length ≠ 0 := by
      intro hzero
      have hlength := h.length_tasks hshape fold
      rw [(KeySort.sortBy_perm _ _).length_eq, List.length_eq_zero_iff, List.dedup_eq_nil, List.map_eq_nil_iff] at hzero
      rw [hzero] at hlength
      cases hlength
    rw [hcounts, List.map_const', List.replicate_dedup hne]
  rw [foldAssignment, if_neg]
  · rfl
  · rintro (hlength | hcounts)
    · exact hlength (h.length_tasks hshape fold)
    · exact hcounts hfour

/-- The tasks of the assignments are the tasks. -/
theorem DealtState.taskIds_perm (h : DealtState rows state parts) (hone : OneCategory rows) :
    (((List.finRange 5).map (assignmentOf rows state)).flatMap (·.taskIds)).Perm (taskIds rows) := by
  rw [List.flatMap_map]
  refine (List.Perm.flatMap_left _ fun fold _ => ?_).trans (h.flatMap_tasks_perm hone)
  exact KeySort.sortBy_perm id (state.tasks fold)

/-- The folds are built. -/
theorem DealtState.buildGroupedFolds_eq (h : DealtState rows state parts) (hshape : GroupedShape rows) :
    buildGroupedFolds rows = .ok ((List.finRange 5).map (assignmentOf rows state)) := by
  have hassignments : (List.finRange 5).mapM (foldAssignment rows state) =
      .ok ((List.finRange 5).map (assignmentOf rows state)) := by
    rw [List.mapM_eq_ok, List.forall₂_map_right_iff]
    exact List.forall₂_same.mpr fun fold _ => h.foldAssignment_eq hshape fold
  have hperm := h.taskIds_perm hshape.oneCategory
  have hlength : (((List.finRange 5).map (assignmentOf rows state)).flatMap (·.taskIds)).dedup.length = 140 := by
    rw [List.dedup_eq_self.mpr (hperm.nodup_iff.mpr nodup_taskIds), hperm.length_eq, hshape.length_taskIds]
  rw [buildGroupedFolds, h.run, Except.ok_bind, hassignments, Except.ok_bind, if_neg (not_not.mpr hlength)]
  rfl

/-- The counts of the folds add up to the count of the rows. -/
theorem DealtState.sum_foldCount (h : DealtState rows state parts) (hone : OneCategory rows)
    (p : ExperimentRow φ → Bool) :
    ((List.finRange 5).map fun fold => foldCount rows p (state.tasks fold)).sum = rows.countP p := by
  have hrows : ((taskIds rows).flatMap (rowsOf rows)).Perm rows :=
    Grouping.flatMap_filter_key_perm nodup_taskIds fun row hrow => mem_taskIds.mpr ⟨row, hrow, rfl⟩
  rw [← hrows.countP_eq, List.countP_flatMap, ← ((h.flatMap_tasks_perm hone).map _).sum_eq]
  exact Grouping.sum_map_flatMap _ _ _

/-! ## The order of the rows -/

variable {rows' : List (ExperimentRow φ)}

theorem rowCount_perm (h : rows'.Perm rows) : rowCount rows' = rowCount rows := by
  funext p task
  exact (h.filter _).countP_eq p

theorem OneCategory.perm (hone : OneCategory rows) (h : rows'.Perm rows) : OneCategory rows' := by
  intro row hrow row' hrow'
  exact hone row (h.mem_iff.mp hrow) row' (h.mem_iff.mp hrow')

theorem categoryOf_perm (hone : OneCategory rows) (h : rows'.Perm rows) : categoryOf rows' = categoryOf rows := by
  funext task
  by_cases htask : task ∈ taskIds rows
  · obtain ⟨row, hrow, rfl⟩ := mem_taskIds.mp htask
    rw [categoryOf_eq hone hrow, categoryOf_eq (hone.perm h) (h.mem_iff.mpr hrow)]
  · have hnone : rowsOf rows task = [] := by
      refine List.filter_eq_nil_iff.mpr fun row hrow hdec => htask ?_
      exact mem_taskIds.mpr ⟨row, hrow, of_decide_eq_true hdec⟩
    have hnone' : rowsOf rows' task = [] := by
      have hperm : (rowsOf rows' task).Perm (rowsOf rows task) := h.filter _
      rw [hnone] at hperm
      exact hperm.eq_nil
    rw [categoryOf, categoryOf, hnone, hnone']

theorem taskIds_perm (h : rows'.Perm rows) : (taskIds rows').Perm (taskIds rows) := (h.map _).dedup

theorem taskKey_injective : Function.Injective (taskKey rows) := by
  intro task task' h
  exact congrArg (fun key => (ofLex (ofLex key).2).2) h

/-- **The folds do not depend on the order of the rows.** -/
theorem buildGroupedFolds_perm (hone : OneCategory rows) (h : rows'.Perm rows) :
    buildGroupedFolds rows' = buildGroupedFolds rows := by
  have hcount := rowCount_perm h
  have hcategory := categoryOf_perm hone h
  have hkey : taskKey rows' = taskKey rows := by
    funext task
    rw [taskKey, taskKey, hcount]
  have hcategories : sortedCategories rows' = sortedCategories rows := by
    rw [sortedCategories, sortedCategories, hcategory]
    refine KeySort.sortBy_congr ?_ ((taskIds_perm h).map _).dedup
    rw [List.map_id]
    exact List.nodup_dedup _
  have hplaceTask : placeTask rows' = placeTask rows := by
    funext current task
    rw [placeTask, placeTask]
    simp only [FoldState.add, hcount]
  have hplace : placeCategory rows' = placeCategory rows := by
    funext current category
    have hperm : ((taskIds rows').filter (categoryOf rows' · = category)).Perm
        ((taskIds rows).filter (categoryOf rows · = category)) := by
      rw [hcategory]
      exact (taskIds_perm h).filter _
    have hsorted : KeySort.sortBy (taskKey rows') ((taskIds rows').filter (categoryOf rows' · = category)) =
        KeySort.sortBy (taskKey rows) ((taskIds rows).filter (categoryOf rows · = category)) := by
      rw [hkey]
      exact KeySort.sortBy_congr ((nodup_taskIds.filter _).map taskKey_injective) hperm
    rw [placeCategory, placeCategory, hsorted, hperm.length_eq, hplaceTask]
  have hcounts : categoryCounts rows' = categoryCounts rows := by
    funext tasks
    rw [categoryCounts, categoryCounts, hcategory]
  have hfold : foldCount rows' = foldCount rows := by
    funext p tasks
    rw [foldCount, foldCount, hcount]
  have hassign : foldAssignment rows' = foldAssignment rows := by
    funext state fold
    rw [foldAssignment, foldAssignment, hcounts, hfold]
  rw [buildGroupedFolds, buildGroupedFolds, hcategories, hplace, hassign]

end Retraining

end RouteLLM
