import RouteLLM.Benchmarks.CategoryDetector
import RouteLLM.Benchmarks.ConstructedTasks

/-!
# The projection and the data set

When the projection of a manifest is accepted, and how its records agree with the constructed tasks.
Acceptance does not depend on the order of the entries; the prompt of a record does, since the entries of
a family meet its variants by position.
-/

namespace RouteLLM.RoutingBenchmark

open Labels

variable {table : FamilyTable} {dataset : BenchmarkDataset} {split : String} {entries : List PyJson}

/-! ## Entries -/

/-- The text under a field of an entry, where there is one. -/
def textOf (field : String) (entry : PyJson) : PyStr :=
  match getItem field entry with
  | .ok (.str s) => s
  | _ => []

/-- What a record shows as its category. -/
def shownCategory (entry : PyJson) : PyJson := (categoryItem entry).toOption.getD .null

/-- The record that an entry and a variant give. -/
def record (split : String) (entry : PyJson) (variant : FamilyVariant) : DetectorPrompt :=
  ⟨textOf "task_id" entry, split, shownCategory entry, variant.prompt⟩

/-- A nonempty text is read where the entry has one. -/
theorem textItem_eq_ok {field message : String} {entry : PyJson} {s : PyStr} :
    textItem field message entry = .ok s ↔
      getItem field entry = .ok (.str s) ∧ s ≠ [] := by
  unfold textItem
  rw [Except.bind_eq_ok]
  constructor
  · intro h
    obtain ⟨v, hv, h⟩ := h
    split at h
    · cases h
      exact ⟨hv, List.cons_ne_nil _ _⟩
    · cases h
  · intro h
    refine ⟨.str s, h.1, ?_⟩
    cases s with
    | nil => exact absurd rfl h.2
    | cons c cs => rfl

/-- An entry with a nonempty text under a field. -/
def HasText (field : String) (entry : PyJson) : Prop :=
  ∃ s, getItem field entry = .ok (.str s) ∧ s ≠ []

theorem textItem_eq_ok_iff {field message : String} (entry : PyJson) (s : PyStr) :
    textItem field message entry = .ok s ↔ HasText field entry ∧ s = textOf field entry := by
  rw [textItem_eq_ok]
  constructor
  · intro h
    refine ⟨⟨s, h⟩, ?_⟩
    rw [textOf, h.1]
  · intro h
    obtain ⟨⟨t, ht, hne⟩, hs⟩ := h
    rw [textOf, ht] at hs
    rw [hs]
    exact ⟨ht, hne⟩

/-- An entry that a record of the category can be made of. -/
structure Recordable (category : TaskCategory) (entry : PyJson) : Prop where
  internal : ∃ value, getItem "internal_category" entry = .ok value ∧
    value.isText (PyStr.ofString category.value) = true
  taskId : HasText "task_id" entry
  shown : ∃ value, categoryItem entry = .ok value

/-- A record is made of such an entry and a prompt. -/
theorem recordOf_eq_ok {category : TaskCategory} {entry : PyJson} {variant : FamilyVariant}
    {r : DetectorPrompt} :
    recordOf split category entry variant = .ok r ↔
      Recordable category entry ∧ variant.prompt ≠ "" ∧ r = record split entry variant := by
  unfold recordOf
  constructor
  · intro h
    obtain ⟨internal, hinternal, h⟩ := Except.bind_eq_ok.mp h
    obtain ⟨htext, h⟩ := Except.guard_eq_ok.mp h
    obtain ⟨hprompt, h⟩ := Except.guard_eq_ok.mp h
    obtain ⟨id, hid, h⟩ := Except.bind_eq_ok.mp h
    obtain ⟨shown, hshown, h⟩ := Except.bind_eq_ok.mp h
    obtain ⟨hhas, hid⟩ := (textItem_eq_ok_iff _ _).mp hid
    refine ⟨⟨⟨internal, hinternal, not_not.mp htext⟩, hhas, ⟨shown, hshown⟩⟩, hprompt, ?_⟩
    rw [← Except.pure_eq_ok.mp h, hid, record, shownCategory, hshown]
    rfl
  · intro h
    obtain ⟨⟨⟨internal, hinternal, htext⟩, hhas, ⟨shown, hshown⟩⟩, hprompt, hr⟩ := h
    rw [hinternal, Except.ok_bind]
    refine Except.guard_eq_ok.mpr ⟨not_not.mpr htext, Except.guard_eq_ok.mpr ⟨hprompt, ?_⟩⟩
    rw [(textItem_eq_ok_iff _ _).mpr ⟨hhas, rfl⟩, Except.ok_bind, hshown, hr, record, shownCategory,
      hshown]
    rfl

/-! ## Families -/

/-- As many entries as variants are recorded one by one. -/
theorem zipRecords_eq_ok {category : TaskCategory} {own : List PyJson} {variants : List FamilyVariant}
    {records : List DetectorPrompt} (hlength : own.length = variants.length) :
    zipRecords split category own variants = .ok records ↔
      (∀ entry ∈ own, Recordable category entry) ∧ (∀ variant ∈ variants, variant.prompt ≠ "") ∧
        records = List.zipWith (record split) own variants := by
  induction own generalizing variants records with
  | nil =>
    cases variants with
    | nil =>
      rw [zipRecords, List.zipWith_nil_left, Except.ok.injEq, eq_comm]
      · exact ⟨fun h => ⟨List.forall_mem_nil _, List.forall_mem_nil _, h⟩, fun h => h.2.2⟩
      · intro entry own variant variants hown
        cases hown
    | cons variant variants => cases hlength
  | cons entry own ih =>
    cases variants with
    | nil => cases hlength
    | cons variant variants =>
      have ih := fun records => @ih variants records (Nat.succ.inj hlength)
      rw [zipRecords, List.forall_mem_cons, List.forall_mem_cons, List.zipWith_cons_cons]
      constructor
      · intro h
        obtain ⟨r, hr, h⟩ := Except.bind_eq_ok.mp h
        obtain ⟨rs, hrs, h⟩ := Except.bind_eq_ok.mp h
        obtain ⟨hentry, hprompt, hr⟩ := recordOf_eq_ok.mp hr
        obtain ⟨hown, hprompts, hrs⟩ := (ih rs).mp hrs
        exact ⟨⟨hentry, hown⟩, ⟨hprompt, hprompts⟩, by rw [← Except.pure_eq_ok.mp h, hr, hrs]⟩
      · intro h
        obtain ⟨⟨hentry, hown⟩, ⟨hprompt, hprompts⟩, hrecords⟩ := h
        rw [recordOf_eq_ok.mpr ⟨hentry, hprompt, rfl⟩, Except.ok_bind,
          (ih _).mpr ⟨hown, hprompts, rfl⟩, hrecords]
        rfl

/-- The entries with their family ids. -/
def withFamilies (entries : List PyJson) : List (PyStr × PyJson) :=
  (entries.map (textOf "task_family_id")).zip entries

/-- The entries of a planned family. -/
def PlannedFamily.own (planned : PlannedFamily) (entries : List PyJson) : List PyJson :=
  entries.filter fun entry => textOf "task_family_id" entry = PyStr.ofString planned.familyId

theorem entriesOfFamily_eq (planned : PlannedFamily) :
    entriesOfFamily (withFamilies entries) (PyStr.ofString planned.familyId) =
      planned.own entries := by
  have hzip : withFamilies entries =
      entries.map fun entry => (textOf "task_family_id" entry, entry) := by
    rw [withFamilies, List.zip_map_left]
    induction entries with
    | nil => rfl
    | cons entry entries ih =>
      rw [List.zip_cons_cons, List.map_cons, List.map_cons, ih]
      rfl
  rw [entriesOfFamily, hzip, List.filter_map, List.map_map, PlannedFamily.own]
  exact List.map_id _

/-- A family that the entries fit. -/
structure Fits (entries : List PyJson) (planned : PlannedFamily) : Prop where
  length_eq : (planned.own entries).length = planned.spec.variants.length
  recordable : ∀ entry ∈ planned.own entries, Recordable planned.category entry
  prompts : ∀ variant ∈ planned.spec.variants, variant.prompt ≠ ""

/-- The records of a family. -/
def PlannedFamily.records (planned : PlannedFamily) (split : String) (entries : List PyJson) :
    List DetectorPrompt :=
  List.zipWith (record split) (planned.own entries) planned.spec.variants

theorem familyRecords_eq_ok (planned : PlannedFamily) (records : List DetectorPrompt) :
    familyRecords split (withFamilies entries) planned.category planned.index planned.spec =
      .ok records ↔ Fits entries planned ∧ records = planned.records split entries := by
  have hown : entriesOfFamily (withFamilies entries) (PyStr.ofString
      (familyIdText planned.category planned.index planned.spec.slug)) = planned.own entries :=
    entriesOfFamily_eq planned
  rw [familyRecords, hown, Except.guard_eq_ok, not_not]
  constructor
  · intro h
    obtain ⟨hlength, h⟩ := h
    obtain ⟨hown, hprompts, hrecords⟩ := (zipRecords_eq_ok hlength).mp h
    exact ⟨⟨hlength, hown, hprompts⟩, hrecords⟩
  · intro h
    obtain ⟨⟨hlength, hown, hprompts⟩, hrecords⟩ := h
    exact ⟨hlength, (zipRecords_eq_ok hlength).mpr ⟨hown, hprompts, hrecords⟩⟩

/-- Families are materialized at distinct indexes of the table. -/
theorem materialize_eq_ok {families specs : List FamilySpec} {indexes : List ℕ} :
    materialize families indexes = .ok specs ↔
      indexes.Nodup ∧ List.Forall₂ (fun i spec => families[i]? = some spec) indexes specs := by
  rw [materialize, Except.guard_eq_ok, not_not, List.mapM_eq_ok]
  refine and_congr_right fun _ => ⟨fun h => h.imp ?_, fun h => h.imp ?_⟩
  · intro i spec h
    split at h
    · rename_i family hfamily
      rw [hfamily, Except.ok.inj h]
    · cases h
  · intro i spec h
    rw [h]

/-- The plan of a category pairs its indexes and its families. -/
theorem categoryPlan_eq {category : TaskCategory} {indexes : List ℕ} {specs : List FamilySpec}
    (h : List.Forall₂ (fun i spec => (table category)[i]? = some spec) indexes specs) :
    categoryPlan table indexes category =
      (indexes.zip specs).map fun f => ⟨category, f.1, f.2⟩ := by
  induction h with
  | nil => rfl
  | cons hspec _ ih =>
    rw [List.zip_cons_cons, List.map_cons, ← ih, categoryPlan, List.filterMap_cons, hspec]
    rfl

/-- The records of a category are those of its families. -/
theorem categoryRecords_eq_ok {indexes : List ℕ} (category : TaskCategory)
    (records : List DetectorPrompt) :
    categoryRecords table split indexes (withFamilies entries) category = .ok records ↔
      (indexes.Nodup ∧ (∀ i ∈ indexes, ∃ spec, (table category)[i]? = some spec) ∧
        ∀ planned ∈ categoryPlan table indexes category, Fits entries planned) ∧
      records = (categoryPlan table indexes category).flatMap (·.records split entries) := by
  have hrecords : ∀ {specs : List FamilySpec} {rss : List (List DetectorPrompt)},
      List.Forall₂ (fun i spec => (table category)[i]? = some spec) indexes specs →
      (((indexes.zip specs).mapM fun f =>
        familyRecords split (withFamilies entries) category f.1 f.2) = .ok rss ↔
        (∀ planned ∈ categoryPlan table indexes category, Fits entries planned) ∧
        rss = (categoryPlan table indexes category).map (·.records split entries)) := by
    intro specs rss hspecs
    rw [categoryPlan_eq hspecs]
    refine Iff.trans (Eq.to_iff (congrArg (· = Except.ok rss) ?_))
      (List.mapM_eq_ok_map familyRecords_eq_ok)
    rw [List.mapM_map]
    rfl
  unfold categoryRecords
  constructor
  · intro h
    obtain ⟨specs, hspecs, h⟩ := Except.bind_eq_ok.mp h
    obtain ⟨hnodup, hspecs⟩ := materialize_eq_ok.mp hspecs
    obtain ⟨_, h⟩ := Except.guard_eq_ok.mp h
    obtain ⟨rss, hrss, h⟩ := Except.bind_eq_ok.mp h
    obtain ⟨hfits, hrss⟩ := (hrecords hspecs).mp hrss
    refine ⟨⟨hnodup, ?_, hfits⟩, ?_⟩
    · intro i hi
      obtain ⟨spec, _, hspec⟩ := hspecs.exists_of_mem hi
      exact ⟨spec, hspec⟩
    · rw [← Except.pure_eq_ok.mp h, hrss, List.flatMap_def]
  · intro h
    obtain ⟨⟨hnodup, hsome, hfits⟩, hrec⟩ := h
    obtain ⟨specs, hspecs⟩ := exists_forall₂ hsome
    rw [materialize_eq_ok.mpr ⟨hnodup, hspecs⟩, Except.ok_bind]
    refine Except.guard_eq_ok.mpr ⟨not_not.mpr hspecs.length_eq.symm, ?_⟩
    rw [(hrecords hspecs).mpr ⟨hfits, rfl⟩, Except.ok_bind, hrec, List.flatMap_def]
    rfl

/-! ## Acceptance -/

/-- The records of all families. -/
def projected (table : FamilyTable) (indexes : List ℕ) (split : String) (entries : List PyJson) :
    List DetectorPrompt :=
  (plan table indexes).flatMap (·.records split entries)

/-- The ids of the families in the plan are those that are consumed. -/
theorem consumedFamilies_eq (indexes : List ℕ) :
    consumedFamilies table indexes =
      (plan table indexes).map fun planned => PyStr.ofString planned.familyId := by
  rw [plan, List.map_flatMap, consumedFamilies]
  refine List.flatMap_congr fun category _ => ?_
  rw [categoryPlan, List.map_filterMap]
  refine List.filterMap_congr fun i _ => ?_
  rw [Option.map_map]
  rfl

/-- Entries in families of the plan are recorded once each. -/
theorem projected_perm {indexes : List ℕ} (hnodup : indexes.Nodup) (hlt : ∀ i ∈ indexes, i < 99)
    (hfits : ∀ planned ∈ plan table indexes, Fits entries planned)
    (hplanned : entries.map (textOf "task_family_id") ⊆ consumedFamilies table indexes) :
    ((projected table indexes split entries).map fun r => (r.taskId, r.category)).Perm
      (entries.map fun entry => (textOf "task_id" entry, shownCategory entry)) := by
  have hids : (consumedFamilies table indexes).Nodup := by
    rw [consumedFamilies_eq]
    have hplaces : ∀ p ∈ plan table indexes,
        p.index < 99 ∧ (table p.category)[p.index]? = some p.spec :=
      fun p hp => ⟨hlt _ (mem_plan.mp hp).1, (mem_plan.mp hp).2⟩
    have hnodup := (nodup_familyIds (nodup_plan hnodup) hplaces).map PyStr.ofString_injective
    rwa [List.map_map] at hnodup
  have hrecords : ((projected table indexes split entries).map fun r => (r.taskId, r.category)) =
      ((plan table indexes).flatMap (·.own entries)).map fun entry =>
        (textOf "task_id" entry, shownCategory entry) := by
    rw [projected, List.map_flatMap, List.map_flatMap]
    refine List.flatMap_congr fun planned hmem => ?_
    rw [PlannedFamily.records, List.map_zipWith]
    have hlength := (hfits planned hmem).length_eq
    generalize planned.own entries = own at hlength
    generalize planned.spec.variants = variants at hlength
    induction own generalizing variants with
    | nil => rfl
    | cons entry own ih =>
      cases variants with
      | nil => cases hlength
      | cons variant variants =>
        rw [List.zipWith_cons_cons, List.map_cons, ih _ (Nat.succ.inj hlength)]
        rfl
  have hown : (plan table indexes).flatMap (·.own entries) =
      (consumedFamilies table indexes).flatMap fun id =>
        entries.filter fun entry => textOf "task_family_id" entry = id := by
    rw [consumedFamilies_eq, List.flatMap_map]
    rfl
  rw [hrecords, hown]
  refine (flatMap_filter_perm hids fun entry hentry => ?_).map _
  exact hplanned (List.mem_map_of_mem hentry)

/-- The number of tasks of a category in a split. -/
def expectedPerSplit (split : String) : ℕ := if split = "train" then 20 else 6

/-- The key of what a record shows as its category. -/
def shownKey (entry : PyJson) : HashKey := (shownCategory entry).hashKey?.getD .null

/-- The entries that the projection of a split accepts, in any order. -/
structure Acceptable (table : FamilyTable) (split : String) (indexes : List ℕ)
    (manifestSplit : BenchmarkSplit) (entries : List PyJson) : Prop where
  taskId : ∀ entry ∈ entries, HasText "task_id" entry
  nodup : (entries.map (textOf "task_id")).Nodup
  split_eq : ∀ entry ∈ entries, namesSplit manifestSplit.value entry = .ok ()
  familyId : ∀ entry ∈ entries, HasText "task_family_id" entry
  indexes_nodup : indexes.Nodup
  materialized : ∀ (category : TaskCategory), ∀ i ∈ indexes, ∃ spec, (table category)[i]? = some spec
  fits : ∀ planned ∈ plan table indexes, Fits entries planned
  consumed : consumedFamilies table indexes ⊆ entries.map (textOf "task_family_id")
  planned : entries.map (textOf "task_family_id") ⊆ consumedFamilies table indexes
  hashable : ∀ entry ∈ entries, ∃ key, (shownCategory entry).hashKey? = some key
  balance : counterEq (entries.map shownKey) (expectedDisplay (expectedPerSplit split))
  count : entries.length = expectedPerSplit split * categories.length

/-- A comparison of counters does not depend on the order of the keys. -/
theorem counterEq_perm {α : Type*} [DecidableEq α] {keys keys' : List α} {expected : List (α × ℕ)}
    (h : keys.Perm keys') : counterEq keys expected ↔ counterEq keys' expected := by
  simp only [counterEq, h.count_eq, h.mem_iff]

theorem categoryKey_eq_ok (r : DetectorPrompt) (key : HashKey) :
    categoryKey r = .ok key ↔
      (∃ key, r.category.hashKey? = some key) ∧ key = r.category.hashKey?.getD .null := by
  unfold categoryKey
  cases hkey : r.category.hashKey? with
  | none => simp
  | some found => simp [eq_comm]

/-- The families that are read are those of the entries. -/
theorem mapM_families {familyIds : List PyStr}
    (h : entries.mapM (textItem "task_family_id" "Missing family ID in split manifest") =
      .ok familyIds) :
    (∀ entry ∈ entries, HasText "task_family_id" entry) ∧
      familyIds.zip entries = withFamilies entries ∧
      familyIds = entries.map (textOf "task_family_id") := by
  obtain ⟨hhas, hids⟩ := (List.mapM_eq_ok_map textItem_eq_ok_iff).mp h
  exact ⟨hhas, by rw [hids, withFamilies], hids⟩

/-- The records of the categories are those of the plan. -/
theorem flatten_categoryPlan (indexes : List ℕ) :
    (categories.map fun category =>
      (categoryPlan table indexes category).flatMap (·.records split entries)).flatten =
      projected table indexes split entries := by
  rw [projected, plan, List.flatMap_assoc, List.flatMap_def]

section Shown

variable {indexes : List ℕ}
  (hperm : ((projected table indexes split entries).map fun r => (r.taskId, r.category)).Perm
    (entries.map fun entry => (textOf "task_id" entry, shownCategory entry)))

include hperm

theorem shown_perm : ((projected table indexes split entries).map (·.category)).Perm
    (entries.map shownCategory) := by
  have h := hperm.map Prod.snd
  rwa [List.map_map, List.map_map] at h

theorem taskIds_perm : ((projected table indexes split entries).map (·.taskId)).Perm
    (entries.map (textOf "task_id")) := by
  have h := hperm.map Prod.fst
  rwa [List.map_map, List.map_map] at h

theorem length_projected : (projected table indexes split entries).length = entries.length := by
  have h := hperm.length_eq
  rwa [List.length_map, List.length_map] at h

theorem hashable_iff : (∀ r ∈ projected table indexes split entries,
      ∃ key, r.category.hashKey? = some key) ↔
    ∀ entry ∈ entries, ∃ key, (shownCategory entry).hashKey? = some key := by
  have hprojected := List.forall_mem_map (l := projected table indexes split entries)
    (f := DetectorPrompt.category) (P := fun value => ∃ key, value.hashKey? = some key)
  have hentries := List.forall_mem_map (l := entries)
    (f := shownCategory) (P := fun value => ∃ key, value.hashKey? = some key)
  rw [← hprojected, ← hentries]
  constructor
  · intro h value hvalue
    exact h value ((shown_perm hperm).mem_iff.mpr hvalue)
  · intro h value hvalue
    exact h value ((shown_perm hperm).mem_iff.mp hvalue)

theorem shownKeys_perm : ((projected table indexes split entries).map fun r =>
    r.category.hashKey?.getD .null).Perm (entries.map shownKey) := by
  have h := (shown_perm hperm).map fun value => value.hashKey?.getD .null
  rwa [List.map_map, List.map_map] at h

end Shown

/-- **Acceptance**: the projection returns the records of the families exactly where the entries are
acceptable. -/
theorem export_eq_ok {manifest : List (PyStr × PyJson)} {indexes : List ℕ}
    {manifestSplit : BenchmarkSplit} {records : List DetectorPrompt}
    (hsplit : categoryDetectorSplits split = some (indexes, manifestSplit))
    (hlt : ∀ i ∈ indexes, i < 99)
    (htasks : manifest.lookup (PyStr.ofString "tasks") = some (.list entries)) :
    exportCategoryDetectorPrompts table split manifest = .ok records ↔
      Acceptable table split indexes manifestSplit entries ∧
        records = projected table indexes split entries := by
  unfold exportCategoryDetectorPrompts
  rw [hsplit, htasks]
  dsimp only
  constructor
  · intro h
    obtain ⟨_, _, h⟩ := Except.bind_eq_ok.mp h
    obtain ⟨taskIds, htaskIds, h⟩ := Except.bind_eq_ok.mp h
    obtain ⟨hnodup, h⟩ := Except.guard_eq_ok.mp h
    obtain ⟨_, hsplits, h⟩ := Except.bind_eq_ok.mp h
    obtain ⟨familyIds, hfamilyIds, h⟩ := Except.bind_eq_ok.mp h
    obtain ⟨rss, hrss, h⟩ := Except.bind_eq_ok.mp h
    obtain ⟨hsame, h⟩ := Except.guard_eq_ok.mp h
    obtain ⟨displayed, hdisplayed, h⟩ := Except.bind_eq_ok.mp h
    obtain ⟨hbalance, h⟩ := Except.guard_eq_ok.mp h
    obtain ⟨hcount, h⟩ := Except.guard_eq_ok.mp h
    obtain ⟨hhasId, hids⟩ := (List.mapM_eq_ok_map textItem_eq_ok_iff).mp htaskIds
    obtain ⟨hhasFamily, hzip, hfamilies⟩ := mapM_families hfamilyIds
    rw [hzip] at hrss
    obtain ⟨hcategories, hrss⟩ := (List.mapM_eq_ok_map categoryRecords_eq_ok).mp hrss
    rw [hrss, flatten_categoryPlan] at hdisplayed hcount h
    obtain ⟨hhashable, hdisplayed⟩ := (List.mapM_eq_ok_map categoryKey_eq_ok).mp hdisplayed
    have hfits : ∀ planned ∈ plan table indexes, Fits entries planned := by
      intro planned hplanned
      obtain ⟨category, hcategory, hplanned⟩ := List.mem_flatMap.mp hplanned
      exact (hcategories category hcategory).2.2 planned hplanned
    have hindexes := (hcategories .qa (mem_categories _)).1
    have hsub := not_not.mp hsame
    rw [hfamilies] at hsub
    have hperm : ((projected table indexes split entries).map _).Perm _ :=
      projected_perm hindexes hlt hfits hsub.2
    refine ⟨?_, (Except.pure_eq_ok.mp h).symm⟩
    exact {
      taskId := hhasId
      nodup := hids ▸ not_not.mp hnodup
      split_eq := fun entry hentry => by
        obtain ⟨_, _, hunit⟩ := (List.mapM_eq_ok.mp hsplits).exists_of_mem hentry
        exact hunit
      familyId := hhasFamily
      indexes_nodup := hindexes
      materialized := fun category => (hcategories category (mem_categories _)).2.1
      fits := hfits
      consumed := hsub.1
      planned := hsub.2
      hashable := (hashable_iff hperm).mp hhashable
      balance := (counterEq_perm (shownKeys_perm hperm)).mp (hdisplayed ▸ not_not.mp hbalance)
      count := (length_projected hperm).symm.trans (not_not.mp hcount) }
  · intro h
    obtain ⟨h, hrecords⟩ := h
    have hperm : ((projected table indexes split entries).map _).Perm _ :=
      projected_perm h.indexes_nodup hlt h.fits h.planned
    have hraw : ∃ raw, entries.mapM (getItem "task_id") = .ok raw := by
      have hget : ∀ entry ∈ entries, ∃ value, getItem "task_id" entry = .ok value := by
        intro entry hentry
        obtain ⟨s, hs, _⟩ := h.taskId entry hentry
        exact ⟨.str s, hs⟩
      obtain ⟨raw, hraw⟩ := exists_forall₂ hget
      exact ⟨raw, List.mapM_eq_ok.mpr hraw⟩
    obtain ⟨raw, hraw⟩ := hraw
    have hsplits : entries.mapM (namesSplit manifestSplit.value) =
        .ok (entries.map fun _ => ()) := by
      rw [List.mapM_eq_ok, List.forall₂_map_right_iff]
      exact List.forall₂_same.mpr h.split_eq
    rw [hraw, Except.ok_bind, (List.mapM_eq_ok_map textItem_eq_ok_iff).mpr ⟨h.taskId, rfl⟩,
      Except.ok_bind]
    refine Except.guard_eq_ok.mpr ⟨not_not.mpr h.nodup, ?_⟩
    rw [hsplits, Except.ok_bind, (List.mapM_eq_ok_map textItem_eq_ok_iff).mpr ⟨h.familyId, rfl⟩,
      Except.ok_bind]
    have hcategories : categories.mapM (categoryRecords table split indexes
        ((entries.map (textOf "task_family_id")).zip entries)) = .ok (categories.map fun category =>
          (categoryPlan table indexes category).flatMap (·.records split entries)) := by
      refine (List.mapM_eq_ok_map categoryRecords_eq_ok).mpr ⟨fun category hcategory => ?_, rfl⟩
      exact ⟨h.indexes_nodup, h.materialized category, fun planned hplanned =>
        h.fits planned (List.mem_flatMap.mpr ⟨category, hcategory, hplanned⟩)⟩
    rw [hcategories, Except.ok_bind, flatten_categoryPlan]
    refine Except.guard_eq_ok.mpr ⟨not_not.mpr ⟨h.consumed, h.planned⟩, ?_⟩
    rw [(List.mapM_eq_ok_map categoryKey_eq_ok).mpr ⟨(hashable_iff hperm).mpr h.hashable, rfl⟩,
      Except.ok_bind]
    refine Except.guard_eq_ok.mpr
      ⟨not_not.mpr ((counterEq_perm (shownKeys_perm hperm)).mpr h.balance),
        Except.guard_eq_ok.mpr ⟨not_not.mpr ((length_projected hperm).trans h.count), ?_⟩⟩
    rw [hrecords]
    rfl

end RouteLLM.RoutingBenchmark
