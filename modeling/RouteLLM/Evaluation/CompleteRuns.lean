import RouteLLM.Evaluation.Repository

/-!
# Only complete runs are loaded

Whatever the directory of a run holds, `_load_run` raises one of two errors or returns results that are exactly
one for every selected pair. Of a run that was interrupted, by a crash, a failed write or a cancellation whose
write goes on in its thread, the manifest is the one that was stored. After a run that returned, the load returns
it with the results that were recorded.
-/

namespace RouteLLM.FileEvaluationRepository

variable {Text : Type} {texts : ArtifactText Text} {finishedAt : RunStatus → PyStr} {directory : RunDirectory Text} {run : BenchmarkRun}
  {runId : Uuid} {results : List BenchmarkResult} {calls : List RunnerCall}

/-! ## What a load returns -/

/-- The errors of a load. -/
def IsLoadError (e : Exc) : Prop := e.cls = .evaluationNotFoundError ∨ e.cls = .evaluationArtifactError

/-- A run is loaded with its directory's name and with exactly one result for every selected pair. -/
structure Complete (run : BenchmarkRun) (runId : Uuid) (results : List BenchmarkResult) : Prop where
  runId_eq : run.runId = runId
  pairs_nodup : (expectedPairs run).Nodup
  results_perm : (results.map pairOf).Perm (expectedPairs run)

theorem expectedPairs_nodup (htasks : run.selectedTaskIds.Nodup) (hmodels : (run.models.map (·.modelId)).Nodup) :
    (expectedPairs run).Nodup := by
  have hproduct : expectedPairs run = run.selectedTaskIds ×ˢ run.models.map (·.modelId) := by
    change _ = List.flatMap _ _
    simp only [expectedPairs, List.map_map]
    rfl
  rw [hproduct]
  exact htasks.product hmodels

theorem checkResults_eq_ok :
    checkResults run runId results = .ok () ↔
      results ≠ [] ∧ (results.map (·.resultId)).Nodup ∧
      ¬ (run.selectedTaskIds = [] ∨ ¬ run.selectedTaskIds.Nodup ∨
        ¬ run.selectedTaskIds ⊆ run.dataset.tasks.map (·.taskId)) ∧
      ¬ (run.models = [] ∨ ¬ (run.models.map (·.modelId)).Nodup) ∧
      ((results.map pairOf).Nodup ∧ results.map pairOf ⊆ expectedPairs run ∧
        expectedPairs run ⊆ results.map pairOf) ∧
      ∀ result ∈ results, result.runId = runId := by
  rw [checkResults]
  refine (Except.guard_eq_ok.trans (and_congr Iff.rfl (Except.guard_eq_ok.trans (and_congr not_not
    (Except.guard_eq_ok.trans (and_congr Iff.rfl (Except.guard_eq_ok.trans (and_congr Iff.rfl
    (Except.guard_eq_ok.trans (and_congr not_not ?_))))))))))
  refine Except.guard_eq_ok.trans ?_
  rw [not_not]
  exact and_iff_left rfl

theorem checkResults_error {e : Exc} (h : checkResults run runId results = .error e) : IsLoadError e := by
  rw [checkResults] at h
  rcases Except.guard_eq_error h with rfl | h
  · exact .inr rfl
  rcases Except.guard_eq_error h with rfl | h
  · exact .inr rfl
  rcases Except.guard_eq_error h with rfl | h
  · exact .inr rfl
  rcases Except.guard_eq_error h with rfl | h
  · exact .inr rfl
  rcases Except.guard_eq_error h with rfl | h
  · exact .inr rfl
  rcases Except.guard_eq_error h with rfl | h
  · exact .inr rfl
  cases h

theorem readManifest_eq {status : PyJson} (h : readManifest texts directory runId = .ok (run, status)) :
    ∃ manifest ∈ directory.manifest, texts.readRun manifest = some run := by
  rw [readManifest] at h
  cases hmanifest : directory.manifest with
  | none =>
    rw [hmanifest] at h
    cases h
  | some manifest =>
    rw [hmanifest] at h
    cases hrun : texts.readRun manifest with
    | none =>
      simp only [hrun] at h
      cases h
    | some run' =>
      refine ⟨manifest, rfl, ?_⟩
      simp only [hrun] at h
      split at h
      · split at h
        · cases Except.pure_eq_ok.mp h
          exact hrun
        · cases h
      · cases h

theorem readManifest_error {e : Exc} (h : readManifest texts directory runId = .error e) : IsLoadError e := by
  rw [readManifest] at h
  split at h
  · split at h
    · split at h
      · split at h
        · cases h
        · cases h
          exact .inr rfl
      · cases h
        exact .inl rfl
    · cases h
      exact .inr rfl
  · cases h
    exact .inl rfl

theorem readResults_error {e : Exc} (h : readResults texts directory = .error e) : IsLoadError e := by
  obtain ⟨file, -, hfile⟩ := List.exists_of_mapM_eq_error h
  split at hfile
  · cases hfile
  · cases hfile
    exact .inr rfl

/-- **A load** raises one of its two errors, or returns the run of the manifest with exactly one result for every
selected pair. -/
theorem loadRun_outcome (texts : ArtifactText Text) (directory : RunDirectory Text) (runId : Uuid) :
    (∃ e, loadRun texts directory runId = .error e ∧ IsLoadError e) ∨
      ∃ run results manifest, loadRun texts directory runId = .ok (run, results) ∧ manifest ∈ directory.manifest ∧
        texts.readRun manifest = some run ∧ Complete run runId results := by
  cases hload : loadRun texts directory runId with
  | error e =>
    refine .inl ⟨e, rfl, ?_⟩
    rw [loadRun] at hload
    rcases Except.bind_eq_error.mp hload with h | ⟨⟨run, status⟩, -, h⟩
    · exact readManifest_error h
    dsimp only at h
    split at h
    · rcases Except.guard_eq_error h with rfl | h
      · exact .inr rfl
      rcases Except.guard_eq_error h with rfl | h
      · exact .inr rfl
      rcases Except.bind_eq_error.mp h with h | ⟨results, -, h⟩
      · exact readResults_error h
      rcases Except.bind_eq_error.mp h with h | ⟨_, -, h⟩
      · exact checkResults_error h
      · cases h
    · cases h
      exact .inr rfl
  | ok loaded =>
    refine .inr ?_
    rw [loadRun] at hload
    obtain ⟨⟨run, status⟩, hmanifest, h⟩ := Except.bind_eq_ok.mp hload
    obtain ⟨manifest, hmem, hread⟩ := readManifest_eq hmanifest
    dsimp only at h
    split at h
    · obtain ⟨hrunId, h⟩ := Except.guard_eq_ok.mp h
      obtain ⟨-, h⟩ := Except.guard_eq_ok.mp h
      obtain ⟨results, -, h⟩ := Except.bind_eq_ok.mp h
      obtain ⟨_, hcheck, h⟩ := Except.bind_eq_ok.mp h
      cases Except.pure_eq_ok.mp h
      obtain ⟨-, -, htasks, hmodels, ⟨hnodup, hsub, hsup⟩, -⟩ := checkResults_eq_ok.mp hcheck
      simp only [not_or, not_not] at htasks hmodels
      have hexpected := expectedPairs_nodup htasks.2.1 hmodels.2
      refine ⟨run, results, manifest, rfl, hmem, hread, not_not.mp hrunId, hexpected, ?_⟩
      exact (List.perm_ext_iff_of_nodup hnodup hexpected).mpr fun pair => ⟨fun h => hsub h, fun h => hsup h⟩
    · cases h

/-! ## The directory of an interrupted run -/

open FileBenchmarkRepository in
/-- A write of an interrupted run is one of a call of the run. -/
theorem mem_writes_of_interrupted {effects : List (List (FileWrite Text) × Bool)}
    (h : Interrupted texts finishedAt calls effects) {write : FileWrite Text} (hwrite : write ∈ WriteThreads.writes effects) :
    ∃ call ∈ calls, ∃ effect, effect? texts finishedAt call = some effect ∧ write ∈ effect.1 := by
  have hfront : ∀ front, front <+: calls → write ∈ WriteThreads.writes (FileBenchmarkRepository.effects texts
      finishedAt front) → ∃ call ∈ calls, ∃ effect, effect? texts finishedAt call = some effect ∧ write ∈ effect.1 := by
    intro front hinitial hmem
    obtain ⟨effect, heffect, hwrite⟩ := List.mem_flatMap.mp hmem
    obtain ⟨call, hcall, hsome⟩ := List.mem_filterMap.mp heffect
    exact ⟨call, hinitial.subset hcall, effect, hsome, hwrite⟩
  cases h with
  | after front hinitial => exact hfront front hinitial hwrite
  | during front call effect hinitial heffect =>
    rw [WriteThreads.writes_concat] at hwrite
    rcases List.mem_append.mp hwrite with hmem | hmem
    · exact hfront front ((List.prefix_append front [call]).trans hinitial) hmem
    · exact ⟨call, hinitial.subset (List.mem_append_right _ (.head _)), effect, heffect, hmem⟩

/-- The manifest in a directory is that of a run that was started. -/
def Manifested (texts : ArtifactText Text) (calls : List RunnerCall) (directory : RunDirectory Text) : Prop :=
  ∀ text ∈ directory.manifest, ∃ run outcome, text = texts.runText run ∧ .start run outcome ∈ calls

theorem manifested_apply {write : FileWrite Text} {call : RunnerCall} {effect : List (FileWrite Text) × Bool} (hcall : call ∈ calls)
    (heffect : FileBenchmarkRepository.effect? texts finishedAt call = some effect) (hwrite : write ∈ effect.1)
    (h : Manifested texts calls directory) : Manifested texts calls (write.apply directory) := by
  intro text htext
  cases write with
  | status _ => exact h text htext
  | result _ _ => exact h text htext
  | manifest written =>
    cases htext
    cases call with
    | start run outcome =>
      cases heffect
      rcases List.mem_cons.mp hwrite with heq | hstatus
      · cases heq
        exact ⟨run, outcome, rfl, hcall⟩
      · cases List.mem_singleton.mp hstatus
    | record result outcome =>
      cases heffect
      cases List.mem_singleton.mp hwrite
    | finish _ status outcome =>
      cases heffect
      cases List.mem_singleton.mp hwrite
    | inference _ => cases heffect
    | generate _ => cases heffect

/-- The manifest of an interrupted run is that of the run. -/
theorem manifested_of_interrupted {effects : List (List (FileWrite Text) × Bool)}
    {disk : WriteThreads.Disk (FileWrite Text) (RunDirectory Text)}
    (h : FileBenchmarkRepository.Interrupted texts finishedAt calls effects)
    (hdisk : WriteThreads.Reached FileWrite.apply {} effects disk) : Manifested texts calls disk.state := by
  refine (hdisk.invariant (I := Manifested texts calls) (fun text htext => by cases htext) ?_).1
  intro write hwrite directory hdirectory
  obtain ⟨call, hcall, effect, heffect, hmem⟩ := mem_writes_of_interrupted h hwrite
  exact manifested_apply hcall heffect hmem hdirectory

/-! ## The directory of a run that returned -/

/-- The file of a result. -/
def resultFile (texts : ArtifactText Text) (result : BenchmarkResult) : String × Text :=
  (result.resultId.text ++ ".json", texts.resultText result)

theorem foldl_record (results : List BenchmarkResult) (directory : RunDirectory Text) :
    (results.flatMap (FileBenchmarkRepository.record texts)).foldl (fun d write => write.apply d) directory =
      { directory with results := FileTable.putAll (results.map (resultFile texts)) directory.results } := by
  induction results generalizing directory with
  | nil => rfl
  | cons result results ih =>
    rw [List.flatMap_cons, List.foldl_append, ih]
    rfl

/-- The writes of a loop that went through are those of its results. -/
theorem effects_of_looped {loop : List RunnerCall} (h : ∀ call ∈ loop, Looped runId call) :
    FileBenchmarkRepository.effects texts finishedAt loop =
      (recordedResults loop).map fun result => (FileBenchmarkRepository.record texts result, true) := by
  rw [FileBenchmarkRepository.effects, recordedResults, List.map_filterMap]
  refine List.filterMap_congr fun call hcall => ?_
  rcases h call hcall with ⟨inner, rfl⟩ | ⟨pair, rfl⟩ | ⟨result, rfl, -⟩
  · rfl
  · rfl
  · rfl

theorem runId_of_looped {loop : List RunnerCall} (h : ∀ call ∈ loop, Looped runId call) :
    ∀ result ∈ recordedResults loop, result.runId = runId := by
  intro result hresult
  obtain ⟨call, hcall, hrecorded⟩ := List.mem_filterMap.mp hresult
  rcases h call hcall with ⟨inner, rfl⟩ | ⟨pair, rfl⟩ | ⟨result', rfl, hid⟩
  · cases hrecorded
  · cases hrecorded
  · cases hrecorded
    exact hid

section
variable {σ : Type} {runner : BenchmarkRunner σ} {dataset : BenchmarkDataset} {modelIds : List String}
  {limit : Option ℤ} {models : List ModelConfig} {loop : List RunnerCall}

theorem recordedResults_of_ended (h : runner.Ended dataset modelIds limit run models loop calls) :
    recordedResults calls = recordedResults loop := by
  rw [h.calls_eq, recordedResults_append, recordedResults_append]
  exact List.append_nil _

/-- The files of a run that returned. -/
theorem state_of_ended (h : runner.Ended dataset modelIds limit run models loop calls)
    {disk : WriteThreads.Disk (FileWrite Text) (RunDirectory Text)}
    (hdisk : WriteThreads.Reached FileWrite.apply {} (FileBenchmarkRepository.effects texts finishedAt calls) disk) :
    disk.state =
      { manifest := some (texts.runText run)
        status := some (texts.jsonText [(PyStr.ofString "status", PyStr.ofString "completed"),
          (PyStr.ofString "finished_at", finishedAt .completed)])
        results := FileTable.putAll ((recordedResults calls).map (resultFile texts)) [] } := by
  have heffects : FileBenchmarkRepository.effects texts finishedAt calls =
      [(FileBenchmarkRepository.start texts run, true)] ++
        ((recordedResults loop).map (fun result => (FileBenchmarkRepository.record texts result, true)) ++
          [(FileBenchmarkRepository.finish texts finishedAt .completed, true)]) := by
    rw [← effects_of_looped h.looped, h.calls_eq, FileBenchmarkRepository.effects, List.filterMap_append,
      List.filterMap_append]
    rfl
  have hall : ∀ effect ∈ FileBenchmarkRepository.effects texts finishedAt calls, effect.2 = true := by
    rw [heffects]
    intro effect heffect
    rcases List.mem_append.mp heffect with hstart | hrest
    · rw [List.mem_singleton.mp hstart]
    · rcases List.mem_append.mp hrest with hrecord | hfinish
      · obtain ⟨_, -, rfl⟩ := List.mem_map.mp hrecord
        rfl
      · rw [List.mem_singleton.mp hfinish]
  rw [hdisk.state_eq hall, heffects, WriteThreads.writes, List.flatMap_append, List.flatMap_append, List.flatMap_map,
    List.foldl_append, List.foldl_append, foldl_record, recordedResults_of_ended h]
  rfl

theorem name_injective : Function.Injective fun id : Uuid => id.text ++ ".json" := by
  intro a b h
  have htext : a.text.toList ++ ".json".toList = b.text.toList ++ ".json".toList := by
    rw [← String.toList_append, ← String.toList_append]
    exact congrArg String.toList h
  cases a
  cases b
  cases String.toList_inj.mp (List.append_cancel_right htext)
  rfl

/-- The results of files that were written are read back. -/
theorem readResults_putAll (hids : (results.map (·.resultId)).Nodup)
    (hfiles : directory.results = FileTable.putAll (results.map (resultFile texts)) []) :
    ∃ loaded, readResults texts directory = .ok loaded ∧ loaded.Perm results := by
  have hnames : FileTable.Distinct (results.map (resultFile texts)) := by
    have hmap := hids.map name_injective
    rw [List.map_map] at hmap
    rw [FileTable.Distinct, List.map_map]
    exact hmap
  have hperm : (KeySort.sortBy (·.1) directory.results).Perm (results.map (resultFile texts)) := by
    rw [hfiles]
    exact (KeySort.sortBy_perm _ _).trans (FileTable.putAll_perm_of_cover List.nodup_nil hnames (List.nil_subset _))
  rw [readResults]
  refine List.exists_mapM_perm (fun result => ?_) hperm
  rw [resultFile, texts.read_result]

/-- The checks let through a selection of tasks and models. -/
theorem selected_of_prepared (h : runner.prepare dataset modelIds limit = .ok models) :
    BenchmarkRunner.selectedTasks dataset (limit.map Int.toNat) ≠ [] ∧ models ≠ [] := by
  have hmap := (runner.prepare_eq_ok h).2.1
  obtain ⟨hids, h⟩ := Except.guard_eq_ok.mp h
  obtain ⟨hlimit, -⟩ := Except.guard_eq_ok.mp h
  refine ⟨?_, ?_⟩
  · cases limit with
    | none => exact dataset.tasks_nonempty
    | some n =>
      have hpos : n.toNat ≠ 0 := by
        simp only [Option.any_some, decide_eq_true_eq] at hlimit
        omega
      intro hnil
      rcases List.take_eq_nil_iff.mp hnil with hzero | hempty
      · exact hpos hzero
      · exact dataset.tasks_nonempty hempty
  · rintro rfl
    exact hids (.inl hmap.symm)

theorem expectedPairs_manifest (runId : Uuid) :
    expectedPairs (BenchmarkRunner.manifest runner.indicators runner.outputTokenOverrides runId dataset
      (limit.map Int.toNat) models) =
      (BenchmarkRunner.pairs (BenchmarkRunner.selectedTasks dataset (limit.map Int.toNat)) models).map pairIds := by
  rw [expectedPairs, BenchmarkRunner.pairs, List.map_flatMap]
  simp only [BenchmarkRunner.manifest, List.flatMap_map, List.map_map]
  rfl

/-- The results of a run that returned pass the checks of a load. -/
theorem checkResults_of_ended (h : runner.Ended dataset modelIds limit run models loop calls)
    (hids : ((recordedResults calls).map (·.resultId)).Nodup) (hloaded : results.Perm (recordedResults calls)) :
    checkResults run run.runId results = .ok () := by
  obtain ⟨hmodelIds, hmap, -⟩ := runner.prepare_eq_ok h.prepared
  obtain ⟨htasks, hmodels⟩ := selected_of_prepared h.prepared
  obtain ⟨hpairs, hreports, -, -⟩ := h.done.went_through rfl
  have hexpected : expectedPairs run =
      (BenchmarkRunner.pairs (BenchmarkRunner.selectedTasks dataset (limit.map Int.toNat)) models).map pairIds := by
    rw [h.run_eq, expectedPairs_manifest]
  have hnodup : (expectedPairs run).Nodup := by
    rw [hexpected]
    exact BenchmarkRunner.pairs_nodup dataset (limit.map Int.toNat) (hmap ▸ hmodelIds)
  have hperm : (results.map pairOf).Perm (expectedPairs run) := by
    refine (hloaded.map _).trans (List.Perm.of_eq ?_)
    rw [recordedResults_of_ended h, hexpected, ← hpairs, List.map_map]
    exact resultIds_of_reports hreports
  have hinitial := BenchmarkRunner.selectedTasks_prefix dataset (limit.map Int.toNat)
  have hrunModels : run.models = models := by rw [h.run_eq]; rfl
  have hrunTasks : run.selectedTaskIds =
      (BenchmarkRunner.selectedTasks dataset (limit.map Int.toNat)).map (·.taskId) := by rw [h.run_eq]; rfl
  have hrunDataset : run.dataset = dataset := by rw [h.run_eq]; rfl
  rw [checkResults_eq_ok, hrunModels, hrunTasks, hrunDataset]
  refine ⟨?_, (hloaded.map _).nodup_iff.mpr hids, ?_, ?_, ⟨hperm.nodup_iff.mpr hnodup, hperm.subset, hperm.symm.subset⟩, ?_⟩
  · rintro rfl
    have hempty := List.perm_nil.mp hperm.symm
    rw [expectedPairs, hrunTasks, hrunModels, List.flatMap_eq_nil_iff] at hempty
    obtain ⟨task, htask⟩ := List.exists_mem_of_ne_nil _ htasks
    exact hmodels (List.map_eq_nil_iff.mp (hempty _ (List.mem_map_of_mem htask)))
  · rw [not_or, not_or, not_not, not_not]
    exact ⟨fun hnil => htasks (List.map_eq_nil_iff.mp hnil),
      dataset.tasks_nodup.sublist (hinitial.sublist.map _), (hinitial.sublist.map _).subset⟩
  · rw [not_or, not_not]
    refine ⟨hmodels, List.Nodup.of_map Identifier.value ?_⟩
    rw [List.map_map]
    exact hmap ▸ hmodelIds
  · intro result hresult
    have hmem := hloaded.mem_iff.mp hresult
    rw [recordedResults_of_ended h] at hmem
    exact runId_of_looped h.looped result hmem

theorem status_keys_nodup : [PyStr.ofString "status", PyStr.ofString "finished_at"].Nodup := by decide

/-- The status of a run that returned is completed. -/
theorem isCompleted_finished (time : PyStr) : isCompleted ([(PyStr.ofString "status", PyStr.ofString "completed"),
    (PyStr.ofString "finished_at", time)].map fun entry => (entry.1, .str entry.2)) = true := by
  rw [isCompleted, List.map_cons, List.lookup_cons, beq_self_eq_true]
  exact beq_self_eq_true _

/-- A run that returned is loaded with its results. -/
theorem loadRun_of_ended (h : runner.Ended dataset modelIds limit run models loop calls)
    (hids : ((recordedResults calls).map (·.resultId)).Nodup) {disk : WriteThreads.Disk (FileWrite Text) (RunDirectory Text)}
    (hdisk : WriteThreads.Reached FileWrite.apply {} (FileBenchmarkRepository.effects texts finishedAt calls) disk) :
    ∃ results, loadRun texts disk.state run.runId = .ok (run, results) ∧ results.Perm (recordedResults calls) := by
  have hstate := state_of_ended h hdisk
  generalize disk.state = directory at hstate
  have hfiles : directory.results = FileTable.putAll ((recordedResults calls).map (resultFile texts)) [] := by
    rw [hstate]
  obtain ⟨loaded, hread, hperm⟩ := readResults_putAll hids hfiles
  have hstatus := texts.read_json [(PyStr.ofString "status", PyStr.ofString "completed"),
    (PyStr.ofString "finished_at", finishedAt .completed)] status_keys_nodup
  have hmanifest : readManifest texts directory run.runId = .ok (run, .dict
      ([(PyStr.ofString "status", PyStr.ofString "completed"), (PyStr.ofString "finished_at", finishedAt .completed)].map
        fun entry => (entry.1, .str entry.2))) := by
    rw [readManifest, hstate]
    simp only [texts.read_run, hstatus]
    rfl
  refine ⟨loaded, ?_, hperm⟩
  rw [loadRun, hmanifest, Except.ok_bind]
  dsimp only
  rw [if_neg (not_not.mpr rfl), if_neg (not_not.mpr (isCompleted_finished _)), hread, Except.ok_bind,
    checkResults_of_ended h hids hperm, Except.ok_bind]
  rfl

end

/-- **Only complete runs are loaded.** However a run was interrupted, and whatever its threads have still written,
a load raises one of its two errors or returns the run that was started with exactly one result for every selected
pair. After a run that returned it returns the run with the results that were recorded, whose ids differ. -/
theorem load_complete (texts : ArtifactText Text) (finishedAt : RunStatus → PyStr) {σ : Type} (runner : BenchmarkRunner σ)
    (dataset : BenchmarkDataset) (modelIds : List String) (limit : Option ℤ) :
    (runner.run dataset modelIds limit).Holds fun result calls =>
      (∀ effects disk, FileBenchmarkRepository.Interrupted texts finishedAt calls effects →
        WriteThreads.Reached FileWrite.apply {} effects disk → ∀ runId,
          (∃ e, loadRun texts disk.state runId = .error e ∧ IsLoadError e) ∨
            ∃ run results outcome, loadRun texts disk.state runId = .ok (run, results) ∧
              .start run outcome ∈ calls ∧ Complete run runId results) ∧
      ∀ run, result = .ok run → ((recordedResults calls).map (·.resultId)).Nodup →
        ∀ disk, WriteThreads.Reached FileWrite.apply {} (FileBenchmarkRepository.effects texts finishedAt calls) disk →
          ∃ results, loadRun texts disk.state run.runId = .ok (run, results) ∧
            results.Perm (recordedResults calls) := by
  intro s
  refine ⟨fun effects disk hinterrupted hdisk runId => ?_, fun run hrun hids disk hdisk => ?_⟩
  · refine (loadRun_outcome texts disk.state runId).imp_right ?_
    rintro ⟨run, results, manifest, hload, hmanifest, hread, hcomplete⟩
    obtain ⟨run', outcome, rfl, hstarted⟩ := manifested_of_interrupted hinterrupted hdisk manifest hmanifest
    cases (texts.read_run run').symm.trans hread
    exact ⟨run, results, outcome, hload, hstarted, hcomplete⟩
  · obtain ⟨models, loop, hended⟩ := runner.run_ended dataset modelIds limit s run hrun
    exact loadRun_of_ended hended hids hdisk

/-- Artifacts that are kept as they are. -/
def sampleText : ArtifactText (BenchmarkRun ⊕ BenchmarkResult ⊕ List (PyStr × PyStr)) where
  runText := .inl
  readRun text := text.getLeft?
  read_run _ := rfl
  resultText result := .inr (.inl result)
  readResult text := text.getRight?.bind Sum.getLeft?
  read_result _ := rfl
  jsonText entries := .inr (.inr entries)
  readJson text := (text.getRight?.bind Sum.getRight?).map fun entries =>
    .dict (entries.map fun entry => (entry.1, .str entry.2))
  read_json _ _ := rfl

/-- The sample run is loaded. -/
theorem load_complete_sample : ∃ run, (BenchmarkRunner.sampleRun promptProvider).1 = .ok run ∧
    ∀ disk, WriteThreads.Reached FileWrite.apply {} (FileBenchmarkRepository.effects sampleText (fun _ => [])
        (BenchmarkRunner.sampleRun promptProvider).2.2) disk →
      ∃ results, loadRun sampleText disk.state run.runId = .ok (run, results) ∧
        results.Perm (recordedResults (BenchmarkRunner.sampleRun promptProvider).2.2) := by
  have hok : (BenchmarkRunner.sampleRun promptProvider).1.isOk = true := by decide +kernel
  have hlength : (recordedResults (BenchmarkRunner.sampleRun promptProvider).2.2).length = 1 := by decide +kernel
  obtain ⟨result, hresult⟩ := List.length_eq_one_iff.mp hlength
  have hids : ((recordedResults (BenchmarkRunner.sampleRun promptProvider).2.2).map (·.resultId)).Nodup := by
    rw [hresult]
    exact List.nodup_singleton _
  obtain ⟨run, hrun⟩ := Except.exists_eq_ok hok
  exact ⟨run, hrun, (load_complete sampleText (fun _ => []) (BenchmarkRunner.sample promptProvider) .sample
    [ModelConfig.sample.modelId.value] none 0).2 run hrun hids⟩

end RouteLLM.FileEvaluationRepository
