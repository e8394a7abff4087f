import RouteLLM.Evaluation.CompleteRuns
import RouteLLM.Evaluation.Conservation
import RouteLLM.Evaluation.Service
import RouteLLM.Lib.AssocList

/-!
# The stored summary

A save replaces the evaluations one by one and the summary last. Evaluations that are all written leave the summary
of exactly the files that are there; a save that is cut short before its summary leaves the old one, next to what
it has replaced.
-/

namespace RouteLLM

open FileEvaluationRepository

variable {Text : Type} {texts : ArtifactText Text} {decimalOf : PyJson → Option Decimal}
  {directory : RunDirectory Text} {runId : Uuid} {run : BenchmarkRun} {results : List BenchmarkResult}
  {evaluations : List MeteredEvaluation} {summary : EvaluationSummary} {files : EvaluationFiles}

/-- A summary and the files next to it describe the same labels: it is loaded, the evaluation of every result is
exported, and it is what they aggregate to. -/
structure Describes (decimalOf : PyJson → Option Decimal) (run : BenchmarkRun) (results : List BenchmarkResult)
    (files : EvaluationFiles) (summary : EvaluationSummary) : Prop where
  loaded : loadSummary files run.runId = .ok summary
  exported : ∃ evaluations, exportedEvaluations files results = .ok evaluations ∧
    files.evaluations.Perm (evaluations.map evaluationFile) ∧
    Aggregation.aggregate decimalOf run results evaluations summary.evaluationConfiguration = .ok summary

/-- What a write would change is there already. -/
def EvaluationWrite.Stored (files : EvaluationFiles) : EvaluationWrite → Prop
  | .evaluation result => evaluationFile result ∈ files.evaluations
  | .summary aggregated => files.summary = some aggregated

/-- The first `count` writes of a save are all of them, or find no summary, or change nothing. -/
def Harmless (files : EvaluationFiles) (writes : List EvaluationWrite) (count : ℕ) : Prop :=
  writes.length ≤ count ∨ files.summary = none ∨ ∀ write ∈ writes.take count, write.Stored files

/-- The files after some evaluations of a run, each of which did its first writes, as far as it came. -/
inductive EvaluatedFiles (texts : ArtifactText Text) (decimalOf : PyJson → Option Decimal)
    (directory : RunDirectory Text) (runId : Uuid)
    (Allowed : EvaluationFiles → List EvaluationWrite → ℕ → Prop) : EvaluationFiles → Prop
  | start : EvaluatedFiles texts decimalOf directory runId Allowed {}
  | saved {files : EvaluationFiles} (service : EvaluationService) {evaluations : List MeteredEvaluation}
      {summary : EvaluationSummary} (count : ℕ)
      (h : EvaluatedFiles texts decimalOf directory runId Allowed files)
      (hevaluate : service.evaluate texts decimalOf directory runId = .ok (evaluations, summary))
      (hallowed : Allowed files (save evaluations summary) count) :
      EvaluatedFiles texts decimalOf directory runId Allowed
        (written ((save evaluations summary).take count) files)

/-! ## One evaluation -/

theorem aggregate_configuration {configuration : List (PyStr × PyJson)}
    (h : Aggregation.aggregate decimalOf run results evaluations configuration = .ok summary) :
    summary.runId = run.runId ∧ summary.evaluationConfiguration = configuration := by
  rw [Aggregation.aggregate] at h
  dsimp only at h
  obtain ⟨-, h⟩ := Except.guard_eq_ok.mp h
  obtain ⟨-, h⟩ := Except.guard_eq_ok.mp h
  obtain ⟨items, -, h⟩ := Except.bind_eq_ok.mp h
  obtain ⟨keyed, -, h⟩ := Except.bind_eq_ok.mp h
  obtain ⟨byModel, -, h⟩ := Except.bind_eq_ok.mp h
  obtain ⟨byModelCategory, -, h⟩ := Except.bind_eq_ok.mp h
  obtain ⟨comparisons, -, h⟩ := Except.bind_eq_ok.mp h
  obtain ⟨overall, -, h⟩ := Except.bind_eq_ok.mp h
  cases Except.pure_eq_ok.mp h
  exact ⟨rfl, rfl⟩

namespace EvaluationService

variable {service : EvaluationService}

theorem orArtifactError_eq_ok {α : Type} {message : String} {x : Except Exc α} {a : α} :
    orArtifactError message x = .ok a ↔ x = .ok a := by
  cases x with
  | ok b => rfl
  | error e =>
    rw [orArtifactError]
    split <;> simp

theorem evaluateOne_id {result : BenchmarkResult} {evaluation : MeteredEvaluation}
    (h : service.evaluateOne run result = .ok evaluation) : evaluation.benchmarkResultId = result.resultId := by
  rw [evaluateOne] at h
  split at h
  · cases h
  · exact service.evaluateResult_id (orArtifactError_eq_ok.mp h)

/-- An evaluation of a run has one evaluation of every result, and their aggregate. -/
theorem evaluate_eq_ok (hload : loadRun texts directory runId = .ok (run, results))
    (h : service.evaluate texts decimalOf directory runId = .ok (evaluations, summary)) :
    evaluations.map (·.benchmarkResultId) = results.map (·.resultId) ∧
      Aggregation.aggregate decimalOf run results evaluations service.configuration = .ok summary := by
  rw [evaluate, hload, Except.ok_bind] at h
  obtain ⟨evaluations', hevaluations, h⟩ := Except.bind_eq_ok.mp h
  obtain ⟨summary', hsummary, h⟩ := Except.bind_eq_ok.mp h
  cases Except.pure_eq_ok.mp h
  refine ⟨?_, orArtifactError_eq_ok.mp hsummary⟩
  exact List.map_of_mapM (fun _ _ => evaluateOne_id) hevaluations

end EvaluationService

/-! ## The files -/

theorem written_evaluations (evaluations : List MeteredEvaluation) (files : EvaluationFiles) :
    written (evaluations.map .evaluation) files =
      { files with evaluations := FileTable.putAll (evaluations.map evaluationFile) files.evaluations } := by
  induction evaluations generalizing files with
  | nil => rfl
  | cons evaluation evaluations ih => exact ih _

theorem written_save (evaluations : List MeteredEvaluation) (summary : EvaluationSummary) (files : EvaluationFiles) :
    written (save evaluations summary) files =
      { evaluations := FileTable.putAll (evaluations.map evaluationFile) files.evaluations
        summary := some summary } := by
  rw [save, written, List.foldl_append]
  show EvaluationWrite.apply (.summary summary) (written _ files) = _
  rw [written_evaluations]
  rfl

/-- A save that is cut short has written some evaluations. -/
theorem take_save {count : ℕ} (h : count < (save evaluations summary).length) :
    (save evaluations summary).take count = (evaluations.take count).map .evaluation := by
  have hcount : count ≤ (evaluations.map EvaluationWrite.evaluation).length := by
    rw [save, List.length_append, List.length_singleton] at h
    omega
  rw [save, List.take_append_of_le_length hcount, List.map_take]

theorem distinct_files (hids : (evaluations.map (·.benchmarkResultId)).Nodup) :
    FileTable.Distinct (evaluations.map evaluationFile) := by
  have hnames := hids.map name_injective
  rw [List.map_map] at hnames
  rw [FileTable.Distinct, List.map_map]
  exact hnames

/-- The files are evaluations of the results, each under its name. -/
structure EvaluationFiles.Kept (files : EvaluationFiles) (results : List BenchmarkResult) : Prop where
  distinct : FileTable.Distinct files.evaluations
  named : ∀ file ∈ files.evaluations, file = evaluationFile file.2
  known : ∀ file ∈ files.evaluations, file.2.benchmarkResultId ∈ results.map (·.resultId)

namespace EvaluationFiles.Kept

theorem putAll (h : files.Kept results) (hids : (evaluations.map (·.benchmarkResultId)).Nodup)
    (hknown : evaluations.map (·.benchmarkResultId) ⊆ results.map (·.resultId)) (summary : Option EvaluationSummary) :
    EvaluationFiles.Kept
      ⟨FileTable.putAll (evaluations.map evaluationFile) files.evaluations, summary⟩ results := by
  have hfile : ∀ file ∈ FileTable.putAll (evaluations.map evaluationFile) files.evaluations,
      file ∈ evaluations.map evaluationFile ∨ file ∈ files.evaluations := by
    intro file hmem
    exact ((FileTable.mem_putAll (distinct_files hids)).mp hmem).imp_right And.left
  refine ⟨FileTable.distinct_putAll h.distinct, fun file hmem => ?_, fun file hmem => ?_⟩
  · rcases hfile file hmem with hnew | hold
    · obtain ⟨evaluation, -, rfl⟩ := List.mem_map.mp hnew
      rfl
    · exact h.named file hold
  · rcases hfile file hmem with hnew | hold
    · obtain ⟨evaluation, hevaluation, rfl⟩ := List.mem_map.mp hnew
      exact hknown (List.mem_map_of_mem hevaluation)
    · exact h.known file hold

/-- Evaluations of all the results replace every file. -/
theorem cover (h : files.Kept results)
    (hids : evaluations.map (·.benchmarkResultId) = results.map (·.resultId)) :
    files.evaluations.map Prod.fst ⊆ (evaluations.map evaluationFile).map Prod.fst := by
  intro name hname
  obtain ⟨file, hfile, rfl⟩ := List.mem_map.mp hname
  obtain ⟨evaluation, hevaluation, hid⟩ := List.mem_map.mp (hids ▸ h.known file hfile)
  rw [h.named file hfile, List.map_map]
  refine List.mem_map.mpr ⟨evaluation, hevaluation, ?_⟩
  rw [Function.comp_apply, evaluationFile, evaluationFile, hid]

end EvaluationFiles.Kept

/-- The summary, where there is one, is the aggregate of the files. -/
def Summarized (decimalOf : PyJson → Option Decimal) (run : BenchmarkRun) (results : List BenchmarkResult)
    (files : EvaluationFiles) : Prop :=
  ∀ summary ∈ files.summary, ∃ evaluations, evaluations.map (·.benchmarkResultId) = results.map (·.resultId) ∧
    files.evaluations.Perm (evaluations.map evaluationFile) ∧
    Aggregation.aggregate decimalOf run results evaluations summary.evaluationConfiguration = .ok summary

/-- The step lemma: a harmless evaluation keeps the files named, and the summary their aggregate. -/
theorem saved_summarized {service : EvaluationService} {count : ℕ} (hresults : (results.map (·.resultId)).Nodup)
    (hload : loadRun texts directory runId = .ok (run, results))
    (hevaluate : service.evaluate texts decimalOf directory runId = .ok (evaluations, summary))
    (hallowed : Harmless files (save evaluations summary) count) (hkept : files.Kept results)
    (hsummarized : Summarized decimalOf run results files) :
    (written ((save evaluations summary).take count) files).Kept results ∧
      Summarized decimalOf run results (written ((save evaluations summary).take count) files) := by
  obtain ⟨hids, haggregate⟩ := EvaluationService.evaluate_eq_ok hload hevaluate
  have hnodup : (evaluations.map (·.benchmarkResultId)).Nodup := hids ▸ hresults
  by_cases hcount : (save evaluations summary).length ≤ count
  · -- All of the save: its evaluations are the files, and its summary their aggregate.
    rw [List.take_of_length_le hcount, written_save]
    refine ⟨hkept.putAll hnodup (hids ▸ List.Subset.refl _) _, fun summary' hsummary' => ?_⟩
    cases hsummary'
    have hcover := FileTable.putAll_perm_of_cover hkept.distinct (distinct_files hnodup) (hkept.cover hids)
    refine ⟨evaluations, hids, hcover, ?_⟩
    rw [(aggregate_configuration haggregate).2]
    exact haggregate
  · rw [take_save (Nat.lt_of_not_le hcount), written_evaluations]
    have hsublist : (evaluations.take count).Sublist evaluations := List.take_sublist _ _
    have hfirst : ((evaluations.take count).map (·.benchmarkResultId)).Nodup := hnodup.sublist (hsublist.map _)
    refine ⟨hkept.putAll hfirst (List.Subset.trans (hsublist.map _).subset (hids ▸ List.Subset.refl _)) _, ?_⟩
    intro summary' hsummary'
    have hstored : (evaluations.take count).map evaluationFile ⊆ files.evaluations := by
      rcases hallowed with hall | hnone | hstored
      · exact absurd hall hcount
      · rw [hnone] at hsummary'
        cases hsummary'
      · intro file hfile
        obtain ⟨evaluation, hevaluation, rfl⟩ := List.mem_map.mp hfile
        refine hstored (.evaluation evaluation) ?_
        rw [take_save (Nat.lt_of_not_le hcount)]
        exact List.mem_map_of_mem hevaluation
    obtain ⟨old, hold, hperm, hsame⟩ := hsummarized summary' hsummary'
    exact ⟨old, hold, (FileTable.putAll_perm_of_subset hkept.distinct hstored).trans hperm, hsame⟩

/-- The run lemma: harmless evaluations keep the files named, and the summary their aggregate. -/
theorem evaluated_summarized (hresults : (results.map (·.resultId)).Nodup)
    (hload : loadRun texts directory runId = .ok (run, results))
    (h : EvaluatedFiles texts decimalOf directory runId Harmless files) :
    files.Kept results ∧ Summarized decimalOf run results files := by
  induction h with
  | start =>
    refine ⟨⟨List.nodup_nil, ?_, ?_⟩, fun _ hnone => by cases hnone⟩
    · exact fun _ hmem => absurd hmem List.not_mem_nil
    · exact fun _ hmem => absurd hmem List.not_mem_nil
  | saved service count _ hevaluate hallowed ih =>
    exact saved_summarized hresults hload hevaluate hallowed ih.1 ih.2

/-- The evaluations of the files are exported. -/
theorem exportedEvaluations_of_perm (hresults : (results.map (·.resultId)).Nodup)
    (hids : evaluations.map (·.benchmarkResultId) = results.map (·.resultId))
    (hperm : files.evaluations.Perm (evaluations.map evaluationFile)) :
    exportedEvaluations files results = .ok evaluations := by
  have hread : ((KeySort.sortBy (·.1) files.evaluations).map (·.2)).Perm evaluations := by
    have hmap := ((KeySort.sortBy_perm (·.1) files.evaluations).trans hperm).map Prod.snd
    rw [List.map_map] at hmap
    exact hmap.trans (by rw [show (Prod.snd ∘ evaluationFile) = id from rfl, List.map_id])
  have hread_ids := hread.map (·.benchmarkResultId)
  rw [hids] at hread_ids
  have hnodup : (evaluations.map (·.benchmarkResultId)).Nodup := hids ▸ hresults
  rw [exportedEvaluations, if_pos ⟨hread_ids.subset, hread_ids.symm.subset⟩]
  -- A result is looked up by its id only, so that the evaluations may be looked up instead.
  have hbyId : ∀ find : Uuid → Except Exc MeteredEvaluation,
      results.mapM (fun result => find result.resultId) =
        evaluations.mapM (fun evaluation => find evaluation.benchmarkResultId) := by
    intro find
    have hmapped := congrArg (·.mapM find) hids
    rw [List.mapM_map, List.mapM_map] at hmapped
    exact hmapped.symm
  rw [hbyId]
  refine List.mapM_eq_ok.mpr (List.forall₂_same.mpr fun evaluation hevaluation => ?_)
  rw [evaluationOf, AssocList.find?_perm hnodup ((List.reverse_perm _).trans hread) evaluation.benchmarkResultId,
    AssocList.find?_of_nodup hnodup hevaluation]

theorem loadRun_ids (h : loadRun texts directory runId = .ok (run, results)) :
    (results.map (·.resultId)).Nodup := by
  rw [loadRun] at h
  obtain ⟨⟨run', status⟩, -, h⟩ := Except.bind_eq_ok.mp h
  dsimp only at h
  split at h
  · obtain ⟨-, h⟩ := Except.guard_eq_ok.mp h
    obtain ⟨-, h⟩ := Except.guard_eq_ok.mp h
    obtain ⟨results', -, h⟩ := Except.bind_eq_ok.mp h
    obtain ⟨checked, hcheck, h⟩ := Except.bind_eq_ok.mp h
    cases Except.pure_eq_ok.mp h
    exact (checkResults_eq_ok.mp hcheck).2.1
  · cases h

/-- **The summary of harmless evaluations.** Where every save that was cut short found no summary or had changed
nothing so far, a summary is loaded and exported with the evaluations that it aggregates. -/
theorem evaluated_describes (hload : loadRun texts directory runId = .ok (run, results))
    (h : EvaluatedFiles texts decimalOf directory runId Harmless files) :
    ∀ summary ∈ files.summary, Describes decimalOf run results files summary := by
  intro summary hsummary
  have hresults := loadRun_ids hload
  obtain ⟨-, hsummarized⟩ := evaluated_summarized hresults hload h
  obtain ⟨evaluations, hids, hperm, haggregate⟩ := hsummarized summary hsummary
  refine ⟨?_, evaluations, exportedEvaluations_of_perm hresults hids hperm, hperm, haggregate⟩
  rw [loadSummary, hsummary]
  exact if_neg (not_not.mpr (aggregate_configuration haggregate).1)

/-! ## A summary that was left behind -/

/-- A run of one model on one summary. -/
def summaryRun : BenchmarkRun where
  runId := .sample
  dataset :=
    { BenchmarkDataset.sample with
      tasks := [{ BenchmarkTask.sample with category := .summarization }]
      tasks_nonempty := List.cons_ne_nil _ _
      tasks_nodup := List.nodup_singleton _ }
  selectedTaskIds := [BenchmarkTask.sample.taskId]
  models := [.sample]
  configuration := ⟨[], [], []⟩

/-- The directory of the run. -/
def summaryDirectory : RunDirectory (BenchmarkRun ⊕ BenchmarkResult ⊕ List (PyStr × PyStr)) where
  manifest := some (sampleText.runText summaryRun)
  status := some (sampleText.jsonText [(PyStr.ofString "status", PyStr.ofString "completed")])
  results := [resultFile sampleText
    (Aggregation.sampleResult .sample BenchmarkTask.sample.taskId (Aggregation.powerOfTen 0))]

/-- Without a judge a summary is not scored. -/
def withoutJudge : EvaluationService where
  evaluateResult task result := .ok
    { Aggregation.sampleEvaluation result.resultId task.taskId.value with
      evaluationStatus := .requiresSemanticJudge
      consistent := EvaluationResult.unscored_consistent }
  configuration := []
  evaluateResult_id h := by
    cases h
    rfl

theorem judged_consistent : ∃ score ∈ some Probability.one, some true = some (decide (Probability.one ≤ score)) :=
  ⟨.one, rfl, by decide⟩

/-- A judge finds it faultless. -/
def withJudge : EvaluationService where
  evaluateResult task result := .ok
    { Aggregation.sampleEvaluation result.resultId task.taskId.value with
      evaluationStatus := .evaluated
      qualityScore := some .one
      acceptable := some true
      consistent := judged_consistent }
  configuration := []
  evaluateResult_id h := by
    cases h
    rfl

/-- The summary of the run, evaluated without a judge. -/
theorem evaluated_describes_sample : ∃ files run results,
    EvaluatedFiles sampleText (fun _ => none) summaryDirectory .sample Harmless files ∧
      ∃ summary ∈ files.summary, Describes (fun _ => none) run results files summary := by
  obtain ⟨⟨run, results⟩, hload⟩ := Except.exists_eq_ok
    (x := loadRun sampleText summaryDirectory .sample) (by decide +kernel)
  obtain ⟨⟨evaluations, summary⟩, hevaluate⟩ := Except.exists_eq_ok
    (x := withoutJudge.evaluate sampleText (fun _ => none) summaryDirectory .sample) (by decide +kernel)
  have hfiles : EvaluatedFiles sampleText (fun _ => none) summaryDirectory .sample Harmless
      (written ((save evaluations summary).take (save evaluations summary).length) {}) :=
    .saved withoutJudge _ .start hevaluate (.inl (Nat.le_refl _))
  refine ⟨_, run, results, hfiles, summary, ?_, evaluated_describes hload hfiles summary ?_⟩
  all_goals
    rw [List.take_length, written_save]
    rfl

/-- The fully evaluated results of the files, and of the summary next to them. -/
def fullyEvaluated (files : EvaluationFiles) (run : BenchmarkRun) (results : List BenchmarkResult) :
    Except Exc (ℕ × ℕ) := do
  let kept ← loadSummary files run.runId
  let exported ← exportedEvaluations files results
  let again ← Aggregation.aggregate (fun _ => none) run results exported kept.evaluationConfiguration
  return (again.overall.fullyEvaluatedTasks, kept.overall.fullyEvaluatedTasks)

theorem not_describes {counts : ℕ × ℕ} (h : fullyEvaluated files run results = .ok counts)
    (hne : counts.1 ≠ counts.2) : ∃ summary ∈ files.summary, ¬ Describes (fun _ => none) run results files summary := by
  obtain ⟨kept, hkept, h⟩ := Except.bind_eq_ok.mp h
  obtain ⟨exported, hexported, h⟩ := Except.bind_eq_ok.mp h
  obtain ⟨again, hagain, h⟩ := Except.bind_eq_ok.mp h
  cases Except.pure_eq_ok.mp h
  have hsummary : kept ∈ files.summary := by
    rw [loadSummary] at hkept
    split at hkept
    · obtain ⟨-, hkept⟩ := Except.guard_eq_ok.mp hkept
      cases Except.pure_eq_ok.mp hkept
      assumption
    · cases hkept
  refine ⟨kept, hsummary, fun hdescribes => hne ?_⟩
  obtain ⟨evaluations, hevaluations, -, haggregate⟩ := hdescribes.exported
  cases hexported.symm.trans hevaluations
  cases hagain.symm.trans haggregate
  rfl

/-- The files after a complete evaluation without a judge, and one with a judge that ends after its first write. -/
def cutFiles : Except Exc EvaluationFiles := do
  let first ← withoutJudge.evaluate sampleText (fun _ => none) summaryDirectory .sample
  let second ← withJudge.evaluate sampleText (fun _ => none) summaryDirectory .sample
  return written ((save second.1 second.2).take 1) (written ((save first.1 first.2).take 2) {})

/-- The summary still counts the result as incomplete, next to the score that is exported for it. -/
theorem old_summary_left_behind : ∃ files run results, loadRun sampleText summaryDirectory .sample = .ok (run, results) ∧
    EvaluatedFiles sampleText (fun _ => none) summaryDirectory .sample (fun _ _ _ => True) files ∧
      ∃ summary ∈ files.summary, ¬ Describes (fun _ => none) run results files summary := by
  have hcounts : (loadRun sampleText summaryDirectory .sample >>= fun loaded => cutFiles >>= fun files =>
      fullyEvaluated files loaded.1 loaded.2).toOption = some (1, 0) := by decide +kernel
  obtain ⟨⟨run, results⟩, hload, h⟩ := Except.bind_eq_ok.mp (Except.eq_ok_of_toOption hcounts)
  obtain ⟨files, hfiles, hcounts⟩ := Except.bind_eq_ok.mp h
  obtain ⟨⟨evaluations, summary⟩, hfirst, h⟩ := Except.bind_eq_ok.mp hfiles
  obtain ⟨⟨evaluations', summary'⟩, hsecond, h⟩ := Except.bind_eq_ok.mp h
  cases Except.pure_eq_ok.mp h
  have hcut : EvaluatedFiles sampleText (fun _ => none) summaryDirectory .sample (fun _ _ _ => True) _ :=
    .saved withJudge 1 (.saved withoutJudge 2 .start hfirst trivial) hsecond trivial
  exact ⟨_, run, results, hload, hcut, not_describes hcounts Nat.one_ne_zero⟩

end RouteLLM
