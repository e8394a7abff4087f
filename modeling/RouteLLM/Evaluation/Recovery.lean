import RouteLLM.Evaluation.StoredSummary

/-!
# Recovery of the evaluation files

Saves of one run follow each other, each cut short at any of its writes. Whatever they left, a result has at most one
file, which some evaluation of the run has computed, and the next complete save puts its summary next to exactly the
evaluations that it aggregates.
-/

namespace RouteLLM

open FileEvaluationRepository

variable {Text : Type} {texts : ArtifactText Text} {decimalOf : PyJson → Option Decimal}
  {directory : RunDirectory Text} {runId : Uuid} {run : BenchmarkRun} {results : List BenchmarkResult}
  {evaluations : List MeteredEvaluation} {summary : EvaluationSummary} {files : EvaluationFiles}

/-- Every file, and the summary, is one that an evaluation of the run has computed. -/
structure EvaluationFiles.Computed (texts : ArtifactText Text) (decimalOf : PyJson → Option Decimal)
    (directory : RunDirectory Text) (runId : Uuid) (files : EvaluationFiles) : Prop where
  evaluations : ∀ file ∈ files.evaluations, ∃ (service : EvaluationService) (evaluations : List MeteredEvaluation)
    (summary : EvaluationSummary), service.evaluate texts decimalOf directory runId = .ok (evaluations, summary) ∧
      file ∈ evaluations.map evaluationFile
  summary : ∀ summary ∈ files.summary, ∃ (service : EvaluationService) (evaluations : List MeteredEvaluation),
    service.evaluate texts decimalOf directory runId = .ok (evaluations, summary)

/-- The first writes of a save are some of its evaluations, and the summary only after all of them. -/
theorem written_take (evaluations : List MeteredEvaluation) (summary : EvaluationSummary) (files : EvaluationFiles)
    (count : ℕ) : ∃ n kept, (kept = files.summary ∨ kept = some summary) ∧
      written ((save evaluations summary).take count) files =
        ⟨FileTable.putAll ((evaluations.take n).map evaluationFile) files.evaluations, kept⟩ := by
  by_cases hcount : (save evaluations summary).length ≤ count
  · refine ⟨evaluations.length, some summary, .inr rfl, ?_⟩
    rw [List.take_of_length_le hcount, written_save, List.take_length]
  · refine ⟨count, files.summary, .inl rfl, ?_⟩
    rw [take_save (Nat.lt_of_not_le hcount), written_evaluations]

/-- The step lemma: a save that is cut anywhere keeps the files named and computed. -/
theorem saved_computed {service : EvaluationService} {count : ℕ} (hresults : (results.map (·.resultId)).Nodup)
    (hload : loadRun texts directory runId = .ok (run, results))
    (hevaluate : service.evaluate texts decimalOf directory runId = .ok (evaluations, summary))
    (hkept : files.Kept results) (hcomputed : files.Computed texts decimalOf directory runId) :
    (written ((save evaluations summary).take count) files).Kept results ∧
      (written ((save evaluations summary).take count) files).Computed texts decimalOf directory runId := by
  obtain ⟨hids, -⟩ := EvaluationService.evaluate_eq_ok hload hevaluate
  have hnodup : (evaluations.map (·.benchmarkResultId)).Nodup := hids ▸ hresults
  obtain ⟨n, kept, hkeptSummary, hwritten⟩ := written_take evaluations summary files count
  have hsublist : (evaluations.take n).Sublist evaluations := List.take_sublist _ _
  have hfirst : ((evaluations.take n).map (·.benchmarkResultId)).Nodup := hnodup.sublist (hsublist.map _)
  rw [hwritten]
  refine ⟨hkept.putAll hfirst (List.Subset.trans (hsublist.map _).subset (hids ▸ List.Subset.refl _)) _, ?_, ?_⟩
  · intro file hmem
    rcases (FileTable.mem_putAll (distinct_files hfirst)).mp hmem with hnew | ⟨hold, -⟩
    · exact ⟨service, evaluations, summary, hevaluate, (hsublist.map evaluationFile).subset hnew⟩
    · exact hcomputed.evaluations file hold
  · intro stored hstored
    rcases hkeptSummary with rfl | rfl
    · exact hcomputed.summary stored hstored
    · cases hstored
      exact ⟨service, evaluations, hevaluate⟩

/-- The run lemma: saves that are cut anywhere keep the files named and computed. -/
theorem evaluated_computed {Allowed : EvaluationFiles → List EvaluationWrite → ℕ → Prop}
    (hload : loadRun texts directory runId = .ok (run, results))
    (h : EvaluatedFiles texts decimalOf directory runId Allowed files) :
    files.Kept results ∧ files.Computed texts decimalOf directory runId := by
  have hresults := loadRun_ids hload
  induction h with
  | start =>
    refine ⟨⟨List.nodup_nil, ?_, ?_⟩, ⟨?_, ?_⟩⟩
    · exact fun _ hmem => absurd hmem List.not_mem_nil
    · exact fun _ hmem => absurd hmem List.not_mem_nil
    · exact fun _ hmem => absurd hmem List.not_mem_nil
    · exact fun _ hnone => by cases hnone
  | saved service count _ hevaluate _ ih => exact saved_computed hresults hload hevaluate ih.1 ih.2

/-- A complete save replaces every file of the results. -/
theorem EvaluationFiles.Kept.describes {service : EvaluationService}
    (hload : loadRun texts directory runId = .ok (run, results)) (hkept : files.Kept results)
    (hevaluate : service.evaluate texts decimalOf directory runId = .ok (evaluations, summary)) :
    Describes decimalOf run results (written (save evaluations summary) files) summary := by
  have hresults := loadRun_ids hload
  obtain ⟨hids, haggregate⟩ := EvaluationService.evaluate_eq_ok hload hevaluate
  obtain ⟨hrun, hconfiguration⟩ := aggregate_configuration haggregate
  have hperm := FileTable.putAll_perm_of_cover hkept.distinct (distinct_files (hids ▸ hresults)) (hkept.cover hids)
  rw [written_save]
  refine ⟨?_, evaluations, exportedEvaluations_of_perm hresults hids hperm, hperm, ?_⟩
  · exact if_neg (not_not.mpr hrun)
  · rw [hconfiguration]
    exact haggregate

/-- **A complete save recovers from any saves that were cut short.** Before it the files of a run may be those of
several evaluations, but each is one that was computed for its result. -/
theorem evaluated_recovers {Allowed : EvaluationFiles → List EvaluationWrite → ℕ → Prop}
    (hload : loadRun texts directory runId = .ok (run, results))
    (h : EvaluatedFiles texts decimalOf directory runId Allowed files) :
    files.Kept results ∧ files.Computed texts decimalOf directory runId ∧
      ∀ (service : EvaluationService) (evaluations : List MeteredEvaluation) (summary : EvaluationSummary),
        service.evaluate texts decimalOf directory runId = .ok (evaluations, summary) →
          Describes decimalOf run results (written (save evaluations summary) files) summary := by
  obtain ⟨hkept, hcomputed⟩ := evaluated_computed hload h
  exact ⟨hkept, hcomputed, fun _ _ _ hevaluate => hkept.describes hload hevaluate⟩

/-- The files of an evaluation without a judge, and the first of one with a judge. -/
theorem evaluated_recovers_sample : ∃ files run results,
    loadRun sampleText summaryDirectory .sample = .ok (run, results) ∧ cutFiles = .ok files ∧
      files.Kept results ∧ files.Computed sampleText (fun _ => none) summaryDirectory .sample ∧
        ∀ (service : EvaluationService) (evaluations : List MeteredEvaluation) (summary : EvaluationSummary),
          service.evaluate sampleText (fun _ => none) summaryDirectory .sample = .ok (evaluations, summary) →
            Describes (fun _ => none) run results (written (save evaluations summary) files) summary := by
  obtain ⟨⟨run, results⟩, hload⟩ := Except.exists_eq_ok
    (x := loadRun sampleText summaryDirectory .sample) (by decide +kernel)
  obtain ⟨files, hfiles⟩ := Except.exists_eq_ok (x := cutFiles) (by decide +kernel)
  obtain ⟨⟨evaluations, summary⟩, hfirst, h⟩ := Except.bind_eq_ok.mp hfiles
  obtain ⟨⟨evaluations', summary'⟩, hsecond, h⟩ := Except.bind_eq_ok.mp h
  cases Except.pure_eq_ok.mp h
  have hcut : EvaluatedFiles sampleText (fun _ => none) summaryDirectory .sample (fun _ _ _ => True) _ :=
    .saved withJudge 1 (.saved withoutJudge 2 .start hfirst trivial) hsecond trivial
  exact ⟨_, run, results, hload, hfiles, evaluated_recovers hload hcut⟩

end RouteLLM
