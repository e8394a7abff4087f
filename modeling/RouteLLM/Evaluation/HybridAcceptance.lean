import RouteLLM.Evaluation.HybridJudge

/-!
# Acceptance of a judged summary

The float that is compared with the threshold is the nearest one of the exact coverage, and a veto puts zero in
its place. So the two decisions differ where the threshold is zero, and where the exact coverage is below the
threshold and rounds to it.
-/

namespace RouteLLM.Summarization

variable {task : SummarizationTaskSpecification} {acceptableThreshold : Option Probability}
  {deterministic : EvaluationResult} {rubric : HybridSemanticRubric}

/-- The weight of the entailed propositions as a fraction of the number of requirements. -/
def exactCoverage (task : SummarizationTaskSpecification) (rubric : HybridSemanticRubric) : ℚ :=
  entailedWeight task.toSpecificationFields rubric.verdicts / task.legacyRequirements.length

/-- Nothing is left to a human: no verdict is ambiguous and no finding is borderline. -/
def Decided (rubric : HybridSemanticRubric) : Prop :=
  (∀ item ∈ rubric.propositionJudgments, item.verdict ≠ .ambiguous) ∧
    ∀ finding ∈ rubric.materialErrorFindings, finding.materiality ≠ .borderline

/-- No deterministic component failed and no finding is material. -/
def Unvetoed (deterministic : EvaluationResult) (rubric : HybridSemanticRubric) : Prop :=
  (∀ entry ∈ deterministic.componentScores, entry.2 = .one) ∧
    ∀ finding ∈ rubric.materialErrorFindings, finding.materiality ≠ .material

/-- The evaluation has a score exactly where everything is decided, it accepts exactly what reaches the threshold
unvetoed, and its failure type says so. -/
def ExactlyAccepts (task : SummarizationTaskSpecification) (acceptableThreshold : Option Probability)
    (deterministic : EvaluationResult) (rubric : HybridSemanticRubric) : Prop :=
  ∃ result details,
    evaluateHybridSemantically task acceptableThreshold deterministic (.evaluated rubric) = .ok (result, details) ∧
    (result.evaluationStatus = .evaluated ↔ Decided rubric) ∧
    (result.evaluationStatus = .evaluated →
      (result.acceptable = some true ↔ Unvetoed deterministic rubric ∧
        strFraction (acceptableThreshold.getD defaultThreshold) ≤ exactCoverage task rubric) ∧
      (details.failureType = "COMPLETE_SEMANTIC_RESULT" ↔ result.acceptable = some true))

/-- A veto meets a positive threshold, and without one the exact coverage does not round up to the threshold. -/
def ThresholdSeparates (task : SummarizationTaskSpecification) (threshold : Probability)
    (deterministic : EvaluationResult) (rubric : HybridSemanticRubric) : Prop :=
  (¬ Unvetoed deterministic rubric → 0 < threshold.float.val) ∧
    (Unvetoed deterministic rubric → exactCoverage task rubric < strFraction threshold →
      Binary64.round (exactCoverage task rubric) < threshold.float.val)

/-! ## The verdicts of a rubric -/

theorem covers_of_validateRubric
    (h : validateRubric (requiredPropositions task.toSpecificationFields) rubric = none) :
    rubric.verdicts.Covers task.toSpecificationFields := by
  unfold validateRubric at h
  dsimp only at h
  split at h
  · cases h
  · rename_i hids
    have heq := not_not.mp (not_or.mp hids).1
    have hkeys : rubric.verdicts.keys = rubric.propositionJudgments.map (·.propositionId) := by
      rw [Verdicts.keys, HybridSemanticRubric.verdicts, List.map_map]
      rfl
    have hrequired : (requiredPropositions task.toSpecificationFields).map (·.propositionId) = task.ids := by
      rw [requiredPropositions, List.map_map]
      rfl
    rw [Verdicts.covers_iff, hkeys, heq, hrequired]

/-- A verdict is ambiguous where a judgment is. -/
theorem ambiguous_eq_nil_iff : rubric.verdicts.ambiguous = [] ↔
    ∀ item ∈ rubric.propositionJudgments, item.verdict ≠ .ambiguous := by
  rw [Verdicts.ambiguous, ← List.length_eq_zero_iff, (KeySort.sortBy_perm _ _).length_eq,
    List.length_eq_zero_iff, List.map_eq_nil_iff, List.filter_eq_nil_iff, HybridSemanticRubric.verdicts, List.forall_mem_map]
  refine forall₂_congr fun item _ => ?_
  rw [decide_eq_true_eq]

/-! ## The score -/

theorem exactCoverage_mem_unit : 0 ≤ exactCoverage task rubric ∧ exactCoverage task rubric ≤ 1 :=
  ⟨div_nonneg (WeightedSum.weightWhere_nonneg fraction_pos) requirements_pos.le,
    div_le_one_of_le₀ entailedWeight_le requirements_pos.le⟩

/-- The division of numerator and denominator is the nearest float of the fraction. -/
theorem ratio_num_den {x : ℚ} (hlow : 0 ≤ x) (hhigh : x ≤ 1) : ∃ y : Probability,
    PyFloat.ratio x.num.toNat x.den = .finite y.float ∧ y.float.val = Binary64.round x := by
  have hnum : (0 : ℤ) ≤ x.num := Rat.num_nonneg.mpr hlow
  have hle : x.num.toNat ≤ x.den := by
    have := Rat.num_le_denom_iff.mpr hhigh
    omega
  have hquot : ((x.num.toNat : ℕ) : ℚ) / x.den = x := by
    have hcast : ((x.num.toNat : ℕ) : ℚ) = x.num := by exact_mod_cast Int.toNat_of_nonneg hnum
    rw [hcast, Rat.num_div_den]
  obtain ⟨y, hy, hval, hy0, hy1⟩ := PyFloat.ratio_eq hle
  rw [hquot] at hval
  exact ⟨⟨y, hy0, hy1⟩, hy, hval⟩

/-- Floats of the unit interval pass the validation of the scores. -/
theorem scored_eq (deterministic : EvaluationResult) (name : String) (quality threshold : Probability) (components : List (String × Probability)) :
    ∃ result, deterministic.scored name (.finite quality.float) threshold
        (components.map fun entry => (entry.1, PyFloat.finite entry.2.float)) = .ok result ∧
      result.evaluationStatus = .evaluated ∧
      result.acceptable = some (decide (threshold ≤ quality)) := by
  have hread : ((components.map fun entry => (entry.1, PyFloat.finite entry.2.float)).mapM fun entry =>
      (Probability.ofFloat? entry.2).map fun score => (entry.1, score)) = some components := by
    induction components with
    | nil => rfl
    | cons entry components ih =>
      rw [List.map_cons, List.mapM_cons, ih, Probability.ofFloat?_float]
      rfl
  rw [EvaluationResult.scored, Probability.ofFloat?_float, hread]
  exact ⟨_, rfl, rfl, rfl⟩

theorem filter_materiality_eq_nil {materiality : Materiality} {findings : List MaterialErrorFinding} :
    findings.filter (·.materiality = materiality) = [] ↔
      ∀ finding ∈ findings, finding.materiality ≠ materiality := by
  rw [List.filter_eq_nil_iff]
  refine forall₂_congr fun finding _ => ?_
  rw [decide_eq_true_eq]

theorem all_one_iff : deterministic.componentScores.all (·.2 = .one) = true ↔
    ∀ entry ∈ deterministic.componentScores, entry.2 = .one := by
  rw [List.all_eq_true]
  refine forall₂_congr fun entry _ => ?_
  rw [decide_eq_true_eq]

variable {x threshold : ℚ} {score : PyFloat}

/-- The quality and the failure type that the evaluation computes. -/
def scoreOf (deterministic : EvaluationResult) (rubric : HybridSemanticRubric) (x threshold : ℚ)
    (score : PyFloat) : PyFloat × String :=
  qualityAndFailure (deterministic.componentScores.all (·.2 = .one))
    (rubric.materialErrorFindings.filter (·.materiality = .material)) x threshold score

theorem scoreOf_unvetoed (h : Unvetoed deterministic rubric) :
    scoreOf deterministic rubric x threshold score =
      (score, if x < threshold then "COVERAGE_FAILURE" else "COMPLETE_SEMANTIC_RESULT") := by
  rw [scoreOf, qualityAndFailure, all_one_iff.mpr h.1, if_neg Bool.noConfusion,
    filter_materiality_eq_nil.mpr h.2, if_neg (not_not.mpr rfl)]
  split
  · rfl
  · rfl

theorem scoreOf_vetoed (h : ¬ Unvetoed deterministic rubric) :
    ∃ failureType, scoreOf deterministic rubric x threshold score = (.finite 0, failureType) ∧
      failureType ≠ "COMPLETE_SEMANTIC_RESULT" := by
  rw [scoreOf, qualityAndFailure]
  by_cases hpassed : deterministic.componentScores.all (·.2 = .one) = false
  · rw [if_pos hpassed]
    exact ⟨_, rfl, by decide⟩
  · have hmaterial : rubric.materialErrorFindings.filter (·.materiality = .material) ≠ [] := fun hnil =>
      h ⟨all_one_iff.mp (by simpa using hpassed), filter_materiality_eq_nil.mp hnil⟩
    rw [if_neg hpassed, if_pos hmaterial]
    exact ⟨_, rfl, by decide⟩

/-- The quality is a float of the unit interval. -/
theorem exists_quality (deterministic : EvaluationResult) (rubric : HybridSemanticRubric) (x threshold : ℚ)
    (score : Probability) : ∃ (quality : Probability) (failureType : String),
    scoreOf deterministic rubric x threshold (.finite score.float) =
      (.finite quality.float, failureType) := by
  by_cases h : Unvetoed deterministic rubric
  · exact ⟨score, _, scoreOf_unvetoed h⟩
  · obtain ⟨failureType, hscore, -⟩ := scoreOf_vetoed h
    exact ⟨⟨0, le_rfl, zero_le_one⟩, failureType, hscore⟩

/-- A decided evaluation has a score. -/
theorem evaluate_decided (acceptableThreshold : Option Probability) (deterministic : EvaluationResult)
    (hcovers : rubric.verdicts.Covers task.toSpecificationFields) (h : Decided rubric) :
    ∃ (score quality : Probability) (failureType : String) (result : EvaluationResult)
      (details : HybridDetails),
      score.float.val = Binary64.round (exactCoverage task rubric) ∧
      scoreOf deterministic rubric (exactCoverage task rubric)
        (strFraction (acceptableThreshold.getD defaultThreshold)) (.finite score.float) =
          (.finite quality.float, failureType) ∧
      evaluateHybridSemantically task acceptableThreshold deterministic (.evaluated rubric) =
        .ok (result, details) ∧
      result.evaluationStatus = .evaluated ∧
      result.acceptable = some (decide (acceptableThreshold.getD defaultThreshold ≤ quality)) ∧
      details.failureType = failureType := by
  obtain ⟨score, hratio, hval⟩ := ratio_num_den (x := exactCoverage task rubric) exactCoverage_mem_unit.1
    exactCoverage_mem_unit.2
  obtain ⟨quality, failureType, hscore⟩ := exists_quality deterministic rubric (exactCoverage task rubric)
    (strFraction (acceptableThreshold.getD defaultThreshold)) score
  have hcoverage : coverage task rubric.verdicts = .ofFraction (exactCoverage task rubric) :=
    if_neg (not_not.mpr (ambiguous_eq_nil_iff.mpr h.1))
  have hundecided : ¬ ((CoverageResult.ofFraction (exactCoverage task rubric)).status = .incomplete ∨
      rubric.materialErrorFindings.filter (·.materiality = .borderline) ≠ []) := by
    rw [filter_materiality_eq_nil.mpr h.2]
    simp [CoverageResult.ofFraction]
  have hscore' := hscore
  rw [scoreOf] at hscore'
  obtain ⟨result, hresult, hstatus, hacceptable⟩ := scored_eq deterministic
    "hybrid_proposition_semantic_summary" quality (acceptableThreshold.getD defaultThreshold)
    (deterministic.componentScores.map (fun entry => ("deterministic_" ++ entry.1, entry.2)) ++
      [("weighted_proposition_coverage", score),
       ("no_material_semantic_errors",
         if rubric.materialErrorFindings.filter (·.materiality = .material) = [] then .one
         else ⟨0, le_rfl, zero_le_one⟩)])
  refine ⟨score, quality, failureType, result,
    { failureType := failureType,
      coverageFraction := some ((exactCoverage task rubric).num, (exactCoverage task rubric).den),
      materialErrorVetoCount :=
        some (rubric.materialErrorFindings.filter (·.materiality = .material)).length },
    hval, hscore, ?_, hstatus, hacceptable, rfl⟩
  unfold evaluateHybridSemantically
  dsimp only
  rw [weightedCoverage_eq hcovers, Except.ok_bind, hcoverage, if_neg hundecided]
  dsimp only [CoverageResult.ofFraction]
  have hveto : (if rubric.materialErrorFindings.filter (·.materiality = .material) = [] then Probability.one
      else ⟨0, le_rfl, zero_le_one⟩).float =
      if rubric.materialErrorFindings.filter (·.materiality = .material) = [] then 1 else 0 := by
    split
    · rfl
    · rfl
  rw [List.map_append, List.map_map, List.map_cons, List.map_cons, List.map_nil, hveto] at hresult
  rw [hratio, Rat.num_div_den, hscore']
  dsimp only
  rw [Function.comp_def] at hresult
  rw [hresult, Except.ok_bind]
  rfl

/-- An evaluation that is not decided has no score. -/
theorem evaluate_undecided (hcovers : rubric.verdicts.Covers task.toSpecificationFields)
    (h : ¬ Decided rubric) : ∃ result details,
      evaluateHybridSemantically task acceptableThreshold deterministic (.evaluated rubric) =
        .ok (result, details) ∧ result.evaluationStatus = .partially := by
  have hundecided : (coverage task rubric.verdicts).status = .incomplete ∨
      rubric.materialErrorFindings.filter (·.materiality = .borderline) ≠ [] := by
    by_contra hnot
    obtain ⟨hcomplete, hborderline⟩ := not_or.mp hnot
    rw [coverage_status, not_not] at hcomplete
    exact h ⟨ambiguous_eq_nil_iff.mp hcomplete, filter_materiality_eq_nil.mp (not_not.mp hborderline)⟩
  unfold evaluateHybridSemantically
  dsimp only
  rw [weightedCoverage_eq hcovers, Except.ok_bind, if_pos hundecided]
  exact ⟨_, _, rfl, rfl⟩

/-! ## The two decisions -/

theorem strFraction_nonneg (threshold : Probability) : 0 ≤ strFraction threshold := by
  rw [strFraction, Decimal.toRat]
  exact mul_nonneg (Int.cast_nonneg (Binary64.shortest_nonneg threshold.nonneg)) (by positivity)

/-- What reaches the text of the threshold reaches the threshold after rounding. -/
theorem le_round_of_strFraction_le {threshold : Probability} {x : ℚ} (h : strFraction threshold ≤ x) :
    threshold.float.val ≤ Binary64.round x := by
  rw [← Binary64.round_shortest threshold.nonneg]
  exact Binary64.round_mono (strFraction_nonneg threshold) h

/-- The two decisions agree with the exact one exactly where the threshold separates. -/
theorem decisions_agree_iff {threshold score quality : Probability} {failureType : String}
    (hval : score.float.val = Binary64.round (exactCoverage task rubric))
    (hscore : scoreOf deterministic rubric (exactCoverage task rubric) (strFraction threshold)
      (.finite score.float) = (.finite quality.float, failureType)) :
    ((threshold ≤ quality ↔ Unvetoed deterministic rubric ∧
        strFraction threshold ≤ exactCoverage task rubric) ∧
      (failureType = "COMPLETE_SEMANTIC_RESULT" ↔ threshold ≤ quality)) ↔
      ThresholdSeparates task threshold deterministic rubric := by
  have hle : ∀ p : Probability, threshold ≤ p ↔ threshold.float.val ≤ p.float.val := fun _ => Iff.rfl
  by_cases hveto : Unvetoed deterministic rubric
  · rw [scoreOf_unvetoed hveto, Prod.mk.injEq] at hscore
    obtain ⟨hquality, rfl⟩ := hscore
    rw [hle, ← PyFloat.finite.inj hquality, hval, ThresholdSeparates, and_iff_right hveto]
    by_cases hbelow : exactCoverage task rubric < strFraction threshold
    · have hother : ¬ "COVERAGE_FAILURE" = "COMPLETE_SEMANTIC_RESULT" := by decide
      rw [if_pos hbelow, iff_false_right hbelow.not_ge, iff_false_left hother]
      exact ⟨fun h => ⟨fun hnot => absurd hveto hnot, fun _ _ => not_le.mp h.1⟩,
        fun h => ⟨not_le.mpr (h.2 hveto hbelow), not_le.mpr (h.2 hveto hbelow)⟩⟩
    · have hreach := le_round_of_strFraction_le (not_lt.mp hbelow)
      rw [if_neg hbelow]
      exact iff_of_true ⟨iff_of_true hreach (not_lt.mp hbelow), iff_of_true rfl hreach⟩
        ⟨fun hnot => absurd hveto hnot, fun _ hlt => absurd hlt hbelow⟩
  · obtain ⟨failureType', hscore', hne⟩ := scoreOf_vetoed (x := exactCoverage task rubric) hveto
    rw [hscore', Prod.mk.injEq] at hscore
    obtain ⟨hquality, rfl⟩ := hscore
    have hnot : ¬ (Unvetoed deterministic rubric ∧ strFraction threshold ≤ exactCoverage task rubric) :=
      fun h => hveto h.1
    rw [hle, ← PyFloat.finite.inj hquality, ThresholdSeparates, iff_false_right hnot, iff_false_left hne]
    exact ⟨fun h => ⟨fun _ => not_le.mp h.1, fun h' => absurd h' hveto⟩,
      fun h => ⟨not_le.mpr (h.1 hveto), not_le.mpr (h.1 hveto)⟩⟩

theorem sample_pattern : isTaskId "p".toList = true := by decide

theorem sample_weight : ([(⟨"p", ⟨1, 1, one_pos, one_pos⟩, [], [], sample_pattern⟩ : SemanticProposition)].map
    (·.weight.fraction)).sum = ((["requirement"].length : ℕ) : ℚ) := by
  simp [RationalWeight.fraction]

/-- A specification of one proposition. -/
def SummarizationTaskSpecification.sample : SummarizationTaskSpecification where
  legacyRequirements := ["requirement"]
  propositions := [⟨"p", ⟨1, 1, one_pos, one_pos⟩, [], [], sample_pattern⟩]
  legacyRequirements_nonempty := List.cons_ne_nil _ _
  propositions_nonempty := List.cons_ne_nil _ _
  ids_nodup := List.nodup_singleton _
  weight_eq := sample_weight

/-- A rubric in which the proposition is entailed. -/
def HybridSemanticRubric.sample : HybridSemanticRubric where
  propositionJudgments := [{ propositionId := "p", verdict := .entailed }]
  judgments_nonempty := List.cons_ne_nil _ _
  ids_nodup := List.nodup_singleton _
  findings_nodup := List.nodup_nil

theorem zero_val_nonneg : 0 ≤ (0 : Binary64).val := le_rfl

theorem zero_val_le_one : (0 : Binary64).val ≤ 1 := zero_le_one

/-- A deterministic evaluation with a failed component. -/
def failedComponent : EvaluationResult where
  benchmarkResultId := .sample
  runId := .sample
  taskId := "task"
  modelId := "model"
  evaluatorName := "deterministic_summary"
  evaluationStatus := .requiresSemanticJudge
  acceptableThreshold := .one
  acceptable := none
  componentScores := [("max_words", ⟨0, zero_val_nonneg, zero_val_le_one⟩)]
  consistent := EvaluationResult.unscored_consistent

theorem not_unvetoed_sample : ¬ Unvetoed failedComponent .sample := by
  intro h
  have hone := congrArg (fun p => p.float.val) (h.1 _ List.mem_cons_self)
  exact absurd hone zero_ne_one

theorem validateRubric_sample :
    validateRubric (requiredPropositions SummarizationTaskSpecification.sample.toSpecificationFields) .sample = none := by
  decide

end RouteLLM.Summarization
