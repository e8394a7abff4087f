import RouteLLM.Benchmarks.SummarizationCoverage
import RouteLLM.Evaluation.Models
import RouteLLM.Lib.FloatMean
import RouteLLM.Lib.FloatOrder
import RouteLLM.Lib.FloatReread

/-!
# Semantic judgments of a summary

`evaluation/hybrid_judge.py` and `_evaluate_hybrid_semantically` of `evaluation/service.py`. A judge gives a
verdict on every proposition and reports material errors. The pass decision is taken twice, on exact fractions
for the failure type and on floats for acceptability.
-/

namespace RouteLLM.Summarization

inductive MaterialErrorCategory
  | unsupportedMaterialClaim | contradiction | unsupportedCausation | attributionError
  | quantityOrTimeError | certaintyDistortion
  deriving DecidableEq

inductive Materiality
  | material | borderline
  deriving DecidableEq

structure MaterialErrorFinding where
  candidateClaim : String
  quote : String
  category : MaterialErrorCategory
  materiality : Materiality
  reason : String
  deriving DecidableEq

structure PropositionJudgment where
  propositionId : String
  verdict : EntailmentVerdict
  equivalenceOrDerivationUsed : Option String := none

/-- `HybridSemanticRubric`, with the check of `reject_duplicate_entries`. -/
structure HybridSemanticRubric where
  propositionJudgments : List PropositionJudgment
  materialErrorFindings : List MaterialErrorFinding := []
  judgments_nonempty : propositionJudgments ≠ []
  ids_nodup : (propositionJudgments.map (·.propositionId)).Nodup
  findings_nodup : materialErrorFindings.Nodup

/-- The verdicts of a rubric by proposition. -/
def HybridSemanticRubric.verdicts (rubric : HybridSemanticRubric) : Verdicts where
  entries := rubric.propositionJudgments.map fun item => (item.propositionId, item.verdict)
  keys_nodup := by
    rw [List.map_map]
    exact rubric.ids_nodup

/-- What a judge is told of a proposition: the rules it may use. -/
structure JudgeProposition where
  propositionId : String
  acceptedEquivalences : List String
  derivationRules : List DerivationRule

/-- The propositions of `HybridJudgeRequest.from_specification`. -/
def requiredPropositions (task : SpecificationFields) : List JudgeProposition :=
  task.propositions.map fun item => ⟨item.propositionId, item.acceptedEquivalences, item.derivations⟩

inductive RubricError
  | propositionIdMismatch | invalidRuleUse
  deriving DecidableEq

/-- A judgment uses a rule that it may not use. Of rules with one id the last is in the dictionary. -/
def invalidRuleUse (required : List JudgeProposition) (rubric : HybridSemanticRubric)
    (judgment : PropositionJudgment) : Bool :=
  match judgment.equivalenceOrDerivationUsed with
  | none => false
  | some used =>
    if judgment.verdict ≠ .entailed then true
    else (required.find? (·.propositionId = judgment.propositionId)).any fun proposition =>
      if used ∈ proposition.acceptedEquivalences.map ("equivalence:" ++ ·) then false
      else match proposition.derivationRules.reverse.find? (·.derivationId = used) with
        | none => true
        | some rule => rule.policy = .notAllowed || rule.policy = .conditional &&
            rule.requiresPropositionIds.any fun id => rubric.verdicts.get id ≠ some .entailed

/-- `validate_rubric`. -/
def validateRubric (required : List JudgeProposition) (rubric : HybridSemanticRubric) : Option RubricError :=
  let expected : Finset String := (required.map (·.propositionId)).toFinset
  let actual : Finset String := (rubric.propositionJudgments.map (·.propositionId)).toFinset
  if actual ≠ expected ∨ rubric.propositionJudgments.length ≠ expected.card then
    some .propositionIdMismatch
  else if rubric.propositionJudgments.any (invalidRuleUse required rubric) then some .invalidRuleUse
  else none

inductive JudgeErrorCategory
  | providerError | timeout | malformedJson | invalidSchema | propositionIdMismatch | invalidRuleUse
  deriving DecidableEq

/-- `HybridJudgeResult`: a rubric exactly where the judge has evaluated. -/
inductive HybridJudgeResult
  | evaluated (rubric : HybridSemanticRubric)
  | infrastructureFailure (category : JudgeErrorCategory)

/-- The entries of the details that the evaluation adds. -/
structure HybridDetails where
  failureType : String
  ambiguousPropositionIds : List String := []
  borderlineMaterialFindings : List MaterialErrorFinding := []
  coverageFraction : Option (ℤ × ℕ) := none
  materialErrorVetoCount : Option ℕ := none

/-- The threshold `0.8` of a task without one. -/
def defaultThreshold : Probability where
  float := ⟨Binary64.round (4 / 5), Binary64.round_round _, by
    have hlow : 0 ≤ Binary64.round (4 / 5) := Binary64.round_nonneg (by norm_num)
    have hhigh : Binary64.round (4 / 5) ≤ 1 := Binary64.round_le_one (by norm_num) (by norm_num)
    rw [abs_of_nonneg hlow]
    exact hhigh.trans_lt (one_lt_pow₀ one_lt_two (Nat.succ_ne_zero _))⟩
  nonneg := Binary64.round_nonneg (by norm_num)
  le_one := Binary64.round_le_one (by norm_num) (by norm_num)

/-- `Fraction(str(threshold))`. -/
def strFraction (threshold : Probability) : ℚ := threshold.float.shortest.toRat

/-- The quality and the failure type of a decided evaluation: the vetoes, then the exact comparison. -/
def qualityAndFailure (deterministicPassed : Bool) (material : List MaterialErrorFinding)
    (coverage threshold : ℚ) (coverageScore : PyFloat) : PyFloat × String :=
  if deterministicPassed = false then (.finite 0, "DETERMINISTIC_TASK_FAILURE")
  else if material ≠ [] then (.finite 0, "MATERIAL_SEMANTIC_FAILURE")
  else if coverage < threshold then (coverageScore, "COVERAGE_FAILURE")
  else (coverageScore, "COMPLETE_SEMANTIC_RESULT")

/-- `_evaluate_hybrid_semantically`, with the specification of the task and the result of its judge. -/
def evaluateHybridSemantically (task : SummarizationTaskSpecification) (acceptableThreshold : Option Probability)
    (deterministic : EvaluationResult) (outcome : HybridJudgeResult) :
    Except Exc (EvaluationResult × HybridDetails) :=
  let name := "hybrid_proposition_semantic_summary"
  match outcome with
  | .infrastructureFailure category => .ok (deterministic.unscored name,
      { failureType := if category = .providerError ∨ category = .timeout then "PROVIDER_FAILURE"
          else "MALFORMED_JUDGMENT" })
  | .evaluated rubric => do
    let coverage ← weightedCoverage task rubric.verdicts
    let borderline := rubric.materialErrorFindings.filter (·.materiality = .borderline)
    if coverage.status = .incomplete ∨ borderline ≠ [] then
      return (deterministic.unscored name,
        { failureType := "AMBIGUOUS_SEMANTIC_RESULT",
          ambiguousPropositionIds := coverage.ambiguousPropositionIds,
          borderlineMaterialFindings := borderline })
    let some numerator := coverage.coverageNumerator | throw (.raised .assertionError "")
    let some denominator := coverage.coverageDenominator | throw (.raised .assertionError "")
    let coverageScore := PyFloat.ratio numerator.toNat denominator
    let deterministicPassed := deterministic.componentScores.all (·.2 = .one)
    let material := rubric.materialErrorFindings.filter (·.materiality = .material)
    let threshold := acceptableThreshold.getD defaultThreshold
    let scored := qualityAndFailure deterministicPassed material (numerator / denominator)
      (strFraction threshold) coverageScore
    let components := deterministic.componentScores.map
        (fun entry => ("deterministic_" ++ entry.1, PyFloat.finite entry.2.float)) ++
      [("weighted_proposition_coverage", coverageScore),
       ("no_material_semantic_errors", PyFloat.finite (if material = [] then 1 else 0))]
    let result ← deterministic.scored name scored.1 threshold components
    return (result, { failureType := scored.2,
                      coverageFraction := some (numerator, denominator),
                      materialErrorVetoCount := some material.length })

end RouteLLM.Summarization
