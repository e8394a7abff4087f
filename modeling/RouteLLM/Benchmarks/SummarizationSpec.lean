import Mathlib.Data.Finset.Dedup
import Mathlib.Data.String.Basic
import RouteLLM.Benchmarks.Models
import RouteLLM.Errors
import RouteLLM.Lib.Except
import RouteLLM.Lib.KeySort
import RouteLLM.Lib.WeightedSum

/-!
# Weighted propositions of a summary

`benchmarks/summarization_spec.py`. The reference of a summary is a list of weighted propositions whose
weights sum to the number of the requirements that they refine. A map of verdicts gives the covered part of
that weight, or no coverage where a verdict is ambiguous.
-/

namespace RouteLLM.Summarization

inductive EntailmentVerdict
  | entailed | notEntailed | ambiguous
  deriving DecidableEq

/-- A positive rational weight. -/
@[ext]
structure RationalWeight where
  numerator : ℕ
  denominator : ℕ
  numerator_pos : 0 < numerator
  denominator_pos : 0 < denominator

instance : DecidableEq RationalWeight := fun _ _ => decidable_of_iff' _ RationalWeight.ext_iff

def RationalWeight.fraction (weight : RationalWeight) : ℚ := weight.numerator / weight.denominator

theorem RationalWeight.fraction_pos (weight : RationalWeight) : 0 < weight.fraction :=
  div_pos (Nat.cast_pos.mpr weight.numerator_pos) (Nat.cast_pos.mpr weight.denominator_pos)

inductive DerivationPolicy
  | allowed | notAllowed | conditional
  deriving DecidableEq

/-- `DerivationRule`, with the check of `conditional_rules_declare_dependencies`. -/
@[ext]
structure DerivationRule where
  derivationId : String
  policy : DerivationPolicy
  requiresPropositionIds : List String := []
  pattern : isTaskId derivationId.toList = true
  dependencies : policy = .conditional ↔ requiresPropositionIds ≠ []

instance : DecidableEq DerivationRule := fun _ _ => decidable_of_iff' _ DerivationRule.ext_iff

/-- A proposition with the fields that the coverage and the rules of the judge read. An equivalence is the text
of its alternative. -/
@[ext]
structure SemanticProposition where
  propositionId : String
  weight : RationalWeight
  acceptedEquivalences : List String := []
  derivations : List DerivationRule := []
  pattern : isTaskId propositionId.toList = true

instance : DecidableEq SemanticProposition := fun _ _ => decidable_of_iff' _ SemanticProposition.ext_iff

/-- The fields of a specification, before its validator has run. -/
structure SpecificationFields where
  legacyRequirements : List String
  propositions : List SemanticProposition
  legacyRequirements_nonempty : legacyRequirements ≠ []
  propositions_nonempty : propositions ≠ []

/-- The ids of the propositions. -/
def SpecificationFields.ids (task : SpecificationFields) : List String :=
  task.propositions.map (·.propositionId)

/-- The sum of the weights. -/
def SpecificationFields.weight (task : SpecificationFields) : ℚ :=
  (task.propositions.map (·.weight.fraction)).sum

/-- `SummarizationTaskSpecification`: fields that pass the validator. -/
structure SummarizationTaskSpecification extends SpecificationFields where
  ids_nodup : toSpecificationFields.ids.Nodup
  weight_eq : toSpecificationFields.weight = legacyRequirements.length

/-- `stable_unique_weighted_propositions`. -/
def SpecificationFields.stableUniqueWeightedPropositions (fields : SpecificationFields) :
    Except Exc SummarizationTaskSpecification :=
  if hids : fields.ids.Nodup then
    if hweight : fields.weight = fields.legacyRequirements.length then
      .ok ⟨fields, hids, hweight⟩
    else
      .error (.raised .valueError "splits must preserve the legacy task's total semantic weight")
  else
    .error (.raised .valueError "proposition IDs must be unique within a task")

/-- The validator accepts exactly the fields of a specification. -/
theorem stableUniqueWeightedPropositions_eq_ok {fields : SpecificationFields}
    {task : SummarizationTaskSpecification} :
    fields.stableUniqueWeightedPropositions = .ok task ↔ task.toSpecificationFields = fields := by
  unfold SpecificationFields.stableUniqueWeightedPropositions
  constructor
  · intro h
    split_ifs at h
    cases h
    rfl
  · rintro rfl
    rw [dif_pos task.ids_nodup, dif_pos task.weight_eq]

/-- A dictionary of verdicts, in the order in which its keys were inserted. -/
structure Verdicts where
  entries : List (String × EntailmentVerdict)
  keys_nodup : (entries.map (·.1)).Nodup

def Verdicts.keys (verdicts : Verdicts) : List String := verdicts.entries.map (·.1)

/-- `verdicts.get(key)`. -/
def Verdicts.get (verdicts : Verdicts) (key : String) : Option EntailmentVerdict :=
  verdicts.entries.lookup key

inductive CoverageStatus
  | complete | incomplete
  deriving DecidableEq

structure CoverageResult where
  status : CoverageStatus
  coverageNumerator : Option ℤ := none
  coverageDenominator : Option ℕ := none
  ambiguousPropositionIds : List String := []
  deriving DecidableEq

/-- The fraction that a result states. -/
def CoverageResult.fraction (result : CoverageResult) : Option ℚ :=
  match result.coverageNumerator, result.coverageDenominator with
  | some numerator, some denominator => some (numerator / denominator)
  | _, _ => none

/-- The keys with an ambiguous verdict, sorted. -/
def Verdicts.ambiguous (verdicts : Verdicts) : List String :=
  KeySort.sortBy id ((verdicts.entries.filter (·.2 = .ambiguous)).map (·.1))

/-- `weights[key]` of the dictionary of the weights. The ids are distinct. -/
def SpecificationFields.weightOf (task : SpecificationFields) (key : String) : Except Exc ℚ :=
  match (task.propositions.map fun p => (p.propositionId, p.weight.fraction)).lookup key with
  | some weight => .ok weight
  | none => .error (.raised .keyError key)

/-- `weighted_coverage`. -/
def weightedCoverage (task : SummarizationTaskSpecification) (verdicts : Verdicts) :
    Except Exc CoverageResult :=
  if verdicts.keys.toFinset ≠ task.ids.toFinset then
    .error (.raised .valueError "verdicts must cover every proposition exactly once")
  else if verdicts.ambiguous ≠ [] then
    .ok { status := .incomplete, ambiguousPropositionIds := verdicts.ambiguous }
  else do
    let earned ← (verdicts.entries.filter (·.2 = .entailed)).mapM fun entry => task.weightOf entry.1
    let coverage := earned.sum / task.weight
    return { status := .complete,
             coverageNumerator := some coverage.num,
             coverageDenominator := some coverage.den }

end RouteLLM.Summarization
