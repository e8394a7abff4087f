import RouteLLM.Models

/-!
# Validation contracts and results

`validation/contracts.py`. A contract carries the checks of `compatible_constraints` and a result
those of `consistent_status`.
-/

namespace RouteLLM

def maxInputCharacters : ℕ := 262144
def maxJsonDepth : ℕ := 32
def maxConstraints : ℕ := 64
def maxFailures : ℕ := 16
def validatorVersion : String := "deterministic-v1"

inductive JsonType
  | object | array | string | number | integer | boolean | null
  deriving DecidableEq

inductive ContractFormat
  | text | json | label
  deriving DecidableEq

/-- `Name`: a string of 1 to 128 characters. -/
structure Name where
  value : String
  nonempty : value ≠ ""
  max_length : value.length ≤ 128
  deriving DecidableEq

/-- `ValidationContract`, with the checks of `compatible_constraints`. The field types are a
dictionary, whose keys are distinct. -/
structure ValidationContract where
  format : ContractFormat
  minCharacters : Option ℕ := none
  rootType : Option JsonType := none
  requiredFields : List Name := []
  fieldTypes : List (Name × JsonType) := []
  allowedLabels : List Name := []
  minCharacters_range : ∀ n, minCharacters = some n → 1 ≤ n ∧ n ≤ maxInputCharacters
  requiredFields_length : requiredFields.length ≤ maxConstraints
  fieldTypes_length : fieldTypes.length ≤ maxConstraints
  allowedLabels_length : allowedLabels.length ≤ maxConstraints
  fieldTypes_keys : (fieldTypes.map (·.1)).Nodup
  json_only : format ≠ .json → rootType = none ∧ requiredFields = [] ∧ fieldTypes = []
  object_root : requiredFields ≠ [] ∨ fieldTypes ≠ [] → rootType = none ∨ rootType = some .object
  labels_given : format = .label → allowedLabels ≠ []
  labels_stripped : format = .label → ∀ label ∈ allowedLabels,
    PyStr.strip label.value.toList = label.value.toList
  labels_long_enough : format = .label → ∀ n, minCharacters = some n →
    ∀ label ∈ allowedLabels, n ≤ label.value.length
  labels_only : format ≠ .label → allowedLabels = []
  requiredFields_nodup : requiredFields.Nodup
  allowedLabels_nodup : allowedLabels.Nodup

/-- The contract of a nonempty text. -/
def ValidationContract.nonemptyText : ValidationContract where
  format := .text
  minCharacters_range := by simp
  requiredFields_length := Nat.zero_le _
  fieldTypes_length := Nat.zero_le _
  allowedLabels_length := Nat.zero_le _
  fieldTypes_keys := by simp
  json_only _ := ⟨rfl, rfl, rfl⟩
  object_root := by simp
  labels_given := nofun
  labels_stripped := nofun
  labels_long_enough := nofun
  labels_only _ := rfl
  requiredFields_nodup := .nil
  allowedLabels_nodup := .nil

/-- The contract of any JSON value. -/
def ValidationContract.jsonValue : ValidationContract where
  format := .json
  minCharacters_range := by simp
  requiredFields_length := Nat.zero_le _
  fieldTypes_length := Nat.zero_le _
  allowedLabels_length := Nat.zero_le _
  fieldTypes_keys := by simp
  json_only h := absurd rfl h
  object_root := by simp
  labels_given := nofun
  labels_stripped := nofun
  labels_long_enough := nofun
  labels_only _ := rfl
  requiredFields_nodup := .nil
  allowedLabels_nodup := .nil

inductive ValidationStatus
  | passed | failed | notRun | error
  deriving DecidableEq

inductive ValidationFailureCode
  | emptyResponse | minimumCharacters | invalidJson | rootType | missingField | fieldType
  | labelNotAllowed | outputTruncated | inputSizeLimit | jsonDepthLimit | validatorError
  deriving DecidableEq

structure ValidationFailure where
  code : ValidationFailureCode
  recoverableByEscalation : Bool := true
  deriving DecidableEq

/-- `ValidationResult`, with the checks of `consistent_status`. -/
structure ValidationResult where
  status : ValidationStatus
  failures : List ValidationFailure := []
  durationMs : ℚ≥0 := 0
  failures_length : failures.length ≤ maxFailures
  failures_iff : status = .failed ∨ status = .error ↔ failures ≠ []
  error_code : status = .error → ∀ f ∈ failures, f.code = .validatorError
  no_error_code : status ≠ .error → ∀ f ∈ failures, f.code ≠ .validatorError
  deriving DecidableEq

namespace ValidationResult

/-- A result that passed at once. -/
def pass : ValidationResult where
  status := .passed
  failures_length := Nat.zero_le _
  failures_iff := by decide
  error_code := by simp
  no_error_code := by simp

/-- A failed attempt may be retried on another model: it failed, and every failure may be. -/
def recoverable (result : ValidationResult) : Bool :=
  result.status = .failed && !result.failures.isEmpty &&
    result.failures.all (·.recoverableByEscalation)

/-- The three parts of the test. The second follows from the first for a constructed result. -/
theorem recoverable_iff {result : ValidationResult} :
    result.recoverable ↔ result.status = .failed ∧ result.failures ≠ [] ∧
      ∀ f ∈ result.failures, f.recoverableByEscalation = true := by
  simp [recoverable, and_assoc]

/-- A result that may be retried has not passed. -/
theorem recoverable.ne_passed {result : ValidationResult} (h : result.recoverable) :
    result.status ≠ .passed := by
  rw [(recoverable_iff.mp h).1]
  decide

end ValidationResult

end RouteLLM
