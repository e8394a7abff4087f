import RouteLLM.Evaluation.Models
import RouteLLM.Evaluation.Normalization
import RouteLLM.Lib.AssocList
import RouteLLM.Lib.FloatMean
import RouteLLM.Lib.PyValue

/-!
# Structured answers

`flatten_json` of `evaluation/normalization.py`, and `ExtractionEvaluator` and `JSONEvaluator` of
`evaluation/evaluators.py`. A response is what `parse_json_response` makes of it, and nothing where that raises. The
operands of the arithmetic are finite.
-/

namespace PyFloat

/-- An operation on finite floats. -/
def onFinite (op : ℚ → ℚ → ℚ) : PyFloat → PyFloat → PyFloat
  | finite x, finite y => ((Binary64.ofRat? (op x.val y.val)).map finite).getD posInf
  | _, _ => nan

end PyFloat

namespace RouteLLM

/-- `f"[{index}]"`. -/
def indexText (index : ℕ) : PyStr := 91 :: (PyStr.ofString (toString index) ++ [93])

mutual

/-- `flatten_json`. -/
def flattenJson : PyJson → PyStr → List (PyStr × PyJson)
  | .dict entries, path => flattenEntries entries path []
  | .list items, path => flattenItems items path 0 []
  | value, path => [(path, value)]

@[inherit_doc flattenJson]
def flattenEntries : List (PyStr × PyJson) → PyStr → List (PyStr × PyJson) → List (PyStr × PyJson)
  | [], _, flattened => flattened
  | (key, child) :: entries, path, flattened =>
    flattenEntries entries path (AssocList.update flattened (flattenJson child (path ++ 46 :: key)))

@[inherit_doc flattenJson]
def flattenItems : List PyJson → PyStr → ℕ → List (PyStr × PyJson) → List (PyStr × PyJson)
  | [], _, _, flattened => flattened
  | child :: items, path, index, flattened =>
    flattenItems items path (index + 1) (AssocList.update flattened (flattenJson child (path ++ indexText index)))

end

/-- `_f1`. -/
def f1 (matched expected predicted : ℕ) : PyFloat :=
  if expected = 0 ∧ predicted = 0 then .finite 1
  else
    let precision := if predicted = 0 then .finite 0 else PyFloat.ratio matched predicted
    let recallRatio := if expected = 0 then .finite 0 else PyFloat.ratio matched expected
    let total := PyFloat.onFinite (· + ·) precision recallRatio
    if total.truthy then
      PyFloat.onFinite (· / ·) (PyFloat.onFinite (· * ·) (PyFloat.onFinite (· * ·) (PyFloat.ratio 2 1) precision) recallRatio)
        total
    else .finite 0

variable (unicode : UnicodeData)

/-- `_json_equal` of what `flatten_json` leaves, which are neither lists nor dictionaries. -/
def jsonEqual : PyJson → PyJson → Bool
  | .str left, .str right => normalizeAnswer unicode left false == normalizeAnswer unicode right false
  | .null, .null => true
  | .bool left, .bool right => left == right
  | .int left, .int right => left == right
  | .float left, .float right => decide (left.Equal right)
  | _, _ => false

/-- The expected fields with a predicted field that a comparison accepts. -/
def matchedFields (accepts : PyJson → PyJson → Bool) (expected predicted : List (PyStr × PyJson)) : ℕ :=
  expected.countP fun field => (predicted.lookup field.1).any (accepts field.2)

/-- `"$"`. -/
def rootPath : PyStr := [36]

/-- `ExtractionEvaluator.score`. -/
def ExtractionEvaluator.score (expected : PyJson) : Option PyJson → PyFloat
  | none => .finite 0
  | some predicted =>
    let expectedFields := flattenJson expected rootPath
    let predictedFields := flattenJson predicted rootPath
    f1 (matchedFields (jsonEqual unicode) expectedFields predictedFields) expectedFields.length predictedFields.length

/-- `JSONEvaluator.score`. -/
def JSONEvaluator.score (expected : PyJson) : Option PyJson → PyFloat
  | none => .finite 0
  | some predicted =>
    let expectedFields := flattenJson expected rootPath
    let predictedFields := flattenJson predicted rootPath
    let structural := matchedFields (fun left right => right.pyType == left.pyType) expectedFields predictedFields
    let values := matchedFields (jsonEqual unicode) expectedFields predictedFields
    let schemaScore := f1 structural expectedFields.length predictedFields.length
    let valueScore := if expectedFields = [] then (if predictedFields = [] then .finite 1 else .finite 0)
      else PyFloat.ratio values expectedFields.length
    PyFloat.onFinite (· / ·) (PyFloat.onFinite (· + ·) (PyFloat.onFinite (· + ·) (.finite 1) schemaScore) valueScore)
      (PyFloat.ratio 3 1)

/-- `min(1.0, max(0.0, score))`. -/
def clampScore (score : PyFloat) : PyFloat :=
  let low := if (PyFloat.finite 0).Lt score then score else .finite 0
  if low.Lt (.finite 1) then low else .finite 1

/-- `acceptable` of `Evaluator.evaluate`, for the two categories, whose default threshold is one. -/
def acceptable (acceptableThreshold : Option PyFloat) (score : PyFloat) : Bool :=
  (acceptableThreshold.getD (.finite 1)).Le (clampScore score)

end RouteLLM
