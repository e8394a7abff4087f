import RouteLLM.Lib.PyFloat
import RouteLLM.Lib.PyStr

/-!
# JSON data as Python holds it

`PyJson` is what `json.loads` returns: the scalars of four Python types, lists, and dictionaries in
insertion order. Integers and floats are different types, as they are in Python.
-/

/-- JSON data as Python holds it. -/
inductive PyJson
  | null
  | bool (b : Bool)
  | int (n : ℤ)
  | float (x : PyFloat)
  | str (s : PyStr)
  | list (items : List PyJson)
  | dict (entries : List (PyStr × PyJson))

namespace PyJson

/-- `bool()` of a value. -/
def truthy : PyJson → Bool
  | null => false
  | bool b => b
  | int n => n ≠ 0
  | float x => x.truthy
  | str s => s ≠ []
  | list items => !items.isEmpty
  | dict entries => !entries.isEmpty

/-- `x or y`. -/
def or (x y : PyJson) : PyJson := if x.truthy then x else y

end PyJson
