import RouteLLM.Lib.FloatOrder
import RouteLLM.Lib.PyJson

/-!
# Equality of Python values and of typed JSON values

Python's `==` compares numbers by their value, whatever their types: `True == 1 == 1.0`. Typed equality also
compares the types, at every level. The two differ exactly where equal numbers of different types face each
other.
-/

inductive PyType
  | noneType | bool | int | float | complex | str | list | dict | other
  deriving DecidableEq

/-- A value of a Python program. An object is a value that no JSON value equals, such as a tuple, a set, or a
dictionary with a key that is not a string. -/
inductive PyValue
  | none
  | bool (b : Bool)
  | int (n : ℤ)
  | float (x : PyFloat)
  | complex (re im : PyFloat)
  | str (s : PyStr)
  | list (items : List PyValue)
  | dict (entries : List (PyStr × PyValue))
  | object (isDict : Bool)

/-- `type()` of JSON data. -/
def PyJson.pyType : PyJson → PyType
  | .null => .noneType
  | .bool _ => .bool
  | .int _ => .int
  | .float _ => .float
  | .str _ => .str
  | .list _ => .list
  | .dict _ => .dict

/-- The value of a boolean or a number. -/
def PyJson.number? : PyJson → Option (WithBot (WithTop ℚ))
  | .bool b => some ((b.toNat : ℚ) : WithTop ℚ)
  | .int n => some ((n : ℚ) : WithTop ℚ)
  | .float x => x.value?
  | _ => none

namespace PyValue

/-- `type()`. -/
def pyType : PyValue → PyType
  | none => .noneType
  | bool _ => .bool
  | int _ => .int
  | float _ => .float
  | complex .. => .complex
  | str _ => .str
  | list _ => .list
  | dict _ => .dict
  | object isDict => if isDict then .dict else .other

/-- The value of a boolean or a number. A complex number is a real one where its imaginary part is zero. -/
def number? : PyValue → Option (WithBot (WithTop ℚ))
  | bool b => some ((b.toNat : ℚ) : WithTop ℚ)
  | int n => some ((n : ℚ) : WithTop ℚ)
  | float x => x.value?
  | complex re im => if im.Equal (.finite 0) then re.value? else Option.none
  | _ => Option.none

/-- `==` of values that are not both lists or both dictionaries. -/
def scalarEq : PyValue → PyJson → Bool
  | none, .null => true
  | str s, .str t => s == t
  | v, j => (v.number?.bind fun a => j.number?.map fun b => a == b).getD false

mutual

/-- `==`. -/
def pyEq : PyValue → PyJson → Bool
  | list xs, .list ys => pyEqItems xs ys
  | dict es, .dict fs => es.length == fs.length && pyEqEntries es fs
  | v, j => scalarEq v j

def pyEqItems : List PyValue → List PyJson → Bool
  | [], [] => true
  | x :: xs, y :: ys => pyEq x y && pyEqItems xs ys
  | _, _ => false

def pyEqEntries : List (PyStr × PyValue) → List (PyStr × PyJson) → Bool
  | [], _ => true
  | (k, v) :: es, fs => (fs.lookup k).any (pyEq v) && pyEqEntries es fs

end

mutual

/-- Equality as typed JSON values. -/
def typedEq : PyValue → PyJson → Bool
  | list xs, .list ys => typedEqItems xs ys
  | dict es, .dict fs => es.length == fs.length && typedEqEntries es fs
  | v, j => scalarEq v j && v.pyType == j.pyType

def typedEqItems : List PyValue → List PyJson → Bool
  | [], [] => true
  | x :: xs, y :: ys => typedEq x y && typedEqItems xs ys
  | _, _ => false

def typedEqEntries : List (PyStr × PyValue) → List (PyStr × PyJson) → Bool
  | [], _ => true
  | (k, v) :: es, fs => (fs.lookup k).any (typedEq v) && typedEqEntries es fs

end

mutual

/-- Some equal numbers of different types face each other. -/
def confuses : PyValue → PyJson → Bool
  | list xs, .list ys => confusesItems xs ys
  | dict es, .dict fs => confusesEntries es fs
  | v, j => scalarEq v j && v.pyType != j.pyType

def confusesItems : List PyValue → List PyJson → Bool
  | x :: xs, y :: ys => confuses x y || confusesItems xs ys
  | _, _ => false

def confusesEntries : List (PyStr × PyValue) → List (PyStr × PyJson) → Bool
  | [], _ => false
  | (k, v) :: es, fs => (fs.lookup k).any (confuses v) || confusesEntries es fs

end

theorem scalar_split (v : PyValue) (j : PyJson) :
    (scalarEq v j && v.pyType == j.pyType) = (scalarEq v j && !(scalarEq v j && v.pyType != j.pyType)) := by
  rw [bne]
  cases scalarEq v j <;> simp

mutual

/-- **Typed equality is equality without a confusion of types.** -/
theorem typedEq_eq : (v : PyValue) → (j : PyJson) → typedEq v j = (pyEq v j && !confuses v j)
  | list xs, j => by
    have hscalar := scalar_split (list xs) j
    cases j with
    | list ys =>
      rw [typedEq, pyEq, confuses]
      exact typedEqItems_eq xs ys
    | null | bool _ | int _ | float _ | str _ | dict _ => exact hscalar
  | dict es, j => by
    have hscalar := scalar_split (dict es) j
    cases j with
    | dict fs => rw [typedEq, pyEq, confuses, typedEqEntries_eq es fs, Bool.and_assoc]
    | null | bool _ | int _ | float _ | str _ | list _ => exact hscalar
  | none, j => scalar_split none j
  | bool b, j => scalar_split (bool b) j
  | int n, j => scalar_split (int n) j
  | float x, j => scalar_split (float x) j
  | complex re im, j => scalar_split (complex re im) j
  | str s, j => scalar_split (str s) j
  | object isDict, j => scalar_split (object isDict) j

theorem typedEqItems_eq : (xs : List PyValue) → (ys : List PyJson) →
    typedEqItems xs ys = (pyEqItems xs ys && !confusesItems xs ys)
  | [], [] => rfl
  | [], _ :: _ => rfl
  | _ :: _, [] => rfl
  | x :: xs, y :: ys => by
    rw [typedEqItems, pyEqItems, confusesItems, typedEq_eq x y, typedEqItems_eq xs ys]
    cases pyEq x y <;> cases confuses x y <;> simp

theorem typedEqEntries_eq : (es : List (PyStr × PyValue)) → (fs : List (PyStr × PyJson)) →
    typedEqEntries es fs = (pyEqEntries es fs && !confusesEntries es fs)
  | [], _ => rfl
  | (k, v) :: es, fs => by
    rw [typedEqEntries, pyEqEntries, confusesEntries, typedEqEntries_eq es fs]
    cases fs.lookup k with
    | none => rfl
    | some w =>
      rw [Option.any_some, Option.any_some, Option.any_some, typedEq_eq v w]
      cases pyEq v w <;> cases confuses v w <;> simp

end

/-- Values that are equal as typed JSON values have one type. -/
theorem pyType_eq_of_typedEq {v : PyValue} {j : PyJson} (h : typedEq v j = true) : v.pyType = j.pyType := by
  have hscalar : (scalarEq v j && v.pyType == j.pyType) = true → v.pyType = j.pyType := fun h =>
    beq_iff_eq.mp (Bool.and_eq_true_iff.mp h).2
  cases v with
  | list xs =>
    cases j with
    | list ys => rfl
    | null | bool _ | int _ | float _ | str _ | dict _ => exact hscalar h
  | dict es =>
    cases j with
    | dict fs => rfl
    | null | bool _ | int _ | float _ | str _ | list _ => exact hscalar h
  | none | bool _ | int _ | float _ | complex _ _ | str _ | object _ => exact hscalar h

end PyValue
