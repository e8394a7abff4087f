import RouteLLM.Lib.PyJson

/-!
# Python values as keys

What a set, a dictionary or a `Counter` keeps of a value. Numbers of different types that are equal are
one key, `True` is the key one, and the NaN that a JSON document holds is one object. Lists and
dictionaries are not hashable.
-/

/-- A hashable JSON value up to Python's equality. -/
inductive HashKey
  | null
  | num (q : ℚ)
  | posInf
  | negInf
  | nan
  | str (s : PyStr)
  deriving DecidableEq

namespace PyJson

/-- The key of a value, where it is hashable. -/
def hashKey? : PyJson → Option HashKey
  | null => some .null
  | bool b => some (.num (if b then 1 else 0))
  | int n => some (.num n)
  | float (.finite x) => some (.num x.val)
  | float .posInf => some .posInf
  | float .negInf => some .negInf
  | float .nan => some .nan
  | str s => some (.str s)
  | list _ | dict _ => none

/-- `value == text`. -/
def isText (text : PyStr) : PyJson → Bool
  | str s => s = text
  | _ => false

/-- A value equals a text exactly when its key is the text. -/
theorem isText_iff {text : PyStr} {value : PyJson} :
    value.isText text = true ↔ value.hashKey? = some (.str text) := by
  cases value with
  | str s => simp [isText, hashKey?]
  | float x => cases x <;> simp [isText, hashKey?]
  | null | bool | int | list | dict => simp [isText, hashKey?]

end PyJson

section Counter

variable {α β : Type*} [DecidableEq α] [DecidableEq β]

/-- `Counter(keys) == Counter(expected)`: a key that is not expected does not occur. -/
def counterEq (keys : List α) (expected : List (α × ℕ)) : Prop :=
  (∀ entry ∈ expected, keys.count entry.1 = entry.2) ∧ ∀ key ∈ keys, key ∈ expected.map Prod.fst

instance decidableCounterEq (keys : List α) (expected : List (α × ℕ)) :
    Decidable (counterEq keys expected) :=
  inferInstanceAs (Decidable (_ ∧ _))

/-- Counters may be compared before their keys are written in another way. -/
theorem counterEq_map {f : α → β} (hf : Function.Injective f) {keys : List α}
    {expected : List (α × ℕ)} :
    counterEq (keys.map f) (expected.map fun entry => (f entry.1, entry.2)) ↔
      counterEq keys expected := by
  have hcount : ∀ x, (keys.map f).count (f x) = keys.count x :=
    fun x => List.count_map_of_injective keys f hf x
  simp only [counterEq, List.forall_mem_map, hcount, List.map_map]
  have hmem : ∀ x, f x ∈ expected.map (Prod.fst ∘ fun entry => (f entry.1, entry.2)) ↔
      x ∈ expected.map Prod.fst := by
    intro x
    rw [show (Prod.fst ∘ fun entry : α × ℕ => (f entry.1, entry.2)) = f ∘ Prod.fst from rfl,
      ← List.map_map, List.mem_map_of_injective hf]
  simp only [hmem]

end Counter
