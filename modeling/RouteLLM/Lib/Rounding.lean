import Mathlib.Algebra.Order.Floor.Ring
import Mathlib.Data.Rat.Floor
import Mathlib.Tactic.Linarith
import Mathlib.Tactic.NormNum

/-!
# Rounding to the nearest integer, ties to even

`roundHalfEven` is the rounding of both number formats the development uses, the binary64 format
(`Binary64`) and the decimal format of a context with a fixed precision (`Decimal`). It is computed
from the floor, so that a rounded value can be evaluated. What the formats need of it is here: it
fixes the integers, it is monotone, and it stays within half a unit of its argument.
-/

/-- The integer nearest to `q`; of two nearest integers, the even one. -/
def roundHalfEven (q : ℚ) : ℤ :=
  if q - ⌊q⌋ < 1 / 2 then ⌊q⌋
  else if 1 / 2 < q - ⌊q⌋ then ⌊q⌋ + 1
  else if ⌊q⌋ % 2 = 0 then ⌊q⌋ else ⌊q⌋ + 1

/-- An integer rounds to itself. -/
@[simp] theorem roundHalfEven_intCast (n : ℤ) : roundHalfEven (n : ℚ) = n := by
  simp [roundHalfEven]

@[simp] theorem roundHalfEven_natCast (n : ℕ) : roundHalfEven (n : ℚ) = n := by
  exact_mod_cast roundHalfEven_intCast n

@[simp] theorem roundHalfEven_zero : roundHalfEven 0 = 0 := by
  exact_mod_cast roundHalfEven_intCast 0

/-- The rounded value is the floor or its successor. -/
theorem roundHalfEven_bounds (q : ℚ) : ⌊q⌋ ≤ roundHalfEven q ∧ roundHalfEven q ≤ ⌊q⌋ + 1 := by
  unfold roundHalfEven
  split_ifs <;> omega

/-- The rounded value is within half a unit of the argument. -/
theorem roundHalfEven_error (q : ℚ) : |(roundHalfEven q : ℚ) - q| ≤ 1 / 2 := by
  have hlo := Int.floor_le q
  have hhi := Int.lt_floor_add_one q
  unfold roundHalfEven
  split_ifs <;> push_cast <;> rw [abs_le] <;> constructor <;> linarith

/-- Rounding is monotone. Across two floors the bounds decide; within one floor the fractional parts
do, and the tie is resolved alike for both arguments. -/
theorem roundHalfEven_mono {p q : ℚ} (h : p ≤ q) : roundHalfEven p ≤ roundHalfEven q := by
  rcases (Int.floor_mono h).lt_or_eq with hlt | heq
  · have hp := (roundHalfEven_bounds p).2
    have hq := (roundHalfEven_bounds q).1
    omega
  · have hle : p - ⌊p⌋ ≤ q - ⌊q⌋ := by rw [heq]; linarith
    unfold roundHalfEven
    rw [heq] at hle ⊢
    split_ifs <;> first | omega | (exfalso; linarith)

/-- An integer below the argument is below the rounded value. -/
theorem le_roundHalfEven {n : ℤ} {q : ℚ} (h : (n : ℚ) ≤ q) : n ≤ roundHalfEven q := by
  simpa using roundHalfEven_mono h

/-- An integer above the argument is above the rounded value. -/
theorem roundHalfEven_le {n : ℤ} {q : ℚ} (h : q ≤ (n : ℚ)) : roundHalfEven q ≤ n := by
  simpa using roundHalfEven_mono h

/-- A nonnegative argument rounds to a nonnegative integer. -/
theorem roundHalfEven_nonneg {q : ℚ} (h : 0 ≤ q) : 0 ≤ roundHalfEven q :=
  le_roundHalfEven (by exact_mod_cast h)
