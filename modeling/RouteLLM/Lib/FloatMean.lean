import Mathlib.Algebra.Order.BigOperators.Group.List
import RouteLLM.Lib.FloatBounds
import RouteLLM.Lib.PyFloat

/-!
# Means and ratios of floats

`math.fsum` of nonnegative floats, which fails where a partial sum overflows, `statistics.fmean`, and the
division of two counts.
-/

/-- A nonnegative float, which may be infinite. -/
structure NonnegFloat where
  float : PyFloat
  nonneg : float = .posInf ∨ ∃ x, float = .finite x ∧ 0 ≤ x.val

theorem NonnegFloat.zero_nonneg :
    PyFloat.finite 0 = .posInf ∨ ∃ x, PyFloat.finite 0 = .finite x ∧ 0 ≤ x.val :=
  .inr ⟨0, rfl, le_rfl⟩

def NonnegFloat.zero : NonnegFloat := ⟨.finite 0, NonnegFloat.zero_nonneg⟩

namespace PyFloat

/-- The value of a finite float. -/
def finitePart : PyFloat → ℚ
  | finite x => x.val
  | _ => 0

/-- `math.fsum` of nonnegative floats. The exact total of the finite ones is kept, and whether an
infinity was seen; nothing is returned on an overflow of a partial sum. -/
def fsum? (total : ℚ) (infinite : Bool) : List PyFloat → Option PyFloat
  | [] => if infinite then some posInf else (Binary64.ofRat? total).map finite
  | finite x :: xs =>
    if (Binary64.ofRat? (total + x.val)).isSome then fsum? (total + x.val) infinite xs else none
  | _ :: xs => fsum? total true xs

/-- A float by a positive count. -/
def divCount (n : ℕ) : PyFloat → PyFloat
  | finite x => ((Binary64.ofRat? (x.val / n)).map finite).getD posInf
  | x => x

/-- `statistics.fmean` of nonnegative floats. -/
def fmean? (xs : List PyFloat) : Option PyFloat := (fsum? 0 false xs).map (divCount xs.length)

/-- The division of a count by a greater one. -/
def ratio (a n : ℕ) : PyFloat := ((Binary64.ofRat? (a / n)).map finite).getD posInf

end PyFloat

/-- A value has a float where it does not overflow. -/
theorem Binary64.isSome_ofRat?_iff {q : ℚ} (h : 0 ≤ q) :
    (Binary64.ofRat? q).isSome ↔ q < 2 ^ 1024 - 2 ^ 970 := by
  rw [Option.isSome_iff_ne_none, ne_eq, Binary64.ofRat?_eq_none, not_le, abs_of_nonneg h]

/-- A value up to `2 ^ 53` is far below the largest float. -/
theorem Binary64.isSome_ofRat?_of_le {q : ℚ} (hq : 0 ≤ q) (h : q ≤ 2 ^ 53) :
    (Binary64.ofRat? q).isSome := by
  rw [isSome_ofRat?_iff hq]
  have hpow : (2 : ℚ) ^ 1024 = 2 ^ 54 * 2 ^ 970 := by rw [← pow_add]
  have hone : (1 : ℚ) ≤ 2 ^ 970 := one_le_pow₀ one_le_two
  rw [hpow]
  generalize (2 : ℚ) ^ 970 = unit at hone
  linarith

namespace PyFloat

/-- The sum of the finite floats of a list. -/
def finiteTotal (xs : List NonnegFloat) : ℚ := (xs.map fun x => x.float.finitePart).sum

theorem finitePart_nonneg (x : NonnegFloat) : 0 ≤ x.float.finitePart := by
  rcases x.nonneg with hinf | ⟨y, hy, hnonneg⟩
  · rw [hinf]
    exact le_rfl
  · rw [hy]
    exact hnonneg

theorem finiteTotal_nonneg (xs : List NonnegFloat) : 0 ≤ finiteTotal xs := by
  refine List.sum_nonneg fun q hq => ?_
  obtain ⟨x, _, rfl⟩ := List.mem_map.mp hq
  exact finitePart_nonneg x

/-- A sum is returned where the total does not overflow. -/
theorem isSome_fsum?_iff (xs : List NonnegFloat) {total : ℚ} (h0 : 0 ≤ total)
    (htotal : total < 2 ^ 1024 - 2 ^ 970) (infinite : Bool) :
    (fsum? total infinite (xs.map (·.float))).isSome ↔
      total + finiteTotal xs < 2 ^ 1024 - 2 ^ 970 := by
  induction xs generalizing total infinite with
  | nil =>
    have hsome := (Binary64.isSome_ofRat?_iff h0).mpr htotal
    have hzero : finiteTotal [] = 0 := rfl
    rw [List.map_nil, fsum?, hzero, add_zero]
    cases infinite with
    | true => exact iff_of_true rfl htotal
    | false => exact iff_of_true (Option.isSome_map.trans hsome) htotal
  | cons x xs ih =>
    have hcons : finiteTotal (x :: xs) = x.float.finitePart + finiteTotal xs := by
      rw [finiteTotal, finiteTotal, List.map_cons, List.sum_cons]
    rw [List.map_cons, hcons]
    rcases x.nonneg with hinf | ⟨y, hy, hnonneg⟩
    · rw [hinf, fsum?, ih h0 htotal true]
      show _ ↔ total + (0 + finiteTotal xs) < _
      rw [zero_add]
      · intro y hy
        cases hy
    · have hstep : 0 ≤ total + y.val := by linarith
      rw [hy, fsum?]
      show _ ↔ total + (y.val + finiteTotal xs) < _
      rw [← add_assoc]
      by_cases hsome : (Binary64.ofRat? (total + y.val)).isSome
      · rw [if_pos hsome]
        exact ih hstep ((Binary64.isSome_ofRat?_iff hstep).mp hsome) infinite
      · rw [if_neg hsome]
        refine iff_of_false (by simp) ?_
        intro hlt
        have hrest := finiteTotal_nonneg xs
        exact hsome ((Binary64.isSome_ofRat?_iff hstep).mpr
          ((le_add_of_nonneg_right hrest).trans_lt hlt))

/-- **A mean is returned** where the total of the finite floats does not overflow. -/
theorem isSome_fmean?_iff (xs : List NonnegFloat) :
    (fmean? (xs.map (·.float))).isSome ↔ finiteTotal xs < 2 ^ 1024 - 2 ^ 970 := by
  have hpos : (0 : ℚ) < 2 ^ 1024 - 2 ^ 970 :=
    sub_pos.mpr (pow_lt_pow_right₀ (by norm_num) (by norm_num))
  rw [fmean?, Option.isSome_map, isSome_fsum?_iff xs le_rfl hpos false, zero_add]

/-- The share of some in all is a float of the unit interval. -/
theorem ratio_eq {a n : ℕ} (h : a ≤ n) : ∃ x, ratio a n = .finite x ∧ x.val = Binary64.round (a / n) ∧
    0 ≤ x.val ∧ x.val ≤ 1 := by
  have hlow : (0 : ℚ) ≤ a / n := div_nonneg (Nat.cast_nonneg a) (Nat.cast_nonneg n)
  have hhigh : (a / n : ℚ) ≤ 1 := div_le_one_of_le₀ (Nat.cast_le.mpr h) (Nat.cast_nonneg n)
  have hbound : (1 : ℚ) < 2 ^ 1024 - 2 ^ 970 := by
    rw [Binary64.two_pow_1024]
    have hpos : (1 : ℚ) ≤ 2 ^ 970 := one_le_pow₀ one_le_two
    generalize (2 : ℚ) ^ 970 = y at hpos ⊢
    linarith
  obtain ⟨x, hx⟩ := Option.isSome_iff_exists.mp ((Binary64.isSome_ofRat?_iff hlow).mpr (hhigh.trans_lt hbound))
  have hval := Binary64.val_of_ofRat? hx
  refine ⟨x, by rw [ratio, hx]; rfl, hval, ?_, ?_⟩
  · rw [hval]
    exact Binary64.round_nonneg hlow
  · rw [hval]
    exact Binary64.round_le_one hlow hhigh

end PyFloat
