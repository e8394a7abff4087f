import Mathlib.Tactic.FieldSimp
import RouteLLM.Lib.FloatRepr

/-!
# The text of a float reads back as the float

Seventeen significant digits are closer to a float than half a unit in its last place, also where the binade
below it begins. So the shortest text that `repr` looks for is always found.
-/

/-- An integer closer than a half is the rounded value. -/
theorem roundHalfEven_eq_of_abs_lt {q : ℚ} {n : ℤ} (h : |q - n| < 1 / 2) : roundHalfEven q = n := by
  have herror := roundHalfEven_error q
  rw [abs_le] at herror
  rw [abs_lt] at h
  have hlow : (n : ℚ) < roundHalfEven q + 1 := by linarith
  have hhigh : (roundHalfEven q : ℚ) < n + 1 := by linarith
  have hlow' : n < roundHalfEven q + 1 := by exact_mod_cast hlow
  have hhigh' : roundHalfEven q < n + 1 := by exact_mod_cast hhigh
  omega

namespace Binary64

/-- A multiple of the unit of a value that is closer to it than half the unit is its rounding. -/
theorem round_eq_of_abs_lt {d : ℚ} {m : ℤ} (h : |d - m * 2 ^ ulpExp d| < 2 ^ ulpExp d / 2) :
    round d = m * 2 ^ ulpExp d := by
  have hpos : (0 : ℚ) < 2 ^ ulpExp d := by positivity
  rw [round, roundHalfEven_eq_of_abs_lt (n := m)]
  have hquot : d / 2 ^ ulpExp d - m = (d - m * 2 ^ ulpExp d) / 2 ^ ulpExp d := by
    field_simp
  rw [hquot, abs_div, abs_of_pos hpos, div_lt_iff₀ hpos]
  linarith

/-- A datum is a multiple of its unit. -/
theorem exists_eq_mul_ulp {a : ℚ} (ha : round a = a) : ∃ m : ℤ, a = m * 2 ^ ulpExp a :=
  ⟨_, ha.symm⟩

theorem two_zpow_52 : (2 : ℚ) ^ (52 : ℤ) = ((4503599627370496 : ℤ) : ℚ) := by norm_num

theorem two_zpow_53 : (2 : ℚ) ^ (53 : ℤ) = ((9007199254740992 : ℤ) : ℚ) := by norm_num

theorem two_mul_zpow_le {p q : ℤ} (h : p < q) : 2 * (2 : ℚ) ^ p ≤ 2 ^ q := by
  rw [← zpow_one_add₀ two_ne_zero]
  exact zpow_le_zpow_right₀ one_le_two (by omega)

variable {a d : ℚ} {m : ℤ}

/-- A value of the binade above a datum is a unit away. -/
theorem not_ulpExp_lt (hpos : 0 < a) (hd : 0 < d) (hm : a = m * 2 ^ ulpExp a)
    (h : |d - a| < 2 ^ ulpExp a / 2) : ¬ ulpExp a < ulpExp d := by
  intro hv
  have hua : (0 : ℚ) < 2 ^ ulpExp a := by positivity
  have hfar := two_mul_zpow_le hv
  have hnormal := ulp_le_abs hd.ne' ((neg_le_ulpExp a).trans_lt hv)
  have hlt := abs_lt_ulp a
  rw [abs_of_pos hd, two_zpow_52] at hnormal
  rw [abs_of_pos hpos, two_zpow_53] at hlt
  have hm_lt : m < 9007199254740992 := Int.cast_lt.mp (lt_of_mul_lt_mul_right (hm.symm.trans_lt hlt) hua.le)
  have hm_le : (m : ℚ) ≤ ((9007199254740991 : ℤ) : ℚ) := Int.cast_le.mpr (by omega)
  have htop : a ≤ ((9007199254740991 : ℤ) : ℚ) * 2 ^ ulpExp a := by
    conv_lhs => rw [hm]
    exact mul_le_mul_of_nonneg_right hm_le hua.le
  have hdist := (abs_sub_lt_iff.mp h).1
  push_cast at hnormal htop
  linarith

/-- A datum above the binade of a close value is the least of its own. -/
theorem eq_of_ulpExp_lt (hpos : 0 < a) (hd : 0 < d) (hm : a = m * 2 ^ ulpExp a)
    (h : |d - a| < 2 ^ ulpExp a / 2) (hv : ulpExp d < ulpExp a) :
    a = ((4503599627370496 : ℤ) : ℚ) * 2 ^ ulpExp a := by
  have hua : (0 : ℚ) < 2 ^ ulpExp a := by positivity
  have hfar := two_mul_zpow_le hv
  have hnormal := ulp_le_abs hpos.ne' ((neg_le_ulpExp d).trans_lt hv)
  have hlt := abs_lt_ulp d
  rw [abs_of_pos hpos, two_zpow_52] at hnormal
  rw [abs_of_pos hd, two_zpow_53] at hlt
  have hm_le : 4503599627370496 ≤ m := Int.cast_le.mp (le_of_mul_le_mul_right (hnormal.trans_eq hm) hua)
  have hm_eq : m = 4503599627370496 := by
    by_contra hne
    have hsucc : ((4503599627370497 : ℤ) : ℚ) ≤ m := Int.cast_le.mpr (by omega)
    have hgap : ((4503599627370497 : ℤ) : ℚ) * 2 ^ ulpExp a ≤ a := by
      conv_rhs => rw [hm]
      exact mul_le_mul_of_nonneg_right hsucc hua.le
    have hdist := (abs_sub_lt_iff.mp h).2
    push_cast at hlt hgap
    linarith
  conv_lhs => rw [hm, hm_eq]

/-- A value that agrees with a positive datum in seventeen digits rounds to it. -/
theorem round_eq_of_close (hpos : 0 < a) (ha : round a = a) (hd : 0 < d)
    (h : |d - a| ≤ a / (2 * 10 ^ 16)) : round d = a := by
  obtain ⟨m, hm⟩ := exists_eq_mul_ulp ha
  have hua : (0 : ℚ) < 2 ^ ulpExp a := by positivity
  have hlt := abs_lt_ulp a
  rw [abs_of_pos hpos, two_zpow_53] at hlt
  have hbelow : |d - a| < 2 ^ ulpExp a / 2 := by
    refine h.trans_lt ?_
    rw [div_lt_div_iff₀ (by norm_num) (by norm_num)]
    push_cast at hlt
    linarith
  rcases lt_trichotomy (ulpExp d) (ulpExp a) with hv | hv | hv
  · -- The datum is the least of its binade and the value lies in the binade below.
    have ha_eq := eq_of_ulpExp_lt hpos hd hm hbelow hv
    have hclose : |d - a| < 2 ^ ulpExp a / 4 := by
      refine h.trans_lt ?_
      rw [div_lt_div_iff₀ (by norm_num) (by norm_num)]
      push_cast at ha_eq
      linarith
    have hexp : ulpExp a = 1 + ulpExp d := by
      by_contra hne
      have hfar := two_mul_zpow_le (show 1 + ulpExp d < ulpExp a by omega)
      rw [zpow_one_add₀ two_ne_zero] at hfar
      have hdlt := abs_lt_ulp d
      rw [abs_of_pos hd, two_zpow_53] at hdlt
      have hdist := (abs_sub_lt_iff.mp hclose).2
      push_cast at hdlt ha_eq
      linarith
    rw [hexp, zpow_one_add₀ two_ne_zero] at hclose ha_eq
    have hmul : a = ((9007199254740992 : ℤ) : ℚ) * 2 ^ ulpExp d := by
      push_cast at ha_eq ⊢
      linarith
    rw [hmul] at hclose ⊢
    exact round_eq_of_abs_lt (by linarith)
  · rw [← hv] at hm hbelow
    conv_rhs => rw [hm]
    refine round_eq_of_abs_lt ?_
    rw [← hm]
    exact hbelow
  · exact absurd hv (not_ulpExp_lt hpos hd hm hbelow)

/-- A text of fewer digits is only written where it reads back. -/
theorem round_shortestAt {k : ℕ} {e : Decimal} (h : shortestAt a k = some e) : round e.toRat = a := by
  unfold shortestAt at h
  dsimp only at h
  split at h
  · rename_i hbelow
    cases h
    rw [Decimal.toRat]
    dsimp only
    split
    · rename_i habove
      have hbounds := roundHalfEven_bounds (a / 10 ^ (Int.log 10 a + 1 - k))
      rcases hbounds.1.eq_or_lt with heq | hlt
      · rw [← heq]
        exact hbelow
      · rw [le_antisymm hbounds.2 hlt]
        push_cast
        exact habove
    · exact hbelow
  · split at h
    · rename_i habove
      cases h
      rw [Decimal.toRat]
      push_cast
      exact habove
    · cases h

/-- Seventeen digits are close enough to read back. -/
theorem round_seventeen (hpos : 0 < a) (ha : round a = a) :
    round (roundHalfEven (a / 10 ^ (Int.log 10 a - 16)) * 10 ^ (Int.log 10 a - 16)) = a := by
  have hunit : (0 : ℚ) < 10 ^ (Int.log 10 a - 16) := by positivity
  have hlog : 10 ^ 16 * (10 : ℚ) ^ (Int.log 10 a - 16) ≤ a := by
    have hle : ((10 : ℕ) : ℚ) ^ Int.log 10 a ≤ a := Int.zpow_log_le_self (by norm_num) hpos
    have hexp : ((16 : ℕ) : ℤ) + (Int.log 10 a - 16) = Int.log 10 a := by omega
    rwa [← zpow_natCast (10 : ℚ) 16, ← zpow_add₀ (by norm_num), hexp]
  have hdist : |roundHalfEven (a / 10 ^ (Int.log 10 a - 16)) * (10 : ℚ) ^ (Int.log 10 a - 16) - a| ≤
      10 ^ (Int.log 10 a - 16) / 2 := by
    have herror := roundHalfEven_error (a / 10 ^ (Int.log 10 a - 16))
    have hscale : roundHalfEven (a / 10 ^ (Int.log 10 a - 16)) * (10 : ℚ) ^ (Int.log 10 a - 16) - a =
        (roundHalfEven (a / 10 ^ (Int.log 10 a - 16)) - a / 10 ^ (Int.log 10 a - 16)) *
          10 ^ (Int.log 10 a - 16) := by
      field_simp
    rw [hscale, abs_mul, abs_of_pos hunit]
    linarith [mul_le_mul_of_nonneg_right herror hunit.le]
  have hclose : |roundHalfEven (a / 10 ^ (Int.log 10 a - 16)) * (10 : ℚ) ^ (Int.log 10 a - 16) - a| ≤
      a / (2 * 10 ^ 16) := by
    refine hdist.trans ?_
    rw [div_le_div_iff₀ (by norm_num) (by norm_num)]
    linarith
  refine round_eq_of_close hpos ha ?_ hclose
  have hlow := (abs_sub_le_iff.mp hclose).2
  have hsmall : a / (2 * 10 ^ 16) < a := div_lt_self hpos (by norm_num)
  linarith

/-- **The text of a float that is not negative reads back as the float.** -/
theorem round_shortest {x : Binary64} (h : 0 ≤ x.val) : round x.shortest.toRat = x.val := by
  rcases h.eq_or_lt with hzero | hpos
  · rw [shortest, if_pos hzero.symm, Decimal.toRat, ← hzero]
    simp
  · rw [shortest, if_neg hpos.ne']
    dsimp only
    rw [if_neg (not_lt.mpr h), abs_of_pos hpos]
    cases hfound : (List.range 16).findSome? fun k => shortestAt x.val (k + 1) with
    | none => exact round_seventeen hpos x.round_val
    | some e =>
      obtain ⟨k, -, hk⟩ := List.exists_of_findSome?_eq_some hfound
      exact round_shortestAt hk

end Binary64
