import RouteLLM.Lib.FloatMean

/-!
# The relative error of float arithmetic

A value that is neither tiny nor huge is rounded within a `2 ^ 53`-th of itself. So the harmonic mean of two
shares of not too many, as floats compute it, is one exactly where both shares are.
-/

namespace Binary64

/-- The unit in the last place of a value that is not tiny. -/
theorem ulp_le {q : ℚ} (h : 2 ^ (-100 : ℤ) ≤ q) : 2 ^ (52 : ℤ) * 2 ^ ulpExp q ≤ q := by
  have hpos : 0 < q := lt_of_lt_of_le (by positivity) h
  have hlog : (-100 : ℤ) ≤ Int.log 2 q :=
    (Int.zpow_le_iff_le_log (by norm_num) hpos).mp (by exact_mod_cast h)
  have hnormal : -1074 < ulpExp q := by
    rw [ulpExp, abs_of_pos hpos]
    omega
  have hle := ulp_le_abs hpos.ne' hnormal
  rwa [abs_of_pos hpos] at hle

/-- **A value that is not tiny is rounded within a `2 ^ 53`-th of itself.** -/
theorem round_bounds {q : ℚ} (h : 2 ^ (-100 : ℤ) ≤ q) :
    q * (1 - 1 / 2 ^ 53) ≤ round q ∧ round q ≤ q * (1 + 1 / 2 ^ 53) := by
  have hunit : (0 : ℚ) < 2 ^ ulpExp q := by positivity
  have hulp := ulp_le h
  have herror := roundHalfEven_error (q / 2 ^ ulpExp q)
  have hround : round q - q = (roundHalfEven (q / 2 ^ ulpExp q) - q / 2 ^ ulpExp q) * 2 ^ ulpExp q := by
    rw [round, sub_mul, div_mul_cancel₀ _ hunit.ne']
  have habs : |round q - q| ≤ q / 2 ^ 53 := by
    rw [hround, abs_mul, abs_of_pos hunit]
    calc _ ≤ 1 / 2 * (2 : ℚ) ^ ulpExp q := mul_le_mul_of_nonneg_right herror hunit.le
      _ ≤ q / 2 ^ 53 := by
        norm_num at hulp ⊢
        linarith
  rw [abs_le] at habs
  constructor <;> linarith

theorem round_two : round 2 = 2 := by
  exact_mod_cast round_natCast (n := 2) (by norm_num)

theorem round_three : round 3 = 3 := by
  exact_mod_cast round_natCast (n := 3) (by norm_num)

/-- A whole number less a small power of two is a datum. -/
theorem round_sub {a n : ℕ} (ha : 0 < a) (h : a * 2 ^ n ≤ 2 ^ 53) (hn : n ≤ 1074) :
    round (a - 1 / 2 ^ n) = a - 1 / 2 ^ n := by
  have hpow : (a * 2 ^ n : ℤ) ≤ 2 ^ 53 := by exact_mod_cast h
  have hpos : (0 : ℤ) < a * 2 ^ n := by positivity
  have hdyadic : (a - 1 / 2 ^ n : ℚ) = ((a * 2 ^ n - 1 : ℤ) : ℚ) * 2 ^ (-(n : ℤ)) := by
    rw [zpow_neg, zpow_natCast]
    push_cast
    field_simp
  rw [hdyadic]
  exact round_dyadic (by rw [abs_of_nonneg (by omega)]; omega) (by omega)

/-- A number below one by a small power of two is a datum. -/
theorem round_one_sub {n : ℕ} (h : n ≤ 53) : round (1 - 1 / 2 ^ n) = 1 - 1 / 2 ^ n := by
  have hpow : 1 * 2 ^ n ≤ 2 ^ 53 := by
    rw [one_mul]
    exact Nat.pow_le_pow_right (by norm_num) h
  have hone := round_sub one_pos hpow (by omega)
  rwa [Nat.cast_one] at hone

/-- A share of not too many, as a float. -/
theorem round_share {m n : ℕ} (hm : 0 < m) (hmn : m ≤ n) (hn : n ≤ 2 ^ 40) :
    0 < round (m / n) ∧ round (m / n) * n ≤ m * (1 + 1 / 2 ^ 53) ∧ 2 ^ (-50 : ℤ) ≤ round (m / n) := by
  have hn0 : (0 : ℚ) < n := by exact_mod_cast hm.trans_le hmn
  have hm1 : (1 : ℚ) ≤ m := by exact_mod_cast hm
  have hn1 : (n : ℚ) ≤ 2 ^ 40 := by exact_mod_cast hn
  have hlow : 2 ^ (-40 : ℤ) ≤ (m / n : ℚ) := by
    rw [le_div_iff₀ hn0, zpow_neg, inv_mul_le_iff₀ (by positivity), zpow_ofNat]
    calc (n : ℚ) ≤ 2 ^ 40 * 1 := by rwa [mul_one]
      _ ≤ 2 ^ 40 * m := mul_le_mul_of_nonneg_left hm1 (by positivity)
  have hsmall : (2 : ℚ) ^ (-100 : ℤ) ≤ 2 ^ (-40 : ℤ) := zpow_le_zpow_right₀ one_le_two (by norm_num)
  obtain ⟨hbelow, habove⟩ := round_bounds (hsmall.trans hlow)
  have hge : 2 ^ (-50 : ℤ) ≤ round (m / n : ℚ) := by
    norm_num at hlow hbelow ⊢
    linarith
  refine ⟨lt_of_lt_of_le (by positivity) hge, ?_, hge⟩
  calc round (m / n) * n ≤ m / n * (1 + 1 / 2 ^ 53) * n := mul_le_mul_of_nonneg_right habove hn0.le
    _ = m * (1 + 1 / 2 ^ 53) := by field_simp

/-- **The harmonic mean of two shares that are not both whole is below one**, as floats compute it. -/
theorem round_harmonic_le {m k n : ℕ} (hm : 0 < m) (hk : m ≤ k) (hn : m ≤ n) (hless : 2 * m < k + n)
    (hk' : k ≤ 2 ^ 40) (hn' : n ≤ 2 ^ 40) :
    round (round (round (2 * round (m / k)) * round (m / n)) / round (round (m / k) + round (m / n))) ≤
      1 - 1 / 2 ^ 42 := by
  obtain ⟨hp, hpk, hp'⟩ := round_share hm hk hk'
  obtain ⟨hr, hrn, hr'⟩ := round_share hm hn hn'
  set p := round (m / k : ℚ)
  set r := round (m / n : ℚ)
  have htwo : (2 : ℚ) ^ (-100 : ℤ) ≤ 2 * p := by
    norm_num at hp' ⊢
    linarith
  obtain ⟨htwo_low, htwo_high⟩ := round_bounds htwo
  have hprod_small : (2 : ℚ) ^ (-100 : ℤ) ≤ round (2 * p) * r := by
    have h2 : (2 : ℚ) ^ (-50 : ℤ) ≤ round (2 * p) := by
      norm_num at hp' htwo_low ⊢
      linarith
    calc (2 : ℚ) ^ (-100 : ℤ) = 2 ^ (-50 : ℤ) * 2 ^ (-50 : ℤ) := by rw [← zpow_add₀ two_ne_zero]; norm_num
      _ ≤ round (2 * p) * r := mul_le_mul h2 hr' (by positivity) (le_trans (by positivity) h2)
  obtain ⟨hprod_low, hprod_high⟩ := round_bounds hprod_small
  have hsum_small : (2 : ℚ) ^ (-100 : ℤ) ≤ p + r := by
    norm_num at hp' ⊢
    linarith
  obtain ⟨hsum_low, -⟩ := round_bounds hsum_small
  have hsum_pos : 0 < round (p + r) := lt_of_lt_of_le (by positivity) hsum_low
  have hprod_pos : 0 ≤ round (round (2 * p) * r) := le_trans (by positivity) hprod_low
  refine round_le (div_nonneg hprod_pos hsum_pos.le) (round_one_sub (by norm_num)) ?_
  rw [div_le_iff₀ hsum_pos]
  -- Both sides are compared after a multiplication by the number of all, of which the shares are missing one.
  have hall : (0 : ℚ) < k + n := by exact_mod_cast (by omega : 0 < k + n)
  have hall_le : (k + n : ℚ) ≤ 2 ^ 41 := by exact_mod_cast (by omega : k + n ≤ 2 ^ 41)
  have hmissing : (2 * m : ℚ) ≤ k + n - 1 := by
    rw [le_sub_iff_add_le]
    exact_mod_cast hless
  refine le_of_mul_le_mul_right ?_ hall
  have hpr : 0 < p + r := add_pos hp hr
  have hshares : 2 * p * r * (k + n) ≤ (k + n - 1) * (1 + 1 / 2 ^ 53) * (p + r) := by
    calc 2 * p * r * (k + n) = 2 * r * (p * k) + 2 * p * (r * n) := by ring
      _ ≤ 2 * r * (m * (1 + 1 / 2 ^ 53)) + 2 * p * (m * (1 + 1 / 2 ^ 53)) := by gcongr
      _ = 2 * m * ((1 + 1 / 2 ^ 53) * (p + r)) := by ring
      _ ≤ (k + n - 1) * ((1 + 1 / 2 ^ 53) * (p + r)) := by gcongr
      _ = (k + n - 1) * (1 + 1 / 2 ^ 53) * (p + r) := by ring
  calc round (round (2 * p) * r) * (k + n)
      ≤ 2 * p * (1 + 1 / 2 ^ 53) * r * (1 + 1 / 2 ^ 53) * (k + n) := by
        refine mul_le_mul_of_nonneg_right (hprod_high.trans ?_) hall.le
        gcongr
    _ = 2 * p * r * (k + n) * (1 + 1 / 2 ^ 53) ^ 2 := by ring
    _ ≤ (k + n - 1) * (1 + 1 / 2 ^ 53) * (p + r) * (1 + 1 / 2 ^ 53) ^ 2 := by gcongr
    _ = (k + n - 1) * (1 + 1 / 2 ^ 53) ^ 3 * (p + r) := by ring
    _ ≤ (1 - 1 / 2 ^ 42) * (1 - 1 / 2 ^ 53) * (k + n) * (p + r) := by
        refine mul_le_mul_of_nonneg_right ?_ hpr.le
        norm_num at hall_le ⊢
        linarith
    _ = (1 - 1 / 2 ^ 42) * ((p + r) * (1 - 1 / 2 ^ 53)) * (k + n) := by ring
    _ ≤ (1 - 1 / 2 ^ 42) * round (p + r) * (k + n) := by
        refine mul_le_mul_of_nonneg_right (mul_le_mul_of_nonneg_left hsum_low ?_) hall.le
        norm_num

end Binary64
