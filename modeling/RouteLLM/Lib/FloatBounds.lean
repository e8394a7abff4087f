import RouteLLM.Lib.Binary64

/-!
# Where rounding crosses a bound

The arguments that round to at most one, to a nonnegative datum, or beyond the largest datum. Each bound
is an even multiple of the unit in the last place below it, so that a tie belongs to its side.
-/

/-- An argument rounds to at most an even integer up to the half above it. -/
theorem roundHalfEven_le_iff {n : ℤ} (hn : n % 2 = 0) {q : ℚ} :
    roundHalfEven q ≤ n ↔ q ≤ n + 1 / 2 := by
  constructor
  · intro h
    have herror := (abs_le.mp (roundHalfEven_error q)).1
    have hle : (roundHalfEven q : ℚ) ≤ n := by exact_mod_cast h
    linarith
  · intro h
    have hlo := Int.floor_le q
    have hfloor : ⌊q⌋ ≤ n := by
      have hlt : (⌊q⌋ : ℚ) < (n + 1 : ℤ) := by push_cast; linarith
      exact Int.lt_add_one_iff.mp (by exact_mod_cast hlt)
    rcases hfloor.lt_or_eq with hlt | heq
    · have hhi := (roundHalfEven_bounds q).2
      omega
    · unfold roundHalfEven
      rw [heq]
      split_ifs with h1 h2
      · exact le_rfl
      · exact absurd h2 (by linarith)
      · exact le_rfl

/-- An argument rounds to at least an even integer from the half below it. -/
theorem le_roundHalfEven_iff {n : ℤ} (hn : n % 2 = 0) {q : ℚ} :
    n ≤ roundHalfEven q ↔ n - 1 / 2 ≤ q := by
  constructor
  · intro h
    have herror := (abs_le.mp (roundHalfEven_error q)).2
    have hle : (n : ℚ) ≤ roundHalfEven q := by exact_mod_cast h
    linarith
  · intro h
    rcases le_or_gt (n : ℚ) q with hle | hlt
    · exact le_roundHalfEven hle
    · have hfloor : ⌊q⌋ = n - 1 := by
        rw [Int.floor_eq_iff]
        push_cast
        exact ⟨by linarith, by linarith⟩
      unfold roundHalfEven
      rw [hfloor]
      push_cast
      split_ifs with h1 h2 h3
      · exact absurd h1 (by linarith)
      · omega
      · omega
      · omega

/-- The magnitude of an argument rounds below an even integer up to the half below it. -/
theorem abs_roundHalfEven_lt_iff {n : ℤ} (hn : n % 2 = 0) {q : ℚ} :
    |roundHalfEven q| < n ↔ |q| < n - 1 / 2 := by
  have hhi := le_roundHalfEven_iff hn (q := q)
  have hlo := roundHalfEven_le_iff (n := -n) (by omega) (q := q)
  push_cast at hlo
  rw [abs_lt, abs_lt, ← not_le, ← not_le, hhi, hlo, not_le, not_le]
  constructor
  · intro h
    exact ⟨by linarith [h.1], h.2⟩
  · intro h
    exact ⟨by linarith [h.1], h.2⟩

/-- An integer below the magnitude of an argument is below that of the rounded value. -/
theorem le_abs_roundHalfEven {n : ℤ} {q : ℚ} (h : (n : ℚ) ≤ |q|) : n ≤ |roundHalfEven q| := by
  rcases le_abs.mp h with hpos | hneg
  · exact (le_roundHalfEven hpos).trans (le_abs_self _)
  · have hle : roundHalfEven q ≤ -n := roundHalfEven_le (by push_cast; linarith)
    exact (by omega : n ≤ -roundHalfEven q).trans (neg_le_abs _)

namespace Binary64

theorem abs_round (q : ℚ) :
    |round q| = (|roundHalfEven (q / 2 ^ ulpExp q)| : ℤ) * 2 ^ ulpExp q := by
  rw [round, abs_mul, abs_of_pos (by positivity : (0 : ℚ) < 2 ^ ulpExp q), Int.cast_abs]

theorem abs_div_ulp (q : ℚ) : |q / 2 ^ ulpExp q| = |q| / 2 ^ ulpExp q := by
  rw [abs_div, abs_of_pos (by positivity : (0 : ℚ) < 2 ^ ulpExp q)]

theorem two_zpow_970 : (2 : ℚ) ^ (970 : ℤ) = 2 ^ 970 := zpow_natCast 2 970

theorem two_zpow_971 : (2 : ℚ) ^ (971 : ℤ) = 2 * 2 ^ 970 :=
  (zpow_natCast 2 971).trans (pow_succ' 2 970)

theorem two_zpow_972 : (2 : ℚ) ^ (972 : ℤ) = 4 * 2 ^ 970 := by
  have hadd : (2 : ℚ) ^ (972 : ℤ) = 2 ^ (2 : ℤ) * 2 ^ (970 : ℤ) :=
    zpow_add₀ (by norm_num) 2 970
  rw [hadd, two_zpow_970]
  norm_num only

theorem two_pow_1024 : (2 : ℚ) ^ 1024 = 2 ^ 54 * 2 ^ 970 := pow_add 2 54 970

/-- **Overflow**: a value overflows from the middle between the largest datum and the next power of
two on. -/
theorem abs_round_lt_iff (q : ℚ) : |round q| < 2 ^ 1024 ↔ |q| < 2 ^ 1024 - 2 ^ 970 := by
  have hu : (0 : ℚ) < 2 ^ ulpExp q := by positivity
  have h970 := two_zpow_970
  have h971 := two_zpow_971
  have h972 := two_zpow_972
  have hpos : (0 : ℚ) < 2 ^ 970 := by positivity
  rw [two_pow_1024]
  generalize (2 : ℚ) ^ 970 = u at h970 h971 h972 hpos ⊢
  rcases lt_trichotomy (ulpExp q) 971 with hlt | heq | hgt
  · have hpow : (2 : ℚ) ^ ulpExp q ≤ u :=
      h970 ▸ zpow_le_zpow_right₀ (by norm_num) (by omega)
    have hround : |round q| ≤ 2 ^ 53 * 2 ^ ulpExp q := by
      rw [abs_round]
      refine mul_le_mul_of_nonneg_right ?_ hu.le
      exact_mod_cast abs_roundHalfEven_le q
    have habs : |q| < 2 ^ 53 * 2 ^ ulpExp q := by exact_mod_cast abs_lt_ulp q
    exact iff_of_true (by linarith) (by linarith)
  · have hulp : (2 : ℚ) ^ ulpExp q = 2 * u := by rw [heq, h971]
    have hnum : (2 : ℚ) ^ 54 * u = ((2 ^ 53 : ℤ) : ℚ) * (2 * u) := by
      push_cast
      ring
    rw [abs_round, hulp, hnum, mul_lt_mul_iff_left₀ (mul_pos two_pos hpos), Int.cast_lt,
      abs_roundHalfEven_lt_iff (by norm_num), ← hulp, abs_div_ulp, div_lt_iff₀ hu, hulp]
    push_cast
    rw [sub_mul]
    constructor
    · intro h
      linarith
    · intro h
      linarith
  · have hpow : 4 * u ≤ 2 ^ ulpExp q :=
      h972 ▸ zpow_le_zpow_right₀ (by norm_num) (by omega)
    have hq : q ≠ 0 := by
      rintro rfl
      norm_num [ulpExp] at hgt
    have habs : 2 ^ 52 * 2 ^ ulpExp q ≤ |q| := by exact_mod_cast ulp_le_abs hq (by omega)
    have hround : 2 ^ 52 * 2 ^ ulpExp q ≤ |round q| := by
      rw [abs_round]
      refine mul_le_mul_of_nonneg_right ?_ hu.le
      have hle : (2 ^ 52 : ℤ) ≤ |roundHalfEven (q / 2 ^ ulpExp q)| := by
        refine le_abs_roundHalfEven ?_
        rw [abs_div_ulp, le_div_iff₀ hu]
        exact_mod_cast habs
      exact_mod_cast hle
    exact iff_of_false (by linarith) (by linarith)

/-- A value has no float exactly where it overflows. -/
theorem ofRat?_eq_none {q : ℚ} : ofRat? q = none ↔ 2 ^ 1024 - 2 ^ 970 ≤ |q| := by
  rw [← not_lt, ← abs_round_lt_iff, ofRat?]
  split_ifs with h
  · simp [h]
  · simp [h]

/-- A value rounds to a nonnegative datum from half the smallest one below zero on. -/
theorem round_nonneg_iff (q : ℚ) : 0 ≤ round q ↔ -(1 / 2 ^ 1075) ≤ q := by
  have hu : (0 : ℚ) < 2 ^ ulpExp q := by positivity
  have hiff : 0 ≤ round q ↔ -(1 / 2) * 2 ^ ulpExp q ≤ q := by
    have hle := le_roundHalfEven_iff (n := 0) rfl (q := q / 2 ^ ulpExp q)
    rw [round, mul_nonneg_iff_of_pos_right hu]
    rw [← le_div_iff₀ hu]
    push_cast at hle
    rw [zero_sub] at hle
    rw [← hle]
    exact_mod_cast Iff.rfl
  have hhalf : (1 : ℚ) / 2 ^ 1075 = 1 / 2 * 2 ^ (-1074 : ℤ) := by
    have hneg : (2 : ℚ) ^ (-1074 : ℤ) = (2 ^ 1074)⁻¹ := zpow_neg 2 1074
    rw [hneg, pow_succ]
    field_simp
  have hmin : (0 : ℚ) < 2 ^ (-1074 : ℤ) := by positivity
  rw [hiff, hhalf]
  rcases (neg_le_ulpExp q).eq_or_lt with heq | hlt
  · rw [← heq, neg_mul]
  · have hsmall : (2 : ℚ) ^ (-1074 : ℤ) ≤ 2 ^ ulpExp q :=
      zpow_le_zpow_right₀ (by norm_num) hlt.le
    have hbig : (1 : ℚ) / 2 * 2 ^ ulpExp q < 2 ^ (52 : ℤ) * 2 ^ ulpExp q :=
      mul_lt_mul_of_pos_right (by norm_num) hu
    rcases le_or_gt 0 q with hpos | hneg
    · exact iff_of_true (by linarith) (by linarith)
    · have habs := ulp_le_abs hneg.ne hlt
      rw [abs_of_neg hneg] at habs
      exact iff_of_false (by linarith) (by linarith)

/-- A value rounds to at most one up to half a unit above it. -/
theorem round_le_one_iff (q : ℚ) : round q ≤ 1 ↔ q ≤ 1 + 1 / 2 ^ 53 := by
  have hu : (0 : ℚ) < 2 ^ ulpExp q := by positivity
  rcases le_or_gt q 1 with hle | hgt
  · refine iff_of_true ?_ (by linarith [show (0 : ℚ) < 1 / 2 ^ 53 by positivity])
    rcases le_or_gt 0 q with hpos | hneg
    · exact round_le_one hpos hle
    · have hround : roundHalfEven (q / 2 ^ ulpExp q) ≤ 0 :=
        roundHalfEven_le (by push_cast; exact (div_neg_of_neg_of_pos hneg hu).le)
      have hcast : (roundHalfEven (q / 2 ^ ulpExp q) : ℚ) ≤ 0 := by exact_mod_cast hround
      exact (mul_nonpos_of_nonpos_of_nonneg hcast hu.le).trans (by norm_num)
  rcases lt_or_ge q 2 with hlt | hge
  · have hlog : Int.log 2 |q| = 0 := by
      rw [abs_of_pos (by linarith)]
      refine le_antisymm ?_ ?_
      · have := (Int.lt_zpow_iff_log_lt (b := 2) (x := 1) (by norm_num)
          (by linarith : (0 : ℚ) < q)).mp (by norm_num; exact hlt)
        omega
      · exact (Int.zpow_le_iff_le_log (b := 2) (by norm_num) (by linarith)).mp
          (by norm_num; exact hgt.le)
    have hulp : ulpExp q = -52 := by
      rw [ulpExp, hlog]
      norm_num
    have hcross := roundHalfEven_le_iff (n := 2 ^ 52) (by norm_num) (q := q / 2 ^ ulpExp q)
    have hone : round q ≤ 1 ↔ roundHalfEven (q / 2 ^ ulpExp q) ≤ 2 ^ 52 := by
      have hnum : (1 : ℚ) = ((2 ^ 52 : ℤ) : ℚ) * 2 ^ ulpExp q := by
        rw [hulp]
        norm_num
      rw [round]
      conv_lhs => rw [hnum]
      rw [mul_le_mul_iff_left₀ hu, Int.cast_le]
    rw [hone, hcross, div_le_iff₀ hu, hulp]
    norm_num
  · have htwo : (2 : ℚ) ≤ round q :=
      le_round (by norm_num) (by exact_mod_cast round_natCast (n := 2) (by norm_num)) hge
    exact iff_of_false (by linarith) (by norm_num; linarith)

end Binary64
