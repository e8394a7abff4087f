import Mathlib.Algebra.Order.Field.Power
import Mathlib.Data.Int.Log
import Mathlib.Tactic.FieldSimp
import Mathlib.Tactic.Positivity
import RouteLLM.Lib.Rounding

/-!
# The binary64 format on exact rationals

A finite binary64 datum is a rational that `Binary64.round` fixes. `Binary64.round` is the
round-to-nearest-even map of the format with gradual underflow: it rounds to a multiple of the unit
in the last place, whose exponent `Binary64.ulpExp` is read off the magnitude and is at least
`-1074`. The map does not overflow; `Binary64.ofRat?` is the conversion that does. An operation of
the format is the exact operation followed by `Binary64.round`, so what a proof about it needs is
that the map is monotone (`round_mono`), idempotent (`round_round`) and the identity on small
integers (`round_natCast`). Signed zeros are identified.
-/

namespace Binary64

/-- The exponent of the unit in the last place at the magnitude of `q`. -/
def ulpExp (q : ℚ) : ℤ := max (Int.log 2 |q| - 52) (-1074)

/-- Round to nearest, ties to even, with an exponent range unbounded above. -/
def round (q : ℚ) : ℚ := roundHalfEven (q / 2 ^ ulpExp q) * 2 ^ ulpExp q

/-- The unit in the last place is at least the smallest subnormal. -/
theorem neg_le_ulpExp (q : ℚ) : -1074 ≤ ulpExp q := le_max_right _ _

/-- A magnitude is below `2 ^ 53` units in its last place. -/
theorem abs_lt_ulp (q : ℚ) : |q| < 2 ^ (53 : ℤ) * 2 ^ ulpExp q := by
  have hlog : |q| < ((2 : ℕ) : ℚ) ^ (Int.log 2 |q| + 1) :=
    Int.lt_zpow_succ_log_self (by norm_num) _
  have hle : Int.log 2 |q| + 1 ≤ 53 + ulpExp q := by
    have := le_max_left (Int.log 2 |q| - 52) (-1074)
    unfold ulpExp
    omega
  calc |q| < (2 : ℚ) ^ (Int.log 2 |q| + 1) := by exact_mod_cast hlog
    _ ≤ 2 ^ (53 + ulpExp q) := zpow_le_zpow_right₀ (by norm_num) hle
    _ = 2 ^ (53 : ℤ) * 2 ^ ulpExp q := zpow_add₀ (by norm_num) _ _

/-- A normal magnitude is at least `2 ^ 52` units in its last place. -/
theorem ulp_le_abs {q : ℚ} (hq : q ≠ 0) (h : -1074 < ulpExp q) :
    2 ^ (52 : ℤ) * 2 ^ ulpExp q ≤ |q| := by
  have he : ulpExp q = Int.log 2 |q| - 52 := by
    unfold ulpExp at h ⊢
    exact max_eq_left (by omega)
  have hlog : ((2 : ℕ) : ℚ) ^ Int.log 2 |q| ≤ |q| :=
    Int.zpow_log_le_self (by norm_num) (abs_pos.mpr hq)
  rw [← zpow_add₀ (by norm_num : (2 : ℚ) ≠ 0), he, add_sub_cancel]
  exact_mod_cast hlog

/-- The exponent of the last place grows with the magnitude. -/
theorem ulpExp_mono {p q : ℚ} (hp : 0 < p) (h : p ≤ q) : ulpExp p ≤ ulpExp q := by
  have hq : 0 < q := hp.trans_le h
  have hlog : Int.log 2 |p| ≤ Int.log 2 |q| := by
    rw [abs_of_pos hp, abs_of_pos hq]
    exact Int.log_mono_right hp h
  unfold ulpExp
  omega

@[simp] theorem round_zero : round 0 = 0 := by simp [round]

/-- The map fixes every datum of the format: a multiple of a unit in the last place whose multiplier
has at most 53 bits. The unit of the datum itself is a divisor of that unit. -/
theorem round_dyadic {n e : ℤ} (hn : |n| < 2 ^ 53) (he : -1074 ≤ e) :
    round ((n : ℚ) * 2 ^ e) = n * 2 ^ e := by
  by_cases h0 : n = 0
  · simp [h0]
  have hx : |(n : ℚ) * 2 ^ e| = (|n| : ℤ) * 2 ^ e := by
    rw [abs_mul, abs_of_pos (by positivity : (0 : ℚ) < 2 ^ e), Int.cast_abs]
  have hlt : |(n : ℚ) * 2 ^ e| < ((2 : ℕ) : ℚ) ^ (e + 53) := by
    rw [hx]
    push_cast
    rw [add_comm, zpow_add₀ (by norm_num : (2 : ℚ) ≠ 0)]
    exact mul_lt_mul_of_pos_right (by exact_mod_cast hn) (by positivity)
  have hpos : 0 < |(n : ℚ) * 2 ^ e| := by
    rw [hx]
    have : (0 : ℚ) < (|n| : ℤ) := by exact_mod_cast abs_pos.mpr h0
    positivity
  have hlog := (Int.lt_zpow_iff_log_lt (by norm_num) hpos).mp hlt
  obtain ⟨k, hk⟩ : ∃ k : ℕ, e = ulpExp ((n : ℚ) * 2 ^ e) + k :=
    ⟨(e - ulpExp ((n : ℚ) * 2 ^ e)).toNat, by unfold ulpExp; omega⟩
  generalize hu : ulpExp ((n : ℚ) * 2 ^ e) = u at hk
  have hdiv : (n : ℚ) * 2 ^ e / 2 ^ u = ((n * 2 ^ k : ℤ) : ℚ) := by
    rw [hk, zpow_add₀ (by norm_num : (2 : ℚ) ≠ 0), zpow_natCast]
    push_cast
    field_simp
  rw [round, hu, hdiv, roundHalfEven_intCast]
  push_cast
  rw [hk, zpow_add₀ (by norm_num : (2 : ℚ) ≠ 0), zpow_natCast]
  ring

/-- The rounded multiplier has at most 53 bits, or is `2 ^ 53`. -/
theorem abs_roundHalfEven_le (q : ℚ) : |roundHalfEven (q / 2 ^ ulpExp q)| ≤ 2 ^ 53 := by
  have hq : |q / 2 ^ ulpExp q| < 2 ^ (53 : ℤ) := by
    rw [abs_div, abs_of_pos (by positivity : (0 : ℚ) < 2 ^ ulpExp q), div_lt_iff₀ (by positivity)]
    exact abs_lt_ulp q
  have hb : ((2 : ℤ) ^ 53 : ℤ) = ((2 : ℚ) ^ (53 : ℤ)) := by norm_num
  obtain ⟨hlo, hhi⟩ := abs_lt.mp hq
  rw [abs_le]
  constructor
  · exact le_roundHalfEven (by rw [← hb] at hlo; exact_mod_cast hlo.le)
  · exact roundHalfEven_le (by rw [← hb] at hhi; exact_mod_cast hhi.le)

/-- Rounding a rounded value changes nothing: it is a datum of the format. -/
theorem round_round (q : ℚ) : round (round q) = round q := by
  have hn := abs_roundHalfEven_le q
  have he := neg_le_ulpExp q
  rcases hn.lt_or_eq with hlt | heq
  · exact round_dyadic hlt he
  · -- The rounding carried into the next binade, where half the multiplier has 53 bits.
    have hhalf : ∃ m : ℤ, roundHalfEven (q / 2 ^ ulpExp q) = 2 * m ∧ |m| < 2 ^ 53 := by
      rcases abs_eq (by norm_num : (0 : ℤ) ≤ 2 ^ 53) |>.mp heq with h | h
      · exact ⟨2 ^ 52, by rw [h]; norm_num, by norm_num⟩
      · exact ⟨-2 ^ 52, by rw [h]; norm_num, by norm_num⟩
    obtain ⟨m, hm, hlt⟩ := hhalf
    have hval : round q = (m : ℚ) * 2 ^ (ulpExp q + 1) := by
      rw [round, hm, zpow_add₀ (by norm_num : (2 : ℚ) ≠ 0)]
      push_cast
      ring
    rw [hval]
    exact round_dyadic hlt (by omega)

/-- A natural number below `2 ^ 53` is a datum of the format. -/
theorem round_natCast {n : ℕ} (h : n < 2 ^ 53) : round (n : ℚ) = n := by
  have := round_dyadic (n := n) (e := 0) (by rw [Nat.abs_cast]; exact_mod_cast h) (by norm_num)
  simpa using this

@[simp] theorem round_one : round 1 = 1 := by
  exact_mod_cast round_natCast (n := 1) (by norm_num)

/-- A nonnegative value rounds to a nonnegative datum. -/
theorem round_nonneg {q : ℚ} (h : 0 ≤ q) : 0 ≤ round q := by
  have hn : (0 : ℚ) ≤ roundHalfEven (q / 2 ^ ulpExp q) := by
    exact_mod_cast roundHalfEven_nonneg (by positivity)
  exact mul_nonneg hn (by positivity)

/-- **Rounding is monotone** on the nonnegative values. Within one binade the rounded multipliers
are; between two, the power of two that separates the binades separates the rounded values. -/
theorem round_mono {p q : ℚ} (hp : 0 ≤ p) (h : p ≤ q) : round p ≤ round q := by
  rcases hp.eq_or_lt with rfl | hp
  · simpa using round_nonneg h
  have hq : 0 < q := hp.trans_le h
  rcases (ulpExp_mono hp h).lt_or_eq with hlt | heq
  · have hhi : (roundHalfEven (p / 2 ^ ulpExp p) : ℚ) ≤ 2 ^ (53 : ℤ) := by
      have := (abs_le.mp (abs_roundHalfEven_le p)).2
      have h53 : ((2 : ℤ) ^ 53 : ℤ) = ((2 : ℚ) ^ (53 : ℤ)) := by norm_num
      rw [← h53]
      exact_mod_cast this
    have hlo : (2 : ℚ) ^ (52 : ℤ) ≤ roundHalfEven (q / 2 ^ ulpExp q) := by
      have hu := ulp_le_abs hq.ne' ((neg_le_ulpExp p).trans_lt hlt)
      rw [abs_of_pos hq] at hu
      have h52 : ((2 : ℤ) ^ 52 : ℤ) = ((2 : ℚ) ^ (52 : ℤ)) := by norm_num
      have := le_roundHalfEven (n := 2 ^ 52) (q := q / 2 ^ ulpExp q)
        (by rw [h52, le_div_iff₀ (by positivity)]; exact hu)
      rw [← h52]
      exact_mod_cast this
    calc round p ≤ 2 ^ (53 : ℤ) * 2 ^ ulpExp p := mul_le_mul_of_nonneg_right hhi (by positivity)
      _ = 2 ^ (52 : ℤ) * 2 ^ (ulpExp p + 1) := by
        rw [zpow_add₀ (by norm_num : (2 : ℚ) ≠ 0)]; norm_num; ring
      _ ≤ 2 ^ (52 : ℤ) * 2 ^ ulpExp q :=
        mul_le_mul_of_nonneg_left (zpow_le_zpow_right₀ (by norm_num) (by omega)) (by positivity)
      _ ≤ round q := mul_le_mul_of_nonneg_right hlo (by positivity)
  · unfold round
    rw [heq]
    refine mul_le_mul_of_nonneg_right ?_ (by positivity)
    exact_mod_cast roundHalfEven_mono (div_le_div_of_nonneg_right h (by positivity))

/-- A value below a datum rounds below it. -/
theorem round_le {q x : ℚ} (hq : 0 ≤ q) (hx : round x = x) (h : q ≤ x) : round q ≤ x := by
  rw [← hx]
  exact round_mono hq h

/-- A value above a datum rounds above it. -/
theorem le_round {q x : ℚ} (h0 : 0 ≤ x) (hx : round x = x) (h : x ≤ q) : x ≤ round q := by
  rw [← hx]
  exact round_mono h0 h

/-- A value of the unit interval rounds into the unit interval. -/
theorem round_le_one {q : ℚ} (hq : 0 ≤ q) (h : q ≤ 1) : round q ≤ 1 :=
  round_le hq round_one h

end Binary64

/-- A finite datum of the format. -/
structure Binary64 where
  /-- the exact value -/
  val : ℚ
  round_val : Binary64.round val = val
  abs_lt : |val| < 2 ^ 1024
  deriving DecidableEq

namespace Binary64

@[ext] theorem ext {x y : Binary64} (h : x.val = y.val) : x = y := by
  cases x; cases y; simp_all

theorem val_injective : Function.Injective Binary64.val := fun _ _ => ext

instance : LinearOrder Binary64 := LinearOrder.lift' Binary64.val val_injective

theorem le_iff {x y : Binary64} : x ≤ y ↔ x.val ≤ y.val := Iff.rfl

theorem lt_iff {x y : Binary64} : x < y ↔ x.val < y.val := Iff.rfl

instance : Zero Binary64 := ⟨⟨0, round_zero, by norm_num⟩⟩

instance : One Binary64 := ⟨⟨1, round_one, by rw [abs_one]; exact one_lt_pow₀ (by norm_num) (by norm_num)⟩⟩

@[simp] theorem val_zero : (0 : Binary64).val = 0 := rfl

@[simp] theorem val_one : (1 : Binary64).val = 1 := rfl

/-- Conversion of an exact value, which fails where the rounded value leaves the finite range. -/
def ofRat? (q : ℚ) : Option Binary64 :=
  if h : |round q| < 2 ^ 1024 then some ⟨round q, round_round q, h⟩ else none

/-- A converted value is the rounding of the exact one. -/
theorem val_of_ofRat? {q : ℚ} {x : Binary64} (h : ofRat? q = some x) : x.val = round q := by
  unfold ofRat? at h
  split at h
  · cases h; rfl
  · cases h

end Binary64
