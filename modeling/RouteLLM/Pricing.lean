import Mathlib.Tactic.GCongr
import RouteLLM.Models

/-!
# Pricing

`pricing/calculator.py`. A cost is computed in a context whose precision holds every digit of the
exact result, so that no operation rounds: `toRat_calculateCost` states the exact value, which makes
a cost monotone in both token counts.
-/

namespace RouteLLM

/-- The digits of a rate and the magnitude of its exponent. -/
def rateDigits (rate : Money) : ℕ := Decimal.digits rate.dec.coeff.natAbs + rate.dec.exp.natAbs

/-- `required_digits` of `calculate_cost`. -/
def requiredDigits (inputTokens outputTokens : ℕ) (model : ModelConfig) : ℕ :=
  rateDigits model.inputCostPer1mTokens + rateDigits model.outputCostPer1mTokens +
    max (Decimal.digits inputTokens) (Decimal.digits outputTokens) + 10

/-- `calculate_cost`: the rates times the token counts, over one million. The type checks of the
source are the type of the counts. -/
def calculateCost (inputTokens outputTokens : ℕ) (model : ModelConfig) : Money :=
  let prec := max 28 (requiredDigits inputTokens outputTokens model)
  let inputCost := Decimal.mul prec model.inputCostPer1mTokens.dec (.ofInt inputTokens)
  let outputCost := Decimal.mul prec model.outputCostPer1mTokens.dec (.ofInt outputTokens)
  ⟨Decimal.div prec (Decimal.add prec inputCost outputCost) ⟨10 ^ 6, 0⟩,
    Decimal.div_nonneg (Decimal.add_nonneg
      (Decimal.fix_nonneg (mul_nonneg model.inputCostPer1mTokens.nonneg (Int.natCast_nonneg _)))
      (Decimal.fix_nonneg (mul_nonneg model.outputCostPer1mTokens.nonneg (Int.natCast_nonneg _))))
      (by positivity)⟩

/-- `calculate_projected_cost`: the cost of the estimated input and the configured output
allowance. -/
def calculateProjectedCost (approximateInputTokens effectiveMaxOutputTokens : ℕ)
    (model : ModelConfig) : Money :=
  calculateCost approximateInputTokens effectiveMaxOutputTokens model

/-- A rate times a count fits a precision of their digits. -/
theorem product_fits {prec : ℕ} (rate : Decimal) (n : ℕ)
    (h : Decimal.digits rate.coeff.natAbs + Decimal.digits n ≤ prec) :
    Decimal.digits (Decimal.mulExact rate (.ofInt n)).coeff.natAbs ≤ prec := by
  rw [Decimal.mulExact, Decimal.ofInt, Int.natAbs_mul, Int.natAbs_natCast]
  exact (Decimal.digits_mul_le _ _).trans h

theorem mul_ofInt_eq {prec : ℕ} (rate : Decimal) (n : ℕ)
    (h : Decimal.digits rate.coeff.natAbs + Decimal.digits n ≤ prec) :
    Decimal.mul prec rate (.ofInt n) = Decimal.mulExact rate (.ofInt n) :=
  Decimal.fix_of_digits_le (product_fits rate n h)

/-- Aligning a coefficient adds at most the distance of the exponents to its digits. -/
theorem natAbs_align_lt {c : ℤ} {d k n : ℕ} (hc : Decimal.digits c.natAbs ≤ d) (hk : k ≤ n) :
    (c * 10 ^ k).natAbs < 10 ^ (d + n) := by
  have hlt : c.natAbs < 10 ^ d :=
    (Decimal.digits_le_iff (lt_of_lt_of_le (Decimal.digits_pos _) hc)).mp hc
  rw [Int.natAbs_mul, Int.natAbs_pow, pow_add]
  exact Nat.mul_lt_mul_of_lt_of_le hlt (Nat.pow_le_pow_right (by norm_num) hk)
    (Nat.pow_pos (by norm_num))

/-- An aligned sum fits a precision of one digit more than both summands and their exponents. -/
theorem digits_addExact_le (a b : Decimal) {da db : ℕ} (ha : Decimal.digits a.coeff.natAbs ≤ da)
    (hb : Decimal.digits b.coeff.natAbs ≤ db) :
    Decimal.digits (Decimal.addExact a b).coeff.natAbs ≤
      max da db + (a.exp.natAbs + b.exp.natAbs) + 1 := by
  rw [Decimal.digits_le_iff (Nat.succ_pos _), pow_succ]
  have h1 := natAbs_align_lt (c := a.coeff) (k := (a.exp - min a.exp b.exp).toNat)
    (n := a.exp.natAbs + b.exp.natAbs) (ha.trans (le_max_left da db)) (by omega)
  have h2 := natAbs_align_lt (c := b.coeff) (k := (b.exp - min a.exp b.exp).toNat)
    (n := a.exp.natAbs + b.exp.natAbs) (hb.trans (le_max_right da db)) (by omega)
  have := Int.natAbs_add_le (a.coeff * 10 ^ (a.exp - min a.exp b.exp).toNat)
    (b.coeff * 10 ^ (b.exp - min a.exp b.exp).toNat)
  simp only [Decimal.addExact]
  omega

section fits
variable {inputTokens outputTokens prec : ℕ} {model : ModelConfig}

/-- The required digits hold both products. -/
theorem products_eq (h : requiredDigits inputTokens outputTokens model ≤ prec) :
    Decimal.mul prec model.inputCostPer1mTokens.dec (.ofInt inputTokens) =
        Decimal.mulExact model.inputCostPer1mTokens.dec (.ofInt inputTokens) ∧
      Decimal.mul prec model.outputCostPer1mTokens.dec (.ofInt outputTokens) =
        Decimal.mulExact model.outputCostPer1mTokens.dec (.ofInt outputTokens) := by
  simp only [requiredDigits, rateDigits] at h
  exact ⟨mul_ofInt_eq _ _ (by omega), mul_ofInt_eq _ _ (by omega)⟩

/-- The required digits hold the aligned sum of the products. -/
theorem sum_fits (h : requiredDigits inputTokens outputTokens model ≤ prec) :
    Decimal.digits (Decimal.addExact
      (Decimal.mulExact model.inputCostPer1mTokens.dec (.ofInt inputTokens))
      (Decimal.mulExact model.outputCostPer1mTokens.dec (.ofInt outputTokens))).coeff.natAbs ≤
      prec := by
  simp only [requiredDigits, rateDigits] at h
  have hsum := digits_addExact_le
    (Decimal.mulExact model.inputCostPer1mTokens.dec (.ofInt inputTokens))
    (Decimal.mulExact model.outputCostPer1mTokens.dec (.ofInt outputTokens))
    (product_fits _ _ le_rfl) (product_fits _ _ le_rfl)
  simp only [Decimal.mulExact, Decimal.ofInt, add_zero] at hsum ⊢
  exact hsum.trans (by omega)

end fits

/-- **No operation of `calculate_cost` rounds.** The precision holds the digits of both products, of
their aligned sum, and of its quotient by a power of ten. -/
theorem toRat_calculateCost (inputTokens outputTokens : ℕ) (model : ModelConfig) :
    (calculateCost inputTokens outputTokens model).toRat =
      (inputTokens * model.inputCostPer1mTokens.toRat +
        outputTokens * model.outputCostPer1mTokens.toRat) / 10 ^ 6 := by
  generalize hp : max 28 (requiredDigits inputTokens outputTokens model) = prec
  have hreq : requiredDigits inputTokens outputTokens model ≤ prec := hp ▸ le_max_right _ _
  obtain ⟨hi, ho⟩ := products_eq hreq
  have hfit := sum_fits hreq
  rw [Money.toRat, calculateCost]
  simp only [hp, hi, ho, Decimal.add]
  rw [Decimal.fix_of_digits_le hfit, Decimal.toRat_div_pow hfit, Decimal.toRat_addExact,
    Decimal.toRat_mulExact, Decimal.toRat_mulExact, Decimal.toRat_ofInt, Decimal.toRat_ofInt]
  simp only [Money.toRat]
  push_cast
  ring

/-- A cost grows with both token counts. -/
theorem calculateCost_mono {model : ModelConfig} {inputs inputs' outputs outputs' : ℕ}
    (hi : inputs ≤ inputs') (ho : outputs ≤ outputs') :
    (calculateCost inputs outputs model).toRat ≤ (calculateCost inputs' outputs' model).toRat := by
  have hp := model.inputCostPer1mTokens.toRat_nonneg
  have hq := model.outputCostPer1mTokens.toRat_nonneg
  rw [toRat_calculateCost, toRat_calculateCost]
  gcongr

/-- A cost bounds those of all smaller counts of inputs, and of outputs up to a limit, exactly when
outputs are free or it allows for the limit. -/
theorem calculateCost_bound_iff {model : ModelConfig} {inputs limit allowance : ℕ} :
    (∀ i o, i ≤ inputs → o ≤ limit →
      (calculateCost i o model).toRat ≤ (calculateCost inputs allowance model).toRat) ↔
      model.outputCostPer1mTokens.toRat = 0 ∨ limit ≤ allowance := by
  constructor
  · intro h
    have hmax := h inputs limit le_rfl le_rfl
    rw [toRat_calculateCost, toRat_calculateCost, div_le_div_iff_of_pos_right (by norm_num),
      add_le_add_iff_left] at hmax
    refine or_iff_not_imp_left.mpr fun hne => ?_
    have hpos := lt_of_le_of_ne model.outputCostPer1mTokens.toRat_nonneg (Ne.symm hne)
    exact_mod_cast le_of_mul_le_mul_right hmax hpos
  · rintro (hzero | hle) i o hi ho
    · calc (calculateCost i o model).toRat = (calculateCost i allowance model).toRat := by
            rw [toRat_calculateCost, toRat_calculateCost, hzero, mul_zero, mul_zero]
        _ ≤ (calculateCost inputs allowance model).toRat := calculateCost_mono hi le_rfl
    · exact calculateCost_mono hi (ho.trans hle)

end RouteLLM
