import RouteLLM.Errors
import RouteLLM.Lib.DecimalContext
import RouteLLM.Lib.Except
import RouteLLM.Pricing

/-!
# Pricing in any context

`calculate_cost` counts the digits of the token counts with `str()`, which the interpreter refuses
beyond a number of digits, and computes in a copy of the ambient context with a precision of its own.
`pricing_exact` says that it returns the exact cost in every ambient context, exactly for the counts
that have a text.
-/

namespace RouteLLM

/-- The length of the text of a count: `str()` of an integer raises beyond the digits that the
interpreter converts, where zero is no limit. -/
def strLength (maxStrDigits n : ℕ) : Except Exc ℕ :=
  if maxStrDigits ≠ 0 ∧ maxStrDigits < Decimal.digits n then
    .error (.raised .valueError ("Exceeds the limit (" ++ toString maxStrDigits ++
      " digits) for integer string conversion; use sys.set_int_max_str_digits() to increase the limit"))
  else .ok (Decimal.digits n)

/-- `calculate_cost` in an ambient context, of which it keeps the rounding mode. -/
def calculateCostIn (ambient : DecimalContext) (maxStrDigits inputTokens outputTokens : ℕ)
    (model : ModelConfig) : Except Exc Decimal := do
  let inputDigits ← strLength maxStrDigits inputTokens
  let outputDigits ← strLength maxStrDigits outputTokens
  let required := rateDigits model.inputCostPer1mTokens + rateDigits model.outputCostPer1mTokens +
    max inputDigits outputDigits + 10
  let context := { ambient with prec := max 28 required }
  return context.div
    (context.add (context.mul model.inputCostPer1mTokens.dec (.ofInt inputTokens))
      (context.mul model.outputCostPer1mTokens.dec (.ofInt outputTokens)))
    ⟨10 ^ 6, 0⟩

/-- The counts that the interpreter converts to text. -/
def HasText (maxStrDigits n : ℕ) : Prop := maxStrDigits = 0 ∨ Decimal.digits n ≤ maxStrDigits

theorem strLength_eq_ok {maxStrDigits n k : ℕ} :
    strLength maxStrDigits n = .ok k ↔ HasText maxStrDigits n ∧ k = Decimal.digits n := by
  rw [strLength, Except.guard_eq_ok, Except.ok.injEq, not_and_or, not_not, not_lt]
  exact and_congr_right fun _ => eq_comm

variable {ambient : DecimalContext} {maxStrDigits inputs outputs : ℕ} {model : ModelConfig}

/-- No operation of the context rounds, so that the mode is that of the half-even contexts. -/
theorem context_cost_eq {context : DecimalContext}
    (h : requiredDigits inputs outputs model ≤ context.prec) :
    context.div (context.add (context.mul model.inputCostPer1mTokens.dec (.ofInt inputs))
        (context.mul model.outputCostPer1mTokens.dec (.ofInt outputs))) ⟨10 ^ 6, 0⟩ =
      Decimal.div context.prec (Decimal.add context.prec
        (Decimal.mul context.prec model.inputCostPer1mTokens.dec (.ofInt inputs))
        (Decimal.mul context.prec model.outputCostPer1mTokens.dec (.ofInt outputs)))
        ⟨10 ^ 6, 0⟩ := by
  obtain ⟨hi, ho⟩ := products_eq h
  have hfit := sum_fits h
  have hdigits := h
  simp only [requiredDigits, rateDigits] at hdigits
  rw [DecimalContext.mul_eq (product_fits _ _ (by omega)),
    DecimalContext.mul_eq (product_fits _ _ (by omega)), hi, ho, DecimalContext.add_eq hfit]
  refine DecimalContext.div_pow_eq ?_
  rw [Decimal.add, Decimal.fix_of_digits_le hfit]
  exact hfit

/-- What the calculation returns, in every ambient context: the cost of the half-even contexts, for the
counts that have a text. -/
theorem calculateCostIn_eq_ok {cost : Decimal} :
    calculateCostIn ambient maxStrDigits inputs outputs model = .ok cost ↔
      (HasText maxStrDigits inputs ∧ HasText maxStrDigits outputs) ∧
        cost = (calculateCost inputs outputs model).dec := by
  simp only [calculateCostIn, Except.bind_eq_ok, strLength_eq_ok, Except.pure_eq_ok]
  constructor
  · rintro ⟨_, ⟨hi, rfl⟩, _, ⟨ho, rfl⟩, rfl⟩
    exact ⟨⟨hi, ho⟩, context_cost_eq (le_max_right 28 _)⟩
  · rintro ⟨⟨hi, ho⟩, rfl⟩
    exact ⟨_, ⟨hi, rfl⟩, _, ⟨ho, rfl⟩, context_cost_eq (le_max_right 28 _)⟩

/-- A returned cost is exact. -/
theorem toRat_of_calculateCostIn {cost : Decimal}
    (h : calculateCostIn ambient maxStrDigits inputs outputs model = .ok cost) :
    cost.toRat = (inputs * model.inputCostPer1mTokens.toRat +
      outputs * model.outputCostPer1mTokens.toRat) / 10 ^ 6 := by
  obtain ⟨-, rfl⟩ := calculateCostIn_eq_ok.mp h
  exact toRat_calculateCost inputs outputs model

end RouteLLM
