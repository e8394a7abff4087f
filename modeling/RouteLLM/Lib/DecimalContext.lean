import Mathlib.Data.Rat.Floor
import RouteLLM.Lib.Decimal

/-!
# Decimal contexts

A context is a precision with one of the eight rounding modes. An operation that does not round is
the same in every mode: that of the contexts that round half to even, which `Decimal.fix` and the
operations over it are.
-/

/-- The rounding modes of the decimal arithmetic specification. -/
inductive RoundingMode
  | ceiling | down | floor | halfDown | halfEven | halfUp | up | zeroFiveUp
  deriving DecidableEq

namespace RoundingMode

/-- Rounding towards zero. -/
def truncate (q : ℚ) : ℤ := if 0 ≤ q then ⌊q⌋ else ⌈q⌉

/-- Rounding away from zero. -/
def enlarge (q : ℚ) : ℤ := if 0 ≤ q then ⌈q⌉ else ⌊q⌋

/-- The integer that a mode rounds to. `zeroFiveUp` rounds away from zero where truncation leaves a
last digit 0 or 5. -/
def round : RoundingMode → ℚ → ℤ
  | ceiling, q => ⌈q⌉
  | down, q => truncate q
  | floor, q => ⌊q⌋
  | halfDown, q => if 0 ≤ q then ⌈q - 1 / 2⌉ else ⌊q + 1 / 2⌋
  | halfEven, q => roundHalfEven q
  | halfUp, q => if 0 ≤ q then ⌊q + 1 / 2⌋ else ⌈q - 1 / 2⌉
  | up, q => enlarge q
  | zeroFiveUp, q => if truncate q % 5 = 0 then enlarge q else truncate q

end RoundingMode

/-- A precision and a rounding mode. -/
structure DecimalContext where
  prec : ℕ
  rounding : RoundingMode

namespace DecimalContext

variable (context : DecimalContext)

/-- Round the coefficient to the precision. -/
def fix (d : Decimal) : Decimal :=
  if Decimal.digits d.coeff.natAbs ≤ context.prec then d
  else
    let k := Decimal.digits d.coeff.natAbs - context.prec
    let c := context.rounding.round ((d.coeff : ℚ) / 10 ^ k)
    if Decimal.digits c.natAbs ≤ context.prec then ⟨c, d.exp + k⟩ else ⟨c / 10, d.exp + k + 1⟩

def add (a b : Decimal) : Decimal := context.fix (Decimal.addExact a b)

def mul (a b : Decimal) : Decimal := context.fix (Decimal.mulExact a b)

/-- Division. The quotient of a zero is not rounded. -/
def div (a b : Decimal) : Decimal :=
  if a.coeff = 0 then ⟨0, a.exp - b.exp⟩ else context.fix (Decimal.quotient context.prec a b)

variable {context} {a b d : Decimal}

/-- A coefficient that fits is not rounded, in any mode. -/
theorem fix_of_digits_le (h : Decimal.digits d.coeff.natAbs ≤ context.prec) : context.fix d = d :=
  if_pos h

/-- Where a coefficient fits, every mode is that of the half-even contexts. -/
theorem fix_eq (h : Decimal.digits d.coeff.natAbs ≤ context.prec) :
    context.fix d = Decimal.fix context.prec d := by
  rw [fix_of_digits_le h, Decimal.fix_of_digits_le h]

theorem add_eq (h : Decimal.digits (Decimal.addExact a b).coeff.natAbs ≤ context.prec) :
    context.add a b = Decimal.add context.prec a b := fix_eq h

theorem mul_eq (h : Decimal.digits (Decimal.mulExact a b).coeff.natAbs ≤ context.prec) :
    context.mul a b = Decimal.mul context.prec a b := fix_eq h

/-- A quotient by a power of ten is the same in every mode when the dividend fits the precision. -/
theorem div_pow_eq {k : ℕ} (h : Decimal.digits a.coeff.natAbs ≤ context.prec) :
    context.div a ⟨10 ^ k, 0⟩ = Decimal.div context.prec a ⟨10 ^ k, 0⟩ := by
  by_cases h0 : a.coeff = 0
  · rw [div, Decimal.div, if_pos h0, if_pos h0]
  · rw [div, if_neg h0, Decimal.div_eq_fix h0]
    exact fix_eq (Decimal.quotient_pow h0 h).1

end DecimalContext
