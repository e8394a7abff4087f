import RouteLLM.Lib.PyFloat

/-!
# The text of a float

`repr` writes the fewest significant digits that read back as the float, and of those the closest to
it. `PyFloat.reread` is the decimal number of that text, which may be an infinity; what is written
after the last digit is a matter of notation.
-/

namespace Binary64

/-- The decimal of `k` significant digits that is written for a positive value: one of the two around
it that reads back as the value, and of both the closest. -/
def shortestAt (x : ℚ) (k : ℕ) : Option Decimal :=
  let e := Int.log 10 x + 1 - k
  let below := ⌊x / 10 ^ e⌋
  if round (below * 10 ^ e) = x then
    some ⟨if round ((below + 1) * 10 ^ e) = x then roundHalfEven (x / 10 ^ e) else below, e⟩
  else if round ((below + 1) * 10 ^ e) = x then some ⟨below + 1, e⟩
  else none

/-- The number that `repr` writes. Seventeen digits always read back. -/
def shortest (x : Binary64) : Decimal :=
  if x.val = 0 then ⟨0, -1⟩
  else
    let d := ((List.range 16).findSome? fun k => shortestAt |x.val| (k + 1)).getD
      ⟨roundHalfEven (|x.val| / 10 ^ (Int.log 10 |x.val| - 16)), Int.log 10 |x.val| - 16⟩
    ⟨if x.val < 0 then -d.coeff else d.coeff, d.exp⟩

/-- What is written for a positive value is not negative. -/
theorem shortestAt_nonneg {x : ℚ} (hx : 0 ≤ x) {k : ℕ} {d : Decimal} (h : shortestAt x k = some d) :
    0 ≤ d.coeff := by
  have hquot : 0 ≤ x / 10 ^ (Int.log 10 x + 1 - k) := by positivity
  have hbelow : 0 ≤ ⌊x / 10 ^ (Int.log 10 x + 1 - k)⌋ := Int.floor_nonneg.mpr hquot
  unfold shortestAt at h
  dsimp only at h
  split at h
  · cases h
    dsimp only
    split
    · exact roundHalfEven_nonneg hquot
    · exact hbelow
  · split at h
    · cases h
      exact hbelow.trans (Int.le_add_one le_rfl)
    · cases h

/-- A number that is not negative is written without a sign. -/
theorem shortest_nonneg {x : Binary64} (h : 0 ≤ x.val) : 0 ≤ x.shortest.coeff := by
  rw [shortest]
  split
  · exact le_rfl
  dsimp only
  rw [if_neg (not_lt.mpr h)]
  cases hfound : (List.range 16).findSome? fun k => shortestAt |x.val| (k + 1) with
  | none => exact roundHalfEven_nonneg (by positivity)
  | some d =>
    obtain ⟨k, -, hk⟩ := List.exists_of_findSome?_eq_some hfound
    exact shortestAt_nonneg (abs_nonneg _) hk

end Binary64

/-- A decimal number or the positive infinity. -/
inductive ExtDecimal
  | finite (d : Decimal)
  | infinity
  deriving DecidableEq

namespace ExtDecimal

/-- The order of the numbers. -/
def value : ExtDecimal → WithTop ℚ
  | finite d => d.toRat
  | infinity => ⊤

/-- Multiplication in a context: an infinity times zero is an invalid operation. -/
def mul? (prec : ℕ) : ExtDecimal → ExtDecimal → Option ExtDecimal
  | finite a, finite b => some (finite (Decimal.mul prec a b))
  | finite a, infinity => if a.coeff = 0 then none else some infinity
  | infinity, finite b => if b.coeff = 0 then none else some infinity
  | infinity, infinity => some infinity

/-- Addition in a context. -/
def add (prec : ℕ) : ExtDecimal → ExtDecimal → ExtDecimal
  | finite a, finite b => finite (Decimal.add prec a b)
  | _, _ => infinity

/-- Division in a context by a positive number. -/
def div (prec : ℕ) : ExtDecimal → Decimal → ExtDecimal
  | finite a, b => finite (Decimal.div prec a b)
  | infinity, _ => infinity

variable {prec : ℕ} {a b : ExtDecimal} {d e : Decimal}

/-- A finite product has finite factors. -/
theorem finite_of_mul? (h : mul? prec a b = some (finite d)) :
    (∃ x, a = finite x) ∧ ∃ y, b = finite y := by
  cases a with
  | finite x =>
    cases b with
    | finite y => exact ⟨⟨x, rfl⟩, y, rfl⟩
    | infinity =>
      rw [mul?] at h
      split at h <;> cases h
  | infinity =>
    cases b with
    | finite y =>
      rw [mul?] at h
      split at h <;> cases h
    | infinity => cases h

/-- A finite quotient of a sum has finite summands. -/
theorem finite_of_div_add (h : div prec (add prec a b) e = finite d) :
    (∃ x, a = finite x) ∧ ∃ y, b = finite y := by
  cases a with
  | finite x =>
    cases b with
    | finite y => exact ⟨⟨x, rfl⟩, y, rfl⟩
    | infinity => cases h
  | infinity => cases h

end ExtDecimal

/-- `Decimal(str(x))` of a float that is neither NaN nor the negative infinity. -/
def PyFloat.reread : PyFloat → ExtDecimal
  | finite x => .finite x.shortest
  | _ => .infinity

/-- A decimal that is reread as a finite number has a finite float. -/
theorem PyFloat.isSome_of_reread {d e : Decimal} (h : (PyFloat.ofDecimal d).reread = .finite e) :
    (Binary64.ofRat? d.toRat).isSome := by
  cases hx : Binary64.ofRat? d.toRat with
  | some x => rfl
  | none =>
    rw [PyFloat.ofDecimal, hx] at h
    dsimp only at h
    split at h <;> cases h
