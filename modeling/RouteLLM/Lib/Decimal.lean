import Mathlib.Algebra.Order.Field.Power
import Mathlib.Data.Nat.Log
import Mathlib.Tactic.FieldSimp
import Mathlib.Tactic.Positivity
import RouteLLM.Lib.Rounding

/-!
# Decimal numbers under a context precision

A finite decimal number is a coefficient scaled by a power of ten (`Decimal.toRat`), and an
operation of a context with `prec` digits is the exact operation followed by `Decimal.fix`, which
rounds a coefficient of more than `prec` digits half to even. Division is the digit-shifting
algorithm of the decimal arithmetic specification. The exponent range of the context is unbounded,
and signed zeros are identified.

The results are the conditions under which an operation does not round: `fix` is the identity on a
coefficient of at most `prec` digits, and a quotient by a power of ten is exact when the dividend has
at most `prec` digits.
-/

/-- `coeff * 10 ^ exp`. -/
structure Decimal where
  coeff : ℤ
  exp : ℤ
  deriving DecidableEq, Repr

namespace Decimal

/-- The exact value. -/
def toRat (d : Decimal) : ℚ := d.coeff * 10 ^ d.exp

/-- The integer `n`. -/
def ofInt (n : ℤ) : Decimal := ⟨n, 0⟩

@[simp] theorem toRat_ofInt (n : ℤ) : (ofInt n).toRat = n := by simp [ofInt, toRat]

@[simp] theorem toRat_zero (e : ℤ) : (⟨0, e⟩ : Decimal).toRat = 0 := by simp [toRat]

/-! ## Digits -/

/-- The number of decimal digits of a coefficient; zero has one. -/
def digits (n : ℕ) : ℕ := Nat.log 10 n + 1

theorem digits_pos (n : ℕ) : 0 < digits n := Nat.succ_pos _

/-- A number has at most `k` digits exactly if it is below `10 ^ k`. -/
theorem digits_le_iff {n k : ℕ} (hk : 0 < k) : digits n ≤ k ↔ n < 10 ^ k := by
  by_cases h : n = 0
  · subst h
    simp only [digits, Nat.log_zero_right]
    exact ⟨fun _ => by positivity, fun _ => hk⟩
  · rw [digits, Nat.succ_le_iff, Nat.log_lt_iff_lt_pow (by norm_num) h]

/-- A product has at most as many digits as its factors together. -/
theorem digits_mul_le (m n : ℕ) : digits (m * n) ≤ digits m + digits n := by
  rw [digits_le_iff (Nat.add_pos_left (digits_pos m) _), pow_add]
  exact Nat.mul_lt_mul'' ((digits_le_iff (digits_pos m)).mp le_rfl)
    ((digits_le_iff (digits_pos n)).mp le_rfl)

/-- A number is below the power of ten with as many zeros as it has digits. -/
theorem lt_pow_digits (n : ℕ) : n < 10 ^ digits n :=
  (digits_le_iff (digits_pos n)).mp le_rfl

/-! ## Rounding to the precision of a context -/

/-- Round the coefficient to `prec` digits. A rounding that carries to a coefficient of `prec + 1`
digits drops its last digit, a zero. -/
def fix (prec : ℕ) (d : Decimal) : Decimal :=
  if digits d.coeff.natAbs ≤ prec then d
  else
    let k := digits d.coeff.natAbs - prec
    let c := roundHalfEven ((d.coeff : ℚ) / 10 ^ k)
    if digits c.natAbs ≤ prec then ⟨c, d.exp + k⟩ else ⟨c / 10, d.exp + k + 1⟩

/-- A coefficient that fits is not rounded. -/
theorem fix_of_digits_le {prec : ℕ} {d : Decimal} (h : digits d.coeff.natAbs ≤ prec) :
    fix prec d = d := if_pos h

/-- Rounding keeps a coefficient nonnegative. -/
theorem fix_nonneg {prec : ℕ} {d : Decimal} (h : 0 ≤ d.coeff) : 0 ≤ (fix prec d).coeff := by
  have hc : 0 ≤ roundHalfEven ((d.coeff : ℚ) / 10 ^ (digits d.coeff.natAbs - prec)) :=
    roundHalfEven_nonneg (div_nonneg (by exact_mod_cast h) (by positivity))
  unfold fix
  dsimp only
  split_ifs
  · exact h
  · exact hc
  · exact Int.ediv_nonneg hc (by norm_num)

/-- Rounding keeps a coefficient nonpositive. -/
theorem fix_nonpos {prec : ℕ} {d : Decimal} (h : d.coeff ≤ 0) : (fix prec d).coeff ≤ 0 := by
  have hc : roundHalfEven ((d.coeff : ℚ) / 10 ^ (digits d.coeff.natAbs - prec)) ≤ 0 := by
    refine roundHalfEven_le ?_
    rw [Int.cast_zero]
    exact div_nonpos_of_nonpos_of_nonneg (by exact_mod_cast h) (by positivity)
  unfold fix
  dsimp only
  split_ifs
  · exact h
  · exact hc
  · dsimp only
    omega

/-! ## Conversion and integrality -/

/-- The smallest exponent of the type. -/
def minExponent : ℤ := -1999999999999999997

/-- The largest exponent that the first digit of a number may have. -/
def maxAdjusted : ℤ := 999999999999999999

/-- The exact conversion of a literal, which fails beyond the exponent range of the type. -/
def ofLiteral? (coeff exp : ℤ) : Option Decimal :=
  if minExponent ≤ exp ∧ exp + digits coeff.natAbs - 1 ≤ maxAdjusted then some ⟨coeff, exp⟩
  else none

/-- `to_integral_value`, rounding half to even. -/
def toIntegralValue (d : Decimal) : Decimal :=
  if 0 ≤ d.exp then d else ofInt (roundHalfEven d.toRat)

/-- A number is its own integral value exactly when it is an integer. -/
theorem toRat_toIntegralValue_eq_iff {d : Decimal} :
    d.toRat = d.toIntegralValue.toRat ↔ ∃ n : ℤ, d.toRat = n := by
  unfold toIntegralValue
  split
  · rename_i hexp
    obtain ⟨k, hk⟩ := Int.eq_ofNat_of_zero_le hexp
    exact ⟨fun _ => ⟨d.coeff * 10 ^ k, by rw [toRat, hk]; push_cast; rw [zpow_natCast]⟩, fun _ => rfl⟩
  · rw [toRat_ofInt]
    constructor
    · exact fun h => ⟨_, h⟩
    · rintro ⟨n, hn⟩
      rw [hn, roundHalfEven_intCast]

/-! ## Text -/

/-- `str()` of a number: plain notation for an exponent of at most zero whose first digit is not far
behind the point, else scientific notation. -/
def str (d : Decimal) : List Char :=
  let int := Nat.toDigits 10 d.coeff.natAbs
  let leftDigits : ℤ := d.exp + int.length
  let dotPlace : ℤ := if d.exp ≤ 0 ∧ -6 < leftDigits then leftDigits else 1
  let digits :=
    if dotPlace ≤ 0 then '0' :: '.' :: List.replicate (-dotPlace).toNat '0' ++ int
    else if int.length ≤ dotPlace then int ++ List.replicate (dotPlace.toNat - int.length) '0'
    else int.take dotPlace.toNat ++ '.' :: int.drop dotPlace.toNat
  let exponent := leftDigits - dotPlace
  (if d.coeff < 0 then ['-'] else []) ++ digits ++
    if exponent = 0 then []
    else 'E' :: (if 0 < exponent then '+' else '-') :: Nat.toDigits 10 exponent.natAbs

/-! ## Sums and products -/

/-- The exact sum, at the smaller exponent. -/
def addExact (a b : Decimal) : Decimal :=
  let e := min a.exp b.exp
  ⟨a.coeff * 10 ^ (a.exp - e).toNat + b.coeff * 10 ^ (b.exp - e).toNat, e⟩

/-- Addition in a context. -/
def add (prec : ℕ) (a b : Decimal) : Decimal := fix prec (addExact a b)

/-- The exact product. -/
def mulExact (a b : Decimal) : Decimal := ⟨a.coeff * b.coeff, a.exp + b.exp⟩

/-- Multiplication in a context. -/
def mul (prec : ℕ) (a b : Decimal) : Decimal := fix prec (mulExact a b)

/-- Aligning a coefficient at a smaller exponent keeps the value. -/
theorem align_toRat (c : ℤ) {e e' : ℤ} (h : e' ≤ e) :
    ((c * 10 ^ (e - e').toNat : ℤ) : ℚ) * 10 ^ e' = c * 10 ^ e := by
  have hpow : (10 : ℚ) ^ e = 10 ^ (e - e').toNat * 10 ^ e' := by
    rw [← zpow_natCast, ← zpow_add₀ (by norm_num : (10 : ℚ) ≠ 0)]
    congr 1
    omega
  rw [hpow]
  push_cast
  ring

@[simp] theorem toRat_addExact (a b : Decimal) : (addExact a b).toRat = a.toRat + b.toRat := by
  have ha := align_toRat a.coeff (min_le_left a.exp b.exp)
  have hb := align_toRat b.coeff (min_le_right a.exp b.exp)
  simp only [addExact, toRat, Int.cast_add, add_mul, ha, hb]

@[simp] theorem toRat_mulExact (a b : Decimal) : (mulExact a b).toRat = a.toRat * b.toRat := by
  simp only [mulExact, toRat, zpow_add₀ (by norm_num : (10 : ℚ) ≠ 0)]
  push_cast
  ring

/-- A sum of nonnegative numbers is nonnegative. -/
theorem add_nonneg {prec : ℕ} {a b : Decimal} (ha : 0 ≤ a.coeff) (hb : 0 ≤ b.coeff) :
    0 ≤ (add prec a b).coeff :=
  fix_nonneg (by simp only [addExact]; positivity)

/-! ## Exact sums -/

/-- A value that a coefficient of at most `prec` digits represents. -/
def Representable (prec : ℕ) (q : ℚ) : Prop :=
  ∃ d : Decimal, digits d.coeff.natAbs ≤ prec ∧ d.toRat = q

/-- A nonzero number is at least the power of ten of its first digit. -/
theorem pow_le_of_ne_zero {n : ℕ} (hn : n ≠ 0) : 10 ^ (digits n - 1) ≤ n := by
  rw [digits, Nat.add_sub_cancel]
  exact Nat.pow_log_le_self 10 hn

/-- The coefficients of equal numbers agree up to the difference of the exponents. -/
theorem coeff_eq_of_toRat_eq {c d : Decimal} (h : c.toRat = d.toRat) :
    (d.coeff : ℚ) = c.coeff * 10 ^ (c.exp - d.exp) := by
  have hten : (10 : ℚ) ≠ 0 := by norm_num
  rw [toRat, toRat] at h
  rw [zpow_sub₀ hten, mul_div_assoc', h, mul_div_cancel_right₀ _ (zpow_ne_zero _ hten)]

/-- A longer coefficient of the same number has a smaller exponent. -/
theorem digits_le_of_toRat_eq {c d : Decimal} (h : c.toRat = d.toRat) (hd : d.coeff ≠ 0) :
    (digits d.coeff.natAbs : ℤ) ≤ digits c.coeff.natAbs + (c.exp - d.exp) := by
  have habs : (d.coeff.natAbs : ℚ) = c.coeff.natAbs * 10 ^ (c.exp - d.exp) := by
    have hcoeff := congrArg abs (coeff_eq_of_toRat_eq h)
    rw [abs_mul, abs_of_pos (zpow_pos (by norm_num : (0 : ℚ) < 10) _)] at hcoeff
    rwa [Nat.cast_natAbs, Nat.cast_natAbs, Int.cast_abs, Int.cast_abs]
  have hlow : (10 : ℚ) ^ ((digits d.coeff.natAbs : ℤ) - 1) ≤ d.coeff.natAbs := by
    have hcast : (digits d.coeff.natAbs : ℤ) - 1 = ((digits d.coeff.natAbs - 1 : ℕ) : ℤ) := by
      have hpos := digits_pos d.coeff.natAbs
      omega
    rw [hcast, zpow_natCast]
    exact_mod_cast pow_le_of_ne_zero (Int.natAbs_ne_zero.mpr hd)
  have hhigh : (c.coeff.natAbs : ℚ) < 10 ^ (digits c.coeff.natAbs : ℤ) := by
    rw [zpow_natCast]
    exact_mod_cast lt_pow_digits c.coeff.natAbs
  have hlt : (10 : ℚ) ^ ((digits d.coeff.natAbs : ℤ) - 1) <
      10 ^ ((digits c.coeff.natAbs : ℤ) + (c.exp - d.exp)) := by
    calc (10 : ℚ) ^ ((digits d.coeff.natAbs : ℤ) - 1)
        ≤ c.coeff.natAbs * 10 ^ (c.exp - d.exp) := habs ▸ hlow
      _ < 10 ^ (digits c.coeff.natAbs : ℤ) * 10 ^ (c.exp - d.exp) :=
        mul_lt_mul_of_pos_right hhigh (zpow_pos (by norm_num) _)
      _ = 10 ^ ((digits c.coeff.natAbs : ℤ) + (c.exp - d.exp)) := (zpow_add₀ (by norm_num) _ _).symm
  have hexp := (zpow_lt_zpow_iff_right₀ (by norm_num : (1 : ℚ) < 10)).mp hlt
  omega

/-- A coefficient whose value fewer digits represent ends in as many zeros as it has digits to
spare. -/
theorem coeff_eq_mul_pow_of_representable {prec : ℕ} {d : Decimal}
    (h : Representable prec d.toRat) (hlong : prec < digits d.coeff.natAbs) :
    ∃ q : ℤ, d.coeff = q * 10 ^ (digits d.coeff.natAbs - prec) ∧ digits q.natAbs ≤ prec := by
  obtain ⟨c, hc, hval⟩ := h
  have hprec : 0 < prec := (digits_pos _).trans_le hc
  have hd : d.coeff ≠ 0 := by
    intro h0
    have hzero : digits d.coeff.natAbs = 1 := by rw [h0]; rfl
    omega
  have hgap := digits_le_of_toRat_eq hval hd
  obtain ⟨m, hm⟩ : ∃ m : ℕ, c.exp - d.exp = (m + (digits d.coeff.natAbs - prec) : ℕ) :=
    ⟨(c.exp - d.exp - (digits d.coeff.natAbs - prec)).toNat, by omega⟩
  have hint : d.coeff = c.coeff * 10 ^ m * 10 ^ (digits d.coeff.natAbs - prec) := by
    have hcoeff := coeff_eq_of_toRat_eq hval
    rw [hm, zpow_natCast, pow_add, ← mul_assoc] at hcoeff
    exact_mod_cast hcoeff
  refine ⟨c.coeff * 10 ^ m, hint, ?_⟩
  have hnat : d.coeff.natAbs =
      (c.coeff * 10 ^ m).natAbs * 10 ^ (digits d.coeff.natAbs - prec) := by
    conv_lhs => rw [hint]
    rw [Int.natAbs_mul (c.coeff * 10 ^ m), Int.natAbs_pow]
    rfl
  have hsplit : 10 ^ digits d.coeff.natAbs =
      10 ^ prec * 10 ^ (digits d.coeff.natAbs - prec) := by
    rw [← pow_add]
    congr 1
    omega
  rw [digits_le_iff hprec]
  exact Nat.lt_of_mul_lt_mul_right
    (hnat.symm.trans_lt ((lt_pow_digits d.coeff.natAbs).trans_eq hsplit))

/-- Rounding is exact on a value that the precision represents. -/
theorem toRat_fix_of_representable {prec : ℕ} {d : Decimal} (h : Representable prec d.toRat) :
    (fix prec d).toRat = d.toRat := by
  by_cases hfit : digits d.coeff.natAbs ≤ prec
  · rw [fix_of_digits_le hfit]
  obtain ⟨q, hq, hdigits⟩ := coeff_eq_mul_pow_of_representable h (Nat.lt_of_not_le hfit)
  have hcoeff : (d.coeff : ℚ) = q * 10 ^ (digits d.coeff.natAbs - prec) := by exact_mod_cast hq
  have hround : roundHalfEven ((d.coeff : ℚ) / 10 ^ (digits d.coeff.natAbs - prec)) = q := by
    have hdiv : (d.coeff : ℚ) / 10 ^ (digits d.coeff.natAbs - prec) = q := by
      rw [div_eq_iff (by positivity)]
      exact hcoeff
    rw [hdiv, roundHalfEven_intCast]
  rw [fix, if_neg hfit]
  dsimp only
  rw [hround, if_pos hdigits, toRat, toRat, zpow_add₀ (by norm_num), zpow_natCast, hcoeff]
  ring

/-- A sum that the precision represents is exact. -/
theorem toRat_add_of_representable {prec : ℕ} {a b : Decimal}
    (h : Representable prec (a.toRat + b.toRat)) : (add prec a b).toRat = a.toRat + b.toRat := by
  rw [add, toRat_fix_of_representable (by rwa [toRat_addExact]), toRat_addExact]

/-! ## Division -/

/-- Drop at most `n` trailing zeros of a nonzero coefficient. -/
def stripZeros : ℕ → ℕ → ℤ → ℕ × ℤ
  | 0, c, e => (c, e)
  | n + 1, c, e => if c % 10 = 0 then stripZeros n (c / 10) (e + 1) else (c, e)

/-- How far division shifts the dividend: the integer quotient then has at least `prec + 1` digits. -/
def divShift (prec : ℕ) (a b : Decimal) : ℤ :=
  digits b.coeff.natAbs - digits a.coeff.natAbs + prec + 1

/-- Division in a context. A remainder makes a quotient that ends in 0 or 5 sticky; an exact quotient
is brought as close to the ideal exponent as its trailing zeros allow. -/
def div (prec : ℕ) (a b : Decimal) : Decimal :=
  if a.coeff = 0 then ⟨0, a.exp - b.exp⟩
  else
    let shift := divShift prec a b
    let e := a.exp - b.exp - shift
    let num := a.coeff.natAbs * 10 ^ shift.toNat
    let den := b.coeff.natAbs * 10 ^ (-shift).toNat
    let sign := a.coeff.sign * b.coeff.sign
    let q := num / den
    if num % den = 0 then
      let r := stripZeros shift.toNat q e
      fix prec ⟨sign * (r.1 : ℤ), r.2⟩
    else
      fix prec ⟨sign * ((if q % 5 = 0 then q + 1 else q : ℕ) : ℤ), e⟩

/-- A quotient of nonnegative numbers is nonnegative. -/
theorem div_nonneg {prec : ℕ} {a b : Decimal} (ha : 0 ≤ a.coeff) (hb : 0 ≤ b.coeff) :
    0 ≤ (div prec a b).coeff := by
  have hsign : 0 ≤ a.coeff.sign * b.coeff.sign :=
    mul_nonneg (Int.sign_nonneg_iff.mpr ha) (Int.sign_nonneg_iff.mpr hb)
  unfold div
  dsimp only
  split_ifs
  · exact le_rfl
  · exact fix_nonneg (mul_nonneg hsign (Int.natCast_nonneg _))
  · exact fix_nonneg (mul_nonneg hsign (Int.natCast_nonneg _))
  · exact fix_nonneg (mul_nonneg hsign (Int.natCast_nonneg _))

/-- Stripping keeps the value. -/
theorem stripZeros_toRat (n c : ℕ) (e : ℤ) :
    ((stripZeros n c e).1 : ℚ) * 10 ^ (stripZeros n c e).2 = c * 10 ^ e := by
  induction n generalizing c e with
  | zero => rfl
  | succ n ih =>
    rw [stripZeros]
    split_ifs with h
    · rw [ih, zpow_add₀ (by norm_num : (10 : ℚ) ≠ 0)]
      have hc : (c : ℚ) = (c / 10 : ℕ) * 10 := by
        exact_mod_cast (Nat.div_mul_cancel (Nat.dvd_of_mod_eq_zero h)).symm
      rw [hc]
      push_cast
      ring
    · rfl

/-- Stripping `n` or more zeros of a coefficient with `n` of them leaves at most the others. -/
theorem stripZeros_le (n m c : ℕ) (e : ℤ) : (stripZeros (m + n) (c * 10 ^ n) e).1 ≤ c := by
  induction n generalizing e with
  | zero =>
    rw [pow_zero, mul_one, add_zero]
    induction m generalizing c e with
    | zero => exact le_rfl
    | succ m ih =>
      rw [stripZeros]
      split_ifs
      · exact (ih _ _).trans (Nat.div_le_self _ _)
      · exact le_rfl
  | succ n ih =>
    have hmod : c * 10 ^ (n + 1) % 10 = 0 := by
      rw [pow_succ, ← mul_assoc]; exact Nat.mul_mod_left _ _
    have hdiv : c * 10 ^ (n + 1) / 10 = c * 10 ^ n := by
      rw [pow_succ, ← mul_assoc]; exact Nat.mul_div_cancel _ (by norm_num)
    rw [← add_assoc, stripZeros, if_pos hmod, hdiv]
    exact ih _

/-- The quotient before it is rounded to the precision. -/
def quotient (prec : ℕ) (a b : Decimal) : Decimal :=
  let shift := divShift prec a b
  let e := a.exp - b.exp - shift
  let num := a.coeff.natAbs * 10 ^ shift.toNat
  let den := b.coeff.natAbs * 10 ^ (-shift).toNat
  let sign := a.coeff.sign * b.coeff.sign
  let q := num / den
  if num % den = 0 then
    let r := stripZeros shift.toNat q e
    ⟨sign * (r.1 : ℤ), r.2⟩
  else ⟨sign * ((if q % 5 = 0 then q + 1 else q : ℕ) : ℤ), e⟩

/-- Division rounds the quotient. -/
theorem div_eq_fix {prec : ℕ} {a b : Decimal} (h : a.coeff ≠ 0) :
    div prec a b = fix prec (quotient prec a b) := by
  rw [div, if_neg h, quotient]
  dsimp only
  split_ifs <;> rfl

/-- The quotient where the shifted integer quotient is exact. -/
theorem quotient_of_dvd {prec s q : ℕ} {a b : Decimal} (hb : b.coeff ≠ 0)
    (hs : divShift prec a b = s) (hq : a.coeff.natAbs * 10 ^ s = q * b.coeff.natAbs) :
    quotient prec a b =
      ⟨a.coeff.sign * b.coeff.sign * ((stripZeros s q (a.exp - b.exp - s)).1 : ℤ),
        (stripZeros s q (a.exp - b.exp - s)).2⟩ := by
  have hneg : (-(s : ℤ)).toNat = 0 := by omega
  have hpos : 0 < b.coeff.natAbs := Int.natAbs_pos.mpr hb
  simp only [quotient, hs, Int.toNat_natCast, hneg, pow_zero, mul_one, hq,
    Nat.mul_mod_left, if_true, Nat.mul_div_cancel _ hpos]

/-- A quotient by a power of ten is exact when the dividend fits the precision: the shift exceeds the
number of zeros of the divisor, and stripping leaves at most the digits of the dividend. -/
theorem quotient_pow {prec k : ℕ} {a : Decimal} (h0 : a.coeff ≠ 0)
    (ha : digits a.coeff.natAbs ≤ prec) :
    digits (quotient prec a ⟨10 ^ k, 0⟩).coeff.natAbs ≤ prec ∧
      (quotient prec a ⟨10 ^ k, 0⟩).toRat = a.toRat / 10 ^ k := by
  have habs : ((10 : ℤ) ^ k).natAbs = 10 ^ k := by simp [Int.natAbs_pow]
  have hdig : k + 1 ≤ digits (10 ^ k) := by simp [digits, Nat.log_pow]
  obtain ⟨m, hm⟩ : ∃ m : ℕ, divShift prec a ⟨10 ^ k, 0⟩ = ((m + k : ℕ) : ℤ) :=
    ⟨digits (10 ^ k) - k + prec + 1 - digits a.coeff.natAbs, by
      simp only [divShift, habs]; omega⟩
  have hdvd : a.coeff.natAbs * 10 ^ (m + k) = a.coeff.natAbs * 10 ^ m * ((10 : ℤ) ^ k).natAbs := by
    rw [habs, pow_add, mul_assoc]
  have hsign : ((10 : ℤ) ^ k).sign = 1 := Int.sign_eq_one_of_pos (by positivity)
  rw [quotient_of_dvd (by positivity) hm hdvd, hsign, mul_one, sub_zero]
  have hval := stripZeros_toRat (m + k) (a.coeff.natAbs * 10 ^ m) (a.exp - (m + k : ℕ))
  have hle := stripZeros_le m k a.coeff.natAbs (a.exp - (m + k : ℕ))
  rw [add_comm k m] at hle
  generalize stripZeros (m + k) (a.coeff.natAbs * 10 ^ m) (a.exp - (m + k : ℕ)) = r at hval hle ⊢
  have hnat : (a.coeff.sign * (r.1 : ℤ)).natAbs = r.1 := by
    rw [Int.natAbs_mul, Int.natAbs_sign_of_ne_zero h0, one_mul, Int.natAbs_natCast]
  have hcoeff : (a.coeff : ℚ) = a.coeff.sign * (a.coeff.natAbs : ℤ) := by
    exact_mod_cast (Int.sign_mul_natAbs a.coeff).symm
  constructor
  · rw [hnat]
    exact (Nat.succ_le_succ (Nat.log_mono_right hle)).trans ha
  · calc (⟨a.coeff.sign * (r.1 : ℤ), r.2⟩ : Decimal).toRat
        = a.coeff.sign * ((r.1 : ℚ) * 10 ^ r.2) := by simp only [toRat]; push_cast; ring
      _ = a.coeff.sign * (a.coeff.natAbs : ℤ) * 10 ^ m * 10 ^ (a.exp - (m + k : ℕ)) := by
        rw [hval, Nat.cast_mul, Nat.cast_pow, Nat.cast_ofNat, Int.cast_natCast]; ring
      _ = a.toRat / 10 ^ k := by
        rw [← hcoeff, zpow_sub₀ (by norm_num : (10 : ℚ) ≠ 0), zpow_natCast, pow_add, toRat]
        field_simp

/-- Division by a power of ten does not round a dividend that fits the precision. -/
theorem toRat_div_pow {prec k : ℕ} {a : Decimal} (ha : digits a.coeff.natAbs ≤ prec) :
    (div prec a ⟨10 ^ k, 0⟩).toRat = a.toRat / 10 ^ k := by
  by_cases h0 : a.coeff = 0
  · simp [div, h0, toRat]
  · obtain ⟨hfits, hval⟩ := quotient_pow (k := k) h0 ha
    rw [div_eq_fix h0, fix_of_digits_le hfits, hval]

end Decimal
