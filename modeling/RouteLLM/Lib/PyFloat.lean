import RouteLLM.Lib.Binary64
import RouteLLM.Lib.Decimal

/-!
# Python floats

A Python `float` with its infinities and its NaN, and the conversions to it: that of an integer
raises beyond the finite range, that of a decimal overflows to an infinity.
-/

/-- A Python `float`. -/
inductive PyFloat
  | finite (x : Binary64)
  | posInf
  | negInf
  | nan
  deriving DecidableEq

namespace PyFloat

/-- `float()` of an integer, where it does not raise. -/
def ofInt? (n : ℤ) : Option PyFloat := (Binary64.ofRat? n).map finite

/-- `float()` of a finite decimal. -/
def ofDecimal (d : Decimal) : PyFloat :=
  match Binary64.ofRat? d.toRat with
  | some x => finite x
  | none => if 0 ≤ d.coeff then posInf else negInf

/-- `bool()` of a float. -/
def truthy : PyFloat → Bool
  | finite x => x ≠ 0
  | _ => true

/-- An integer is converted to the finite float that it rounds to. -/
theorem ofInt?_eq_some {n : ℤ} {x : PyFloat} :
    ofInt? n = some x ↔ ∃ b, Binary64.ofRat? n = some b ∧ x = finite b := by
  simp [ofInt?, eq_comm]

/-- A decimal is converted to a finite float exactly where the conversion does not overflow. -/
theorem ofDecimal_eq_finite {d : Decimal} {x : Binary64} :
    ofDecimal d = finite x ↔ Binary64.ofRat? d.toRat = some x := by
  unfold ofDecimal
  split
  · rename_i h; simp [h]
  · rename_i h
    split <;> simp [h]

/-- Counts are converted to nonnegative floats. -/
theorem exists_ofInt?_nonneg {n : ℕ} (h : (ofInt? n).isSome) :
    ∃ x : {x : Binary64 // 0 ≤ x}, ofInt? n = some (finite x) := by
  obtain ⟨p, hp⟩ := Option.isSome_iff_exists.mp h
  obtain ⟨x, hx, rfl⟩ := ofInt?_eq_some.mp hp
  refine ⟨⟨x, ?_⟩, hp⟩
  rw [Binary64.le_iff, Binary64.val_of_ofRat? hx]
  exact Binary64.round_nonneg (by exact_mod_cast n.zero_le)

/-- Positive counts are converted to positive floats. -/
theorem exists_ofInt?_pos {n : ℕ} (hn : 0 < n) (h : (ofInt? n).isSome) :
    ∃ x : {x : Binary64 // 0 < x}, ofInt? n = some (finite x) := by
  obtain ⟨p, hp⟩ := Option.isSome_iff_exists.mp h
  obtain ⟨x, hx, rfl⟩ := ofInt?_eq_some.mp hp
  refine ⟨⟨x, ?_⟩, hp⟩
  rw [Binary64.lt_iff, Binary64.val_of_ofRat? hx]
  exact zero_lt_one.trans_le
    (Binary64.le_round zero_le_one Binary64.round_one (by exact_mod_cast hn))

/-- Nonnegative decimals are converted to nonnegative floats. -/
theorem exists_ofDecimal_nonneg {d : Decimal} (hd : 0 ≤ d.toRat)
    (h : (Binary64.ofRat? d.toRat).isSome) :
    ∃ x : {x : Binary64 // 0 ≤ x}, ofDecimal d = finite x := by
  obtain ⟨x, hx⟩ := Option.isSome_iff_exists.mp h
  refine ⟨⟨x, ?_⟩, ofDecimal_eq_finite.mpr hx⟩
  rw [Binary64.le_iff, Binary64.val_of_ofRat? hx]
  exact Binary64.round_nonneg hd

end PyFloat
