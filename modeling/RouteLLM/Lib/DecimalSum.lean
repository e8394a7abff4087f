import Mathlib.Algebra.BigOperators.Group.List.Basic
import RouteLLM.Lib.Decimal

/-!
# Sums of decimals

Python's `sum` of decimals from `Decimal(0)` rounds each partial sum to the precision of the context. The
result is the exact sum and the errors of the roundings, so that it is exact where they cancel, and they do
where the precision represents every partial sum.
-/

namespace Decimal

variable {prec : ℕ}

/-- `sum(terms, start)` in a context. -/
def sumFrom (prec : ℕ) (start : Decimal) (terms : List Decimal) : Decimal :=
  terms.foldl (add prec) start

/-- `sum(terms, Decimal(0))` in a context. -/
def sum (prec : ℕ) (terms : List Decimal) : Decimal := sumFrom prec (ofInt 0) terms

/-- The errors of the roundings of a sum. -/
def sumErrors (prec : ℕ) : Decimal → List Decimal → ℚ
  | _, [] => 0
  | start, d :: terms =>
    ((add prec start d).toRat - (start.toRat + d.toRat)) + sumErrors prec (add prec start d) terms

@[simp] theorem sumFrom_nil (start : Decimal) : sumFrom prec start [] = start := rfl

@[simp] theorem sumFrom_cons (start d : Decimal) (terms : List Decimal) :
    sumFrom prec start (d :: terms) = sumFrom prec (add prec start d) terms := rfl

/-- A sum is the exact sum and the errors. -/
theorem toRat_sumFrom (start : Decimal) (terms : List Decimal) :
    (sumFrom prec start terms).toRat =
      start.toRat + (terms.map toRat).sum + sumErrors prec start terms := by
  induction terms generalizing start with
  | nil =>
    rw [sumFrom_nil, sumErrors, List.map_nil, List.sum_nil]
    ring
  | cons d terms ih =>
    rw [sumFrom_cons, ih, sumErrors, List.map_cons, List.sum_cons]
    ring

/-- **A sum is exact** where the errors cancel. -/
theorem toRat_sum_eq_iff {terms : List Decimal} :
    (sum prec terms).toRat = (terms.map toRat).sum ↔ sumErrors prec (ofInt 0) terms = 0 := by
  rw [sum, toRat_sumFrom, toRat_ofInt, Int.cast_zero, zero_add, add_eq_left]

/-- Nothing is rounded where the precision represents every partial sum. -/
theorem sumErrors_eq_zero {terms : List Decimal} {start : Decimal}
    (h : ∀ front rest, terms = front ++ rest →
      Representable prec (start.toRat + (front.map toRat).sum)) :
    sumErrors prec start terms = 0 := by
  induction terms generalizing start with
  | nil => rfl
  | cons d terms ih =>
    have hfirst : Representable prec (start.toRat + d.toRat) := by
      have hone := h [d] terms rfl
      rwa [List.map_singleton, List.sum_singleton] at hone
    have hexact := toRat_add_of_representable hfirst
    rw [sumErrors, hexact, sub_self, zero_add]
    refine ih fun front rest heq => ?_
    have hnext := h (d :: front) rest (by rw [heq, List.cons_append])
    rwa [List.map_cons, List.sum_cons, ← add_assoc, ← hexact] at hnext

theorem sum_nonneg {terms : List Decimal} (h : ∀ d ∈ terms, 0 ≤ d.coeff) :
    0 ≤ (sum prec terms).coeff := by
  have hfrom : ∀ start : Decimal, 0 ≤ start.coeff → 0 ≤ (sumFrom prec start terms).coeff := by
    induction terms with
    | nil =>
      intro start hstart
      exact hstart
    | cons d terms ih =>
      intro start hstart
      rw [sumFrom_cons]
      refine ih (fun e he => h e (List.mem_cons_of_mem d he)) _ ?_
      exact add_nonneg hstart (h d List.mem_cons_self)
  exact hfrom _ le_rfl

end Decimal
