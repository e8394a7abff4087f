import Mathlib.Algebra.BigOperators.Fin
import Mathlib.Algebra.Order.BigOperators.Group.Finset
import Mathlib.Data.Fintype.Card
import Mathlib.Data.List.Count

/-!
# Filling bins evenly

Items are put one after another into bins, each into a bin that has the least number of them. Then the numbers in
any two bins differ by at most one at any time, and bins that could all be full hold the same number.
-/

namespace EvenFill

variable {ι : Type} [DecidableEq ι] {placed : List ι}

/-- The numbers in two bins differ by at most one. -/
def Even (placed : List ι) : Prop := ∀ i j, placed.count i ≤ placed.count j + 1

/-- Every item was put into a bin with the least number. -/
def Greedy (placed : List ι) : Prop :=
  ∀ front i rest, placed = front ++ i :: rest → ∀ j, front.count i ≤ front.count j

theorem Greedy.nil : Greedy ([] : List ι) := by
  intro front i rest h
  exact absurd h.symm (by simp)

/-- An item goes into a bin with the least number. -/
theorem Greedy.concat (h : Greedy placed) {i : ι} (hmin : ∀ j, placed.count i ≤ placed.count j) :
    Greedy (placed ++ [i]) := by
  intro front k rest heq
  rcases List.eq_nil_or_concat' rest with rfl | ⟨rest, last, rfl⟩
  · obtain ⟨rfl, hk⟩ := List.append_inj' heq rfl
    cases hk
    exact hmin
  · rw [← List.cons_append, ← List.append_assoc] at heq
    obtain ⟨hplaced, _⟩ := List.append_inj' heq rfl
    exact h front k rest hplaced

theorem Greedy.front {rest : List ι} (h : Greedy (placed ++ rest)) : Greedy placed := by
  intro front i rest' heq
  refine h front i (rest' ++ rest) ?_
  rw [heq, List.append_assoc, List.cons_append]

/-- The bins are even at any time. -/
theorem Greedy.even (h : Greedy placed) : Even placed := by
  induction placed using List.reverseRecOn with
  | nil =>
    intro i j
    exact Nat.zero_le _
  | append_singleton placed k ih =>
    have hfront := ih h.front
    have hmin := h placed k [] rfl
    intro i j
    have hi := hfront i j
    have hk := hmin j
    rw [List.count_append, List.count_append, List.count_singleton, List.count_singleton]
    by_cases hik : k = i
    · subst hik
      split <;> split <;> omega
    · have hbeq : (k == i) = false := by simpa using hik
      rw [hbeq, if_neg Bool.false_ne_true]
      omega

variable [Fintype ι]

theorem sum_count (placed : List ι) : ∑ i, placed.count i = placed.length := by
  induction placed with
  | nil => simp
  | cons k placed ih =>
    have hone : ∑ i, (if (k == i) = true then 1 else 0) = 1 := by
      simp
    simp only [List.count_cons, List.length_cons]
    rw [Finset.sum_add_distrib, ih, hone]

/-- Even bins that hold `m` items for each bin hold `m` each. -/
theorem Even.count_eq (h : Even placed) {m : ℕ} (hlength : placed.length = Fintype.card ι * m) (i : ι) :
    placed.count i = m := by
  have hsum := sum_count placed
  rw [hlength] at hsum
  have hconst : ∑ _j : ι, m = Fintype.card ι * m := by
    rw [Finset.sum_const, Finset.card_univ, smul_eq_mul]
  rw [← hconst] at hsum
  by_contra hne
  rcases Nat.lt_or_gt_of_ne hne with hlt | hgt
  · have hall : ∀ j ∈ Finset.univ, placed.count j ≤ m := fun j _ => by
      have := h j i
      omega
    exact absurd hsum (Finset.sum_lt_sum hall ⟨i, Finset.mem_univ i, hlt⟩).ne
  · have hall : ∀ j ∈ Finset.univ, m ≤ placed.count j := fun j _ => by
      have := h i j
      omega
    exact absurd hsum (Finset.sum_lt_sum hall ⟨i, Finset.mem_univ i, hgt⟩).ne'

/-- Where fewer items than `m` for each bin were placed, a bin holds fewer than `m`. -/
theorem exists_count_lt {m : ℕ} (h : placed.length < Fintype.card ι * m) : ∃ i, placed.count i < m := by
  by_contra hall
  have hge : ∀ i ∈ Finset.univ, m ≤ placed.count i := fun i _ => not_lt.mp fun hlt => hall ⟨i, hlt⟩
  have hsum := Finset.sum_le_sum hge
  rw [sum_count, Finset.sum_const, Finset.card_univ, smul_eq_mul] at hsum
  omega

end EvenFill
