import Mathlib.Data.Set.Finite.List
import Mathlib.Order.WellFoundedSet

/-!
# The unbeaten members of a finite list

For a strict order, each member of a finite list is unbeaten or is beaten by an unbeaten one: the order is
well-founded on the list, so that a member that beats another can be followed to one that none beats.
-/

namespace Pareto

variable {α : Type*} (beats : α → α → Prop)

/-- No member beats this one. -/
def Unbeaten (xs : List α) (x : α) : Prop := ∀ y ∈ xs, ¬ beats y x

variable [IsStrictOrder α beats]

/-- **Completeness**: a member is unbeaten, or an unbeaten member beats it. -/
theorem exists_unbeaten (xs : List α) {x : α} (hx : x ∈ xs) :
    ∃ y ∈ xs, Unbeaten beats xs y ∧ (y = x ∨ beats y x) := by
  have hfinite : ({y | y ∈ xs} : Set α).Finite := List.finite_toSet xs
  have hfounded : ({y | y ∈ xs} : Set α).WellFoundedOn beats := hfinite.wellFoundedOn
  refine Set.WellFoundedOn.induction (P := fun z => ∃ y ∈ xs, Unbeaten beats xs y ∧
    (y = z ∨ beats y z)) hfounded hx ?_
  intro z hz ih
  by_cases hbest : Unbeaten beats xs z
  · exact ⟨z, hz, hbest, .inl rfl⟩
  · obtain ⟨w, hw, hwz⟩ : ∃ w ∈ xs, beats w z := by
      simpa only [Unbeaten, not_forall, not_not, exists_prop] using hbest
    obtain ⟨y, hy, hunbeaten, hyw⟩ := ih w hw hwz
    refine ⟨y, hy, hunbeaten, .inr ?_⟩
    rcases hyw with rfl | hyw
    · exact hwz
    · exact IsTrans.trans _ _ _ hyw hwz

end Pareto
