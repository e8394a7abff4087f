import Mathlib.Data.List.MinMax
import Mathlib.Data.List.Perm.Basic
import Mathlib.Data.List.Sort
import RouteLLM.Lib.AssocList

/-!
# Sorting by a key without ties

A list whose elements have distinct keys has one sorted order. Sorting it is repeated selection: the
element of the least key comes first, and what is left is sorted after it.
-/

namespace KeySort

variable {α β : Type*} [LinearOrder β] {f : α → β} {xs ys : List α} {a : α}

/-- `sorted(xs, key=f)`. -/
def sortBy (f : α → β) (xs : List α) : List α := xs.insertionSort fun a b => f a ≤ f b

theorem sortBy_perm (f : α → β) (xs : List α) : (sortBy f xs).Perm xs := List.perm_insertionSort _ xs

theorem mem_sortBy : a ∈ sortBy f xs ↔ a ∈ xs := (sortBy_perm f xs).mem_iff

/-- A sorted list has its keys in order. -/
theorem sortBy_pairwise (f : α → β) (xs : List α) : (sortBy f xs).Pairwise (f · ≤ f ·) := by
  have : Std.Total (f · ≤ f ·) := ⟨fun a b => le_total (f a) (f b)⟩
  have : IsTrans α (f · ≤ f ·) := ⟨fun _ _ _ => le_trans⟩
  exact List.pairwise_insertionSort _ xs

/-- A list with its keys in order and without ties is the sorted list of its elements. -/
theorem eq_sortBy (hnodup : (xs.map f).Nodup) (hperm : ys.Perm xs) (hsorted : ys.Pairwise (f · ≤ f ·)) :
    ys = sortBy f xs := by
  refine List.Perm.eq_of_pairwise (fun b c hb hc hbc hcb => ?_) hsorted (sortBy_pairwise f xs)
    (hperm.trans (sortBy_perm f xs).symm)
  exact List.inj_on_of_nodup_map hnodup (hperm.mem_iff.mp hb) (mem_sortBy.mp hc)
    (le_antisymm hbc hcb)

/-- Without ties the order of the input does not matter. -/
theorem sortBy_congr (hnodup : (xs.map f).Nodup) (hperm : ys.Perm xs) : sortBy f ys = sortBy f xs :=
  eq_sortBy hnodup ((sortBy_perm f ys).trans hperm) (sortBy_pairwise f ys)

/-- Sorting selects the least element and sorts what is left. -/
theorem sortBy_eq_cons (hnodup : (xs.map f).Nodup) (hmin : xs.argmin f = some a)
    (hperm : xs.Perm (a :: ys)) : sortBy f xs = a :: sortBy f ys := by
  refine (eq_sortBy hnodup (((sortBy_perm f ys).cons a).trans hperm.symm) ?_).symm
  refine List.pairwise_cons.mpr ⟨fun b hb => ?_, sortBy_pairwise f ys⟩
  exact List.le_of_mem_argmin (hperm.mem_iff.mpr (.tail _ (mem_sortBy.mp hb))) hmin

/-- Sorting images sorts the preimages by the image's key. -/
theorem map_sortBy {γ : Type*} (g : γ → α) (zs : List γ) :
    (sortBy (fun z => f (g z)) zs).map g = sortBy f (zs.map g) :=
  List.map_insertionSort _ _ g zs fun _ _ _ _ => Iff.rfl

/-- An element of a distinct key, and the elements of the other keys. -/
theorem perm_cons_filter_ne {κ : Type*} [DecidableEq κ] {g : α → κ} (hnodup : (xs.map g).Nodup)
    (ha : a ∈ xs) : xs.Perm (a :: xs.filter (g · ≠ g a)) := by
  induction xs with
  | nil => cases ha
  | cons x xs ih =>
    rw [List.map_cons, List.nodup_cons] at hnodup
    rcases List.mem_cons.mp ha with rfl | hmem
    · have hothers : xs.filter (g · ≠ g a) = xs := by
        refine List.filter_eq_self.mpr fun b hb => ?_
        have hne : g b ≠ g a := fun heq => hnodup.1 (heq ▸ List.mem_map_of_mem hb)
        simpa using hne
      rw [List.filter_cons_of_neg (by simp), hothers]
    · have hne : g x ≠ g a := fun heq => hnodup.1 (heq ▸ List.mem_map_of_mem hmem)
      rw [List.filter_cons_of_pos (by simpa using hne)]
      exact ((ih hnodup.2 hmem).cons x).trans (List.Perm.swap a x _)

end KeySort
