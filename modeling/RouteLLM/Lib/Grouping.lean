import Mathlib.Algebra.BigOperators.Group.List.Basic
import Mathlib.Data.List.Dedup
import Mathlib.Data.List.Perm.Basic

/-!
# Groups of a list

A list that is filtered by classes is split by them where every element is of exactly one class. Then what is
counted in the groups adds up to what is counted in the list.
-/

namespace Grouping

variable {α β κ ι : Type*} {xs : List α}

/-- The groups of classes that exclude each other and cover the list make the list. -/
theorem flatMap_filter_perm {classes : List κ} {p : κ → α → Bool}
    (hdisjoint : classes.Pairwise fun k k' => ∀ x ∈ xs, p k x = true → p k' x = false)
    (hcover : ∀ x ∈ xs, ∃ k ∈ classes, p k x = true) :
    (classes.flatMap fun k => xs.filter (p k)).Perm xs := by
  induction classes generalizing xs with
  | nil =>
    have hnil : xs = [] := by
      refine List.eq_nil_iff_forall_not_mem.mpr fun x hx => ?_
      obtain ⟨k, hk, _⟩ := hcover x hx
      cases hk
    rw [hnil]
    exact List.Perm.refl _
  | cons k classes ih =>
    obtain ⟨hk, hrest⟩ := List.pairwise_cons.mp hdisjoint
    have hlater : ∀ k' ∈ classes, xs.filter (p k') = (xs.filter fun x => !p k x).filter (p k') := by
      intro k' hk'
      rw [List.filter_filter]
      refine List.filter_congr fun x hx => ?_
      cases hp : p k x with
      | false => rw [Bool.not_false, Bool.and_true]
      | true => rw [hk k' hk' x hx hp, Bool.false_and]
    have hothers : (classes.flatMap fun k' => xs.filter (p k')).Perm (xs.filter fun x => !p k x) := by
      have hsame : (classes.flatMap fun k' => xs.filter (p k')) =
          classes.flatMap fun k' => (xs.filter fun x => !p k x).filter (p k') :=
        List.flatMap_congr hlater
      rw [hsame]
      refine ih (hrest.imp fun {k k'} h x hx => h x (List.mem_of_mem_filter hx)) fun x hx => ?_
      obtain ⟨hx, hnot⟩ := List.mem_filter.mp hx
      obtain ⟨k', hk', hp⟩ := hcover x hx
      rcases List.mem_cons.mp hk' with rfl | hk'
      · rw [hp] at hnot
        cases hnot
      · exact ⟨k', hk', hp⟩
    rw [List.flatMap_cons]
    exact (hothers.append_left _).trans (List.filter_append_perm _ xs)

/-- The groups of the keys of a list make the list. -/
theorem flatMap_filter_key_perm [DecidableEq κ] {keys : List κ} {f : α → κ} (hkeys : keys.Nodup)
    (hcover : ∀ x ∈ xs, f x ∈ keys) : (keys.flatMap fun k => xs.filter (f · = k)).Perm xs := by
  refine flatMap_filter_perm (hkeys.imp fun {k k'} hne x _ hk => ?_) fun x hx => ⟨f x, hcover x hx, by simp⟩
  have hx : f x = k := of_decide_eq_true hk
  exact decide_eq_false fun hk' => hne (hx.symm.trans hk')

/-- Groups of groups can be taken in either order. -/
theorem flatMap_comm (ks : List κ) (is : List ι) (f : κ → ι → List β) :
    (ks.flatMap fun k => is.flatMap fun i => f k i).Perm (is.flatMap fun i => ks.flatMap fun k => f k i) := by
  induction ks with
  | nil => simp
  | cons k ks ih =>
    have hcons : (is.flatMap fun i => (k :: ks).flatMap fun k => f k i) =
        is.flatMap fun i => f k i ++ ks.flatMap fun k => f k i := by
      simp only [List.flatMap_cons]
    rw [List.flatMap_cons, hcons]
    exact (ih.append_left _).trans (List.flatMap_append_perm is (fun i => f k i) fun i => ks.flatMap fun k => f k i)

/-- The sums over groups add up to the sum over the list. -/
theorem sum_map_flatMap {M : Type*} [AddCommMonoid M] (ks : List κ) (f : κ → List α) (g : α → M) :
    (ks.map fun k => ((f k).map g).sum).sum = ((ks.flatMap f).map g).sum := by
  induction ks with
  | nil => rfl
  | cons k ks ih => rw [List.map_cons, List.sum_cons, ih, List.flatMap_cons, List.map_append, List.sum_append]

/-- What is added up in the groups of the keys is added up in the list. -/
theorem sum_map_filter_key {M : Type*} [AddCommMonoid M] [DecidableEq κ] {keys : List κ} {f : α → κ}
    (hkeys : keys.Nodup) (hcover : ∀ x ∈ xs, f x ∈ keys) (g : α → M) :
    (keys.map fun k => ((xs.filter (f · = k)).map g).sum).sum = (xs.map g).sum := by
  rw [sum_map_flatMap]
  exact ((flatMap_filter_key_perm hkeys hcover).map g).sum_eq

/-- An element of a key that no two elements share is counted once. -/
theorem countP_key_eq_one [DecidableEq κ] {f : α → κ} {k : κ} (hnodup : (xs.map f).Nodup) (hk : k ∈ xs.map f) :
    xs.countP (f · = k) = 1 := by
  rw [← List.count_eq_one_of_mem hnodup hk, List.count_eq_countP, List.countP_map]
  refine List.countP_congr fun x _ => ?_
  simp

end Grouping
