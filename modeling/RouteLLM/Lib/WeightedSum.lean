import Mathlib.Algebra.Order.BigOperators.Group.List
import Mathlib.Algebra.BigOperators.Group.List.Lemmas
import Mathlib.Algebra.Order.Ring.Rat
import Mathlib.Data.List.Nodup
import Mathlib.Tactic.Linarith
import Mathlib.Tactic.Ring

/-!
# Sums of the weights of some members

The weight of the members of a list that have a property: at most the weight of all, and as much exactly
where every member has it. A member more adds its weight.
-/

namespace WeightedSum

variable {α β : Type*} {w v : α → ℚ} {p q : α → Prop} [DecidablePred p] [DecidablePred q]
  {xs ys : List α}

/-- The weight of the members with a property. -/
def weightWhere (w : α → ℚ) (p : α → Prop) [DecidablePred p] (xs : List α) : ℚ :=
  (xs.map fun x => if p x then w x else 0).sum

@[simp] theorem weightWhere_nil : weightWhere w p [] = 0 := rfl

@[simp] theorem weightWhere_cons (x : α) (xs : List α) :
    weightWhere w p (x :: xs) = (if p x then w x else 0) + weightWhere w p xs := by
  rw [weightWhere, List.map_cons, List.sum_cons, weightWhere]

theorem weightWhere_append : weightWhere w p (xs ++ ys) = weightWhere w p xs + weightWhere w p ys := by
  rw [weightWhere, List.map_append, List.sum_append, weightWhere, weightWhere]

theorem weightWhere_perm (h : xs.Perm ys) : weightWhere w p xs = weightWhere w p ys :=
  (h.map _).sum_eq

theorem weightWhere_congr (h : ∀ x ∈ xs, (p x ↔ q x)) : weightWhere w p xs = weightWhere w q xs := by
  refine congrArg List.sum (List.map_congr_left fun x hx => ?_)
  by_cases hp : p x
  · rw [if_pos hp, if_pos ((h x hx).mp hp)]
  · rw [if_neg hp, if_neg fun hq => hp ((h x hx).mpr hq)]

theorem weightWhere_congr_weight (h : ∀ x ∈ xs, w x = v x) :
    weightWhere w p xs = weightWhere v p xs := by
  refine congrArg List.sum (List.map_congr_left fun x hx => ?_)
  rw [h x hx]

theorem weightWhere_map (f : β → α) (zs : List β) :
    weightWhere w p (zs.map f) = weightWhere (fun z => w (f z)) (fun z => p (f z)) zs := by
  rw [weightWhere, List.map_map]
  rfl

/-- The weight of a filtered list. -/
theorem sum_map_filter : ((xs.filter p).map w).sum = weightWhere w p xs := by
  induction xs with
  | nil => rfl
  | cons x xs ih =>
    by_cases hp : p x
    · rw [List.filter_cons_of_pos (by simpa using hp), List.map_cons, List.sum_cons, ih,
        weightWhere_cons, if_pos hp]
    · rw [List.filter_cons_of_neg (by simpa using hp), ih, weightWhere_cons, if_neg hp,
        zero_add]

theorem weightWhere_nonneg (hw : ∀ x ∈ xs, 0 < w x) : 0 ≤ weightWhere w p xs := by
  refine List.sum_nonneg fun y hy => ?_
  obtain ⟨x, hx, rfl⟩ := List.mem_map.mp hy
  split_ifs
  · exact (hw x hx).le
  · exact le_rfl

theorem weightWhere_le (hw : ∀ x ∈ xs, 0 < w x) : weightWhere w p xs ≤ (xs.map w).sum := by
  induction xs with
  | nil => exact le_rfl
  | cons x xs ih =>
    obtain ⟨hx, hxs⟩ := List.forall_mem_cons.mp hw
    rw [weightWhere_cons, List.map_cons, List.sum_cons]
    have hrest := ih hxs
    split_ifs
    · linarith
    · linarith

/-- The weight is that of all exactly where every member has the property. -/
theorem weightWhere_eq_sum_iff (hw : ∀ x ∈ xs, 0 < w x) :
    weightWhere w p xs = (xs.map w).sum ↔ ∀ x ∈ xs, p x := by
  induction xs with
  | nil => exact iff_of_true rfl fun _ hx => absurd hx List.not_mem_nil
  | cons x xs ih =>
    obtain ⟨hx, hxs⟩ := List.forall_mem_cons.mp hw
    rw [weightWhere_cons, List.map_cons, List.sum_cons, List.forall_mem_cons, ← ih hxs]
    have hrest : weightWhere w p xs ≤ (xs.map w).sum := weightWhere_le hxs
    by_cases hp : p x
    · rw [if_pos hp, add_right_inj, and_iff_right hp]
    · rw [if_neg hp]
      exact iff_of_false (fun h => by linarith) fun h => hp h.1

/-- The weight is zero exactly where no member has the property. -/
theorem weightWhere_eq_zero_iff (hw : ∀ x ∈ xs, 0 < w x) :
    weightWhere w p xs = 0 ↔ ∀ x ∈ xs, ¬ p x := by
  induction xs with
  | nil => exact iff_of_true rfl fun _ hx => absurd hx List.not_mem_nil
  | cons x xs ih =>
    obtain ⟨hx, hxs⟩ := List.forall_mem_cons.mp hw
    rw [weightWhere_cons, List.forall_mem_cons, ← ih hxs]
    have hrest : 0 ≤ weightWhere w p xs := weightWhere_nonneg hxs
    by_cases hp : p x
    · rw [if_pos hp]
      exact iff_of_false (fun h => by linarith) fun h => h.1 hp
    · rw [if_neg hp, zero_add, and_iff_right hp]

/-- A member more adds its weight. -/
theorem weightWhere_insert {a : α} (hnodup : xs.Nodup) (ha : a ∈ xs) (hp : ¬ p a)
    (h : ∀ x ∈ xs, (q x ↔ p x ∨ x = a)) : weightWhere w q xs = weightWhere w p xs + w a := by
  induction xs with
  | nil => cases ha
  | cons x xs ih =>
    obtain ⟨hx, hxs⟩ := List.forall_mem_cons.mp h
    obtain ⟨hnot, hnodup⟩ := List.nodup_cons.mp hnodup
    rw [weightWhere_cons, weightWhere_cons]
    rcases List.mem_cons.mp ha with rfl | hmem
    · have hrest : weightWhere w q xs = weightWhere w p xs := by
        refine weightWhere_congr fun y hy => ?_
        rw [hxs y hy, or_iff_left]
        rintro rfl
        exact hnot hy
      rw [if_pos (hx.mpr (.inr rfl)), if_neg hp, hrest]
      ring
    · have hne : x ≠ a := by
        rintro rfl
        exact hnot hmem
      rw [ih hnodup hmem hxs]
      have hsame : q x ↔ p x := hx.trans (or_iff_left hne)
      by_cases hpx : p x
      · rw [if_pos hpx, if_pos (hsame.mpr hpx)]
        ring
      · rw [if_neg hpx, if_neg fun hq => hpx (hsame.mp hq)]
        ring

/-- Members that all have the property, or all lack it, weigh as one. -/
theorem weightWhere_of_const {r : Prop} [Decidable r] (h : ∀ x ∈ xs, (p x ↔ r)) :
    weightWhere w p xs = if r then (xs.map w).sum else 0 := by
  induction xs with
  | nil => simp
  | cons x xs ih =>
    obtain ⟨hx, hxs⟩ := List.forall_mem_cons.mp h
    rw [weightWhere_cons, ih hxs, List.map_cons, List.sum_cons]
    by_cases hr : r
    · rw [if_pos (hx.mpr hr), if_pos hr, if_pos hr]
    · rw [if_neg fun hp => hr (hx.mp hp), if_neg hr, if_neg hr, add_zero]

end WeightedSum
