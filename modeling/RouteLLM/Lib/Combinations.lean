import Mathlib.Data.List.Sym

/-!
# The pairs of a list

`itertools.combinations` of two elements: each element with each later one. Over distinct elements these are the
unordered pairs of two different ones, each once.
-/

namespace Itertools

variable {α β : Type*} {xs : List α} {a b : α}

/-- `itertools.combinations(xs, 2)`. -/
def combinations {α : Type*} : List α → List (α × α)
  | [] => []
  | x :: xs => xs.map (x, ·) ++ combinations xs

@[simp] theorem combinations_nil : combinations ([] : List α) = [] := rfl

@[simp] theorem combinations_cons (x : α) (xs : List α) :
    combinations (x :: xs) = xs.map (x, ·) ++ combinations xs := rfl

theorem combinations_map (f : α → β) (xs : List α) :
    combinations (xs.map f) = (combinations xs).map (Prod.map f f) := by
  induction xs with
  | nil => rfl
  | cons x xs ih => simp [ih, Function.comp_def]

/-- The unordered pairs of the combinations. -/
def unordered (pairs : List (α × α)) : List (Sym2 α) := pairs.map fun pair => s(pair.1, pair.2)

theorem unordered_combinations_cons (x : α) (xs : List α) :
    unordered (combinations (x :: xs)) = xs.map (fun y => s(x, y)) ++ unordered (combinations xs) := by
  simp [unordered, Function.comp_def]

theorem unordered_combinations_sublist (xs : List α) : (unordered (combinations xs)).Sublist xs.sym2 := by
  induction xs with
  | nil => exact List.Sublist.refl _
  | cons x xs ih =>
    rw [unordered_combinations_cons, List.sym2]
    exact ((List.sublist_cons_self x xs).map _).append ih

/-- No unordered pair is made twice. -/
theorem unordered_combinations_nodup (h : xs.Nodup) : (unordered (combinations xs)).Nodup :=
  h.sym2.sublist (unordered_combinations_sublist xs)

/-- The unordered pairs are those of two different elements. -/
theorem mem_unordered_combinations (h : xs.Nodup) :
    s(a, b) ∈ unordered (combinations xs) ↔ a ≠ b ∧ a ∈ xs ∧ b ∈ xs := by
  induction xs with
  | nil => exact iff_of_false List.not_mem_nil fun h => List.not_mem_nil h.2.1
  | cons x xs ih =>
    obtain ⟨hx, hxs⟩ := List.nodup_cons.mp h
    rw [unordered_combinations_cons, List.mem_append, ih hxs, List.mem_map]
    constructor
    · rintro (⟨y, hy, heq⟩ | ⟨hne, ha, hb⟩)
      · have hxy : x ≠ y := fun h => hx (h ▸ hy)
        rcases Sym2.eq_iff.mp heq with ⟨rfl, rfl⟩ | ⟨rfl, rfl⟩
        · exact ⟨hxy, .head _, .tail _ hy⟩
        · exact ⟨hxy.symm, .tail _ hy, .head _⟩
      · exact ⟨hne, .tail _ ha, .tail _ hb⟩
    · rintro ⟨hne, ha, hb⟩
      rcases List.mem_cons.mp ha with hax | ha'
      · rcases List.mem_cons.mp hb with hbx | hb'
        · exact absurd (hax.trans hbx.symm) hne
        · exact .inl ⟨b, hb', by rw [hax]⟩
      · rcases List.mem_cons.mp hb with hbx | hb'
        · exact .inl ⟨a, ha', by rw [hbx, Sym2.eq_swap]⟩
        · exact .inr ⟨hne, ha', hb'⟩

end Itertools
