import Mathlib.Data.List.Perm.Subperm
import Mathlib.Data.List.Nodup

/-!
# Rows that label elements

A list of rows, each about one of a list of elements. Where the keys of the rows are those of the
elements, each once, the rows are labels of the elements in some order: what is counted over the rows
is counted over the elements, and a label of a row is the label of an element.
-/

namespace Labels

variable {α ρ κ : Type*} {r : α → ρ → Prop} {xs : List α} {rows : List ρ}

/-- The rows are related to the elements one by one, in some order. -/
def Labelled (r : α → ρ → Prop) (xs : List α) (rows : List ρ) : Prop :=
  ∃ ordered, List.Forall₂ r xs ordered ∧ ordered.Perm rows

/-- As many keys as elements, and every element among them: the keys are the elements in some
order. -/
theorem perm_of_subset {keys elements : List κ} (hnodup : elements.Nodup) (hsub : elements ⊆ keys)
    (hlength : keys.length ≤ elements.length) : elements.Perm keys :=
  (hnodup.subperm hsub).perm_of_length_le hlength

/-- Rows whose keys are those of the elements label them. -/
theorem labelled_of_perm {f : ρ → κ} {g : α → κ} (h : (xs.map g).Perm (rows.map f)) :
    Labelled (fun x row => f row = g x) xs rows := by
  have hrows : List.Forall₂ (fun key row => f row = key) (rows.map f) rows :=
    List.forall₂_map_left_iff.mpr (List.forall₂_same.mpr fun _ _ => rfl)
  obtain ⟨ordered, hforall, hperm⟩ := List.perm_comp_forall₂ h hrows
  exact ⟨ordered, List.forall₂_map_left_iff.mp hforall, hperm⟩

namespace Labelled

variable (h : Labelled r xs rows)

include h

/-- An element has a row. -/
theorem exists_row {x : α} (hx : x ∈ xs) : ∃ row ∈ rows, r x row := by
  obtain ⟨ordered, hforall, hperm⟩ := h
  have hsome : ∃ row ∈ ordered, r x row := by
    clear hperm
    induction hforall with
    | nil => cases hx
    | cons hxy _ ih =>
      rcases List.mem_cons.mp hx with heq | hx
      · exact ⟨_, List.mem_cons_self, heq ▸ hxy⟩
      · obtain ⟨row, hrow, hr⟩ := ih hx
        exact ⟨row, List.mem_cons_of_mem _ hrow, hr⟩
  obtain ⟨row, hrow, hr⟩ := hsome
  exact ⟨row, hperm.mem_iff.mp hrow, hr⟩

/-- A row has an element. -/
theorem exists_elem {row : ρ} (hrow : row ∈ rows) : ∃ x ∈ xs, r x row := by
  obtain ⟨ordered, hforall, hperm⟩ := h
  have hrow := hperm.mem_iff.mpr hrow
  clear hperm
  induction hforall with
  | nil => cases hrow
  | cons hxy _ ih =>
    rcases List.mem_cons.mp hrow with heq | hrow
    · exact ⟨_, List.mem_cons_self, heq ▸ hxy⟩
    · obtain ⟨x, hx, hr⟩ := ih hrow
      exact ⟨x, List.mem_cons_of_mem _ hx, hr⟩

/-- What a relation makes a property of the rows is counted alike over both. -/
theorem countP_eq {p : α → Bool} {q : ρ → Bool} (hpq : ∀ x row, r x row → p x = q row) :
    xs.countP p = rows.countP q := by
  obtain ⟨ordered, hforall, hperm⟩ := h
  rw [← hperm.countP_eq]
  clear hperm
  induction hforall with
  | nil => rfl
  | cons hxy _ ih => rw [List.countP_cons, List.countP_cons, ih, hpq _ _ hxy]

/-- What holds of every row may be used of the row of an element. -/
theorem and_right {s : ρ → Prop} (hs : ∀ row ∈ rows, s row) :
    Labelled (fun x row => r x row ∧ s row) xs rows := by
  obtain ⟨ordered, hforall, hperm⟩ := h
  refine ⟨ordered, ?_, hperm⟩
  have hs : ∀ row ∈ ordered, s row := fun row hrow => hs row (hperm.mem_iff.mp hrow)
  clear hperm
  induction hforall with
  | nil => exact .nil
  | cons hxy _ ih =>
    exact .cons ⟨hxy, hs _ List.mem_cons_self⟩
      (ih fun row hrow => hs row (List.mem_cons_of_mem _ hrow))

end Labelled

/-- Two labellings of the same elements count a label alike up to the elements on which they
disagree about it. -/
theorem countP_add_countP (own entered : α → Bool) (xs : List α) :
    xs.countP own + xs.countP (fun x => !own x && entered x) =
      xs.countP entered + xs.countP (fun x => own x && !entered x) := by
  induction xs with
  | nil => rfl
  | cons x xs ih =>
    rw [List.countP_cons, List.countP_cons, List.countP_cons, List.countP_cons]
    cases own x with
    | false => cases entered x with
      | false => simpa using ih
      | true => simp; omega
    | true => cases entered x with
      | false => simp; omega
      | true => simp; omega

/-- Related values for all elements. -/
theorem exists_forall₂ (h : ∀ x ∈ xs, ∃ row, r x row) : ∃ rows, List.Forall₂ r xs rows := by
  induction xs with
  | nil => exact ⟨[], .nil⟩
  | cons x xs ih =>
    obtain ⟨row, hrow⟩ := h x List.mem_cons_self
    obtain ⟨rows, hrows⟩ := ih fun y hy => h y (List.mem_cons_of_mem _ hy)
    exact ⟨row :: rows, .cons hrow hrows⟩

/-- The elements of each key, key by key, are the elements. -/
theorem flatMap_filter_perm [DecidableEq κ] {f : α → κ} {keys : List κ} (hnodup : keys.Nodup)
    (hmem : ∀ x ∈ xs, f x ∈ keys) : (keys.flatMap fun key => xs.filter (f · = key)).Perm xs := by
  have hfilter : ∀ {keys : List κ}, keys.Nodup →
      (keys.flatMap fun key => xs.filter (f · = key)).Perm (xs.filter (f · ∈ keys)) := by
    intro keys hnodup
    induction keys with
    | nil => simp
    | cons key keys ih =>
      obtain ⟨hnot, hnodup⟩ := List.nodup_cons.mp hnodup
      have hsplit := List.filter_append_perm (f · = key) (xs.filter (f · ∈ key :: keys))
      rw [List.filter_filter, List.filter_filter] at hsplit
      have hfirst : xs.filter (fun x => decide (f x = key) && decide (f x ∈ key :: keys)) =
          xs.filter (f · = key) := by
        refine List.filter_congr fun x _ => ?_
        by_cases hx : f x = key <;> simp [hx]
      have hrest : xs.filter (fun x => !decide (f x = key) && decide (f x ∈ key :: keys)) =
          xs.filter (f · ∈ keys) := by
        refine List.filter_congr fun x _ => ?_
        by_cases hx : f x = key
        · simp [hx, hnot]
        · simp [hx]
      rw [hfirst, hrest] at hsplit
      rw [List.flatMap_cons]
      exact ((ih hnodup).append_left _).trans hsplit
  refine (hfilter hnodup).trans ?_
  rw [List.filter_eq_self.mpr fun x hx => decide_eq_true (hmem x hx)]

/-- Of groups with distinct keys the one of a key is found. -/
theorem flatMap_key_eq [DecidableEq κ] {f : α → κ} {g : α → List ρ} (hnodup : (xs.map f).Nodup)
    {x : α} (hx : x ∈ xs) : (xs.flatMap fun y => if f y = f x then g y else []) = g x := by
  induction xs with
  | nil => cases hx
  | cons y ys ih =>
    rw [List.map_cons, List.nodup_cons] at hnodup
    rw [List.flatMap_cons]
    rcases List.mem_cons.mp hx with heq | hx
    · rw [heq, if_pos rfl]
      have hnil : (ys.flatMap fun z => if f z = f y then g z else []) = [] := by
        refine List.flatMap_eq_nil_iff.mpr fun z hz => if_neg fun hkey => ?_
        exact hnodup.1 (hkey ▸ List.mem_map_of_mem hz)
      rw [hnil, List.append_nil]
    · have hne : f y ≠ f x := fun hkey => hnodup.1 (hkey ▸ List.mem_map_of_mem hx)
      rw [if_neg hne, List.nil_append]
      exact ih hnodup.2 hx

end Labels
