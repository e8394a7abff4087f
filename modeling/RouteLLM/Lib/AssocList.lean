import Mathlib.Data.List.Nodup

/-!
# Dictionaries as association lists

A dictionary whose keys are distinct, as it is built from a list of elements and read back.
-/

namespace AssocList

variable {α β γ : Type*} [DecidableEq β] {f : α → β} {g : α → γ} {xs : List α} {x : α}

/-- A dictionary built over distinct keys holds the entry of each. -/
theorem lookup_map_of_nodup (h : (xs.map f).Nodup) (hx : x ∈ xs) :
    (xs.map fun x => (f x, g x)).lookup (f x) = some (g x) := by
  induction xs with
  | nil => cases hx
  | cons y ys ih =>
    rw [List.map_cons, List.nodup_cons] at h
    rcases List.mem_cons.mp hx with rfl | hx
    · simp
    · have hne : f x ≠ f y := fun heq => h.1 (heq ▸ List.mem_map_of_mem hx)
      rw [List.map_cons, List.lookup_cons, beq_false_of_ne hne]
      exact ih h.2 hx

/-- A search by a distinct key finds the element. -/
theorem find?_of_nodup (h : (xs.map f).Nodup) (hx : x ∈ xs) :
    xs.find? (f · = f x) = some x := by
  induction xs with
  | nil => cases hx
  | cons y ys ih =>
    rw [List.map_cons, List.nodup_cons] at h
    rcases List.mem_cons.mp hx with rfl | hx
    · simp
    · have hne : f y ≠ f x := fun heq => h.1 (heq ▸ List.mem_map_of_mem hx)
      rw [List.find?_cons_of_neg (by simpa using hne)]
      exact ih h.2 hx

/-- A search by a distinct key does not depend on the order. -/
theorem find?_perm {ys : List α} (hnodup : (xs.map f).Nodup) (hperm : ys.Perm xs) (k : β) :
    ys.find? (f · = k) = xs.find? (f · = k) := by
  cases hfound : xs.find? (f · = k) with
  | none =>
    rw [List.find?_eq_none] at hfound ⊢
    exact fun y hy => hfound y (hperm.mem_iff.mp hy)
  | some x =>
    have hkey : f x = k := by simpa using List.find?_some hfound
    have hmem := hperm.mem_iff.mpr (List.mem_of_find?_eq_some hfound)
    have hnodup' : (ys.map f).Nodup := (hperm.map f).nodup_iff.mpr hnodup
    rw [← hkey]
    exact find?_of_nodup hnodup' hmem

/-- A search by key in a dictionary whose values are mapped. -/
theorem lookup_map_snd {δ : Type*} (f : γ → δ) (entries : List (β × γ)) (k : β) :
    (entries.map fun entry => (entry.1, f entry.2)).lookup k = (entries.lookup k).map f := by
  induction entries with
  | nil => rfl
  | cons entry entries ih =>
    rw [List.map_cons, List.lookup_cons, List.lookup_cons]
    split
    · rfl
    · exact ih

/-- A dictionary of distinct keys holds exactly its entries. -/
theorem lookup_eq_some_iff {β : Type*} [BEq β] [LawfulBEq β] {entries : List (β × γ)}
    (h : (entries.map Prod.fst).Nodup) {k : β} {v : γ} : entries.lookup k = some v ↔ (k, v) ∈ entries := by
  constructor
  · intro hfound
    obtain ⟨_, _, rfl, _⟩ := List.lookup_eq_some_iff.mp hfound
    exact List.mem_append_right _ List.mem_cons_self
  · intro hmem
    induction entries with
    | nil => cases hmem
    | cons e entries ih =>
      rw [List.map_cons, List.nodup_cons] at h
      rcases List.mem_cons.mp hmem with rfl | hmem
      · exact List.lookup_cons_self
      · have hne : (k == e.1) = false := by
          rw [beq_eq_false_iff_ne]
          rintro rfl
          exact h.1 (List.mem_map.mpr ⟨_, hmem, rfl⟩)
        rw [List.lookup_cons, hne]
        exact ih h.2 hmem

/-! ## Updates -/

/-- `d[k] = v`: the value of a key is replaced in its place, and a new key comes last. -/
def set (k : β) (v : γ) : List (β × γ) → List (β × γ)
  | [] => [(k, v)]
  | e :: entries => if e.1 = k then (k, v) :: entries else e :: set k v entries

/-- `d.update(other)`. -/
def update (entries other : List (β × γ)) : List (β × γ) := other.foldl (fun d e => set e.1 e.2 d) entries

variable {entries other : List (β × γ)} {k : β} {v : γ}

@[simp] theorem update_nil : update entries [] = entries := rfl

@[simp] theorem update_cons (e : β × γ) : update entries (e :: other) = update (set e.1 e.2 entries) other := rfl

/-- A new key comes last. -/
theorem set_of_notMem (h : k ∉ entries.map Prod.fst) : set k v entries = entries ++ [(k, v)] := by
  induction entries with
  | nil => rfl
  | cons e entries ih =>
    rw [List.map_cons, List.mem_cons, not_or] at h
    rw [set, if_neg (Ne.symm h.1), ih h.2]
    rfl

theorem keys_set : (set k v entries).map Prod.fst =
    if k ∈ entries.map Prod.fst then entries.map Prod.fst else entries.map Prod.fst ++ [k] := by
  induction entries with
  | nil => rfl
  | cons e entries ih =>
    rw [set]
    split
    · rename_i heq
      rw [if_pos (by rw [List.map_cons, heq]; exact .head _), List.map_cons, List.map_cons, heq]
    · rename_i hne
      have hiff : k ∈ (e :: entries).map Prod.fst ↔ k ∈ entries.map Prod.fst := by
        rw [List.map_cons, List.mem_cons, or_iff_right (Ne.symm hne)]
      rw [List.map_cons, ih]
      by_cases hk : k ∈ entries.map Prod.fst
      · rw [if_pos hk, if_pos (hiff.mpr hk), List.map_cons]
      · rw [if_neg hk, if_neg fun h => hk (hiff.mp h), List.map_cons, List.cons_append]

/-- The keys stay distinct. -/
theorem nodup_set (h : (entries.map Prod.fst).Nodup) : ((set k v entries).map Prod.fst).Nodup := by
  rw [keys_set]
  split
  · exact h
  · rename_i hnot
    exact List.nodup_append.mpr ⟨h, List.nodup_singleton k, fun a ha b hb hab =>
      hnot ((List.mem_singleton.mp hb) ▸ hab ▸ ha)⟩

theorem nodup_update (h : (entries.map Prod.fst).Nodup) : ((update entries other).map Prod.fst).Nodup := by
  induction other generalizing entries with
  | nil => exact h
  | cons e other ih => exact ih (nodup_set h)

/-- An update with new keys puts the entries of the other last. -/
theorem update_eq_append (h : (other.map Prod.fst).Nodup) (hnew : ∀ k ∈ other.map Prod.fst, k ∉ entries.map Prod.fst) :
    update entries other = entries ++ other := by
  induction other generalizing entries with
  | nil => rw [update_nil, List.append_nil]
  | cons e other ih =>
    rw [List.map_cons, List.nodup_cons] at h
    rw [update_cons, set_of_notMem (hnew e.1 (.head _)), ih h.2, List.append_assoc, List.singleton_append]
    intro k hk hmem
    rw [List.map_append, List.mem_append] at hmem
    rcases hmem with hmem | hmem
    · exact hnew k (.tail _ hk) hmem
    · exact h.1 (List.mem_singleton.mp hmem ▸ hk)

end AssocList
