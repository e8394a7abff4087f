import Mathlib.Data.List.Nodup
import Mathlib.Data.List.Perm.Basic

/-!
# Files of a directory

The files of a directory by name, where a write replaces the file of its name. Writes to distinct names that
cover the files of a directory leave exactly what they wrote.
-/

namespace FileTable

variable {κ α : Type*} [DecidableEq κ] {files entries : List (κ × α)} {k : κ} {v : α} {e : κ × α}

/-- A file is written. -/
def put (e : κ × α) (files : List (κ × α)) : List (κ × α) := e :: files.filter (·.1 ≠ e.1)

/-- Files are written one after the other. -/
def putAll (entries files : List (κ × α)) : List (κ × α) := entries.foldl (fun files e => put e files) files

/-- No two files have one name. -/
def Distinct (files : List (κ × α)) : Prop := (files.map Prod.fst).Nodup

@[simp] theorem putAll_nil (files : List (κ × α)) : putAll [] files = files := rfl

@[simp] theorem putAll_cons (e : κ × α) (entries files : List (κ × α)) :
    putAll (e :: entries) files = putAll entries (put e files) := rfl

theorem mem_put {e' : κ × α} : e' ∈ put e files ↔ e' = e ∨ (e' ∈ files ∧ e'.1 ≠ e.1) := by
  simp [put]

theorem distinct_put (h : Distinct files) : Distinct (put e files) := by
  rw [Distinct, put, List.map_cons, List.nodup_cons]
  refine ⟨fun hmem => ?_, h.sublist (List.filter_sublist.map _)⟩
  obtain ⟨e', he', hkey⟩ := List.mem_map.mp hmem
  have hne := (List.mem_filter.mp he').2
  exact of_decide_eq_true hne hkey

theorem distinct_putAll (h : Distinct files) : Distinct (putAll entries files) := by
  induction entries generalizing files with
  | nil => exact h
  | cons e entries ih => exact ih (distinct_put h)

/-- After writes to distinct names a file is one of them, or an old file of another name. -/
theorem mem_putAll (h : Distinct entries) :
    e ∈ putAll entries files ↔ e ∈ entries ∨ (e ∈ files ∧ e.1 ∉ entries.map Prod.fst) := by
  induction entries generalizing files with
  | nil => simp
  | cons e' entries ih =>
    obtain ⟨hnot, hrest⟩ := List.nodup_cons.mp h
    rw [putAll_cons, ih hrest, mem_put, List.mem_cons, List.map_cons, List.mem_cons, not_or]
    constructor
    · rintro (hmem | ⟨rfl | ⟨hmem, hne⟩, hkey⟩)
      · exact .inl (.inr hmem)
      · exact .inl (.inl rfl)
      · exact .inr ⟨hmem, hne, hkey⟩
    · rintro ((rfl | hmem) | ⟨hmem, hne, hkey⟩)
      · exact .inr ⟨.inl rfl, hnot⟩
      · exact .inl hmem
      · exact .inr ⟨.inr ⟨hmem, hne⟩, hkey⟩

omit [DecidableEq κ] in
/-- Files of distinct names with the same members are the same files. -/
theorem perm_of_mem_iff {files' : List (κ × α)} (h : Distinct files) (h' : Distinct files')
    (hmem : ∀ e, e ∈ files' ↔ e ∈ files) : files'.Perm files :=
  (List.perm_ext_iff_of_nodup (List.Nodup.of_map _ h') (List.Nodup.of_map _ h)).mpr hmem

/-- Writes that cover the files leave what they wrote. -/
theorem putAll_perm_of_cover (h : Distinct files) (hentries : Distinct entries)
    (hcover : files.map Prod.fst ⊆ entries.map Prod.fst) : (putAll entries files).Perm entries := by
  refine perm_of_mem_iff hentries (distinct_putAll h) fun e => ?_
  rw [mem_putAll hentries]
  refine or_iff_left fun hold => hold.2 (hcover (List.mem_map_of_mem hold.1))

/-- Writes of what is there change nothing. -/
theorem putAll_perm_of_subset (h : Distinct files) (hsubset : entries ⊆ files) :
    (putAll entries files).Perm files := by
  induction entries generalizing files with
  | nil => exact List.Perm.refl _
  | cons e entries ih =>
    obtain ⟨he, hrest⟩ := List.cons_subset.mp hsubset
    have hput : (put e files).Perm files := by
      refine perm_of_mem_iff h (distinct_put h) fun e' => ?_
      rw [mem_put]
      constructor
      · rintro (rfl | hold)
        · exact he
        · exact hold.1
      · intro hmem
        by_cases hkey : e'.1 = e.1
        · exact .inl (List.inj_on_of_nodup_map h hmem he hkey)
        · exact .inr ⟨hmem, hkey⟩
    exact (ih (distinct_put h) fun e' he' => hput.mem_iff.mpr (hrest he')).trans hput

end FileTable
