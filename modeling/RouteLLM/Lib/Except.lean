import Mathlib.Data.List.Forall2

/-!
# Computations that raise

Inversion of `Except` programs: what a computation that returned has computed. A proof peels a
program apart with these and never unfolds the monad.
-/

namespace Except

universe u v

variable {ε : Type u} {α β : Type v}

/-- A returned value is handed on. -/
theorem ok_bind {a : α} {f : α → Except ε β} : (.ok a >>= f) = f a := rfl

/-- A sequence returns exactly when its first step returns a value on which the rest returns. -/
theorem bind_eq_ok {x : Except ε α} {f : α → Except ε β} {b : β} :
    (x >>= f) = .ok b ↔ ∃ a, x = .ok a ∧ f a = .ok b := by
  cases x with
  | error e => simp [bind, Except.bind]
  | ok a => simp [bind, Except.bind]

/-- A returned image is the image of a returned value. -/
theorem map_eq_ok {x : Except ε α} {f : α → β} {b : β} :
    (f <$> x) = .ok b ↔ ∃ a, x = .ok a ∧ f a = b := by
  cases x with
  | error e => simp [Functor.map, Except.map]
  | ok a => simp [Functor.map, Except.map]

/-- A sequence raises what its first step raises, or the rest on the value of the first. -/
theorem bind_eq_error {x : Except ε α} {f : α → Except ε β} {e : ε} :
    (x >>= f) = .error e ↔ x = .error e ∨ ∃ a, x = .ok a ∧ f a = .error e := by
  cases x with
  | error e => simp [bind, Except.bind]
  | ok a => simp [bind, Except.bind]

theorem map_eq_error {x : Except ε α} {f : α → β} {e : ε} :
    f <$> x = .error e ↔ x = .error e := by
  cases x with
  | error e => simp [Functor.map, Except.map]
  | ok a => simp [Functor.map, Except.map]

theorem mapError_eq_ok {δ : Type u} {x : Except ε α} {f : ε → δ} {a : α} :
    x.mapError f = .ok a ↔ x = .ok a := by
  cases x with
  | error e => simp [Except.mapError]
  | ok b => simp [Except.mapError]

@[simp] theorem pure_ne_error {a : α} {e : ε} : (pure a : Except ε α) ≠ .error e := by
  simp [pure, Except.pure]

@[simp] theorem pure_eq_ok {a b : α} : (pure a : Except ε α) = .ok b ↔ a = b := by
  simp [pure, Except.pure]

/-- A guard lets the program go on exactly when its condition fails. -/
theorem guard_eq_ok {c : Prop} [Decidable c] {e : ε} {rest : Except ε β} {b : β} :
    (if c then .error e else rest) = .ok b ↔ ¬ c ∧ rest = .ok b := by
  split <;> simp_all

/-- A guarded program raises the exception of its guard, or what the rest raises. -/
theorem guard_eq_error {c : Prop} [Decidable c] {e e' : ε} {rest : Except ε β}
    (h : (if c then .error e else rest) = .error e') : e' = e ∨ rest = .error e' := by
  split at h
  · exact .inl (Except.error.inj h).symm
  · exact .inr h

/-- A decidable property of what a computation raises. -/
instance decidableForallError {p : ε → Prop} [DecidablePred p] : (x : Except ε α) → Decidable (∀ e, x = .error e → p e)
  | .ok _ => isTrue (by simp)
  | .error e => decidable_of_iff (p e) (by simp)

/-- A value that was read off was returned. -/
theorem eq_ok_of_toOption {x : Except ε α} {a : α} (h : x.toOption = some a) : x = .ok a := by
  cases x with
  | error e => cases h
  | ok b =>
    cases h
    rfl

/-- A computation that can be run and returns, returns something. -/
theorem exists_eq_ok {x : Except ε α} (h : x.isOk = true) : ∃ a, x = .ok a := by
  cases x with
  | error e => cases h
  | ok a => exact ⟨a, rfl⟩

end Except

/-- A traversal that returned has returned on every element, in order. -/
theorem List.mapM_eq_ok.{u, v} {ε : Type u} {α β : Type v} {f : α → Except ε β} {xs : List α} {ys : List β} :
    xs.mapM f = .ok ys ↔ List.Forall₂ (fun x y => f x = .ok y) xs ys := by
  induction xs generalizing ys with
  | nil => cases ys <;> simp
  | cons x xs ih =>
    rw [List.mapM_cons, Except.bind_eq_ok, List.forall₂_cons_left_iff]
    constructor
    · rintro ⟨y, hy, h⟩
      obtain ⟨zs, hzs, h⟩ := Except.bind_eq_ok.mp h
      exact ⟨y, zs, hy, ih.mp hzs, (Except.pure_eq_ok.mp h).symm⟩
    · rintro ⟨y, zs, hy, hzs, rfl⟩
      exact ⟨y, hy, Except.bind_eq_ok.mpr ⟨zs, ih.mpr hzs, rfl⟩⟩

/-- Where a step returns one value on the elements with a property, the steps return their values
exactly on lists of such elements. -/
theorem List.mapM_eq_ok_map.{u, v} {ε : Type u} {α β : Type v} {f : α → Except ε β} {p : α → Prop}
    {g : α → β} (hf : ∀ x y, f x = .ok y ↔ p x ∧ y = g x) {xs : List α} {ys : List β} :
    xs.mapM f = .ok ys ↔ (∀ x ∈ xs, p x) ∧ ys = xs.map g := by
  rw [List.mapM_eq_ok]
  constructor
  · intro h
    induction h with
    | nil => exact ⟨fun _ hx => absurd hx List.not_mem_nil, rfl⟩
    | cons hxy _ ih =>
      obtain ⟨hp, heq⟩ := (hf _ _).mp hxy
      refine ⟨List.forall_mem_cons.mpr ⟨hp, ih.1⟩, ?_⟩
      rw [heq, ih.2, List.map_cons]
  · intro h
    rw [h.2, List.forall₂_map_right_iff]
    exact List.forall₂_same.mpr fun x hx => (hf _ _).mpr ⟨h.1 x hx, rfl⟩

/-- What is read of the returned values is read of the elements. -/
theorem List.map_of_mapM.{u, v, w} {ε : Type u} {α β : Type v} {γ : Type w} {f : α → Except ε β} {φ : β → γ}
    {ψ : α → γ} (hf : ∀ x y, f x = .ok y → φ y = ψ x) {xs : List α} {ys : List β} (h : xs.mapM f = .ok ys) :
    ys.map φ = xs.map ψ := by
  have hsteps := List.mapM_eq_ok.mp h
  clear h
  induction hsteps with
  | nil => rfl
  | cons hxy _ ih => rw [List.map_cons, List.map_cons, hf _ _ hxy, ih]

/-- A traversal that returned has dropped nothing. -/
theorem List.eq_filterMap_of_mapM.{u, v} {ε : Type u} {α β : Type v} {f : α → Except ε β} {xs : List α} {ys : List β}
    (h : xs.mapM f = .ok ys) : ys = xs.filterMap fun x => (f x).toOption := by
  have hsteps := List.mapM_eq_ok.mp h
  clear h
  induction hsteps with
  | nil => rfl
  | cons hxy _ ih => rw [List.filterMap_cons, hxy, ih]; rfl

/-- Steps that return on every element return. -/
theorem List.exists_mapM_eq_ok.{u, v} {ε : Type u} {α β : Type v} {f : α → Except ε β} {xs : List α}
    (h : ∀ x ∈ xs, ∃ y, f x = .ok y) : ∃ ys, xs.mapM f = .ok ys := by
  induction xs with
  | nil => exact ⟨[], rfl⟩
  | cons x xs ih =>
    obtain ⟨⟨y, hy⟩, hxs⟩ := List.forall_mem_cons.mp h
    obtain ⟨ys, hys⟩ := ih hxs
    exact ⟨y :: ys, List.mapM_eq_ok.mpr (.cons hy (List.mapM_eq_ok.mp hys))⟩

/-- Values that are read back, in any order. -/
theorem List.exists_mapM_perm.{u, v} {ε : Type u} {α β : Type v} {f : α → Except ε β} {g : β → α}
    (hf : ∀ y, f (g y) = .ok y) {xs : List α} {ys : List β} (h : xs.Perm (ys.map g)) :
    ∃ zs, xs.mapM f = .ok zs ∧ zs.Perm ys := by
  have hread : ∀ x ∈ xs, ∃ y, f x = .ok y := by
    intro x hx
    obtain ⟨y, -, rfl⟩ := List.mem_map.mp (h.mem_iff.mp hx)
    exact ⟨y, hf y⟩
  obtain ⟨zs, hzs⟩ := List.exists_mapM_eq_ok hread
  refine ⟨zs, hzs, ?_⟩
  rw [List.eq_filterMap_of_mapM hzs]
  refine (h.filterMap _).trans ?_
  have hsome : ∀ y ∈ ys, ((fun x => (f x).toOption) ∘ g) y = some y := by
    intro y _
    rw [Function.comp_apply, hf]
    rfl
  rw [List.filterMap_map, List.filterMap_congr hsome, List.filterMap_some]

/-- A scan finds nothing exactly where every test says so. -/
theorem List.anyM_eq_ok_false.{u} {ε : Type u} {α : Type*} {f : α → Except ε Bool} {xs : List α} :
    xs.anyM f = .ok false ↔ ∀ x ∈ xs, f x = .ok false := by
  induction xs with
  | nil => exact iff_of_true rfl fun _ hx => absurd hx List.not_mem_nil
  | cons x xs ih =>
    rw [List.anyM_cons, List.forall_mem_cons, ← ih]
    cases f x with
    | error e => exact iff_of_false (fun h => by cases h) fun h => by cases h.1
    | ok b =>
      cases b with
      | true => exact iff_of_false (fun h => by cases h) fun h => by cases h.1
      | false => exact (and_iff_right rfl).symm

/-- A scan that finds something has a test that says so. -/
theorem List.exists_of_anyM_eq_ok_true.{u} {ε : Type u} {α : Type*} {f : α → Except ε Bool}
    {xs : List α} (h : xs.anyM f = .ok true) : ∃ x ∈ xs, f x = .ok true := by
  induction xs with
  | nil => cases h
  | cons x xs ih =>
    rw [List.anyM_cons] at h
    obtain ⟨b, hb, h⟩ := Except.bind_eq_ok.mp h
    cases b with
    | true => exact ⟨x, .head xs, hb⟩
    | false =>
      obtain ⟨y, hy, hfy⟩ := ih h
      exact ⟨y, .tail x hy, hfy⟩

/-- A scan whose tests return finds what there is. -/
theorem List.anyM_eq_ok_decide.{u} {ε : Type u} {α : Type*} {f : α → Except ε Bool} {p : α → Prop}
    [DecidablePred p] {xs : List α} (h : ∀ x ∈ xs, f x = .ok (decide (p x))) :
    xs.anyM f = .ok (decide (∃ x ∈ xs, p x)) := by
  induction xs with
  | nil => rfl
  | cons x xs ih =>
    obtain ⟨hx, hxs⟩ := List.forall_mem_cons.mp h
    rw [List.anyM_cons, hx, Except.ok_bind, ih hxs]
    by_cases hp : p x
    · have hany : ∃ y ∈ x :: xs, p y := ⟨x, .head xs, hp⟩
      rw [decide_eq_true hp, decide_eq_true hany]
      rfl
    · have hany : (∃ y ∈ x :: xs, p y) ↔ ∃ y ∈ xs, p y := by
        simp only [List.mem_cons, exists_eq_or_imp, or_iff_right hp]
      rw [decide_eq_false hp]
      exact congrArg Except.ok (decide_eq_decide.mpr hany).symm

/-- A traversal that raised has raised on an element. -/
theorem List.exists_of_mapM_eq_error.{u, v} {ε : Type u} {α β : Type v} {f : α → Except ε β}
    {xs : List α} {e : ε} (h : xs.mapM f = .error e) : ∃ x ∈ xs, f x = .error e := by
  induction xs with
  | nil => cases h
  | cons x xs ih =>
    rw [List.mapM_cons] at h
    rcases Except.bind_eq_error.mp h with hx | ⟨_, -, h⟩
    · exact ⟨x, .head xs, hx⟩
    · rcases Except.bind_eq_error.mp h with hxs | ⟨_, -, h⟩
      · obtain ⟨y, hy, hfy⟩ := ih hxs
        exact ⟨y, .tail x hy, hfy⟩
      · cases h

/-- Every element of the traversed list has its result. -/
theorem List.Forall₂.exists_of_mem.{u, v} {α : Type u} {β : Type v} {r : α → β → Prop}
    {xs : List α} {ys : List β} (h : List.Forall₂ r xs ys) {x : α} (hx : x ∈ xs) :
    ∃ y ∈ ys, r x y := by
  induction h with
  | nil => cases hx
  | cons hxy _ ih =>
    rcases List.mem_cons.mp hx with rfl | hx
    · exact ⟨_, .head _, hxy⟩
    · obtain ⟨y, hy, hr⟩ := ih hx
      exact ⟨y, .tail _ hy, hr⟩

/-- A list and its results are the two sides of a list of pairs. -/
theorem List.Forall₂.exists_pairs.{u, v} {α : Type u} {β : Type v} {r : α → β → Prop} {xs : List α}
    {ys : List β} (h : List.Forall₂ r xs ys) :
    ∃ pairs : List (α × β), pairs.map Prod.fst = xs ∧ pairs.map Prod.snd = ys ∧
      ∀ pair ∈ pairs, r pair.1 pair.2 := by
  refine ⟨xs.zip ys, List.map_fst_zip (Nat.le_of_eq h.length_eq),
    List.map_snd_zip (Nat.le_of_eq h.length_eq.symm), ?_⟩
  exact fun pair hpair => (List.forall₂_iff_zip.mp h).2 hpair
