import Mathlib.Data.List.MinMax
import Mathlib.Data.List.Perm.Basic

/-!
# Choosing by a key, or else by another

The least element by one key among those that qualify, or else the least by a second key of all. Where
neither key ties, the choice depends on the elements and not on their order, keeps its cost from rising
when more elements qualify, and is unmoved by the removal of what was not chosen.
-/

namespace Choice

variable {α β γ : Type*} [LinearOrder β] [LinearOrder γ] {f : α → β} {g : α → γ}
  {p q : α → Prop} [DecidablePred p] [DecidablePred q] {xs ys : List α} {a b : α}

/-! ## The least element -/

/-- The elements of a list have distinct keys. -/
def Untied (f : α → β) (xs : List α) : Prop := ∀ a ∈ xs, ∀ b ∈ xs, f a = f b → a = b

omit [LinearOrder β] in
theorem Untied.subset (h : Untied f ys) (hsub : xs ⊆ ys) : Untied f xs :=
  fun a ha b hb => h a (hsub ha) b (hsub hb)

/-- Keys without ties: the least element is the one below all. -/
theorem argmin_eq_some_iff (h : Untied f xs) :
    xs.argmin f = some a ↔ a ∈ xs ∧ ∀ b ∈ xs, f a ≤ f b := by
  constructor
  · intro hmin
    exact ⟨List.argmin_mem hmin, fun b hb => List.le_of_mem_argmin hb hmin⟩
  · rintro ⟨ha, hle⟩
    cases hmin : xs.argmin f with
    | none =>
      rw [List.argmin_eq_none.mp hmin] at ha
      cases ha
    | some _ =>
      have hb := List.argmin_mem hmin
      have hba := List.le_of_mem_argmin ha hmin
      rw [h a ha _ hb (le_antisymm (hle _ hb) hba)]

/-- The least element of a part that holds it is the same. -/
theorem argmin_of_subset (h : Untied f ys) (hsub : xs ⊆ ys) (hmin : ys.argmin f = some a)
    (ha : a ∈ xs) : xs.argmin f = some a :=
  (argmin_eq_some_iff (h.subset hsub)).mpr
    ⟨ha, fun _ hb => List.le_of_mem_argmin (hsub hb) hmin⟩

/-! ## The choice -/

/-- The least by `f` of the elements that qualify, or else the least by `g` of all, with whether the
second key decided. -/
def choose (f : α → β) (g : α → γ) (p : α → Prop) [DecidablePred p] (xs : List α) :
    Option (α × Bool) :=
  match (xs.filter p).argmin f with
  | some a => some (a, false)
  | none => (xs.argmin g).map (·, true)

theorem choose_of_argmin_eq_some (h : (xs.filter p).argmin f = some a) :
    choose f g p xs = some (a, false) := by rw [choose, h]

theorem choose_of_argmin_eq_none (h : (xs.filter p).argmin f = none) :
    choose f g p xs = (xs.argmin g).map (·, true) := by rw [choose, h]

/-- A choice by the first key is one of the elements that qualify, and the least of them. -/
theorem choose_eq_first (h : Untied f xs) :
    choose f g p xs = some (a, false) ↔ a ∈ xs ∧ p a ∧ ∀ b ∈ xs, p b → f a ≤ f b := by
  have hfilter : (xs.filter p).argmin f = some a ↔ a ∈ xs ∧ p a ∧ ∀ b ∈ xs, p b → f a ≤ f b := by
    rw [argmin_eq_some_iff (h.subset (List.filter_subset_self xs)), List.mem_filter, and_assoc]
    simp only [List.mem_filter, decide_eq_true_eq, and_imp]
  rw [← hfilter, choose]
  cases (xs.filter p).argmin f with
  | some c => simp
  | none => cases xs.argmin g <;> simp

/-- A choice by the second key is the least of all, where none qualifies. -/
theorem choose_eq_second (h : Untied g xs) :
    choose f g p xs = some (a, true) ↔ a ∈ xs ∧ (∀ b ∈ xs, ¬ p b) ∧ ∀ b ∈ xs, g a ≤ g b := by
  rw [choose]
  cases hmin : (xs.filter p).argmin f with
  | some c =>
    have hc := List.mem_filter.mp (List.argmin_mem hmin)
    simp only [Option.some.injEq, Prod.mk.injEq, Bool.false_eq_true, and_false, false_iff]
    rintro ⟨_, hnone, _⟩
    exact hnone c hc.1 (of_decide_eq_true hc.2)
  | none =>
    have hnone : ∀ b ∈ xs, ¬ p b := by
      intro b hb hp
      have hempty := List.filter_eq_nil_iff.mp (List.argmin_eq_none.mp hmin) b hb
      exact hempty (decide_eq_true hp)
    have hargmin : (xs.argmin g).map (·, true) = some (a, true) ↔ xs.argmin g = some a := by
      cases xs.argmin g <;> simp
    simp only [hargmin, argmin_eq_some_iff h]
    exact ⟨fun ⟨ha, hle⟩ => ⟨ha, hnone, hle⟩, fun ⟨ha, _, hle⟩ => ⟨ha, hle⟩⟩

/-- A nonempty list has a choice. -/
theorem exists_choose (f : α → β) (g : α → γ) (p : α → Prop) [DecidablePred p] (hne : xs ≠ []) :
    ∃ a second, choose f g p xs = some (a, second) := by
  rw [choose]
  cases (xs.filter p).argmin f with
  | some a => exact ⟨a, false, rfl⟩
  | none =>
    cases hmin : xs.argmin g with
    | some a => exact ⟨a, true, rfl⟩
    | none => exact absurd (List.argmin_eq_none.mp hmin) hne

/-- What is chosen is an element. -/
theorem mem_of_choose {second : Bool} (hf : Untied f xs) (hg : Untied g xs)
    (h : choose f g p xs = some (a, second)) : a ∈ xs := by
  cases second with
  | false => exact ((choose_eq_first hf).mp h).1
  | true => exact ((choose_eq_second hg).mp h).1

/-- The first key decides exactly where an element qualifies. -/
theorem choose_first_iff {second : Bool} (hf : Untied f xs) (hg : Untied g xs)
    (h : choose f g p xs = some (a, second)) : second = false ↔ ∃ b ∈ xs, p b := by
  cases second with
  | false =>
    obtain ⟨ha, hp, _⟩ := (choose_eq_first hf).mp h
    exact iff_of_true rfl ⟨a, ha, hp⟩
  | true =>
    obtain ⟨_, hnone, _⟩ := (choose_eq_second hg).mp h
    refine iff_of_false (by decide) ?_
    rintro ⟨b, hb, hp⟩
    exact hnone b hb hp

/-! ## Relations between choices -/

/-- The order of the elements does not matter. -/
theorem choose_perm (hf : Untied f xs) (hg : Untied g xs) (h : ys.Perm xs) :
    choose f g p ys = choose f g p xs := by
  have hmem (c : α) : c ∈ ys ↔ c ∈ xs := h.mem_iff
  have hf' : Untied f ys := hf.subset h.subset
  have hg' : Untied g ys := hg.subset h.subset
  cases hxs : choose f g p xs with
  | none =>
    by_cases hne : xs = []
    · subst hne
      rw [h.eq_nil]
      rfl
    · obtain ⟨a, second, ha⟩ := exists_choose f g p hne
      rw [ha] at hxs
      cases hxs
  | some chosen =>
    obtain ⟨a, second⟩ := chosen
    cases second with
    | false =>
      rw [choose_eq_first hf'] at *
      rw [choose_eq_first hf] at hxs
      simpa only [hmem] using hxs
    | true =>
      rw [choose_eq_second hg']
      rw [choose_eq_second hg] at hxs
      simpa only [hmem] using hxs

/-- Where fewer elements qualify and the first key still decides, it decided before, on an element no
greater. -/
theorem choose_first_of_imp (hf : Untied f xs) (hg : Untied g xs) {second : Bool}
    (himp : ∀ c ∈ xs, q c → p c) (hp : choose f g p xs = some (a, second))
    (hq : choose f g q xs = some (b, false)) : second = false ∧ f a ≤ f b := by
  obtain ⟨hb, hqb, _⟩ := (choose_eq_first hf).mp hq
  have hsecond : second = false := (choose_first_iff hf hg hp).mpr ⟨b, hb, himp b hb hqb⟩
  subst hsecond
  exact ⟨rfl, ((choose_eq_first hf).mp hp).2.2 b hb (himp b hb hqb)⟩

/-- Where the second key decides, it decides the same when fewer elements qualify. -/
theorem choose_second_of_imp (hg : Untied g xs) (himp : ∀ c ∈ xs, q c → p c)
    (h : choose f g p xs = some (a, true)) : choose f g q xs = some (a, true) := by
  obtain ⟨ha, hnone, hle⟩ := (choose_eq_second hg).mp h
  exact (choose_eq_second hg).mpr ⟨ha, fun b hb hqb => hnone b hb (himp b hb hqb), hle⟩

/-- More elements keep the first key deciding, on an element no greater. -/
theorem choose_first_of_subset (hf : Untied f ys) (hg : Untied g ys) (hsub : xs ⊆ ys)
    {second : Bool} (hx : choose f g p xs = some (a, false))
    (hy : choose f g p ys = some (b, second)) : second = false ∧ f b ≤ f a := by
  obtain ⟨ha, hpa, _⟩ := (choose_eq_first (hf.subset hsub)).mp hx
  have hsecond : second = false := (choose_first_iff hf hg hy).mpr ⟨a, hsub ha, hpa⟩
  subst hsecond
  exact ⟨rfl, ((choose_eq_first hf).mp hy).2.2 a (hsub ha) hpa⟩

/-- A part that holds what was chosen has the same choice. -/
theorem choose_of_subset (hf : Untied f ys) (hg : Untied g ys) (hsub : xs ⊆ ys) {second : Bool}
    (hy : choose f g p ys = some (a, second)) (ha : a ∈ xs) :
    choose f g p xs = some (a, second) := by
  cases second with
  | false =>
    obtain ⟨_, hpa, hle⟩ := (choose_eq_first hf).mp hy
    exact (choose_eq_first (hf.subset hsub)).mpr ⟨ha, hpa, fun b hb => hle b (hsub hb)⟩
  | true =>
    obtain ⟨_, hnone, hle⟩ := (choose_eq_second hg).mp hy
    exact (choose_eq_second (hg.subset hsub)).mpr
      ⟨ha, fun b hb => hnone b (hsub hb), fun b hb => hle b (hsub hb)⟩

/-! ## Other keys and other elements -/

section
variable {β' γ' α' : Type*} [LinearOrder β'] [LinearOrder γ'] {f' : α → β'} {g' : α → γ'}

/-- Keys that order the elements alike. -/
def SameOrder (f : α → β) (f' : α → β') (xs : List α) : Prop :=
  ∀ a ∈ xs, ∀ b ∈ xs, f a ≤ f b ↔ f' a ≤ f' b

theorem SameOrder.untied (h : SameOrder f f' xs) (hf : Untied f xs) : Untied f' xs := by
  intro a ha b hb heq
  exact hf a ha b hb (le_antisymm ((h a ha b hb).mpr heq.le) ((h b hb a ha).mpr heq.ge))

/-- Keys that order the elements alike choose alike among the same that qualify. -/
theorem choose_congr (hf : Untied f xs) (hg : Untied g xs) (hff : SameOrder f f' xs)
    (hgg : SameOrder g g' xs) (hpq : ∀ a ∈ xs, p a ↔ q a) :
    choose f g p xs = choose f' g' q xs := by
  by_cases hne : xs = []
  · subst hne
    rfl
  obtain ⟨a, second, ha⟩ := exists_choose f g p hne
  rw [ha]
  cases second with
  | false =>
    obtain ⟨hmem, hp, hle⟩ := (choose_eq_first hf).mp ha
    refine ((choose_eq_first (hff.untied hf)).mpr ⟨hmem, (hpq a hmem).mp hp, ?_⟩).symm
    exact fun b hb hqb => (hff a hmem b hb).mp (hle b hb ((hpq b hb).mpr hqb))
  | true =>
    obtain ⟨hmem, hnone, hle⟩ := (choose_eq_second hg).mp ha
    refine ((choose_eq_second (hgg.untied hg)).mpr ⟨hmem, ?_, ?_⟩).symm
    · exact fun b hb hqb => hnone b hb ((hpq b hb).mpr hqb)
    · exact fun b hb => (hgg a hmem b hb).mp (hle b hb)

end

/-- The least of the images is the image of the least. -/
theorem argmin_map {α' : Type*} {f : α' → β} (h : α → α') (xs : List α) :
    (xs.map h).argmin f = (xs.argmin (f ∘ h)).map h := by
  induction xs using List.reverseRecOn with
  | nil => rfl
  | append_singleton xs a ih =>
    rw [List.map_append, List.map_singleton, List.argmin_concat, List.argmin_concat, ih]
    cases xs.argmin (f ∘ h) with
    | none => rfl
    | some c =>
      show (if f (h a) < f (h c) then some (h a) else some (h c)) =
        (if f (h a) < f (h c) then some a else some c).map h
      split <;> rfl

/-- The choice among the images is the image of the choice. -/
theorem choose_map {α' : Type*} {f : α' → β} {g : α' → γ} {p : α' → Prop} [DecidablePred p]
    (h : α → α') (xs : List α) :
    choose f g p (xs.map h) =
      (choose (f ∘ h) (g ∘ h) (fun a => p (h a)) xs).map (Prod.map h id) := by
  have hfilter : (xs.map h).filter p = (xs.filter fun a => p (h a)).map h := by
    rw [List.filter_map]
    rfl
  rw [choose, choose, hfilter, argmin_map, argmin_map]
  cases (xs.filter fun a => p (h a)).argmin (f ∘ h) with
  | some a => rfl
  | none => cases xs.argmin (g ∘ h) <;> rfl

end Choice
