import Mathlib.Order.WithBot
import RouteLLM.Lib.PyFloat

/-!
# Comparisons of floats

The order of the floats with their infinities. A NaN compares with nothing, itself included.
-/

namespace PyFloat

/-- The value of a float, where it is a number. -/
def value? : PyFloat → Option (WithBot (WithTop ℚ))
  | finite x => some ((x.val : WithTop ℚ) : WithBot (WithTop ℚ))
  | posInf => some ((⊤ : WithTop ℚ) : WithBot (WithTop ℚ))
  | negInf => some ⊥
  | nan => none

/-- `x <= y`. -/
def Le (x y : PyFloat) : Prop := ∃ a ∈ x.value?, ∃ b ∈ y.value?, a ≤ b

/-- `x < y`. -/
def Lt (x y : PyFloat) : Prop := ∃ a ∈ x.value?, ∃ b ∈ y.value?, a < b

/-- `x == y`. -/
def Equal (x y : PyFloat) : Prop := ∃ a ∈ x.value?, ∃ b ∈ y.value?, a = b

instance (x y : PyFloat) : Decidable (Le x y) := inferInstanceAs (Decidable (∃ a ∈ x.value?, _))
instance (x y : PyFloat) : Decidable (Lt x y) := inferInstanceAs (Decidable (∃ a ∈ x.value?, _))
instance (x y : PyFloat) : Decidable (Equal x y) := inferInstanceAs (Decidable (∃ a ∈ x.value?, _))

variable {x y z : PyFloat}

theorem Le.trans (h : Le x y) (h' : Le y z) : Le x z := by
  obtain ⟨a, ha, b, hb, hab⟩ := h
  obtain ⟨b', hb', c, hc, hbc⟩ := h'
  cases Option.mem_unique hb hb'
  exact ⟨a, ha, c, hc, hab.trans hbc⟩

theorem Lt.trans_le (h : Lt x y) (h' : Le y z) : Lt x z := by
  obtain ⟨a, ha, b, hb, hab⟩ := h
  obtain ⟨b', hb', c, hc, hbc⟩ := h'
  cases Option.mem_unique hb hb'
  exact ⟨a, ha, c, hc, hab.trans_le hbc⟩

theorem Le.trans_lt (h : Le x y) (h' : Lt y z) : Lt x z := by
  obtain ⟨a, ha, b, hb, hab⟩ := h
  obtain ⟨b', hb', c, hc, hbc⟩ := h'
  cases Option.mem_unique hb hb'
  exact ⟨a, ha, c, hc, hab.trans_lt hbc⟩

theorem Le.not_lt (h : Le x y) : ¬ Lt y x := by
  intro hlt
  obtain ⟨a, ha, b, hb, hab⟩ := h
  obtain ⟨b', hb', a', ha', hba⟩ := hlt
  cases Option.mem_unique hb hb'
  cases Option.mem_unique ha ha'
  exact hab.not_gt hba

theorem Equal.symm (h : Equal x y) : Equal y x := by
  obtain ⟨a, ha, b, hb, hab⟩ := h
  exact ⟨b, hb, a, ha, hab.symm⟩

end PyFloat
