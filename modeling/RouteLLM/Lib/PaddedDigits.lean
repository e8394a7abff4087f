import Mathlib.Algebra.Order.Group.Nat
import Mathlib.Tactic.Ring

/-!
# Digits of a fixed width

Numbers as texts of a fixed number of digits in a radix of at most 16, as they stand in timestamps and
identifiers: `padded` writes one and `read?` reads it off the front of a text.
-/

namespace PaddedDigits

/-- The value of a digit in a radix. -/
def digit? (radix : ℕ) (c : Char) : Option ℕ :=
  let value :=
    if '0' ≤ c ∧ c ≤ '9' then c.toNat - 48
    else if 'a' ≤ c ∧ c ≤ 'f' then c.toNat - 87
    else if 'A' ≤ c ∧ c ≤ 'F' then c.toNat - 55
    else radix
  if value < radix then some value else none

/-- The number that a text of digits stands for. -/
def value? (radix : ℕ) : List Char → Option ℕ :=
  List.foldlM (fun n c => (digit? radix c).map (radix * n + ·)) 0

/-- The last `width` digits of a number. -/
def padded (radix : ℕ) : ℕ → ℕ → List Char
  | 0, _ => []
  | width + 1, n => padded radix width (n / radix) ++ [Nat.digitChar (n % radix)]

/-- A number of `width` digits, and the text after it. -/
def read? (radix width : ℕ) (cs : List Char) : Option (ℕ × List Char) :=
  if width ≤ cs.length then (value? radix (cs.take width)).map (·, cs.drop width) else none

variable {radix : ℕ}

@[simp] theorem length_padded (width n : ℕ) : (padded radix width n).length = width := by
  induction width generalizing n with
  | zero => rfl
  | succ width ih => rw [padded, List.length_append, ih, List.length_singleton]

/-- Every character of a padded number is a digit. -/
theorem mem_padded {width n : ℕ} {c : Char} (hradix : 0 < radix) (h : c ∈ padded radix width n) :
    ∃ d < radix, c = Nat.digitChar d := by
  induction width generalizing n with
  | zero => cases h
  | succ width ih =>
    rcases List.mem_append.mp h with h | h
    · exact ih h
    · exact ⟨n % radix, Nat.mod_lt _ hradix, List.mem_singleton.mp h⟩

/-- A digit is read back. -/
theorem digit?_digitChar (hradix : radix ≤ 16) {d : ℕ} (h : d < radix) :
    digit? radix (Nat.digitChar d) = some d := by
  have hall : ∀ d < 16, (if '0' ≤ Nat.digitChar d ∧ Nat.digitChar d ≤ '9' then
      (Nat.digitChar d).toNat - 48
    else if 'a' ≤ Nat.digitChar d ∧ Nat.digitChar d ≤ 'f' then (Nat.digitChar d).toNat - 87
    else if 'A' ≤ Nat.digitChar d ∧ Nat.digitChar d ≤ 'F' then (Nat.digitChar d).toNat - 55
    else 16) = d := by decide
  have hdigit := hall d (by omega)
  unfold digit?
  dsimp only
  split_ifs at hdigit ⊢ <;> first | rw [hdigit] | omega

theorem value?_append_singleton (cs : List Char) (c : Char) :
    value? radix (cs ++ [c]) =
      (value? radix cs).bind fun n => (digit? radix c).map (radix * n + ·) := by
  rw [value?, List.foldlM_append]
  simp

/-- A number is read back from as many digits as it has at most. -/
theorem value?_padded (hradix : radix ≤ 16) (hpos : 0 < radix) {width n : ℕ}
    (h : n < radix ^ width) : value? radix (padded radix width n) = some n := by
  induction width generalizing n with
  | zero =>
    obtain rfl : n = 0 := by simpa using h
    rfl
  | succ width ih =>
    have hquot : n / radix < radix ^ width := by
      rw [Nat.div_lt_iff_lt_mul hpos, ← pow_succ]
      exact h
    rw [padded, value?_append_singleton, ih hquot, digit?_digitChar hradix (Nat.mod_lt _ hpos)]
    simp [Nat.div_add_mod]

/-- A padded number is read off the front of a text. -/
theorem read?_padded (hradix : radix ≤ 16) (hpos : 0 < radix) {width n : ℕ}
    (h : n < radix ^ width) (cs : List Char) :
    read? radix width (padded radix width n ++ cs) = some (n, cs) := by
  have htake : (padded radix width n ++ cs).take width = padded radix width n :=
    List.take_left' (length_padded width n)
  have hdrop : (padded radix width n ++ cs).drop width = cs :=
    List.drop_left' (length_padded width n)
  rw [read?, if_pos (by simp), htake, hdrop, value?_padded hradix hpos h]
  rfl

end PaddedDigits
