import Mathlib.Algebra.BigOperators.Group.List.Basic
import Mathlib.Algebra.GroupWithZero.Nat
import Mathlib.Algebra.Order.Group.Nat
import Mathlib.Data.Nat.Basic

/-!
# Fixed-window counters

A counter opens with an admission, counts the admitted weights up to its capacity while it lives, and the
first admission after its last instant opens the next one. What a sequence of admissions counts within any
interval is bounded by the capacity for each window that can meet the interval (`total_le`): in a window's
length that is twice the capacity.
-/

namespace FixedWindow

/-- An open window: what it has counted, and the last instant at which it lives. -/
structure Window where
  used : ℕ
  last : ℕ

/-- An admission at a time of a weight. -/
structure Admission where
  time : ℕ
  weight : ℕ

/-- What a counter of this capacity and length admits from a time on, at nondecreasing times. -/
inductive Admissions (capacity length : ℕ) : Option Window → ℕ → List Admission → Prop
  | nil {window : Option Window} {now : ℕ} : Admissions capacity length window now []
  | opened {window : Option Window} {now : ℕ} {a : Admission} {rest : List Admission}
      (hle : now ≤ a.time) (hclosed : ∀ w ∈ window, w.last < a.time) (hfit : a.weight ≤ capacity)
      (hrest : Admissions capacity length (some ⟨a.weight, a.time + length⟩) a.time rest) :
      Admissions capacity length window now (a :: rest)
  | counted {window : Window} {now : ℕ} {a : Admission} {rest : List Admission}
      (hle : now ≤ a.time) (hopen : a.time ≤ window.last) (hfit : window.used + a.weight ≤ capacity)
      (hrest : Admissions capacity length (some ⟨window.used + a.weight, window.last⟩) a.time rest) :
      Admissions capacity length (some window) now (a :: rest)

/-- The weight that is admitted within an interval. -/
def total (first final : ℕ) (admissions : List Admission) : ℕ :=
  ((admissions.filter fun a => first ≤ a.time ∧ a.time ≤ final).map (·.weight)).sum

/-- The number of windows that can open from one time to another. -/
def openings (length start final : ℕ) : ℕ := (final + 1 - start + length) / (length + 1)

variable {capacity length first final now : ℕ} {window : Option Window} {admissions : List Admission}

theorem openings_antitone {start later : ℕ} (h : start ≤ later) :
    openings length later final ≤ openings length start final :=
  Nat.div_le_div_right (by omega)

/-- The next window opens after the last instant of one. -/
theorem openings_eq_succ {start : ℕ} (h : start ≤ final) :
    openings length start final = openings length (start + length + 1) final + 1 := by
  rw [openings, openings]
  by_cases hlong : start + length + 1 ≤ final + 1
  · have hsplit : final + 1 - start + length =
        final + 1 - (start + length + 1) + length + (length + 1) := by omega
    rw [hsplit, Nat.add_div_right _ (Nat.succ_pos length)]
  · have hone := Nat.div_eq_of_lt_le (show 1 * (length + 1) ≤ final + 1 - start + length by omega)
      (show final + 1 - start + length < (1 + 1) * (length + 1) by omega)
    rw [hone, Nat.div_eq_of_lt (by omega)]

theorem openings_le_succ (start : ℕ) :
    openings length start final ≤ openings length (start + 1) final + 1 := by
  rw [openings, openings, ← Nat.add_div_right _ (Nat.succ_pos length)]
  exact Nat.div_le_div_right (by omega)

@[simp] theorem total_nil : total first final [] = 0 := rfl

theorem total_cons (a : Admission) (rest : List Admission) :
    total first final (a :: rest) =
      (if first ≤ a.time ∧ a.time ≤ final then a.weight else 0) + total first final rest := by
  unfold total
  split <;> simp_all

/-- Time passes: a window that has closed meanwhile is forgotten. -/
theorem Admissions.of_wait {later : ℕ} (hle : now ≤ later)
    (h : Admissions capacity length (window.filter (later ≤ ·.last)) later admissions) :
    Admissions capacity length window now admissions := by
  cases window with
  | none =>
    cases h with
    | nil => exact .nil
    | opened hle' hclosed hfit hrest => exact .opened (hle.trans hle') hclosed hfit hrest
  | some w =>
    by_cases hlive : later ≤ w.last
    · rw [Option.filter_some_pos (by simpa using hlive)] at h
      cases h with
      | nil => exact .nil
      | opened hle' hclosed hfit hrest => exact .opened (hle.trans hle') hclosed hfit hrest
      | counted hle' hopen hfit hrest => exact .counted (hle.trans hle') hopen hfit hrest
    · rw [Option.filter_some_neg (by simpa using hlive)] at h
      cases h with
      | nil => exact .nil
      | opened hle' hclosed hfit hrest =>
        refine .opened (hle.trans hle') ?_ hfit hrest
        rintro _ ⟨⟩
        exact (Nat.not_le.mp hlive).trans_le hle'

/-- Nothing is admitted before the current time. -/
theorem Admissions.total_eq_zero (h : Admissions capacity length window now admissions)
    (hlate : final < now) : total first final admissions = 0 := by
  induction h with
  | nil => rfl
  | opened hle _ _ _ ih | counted hle _ _ _ ih =>
    rw [total_cons, if_neg (by omega), ih (by omega)]

/-- Within the interval an open window has the rest of its capacity, and each one that can still open has
the whole. By induction on the admissions. -/
theorem Admissions.total_le_of_le (final : ℕ) (h : Admissions capacity length window now admissions)
    (hfirst : first ≤ now) :
    ((∀ w ∈ window, w.last < now) →
      total first final admissions ≤ capacity * openings length now final) ∧
    ∀ w ∈ window, now ≤ w.last →
      total first final admissions ≤
        (capacity - w.used) + capacity * openings length (w.last + 1) final := by
  induction h with
  | nil => simp
  | @opened window now a rest hle hclosed hfit hrest ih =>
    have hnew : total first final (a :: rest) ≤ capacity * openings length a.time final := by
      by_cases hin : a.time ≤ final
      · have hlater := (ih (hfirst.trans hle)).2 _ rfl (Nat.le_add_right _ _)
        rw [total_cons, if_pos ⟨hfirst.trans hle, hin⟩, openings_eq_succ hin, Nat.mul_succ]
        dsimp only at hlater
        omega
      · have hafter : total first final rest = 0 := hrest.total_eq_zero (Nat.not_le.mp hin)
        rw [total_cons, if_neg (by omega), hafter]
        exact Nat.zero_le _
    refine ⟨fun _ => hnew.trans (Nat.mul_le_mul_left _ (openings_antitone hle)), fun w hw _ => ?_⟩
    refine hnew.trans (le_trans ?_ (Nat.le_add_left _ _))
    exact Nat.mul_le_mul_left _ (openings_antitone (hclosed w hw))
  | @counted w now a rest hle hopen hfit hrest ih =>
    refine ⟨fun hclosed => absurd (hclosed w rfl) (by omega), ?_⟩
    rintro _ ⟨⟩ _
    have hlater := (ih (hfirst.trans hle)).2 _ rfl hopen
    dsimp only at hlater
    rw [total_cons]
    split <;> omega

/-- **The law of fixed windows**: within any interval no more is admitted than the capacity for each window
that can meet it. -/
theorem Admissions.total_le (h : Admissions capacity length window now admissions) (first span : ℕ) :
    total first (first + span) admissions ≤
      capacity * ((span + length) / (length + 1) + 1) := by
  have hspan : (span + length) / (length + 1) = openings length (first + 1) (first + span) := by
    rw [openings]
    congr 1
    omega
  rw [hspan]
  -- Up to the first admission within the interval nothing is counted.
  induction h with
  | nil => simp
  | @opened window now a rest hle hclosed hfit hrest ih =>
    by_cases hbefore : a.time < first
    · rw [total_cons, if_neg (by omega), Nat.zero_add]
      exact ih
    · have hwithin := ((Admissions.opened le_rfl hclosed hfit hrest).total_le_of_le
        (first + span) (Nat.not_lt.mp hbefore)).1 hclosed
      refine hwithin.trans (Nat.mul_le_mul_left _ ?_)
      exact (openings_antitone (Nat.not_lt.mp hbefore)).trans (openings_le_succ first)
  | @counted w now a rest hle hopen hfit hrest ih =>
    by_cases hbefore : a.time < first
    · rw [total_cons, if_neg (by omega), Nat.zero_add]
      exact ih
    · have hwithin := ((Admissions.counted le_rfl hopen hfit hrest).total_le_of_le
        (first + span) (Nat.not_lt.mp hbefore)).2 w rfl hopen
      have hlater : capacity * openings length (w.last + 1) (first + span) ≤
          capacity * openings length (first + 1) (first + span) :=
        Nat.mul_le_mul_left _ (openings_antitone (by omega))
      rw [Nat.mul_succ]
      omega

end FixedWindow
