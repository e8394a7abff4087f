import RouteLLM.Evaluation.StructuredAnswers
import RouteLLM.Lib.FloatError

/-!
# Marks of structured answers

The scores of `ExtractionEvaluator` and `JSONEvaluator` are made of shares of fields, in floats. A score is one exactly
where every share is whole: what a missing field takes away is more than the roundings can give back, as long as there
are not more than `2 ^ 40` fields.
-/

namespace PyFloat

/-- The result of an operation whose exact value is neither negative nor huge. -/
theorem onFinite_eq (op : ℚ → ℚ → ℚ) {x y : Binary64} (h0 : 0 ≤ op x.val y.val) (h : op x.val y.val ≤ 2 ^ 53) :
    ∃ z : Binary64, onFinite op (finite x) (finite y) = finite z ∧ z.val = Binary64.round (op x.val y.val) := by
  obtain ⟨z, hz⟩ := Option.isSome_iff_exists.mp (Binary64.isSome_ofRat?_of_le h0 h)
  exact ⟨z, by rw [onFinite, hz]; rfl, Binary64.val_of_ofRat? hz⟩

/-- A small whole number as a float. -/
theorem ratio_one {n : ℕ} (h : n < 2 ^ 53) : ∃ x : Binary64, ratio n 1 = finite x ∧ x.val = n := by
  have hle : (n / (1 : ℕ) : ℚ) ≤ 2 ^ 53 := by
    rw [Nat.cast_one, div_one]
    exact_mod_cast h.le
  obtain ⟨x, hx⟩ := Option.isSome_iff_exists.mp (Binary64.isSome_ofRat?_of_le (by positivity) hle)
  refine ⟨x, by rw [ratio, hx]; rfl, ?_⟩
  rw [Binary64.val_of_ofRat? hx, Nat.cast_one, div_one, Binary64.round_natCast h]

/-- No matched fields are no share of any. -/
theorem ratio_zero (n : ℕ) : ratio 0 n = finite 0 := by
  obtain ⟨x, hx, hval, -⟩ := ratio_eq n.zero_le
  rw [Nat.cast_zero, zero_div, Binary64.round_zero] at hval
  rw [hx, show x = 0 from Binary64.ext hval]

theorem le_finite_iff {x y : Binary64} : (finite x).Le (finite y) ↔ x.val ≤ y.val := by
  simp [Le, value?]

theorem lt_finite_iff {x y : Binary64} : (finite x).Lt (finite y) ↔ x.val < y.val := by
  simp [Lt, value?]

end PyFloat

namespace RouteLLM

/-- A mark that is one exactly where a condition holds, and is by `2 ^ -n` less elsewhere. -/
def Mark (n : ℕ) (p : Prop) (x : PyFloat) : Prop :=
  ∃ b : Binary64, x = .finite b ∧ 0 ≤ b.val ∧ (p ∧ b.val = 1 ∨ ¬ p ∧ b.val ≤ 1 - 1 / 2 ^ n)

/-- The share of the matched fields in all is one exactly where all match. -/
theorem ratio_mark {m k : ℕ} (hk : m ≤ k) (hk0 : 0 < k) (hk' : k ≤ 2 ^ 40) : Mark 42 (m = k) (PyFloat.ratio m k) := by
  obtain ⟨x, hx, hval, hlow, hhigh⟩ := PyFloat.ratio_eq hk
  refine ⟨x, hx, hlow, ?_⟩
  rcases hk.eq_or_lt with rfl | hlt
  · refine .inl ⟨rfl, ?_⟩
    rw [hval, div_self (by exact_mod_cast hk0.ne'), Binary64.round_one]
  · refine .inr ⟨hlt.ne, ?_⟩
    have hpos : (0 : ℚ) < k := by exact_mod_cast hk0
    have hkq : (k : ℚ) ≤ 2 ^ 40 := by exact_mod_cast hk'
    have hmk : (m : ℚ) + 1 ≤ k := by exact_mod_cast hlt
    have hsmall : (k : ℚ) / 2 ^ 42 ≤ 1 := by
      rw [div_le_one (by positivity)]
      exact hkq.trans (by norm_num)
    rw [hval]
    refine Binary64.round_le (by positivity) (Binary64.round_one_sub (by norm_num)) ?_
    rw [div_le_iff₀ hpos, sub_mul, one_mul, one_div_mul_eq_div]
    linarith

/-- `_f1` without matched fields. -/
theorem f1_zero {k n : ℕ} (h : ¬ (k = 0 ∧ n = 0)) : f1 0 k n = .finite 0 := by
  have hprecision : (if n = 0 then PyFloat.finite 0 else PyFloat.ratio 0 n) = .finite 0 := by
    rw [PyFloat.ratio_zero, ite_self]
  have hrecall : (if k = 0 then PyFloat.finite 0 else PyFloat.ratio 0 k) = .finite 0 := by
    rw [PyFloat.ratio_zero, ite_self]
  have hsum : (0 : Binary64).val + (0 : Binary64).val = 0 := add_zero 0
  obtain ⟨t, ht, htval⟩ := PyFloat.onFinite_eq (· + ·) (x := 0) (y := 0) hsum.ge (hsum.le.trans (by norm_num))
  have hfalse : (PyFloat.finite t).truthy = false := by
    rw [hsum, Binary64.round_zero] at htval
    have hzero : t = 0 := Binary64.ext htval
    simp [PyFloat.truthy, hzero]
  simp only [f1, if_neg h, hprecision, hrecall, ht, hfalse, Bool.false_eq_true, if_false]

/-- `_f1` of some matched fields, without the tests for zero. -/
theorem f1_pos {m k n : ℕ} (hm : 0 < m) (hk : m ≤ k) (hn : m ≤ n) (hn' : n ≤ 2 ^ 40) :
    ∃ b : Binary64, f1 m k n = .finite b ∧ b.val = Binary64.round (Binary64.round (Binary64.round
      (2 * Binary64.round (m / n)) * Binary64.round (m / k)) /
        Binary64.round (Binary64.round (m / n) + Binary64.round (m / k))) := by
  obtain ⟨p, hp, hpval, hp0, hp1⟩ := PyFloat.ratio_eq hn
  obtain ⟨r, hr, hrval, hr0, hr1⟩ := PyFloat.ratio_eq hk
  obtain ⟨two, htwo, htwoval⟩ := PyFloat.ratio_one (n := 2) (by norm_num)
  rw [Nat.cast_ofNat] at htwoval
  obtain ⟨t, ht, htval⟩ := PyFloat.onFinite_eq (· + ·) (x := p) (y := r) (add_nonneg hp0 hr0) (by linarith)
  obtain ⟨d, hd, hdval⟩ := PyFloat.onFinite_eq (· * ·) (x := two) (y := p) (by rw [htwoval]; linarith)
    (by rw [htwoval]; linarith)
  have hd0 : 0 ≤ d.val := hdval ▸ Binary64.round_nonneg (by rw [htwoval]; linarith)
  have hd2 : d.val ≤ 2 := hdval ▸ Binary64.round_le (by rw [htwoval]; linarith) Binary64.round_two (by rw [htwoval]; linarith)
  have hdr : d.val * r.val ≤ 2 := by
    calc d.val * r.val ≤ 2 * 1 := mul_le_mul hd2 hr1 hr0 (by norm_num)
      _ = 2 := mul_one 2
  obtain ⟨e, he, heval⟩ := PyFloat.onFinite_eq (· * ·) (x := d) (y := r) (mul_nonneg hd0 hr0) (hdr.trans (by norm_num))
  have he0 : 0 ≤ e.val := heval ▸ Binary64.round_nonneg (mul_nonneg hd0 hr0)
  have he2 : e.val ≤ 2 := heval ▸ Binary64.round_le (mul_nonneg hd0 hr0) Binary64.round_two hdr
  -- The sum of the shares is not tiny, by which the quotient is not huge.
  have hsmall : (2 : ℚ) ^ (-50 : ℤ) ≤ t.val := by
    calc (2 : ℚ) ^ (-50 : ℤ) ≤ p.val := hpval ▸ (Binary64.round_share hm hn hn').2.2
      _ ≤ t.val := htval ▸ Binary64.le_round hp0 (hpval ▸ Binary64.round_round _) (by linarith)
  have ht0 : 0 < t.val := lt_of_lt_of_le (by positivity) hsmall
  have hquotient : e.val / t.val ≤ 2 ^ 53 := by
    rw [div_le_iff₀ ht0]
    norm_num at hsmall ⊢
    linarith
  obtain ⟨b, hb, hbval⟩ := PyFloat.onFinite_eq (· / ·) (x := e) (y := t) (div_nonneg he0 ht0.le) hquotient
  refine ⟨b, ?_, ?_⟩
  · have htrue : (PyFloat.finite t).truthy = true := by
      have hne : t ≠ 0 := fun h => ht0.ne' (congrArg Binary64.val h)
      simp [PyFloat.truthy, hne]
    have hk0 : k ≠ 0 := by omega
    have hn0 : n ≠ 0 := by omega
    simp only [f1, hk0, hn0, false_and, if_false, hp, hr, ht, htrue, if_true, htwo, hd, he, hb]
  · rw [hbval, heval, hdval, htval, htwoval, hpval, hrval]

/-- **`_f1` is one exactly where every expected field is matched and there are no others.** -/
theorem f1_mark {m k n : ℕ} (hk : m ≤ k) (hn : m ≤ n) (hk' : k ≤ 2 ^ 40) (hn' : n ≤ 2 ^ 40) :
    Mark 42 (m = k ∧ k = n) (f1 m k n) := by
  by_cases hnone : k = 0 ∧ n = 0
  · obtain ⟨rfl, rfl⟩ := hnone
    exact ⟨1, rfl, zero_le_one, .inl ⟨⟨Nat.le_zero.mp hk, rfl⟩, Binary64.val_one⟩⟩
  · rcases Nat.eq_zero_or_pos m with rfl | hm
    · exact ⟨0, f1_zero hnone, le_rfl, .inr ⟨by omega, by rw [Binary64.val_zero]; norm_num⟩⟩
    · obtain ⟨b, hb, hval⟩ := f1_pos hm hk hn hn'
      refine ⟨b, hb, hval ▸ ?_, ?_⟩
      · have hshare : ∀ j : ℕ, 0 ≤ Binary64.round (m / j : ℚ) := fun j => Binary64.round_nonneg (by positivity)
        exact Binary64.round_nonneg (div_nonneg (Binary64.round_nonneg (mul_nonneg (Binary64.round_nonneg
          (mul_nonneg (by norm_num) (hshare n))) (hshare k))) (Binary64.round_nonneg (add_nonneg (hshare n) (hshare k))))
      by_cases hall : m = k ∧ k = n
      · obtain ⟨rfl, rfl⟩ := hall
        refine .inl ⟨⟨rfl, rfl⟩, ?_⟩
        rw [hval, div_self (by exact_mod_cast hm.ne'), Binary64.round_one, mul_one, mul_one,
          one_add_one_eq_two, Binary64.round_two, Binary64.round_two, div_self two_ne_zero, Binary64.round_one]
      · exact .inr ⟨hall, hval ▸ Binary64.round_harmonic_le hm hn hk (by omega) hn' hk'⟩

/-- The mean of one and two marks is one exactly where both are. -/
theorem mean_mark {p q : Prop} {schema value : PyFloat} (hs : Mark 42 p schema) (hv : Mark 42 q value) :
    Mark 44 (p ∧ q) (PyFloat.onFinite (· / ·) (PyFloat.onFinite (· + ·) (PyFloat.onFinite (· + ·) (.finite 1) schema)
      value) (PyFloat.ratio 3 1)) := by
  obtain ⟨s, rfl, hs0, hs⟩ := hs
  obtain ⟨v, rfl, hv0, hv⟩ := hv
  have hs1 : s.val ≤ 1 := by rcases hs with ⟨-, hs⟩ | ⟨-, hs⟩ <;> norm_num at hs ⊢ <;> linarith
  have hv1 : v.val ≤ 1 := by rcases hv with ⟨-, hv⟩ | ⟨-, hv⟩ <;> norm_num at hv ⊢ <;> linarith
  obtain ⟨three, hthree, hthreeval⟩ := PyFloat.ratio_one (n := 3) (by norm_num)
  rw [Nat.cast_ofNat] at hthreeval
  have hfirst : (1 : Binary64).val + s.val ≤ 2 := by rw [Binary64.val_one]; linarith
  have hfirst0 : 0 ≤ (1 : Binary64).val + s.val := by rw [Binary64.val_one]; linarith
  obtain ⟨t, ht, htval⟩ := PyFloat.onFinite_eq (· + ·) (x := 1) (y := s) hfirst0 (hfirst.trans (by norm_num))
  have ht0 : 0 ≤ t.val := htval ▸ Binary64.round_nonneg hfirst0
  have ht2 : t.val ≤ 2 := htval ▸ Binary64.round_le hfirst0 Binary64.round_two hfirst
  obtain ⟨u, hu, huval⟩ := PyFloat.onFinite_eq (· + ·) (x := t) (y := v) (add_nonneg ht0 hv0) (by linarith)
  have hu0 : 0 ≤ u.val := huval ▸ Binary64.round_nonneg (add_nonneg ht0 hv0)
  have hu3 : u.val ≤ 3 := huval ▸ Binary64.round_le (add_nonneg ht0 hv0) Binary64.round_three (by linarith)
  obtain ⟨b, hb, hbval⟩ := PyFloat.onFinite_eq (· / ·) (x := u) (y := three) (by rw [hthreeval]; positivity)
    (by rw [hthreeval]; linarith)
  rw [hthreeval] at hbval
  refine ⟨b, by rw [ht, hu, hthree, hb], hbval ▸ Binary64.round_nonneg (by positivity), ?_⟩
  by_cases hboth : p ∧ q
  · refine .inl ⟨hboth, ?_⟩
    have hs' : s.val = 1 := (hs.resolve_right fun h => h.1 hboth.1).2
    have hv' : v.val = 1 := (hv.resolve_right fun h => h.1 hboth.2).2
    rw [Binary64.val_one, hs', one_add_one_eq_two, Binary64.round_two] at htval
    rw [htval, hv', two_add_one_eq_three, Binary64.round_three] at huval
    rw [hbval, huval, div_self three_ne_zero, Binary64.round_one]
  · refine .inr ⟨hboth, ?_⟩
    -- What one mark misses is more than the sums can round away.
    have hsub2 := Binary64.round_sub (a := 2) (n := 42) (by norm_num) (by norm_num) (by norm_num)
    have hsub3 := Binary64.round_sub (a := 3) (n := 42) (by norm_num) (by norm_num) (by norm_num)
    rw [Nat.cast_ofNat] at hsub2 hsub3
    have hsum : t.val + v.val ≤ 3 - 1 / 2 ^ 42 := by
      rcases hs with ⟨hp, -⟩ | ⟨-, hs⟩
      · have hv' := (hv.resolve_left fun h => hboth ⟨hp, h.1⟩).2
        linarith
      · have ht' : t.val ≤ 2 - 1 / 2 ^ 42 :=
          htval ▸ Binary64.round_le hfirst0 hsub2 (by rw [Binary64.val_one]; linarith)
        linarith
    have hu' : u.val ≤ 3 - 1 / 2 ^ 42 := huval ▸ Binary64.round_le (add_nonneg ht0 hv0) hsub3 hsum
    rw [hbval]
    refine Binary64.round_le (by positivity) (Binary64.round_one_sub (by norm_num)) ?_
    norm_num at hu' ⊢
    linarith

/-- A mark reaches the default threshold exactly where it is one. -/
theorem Mark.acceptable_iff {n : ℕ} {p : Prop} {score : PyFloat} (h : Mark n p score) :
    acceptable none score ↔ p := by
  obtain ⟨b, rfl, hb0, hb⟩ := h
  have hpow : (0 : ℚ) < 1 / 2 ^ n := by positivity
  rw [acceptable, Option.getD_none, decide_eq_true_eq]
  rcases hb with ⟨hp, hb⟩ | ⟨hp, hb⟩
  · have hone : b = 1 := Binary64.ext (by rw [hb, Binary64.val_one])
    refine iff_of_true ?_ hp
    rw [hone, clampScore, if_pos (PyFloat.lt_finite_iff.mpr zero_lt_one), if_neg (by rw [PyFloat.lt_finite_iff]; exact lt_irrefl _)]
    exact PyFloat.le_finite_iff.mpr le_rfl
  · refine iff_of_false ?_ hp
    have hlt : b.val < 1 := by linarith
    have hlow : (PyFloat.finite b).Lt (.finite 1) := PyFloat.lt_finite_iff.mpr hlt
    rw [clampScore]
    by_cases hpos : (PyFloat.finite 0).Lt (.finite b)
    · rw [if_pos hpos, if_pos hlow, PyFloat.le_finite_iff, Binary64.val_one]
      exact not_le.mpr hlt
    · rw [if_neg hpos, if_pos (PyFloat.lt_finite_iff.mpr zero_lt_one), PyFloat.le_finite_iff, Binary64.val_one, Binary64.val_zero]
      norm_num

end RouteLLM
