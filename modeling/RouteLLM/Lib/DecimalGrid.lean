import RouteLLM.Lib.DecimalSum

/-!
# Decimals on a grid

Rounding to the precision is monotone. So a computation with multiples of a power of ten is exact as long as its
result stays below the numbers that need more digits, and once it leaves them it stays above: whether it was
exact can be told from its result. `quantize` tells, since it fails on a result that is too large.
-/

namespace Decimal

variable {prec : ℕ} {a b d : Decimal}

/-! ## Rounding is monotone -/

/-- Rounding a positive number is rounding a multiple of the unit of its last kept digit. -/
theorem exists_unit (hprec : 0 < prec) (hd : 0 < d.coeff) : ∃ u : ℤ, (10 : ℚ) ^ (u + prec - 1) ≤ d.toRat ∧
    d.toRat < 10 ^ (u + prec) ∧ (fix prec d).toRat = roundHalfEven (d.toRat / 10 ^ u) * 10 ^ u ∧
      digits (fix prec d).coeff.natAbs ≤ prec := by
  obtain ⟨coeff, e⟩ := d
  obtain ⟨c, rfl⟩ := Int.eq_ofNat_of_zero_le (le_of_lt hd)
  have hc : c ≠ 0 := by
    rintro rfl
    exact absurd hd (lt_irrefl _)
  have hlow := pow_le_of_ne_zero hc
  have hhigh := lt_pow_digits c
  have hten : (10 : ℚ) ≠ 0 := by norm_num
  have hpos := digits_pos c
  have hnat : ((c : ℤ)).natAbs = c := rfl
  have hval : ∀ k : ℕ, (⟨c, e⟩ : Decimal).toRat / 10 ^ (e + k) = c / 10 ^ k := by
    intro k
    rw [toRat, zpow_add₀ hten, zpow_natCast]
    field_simp
    rw [Int.cast_natCast]
  refine ⟨e + digits c - prec, ?_, ?_, ?_⟩
  · have hexp : e + digits c - prec + prec - 1 = e + ((digits c - 1 : ℕ) : ℤ) := by omega
    rw [hexp, zpow_add₀ hten, toRat, mul_comm, zpow_natCast]
    refine mul_le_mul_of_nonneg_right ?_ (by positivity)
    dsimp only
    exact_mod_cast hlow
  · rw [sub_add_cancel, zpow_add₀ hten, toRat, mul_comm (10 ^ e), zpow_natCast]
    refine mul_lt_mul_of_pos_right ?_ (by positivity)
    dsimp only
    exact_mod_cast hhigh
  by_cases hfit : digits c ≤ prec
  · obtain ⟨k, hk⟩ := Nat.exists_eq_add_of_le hfit
    have hu : e + digits c - prec = e - k := by omega
    have hint : (⟨c, e⟩ : Decimal).toRat / 10 ^ (e - k) = ((c * 10 ^ k : ℕ) : ℚ) := by
      rw [toRat, zpow_sub₀ hten, zpow_natCast]
      field_simp
      push_cast
      ring
    rw [fix_of_digits_le (show digits ((c : ℤ)).natAbs ≤ prec from hfit), hu, hint, roundHalfEven_natCast, ← hu]
    refine ⟨?_, hfit⟩
    rw [hu, toRat, zpow_sub₀ hten, zpow_natCast]
    push_cast
    field_simp
  · obtain ⟨k, hk⟩ := Nat.exists_eq_add_of_le (le_of_not_ge hfit)
    have hu : e + digits c - prec = e + k := by omega
    have hsub : digits c - prec = k := by omega
    rw [hu, hval k]
    have hround0 : 0 ≤ roundHalfEven ((c : ℚ) / 10 ^ k) := roundHalfEven_nonneg (by positivity)
    have hround : roundHalfEven ((c : ℚ) / 10 ^ k) ≤ 10 ^ prec := by
      refine roundHalfEven_le ?_
      rw [div_le_iff₀ (by positivity)]
      have hle : c ≤ 10 ^ prec * 10 ^ k := by
        rw [← pow_add, ← hk]
        exact hhigh.le
      exact_mod_cast hle
    rw [fix, if_neg (show ¬ digits ((c : ℤ)).natAbs ≤ prec from hfit)]
    dsimp only
    rw [hnat, hsub, Int.cast_natCast]
    by_cases hcarry : digits (roundHalfEven ((c : ℚ) / 10 ^ k)).natAbs ≤ prec
    · rw [if_pos hcarry]
      exact ⟨rfl, hcarry⟩
    · rw [if_neg hcarry]
      rw [digits_le_iff hprec, not_lt] at hcarry
      obtain ⟨p, rfl⟩ := Nat.exists_eq_succ_of_ne_zero hprec.ne'
      have heq : roundHalfEven ((c : ℚ) / 10 ^ k) = 10 ^ (p + 1) := by
        refine le_antisymm hround ?_
        have hcast : ((10 ^ (p + 1) : ℕ) : ℤ) ≤ (roundHalfEven ((c : ℚ) / 10 ^ k)).natAbs := by
          exact_mod_cast hcarry
        rw [Int.natAbs_of_nonneg hround0] at hcast
        exact_mod_cast hcast
      have hten' : (10 : ℤ) ^ (p + 1) / 10 = 10 ^ p := by
        rw [pow_succ]
        exact Int.mul_ediv_cancel _ (by norm_num)
      rw [heq, hten']
      constructor
      · rw [toRat, zpow_add₀ hten _ 1, zpow_one]
        push_cast
        ring
      · rw [digits_le_iff hprec, Int.natAbs_pow]
        exact Nat.pow_lt_pow_right (by norm_num) (Nat.lt_succ_self p)

theorem coeff_eq_zero_or_pos (hd : 0 ≤ d.coeff) : d.coeff = 0 ∨ 0 < d.coeff :=
  (lt_or_eq_of_le hd).symm.imp_left Eq.symm

/-- A rounded number fits the precision. -/
theorem digits_fix_le (hprec : 0 < prec) (hd : 0 ≤ d.coeff) : digits (fix prec d).coeff.natAbs ≤ prec := by
  rcases coeff_eq_zero_or_pos hd with hzero | hpos
  · have hone : digits d.coeff.natAbs ≤ prec := by
      rw [hzero]
      exact hprec
    rwa [fix_of_digits_le hone]
  · obtain ⟨_, _, _, _, hdigits⟩ := exists_unit hprec hpos
    exact hdigits

theorem toRat_nonneg (hd : 0 ≤ d.coeff) : 0 ≤ d.toRat := by
  have hcast : (0 : ℚ) ≤ d.coeff := by exact_mod_cast hd
  exact mul_nonneg hcast (by positivity)

/-- Rounding is monotone on the nonnegative numbers. -/
theorem fix_mono (hprec : 0 < prec) (ha : 0 ≤ a.coeff) (hb : 0 ≤ b.coeff) (h : a.toRat ≤ b.toRat) :
    (fix prec a).toRat ≤ (fix prec b).toRat := by
  rcases coeff_eq_zero_or_pos ha with hzero | hapos
  · have hone : digits a.coeff.natAbs ≤ prec := by
      rw [hzero]
      exact hprec
    rw [fix_of_digits_le hone, toRat, hzero, Int.cast_zero, zero_mul]
    exact toRat_nonneg (fix_nonneg hb)
  rcases coeff_eq_zero_or_pos hb with hzero | hbpos
  · have hapos' : 0 < a.toRat := mul_pos (by exact_mod_cast hapos) (by positivity)
    rw [toRat.eq_def b, hzero, Int.cast_zero, zero_mul] at h
    exact absurd h (not_le.mpr hapos')
  obtain ⟨u, hlow, hhigh, hu, _⟩ := exists_unit hprec hapos
  obtain ⟨v, hlow', hhigh', hv, _⟩ := exists_unit hprec hbpos
  have hone : (1 : ℚ) < 10 := by norm_num
  have hten : (10 : ℚ) ≠ 0 := by norm_num
  rw [hu, hv]
  rcases lt_trichotomy u v with huv | rfl | huv
  · -- Between two units stands a power of ten, which rounding does not cross.
    have hleft : (roundHalfEven (a.toRat / 10 ^ u) : ℚ) ≤ ((10 ^ prec : ℤ) : ℚ) := by
      refine Int.cast_le.mpr (roundHalfEven_le ?_)
      rw [div_le_iff₀ (by positivity)]
      push_cast
      rw [← zpow_natCast, ← zpow_add₀ hten, add_comm]
      exact hhigh.le
    have hright : ((10 ^ (prec - 1) : ℤ) : ℚ) ≤ roundHalfEven (b.toRat / 10 ^ v) := by
      refine Int.cast_le.mpr (le_roundHalfEven ?_)
      rw [le_div_iff₀ (by positivity)]
      push_cast
      rw [← zpow_natCast, ← zpow_add₀ hten]
      refine le_of_eq_of_le (congrArg _ ?_) hlow'
      omega
    calc (roundHalfEven (a.toRat / 10 ^ u) : ℚ) * 10 ^ u
        ≤ ((10 ^ prec : ℤ) : ℚ) * 10 ^ u := mul_le_mul_of_nonneg_right hleft (by positivity)
      _ = 10 ^ (prec + u) := by
        push_cast
        rw [← zpow_natCast, ← zpow_add₀ hten]
      _ ≤ 10 ^ (((prec - 1 : ℕ) : ℤ) + v) := zpow_le_zpow_right₀ hone.le (by omega)
      _ = ((10 ^ (prec - 1) : ℤ) : ℚ) * 10 ^ v := by
        push_cast
        rw [← zpow_natCast, ← zpow_add₀ hten]
      _ ≤ roundHalfEven (b.toRat / 10 ^ v) * 10 ^ v := mul_le_mul_of_nonneg_right hright (by positivity)
  · refine mul_le_mul_of_nonneg_right ?_ (by positivity)
    exact_mod_cast roundHalfEven_mono (div_le_div_of_nonneg_right h (by positivity))
  · have hlt : (10 : ℚ) ^ (v + prec) ≤ 10 ^ (u + prec - 1) := zpow_le_zpow_right₀ hone.le (by omega)
    exact absurd (hhigh'.trans_le (hlt.trans hlow)) (not_lt.mpr h)

/-! ## Multiples of a power of ten -/

/-- The computed number is the exact one, a multiple of `10 ^ e`, as long as the precision reaches it. Beyond, both
are too large for the precision. -/
structure Follows (prec : ℕ) (e : ℤ) (d : Decimal) (q : ℚ) : Prop where
  nonneg : 0 ≤ d.coeff
  grid : ∃ n : ℕ, q = n * 10 ^ e
  value : (d.toRat = q ∧ q < 10 ^ (e + prec)) ∨ ((10 : ℚ) ^ (e + prec) ≤ d.toRat ∧ (10 : ℚ) ^ (e + prec) ≤ q)

variable {e : ℤ} {p q : ℚ}

/-- A number that is too large stays too large when it is rounded. -/
theorem le_toRat_fix (hprec : 0 < prec) (hd : 0 ≤ d.coeff) (h : (10 : ℚ) ^ (e + prec) ≤ d.toRat) :
    (10 : ℚ) ^ (e + prec) ≤ (fix prec d).toRat := by
  have hone : digits ((⟨1, e + prec⟩ : Decimal).coeff).natAbs ≤ prec := hprec
  have hval : (⟨1, e + prec⟩ : Decimal).toRat = 10 ^ (e + prec) := by
    rw [toRat, Int.cast_one, one_mul]
  have hmono := fix_mono hprec (a := ⟨1, e + prec⟩) zero_le_one hd (by rwa [hval])
  rwa [fix_of_digits_le hone, hval] at hmono

/-- An operation that is exact before it rounds. -/
theorem Follows.fix (hprec : 0 < prec) (hd : 0 ≤ d.coeff) (hgrid : ∃ n : ℕ, q = n * 10 ^ e)
    (h : d.toRat = q ∨ ((10 : ℚ) ^ (e + prec) ≤ d.toRat ∧ (10 : ℚ) ^ (e + prec) ≤ q)) :
    Follows prec e (fix prec d) q := by
  refine ⟨fix_nonneg hd, hgrid, ?_⟩
  by_cases hsmall : q < 10 ^ (e + prec)
  · have hval : d.toRat = q := h.resolve_right fun hlarge => absurd hsmall (not_lt.mpr hlarge.2)
    obtain ⟨n, hn⟩ := hgrid
    have hlt : n < 10 ^ prec := by
      have hten : (10 : ℚ) ≠ 0 := by norm_num
      rw [hn, zpow_add₀ hten, mul_comm, zpow_natCast] at hsmall
      have hcast := lt_of_mul_lt_mul_left hsmall (by positivity)
      exact_mod_cast hcast
    have hrep : Representable prec d.toRat :=
      ⟨⟨n, e⟩, (digits_le_iff hprec).mpr hlt, by rw [hval, hn, toRat, Int.cast_natCast]⟩
    exact Or.inl ⟨by rw [toRat_fix_of_representable hrep, hval], hsmall⟩
  · refine Or.inr ⟨?_, not_lt.mp hsmall⟩
    rcases h with hval | hlarge
    · exact le_toRat_fix hprec hd (by rw [hval]; exact not_lt.mp hsmall)
    · exact le_toRat_fix hprec hd hlarge.1

theorem Follows.zero : Follows prec e (ofInt 0) 0 := by
  refine ⟨le_rfl, ⟨0, by rw [Nat.cast_zero, zero_mul]⟩, Or.inl ⟨by rw [toRat_ofInt, Int.cast_zero], ?_⟩⟩
  positivity

theorem Follows.exact_nonneg (h : Follows prec e d q) : 0 ≤ q := by
  obtain ⟨n, rfl⟩ := h.grid
  positivity

/-- A sum follows the exact sum. -/
theorem Follows.add (hprec : 0 < prec) (ha : Follows prec e a p) (hb : Follows prec e b q) :
    Follows prec e (add prec a b) (p + q) := by
  obtain ⟨m, hm⟩ := ha.grid
  obtain ⟨n, hn⟩ := hb.grid
  have hp := ha.exact_nonneg
  have hq := hb.exact_nonneg
  have hda := toRat_nonneg ha.nonneg
  have hdb := toRat_nonneg hb.nonneg
  have hnonneg : 0 ≤ (addExact a b).coeff := by
    have ha' := ha.nonneg
    have hb' := hb.nonneg
    simp only [addExact]
    positivity
  refine Follows.fix hprec hnonneg ⟨m + n, ?_⟩ ?_
  · rw [hm, hn]
    push_cast
    ring
  · rw [toRat_addExact]
    rcases ha.value with ⟨hva, _⟩ | hlarge
    · rcases hb.value with ⟨hvb, _⟩ | hlarge
      · exact Or.inl (by rw [hva, hvb])
      · exact Or.inr ⟨by linarith [hlarge.1], by linarith [hlarge.2]⟩
    · exact Or.inr ⟨by linarith [hlarge.1], by linarith [hlarge.2]⟩

/-- A multiple of a number on the grid follows the exact product. -/
theorem Follows.mul_natCast (hprec : 0 < prec) (n c : ℕ) :
    Follows prec e (mul prec (ofInt n) ⟨c, e⟩) (n * (c * 10 ^ e)) := by
  refine Follows.fix hprec (mul_nonneg (Int.natCast_nonneg n) (Int.natCast_nonneg c)) ⟨n * c, ?_⟩ (Or.inl ?_)
  · push_cast
    ring
  · rw [toRat_mulExact, toRat_ofInt, toRat]
    push_cast
    rfl

/-- A quotient by a power of ten follows the exact quotient, on a finer grid. -/
theorem Follows.div_pow {k : ℕ} (h : Follows prec e d q) (hfit : digits d.coeff.natAbs ≤ prec) :
    Follows prec (e - k) (div prec d ⟨10 ^ k, 0⟩) (q / 10 ^ k) := by
  have hten : (10 : ℚ) ≠ 0 := by norm_num
  have hbound : (10 : ℚ) ^ (e - k + prec) = 10 ^ (e + prec) / 10 ^ k := by
    rw [sub_add_eq_add_sub, zpow_sub₀ hten, zpow_natCast]
  refine ⟨div_nonneg h.nonneg (by positivity), ?_, ?_⟩
  · obtain ⟨n, hn⟩ := h.grid
    refine ⟨n, ?_⟩
    rw [hn, zpow_sub₀ hten, zpow_natCast, mul_div_assoc]
  · rw [toRat_div_pow hfit, hbound]
    refine h.value.imp (fun hv => ⟨by rw [hv.1], ?_⟩) fun hv => ⟨?_, ?_⟩
    · exact div_lt_div_of_pos_right hv.2 (by positivity)
    · exact div_le_div_of_nonneg_right hv.1 (by positivity)
    · exact div_le_div_of_nonneg_right hv.2 (by positivity)

/-- A sum of a list follows the exact sum. -/
theorem Follows.sumFrom {ι : Type} (hprec : 0 < prec) (terms : List ι) {f : ι → Decimal} {g : ι → ℚ}
    (h : ∀ i ∈ terms, Follows prec e (f i) (g i)) {start : Decimal} {q : ℚ} (hstart : Follows prec e start q) :
    Follows prec e (sumFrom prec start (terms.map f)) (q + (terms.map g).sum) := by
  induction terms generalizing start q with
  | nil =>
    rw [List.map_nil, List.map_nil, List.sum_nil, add_zero]
    exact hstart
  | cons i terms ih =>
    rw [List.map_cons, List.map_cons, List.sum_cons, ← add_assoc, sumFrom_cons]
    exact ih (fun j hj => h j (List.mem_cons_of_mem i hj)) (hstart.add hprec (h i List.mem_cons_self))

/-! ## Quantized numbers -/

/-- `quantize(Decimal("1E<exp>"))`, which fails where the result does not fit the precision. -/
def quantize (prec : ℕ) (exp : ℤ) (d : Decimal) : Option Decimal :=
  let c := roundHalfEven (d.toRat / 10 ^ exp)
  if digits c.natAbs ≤ prec then some ⟨c, exp⟩ else none

theorem toRat_quantize {r : Decimal} (h : quantize prec e d = some r) :
    r.toRat = roundHalfEven (d.toRat / 10 ^ e) * 10 ^ e ∧
      digits (roundHalfEven (d.toRat / 10 ^ e)).natAbs ≤ prec := by
  rw [quantize] at h
  split at h
  · rename_i hdigits
    cases h
    exact ⟨rfl, hdigits⟩
  · cases h

/-- Quantizing is monotone. -/
theorem quantize_mono {r s : Decimal} (ha : quantize prec e a = some r) (hb : quantize prec e b = some s)
    (h : a.toRat ≤ b.toRat) : r.toRat ≤ s.toRat := by
  rw [(toRat_quantize ha).1, (toRat_quantize hb).1]
  refine mul_le_mul_of_nonneg_right ?_ (by positivity)
  exact_mod_cast roundHalfEven_mono (div_le_div_of_nonneg_right h (by positivity))

/-- A number that can be quantized is not too large. -/
theorem lt_of_quantize {r : Decimal} (hprec : 0 < prec) (h : quantize prec e d = some r) :
    d.toRat < 10 ^ (e + prec) := by
  by_contra hlarge
  have hten : (10 : ℚ) ≠ 0 := by norm_num
  have hround : (10 : ℤ) ^ prec ≤ roundHalfEven (d.toRat / 10 ^ e) := by
    refine le_roundHalfEven ?_
    rw [le_div_iff₀ (by positivity)]
    push_cast
    rw [← zpow_natCast, ← zpow_add₀ hten, add_comm]
    exact not_lt.mp hlarge
  have hlt := (digits_le_iff hprec).mp (toRat_quantize h).2
  have hcast : ((roundHalfEven (d.toRat / 10 ^ e)).natAbs : ℤ) < 10 ^ prec := by exact_mod_cast hlt
  have habs := Int.le_natAbs (a := roundHalfEven (d.toRat / 10 ^ e))
  omega

/-- A number that can be quantized on its grid is the exact one. -/
theorem Follows.toRat_of_quantize {r : Decimal} (h : Follows prec e d q) (hprec : 0 < prec)
    (hq : quantize prec e d = some r) : d.toRat = q :=
  (h.value.resolve_right fun hlarge => absurd (lt_of_quantize hprec hq) (not_lt.mpr hlarge.1)).1

end Decimal
