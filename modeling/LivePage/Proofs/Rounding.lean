/-
Rounding to the nearest double. A fraction lies between two neighbouring
magnitudes and goes to the nearer one, or to the one of even rank. So a decimal
between the midpoints around a magnitude is read as that magnitude.

* `unitsAt_eq`, `unitsAt_strictMono`: the magnitudes of one binade, and their order;
* `ofUnitRatio_split`: what rounding does between two neighbours;
* `ofUnitRatio_eq_ofRank`: what lies between the midpoints around a magnitude;
* `ofDecimal_of_readsBack`: decimals that read back as a finite magnitude.
-/
import LivePage.Double.Shortest
import LivePage.Proofs.DoubleRange

namespace LivePage

namespace Magnitude

/-! ### Magnitudes in order -/

/-- The magnitudes of a binade are the multiples of its spacing, up to the first of the next. -/
lemma unitsAt_eq {shift q : ℕ} (hq : q ≤ 2 ^ 53) (hnormal : shift ≠ 0 → 2 ^ 52 ≤ q) :
    unitsAt (shift * 2 ^ 52 + q) = q * 2 ^ shift := by
  have hpow : 2 ^ 53 = 2 * 2 ^ 52 := by norm_num
  have hpos : 0 < 2 ^ 52 := by positivity
  simp only [unitsAt, pow_eq]
  generalize 2 ^ 52 = p at *
  rw [hpow] at hq
  rcases lt_or_ge q p with hlt | hge
  · have hshift : shift = 0 := by
      by_contra h
      have := hnormal h
      omega
    rw [hshift, zero_mul, zero_add, if_pos hlt, pow_zero, mul_one]
  · have hnot : ¬shift * p + q < p := by
      have := Nat.zero_le (shift * p)
      omega
    rw [if_neg hnot]
    rcases hq.eq_or_lt with rfl | hlt
    · have hrank : shift * p + 2 * p = (shift + 2) * p := by ring
      rw [hrank, Nat.mul_mod_left, Nat.mul_div_cancel _ hpos, Nat.add_zero,
        show shift + 2 - 1 = shift + 1 by omega, pow_succ]
      ring
    · obtain ⟨t, rfl⟩ := Nat.exists_eq_add_of_le hge
      have hrank : shift * p + (p + t) = t + (shift + 1) * p := by ring
      rw [hrank, Nat.add_mul_mod_self_right, Nat.add_mul_div_right _ _ hpos,
        Nat.mod_eq_of_lt (by omega), Nat.div_eq_of_lt (by omega), Nat.zero_add,
        Nat.add_sub_cancel]

/-- Every rank is that of a multiple in some binade. -/
lemma exists_binade (r : ℕ) :
    ∃ shift q, r = shift * 2 ^ 52 + q ∧ q < 2 ^ 53 ∧ (shift ≠ 0 → 2 ^ 52 ≤ q) := by
  rcases lt_or_ge r (2 ^ 52) with hlt | hge
  · exact ⟨0, r, by omega, by omega, by simp⟩
  · exact ⟨r / 2 ^ 52 - 1, r % 2 ^ 52 + 2 ^ 52, by omega, by omega, fun _ => by omega⟩

/-- **Magnitudes grow with their ranks.** -/
lemma unitsAt_strictMono : StrictMono unitsAt := by
  refine strictMono_nat_of_lt_succ fun r => ?_
  obtain ⟨shift, q, rfl, hq, hnormal⟩ := exists_binade r
  have hnext : shift ≠ 0 → 2 ^ 52 ≤ q + 1 := fun h => (hnormal h).trans (Nat.le_succ q)
  rw [Nat.add_assoc, unitsAt_eq hq.le hnormal, unitsAt_eq hq hnext]
  exact Nat.mul_lt_mul_of_pos_right (Nat.lt_succ_self q) (by positivity)

/-! ### Rounding -/

/-- **Rounding to nearest.** A fraction lies between two neighbouring magnitudes. It goes to the
upper one if it is above their midpoint, or on it and the lower one has an odd rank. -/
lemma ofUnitRatio_split (num : ℕ) {den : ℕ} (hden : 0 < den) :
    ∃ k, unitsAt k * den ≤ num ∧ num < unitsAt (k + 1) * den ∧
      ofUnitRatio num den = ofRank
        (if (unitsAt k + unitsAt (k + 1)) * den < 2 * num ∨
          ((unitsAt k + unitsAt (k + 1)) * den = 2 * num ∧ k % 2 = 1) then k + 1 else k) := by
  obtain ⟨hq, hnormal⟩ := leading_bounds (num / den)
  have hlow : num / den / 2 ^ ((num / den).log2 - 52) * 2 ^ ((num / den).log2 - 52) ≤ num / den :=
    Nat.div_mul_le_self _ _
  have hhigh : num / den <
      (num / den / 2 ^ ((num / den).log2 - 52) + 1) * 2 ^ ((num / den).log2 - 52) :=
    Nat.lt_mul_of_div_lt (Nat.lt_succ_self _) (by positivity)
  simp only [ofUnitRatio, pow_eq]
  generalize (num / den).log2 - 52 = shift at *
  generalize num / den / 2 ^ shift = q at *
  have hnext : shift ≠ 0 → 2 ^ 52 ≤ q + 1 := fun h => (hnormal h).trans (Nat.le_succ q)
  have hbelow : q * 2 ^ shift * den ≤ num := (Nat.le_div_iff_mul_le hden).mp hlow
  have habove : num < (q + 1) * 2 ^ shift * den := (Nat.div_lt_iff_lt_mul hden).mp hhigh
  refine ⟨shift * 2 ^ 52 + q, ?_⟩
  rw [Nat.add_assoc, unitsAt_eq hq.le hnormal, unitsAt_eq hq hnext]
  refine ⟨hbelow, habove, ?_⟩
  have hstep : (q * 2 ^ shift + (q + 1) * 2 ^ shift) * den =
      2 * (q * 2 ^ shift * den) + 2 ^ shift * den := by ring
  rw [hstep]
  generalize q * 2 ^ shift * den = low at *
  generalize 2 ^ shift * den = step at *
  have hup : step < 2 * (num - low) ↔ 2 * low + step < 2 * num := by omega
  have htie : 2 * (num - low) = step ↔ 2 * low + step = 2 * num := by omega
  simp only [gt_iff_lt, Bool.or_eq_true, decide_eq_true_eq, Bool.and_eq_true, beq_iff_eq, hup, htie]
  rw [apply_ite ofRank]

/-- What lies between the midpoints around a magnitude goes to that magnitude. The midpoints
themselves do if its rank is even. -/
lemma ofUnitRatio_eq_ofRank {num den r : ℕ} (hden : 0 < den)
    (hlow : (unitsAt (r - 1) + unitsAt r) * den ≤ 2 * num)
    (hhigh : 2 * num ≤ (unitsAt r + unitsAt (r + 1)) * den)
    (hodd : r % 2 = 1 → (unitsAt (r - 1) + unitsAt r) * den ≠ 2 * num ∧
      2 * num ≠ (unitsAt r + unitsAt (r + 1)) * den) : ofUnitRatio num den = ofRank r := by
  obtain ⟨k, hbelow, habove, hround⟩ := ofUnitRatio_split num hden
  rw [hround]
  congr 1
  have hmono {i j : ℕ} (h : i < j) : unitsAt i * den < unitsAt j * den :=
    Nat.mul_lt_mul_of_pos_right (unitsAt_strictMono h) hden
  have hweak {i j : ℕ} (h : i ≤ j) : unitsAt i * den ≤ unitsAt j * den :=
    Nat.mul_le_mul_right den (unitsAt_strictMono.monotone h)
  simp only [Nat.add_mul] at *
  rcases lt_trichotomy k r with hlt | rfl | hgt
  · -- only the neighbour below can round up to the magnitude
    have hk : r = k + 1 := by
      by_contra hne
      have hstep := hweak (show k + 1 ≤ r - 1 by omega)
      have hprevious := hmono (show r - 1 < r by omega)
      omega
    subst hk
    rw [Nat.add_sub_cancel] at hlow hodd
    split_ifs with hup
    · rfl
    · omega
  · split_ifs with hup
    · omega
    · rfl
  · have hstep := hweak (Nat.succ_le_of_lt hgt)
    have hnext := hmono (Nat.lt_succ_self r)
    rw [Nat.succ_eq_add_one] at hstep hnext
    omega

/-! ### Decimals -/

/-- The number of a decimal and the midpoints around a magnitude, over one denominator. -/
lemma readsBack_iff {m : Magnitude} {d : Decimal} : m.readsBack d ↔
    m.bounds.1 * (decimalScale d.exponent).2 ≤ d.digits * (decimalScale d.exponent).1 ∧
    d.digits * (decimalScale d.exponent).1 ≤ m.bounds.2 * (decimalScale d.exponent).2 ∧
    (m.rank % 2 = 1 → m.bounds.1 * (decimalScale d.exponent).2 ≠
        d.digits * (decimalScale d.exponent).1 ∧
      d.digits * (decimalScale d.exponent).1 ≠ m.bounds.2 * (decimalScale d.exponent).2) := by
  simp only [readsBack]
  generalize m.bounds.1 * (decimalScale d.exponent).2 = low
  generalize m.bounds.2 * (decimalScale d.exponent).2 = high
  generalize d.digits * (decimalScale d.exponent).1 = point
  rcases Nat.mod_two_eq_zero_or_one m.rank with hrank | hrank
  · simp [hrank]
  · simp [hrank]
    omega

lemma ofRank_rank (m : Magnitude) : ofRank m.rank = m := by
  obtain ⟨rank, hrank⟩ := m
  simp [ofRank, hrank]

lemma bounds_pos {m : Magnitude} (hpos : 0 < m.rank) : 0 < m.bounds.1 := by
  have hunits : unitsAt 0 < unitsAt m.rank := unitsAt_strictMono hpos
  rw [bounds, units]
  omega

/-- The upper midpoint of a finite magnitude is below twice the first value beyond all of them. -/
lemma bounds_lt {m : Magnitude} (hfinite : m.rank < top) : m.bounds.2 < 2 ^ 2099 := by
  have htop : unitsAt top = 2 ^ 2098 := by
    have hrank : top = 2046 * 2 ^ 52 + 2 ^ 52 := by
      rw [top, pow_eq]
      norm_num
    rw [hrank, unitsAt_eq (by norm_num) fun _ => le_rfl, ← pow_add]
  have hunits : unitsAt m.rank < unitsAt top := unitsAt_strictMono hfinite
  have hnext : unitsAt (m.rank + 1) ≤ unitsAt top := unitsAt_strictMono.monotone hfinite
  calc
    m.bounds.2 < unitsAt top + unitsAt top := by rw [bounds, units]; omega
    _ = 2 ^ 2099 := by rw [htop, ← two_mul, ← pow_succ']

/-- Powers of ten are larger than those of eight. -/
lemma pow_three_mul_le (n : ℕ) : 2 ^ (3 * n) ≤ 10 ^ n := by
  rw [pow_mul]
  exact Nat.pow_le_pow_left (by norm_num) n

lemma readsBack_digits_pos {m : Magnitude} {d : Decimal} (hpos : 0 < m.rank)
    (h : m.readsBack d) : 0 < d.digits := by
  obtain ⟨hlow, -, -⟩ := readsBack_iff.mp h
  have hdown : 0 < (decimalScale d.exponent).2 := by
    cases d.exponent with
    | ofNat up => exact Nat.one_pos
    | negSucc down => exact Nat.pow_pos (by norm_num)
  refine Nat.pos_of_ne_zero fun hzero => ?_
  rw [hzero, Nat.zero_mul] at hlow
  exact absurd (Nat.mul_pos (bounds_pos hpos) hdown) (by omega)

/-- Twice the units of a fraction are its multiples of the half unit. -/
lemma two_mul_units (n : ℕ) : 2 * (n * 2 ^ 1074) = n * 2 ^ 1075 := by
  rw [Nat.mul_left_comm, ← pow_succ']

/-- A power of ten exceeds any power of two with up to three times its exponent. -/
lemma two_pow_le {a b n : ℕ} (h : a ≤ 3 * n + b) : 2 ^ a ≤ 10 ^ n * 2 ^ b := by
  calc
    2 ^ a ≤ 2 ^ (3 * n + b) := Nat.pow_le_pow_right (by norm_num) h
    _ = 2 ^ (3 * n) * 2 ^ b := pow_add _ _ _
    _ ≤ 10 ^ n * 2 ^ b := Nat.mul_le_mul_right _ (pow_three_mul_le n)

lemma mul_two_pow_lt {digits b n : ℕ} (h : digits.log2 + 1 + b ≤ 3 * n) :
    digits * 2 ^ b < 10 ^ n := by
  calc
    digits * 2 ^ b < 2 ^ (digits.log2 + 1) * 2 ^ b :=
      Nat.mul_lt_mul_of_pos_right Nat.lt_log2_self (by positivity)
    _ = 2 ^ (digits.log2 + 1 + b) := (pow_add _ _ _).symm
    _ ≤ 2 ^ (3 * n) := Nat.pow_le_pow_right (by norm_num) h
    _ ≤ 10 ^ n := pow_three_mul_le n

/-- Exponents that are decided to be too large lie beyond all finite magnitudes. -/
lemma le_pow_of_large {up : ℕ} (hup : 400 < up) : 2 ^ 2099 ≤ 10 ^ up * 2 ^ 1075 :=
  two_pow_le (by omega)

/-- Exponents that are decided to be too small lie below half of the least magnitude. -/
lemma lt_pow_of_small {digits down : ℕ} (hdown : digits.log2 + 1 + 1080 < 3 * down) :
    digits * 2 ^ 1075 < 10 ^ down :=
  mul_two_pow_lt (by omega)

/-- A decimal that reads back is rounded to the magnitude, as a fraction of units. -/
lemma ofUnitRatio_of_readsBack {m : Magnitude} {d : Decimal} {num den : ℕ} (h : m.readsBack d)
    (hnum : d.digits * (decimalScale d.exponent).1 = 2 * num)
    (hden : (decimalScale d.exponent).2 = den) (hpos : 0 < den) : ofUnitRatio num den = m := by
  obtain ⟨hlow, hhigh, hodd⟩ := readsBack_iff.mp h
  rw [hnum, hden] at hlow hhigh hodd
  exact (ofUnitRatio_eq_ofRank hpos hlow hhigh hodd).trans (ofRank_rank m)

/-- **A decimal between the midpoints around a finite magnitude is read as that magnitude.** -/
theorem ofDecimal_of_readsBack {m : Magnitude} {d : Decimal} (hpos : 0 < m.rank)
    (hfinite : m.rank < top) (h : m.readsBack d) : ofDecimal d.digits d.exponent = m := by
  have hdigits := readsBack_digits_pos hpos h
  obtain ⟨digits, exponent⟩ := d
  change 0 < digits at hdigits
  unfold ofDecimal
  rw [if_neg (by simpa using hdigits.ne')]
  rcases exponent with up | down
  · have hsmall : ¬up > 400 := by
      intro hup
      obtain ⟨-, hhigh, -⟩ := readsBack_iff.mp h
      have hlarge := le_pow_of_large hup
      have hbound := bounds_lt hfinite
      simp only [decimalScale, pow_eq, Nat.mul_one] at hhigh
      generalize 10 ^ up * 2 ^ 1075 = scale at hhigh hlarge
      generalize 2 ^ 2099 = beyond at hlarge hbound
      have hscaled : scale ≤ digits * scale := Nat.le_mul_of_pos_left scale hdigits
      exact lt_irrefl _ ((hlarge.trans hscaled).trans_lt (hhigh.trans_lt hbound))
    have hnum : digits * (decimalScale (.ofNat up)).1 = 2 * (digits * 10 ^ up * 2 ^ 1074) := by
      simp only [decimalScale, pow_eq, two_mul_units]
      rw [Nat.mul_assoc]
    simp only [if_neg hsmall, ofRatio, pow_eq]
    generalize digits * 10 ^ up * 2 ^ 1074 = num at hnum ⊢
    exact ofUnitRatio_of_readsBack h hnum rfl Nat.one_pos
  · have hmany : ¬3 * (down + 1) > digits.log2 + 1 + 1080 := by
      intro hdown
      obtain ⟨hlow, -, -⟩ := readsBack_iff.mp h
      have hsmall := lt_pow_of_small hdown
      simp only [decimalScale, pow_eq] at hlow
      generalize 2 ^ 1075 = unit at hlow hsmall
      have hbelow : 10 ^ (down + 1) ≤ m.bounds.1 * 10 ^ (down + 1) :=
        Nat.le_mul_of_pos_left _ (bounds_pos hpos)
      exact lt_irrefl _ (hsmall.trans_le (hbelow.trans hlow))
    have hnum : digits * (decimalScale (.negSucc down)).1 = 2 * (digits * 2 ^ 1074) := by
      simp only [decimalScale, pow_eq, two_mul_units]
    have hden : 0 < 10 ^ (down + 1) := by positivity
    simp only [if_neg hmany, ofRatio, pow_eq]
    generalize digits * 2 ^ 1074 = num at hnum ⊢
    exact ofUnitRatio_of_readsBack h hnum rfl hden

end Magnitude

end LivePage
