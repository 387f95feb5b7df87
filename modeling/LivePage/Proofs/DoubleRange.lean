/-
The integers that doubles can be. An integer rounds to a finite double up to a
bound half way between the largest finite double and the next power of two.

* `ofUnitRatio_one`: the leading bits of a whole number of units are kept, and
  what is dropped decides about the next rank;
* `Double.integerBound`: the least positive integer that rounds to infinity;
* `isInfinite_ofInt_iff`: an integer that is not negative rounds to infinity
  exactly when it reaches the bound.
-/
import LivePage.Double.Basic
import Mathlib.Tactic

namespace LivePage

namespace Magnitude

/-- The powers of the definitions, as they are written here. -/
lemma pow_eq (base exponent : ℕ) : Nat.pow base exponent = base ^ exponent := rfl

/-- Half of the step between the largest two finite magnitudes, in units. -/
def halfStep : ℕ := 2 ^ 2044

lemma halfStep_pos : 0 < halfStep := by
  rw [halfStep]
  positivity

lemma pow_le_halfStep {shift : ℕ} (h : shift < 2045) : 2 ^ shift ≤ halfStep := by
  rw [halfStep]
  exact pow_le_pow_right₀ one_le_two (Nat.le_of_lt_succ h)

lemma pow_eq_two_mul_halfStep : 2 ^ 2045 = 2 * halfStep := by
  rw [halfStep, ← pow_succ']

lemma four_mul_halfStep_le_pow {shift : ℕ} (h : 2045 < shift) : 4 * halfStep ≤ 2 ^ shift := by
  rw [halfStep, show 4 = 2 ^ 2 by norm_num, ← pow_add]
  exact pow_le_pow_right₀ one_le_two h

/-- The leading bits of a number: fewer than `2⁵³`, and no fewer than `2⁵²` if any are dropped. -/
lemma leading_bounds (whole : ℕ) : whole / 2 ^ (whole.log2 - 52) < 2 ^ 53 ∧
    (whole.log2 - 52 ≠ 0 → 2 ^ 52 ≤ whole / 2 ^ (whole.log2 - 52)) := by
  constructor
  · rw [Nat.div_lt_iff_lt_mul (by positivity), ← pow_add]
    exact Nat.lt_log2_self.trans_le (Nat.pow_le_pow_right (by norm_num) (by omega))
  · intro hshift
    rw [Nat.le_div_iff_mul_le (by positivity), ← pow_add, Nat.add_sub_of_le (by omega)]
    refine Nat.log2_self_le fun h => hshift ?_
    rw [h, Nat.log2_zero]

/-- How a whole number of units is rounded: `q` holds its leading bits. -/
lemma ofUnitRatio_one (units : ℕ) : ∃ shift q r,
    units = q * 2 ^ shift + r ∧ r < 2 ^ shift ∧ q < 2 ^ 53 ∧ (shift ≠ 0 → 2 ^ 52 ≤ q) ∧
    ofUnitRatio units 1 = ofRank (shift * 2 ^ 52 + q +
      if 2 ^ shift < 2 * r ∨ (2 * r = 2 ^ shift ∧ (shift * 2 ^ 52 + q) % 2 = 1) then 1 else 0) := by
  obtain ⟨hq, hnormal⟩ := leading_bounds units
  refine ⟨units.log2 - 52, units / 2 ^ (units.log2 - 52), units % 2 ^ (units.log2 - 52),
    (Nat.div_add_mod' _ _).symm, Nat.mod_lt _ (by positivity), hq, hnormal, ?_⟩
  simp only [ofUnitRatio, pow_eq, Nat.div_one, mul_one, gt_iff_lt, Bool.or_eq_true,
    decide_eq_true_eq, Bool.and_eq_true, beq_iff_eq, ← Nat.mod_eq_sub_div_mul]
  split
  · rfl
  · rw [Nat.add_zero]

/-- The least number of units that rounds to infinity: half a step above the largest finite
magnitude. -/
def unitBound : ℕ := (2 ^ 54 - 1) * halfStep

/-- A whole number of units rounds to infinity exactly when it reaches the bound. -/
lemma isInfinite_ofUnitRatio_one_iff {units : ℕ} :
    (ofUnitRatio units 1).isInfinite ↔ unitBound ≤ units := by
  obtain ⟨shift, q, r, hunits, hr, hq, hnormal, hround⟩ := ofUnitRatio_one units
  rw [hround, isInfinite, ofRank, beq_iff_eq, min_eq_right_iff, unitBound]
  simp only [Magnitude.top, pow_eq]
  have hpos := halfStep_pos
  rcases lt_trichotomy shift 2045 with hlt | rfl | hgt
  · -- a lower binade: all of it is finite
    have hpow := pow_le_halfStep hlt
    have hlow : units < 2 ^ 53 * 2 ^ shift := by nlinarith
    constructor
    · intro h
      split at h <;> omega
    · intro h
      omega
  · -- the last binade: only its last half step goes up to infinity
    rw [pow_eq_two_mul_halfStep] at *
    rcases (show q ≤ 2 ^ 53 - 2 ∨ q = 2 ^ 53 - 1 by omega) with hq' | rfl
    · have hlow := Nat.mul_le_mul_right (2 * halfStep) (show q + 1 ≤ 2 ^ 53 - 1 by omega)
      rw [Nat.add_one_mul] at hlow
      constructor
      · intro h
        split at h <;> omega
      · intro h
        omega
    · constructor
      · intro h
        split at h <;> omega
      · intro h
        rw [if_pos (by omega)]
        omega
  · -- beyond it: all of it is infinite
    have hpow := four_mul_halfStep_le_pow hgt
    have hq' := hnormal (by omega)
    have hlow : 2 ^ 52 * 2 ^ shift ≤ units := by nlinarith
    constructor
    · intro h
      omega
    · intro h
      omega

end Magnitude

namespace Double

/-- The least positive integer that rounds to infinity. -/
def integerBound : ℤ := 2 ^ 1024 - 2 ^ 970

lemma unitBound_eq : (Magnitude.unitBound : ℤ) = integerBound * 2 ^ 1074 := by
  rw [integerBound, sub_mul, ← pow_add, ← pow_add, show 1024 + 1074 = 54 + (970 + 1074) by rfl,
    pow_add, ← sub_one_mul, Magnitude.unitBound, Magnitude.halfStep, Nat.cast_mul, Nat.cast_pow]
  rfl

/-- An integer that is not negative rounds to infinity exactly when it reaches the bound. -/
theorem isInfinite_ofInt_iff {n : ℤ} (hn : 0 ≤ n) :
    (ofInt n).isInfinite ↔ integerBound ≤ n := by
  have hunit : (0 : ℤ) < 2 ^ 1074 := by positivity
  simp only [ofInt, isInfinite, Magnitude.ofRatio, Magnitude.pow_eq]
  rw [Magnitude.isInfinite_ofUnitRatio_one_iff]
  zify
  rw [unitBound_eq, abs_of_nonneg hn, mul_le_mul_iff_left₀ hunit]

end Double

end LivePage
