import Mathlib.Analysis.Complex.ExponentialBounds
import Mathlib.Analysis.SpecialFunctions.Log.Deriv
import StorageUpgrade.Proofs.Number.Rounding

/-!
# The largest excess that a logarithm does not show

`logSlack b` is the largest excess `e` such that `excessLog e` is at most `logSteps b` steps of
`2 ^ -54` (`le_logSlack_iff`).  It is computed with the exponential series and twenty digits
of the natural logarithm of two.

## Strategy

The power of two that belongs to `logSteps b` is enclosed by the series (`le_seriesValue_add`,
`seriesValue_mul_le`).  This tells on which side of a whole number the largest excess is, unless it
is within a thousandth of one.  It depends on `⌊log₂ b⌋` only, and it is not that near for any of the
52 values that this has up to `b = 2 ^ 52` (`powerSeries_clear`).
-/

namespace StorageUpgrade

/-! ### The series -/

/-- Twenty digits of the natural logarithm of two. -/
theorem log_two_bounds : (69314718055994530941 : ℝ) / 10 ^ 20 < Real.log 2 ∧
    Real.log 2 < 69314718055994530942 / 10 ^ 20 := by
  have hhalf : |(2⁻¹ : ℝ)| = 2⁻¹ := abs_of_pos (by norm_num)
  have hseries :=
    Real.abs_log_sub_add_sum_range_le (show |(2⁻¹ : ℝ)| < 1 by rw [hhalf]; norm_num) 72
  have hlog : Real.log (1 - 2⁻¹) = -Real.log 2 := by
    rw [show (1 : ℝ) - 2⁻¹ = 2⁻¹ by norm_num, Real.log_inv]
  rw [hhalf, hlog, abs_le] at hseries
  simp only [Finset.sum_range_succ, Finset.sum_range_zero] at hseries
  norm_num at hseries
  constructor <;> norm_num <;> linarith

theorem expSeries_den_pos {q : Nat} (hq : 0 < q) (p levels : Nat) {k : Nat} (hk : 0 < k) :
    0 < (expSeries p q levels k).2 := by
  induction levels generalizing k with
  | zero => exact Nat.one_pos
  | succ levels ih => exact Nat.mul_pos (Nat.mul_pos hq hk) (ih (Nat.succ_pos k))

theorem expSeries_den_le {q : Nat} (p levels k : Nat) :
    (expSeries p q levels k).2 ≤ (expSeries p q levels k).1 := by
  cases levels with
  | zero => exact le_rfl
  | succ levels => exact Nat.le_add_right _ _

/-- The fraction is the front of the exponential series, without the factors below `k`. -/
theorem expSeries_eq_sum {q : Nat} (hq : 0 < q) (p levels : Nat) {k : Nat} (hk : 0 < k) :
    ((expSeries p q levels k).1 : ℝ) / (expSeries p q levels k).2 =
      ∑ i ∈ Finset.range (levels + 1), ((p : ℝ) / q) ^ i / k.ascFactorial i := by
  induction levels generalizing k with
  | zero => simp [expSeries]
  | succ levels ih =>
      have hden : ((expSeries p q levels (k + 1)).2 : ℝ) ≠ 0 :=
        Nat.cast_ne_zero.2 (expSeries_den_pos hq p levels (Nat.succ_pos k)).ne'
      have hq' : (q : ℝ) ≠ 0 := Nat.cast_ne_zero.2 hq.ne'
      have hk' : (k : ℝ) ≠ 0 := Nat.cast_ne_zero.2 hk.ne'
      have hterm (i : Nat) : ((p : ℝ) / q) ^ (i + 1) / k.ascFactorial (i + 1) =
          p / q / k * (((p : ℝ) / q) ^ i / (k + 1).ascFactorial i) := by
        have hfactor : k.ascFactorial (i + 1) = k * (k + 1).ascFactorial i := by
          rw [Nat.ascFactorial_succ, Nat.succ_ascFactorial]
        rw [hfactor, pow_succ', Nat.cast_mul, mul_div_mul_comm]
      rw [Finset.sum_range_succ', Finset.sum_congr rfl fun i _ => hterm i, ← Finset.mul_sum,
        ← ih (Nat.succ_pos k)]
      simp only [expSeries, pow_zero, Nat.ascFactorial_zero]
      push_cast
      field_simp
      exact add_comm _ _

section

variable (t : Nat)

theorem powerSeries_den_pos : 0 < (powerSeries t).2 := by
  rw [powerSeries]
  exact expSeries_den_pos (by decide) _ 16 Nat.one_pos

theorem powerSeries_den_le : (powerSeries t).2 ≤ (powerSeries t).1 := by
  rw [powerSeries]
  exact expSeries_den_le _ 16 1

/-- The value of the fraction for `2 ^ (t / 2 ^ 54)`. -/
noncomputable def seriesValue : ℝ := (powerSeries t).1 / (powerSeries t).2

theorem seriesValue_eq_sum : seriesValue t = ∑ i ∈ Finset.range 17,
    (69314718055994530942 / 10 ^ 20 * (t / 2 ^ 54) : ℝ) ^ i / i.factorial := by
  have hq : 0 < Nat.pow 10 20 * Nat.pow 2 54 := by decide
  rw [seriesValue, powerSeries, expSeries_eq_sum hq _ _ Nat.one_pos]
  refine Finset.sum_congr rfl fun i _ => ?_
  rw [Nat.one_ascFactorial]
  congr 2
  push_cast [Nat.pow_eq]
  ring

variable {t} (ht : t ≤ 2 ^ 53)

include ht

theorem step_bounds : (0 : ℝ) ≤ t / 2 ^ 54 ∧ (t : ℝ) / 2 ^ 54 ≤ 1 / 2 := by
  have hcast : (t : ℝ) ≤ 2 ^ 53 := mod_cast ht
  refine ⟨by positivity, ?_⟩
  rw [div_le_iff₀ (by positivity)]
  exact hcast.trans_eq (by norm_num)

/-- The power exceeds the front of the series by the rest of the series at most. -/
theorem le_seriesValue_add : (2 : ℝ) ^ ((t : ℝ) / 2 ^ 54) ≤ seriesValue t + 1 / 10 ^ 19 := by
  obtain ⟨hnonneg, hhalf⟩ := step_bounds ht
  set x : ℝ := 69314718055994530942 / 10 ^ 20 * (t / 2 ^ 54) with hx
  have hx0 : 0 ≤ x := by positivity
  have hx2 : x ≤ 1 / 2 := by
    calc x ≤ 1 * (1 / 2) := mul_le_mul (by norm_num) hhalf hnonneg zero_le_one
      _ = 1 / 2 := one_mul _
  have hrest :
      x ^ 17 * ((17 : Nat) + 1) / ((Nat.factorial 17 : Nat) * (17 : Nat)) ≤ 1 / 10 ^ 19 := by
    calc x ^ 17 * ((17 : Nat) + 1) / ((Nat.factorial 17 : Nat) * (17 : Nat))
        ≤ (1 / 2) ^ 17 * ((17 : Nat) + 1) / ((Nat.factorial 17 : Nat) * (17 : Nat)) := by gcongr
      _ ≤ 1 / 10 ^ 19 := by norm_num [Nat.factorial]
  calc (2 : ℝ) ^ ((t : ℝ) / 2 ^ 54)
      = Real.exp (Real.log 2 * (t / 2 ^ 54)) := Real.rpow_def_of_pos two_pos _
    _ ≤ Real.exp x := Real.exp_le_exp.2 (mul_le_mul_of_nonneg_right log_two_bounds.2.le hnonneg)
    _ ≤ _ := Real.exp_bound' hx0 (hx2.trans (by norm_num)) (n := 17) (by norm_num)
    _ ≤ seriesValue t + 1 / 10 ^ 19 := by
        rw [seriesValue_eq_sum]
        exact add_le_add_right hrest _

/-- The power falls short of the series by what the digits of the logarithm are too large. -/
theorem seriesValue_mul_le :
    seriesValue t * (1 - 1 / 10 ^ 20) ≤ (2 : ℝ) ^ ((t : ℝ) / 2 ^ 54) := by
  obtain ⟨hnonneg, hhalf⟩ := step_bounds ht
  obtain ⟨hlow, -⟩ := log_two_bounds
  set x : ℝ := 69314718055994530942 / 10 ^ 20 * (t / 2 ^ 54) with hx
  have hx0 : 0 ≤ x := by positivity
  have hclose : x - 1 / 10 ^ 20 ≤ Real.log 2 * (t / 2 ^ 54) := by
    calc x - 1 / 10 ^ 20
        ≤ x - 1 / 10 ^ 20 * ((t : ℝ) / 2 ^ 54) := by linarith
      _ = (69314718055994530941 : ℝ) / 10 ^ 20 * (t / 2 ^ 54) := by rw [hx]; ring
      _ ≤ Real.log 2 * (t / 2 ^ 54) := mul_le_mul_of_nonneg_right hlow.le hnonneg
  have hsmall : (1 : ℝ) - 1 / 10 ^ 20 ≤ Real.exp (-(1 / 10 ^ 20)) := by
    linarith [Real.add_one_le_exp (-(1 / 10 ^ 20 : ℝ))]
  calc seriesValue t * (1 - 1 / 10 ^ 20)
      ≤ Real.exp x * Real.exp (-(1 / 10 ^ 20)) := by
        rw [seriesValue_eq_sum]
        exact mul_le_mul (Real.sum_le_exp_of_nonneg hx0 17) hsmall (by norm_num) (Real.exp_pos x).le
    _ = Real.exp (x - 1 / 10 ^ 20) := by rw [← Real.exp_add, sub_eq_add_neg]
    _ ≤ Real.exp (Real.log 2 * (t / 2 ^ 54)) := Real.exp_le_exp.2 hclose
    _ = (2 : ℝ) ^ ((t : ℝ) / 2 ^ 54) := (Real.rpow_def_of_pos two_pos _).symm

end

/-! ### The largest excess -/

/-- The excess of a fraction over one in units of `2 ^ -52`, still to be divided by the
denominator. -/
def excessOver (f : Nat × Nat) : Nat := 2 ^ 52 * (f.1 - f.2)

/-- The excess of a fraction is a thousandth or more away from the whole numbers. -/
def ClearExcess (f : Nat × Nat) : Prop :=
  f.2 ≤ 1000 * (excessOver f % f.2) ∧ 1000 * (excessOver f % f.2) ≤ 999 * f.2

instance (f : Nat × Nat) : Decidable (ClearExcess f) := inferInstanceAs (Decidable (_ ∧ _))

theorem powerSeries_clear : ∀ digits < 52, ClearExcess (powerSeries (logSteps (2 ^ digits))) := by
  decide +kernel

theorem ClearExcess.bounds {f : Nat × Nat} (h : ClearExcess f) (hpos : 0 < f.2) :
    ((excessOver f / f.2 : Nat) : ℝ) + 1 / 1000 ≤ excessOver f / f.2 ∧
      (excessOver f : ℝ) / f.2 ≤ (excessOver f / f.2 : Nat) + 999 / 1000 := by
  have hden : (0 : ℝ) < f.2 := mod_cast hpos
  have hnum : (excessOver f : ℝ) = f.2 * (excessOver f / f.2 : Nat) + (excessOver f % f.2 : Nat) :=
    mod_cast (Nat.div_add_mod (excessOver f) f.2).symm
  have hlow : (f.2 : ℝ) ≤ 1000 * (excessOver f % f.2 : Nat) := mod_cast h.1
  have hhigh : 1000 * ((excessOver f % f.2 : Nat) : ℝ) ≤ 999 * f.2 := mod_cast h.2
  rw [le_div_iff₀ hden, div_le_iff₀ hden, hnum]
  constructor <;> linarith

/-- A number that is close to such a fraction has the same whole excess. -/
theorem le_excessOver_iff {f : Nat × Nat} (hpos : 0 < f.2) (hle : f.2 ≤ f.1)
    (hclear : ClearExcess f) {x : ℝ} (htwo : x ≤ 2)
    (hlow : (f.1 : ℝ) / f.2 * (1 - 1 / 10 ^ 20) ≤ x) (hhigh : x ≤ (f.1 : ℝ) / f.2 + 1 / 10 ^ 19)
    (e : Nat) : e ≤ excessOver f / f.2 ↔ 1 + (e : ℝ) / 2 ^ 52 ≤ x := by
  obtain ⟨hbelow, habove⟩ := hclear.bounds hpos
  have hvalue : (excessOver f : ℝ) / f.2 = 2 ^ 52 * (f.1 / f.2 - 1) := by
    have hden : (f.2 : ℝ) ≠ 0 := Nat.cast_ne_zero.2 hpos.ne'
    rw [excessOver]
    push_cast [hle]
    field_simp
    ring
  rw [hvalue] at hbelow habove
  set whole := excessOver f / f.2
  constructor
  · intro he
    have hcast : (e : ℝ) ≤ whole := mod_cast he
    linarith
  · intro he
    have hcast : (e : ℝ) < (whole + 1 : Nat) := by
      push_cast
      linarith
    exact Nat.lt_succ_iff.1 (mod_cast hcast)

section

variable {b : Nat} (hb : 0 < b) (hbits : b < 2 ^ 52)

include hb

/-- The steps depend on the size of the whole number only. -/
theorem logSteps_two_pow_log2 : logSteps (2 ^ Nat.log2 b) = logSteps b := by
  have hsplit : 2 ^ Nat.log2 b < 1024 ↔ b < 1024 := by
    rw [show 1024 = 2 ^ 10 from rfl, Nat.pow_lt_pow_iff_right (by norm_num), Nat.log2_lt hb.ne']
  unfold logSteps
  rw [Nat.log2_two_pow]
  simp only [hsplit]

include hbits

theorem logSteps_le : logSteps b ≤ 2 ^ 53 := by
  have hlog : Nat.log2 b < 52 := (Nat.log2_lt hb.ne').2 hbits
  have hpow : 2 ^ (Nat.log2 b + 1) ≤ 2 ^ 52 := Nat.pow_le_pow_right two_pos hlog
  unfold logSteps
  rw [Nat.pow_eq]
  split <;> omega

/-- An excess is at most `logSlack b` exactly if its part of the logarithm is at most `logSteps b`
steps. -/
theorem le_logSlack_iff {e : Nat} (he : e < 2 ^ 52) :
    e ≤ logSlack b ↔ excessLog e ≤ logSteps b / 2 ^ 54 := by
  have ht := logSteps_le hb hbits
  have hclear := powerSeries_clear (Nat.log2 b) ((Nat.log2_lt hb.ne').2 hbits)
  rw [logSteps_two_pow_log2 hb] at hclear
  have hpower : (2 : ℝ) ^ ((logSteps b : ℝ) / 2 ^ 54) ≤ 2 := by
    calc (2 : ℝ) ^ ((logSteps b : ℝ) / 2 ^ 54)
        ≤ 2 ^ (1 : ℝ) := Real.rpow_le_rpow_of_exponent_le one_le_two
          ((step_bounds ht).2.trans (by norm_num))
      _ = 2 := Real.rpow_one 2
  have hslack : logSlack b =
      min (excessOver (powerSeries (logSteps b)) / (powerSeries (logSteps b)).2) (2 ^ 52 - 1) := by
    rw [logSlack]
    generalize powerSeries (logSteps b) = f
    rfl
  have hpos : (0 : ℝ) < 1 + e / 2 ^ 52 := by positivity
  rw [hslack, le_min_iff, and_iff_left (by omega), excessLog,
    Real.logb_le_iff_le_rpow one_lt_two hpos]
  exact le_excessOver_iff (powerSeries_den_pos _) (powerSeries_den_le _) hclear hpower
    (seriesValue_mul_le ht) (le_seriesValue_add ht) e

end

end StorageUpgrade
