import Mathlib.Algebra.Order.Archimedean.Real.Basic
import Mathlib.Algebra.Order.Floor.Ring
import Mathlib.Analysis.SpecialFunctions.Log.Base
import Mathlib.Data.Int.Log
import Mathlib.Tactic.FieldSimp
import Mathlib.Tactic.Linarith
import Mathlib.Tactic.NormNum
import StorageUpgrade.Compare.EnumSize
import StorageUpgrade.Number.Double

/-!
# Rounding to the nearest double

A double has 53 significant bits: it is a whole multiple of its last place, `2 ^ (⌊log₂ |x|⌋ - 52)`
for a real number `x` (`lastPlace`).  Rounded to the nearest double, `x` becomes the nearest
multiple, and of two that are equally near the even one (`nearestDouble`).  The limits of the
exponent are left out, since no number that is rounded here gets near them.

All that is used of rounding is when a number is rounded to at most a given multiple
(`nearestDouble_le_iff`).  Two functions on natural numbers do the same: `Double.roundDiv` for
quotients (`nearestWhole_div`) and `roundToDouble` for whole numbers (`nearestDouble_natCast`).

The logarithm of a whole number is rounded twice, or three times if the number is too large for a
double (`doubleLog`).
-/

namespace StorageUpgrade

/-! ### The nearest whole number -/

/-- The whole number nearest to `x`; of two equally near ones the even one. -/
noncomputable def nearestWhole (x : ℝ) : Int :=
  if 2 * Int.fract x < 1 ∨ 2 * Int.fract x = 1 ∧ Even ⌊x⌋ then ⌊x⌋ else ⌊x⌋ + 1

theorem nearestWhole_le_iff (x : ℝ) (m : Int) :
    nearestWhole x ≤ m ↔ 2 * x < 2 * m + 1 ∨ 2 * x = 2 * m + 1 ∧ Even m := by
  have hx : (⌊x⌋ : ℝ) + Int.fract x = x := Int.floor_add_fract x
  have hnonneg := Int.fract_nonneg x
  have hlt := Int.fract_lt_one x
  unfold nearestWhole
  rcases lt_trichotomy ⌊x⌋ m with hm | rfl | hm
  · have hle : (⌊x⌋ : ℝ) + 1 ≤ m := mod_cast hm
    refine iff_of_true ?_ (.inl (by linarith))
    split <;> omega
  · have hbelow : 2 * x < 2 * (⌊x⌋ : ℝ) + 1 ↔ 2 * Int.fract x < 1 := by
      constructor <;> intro <;> linarith
    have hhalf : 2 * x = 2 * (⌊x⌋ : ℝ) + 1 ↔ 2 * Int.fract x = 1 := by
      constructor <;> intro <;> linarith
    rw [hbelow, hhalf]
    split
    · rename_i h
      exact iff_of_true le_rfl h
    · rename_i h
      exact iff_of_false (by omega) h
  · have hle : (m : ℝ) + 1 ≤ ⌊x⌋ := mod_cast hm
    refine iff_of_false ?_ ?_
    · split <;> omega
    · rintro (h | ⟨h, -⟩) <;> linarith

theorem nearestWhole_le {x : ℝ} {m : Int} (h : x ≤ m) : nearestWhole x ≤ m :=
  (nearestWhole_le_iff x m).2 (.inl (by linarith))

theorem le_nearestWhole {x : ℝ} {m : Int} (h : m ≤ x) : m ≤ nearestWhole x := by
  by_contra hlt
  have hpred : nearestWhole x ≤ m - 1 := by omega
  rw [nearestWhole_le_iff] at hpred
  push_cast at hpred
  rcases hpred with hx | ⟨hx, -⟩ <;> linarith

@[simp] theorem nearestWhole_intCast (m : Int) : nearestWhole m = m :=
  le_antisymm (nearestWhole_le le_rfl) (le_nearestWhole le_rfl)

/-- Quotients of natural numbers are rounded to the nearest whole number. -/
theorem nearestWhole_div (num : Nat) {den : Nat} (hden : 0 < den) :
    nearestWhole ((num : ℝ) / den) = Double.roundDiv num den := by
  have hpos : (0 : ℝ) < den := mod_cast hden
  have hfloor : ⌊(num : ℝ) / den⌋ = (num / den : Nat) := by
    rw [Int.floor_div_natCast, Int.floor_natCast, Int.natCast_ediv]
  have hfract : 2 * Int.fract ((num : ℝ) / den) = (2 * (num % den) : Nat) / den := by
    rw [Int.fract_div_natCast_eq_div_natCast_mod]
    push_cast
    ring
  unfold nearestWhole Double.roundDiv
  simp only [hfloor, hfract, div_lt_one hpos, div_eq_one_iff_eq hpos.ne', Nat.cast_lt, Nat.cast_inj,
    Int.even_coe_nat, Nat.even_iff, Bool.or_eq_true, Bool.and_eq_true, decide_eq_true_eq,
    beq_iff_eq]
  split <;> simp only [Nat.cast_add, Nat.cast_one]

theorem roundDiv_le_iff {num den : Nat} (hden : 0 < den) (m : Nat) :
    Double.roundDiv num den ≤ m ↔
      2 * num < (2 * m + 1) * den ∨ 2 * num = (2 * m + 1) * den ∧ Even m := by
  have hpos : (0 : ℝ) < den := mod_cast hden
  have hround := nearestWhole_le_iff ((num : ℝ) / den) m
  rw [nearestWhole_div num hden, Nat.cast_le, ← mul_div_assoc, div_lt_iff₀ hpos,
    div_eq_iff hpos.ne', Int.even_coe_nat] at hround
  exact_mod_cast hround

/-! ### Whole numbers -/

/-- The significand of a positive number before it is normalized: from `2 ^ 52` to `2 ^ 53`. -/
def significand (n : Nat) : Nat :=
  if Nat.log2 n ≤ 52 then n * 2 ^ (52 - Nat.log2 n) else Double.roundDiv n (2 ^ (Nat.log2 n - 52))

/-- A significand that is rounded up to `2 ^ 53` is halved. -/
theorem roundToDouble_eq (n : Nat) : roundToDouble n =
    if significand n = 2 ^ 53 then (2 ^ 52, Nat.log2 n + 1) else (significand n, Nat.log2 n) := by
  unfold roundToDouble significand
  simp only [Nat.pow_eq]
  split
  · rename_i hlog
    have hlt : n * 2 ^ (52 - Nat.log2 n) < 2 ^ 53 := by
      calc n * 2 ^ (52 - Nat.log2 n)
          < 2 ^ (Nat.log2 n + 1) * 2 ^ (52 - Nat.log2 n) :=
            Nat.mul_lt_mul_of_pos_right Nat.lt_log2_self (Nat.two_pow_pos _)
        _ = 2 ^ 53 := by rw [← Nat.pow_add]; congr 1; omega
    rw [if_neg hlt.ne]
  · rfl

/-- The significand is the number in units of its last place, rounded. -/
theorem nearestWhole_div_lastPlace (n : Nat) :
    nearestWhole ((n : ℝ) / 2 ^ ((Nat.log2 n : Int) - 52)) = significand n := by
  unfold significand
  split
  · rename_i hlog
    have hexp : (Nat.log2 n : Int) - 52 = -((52 - Nat.log2 n : Nat) : Int) := by omega
    rw [hexp, zpow_neg, div_inv_eq_mul, zpow_natCast]
    exact_mod_cast nearestWhole_intCast (n * 2 ^ (52 - Nat.log2 n) : Nat)
  · rename_i hlog
    have hexp : (Nat.log2 n : Int) - 52 = ((Nat.log2 n - 52 : Nat) : Int) := by omega
    rw [hexp, zpow_natCast, ← nearestWhole_div n (Nat.two_pow_pos _)]
    push_cast
    rfl

theorem log_natCast_eq_log2 (n : Nat) : Int.log 2 (n : ℝ) = Nat.log2 n := by
  rw [Int.log_natCast, Nat.log2_eq_log_two]

theorem significand_bounds {n : Nat} (hn : 0 < n) :
    2 ^ 52 ≤ significand n ∧ significand n ≤ 2 ^ 53 := by
  have hpos : (0 : ℝ) < 2 ^ ((Nat.log2 n : Int) - 52) := zpow_pos two_pos _
  have hlow : (2 : ℝ) ^ (Nat.log2 n) ≤ n := mod_cast Nat.log2_self_le hn.ne'
  have hhigh : (n : ℝ) < 2 ^ (Nat.log2 n + 1) := mod_cast Nat.lt_log2_self
  have hscale (k : Nat) : (2 : ℝ) ^ (Nat.log2 n + k) =
      ((2 ^ (52 + k) : Int) : ℝ) * 2 ^ ((Nat.log2 n : Int) - 52) := by
    push_cast
    rw [← zpow_natCast, ← zpow_natCast, ← zpow_add₀ two_ne_zero]
    congr 1
    push_cast
    ring
  constructor
  · have hle : (2 ^ 52 : Int) ≤ nearestWhole ((n : ℝ) / 2 ^ ((Nat.log2 n : Int) - 52)) :=
      le_nearestWhole ((le_div_iff₀ hpos).2 ((hscale 0).symm.trans_le hlow))
    rw [nearestWhole_div_lastPlace] at hle
    exact_mod_cast hle
  · have hle : nearestWhole ((n : ℝ) / 2 ^ ((Nat.log2 n : Int) - 52)) ≤ (2 ^ 53 : Int) :=
      nearestWhole_le ((div_le_iff₀ hpos).2 (hhigh.le.trans_eq (hscale 1)))
    rw [nearestWhole_div_lastPlace] at hle
    exact_mod_cast hle

/-! ### The nearest double -/

/-- The distance of the doubles around `x`. -/
noncomputable def lastPlace (x : ℝ) : ℝ := 2 ^ (Int.log 2 |x| - 52)

theorem lastPlace_pos (x : ℝ) : 0 < lastPlace x := zpow_pos two_pos _

/-- The last place of numbers with the given number of binary digits behind the first. -/
theorem two_zpow_sub (digits : Nat) : (2 : ℝ) ^ ((digits : Int) - 52) = 2 ^ digits / 2 ^ 52 := by
  rw [zpow_sub₀ two_ne_zero, zpow_natCast]
  norm_num

/-- The double nearest to `x`; of two equally near ones the one with the even significand. -/
noncomputable def nearestDouble (x : ℝ) : ℝ := nearestWhole (x / lastPlace x) * lastPlace x

theorem nearestDouble_le_iff (x : ℝ) (m : Int) :
    nearestDouble x ≤ m * lastPlace x ↔
      2 * x < (2 * m + 1) * lastPlace x ∨ 2 * x = (2 * m + 1) * lastPlace x ∧ Even m := by
  have hpos := lastPlace_pos x
  rw [nearestDouble, mul_le_mul_iff_left₀ hpos, Int.cast_le, nearestWhole_le_iff, ← mul_div_assoc,
    div_lt_iff₀ hpos, div_eq_iff hpos.ne']

/-- A number is not rounded beyond a double. -/
theorem nearestDouble_le {x : ℝ} {m : Int} (h : x ≤ m * lastPlace x) :
    nearestDouble x ≤ m * lastPlace x :=
  mul_le_mul_of_nonneg_right
    (Int.cast_le.2 (nearestWhole_le ((div_le_iff₀ (lastPlace_pos x)).2 h))) (lastPlace_pos x).le

theorem le_nearestDouble {x : ℝ} {m : Int} (h : m * lastPlace x ≤ x) :
    m * lastPlace x ≤ nearestDouble x :=
  mul_le_mul_of_nonneg_right
    (Int.cast_le.2 (le_nearestWhole ((le_div_iff₀ (lastPlace_pos x)).2 h))) (lastPlace_pos x).le

theorem nearestDouble_eq_self {x : ℝ} {m : Int} (h : x = m * lastPlace x) : nearestDouble x = x :=
  le_antisymm ((nearestDouble_le h.le).trans_eq h.symm) (h.trans_le (le_nearestDouble h.ge))

theorem nearestDouble_neg {x : ℝ} (hx : x < 0) : nearestDouble x < 0 := by
  have hpos := lastPlace_pos x
  have hscale : (2 : ℝ) ^ Int.log 2 |x| = 2 ^ 52 * lastPlace x := by
    rw [lastPlace, ← zpow_natCast, ← zpow_add₀ two_ne_zero]
    congr 1
    push_cast
    ring
  have hbelow : x ≤ ((-2 ^ 52 : Int) : ℝ) * lastPlace x := by
    have hlog : (2 : ℝ) ^ Int.log 2 |x| ≤ |x| :=
      mod_cast Int.zpow_log_le_self one_lt_two (abs_pos.2 hx.ne)
    rw [hscale, abs_of_neg hx] at hlog
    push_cast
    linarith
  have hround := nearestDouble_le hbelow
  push_cast at hround
  linarith

/-- Rounding does not lead beyond a power of two. -/
theorem neg_zpow_le_nearestDouble {x : ℝ} (hx : x ≠ 0) {j : Int} (h : |x| ≤ 2 ^ j) :
    -2 ^ j ≤ nearestDouble x := by
  have hlog : Int.log 2 |x| ≤ j := by
    have hmono : Int.log 2 |x| ≤ Int.log 2 ((2 : Nat) ^ j : ℝ) :=
      Int.log_mono_right (abs_pos.2 hx) (mod_cast h)
    rwa [Int.log_zpow one_lt_two] at hmono
  have hscale : -(2 : ℝ) ^ j =
      ((-2 ^ (52 + (j - Int.log 2 |x|).toNat) : Int) : ℝ) * lastPlace x := by
    push_cast
    rw [neg_mul, lastPlace, ← zpow_natCast, ← zpow_add₀ two_ne_zero]
    congr 2
    push_cast
    omega
  rw [hscale]
  refine le_nearestDouble (hscale.symm.trans_le ?_)
  exact (neg_le_neg h).trans (neg_abs_le x)

/-- Whole numbers are rounded to the nearest double. -/
theorem nearestDouble_natCast (n : Nat) :
    nearestDouble n = (roundToDouble n).1 * 2 ^ (((roundToDouble n).2 : Int) - 52) := by
  have hplace : lastPlace n = 2 ^ ((Nat.log2 n : Int) - 52) := by
    rw [lastPlace, Nat.abs_cast, log_natCast_eq_log2]
  rw [nearestDouble, hplace, nearestWhole_div_lastPlace, roundToDouble_eq]
  split
  · rename_i hup
    have hexp : ((Nat.log2 n + 1 : Nat) : Int) - 52 = ((Nat.log2 n : Int) - 52) + 1 := by
      push_cast
      ring
    rw [hup, hexp, zpow_add_one₀ two_ne_zero]
    push_cast
    ring
  · rw [Int.cast_natCast]

theorem roundToDouble_fst_bounds {n : Nat} (hn : 0 < n) :
    2 ^ 52 ≤ (roundToDouble n).1 ∧ (roundToDouble n).1 < 2 ^ 53 := by
  have hbounds := significand_bounds hn
  rw [roundToDouble_eq]
  split <;> dsimp only <;> omega

/-! ### Logarithms -/

/-- The binary logarithm of a whole number in double precision.  It is the logarithm of the double
nearest to the number, rounded.  If there is no such double, the number is split into a fraction
from one half to one and a power of two; the logarithm of the fraction is rounded, and once more
when the exponent is added. -/
noncomputable def doubleLog (n : Nat) : ℝ :=
  let x := nearestDouble n
  if x < 2 ^ 1024 then nearestDouble (Real.logb 2 x)
  else
    let e := Int.log 2 x + 1
    nearestDouble (nearestDouble (Real.logb 2 (x / 2 ^ e)) + nearestDouble e)

/-- The part of a logarithm that belongs to the excess `e` of a significand over `2 ^ 52`. -/
noncomputable def excessLog (e : Nat) : ℝ := Real.logb 2 (1 + e / 2 ^ 52)

end StorageUpgrade
