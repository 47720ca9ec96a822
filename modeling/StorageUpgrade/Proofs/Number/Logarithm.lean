import StorageUpgrade.Proofs.Number.Excess

/-!
# Binary logarithms in double precision

Let `(2 ^ 52 + e) * 2 ^ (b - 52)` be the double nearest to a whole number.  Its logarithm exceeds
`b` by a part that depends on the excess `e` only, `excessLog e`.  The rounded logarithm stays
between `b` and `b + 1`, and it is `b` exactly if the part is at most `logSteps b` steps of
`2 ^ -54` (`doubleLog_cases`).

## Strategy

* Around `b` the doubles have the distance `2 ^ (⌊log₂ b⌋ - 52)`, and a tie goes to `b`, which is an
  even multiple of it.  So a part is dropped if it is at most half of that
  (`nearestDouble_add_le_iff`).
* For a number that is split, the part first loses the one that the exponent gains, and is rounded
  to a multiple of `2 ^ -53`.  It may be half of that larger and still be dropped
  (`nearestDouble_sub_one_le_iff`).
-/

namespace StorageUpgrade

/-! ### Above a whole number -/

section

variable {b : Nat} (hb : 0 < b) {r : ℝ} (hr : 0 ≤ r) (hlt : r < 1)

include hb hr hlt

theorem lastPlace_add : lastPlace (b + r) = 2 ^ ((Nat.log2 b : Int) - 52) := by
  have hone : (1 : ℝ) ≤ b := mod_cast hb
  have hfloor : ⌊(b : ℝ) + r⌋₊ = b := by
    rw [Nat.floor_eq_iff (by linarith)]
    constructor <;> linarith
  rw [lastPlace, abs_of_nonneg (by linarith), Int.log_of_one_le_right 2 (by linarith), hfloor,
    Nat.log2_eq_log_two]

end

theorem lastPlace_natCast {b : Nat} (hb : 0 < b) : lastPlace b = 2 ^ ((Nat.log2 b : Int) - 52) := by
  simpa using lastPlace_add hb le_rfl one_pos

/-- Whole numbers are multiples of the distance that the doubles have around a smaller one. -/
theorem natCast_eq_mul_zpow (m : Nat) {digits : Nat} (h : digits ≤ 52) :
    (m : ℝ) = ((m * 2 ^ (52 - digits) : Nat) : Int) * 2 ^ ((digits : Int) - 52) := by
  have hexp : (digits : Int) - 52 = -((52 - digits : Nat) : Int) := by omega
  rw [hexp, zpow_neg, zpow_natCast]
  push_cast
  rw [mul_inv_cancel_right₀ (by positivity)]

theorem nearestDouble_natCast_of_lt {m : Nat} (hm : 0 < m) (hlt : m < 2 ^ 53) :
    nearestDouble m = m := by
  have hlog : Nat.log2 m ≤ 52 := Nat.lt_succ_iff.1 ((Nat.log2_lt hm.ne').2 hlt)
  have hmul := natCast_eq_mul_zpow m hlog
  rw [← lastPlace_natCast hm] at hmul
  exact nearestDouble_eq_self hmul

section

variable {b : Nat} (hb : 0 < b) (hbits : b < 2 ^ 52) {r : ℝ} (hr : 0 ≤ r) (hlt : r < 1)

include hb hbits hr hlt

theorem le_nearestDouble_add : b ≤ nearestDouble (b + r) := by
  have hlog : Nat.log2 b ≤ 52 := ((Nat.log2_lt hb.ne').2 hbits).le
  have hmul := natCast_eq_mul_zpow b hlog
  rw [← lastPlace_add hb hr hlt] at hmul
  exact hmul.trans_le (le_nearestDouble (hmul.symm.trans_le (le_add_of_nonneg_right hr)))

theorem nearestDouble_add_le : nearestDouble (b + r) ≤ b + 1 := by
  have hlog : Nat.log2 b ≤ 52 := ((Nat.log2_lt hb.ne').2 hbits).le
  have hmul := natCast_eq_mul_zpow (b + 1) hlog
  rw [← lastPlace_add hb hr hlt, Nat.cast_add_one] at hmul
  exact (nearestDouble_le ((add_le_add_right hlt.le _).trans_eq hmul)).trans_eq hmul.symm

/-- What exceeds a whole number is dropped if it is at most half the distance to the next double. -/
theorem nearestDouble_add_le_iff :
    nearestDouble (b + r) ≤ b ↔ 2 * r ≤ 2 ^ ((Nat.log2 b : Int) - 52) := by
  have hlog : Nat.log2 b < 52 := (Nat.log2_lt hb.ne').2 hbits
  have hmul := natCast_eq_mul_zpow b hlog.le
  have heven : Even ((b * 2 ^ (52 - Nat.log2 b) : Nat) : Int) :=
    (Int.even_coe_nat _).2 ((Nat.even_pow.2 ⟨even_two, by omega⟩).mul_left b)
  rw [← lastPlace_add hb hr hlt] at hmul ⊢
  have hround := nearestDouble_le_iff (b + r) (b * 2 ^ (52 - Nat.log2 b) : Nat)
  rw [← hmul, add_mul, one_mul, mul_assoc 2, ← hmul, and_iff_left heven,
    ← le_iff_lt_or_eq] at hround
  rw [hround]
  constructor <;> intro <;> linarith

end

/-! ### Below zero -/

theorem nearestDouble_neg_one : nearestDouble (-1) = -1 := by
  refine nearestDouble_eq_self (m := -2 ^ 52) ?_
  have hplace : lastPlace (-1) = 2 ^ (-52 : Int) := by simp [lastPlace]
  rw [hplace]
  norm_num

theorem lastPlace_sub_one {r : ℝ} (hr : 0 < r) (hhalf : r ≤ 1 / 2) :
    lastPlace (r - 1) = 1 / 2 ^ 53 := by
  have habs : |r - 1| = 1 - r := by
    rw [abs_sub_comm, abs_of_nonneg (by linarith)]
  have hpos : 0 < 1 - r := by linarith
  have hlow : -1 ≤ Int.log 2 (1 - r) :=
    (Int.zpow_le_iff_le_log one_lt_two hpos).1 (by norm_num; linarith)
  have hhigh : Int.log 2 (1 - r) < 0 :=
    (Int.lt_zpow_iff_log_lt one_lt_two hpos).1 (by norm_num; linarith)
  have hlog : Int.log 2 (1 - r) = -1 := by omega
  rw [lastPlace, habs, hlog]
  norm_num

section

variable {r : ℝ} (hr : 0 ≤ r) (hlt : r < 1)

include hr hlt

theorem neg_one_le_nearestDouble_sub_one : -1 ≤ nearestDouble (r - 1) := by
  have habs : |r - 1| ≤ (2 : ℝ) ^ (0 : Int) := by
    rw [zpow_zero, abs_le]
    constructor <;> linarith
  simpa using neg_zpow_le_nearestDouble (by linarith) habs

/-- The part of a split number is dropped if it is at most half the distance of the doubles around
the whole number and half the distance of those around the part itself. -/
theorem nearestDouble_sub_one_le_iff {digits : Nat} (hpos : 0 < digits) (hbits : digits < 52) :
    2 * (nearestDouble (r - 1) + 1) ≤ 2 ^ ((digits : Int) - 52) ↔
      r ≤ ((2 ^ (digits + 1) + 1 : Nat) : ℝ) / 2 ^ 54 := by
  have hsmall : (2 : ℝ) ^ digits ≤ 2 ^ 51 := pow_le_pow_right₀ one_le_two (by omega)
  rw [two_zpow_sub]
  push_cast [pow_succ]
  rcases hr.eq_or_lt with rfl | hr0
  · rw [zero_sub, nearestDouble_neg_one]
    exact iff_of_true (by rw [neg_add_cancel, mul_zero]; positivity) (by positivity)
  · rcases le_or_gt r (1 / 2) with hhalf | hhalf
    · have hround := nearestDouble_le_iff (r - 1) (-2 ^ 53 + 2 ^ digits)
      have heven : Even (-2 ^ 53 + 2 ^ digits : Int) :=
        (by decide : Even (-2 ^ 53 : Int)).add (even_two.pow_of_ne_zero hpos.ne')
      rw [lastPlace_sub_one hr0 hhalf, and_iff_left heven, ← le_iff_lt_or_eq] at hround
      push_cast at hround
      constructor
      · intro hle
        have hrounded := hround.1 (by linarith)
        linarith
      · intro hle
        have hrounded := hround.2 (by linarith)
        linarith
    · -- behind one half the part is rounded to one half at least, which is never dropped
      have habs : |r - 1| ≤ (2 : ℝ) ^ (-1 : Int) := by
        rw [zpow_neg_one, abs_le]
        constructor <;> linarith
      have hround := neg_zpow_le_nearestDouble (by linarith) habs
      rw [zpow_neg_one] at hround
      exact iff_of_false (by linarith) (by linarith)

end

/-! ### Whole numbers -/

theorem excessLog_nonneg (e : Nat) : 0 ≤ excessLog e :=
  Real.logb_nonneg one_lt_two (le_add_of_nonneg_right (by positivity))

theorem excess_div_lt_one {e : Nat} (he : e < 2 ^ 52) : (e : ℝ) / 2 ^ 52 < 1 :=
  (div_lt_one (by positivity)).2 (mod_cast he)

theorem excessLog_lt_one {e : Nat} (he : e < 2 ^ 52) : excessLog e < 1 := by
  have hlt := excess_div_lt_one he
  rw [excessLog, Real.logb_lt_iff_lt_rpow one_lt_two (by positivity), Real.rpow_one]
  linarith

theorem logb_zpow_mul (b : Int) (e : Nat) :
    Real.logb 2 (2 ^ b * (1 + e / 2 ^ 52)) = b + excessLog e := by
  have hlog : Real.log 2 ≠ 0 := (Real.log_pos one_lt_two).ne'
  rw [Real.logb_mul (by positivity) (by positivity), excessLog, Real.logb, Real.log_zpow,
    mul_div_cancel_right₀ _ hlog]

section

variable {n b e : Nat} (he : e < 2 ^ 52) (hx : nearestDouble n = 2 ^ b * (1 + e / 2 ^ 52))

include hx

theorem nearestDouble_pos : 0 < nearestDouble n := by
  rw [hx]
  positivity

include he

theorem log_nearestDouble : Int.log 2 (nearestDouble n) = b := by
  have hlt := excess_div_lt_one he
  have hpow : (0 : ℝ) < 2 ^ b := by positivity
  have hpos := nearestDouble_pos hx
  have hlow : (b : Int) ≤ Int.log 2 (nearestDouble n) := by
    refine (Int.zpow_le_iff_le_log one_lt_two hpos).1 ?_
    push_cast
    rw [hx, zpow_natCast]
    exact le_mul_of_one_le_right hpow.le (le_add_of_nonneg_right (by positivity))
  have hhigh : Int.log 2 (nearestDouble n) < b + 1 := by
    refine (Int.lt_zpow_iff_log_lt one_lt_two hpos).1 ?_
    push_cast
    rw [hx, zpow_add_one₀ two_ne_zero, zpow_natCast]
    exact mul_lt_mul_of_pos_left (by linarith) hpow
  omega

theorem nearestDouble_lt_two_pow_iff (k : Nat) : nearestDouble n < 2 ^ k ↔ b < k := by
  have hlog := Int.lt_zpow_iff_log_lt (x := (k : Int)) one_lt_two (nearestDouble_pos hx)
  rw [log_nearestDouble he hx, Nat.cast_lt, zpow_natCast] at hlog
  exact_mod_cast hlog

theorem doubleLog_of_lt (hsmall : b < 1024) : doubleLog n = nearestDouble (b + excessLog e) := by
  have hlog := logb_zpow_mul b e
  rw [zpow_natCast, Int.cast_natCast] at hlog
  rw [doubleLog]
  dsimp only
  rw [if_pos ((nearestDouble_lt_two_pow_iff he hx 1024).2 hsmall), hx, hlog]

/-- The exponent of a number that is split is a double. -/
theorem doubleLog_of_le (hlarge : 1024 ≤ b) (hbits : b < 2 ^ 52) :
    doubleLog n = nearestDouble (b + (nearestDouble (excessLog e - 1) + 1)) := by
  have hhalf : nearestDouble n / 2 ^ ((b : Int) + 1) = 2 ^ (-1 : Int) * (1 + e / 2 ^ 52) := by
    rw [hx, zpow_add_one₀ two_ne_zero, zpow_natCast, zpow_neg_one]
    field_simp
  have hexponent : nearestDouble (((b : Int) + 1 : Int) : ℝ) = b + 1 := by
    have hdouble : nearestDouble ((b + 1 : Nat) : ℝ) = (b + 1 : Nat) :=
      nearestDouble_natCast_of_lt b.succ_pos (by omega)
    exact_mod_cast hdouble
  rw [doubleLog]
  dsimp only
  rw [if_neg (mt (nearestDouble_lt_two_pow_iff he hx 1024).1 hlarge.not_gt),
    log_nearestDouble he hx, hhalf, logb_zpow_mul, hexponent]
  congr 1
  push_cast
  ring_nf

end

/-- A logarithm is rounded to a number between two whole ones.  It becomes the lower one exactly if
the excess of the significand is at most `logSlack`. -/
theorem doubleLog_cases {n b : Nat} (hn : 0 < n) (hround : (roundToDouble n).2 = b) (hb : 0 < b)
    (hbits : b < 2 ^ 52) :
    b ≤ doubleLog n ∧ doubleLog n ≤ b + 1 ∧
      (doubleLog n ≤ b ↔ (roundToDouble n).1 - 2 ^ 52 ≤ logSlack b) := by
  obtain ⟨hlow, hhigh⟩ := roundToDouble_fst_bounds hn
  obtain ⟨e, hexcess⟩ := Nat.exists_eq_add_of_le hlow
  have he : e < 2 ^ 52 := by omega
  have hx : nearestDouble n = 2 ^ b * (1 + e / 2 ^ 52) := by
    rw [nearestDouble_natCast, hround, hexcess, two_zpow_sub]
    push_cast
    field_simp
    norm_num
  have hlt := excessLog_lt_one he
  have hnonneg := excessLog_nonneg e
  rw [hexcess, Nat.add_sub_cancel_left, le_logSlack_iff hb hbits he]
  rcases lt_or_ge b 1024 with hsmall | hlarge
  · rw [doubleLog_of_lt he hx hsmall, nearestDouble_add_le_iff hb hbits hnonneg hlt, logSteps,
      if_pos hsmall]
    refine ⟨le_nearestDouble_add hb hbits hnonneg hlt,
      nearestDouble_add_le hb hbits hnonneg hlt, ?_⟩
    rw [two_zpow_sub, Nat.add_zero, Nat.pow_eq]
    push_cast [pow_succ]
    constructor <;> intro <;> linarith
  · -- the part is first rounded on its own, below zero
    have hpart := neg_one_le_nearestDouble_sub_one hnonneg hlt
    have hneg := nearestDouble_neg (sub_neg.2 hlt)
    have hnonneg' : 0 ≤ nearestDouble (excessLog e - 1) + 1 := by linarith
    have hlt' : nearestDouble (excessLog e - 1) + 1 < 1 := by linarith
    have hlog : Nat.log2 b < 52 := (Nat.log2_lt hb.ne').2 hbits
    have hpos : 0 < Nat.log2 b :=
      Nat.pos_of_ne_zero fun h => absurd ((Nat.log2_lt hb.ne').1 (h.trans_lt one_pos)) (by omega)
    rw [doubleLog_of_le he hx hlarge hbits, nearestDouble_add_le_iff hb hbits hnonneg' hlt',
      nearestDouble_sub_one_le_iff hnonneg hlt hpos hlog, logSteps, if_neg hlarge.not_gt]
    exact ⟨le_nearestDouble_add hb hbits hnonneg' hlt',
      nearestDouble_add_le hb hbits hnonneg' hlt', Iff.rfl⟩

end StorageUpgrade
