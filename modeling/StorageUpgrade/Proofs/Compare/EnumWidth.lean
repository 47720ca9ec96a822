import StorageUpgrade.Proofs.Number.Logarithm

/-!
# The width of an enum

An enum with `n` members should take the least number `k` of bytes, one or more, such that
`n ≤ 256 ^ k`.  Its size is computed with a logarithm in double precision, which cannot tell a count
just above a power of 256 from the power (`enumSize_eq_ceil`).  So the size is the least `k` with
`n ≤ 256 ^ k + unseenMembers k` (`isLeast_enumSize`).  No members are unseen up to six bytes; above
`256 ^ 7` there are 183 counts with a size of seven bytes, although they need eight.

## Strategy

Let `b` be the whole part of the logarithm of the rounded count.  The size is at most `k` exactly if
`b < 8 * k`, or `b = 8 * k` and the excess of the significand is at most `logSlack (8 * k)`
(`enumSize_le_iff_rounded`).  What is left is the largest count that is rounded to such a number
(`log2_significand_iff_of_le`, `log2_significand_iff_of_ge`).
-/

namespace StorageUpgrade

/-- How many counts above `256 ^ k` have a logarithm that is rounded down to `8 * k`. -/
def unseenMembers (k : Nat) : Nat :=
  if k < 7 then 0 else (2 * logSlack (8 * k) + 1) * 2 ^ (8 * k - 53) - logSlack (8 * k) % 2

/-! ### Rounded counts -/

theorem logSlack_lt (b : Nat) : logSlack b < 2 ^ 52 := by
  unfold logSlack
  generalize powerSeries (logSteps b) = f
  exact (min_le_right _ _).trans_lt (by decide)

theorem one_le_roundToDouble_snd {n : Nat} (hn : 2 ≤ n) : 1 ≤ (roundToDouble n).2 := by
  have hlog : 1 ≤ Nat.log2 n := (Nat.le_log2 (by omega)).2 hn
  rw [roundToDouble_eq]
  split <;> dsimp only <;> omega

section

variable {n b excess : Nat}

/-- A bound on the rounded count is a bound on its significand before it is normalized. -/
theorem roundToDouble_le_iff (hn : 0 < n) (he : excess < 2 ^ 52) :
    ((roundToDouble n).2 < b ∨ (roundToDouble n).2 = b ∧ (roundToDouble n).1 ≤ 2 ^ 52 + excess) ↔
      Nat.log2 n < b ∨ Nat.log2 n = b ∧ significand n ≤ 2 ^ 52 + excess := by
  have hbounds := significand_bounds hn
  rw [roundToDouble_eq]
  split <;> dsimp only <;> omega

/-- A count of at most 53 bits is not rounded. -/
theorem log2_significand_iff_of_le (hn : 0 < n) (hb : b ≤ 52) (he : excess < 2 ^ (52 - b)) :
    Nat.log2 n < b ∨ Nat.log2 n = b ∧ significand n ≤ 2 ^ 52 + excess ↔ n ≤ 2 ^ b := by
  have hpow : 2 ^ 52 = 2 ^ b * 2 ^ (52 - b) := by
    rw [← Nat.pow_add]
    congr 1
    omega
  have hsplit : n ≤ 2 ^ b ↔ n < 2 ^ b ∨ n = 2 ^ b := Nat.le_iff_lt_or_eq
  rw [Nat.log2_lt hn.ne', hsplit]
  refine or_congr_right ?_
  constructor
  · rintro ⟨rfl, hle⟩
    rw [significand, if_pos hb, hpow] at hle
    have hlt : n * 2 ^ (52 - Nat.log2 n) < (2 ^ Nat.log2 n + 1) * 2 ^ (52 - Nat.log2 n) := by
      rw [Nat.add_mul, Nat.one_mul]
      omega
    exact le_antisymm (Nat.lt_succ_iff.1 (Nat.lt_of_mul_lt_mul_right hlt))
      (Nat.log2_self_le hn.ne')
  · rintro rfl
    rw [significand, Nat.log2_two_pow, if_pos hb, ← hpow]
    exact ⟨rfl, Nat.le_add_right _ _⟩

/-- What is unseen of a longer count is less than the power below it. -/
theorem unseen_lt (hb : 53 ≤ b) (he : excess < 2 ^ 52) :
    (2 * excess + 1) * 2 ^ (b - 53) < 2 ^ b := by
  calc (2 * excess + 1) * 2 ^ (b - 53)
      < 2 ^ 53 * 2 ^ (b - 53) := Nat.mul_lt_mul_of_pos_right (by omega) (Nat.two_pow_pos _)
    _ = 2 ^ b := by rw [← Nat.pow_add, Nat.add_sub_cancel' hb]

/-- A longer count is rounded to a multiple of its last place. -/
theorem log2_significand_iff_of_ge (hn : 0 < n) (hb : 53 ≤ b) (he : excess < 2 ^ 52) :
    Nat.log2 n < b ∨ Nat.log2 n = b ∧ significand n ≤ 2 ^ 52 + excess ↔
      n ≤ 2 ^ b + ((2 * excess + 1) * 2 ^ (b - 53) - excess % 2) := by
  have hunseen := unseen_lt hb he
  rcases lt_trichotomy (Nat.log2 n) b with hlog | hlog | hlog
  · have hlt : n < 2 ^ b := (Nat.log2_lt hn.ne').1 hlog
    exact iff_of_true (.inl hlog) (by omega)
  · have hplace : 2 ^ (b - 52) = 2 * 2 ^ (b - 53) := by
      rw [← Nat.pow_succ']
      congr 1
      omega
    have hbound : (2 * (2 ^ 52 + excess) + 1) * 2 ^ (b - 52) =
        2 * (2 ^ b + (2 * excess + 1) * 2 ^ (b - 53)) := by
      have hpow : 2 ^ b = 2 ^ 53 * 2 ^ (b - 53) := by rw [← Nat.pow_add, Nat.add_sub_cancel' hb]
      rw [hplace, hpow]
      ring
    have hpos : 0 < (2 * excess + 1) * 2 ^ (b - 53) :=
      Nat.mul_pos (Nat.succ_pos _) (Nat.two_pow_pos _)
    rw [significand, hlog, if_neg (by omega), roundDiv_le_iff (Nat.two_pow_pos _), hbound,
      Nat.even_iff]
    generalize (2 * excess + 1) * 2 ^ (b - 53) = unseen at *
    omega
  · have hle : 2 ^ (b + 1) ≤ n := (Nat.le_log2 hn.ne').1 hlog
    rw [Nat.pow_succ] at hle
    exact iff_of_false (by omega) (by omega)

end

/-! ### The size -/

/-- The size is read off the rounded count. -/
theorem enumSize_le_iff_rounded (n k : Nat) : enumSize n ≤ k ↔
    (roundToDouble (max 2 n)).2 < 8 * k ∨
      (roundToDouble (max 2 n)).2 = 8 * k ∧
        (roundToDouble (max 2 n)).1 ≤ 2 ^ 52 + logSlack (8 * k) := by
  have hsize : enumSize n =
      if (roundToDouble (max 2 n)).2 % 8 = 0 ∧
        (roundToDouble (max 2 n)).1 - 2 ^ 52 ≤ logSlack (roundToDouble (max 2 n)).2
      then (roundToDouble (max 2 n)).2 / 8 else (roundToDouble (max 2 n)).2 / 8 + 1 := by
    rw [enumSize]
    generalize roundToDouble (max 2 n) = rounded
    rfl
  rw [hsize]
  generalize (roundToDouble (max 2 n)).1 = s
  generalize (roundToDouble (max 2 n)).2 = b
  rcases lt_trichotomy b (8 * k) with hb | rfl | hb
  · exact iff_of_true (by split <;> omega) (.inl hb)
  · split <;> omega
  · exact iff_of_false (by split <;> omega) (by omega)

theorem enumSize_pos (n : Nat) : 1 ≤ enumSize n := by
  have hlog := one_le_roundToDouble_snd (le_max_left 2 n)
  by_contra hzero
  have hrounded := (enumSize_le_iff_rounded n 0).1 (by omega)
  omega

theorem enumSize_le_iff (n : Nat) {k : Nat} (hk : 1 ≤ k) :
    enumSize n ≤ k ↔ n ≤ 256 ^ k + unseenMembers k := by
  have hn : 0 < max 2 n := lt_of_lt_of_le two_pos (le_max_left 2 n)
  have hpow : 256 ^ k = 2 ^ (8 * k) := by rw [Nat.pow_mul]
  have htwo : 2 ≤ 256 ^ k := le_trans (by norm_num) (Nat.pow_le_pow_right (by norm_num) hk)
  have hmax (m : Nat) : max 2 n ≤ 256 ^ k + m ↔ n ≤ 256 ^ k + m := by omega
  rw [enumSize_le_iff_rounded, roundToDouble_le_iff hn (logSlack_lt _), ← hmax, hpow, unseenMembers]
  split
  · rename_i hsmall
    have hslack : logSlack (8 * k) < 2 ^ (52 - 8 * k) := by
      have hall : ∀ k < 7, logSlack (8 * k) < 2 ^ (52 - 8 * k) := by decide +kernel
      exact hall k hsmall
    exact log2_significand_iff_of_le hn (by omega) hslack
  · exact log2_significand_iff_of_ge hn (by omega) (logSlack_lt _)

theorem unseenMembers_lt (k : Nat) : unseenMembers k < 256 ^ k := by
  unfold unseenMembers
  split
  · exact Nat.pow_pos (by norm_num)
  · have hlt := unseen_lt (b := 8 * k) (by omega) (logSlack_lt (8 * k))
    rw [Nat.pow_mul] at hlt
    exact (Nat.sub_le _ _).trans_lt hlt

theorem roundToDouble_snd_lt {n : Nat} (hn : Nat.log2 n + 1 < 2 ^ 52) :
    (roundToDouble (max 2 n)).2 < 2 ^ 52 := by
  have hlog : Nat.log2 (max 2 n) + 1 < 2 ^ 52 := by
    rcases le_total n 2 with hsmall | hlarge
    · rw [max_eq_left hsmall]
      decide
    · rwa [max_eq_right hlarge]
  rw [roundToDouble_eq]
  split <;> dsimp only <;> omega

/-- The size of an enum is its logarithm in double precision, counted in whole bytes. -/
theorem enumSize_eq_ceil {n : Nat} (hn : Nat.log2 n + 1 < 2 ^ 52) :
    enumSize n = ⌈doubleLog (max 2 n) / 8⌉₊ := by
  have hpos : 0 < max 2 n := lt_of_lt_of_le two_pos (le_max_left 2 n)
  obtain ⟨hlow, hhigh, hdown⟩ := doubleLog_cases hpos rfl
    (one_le_roundToDouble_snd (le_max_left 2 n)) (roundToDouble_snd_lt hn)
  refine eq_of_forall_ge_iff fun k => ?_
  rw [enumSize_le_iff_rounded, Nat.ceil_le, div_le_iff₀ (by norm_num)]
  generalize (roundToDouble (max 2 n)).2 = b at *
  rcases lt_trichotomy b (8 * k) with hb | rfl | hb
  · have hcast : (b : ℝ) + 1 ≤ 8 * k := mod_cast hb
    exact iff_of_true (.inl hb) (by linarith)
  · have hcast : ((8 * k : Nat) : ℝ) = k * 8 := by
      push_cast
      exact mul_comm _ _
    rw [← hcast, hdown]
    omega
  · have hcast : 8 * (k : ℝ) + 1 ≤ b := mod_cast hb
    exact iff_of_false (by omega) (by linarith)

/-! ### The width -/

/-- The size of an enum is the least number of bytes for its members, the unseen ones left out.
This is the least number for all of them, or, from seven bytes on and for counts just above what
these can tell apart, one byte less.  Either way it is the logarithm in double precision, in whole
bytes. -/
theorem isLeast_enumSize (n : Nat) :
    IsLeast {k | 1 ≤ k ∧ n ≤ 256 ^ k + unseenMembers k} (enumSize n) ∧
      (IsLeast {k | 1 ≤ k ∧ n ≤ 256 ^ k} (enumSize n) ∨
        7 ≤ enumSize n ∧ 256 ^ enumSize n < n ∧
          IsLeast {k | 1 ≤ k ∧ n ≤ 256 ^ k} (enumSize n + 1)) ∧
      (Nat.log2 n + 1 < 2 ^ 52 → enumSize n = ⌈doubleLog (max 2 n) / 8⌉₊) := by
  have hpos := enumSize_pos n
  have hcount : n ≤ 256 ^ enumSize n + unseenMembers (enumSize n) :=
    (enumSize_le_iff n hpos).1 le_rfl
  have hleast : ∀ k, 1 ≤ k → n ≤ 256 ^ k → enumSize n ≤ k := fun k hk hle =>
    (enumSize_le_iff n hk).2 (hle.trans (Nat.le_add_right _ _))
  refine ⟨⟨⟨hpos, hcount⟩, fun k hk => (enumSize_le_iff n hk.1).2 hk.2⟩, ?_, enumSize_eq_ceil⟩
  rcases le_or_gt n (256 ^ enumSize n) with hfits | habove
  · exact .inl ⟨⟨hpos, hfits⟩, fun k hk => hleast k hk.1 hk.2⟩
  · have hlt := unseenMembers_lt (enumSize n)
    have hseven : 7 ≤ enumSize n := by
      by_contra hsmall
      rw [unseenMembers, if_pos (by omega)] at hcount
      omega
    have hnext : n ≤ 256 ^ (enumSize n + 1) := by
      rw [Nat.pow_succ]
      omega
    refine .inr ⟨hseven, habove, ⟨Nat.le_add_left _ _, hnext⟩, fun k hk => ?_⟩
    have hne : enumSize n ≠ k := fun heq => (heq ▸ habove).not_ge hk.2
    exact lt_of_le_of_ne (hleast k hk.1 hk.2) hne

/-- The last count that is taken for `256 ^ 7` needs eight bytes. -/
theorem isLeast_enumSize_lastUnseen :
    Nat.log2 (256 ^ 7 + 183) + 1 < 2 ^ 52 ∧
      7 = ⌈doubleLog (max 2 (256 ^ 7 + 183)) / 8⌉₊ ∧
      IsLeast {k | 1 ≤ k ∧ 256 ^ 7 + 183 ≤ 256 ^ k} 8 := by
  have hbits : Nat.log2 (256 ^ 7 + 183) + 1 < 2 ^ 52 := by decide +kernel
  have hsize : enumSize (256 ^ 7 + 183) = 7 := by decide +kernel
  obtain ⟨-, hwidth, hlog⟩ := isLeast_enumSize (256 ^ 7 + 183)
  rw [hsize] at hwidth hlog
  refine ⟨hbits, hlog hbits, ?_⟩
  rcases hwidth with hexact | ⟨-, -, hnext⟩
  · exact absurd hexact.1.2 (by norm_num)
  · exact hnext

/-- A count of one more than `256 ^ 7` does not have the size that it needs. -/
theorem not_isLeast_enumSize :
    ¬ IsLeast {k | 1 ≤ k ∧ 256 ^ 7 + 1 ≤ 256 ^ k} (enumSize (256 ^ 7 + 1)) := by
  have hsize : enumSize (256 ^ 7 + 1) = 7 := by decide +kernel
  rw [hsize]
  exact fun h => absurd h.1.2 (by norm_num)

end StorageUpgrade
