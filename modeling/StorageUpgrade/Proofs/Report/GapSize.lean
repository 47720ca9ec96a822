import Mathlib.Algebra.Order.Ring.Int
import Mathlib.Tactic.Ring
import StorageUpgrade.Proofs.Compare.Answers
import StorageUpgrade.Proofs.Compare.Compatible
import StorageUpgrade.Report.Basic

/-!
# The expected size of a gap

To say how a gap should have been resized, its new length is computed from the positions and sizes of
the two variables, and written out.  A number that is too long to be written is an error, and so the
digits of slots, offsets and sizes are limited: in a `Presentable` variable the longest number that
can come of them has just as many digits as may be written (`exists_explainResize`).  With one digit
more in a slot the number may be too long.
-/

namespace StorageUpgrade

instance : DecidablePred IsDecimal := fun text =>
  decidable_of_iff (text.toList ≠ [] ∧ text.toList.all Char.isDigit = true)
    ⟨fun ⟨hne, hdigits⟩ => ⟨hne, List.all_eq_true.1 hdigits⟩,
      fun h => ⟨h.ne_nil, List.all_eq_true.2 h.digits⟩⟩

/-! ### Numbers of few digits -/

theorem digitValue?_le {c : Char} {n : Nat} (h : digitValue? c = some n) : n ≤ 9 := by
  obtain ⟨first, hfirst, rfl⟩ := Option.map_eq_some_iff.1 h
  have hrange := List.find?_some hfirst
  rw [Bool.and_eq_true, decide_eq_true_eq, decide_eq_true_eq] at hrange
  omega

/-- A run of digits stands for a number below the power of ten with as many zeros. -/
theorem digitsValue_lt (ds : List Char) : digitsValue ds < 10 ^ ds.length := by
  induction ds using List.reverseRecOn with
  | nil => exact Nat.one_pos
  | append_singleton ds c ih =>
      have hdigit : (digitValue? c).getD 0 ≤ 9 := by
        cases hc : digitValue? c with
        | none => exact Nat.zero_le 9
        | some n => exact digitValue?_le hc
      have hvalue : digitsValue (ds ++ [c]) = 10 * digitsValue ds + (digitValue? c).getD 0 := by
        rw [digitsValue, List.foldl_append]
        rfl
      rw [hvalue, List.length_append, List.length_singleton, Nat.pow_succ]
      omega

/-- A decimal text of a readable length stands for a natural number of no more digits. -/
theorem exists_numeral_of_isDecimal {text : String} {digits : Nat} (h : IsDecimal text)
    (hlength : text.toList.length ≤ digits) (hdigits : digits ≤ maxDigits) :
    ∃ n : Nat, numeral text = .ok n ∧ n < 10 ^ digits := by
  refine ⟨digitsValue text.toList, ?_, ?_⟩
  · rw [numeral_of_isDecimal h, digitsNumber_of_short (hlength.trans hdigits)]
    rfl
  · calc digitsValue text.toList
        < 10 ^ text.toList.length := digitsValue_lt _
      _ ≤ 10 ^ digits := Nat.pow_le_pow_right (by omega) hlength

/-! ### Variables whose position can be said -/

/-- The position and the size of a variable are decimal numbers, the slot of two digits less than may
be written, the others of one less. -/
structure Variable.Presentable (v : TypedVariable) : Prop where
  slot : ∀ text ∈ v.slot, IsDecimal text ∧ text.toList.length ≤ maxDigits - 2
  offset : ∀ n ∈ v.offset, n.natAbs < 10 ^ (maxDigits - 1)
  bytes : ∀ text ∈ v.type.numberOfBytes, IsDecimal text ∧ text.toList.length ≤ maxDigits - 1

instance (v : TypedVariable) : Decidable v.Presentable :=
  decidable_of_iff ((∀ text ∈ v.slot, IsDecimal text ∧ text.toList.length ≤ maxDigits - 2) ∧
      (∀ n ∈ v.offset, n.natAbs < 10 ^ (maxDigits - 1)) ∧
      ∀ text ∈ v.type.numberOfBytes, IsDecimal text ∧ text.toList.length ≤ maxDigits - 1)
    ⟨fun ⟨slot, offset, bytes⟩ => ⟨slot, offset, bytes⟩, fun h => ⟨h.slot, h.offset, h.bytes⟩⟩

/-- The power of ten that bounds slots. -/
def slotBound : Nat := 10 ^ (maxDigits - 2)

theorem ten_mul_slotBound : 10 ^ (maxDigits - 1) = 10 * slotBound := by
  have hsplit : maxDigits - 1 = (maxDigits - 2) + 1 := rfl
  rw [hsplit, Nat.pow_succ', slotBound]

theorem hundred_mul_slotBound : 10 ^ maxDigits = 100 * slotBound := by
  have hsplit : maxDigits = (maxDigits - 2) + 2 := rfl
  rw [slotBound, Nat.mul_comm, hsplit, Nat.pow_add, Nat.add_sub_cancel]

namespace Variable

variable {v old updated : TypedVariable}

/-- A number of 32 times a slot and an offset. -/
theorem Presentable.exists_start? (hv : v.Presentable) :
    ∃ first, v.start? = .ok first ∧ ∀ p ∈ first, p.natAbs < 42 * slotBound := by
  unfold start?
  cases hslot : v.slot with
  | none => exact ⟨none, rfl, by simp⟩
  | some slot =>
      cases hoffset : v.offset with
      | none => exact ⟨none, rfl, by simp⟩
      | some offset =>
          obtain ⟨hdecimal, hlength⟩ := hv.slot slot hslot
          obtain ⟨n, hn, hlt⟩ := exists_numeral_of_isDecimal hdecimal hlength (Nat.sub_le _ _)
          have hoffset := hv.offset offset hoffset
          rw [ten_mul_slotBound] at hoffset
          change n < slotBound at hlt
          refine ⟨some (n * slotSize + offset), by simp [hn, bind, Except.bind], ?_⟩
          rintro p ⟨⟩
          rw [slotSize]
          omega

theorem Presentable.exists_size (hv : v.Presentable) {text : String}
    (htext : v.type.numberOfBytes = some text) :
    ∃ size : Nat, numeral text = .ok size ∧ size < 10 * slotBound := by
  obtain ⟨hdecimal, hlength⟩ := hv.bytes text htext
  rw [← ten_mul_slotBound]
  exact exists_numeral_of_isDecimal hdecimal hlength (Nat.sub_le _ _)

theorem Presentable.exists_end? (hv : v.Presentable) :
    ∃ last, v.end? = .ok last ∧ ∀ p ∈ last, p.natAbs < 52 * slotBound := by
  obtain ⟨first, hfirst, hbound⟩ := hv.exists_start?
  unfold end?
  rw [hfirst]
  cases first with
  | none => exact ⟨none, rfl, by simp⟩
  | some first =>
      cases hsize : v.type.numberOfBytes with
      | none => exact ⟨none, rfl, by simp⟩
      | some text =>
          obtain ⟨size, hsize, hlt⟩ := hv.exists_size hsize
          have hfirst := hbound first rfl
          refine ⟨some (first + size), by simp [hsize, bind, Except.bind], ?_⟩
          rintro p ⟨⟩
          omega

/-- The length of an array can be read, if it has a fixed one. -/
def HasLength (t : TypeInfo) : Prop :=
  leadingDigits t.tail = [] ∨ ∃ length, Comparator.ArrayLength t length

theorem exists_arrayLength? (h : HasLength v.type) : ∃ length, v.arrayLength? = .ok length := by
  unfold arrayLength?
  split
  · exact ⟨none, rfl⟩
  · rename_i hne
    obtain ⟨n, -, hn⟩ := h.resolve_left hne
    exact ⟨some n, by rw [hn]; rfl⟩

/-- The expected length of a gap is the number of its items between the start of the updated variable
and the end of the old one, which is no more than the number of bytes. -/
theorem exists_expectedGapSize? (hold : old.Presentable) (hupdated : updated.Presentable)
    (hlength : HasLength old.type) : ∃ expected, old.expectedGapSize? updated = .ok expected ∧
      ∀ size ∈ expected, Numeral.isTooLong size = false := by
  obtain ⟨last, hlast, hlastBound⟩ := hold.exists_end?
  obtain ⟨first, hfirst, hfirstBound⟩ := hupdated.exists_start?
  obtain ⟨length, hlength⟩ := exists_arrayLength? hlength
  unfold expectedGapSize?
  rw [hlast, hfirst, hlength]
  dsimp only [bind, Except.bind]
  split
  · rename_i lastByte firstByte length text hbytes
    split
    · exact ⟨none, rfl, by simp⟩
    obtain ⟨size, hsize, -⟩ := hold.exists_size hbytes
    rw [hsize]
    dsimp only
    split
    · exact ⟨none, rfl, by simp⟩
    refine ⟨_, rfl, ?_⟩
    rintro expected ⟨⟩
    have hlast := hlastBound lastByte rfl
    have hfirst := hfirstBound firstByte rfl
    have hper : 0 ≤ Int.fdiv size length :=
      Int.fdiv_nonneg (Int.natCast_nonneg _) (Int.natCast_nonneg _)
    have hle : (Int.fdiv (lastByte - firstByte) (Int.fdiv size length)).natAbs ≤
        (lastByte - firstByte).natAbs := by
      rw [Int.fdiv_eq_ediv_of_nonneg _ hper]
      exact Int.natAbs_ediv_le_natAbs _ _
    have hpow : Nat.pow 10 maxDigits = 100 * slotBound := by
      rw [Nat.pow_eq, hundred_mul_slotBound]
    rw [Numeral.isTooLong, decide_eq_false_iff_not, hpow]
    omega
  · exact ⟨none, rfl, by simp⟩

end Variable

namespace Report

/-- What is wrong with the new length of an array can be said if both are fixed lengths, and for a gap
the old one can be read. -/
theorem exists_explainResize (grows : Bool) {was is : TypeInfo} {old updated : TypedVariable}
    (hold : old.Presentable) (hupdated : updated.Presentable)
    (hgap : old.isGap = true → Variable.HasLength old.type)
    (hwas : ∃ length, Comparator.ArrayLength was length)
    (his : ∃ length, Comparator.ArrayLength is length) :
    ∃ text, explainResize grows was is old updated = .ok text := by
  have hfixed (t : TypeInfo) (ht : ∃ length, Comparator.ArrayLength t length) :
      ∃ text, fixedSize t = .ok text := by
    obtain ⟨_, hne, -⟩ := ht
    unfold fixedSize
    split
    · contradiction
    · exact ⟨_, rfl⟩
  obtain ⟨before, hbefore⟩ := hfixed was hwas
  obtain ⟨after, hafter⟩ := hfixed is his
  unfold explainResize
  rw [hbefore, hafter]
  dsimp only [bind, Except.bind]
  split
  · rename_i hisGap
    obtain ⟨expected, hexpected, hshort⟩ :=
      Variable.exists_expectedGapSize? hold hupdated (hgap hisGap)
    have hnote : ∃ note, gapNote grows expected = .ok note := by
      unfold gapNote
      cases grows with
      | true => exact ⟨_, rfl⟩
      | false =>
          cases expected with
          | none => exact ⟨_, rfl⟩
          | some size =>
              dsimp only
              rw [hshort size rfl]
              exact ⟨_, rfl⟩
    obtain ⟨note, hnote⟩ := hnote
    rw [hexpected]
    dsimp only
    rw [hnote]
    exact ⟨_, rfl⟩
  · exact ⟨_, rfl⟩

end Report

end StorageUpgrade
