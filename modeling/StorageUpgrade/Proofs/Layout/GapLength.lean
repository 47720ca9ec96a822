import Mathlib.Tactic.Ring
import StorageUpgrade.Proofs.Compare.Positions

/-!
# The suggested length of a gap

A fixed array takes whole slots, with as many elements in each as fit.  When a gap was resized, the
length is suggested with which it would end where it did before: the bytes that are left, divided by
the bytes of an element.  The latter are not known, and so they are taken to be the bytes of the old
gap divided by its length (`countedBytes`), padding included.

The suggestion is never too short, but it may be too long (`Variable.expectedGapSize?_cases`).  A
slot that is not filled by its elements leaves some bytes over, and these add up from slot to slot
until they count for another element: with ten bytes an element, in the fifth slot
(`Variable.not_endsWith_suggestedGap`).  This cannot happen if the number of elements of a slot
divides the bytes of a slot, since padding is then counted to each of them.

## Strategy

Let `p` elements fit into a slot, let the old gap take `k` slots, and let `m` of them be left.
The suggestion is right if it takes `m` slots, that is, if it is more than `p * (m - 1)` and at
most `p * m`.

* It is more, because an element counts for no more bytes than its part of all `k` slots
  (`le_slotsOf_suggested`), and this part is the smaller the more slots there are.
* Whether it is at most `p * m` is the condition that is left (`slotsOf_suggested_le_iff`).
-/

namespace StorageUpgrade

/-! ### Arrays in slots -/

/-- The number of elements of `size` bytes that fit into a slot. -/
def perSlot (size : Nat) : Nat := 32 / size

/-- The number of slots of an array of elements of `size` bytes. -/
def slotsOf (size length : Nat) : Nat := (length + perSlot size - 1) / perSlot size

/-- The bytes that are counted for an element of an array, if its bytes are divided by its
length. -/
def countedBytes (size length : Nat) : Nat := slotsOf size length * 32 / length

section

variable {size length : Nat}

theorem perSlot_pos (hsize : 0 < size) (hle : size ≤ 32) : 0 < perSlot size :=
  Nat.div_pos hle hsize

theorem perSlot_le (size : Nat) : perSlot size ≤ 32 := Nat.div_le_self 32 size

theorem slotsOf_le_iff (hper : 0 < perSlot size) (slots : Nat) :
    slotsOf size length ≤ slots ↔ length ≤ perSlot size * slots := by
  rw [slotsOf, Nat.div_le_iff_le_mul_add_pred hper]
  omega

theorem lt_slotsOf_iff (hper : 0 < perSlot size) (slots : Nat) :
    slots < slotsOf size length ↔ perSlot size * slots < length := by
  rw [← not_le, slotsOf_le_iff hper, not_le]

theorem length_le_bytes (hper : 0 < perSlot size) : length ≤ slotsOf size length * 32 := by
  calc length ≤ perSlot size * slotsOf size length := (slotsOf_le_iff hper _).1 (Nat.le_refl _)
    _ ≤ 32 * slotsOf size length := Nat.mul_le_mul_right _ (perSlot_le size)
    _ = slotsOf size length * 32 := Nat.mul_comm _ _

theorem countedBytes_pos (hper : 0 < perSlot size) (hlength : 0 < length) :
    0 < countedBytes size length :=
  Nat.div_pos (length_le_bytes hper) hlength

/-- An element counts for no more bytes than its part of some slots whose last one holds a single
element, as long as they are no more than those of the array. -/
theorem countedBytes_mul_le (hper : 0 < perSlot size) {filled : Nat}
    (hfilled : filled < slotsOf size length) :
    countedBytes size length * (perSlot size * filled + 1) ≤ (filled + 1) * 32 := by
  obtain ⟨more, hmore⟩ := Nat.exists_eq_add_of_lt hfilled
  obtain ⟨p, hp⟩ : ∃ p, perSlot size = p + 1 := Nat.exists_eq_add_one_of_ne_zero hper.ne'
  have hlength : perSlot size * (filled + more) + 1 ≤ length :=
    (lt_slotsOf_iff hper _).1 (by omega)
  have hall : countedBytes size length * (perSlot size * (filled + more) + 1) ≤
      (filled + more + 1) * 32 := by
    calc countedBytes size length * (perSlot size * (filled + more) + 1)
        ≤ countedBytes size length * length := Nat.mul_le_mul_left _ hlength
      _ ≤ slotsOf size length * 32 := Nat.div_mul_le_self _ _
      _ = (filled + more + 1) * 32 := by rw [hmore]
  -- of more slots, the one that is not full is a smaller part
  have hpart : (perSlot size * filled + 1) * (filled + more + 1) ≤
      (perSlot size * (filled + more) + 1) * (filled + 1) := by
    calc (perSlot size * filled + 1) * (filled + more + 1)
        ≤ (perSlot size * filled + 1) * (filled + more + 1) + p * more := Nat.le_add_right _ _
      _ = (perSlot size * (filled + more) + 1) * (filled + 1) := by rw [hp]; ring
  refine Nat.le_of_mul_le_mul_right ?_ (Nat.succ_pos (filled + more))
  calc countedBytes size length * (perSlot size * filled + 1) * (filled + more + 1)
      = countedBytes size length * ((perSlot size * filled + 1) * (filled + more + 1)) :=
        Nat.mul_assoc _ _ _
    _ ≤ countedBytes size length * ((perSlot size * (filled + more) + 1) * (filled + 1)) :=
        Nat.mul_le_mul_left _ hpart
    _ = countedBytes size length * (perSlot size * (filled + more) + 1) * (filled + 1) :=
        (Nat.mul_assoc _ _ _).symm
    _ ≤ (filled + more + 1) * 32 * (filled + 1) := Nat.mul_le_mul_right _ hall
    _ = (filled + 1) * 32 * (filled + more + 1) := by ring

/-- Padding is counted to the elements where each has the same part of it. -/
theorem le_countedBytes (hper : 0 < perSlot size) (hlength : 0 < length) :
    32 / perSlot size ≤ countedBytes size length := by
  rw [countedBytes, Nat.le_div_iff_mul_le hlength]
  calc 32 / perSlot size * length
      ≤ 32 / perSlot size * (perSlot size * slotsOf size length) :=
        Nat.mul_le_mul_left _ ((slotsOf_le_iff hper _).1 (Nat.le_refl _))
    _ = 32 / perSlot size * perSlot size * slotsOf size length := (Nat.mul_assoc _ _ _).symm
    _ ≤ 32 * slotsOf size length := Nat.mul_le_mul_right _ (Nat.div_mul_le_self _ _)
    _ = slotsOf size length * 32 := Nat.mul_comm _ _

/-! ### The suggested length -/

variable (size length) in
/-- The length that is suggested where `left` slots of a gap are left. -/
def suggestedLength (left : Nat) : Nat := left * 32 / countedBytes size length

section

variable (hper : 0 < perSlot size) (hlength : 0 < length) {left : Nat}

include hper hlength

/-- The suggestion is not too short. -/
theorem le_slotsOf_suggested (hleft : left ≤ slotsOf size length) :
    left ≤ slotsOf size (suggestedLength size length left) := by
  cases left with
  | zero => exact Nat.zero_le _
  | succ filled =>
      rw [Nat.succ_le_iff, lt_slotsOf_iff hper, ← Nat.succ_le_iff, suggestedLength,
        Nat.le_div_iff_mul_le (countedBytes_pos hper hlength), Nat.mul_comm]
      exact countedBytes_mul_le hper hleft

/-- The suggestion is not too long if what is left does not count for an element that does
not fit. -/
theorem slotsOf_suggested_le_iff :
    slotsOf size (suggestedLength size length left) ≤ left ↔
      left * 32 < (perSlot size * left + 1) * countedBytes size length := by
  rw [slotsOf_le_iff hper, suggestedLength, ← Nat.lt_succ_iff,
    Nat.div_lt_iff_lt_mul (countedBytes_pos hper hlength)]

/-- Nothing adds up if each element has the same part of a slot. -/
theorem lt_of_perSlot_dvd (hdvd : perSlot size ∣ 32) :
    left * 32 < (perSlot size * left + 1) * countedBytes size length := by
  calc left * 32
      = perSlot size * left * (32 / perSlot size) := by
        rw [Nat.mul_comm (perSlot size), Nat.mul_assoc, Nat.mul_div_cancel' hdvd]
    _ ≤ perSlot size * left * countedBytes size length :=
        Nat.mul_le_mul_left _ (le_countedBytes hper hlength)
    _ < (perSlot size * left + 1) * countedBytes size length :=
        Nat.mul_lt_mul_of_pos_right (Nat.lt_succ_self _) (countedBytes_pos hper hlength)

end

end

/-! ### Gaps -/

/-- A fixed array of elements of `size` bytes that is laid out from a slot on, in whole slots. -/
structure PackedArray (size length : Nat) (slot : Int) (v : TypedVariable) : Prop where
  start : v.start? = .ok (some (slot * slotSize))
  elements : v.arrayLength? = .ok (some length)
  bytes : ∃ text, v.type.numberOfBytes = some text ∧
    numeral text = .ok ((slotsOf size length * 32 : Nat) : Int)

namespace Variable

variable {size length : Nat} {first slot : Int} {old updated v : TypedVariable}

theorem end?_of_packedArray (h : PackedArray size length slot v) :
    v.end? = .ok (some ((slot + slotsOf size length) * slotSize)) := by
  obtain ⟨text, htext, hbytes⟩ := h.bytes
  unfold end?
  rw [h.start, htext]
  dsimp only [bind, Except.bind]
  rw [hbytes, slotSize]
  dsimp only
  rw [Int.add_mul, Int.natCast_mul]
  rfl

section

variable (hper : 0 < perSlot size) (hlength : 0 < length)
  (hold : PackedArray size length first old)
  (hupdated : updated.start? = .ok (some (slot * slotSize))) {left : Nat}
  (hleft : (left : Int) = first + slotsOf size length - slot)

include hper hlength hold hupdated hleft

/-- What is suggested for a packed gap. -/
theorem expectedGapSize?_of_packedArray :
    old.expectedGapSize? updated = .ok (some (suggestedLength size length left)) := by
  obtain ⟨text, htext, hbytes⟩ := hold.bytes
  have hcounted : (countedBytes size length : Int) ≠ 0 :=
    Int.natCast_ne_zero.2 (countedBytes_pos hper hlength).ne'
  have hbehind : (first + slotsOf size length) * slotSize - slot * slotSize = (left * 32 : Nat) := by
    rw [← Int.sub_mul, ← hleft, Int.natCast_mul]
    rfl
  unfold expectedGapSize?
  rw [end?_of_packedArray hold, hupdated, hold.elements, htext]
  dsimp only [bind, Except.bind]
  rw [if_neg hlength.ne', hbytes]
  dsimp only
  rw [← Int.ofNat_fdiv, ← countedBytes, if_neg hcounted, hbehind, ← Int.ofNat_fdiv, suggestedLength]

end

/-- For a gap of elements of at most 32 bytes that was resized and starts at one of its slots, a
length is suggested.  An array of this length ends where the old gap ended, or behind it: it ends
there unless the bytes left over in the slots that are left count for an element more.  This is so
whenever the number of elements of a slot divides its bytes. -/
theorem expectedGapSize?_cases (hsize : 0 < size) (hle : size ≤ 32) (hlength : 0 < length)
    (hold : PackedArray size length first old)
    (hupdated : updated.start? = .ok (some (slot * slotSize))) (hfirst : first ≤ slot)
    (hslot : slot < first + slotsOf size length) :
    ∃ suggested left : Nat, (left : Int) = first + slotsOf size length - slot ∧
      old.expectedGapSize? updated = .ok (some suggested) ∧
      ∀ v, PackedArray size suggested slot v →
        (∃ last last', old.end? = .ok (some last) ∧ v.end? = .ok (some last') ∧ last ≤ last') ∧
        (v.endsWith old = .ok true ↔
          left * 32 < (perSlot size * left + 1) * countedBytes size length) ∧
        (perSlot size ∣ 32 → v.endsWith old = .ok true) := by
  have hper := perSlot_pos hsize hle
  obtain ⟨left, hleft⟩ := Int.eq_ofNat_of_zero_le (a := first + slotsOf size length - slot) (by omega)
  refine ⟨suggestedLength size length left, left, hleft.symm,
    expectedGapSize?_of_packedArray hper hlength hold hupdated hleft.symm, fun v hv => ?_⟩
  have hlong : left ≤ slotsOf size (suggestedLength size length left) :=
    le_slotsOf_suggested hper hlength (by omega)
  have hends : v.endsWith old = .ok true ↔
      left * 32 < (perSlot size * left + 1) * countedBytes size length := by
    rw [endsWith_ok_true_iff, SameEnd, end?_of_packedArray hold, end?_of_packedArray hv,
      ← slotsOf_suggested_le_iff hper hlength]
    simp only [Except.ok.injEq, Option.some.injEq, slotSize]
    constructor
    · rintro ⟨last, hlast, hlast'⟩
      omega
    · intro hshort
      exact ⟨_, rfl, by omega⟩
  refine ⟨⟨_, _, end?_of_packedArray hold, end?_of_packedArray hv, ?_⟩, hends,
    fun hdvd => hends.2 (lt_of_perSlot_dvd hper hlength hdvd)⟩
  rw [slotSize]
  omega

/-- A gap of elements of ten bytes, three of which fit into a slot. -/
def tenByteGap (slot length bytes : String) : TypedVariable where
  label := .str gapLabel
  type :=
    { id := "t_array(t_bytes10)" ++ length ++ "_storage"
      head := "t_array"
      tail := some (length ++ "_storage")
      label := .str ("bytes10[" ++ length ++ "]")
      numberOfBytes := some bytes }
  slot := some slot
  offset := some 0

/-- Where two of three slots are left, six elements are suggested, which take both of them. -/
theorem expectedGapSize?_twoOfThreeSlots :
    PackedArray 10 9 0 (tenByteGap "0" "9" "96") ∧
      (tenByteGap "0" "9" "96").expectedGapSize? (tenByteGap "1" "5" "64") = .ok (some 6) ∧
      (tenByteGap "1" "6" "64").endsWith (tenByteGap "0" "9" "96") = .ok true := by
  have hold : PackedArray 10 9 0 (tenByteGap "0" "9" "96") :=
    ⟨by decide, by decide, "96", rfl, by decide⟩
  have hupdated : PackedArray 10 6 1 (tenByteGap "1" "6" "64") :=
    ⟨by decide, by decide, "64", rfl, by decide⟩
  have hresized : (tenByteGap "1" "5" "64").start? = .ok (some (1 * slotSize)) := by decide
  obtain ⟨suggested, left, hleft, hsuggested, hends⟩ :=
    expectedGapSize?_cases (by decide) (by decide) (by decide) hold hresized (by decide)
      (by decide)
  have hsix : (tenByteGap "0" "9" "96").expectedGapSize? (tenByteGap "1" "5" "64") =
      .ok (some 6) := by decide
  obtain rfl : suggested = 6 := by
    have hboth := Option.some.inj (Except.ok.inj (hsuggested.symm.trans hsix))
    omega
  obtain rfl : left = 2 := by
    have hslots : slotsOf 10 9 = 3 := by decide
    omega
  exact ⟨hold, hsix, (hends _ hupdated).2.1.2 (by decide)⟩

/-- Where five of six slots are left, sixteen elements are suggested, which take all six of them. -/
theorem not_endsWith_suggestedGap :
    PackedArray 10 18 0 (tenByteGap "0" "18" "192") ∧
      PackedArray 10 16 1 (tenByteGap "1" "16" "192") ∧
      (tenByteGap "0" "18" "192").expectedGapSize? (tenByteGap "1" "16" "192") = .ok (some 16) ∧
      (tenByteGap "1" "16" "192").endsWith (tenByteGap "0" "18" "192") = .ok false :=
  ⟨⟨by decide, by decide, "192", rfl, by decide⟩, ⟨by decide, by decide, "192", rfl, by decide⟩,
    by decide, by decide⟩

end Variable

end StorageUpgrade
