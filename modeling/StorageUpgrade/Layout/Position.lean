import StorageUpgrade.Layout.TypeGraph
import StorageUpgrade.Error

/-!
# Positions and storage gaps

Storage is a sequence of slots of 32 bytes, and a variable that fits may share its slot with others.
The position of a variable is the number of its first byte, counted from the start of storage, and
its end is the byte right after it.  Either is unknown when the compiler did not lay the variable
out; a slot or a size that is no numeral is an error, found when the position is asked for.

A storage gap is an array named `__gap` that reserves room for variables to come.
-/

namespace StorageUpgrade

/-- The number of bytes of a slot. -/
def slotSize : Int := 32

/-- The name of a storage gap. -/
def gapLabel : String := "__gap"

/-- The labels of two types of one byte that hold each other's values. -/
def isByteLabel (label : Json) : Bool := label == .str "uint8" || label == .str "bool"

/-- The whole number that a text stands for. -/
def numeral (s : String) : Except Error Int := (Json.str s).toInt

/-- The number that a run of digits stands for. -/
def digitsNumber (ds : List Char) : Except Error Nat :=
  match Numeral.ofDigits ds with
  | .ok n => .ok n
  | .error _ => .error (.misuse (.tooLong ds.length))

/-- The digits at the front of the tail of an identifier. -/
def leadingDigits (tail : Option String) : List Char := (spanDigits (tail.getD "").toList).1

namespace Variable

/-- Whether the compiler laid the variable out. -/
def isPlaced (v : Variable TypeInfo) : Bool :=
  v.slot.isSome && v.offset.isSome && v.type.numberOfBytes.isSome

/-- Whether the variable is a storage gap. -/
def isGap (v : Variable TypeInfo) : Bool :=
  v.label == .str gapLabel && v.type.head == "t_array"

/-- The number of the first byte of a variable. -/
def start? (v : Variable TypeInfo) : Except Error (Option Int) :=
  match v.slot, v.offset with
  | some slot, some offset => do .ok (some ((← numeral slot) * slotSize + offset))
  | _, _ => .ok none

/-- The number of the byte right after a variable. -/
def end? (v : Variable TypeInfo) : Except Error (Option Int) := do
  match ← v.start?, v.type.numberOfBytes with
  | some start, some size => .ok (some (start + (← numeral size)))
  | _, _ => .ok none

/-- The position and the end of a variable. -/
def span (v : Variable TypeInfo) : Except Error (Option Int × Option Int) := do
  .ok (← v.start?, ← v.end?)

/-- Whether two variables end at the same byte. -/
def endsWith (updated old : Variable TypeInfo) : Except Error Bool := do
  match ← updated.end? with
  | none => .ok false
  | some last => .ok ((← old.end?) == some last)

/-- Whether the old variable is a gap that ends where the updated one does. -/
def endMatchesGap (old updated : Variable TypeInfo) : Except Error Bool :=
  if old.isGap then updated.endsWith old else .ok false

/-- The number of elements of an array. -/
def arrayLength? (v : Variable TypeInfo) : Except Error (Option Nat) :=
  match leadingDigits v.type.tail with
  | [] => .ok none
  | ds => (digitsNumber ds).map some

/-- The length with which a resized gap ends where the old gap did. -/
def expectedGapSize? (old updated : Variable TypeInfo) : Except Error (Option Int) := do
  let last ← old.end?
  let start ← updated.start?
  match last, start, ← old.arrayLength?, old.type.numberOfBytes with
  | some last, some start, some length, some size =>
    if length = 0 then .ok none
    else
      let perItem := Int.fdiv (← numeral size) length
      if perItem = 0 then .ok none else .ok (some (Int.fdiv (last - start) perItem))
  | _, _, _, _ => .ok none

end Variable

end StorageUpgrade
