import StorageUpgrade.Json.Display
import StorageUpgrade.Text.Affix

/-!
# The location of a namespace

A namespace starts at a slot that is derived from its identifier by hashing twice, so that no other
variable gets there.  The slot ends in a zero byte.  Of the formulas that a location may name, only
`erc7201` has a known slot.  The hash function is a parameter.
-/

namespace StorageUpgrade

/-- The number that some bytes write, the highest first. -/
def bytesToNat (bytes : List UInt8) : Nat := bytes.foldl (fun n b => 256 * n + b.toNat) 0

/-- The `count` lowest bytes of a number, the highest first. -/
def natToBytes (count n : Nat) : List UInt8 :=
  ((List.range count).map fun i => (n / Nat.pow 256 i % 256).toUInt8).reverse

/-- The first slot of the namespace with an identifier. -/
def namespaceSlot (hash : List UInt8 → List UInt8) (id : String) : Nat :=
  let inner := (bytesToNat (hash id.toUTF8.toList) + (Nat.pow 2 256 - 1)) % Nat.pow 2 256
  let outer := bytesToNat (hash (natToBytes 32 inner))
  outer - outer % 256

/-- How a location of a known formula starts. -/
def formulaMark : String := "erc7201:"

/-- The first slot of a location, if its formula is known. -/
def locationSlot? (hash : List UInt8 → List UInt8) (location : String) : Option Nat :=
  (afterFront? formulaMark.toList location.toList).map fun id =>
    namespaceSlot hash (String.ofList id)

/-- A number in base 16. -/
def hexNumber (n : Nat) : String := "0x" ++ String.ofList (Nat.toDigits 16 n)

end StorageUpgrade
