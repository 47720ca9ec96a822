/-!
# Halves of surrogate pairs

Escapes write texts in units of 16 bits, and a character beyond the first 65536 takes two of them:
a high half and a low half.  A text that is read from escapes may hold halves that are no part of a
pair, so it is a list of code points rather than of characters.  Where characters are needed, each
half has one that stands for it, among the last ones there are, which are for private use.
-/

namespace StorageUpgrade
namespace Surrogate

/-- The first half of a pair. -/
def isHigh (n : Nat) : Bool := 0xD800 ≤ n && n < 0xDC00

/-- The second half of a pair. -/
def isLow (n : Nat) : Bool := 0xDC00 ≤ n && n < 0xE000

/-- A half of a pair. -/
def isHalf (n : Nat) : Bool := isHigh n || isLow n

/-- The code point of a pair. -/
def join (high low : Nat) : Nat := 0x10000 + (high - 0xD800) * 1024 + (low - 0xDC00)

/-- The character that stands for a half. -/
def standIn (half : Nat) : Char := Char.ofNat (0x10F800 + (half - 0xD800))

/-- A code point as a character. -/
def toChar (n : Nat) : Char := if isHalf n then standIn n else Char.ofNat n

/-- A text of code points, with characters that stand for its halves. -/
def text (points : List Nat) : String := String.ofList (points.map toChar)

/-- How some code points are shown: a pair of halves as its character. -/
def shown : List Nat → List Char
  | [] => []
  | [n] => [toChar n]
  | m :: n :: ns =>
    if isHigh m && isLow n then Char.ofNat (join m n) :: shown ns else toChar m :: shown (n :: ns)

@[simp] theorem shown_nil : shown [] = [] := rfl

end Surrogate
end StorageUpgrade
