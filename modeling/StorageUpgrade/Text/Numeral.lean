import StorageUpgrade.Text.Blank

/-!
# Decimal numerals

Positions, sizes and array lengths are numbers written in decimal digits, and a digit may come from
any script.  A numeral may stand between blanks, carry a sign, and have single underscores between
its digits.  Reading and writing a number takes a time that grows with the square of its digits, so
their count is limited.
-/

namespace StorageUpgrade

/-- The code points of the digit zero of every script; the other nine digits follow it. -/
def zeroDigits : List Nat := [
  0x30, 0x660, 0x6F0, 0x7C0, 0x966, 0x9E6, 0xA66, 0xAE6, 0xB66, 0xBE6, 0xC66, 0xCE6, 0xD66,
  0xDE6, 0xE50, 0xED0, 0xF20, 0x1040, 0x1090, 0x17E0, 0x1810, 0x1946, 0x19D0, 0x1A80, 0x1A90,
  0x1B50, 0x1BB0, 0x1C40, 0x1C50, 0xA620, 0xA8D0, 0xA900, 0xA9D0, 0xA9F0, 0xAA50, 0xABF0, 0xFF10,
  0x104A0, 0x10D30, 0x11066, 0x110F0, 0x11136, 0x111D0, 0x112F0, 0x11450, 0x114D0, 0x11650,
  0x116C0, 0x11730, 0x118E0, 0x11950, 0x11C50, 0x11D50, 0x11DA0, 0x16A60, 0x16AC0, 0x16B50,
  0x1D7CE, 0x1D7D8, 0x1D7E2, 0x1D7EC, 0x1D7F6, 0x1E140, 0x1E2F0, 0x1E950, 0x1FBF0]

/-- The value of a decimal digit of any script. -/
def digitValue? (c : Char) : Option Nat :=
  (zeroDigits.find? fun first => first ≤ c.toNat && c.toNat < first + 10).map (c.toNat - ·)

/-- A decimal digit of any script. -/
def isDigit (c : Char) : Bool := (digitValue? c).isSome

/-- The number that a run of digits stands for; characters that are no digits count as zero. -/
def digitsValue (cs : List Char) : Nat :=
  cs.foldl (fun n c => 10 * n + (digitValue? c).getD 0) 0

@[simp] theorem digitsValue_nil : digitsValue [] = 0 := rfl

/-- The digits at the front of a text, and the rest. -/
def spanDigits (cs : List Char) : List Char × List Char := cs.span isDigit

/-- The most digits that a whole number may be read from, or be written with. -/
def maxDigits : Nat := 4300

namespace Numeral

/-- Why a text stands for no whole number. -/
inductive Fault where
  | malformed
  | tooLong (digits : Nat)
deriving DecidableEq, Repr

/-- The number of a run of digits, leading zeros included in their count. -/
def ofDigits (ds : List Char) : Except Fault Nat :=
  if maxDigits < ds.length then .error (.tooLong ds.length) else .ok (digitsValue ds)

/-- Whether a number has more digits than it may be written with. -/
def isTooLong (n : Int) : Bool := Nat.pow 10 maxDigits ≤ n.natAbs

/-- The digits of a numeral, where single underscores may stand between two digits. -/
def digits? : List Char → Option (List Char)
  | [] => none
  | [c] => if isDigit c then some [c] else none
  | c :: '_' :: cs => if isDigit c then (digits? cs).map (c :: ·) else none
  | c :: cs => if isDigit c then (digits? cs).map (c :: ·) else none

/-- A blank that may surround a numeral: the separators of ASCII may not. -/
def isPadding (c : Char) : Bool := isBlank c && !(28 ≤ c.toNat && c.toNat ≤ 31)

/-- A text without the blanks that may surround a numeral. -/
def unpadded (cs : List Char) : List Char :=
  ((cs.dropWhile isPadding).reverse.dropWhile isPadding).reverse

/-- The number of a numeral without a sign.  The digits at its front are counted before what follows
them is looked at. -/
def unsigned (cs : List Char) : Except Fault Int :=
  let (run, rest) := cs.span fun c => isDigit c || c == '_'
  match digits? run with
  | none => .error .malformed
  | some ds => do
    let n ← ofDigits ds
    if rest.isEmpty then .ok n else .error .malformed

/-- The number that a text stands for. -/
def parse (s : String) : Except Fault Int :=
  match unpadded s.toList with
  | '-' :: cs => (unsigned cs).map (-·)
  | '+' :: cs => unsigned cs
  | cs => unsigned cs

end Numeral

end StorageUpgrade
