import StorageUpgrade.Number.Double

/-!
# Doubles in few digits

A table shows a number with six significant digits: the double is rounded to the nearest decimal
with that many digits, a tie to the even one, and zeros at the end of the fraction are left out.
-/

namespace StorageUpgrade
namespace Double

/-- The number of digits that a table shows. -/
def briefDigits : Nat := 6

/-- The form of numbers in tables. -/
def Form.brief : Form := ⟨briefDigits, ""⟩

/-- The double `m · 2 ^ q` in units of `10 ^ p`, rounded to the nearest whole number. -/
def roundDecimal (m : Nat) (q p : Int) : Nat :=
  roundDiv (m * Nat.pow 2 q.toNat * Nat.pow 10 (-p).toNat)
    (Nat.pow 10 p.toNat * Nat.pow 2 (-q).toNat)

/-- The digits of a positive double rounded to `count` of them, and the place of its point. -/
def rounded (count m : Nat) (q : Int) : List Char × Int :=
  let p := pointOf m q - count
  significantDigits (roundDecimal m q p) p

/-- The text of a double in a table. -/
def briefText (x : Double) : String := Form.brief.text (rounded briefDigits) x

end Double
end StorageUpgrade
