import StorageUpgrade.Number.Double
import StorageUpgrade.Text.Numeral

/-!
# Decimal notation

The parts of a number in decimal notation: plain digits, a fraction behind a point, and an exponent.
`Double.ofText?` reads a whole text as a double: digits may come from any script and have single
underscores between them, one side of the point may lack its digits, and the infinities and what is
no number are written as words.
-/

namespace StorageUpgrade

/-- The decimal digits `0` to `9` at the front of a text, and the rest. -/
def spanPlain (cs : List Char) : List Char × List Char := cs.span fun c => '0' ≤ c && c ≤ '9'

/-- The number written by plain digits. -/
def plainValue (cs : List Char) : Nat := cs.foldl (fun n c => 10 * n + (c.toNat - 48)) 0

/-- The exponent at the front of a text, if there is one, and the rest. -/
def readExponent? : List Char → Option (Int × List Char)
  | e :: cs =>
    if e = 'e' ∨ e = 'E' then
      let (sign, cs) := match cs with
        | '-' :: cs => ((-1 : Int), cs)
        | '+' :: cs => (1, cs)
        | cs => (1, cs)
      match spanPlain cs with
      | ([], _) => none
      | (ds, rest) => some (sign * plainValue ds, rest)
    else none
  | [] => none

namespace Double

/-- A digit of any script as a plain one. -/
def plainDigit (c : Char) : Char :=
  match digitValue? c with
  | some n => Char.ofNat (48 + n)
  | none => c

/-- The text without its underscores, each of which must stand between two digits. -/
def withoutUnderscores? : List Char → Option (List Char)
  | [] => some []
  | '_' :: _ => none
  | c :: '_' :: d :: cs =>
    if isDigit c && isDigit d then (withoutUnderscores? (d :: cs)).map (c :: ·) else none
  | c :: cs => (withoutUnderscores? cs).map (c :: ·)

/-- The words for the numbers that have no digits, in small letters. -/
def words (negative : Bool) : List (String × Double) :=
  [("inf", .infinite negative), ("infinity", .infinite negative), ("nan", .nan)]

/-- Reads a number in decimal notation without a sign. -/
def ofDigits? (negative : Bool) (cs : List Char) : Option Double :=
  let (ds, rest) := spanPlain cs
  let (fs, rest) := match rest with
    | '.' :: rest => spanPlain rest
    | rest => ([], rest)
  let digits := plainValue (ds ++ fs)
  if ds.isEmpty && fs.isEmpty then none
  else match rest with
    | [] => some (.ofDecimal negative digits (-fs.length))
    | rest => match readExponent? rest with
      | some (e, []) => some (.ofDecimal negative digits (e - fs.length))
      | _ => none

/-- Reads a number without a sign. -/
def unsigned? (negative : Bool) (cs : List Char) : Option Double :=
  match (words negative).find? (·.1 == (String.ofList cs).toLower) with
  | some (_, x) => some x
  | none => do ofDigits? negative ((← withoutUnderscores? cs).map plainDigit)

/-- The double that a text stands for, `none` when it stands for no number. -/
def ofText? (s : String) : Option Double :=
  match Numeral.unpadded s.toList with
  | '-' :: cs => unsigned? true cs
  | '+' :: cs => unsigned? false cs
  | cs => unsigned? false cs

end Double
end StorageUpgrade
