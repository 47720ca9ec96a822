/-!
# Double precision numbers

A number of a document that is written with a point or an exponent is held in double precision: 53
significant bits, exponents from -1074 to 971.  Everything here is exact arithmetic on natural
numbers.  A decimal is rounded to the nearest double, ties to the even mantissa; the text of a
double has the fewest digits that read back as the same double, and of the decimals with that many
digits the one nearest to it.
-/

namespace StorageUpgrade

/-- A double: `± mantissa · 2 ^ exponent`, an infinity, or no number. -/
inductive Double where
  | finite (negative : Bool) (mantissa : Nat) (exponent : Int)
  | infinite (negative : Bool)
  | nan
deriving DecidableEq, Repr

namespace Double

/-- The exponent of the smallest doubles. -/
def minExponent : Int := -1074

/-- The exponent of the largest doubles. -/
def maxExponent : Int := 971

/-- The quotient nearest to `num / den`; of two equally near ones the even one. -/
def roundDiv (num den : Nat) : Nat :=
  let q := num / den
  let r := 2 * (num % den)
  if r < den || (r == den && q % 2 == 0) then q else q + 1

/-- The fraction `num / den` divided by `2 ^ q`, as a fraction. -/
def scaled (num den : Nat) (q : Int) : Nat × Nat :=
  if 0 ≤ q then (num, den * Nat.pow 2 q.toNat) else (num * Nat.pow 2 (-q).toNat, den)

/-- The double nearest to the fraction `num / den`. -/
def ofRatio (negative : Bool) (num den : Nat) : Double :=
  if num = 0 then .finite negative 0 minExponent
  else
    let e : Int := (Nat.log2 num : Int) - Nat.log2 den
    let wide := scaled num den (e - 52)
    let q := max (if wide.1 / wide.2 < Nat.pow 2 52 then e - 53 else e - 52) minExponent
    let parts := scaled num den q
    let m := roundDiv parts.1 parts.2
    let (m, q) := if m = Nat.pow 2 53 then (Nat.pow 2 52, q + 1) else (m, q)
    if maxExponent < q then .infinite negative else .finite negative m q

/-- The double nearest to `digits · 10 ^ exponent`. -/
def ofDecimal (negative : Bool) (digits : Nat) (exponent : Int) : Double :=
  let magnitude := exponent + (Nat.toDigits 10 digits).length
  if digits = 0 || magnitude < -400 then .finite negative 0 minExponent
  else if 400 < magnitude then .infinite negative
  else if 0 ≤ exponent then ofRatio negative (digits * Nat.pow 10 exponent.toNat) 1
  else ofRatio negative digits (Nat.pow 10 (-exponent).toNat)

/-- The whole part of a finite double. -/
def truncate? : Double → Option Int
  | .finite negative m q =>
    let n : Nat := if 0 ≤ q then m * Nat.pow 2 q.toNat else m / Nat.pow 2 (-q).toNat
    some (if negative then -(n : Int) else n)
  | _ => none

/-- Zero of either sign. -/
def isZero : Double → Bool
  | .finite _ m _ => m == 0
  | _ => false

/-- Whether a double and an integer are the same number. -/
def equalsInt (x : Double) (n : Int) : Bool :=
  match x with
  | .finite negative m q =>
    let signed : Int := if negative then -m else m
    let shift (k : Int) : Int := (Nat.pow 2 k.toNat : Nat)
    if 0 ≤ q then signed * shift q == n else signed == n * shift (-q)
  | _ => false

/-- Whether two doubles are the same number: the zeros are, and nothing equals `nan`. -/
def equals (x y : Double) : Bool :=
  match x, y with
  | .nan, _ | _, .nan => false
  | x, y => (x.isZero && y.isZero) || x == y

/-! ### The shortest decimal -/

/-- The doubled distances of a double from the ends of the interval of reals that round to it, in
quarters of its last place. -/
def reach (m : Nat) (q : Int) : Nat × Nat :=
  (if m = Nat.pow 2 52 ∧ minExponent < q then 1 else 2, 2)

/-- Compares `c · 10 ^ p` with `x · 2 ^ q`. -/
def compareDecimal (c : Nat) (p : Int) (x : Nat) (q : Int) : Ordering :=
  compare (c * Nat.pow 10 p.toNat * Nat.pow 2 (-q).toNat)
    (x * Nat.pow 2 q.toNat * Nat.pow 10 (-p).toNat)

/-- The whole part of `x · 2 ^ q / 10 ^ p`. -/
def floorDecimal (x : Nat) (q p : Int) : Nat :=
  x * Nat.pow 2 q.toNat * Nat.pow 10 (-p).toNat / (Nat.pow 10 p.toNat * Nat.pow 2 (-q).toNat)

/-- The least `k` from `k` on, within `tries` steps, such that `x · 2 ^ q < 10 ^ k`. -/
def decimalPoint (x : Nat) (q : Int) : Nat → Int → Int
  | 0, k => k
  | tries + 1, k => if compareDecimal 1 k x q == .gt then k else decimalPoint x q tries (k + 1)

/-- The place of the decimal point of a positive double, counted from its first digit. -/
def pointOf (m : Nat) (q : Int) : Int :=
  decimalPoint m q 4 (((Nat.log2 m : Int) + q) * 30103 / 100000 - 1)

/-- The digits of `c · 10 ^ p` without zeros at the end, and the place of its decimal point. -/
def significantDigits (c : Nat) (p : Int) : List Char × Int :=
  let digits := Nat.toDigits 10 c
  ((digits.reverse.dropWhile (· == '0')).reverse, p + digits.length)

/-- The decimal on the grid `10 ^ p` nearest to the double `m · 2 ^ q` among those that round to
it, if there is one. -/
def onGrid? (m : Nat) (q p : Int) : Option Nat :=
  let (below, above) := reach m q
  let rounds (c : Nat) : Bool :=
    let low := compareDecimal c p (4 * m - below) (q - 2)
    let high := compareDecimal c p (4 * m + above) (q - 2)
    (low == .gt || (low == .eq && m % 2 == 0)) && (high == .lt || (high == .eq && m % 2 == 0))
  let c := floorDecimal (4 * m) (q - 2) p
  if rounds c then
    if rounds (c + 1) then
      match compareDecimal (2 * c + 1) p (8 * m) (q - 2) with
      | .gt => some c
      | .lt => some (c + 1)
      | .eq => some (if c % 2 = 0 then c else c + 1)
    else some c
  else if rounds (c + 1) then some (c + 1) else none

/-- The first of the grids with `n`, `n + 1`, … digits, `tries` of them, that has a decimal of the
double, as the decimal and the exponent of its grid. -/
def shortestFrom (m : Nat) (q k : Int) : Nat → Nat → Nat × Int
  | 0, n => ((onGrid? m q (k - n)).getD 0, k - n)
  | tries + 1, n =>
    match onGrid? m q (k - n) with
    | some c => (c, k - n)
    | none => shortestFrom m q k tries (n + 1)

/-- The digits of the shortest decimal of a positive double, without zeros at the end, and the
place of the decimal point counted from the first digit. -/
def shortest (m : Nat) (q : Int) : List Char × Int :=
  let (c, p) := shortestFrom m q (pointOf m q) 16 1
  significantDigits c p

/-- How a decimal is laid out. -/
structure Form where
  /-- The last place of the point behind the first digit at which no exponent is written. -/
  maxPoint : Int
  /-- What stands behind the digits of a number without a fraction. -/
  wholeEnd : String

/-- The form of numbers in documents and messages. -/
def Form.full : Form := ⟨16, ".0"⟩

/-- A decimal in positional form when its point stands at most `maxPoint` places behind the first
digit or 3 before it, and with an exponent of at least two digits otherwise. -/
def Form.layout (form : Form) (digits : List Char) (point : Int) : String :=
  if -4 < point ∧ point ≤ form.maxPoint then
    if point ≤ 0 then
      "0." ++ String.ofList (List.replicate (-point).toNat '0' ++ digits)
    else if digits.length ≤ point.toNat then
      String.ofList (digits ++ List.replicate (point.toNat - digits.length) '0') ++ form.wholeEnd
    else String.ofList (digits.take point.toNat ++ '.' :: digits.drop point.toNat)
  else
    let mantissa := match digits with
      | [] => []
      | [d] => [d]
      | d :: ds => d :: '.' :: ds
    let e := point - 1
    let size := Nat.toDigits 10 e.natAbs
    String.ofList (mantissa ++ 'e' :: (if e < 0 then '-' else '+') ::
      (if size.length < 2 then '0' :: size else size))

/-- The text of a double in a form, given the digits of a positive one and the place of its
point. -/
def Form.text (form : Form) (digitsOf : Nat → Int → List Char × Int) : Double → String
  | .nan => "nan"
  | .infinite negative => if negative then "-inf" else "inf"
  | .finite negative m q =>
    let digits :=
      if m = 0 then "0" ++ form.wholeEnd
      else let (ds, point) := digitsOf m q; form.layout ds point
    if negative then "-" ++ digits else digits

/-- The text of a double. -/
def text (x : Double) : String := Form.full.text shortest x

end Double

end StorageUpgrade
