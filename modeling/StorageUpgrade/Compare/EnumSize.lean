/-!
# The size of an enum

An enum with `n` members takes the bytes that the binary logarithm of `n` needs, eight bits a byte.
The logarithm is taken in double precision: the count is rounded to 53 significant bits, and a
logarithm just above a whole number is rounded down to it.  Both matter for huge counts only.  A
count is taken to have fewer than `2 ^ 52` bits, as all do that fit into a memory.
-/

namespace StorageUpgrade

/-- A positive number rounded to 53 significant bits, ties to even: the significand, from `2 ^ 52`
on, and the binary logarithm rounded down. -/
def roundToDouble (n : Nat) : Nat × Nat :=
  let b := Nat.log2 n
  if b ≤ 52 then (n * Nat.pow 2 (52 - b), b)
  else
    let unit := Nat.pow 2 (b - 52)
    let q := n / unit
    let r := 2 * (n % unit)
    let s := if r < unit || (r == unit && q % 2 == 0) then q else q + 1
    if s = Nat.pow 2 53 then (Nat.pow 2 52, b + 1) else (s, b)

/-- How far above the whole number `b` a logarithm may be to be rounded down to it, in units of
`2 ^ -54`.  Between two powers of two the doubles near `b` have the distance `2 ^ (⌊log₂ b⌋ - 52)`,
half of which is rounded down; numbers from `2 ^ 1024` on are split before the logarithm is taken,
and their logarithm is rounded twice. -/
def logSteps (b : Nat) : Nat := Nat.pow 2 (Nat.log2 b + 1) + if b < 1024 then 0 else 1

/-- The numerator and the denominator of `1 + x / k * (1 + x / (k + 1) * (1 + ⋯))`, with as many
levels as the third argument says, for `x = p / q`.  From `k = 1` on it is the front of the
exponential series. -/
def expSeries (p q : Nat) : Nat → Nat → Nat × Nat
  | 0, _ => (1, 1)
  | levels + 1, k =>
    let (num, den) := expSeries p q levels (k + 1)
    (q * k * den + p * num, q * k * den)

/-- The power `2 ^ (t / 2 ^ 54)` as a fraction, from the natural logarithm of two. -/
def powerSeries (t : Nat) : Nat × Nat :=
  expSeries (69314718055994530942 * t) (Nat.pow 10 20 * Nat.pow 2 54) 16 1

/-- The largest excess of a significand over `2 ^ 52` at which the logarithm of the number is still
rounded down to the whole number `b`. -/
def logSlack (b : Nat) : Nat :=
  let (num, den) := powerSeries (logSteps b)
  min (Nat.pow 2 52 * (num - den) / den) (Nat.pow 2 52 - 1)

/-- The number of bytes of an enum with `count` members. -/
def enumSize (count : Nat) : Nat :=
  let (s, b) := roundToDouble (max 2 count)
  if b % 8 = 0 ∧ s - Nat.pow 2 52 ≤ logSlack b then b / 8 else b / 8 + 1

end StorageUpgrade
