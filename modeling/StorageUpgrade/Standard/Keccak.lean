/-!
# Keccak-256

The hash function that places namespaces in storage.  The state is a square of 25 lanes of 64 bits,
where the lane in column `x` of row `y` has the number `x + 5 * y`.  A message is padded with a one,
zeros and a one to blocks of 17 lanes, which are mixed into the state one after the other.
-/

namespace StorageUpgrade
namespace Keccak

/-- The 25 lanes. -/
abbrev State := Array UInt64

/-- A lane of a state. -/
def lane (s : State) (x y : Nat) : UInt64 := s.getD (x % 5 + 5 * (y % 5)) 0

/-- The state whose lanes are given by their column and row. -/
def ofLanes (f : Nat → Nat → UInt64) : State :=
  ((List.range 25).map fun i => f (i % 5) (i / 5)).toArray

/-- A lane rotated to the left by less than 64 bits. -/
def rotate (w : UInt64) (n : Nat) : UInt64 :=
  if n = 0 then w else (w <<< n.toUInt64) ||| (w >>> (64 - n).toUInt64)

/-- How far each lane is rotated. -/
def rotations : List Nat := [
  0, 1, 62, 28, 27, 36, 44, 6, 55, 20, 3, 10, 43, 25, 39, 41, 45, 15, 21, 8, 18, 2, 61, 56, 14]

/-- What is added to the first lane in each round. -/
def roundConstants : List UInt64 := [
  0x0000000000000001, 0x0000000000008082, 0x800000000000808A, 0x8000000080008000,
  0x000000000000808B, 0x0000000080000001, 0x8000000080008081, 0x8000000000008009,
  0x000000000000008A, 0x0000000000000088, 0x0000000080008009, 0x000000008000000A,
  0x000000008000808B, 0x800000000000008B, 0x8000000000008089, 0x8000000000008003,
  0x8000000000008002, 0x8000000000000080, 0x000000000000800A, 0x800000008000000A,
  0x8000000080008081, 0x8000000000008080, 0x0000000080000001, 0x8000000080008008]

/-- The sum of the lanes of a column. -/
def parity (s : State) (x : Nat) : UInt64 :=
  lane s x 0 ^^^ lane s x 1 ^^^ lane s x 2 ^^^ lane s x 3 ^^^ lane s x 4

/-- Adds to each lane the sums of the columns beside it. -/
def theta (s : State) : State :=
  let sums := ((List.range 5).map (parity s)).toArray
  ofLanes fun x y =>
    lane s x y ^^^ sums.getD ((x + 4) % 5) 0 ^^^ rotate (sums.getD ((x + 1) % 5) 0) 1

/-- Rotates the lanes and moves them to other places. -/
def rhoPi (s : State) : State :=
  let turned := ((List.range 25).zip rotations).map fun (i, n) => rotate (s.getD i 0) n
  let turned := turned.toArray
  ofLanes fun x y => lane turned (x + 3 * y) x

/-- Mixes each lane with the two behind it in its row. -/
def chi (s : State) : State :=
  ofLanes fun x y => lane s x y ^^^ (~~~ (lane s (x + 1) y) &&& lane s (x + 2) y)

/-- One round. -/
def round (s : State) (constant : UInt64) : State :=
  let s := chi (rhoPi (theta s))
  s.setIfInBounds 0 (s.getD 0 0 ^^^ constant)

/-- All rounds. -/
def permute (s : State) : State := roundConstants.foldl round s

/-- The number of bytes of a block. -/
def blockSize : Nat := 136

/-- The bytes that are added behind a message of `length` bytes. -/
def padding (length : Nat) : List UInt8 :=
  let free := blockSize - length % blockSize
  if free = 1 then [0x81] else 0x01 :: (List.replicate (free - 2) 0x00 ++ [0x80])

/-- The lane that eight bytes make, the lowest first. -/
def laneOf (bytes : List UInt8) : UInt64 :=
  bytes.foldr (fun b w => (w <<< 8) ||| b.toUInt64) 0

/-- The first `count` pieces of `size` elements. -/
def chunks (size : Nat) : (count : Nat) → List α → List (List α)
  | 0, _ => []
  | count + 1, xs => xs.take size :: chunks size count (xs.drop size)

/-- Mixes a block into the state. -/
def absorb (s : State) (block : List UInt8) : State :=
  let lanes := ((chunks 8 17 block).map laneOf).toArray
  permute (ofLanes fun x y =>
    lane s x y ^^^ (if x + 5 * y < 17 then lanes.getD (x + 5 * y) 0 else 0))

/-- The bytes of a lane, the lowest first. -/
def bytesOf (w : UInt64) : List UInt8 :=
  (List.range 8).map fun i => (w >>> (8 * i).toUInt64).toUInt8

/-- The 32 bytes of the hash of a message. -/
def hash (message : List UInt8) : List UInt8 :=
  let padded := message ++ padding message.length
  let s := (chunks blockSize (padded.length / blockSize) padded).foldl absorb
    (ofLanes fun _ _ => 0)
  (List.range 4).flatMap fun i => bytesOf (s.getD i 0)

end Keccak
end StorageUpgrade
