import StorageUpgrade.Json.Display

/-!
# Writing documents

A document is written in ASCII, every other character as an escaped unit or a pair of them.  The
wide form puts each item on a line of its own, four blanks deeper than the list or object around
it; the narrow form writes everything on one line.
-/

namespace StorageUpgrade
namespace Json

/-- An escaped unit of 16 bits. -/
def escapedUnit (n : Nat) : List Char := '\\' :: 'u' :: hexDigits 4 n

/-- A character of a written text. -/
def writeChar (c : Char) : List Char :=
  match c with
  | '"' => ['\\', '"']
  | '\\' => ['\\', '\\']
  | '\n' => ['\\', 'n']
  | '\r' => ['\\', 'r']
  | '\t' => ['\\', 't']
  | '\x08' => ['\\', 'b']
  | '\x0c' => ['\\', 'f']
  | c =>
    let n := c.toNat
    if 32 ≤ n ∧ n < 127 then [c]
    else if n < 0x10000 then escapedUnit n
    else
      escapedUnit (0xD800 + (n - 0x10000) / 1024) ++ escapedUnit (0xDC00 + (n - 0x10000) % 1024)

/-- A text between double quotes. -/
def writeText (s : String) : String :=
  String.ofList ('"' :: s.toList.flatMap writeChar ++ ['"'])

/-- A text of code points between double quotes; a half of a surrogate pair is a unit by itself. -/
def writePoints (points : List Nat) : String :=
  let write (n : Nat) : List Char :=
    if Surrogate.isHalf n then escapedUnit n else writeChar (Char.ofNat n)
  String.ofList ('"' :: points.flatMap write ++ ['"'])

/-- A number in double precision; the infinities are written out. -/
def writeReal : Double → String
  | .nan => "NaN"
  | .infinite negative => if negative then "-Infinity" else "Infinity"
  | x => x.text

/-- The new line and the blanks in front of an item of level `level`. -/
def lineStart (level : Nat) : String := "\n" ++ String.ofList (List.replicate (4 * level) ' ')

mutual

/-- A value at level `level`, in the wide form. -/
def writeAt (level : Nat) : Json → String
  | .null => "null"
  | .bool b => if b then "true" else "false"
  | .int n => toString n
  | .real x => writeReal x
  | .str s => writeText s
  | .rawText points => writePoints points
  | .arr [] => "[]"
  | .arr xs => "[" ++ ",".intercalate (writeItems (level + 1) xs) ++ lineStart level ++ "]"
  | .obj [] => "\x7b\x7d"
  | .obj es =>
    "\x7b" ++ ",".intercalate (writeEntries (level + 1) es) ++ lineStart level ++ "\x7d"

/-- The items of a list of level `level`. -/
def writeItems (level : Nat) : List Json → List String
  | [] => []
  | x :: xs => (lineStart level ++ writeAt level x) :: writeItems level xs

/-- The entries of an object of level `level`. -/
def writeEntries (level : Nat) : List (String × Json) → List String
  | [] => []
  | (k, x) :: es =>
    (lineStart level ++ writeText k ++ ": " ++ writeAt level x) :: writeEntries level es

end

/-- The wide form of a document. -/
def write (v : Json) : String := writeAt 0 v

mutual

/-- The narrow form of a document. -/
def compact : Json → String
  | .arr xs => "[" ++ ", ".intercalate (compactItems xs) ++ "]"
  | .obj es => "\x7b" ++ ", ".intercalate (compactEntries es) ++ "\x7d"
  | .null => "null"
  | .bool b => if b then "true" else "false"
  | .int n => toString n
  | .real x => writeReal x
  | .str s => writeText s
  | .rawText points => writePoints points

/-- The items of a list in the narrow form. -/
def compactItems : List Json → List String
  | [] => []
  | x :: xs => compact x :: compactItems xs

/-- The entries of an object in the narrow form. -/
def compactEntries : List (String × Json) → List String
  | [] => []
  | (k, x) :: es => (writeText k ++ ": " ++ compact x) :: compactEntries es

end

end Json
end StorageUpgrade
