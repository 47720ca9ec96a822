import StorageUpgrade.Json.Basic
import StorageUpgrade.Number.Decimal

/-!
# Reading documents

The strict form of a document: one value between blanks, with no trailing commas and no comments.
A number without point and exponent is a whole number, of as many digits as are read.  When a key
occurs twice, the last value counts, at the place of the first.  Keys are compared by their code
points.

The readers of a value take a bound on the number of steps, which the length of the text always
meets because every step consumes a character.  They also take the number of `levels` that may still
be opened: reading ends at a bracket or brace that opens one more.
-/

namespace StorageUpgrade
namespace Json

/-- Why a text is no document. -/
inductive ReadFault where
  /-- The text is not well formed. -/
  | malformed
  /-- A whole number has more digits than are read. -/
  | tooLong (digits : Nat)
  /-- Lists and objects are nested more deeply than is read. -/
  | tooDeep
deriving DecidableEq, Repr

/-- Reads a part at the front of a text, and gives the rest. -/
abbrev Reader (α : Type) := List Char → Except ReadFault (α × List Char)

/-- Finds a part at the front of a text, and gives the rest. -/
abbrev Token (α : Type) := List Char → Option (α × List Char)

/-- Reads a part that must be there. -/
def Token.required (token : Token α) : Reader α := fun cs =>
  match token cs with
  | some found => .ok found
  | none => .error .malformed

/-- The text without the blanks at its front. -/
def skipBlanks (cs : List Char) : List Char :=
  cs.dropWhile fun c => c == ' ' || c == '\n' || c == '\r' || c == '\t'

/-- The value of a digit in base 16. -/
def hexValue? (c : Char) : Option Nat :=
  if '0' ≤ c ∧ c ≤ '9' then some (c.toNat - 48)
  else if 'a' ≤ c ∧ c ≤ 'f' then some (c.toNat - 87)
  else if 'A' ≤ c ∧ c ≤ 'F' then some (c.toNat - 55)
  else none

/-- Four digits in base 16. -/
def unit : Token Nat
  | a :: b :: c :: d :: cs => do
    some (((← hexValue? a) * 4096 + (← hexValue? b) * 256 + (← hexValue? c) * 16
      + (← hexValue? d)), cs)
  | _ => none

/-- The second half of a pair that is written behind the first one. -/
def lowHalf : Token Nat
  | '\\' :: 'u' :: cs => do
    let (low, rest) ← unit cs
    if Surrogate.isLow low then some (low, rest) else none
  | _ => none

/-- The code point of an escaped unit, which may take a second one with it: a pair of halves is one
code point. -/
def escapedPoint : Token Nat := fun cs => do
  let (high, rest) ← unit cs
  if Surrogate.isHigh high then
    match lowHalf rest with
    | some (low, rest) => some (Surrogate.join high low, rest)
    | none => some (high, rest)
  else some (high, rest)

/-- The character of a one letter escape. -/
def escaped? : Char → Option Char
  | '"' => some '"'
  | '\\' => some '\\'
  | '/' => some '/'
  | 'b' => some '\x08'
  | 'f' => some '\x0c'
  | 'n' => some '\n'
  | 'r' => some '\r'
  | 't' => some '\t'
  | _ => none

/-- The rest of a text literal behind its opening quote; `read` holds the code points read so far,
last one first. -/
def quotedRest : Nat → (read : List Nat) → Token (List Nat)
  | 0, _, _ => none
  | _ + 1, _, [] => none
  | steps + 1, read, c :: cs =>
    if c = '"' then some (read.reverse, cs)
    else if c = '\\' then
      match cs with
      | 'u' :: cs => do
        let (n, cs) ← escapedPoint cs
        quotedRest steps (n :: read) cs
      | e :: cs => do quotedRest steps ((← escaped? e).toNat :: read) cs
      | [] => none
    else if c.toNat < 32 then none
    else quotedRest steps (c.toNat :: read) cs

/-- A whole number of plain digits. -/
def wholeNumber (negative : Bool) (ds rest : List Char) : Except ReadFault (Json × List Char) :=
  if maxDigits < ds.length then .error (.tooLong ds.length)
  else
    let n : Int := plainValue ds
    .ok (.int (if negative then -n else n), rest)

/-- A number with a fraction, an exponent or both. -/
def realNumber (negative : Bool) (ds fs : List Char) (exponent : Int) : Json :=
  .real (.ofDecimal negative (plainValue (ds ++ fs)) (exponent - fs.length))

/-- The digits behind a point, if there are any. -/
def fraction? : Token (List Char)
  | '.' :: cs =>
    match spanPlain cs with
    | ([], _) => none
    | found => some found
  | _ => none

/-- The whole part of a number, in which no zero stands in front of other digits. -/
def spanWhole : List Char → List Char × List Char
  | '0' :: rest => (['0'], rest)
  | cs => spanPlain cs

/-- A number without its sign. -/
def readNumber (negative : Bool) : Reader Json := fun cs =>
  match spanWhole cs with
  | ([], _) => .error .malformed
  | (ds, rest) =>
    let fraction := fraction? rest
    let (fs, after) := fraction.getD ([], rest)
    match readExponent? after with
    | some (e, rest) => .ok (realNumber negative ds fs e, rest)
    | none =>
      if fraction.isSome then .ok (realNumber negative ds fs 0, after)
      else wholeNumber negative ds rest

/-- The words that stand for a value. -/
def literals : List (String × Json) :=
  [("null", .null), ("true", .bool true), ("false", .bool false), ("NaN", .real .nan),
    ("Infinity", .real (.infinite false)), ("-Infinity", .real (.infinite true))]

/-- The first of some words that a text starts with, and what it stands for. -/
def wordOf (words : List (String × Json)) : Token Json := fun cs =>
  words.findSome? fun (word, v) =>
    if word.toList.isPrefixOf cs then some (v, cs.drop word.length) else none

/-- A word that stands for a value, or a number. -/
def readPlain : Reader Json := fun cs =>
  match wordOf literals cs with
  | some found => .ok found
  | none => match cs with
    | '-' :: cs => readNumber true cs
    | cs => readNumber false cs

/-- The levels that may still be opened inside a list or an object, if it may be opened itself. -/
def inside : (levels : Nat) → Except ReadFault Nat
  | 0 => .error .tooDeep
  | levels + 1 => .ok levels

mutual

/-- A value, with no blanks in front of it. -/
def readValue (levels : Nat) : (steps : Nat) → Reader Json
  | 0, _ => .error .malformed
  | steps + 1, cs => match cs with
    | '"' :: cs => do
      let (points, rest) ← Token.required (quotedRest steps []) cs
      .ok (.ofPoints points, rest)
    | '[' :: cs => do
      let levels ← inside levels
      match skipBlanks cs with
      | ']' :: rest => .ok (.arr [], rest)
      | cs =>
        let (xs, rest) ← readItems levels steps cs
        .ok (.arr xs, rest)
    | '\x7b' :: cs => do
      let levels ← inside levels
      match skipBlanks cs with
      | '\x7d' :: rest => .ok (.obj [], rest)
      | cs =>
        let (es, rest) ← readEntries levels steps [] cs
        .ok (.obj (es.map fun (points, v) => (Surrogate.text points, v)), rest)
    | cs => readPlain cs

/-- The items of a list up to its closing bracket. -/
def readItems (levels : Nat) : (steps : Nat) → Reader (List Json)
  | 0, _ => .error .malformed
  | steps + 1, cs => do
    let (x, cs) ← readValue levels steps cs
    match skipBlanks cs with
    | ',' :: cs =>
      let (xs, rest) ← readItems levels steps (skipBlanks cs)
      .ok (x :: xs, rest)
    | ']' :: rest => .ok ([x], rest)
    | _ => .error .malformed

/-- The entries of an object up to its closing brace, by the code points of their keys, added to the
`known` ones. -/
def readEntries (levels : Nat) :
    (steps : Nat) → (known : List (List Nat × Json)) → Reader (List (List Nat × Json))
  | 0, _, _ => .error .malformed
  | steps + 1, known, cs => match cs with
    | '"' :: cs => do
      let (points, cs) ← Token.required (quotedRest steps []) cs
      match skipBlanks cs with
      | ':' :: cs =>
        let (v, cs) ← readValue levels steps (skipBlanks cs)
        match skipBlanks cs with
        | ',' :: cs => readEntries levels steps (put points v known) (skipBlanks cs)
        | '\x7d' :: rest => .ok (put points v known, rest)
        | _ => .error .malformed
      | _ => .error .malformed
    | _ => .error .malformed

end

/-- The document that a text holds, in which at most `levels` lists and objects are open at once. -/
def parse (levels : Nat) (text : String) : Except ReadFault Json := do
  let cs := text.toList
  let (v, rest) ← readValue levels (cs.length + 1) (skipBlanks cs)
  if (skipBlanks rest).isEmpty then .ok v else .error .malformed

end Json
end StorageUpgrade
