import StorageUpgrade.Json.Reader
import StorageUpgrade.Text.Identifier

/-!
# Reading configurations

The relaxed form of a document is made to be written by hand: comments may stand wherever blanks
may, keys may be names without quotes, texts may stand between single quotes, hold controls and go
on in the next line behind a backslash, a comma may follow the last item, and numbers may have a
sign, lack a part around their point, or be written in base 16.  The keys of an object must differ.

Escaped units are read one by one, so a pair of halves stays two code points.

As in the strict form, the readers of a value take a bound on the number of steps, which the length
of the text always meets.
-/

namespace StorageUpgrade
namespace Json
namespace Relaxed

/-! ### Between the tokens -/

/-- A character that ends a line. -/
def isLineEnd (c : Char) : Bool :=
  c == '\n' || c == '\r' || c == '\u2028' || c == '\u2029'

/-- A character that may stand between two tokens. -/
def isSpace (c : Char) : Bool :=
  let n := c.toNat
  isLineEnd c || c == '\t' || n == 11 || n == 12 || c == ' ' || n == 0xA0 || n == 0xFEFF ||
    n == 0x1680 || (0x2000 ≤ n && n ≤ 0x200A) || n == 0x202F || n == 0x205F || n == 0x3000

/-- The rest of a text behind the end of a comment between signs, if there is one. -/
def afterComment? : List Char → Option (List Char)
  | '*' :: '/' :: cs => some cs
  | _ :: cs => afterComment? cs
  | [] => none

theorem length_of_afterComment? {cs rest : List Char} (h : afterComment? cs = some rest) :
    rest.length < cs.length := by
  fun_induction afterComment? cs with
  | case1 cs =>
    cases h
    simp only [List.length_cons]
    omega
  | case2 c cs _ ih => exact Nat.lt_succ_of_lt (ih h)
  | case3 => simp_all

theorem length_dropWhile_le (p : Char → Bool) (cs : List Char) :
    (cs.dropWhile p).length ≤ cs.length :=
  (List.dropWhile_suffix p).length_le

/-- The text without the blanks and comments at its front.  A comment that does not end is left,
and no token starts like it. -/
def skip : List Char → List Char
  | '/' :: '/' :: cs => skip (cs.dropWhile fun c => !isLineEnd c)
  | '/' :: '*' :: cs =>
    match _h : afterComment? cs with
    | some rest => skip rest
    | none => '/' :: '*' :: cs
  | c :: cs => if isSpace c then skip cs else c :: cs
  | [] => []
termination_by cs => cs.length
decreasing_by
  · have := length_dropWhile_le (fun c => !isLineEnd c) cs
    simp only [List.length_cons]
    omega
  · have := length_of_afterComment? _h
    simp only [List.length_cons]
    omega
  · simp only [List.length_cons]
    omega

/-! ### Texts and names -/

/-- Two digits in base 16. -/
def byte : Token Nat
  | a :: b :: cs => do some ((← hexValue? a) * 16 + (← hexValue? b), cs)
  | _ => none

/-- The character that a letter behind a backslash stands for: most stand for themselves. -/
def escapedLetter : Char → Char
  | 'b' => '\x08'
  | 'f' => '\x0c'
  | 'n' => '\n'
  | 'r' => '\r'
  | 't' => '\t'
  | 'v' => '\x0b'
  | c => c

/-- Whether a text starts with one of the digits `0` to `9`. -/
def startsWithDigit : List Char → Bool
  | c :: _ => '0' ≤ c && c ≤ '9'
  | [] => false

/-- What stands behind a backslash: a code point, or the end of a line, which stands for nothing. -/
def escape : Token (List Nat)
  | '\r' :: '\n' :: cs => some ([], cs)
  | 'u' :: cs => (unit cs).map fun (n, rest) => ([n], rest)
  | 'x' :: cs => (byte cs).map fun (n, rest) => ([n], rest)
  | '0' :: cs => if startsWithDigit cs then none else some ([0], cs)
  | c :: cs =>
    if isLineEnd c then some ([], cs)
    else if startsWithDigit (c :: cs) then none
    else some ([(escapedLetter c).toNat], cs)
  | [] => none

/-- The rest of a text literal behind its opening quote; `read` holds the code points read so far,
last one first.  Line ends only occur behind a backslash. -/
def quotedRest (quote : Char) : Nat → (read : List Nat) → Token (List Nat)
  | 0, _, _ => none
  | _ + 1, _, [] => none
  | steps + 1, read, c :: cs =>
    if c = quote then some (read.reverse, cs)
    else if c = '\\' then do
      let (e, cs) ← escape cs
      quotedRest quote steps (e ++ read) cs
    else if isLineEnd c then none
    else quotedRest quote steps (c.toNat :: read) cs

/-- A character of a name, which may be escaped, if it passes a test. -/
def nameChar (passes : Char → Bool) : Token Nat
  | '\\' :: 'u' :: cs => unit cs
  | c :: cs => if passes c then some (c.toNat, cs) else none
  | [] => none

/-- The rest of a name; `read` holds the code points read so far, last one first. -/
def nameRest : Nat → (read : List Nat) → List Char → List Nat × List Char
  | 0, read, cs => (read.reverse, cs)
  | steps + 1, read, cs =>
    match nameChar continuesName cs with
    | some (n, rest) => nameRest steps (n :: read) rest
    | none => (read.reverse, cs)

/-- The key of an entry: a text or a name. -/
def keyPoints (steps : Nat) : Token (List Nat)
  | '"' :: cs => quotedRest '"' steps [] cs
  | '\'' :: cs => quotedRest '\'' steps [] cs
  | cs => do
    let (n, cs) ← nameChar startsName cs
    some (nameRest steps [n] cs)

/-! ### Numbers -/

/-- The number written by digits in base 16. -/
def hexNumberValue (cs : List Char) : Nat := cs.foldl (fun n c => 16 * n + (hexValue? c).getD 0) 0

/-- A number in base 16 behind its mark; it may have any number of digits. -/
def readHex (negative : Bool) : Reader Json := fun cs =>
  match cs.span fun c => (hexValue? c).isSome with
  | ([], _) => .error .malformed
  | (ds, rest) =>
    let n : Int := hexNumberValue ds
    .ok (.int (if negative then -n else n), rest)

/-- The fraction of a number behind its point, which may lack its digits. -/
def looseFraction? : Token (List Char)
  | '.' :: cs => some (spanPlain cs)
  | _ => none

/-- A decimal number, which may lack the digits on one side of its point. -/
def readDecimal (negative : Bool) : Reader Json := fun cs =>
  let (ds, rest) := spanWhole cs
  let fraction := looseFraction? rest
  let (fs, after) := fraction.getD ([], rest)
  if ds.isEmpty && fs.isEmpty then .error .malformed
  else match readExponent? after with
    | some (e, rest) => .ok (realNumber negative ds fs e, rest)
    | none =>
      if fraction.isSome then .ok (realNumber negative ds fs 0, after)
      else wholeNumber negative ds rest

/-- A number without its sign. -/
def readUnsigned (negative : Bool) : Reader Json
  | '0' :: 'x' :: cs => readHex negative cs
  | '0' :: 'X' :: cs => readHex negative cs
  | cs =>
    match wordOf [("Infinity", .real (.infinite negative)), ("NaN", .real .nan)] cs with
    | some found => .ok found
    | none => readDecimal negative cs

/-- A number, with a sign right in front of it or without one. -/
def readNumber : Reader Json
  | '-' :: cs => readUnsigned true cs
  | '+' :: cs => readUnsigned false cs
  | cs => readUnsigned false cs

/-! ### Values -/

/-- The words that stand for a value. -/
def literals : List (String × Json) :=
  [("null", .null), ("true", .bool true), ("false", .bool false)]

/-- A word that stands for a value, or a number. -/
def readPlain : Reader Json := fun cs =>
  match wordOf literals cs with
  | some found => .ok found
  | none => readNumber cs

mutual

/-- A value, with no blanks in front of it. -/
def readValue : Nat → Reader Json
  | 0, _ => .error .malformed
  | steps + 1, cs => match cs with
    | '"' :: cs => do
      let (points, rest) ← Token.required (quotedRest '"' steps []) cs
      .ok (.ofPoints points, rest)
    | '\'' :: cs => do
      let (points, rest) ← Token.required (quotedRest '\'' steps []) cs
      .ok (.ofPoints points, rest)
    | '[' :: cs => match skip cs with
      | ']' :: rest => .ok (.arr [], rest)
      | cs => do
        let (xs, rest) ← readItems steps cs
        .ok (.arr xs, rest)
    | '\x7b' :: cs => match skip cs with
      | '\x7d' :: rest => .ok (.obj [], rest)
      | cs => do
        let (es, rest) ← readEntries steps [] cs
        .ok (.obj es, rest)
    | cs => readPlain cs

/-- The items of a list up to its closing bracket. -/
def readItems : Nat → Reader (List Json)
  | 0, _ => .error .malformed
  | steps + 1, cs => do
    let (x, cs) ← readValue steps cs
    match skip cs with
    | ',' :: cs => match skip cs with
      | ']' :: rest => .ok ([x], rest)
      | cs =>
        let (xs, rest) ← readItems steps cs
        .ok (x :: xs, rest)
    | ']' :: rest => .ok ([x], rest)
    | _ => .error .malformed

/-- The entries of an object up to its closing brace, added to the `known` ones. -/
def readEntries : Nat → (known : List (String × Json)) → Reader (List (String × Json))
  | 0, _, _ => .error .malformed
  | steps + 1, known, cs => do
    let (points, cs) ← Token.required (keyPoints steps) cs
    let key := String.ofList (Surrogate.shown points)
    match skip cs with
    | ':' :: cs =>
      let (v, cs) ← readValue steps (skip cs)
      if (find? key known).isSome then .error .malformed
      else
        let known := known ++ [(key, v)]
        match skip cs with
        | ',' :: cs => match skip cs with
          | '\x7d' :: rest => .ok (known, rest)
          | cs => readEntries steps known cs
        | '\x7d' :: rest => .ok (known, rest)
        | _ => .error .malformed
    | _ => .error .malformed

end

/-- The document that a text holds. -/
def parse (text : String) : Except ReadFault Json := do
  let cs := text.toList
  let (v, rest) ← readValue (cs.length + 1) (skip cs)
  if (skip rest).isEmpty then .ok v else .error .malformed

end Relaxed
end Json
end StorageUpgrade
