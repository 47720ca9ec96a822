import StorageUpgrade.Json.Basic
import StorageUpgrade.Text.Printable

/-!
# Values inside messages

A message shows a text as it is and every other value in one line: absent values as `None`, truth
values with a capital letter, lists in brackets and objects in braces, and the texts inside lists
and objects between quotes.
-/

namespace StorageUpgrade

/-- The digits of a number in base 16, at least `width` of them. -/
def hexDigits (width n : Nat) : List Char :=
  let ds := Nat.toDigits 16 n
  List.replicate (width - ds.length) '0' ++ ds

/-- A character of a quoted text. -/
def quoteChar (quote c : Char) : List Char :=
  if c = quote ∨ c = '\\' then ['\\', c]
  else if c = '\n' then ['\\', 'n']
  else if c = '\r' then ['\\', 'r']
  else if c = '\t' then ['\\', 't']
  else if isPrintable c then [c]
  else if c.toNat < 256 then '\\' :: 'x' :: hexDigits 2 c.toNat
  else if c.toNat < 65536 then '\\' :: 'u' :: hexDigits 4 c.toNat
  else '\\' :: 'U' :: hexDigits 8 c.toNat

/-- The quote around a text: a single one, or a double one when the text holds a single quote and no
double one. -/
def quoteOf (cs : List Char) : Char :=
  if cs.contains '\'' && !cs.contains '"' then '"' else '\''

/-- A text between quotes. -/
def quoted (s : String) : String :=
  let quote := quoteOf s.toList
  String.ofList (quote :: s.toList.flatMap (quoteChar quote) ++ [quote])

/-- A code point of a quoted text; a half of a surrogate pair is never shown as it is. -/
def quotePoint (quote : Char) (n : Nat) : List Char :=
  if Surrogate.isHalf n then '\\' :: 'u' :: hexDigits 4 n else quoteChar quote (Char.ofNat n)

/-- A text of code points between quotes. -/
def quotedPoints (points : List Nat) : String :=
  let quote := quoteOf (points.map Surrogate.toChar)
  String.ofList (quote :: points.flatMap (quotePoint quote) ++ [quote])

namespace Json

mutual

/-- A value as it is shown inside a list or an object. -/
def shown : Json → String
  | .null => "None"
  | .bool b => if b then "True" else "False"
  | .int n => toString n
  | .real x => x.text
  | .str s => quoted s
  | .rawText points => quotedPoints points
  | .arr xs => "[" ++ ", ".intercalate (shownItems xs) ++ "]"
  | .obj es => "\x7b" ++ ", ".intercalate (shownEntries es) ++ "\x7d"

/-- The items of a list as they are shown. -/
def shownItems : List Json → List String
  | [] => []
  | x :: xs => shown x :: shownItems xs

/-- The entries of an object as they are shown. -/
def shownEntries : List (String × Json) → List String
  | [] => []
  | (k, x) :: es => (quoted k ++ ": " ++ shown x) :: shownEntries es

end

/-- A value as a message shows it: a text without quotes. -/
def display : Json → String
  | .str s => s
  | .rawText points => String.ofList (Surrogate.shown points)
  | v => shown v

@[simp] theorem display_str (s : String) : display (.str s) = s := rfl

/-- A text, or what a message shows of another value. -/
def displayed? (v : Json) : Option String := v.given?.map display

/-- The name of the kind of a value. -/
def kindName : Json → String
  | .null => "NoneType"
  | .bool _ => "bool"
  | .int _ => "int"
  | .real _ => "float"
  | .str _ | .rawText _ => "str"
  | .arr _ => "list"
  | .obj _ => "dict"

/-- What is said of a value of the wrong kind. -/
def Use.text : Use → String
  | .entryOf (.arr _) => "list indices must be integers or slices, not str"
  | .entryOf (.str _) | .entryOf (.rawText _) => "string indices must be integers, not 'str'"
  | .entryOf v => "'" ++ v.kindName ++ "' object is not subscriptable"
  | .elementsOf v => "'" ++ v.kindName ++ "' object is not iterable"
  | .numberOf v =>
    "int() argument must be a string, a bytes-like object or a real number, not '" ++
      v.kindName ++ "'"
  | .other => ""

/-- The longest part of a text that a message shows. -/
def maxShown : Nat := 200

/-- What is said of a text that is no numeral; it is cut off when it is long. -/
def noNumeral (v : Json) : String :=
  "invalid literal for int() with base 10: " ++ String.ofList (v.shown.toList.take maxShown)

/-- What is said of a number with too many digits. -/
def tooManyDigits (digits : Nat) : String :=
  "Exceeds the limit (" ++ toString maxDigits ++ " digits) for integer string conversion: " ++
    "value has " ++ toString digits ++
    " digits; use sys.set_int_max_str_digits() to increase the limit"

/-- What is said of a value that was asked for something in vain. -/
def Misuse.text : Misuse → String
  | .missingKey key => key.shown
  | .wrongKind use => use.text
  | .badForm (.real _) => "cannot convert float NaN to integer"
  | .badForm (.str s) => noNumeral (.str s)
  | .badForm (.rawText points) => noNumeral (.rawText points)
  | .tooLong digits => tooManyDigits digits
  | _ => ""

end Json

end StorageUpgrade
