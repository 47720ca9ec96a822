import StorageUpgrade.Json.Display
import StorageUpgrade.Number.Brief
import StorageUpgrade.Number.Decimal
import StorageUpgrade.Text.Affix
import StorageUpgrade.Text.Escape

/-!
# Cells of a table

The cells of a column are texts and other values, and a text may read as a number.  The kind of a
column is the least one that takes in all of its cells, and it decides what is written in them:
whole numbers stay as they are, and the numbers of a column with fractions are written in few
digits.  Commands for the terminal do not count when a text is read.
-/

namespace StorageUpgrade
namespace Table

/-- What a cell holds. -/
inductive Kind where
  | absent
  | truth
  | whole
  | real
  | text
deriving DecidableEq, Repr

/-- The place of a kind among all kinds, from the least general one on. -/
def Kind.rank : Kind → Nat
  | absent => 0
  | truth => 1
  | whole => 2
  | real => 3
  | text => 4

/-- The more general one of two kinds. -/
def Kind.join (a b : Kind) : Kind := if a.rank < b.rank then b else a

theorem Kind.rank_join (a b : Kind) : (a.join b).rank = max a.rank b.rank := by
  cases a <;> cases b <;> rfl

@[simp] theorem Kind.join_self (a : Kind) : a.join a = a := by simp [join]

theorem Kind.join_comm (a b : Kind) : a.join b = b.join a := by cases a <;> cases b <;> rfl

theorem Kind.join_assoc (a b c : Kind) : (a.join b).join c = a.join (b.join c) := by
  cases a <;> cases b <;> cases c <;> rfl

/-- Whether the cells of a kind stand at the right of their column. -/
def Kind.isNumber : Kind → Bool
  | whole | real => true
  | _ => false

/-! ### Reading cells -/

/-- Whether a text is a whole number. -/
def isWhole (cs : List Char) : Bool := (Numeral.parse (String.ofList cs)).isOk

/-- A text without the new line at its end. -/
def withoutLastBreak (cs : List Char) : List Char :=
  if cs.getLast? = some '\n' then cs.dropLast else cs

/-- Whether a text is a run of plain digits. -/
def arePlain (cs : List Char) : Bool := cs.all fun c => '0' ≤ c && c ≤ '9'

/-- A text without a sign at its front. -/
def unsignedPart : List Char → List Char
  | '-' :: cs | '+' :: cs => cs
  | cs => cs

/-- Whether a text is a whole number with a comma in front of every three digits. -/
def areGroups (cs : List Char) : Bool :=
  match splitAt ',' (unsignedPart cs) with
  | [] => false
  | first :: groups =>
    !first.isEmpty && first.length ≤ 3 && arePlain first &&
      groups.all fun g => g.length == 3 && arePlain g

/-- Whether a text is a number whose whole part is written in groups.  It may be empty, it may lack
the part on one side of the point, and a new line may follow it. -/
def isGrouped (cs : List Char) : Bool :=
  match splitAt '.' (withoutLastBreak cs) with
  | [[]] => true
  | [whole] => areGroups whole
  | [[], fraction] => !fraction.isEmpty && arePlain fraction
  | [whole, fraction] => areGroups whole && arePlain fraction
  | _ => false

/-- The words of a table for the numbers that have no digits. -/
def numberWords : List String := ["inf", "-inf", "nan"]

/-- Whether a text is a number in decimal notation, or one of the words for numbers. -/
def isReal (cs : List Char) : Bool :=
  let s := String.ofList cs
  match Double.ofText? s with
  | some (.finite ..) => true
  | some _ => numberWords.contains s.toLower
  | none => false

/-- The kind of a text. -/
def kindOfText (cs : List Char) : Kind :=
  let cs := Escape.shown cs
  if cs.isEmpty then .absent
  else if cs = "True".toList ∨ cs = "False".toList then .truth
  else if isWhole cs || (isGrouped cs && !cs.contains '.') then .whole
  else if isReal cs || isGrouped cs then .real
  else .text

/-- The kind of a cell. -/
def kindOf : Json → Kind
  | .null => .absent
  | .bool _ => .truth
  | .int _ => .whole
  | .real _ => .real
  | .str s => kindOfText s.toList
  | _ => .text

/-- The kind of a column, which is at least that of truth values. -/
def columnKind (cells : List Json) : Kind := cells.foldl (fun kind v => kind.join (kindOf v)) .truth

/-! ### Writing cells -/

/-- A sign of ASCII that stands for itself. -/
def isPlainSign (c : Char) : Bool := ' ' ≤ c && c ≤ '~' && c != '\\'

/-- A number in a colour at the front of a text: the command that sets the colour, the digits, and
the rest, which does not start with a plain sign. -/
def coloured? : List Char → Option (List Char × List Char × List Char)
  | '\x1b' :: '[' :: cs =>
    let (code, cs) := spanPlain cs
    let (marks, cs) := cs.span fun c => c == 'm' || c == 'M'
    let (digits, cs) := cs.span fun c => ('0' ≤ c && c ≤ '9') || c == '.'
    match cs with
    | c :: _ =>
      if code.isEmpty || marks.isEmpty || digits.isEmpty || isPlainSign c then none
      else some ('\x1b' :: '[' :: code ++ marks, digits, cs)
    | [] => none
  | _ => none

/-- The first number in a colour in a text. -/
def firstColoured? : List Char → Option (List Char × List Char × List Char)
  | [] => none
  | c :: cs => (coloured? (c :: cs)).or (firstColoured? cs)

/-- A whole number in a column of whole numbers.  One in a colour loses what stands in front of it
and the zeros at its front. -/
def wholeText (cs : List Char) : List Char :=
  match firstColoured? cs with
  | some (command, digits, rest) =>
    if arePlain digits then command ++ Nat.toDigits 10 (plainValue digits) ++ rest else cs
  | none => cs

/-- The number of a text in a column with fractions. -/
def realOf (cs : List Char) : Except Json.Misuse Double :=
  let s := String.ofList cs
  match Double.ofText? s with
  | some x => .ok x
  | none => .error (.badForm (.str s))

/-- A text in a column with fractions.  When there are commands for the terminal in the table, only
what is shown of the text is written anew, and it may have no groups. -/
def realText (commands : Bool) (cs : List Char) : Except Json.Misuse (List Char) := do
  if commands then
    let shown := Escape.shown cs
    .ok (replaceAll shown (← realOf shown).briefText.toList cs)
  else .ok (← realOf (cs.filter (· != ','))).briefText.toList

/-- The double nearest to a whole number. -/
def realOfInt (n : Int) : Except Json.Misuse Double :=
  match Double.ofRatio (n < 0) n.natAbs 1 with
  | .infinite _ => .error .unbounded
  | x => .ok x

/-- What is written in a cell of a column of some kind; `commands` says whether there are commands
for the terminal in the table. -/
def cellText (commands : Bool) (kind : Kind) (v : Json) : Except Json.Misuse (List Char) :=
  match kind, v with
  | _, .null | _, .str "" => .ok []
  | .whole, .str s => .ok (wholeText s.toList)
  | .real, .str s => realText commands s.toList
  | .real, .int n => do .ok (← realOfInt n).briefText.toList
  | .real, .bool b => do .ok (← realOfInt (if b then 1 else 0)).briefText.toList
  | .real, .real x => .ok x.briefText.toList
  | _, v => .ok v.display.toList

end Table
end StorageUpgrade
