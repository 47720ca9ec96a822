import StorageUpgrade.Standard.Table.Cell
import StorageUpgrade.Text.LineBreak

/-!
# Columns of a table

A column is two characters wider than its title, or wider if a cell needs it.  Texts stand at the
left without the blanks around them, and numbers at the right with their points below each other.
A cell takes up as many lines as it has, and commands for the terminal take up no room.
-/

namespace StorageUpgrade
namespace Table

/-- The end of a line in a cell. -/
def isLineEnd (c : Char) : Bool := c == '\n' || c == '\r'

/-- How the cells of a table are measured. -/
structure Measure where
  /-- Whether there are commands for the terminal in the table. -/
  commands : Bool
  /-- Whether there are line ends in the table. -/
  breaks : Bool
deriving DecidableEq, Repr

namespace Measure

/-- How the cells of a table are measured, given all of its texts. -/
def ofTexts (texts : List String) : Measure :=
  let all := ("\t".intercalate texts).toList
  { commands := Escape.occursIn all, breaks := all.any isLineEnd }

/-- The number of columns that a line takes up. -/
def lineWidth (m : Measure) (line : List Char) : Nat :=
  if m.commands then (Escape.shown line).length else line.length

/-- The parts of a cell by which it is measured. -/
def pieces (m : Measure) (cell : List Char) : List (List Char) :=
  if m.breaks then splitWhere isLineEnd cell else [cell]

/-- The width of a cell. -/
def width (m : Measure) (cell : List Char) : Nat :=
  (m.pieces cell).foldl (fun w piece => max w (m.lineWidth piece)) 0

/-- The lines of a cell. -/
def lines (m : Measure) (cell : List Char) : List (List Char) :=
  if m.breaks then LineBreak.lines cell else [cell]

/-- The numbers of characters that take up no room, for each line of a cell. -/
def hidden (m : Measure) (cell : List Char) : List Nat :=
  if m.commands then (m.pieces cell).map fun piece => piece.length - m.lineWidth piece
  else (m.lines cell).map fun _ => 0

/-- The lines of a cell filled up to the width of its column. -/
def fill (m : Measure) (atRight : Bool) (width : Nat) (cell : List Char) : List (List Char) :=
  List.zipWith (fun line hidden =>
    let blanks := List.replicate (width + hidden - line.length) ' '
    if atRight then blanks ++ line else line ++ blanks) (m.lines cell) (m.hidden cell)

end Measure

/-- The number of characters behind the last occurrence of a character. -/
def behindLast? (mark : Char → Bool) (cs : List Char) : Option Nat :=
  if cs.any mark then some (cs.reverse.takeWhile (!mark ·)).length else none

/-- The number of characters behind the point of a number, or behind the mark of its exponent when
it has no point; one less than none when it has neither. -/
def decimals (cs : List Char) : Int :=
  if (isReal cs || isGrouped cs) && !isWhole cs then
    match (behindLast? (· == '.') cs).or (behindLast? (fun c => c == 'e' || c == 'E') cs) with
    | some n => n
    | none => -1
  else -1

/-- Cells with blanks behind them, so that their points come below each other at the right. -/
def alignPoints (m : Measure) (cells : List (List Char)) : List (List Char) :=
  let places := cells.map fun cell => decimals (if m.commands then Escape.shown cell else cell)
  let most := places.foldl max (-1)
  List.zipWith (fun cell place => cell ++ List.replicate (most - place).toNat ' ') cells places

/-- A column: its title, its width, whether its cells stand at the right, and their lines. -/
structure Column where
  title : String
  width : Nat
  atRight : Bool
  cells : List (List (List Char))

namespace Column

/-- The width that a column has in any case. -/
def minWidth (title : String) : Nat := title.length + 2

/-- The column of some values. -/
def ofValues (m : Measure) (title : String) (values : List Json) : Except Json.Misuse Column := do
  let kind := columnKind values
  let texts ← values.mapM (cellText m.commands kind)
  let texts := if kind.isNumber then alignPoints m texts else texts.map trim
  let width := texts.foldl (fun w text => max w (m.width text)) (minWidth title)
  let cells := texts.map (m.fill kind.isNumber width)
  .ok {
    title
    width := cells.flatten.foldl (fun w line => max w (m.lineWidth line)) (minWidth title)
    atRight := kind.isNumber
    cells }

/-- The title filled up to the width of the column. -/
def titleLine (column : Column) : List Char :=
  let blanks := List.replicate (column.width - column.title.length) ' '
  if column.atRight then blanks ++ column.title.toList else column.title.toList ++ blanks

end Column
end Table
end StorageUpgrade
