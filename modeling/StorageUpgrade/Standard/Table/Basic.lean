import StorageUpgrade.Standard.Table.Column

/-!
# Tables

A table with a title for each column, drawn with dashes and bars.  A row takes up as many lines as
its tallest cell.  A row is drawn as a rule when one of its first two cells holds nothing but the
mark for rules.
-/

namespace StorageUpgrade
namespace Table

/-- The character that asks for a rule in the place of a row. -/
def ruleMark : String := "\x01"

/-- Whether a row asks for a rule. -/
def isRule (row : List Json) : Bool :=
  (row.take 2).any fun v => match v with
    | .str s => trimText s == ruleMark
    | _ => false

/-- A line of cells. -/
def line (cells : List (List Char)) : String :=
  "|" ++ String.join (cells.map fun cell => " " ++ String.ofList cell ++ " |")

/-- A rule, with a mark at its ends and one between the columns. -/
def rule (ends : String) (columns : List Column) : String :=
  ends ++ "+".intercalate (columns.map fun column =>
    String.ofList (List.replicate (column.width + 2) '-')) ++ ends

/-- The lines of a row, given the lines of its cells and the widths of their columns. -/
def rowLines (widths : List Nat) (cells : List (List (List Char))) : List String :=
  let height := cells.foldl (fun h cell => max h cell.length) 0
  (List.range height).map fun i =>
    line (List.zipWith (fun width cell => (cell[i]?).getD (List.replicate width ' ')) widths cells)

/-- The lines of some rows, given the cells of those that are drawn, column by column. -/
def bodyLines (columns : List Column) :
    (rows : List (List Json)) → (cells : List (List (List (List Char)))) → List String
  | [], _ => []
  | row :: rows, cells =>
    if isRule row then rule "|" columns :: bodyLines columns rows cells
    else rowLines (columns.map (·.width)) (cells.map (·.headD [])) ++
      bodyLines columns rows (cells.map (·.tail))

/-- The cells of each column. -/
def columnsOf : (width : Nat) → List (List Json) → List (List Json)
  | 0, _ => []
  | width + 1, rows => rows.map (·.headD .null) :: columnsOf width (rows.map (·.tail))

/-- The table of some rows. -/
def draw (titles : List String) (rows : List (List Json)) : Except Json.Misuse String := do
  let drawn := rows.filter (!isRule ·)
  let m := Measure.ofTexts (titles ++ drawn.flatten.map Json.display)
  let columns ← (titles.zip (columnsOf titles.length drawn)).mapM fun (title, values) =>
    Column.ofValues m title values
  let titleLine := line (columns.map Column.titleLine)
  .ok ("\n".intercalate ([rule "+" columns, titleLine, rule "|" columns] ++
    bodyLines columns rows (columns.map (·.cells)) ++ [rule "+" columns]))

end Table
end StorageUpgrade
