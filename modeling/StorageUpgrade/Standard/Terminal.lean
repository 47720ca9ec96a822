import StorageUpgrade.Shell.Run
import StorageUpgrade.Text.Affix
import StorageUpgrade.Text.Width

/-!
# A plain terminal

A terminal without colours, on which no line is too long.  It leaves out some controls and writes
tabs as spaces.  The one mark that it knows is that of an alert.
-/

namespace StorageUpgrade
namespace Terminal

/-- Controls that a message leaves out. -/
def isSilent (c : Char) : Bool :=
  let n := c.toNat
  n == 7 || n == 8 || n == 11 || n == 12 || n == 13

/-- A text in which tabs, which go on to a multiple of eight cells, are spaces. -/
def expandTabs (column : Nat) : List Char → List Char
  | [] => []
  | c :: cs =>
    if c = '\n' then c :: expandTabs 0 cs
    else if c = '\t' then
      List.replicate (8 - column % 8) ' ' ++ expandTabs (column + (8 - column % 8)) cs
    else c :: expandTabs (column + cellWidth c) cs

/-- What is written for a message, which ends its line. -/
def render (message : String) : String :=
  let text := replaceAll Shell.alertMark.toList [] message.toList
  String.ofList (expandTabs 0 (text.filter fun c => !isSilent c)) ++ "\n"

end Terminal
end StorageUpgrade
