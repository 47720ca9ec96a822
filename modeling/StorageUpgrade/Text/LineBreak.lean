/-!
# Line breaks

A text is cut into lines at every character that breaks a line: the line ends, the vertical tab, the
form feed, the separators of ASCII and those of Unicode.  A carriage return and the new line behind
it break one line.  A break at the end of a text ends its last line.
-/

namespace StorageUpgrade
namespace LineBreak

/-- A character that breaks a line. -/
def isBreak (c : Char) : Bool :=
  let n := c.toNat
  (10 ≤ n && n ≤ 13) || (28 ≤ n && n ≤ 30) || n == 0x85 || n == 0x2028 || n == 0x2029

/-- The lines of a text, where `line` holds the characters of the current line. -/
def linesFrom (line : List Char) : List Char → List (List Char)
  | [] => if line.isEmpty then [] else [line]
  | '\r' :: '\n' :: cs => line :: linesFrom [] cs
  | c :: cs => if isBreak c then line :: linesFrom [] cs else linesFrom (line ++ [c]) cs

/-- The lines of a text without their breaks. -/
def lines (cs : List Char) : List (List Char) := linesFrom [] cs

@[simp] theorem lines_nil : lines [] = [] := rfl

end LineBreak
end StorageUpgrade
