import StorageUpgrade.Shell.Settings

/-!
# Help

The text that explains the program: a line of usage, which is filled up to a width, and a table of
the flags.  The second column of the table starts behind the longest flag.
-/

namespace StorageUpgrade
namespace Help

/-- The width that the usage may take. -/
def width : Nat := 200

/-- Puts parts into lines, as many as fit into `width` behind an indentation of `margin`; `line`
holds the parts of the current line. -/
def fillFrom (margin : Nat) (line : List String) : List String → List (List String)
  | [] => if line.isEmpty then [] else [line]
  | part :: parts =>
    let used := margin + (line.map fun p => p.length + 1).sum
    if !line.isEmpty && decide (width < used + part.length) then
      line :: fillFrom margin [part] parts
    else fillFrom margin (line ++ [part]) parts

/-- How a flag is written, with a name for its values. -/
def usageOf (a : Attribute) : String :=
  match a, a.definition.kind with
  | .files, _ => a.flag ++ " ..."
  | a, .list =>
    let values := a.definition.name
    a.flag ++ " " ++ values ++ " [" ++ values ++ " ...]"
  | a, _ => a.flag

/-- The flags that are not files. -/
def flagged : List Attribute := Attribute.all.filter (· ≠ .files)

/-- The usage of the program. -/
def usage : String :=
  let start := "usage: "
  let program := "layoutGuard"
  let margin := start.length + program.length + 1
  let parts := "[-h]" :: flagged.map fun a => "[" ++ usageOf a ++ "]"
  let lines := fillFrom margin [] parts ++ [["[" ++ usageOf .files ++ "]"]]
  start ++ program ++ " " ++
    ("\n" ++ String.ofList (List.replicate margin ' ')).intercalate (lines.map (" ".intercalate ·))

/-- What the table says of an attribute. -/
def explanation (a : Attribute) : String :=
  let d := a.definition
  match d.isPublic, d.fallback with
  | true, some fallback => if fallback.isEmpty then d.help else d.help ++ ". Default: " ++ fallback
  | _, _ => d.help

/-- The flag for help in the table. -/
def helpRow : String × String := ("-h, --help", "show this help message and exit")

/-- The rows of the flags. -/
def flagRows : List (String × String) :=
  helpRow :: flagged.map fun a => (usageOf a, explanation a)

/-- The row of the files. -/
def fileRow : String × String := (Attribute.files.flag, explanation .files)

/-- The column in which the explanations start. -/
def column : Nat := ((fileRow :: flagRows).map fun r => r.1.length + 4).foldl max 0

/-- A row of the table. -/
def row (r : String × String) : String :=
  let start := "  " ++ r.1
  start ++ String.ofList (List.replicate (column - start.length) ' ') ++ r.2 ++ "\n"

/-- The whole help. -/
def text : String :=
  usage ++ "\n\nChecks that an updated storage layout can safely replace the original one\n\n" ++
    "positional arguments:\n" ++ row fileRow ++
    "\noptions:\n" ++ String.join (flagRows.map row)

end Help
end StorageUpgrade
