import StorageUpgrade.Text.Lines

/-!
# Paths of files

A path is a list of names between slashes.  Empty names and the name `.` say nothing and are
dropped; the name `..` is kept, and only resolved when two paths are compared.
-/

namespace StorageUpgrade

/-- A path that starts at the root or at the working directory. -/
structure Path where
  rooted : Bool
  names : List String
deriving DecidableEq, Repr

namespace Path

/-- The path that a text writes. -/
def ofText (s : String) : Path :=
  { rooted := s.toList.head? == some '/'
    names := ((splitAt '/' s.toList).map String.ofList).filter fun n => n != "" && n != "." }

/-- The path as a text; the working directory is a single dot. -/
def text (p : Path) : String :=
  if p.rooted then "/" ++ "/".intercalate p.names
  else if p.names.isEmpty then "." else "/".intercalate p.names

/-- The last name of a path. -/
def name (p : Path) : String := p.names.getLast?.getD ""

/-- The part of a name from its last dot on, unless the dot is its first or its last character. -/
def extensionOf (name : String) : String :=
  let back := name.toList.reverse.takeWhile (· != '.')
  if back.isEmpty || name.length ≤ back.length + 1 then ""
  else String.ofList ('.' :: back.reverse)

/-- The extension of a path. -/
def extension (p : Path) : String := extensionOf p.name

/-- Adds a name to the names of a resolved path, last one first; `..` takes one away. -/
def addName (rooted : Bool) (names : List String) (n : String) : List String :=
  if n = ".." then
    match names with
    | [] => if rooted then [] else [".."]
    | last :: rest => if last = ".." then ".." :: names else rest
  else n :: names

/-- The path without the names that `..` takes back. -/
def resolve (p : Path) : Path :=
  { p with names := (p.names.foldl (addName p.rooted) []).reverse }

/-- The extension of a configuration. -/
def confExtension : String := ".conf"

/-- The extension of a layout. -/
def jsonExtension : String := ".json"

/-- Whether a text is the path of a configuration. -/
def isConf (s : String) : Bool := (ofText s).extension == confExtension

end Path
end StorageUpgrade
