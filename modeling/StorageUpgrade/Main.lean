import StorageUpgrade.Standard

/-!
# The program

The outer layer: it looks up the files that the run may ask for, prints what the run has written,
and ends with its exit code.
-/

namespace StorageUpgrade
namespace Program

/-- The number of the error that a directory cannot be read. -/
def directoryCode : UInt32 := 21

/-- The number of the error that a name is too long. -/
def longNameCode : UInt32 := 36

/-- The number of the error that links lead in a circle. -/
def circleCode : UInt32 := 40

/-- Whether an error has a number, which may be given with a minus sign. -/
def isCode (number code : UInt32) : Bool := code == number || code == 0 - number

/-- Whether something has a name, which directories have with a slash behind it, too. -/
def isFound (name : String) : IO Bool := do
  try
    let _ ← IO.FS.realPath name
    return true
  catch _ => return false

/-- What has a name under which nothing may be read. -/
def lookUnread (name : String) : IO Target := do
  if ← isFound (name ++ "/") then return .directory
  if ← isFound name then return .sealed
  return .unreachable .notPermitted

/-- What opening a file under a name comes to. -/
def look (name : String) : IO Target := do
  try
    return .file (← IO.FS.readFile name) true
  catch
    | .noFileOrDirectory .. => return .nothing
    | .inappropriateType _ code _ =>
      return if isCode directoryCode code then .directory else .behindFile
    | .permissionDenied .. => lookUnread name
    | .invalidArgument _ code _ =>
      return if isCode longNameCode code then .unreachable .nameTooLong
        else if isCode circleCode code then .circle else .impossible
    -- A file whose bytes are no text is no document either, like an empty one.
    | .userError _ => return .file "" true
    | e => return .unreachable (.other (toString e))

/-- What a name leads to; a file is readable if it can be opened under that very name. -/
def find (name : String) : IO Target := do
  match ← look (Path.ofText name).text with
  | .file content readable =>
    let readable := readable && match ← look name with
      | .file _ readable => readable
      | _ => false
    return .file content readable
  | found => return found

/-- Looks up some names. -/
def findAll (names : List String) : IO Files := do
  let found ← names.mapM fun name => return (name, ← find name)
  return fun name => (Json.find? name found).getD .nothing

/-- The program. -/
def run (args : List String) : IO UInt32 := do
  let colors ← (← IO.getStdout).isTty
  let names := Shell.namedFiles .standard (← findAll args) args
  let files ← findAll (args ++ names)
  let (result, session) := (Shell.runExplained .standard files colors args).run.run {}
  IO.print session.output
  match result with
  | .ok code => return code.toUInt32
  | .error e =>
    IO.eprintln e.message
    return Shell.incompatible.toUInt32

end Program
end StorageUpgrade

/-- Runs the program. -/
def main (args : List String) : IO UInt32 := StorageUpgrade.Program.run args
