import StorageUpgrade.Log.View
import StorageUpgrade.Shell.Settings
import StorageUpgrade.Upgrade

/-!
# Sessions

A session is what one run of the program has come to: its settings, its log, and what it has
written.  A record of the log is written at once, as the view of the log shows it, so the lines of
the log stand between the other lines that the run writes.
-/

namespace StorageUpgrade

/-- What a run has come to. -/
structure Session where
  settings : Settings := .initial
  /-- How the log is shown; it is not shown before the run starts. -/
  view : Log.View := { isOpen := false }
  log : List Log.Record := []
  output : String := ""

/-- A run that may fail, and keeps what it has come to in any case. -/
abbrev SessionM := ExceptT Error (StateM Session)

namespace SessionM

/-- Writes a text. -/
def write (text : String) : SessionM Unit :=
  modify fun s => { s with output := s.output ++ text }

/-- Writes a text and ends the line. -/
def writeLine (text : String) : SessionM Unit := write (text ++ "\n")

/-- Adds records to the log, and writes what is shown of them. -/
def record (records : List Log.Record) : SessionM Unit :=
  modify fun s =>
    { s with log := s.log ++ records, output := s.output ++ s.view.write records }

/-- Adds a record to the log. -/
def say (topic : String) (level : Log.Level) (message : String) : SessionM Unit :=
  record [⟨topic, level, message⟩]

/-- Sets an attribute. -/
def set (a : Attribute) (v : Json) : SessionM Unit :=
  modify fun s => { s with settings := s.settings.set a v }

/-- The settings so far. -/
def settings : SessionM Settings := return (← get).settings

/-- The value of an attribute. -/
def valueOf (a : Attribute) : SessionM Json := return (← settings).value a

/-- Runs what has a log of its own. -/
def logged (x : LoggedM α) : SessionM α := do
  let (result, records) := x.outcome
  record records
  (result : Except Error α)

/-- The text of a file. -/
def readFile (files : Files) (name : String) : SessionM String :=
  match files name with
  | .file content _ => return content
  | .directory => throw (.file .isDirectory)
  | .behindFile => throw (.file .notDirectory)
  | .circle => throw (.file .circularLinks)
  | .sealed => throw (.file .notPermitted)
  | .unreachable problem => throw (.file problem)
  | .impossible => throw (.file .impossibleName)
  | .nothing => throw (.file .missing)

end SessionM
end StorageUpgrade
