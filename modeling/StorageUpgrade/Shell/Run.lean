import StorageUpgrade.Json.Reader
import StorageUpgrade.Report.Summary
import StorageUpgrade.Shell.Arguments
import StorageUpgrade.Shell.Conf
import StorageUpgrade.Shell.Help

/-!
# A run of the program

The arguments, and a configuration if they name one, say which two layouts to compare and how.  The
run writes the table of the operations if it is asked to, and then either the report of what is
incompatible or a line that says that nothing is.

`run` leaves errors as they are; `runExplained` ends with an exit code on errors of the user and of
the upgrade.
-/

namespace StorageUpgrade
namespace Shell

/-- The exit code of a run. -/
abbrev ExitCode := Nat

/-- The updated layout can replace the old one. -/
def compatible : ExitCode := 0

/-- The updated layout cannot replace the old one. -/
def incompatible : ExitCode := 1

/-- The input of the user has a problem. -/
def userError : ExitCode := 2

/-! ### Messages on the terminal -/

/-- The mark in front of a message that is to be seen. -/
def alertMark : String := "[bold red]"

/-- Writes a message to the terminal, which may refuse it for the marks in its text. -/
def display (platform : Platform) (message : String) : SessionM Unit :=
  match platform.render message with
  | .ok text => SessionM.write text
  | .error reason => throw (.unshown reason)

/-- Writes a message that is to be seen to the terminal. -/
def alert (platform : Platform) (message : String) : SessionM Unit :=
  display platform (alertMark ++ message)

/-- The reminder that flags have two dashes. -/
def dashReminder : String :=
  "\n" ++ alertMark ++ "Please remember, CLI flags should be preceded with double dashes!\n"

/-! ### Arguments -/

/-- Reads the arguments into the settings and checks them; says whether there is anything to run,
or only the help was asked for. -/
def readArguments (platform : Platform) (files : Files) (args : List String) : SessionM Bool := do
  match Arguments.read args with
  | .error problem =>
    if let .unknown others := problem then
      if ← (Json.Misuse.lift (Arguments.isSingleDash others) : Except Error _) then
        display platform dashReminder
    throw (.input (.arguments problem))
  | .ok .help =>
    SessionM.write Help.text
    return false
  | .ok (.run settings) =>
    modify fun s => { s with settings }
    (settings.check files true : Except Error _)
    return true

/-- The topics that the log is limited to. -/
def topicsOf : Json → List String
  | .arr topics => topics.filterMap Json.text?
  | _ => []

/-- How the log is shown under some settings. -/
def viewOf (settings : Settings) : Log.View :=
  { debug := settings.isOn .debug
    topics := topicsOf (settings.value .debugTopics)
    showTopics := settings.isOn .showDebugTopics }

/-- The two layout files to compare, which a configuration names if it is given alone. -/
def chooseFiles (platform : Platform) (files : Files) : SessionM (String × String) := do
  if let .arr (.str first :: others) := ← SessionM.valueOf .files then
    if Path.isConf first then
      if !others.isEmpty then throw (.input .confNotAlone)
      Conf.read platform files
  match ← SessionM.valueOf .files with
  | .arr [.str old, .str updated] =>
    if Path.isConf old || Path.isConf updated then throw (.input .notTwoLayouts)
    return (old, updated)
  | _ => throw (.input .notTwoLayouts)

/-- The names of the files that the arguments, or the configuration among them, say; the files that
are known already are enough to tell. -/
def namedFiles (platform : Platform) (files : Files) (args : List String) : List String :=
  let named : SessionM Unit := do
    if ← readArguments platform files args then discard (chooseFiles platform files)
  match ((named.run.run {}).2.settings.value .files) with
  | .arr names => names.filterMap Json.text?
  | .str name => [name]
  | _ => []

/-! ### Layouts -/

/-- Whether a document that was asked for something in vain is not a layout; other faults of it are
not explained. -/
def isDefect : Json.Misuse → Bool
  | .missingKey _ | .wrongKind _ | .badForm _ | .tooLong _ => true
  | .notObject | .empty | .unbounded => false

/-- Reads a layout from a file. -/
def readLayout (platform : Platform) (files : Files) (name : String) : SessionM Layout := do
  SessionM.say "file" Log.debug ("Reading " ++ (Path.ofText name).text)
  if files name matches .impossible then throw (.input (.notLayout name .impossibleName))
  match Json.parse platform.levels (← SessionM.readFile files name) with
  | .error fault => throw (fault.toError fun fault => .notLayout name (.notJson fault))
  | .ok document => match Layout.ofJson document with
    | .ok layout => return layout
    | .error misuse =>
      if isDefect misuse then throw (.input (.notLayout name (.misuse misuse)))
      else throw (.misuse misuse)

/-- Compares two layouts as the settings say; `colors` says whether the terminal shows colours. -/
def compare (platform : Platform) (colors : Bool) (settings : Settings)
    (names : String × String) (old updated : Layout) : SessionM ExitCode := do
  let options := settings.options.withDefaults
  if settings.isOn .summary && !options.skipCheck then
    let report ← SessionM.logged (Upgrade.namespacedReport options old updated)
    SessionM.writeLine (← (Json.Misuse.lift (Summary.table platform report) : Except Error _))
  match ← SessionM.logged (Upgrade.check options old updated) with
  | some report =>
    if !report.passes then
      alert platform (Upgrade.incompatibleTitle ++ "\n")
      SessionM.writeLine (← (report.explain (colors && !settings.isOn .noColor) : Except Error _))
      return incompatible
  | none => pure ()
  SessionM.writeLine (Style.green.apply (names.2 ++ " is compatible with " ++ names.1))
  return compatible

/-! ### Runs -/

/-- A run of the program. -/
def run (platform : Platform) (files : Files) (colors : Bool) (args : List String) :
    SessionM ExitCode := do
  if !(← readArguments platform files args) then return compatible
  modify fun s => { s with view := viewOf s.settings }
  let (old, updated) ← chooseFiles platform files
  SessionM.say "run" Log.debug ("Comparing " ++ old ++ " to " ++ updated)
  let before ← readLayout platform files old
  let after ← readLayout platform files updated
  compare platform colors (← SessionM.settings) (old, updated) before after

/-- What a run says of a problem of the user's input in the end. -/
def noticeOf (problem : InputProblem) : String := "\n" ++ problem.message ++ "\n"

/-- Explains an error of the user or of the upgrade; other errors are passed on. -/
def explain (platform : Platform) : Error → SessionM ExitCode
  | .input problem => do
    if let some cause := problem.cause? then SessionM.writeLine ("\n" ++ trimText cause)
    alert platform (noticeOf problem)
    return userError
  | .upgrade problem => do
    alert platform problem.title
    SessionM.writeLine problem.details
    return incompatible
  | e => throw e

/-- A run of the program that explains its errors. -/
def runExplained (platform : Platform) (files : Files) (colors : Bool) (args : List String) :
    SessionM ExitCode :=
  tryCatch (run platform files colors args) (explain platform)

end Shell
end StorageUpgrade
