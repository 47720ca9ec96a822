import StorageUpgrade.Log
import StorageUpgrade.Shell.Attribute
import StorageUpgrade.Shell.FileTree
import StorageUpgrade.Text.Blank

/-!
# Settings of a run

The attributes of the program, what values they may have, and the values that a run uses.  Values
come from the command line or from a configuration; those of a configuration can be any documents
until they are checked.  An attribute that is absent or off is not checked.
-/

namespace StorageUpgrade

/-- The attributes of the program. -/
inductive Attribute where
  | debug
  | debugTopics
  | files
  | noColor
  | showDebugTopics
  | summary
  | allowCustomTypes
  | allowRenames
  | skipCheck
deriving DecidableEq, Repr

namespace Attribute

/-- All attributes, by name. -/
def all : List Attribute :=
  [debug, debugTopics, files, noColor, showDebugTopics, summary, allowCustomTypes, allowRenames,
    skipCheck]

theorem mem_all (a : Attribute) : a ∈ all := by cases a <;> simp [all]

/-- The definition of an attribute. -/
def definition : Attribute → AttributeDefinition
  | debug => { name := "DEBUG", kind := .switch, isSwitch := true }
  | debugTopics => { name := "DEBUG_TOPICS", kind := .list }
  | files =>
    { name := "FILES", kind := .list
      help := "The original and the updated storage layout files, or a conf file"
      fallback := some "" }
  | noColor =>
    { name := "NO_COLOR", kind := .switch, isSwitch := true
      help := "Do not use colors in the report"
      fallback := some
        "Source locations are printed in bold when the terminal supports it" }
  | showDebugTopics => { name := "SHOW_DEBUG_TOPICS", kind := .switch, isSwitch := true }
  | summary =>
    { name := "SUMMARY", kind := .switch, isSwitch := true
      help := "Print a table of the reported operations of each compared layout"
      fallback := some "Only the incompatibilities are printed" }
  | allowCustomTypes =>
    { name := "UNSAFE_ALLOW_CUSTOM_TYPES", kind := .switch, isSwitch := true
      help := "Assume structs and enums whose members are unknown are compatible"
      fallback := some "Report structs and enums whose members are unknown" }
  | allowRenames =>
    { name := "UNSAFE_ALLOW_RENAMES", kind := .switch, isSwitch := true
      help := "Do not report renamed variables"
      fallback := some "Report renamed variables" }
  | skipCheck =>
    { name := "UNSAFE_SKIP_STORAGE_CHECK", kind := .switch, isSwitch := true
      help := "Skip the storage layout check"
      fallback := some "Compare the storage layouts" }

/-- The key of an attribute in a configuration. -/
def key : Attribute → String
  | debug => "debug"
  | debugTopics => "debug_topics"
  | files => "files"
  | noColor => "no_color"
  | showDebugTopics => "show_debug_topics"
  | summary => "summary"
  | allowCustomTypes => "unsafe_allow_custom_types"
  | allowRenames => "unsafe_allow_renames"
  | skipCheck => "unsafe_skip_storage_check"

/-- The attribute of a key. -/
def ofKey? (key : String) : Option Attribute := all.find? (·.key == key)

@[simp] theorem ofKey?_key (a : Attribute) : ofKey? a.key = some a := by cases a <;> decide

/-- The flag of an attribute; files are given without one. -/
def flag : Attribute → String
  | files => files.key
  | a => "--" ++ a.key

end Attribute

/-! ### Checking values -/

/-- The extensions that the name of a file may end with. -/
inductive Extensions where
  | one (extension : String)
  | several (extensions : List String)
deriving DecidableEq, Repr

namespace Extensions

/-- The extensions as a list. -/
def toList : Extensions → List String
  | one e => [e]
  | several es => es

/-- Whether any name will do. -/
def isAny : Extensions → Bool
  | one e => e.isEmpty
  | several es => es.isEmpty

/-- The extensions as a message shows them: a single one as it is, and several in parentheses. -/
def text : Extensions → String
  | one e => e
  | several [e] => "(" ++ quoted e ++ ",)"
  | several es => "(" ++ ", ".intercalate (es.map quoted) ++ ")"

/-- Whether a name ends with one of the extensions, which are in small letters. -/
def allow (extensions : Extensions) (name : String) : Bool :=
  extensions.isAny ||
    extensions.toList.any fun e => e.toList.isSuffixOf (lowerCase name).toList

end Extensions

/-- The extensions of the files that are given to the program. -/
def inputExtensions : Extensions := .several [Path.jsonExtension, Path.confExtension]

/-- Checks that what a name leads to is a file that can be read, and that the name has one of some
extensions. -/
def checkTarget (extensions : Extensions) (name : String) : Target → Except Error Unit
  | .nothing | .behindFile | .circle | .impossible => .error (.input (.fileMissing name))
  | .unreachable problem => .error (.file problem)
  | .directory => .error (.input (.fileIsDirectory name))
  | .sealed | .file _ false => .error (.input (.fileUnreadable name))
  | .file _ true =>
    if extensions.allow name then .ok ()
    else .error (.input (.otherExtension name extensions.text))

/-- The name of a file that a value is, as it is looked up. -/
def fileName? : Json → Option String
  | .str name => some name
  | .rawText points => some (Surrogate.text points)
  | _ => none

/-- Checks that a value is the name of a file that can be read, with one of some extensions. -/
def checkReadable (files : Files) (extensions : Extensions) (v : Json) : Except Error Unit :=
  match fileName? v with
  | some name => checkTarget extensions v.display (files name)
  | none => .error (.misuse .wrongKind)

theorem checkReadable_str (files : Files) (extensions : Extensions) (name : String) :
    checkReadable files extensions (.str name) = checkTarget extensions name (files name) := rfl

/-- Checks that a value is the name of a topic. -/
def checkTopic : Json → Except Error Unit
  | .str topic =>
    if Log.topics.contains (trimText topic) then .ok ()
    else .error (.input (.unknownTopic topic Log.topics))
  | .rawText points =>
    .error (.input (.unknownTopic (Json.rawText points).display Log.topics))
  | _ => .error (.misuse .notObject)

/-- Checks that a value is a truth value. -/
def checkBool : Json → Except Error Unit
  | .bool _ => .ok ()
  | v => .error (if v.holdsTooLong then .misuse (.badForm v) else .input (.notBoolean v))

namespace Attribute

/-- Checks one value of an attribute, whatever the attribute is called. -/
def checkValue (files : Files) (a : Attribute) (v : Json) : Except Error Unit :=
  match a with
  | .files => checkReadable files inputExtensions v
  | .debugTopics => checkTopic v
  | .debug | .showDebugTopics => .ok ()
  | .noColor | .summary | .allowCustomTypes | .allowRenames | .skipCheck => checkBool v

/-- The values of an attribute: those of a list, if it takes a list. -/
def values (a : Attribute) (v : Json) : List Json :=
  match a.definition.kind, v with
  | .list, .arr vs => vs
  | _, v => [v]

/-- A value of the command line that looks like a flag with a single dash. -/
def singleDash? (fromArguments : Bool) : Json → Except Json.Misuse (Option String)
  | .str s =>
    if fromArguments && !s.isEmpty then
      match trim s.toList with
      | [] => .error .empty
      | c :: _ => .ok (if c = '-' then some s else none)
    else .ok none
  | _ => .ok none

/-- Checks a value of an attribute; a problem of the value is one of the attribute. -/
def checkOne (files : Files) (fromArguments : Bool) (a : Attribute) (v : Json) :
    Except Error Unit :=
  match a.checkValue files v with
  | .error (.input problem) => do
    let single ← singleDash? fromArguments v
    throw (.input (.ofAttribute a.key single problem))
  | r => r

/-- Checks the values of an attribute. -/
def check (files : Files) (fromArguments : Bool) (a : Attribute) (v : Json) : Except Error Unit :=
  (a.values v).forM (a.checkOne files fromArguments)

/-- Whether a value means that nothing was set. -/
def isUnset (v : Json) : Bool := v == .null || v == .bool false

end Attribute

/-! ### Settings -/

/-- The values of all attributes, and the configuration that they were read from. -/
structure Settings where
  value : Attribute → Json
  confFile : Option String := none

namespace Settings

/-- The settings when nothing is given: switches are off and lists are absent. -/
def initial : Settings :=
  { value := fun a => if a.definition.kind = .switch then .bool false else .null }

/-- The settings with another value of an attribute. -/
def set (s : Settings) (a : Attribute) (v : Json) : Settings :=
  { s with value := fun b => if b = a then v else s.value b }

@[simp] theorem value_set (s : Settings) (a b : Attribute) (v : Json) :
    (s.set a v).value b = if b = a then v else s.value b := rfl

/-- Whether an attribute is on. -/
def isOn (s : Settings) (a : Attribute) : Bool := (s.value a).isSet

/-- Checks all values that were set, by the names of their attributes. -/
def check (files : Files) (fromArguments : Bool) (s : Settings) : Except Error Unit :=
  Attribute.all.forM fun a =>
    if Attribute.isUnset (s.value a) then .ok () else a.check files fromArguments (s.value a)

/-- The options of the check. -/
def options (s : Settings) : GivenOptions :=
  { allowCustomTypes := s.value .allowCustomTypes
    allowRenames := s.value .allowRenames
    skipCheck := s.value .skipCheck }

end Settings
end StorageUpgrade
