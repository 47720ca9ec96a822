import StorageUpgrade.Error

/-!
# Options of the check

Each option may be given or not; what is not given is off.  Documents may write the names of the
options in either of two ways.
-/

namespace StorageUpgrade

/-- The options of the check. -/
structure ValidationOptions where
  /-- Structs and enums whose members are unknown are taken to be compatible. -/
  allowCustomTypes : Bool := false
  /-- Variables may change their names. -/
  allowRenames : Bool := false
  /-- The layouts are not compared at all. -/
  skipCheck : Bool := false
deriving DecidableEq, Repr

/-- The options as they were given; an option that was not is `null`. -/
structure GivenOptions where
  allowCustomTypes : Json := .null
  allowRenames : Json := .null
  skipCheck : Json := .null
deriving DecidableEq, Repr

namespace GivenOptions

/-- The names of the options in configurations. -/
def names : List String :=
  ["unsafe_allow_custom_types", "unsafe_allow_renames", "unsafe_skip_storage_check"]

/-- The names of the options in the documents of other tools, with those in configurations. -/
def otherNames : List (String × String) :=
  [("unsafeAllowCustomTypes", "unsafe_allow_custom_types"),
    ("unsafeAllowRenames", "unsafe_allow_renames"),
    ("unsafeSkipStorageCheck", "unsafe_skip_storage_check")]

/-- The options with one of them set. -/
def set (options : GivenOptions) (name : String) (value : Json) : GivenOptions :=
  if name = "unsafe_allow_custom_types" then { options with allowCustomTypes := value }
  else if name = "unsafe_allow_renames" then { options with allowRenames := value }
  else if name = "unsafe_skip_storage_check" then { options with skipCheck := value }
  else options

/-- Whether a value may be given to an option. -/
def isOptionValue : Json → Bool
  | .null | .bool _ => true
  | _ => false

/-- Reads options, of which each must be known and a truth value. -/
def ofJson (d : Json) : Except Error GivenOptions := do
  let entries ← Json.Misuse.lift d.entries
  entries.foldlM (fun options (key, value) =>
    let name := (Json.find? key otherNames).getD key
    if !names.contains name then .error (.input (.unknownOption key))
    else if !isOptionValue value then .error (.input (.optionNotBoolean key value))
    else .ok (options.set name value)) {}

/-- The options with everything off that was not given. -/
def withDefaults (options : GivenOptions) : ValidationOptions :=
  { allowCustomTypes := options.allowCustomTypes.isSet
    allowRenames := options.allowRenames.isSet
    skipCheck := options.skipCheck.isSet }

end GivenOptions

end StorageUpgrade
