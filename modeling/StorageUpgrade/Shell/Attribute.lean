import StorageUpgrade.Options
import StorageUpgrade.Text.Case

/-!
# Definitions of attributes

An attribute is set by a flag of the command line or by an entry of a configuration, both of which
have its name in small letters.  `problems` says what is wrong with a list of definitions: a flag
that the help shows must be short enough for its table and say what happens without it, a truth
value must be switched on by its flag alone, and the flags of the options of the check are exactly
those whose names start with `unsafe_`.
-/

namespace StorageUpgrade

/-- The values of an attribute. -/
inductive AttributeKind where
  | text
  | switch
  | list
deriving DecidableEq, Repr

/-- The name of a kind. -/
def AttributeKind.name : AttributeKind → String
  | text => "string"
  | switch => "boolean"
  | list => "list"

/-- What the help says of a flag that it does not explain. -/
def hiddenHelp : String := "==SUPPRESS=="

/-- The definition of an attribute. -/
structure AttributeDefinition where
  /-- The name, in capital letters. -/
  name : String
  kind : AttributeKind := .text
  help : String := hiddenHelp
  /-- What happens when the attribute is not given. -/
  fallback : Option String := none
  /-- Whether the flag takes no value. -/
  isSwitch : Bool := false
deriving DecidableEq, Repr

namespace AttributeDefinition

/-- The key in a configuration. -/
def key (d : AttributeDefinition) : String := lowerCase d.name

/-- The flag of the command line; files are given without one. -/
def flag (d : AttributeDefinition) : String := (if d.name = "FILES" then "" else "--") ++ d.key

/-- Whether the help explains the flag. -/
def isPublic (d : AttributeDefinition) : Bool := d.help != hiddenHelp

/-- The longest flag that the table of the help has room for. -/
def maxFlagLength : Nat := 31

/-- What the names of the options of the check start with. -/
def unsafeStart : String := "unsafe_"

/-- Whether an attribute is meant as an option of the check. -/
def isUnsafe (d : AttributeDefinition) : Bool := unsafeStart.toList.isPrefixOf d.key.toList

/-- Those of some definitions that define attributes, by name: their names are in capital
letters. -/
def ofList (definitions : List AttributeDefinition) : List AttributeDefinition :=
  (definitions.filter fun d => isAllCapitals d.name).mergeSort fun a b => decide (a.name ≤ b.name)

/-- What is wrong with a single definition. -/
def ownProblems (d : AttributeDefinition) : List String :=
  (if d.isPublic && decide (maxFlagLength < d.flag.length) then
    ["user-facing flag " ++ d.flag ++ " is above the maximum length of " ++
      toString maxFlagLength] else []) ++
  (if d.isPublic && d.fallback.isNone then
    ["flag " ++ d.flag ++ " has a help message but no default description (can be an empty string)"]
    else []) ++
  (if d.kind = .switch && !d.isSwitch then
    ["boolean flag " ++ d.flag ++ " must use the store_true action"] else []) ++
  (if d.isUnsafe && d.kind ≠ .switch then ["flag " ++ d.flag ++ " must be a boolean flag"] else [])

/-- Texts in order, each of them once. -/
def sorted (names : List String) : List String :=
  names.eraseDups.mergeSort fun a b => decide (a ≤ b)

/-- What is wrong with some definitions. -/
def problems (definitions : List AttributeDefinition) : List String :=
  let keys := (definitions.filter isUnsafe).map key
  definitions.flatMap ownProblems ++
    (sorted (keys.filter fun key => !GivenOptions.names.contains key)).map
      (fun key => "flag --" ++ key ++ " is not a validation option") ++
    (sorted (GivenOptions.names.filter fun name => !keys.contains name)).map
      (fun name => "validation option " ++ name ++ " has no flag")

end AttributeDefinition
end StorageUpgrade
