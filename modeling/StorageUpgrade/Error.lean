import StorageUpgrade.Json.Reader
import StorageUpgrade.Layout.TypeGraph

/-!
# What can go wrong

There are several kinds of errors: a value of a document lacks what was asked of it, an assumption
about the compiler or about type identifiers does not hold, the upgrade itself has a problem, the
input of the user has one, a file cannot be opened, a document is nested too deeply, or the terminal
refuses a message.  Each cause is a constructor, and its text is given by `message`.
-/

namespace StorageUpgrade

/-- An assumption that does not hold. -/
inductive Fault where
  | unbalancedTypeId (text : String)
  | notFunctions (old updated : String)
  | argumentsOfOne (old updated : String)
  | notStructMembers (label : String)
  | notEnumMembers (label : String)
  | compositeKeys (old updated : String)
  | noArrayLength (old updated : String)
  | unknownTypeChange (kind : String)
  | unknownOperation (kind : String)
  | notFixedArray (id : String)
  | untypedNode (id : Json)
  | noTypeName
  | noNode (id : Json)
  | otherNode (id : Json) (expected : List String) (found : Json)
  | noDeclaration (label : Json)
  | enumMemberInStruct (name : Json)
  | otherInheritance (contract : Json)
  | notConfFile (path : String)
deriving DecidableEq, Repr

/-- The text of a fault. -/
def Fault.message : Fault → String
  | unbalancedTypeId text => "Malformed type id " ++ text
  | notFunctions a b => "Unexpected function types " ++ a ++ " and " ++ b
  | argumentsOfOne a b =>
    "Type " ++ a ++ " and " ++ b ++ " have the same head but only one of them has arguments"
  | notStructMembers label => "Members of " ++ label ++ " are not struct members"
  | notEnumMembers label => "Members of " ++ label ++ " are not enum members"
  | compositeKeys a b => "Mapping keys of " ++ a ++ " and " ++ b ++ " must be value types"
  | noArrayLength a b => "Missing array length in " ++ a ++ " or " ++ b
  | unknownTypeChange kind => "Unexpected type change " ++ kind
  | unknownOperation kind => "Unexpected operation " ++ kind
  | notFixedArray id => "Expected a fixed size array, got " ++ id
  | untypedNode id => "Missing type descriptions in node " ++ id.display
  | noTypeName => "Expected a type name"
  | noNode id => "No node with id " ++ id.display ++ " in the AST"
  | otherNode id expected found =>
    "Expected id " ++ id.display ++ " to be a node of type " ++ ", ".intercalate expected ++
      ", got " ++ found.display
  | noDeclaration label =>
    "Did not find variable declaration node for '" ++ label.display ++ "'"
  | enumMemberInStruct name => "Unexpected enum member in struct " ++ name.display
  | otherInheritance contract =>
    "Namespaced compilation of " ++ contract.display ++ " has a different inheritance"
  | notConfFile path => "conf file must be of type .conf, instead got " ++ path

/-- A problem of the upgrade itself. -/
inductive UpgradeProblem where
  | recursiveType (label : String)
  | locationArguments
  | noPlainStruct (name contract : Json)
  | noPlainMember (name label : Json)
  | noNamespace (id : String)
  | duplicateNamespace (id : String) (contract : Json) (srcs : List String)
deriving DecidableEq, Repr

/-- The first line of a problem. -/
def UpgradeProblem.title : UpgradeProblem → String
  | recursiveType _ => "Recursive types are not supported"
  | locationArguments => "@custom:storage-location annotation must have exactly one argument"
  | noPlainStruct name contract =>
    "Could not find original source location for namespace struct with name " ++ name.display ++
      " from contract " ++ contract.display
  | noPlainMember name label =>
    "Could not find original source location for namespace struct with name " ++ name.display ++
      " and member " ++ label.display
  | noNamespace id => "Namespace " ++ id ++ " not found in updated layout"
  | duplicateNamespace id contract _ =>
    "Namespace " ++ id ++ " is defined multiple times for contract " ++ contract.display

/-- What is said of a problem behind its first line. -/
def UpgradeProblem.details : UpgradeProblem → String
  | recursiveType label => "Recursion found in " ++ label ++ "\n"
  | noNamespace id =>
    "Keep the namespace " ++ id ++ " in the updated contract, and keep its existing variables"
  | duplicateNamespace id _ srcs =>
    "The namespace " ++ id ++ " was found in structs at the following locations:\n- " ++
      "\n- ".intercalate srcs ++ "\n\nUse a unique namespace id for each struct annotated with " ++
      "'@custom:storage-location erc7201:<NAMESPACE_ID>' in your contract and its inherited " ++
      "contracts."
  | _ => ""

/-- A title, and behind an empty line the details if there are any. -/
def withDetails (title details : String) : String :=
  if details.isEmpty then title else title ++ "\n\n" ++ details

/-- The whole text of a problem. -/
def UpgradeProblem.message (p : UpgradeProblem) : String := withDetails p.title p.details

/-- What stands in a message for the description of a fault of the notation of a document. -/
def notationFault : String := "<syntax>"

/-- What is said of a text that is no document. -/
def Json.ReadFault.text : Json.ReadFault → String
  | malformed => notationFault
  | tooLong digits => Json.tooManyDigits digits
  | tooDeep => "maximum recursion depth exceeded"

/-- Why a file is no layout. -/
inductive LayoutDefect where
  | notJson (fault : Json.ReadFault)
  | misuse (m : Json.Misuse)
  | impossibleName
deriving Repr

/-- The text of a defect. -/
def LayoutDefect.text : LayoutDefect → String
  | notJson fault => fault.text
  | misuse m => m.text
  | impossibleName => "embedded null byte"

/-- A problem of the arguments of the command line. -/
inductive ArgumentProblem where
  /-- Nothing takes these arguments. -/
  | unknown (args : List String)
  /-- A flag that takes no value was given one. -/
  | valueRefused (flag value : String)
  /-- A flag that takes values was given none. -/
  | valueNeeded (flag : String)
deriving DecidableEq, Repr

/-- The text of a problem of the arguments. -/
def ArgumentProblem.message : ArgumentProblem → String
  | unknown args => "unrecognized arguments: " ++ " ".intercalate args
  | valueRefused flag value =>
    "argument " ++ flag ++ ": ignored explicit argument " ++ quoted value
  | valueNeeded flag => "argument " ++ flag ++ ": expected at least one argument"

/-- A problem of the input of the user. -/
inductive InputProblem where
  | unknownOption (key : String)
  | optionNotBoolean (key : String) (value : Json)
  | noSource (id : Json)
  | noContent (name : String)
  | noSyntaxTree (source : String)
  | noContract (name : String)
  | fileMissing (name : String)
  | fileIsDirectory (name : String)
  | fileUnreadable (name : String)
  | otherExtension (name extensions : String)
  | notBoolean (value : Json)
  | unknownTopic (topic : String) (known : List String)
  | arguments (problem : ArgumentProblem)
  | ofAttribute (name : String) (single : Option String) (problem : InputProblem)
  | confNotObject
  | confUnknown (option : String)
  | confWithoutFiles
  | confNotAlone
  | confNotJson (path : String) (fault : Json.ReadFault)
  | conf (path : String) (problem : InputProblem)
  | notTwoLayouts
  | notLayout (name : String) (defect : LayoutDefect)
deriving Repr

/-- The text of a problem. -/
def InputProblem.message : InputProblem → String
  | unknownOption key => key ++ " is not a known validation option"
  | optionNotBoolean key value =>
    "validation option " ++ key ++ " must be a boolean, got " ++ value.display
  | noSource id => "Source file with id " ++ id.display ++ " not available"
  | noContent name => "Content for " ++ name ++ " not available"
  | noSyntaxTree source => "The compiler output has no AST for " ++ source
  | noContract name => "Contract " ++ name ++ " not found"
  | fileMissing name => "file " ++ name ++ " not found"
  | fileIsDirectory name => "'" ++ name ++ "' is a directory and not a file"
  | fileUnreadable name => "no read permissions for " ++ name
  | otherExtension name extensions => name ++ " does not end with " ++ extensions
  | notBoolean value => "expected true or false, instead given " ++ value.display
  | unknownTopic topic known =>
    "unknown debug topic " ++ topic ++ ", expected one of " ++ ", ".intercalate known
  | arguments problem => problem.message
  | ofAttribute name single problem =>
    (match single with
      | none => ""
      | some v => v ++ ": Please remember, CLI flags should be preceded with double dashes. " ++
          "\nFor more help run the tool with the option --help") ++
      "attribute/flag '" ++ name ++ "': " ++ problem.message
  | confNotObject => "the configuration must be a json object"
  | confUnknown option =>
    option ++ " appears in the conf file but is not a known attribute. "
  | confWithoutFiles => "Mandatory 'files' attribute is missing from the configuration"
  | confNotAlone => "a conf file must be the only file given in the command line"
  | confNotJson path fault => "Error when reading " ++ path ++ ": " ++ fault.text
  | conf path problem => "Error when reading " ++ path ++ ": " ++ problem.message
  | notTwoLayouts =>
    "expected two storage layout files: the original layout and the updated layout"
  | notLayout name _ => name ++ " is not a valid storage layout file"

/-- The text of the problem behind a problem, if there is one. -/
def InputProblem.cause? : InputProblem → Option String
  | confNotJson _ fault => some fault.text
  | conf _ problem => some problem.message
  | notLayout _ defect => some defect.text
  | _ => none

/-- Why a file cannot be opened. -/
inductive FileProblem where
  | missing
  | isDirectory
  | notDirectory
  | notPermitted
  | nameTooLong
  | circularLinks
  | impossibleName
  /-- Anything else that the system says. -/
  | other (reason : String)
deriving DecidableEq, Repr

/-- An error of any kind. -/
inductive Error where
  | misuse (m : Json.Misuse)
  | fault (f : Fault)
  | upgrade (p : UpgradeProblem)
  | input (p : InputProblem)
  | file (p : FileProblem)
  /-- A document is nested more deeply than is read. -/
  | tooDeep
  /-- The terminal refuses a message. -/
  | unshown (reason : String)
deriving Repr

/-- The text of a problem of a file. -/
def FileProblem.message : FileProblem → String
  | missing => "No such file or directory"
  | isDirectory => "Is a directory"
  | notDirectory => "Not a directory"
  | notPermitted => "Permission denied"
  | nameTooLong => "File name too long"
  | circularLinks => "Too many levels of symbolic links"
  | impossibleName => "embedded null byte"
  | other reason => reason

/-- The text of an error. -/
def Error.message : Error → String
  | misuse m => m.text
  | fault f => f.message
  | upgrade p => p.message
  | input p => p.message
  | file p => p.message
  | tooDeep => Json.ReadFault.tooDeep.text
  | unshown reason => reason

/-- That a text is no document is a problem of the input of the user, unless reading it needs too
much room. -/
def Json.ReadFault.toError (problem : Json.ReadFault → InputProblem) : Json.ReadFault → Error
  | tooDeep => .tooDeep
  | fault => .input (problem fault)

/-- A value of a document was asked for something in vain. -/
def Json.Misuse.lift (r : Except Json.Misuse α) : Except Error α :=
  match r with
  | .ok a => .ok a
  | .error m => .error (.misuse m)

/-- A text that names no type, as an error. -/
def TypeGraph.Problem.toError : TypeGraph.Problem → Error
  | .unbalanced e => .fault (.unbalancedTypeId e.text)
  | .notText _ => .misuse .notObject

instance : MonadLift (Except Json.Misuse) (Except Error) := ⟨Json.Misuse.lift⟩

instance : MonadLift (Except TypeGraph.Problem) (Except Error) :=
  ⟨fun r => match r with
    | .ok a => .ok a
    | .error p => .error p.toError⟩

end StorageUpgrade
