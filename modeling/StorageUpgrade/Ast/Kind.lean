import StorageUpgrade.Ast.Search

/-!
# Kinds of nodes

The kinds of nodes that name types, the kinds that define them, and what a node of a definition is
asked for.
-/

namespace StorageUpgrade
namespace Ast

/-- The nodes that name a type. -/
inductive TypeNameKind where
  | elementary
  | function
  | userDefined
  | mapping
  | array
deriving DecidableEq, Repr

namespace TypeNameKind

/-- All kinds of nodes that name a type. -/
def all : List TypeNameKind := [elementary, function, userDefined, mapping, array]

/-- The kind as a syntax tree writes it. -/
def nodeType : TypeNameKind → String
  | elementary => "ElementaryTypeName"
  | function => "FunctionTypeName"
  | userDefined => "UserDefinedTypeName"
  | mapping => "Mapping"
  | array => "ArrayTypeName"

/-- The name of a kind. -/
def name : TypeNameKind → String
  | elementary => "elementary"
  | function => "function"
  | userDefined => "user_defined"
  | mapping => "mapping"
  | array => "array"

end TypeNameKind

/-- The nodes that define a type. -/
inductive DefinitionKind where
  | enum
  | struct
  | valueType
  | contract
deriving DecidableEq, Repr

namespace DefinitionKind

/-- All kinds of nodes that define a type. -/
def all : List DefinitionKind := [enum, struct, valueType, contract]

/-- The kind as a syntax tree writes it. -/
def nodeType : DefinitionKind → String
  | enum => "EnumDefinition"
  | struct => "StructDefinition"
  | valueType => "UserDefinedValueTypeDefinition"
  | contract => "ContractDefinition"

/-- The name of a kind. -/
def name : DefinitionKind → String
  | enum => "enum"
  | struct => "struct"
  | valueType => "value_type"
  | contract => "contract"

end DefinitionKind

/-- The kind of a variable or of a member of a struct. -/
def variableDeclaration : String := "VariableDeclaration"

/-- The kind of a function. -/
def functionDefinition : String := "FunctionDefinition"

/-- Whether a node, which must have a kind, has the given one. -/
def hasKind (kind : String) (node : Json) : Except Json.Misuse Bool := do
  .ok ((← node.get "nodeType") == .str kind)

/-- Whether an object has the given kind; it may have none. -/
def mayHaveKind (kind : String) (node : Json) : Except Json.Misuse Bool := do
  .ok ((← node.lookup "nodeType") == .str kind)

/-- Whether a node is a definition of the given kind. -/
def isDefinition (kind : DefinitionKind) (node : Json) : Except Json.Misuse Bool :=
  hasKind kind.nodeType node

/-- Whether a node declares a variable that takes up storage: one that is neither constant nor
immutable. -/
def isStateVariable (node : Json) : Except Json.Misuse Bool := do
  if !(← hasKind variableDeclaration node) then .ok false
  else if (← node.lookup "constant" (.bool false)).isSet then .ok false
  else .ok ((← node.lookup "mutability") != .str "immutable")

/-- The values of a list that pass a test, which may fail. -/
def select (test : Json → Except Json.Misuse Bool) (values : List Json) :
    Except Json.Misuse (List Json) :=
  values.filterM test

/-- The parts of a node, none when they are not listed. -/
def partsOf (key : String) (node : Json) : Except Json.Misuse (List Json) := do
  (← node.lookup key (.arr [])).elements

end Ast
end StorageUpgrade
