import StorageUpgrade.Ast.Index
import StorageUpgrade.Text.Affix
import StorageUpgrade.Text.Word
import StorageUpgrade.TypeId.Encoding

/-!
# Types in a syntax tree

A node that names a type has a description of it: an encoded identifier and a readable text.  The
types that a name refers to are loaded into the table of a layout, together with all types that are
named inside them and inside the definitions of the structs, enums and user defined value types
among them.  Each identifier is loaded once, so types may contain themselves.
-/

namespace StorageUpgrade
namespace Ast

/-- The encoded identifier and the text of the type of a node. -/
def describe (node : Json) : Except Error (String × String) := do
  let descriptions ← (node.lookup "typeDescriptions" (.obj []) : Except Json.Misuse _)
  let id ← (descriptions.lookup "typeIdentifier" : Except Json.Misuse _)
  let text ← (descriptions.lookup "typeString" : Except Json.Misuse _)
  match id, text with
  | .str id, .str text => .ok (id, text)
  | _, _ =>
    let number ← (node.lookup "id" : Except Json.Misuse _)
    .error (.fault (.untypedNode number))

/-- The identifier by which the type of a node is known in a layout. -/
def typeIdOf (node : Json) : Except Error String := do
  .ok (TypeId.normalize (← describe node).1)

/-- A member of a struct, without its position. -/
def structMember (node : Json) : Except Error Item := do
  let label ← (node.get "name" : Except Json.Misuse _)
  let type ← typeIdOf node
  let src ← (node.get "src" : Except Json.Misuse _)
  .ok { label, type := .str type, src }

/-- The members of a struct, or the names of the members of an enum. -/
def typeMembers (definition : Json) : Except Error (List (Item ⊕ String)) := do
  let isStruct ← (isDefinition .struct definition : Except Json.Misuse _)
  let members ← (definition.get "members" >>= Json.elements : Except Json.Misuse _)
  if isStruct then members.mapM fun m => (structMember m).map .inl
  else members.mapM fun m => do
    match ← (m.get "name" : Except Json.Misuse _) with
    | .str name => .ok (.inr name)
    | _ => .error (.misuse .notObject)

/-- The kinds of the nodes that name a type. -/
def typeNameKinds : List String := TypeNameKind.all.map (·.nodeType)

/-- The kinds of the definitions that are loaded. -/
def loadedKinds : List String :=
  [DefinitionKind.struct.nodeType, DefinitionKind.enum.nodeType, DefinitionKind.valueType.nodeType]

/-- Whether an identifier is that of a contract, whose definition is not loaded. -/
def isContractId (id : String) : Bool :=
  match afterFront? "t_contract".toList id.toList with
  | some rest => endsWord rest
  | none => false

/-- The identifiers met so far, and the nodes that are still to be loaded. -/
structure Pending where
  seen : List String := []
  queue : List Json := []

/-- Adds a node unless its identifier was met before. -/
def Pending.add (p : Pending) (node : Json) : Except Error Pending := do
  let (id, _) ← describe node
  .ok (if p.seen.contains id then p else ⟨p.seen ++ [id], p.queue ++ [node]⟩)

/-- Adds the type names in a tree. -/
def Pending.addAll (p : Pending) (root : Json) : Except Error Pending := do
  let found := find typeNameKinds root
  let p ← found.nodes.foldlM Pending.add p
  (found.finish : Except Json.Misuse _)
  .ok p

/-- Records the type of an identifier, with its text as label, unless it is known already. -/
def register (id label : String) : SyntaxM Unit :=
  modify fun s =>
    if (Json.find? id s.types).isSome then s
    else { s with types := s.types ++ [(id, { label := .str label })] }

/-- Changes what is recorded for an identifier. -/
def updateEntry (id : String) (f : TypeEntry → TypeEntry) : SyntaxM Unit :=
  modify fun s => { s with types := s.types.map fun (i, t) => (i, if i = id then f t else t) }

/-- The members recorded for an identifier. -/
def recordedMembers (id : String) : SyntaxM (Option (List (Item ⊕ String))) := do
  return (Json.find? id (← get).types).bind (·.members)

/-- Records what a definition says of the type of an identifier: the type that a user defined value
type stands for, or the members of a struct or an enum if none are recorded. -/
def recordDefinition (id : String) (definition : Json) : SyntaxM Unit := do
  if ← SyntaxM.ask (isDefinition .valueType definition) then
    let underlying ← SyntaxM.ask do
      let name ← definition.get "underlyingType"
      let descriptions ← name.lookup "typeDescriptions" (.obj [])
      descriptions.lookup "typeIdentifier"
    updateEntry id fun t => { t with underlying }
  else if (← recordedMembers id).isNone then
    let members ← (typeMembers definition : Except Error _)
    updateEntry id fun t => { t with members := some members }

/-- Loads the type of a node, and gives its definition if that is to be searched. -/
def loadNode (index : SyntaxIndex) (node : Json) : SyntaxM (Option Json) := do
  let (encoded, label) ← (describe node : Except Error _)
  let id := TypeId.normalize encoded
  register id label
  let refers ← SyntaxM.ask (node.contains "referencedDeclaration")
  if refers && !isContractId id then
    let number ← SyntaxM.ask (node.get "referencedDeclaration")
    let definition ← index.deref loadedKinds number
    recordDefinition id definition
    SyntaxM.say "ast" ("Loaded definition of " ++ id)
    return some definition
  return none

/-- Loads at most `steps` pending types. -/
def loadPending (index : SyntaxIndex) : (steps : Nat) → Pending → SyntaxM Unit
  | 0, _ => return
  | steps + 1, p =>
    match p.queue with
    | [] => return
    | node :: queue => do
      let p : Pending := { p with queue }
      match ← loadNode index node with
      | none => loadPending index steps p
      | some definition =>
        let p ← (p.addAll definition : Except Error _)
        loadPending index steps p

/-- Loads the type that a node names, and all types that it refers to.  Each step takes a node of
the name itself or of the compilation, with an identifier that no other step has. -/
def loadType (index : SyntaxIndex) (typeName : Json) : SyntaxM Unit := do
  if typeName.isNull then throw (.fault .noTypeName)
  let p ← (Pending.addAll {} typeName : Except Error _)
  loadPending index ((nodes (fun _ => false) typeName).length + index.size) p

end Ast
end StorageUpgrade
