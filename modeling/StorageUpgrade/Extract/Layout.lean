import StorageUpgrade.Namespace.Load

/-!
# Extracting the layout of a contract

The layout of a contract is made from its syntax tree.  If the compiler computed a layout, that one
gives the variables of the contract and of all contracts it inherits from, with their positions;
otherwise only the variables that the contract itself declares are listed, without positions.
-/

namespace StorageUpgrade
namespace Extract

open SyntaxM (ask)

/-- A member of a struct in the types of the layout of a compiler. -/
def compilerMember (d : Json) : Except Json.Misuse (Item ⊕ String) :=
  match d with
  | .str name => .ok (.inr name)
  | d => do
    let label ← d.get "label"
    let type ← d.get "type"
    let slot ← d.get "slot"
    let offset ← (← d.get "offset").toInt
    .ok (.inl { label, type, slot := some slot.display, offset := some offset })

/-- What a layout keeps of a type of the compiler: its label, its size, and the positions of its
members. -/
def compilerType (d : Json) : Except Json.Misuse TypeEntry := do
  let members ← d.lookup "members"
  let label ← d.get "label"
  let members ← match members.given? with
    | none => .ok none
    | some members => ((← members.elements).mapM compilerMember).map some
  let numberOfBytes ← d.lookup "numberOfBytes"
  .ok { label, members, numberOfBytes := numberOfBytes.displayed? }

/-- What a layout keeps of the types of a compiler. -/
def compilerTypes (types : Json) : Except Json.Misuse (List (String × TypeEntry)) := do
  if types.isSet then (← types.entries).mapM fun (id, t) => (compilerType t).map (id, ·)
  else .ok []

/-- The types of `newer` put into those of `older`. -/
def mergeTypes (older newer : List (String × TypeEntry)) : List (String × TypeEntry) :=
  newer.foldl (fun types (id, t) => Json.put id t types) older

/-- The declaration of the variable with a number, with the contract that declares it, in the
contract or one it inherits from. -/
def declaration? (index : SyntaxIndex) (id : Json) : List Json → SyntaxM (Option (Json × Json))
  | [] => return none
  | contractId :: rest => do
    let contract ← index.deref [Ast.DefinitionKind.contract.nodeType] contractId
    let nodes ← ask (Ast.partsOf "nodes" contract)
    match ← ask (Namespace.findFirst (fun n => do .ok ((← n.lookup "id").alike id)) nodes) with
    | none => declaration? index id rest
    | some node =>
      if ← ask (Ast.hasKind Ast.variableDeclaration node) then
        return some (node, ← ask (contract.get "name"))
      else declaration? index id rest

/-- A text, or `null`. -/
def textOrNull : Option String → Json
  | some s => .str s
  | none => .null

/-- A variable that the compiler laid out. -/
def placedItem (decode : SourceDecoder) (index : SyntaxIndex) (contract storage : Json) :
    SyntaxM Item := do
  let id ← ask (storage.lookup "astId")
  match ← declaration? index id (← Namespace.linearized contract) with
  | none => throw (.fault (.noDeclaration (← ask (storage.get "label"))))
  | some (node, declaredIn) =>
    let (retyped, renamed) ← ask (Documentation.declared node)
    Ast.loadType index (← ask (node.lookup "typeName"))
    let label ← ask (storage.get "label")
    let type ← ask (storage.get "type")
    let src ← (decode node : Except Error _)
    let slot ← ask (storage.get "slot")
    let offset ← ask (storage.get "offset" >>= Json.toInt)
    return {
      contract := declaredIn, label, type, src := .str src, slot := some slot.display
      offset := some offset, retypedFrom := textOrNull retyped, renamedFrom := textOrNull renamed }

/-- A variable that a contract declares. -/
def declaredItem (decode : SourceDecoder) (index : SyntaxIndex) (contract node : Json) :
    SyntaxM Item := do
  let (retyped, renamed) ← ask (Documentation.declared node)
  let declaredIn ← ask (contract.get "name")
  let label ← ask (node.get "name")
  let type ← (Ast.typeIdOf node : Except Error _)
  let src ← (decode node : Except Error _)
  Ast.loadType index (← ask (node.lookup "typeName"))
  return {
    contract := declaredIn, label, type := .str type, src := .str src
    retypedFrom := textOrNull retyped, renamedFrom := textOrNull renamed }

/-- The variables among some nodes of a contract. -/
def declaredItems (decode : SourceDecoder) (index : SyntaxIndex) (contract : Json) :
    List Json → SyntaxM (List Item)
  | [] => return []
  | node :: nodes => do
    if ← ask (Ast.isStateVariable node) then
      let item ← declaredItem decode index contract node
      return item :: (← declaredItems decode index contract nodes)
    else declaredItems decode index contract nodes

/-- The variables of a contract, and whether they cover the contracts that it inherits from. -/
def stateVariables (decode : SourceDecoder) (c : Compilation) (laidOut : Option Compilation) :
    SyntaxM (List Item × Bool) := do
  if c.layout.isNull then
    let nodes ← ask (Ast.partsOf "nodes" c.contract)
    return (← declaredItems decode c.index c.contract nodes, false)
  else
    let more ← match (laidOut.map (·.layout)).getD .null with
      | .null => pure Json.null
      | layout => ask (layout.lookup "types")
    let older ← ask (compilerTypes more)
    let newer ← ask (c.layout.lookup "types" >>= compilerTypes)
    modify fun s => { s with types := mergeTypes older newer }
    let storage ← ask (Ast.partsOf "storage" c.layout)
    return (← storage.mapM (placedItem decode c.index c.contract), true)

/-- The layout of a contract.  A second compilation, if there is one, lays the namespaces out. -/
def layout (decode : SourceDecoder) (c : Compilation) (laidOut : Option Compilation) :
    SyntaxM Layout := do
  modify fun s => { s with types := [] }
  let (storage, flat) ← stateVariables decode c laidOut
  let name ← ask (c.contract.get "name")
  SyntaxM.say "ast" ("Extracted " ++ toString storage.length ++ " variables and " ++
    toString (← get).types.length ++ " types from " ++ name.display)
  let namespaces ← Namespace.load decode c laidOut
  return {
    storage, types := (← get).types, flat := .bool flat, namespaces := some namespaces }

end Extract
end StorageUpgrade
