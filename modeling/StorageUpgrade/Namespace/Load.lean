import StorageUpgrade.Documentation
import StorageUpgrade.Ast.TypeName
import StorageUpgrade.Extract.Source

/-!
# Loading namespaces

A struct whose documentation declares a location defines a namespace: a region of storage that holds
the members of the struct.  The namespaces of a contract are those of all contracts that it inherits
from, and each location may be declared once.

The compiler lays a namespace out only if its struct is the type of a state variable, so there may
be a second compilation in which that is so.  Members and their positions come from that one, and
places in the sources from the plain one.
-/

namespace StorageUpgrade

/-- A contract in a compilation: how its nodes are looked up, its definition, and the layout that
the compiler computed for it, `null` when it did not. -/
structure Compilation where
  index : SyntaxIndex
  contract : Json
  layout : Json := .null

namespace Namespace

open SyntaxM (ask)

/-- The numbers of the contracts that a contract inherits from, itself first. -/
def linearized (contract : Json) : SyntaxM (List Json) := ask do
  let self ← contract.get "id"
  (← contract.lookup "linearizedBaseContracts" (.arr [self])).elements

/-- The contract with a number. -/
def contractWithId (c : Compilation) (id : Json) : SyntaxM Json := do
  if (← ask (c.contract.get "id")).alike id then return c.contract
  c.index.deref [Ast.DefinitionKind.contract.nodeType] id

/-- The contracts that a contract inherits from, itself first. -/
def linearizedContracts (c : Compilation) : SyntaxM (List Json) := do
  (← linearized c.contract).mapM (contractWithId c)

/-- The first value of a list that passes a test, which may fail. -/
def findFirst (test : Json → Except Json.Misuse Bool) :
    List Json → Except Json.Misuse (Option Json)
  | [] => .ok none
  | v :: vs => do if ← test v then .ok (some v) else findFirst test vs

/-- The struct of a name in a contract. -/
def plainStruct (name contract : Json) : SyntaxM Json := do
  let nodes ← ask (Ast.partsOf "nodes" contract)
  let found ← ask (findFirst (fun node => do
    if ← Ast.isDefinition .struct node then .ok ((← node.lookup "canonicalName").alike name)
    else .ok false) nodes)
  match found with
  | some node => return node
  | none => throw (.upgrade (.noPlainStruct name (← ask (contract.get "name"))))

/-- The place of a member of a struct of a contract. -/
def plainMemberSrc (name label contract : Json) : SyntaxM Json := do
  let struct ← plainStruct name contract
  let members ← ask (Ast.partsOf "members" struct)
  match ← ask (findFirst (fun m => do .ok ((← m.lookup "name").alike label)) members) with
  | some member => ask (member.get "src")
  | none => throw (.upgrade (.noPlainMember name label))

/-- The first member of a label; no member may be a text. -/
def memberOfLabel (name label : Json) : List Json → Except Error (Option Json)
  | [] => .ok none
  | .str _ :: _ => .error (.fault (.enumMemberInStruct name))
  | m :: ms => do
    if (← (m.lookup "label" : Except Json.Misuse _)).alike label then .ok (some m)
    else memberOfLabel name label ms

/-- The member of a struct in the types of the layout of a compiler: the struct is the first type
with its name as label. -/
def layoutMember? (types name label : Json) : Except Error (Option Json) := do
  let entries ← (types.entries : Except Json.Misuse _)
  let wanted := Json.str ("struct " ++ name.display)
  let struct ← (findFirst (fun t => do .ok ((← t.lookup "label").alike wanted))
    (entries.map (·.2)) : Except Json.Misuse _)
  match struct with
  | none => .ok none
  | some struct =>
    match ← (struct.lookup "members" : Except Json.Misuse _) with
    | .null => .ok none
    | members => do
      let members ← (members.elements : Except Json.Misuse _)
      memberOfLabel name label members

/-- The slot and offset of a member of a namespace, if the compiler computed both. -/
def positionOf (types name label : Json) : Except Error (Option String × Option Int) := do
  match ← layoutMember? types name label with
  | none => .ok (none, none)
  | some member =>
    let slot ← (member.lookup "slot" : Except Json.Misuse _)
    if slot.isNull then return (none, none)
    let offset ← (member.lookup "offset" : Except Json.Misuse _)
    if offset.isNull then return (none, none)
    let offset ← (offset.toInt : Except Json.Misuse _)
    .ok (some slot.display, some offset)

/-- The types of the layout that the compiler computed. -/
def compilerTypes (layout : Json) : Except Json.Misuse Json := do
  let layout := if layout.isSet then layout else .obj []
  let types ← layout.lookup "types"
  .ok (if types.isSet then types else .obj [])

/-- A member of a namespace as a variable of the contract. -/
def namespaceItem (decode : SourceDecoder) (c : Compilation) (plain types struct member : Json) :
    SyntaxM Item := do
  let contract ← ask (c.contract.get "name")
  let label ← ask (member.get "name")
  let type ← (Ast.typeIdOf member : Except Error _)
  let name ← ask (struct.get "canonicalName")
  let src ← plainMemberSrc name label plain
  let src ← (decode (.obj [("src", src)]) : Except Error _)
  let (slot, offset) ← (positionOf types name label : Except Error _)
  let item : Item := { contract, label, type := .str type, src := .str src, slot, offset }
  Ast.loadType c.index (← ask (member.lookup "typeName"))
  return item

/-- The members of a namespace. -/
def namespaceItems (decode : SourceDecoder) (c : Compilation) (plain struct : Json) :
    SyntaxM (List Item) := do
  let types ← ask (compilerTypes c.layout)
  let members ← ask (Ast.partsOf "members" struct)
  members.mapM (namespaceItem decode c plain types struct)

/-- A namespace: its members, and the places of all structs that define it. -/
structure Found where
  items : List Item
  srcs : List String

/-- Adds the namespace that a struct defines, if it defines one.  The members come from the first
struct that does. -/
def addStruct (decode : SourceDecoder) (c : Compilation) (plain : Json)
    (found : List (String × Found)) (struct : Json) : SyntaxM (List (String × Found)) := do
  match ← (Documentation.location? struct : Except Error _) with
  | none => return found
  | some location =>
    let name ← ask (struct.get "canonicalName")
    let src ← (decode (← plainStruct name plain) : Except Error _)
    match Json.find? location found with
    | some known => return Json.put location { known with srcs := known.srcs ++ [src] } found
    | none =>
      let contract ← ask (c.contract.get "name")
      SyntaxM.say "namespace" ("Found namespace " ++ location ++ " in " ++ contract.display)
      return Json.put location ⟨← namespaceItems decode c plain struct, [src]⟩ found

/-- Adds the namespaces that the structs among some nodes define. -/
def addStructs (decode : SourceDecoder) (c : Compilation) (plain : Json) :
    List (String × Found) → List Json → SyntaxM (List (String × Found))
  | found, [] => return found
  | found, node :: nodes => do
    if ← ask (Ast.isDefinition .struct node) then
      addStructs decode c plain (← addStruct decode c plain found node) nodes
    else addStructs decode c plain found nodes

/-- Adds the namespaces that a contract itself defines. -/
def addContract (decode : SourceDecoder) (c : Compilation) (plain : Json)
    (found : List (String × Found)) : SyntaxM (List (String × Found)) := do
  addStructs decode c plain found (← ask (Ast.partsOf "nodes" c.contract))

/-- The namespaces found, each of which must be defined once. -/
def unique (contract : Json) : List (String × Found) → Except Error (List (String × List Item))
  | [] => .ok []
  | (id, found) :: rest => do
    if 1 < found.srcs.length then
      let name ← (contract.lookup "canonicalName" : Except Json.Misuse _)
      let name ← if name.isSet then .ok name else (contract.get "name" : Except Json.Misuse _)
      .error (.upgrade (.duplicateNamespace id name found.srcs))
    else .ok ((id, found.items) :: (← unique contract rest))

/-- The namespaces of a contract and of those it inherits from. -/
def load (decode : SourceDecoder) (plain : Compilation) (laidOut : Option Compilation) :
    SyntaxM (List (String × List Item)) := do
  let contracts ← linearizedContracts plain
  let (compilation, inherited) ← match laidOut with
    | none => pure (plain, contracts)
    | some c => do
      let inherited ← linearizedContracts c
      if inherited.length ≠ contracts.length then
        throw (.fault (.otherInheritance (← ask (plain.contract.get "name"))))
      pure (c, inherited)
  let found ← (inherited.zip contracts).foldlM (fun found (contract, plainContract) =>
    addContract decode { compilation with contract } plainContract found) []
  (unique plain.contract found : Except Error _)

end Namespace
end StorageUpgrade
