import StorageUpgrade.Extract.Layout
import StorageUpgrade.Extract.Signature

/-!
# All contracts of a compilation

The layouts and the signatures of all contracts that a compiler put out, under their full names.
The full layout of a contract also lists the variables of the contracts that it inherits from, those
of the most basic one first.
-/

namespace StorageUpgrade

/-- What is known of a contract: where it is defined, the full names of the contracts it inherits
from, the signatures of the functions that can be called from outside, and its layout. -/
structure ContractInfo where
  src : Json
  bases : List String := []
  methods : List String := []
  layout : Layout := {}

namespace Validation

open SyntaxM (ask)

/-- The full name of a contract. -/
def fullName (source : String) (name : Json) : String := source ++ ":" ++ name.display

/-- Whether a function can be called from outside. -/
def isExternal (function : Json) : Except Json.Misuse Bool := do
  let visibility ← function.lookup "visibility"
  .ok (visibility == .str "external" || visibility == .str "public")

/-- The kind of the definition of a contract. -/
def contractKind : List String := [Ast.DefinitionKind.contract.nodeType]

/-- The full names of the contracts of a source, under their numbers. -/
def namesOfSource (source : String) (data : Json) : Except Json.Misuse (List (Json × String)) := do
  let contracts := Ast.find contractKind (← data.lookup "ast" (.obj []))
  let names ← contracts.nodes.mapM fun contract => do
    let name ← contract.get "name"
    let id ← contract.get "id"
    if id.isKey then .ok (id, fullName source name) else .error .wrongKind
  contracts.finish
  .ok names

/-- The full names of all contracts, under their numbers; the last one of a number counts. -/
def names (output : Json) : Except Json.Misuse (List (Json × String)) := do
  let sources ← output.lookup "sources" (.obj []) >>= Json.entries
  let found ← sources.mapM fun (source, data) => namesOfSource source data
  .ok found.flatten.reverse

/-- The values of a list behind its first one. -/
def withoutFirst (v : Json) : Except Json.Misuse (List Json) :=
  match v with
  | .arr xs => .ok xs.tail
  | .str s => .ok (s.toList.tail.map fun c => .str (String.ofList [c]))
  | .rawText points => .ok (points.tail.map fun n => .ofPoints [n])
  | _ => .error .wrongKind

/-- What has been found so far: the contracts, and the numbers of those that each inherits from. -/
structure Progress where
  contracts : List (String × ContractInfo) := []
  bases : List (String × List Json) := []

/-- Adds what a contract defines, if the compiler put it out. -/
def addContract (decode : SourceDecoder) (index : SyntaxIndex) (source : String) (outputs : Json)
    (p : Progress) (contract : Json) : SyntaxM Progress := do
  let name ← ask (contract.get "name")
  let key := fullName source name
  match Json.find? key p.contracts with
  | none => return p
  | some info =>
    SyntaxM.say "ast" ("Validating " ++ key)
    let bases ← ask (contract.lookup "linearizedBaseContracts" (.arr []) >>= withoutFirst)
    let src ← (decode contract : Except Error _)
    let compiled ← ask do (← outputs.part name).lookup "storageLayout"
    let layout ← Extract.layout decode { index, contract, layout := compiled } none
    let functions := Ast.find [Ast.functionDefinition] contract
    let external ← ask (functions.nodes.filterM isExternal)
    let methods ← external.mapM (Signature.ofFunction index)
    ask functions.finish
    return {
      contracts := Json.put key { info with src := .str src, layout, methods } p.contracts
      bases := Json.put key bases p.bases }

/-- Adds the contracts that the compiler put out for a source. -/
def addSource (decode : SourceDecoder) (index : SyntaxIndex) (output : Json) (p : Progress)
    (source : String) (outputs : Json) : SyntaxM Progress := do
  let listed ← ask outputs.elements
  let contracts := listed.foldl (fun contracts name =>
    Json.put (fullName source name) { src := name } contracts) p.contracts
  let data ← ask (output.lookup "sources" (.obj []) >>= fun s => s.lookup source)
  let hasTree ← if data.isNull then pure false else ask (data.contains "ast")
  if !hasTree then throw (.input (.noSyntaxTree source))
  let tree ← ask (data.get "ast")
  let found := Ast.find contractKind tree
  let p ← found.nodes.foldlM (addContract decode index source outputs) { p with contracts }
  ask found.finish
  return p

/-- The full name of the contract with a number. -/
def nameOf (known : List (Json × String)) (id : Json) : Except Json.Misuse String :=
  match known.find? fun (n, _) => n.same id with
  | some (_, name) => .ok name
  | none => .error (if id.isKey then .missingKey id else .wrongKind)

/-- The contracts of a compilation. -/
def run (decode : SourceDecoder) (output : Json) : SyntaxM (List (String × ContractInfo)) := do
  let index := SyntaxIndex.ofOutput 0 output
  let known ← ask (names output)
  let sources ← ask (output.lookup "contracts" (.obj []) >>= Json.entries)
  let p ← sources.foldlM (fun p (source, outputs) =>
    addSource decode index output p source outputs) {}
  ask (p.bases.foldlM (fun contracts (key, ids) => do
    let bases ← ids.mapM (nameOf known)
    .ok (contracts.map fun (k, info) => (k, if k = key then { info with bases } else info)))
    p.contracts)

/-- Adds the types of a base to a layout, except those that it has. -/
def addTypes (types base : List (String × TypeEntry)) : List (String × TypeEntry) :=
  base.foldl (fun types (id, t) =>
    if (Json.find? id types).isSome then types else types ++ [(id, t)]) types

/-- The full layout of a contract. -/
def layoutOf (contracts : List (String × ContractInfo)) (name : String) : Except Error Layout :=
  match Json.find? name contracts with
  | none => .error (.input (.noContract name))
  | some info =>
    if info.layout.flat.isSet then .ok info.layout
    else
      let start : Layout := { info.layout with flat := .bool false }
      .ok ((info.bases.filterMap (Json.find? · contracts)).foldl (fun l base =>
        { l with
          storage := base.layout.storage ++ l.storage
          types := addTypes l.types base.layout.types }) start)

end Validation
end StorageUpgrade
