import StorageUpgrade.Ast.TypeName
import StorageUpgrade.Text.Numeral

/-!
# Signatures of functions

The signature of a function is its name with the types of its parameters as the binary interface of
contracts writes them: a struct is the tuple of its members, an enum is a `uint8`, a contract is an
address, and a user defined value type is the type that it stands for.
-/

namespace StorageUpgrade
namespace Signature

open SyntaxM (ask)

/-- The words behind the name of a type that say where its values are kept. -/
def qualifiers : List (List Char) :=
  ["payable", "storage", "memory", "calldata", "pointer", "ref"].map String.toList

/-- The number of characters of the qualifier at the front of a text. -/
def qualifierLength? (cs : List Char) : Option Nat :=
  (qualifiers.find? fun q => q.isPrefixOf cs && endsWord (cs.drop q.length)).map List.length

/-- The text without qualifiers, where the first `skip` characters belong to one. -/
def dropQualifiersFrom (skip : Nat) : List Char → List Char
  | [] => []
  | c :: cs =>
    match skip with
    | skip + 1 => dropQualifiersFrom skip cs
    | 0 =>
      if c = ' ' then
        match qualifierLength? cs with
        | some n => dropQualifiersFrom n cs
        | none => c :: dropQualifiersFrom 0 cs
      else c :: dropQualifiersFrom 0 cs

/-- The text without the qualifiers that stand behind a space. -/
def dropQualifiers (s : String) : String := String.ofList (dropQualifiersFrom 0 s.toList)

/-- The digits between brackets at the start of a text. -/
def bracketed? : List Char → Option (List Char)
  | '[' :: cs =>
    match spanDigits cs with
    | (d :: ds, ']' :: _) => some (d :: ds)
    | _ => none
  | _ => none

/-- The digits between the last brackets that hold digits only. -/
def lastLength? : List Char → Option (List Char)
  | [] => none
  | c :: cs => (lastLength? cs).or (bracketed? (c :: cs))

/-- The kinds of the definitions that a type name may refer to. -/
def definitionKinds : List String := Ast.DefinitionKind.all.map (·.nodeType)

/-- The text of the length of an array. -/
def arrayLength (node length : Json) : SyntaxM String := do
  match ← ask (length.lookup "value") with
  | .null =>
    let (_, text) ← (Ast.describe node : Except Error _)
    match lastLength? text.toList with
    | some ds => return String.ofList ds
    | none => throw (.misuse .empty)
  | size => return size.display

/-- A type as the binary interface writes it.  A type name leads to at most `steps` others, unless a
struct contains itself. -/
def typeName (index : SyntaxIndex) : (steps : Nat) → Json → SyntaxM String
  | 0, _ => throw (.misuse .unbounded)
  | steps + 1, node => do
    if ← ask (Ast.mayHaveKind Ast.TypeNameKind.userDefined.nodeType node) then
      let definition ← index.deref definitionKinds (← ask (node.get "referencedDeclaration"))
      if ← ask (Ast.isDefinition .struct definition) then
        let members ← ask (definition.get "members" >>= Json.elements)
        let names ← members.mapM fun m => do
          typeName index steps (← ask (m.get "typeName"))
        return "(" ++ ",".intercalate names ++ ")"
      else if ← ask (Ast.isDefinition .enum definition) then return "uint8"
      else if ← ask (Ast.isDefinition .contract definition) then return "address"
      else typeName index steps (← ask (definition.get "underlyingType"))
    else if ← ask (Ast.mayHaveKind Ast.TypeNameKind.array.nodeType node) then
      let base ← typeName index steps (← ask (node.get "baseType"))
      match ← ask (node.lookup "length") with
      | .null => return base ++ "[]"
      | length => return base ++ "[" ++ (← arrayLength node length) ++ "]"
    else if ← ask (Ast.mayHaveKind Ast.TypeNameKind.function.nodeType node) then
      return "function"
    else
      let (_, text) ← (Ast.describe node : Except Error _)
      return dropQualifiers text

/-- The signature of a function. -/
def ofFunction (index : SyntaxIndex) (function : Json) : SyntaxM String := do
  let parameters ← ask do (← (← function.get "parameters").get "parameters").elements
  let types ← parameters.mapM fun p => do
    let type ← ask (p.get "typeName")
    typeName index (type.depth + index.size + 1) type
  let name ← ask (function.get "name")
  return name.display ++ "(" ++ ",".intercalate types ++ ")"

end Signature
end StorageUpgrade
