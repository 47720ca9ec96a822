import StorageUpgrade.Text.Numeral

/-!
# Type identifiers

The identifier of a type is a name, or a name followed by a parenthesized list of identifiers and by
a tail: `t_array(t_uint256)10_storage` has the head `t_array`, the argument `t_uint256` and the tail
`10_storage`.  A function type lists its return types in a tail that starts with `returns(`.

`Parts.ofId` takes an identifier apart at its outermost parentheses; `TypeTree.parse` goes on with
its arguments and return types.
-/

namespace StorageUpgrade

/-- An identifier, or the tail of one, whose first parenthesis is never closed. -/
structure Unbalanced where
  text : String
deriving DecidableEq, Repr

namespace TypeId

/-- The heads of the types that are stored as a single value although their identifiers have
arguments. -/
def valueHeads : List String := ["t_contract", "t_enum", "t_userDefinedValueType"]

/-- Reads a list of identifiers up to its closing parenthesis, where `depth` parentheses are open
inside the current element and `element` holds its characters so far.  Empty elements are left
out. -/
def readElements (depth : Nat) (element : List Char) :
    List Char → Option (List (List Char) × List Char)
  | [] => none
  | c :: cs =>
    if c = '(' then readElements (depth + 1) (element ++ [c]) cs
    else if c = ')' ∧ 0 < depth then readElements (depth - 1) (element ++ [c]) cs
    else if c = ')' then some (if element.isEmpty then [] else [element], cs)
    else if c = ',' ∧ depth = 0 then
      (readElements 0 [] cs).map fun (elements, rest) =>
        (if element.isEmpty then elements else element :: elements, rest)
    else readElements depth (element ++ [c]) cs

/-- An identifier taken apart: its head, its arguments if it has parentheses, the text behind them
if there is any, and the return types that this text lists. -/
structure Parts where
  head : String
  args : Option (List String) := none
  tail : Option String := none
  rets : Option (List String) := none
deriving DecidableEq, Repr

/-- How the list of return types starts. -/
def returnsMark : List Char := "returns(".toList

/-- The return types that a tail lists. -/
def returnsOf (tail : List Char) : Except Unbalanced (Option (List String)) :=
  if returnsMark.isPrefixOf tail then
    match readElements 0 [] (tail.drop returnsMark.length) with
    | some (rets, _) => .ok (some (rets.map String.ofList))
    | none => .error ⟨String.ofList tail⟩
  else .ok none

/-- Takes an identifier apart. -/
def Parts.ofId (id : String) : Except Unbalanced Parts :=
  match id.toList.span (· != '(') with
  | (_, []) => .ok ⟨id, none, none, none⟩
  | (head, _ :: inner) =>
    match readElements 0 [] inner with
    | none => .error ⟨id⟩
    | some (args, tail) => do
      let rets ← returnsOf tail
      .ok ⟨String.ofList head, some (args.map String.ofList),
        if tail.isEmpty then none else some (String.ofList tail), rets⟩

/-- The identifiers that occur in another one as arguments or return types. -/
def Parts.inner (parts : Parts) : List String := parts.args.getD [] ++ parts.rets.getD []

end TypeId

/-- An identifier with its arguments and return types, all taken apart. -/
inductive TypeTree where
  | plain (id : String)
  | applied (id head : String) (args : List TypeTree) (tail : Option String)
      (rets : Option (List TypeTree))
deriving Repr, Inhabited

namespace TypeTree

/-- The identifier as it was written. -/
def id : TypeTree → String
  | plain id => id
  | applied id .. => id

/-- The name in front of the arguments. -/
def head : TypeTree → String
  | plain id => id
  | applied _ head .. => head

/-- The arguments, `none` for an identifier without parentheses. -/
def args : TypeTree → Option (List TypeTree)
  | plain _ => none
  | applied _ _ args .. => some args

/-- The text behind the arguments. -/
def tail : TypeTree → Option String
  | plain _ => none
  | applied _ _ _ tail _ => tail

/-- The return types. -/
def rets : TypeTree → Option (List TypeTree)
  | plain _ => none
  | applied _ _ _ _ rets => rets

/-- Whether a value of the type takes a single place of storage: its identifier has no arguments, or
one of the heads whose arguments are only names. -/
def isValue (t : TypeTree) : Bool := t.args.isNone || TypeId.valueHeads.contains t.head

/-- Takes an identifier apart, down to `levels` levels of parentheses. -/
def parseWithin : Nat → String → Except Unbalanced TypeTree
  | 0, id => .ok (.plain id)
  | levels + 1, id => do
    let parts ← TypeId.Parts.ofId id
    match parts.args with
    | none => .ok (.plain id)
    | some args =>
      let args ← args.mapM (parseWithin levels)
      let rets ← match parts.rets with
        | none => .ok none
        | some rets => (rets.mapM (parseWithin levels)).map some
      .ok (.applied id parts.head args parts.tail rets)

/-- Takes an identifier apart; it has fewer levels of parentheses than characters. -/
def parse (id : String) : Except Unbalanced TypeTree := parseWithin (id.length + 1) id

end TypeTree

end StorageUpgrade
