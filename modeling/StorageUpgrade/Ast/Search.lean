import StorageUpgrade.Error

/-!
# Nodes of a syntax tree

A syntax tree is a document, and its nodes are the objects that have an entry `nodeType`.  The tree
is searched level by level: the nodes of a level come in the order in which they are written, and
the values inside a pruned node are not visited.  The nodes are used one by one while the search
goes on, so `Found` keeps apart what was found and what the search stopped at.
-/

namespace StorageUpgrade
namespace Ast

/-- The kind of a node, `none` for a value that is no node. -/
def kind? : Json → Option Json
  | .obj es => Json.find? "nodeType" es
  | _ => none

/-- Whether a value is a node. -/
def isNode (v : Json) : Bool := (kind? v).isSome

/-- Whether a value is a node of one of the given kinds. -/
def isOfKind (kinds : List String) (v : Json) : Bool :=
  match kind? v with
  | some (.str kind) => kinds.contains kind
  | _ => false

/-- Whether a value is visited, with what is inside it. -/
def isVisited (pruned : Json → Bool) (v : Json) : Bool := !(isNode v && pruned v)

/-- The nodes among the values of a level and of the `levels` below it. -/
def nodesBelow (pruned : Json → Bool) : (levels : Nat) → List Json → List Json
  | 0, _ => []
  | levels + 1, level =>
    let visited := level.filter (isVisited pruned)
    visited.filter isNode ++ nodesBelow pruned levels (visited.flatMap Json.children)

/-- The nodes of a tree, level by level. -/
def nodes (pruned : Json → Bool) (root : Json) : List Json := nodesBelow pruned root.depth [root]

/-- Whether the kind of a node is a list or an object, which no kind is looked up as. -/
def hasCompositeKind (v : Json) : Bool :=
  match kind? v with
  | some kind => !kind.isKey
  | none => false

/-- The nodes that a search comes to, and what it stops at if it does not come to an end. -/
structure Found where
  nodes : List Json
  stop : Option Json.Misuse := none

/-- What the end of a search comes to, when all of its nodes have been used. -/
def Found.finish (found : Found) : Except Json.Misuse Unit :=
  match found.stop with
  | some misuse => .error misuse
  | none => .ok ()

/-- All nodes of a search that comes to an end. -/
def Found.all (found : Found) : Except Json.Misuse (List Json) := do
  found.finish
  .ok found.nodes

/-- The nodes of the given kinds, level by level, up to a node whose kind cannot be looked up. -/
def findAll (kinds : List String) (pruned : Json → Bool) (root : Json) : Found :=
  match (nodes pruned root).span (!hasCompositeKind ·) with
  | (visited, []) => { nodes := visited.filter (isOfKind kinds) }
  | (visited, _ :: _) => { nodes := visited.filter (isOfKind kinds), stop := some .wrongKind }

/-- The nodes of the given kinds in a whole tree. -/
def find (kinds : List String) (root : Json) : Found := findAll kinds (fun _ => false) root

end Ast
end StorageUpgrade
