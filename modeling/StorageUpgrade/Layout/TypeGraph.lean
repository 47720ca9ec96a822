import StorageUpgrade.Layout.Basic
import StorageUpgrade.TypeId.Basic

/-!
# The graph of the types of a layout

The identifiers of a layout are taken apart and joined with what the layout records of them.  The
types that can be reached from some variables through arguments, return types and members form a
graph with one node for each identifier.  Types may contain themselves, so the graph may be cyclic.

`TypeGraph.reachable` lists the identifiers in the order in which they are met, and `Layout.detail`
gives the graph together with the variables, whose types are nodes of it.
-/

namespace StorageUpgrade

/-- What is known of a type by itself. -/
structure TypeInfo where
  id : String
  head : String
  tail : Option String := none
  label : Json
  numberOfBytes : Option String := none
  underlying : Json := .null
deriving DecidableEq, Repr

/-- A type with the types it is made of, which `ρ` refers to. -/
structure TypeNode (ρ : Type) extends TypeInfo where
  args : Option (List ρ) := none
  rets : Option (List ρ) := none
  members : Option (List (Variable ρ ⊕ String)) := none

/-- The types of a layout; a number below `size` refers to each of them. -/
structure TypeGraph where
  size : Nat
  node : Fin size → TypeNode (Fin size)

namespace TypeGraph

/-- A reference to a type of a graph. -/
abbrev Ref (g : TypeGraph) : Type := Fin g.size

/-- What is known of a type by itself. -/
def info (g : TypeGraph) (r : g.Ref) : TypeInfo := (g.node r).toTypeInfo

/-- Whether a value of the type takes a single place of storage. -/
def isValue (g : TypeGraph) (r : g.Ref) : Bool :=
  (g.node r).args.isNone || TypeId.valueHeads.contains (g.node r).head

/-- A text that names no type. -/
inductive Problem where
  | unbalanced (id : Unbalanced)
  | notText (type : Json)
deriving DecidableEq, Repr

/-- The types of the members that a table records for an identifier. -/
def memberTypes (types : List (String × TypeEntry)) (id : String) : List Json :=
  match (Json.find? id types).bind (·.members) with
  | none => []
  | some members => members.filterMap fun
    | .inl item => some item.type
    | .inr _ => none

/-- Adds an identifier, and those that can be reached from it, to the ones seen before; a path from
the identifier has at most `steps` steps. -/
def visit (types : List (String × TypeEntry)) :
    (steps : Nat) → (seen : List String) → Json → Except Problem (List String)
  | 0, seen, _ => .ok seen
  | steps + 1, seen, .str id =>
    if seen.contains id then .ok seen
    else match TypeId.Parts.ofId id with
      | .error e => .error (.unbalanced e)
      | .ok parts =>
        (parts.inner.map Json.str ++ memberTypes types id).foldlM (visit types steps) (seen ++ [id])
  | _, _, type => .error (.notText type)

/-- An upper bound of the number of identifiers that some types hold. -/
def idBound : List Json → Nat
  | [] => 0
  | .str id :: ids => id.length + 1 + idBound ids
  | _ :: ids => 1 + idBound ids

/-- The identifiers that can be reached from the given ones, in the order in which they are met:
first an identifier, then its arguments, its return types and its members. -/
def reachable (types : List (String × TypeEntry)) (roots : List Json) :
    Except Problem (List String) :=
  let bound := idBound (roots ++ types.flatMap fun t => memberTypes types t.1)
  roots.foldlM (visit types (bound + 1)) []

/-- The variable that an item describes, whose type is one of the listed identifiers. -/
def resolve? (ids : List String) (item : Item) : Option (Variable (Fin ids.length)) := do
  let type ← ids.finIdxOf? (← item.type.text?)
  some (item.map fun _ => type)

/-- The node of an identifier: its parts, and what the table records for it.  An identifier that the
table does not list is its own label. -/
def nodeOf (types : List (String × TypeEntry)) (ids : List String) (id : String) :
    TypeNode (Fin ids.length) :=
  let parts := match TypeId.Parts.ofId id with
    | .ok parts => parts
    | .error _ => { head := id }
  let entry := Json.find? id types
  let refs (inner : List String) := inner.filterMap ids.finIdxOf?
  { id
    head := parts.head
    tail := parts.tail
    label := (entry.map (·.label)).getD (.str id)
    numberOfBytes := entry.bind (·.numberOfBytes)
    underlying := (entry.map (·.underlying)).getD .null
    args := parts.args.map refs
    rets := parts.rets.map refs
    members := (entry.bind (·.members)).map fun members => members.filterMap fun
      | .inl item => (resolve? ids item).map .inl
      | .inr name => some (.inr name) }

/-- The graph of the listed identifiers. -/
def ofIds (types : List (String × TypeEntry)) (ids : List String) : TypeGraph :=
  let nodes := (ids.map (nodeOf types ids)).toArray
  have size : ids.length = nodes.size := by simp [nodes]
  { size := ids.length, node := fun i => nodes[i.cast size] }

@[simp] theorem size_ofIds (types : List (String × TypeEntry)) (ids : List String) :
    (ofIds types ids).size = ids.length := rfl

theorem node_ofIds (types : List (String × TypeEntry)) (ids : List String)
    (i : Fin ids.length) : (ofIds types ids).node i = nodeOf types ids ids[i] := by
  simp [ofIds]

end TypeGraph

/-- Some variables, and the graph of the types that they use. -/
structure DetailedLayout where
  graph : TypeGraph
  vars : List (Variable graph.Ref)

namespace Layout

/-- The given items as variables, with the types of the layout. -/
def detailItems (l : Layout) (items : List Item) : Except TypeGraph.Problem DetailedLayout := do
  let ids ← TypeGraph.reachable l.types (items.map (·.type))
  .ok ⟨TypeGraph.ofIds l.types ids, items.filterMap (TypeGraph.resolve? ids)⟩

/-- The variables of a layout, with its types. -/
def detail (l : Layout) : Except TypeGraph.Problem DetailedLayout := l.detailItems l.storage

end Layout

end StorageUpgrade
