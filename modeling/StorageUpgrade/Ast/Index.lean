import StorageUpgrade.Ast.Kind
import StorageUpgrade.Log

/-!
# Looking up nodes

Nodes refer to each other by number, across all the sources of a compilation.  The numbers are
collected when the first one is looked up, which is noted in the log once for each compilation.
-/

namespace StorageUpgrade

/-- The numbered nodes of a compilation, the latest first, and what is noted when they are
collected. -/
structure SyntaxIndex where
  /-- Tells the compilations of a run apart. -/
  number : Nat
  nodes : Except Json.Misuse (List (Int × Json))
  notes : List Log.Record
  /-- The number of all nodes, with or without a number. -/
  size : Nat

/-- What a run over syntax trees leaves behind: the records of its log, the compilations whose nodes
have been collected, and the types that have been found. -/
structure SyntaxState where
  log : List Log.Record := []
  opened : List Nat := []
  types : List (String × TypeEntry) := []

/-- A run over syntax trees; its state survives an error. -/
abbrev SyntaxM := ExceptT Error (StateM SyntaxState)

namespace SyntaxM

/-- Adds a record to the log. -/
def say (topic : String) (message : String) : SyntaxM Unit :=
  modify fun s => { s with log := s.log ++ [⟨topic, Log.debug, message⟩] }

/-- A question to a document. -/
def ask (x : Except Json.Misuse α) : SyntaxM α := (Json.Misuse.lift x : Except Error α)

end SyntaxM

namespace SyntaxIndex

/-- The number of a node. -/
def numberOf? (node : Json) : Option Int :=
  match node with
  | .obj es => match Json.find? "id" es with
    | some (.int n) => some n
    | some (.bool b) => some (if b then 1 else 0)
    | _ => none
  | _ => none

/-- Collects the nodes of some sources: the numbered ones behind those of earlier sources, the
latest first, with what is noted and the number of all nodes. -/
def collect (known : List (Int × Json)) (notes : List Log.Record) (size : Nat) :
    List (String × Json) → Except Json.Misuse (List (Int × Json)) × List Log.Record × Nat
  | [] => (.ok known, notes, size)
  | (source, data) :: sources =>
    match data.contains "ast" with
    | .error e => (.error e, notes, size)
    | .ok false =>
      collect known
        (notes ++ [⟨"ast", Log.warning, "Source " ++ source ++ " does not contain an AST"⟩])
        size sources
    | .ok true =>
      match data.get "ast" with
      | .error e => (.error e, notes, size)
      | .ok tree =>
        let found := Ast.nodes (fun _ => false) tree
        let numbered := found.filterMap fun node => (numberOf? node).map (·, node)
        collect (numbered.reverse ++ known) notes (size + found.length) sources

/-- The number of different numbers in increasing order. -/
def countDistinct : List Int → Nat
  | [] => 0
  | [_] => 1
  | m :: n :: ns => countDistinct (n :: ns) + if m = n then 0 else 1

/-- The index of the output of a compiler. -/
def ofOutput (number : Nat) (output : Json) : SyntaxIndex :=
  match output.lookup "sources" (.obj []) >>= Json.entries with
  | .error e => ⟨number, .error e, [], 0⟩
  | .ok sources =>
    match collect [] [] 0 sources with
    | (.error e, notes, size) => ⟨number, .error e, notes, size⟩
    | (.ok nodes, notes, size) =>
      let count := countDistinct ((nodes.map (·.1)).mergeSort fun a b => decide (a ≤ b))
      ⟨number, .ok nodes,
        notes ++ [⟨"ast", Log.debug, "Collected " ++ toString count ++ " AST nodes"⟩], size⟩

/-- The numbered nodes; collecting them is noted. -/
def collected (index : SyntaxIndex) : SyntaxM (List (Int × Json)) := do
  if !(← get).opened.contains index.number then
    modify fun s => { s with log := s.log ++ index.notes }
  let nodes ← SyntaxM.ask index.nodes
  modify fun s => { s with opened := index.number :: s.opened }
  return nodes

/-- The latest node whose number a value is. -/
def find? (nodes : List (Int × Json)) (id : Json) : Option Json :=
  (nodes.find? fun (n, _) => (Json.int n).same id).map (·.2)

/-- The node with a number, which must be of one of the given kinds. -/
def deref (index : SyntaxIndex) (kinds : List String) (id : Json) : SyntaxM Json := do
  let nodes ← index.collected
  if !id.isKey then throw (.misuse .wrongKind)
  match find? nodes id with
  | none => throw (.fault (.noNode id))
  | some node =>
    let kind ← SyntaxM.ask (node.get "nodeType")
    if !kind.isKey then throw (.misuse .wrongKind)
    if Ast.isOfKind kinds node then return node
    else
      let expected := kinds.eraseDups.mergeSort fun a b => decide (a ≤ b)
      throw (.fault (.otherNode id expected kind))

end SyntaxIndex

end StorageUpgrade
