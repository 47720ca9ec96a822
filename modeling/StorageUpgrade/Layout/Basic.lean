import StorageUpgrade.Json.Display

/-!
# Storage layouts

A storage layout lists the variables of a contract in the order in which they are stored, and the
types that they use.  It is read from a document that leaves most attributes unchecked: these are
kept as the values that were read, and `null` stands for an absent one.  Slots and sizes are texts
and offsets are whole numbers, whatever they were written as.

`Layout.ofJson` reads a layout and `Layout.toJson` writes it.
-/

namespace StorageUpgrade

/-- A variable, or a member of a struct; `τ` is what its type is. -/
structure Variable (τ : Type) where
  label : Json
  type : τ
  src : Json := .null
  slot : Option String := none
  offset : Option Int := none
  retypedFrom : Json := .null
  renamedFrom : Json := .null
  contract : Json := .null
deriving DecidableEq, Repr

/-- A variable, or a member of a struct, as a layout lists it: its type is an identifier. -/
abbrev Item := Variable Json

/-- The same variable with another description of its type. -/
def Variable.map (f : α → β) (v : Variable α) : Variable β :=
  { v with type := f v.type }

@[simp] theorem Variable.label_map (f : α → β) (v : Variable α) : (v.map f).label = v.label := rfl

@[simp] theorem Variable.type_map (f : α → β) (v : Variable α) : (v.map f).type = f v.type := rfl

/-- What a layout records of a type.  The members of a struct are items and those of an enum are
names; they are missing when the definition of the type is unknown. -/
structure TypeEntry where
  label : Json
  members : Option (List (Item ⊕ String)) := none
  numberOfBytes : Option String := none
  underlying : Json := .null
deriving DecidableEq, Repr

/-- The version of the layouts that this library makes. -/
def currentVersion : Json := .str "1.2"

/-- The variables of a contract, the types that they use, and the variables of its namespaces. -/
structure Layout where
  storage : List Item := []
  types : List (String × TypeEntry) := []
  version : Json := currentVersion
  flat : Json := .bool false
  namespaces : Option (List (String × List Item)) := none
deriving DecidableEq, Repr

namespace Item

/-- Reads a member of a struct. -/
def ofJsonMember (d : Json) : Except Json.Misuse Item := do
  let label ← d.get "label"
  let type ← d.get "type"
  let src ← d.lookup "src"
  let slot ← d.lookup "slot"
  let offset ← match (← d.lookup "offset").given? with
    | none => .ok none
    | some offset => offset.toInt.map some
  let retypedFrom ← d.lookup "retypedFrom"
  let renamedFrom ← d.lookup "renamedFrom"
  .ok { label, type, src, slot := slot.displayed?, offset, retypedFrom, renamedFrom }

/-- Reads a variable, which may name the contract that declares it. -/
def ofJson (d : Json) : Except Json.Misuse Item := do
  let contract ← d.lookup "contract"
  let item ← ofJsonMember d
  .ok { item with contract }

/-- An entry for an attribute that is there. -/
def entry (key : String) (v : Json) : List (String × Json) :=
  if v.isNull then [] else [(key, v)]

/-- The entries of an item in their order. -/
def entries (x : Item) : List (String × Json) :=
  entry "contract" x.contract ++ [("label", x.label), ("type", x.type)] ++ entry "src" x.src ++
    (x.slot.map fun s => ("slot", Json.str s)).toList ++
    (x.offset.map fun n => ("offset", Json.int n)).toList ++
    entry "retypedFrom" x.retypedFrom ++ entry "renamedFrom" x.renamedFrom

/-- Writes an item. -/
def toJson (x : Item) : Json := .obj x.entries

end Item

namespace TypeEntry

/-- Reads a member: a text is the name of an enum member. -/
def memberOfJson : Json → Except Json.Misuse (Item ⊕ String)
  | .str name => .ok (.inr name)
  | .rawText points => .ok (.inr (Json.rawText points).display)
  | d => (Item.ofJsonMember d).map .inl

/-- Reads what a layout records of a type. -/
def ofJson (d : Json) : Except Json.Misuse TypeEntry := do
  let members ← d.lookup "members"
  let label ← d.get "label"
  let members ← match members.given? with
    | none => .ok none
    | some members => ((← members.elements).mapM memberOfJson).map some
  let numberOfBytes ← d.lookup "numberOfBytes"
  let underlying ← d.lookup "underlying"
  .ok { label, members, numberOfBytes := numberOfBytes.displayed?, underlying }

/-- Writes a member. -/
def memberToJson : Item ⊕ String → Json
  | .inl item => item.toJson
  | .inr name => .str name

/-- Writes what a layout records of a type. -/
def toJson (t : TypeEntry) : Json :=
  .obj ([("label", t.label)] ++
    (t.members.map fun ms => ("members", Json.arr (ms.map memberToJson))).toList ++
    (t.numberOfBytes.map fun n => ("numberOfBytes", Json.str n)).toList ++
    Item.entry "underlying" t.underlying)

end TypeEntry

namespace Layout

/-- Reads the items of a list. -/
def itemsOfJson (d : Json) : Except Json.Misuse (List Item) := do
  (← d.elements).mapM Item.ofJson

/-- Reads a layout. -/
def ofJson (d : Json) : Except Json.Misuse Layout := do
  let namespaces ← d.lookup "namespaces"
  let storage ← itemsOfJson (← d.lookup "storage" (.arr []))
  let types ← (← (← d.lookup "types" (.obj [])).entries).mapM fun (id, t) =>
    (TypeEntry.ofJson t).map (id, ·)
  let version ← d.lookup "layoutVersion"
  let flat ← d.lookup "flat" (.bool false)
  let namespaces ← match namespaces.given? with
    | none => .ok none
    | some namespaces => do
      let read ← (← namespaces.entries).mapM fun (name, items) => (itemsOfJson items).map (name, ·)
      .ok (some read)
  .ok { storage, types, version, flat, namespaces }

/-- Writes a layout. -/
def toJson (l : Layout) : Json :=
  .obj ([("storage", .arr (l.storage.map Item.toJson)),
    ("types", .obj (l.types.map fun (id, t) => (id, t.toJson)))] ++
    Item.entry "layoutVersion" l.version ++ [("flat", l.flat)] ++
    (l.namespaces.map fun ns => ("namespaces",
      Json.obj (ns.map fun (name, items) => (name, .arr (items.map Item.toJson))))).toList)

/-- Whether a layout has the version that this library makes. -/
def isCurrent (l : Layout) : Bool := l.version.alike currentVersion

end Layout

end StorageUpgrade
