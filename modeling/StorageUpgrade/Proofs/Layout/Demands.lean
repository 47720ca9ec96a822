import StorageUpgrade.Layout.Basic
import StorageUpgrade.Proofs.Json.Demands

/-!
# What a document must have to be a layout

Reading a layout asks for a few things, one after the other: that some values are objects, that the
objects of variables, members and types have their entries, that lists can be gone through, and
that offsets stand for whole numbers.  `Layout.demands` lists them in their order.  A document is a
layout if and only if it meets all of them, and otherwise the first demand that is not met is the
error (`Layout.asks_ofJson`).
-/

namespace StorageUpgrade

/-- What a document is asked for while a layout is read from it. -/
inductive Demand where
  /-- A value is an object, whose entries are looked up or gone through. -/
  | object (v : Json)
  /-- A value has an entry of that key. -/
  | entry (v : Json) (key : String)
  /-- A value has elements. -/
  | elements (v : Json)
  /-- A value stands for a whole number. -/
  | number (v : Json)
deriving DecidableEq

/-- What is wrong when a demand is not met. -/
def Demand.problem? : Demand → Option Json.Misuse
  | object v => errorOf v.entries
  | entry v key => errorOf (v.get key)
  | elements v => errorOf v.elements
  | number v => errorOf v.toInt

/-- The elements of a value, none where there are none. -/
def Json.elementsOf (v : Json) : List Json := v.elements.toOption.getD []

/-- The entry of a key of an object, a fallback if there is none. -/
def Json.fieldOr (v : Json) (key : String) (fallback : Json) : Json :=
  (Json.find? key v.fields).getD fallback

/-- A reading asks for these things one after the other. -/
abbrev Asks {α : Type} (x : Except Json.Misuse α) (demands : List Demand) : Prop :=
  FailsAtFirst Demand.problem? x demands

variable {d v : Json}

theorem asks_get (v : Json) (key : String) : Asks (v.get key) [.entry v key] := .single rfl

theorem asks_elements (v : Json) : Asks v.elements [.elements v] := .single rfl

theorem asks_toInt (v : Json) : Asks v.toInt [.number v] := .single rfl

theorem asks_entries (v : Json) : Asks v.entries [.object v] := .single rfl

theorem asks_lookup (v : Json) (key : String) (fallback : Json := .null) :
    Asks (v.lookup key fallback) [.object v] := .single (by cases v <;> rfl)

theorem Json.elementsOf_eq {xs : List Json} (h : v.elements = .ok xs) : v.elementsOf = xs := by
  rw [elementsOf, h]
  rfl

/-- What can be asked for one key can be asked for any key. -/
theorem Json.lookup_of_lookup {x : Json} {k : String} (h : v.lookup k = .ok x) (key : String)
    (fallback : Json) : v.lookup key fallback = .ok (v.fieldOr key fallback) := by
  cases v with
  | obj es => rfl
  | _ => cases h

/-! ### Variables and members -/

namespace Item

/-- What a member of a struct is asked for. -/
def memberDemands (d : Json) : List Demand :=
  [.entry d "label", .entry d "type"] ++ ((d.field "offset").given?.map .number).toList

/-- What a variable is asked for. -/
def demands (d : Json) : List Demand := .object d :: memberDemands d

theorem asks_ofJsonMember (d : Json) : Asks (ofJsonMember d) (memberDemands d) := by
  refine (asks_get d "label").bind fun label hlabel => (asks_get d "type").bind fun type _ => ?_
  -- There is a label, so this is an object, and looking for further entries asks for nothing.
  have hlookup (key : String) : d.lookup key = .ok (d.field key) :=
    Json.lookup_eq (by rw [hlabel]; rfl) key
  simp only [hlookup, ok_bind]
  cases (d.field "offset").given? with
  | none => exact .pure _
  | some offset => exact ((asks_toInt offset).map some).bind_ok fun _ => ⟨_, rfl⟩

theorem asks_ofJson (d : Json) : Asks (ofJson d) (demands d) :=
  (asks_lookup d "contract").bind fun _ _ => (asks_ofJsonMember d).bind_ok fun _ => ⟨_, rfl⟩

end Item

/-! ### Types -/

namespace TypeEntry

/-- What a member of a struct or an enum is asked for: nothing if it is a name. -/
def memberDemands : Json → List Demand
  | .str _ | .rawText _ => []
  | d => Item.memberDemands d

/-- What an entry for a type is asked for. -/
def demands (d : Json) : List Demand :=
  [.object d, .entry d "label"] ++ (d.field "members").given?.toList.flatMap fun members =>
    .elements members :: members.elementsOf.flatMap memberDemands

theorem asks_memberOfJson (d : Json) : Asks (memberOfJson d) (memberDemands d) := by
  have hmember : Asks ((Item.ofJsonMember d).map Sum.inl) (Item.memberDemands d) :=
    (Item.asks_ofJsonMember d).map (Sum.inl : Item → Item ⊕ String)
  cases d with
  | str | rawText => exact .pure _
  | _ => exact hmember

theorem asks_ofJson (d : Json) : Asks (ofJson d) (demands d) := by
  refine (asks_lookup d "members").bind fun members hmembers => (asks_get d "label").bind
    fun label hlabel => ?_
  have hlookup (key : String) : d.lookup key = .ok (d.field key) :=
    Json.lookup_eq (by rw [hlabel]; rfl) key
  obtain rfl := Json.field_of_lookup_null hmembers
  simp only [hlookup, ok_bind]
  cases (d.field "members").given? with
  | none => exact .pure _
  | some members =>
      rw [Option.toList_some, List.flatMap_singleton]
      refine (asks_elements members).bind fun items hitems => ?_
      rw [Json.elementsOf_eq hitems]
      exact ((FailsAtFirst.mapM fun m _ => asks_memberOfJson m).map some).bind_ok
        fun _ => ⟨_, rfl⟩

end TypeEntry

/-! ### Layouts -/

namespace Layout

/-- What the variables of a contract or of a namespace are asked for. -/
def itemsDemands (d : Json) : List Demand := .elements d :: d.elementsOf.flatMap Item.demands

/-- What a document is asked for when a layout is read from it. -/
def demands (d : Json) : List Demand :=
  let types := d.fieldOr "types" (.obj [])
  [.object d] ++ itemsDemands (d.fieldOr "storage" (.arr [])) ++
    (.object types :: types.fields.flatMap fun entry => TypeEntry.demands entry.2) ++
    (d.field "namespaces").given?.toList.flatMap fun namespaces =>
      .object namespaces :: namespaces.fields.flatMap fun entry => itemsDemands entry.2

theorem asks_itemsOfJson (d : Json) : Asks (itemsOfJson d) (itemsDemands d) := by
  refine (asks_elements d).bind fun items hitems => ?_
  rw [Json.elementsOf_eq hitems]
  exact .mapM fun item _ => Item.asks_ofJson item

theorem asks_ofJson (d : Json) : Asks (ofJson d) (demands d) := by
  unfold demands
  dsimp only
  rw [List.append_assoc, List.append_assoc]
  -- The namespaces are looked up first: only this look-up finds out whether there is an object.
  refine (asks_lookup d "namespaces").bind fun namespaces hnamespaces => ?_
  obtain rfl := Json.field_of_lookup_null hnamespaces
  have hlookup (key : String) (fallback : Json) :
      d.lookup key fallback = .ok (d.fieldOr key fallback) :=
    Json.lookup_of_lookup hnamespaces key fallback
  simp only [hlookup, ok_bind]
  refine (asks_itemsOfJson _).bind fun storage _ => ?_
  -- The types are gone through as entries, so they must be an object even when there are none.
  rw [← List.singleton_append, List.append_assoc]
  refine (asks_entries _).bind fun types htypes => ?_
  rw [Json.fields_of_entries htypes]
  refine (FailsAtFirst.mapM fun entry _ => (TypeEntry.asks_ofJson entry.2).map _).bind
    fun types _ => ?_
  cases (d.field "namespaces").given? with
  | none => exact .pure _
  | some namespaces =>
      rw [Option.toList_some, List.flatMap_singleton]
      refine (asks_entries namespaces).bind fun entries hentries => ?_
      rw [Json.fields_of_entries hentries]
      exact (FailsAtFirst.mapM fun entry _ => (asks_itemsOfJson entry.2).map _).bind_ok
        fun _ => ⟨_, rfl⟩

end Layout

end StorageUpgrade
