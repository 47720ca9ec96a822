import StorageUpgrade.Layout.Basic
import StorageUpgrade.Proofs.Json.Reading

/-!
# A layout is read as it was written

Writing leaves absent attributes out, and reading takes an attribute that is not there as absent, so
a layout that is written and read is what it was, with everything in its order
(`Layout.ofJson_toJson`).  A document may give slots, sizes and offsets in other forms than the ones
in which they are written.  Reading brings them into that form, so a document that is read, written
and read again gives the layout that it gave at first (`Layout.roundTrip`).

Members of structs have no contract that declares them; `Layout.PlainMembers` says so.
-/

namespace StorageUpgrade

/-! ### Entries that may be absent -/

namespace Json

/-- An entry that is written if a value is there is found if it is. -/
theorem find?_toList_map {α β : Type} (key k : String) (f : α → β) (a? : Option α) :
    find? key (a?.map fun a => (k, f a)).toList = if k = key then a?.map f else none := by
  cases a? with
  | none => simp
  | some a => simp [find?_cons]

theorem find?_entry (key k : String) (v : Json) :
    find? key (Item.entry k v) = if k = key then v.given? else none := by
  cases v <;> simp [Item.entry, isNull, given?, find?_cons]

theorem getD_given? (v : Json) : v.given?.getD .null = v := by
  cases v <;> rfl

/-- What is written for a value that is there is no `null`, so it is taken as given. -/
theorem given?_getD_map {α : Type} {f : α → Json} (h : ∀ a, (f a).isNull = false)
    (a? : Option α) : ((a?.map f).getD .null).given? = a?.map f := by
  cases a? with
  | none => rfl
  | some a =>
      have ha := h a
      rw [Option.map_some, Option.getD_some]
      cases hfa : f a with
      | null =>
          rw [hfa] at ha
          cases ha
      | _ => rfl

theorem displayed?_getD_map_str (s? : Option String) :
    ((s?.map Json.str).getD .null).displayed? = s? := by
  rw [displayed?, given?_getD_map fun _ => rfl]
  cases s? <;> rfl

end Json

theorem mapM_map_eq_ok {ε α β : Type} {read : β → Except ε α} {write : α → β} {xs : List α}
    (h : ∀ x ∈ xs, read (write x) = .ok x) : (xs.map write).mapM read = .ok xs := by
  induction xs with
  | nil => rfl
  | cons x xs ih =>
      rw [List.map_cons, List.mapM_cons, h x List.mem_cons_self,
        ih fun y hy => h y (List.mem_cons_of_mem x hy)]
      rfl

/-! ### Variables and members -/

namespace Item

theorem ofJsonMember_toJson (x : Item) :
    ofJsonMember x.toJson = .ok { x with contract := .null } := by
  obtain ⟨label, type, src, slot, offset, retypedFrom, renamedFrom, contract⟩ := x
  have hoffset := Json.given?_getD_map (f := Json.int) (fun _ => rfl) offset
  simp only [ofJsonMember, toJson, entries, Json.get, Json.lookup, Json.find?_append,
    Json.find?_entry, Json.find?_cons, Json.find?_nil, Json.find?_toList_map]
  simp [bind, Except.bind, Json.getD_given?, Json.displayed?_getD_map_str, hoffset]
  cases offset <;> rfl

theorem ofJson_toJson (x : Item) : ofJson x.toJson = .ok x := by
  have hcontract : x.toJson.lookup "contract" = .ok x.contract := by
    simp only [toJson, entries, Json.lookup, Json.find?_append, Json.find?_entry,
      Json.find?_cons, Json.find?_nil, Json.find?_toList_map]
    simp [Json.getD_given?]
  rw [ofJson, hcontract]
  simp [bind, Except.bind, ofJsonMember_toJson]

theorem contract_of_ofJsonMember {d : Json} {x : Item} (h : ofJsonMember d = .ok x) :
    x.contract = .null := by
  obtain ⟨label, -, h⟩ := exists_of_bind_ok h
  obtain ⟨type, -, h⟩ := exists_of_bind_ok h
  obtain ⟨src, -, h⟩ := exists_of_bind_ok h
  obtain ⟨slot, -, h⟩ := exists_of_bind_ok h
  obtain ⟨offset?, -, h⟩ := exists_of_bind_ok h
  have hrest (offset : Option Int) (h : (do
      let retypedFrom ← d.lookup "retypedFrom"
      let renamedFrom ← d.lookup "renamedFrom"
      .ok { label, type, src, slot := slot.displayed?, offset, retypedFrom, renamedFrom }) =
        Except.ok x) : x.contract = .null := by
    obtain ⟨retypedFrom, -, h⟩ := exists_of_bind_ok h
    obtain ⟨renamedFrom, -, h⟩ := exists_of_bind_ok h
    cases h
    rfl
  dsimp only at h
  split at h <;>
    obtain ⟨offset, -, h⟩ := exists_of_bind_ok h <;>
    exact hrest offset h

end Item

/-! ### Types -/

namespace TypeEntry

/-- The members of a struct have no contract that declares them. -/
def PlainMembers (t : TypeEntry) : Prop :=
  ∀ members ∈ t.members, ∀ m ∈ members, ∀ x ∈ m.getLeft?, x.contract = .null

instance : DecidablePred PlainMembers := fun t => by
  unfold PlainMembers
  infer_instance

theorem memberOfJson_toJson {m : Item ⊕ String} (h : ∀ x ∈ m.getLeft?, x.contract = .null) :
    memberOfJson (memberToJson m) = .ok m := by
  cases m with
  | inl x =>
      have hplain : ({ x with contract := .null } : Item) = x := by
        rw [← h x rfl]
      calc memberOfJson x.toJson
          = (Item.ofJsonMember x.toJson).map .inl := rfl
        _ = .ok (.inl x) := by
            rw [Item.ofJsonMember_toJson, hplain]
            rfl
  | inr name => rfl

theorem ofJson_toJson {t : TypeEntry} (h : t.PlainMembers) : ofJson t.toJson = .ok t := by
  obtain ⟨label, members, numberOfBytes, underlying⟩ := t
  have hgiven := Json.given?_getD_map (f := fun ms => Json.arr (ms.map memberToJson))
    (fun _ => rfl) members
  simp only [ofJson, toJson, Json.get, Json.lookup, Json.find?_append, Json.find?_entry,
    Json.find?_cons, Json.find?_nil, Json.find?_toList_map]
  simp [bind, Except.bind, hgiven, Json.getD_given?, Json.displayed?_getD_map_str]
  cases members with
  | none => rfl
  | some members =>
      have hmembers : (members.map memberToJson).mapM memberOfJson = .ok members :=
        mapM_map_eq_ok fun m hm => memberOfJson_toJson (h members rfl m hm)
      simp [Json.elements, Except.map, hmembers]

theorem contract_of_memberOfJson {d : Json} {m : Item ⊕ String} {x : Item}
    (h : memberOfJson d = .ok m) (hx : x ∈ m.getLeft?) : x.contract = .null := by
  unfold memberOfJson at h
  split at h
  · cases h
    cases hx
  · cases h
    cases hx
  · obtain ⟨y, hy, rfl⟩ := exists_of_map_ok h
    obtain rfl := Option.some.inj hx
    exact Item.contract_of_ofJsonMember hy

/-- What is read has plain members. -/
theorem plainMembers_of_ofJson {d : Json} {t : TypeEntry} (h : ofJson d = .ok t) :
    t.PlainMembers := by
  obtain ⟨members?, -, h⟩ := exists_of_bind_ok h
  obtain ⟨label, -, h⟩ := exists_of_bind_ok h
  dsimp only at h
  split at h
  · obtain ⟨members, hmembers, h⟩ := exists_of_bind_ok h
    obtain ⟨numberOfBytes, -, h⟩ := exists_of_bind_ok h
    obtain ⟨underlying, -, h⟩ := exists_of_bind_ok h
    cases h
    cases hmembers
    exact fun _ hread => absurd hread (Option.not_mem_none _)
  · obtain ⟨items, -, h⟩ := exists_of_bind_ok h
    obtain ⟨members, hmembers, h⟩ := exists_of_bind_ok h
    obtain ⟨numberOfBytes, -, h⟩ := exists_of_bind_ok h
    obtain ⟨underlying, -, h⟩ := exists_of_bind_ok h
    cases h
    obtain ⟨read, hread, rfl⟩ := exists_of_map_ok hmembers
    intro read' hread' m hm x hx
    obtain rfl : read = read' := Option.some.inj hread'
    obtain ⟨item, -, hitem⟩ := exists_left_of_mem (forall₂_of_mapM_ok hread) hm
    exact contract_of_memberOfJson hitem hx

end TypeEntry

/-! ### Layouts -/

namespace Layout

/-- The members of all structs of a layout have no contract that declares them. -/
def PlainMembers (l : Layout) : Prop := ∀ entry ∈ l.types, entry.2.PlainMembers

instance : DecidablePred PlainMembers := fun l => by
  unfold PlainMembers
  infer_instance

theorem itemsOfJson_toJson (items : List Item) :
    itemsOfJson (.arr (items.map Item.toJson)) = .ok items :=
  mapM_map_eq_ok fun x _ => Item.ofJson_toJson x

theorem typesOfJson_toJson {types : List (String × TypeEntry)}
    (h : ∀ entry ∈ types, entry.2.PlainMembers) :
    (types.map fun (id, t) => (id, t.toJson)).mapM
      (fun (id, t) => (TypeEntry.ofJson t).map (id, ·)) = .ok types :=
  mapM_map_eq_ok fun entry hentry => by
    dsimp only
    rw [TypeEntry.ofJson_toJson (h entry hentry)]
    rfl

theorem namespacesOfJson_toJson (namespaces : List (String × List Item)) :
    (namespaces.map fun (name, items) => (name, Json.arr (items.map Item.toJson))).mapM
      (fun (name, items) => (itemsOfJson items).map (name, ·)) = .ok namespaces :=
  mapM_map_eq_ok fun entry _ => by
    dsimp only
    rw [itemsOfJson_toJson]
    rfl

/-- A layout that is written is read as it was. -/
theorem ofJson_toJson {l : Layout} (h : l.PlainMembers) : ofJson l.toJson = .ok l := by
  obtain ⟨storage, types, version, flat, namespaces⟩ := l
  have htypes := typesOfJson_toJson h
  have hgiven := Json.given?_getD_map
    (f := fun ns => Json.obj (ns.map fun (name, items) => (name, .arr (items.map Item.toJson))))
    (fun _ => rfl) namespaces
  simp only [ofJson, toJson, Json.lookup, Json.find?_append, Json.find?_entry, Json.find?_cons,
    Json.find?_nil, Json.find?_toList_map]
  simp only [bind, Except.bind, String.reduceEq, reduceIte, Option.none_or, Option.or_none,
    Option.getD_some, Json.entries, itemsOfJson_toJson, htypes, Json.getD_given?, hgiven]
  cases namespaces with
  | none => rfl
  | some namespaces => simp only [Option.map_some, namespacesOfJson_toJson]

theorem plainMembers_of_ofJson {d : Json} {l : Layout} (h : ofJson d = .ok l) :
    l.PlainMembers := by
  obtain ⟨namespaces?, -, h⟩ := exists_of_bind_ok h
  obtain ⟨storage?, -, h⟩ := exists_of_bind_ok h
  obtain ⟨storage, -, h⟩ := exists_of_bind_ok h
  obtain ⟨types?, -, h⟩ := exists_of_bind_ok h
  obtain ⟨entries, -, h⟩ := exists_of_bind_ok h
  obtain ⟨types, htypes, h⟩ := exists_of_bind_ok h
  obtain ⟨version, -, h⟩ := exists_of_bind_ok h
  obtain ⟨flat, -, h⟩ := exists_of_bind_ok h
  have hplain : ∀ entry ∈ types, entry.2.PlainMembers := by
    intro entry hentry
    obtain ⟨read, -, hread⟩ := exists_left_of_mem (forall₂_of_mapM_ok htypes) hentry
    obtain ⟨t, ht, rfl⟩ := exists_of_map_ok hread
    exact TypeEntry.plainMembers_of_ofJson ht
  dsimp only at h
  split at h
  · obtain ⟨namespaces, -, h⟩ := exists_of_bind_ok h
    cases h
    exact hplain
  · obtain ⟨entries, -, h⟩ := exists_of_bind_ok h
    obtain ⟨read, -, h⟩ := exists_of_bind_ok h
    obtain ⟨namespaces, -, h⟩ := exists_of_bind_ok h
    cases h
    exact hplain

/-- Every layout is read as it was written, and what is read from a document stays the same when it
is written and read again. -/
theorem roundTrip :
    (∀ l : Layout, l.PlainMembers → ofJson l.toJson = .ok l) ∧
      ∀ (d : Json) (l : Layout), ofJson d = .ok l → ofJson l.toJson = .ok l :=
  ⟨fun _ h => ofJson_toJson h, fun _ _ h => ofJson_toJson (plainMembers_of_ofJson h)⟩

/-- A layout with members of all kinds, absent ones among them, and namespaces. -/
def mixedLayout : Layout where
  storage := [
    { label := .str "owner", type := .str "t_address", slot := some "0", offset := some 0
      contract := .str "Box", src := .str "Box.sol:4" },
    { label := .str "kind", type := .str "t_enum(Kind)3", renamedFrom := .str "color" }]
  types := [
    ("t_enum(Kind)3", { label := .str "enum Kind", members := some [.inr "Red", .inr "Green"] }),
    ("t_struct(Pair)5_storage",
      { label := .str "struct Pair", numberOfBytes := some "64"
        members := some [.inl { label := .str "a", type := .str "t_uint256", slot := some "0" },
          .inl { label := .str "b", type := .str "t_enum(Kind)3", offset := some 1 }] }),
    ("t_enum(Empty)7", { label := .str "enum Empty", members := some [] }),
    ("t_userDefinedValueType(Id)9", { label := .str "Id", underlying := .str "t_uint8" })]
  version := .null
  namespaces := some [("erc7201:b", []), ("erc7201:a", [
    { label := .str "x", type := .str "t_uint256", retypedFrom := .str "int256" }])]

/-- A document that gives a slot, an offset and a size as numbers or texts of numbers. -/
def numberDocument : Json :=
  .obj [("storage", .arr [.obj [("type", .str "t_uint8"), ("slot", .int 2), ("offset", .str " 7 "),
      ("label", .str "x")]]),
    ("types", .obj [("t_uint8", .obj [("numberOfBytes", .int 1), ("label", .str "uint8")])])]

theorem roundTrip_mixedLayout_numberDocument :
    (mixedLayout.PlainMembers ∧ ofJson mixedLayout.toJson = .ok mixedLayout) ∧
      ∃ l, ofJson numberDocument = .ok l ∧ ofJson l.toJson = .ok l ∧
        l.storage.map (fun x => (x.slot, x.offset)) = [(some "2", some 7)] := by
  have hplain : mixedLayout.PlainMembers := by decide
  have hread : ofJson numberDocument = .ok
      { storage := [
          { label := .str "x", type := .str "t_uint8", slot := some "2", offset := some 7 }]
        types := [("t_uint8", { label := .str "uint8", numberOfBytes := some "1" })]
        version := .null } := by rfl
  exact ⟨⟨hplain, roundTrip.1 _ hplain⟩, _, hread, roundTrip.2 _ _ hread, rfl⟩

end Layout

end StorageUpgrade
