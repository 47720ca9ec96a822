import StorageUpgrade.Proofs.Extract.VariableTypes

/-!
# The members of a namespace

A struct that defines a namespace is looked up among the plain contracts for the places of its members,
and in the layout of the compiler for their positions.  Where references resolve, nothing can go wrong
with this but what is wrong with the namespaces themselves (`positionOf_eq`), and each member has a type
with an entry and loads its type name (`loads_namespaceItems`).
-/

namespace StorageUpgrade.Extract

open SyntaxM Namespace

variable {decode : SourceDecoder} {known : KnownTypes} {index : SyntaxIndex}

/-! ### Looking structs and members up -/

section Plain

variable {P : TypeTable → Prop} {plain : Json}

/-- The first struct of a name. -/
theorem findFirst_struct (hnodes : ∀ part ∈ Ast.parts "nodes" plain, Ast.isNode part = true)
    (name : Json) :
    findFirst (fun node => do
      if ← Ast.isDefinition .struct node then .ok ((← node.lookup "canonicalName").alike name)
      else .ok false) (Ast.parts "nodes" plain) =
      .ok ((Ast.parts "nodes" plain).find? fun node =>
        isStruct node && (node.field "canonicalName").alike name) := by
  refine findFirst_eq fun node hnode => ?_
  have h := hnodes node hnode
  rw [Ast.isDefinition, Ast.hasKind_eq h, Ast.lookup_eq h]
  cases hstruct : Ast.isOfKind [Ast.DefinitionKind.struct.nodeType] node <;>
    simp [isStruct, hstruct, bind, Except.bind]

/-- The first member of a name. -/
theorem findFirst_member {struct : Json}
    (hnodes : ∀ m ∈ Ast.parts "members" struct, Ast.isNode m = true) (label : Json) :
    findFirst (fun m => do .ok ((← m.lookup "name").alike label)) (Ast.parts "members" struct) =
      .ok ((Ast.parts "members" struct).find? fun m => (m.field "name").alike label) := by
  refine findFirst_eq fun m hm => ?_
  rw [Ast.lookup_eq (hnodes m hm)]
  rfl

theorem loads_plainStruct (hplain : DeclaresParts plain) (name : Json) :
    Loads known (Excused decode) P (plainStruct name plain)
      fun struct t => struct ∈ structsOf plain ∧ P t := by
  unfold plainStruct
  refine .quiet_bind (quiet_ask (partsOf_eq hplain.listed)) (.quiet_bind
    (quiet_ask (findFirst_struct (fun v hv => (hplain.nodes v hv).1) name)) ?_)
  split
  · rename_i node hfound
    have htest := List.find?_some hfound
    exact loads_pure fun t ht => ⟨List.mem_filter.2 ⟨List.mem_of_find?_eq_some hfound,
      (Bool.and_eq_true_iff.1 htest).1⟩, ht⟩
  · exact .quiet_bind (quiet_ask (Json.get_eq hplain.name)) (loads_throw (.struct _ _))

theorem loads_plainMemberSrc (hplain : DeclaresParts plain) (name label : Json) :
    Loads known (Excused decode) P (plainMemberSrc name label plain) fun _ => P := by
  unfold plainMemberSrc
  refine (loads_plainStruct hplain name).bind fun struct =>
    .of_condition (fun _ ht => ht.1) fun hstruct => ?_
  have hd := hplain.structs struct hstruct
  refine .quiet_bind (quiet_ask (partsOf_eq hd.listed)) (.quiet_bind
    (quiet_ask (findFirst_member (fun m hm => (hd.members m hm).1) label)) ?_)
  split
  · rename_i m hfound
    have hm := (hd.members m (List.mem_of_find?_eq_some hfound)).2
    refine loads_lift (x := Json.Misuse.lift (m.get "src")) (fun _ _ _ h => h.2) fun e he => ?_
    rw [Json.get_eq hm.src] at he
    cases he
  · exact loads_throw (.member _ _)

end Plain

/-! ### Positions of members -/

/-- The types of a layout can be read. -/
structure Readable (types : Json) : Prop where
  listed : types.entries.toBool = true
  types : ∀ entry ∈ types.fields, (compilerType entry.2).toBool = true

theorem readable_nil : Readable (.obj []) := ⟨rfl, nofun⟩

/-- A question that is answered. -/
theorem lift_bind {α β : Type} {x : Except Json.Misuse α} {a : α} (h : x = .ok a)
    (f : α → Except Error β) : ((liftM x : Except Error α) >>= f) = f a := by
  subst h
  rfl

theorem eq_ok_of_lift {α : Type} {x : Except Json.Misuse α} {a : α}
    (h : (liftM x : Except Error α) = .ok a) : x = .ok a := by
  cases x with
  | error e => cases h
  | ok b =>
      cases h
      rfl

/-- A member has a label and a whole number as offset. -/
def IsPlaced (m : Json) : Prop :=
  (m.get "label").toBool = true ∧ ∃ n, (m.field "offset").toInt = .ok n

theorem isPlaced_of_compilerMember {m : Json} (h : (compilerMember m).toBool = true)
    (hm : ∀ s, m ≠ .str s) : IsPlaced m := by
  obtain ⟨read, hread⟩ := Except.exists_of_toBool h
  unfold compilerMember at hread
  split at hread
  · exact absurd rfl (hm _)
  · obtain ⟨label, hlabel, hread⟩ := exists_of_bind_ok hread
    obtain ⟨type, -, hread⟩ := exists_of_bind_ok hread
    obtain ⟨slot, -, hread⟩ := exists_of_bind_ok hread
    obtain ⟨offset, hoffset, hread⟩ := exists_of_bind_ok hread
    obtain ⟨n, hn, -⟩ := exists_of_bind_ok hread
    refine ⟨by rw [hlabel]; rfl, n, ?_⟩
    rw [Json.field_of_get hoffset, hn]

/-- The first member of a label is looked up, unless a member is a text. -/
theorem memberOfLabel_eq {name label : Json} {ms : List Json}
    (hms : ∀ m ∈ ms, (compilerMember m).toBool = true) :
    memberOfLabel name label ms = .error (.fault (.enumMemberInStruct name)) ∨
      ∃ found, memberOfLabel name label ms = .ok found ∧ ∀ m ∈ found, IsPlaced m := by
  induction ms with
  | nil => exact .inr ⟨none, rfl, nofun⟩
  | cons m ms ih =>
      unfold memberOfLabel
      split
      · exact .inr ⟨none, rfl, nofun⟩
      · exact .inl rfl
      · rename_i m' ms' hstr heq
        obtain ⟨rfl, rfl⟩ := List.cons.inj heq
        have hm := isPlaced_of_compilerMember (hms m List.mem_cons_self) fun s hs => hstr s hs
        rw [lift_bind (Json.lookup_eq hm.1 _)]
        split
        · exact .inr ⟨some m, rfl, fun x hx => by cases hx; exact hm⟩
        · exact ih fun x hx => hms x (List.mem_cons_of_mem _ hx)

theorem Readable.exists_compilerType {types : Json} (h : Readable types) {t : Json}
    (ht : t ∈ types.fields.map (·.2)) : ∃ read, compilerType t = .ok read := by
  obtain ⟨entry, hentry, rfl⟩ := List.mem_map.1 ht
  exact Except.exists_of_toBool (h.types entry hentry)

/-- The first type of a label. -/
theorem Readable.findFirst_type {types : Json} (h : Readable types) (label : Json) :
    findFirst (fun t => do .ok ((← t.lookup "label").alike label)) (types.fields.map (·.2)) =
      .ok ((types.fields.map (·.2)).find? fun t => (t.field "label").alike label) := by
  refine findFirst_eq fun t ht => ?_
  obtain ⟨read, hread⟩ := h.exists_compilerType ht
  obtain ⟨members, -, hread⟩ := exists_of_bind_ok hread
  obtain ⟨label, hlabel, -⟩ := exists_of_bind_ok hread
  rw [Json.lookup_eq (by rw [hlabel]; rfl : (t.get "label").toBool = true)]
  rfl

theorem layoutMember?_eq {types : Json} (h : Readable types) (name label : Json) :
    layoutMember? types name label = .error (.fault (.enumMemberInStruct name)) ∨
      ∃ found, layoutMember? types name label = .ok found ∧ ∀ m ∈ found, IsPlaced m := by
  obtain ⟨es, hes⟩ := Except.exists_of_toBool h.listed
  have hfirst := h.findFirst_type (.str ("struct " ++ name.display))
  rw [Json.fields_of_entries hes] at hfirst
  unfold layoutMember?
  rw [lift_bind hes]
  dsimp only
  rw [lift_bind hfirst]
  split
  · exact .inr ⟨none, rfl, nofun⟩
  · rename_i t hfound
    have ht := List.mem_of_find?_eq_some hfound
    rw [← Json.fields_of_entries hes] at ht
    obtain ⟨read, hread⟩ := h.exists_compilerType ht
    obtain ⟨members, hmembers, hread⟩ := exists_of_bind_ok hread
    obtain ⟨label, -, hread⟩ := exists_of_bind_ok hread
    rw [lift_bind hmembers]
    split
    · exact .inr ⟨none, rfl, nofun⟩
    · rename_i hnull
      have hgiven : members.given? = some members := by
        cases members with
        | null => exact absurd rfl hnull
        | _ => rfl
      rw [hgiven] at hread
      obtain ⟨ms, hms, hread⟩ := exists_of_bind_ok hread
      obtain ⟨given, hread, -⟩ := exists_of_bind_ok hread
      obtain ⟨placed, hplaced, -⟩ := exists_of_map_ok hread
      rw [lift_bind hms]
      refine memberOfLabel_eq fun m hm => ?_
      obtain ⟨x, -, hx⟩ := exists_right_of_mem (forall₂_of_mapM_ok hplaced) hm
      rw [hx]
      rfl

/-- A member that was found has a position. -/
theorem exists_positionOf {types name label : Json} {found : Option Json}
    (hfound : layoutMember? types name label = .ok found) (hplaced : ∀ m ∈ found, IsPlaced m) :
    ∃ position, positionOf types name label = .ok position := by
  unfold positionOf
  rw [hfound]
  cases found with
  | none => exact ⟨_, rfl⟩
  | some m =>
      obtain ⟨hm, n, hn⟩ := hplaced m rfl
      have hbind : ∀ f : Option Json → Except Error (Option String × Option Int),
        (Except.ok (some m) >>= f) = f (some m) := fun _ => rfl
      rw [hbind]
      dsimp only
      rw [lift_bind (Json.lookup_eq hm _)]
      split
      · exact ⟨_, rfl⟩
      · rw [lift_bind (Json.lookup_eq hm _)]
        split
        · exact ⟨_, rfl⟩
        · rw [lift_bind hn]
          exact ⟨_, rfl⟩

theorem positionOf_eq {types : Json} (h : Readable types) (name label : Json) :
    positionOf types name label = .error (.fault (.enumMemberInStruct name)) ∨
      ∃ position, positionOf types name label = .ok position := by
  rcases layoutMember?_eq h name label with hfault | ⟨found, hfound, hplaced⟩
  · exact .inl (by rw [positionOf, hfault]; rfl)
  · exact .inr (exists_positionOf hfound hplaced)

/-! ### Members of a namespace -/

variable {c : CompiledContract}

/-- The types of the layout of the compiler can be read, none if there is no such layout. -/
theorem exists_readableTypes (hc : c.WellFormed) :
    ∃ types, Namespace.compilerTypes c.layout = .ok types ∧ Readable types := by
  unfold Namespace.compilerTypes
  by_cases hset : c.layout.isSet = true
  · have hl := hc.laidOut fun hnull => by rw [hnull] at hset; cases hset
    obtain ⟨read, hread⟩ := Except.exists_of_toBool hl.types
    obtain ⟨types, htypes, hread⟩ := exists_of_bind_ok hread
    rw [if_pos hset]
    dsimp only
    rw [htypes]
    by_cases htypesSet : types.isSet = true
    · refine ⟨types, by simp [bind, Except.bind, htypesSet], ?_⟩
      rw [compilerTypes, if_pos htypesSet] at hread
      obtain ⟨es, hes, hread⟩ := exists_of_bind_ok hread
      refine ⟨by rw [hes]; rfl, fun entry hentry => ?_⟩
      rw [Json.fields_of_entries hes] at hentry
      obtain ⟨y, -, hy⟩ := exists_right_of_mem (forall₂_of_mapM_ok hread) hentry
      obtain ⟨t, ht, -⟩ := exists_of_map_ok hy
      rw [ht]
      rfl
    · exact ⟨.obj [], by simp [bind, Except.bind, htypesSet], readable_nil⟩
  · exact ⟨.obj [], by rw [if_neg hset]; rfl, readable_nil⟩

/-- The compilation, for another contract. -/
def CompiledContract.compilationOf (c : CompiledContract) (b : Json) : Compilation :=
  ⟨c.index, b, c.layout⟩

theorem typeName_mem_of_member {struct m : Json} (hstruct : struct ∈ treeNodes c.output)
    (hd : DeclaresMembers struct) (hm : m ∈ Ast.parts "members" struct) :
    m.field "typeName" ∈ treeNodes c.output := by
  obtain ⟨hnode, hdeclares⟩ := hd.members m hm
  exact (CompiledContract.typeName_mem_nodes
    (CompiledContract.mem_nodes_of_mem_parts hstruct hd.listed hm hnode) hdeclares).1

section Members

variable (hs : Ast.Setting known c.index (treeNodes c.output)) {b plain struct : Json}
  (hb : (b.get "name").toBool = true) (hplain : DeclaresParts plain)
  (hstruct : struct ∈ treeNodes c.output) (hd : DeclaresMembers struct)

include hs hb hplain hstruct hd

theorem loads_namespaceItem {types m : Json} (htypes : Readable types)
    (hm : m ∈ Ast.parts "members" struct) :
    Loads known (Excused decode) (fun _ => True)
      (namespaceItem decode (c.compilationOf b) plain types struct m) fun x t =>
        HasEntry x.type t ∧ Ast.Loaded c.index (m.field "typeName") t := by
  obtain ⟨hnode, hdeclares⟩ := hd.members m hm
  have hmem := CompiledContract.mem_nodes_of_mem_parts hstruct hd.listed hm hnode
  unfold namespaceItem
  refine .quiet_bind (quiet_ask (Json.get_eq hb)) (.quiet_bind
    (quiet_ask (Json.get_eq hdeclares.name)) (.quiet_bind
      (quiet_lift (typeIdOf_eq hdeclares.described)) (.quiet_bind
        (quiet_ask (Json.get_eq hd.name)) ?_)))
  refine (loads_plainMemberSrc hplain _ _).bind fun src => (loads_decode _).bind fun place => ?_
  refine Loads.bind (Q := fun _ _ => True) (loads_lift (fun _ _ _ _ => trivial) fun e he => ?_)
    fun position => .quiet_bind (quiet_ask (Ast.lookup_eq hnode _)) ?_
  · rcases positionOf_eq htypes (struct.field "canonicalName") (m.field "name") with h | ⟨p, h⟩
    · cases h.symm.trans he
      exact .enumMember _
    · cases h.symm.trans he
  · exact (loads_typeName hs hmem hdeclares).bind fun _ =>
      loads_pure fun t ht => ⟨hdeclares.hasEntry ht, ht⟩

theorem loads_namespaceItems (hc : c.WellFormed) :
    Loads known (Excused decode) (fun _ => True)
      (namespaceItems decode (c.compilationOf b) plain struct) fun xs t =>
        (∀ x ∈ xs, HasEntry x.type t) ∧
          ∀ m ∈ Ast.parts "members" struct, Ast.Loaded c.index (m.field "typeName") t := by
  obtain ⟨types, htypes, hreadable⟩ := exists_readableTypes hc
  have hkept : ∀ (m : Json) (x : Item), Kept known fun t => HasEntry x.type t ∧
      (m ∈ Ast.parts "members" struct → Ast.Loaded c.index (m.field "typeName") t) := by
    intro m x
    refine (kept_hasEntry x.type).and fun t t' hgrows h hm => ?_
    exact hs.kept_loaded (typeName_mem_of_member hstruct hd hm) hgrows (h hm)
  unfold namespaceItems
  refine .quiet_bind (quiet_ask htypes) (.quiet_bind (quiet_ask (partsOf_eq hd.listed)) ?_)
  refine (Loads.mapM (.const True) hkept fun m hm =>
    (loads_namespaceItem hs hb hplain hstruct hd hreadable hm).mono
      fun _ t h => ⟨h.1, fun _ => h.2⟩).mono fun xs t hxs => ⟨fun x hx => ?_, ?_⟩
  · obtain ⟨m, -, hx, -⟩ := exists_left_of_mem hxs hx
    exact hx
  · intro m hm
    obtain ⟨x, -, -, hloaded⟩ := exists_right_of_mem hxs hm
    exact hloaded hm

end Members

end StorageUpgrade.Extract
