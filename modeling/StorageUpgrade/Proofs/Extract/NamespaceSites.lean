import StorageUpgrade.Proofs.Ast.Resolving
import StorageUpgrade.Proofs.Extract.NamespaceTypes

/-!
# Where namespaces are defined

The structs that declare a location, contract by contract in the order of inheritance, are the sites of
the namespaces of a contract.  In what a compiler writes, the structs of a contract have names of their
own and so have the members of a struct, so looking a struct or a member up by name leads back to it, and
the items that a site makes are known from the syntax tree alone (`answers_namespaceItems`).

Less is asked for than a whole layout needs: what the variables and functions of a contract say of
themselves does not matter, nor do the type names that no member of a namespace leads to.
-/

namespace StorageUpgrade.Extract

open SyntaxM Namespace

/-- Texts that are all different. -/
@[mk_iff]
structure DistinctTexts (xs : List Json) : Prop where
  text : ∀ x ∈ xs, x.text?.isSome
  nodup : xs.Nodup

instance (xs : List Json) : Decidable (DistinctTexts xs) := decidable_of_iff' _ (distinctTexts_iff xs)

theorem DistinctTexts.exists_str {xs : List Json} (h : DistinctTexts xs) {x : Json} (hx : x ∈ xs) :
    ∃ s, x = .str s := by
  have htext := h.text x hx
  cases x with
  | str s => exact ⟨s, rfl⟩
  | _ => cases htext

/-- The location that a struct declares. -/
def location? (struct : Json) : Option String := (Documentation.location? struct).toOption.join

/-- The place of a node in the sources, empty if it is not there. -/
def placeOf (decode : SourceDecoder) (node : Json) : String := (decode node).toOption.getD ""

/-- The position that a compiler computed for a member of a struct, if it did. -/
def positionIn (layout name label : Json) : Option String × Option Int :=
  match Namespace.compilerTypes layout with
  | .ok types => (positionOf types name label).toOption.getD (none, none)
  | .error _ => (none, none)

/-- The item that a member of a struct makes in a contract: a variable of this contract. -/
def itemOf (decode : SourceDecoder) (layout contract struct member : Json) : Item where
  contract := contract.field "name"
  label := member.field "name"
  type := .str (Ast.layoutId member)
  src := .str (placeOf decode (.obj [("src", member.field "src")]))
  slot := (positionIn layout (struct.field "canonicalName") (member.field "name")).1
  offset := (positionIn layout (struct.field "canonicalName") (member.field "name")).2

/-- A struct that declares the location of a namespace, in the contract that defines the struct. -/
structure Site where
  contract : Json
  struct : Json
  location : String

namespace Site

/-- The items that the members of the struct make, in their order. -/
def items (decode : SourceDecoder) (layout : Json) (site : Site) : List Item :=
  (Ast.parts "members" site.struct).map (itemOf decode layout site.contract site.struct)

/-- The place of the struct in the sources. -/
def place (decode : SourceDecoder) (site : Site) : String := placeOf decode site.struct

end Site

/-- The sites of a contract itself. -/
def sitesOf (contract : Json) : List Site :=
  (structsOf contract).filterMap fun struct => (location? struct).map (⟨contract, struct, ·⟩)

/-- What a member of a struct is read for: it says what its item needs, and it is in the sources. -/
@[mk_iff]
structure ReadsMember (decode : SourceDecoder) (m : Json) : Prop where
  node : Ast.isNode m = true
  src : (m.get "src").toBool = true
  described : (Ast.describe m).toBool = true
  place : (decode (.obj [("src", m.field "src")])).toBool = true

instance (decode : SourceDecoder) (m : Json) : Decidable (ReadsMember decode m) :=
  decidable_of_iff' _ (readsMember_iff decode m)

/-- What a contract is read for: it has a name, its parts are nodes, and its structs have names of their
own.  A location is a single word. -/
@[mk_iff]
structure ReadsContract (contract : Json) : Prop where
  name : (contract.get "name").toBool = true
  listed : (Ast.partsOf "nodes" contract).toBool = true
  nodes : ∀ part ∈ Ast.parts "nodes" contract, Ast.isNode part = true
  locations : ∀ struct ∈ structsOf contract, (Documentation.location? struct).toBool = true
  names : DistinctTexts ((structsOf contract).map (·.field "canonicalName"))

instance (contract : Json) : Decidable (ReadsContract contract) :=
  decidable_of_iff' _ (readsContract_iff contract)

namespace CompiledContract

variable (c : CompiledContract) (decode : SourceDecoder)

/-- The sites of a contract and of those it inherits from. -/
def sites : List Site := c.inherited.flatMap sitesOf

/-- The compiler laid a struct out with no text among its members, as those of an enum are. -/
def LaysOutItems (struct : Json) : Prop :=
  ∀ entry ∈ (c.layout.field "types").fields,
    entry.2.field "label" = .str ("struct " ++ (struct.field "canonicalName").display) →
      ∀ m ∈ Ast.parts "members" entry.2, m.text? = none

instance (struct : Json) : Decidable (c.LaysOutItems struct) :=
  inferInstanceAs (Decidable (∀ entry ∈ (c.layout.field "types").fields,
    entry.2.field "label" = .str ("struct " ++ (struct.field "canonicalName").display) →
      ∀ m ∈ Ast.parts "members" entry.2, m.text? = none))

/-- What a struct of a site is read for: its members have names of their own, it is in the sources, and
the compiler laid it out as a struct. -/
@[mk_iff]
structure ReadsSite (struct : Json) : Prop where
  listed : (Ast.partsOf "members" struct).toBool = true
  labels : DistinctTexts ((Ast.parts "members" struct).map (·.field "name"))
  place : (decode struct).toBool = true
  members : ∀ m ∈ Ast.parts "members" struct, ReadsMember decode m
  laidOut : c.LaysOutItems struct

instance (struct : Json) : Decidable (c.ReadsSite decode struct) :=
  decidable_of_iff' _ (readsSite_iff c decode struct)

/-- What the namespaces of a contract rely on, apart from the types of their members: the contracts and
the sites can be read, and so can the types of the layout of the compiler. -/
@[mk_iff]
structure ReadsSites : Prop where
  listed : (Namespace.compilerTypes c.layout >>= Json.entries).toBool = true
  types : ∀ entry ∈ (c.layout.field "types").fields, (compilerType entry.2).toBool = true
  contracts : ∀ b ∈ c.inherited, ReadsContract b
  sites : ∀ b ∈ c.inherited, ∀ struct ∈ structsOf b, hasLocation struct = true →
    c.ReadsSite decode struct

instance : Decidable (c.ReadsSites decode) := decidable_of_iff' _ (readsSites_iff c decode)

end CompiledContract

/-! ### Names lead back -/

theorem placeOf_eq {decode : SourceDecoder} {node : Json} (h : (decode node).toBool = true) :
    decode node = .ok (placeOf decode node) := by
  obtain ⟨place, hplace⟩ := Except.exists_of_toBool h
  rw [placeOf, hplace]
  rfl

/-- Among values with names of their own, the first with the name of a value is this value. -/
theorem find?_name {vs : List Json} {p : Json → Bool} {key : String}
    (h : DistinctTexts ((vs.filter p).map (·.field key))) {v : Json} (hv : v ∈ vs) (hp : p v = true) :
    (vs.find? fun w => p w && (w.field key).alike (v.field key)) = some v := by
  have hmem : v ∈ vs.filter p := List.mem_filter.2 ⟨hv, hp⟩
  obtain ⟨name, hname⟩ := h.exists_str (List.mem_map_of_mem hmem)
  rw [hname]
  cases hfound : vs.find? fun w => p w && (w.field key).alike (.str name) with
  | none => exact absurd (by simp [hp, hname]) (List.find?_eq_none.1 hfound v hv)
  | some w =>
      have htest := List.find?_some hfound
      obtain ⟨hpw, hsame⟩ := Bool.and_eq_true_iff.1 htest
      have hw := List.mem_filter.2 ⟨List.mem_of_find?_eq_some hfound, hpw⟩
      have hfield := (Json.eq_str_of_alike_str hsame).trans hname.symm
      rw [List.inj_on_of_nodup_map h.nodup hw hmem hfield]

theorem get_eq_of_text {v : Json} {key : String} (h : (v.field key).text?.isSome) :
    v.get key = .ok (v.field key) :=
  Json.field_of_contains fun hnull => by rw [hnull] at h; cases h

section Plain

variable {c : CompiledContract} {decode : SourceDecoder} {b struct m : Json} (hb : ReadsContract b)
  (hstruct : struct ∈ structsOf b)

include hb hstruct

theorem ReadsContract.canonicalName :
    struct.get "canonicalName" = .ok (struct.field "canonicalName") :=
  get_eq_of_text (hb.names.text _ (List.mem_map_of_mem hstruct))

theorem quiet_plainStruct : Quiet (plainStruct (struct.field "canonicalName") b) struct := by
  obtain ⟨hpart, hkind⟩ := List.mem_filter.1 hstruct
  unfold plainStruct
  refine (quiet_ask (partsOf_eq hb.listed)).bind ((quiet_ask (findFirst_struct hb.nodes _)).bind ?_)
  rw [find?_name hb.names hpart hkind]
  exact quiet_pure struct

theorem quiet_plainMemberSrc (hreads : c.ReadsSite decode struct)
    (hm : m ∈ Ast.parts "members" struct) :
    Quiet (plainMemberSrc (struct.field "canonicalName") (m.field "name") b) (m.field "src") := by
  have hall : (Ast.parts "members" struct).filter (fun _ => true) = Ast.parts "members" struct :=
    List.filter_eq_self.2 fun _ _ => rfl
  have hfound : (Ast.parts "members" struct).find?
      (fun w => true && (w.field "name").alike (m.field "name")) = some m :=
    find?_name (by rw [hall]; exact hreads.labels) hm rfl
  have hfirst := findFirst_member (fun w hw => (hreads.members w hw).node) (m.field "name")
  simp only [Bool.true_and] at hfound
  rw [hfound] at hfirst
  unfold plainMemberSrc
  refine (quiet_plainStruct hb hstruct).bind ((quiet_ask (partsOf_eq hreads.listed)).bind
    ((quiet_ask hfirst).bind ?_))
  exact quiet_ask (Json.get_eq (hreads.members m hm).src)

end Plain

/-! ### Positions -/

theorem memberOfLabel_ne {name label : Json} {ms : List Json} (hms : ∀ m ∈ ms, m.text? = none) :
    memberOfLabel name label ms ≠ .error (.fault (.enumMemberInStruct name)) := by
  induction ms with
  | nil => nofun
  | cons m ms ih =>
      obtain ⟨hm, hms⟩ := List.forall_mem_cons.1 hms
      unfold memberOfLabel
      split
      · nofun
      · rename_i heq
        obtain ⟨rfl, -⟩ := List.cons.inj heq
        cases hm
      · rename_i heq
        obtain ⟨rfl, rfl⟩ := List.cons.inj heq
        cases hlabel : m.lookup "label" with
        | error e => nofun
        | ok own =>
            rw [lift_bind rfl]
            split
            · nofun
            · exact ih hms

theorem parts_of_lookup {v x : Json} {key : String} {xs : List Json} (h : v.lookup key = .ok x)
    (hx : x ≠ .null) (hxs : x.elements = .ok xs) : Ast.parts key v = xs := by
  cases v with
  | obj es =>
      cases h
      cases hfound : Json.find? key es with
      | none =>
          rw [hfound] at hx
          exact absurd rfl hx
      | some y =>
          rw [hfound, Option.getD_some] at hxs
          rw [Ast.parts, Ast.partsOf, Json.lookup, hfound]
          simp only [bind, Except.bind, Option.getD_some, hxs]
  | _ => cases h

theorem parts_of_field_null {v : Json} {key : String} (h : v.field key = .null) :
    Ast.parts key v = [] := by
  unfold Ast.parts Ast.partsOf
  cases v with
  | obj es =>
      rw [Json.field, Json.fields] at h
      rw [Json.lookup]
      cases hfound : Json.find? key es with
      | none => rfl
      | some x =>
          rw [hfound] at h
          obtain rfl : x = .null := h
          rfl
  | _ => rfl

/-- A struct that the compiler laid out without texts is searched without a fault. -/
theorem layoutMember?_ne {types name : Json} (h : Readable types)
    (hitems : ∀ entry ∈ types.fields, entry.2.field "label" = .str ("struct " ++ name.display) →
      ∀ m ∈ Ast.parts "members" entry.2, m.text? = none) (label : Json) :
    layoutMember? types name label ≠ .error (.fault (.enumMemberInStruct name)) := by
  obtain ⟨es, hes⟩ := Except.exists_of_toBool h.listed
  have hfirst := h.findFirst_type (.str ("struct " ++ name.display))
  rw [Json.fields_of_entries hes] at hfirst hitems
  unfold layoutMember?
  rw [lift_bind hes]
  dsimp only
  rw [lift_bind hfirst]
  split
  · nofun
  · rename_i t hfound
    obtain ⟨entry, hentry, rfl⟩ := List.mem_map.1 (List.mem_of_find?_eq_some hfound)
    have htest := List.find?_some hfound
    have hms := hitems entry hentry (Json.eq_str_of_alike_str htest)
    cases hmembers : entry.2.lookup "members" with
    | error e => nofun
    | ok members =>
        rw [lift_bind rfl]
        split
        · nofun
        · rename_i hnull
          cases helements : members.elements with
          | error e => nofun
          | ok ms =>
              rw [parts_of_lookup hmembers (fun h => hnull h) helements] at hms
              rw [lift_bind rfl]
              exact memberOfLabel_ne hms

/-! ### The items of a site -/

variable {c : CompiledContract} {decode : SourceDecoder}

theorem fields_of_not_isSet {v : Json} (h : ¬ v.isSet = true) : v.fields = [] := by
  cases v with
  | obj es =>
      cases es with
      | nil => rfl
      | cons e es => exact absurd rfl h
  | _ => rfl

theorem fields_of_compilerTypes {layout types : Json}
    (h : Namespace.compilerTypes layout = .ok types) :
    types.fields = (layout.field "types").fields := by
  obtain ⟨found, hfound, htypes⟩ := exists_of_bind_ok h
  have hfield : found = layout.field "types" := by
    split at hfound
    · exact (Json.field_of_lookup_null hfound).symm
    · rename_i hset
      cases hfound
      rw [Json.field, fields_of_not_isSet hset]
  cases htypes
  split
  · rw [hfield]
  · rename_i hset
    rw [← hfield, fields_of_not_isSet hset]
    rfl

section Site

variable (h : c.ReadsSites decode)

include h

theorem CompiledContract.ReadsSites.exists_types :
    ∃ types, Namespace.compilerTypes c.layout = .ok types ∧ Readable types := by
  obtain ⟨entries, hentries⟩ := Except.exists_of_toBool h.listed
  obtain ⟨types, htypes, hlisted⟩ := exists_of_bind_ok hentries
  refine ⟨types, htypes, by rw [hlisted]; rfl, ?_⟩
  rw [fields_of_compilerTypes htypes]
  exact h.types

theorem positionOf_eq_positionIn {struct : Json} (hitems : c.LaysOutItems struct) (label : Json) :
    ∃ types, Namespace.compilerTypes c.layout = .ok types ∧
      positionOf types (struct.field "canonicalName") label =
        .ok (positionIn c.layout (struct.field "canonicalName") label) := by
  obtain ⟨types, htypes, hreadable⟩ := h.exists_types
  have hitems : ∀ entry ∈ types.fields,
      entry.2.field "label" = .str ("struct " ++ (struct.field "canonicalName").display) →
        ∀ m ∈ Ast.parts "members" entry.2, m.text? = none := by
    rw [fields_of_compilerTypes htypes]
    exact hitems
  obtain ⟨found, hfound, hplaced⟩ := (layoutMember?_eq hreadable (struct.field "canonicalName")
    label).resolve_left (layoutMember?_ne hreadable hitems label)
  obtain ⟨position, hposition⟩ := exists_positionOf hfound hplaced
  refine ⟨types, htypes, ?_⟩
  rw [positionIn, htypes]
  dsimp only
  rw [hposition]
  rfl

variable {b struct : Json} (hb : b ∈ c.inherited) (hstruct : struct ∈ structsOf b)
  (hlocation : hasLocation struct = true)

include hb hstruct hlocation

theorem answers_namespaceItem {types m : Json}
    (htypes : Namespace.compilerTypes c.layout = .ok types) (hm : m ∈ Ast.parts "members" struct)
    (hresolves : Ast.Resolves c.index (m.field "typeName")) :
    Answers (namespaceItem decode (c.compilationOf b) b types struct m)
      (itemOf decode c.layout b struct m) := by
  have hcontract := h.contracts b hb
  have hreads := h.sites b hb struct hstruct hlocation
  have hmember := hreads.members m hm
  have hname := get_eq_of_text (hreads.labels.text _ (List.mem_map_of_mem hm))
  have hsrc := quiet_plainMemberSrc hcontract hstruct hreads hm
  obtain ⟨types', htypes', hposition⟩ := positionOf_eq_positionIn h hreads.laidOut (m.field "name")
  obtain rfl : types = types' := Except.ok.inj (htypes.symm.trans htypes')
  unfold namespaceItem
  refine (answers_ask (Json.get_eq hcontract.name)).bind ((answers_ask hname).bind
    ((answers_lift (typeIdOf_eq hmember.described)).bind
      ((answers_ask (hcontract.canonicalName hstruct)).bind
        (hsrc.answers.bind ((answers_lift (placeOf_eq hmember.place)).bind
          ((answers_lift hposition).bind ?_))))))
  exact (answers_ask (Ast.lookup_eq hmember.node _)).bind
    (hresolves.answers_loadType.bind (answers_pure _))

/-- The members of the struct of a site make its items. -/
theorem answers_namespaceItems (location : String)
    (hresolves : ∀ v ∈ c.memberTypes, Ast.Resolves c.index v) :
    Answers (namespaceItems decode (c.compilationOf b) b struct)
      (Site.items decode c.layout ⟨b, struct, location⟩) := by
  obtain ⟨types, htypes, -⟩ := h.exists_types
  have hreads := h.sites b hb struct hstruct hlocation
  have hstructs : struct ∈ (structsOf b).filter hasLocation := List.mem_filter.2 ⟨hstruct, hlocation⟩
  unfold namespaceItems
  refine (answers_ask htypes).bind ((answers_ask (partsOf_eq hreads.listed)).bind (Answers.mapM ?_))
  refine fun m hm => answers_namespaceItem h hb hstruct hlocation htypes hm (hresolves _ ?_)
  exact List.mem_flatMap.2 ⟨b, hb, List.mem_flatMap.2 ⟨struct, hstructs, List.mem_map_of_mem hm⟩⟩

end Site

end StorageUpgrade.Extract
