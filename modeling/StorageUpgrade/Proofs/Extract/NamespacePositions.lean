import StorageUpgrade.Proofs.Extract.DuplicateNamespaces
import StorageUpgrade.Proofs.Extract.FullLayout

/-!
# Where the members of a namespace are

The layout of the compiler lists a type for each struct, and the struct of a namespace is looked up
among these by its label, which is its canonical name.  Contracts of different sources may have one
name, and so may their structs: then the first type of that label gives the positions, be it the
type of the struct or not.  The members of a namespace are where their own struct has them if no
type that is listed before the type of this struct has its label (`positions_of_load`).

Nothing is asked of the syntax trees and of the layout.  The namespaces that come of a run say all
that is needed of them.

## Strategy

* A lookup that answers has answered with the first of its kind (`position_of_positionOf`).
* While structs are gone through, the namespaces are those of the sites so far, unless a location
  has been found more than once (`Gathers`); then no layout comes of it.
* Looking contracts up leaves nothing behind that matters, so the sites are those of the contracts
  that any run finds (`eq_contractsOf`).
-/

namespace StorageUpgrade.Extract

open SyntaxM Namespace

variable {decode : SourceDecoder}

/-! ### Types of structs in the layout of a compiler -/

/-- The label of the type of a struct. -/
def structLabel (struct : Json) : Json := .str ("struct " ++ (struct.field "canonicalName").display)

/-- The identifier of the type of a struct. -/
def structTypeId (struct : Json) : String :=
  "t_struct(" ++ (struct.field "name").display ++ ")" ++ (struct.field "id").display ++ "_storage"

/-- The first member of a label that a type lists. -/
def memberWithin? (type label : Json) : Option Json :=
  (Ast.parts "members" type).find? fun m => (m.field "label").alike label

/-- The position that a type gives to a member, if it gives both a slot and an offset. -/
def positionWithin (type label : Json) : Option String × Option Int :=
  match memberWithin? type label with
  | none => (none, none)
  | some m =>
    if (m.field "slot").isNull || (m.field "offset").isNull then (none, none)
    else (some (m.field "slot").display, (m.field "offset").toInt.toOption)

/-- The first type of a layout that has the label of a struct. -/
def firstLabelled? (layout struct : Json) : Option Json :=
  ((layout.field "types").fields.map (·.2)).find? fun type =>
    (type.field "label").alike (structLabel struct)

/-- The position that the first type with the label of a struct gives to a member. -/
def positionByLabel (layout struct label : Json) : Option String × Option Int :=
  ((firstLabelled? layout struct).map (positionWithin · label)).getD (none, none)

/-- A layout lists a type as that of a struct, and no earlier type has its label. -/
def IsFirstOfLabel (layout struct type : Json) : Prop :=
  ∃ earlier later, (layout.field "types").fields =
      earlier ++ (structTypeId struct, type) :: later ∧
    type.field "label" = structLabel struct ∧
    ∀ entry ∈ earlier, entry.2.field "label" ≠ structLabel struct

theorem IsFirstOfLabel.positionByLabel {layout struct type : Json}
    (h : IsFirstOfLabel layout struct type) (label : Json) :
    positionByLabel layout struct label = positionWithin type label := by
  obtain ⟨earlier, later, htable, htype, hearlier⟩ := h
  have hnone : (earlier.map (·.2)).find? (fun type =>
      (type.field "label").alike (structLabel struct)) = none := by
    refine List.find?_eq_none.2 fun v hv hsame => ?_
    obtain ⟨entry, hentry, rfl⟩ := List.mem_map.1 hv
    exact hearlier entry hentry (Json.eq_str_of_alike_str hsame)
  have hfirst : firstLabelled? layout struct = some type := by
    rw [firstLabelled?, htable, List.map_append, List.find?_append, hnone, Option.none_or,
      List.map_cons, List.find?_cons_of_pos]
    simp [htype, structLabel]
  rw [Extract.positionByLabel, hfirst]
  rfl

/-! ### What lookups have answered -/

theorem eq_find?_of_findFirst {test : Json → Except Json.Misuse Bool} {p : Json → Bool}
    (hp : ∀ v b, test v = .ok b → p v = b) {vs : List Json} {found : Option Json}
    (h : findFirst test vs = .ok found) : found = vs.find? p := by
  induction vs with
  | nil =>
      cases h
      rfl
  | cons v vs ih =>
      obtain ⟨passes, htest, h⟩ := exists_of_bind_ok h
      rw [List.find?_cons, hp v passes htest]
      cases passes with
      | true =>
          cases h
          rfl
      | false => exact ih h

theorem eq_find?_of_memberOfLabel {name label : Json} {ms : List Json} {found : Option Json}
    (h : memberOfLabel name label ms = .ok found) :
    found = ms.find? fun m => (m.field "label").alike label := by
  induction ms with
  | nil =>
      cases h
      rfl
  | cons m ms ih =>
      unfold memberOfLabel at h
      split at h
      · rename_i heq
        cases heq
      · cases h
      · rename_i heq
        obtain ⟨rfl, rfl⟩ := List.cons.inj heq
        obtain ⟨own, hown, h⟩ := exists_of_bind_ok h
        rw [List.find?_cons, Json.field_of_lookup_null (eq_ok_of_lift hown)]
        cases hsame : own.alike label with
        | true =>
            rw [hsame] at h
            cases h
            rfl
        | false =>
            rw [hsame] at h
            exact ih h

/-- A member that was looked up is the first of its label in the first type of its struct. -/
theorem eq_of_layoutMember? {types name label : Json} {found : Option Json}
    (h : layoutMember? types name label = .ok found) :
    found = ((types.fields.map (·.2)).find? fun type =>
      (type.field "label").alike (.str ("struct " ++ name.display))).bind
        (memberWithin? · label) := by
  unfold layoutMember? at h
  obtain ⟨entries, hentries, h⟩ := exists_of_bind_ok h
  obtain ⟨first, hfirst, h⟩ := exists_of_bind_ok h
  rw [Json.fields_of_entries (eq_ok_of_lift hentries)]
  have hlabels : ∀ (t : Json) (b : Bool),
      (do .ok ((← t.lookup "label").alike (.str ("struct " ++ name.display)))) =
        (.ok b : Except Json.Misuse Bool) →
      (t.field "label").alike (.str ("struct " ++ name.display)) = b := by
    intro t b ht
    obtain ⟨own, hown, ht⟩ := exists_of_bind_ok ht
    cases ht
    rw [Json.field_of_lookup_null hown]
  rw [← eq_find?_of_findFirst hlabels (eq_ok_of_lift hfirst)]
  cases first with
  | none =>
      cases h
      rfl
  | some struct =>
      obtain ⟨members, hmembers, h⟩ := exists_of_bind_ok h
      have hmembers := eq_ok_of_lift hmembers
      rw [Option.bind_some, memberWithin?]
      split at h
      · cases h
        rw [parts_of_field_null (Json.field_of_lookup_null hmembers)]
        rfl
      · rename_i hnull
        obtain ⟨ms, hms, h⟩ := exists_of_bind_ok h
        rw [parts_of_lookup hmembers (fun hn => hnull hn) (eq_ok_of_lift hms)]
        exact eq_find?_of_memberOfLabel h

/-- A position that was found is the one by label. -/
theorem position_of_positionOf {layout types struct label : Json}
    {position : Option String × Option Int} (htypes : Namespace.compilerTypes layout = .ok types)
    (h : positionOf types (struct.field "canonicalName") label = .ok position) :
    position = positionByLabel layout struct label := by
  unfold positionOf at h
  obtain ⟨found, hfound, h⟩ := exists_of_bind_ok h
  have hmember := eq_of_layoutMember? hfound
  rw [fields_of_compilerTypes htypes] at hmember
  change found = (firstLabelled? layout struct).bind (memberWithin? · label) at hmember
  rw [positionByLabel]
  cases hfirst : firstLabelled? layout struct with
  | none =>
      rw [hfirst] at hmember
      subst hmember
      cases h
      rfl
  | some type =>
      rw [hfirst, Option.bind_some] at hmember
      rw [Option.map_some, Option.getD_some, positionWithin, ← hmember]
      cases found with
      | none =>
          cases h
          rfl
      | some m =>
          obtain ⟨slot, hslot, h⟩ := exists_of_bind_ok h
          dsimp only
          rw [Json.field_of_lookup_null (eq_ok_of_lift hslot)]
          split at h
          · rename_i hnull
            cases h
            rw [hnull, Bool.true_or, if_pos rfl]
          · rename_i hgiven
            obtain ⟨offset, hoffset, h⟩ := exists_of_bind_ok h
            rw [Json.field_of_lookup_null (eq_ok_of_lift hoffset)]
            split at h
            · rename_i hnull
              cases h
              rw [hnull, Bool.or_true, if_pos rfl]
            · rename_i hnull
              obtain ⟨n, hn, h⟩ := exists_of_bind_ok h
              cases h
              rw [if_neg (by simp [hgiven, hnull]), eq_ok_of_lift hn]
              rfl

/-! ### Going through structs -/

/-- An item is that of a member of a struct, where the layout has the member by the label of the
struct. -/
structure IsPlacedItem (layout struct member : Json) (item : Item) : Prop where
  label : item.label = member.field "name"
  position : (item.slot, item.offset) = positionByLabel layout struct item.label

/-- Items are those of the members of the struct of a site, in their order. -/
def ArePlaced (layout : Json) (site : Site) (items : List Item) : Prop :=
  List.Forall₂ (IsPlacedItem layout site.struct) (Ast.parts "members" site.struct) items

/-- A namespace was made from a site and found once. -/
structure IsMadeFrom (layout : Json) (site : Site) (entry : String × Found) : Prop where
  location : entry.1 = site.location
  once : entry.2.srcs.length = 1
  items : ArePlaced layout site entry.2.items

/-- Namespaces are those of some sites, in their order, unless a location was found more
than once. -/
def Gathers (layout : Json) (sites : List Site) (found : List (String × Found)) : Prop :=
  Repeated found ∨ List.Forall₂ (IsMadeFrom layout) sites found

theorem isStruct_of_isDefinition {node : Json} {b : Bool}
    (h : Ast.isDefinition .struct node = .ok b) : isStruct node = b := by
  have hnode : Ast.isNode node = true := by
    obtain ⟨kind, hkind, -⟩ := exists_of_bind_ok h
    cases node with
    | obj es =>
        rw [Json.get] at hkind
        split at hkind
        · rename_i hfind
          rw [Ast.isNode, Ast.kind?, hfind]
          rfl
        · cases hkind
    | _ => cases hkind
  rw [Ast.isDefinition, Ast.hasKind_eq hnode] at h
  exact Except.ok.inj h

section Run

variable {c : Compilation} {plain : Json}

theorem isPlacedItem_of_namespaceItem {types struct member : Json} {item : Item}
    (htypes : Namespace.compilerTypes c.layout = .ok types)
    (h : Yields (namespaceItem decode c plain types struct member) item) :
    IsPlacedItem c.layout struct member item := by
  unfold namespaceItem at h
  obtain ⟨contract, -, h⟩ := h.of_bind
  obtain ⟨label, hlabel, h⟩ := h.of_bind
  obtain ⟨type, -, h⟩ := h.of_bind
  obtain ⟨name, hname, h⟩ := h.of_bind
  obtain ⟨src, -, h⟩ := h.of_bind
  obtain ⟨place, -, h⟩ := h.of_bind
  obtain ⟨⟨slot, offset⟩, hposition, h⟩ := h.of_bind
  obtain ⟨typeName, -, h⟩ := h.of_bind
  obtain ⟨-, -, h⟩ := h.of_bind
  obtain rfl := yields_pure.1 h
  have hname := Json.field_of_get (yields_ask.1 hname)
  rw [← hname] at hposition
  exact ⟨(Json.field_of_get (yields_ask.1 hlabel)).symm,
    position_of_positionOf htypes (yields_lift.1 hposition)⟩

theorem arePlaced_of_namespaceItems {struct : Json} {items : List Item}
    (h : Yields (namespaceItems decode c plain struct) items) (location : String) :
    ArePlaced c.layout ⟨c.contract, struct, location⟩ items := by
  unfold namespaceItems at h
  obtain ⟨types, htypes, h⟩ := h.of_bind
  obtain ⟨members, hmembers, h⟩ := h.of_bind
  rw [ArePlaced, parts_of_partsOf (yields_ask.1 hmembers)]
  exact h.of_mapM.imp fun _ _ hitem => isPlacedItem_of_namespaceItem (yields_ask.1 htypes) hitem

/-- A struct adds its site, if it declares a location. -/
theorem gathers_of_addStruct {struct : Json} {sites : List Site} {found found' : List (String × Found)}
    (hgathers : Gathers c.layout sites found)
    (h : Yields (addStruct decode c plain found struct) found') :
    Gathers c.layout (sites ++ ((location? struct).map (Site.mk c.contract struct)).toList) found' := by
  unfold addStruct at h
  obtain ⟨location, hlocation, h⟩ := h.of_bind
  rw [location?_eq (yields_lift.1 hlocation)]
  cases location with
  | none =>
      obtain rfl := yields_pure.1 h
      rw [Option.map_none, Option.toList_none, List.append_nil]
      exact hgathers
  | some location =>
      obtain ⟨name, -, h⟩ := h.of_bind
      obtain ⟨node, -, h⟩ := h.of_bind
      obtain ⟨src, -, h⟩ := h.of_bind
      cases hknown : Json.find? location found with
      | some known =>
          rw [hknown] at h
          -- What is known already has a place, so now the location has two.
          obtain rfl := yields_pure.1 h
          rcases hgathers with hrepeated | hmade
          · refine .inl (hrepeated.put fun g hg hmany => ?_)
            rw [hknown] at hg
            cases hg
            rw [List.length_append]
            exact Nat.lt_add_right _ hmany
          · obtain ⟨site, -, hsite⟩ := exists_left_of_mem hmade (Json.mem_of_find? hknown)
            refine .inl ⟨location, _, by rw [Json.find?_put, if_pos rfl], ?_⟩
            rw [List.length_append, hsite.once]
            exact Nat.lt_succ_self 1
      | none =>
          rw [hknown] at h
          obtain ⟨contract, -, h⟩ := h.of_bind
          obtain ⟨-, -, h⟩ := h.of_bind
          obtain ⟨items, hitems, h⟩ := h.of_bind
          obtain rfl := yields_pure.1 h
          rcases hgathers with hrepeated | hmade
          · refine .inl (hrepeated.put fun g hg _ => ?_)
            rw [hknown] at hg
            cases hg
          · rw [Json.put_of_find?_eq_none hknown]
            exact .inr (List.rel_append hmade
              (.cons ⟨rfl, rfl, arePlaced_of_namespaceItems hitems location⟩ .nil))

theorem gathers_of_addStructs {nodes : List Json} {sites : List Site}
    {found found' : List (String × Found)} (hgathers : Gathers c.layout sites found)
    (h : Yields (addStructs decode c plain found nodes) found') :
    Gathers c.layout (sites ++ (nodes.filter isStruct).filterMap fun struct =>
      (location? struct).map (Site.mk c.contract struct)) found' := by
  induction nodes generalizing sites found with
  | nil =>
      obtain rfl := yields_pure.1 h
      simpa using hgathers
  | cons node nodes ih =>
      unfold addStructs at h
      obtain ⟨isDefinition, hasked, h⟩ := h.of_bind
      have hstruct := isStruct_of_isDefinition (yields_ask.1 hasked)
      cases isDefinition with
      | true =>
          obtain ⟨next, hnext, h⟩ := h.of_bind
          have hrest := ih (gathers_of_addStruct hgathers hnext) h
          rwa [List.filter_cons_of_pos hstruct, List.filterMap_eq_flatMap_toList, List.flatMap_cons,
            ← List.append_assoc, ← List.filterMap_eq_flatMap_toList]
      | false =>
          rw [List.filter_cons_of_neg (by rw [hstruct]; exact Bool.false_ne_true)]
          exact ih hgathers h

theorem gathers_of_addContract {sites : List Site} {found found' : List (String × Found)}
    (hgathers : Gathers c.layout sites found)
    (h : Yields (addContract decode c plain found) found') :
    Gathers c.layout (sites ++ sitesOf c.contract) found' := by
  unfold addContract at h
  obtain ⟨nodes, hnodes, h⟩ := h.of_bind
  rw [sitesOf, structsOf, parts_of_partsOf (yields_ask.1 hnodes)]
  exact gathers_of_addStructs hgathers h

end Run

/-! ### The contracts that are gone through -/

/-- The contracts that the contract of a compilation inherits from, itself first, if all of them are
found. -/
def contractsOf (c : Compilation) : List Json :=
  (outcome (linearizedContracts c) {}).1.toOption.getD []

theorem quiet_of_contractWithId {c : Compilation} {id b : Json} (h : Yields (contractWithId c id) b) :
    Quiet (contractWithId c id) b := by
  unfold contractWithId at h ⊢
  obtain ⟨self, hself, h⟩ := h.of_bind
  refine (quiet_ask (yields_ask.1 hself)).bind ?_
  split
  · rename_i hsame
    rw [if_pos hsame] at h
    obtain rfl := yields_pure.1 h
    exact quiet_pure _
  · rename_i hother
    rw [if_neg hother] at h
    obtain ⟨nodes, hnodes, hfind, hkind⟩ := SyntaxIndex.of_yields_deref h
    exact SyntaxIndex.quiet_deref hnodes hfind hkind

/-- All runs that find the contracts find the same ones. -/
theorem eq_contractsOf {c : Compilation} {contracts : List Json}
    (h : Yields (linearizedContracts c) contracts) : contracts = contractsOf c := by
  have hquiet : Quiet (linearizedContracts c) contracts := by
    unfold linearizedContracts at h ⊢
    obtain ⟨ids, hids, h⟩ := h.of_bind
    unfold linearized at hids ⊢
    refine (quiet_ask (yields_ask.1 hids)).bind (quiet_mapM ?_)
    exact h.of_mapM.imp fun _ _ hb => quiet_of_contractWithId hb
  rw [contractsOf, hquiet.answers {}]
  rfl

/-! ### Two contracts of one name -/

/-- A struct that declares a location. -/
def locatedMain : Json := structNode 12 "Main" "@custom:storage-location erc7201:main"
  [Validation.variableNode 25 "total"]

/-- The contract of the struct. -/
def locatedVault : Json := Validation.contractNode [4] "Vault" locatedMain

/-- Two sources with a contract `Vault` each, whose structs have the same name and different
members. -/
def twoVaults : Json :=
  .obj [("sources", .obj [
    ("A.sol", Validation.sourceNode 1 [Validation.contractNode [2] "Vault"
      (structNode 11 "Main" ""
        [Validation.variableNode 21 "spare", Validation.variableNode 23 "total"])]),
    ("B.sol", Validation.sourceNode 3 [locatedVault])])]

/-- The contract with the location, as it was laid out with some types. -/
def compiledVault (types : List (String × Json)) : Compilation where
  index := .ofOutput 0 twoVaults
  contract := locatedVault
  layout := .obj [("storage", .arr []), ("types", .obj types)]

/-- What the compiler lists of a struct of such a contract: each member has a slot of its own. -/
def mainType (number : Nat) (labels : List String) : String × Json :=
  ("t_struct(Main)" ++ toString number ++ "_storage", .obj [("label", .str "struct Vault.Main"),
    ("members", .arr (labels.mapIdx fun slot label =>
      .obj [("label", .str label), ("offset", .int 0), ("slot", .str (toString slot))]))])

/-- The contract was laid out with the type of its own struct in front. -/
def ownFirst : Compilation :=
  compiledVault [mainType 12 ["total"], mainType 11 ["spare", "total"]]

/-- The contract was laid out with the type of the other struct in front. -/
def otherFirst : Compilation :=
  compiledVault [mainType 11 ["spare", "total"], mainType 12 ["total"]]

/-- The labels and the positions of the items of some namespaces. -/
def placesOf (namespaces : List (String × List Item)) :
    List (String × Json × Option String × Option Int) :=
  namespaces.flatMap fun (location, items) => items.map fun x => (location, x.label, x.slot, x.offset)

/-! ### Positions of the members of namespaces -/

section Load

variable {plain : Compilation} {namespaces : List (String × List Item)}

/-- The namespaces that were made from some sites, and found once each. -/
theorem arePlaced_of_unique {layout contract : Json} {sites : List Site}
    {found : List (String × Found)} (hgathers : Gathers layout sites found)
    (h : unique contract found = .ok namespaces) :
    List.Forall₂ (fun site entry => entry.1 = site.location ∧ ArePlaced layout site entry.2)
      sites namespaces := by
  obtain ⟨rfl, hnot⟩ := of_unique h
  rcases hgathers with hrepeated | hmade
  · exact absurd hrepeated hnot
  · exact List.forall₂_map_right_iff.2 (hmade.imp fun _ _ h => ⟨h.location, h.items⟩)

/-- Going through contracts makes the namespaces of their sites. -/
theorem arePlaced_of_contracts {c : Compilation} {contract : Json} {contracts plains : List Json}
    (hlength : contracts.length = plains.length)
    (h : Yields (do
      let found ← (contracts.zip plains).foldlM (fun found (b, plain) =>
        addContract decode { c with contract := b } plain found) []
      (unique contract found : Except Error _)) namespaces) :
    List.Forall₂ (fun site entry => entry.1 = site.location ∧ ArePlaced c.layout site entry.2)
      (contracts.flatMap sitesOf) namespaces := by
  obtain ⟨found, hfound, h⟩ := h.of_bind
  have hall : (contracts.zip plains).flatMap (fun pair => sitesOf pair.1) =
      contracts.flatMap sitesOf := by
    rw [← List.flatMap_map, List.map_fst_zip hlength.le]
  have hgathers := hfound.of_foldlM (I := fun (rest : List (Json × Json)) found => ∃ sites,
      sites ++ rest.flatMap (fun pair => sitesOf pair.1) = contracts.flatMap sitesOf ∧
        Gathers c.layout sites found) ?_ ⟨[], hall, .inr .nil⟩
  · obtain ⟨sites, hsites, hgathers⟩ := hgathers
    rw [List.flatMap_nil, List.append_nil] at hsites
    rw [← hsites]
    exact arePlaced_of_unique hgathers (yields_lift.1 h)
  · rintro ⟨b, plain⟩ rest found found' ⟨sites, hsites, hgathers⟩ hstep
    have hnext := gathers_of_addContract (c := { c with contract := b }) hgathers hstep
    rw [List.flatMap_cons, ← List.append_assoc] at hsites
    exact ⟨sites ++ sitesOf b, hsites, hnext⟩

theorem arePlaced_of_load {laidOut : Option Compilation}
    (h : Yields (load decode plain laidOut) namespaces) :
    List.Forall₂ (fun site entry => entry.1 = site.location ∧
        ArePlaced (laidOut.getD plain).layout site entry.2)
      ((contractsOf (laidOut.getD plain)).flatMap sitesOf) namespaces := by
  unfold load at h
  obtain ⟨plains, hplains, h⟩ := h.of_bind
  cases laidOut with
  | none =>
      rw [Option.getD_none, ← eq_contractsOf hplains]
      exact arePlaced_of_contracts rfl h
  | some c =>
      obtain ⟨contracts, hcontracts, h⟩ := h.of_bind
      rw [Option.getD_some, ← eq_contractsOf hcontracts]
      dsimp only at h
      split at h
      · obtain ⟨_, _, h⟩ := h.of_bind
        obtain ⟨_, hthrow, _⟩ := h.of_bind
        exact absurd hthrow yields_throw
      · rename_i hlength
        exact arePlaced_of_contracts (not_not.1 hlength) h

/-- The namespaces that come of a run are those of the structs with a location, in the order in
which the contracts are inherited from.  The items of each are the members of its struct, where the
first type of the layout with the label of the struct has them: this is the type of the struct
itself, unless a type with this label is listed before it. -/
theorem positions_of_load {laidOut : Option Compilation} {s t : SyntaxState}
    (h : outcome (load decode plain laidOut) s = (.ok namespaces, t)) :
    List.Forall₂ (fun site entry => entry.1 = site.location ∧
        List.Forall₂ (fun member item => item.label = member.field "name" ∧
            (item.slot, item.offset) =
              positionByLabel (laidOut.getD plain).layout site.struct item.label ∧
            ∀ type, IsFirstOfLabel (laidOut.getD plain).layout site.struct type →
              (item.slot, item.offset) = positionWithin type item.label)
          (Ast.parts "members" site.struct) entry.2)
      ((contractsOf (laidOut.getD plain)).flatMap sitesOf) namespaces := by
  refine (arePlaced_of_load ⟨s, t, h⟩).imp fun site entry hentry => ⟨hentry.1, ?_⟩
  refine hentry.2.imp fun member item hitem => ⟨hitem.label, hitem.position, fun type htype => ?_⟩
  rw [hitem.position, htype.positionByLabel]

end Load

theorem positions_of_load_ownFirst : ∃ namespaces t,
    outcome (load ownPlace (compiledVault []) (some ownFirst)) {} = (.ok namespaces, t) ∧
    placesOf namespaces = [("erc7201:main", .str "total", some "0", some 0)] := by
  have hends : (outcome (load ownPlace (compiledVault []) (some ownFirst)) {}).1.toBool = true := by
    decide +kernel
  obtain ⟨namespaces, t, hrun⟩ := exists_outcome hends
  refine ⟨namespaces, t, hrun, ?_⟩
  have hsites : ((contractsOf ownFirst).flatMap sitesOf).map (fun site =>
      (site.struct, site.location)) = [(locatedMain, "erc7201:main")] := by decide +kernel
  obtain ⟨site, hsite, hlocated⟩ := List.map_eq_singleton_iff.1 hsites
  obtain ⟨hstruct, hlocation⟩ := Prod.mk.inj hlocated
  have hmembers : Ast.parts "members" locatedMain = [Validation.variableNode 25 "total"] := by
    decide +kernel
  have hfirst : IsFirstOfLabel ownFirst.layout locatedMain (mainType 12 ["total"]).2 :=
    ⟨[], [mainType 11 ["spare", "total"]], by decide +kernel, by decide +kernel, nofun⟩
  have hposition : positionWithin (mainType 12 ["total"]).2 (.str "total") = (some "0", some 0) := by
    decide +kernel
  have hplaces := positions_of_load hrun
  rw [Option.getD_some, hsite] at hplaces
  obtain ⟨entry, rest, ⟨hentry, hitems⟩, hrest, rfl⟩ := List.forall₂_cons_left_iff.1 hplaces
  obtain rfl := List.forall₂_nil_left_iff.1 hrest
  rw [hstruct, hmembers] at hitems
  obtain ⟨item, others, ⟨hlabel, -, hown⟩, hothers, hentryItems⟩ :=
    List.forall₂_cons_left_iff.1 hitems
  obtain rfl := List.forall₂_nil_left_iff.1 hothers
  have hitem : item.label = .str "total" := hlabel
  have hplace := hown _ hfirst
  rw [hitem, hposition] at hplace
  obtain ⟨hslot, hoffset⟩ := Prod.mk.inj hplace
  simp [placesOf, hentry, hlocation, hentryItems, hitem, hslot, hoffset]

/-- A layout lists one type of a struct, with the label of the struct. -/
def ListsOnce (layout struct : Json) : Prop :=
  ((layout.field "types").fields.filter fun entry => entry.1 = structTypeId struct).map
    (·.2.field "label") = [structLabel struct]

instance (layout struct : Json) : Decidable (ListsOnce layout struct) :=
  inferInstanceAs (Decidable (_ = [structLabel struct]))

/-- The members of a namespace may be where another struct has them: here each struct has a type of
its own, and the types are listed in the order of their identifiers, in which that of the struct of
the other source is the first. -/
theorem not_ownPosition_of_otherFirst :
    ((treeNodes twoVaults).filter isStruct).map structTypeId =
      ["t_struct(Main)11_storage", "t_struct(Main)12_storage"] ∧
    (∀ struct ∈ (treeNodes twoVaults).filter isStruct, ListsOnce otherFirst.layout struct) ∧
    ((contractsOf otherFirst).flatMap sitesOf).map (fun site =>
      (site.location, structTypeId site.struct)) = [("erc7201:main", "t_struct(Main)12_storage")] ∧
    (outcome (load ownPlace (compiledVault []) (some otherFirst)) {}).1.toOption.map placesOf =
      some [("erc7201:main", .str "total", some "1", some 0)] ∧
    positionWithin ((otherFirst.layout.field "types").field "t_struct(Main)12_storage")
      (.str "total") = (some "0", some 0) := by
  decide +kernel

end StorageUpgrade.Extract
