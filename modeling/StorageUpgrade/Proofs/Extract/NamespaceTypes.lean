import StorageUpgrade.Proofs.Extract.NamespaceMembers

/-!
# The types of the namespaces of a layout

The structs with a location, of all contracts that are inherited from, become namespaces, and their
members load the types that their type names refer to.  Only the first struct of a location gives
members; when there are more of them, the layout is refused in the end.

## Strategy

* While structs are gone through, each struct with a location is still to come, or its members are
  loaded, or some location has been found more than once (`Gathered`).
* The last case remains: what is found more than once stays so, and no layout comes of it
  (`of_unique`).
-/

namespace StorageUpgrade.Extract

open SyntaxM Namespace

variable {decode : SourceDecoder} {known : KnownTypes} {index : SyntaxIndex} {c : CompiledContract}

/-! ### Going through structs -/

/-- A location was found more than once. -/
def Repeated (found : List (String × Namespace.Found)) : Prop :=
  ∃ location f, Json.find? location found = some f ∧ 1 < f.srcs.length

/-- While structs are gone through, what was found has types with entries, and the members of structs
with a location that are not pending are loaded, unless a location was found more than once. -/
structure Gathered (index : SyntaxIndex) (structs pending : List Json)
    (found : List (String × Namespace.Found)) (t : TypeTable) : Prop where
  items : ∀ entry ∈ found, ∀ x ∈ entry.2.items, HasEntry x.type t
  srcs : ∀ entry ∈ found, 1 ≤ entry.2.srcs.length
  structs : ∀ struct ∈ structs, hasLocation struct = true → struct ∈ pending ∨ Repeated found ∨
    ∀ m ∈ Ast.parts "members" struct, Ast.Loaded index (m.field "typeName") t

theorem Repeated.put {location : String} {f : Namespace.Found}
    {found : List (String × Namespace.Found)} (h : Repeated found)
    (hf : ∀ g, Json.find? location found = some g → 1 < g.srcs.length → 1 < f.srcs.length) :
    Repeated (Json.put location f found) := by
  obtain ⟨l, g, hg, hlength⟩ := h
  by_cases hl : l = location
  · subst hl
    exact ⟨l, f, by simp, hf g hg hlength⟩
  · exact ⟨l, g, by rw [Json.find?_put, if_neg hl, hg], hlength⟩

namespace Gathered

variable {structs pending : List Json} {struct : Json} {location src : String}
  {found : List (String × Namespace.Found)} {t : TypeTable}

theorem init (index : SyntaxIndex) (structs : List Json) (t : TypeTable) :
    Gathered index structs structs [] t := ⟨nofun, nofun, fun _ h _ => .inl h⟩

theorem skip (h : Gathered index structs (struct :: pending) found t)
    (hlocation : ¬ hasLocation struct = true) : Gathered index structs pending found t := by
  refine ⟨h.items, h.srcs, fun other hother hhas => (h.structs other hother hhas).imp_left ?_⟩
  intro hpending
  rcases List.mem_cons.1 hpending with rfl | hpending
  · exact absurd hhas hlocation
  · exact hpending

/-- Another struct of a location that is known. -/
theorem again (h : Gathered index structs (struct :: pending) found t) {f : Namespace.Found}
    (hf : Json.find? location found = some f) :
    Gathered index structs pending (Json.put location { f with srcs := f.srcs ++ [src] } found) t := by
  have hmem := Json.mem_of_find? hf
  have hlength : 1 ≤ f.srcs.length := h.srcs _ hmem
  refine ⟨fun entry hentry => ?_, fun entry hentry => ?_, fun other _ _ => .inr (.inl ?_)⟩
  · rcases Json.of_mem_put hentry with rfl | hentry
    · exact h.items (location, f) hmem
    · exact h.items entry hentry
  · rcases Json.of_mem_put hentry with rfl | hentry
    · simp
    · exact h.srcs entry hentry
  · refine ⟨location, _, by rw [Json.find?_put, if_pos rfl], ?_⟩
    rw [List.length_append, List.length_singleton]
    omega

/-- The first struct of a location. -/
theorem first (h : Gathered index structs (struct :: pending) found t) {xs : List Item}
    (hnew : Json.find? location found = none) (hxs : ∀ x ∈ xs, HasEntry x.type t)
    (hloaded : ∀ m ∈ Ast.parts "members" struct, Ast.Loaded index (m.field "typeName") t) :
    Gathered index structs pending (Json.put location ⟨xs, [src]⟩ found) t := by
  refine ⟨fun entry hentry => ?_, fun entry hentry => ?_, fun other hother hhas => ?_⟩
  · rcases Json.of_mem_put hentry with rfl | hentry
    · exact hxs
    · exact h.items entry hentry
  · rcases Json.of_mem_put hentry with rfl | hentry
    · exact Nat.le_refl 1
    · exact h.srcs entry hentry
  · rcases h.structs other hother hhas with hpending | hrepeated | hmembers
    · rcases List.mem_cons.1 hpending with rfl | hpending
      · exact .inr (.inr hloaded)
      · exact .inl hpending
    · refine .inr (.inl (hrepeated.put fun g hg => ?_))
      rw [hnew] at hg
      cases hg
    · exact .inr (.inr hmembers)

end Gathered

/-- Structs of a compilation, with what a namespace needs. -/
def AreStructs (c : CompiledContract) (structs : List Json) : Prop :=
  ∀ struct ∈ structs, struct ∈ treeNodes c.output ∧ DeclaresMembers struct

theorem kept_gathered (hs : Ast.Setting known c.index (treeNodes c.output)) {structs : List Json}
    (hstructs : AreStructs c structs) (pending : List Json)
    (found : List (String × Namespace.Found)) :
    Kept known (Gathered c.index structs pending found) := by
  intro t t' hgrows h
  refine ⟨fun entry hentry x hx => kept_hasEntry x.type hgrows (h.items entry hentry x hx), h.srcs,
    fun struct hstruct hhas => (h.structs struct hstruct hhas).imp_right (.imp_right ?_)⟩
  intro hmembers m hm
  obtain ⟨hmem, hd⟩ := hstructs struct hstruct
  exact hs.kept_loaded (typeName_mem_of_member hmem hd hm) hgrows (hmembers m hm)

theorem excused_of_location? {node : Json} (hdoc : (Documentation.textOfNode node).toBool = true)
    {e : Error} (h : Documentation.location? node = .error e) : Excused decode e := by
  obtain ⟨doc, hdoc⟩ := Except.exists_of_toBool hdoc
  unfold Documentation.location? at h
  rw [lift_bind hdoc] at h
  split at h
  · cases h
  · split at h <;> cases h
    exact .arguments

theorem hasLocation_eq {struct : Json} {location? : Option String}
    (h : Documentation.location? struct = .ok location?) :
    hasLocation struct = location?.isSome := by
  rw [hasLocation, h]
  cases location? <;> rfl

section Structs

variable (hs : Ast.Setting known c.index (treeNodes c.output)) (hc : c.WellFormed)
  {structs : List Json} (hstructs : AreStructs c structs) {b plain : Json}
  (hb : (b.get "name").toBool = true) (hplain : DeclaresParts plain)

include hs hc hstructs hb hplain

/-- A struct that defines a namespace adds it. -/
theorem loads_addStruct {struct : Json} (hstruct : struct ∈ structs) (pending : List Json)
    (found : List (String × Namespace.Found)) :
    Loads known (Excused decode) (Gathered c.index structs (struct :: pending) found)
      (addStruct decode (c.compilationOf b) plain found struct)
      (Gathered c.index structs pending) := by
  obtain ⟨hmem, hd⟩ := hstructs struct hstruct
  unfold addStruct
  refine Loads.bind (Q := fun location? t => Documentation.location? struct = .ok location? ∧
    Gathered c.index structs (struct :: pending) found t)
    (loads_lift (fun _ h _ ht => ⟨h, ht⟩) fun e he => excused_of_location? hd.documented he)
    fun location? => .of_condition (fun _ ht => ht.1) fun hlocation => ?_
  have hhas := hasLocation_eq hlocation
  cases location? with
  | none => exact loads_pure fun t ht => ht.2.skip (by rw [hhas]; exact Bool.false_ne_true)
  | some location =>
      refine .quiet_bind (quiet_ask (Json.get_eq hd.name)) ?_
      refine (loads_plainStruct hplain _).bind fun place => (loads_decode place).bind fun src => ?_
      split
      · rename_i f hf
        exact loads_pure fun t ht => ht.2.2.again hf
      · rename_i hnew
        refine .quiet_bind (quiet_ask (Json.get_eq hb)) (.quiet_bind (quiet_say _ _) ?_)
        have hkept := kept_gathered hs hstructs (struct :: pending) found
        refine (((loads_namespaceItems hs hb hplain hmem hd hc).keeping hkept).under
          fun t ht => ht.2.2).bind fun xs => loads_pure fun t ht => ?_
        exact ht.2.first hnew ht.1.1 ht.1.2

/-- The structs among some parts of a contract add their namespaces. -/
theorem loads_addStructs {nodes : List Json} (hnodes : ∀ v ∈ nodes, Ast.isNode v = true)
    (hmem : ∀ v ∈ nodes.filter isStruct, v ∈ structs) (pending : List Json) :
    ∀ found : List (String × Namespace.Found),
      Loads known (Excused decode) (Gathered c.index structs (nodes.filter isStruct ++ pending) found)
        (addStructs decode (c.compilationOf b) plain found nodes)
        (Gathered c.index structs pending) := by
  induction nodes with
  | nil => exact fun found => loads_pure fun t ht => ht
  | cons node nodes ih =>
      intro found
      have hasked : Ast.isDefinition .struct node = .ok (isStruct node) :=
        Ast.hasKind_eq (hnodes node List.mem_cons_self) _
      have hlater := fun v hv => hnodes v (List.mem_cons_of_mem _ hv)
      unfold addStructs
      refine .quiet_bind (quiet_ask hasked) ?_
      rw [List.filter_cons] at hmem ⊢
      split
      · rename_i hstruct
        rw [if_pos hstruct] at hmem
        exact (loads_addStruct hs hc hstructs hb hplain (hmem node List.mem_cons_self) _ found).bind
          fun found' => ih hlater (fun v hv => hmem v (List.mem_cons_of_mem _ hv)) found'
      · rename_i hstruct
        rw [if_neg hstruct] at hmem
        exact ih hlater hmem found

end Structs

/-! ### The namespaces of a contract -/

theorem areStructs_inherited (hc : c.WellFormed) :
    AreStructs c (c.inherited.flatMap structsOf) := by
  intro struct hstruct
  obtain ⟨b, hb, hstruct⟩ := List.mem_flatMap.1 hstruct
  exact ⟨hc.mem_nodes_of_part hb (List.mem_filter.1 hstruct).1,
    (hc.declares b hb).structs struct hstruct⟩

theorem mem_nodes_of_mem_memberTypes (hc : c.WellFormed) {root : Json} (h : root ∈ c.memberTypes) :
    root ∈ treeNodes c.output := by
  obtain ⟨b, hb, h⟩ := List.mem_flatMap.1 h
  obtain ⟨struct, hstruct, h⟩ := List.mem_flatMap.1 h
  obtain ⟨m, hm, rfl⟩ := List.mem_map.1 h
  obtain ⟨hmem, hd⟩ := areStructs_inherited hc struct
    (List.mem_flatMap.2 ⟨b, hb, (List.mem_filter.1 hstruct).1⟩)
  exact typeName_mem_of_member hmem hd hm

/-- Going through the structs of all contracts that are inherited from. -/
theorem loads_found (hs : Ast.Setting known c.index (treeNodes c.output)) (hc : c.WellFormed)
    {plains : List Json} (hplains : ∀ plain ∈ plains, DeclaresParts plain)
    (hlength : c.inherited.length = plains.length) :
    Loads known (Excused decode) (fun _ => True)
      ((c.inherited.zip plains).foldlM (fun found (b, plain) =>
        addContract decode (c.compilationOf b) plain found) [])
      (Gathered c.index (c.inherited.flatMap structsOf) []) := by
  have hall : (c.inherited.zip plains).flatMap (fun pair => structsOf pair.1) =
      c.inherited.flatMap structsOf := by
    rw [← List.flatMap_map, List.map_fst_zip hlength.le]
  have hpairs : ∀ pair ∈ c.inherited.zip plains, pair.1 ∈ c.inherited ∧ DeclaresParts pair.2 :=
    fun pair hpair => ⟨(List.of_mem_zip hpair).1, hplains _ (List.of_mem_zip hpair).2⟩
  refine ((Loads.foldlM (I := fun rest found t =>
    (∀ pair ∈ rest, pair.1 ∈ c.inherited ∧ DeclaresParts pair.2) ∧
      Gathered c.index (c.inherited.flatMap structsOf) (rest.flatMap fun pair => structsOf pair.1)
        found t) ?_).under fun t _ => ⟨hpairs, hall ▸ .init _ _ _⟩).mono fun _ _ h => h.2
  rintro ⟨b, plain⟩ rest found
  refine .of_condition (fun t ht => ht.1) fun hrest => ?_
  obtain ⟨hb, hplain⟩ := hrest _ List.mem_cons_self
  have hparts := hc.declares b hb
  unfold addContract
  refine .quiet_bind (quiet_ask (partsOf_eq hparts.listed)) ?_
  refine ((loads_addStructs hs hc (areStructs_inherited hc) hparts.name hplain
    (fun v hv => (hparts.nodes v hv).1) (fun v hv => List.mem_flatMap.2 ⟨b, hb, hv⟩) _ found).under
    fun t ht => ht.2).mono fun found' t ht => ⟨fun pair hpair => hrest pair ?_, ht⟩
  exact List.mem_cons_of_mem _ hpair

/-- The namespaces of a layout are those found, and none of them was found more than once. -/
theorem of_unique {contract : Json} {found : List (String × Namespace.Found)} :
    ∀ {namespaces : List (String × List Item)}, unique contract found = .ok namespaces →
      namespaces = found.map (fun entry => (entry.1, entry.2.items)) ∧ ¬ Repeated found := by
  induction found with
  | nil =>
      intro namespaces h
      cases h
      refine ⟨rfl, ?_⟩
      rintro ⟨location, f, hf, -⟩
      cases hf
  | cons entry found ih =>
      obtain ⟨id, f⟩ := entry
      intro namespaces h
      unfold unique at h
      split at h
      · obtain ⟨name, -, h⟩ := exists_of_bind_ok h
        split at h
        · cases h
        · obtain ⟨other, -, h⟩ := exists_of_bind_ok h
          cases h
      · rename_i hlength
        obtain ⟨rest, hrest, h⟩ := exists_of_bind_ok h
        cases h
        obtain ⟨rfl, hnot⟩ := ih hrest
        refine ⟨rfl, ?_⟩
        rintro ⟨location, g, hg, hmany⟩
        rw [Json.find?_cons] at hg
        split at hg
        · cases hg
          exact hlength hmany
        · exact hnot ⟨location, g, hg, hmany⟩

theorem excused_of_unique {contract : Json} (hname : (contract.get "name").toBool = true)
    {found : List (String × Namespace.Found)} {e : Error} (h : unique contract found = .error e) :
    Excused decode e := by
  induction found with
  | nil => cases h
  | cons entry found ih =>
      obtain ⟨id, f⟩ := entry
      unfold unique at h
      split at h
      · rw [lift_bind (Json.lookup_eq hname _)] at h
        split at h
        · cases h
          exact .repeated _ _ _
        · rw [lift_bind (Json.get_eq hname)] at h
          cases h
          exact .repeated _ _ _
      · cases hrest : unique contract found with
        | ok rest =>
            rw [hrest] at h
            cases h
        | error e' =>
            rw [hrest] at h
            cases h
            exact ih hrest

/-- What the namespaces of a layout come to when all structs have been gone through. -/
theorem closed_of_gathered {contract : Json} {found : List (String × Namespace.Found)}
    {t : TypeTable} (h : Gathered c.index (c.inherited.flatMap structsOf) [] found t)
    {namespaces : List (String × List Item)} (hunique : unique contract found = .ok namespaces) :
    (∀ entry ∈ namespaces, ∀ x ∈ entry.2, HasEntry x.type t) ∧
      ∀ root ∈ c.memberTypes, Ast.Loaded c.index root t := by
  obtain ⟨rfl, hnot⟩ := of_unique hunique
  refine ⟨fun entry hentry => ?_, fun root hroot => ?_⟩
  · obtain ⟨f, hf, rfl⟩ := List.mem_map.1 hentry
    exact h.items f hf
  · obtain ⟨b, hb, hroot⟩ := List.mem_flatMap.1 hroot
    obtain ⟨struct, hstruct, hroot⟩ := List.mem_flatMap.1 hroot
    obtain ⟨hstruct, hhas⟩ := List.mem_filter.1 hstruct
    obtain ⟨m, hm, rfl⟩ := List.mem_map.1 hroot
    rcases h.structs struct (List.mem_flatMap.2 ⟨b, hb, hstruct⟩) hhas with hpending | hrepeated | hl
    · cases hpending
    · exact absurd hrepeated hnot
    · exact hl m hm

/-- Loading the namespaces loads the types of their members. -/
theorem loads_load {laidOut : Option CompiledContract} (hc : c.WellFormed)
    (hlaidOut : ∀ d ∈ laidOut, d.WellFormed)
    (hs : Ast.Setting known (laidOut.getD c).index (treeNodes (laidOut.getD c).output)) :
    Loads known (Excused decode) (fun _ => True)
      (Namespace.load decode c.compilation (laidOut.map (·.compilation))) fun namespaces t =>
        (∀ entry ∈ namespaces, ∀ x ∈ entry.2, HasEntry x.type t) ∧
          ∀ root ∈ (laidOut.getD c).memberTypes, Ast.Loaded (laidOut.getD c).index root t := by
  have hname := (hc.declares c.contract hc.self).name
  have hunique : ∀ (d : CompiledContract) (found : List (String × Namespace.Found)),
      Loads known (Excused decode) (Gathered d.index (d.inherited.flatMap structsOf) [] found)
        (unique c.contract found : SyntaxM _) fun namespaces t =>
          (∀ entry ∈ namespaces, ∀ x ∈ entry.2, HasEntry x.type t) ∧
            ∀ root ∈ d.memberTypes, Ast.Loaded d.index root t := fun d found =>
    loads_lift (fun _ h t ht => closed_of_gathered ht h) fun e he => excused_of_unique hname he
  unfold Namespace.load
  refine .quiet_bind hc.inherits.quiet_linearizedContracts ?_
  cases laidOut with
  | none =>
      refine .quiet_bind (quiet_pure _) ?_
      exact (loads_found hs hc hc.declares rfl).bind (hunique c)
  | some d =>
      refine .quiet_bind (hlaidOut d rfl).inherits.quiet_linearizedContracts ?_
      split
      · exact .quiet_bind (quiet_ask (Json.get_eq hname)) (loads_throw (.inheritance _))
      · rename_i hlength
        refine .quiet_bind (quiet_pure _) ?_
        exact (loads_found hs (hlaidOut d rfl) hc.declares (not_not.1 hlength)).bind
          (hunique d)

end StorageUpgrade.Extract
