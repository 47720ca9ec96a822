import StorageUpgrade.Proofs.Extract.Compiled

/-!
# The types of the variables of a layout

The types of a layout start with those that the compiler computed.  Each variable then loads the types
that its type name refers to, and has a type with an entry in the table.

## Strategy

* A declaration is looked up by its number in the contracts that are inherited from.  The contracts
  before the one that declares it have no part with this number, as numbers are unique, so the lookup
  leads to the variable (`quiet_declaration?`).
* What is claimed of a variable is kept by filling, so it holds when all variables have been listed.
-/

namespace StorageUpgrade.Extract

open SyntaxM

variable {decode : SourceDecoder} {known : KnownTypes} {index : SyntaxIndex}

/-- The errors that the extraction of a layout may end with: a place is not in the sources, or something
is wrong with the namespaces. -/
inductive Excused (decode : SourceDecoder) : Error → Prop where
  | source {node : Json} {e : Error} : decode node = .error e → Excused decode e
  | arguments : Excused decode (.upgrade .locationArguments)
  | struct (name contract : Json) : Excused decode (.upgrade (.noPlainStruct name contract))
  | member (name label : Json) : Excused decode (.upgrade (.noPlainMember name label))
  | repeated (id : String) (contract : Json) (srcs : List String) :
      Excused decode (.upgrade (.duplicateNamespace id contract srcs))
  | inheritance (contract : Json) : Excused decode (.fault (.otherInheritance contract))
  | enumMember (name : Json) : Excused decode (.fault (.enumMemberInStruct name))

/-- A type is an identifier with an entry in a table. -/
def HasEntry (type : Json) (t : TypeTable) : Prop := ∃ id, type = .str id ∧ (Json.find? id t).isSome

theorem kept_hasEntry (type : Json) : Kept known (HasEntry type) := by
  rintro t t' hgrows ⟨id, hid, hsome⟩
  exact ⟨id, hid, Kept.isKey id hgrows hsome⟩

theorem loads_decode {P : TypeTable → Prop} (node : Json) :
    Loads known (Excused decode) P (decode node : SyntaxM String) fun _ => P :=
  loads_lift (fun _ _ _ h => h) fun _ => .source

/-! ### Types of declarations -/

theorem typeIdOf_eq {v : Json} (h : (Ast.describe v).toBool = true) :
    Ast.typeIdOf v = .ok (Ast.layoutId v) := by
  obtain ⟨⟨id, text⟩, hdescribe⟩ := Except.exists_of_toBool h
  rw [Ast.typeIdOf, hdescribe, Ast.layoutId, Ast.rawId_eq hdescribe]
  rfl

/-- The type of a declaration has an entry when its type name is loaded. -/
theorem Declares.hasEntry {v : Json} (h : Declares v) {t : TypeTable}
    (hloaded : Ast.Loaded index (v.field "typeName") t) : HasEntry (.str (Ast.layoutId v)) t := by
  have hself : v.field "typeName" ∈ Ast.typeNames (v.field "typeName") :=
    List.mem_filter.2 ⟨Ast.mem_nodes_iff.2 ⟨Ast.isNode_of_isOfKind h.typeName, .self⟩, h.typeName⟩
  obtain ⟨e, he, -⟩ := hloaded _ (.inside hself)
  refine ⟨_, rfl, ?_⟩
  rw [h.sameType, he]
  rfl

theorem Declares.exists_declared {v : Json} (h : Declares v) :
    ∃ was, Documentation.declared v = .ok was := by
  obtain ⟨doc, hdoc⟩ := Except.exists_of_toBool h.documented
  unfold Documentation.declared
  rw [hdoc]
  exact ⟨_, rfl⟩

theorem isStateVariable_eq {v : Json} (h : Ast.isNode v = true) :
    Ast.isStateVariable v = .ok (Ast.declaresStorage v) := by
  have hok : (Ast.isStateVariable v).toBool = true := by
    obtain ⟨es, rfl⟩ : ∃ es, v = .obj es := by
      cases v with
      | obj es => exact ⟨es, rfl⟩
      | _ => cases h
    unfold Ast.isStateVariable
    rw [Ast.hasKind_eq h]
    simp only [Json.lookup, bind, Except.bind]
    split <;> [rfl; (split <;> rfl)]
  obtain ⟨b, hb⟩ := Except.exists_of_toBool hok
  rw [Ast.declaresStorage, hb]

theorem isOfKind_of_declaresStorage {v : Json} (h : Ast.declaresStorage v = true)
    (hnode : Ast.isNode v = true) : Ast.isOfKind [Ast.variableDeclaration] v = true := by
  have hstate := isStateVariable_eq hnode
  rw [h, Ast.isStateVariable, Ast.hasKind_eq hnode] at hstate
  by_contra hkind
  rw [Bool.eq_false_iff.2 hkind] at hstate
  cases hstate

/-! ### Declared variables -/

variable {c : CompiledContract}

/-- Loading the type name of a declaration. -/
theorem loads_typeName {E : Error → Prop} {P : TypeTable → Prop}
    (hs : Ast.Setting known c.index (treeNodes c.output)) {v : Json} (hv : v ∈ treeNodes c.output)
    (hd : Declares v) :
    Loads known E P (Ast.loadType c.index (v.field "typeName"))
      fun _ t => Ast.Loaded c.index (v.field "typeName") t := by
  obtain ⟨hmem, hnode⟩ := CompiledContract.typeName_mem_nodes hv hd
  exact (hs.loads_loadType hmem hnode).under fun _ _ => trivial

theorem loads_declaredItem (hs : Ast.Setting known c.index (treeNodes c.output)) {contract v : Json}
    (hname : (contract.get "name").toBool = true) (hv : v ∈ treeNodes c.output) (hd : Declares v) :
    Loads known (Excused decode) (fun _ => True) (declaredItem decode c.index contract v)
      fun x t => HasEntry x.type t ∧ Ast.Loaded c.index (v.field "typeName") t := by
  obtain ⟨⟨retyped, renamed⟩, hdeclared⟩ := hd.exists_declared
  unfold declaredItem
  refine .quiet_bind (quiet_ask hdeclared) (.quiet_bind (quiet_ask (Json.get_eq hname)) ?_)
  refine .quiet_bind (quiet_ask (Json.get_eq hd.name))
    (.quiet_bind (quiet_lift (typeIdOf_eq hd.described)) ?_)
  refine (loads_decode v).bind fun src => .quiet_bind (quiet_ask (Json.lookup_eq hd.name _)) ?_
  refine (loads_typeName hs hv hd).bind fun _ => loads_pure fun t ht => ⟨?_, ht⟩
  exact hd.hasEntry ht

theorem loads_declaredItems (hs : Ast.Setting known c.index (treeNodes c.output)) {contract : Json}
    (hname : (contract.get "name").toBool = true) {nodes : List Json}
    (hnodes : ∀ v ∈ nodes, Ast.isNode v = true ∧ v ∈ treeNodes c.output)
    (hstate : ∀ v ∈ nodes, Ast.declaresStorage v = true → Declares v) :
    Loads known (Excused decode) (fun _ => True) (declaredItems decode c.index contract nodes)
      fun xs t => (∀ x ∈ xs, HasEntry x.type t) ∧
        ∀ v ∈ nodes.filter Ast.declaresStorage, Ast.Loaded c.index (v.field "typeName") t := by
  induction nodes with
  | nil => exact loads_pure fun _ _ => ⟨nofun, nofun⟩
  | cons v nodes ih =>
      obtain ⟨hnode, hv⟩ := hnodes v List.mem_cons_self
      have ih := ih (fun w hw => hnodes w (List.mem_cons_of_mem _ hw))
        fun w hw => hstate w (List.mem_cons_of_mem _ hw)
      unfold declaredItems
      refine .quiet_bind (quiet_ask (isStateVariable_eq hnode)) ?_
      rw [List.filter_cons]
      split
      · rename_i htakes
        have hd := hstate v List.mem_cons_self htakes
        have hmem := (CompiledContract.typeName_mem_nodes hv hd).1
        refine (loads_declaredItem hs hname hv hd).bind fun x => ?_
        refine (ih.keeping ((kept_hasEntry x.type).and (hs.kept_loaded hmem))).bind fun xs =>
          loads_pure fun t ht => ?_
        obtain ⟨⟨hxs, hvs⟩, hx, hloaded⟩ := ht
        exact ⟨List.forall_mem_cons.2 ⟨hx, hxs⟩, List.forall_mem_cons.2 ⟨hloaded, hvs⟩⟩
      · exact ih

/-! ### Placed variables -/

theorem findFirst_eq {test : Json → Except Json.Misuse Bool} {p : Json → Bool} {vs : List Json}
    (h : ∀ v ∈ vs, test v = .ok (p v)) : Namespace.findFirst test vs = .ok (vs.find? p) := by
  induction vs with
  | nil => rfl
  | cons v vs ih =>
      have htest := h v List.mem_cons_self
      have ih := ih fun w hw => h w (List.mem_cons_of_mem _ hw)
      rw [Namespace.findFirst, htest, ih]
      cases hp : p v
      · rw [List.find?_cons_of_neg (by simp [hp])]
        rfl
      · rw [List.find?_cons_of_pos hp]
        rfl

/-- The first part with a number. -/
theorem findFirst_number {b : Json} (hb : DeclaresParts b) (number : Json) :
    Namespace.findFirst (fun n => do .ok ((← n.lookup "id").alike number)) (Ast.parts "nodes" b) =
      .ok ((Ast.parts "nodes" b).find? fun n => (n.field "id").alike number) := by
  refine findFirst_eq fun v hv => ?_
  rw [Ast.lookup_eq (hb.nodes v hv).1]
  rfl

/-- Looking a declaration up by its number leads to the variable that has it. -/
theorem quiet_declaration? {n : Int} {v : Json} (hn : v.field "id" = .int n)
    (hkind : Ast.hasKind Ast.variableDeclaration v = .ok true) {ids contracts : List Json}
    (hids : List.Forall₂ (fun id b => c.contractOf? id = some b) ids contracts)
    (hcontracts : ∀ b ∈ contracts, DeclaresParts b)
    (honly : ∀ b ∈ contracts, ∀ part ∈ Ast.parts "nodes" b, part.field "id" = .int n → part = v)
    (hv : ∃ b ∈ contracts, v ∈ Ast.parts "nodes" b) :
    ∃ name, Quiet (declaration? c.index (.int n) ids) (some (v, name)) := by
  induction hids with
  | nil =>
      obtain ⟨b, hb, -⟩ := hv
      cases hb
  | @cons id b ids contracts hid hids ih =>
      have hb := hcontracts b List.mem_cons_self
      obtain ⟨nodes, hnodes, hfind, hcontract⟩ := CompiledContract.contractOf?_spec hid
      have hderef := SyntaxIndex.quiet_deref hnodes hfind hcontract
      have hlisted := quiet_ask (partsOf_eq hb.listed)
      have hfirst := findFirst_number hb (.int n)
      cases hfound : (Ast.parts "nodes" b).find? fun part => (part.field "id").alike (.int n) with
      | none =>
          have hother : ∃ b' ∈ contracts, v ∈ Ast.parts "nodes" b' := by
            obtain ⟨b', hb', hpart⟩ := hv
            rcases List.mem_cons.1 hb' with rfl | hb'
            · exact absurd (List.find?_eq_none.1 hfound v hpart) (by simp [hn])
            · exact ⟨b', hb', hpart⟩
          obtain ⟨name, hname⟩ := ih (fun b' hb' => hcontracts b' (List.mem_cons_of_mem _ hb'))
            (fun b' hb' => honly b' (List.mem_cons_of_mem _ hb')) hother
          refine ⟨name, ?_⟩
          unfold declaration?
          rw [hfound] at hfirst
          exact hderef.bind (hlisted.bind ((quiet_ask hfirst).bind hname))
      | some part =>
          have hpart := List.mem_of_find?_eq_some hfound
          obtain ⟨m, hm⟩ := Json.exists_int_of_isSome (hb.nodes part hpart).2
          have hmn : m = n := by
            have hsame := List.find?_some hfound
            simpa [hm] using hsame
          obtain rfl := honly b List.mem_cons_self part hpart (by rw [hm, hmn])
          refine ⟨b.field "name", ?_⟩
          unfold declaration?
          rw [hfound] at hfirst
          refine hderef.bind (hlisted.bind ((quiet_ask hfirst).bind ((quiet_ask hkind).bind ?_)))
          exact (quiet_ask (Json.get_eq hb.name)).bind (quiet_pure _)

namespace CompiledContract.WellFormed

theorem eq_of_id (hc : c.WellFormed) {v w : Json} (hv : v ∈ treeNodes c.output)
    (hw : w ∈ treeNodes c.output) {n : Int} (hvn : v.field "id" = .int n)
    (hwn : w.field "id" = .int n) : v = w := by
  obtain ⟨nodes, hnodes⟩ := hc.exists_nodes
  exact c.spans.eq_of_number hc.unambiguous hnodes hv hw (SyntaxIndex.numberOf?_of_field hvn)
    (SyntaxIndex.numberOf?_of_field hwn)

theorem mem_nodes_of_part (hc : c.WellFormed) {b part : Json} (hb : b ∈ c.inherited)
    (h : part ∈ Ast.parts "nodes" b) : part ∈ treeNodes c.output :=
  mem_nodes_of_mem_parts (mem_nodes_of_mem_inherited hb) (hc.declares b hb).listed h
    ((hc.declares b hb).nodes part h).1

/-- An entry of the layout of the compiler is about one variable, which is looked up for it. -/
theorem exists_declaration (hc : c.WellFormed) {entry : Json} (hp : c.Places entry) :
    ∃ v ∈ treeNodes c.output, Declares v ∧ (∀ w ∈ c.variablesOf entry, w = v) ∧
      ∃ name, Quiet (declaration? c.index (entry.field "astId") c.lineage) (some (v, name)) := by
  have hvariable : ∀ w ∈ c.variablesOf entry, ∃ b ∈ c.inherited, w ∈ Ast.parts "nodes" b ∧
      Ast.declaresStorage w = true ∧ w.field "id" = entry.field "astId" := by
    intro w hw
    obtain ⟨b, hb, hw⟩ := List.mem_flatMap.1 hw
    obtain ⟨hpart, htest⟩ := List.mem_filter.1 hw
    obtain ⟨hstate, hsame⟩ := Bool.and_eq_true_iff.1 htest
    obtain ⟨m, hm⟩ := Json.exists_int_of_isSome ((hc.declares b hb).nodes w hpart).2
    obtain ⟨n, hn⟩ := Json.exists_int_of_isSome hp.number
    rw [hm, hn] at hsame
    exact ⟨b, hb, hpart, hstate, by rw [hm, hn, eq_of_beq hsame]⟩
  obtain ⟨v, hv⟩ := List.exists_mem_of_ne_nil _ hp.declared
  obtain ⟨b, hb, hpart, hstate, hid⟩ := hvariable v hv
  obtain ⟨n, hn⟩ := Json.exists_int_of_isSome hp.number
  have hvn : v.field "id" = .int n := hid.trans hn
  have hmem := hc.mem_nodes_of_part hb hpart
  have hkind := isOfKind_of_declaresStorage hstate ((hc.declares b hb).nodes v hpart).1
  refine ⟨v, hmem, (hc.declares b hb).state v hpart hstate, fun w hw => ?_, ?_⟩
  · obtain ⟨b', hb', hpart', -, hid'⟩ := hvariable w hw
    exact hc.eq_of_id (hc.mem_nodes_of_part hb' hpart') hmem (hid'.trans hn) hvn
  · rw [hn]
    refine quiet_declaration? hvn ?_ (forall₂_filterMap fun id hid => (hc.lineage id hid).2)
      hc.declares (fun b' hb' part hpart' hm => ?_) ⟨b, hb, hpart⟩
    · rw [Ast.hasKind_eq (Ast.isNode_of_isOfKind hkind), hkind]
    · exact hc.eq_of_id (hc.mem_nodes_of_part hb' hpart') hmem hm hvn

end CompiledContract.WellFormed

theorem loads_placedItem (hs : Ast.Setting known c.index (treeNodes c.output)) (hc : c.WellFormed)
    {entry : Json} (hp : c.Places entry) :
    Loads known (Excused decode) (HasEntry (entry.field "type"))
      (placedItem decode c.index c.contract entry) fun x t =>
        HasEntry x.type t ∧ ∀ v ∈ c.variablesOf entry, Ast.Loaded c.index (v.field "typeName") t := by
  obtain ⟨v, hv, hd, honly, name, hquiet⟩ := hc.exists_declaration hp
  obtain ⟨⟨retyped, renamed⟩, hdeclared⟩ := hd.exists_declared
  obtain ⟨offset, hoffset⟩ := Except.exists_of_toBool hp.offset
  obtain ⟨type, -, htype⟩ := hp.type
  have hget : entry.get "type" = .ok (entry.field "type") :=
    Json.field_of_contains (by rw [htype]; exact nofun)
  unfold placedItem
  refine .quiet_bind (quiet_ask (Json.lookup_eq hp.label _))
    (.quiet_bind hc.inherits.quiet_linearized (.quiet_bind hquiet (.quiet_bind (quiet_ask hdeclared)
      (.quiet_bind (quiet_ask (Json.lookup_eq hd.name _)) ?_))))
  have hload := (loads_typeName (E := Excused decode) hs hv hd).keeping
    (kept_hasEntry (entry.field "type"))
  refine hload.bind fun _ => .quiet_bind (quiet_ask (Json.get_eq hp.label))
    (.quiet_bind (quiet_ask hget) ?_)
  refine (loads_decode v).bind fun src => .quiet_bind (quiet_ask (Json.get_eq hp.slot))
    (.quiet_bind (quiet_ask hoffset) (loads_pure fun t ht => ⟨ht.2, fun w hw => ?_⟩))
  rw [honly w hw]
  exact ht.1

/-! ### All variables -/

theorem find?_mergeTypes {older newer : TypeTable} (h : (newer.map (·.1)).Nodup) (id : String) :
    Json.find? id (mergeTypes older newer) = Json.find? id (newer ++ older) := by
  induction newer generalizing older with
  | nil => rfl
  | cons entry newer ih =>
      obtain ⟨k, e⟩ := entry
      obtain ⟨hnot, hnodup⟩ := List.nodup_cons.1 h
      have hstep : mergeTypes older ((k, e) :: newer) = mergeTypes (Json.put k e older) newer := rfl
      rw [hstep, ih hnodup, List.cons_append, Json.find?_cons, Json.find?_append, Json.find?_append,
        Json.find?_put]
      by_cases hk : id = k
      · subst hk
        have hnone : Json.find? id newer = none := by
          by_contra hsome
          obtain ⟨e', he'⟩ := Option.ne_none_iff_exists'.1 hsome
          exact hnot (List.mem_map.2 ⟨_, Json.mem_of_find? he', rfl⟩)
        simp [hnone]
      · rw [if_neg hk, if_neg (Ne.symm hk)]

namespace CompiledContract

/-- The types that compilers computed: those of the layout of the contract, and those of the layout of
a second compilation where the first one has none of that identifier. -/
def given (c : CompiledContract) (laidOut : Option CompiledContract) : TypeTable :=
  if c.layout.isNull then [] else c.types ++ (laidOut.map types).getD []

/-- The type name of a variable of an inherited contract is a node. -/
theorem WellFormed.typeName_mem_of_state (hc : c.WellFormed) {b v : Json} (hb : b ∈ c.inherited)
    (hv : v ∈ Ast.parts "nodes" b) (htakes : Ast.declaresStorage v = true) :
    v.field "typeName" ∈ treeNodes c.output :=
  (typeName_mem_nodes (hc.mem_nodes_of_part hb hv) ((hc.declares b hb).state v hv htakes)).1

theorem WellFormed.typeName_mem_of_variablesOf (hc : c.WellFormed) {entry v : Json}
    (h : v ∈ c.variablesOf entry) : v.field "typeName" ∈ treeNodes c.output := by
  obtain ⟨b, hb, hv⟩ := List.mem_flatMap.1 h
  obtain ⟨hpart, htest⟩ := List.mem_filter.1 hv
  exact hc.typeName_mem_of_state hb hpart (Bool.and_eq_true_iff.1 htest).1

theorem WellFormed.mem_nodes_of_mem_variableTypes (hc : c.WellFormed) {root : Json}
    (h : root ∈ c.variableTypes) : root ∈ treeNodes c.output := by
  rw [variableTypes] at h
  split at h
  · obtain ⟨v, hv, rfl⟩ := List.mem_map.1 h
    obtain ⟨hpart, htakes⟩ := List.mem_filter.1 hv
    exact hc.typeName_mem_of_state hc.self hpart htakes
  · obtain ⟨entry, -, h⟩ := List.mem_flatMap.1 h
    obtain ⟨v, hv, rfl⟩ := List.mem_map.1 h
    exact hc.typeName_mem_of_variablesOf hv

end CompiledContract

variable {laidOut : Option CompiledContract}

/-- What is known when the variables have been listed: their types have entries, their type names are
loaded, and what the compilers computed is there. -/
structure VariablesClosed (known : KnownTypes) (c : CompiledContract)
    (laidOut : Option CompiledContract) (xs : List Item) (t : TypeTable) : Prop where
  items : ∀ x ∈ xs, HasEntry x.type t
  loaded : ∀ root ∈ c.variableTypes, Ast.Loaded c.index root t
  given : Grows known (c.given laidOut) t

theorem kept_variablesClosed (hs : Ast.Setting known c.index (treeNodes c.output))
    (hc : c.WellFormed) (xs : List Item) : Kept known (VariablesClosed known c laidOut xs) := by
  intro t t' hgrows h
  refine ⟨fun x hx => kept_hasEntry x.type hgrows (h.items x hx), fun root hroot => ?_,
    h.given.trans hgrows⟩
  exact hs.kept_loaded (hc.mem_nodes_of_mem_variableTypes hroot) hgrows (h.loaded root hroot)

/-- The layout of a second compilation, `null` if there is none. -/
def secondLayout (laidOut : Option Compilation) : Json := (laidOut.map (·.layout)).getD .null

/-- The types of the layout of a second compilation are read, none if there is no such layout. -/
theorem exists_olderTypes (hlaidOut : ∀ d ∈ laidOut, d.WellFormed) : ∃ more,
    compilerTypes more = .ok ((laidOut.map (·.types)).getD []) ∧
    (secondLayout (laidOut.map (·.compilation)) = .null → more = .null) ∧
    (secondLayout (laidOut.map (·.compilation)) ≠ .null →
      (secondLayout (laidOut.map (·.compilation))).lookup "types" = .ok more) := by
  cases laidOut with
  | none => exact ⟨.null, rfl, fun _ => rfl, fun h => absurd rfl h⟩
  | some d =>
      have hd := hlaidOut d rfl
      by_cases hnull : d.layout = .null
      · refine ⟨.null, ?_, fun _ => rfl, fun h => absurd hnull h⟩
        simp only [Option.map_some, Option.getD_some, CompiledContract.types, hnull]
        rfl
      · obtain ⟨types, htypes⟩ := Except.exists_of_toBool (hd.laidOut hnull).types
        obtain ⟨more, hmore, hread⟩ := exists_of_bind_ok htypes
        refine ⟨more, ?_, fun h => absurd h hnull, fun _ => hmore⟩
        simp only [Option.map_some, Option.getD_some, CompiledContract.types, htypes, hread]

theorem grows_nil (t : TypeTable) : Grows known [] t := fun _ _ h => by cases h

/-- Without a layout of the compiler, the contract itself declares the variables. -/
theorem loads_declaredVariables (hs : Ast.Setting known c.index (treeNodes c.output))
    (hc : c.WellFormed) (hnull : c.layout.isNull = true) :
    Loads known (Excused decode) (fun _ => True)
      (declaredItems decode c.index c.contract (Ast.parts "nodes" c.contract))
      (VariablesClosed known c laidOut) := by
  have hself := hc.declares c.contract hc.self
  have hnodes : ∀ v ∈ Ast.parts "nodes" c.contract, Ast.isNode v = true ∧ v ∈ treeNodes c.output :=
    fun v hv => ⟨(hself.nodes v hv).1, hc.mem_nodes_of_part hc.self hv⟩
  refine (loads_declaredItems hs hself.name hnodes hself.state).mono fun xs t ht =>
    ⟨ht.1, fun root hroot => ?_, ?_⟩
  · rw [CompiledContract.variableTypes, if_pos hnull] at hroot
    obtain ⟨v, hv, rfl⟩ := List.mem_map.1 hroot
    exact ht.2 v hv
  · rw [CompiledContract.given, if_pos hnull]
    exact grows_nil t

/-- With a layout of the compiler, its entries are the variables. -/
theorem loads_placedVariables (hs : Ast.Setting known c.index (treeNodes c.output))
    (hc : c.WellFormed) (hnull : ¬ c.layout.isNull = true) :
    Loads known (Excused decode) (Grows known (c.given laidOut))
      ((Ast.parts "storage" c.layout).mapM (placedItem decode c.index c.contract))
      (VariablesClosed known c laidOut) := by
  have hl := hc.laidOut fun h => hnull (by rw [h]; rfl)
  have hentry : ∀ entry ∈ Ast.parts "storage" c.layout, ∀ t, Grows known (c.given laidOut) t →
      HasEntry (entry.field "type") t := by
    intro entry hentry t hgrows
    obtain ⟨id, hid, htype⟩ := (hl.entries entry hentry).type
    refine ⟨id, htype, Kept.isKey id hgrows ?_⟩
    obtain ⟨⟨_, e⟩, he, rfl⟩ := List.mem_map.1 hid
    rw [CompiledContract.given, if_neg hnull, Json.find?_append, Json.find?_of_mem hl.distinct he]
    rfl
  have hkept : ∀ entry (x : Item), Kept known fun t => HasEntry x.type t ∧
      ∀ v ∈ c.variablesOf entry, Ast.Loaded c.index (v.field "typeName") t := by
    intro entry x
    refine (kept_hasEntry x.type).and (.all fun v t t' hgrows h hv => ?_)
    exact hs.kept_loaded (hc.typeName_mem_of_variablesOf hv) hgrows (h hv)
  have hgrows : Kept known (Grows known (c.given laidOut)) := .grows _
  refine (((Loads.mapM hgrows hkept fun entry he => (loads_placedItem hs hc
    (hl.entries entry he)).under (hentry entry he)).keep hgrows).under fun _ h => ⟨h, h⟩).mono
    fun xs t ⟨hxs, hgiven⟩ => ⟨fun x hx => ?_, ?_, hgiven⟩
  · obtain ⟨entry, -, hx, -⟩ := exists_left_of_mem hxs hx
    exact hx
  · intro root hroot
    rw [CompiledContract.variableTypes, if_neg hnull] at hroot
    obtain ⟨entry, he, hroot⟩ := List.mem_flatMap.1 hroot
    obtain ⟨v, hv, rfl⟩ := List.mem_map.1 hroot
    obtain ⟨x, -, -, hloaded⟩ := exists_right_of_mem hxs he
    exact hloaded v hv

/-- Listing the variables enters their types in an empty table. -/
theorem loads_stateVariables (hs : Ast.Setting known c.index (treeNodes c.output))
    (hc : c.WellFormed) (hlaidOut : ∀ d ∈ laidOut, d.WellFormed) :
    Loads known (Excused decode) (· = [])
      (stateVariables decode c.compilation (laidOut.map (·.compilation)))
      fun found => VariablesClosed known c laidOut found.1 := by
  have hself := hc.declares c.contract hc.self
  have hlayout : c.compilation.layout = c.layout := rfl
  unfold stateVariables
  rw [hlayout]
  split
  · rename_i hnull
    refine .quiet_bind (quiet_ask (partsOf_eq hself.listed)) ?_
    exact ((loads_declaredVariables hs hc hnull).under fun _ _ => trivial).bind fun xs =>
      loads_pure fun _ h => h
  · rename_i hnull
    have hl := hc.laidOut fun h => hnull (by rw [h]; rfl)
    have htypes : (c.layout.lookup "types" >>= compilerTypes) = .ok c.types := by
      obtain ⟨types, htypes⟩ := Except.exists_of_toBool hl.types
      rw [CompiledContract.types, htypes]
    obtain ⟨more, holder, hmoreNull, hmore⟩ := exists_olderTypes hlaidOut
    have hrest : Loads known (Excused decode) (· = []) (do
        let older ← ask (compilerTypes more)
        let newer ← ask (c.layout.lookup "types" >>= compilerTypes)
        modify fun s => { s with types := mergeTypes older newer }
        let storage ← ask (Ast.partsOf "storage" c.layout)
        return (← storage.mapM (placedItem decode c.index c.contract), true))
        fun found => VariablesClosed known c laidOut found.1 := by
      refine .quiet_bind (quiet_ask holder) (.quiet_bind (quiet_ask htypes) ?_)
      refine (loads_modify (Q := fun _ => Grows known (c.given laidOut)) fun s hs => ?_).bind
        fun _ => .quiet_bind (quiet_ask (partsOf_eq hl.listed)) ?_
      · refine ⟨by rw [hs]; exact grows_nil _,
          fun id e he => ⟨e, ?_, ⟨rfl, rfl, fun _ => rfl, .inl rfl⟩⟩⟩
        rw [CompiledContract.given, if_neg hnull] at he
        exact (find?_mergeTypes hl.distinct id).trans he
      · exact (loads_placedVariables hs hc hnull).bind fun xs => loads_pure fun _ h => h
    split
    · rename_i hnone
      obtain rfl := hmoreNull hnone
      exact .quiet_bind (quiet_pure _) hrest
    · rename_i hsome
      exact .quiet_bind (quiet_ask (hmore hsome)) hrest

end StorageUpgrade.Extract
