import StorageUpgrade.Proofs.Extract.NamespaceTypes

/-!
# The types of a layout are closed

A layout is extracted with a table of types.  When the references of the syntax trees and of the layout
of the compiler resolve, the extraction ends with a layout unless a place is not in the sources or
something is wrong with the namespaces.  The table then has an entry for the type of each variable and
of each member of a namespace, and for all type names that their type names lead to, through the
definitions that these refer to; the entries of structs and enums have members, those of user defined
value types have the type they stand for, and what the compiler computed is unchanged.

## Strategy

* The variables are listed from an empty table (`loads_stateVariables`), and the namespaces fill what
  this leaves (`loads_load`), which keeps what is claimed of the variables.
* What a user defined value type stands for may be set again, so a second compilation must agree on it
  with the first one (`Agrees`).
-/

namespace StorageUpgrade.Extract

open SyntaxM

variable {c : CompiledContract} {laidOut : Option CompiledContract}

namespace CompiledContract

/-- What a compilation says of user defined value types. -/
def underlyings (c : CompiledContract) : List (String × Json) :=
  Ast.underlyings c.index (treeNodes c.output)

/-- Two compilations agree on the user defined value types that both of them have. -/
def Agrees (c d : CompiledContract) : Prop :=
  ∀ u ∈ c.underlyings, ∀ v ∈ d.underlyings, u.1 = v.1 → u.2 = v.2

instance (c d : CompiledContract) : Decidable (c.Agrees d) :=
  inferInstanceAs (Decidable (∀ u ∈ c.underlyings, ∀ v ∈ d.underlyings, u.1 = v.1 → u.2 = v.2))

end CompiledContract

/-- A table covers some type names: those that are reached from them have entries, with what their
definitions say, and those of structs, enums and user defined value types have definitions. -/
def Covers (index : SyntaxIndex) (roots : List Json) (t : TypeTable) : Prop :=
  ∀ root ∈ roots, ∀ v, Ast.Reaches index root v → Ast.Entered index v t ∧
    (Ast.isUserDefined v = true → Ast.isContractId (Ast.layoutId v) = false →
      (Ast.definition? index v).isSome)

/-- The types of a layout are closed. -/
structure ClosesTypes (c : CompiledContract) (laidOut : Option CompiledContract) (l : Layout) :
    Prop where
  storage : ∀ x ∈ l.storage, HasEntry x.type l.types
  namespaces : ∃ namespaces, l.namespaces = some namespaces ∧
    ∀ entry ∈ namespaces, ∀ x ∈ entry.2, HasEntry x.type l.types
  ofStorage : Covers c.index c.variableTypes l.types
  ofNamespaces : Covers (laidOut.getD c).index (laidOut.getD c).memberTypes l.types
  given : ∀ id e, Json.find? id (c.given laidOut) = some e → ∃ e', Json.find? id l.types = some e' ∧
    e'.label = e.label ∧ e'.numberOfBytes = e.numberOfBytes ∧
    (e.members.isSome → e'.members = e.members)

/-! ### A contract with types that contain themselves -/

/-- What a node says of its type. -/
def typed (identifier text : String) : String × Json :=
  ("typeDescriptions", .obj [("typeIdentifier", .str identifier), ("typeString", .str text)])

/-- The name of a struct, enum or user defined value type. -/
def referenceNode (id : Int) (identifier text : String) (declaration : Int) : Json :=
  .obj [("id", .int id), ("nodeType", .str "UserDefinedTypeName"),
    ("referencedDeclaration", .int declaration), typed identifier text]

/-- The declaration of a variable, or of a member of a struct. -/
def declarationNode (id : Int) (name identifier text : String) (typeName : Json) : Json :=
  .obj [("id", .int id), ("nodeType", .str "VariableDeclaration"), ("name", .str name),
    ("src", .str "0:1:0"), typed identifier text, ("typeName", typeName)]

/-- The definition of a struct. -/
def structNode (id : Int) (name documentation : String) (members : List Json) : Json :=
  .obj [("id", .int id), ("nodeType", .str "StructDefinition"), ("name", .str name),
    ("canonicalName", .str ("Vault." ++ name)), ("src", .str "0:1:0"),
    ("documentation", .str documentation), ("members", .arr members)]

/-- The parts of a contract with an enum, a user defined value type, a struct that contains a list of
itself, a variable of it, and a namespace. -/
def vaultParts : List Json :=
  [.obj [("id", .int 3), ("nodeType", .str "EnumDefinition"), ("name", .str "Kind"),
      ("members", .arr [.obj [("id", .int 4), ("nodeType", .str "EnumValue"), ("name", .str "A")]])],
    .obj [("id", .int 5), ("nodeType", .str "UserDefinedValueTypeDefinition"),
      ("name", .str "Amount"), ("underlyingType", .obj [("id", .int 6),
        ("nodeType", .str "ElementaryTypeName"), typed "t_uint128" "uint128"])],
    structNode 7 "Node" ""
      [declarationNode 8 "kind" "t_enum$_Kind_$3" "enum Vault.Kind"
        (referenceNode 9 "t_enum$_Kind_$3" "enum Vault.Kind" 3),
      declarationNode 10 "amount" "t_userDefinedValueType$_Amount_$5" "Vault.Amount"
        (referenceNode 11 "t_userDefinedValueType$_Amount_$5" "Vault.Amount" 5),
      declarationNode 12 "children" "t_array$_t_struct$_Node_$7_storage_$dyn_storage"
        "struct Vault.Node[]" (.obj [("id", .int 13), ("nodeType", .str "ArrayTypeName"),
          ("baseType", referenceNode 14 "t_struct$_Node_$7_storage_ptr" "struct Vault.Node" 7),
          typed "t_array$_t_struct$_Node_$7_storage_$dyn_storage_ptr" "struct Vault.Node[]"])],
    declarationNode 15 "root" "t_struct$_Node_$7_storage" "struct Vault.Node"
      (referenceNode 16 "t_struct$_Node_$7_storage_ptr" "struct Vault.Node" 7),
    structNode 17 "Main" "@custom:storage-location erc7201:vault"
      [declarationNode 18 "first" "t_struct$_Node_$7_storage" "struct Vault.Node"
        (referenceNode 19 "t_struct$_Node_$7_storage_ptr" "struct Vault.Node" 7)]]

/-- The definition of the contract. -/
def vaultContract : Json :=
  .obj [("id", .int 2), ("nodeType", .str "ContractDefinition"), ("name", .str "Vault"),
    ("src", .str "0:1:0"), ("linearizedBaseContracts", .arr [.int 2]), ("nodes", .arr vaultParts)]

/-- The layout that the compiler computed for the contract. -/
def vaultLayout : Json :=
  .obj [("storage", .arr [.obj [("astId", .int 15), ("label", .str "root"), ("offset", .int 0),
      ("slot", .str "0"), ("type", .str "t_struct(Node)7_storage")]]),
    ("types", .obj [("t_enum(Kind)3",
        .obj [("label", .str "enum Vault.Kind"), ("numberOfBytes", .str "1")]),
      ("t_struct(Node)7_storage", .obj [("label", .str "struct Vault.Node"),
        ("numberOfBytes", .str "64"), ("members", .arr [
          .obj [("label", .str "kind"), ("type", .str "t_enum(Kind)3"), ("slot", .str "0"),
            ("offset", .int 0)]])])])]

/-- The compilation of the contract. -/
def vault : CompiledContract where
  number := 0
  output := .obj [("sources", .obj [("A.sol", .obj [("ast", .obj [("id", .int 1),
    ("nodeType", .str "SourceUnit"), ("nodes", .arr [vaultContract])])])])]
  contract := vaultContract
  layout := vaultLayout

/-- All nodes are at one place. -/
def samePlace : SourceDecoder := fun _ => .ok "A.sol:1"

/-! ### The whole extraction -/

theorem wellFormed_getD (hc : c.WellFormed) (hlaidOut : ∀ d ∈ laidOut, d.WellFormed) :
    (laidOut.getD c).WellFormed := by
  cases laidOut with
  | none => exact hc
  | some d => exact hlaidOut d rfl

/-- What is loaded is covered where references resolve. -/
theorem covers_of_loaded (hc : c.WellFormed) {roots : List Json} {t : TypeTable}
    (hroots : ∀ root ∈ roots, root ∈ treeNodes c.output)
    (h : ∀ root ∈ roots, Ast.Loaded c.index root t) : Covers c.index roots t := by
  intro root hroot v hv
  refine ⟨h root hroot v hv, fun huser hnot => ?_⟩
  obtain ⟨hmem, hkind⟩ := Ast.mem_of_reaches c.spans (hroots root hroot) hv
  have hloadable := hc.resolve.loadable v hmem hkind
  rw [← Option.not_isNone, hloadable.resolved (hloadable.refers huser), hnot]
  rfl

/-- What is known of user defined value types: what the compilations of a contract say of them. -/
def knownTypes (c : CompiledContract) (laidOut : Option CompiledContract) : KnownTypes :=
  fun id u => (id, u) ∈ c.underlyings ∨ (id, u) ∈ (laidOut.getD c).underlyings

theorem knownTypes_functional (hc : c.WellFormed) (hd : (laidOut.getD c).WellFormed)
    (hagrees : ∀ d ∈ laidOut, c.Agrees d) {id : String} {u v : Json}
    (hu : knownTypes c laidOut id u) (hv : knownTypes c laidOut id v) : u = v := by
  have hboth : ∀ w ∈ c.underlyings, ∀ w' ∈ (laidOut.getD c).underlyings, w.1 = w'.1 →
      w.2 = w'.2 := by
    cases laidOut with
    | none => exact fun w hw w' hw' => hc.resolve.underlying_eq hw hw'
    | some d => exact hagrees d rfl
  rcases hu with hu | hu <;> rcases hv with hv | hv
  · exact hc.resolve.underlying_eq hu hv rfl
  · exact hboth _ hu _ hv rfl
  · exact (hboth _ hv _ hu rfl).symm
  · exact hd.resolve.underlying_eq hu hv rfl

/-- What has been listed and loaded makes a layout whose types are closed. -/
theorem closesTypes_of_loaded {known : KnownTypes} (hc : c.WellFormed)
    (hd : (laidOut.getD c).WellFormed) {storage : List Item} {types : TypeTable}
    (hstorage : VariablesClosed known c laidOut storage types)
    {namespaces : List (String × List Item)}
    (hitems : ∀ entry ∈ namespaces, ∀ x ∈ entry.2, HasEntry x.type types)
    (hloaded : ∀ root ∈ (laidOut.getD c).memberTypes,
      Ast.Loaded (laidOut.getD c).index root types) (flat : Bool) :
    ClosesTypes c laidOut
      { storage, types, flat := .bool flat, namespaces := some namespaces } where
  storage := hstorage.items
  namespaces := ⟨namespaces, rfl, hitems⟩
  ofStorage := covers_of_loaded hc (fun _ => hc.mem_nodes_of_mem_variableTypes) hstorage.loaded
  ofNamespaces := covers_of_loaded hd (fun _ => mem_nodes_of_mem_memberTypes hd) hloaded
  given id e he := by
    obtain ⟨e', he', hfilled⟩ := hstorage.given id e he
    exact ⟨e', he', hfilled.label, hfilled.numberOfBytes, hfilled.members⟩

/-- An extraction from resolving references ends with a layout whose types are closed, or with an
error about a place in the sources or about namespaces. -/
theorem closesTypes_of_layout (hc : c.WellFormed) (hlaidOut : ∀ d ∈ laidOut, d.WellFormed)
    (hagrees : ∀ d ∈ laidOut, c.Agrees d) (decode : SourceDecoder) (s : SyntaxState) :
    (∃ l, (outcome (layout decode c.compilation (laidOut.map (·.compilation))) s).1 = .ok l ∧
      ClosesTypes c laidOut l) ∨
    ∃ e, (outcome (layout decode c.compilation (laidOut.map (·.compilation))) s).1 = .error e ∧
      Excused decode e := by
  have hd := wellFormed_getD hc hlaidOut
  have hfunctional : ∀ id u v, knownTypes c laidOut id u → knownTypes c laidOut id v → u = v :=
    fun _ _ _ => knownTypes_functional hc hd hagrees
  have hs : Ast.Setting (knownTypes c laidOut) c.index (treeNodes c.output) :=
    ⟨c.spans, hc.resolve, fun _ => .inl, hfunctional⟩
  have hs' : Ast.Setting (knownTypes c laidOut) (laidOut.getD c).index
      (treeNodes (laidOut.getD c).output) :=
    ⟨(laidOut.getD c).spans, hd.resolve, fun _ => .inr, hfunctional⟩
  have hname := (hc.declares c.contract hc.self).name
  unfold layout
  rw [outcome_bind, outcome_modify]
  refine ((loads_stateVariables hs hc hlaidOut).bind (R := fun l _ => ClosesTypes c laidOut l)
    fun ⟨storage, flat⟩ => ?_).ends rfl
  refine .quiet_bind (quiet_ask (Json.get_eq hname)) ?_
  refine (loads_get (Q := fun _ => VariablesClosed (knownTypes c laidOut) c laidOut storage)
    fun _ h => h).bind fun _ => .quiet_bind (quiet_say _ _) ?_
  refine ((loads_load hc hlaidOut hs').keeping (kept_variablesClosed hs hc storage)).bind
    fun namespaces => (loads_get (Q := fun s t => s.types = t ∧ _) fun _ h => ⟨rfl, h⟩).bind
      fun s => loads_pure fun t ⟨htypes, ⟨hitems, hloaded⟩, hstorage⟩ => ?_
  subst htypes
  exact closesTypes_of_loaded hc hd hstorage hitems hloaded flat

theorem closesTypes_of_layout_vault :
    ∃ l, (outcome (layout samePlace vault.compilation (some vault.compilation)) {}).1 = .ok l ∧
      ClosesTypes vault (some vault) l := by
  have hwf : vault.WellFormed := by decide +kernel
  have hagrees : ∀ d ∈ some vault, vault.Agrees d := by
    intro d hd
    cases hd
    decide +kernel
  have hlaidOut : ∀ d ∈ some vault, d.WellFormed := fun d hd => Option.some.inj hd ▸ hwf
  have hok : (outcome (layout samePlace vault.compilation (some vault.compilation)) {}).1.toBool =
      true := by decide +kernel
  rcases closesTypes_of_layout hwf hlaidOut hagrees samePlace {} with h | ⟨e, he, -⟩
  · exact h
  · have he : (outcome (layout samePlace vault.compilation (some vault.compilation)) {}).1 =
        .error e := he
    rw [he] at hok
    cases hok

end StorageUpgrade.Extract
