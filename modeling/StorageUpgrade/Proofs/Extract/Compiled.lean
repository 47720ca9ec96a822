import StorageUpgrade.Extract.Layout
import StorageUpgrade.Proofs.Ast.Worklist
import StorageUpgrade.Proofs.Extract.Storage

/-!
# Contracts of a compilation, as their layouts are extracted

What the extraction of a layout relies on, read off the syntax trees and the layout of the compiler:
what contracts, variables and structs say of themselves, that references lead somewhere, and which
type names the variables and the members of namespaces have.
-/

namespace StorageUpgrade.Extract

open SyntaxM

/-! ### Parts of contracts -/

/-- Whether a node is the definition of a struct. -/
def isStruct (node : Json) : Bool := Ast.isOfKind [Ast.DefinitionKind.struct.nodeType] node

/-- Whether a struct declares the location of a namespace. -/
def hasLocation (struct : Json) : Bool :=
  match Documentation.location? struct with
  | .ok (some _) => true
  | _ => false

/-- The structs that a contract defines. -/
def structsOf (contract : Json) : List Json := (Ast.parts "nodes" contract).filter isStruct

/-- A variable, or a member of a struct, says what an item of a layout needs, and its type has the
identifier of its type name. -/
@[mk_iff]
structure Declares (v : Json) : Prop where
  name : (v.get "name").toBool = true
  src : (v.get "src").toBool = true
  documented : (Documentation.textOfNode v).toBool = true
  described : (Ast.describe v).toBool = true
  typeName : Ast.isOfKind Ast.typeNameKinds (v.field "typeName") = true
  sameType : Ast.layoutId v = Ast.layoutId (v.field "typeName")

instance (v : Json) : Decidable (Declares v) := decidable_of_iff' _ (declares_iff v)

/-- A struct says what a namespace needs. -/
@[mk_iff]
structure DeclaresMembers (struct : Json) : Prop where
  name : (struct.get "canonicalName").toBool = true
  documented : (Documentation.textOfNode struct).toBool = true
  listed : (Ast.partsOf "members" struct).toBool = true
  members : ∀ m ∈ Ast.parts "members" struct, Ast.isNode m = true ∧ Declares m

instance (struct : Json) : Decidable (DeclaresMembers struct) :=
  decidable_of_iff' _ (declaresMembers_iff struct)

/-- A contract says what a layout needs: it lists its parts, which are nodes with numbers, and its
variables and structs do so too. -/
@[mk_iff]
structure DeclaresParts (contract : Json) : Prop where
  name : (contract.get "name").toBool = true
  listed : (Ast.partsOf "nodes" contract).toBool = true
  nodes : ∀ part ∈ Ast.parts "nodes" contract,
    Ast.isNode part = true ∧ (part.field "id").int?.isSome
  state : ∀ part ∈ Ast.parts "nodes" contract, Ast.declaresStorage part = true → Declares part
  structs : ∀ part ∈ structsOf contract, DeclaresMembers part

instance (contract : Json) : Decidable (DeclaresParts contract) :=
  decidable_of_iff' _ (declaresParts_iff contract)

/-! ### Contracts of an output -/

/-- A contract of the output of a compiler, with the layout that the compiler computed for it, `null`
when it did not. -/
structure CompiledContract where
  number : Nat
  output : Json
  contract : Json
  layout : Json := .null

namespace CompiledContract

variable (c : CompiledContract)

/-- The index of the compilation. -/
def index : SyntaxIndex := .ofOutput c.number c.output

/-- What the layout is extracted from. -/
def compilation : Compilation := ⟨c.index, c.contract, c.layout⟩

/-- The numbers of the contracts that the contract inherits from, itself first. -/
def lineage : List Json :=
  match (do
    let self ← c.contract.get "id"
    (← c.contract.lookup "linearizedBaseContracts" (.arr [self])).elements) with
  | .ok ids => ids
  | .error _ => []

/-- The contract with a number. -/
def contractOf? (id : Json) : Option Json :=
  match c.index.nodes with
  | .ok nodes =>
    (SyntaxIndex.find? nodes id).filter (Ast.isOfKind [Ast.DefinitionKind.contract.nodeType])
  | .error _ => none

/-- The contracts that the contract inherits from, itself first. -/
def inherited : List Json := c.lineage.filterMap c.contractOf?

/-- The types of the layout that the compiler computed, as a layout keeps them. -/
def types : TypeTable :=
  match c.layout.lookup "types" >>= compilerTypes with
  | .ok types => types
  | .error _ => []

/-- The variables that an entry of the layout of the compiler is about: those with its number. -/
def variablesOf (entry : Json) : List Json :=
  c.inherited.flatMap fun contract => (Ast.parts "nodes" contract).filter fun part =>
    Ast.declaresStorage part && (part.field "id").alike (entry.field "astId")

/-- The type names of the variables of the layout. -/
def variableTypes : List Json :=
  if c.layout.isNull then
    ((Ast.parts "nodes" c.contract).filter Ast.declaresStorage).map (·.field "typeName")
  else (Ast.parts "storage" c.layout).flatMap fun entry =>
    (c.variablesOf entry).map (·.field "typeName")

/-- The type names of the members of namespaces. -/
def memberTypes : List Json :=
  c.inherited.flatMap fun contract => ((structsOf contract).filter hasLocation).flatMap fun struct =>
    (Ast.parts "members" struct).map (·.field "typeName")

/-- An entry of the layout of the compiler says what an item needs, its type is in the types of that
layout, and it is about a variable. -/
@[mk_iff]
structure Places (entry : Json) : Prop where
  label : (entry.get "label").toBool = true
  slot : (entry.get "slot").toBool = true
  offset : (entry.get "offset" >>= Json.toInt).toBool = true
  type : ∃ id ∈ c.types.map (·.1), entry.field "type" = .str id
  number : (entry.field "astId").int?.isSome
  declared : c.variablesOf entry ≠ []

instance (entry : Json) : Decidable (c.Places entry) := decidable_of_iff' _ (places_iff c entry)

/-- The layout of the compiler can be read, and its types have different identifiers. -/
@[mk_iff]
structure LaidOut : Prop where
  types : (c.layout.lookup "types" >>= compilerTypes).toBool = true
  distinct : (c.types.map (·.1)).Nodup
  listed : (Ast.partsOf "storage" c.layout).toBool = true
  entries : ∀ entry ∈ Ast.parts "storage" c.layout, c.Places entry

instance : Decidable c.LaidOut := decidable_of_iff' _ (laidOut_iff c)

/-- The contract inherits from contracts of the compilation, one of which it is. -/
@[mk_iff]
structure Inherits : Prop where
  numbered : (c.contract.field "id").int?.isSome
  lineage : ∀ id ∈ c.lineage, id.int?.isSome ∧ (c.contractOf? id).isSome
  self : c.contract ∈ c.inherited

instance : Decidable c.Inherits := decidable_of_iff' _ (inherits_iff c)

/-- What the extraction of a layout relies on. -/
@[mk_iff]
structure WellFormed : Prop where
  /-- Types resolve, and nodes have different numbers. -/
  resolve : Ast.TypesResolve c.index (treeNodes c.output)
  unambiguous : c.index.Unambiguous
  /-- The contract inherits from contracts of the compilation, one of which it is. -/
  numbered : (c.contract.field "id").int?.isSome
  lineage : ∀ id ∈ c.lineage, id.int?.isSome ∧ (c.contractOf? id).isSome
  self : c.contract ∈ c.inherited
  declares : ∀ contract ∈ c.inherited, DeclaresParts contract
  laidOut : c.layout ≠ .null → c.LaidOut

instance : Decidable c.WellFormed := decidable_of_iff' _ (wellFormed_iff c)

end CompiledContract

/-! ### Looking parts and contracts up -/

theorem partsOf_eq {key : String} {v : Json} (h : (Ast.partsOf key v).toBool = true) :
    Ast.partsOf key v = .ok (Ast.parts key v) := by
  obtain ⟨parts, hparts⟩ := Except.exists_of_toBool h
  rw [Ast.parts, hparts]

theorem parts_of_partsOf {key : String} {v : Json} {parts : List Json}
    (h : Ast.partsOf key v = .ok parts) : Ast.parts key v = parts := by
  rw [Ast.parts, h]

theorem forall₂_filterMap {α β : Type} {f : α → Option β} {xs : List α}
    (h : ∀ x ∈ xs, (f x).isSome) : List.Forall₂ (fun x y => f x = some y) xs (xs.filterMap f) := by
  induction xs with
  | nil => exact .nil
  | cons x xs ih =>
      obtain ⟨y, hy⟩ := Option.isSome_iff_exists.1 (h x List.mem_cons_self)
      have hxs := ih fun z hz => h z (List.mem_cons_of_mem _ hz)
      simp only [List.filterMap_cons, hy]
      exact .cons hy hxs

namespace CompiledContract

variable {c : CompiledContract}

theorem spans (c : CompiledContract) : c.index.Spans (treeNodes c.output) :=
  SyntaxIndex.spans_ofOutput c.number c.output

theorem contractOf?_spec {id b : Json} (h : c.contractOf? id = some b) :
    ∃ nodes, c.index.nodes = .ok nodes ∧ SyntaxIndex.find? nodes id = some b ∧
      Ast.isOfKind [Ast.DefinitionKind.contract.nodeType] b = true := by
  unfold contractOf? at h
  split at h
  · rename_i nodes hnodes
    obtain ⟨hfind, hkind⟩ := Option.filter_eq_some_iff.1 h
    exact ⟨nodes, hnodes, hfind, hkind⟩
  · cases h

theorem mem_nodes_of_mem_inherited {b : Json} (h : b ∈ c.inherited) : b ∈ treeNodes c.output := by
  obtain ⟨id, -, hid⟩ := List.mem_filterMap.1 h
  obtain ⟨nodes, hnodes, hfind, -⟩ := contractOf?_spec hid
  exact (c.spans.of_find? hnodes hfind).1

/-- A part of a node of the compilation is a node of the compilation. -/
theorem mem_nodes_of_mem_parts {key : String} {v part : Json} (hv : v ∈ treeNodes c.output)
    (hlisted : (Ast.partsOf key v).toBool = true) (h : part ∈ Ast.parts key v)
    (hnode : Ast.isNode part = true) : part ∈ treeNodes c.output :=
  c.spans.within v hv part hnode (Ast.within_of_mem_partsOf (partsOf_eq hlisted) h hnode)

theorem typeName_mem_nodes {v : Json} (hv : v ∈ treeNodes c.output) (h : Declares v) :
    v.field "typeName" ∈ treeNodes c.output ∧ Ast.isNode (v.field "typeName") = true := by
  have hnode := Ast.isNode_of_isOfKind h.typeName
  refine ⟨c.spans.within v hv _ hnode (Ast.within_field fun hnull => ?_), hnode⟩
  rw [hnull] at hnode
  cases hnode

namespace Inherits

variable (h : c.Inherits)

include h

/-- The contract is found by its own number. -/
theorem contractOf?_self : c.contractOf? (c.contract.field "id") = some c.contract := by
  obtain ⟨id, hid, hself⟩ := List.mem_filterMap.1 h.self
  obtain ⟨nodes, hnodes, hfind, -⟩ := contractOf?_spec hself
  obtain ⟨-, m, hm, hsame⟩ := c.spans.of_find? hnodes hfind
  obtain ⟨n, hn⟩ := Json.exists_int_of_isSome h.numbered
  obtain ⟨k, rfl⟩ := Json.exists_int_of_isSome (h.lineage id hid).1
  obtain rfl : m = n := Option.some.inj (hm.symm.trans (SyntaxIndex.numberOf?_of_field hn))
  obtain rfl : m = k := eq_of_beq hsame
  rw [hn, hself]

theorem quiet_linearized : Quiet (Namespace.linearized c.contract) c.lineage := by
  refine quiet_ask ?_
  have hself := h.self
  rw [CompiledContract.inherited, CompiledContract.lineage] at hself
  rw [CompiledContract.lineage]
  split at hself
  · rename_i ids hids
    rw [hids]
  · cases hself

/-- Looking up the contracts that the contract inherits from leads to these. -/
theorem quiet_linearizedContracts :
    Quiet (Namespace.linearizedContracts c.compilation) c.inherited := by
  refine h.quiet_linearized.bind (quiet_mapM ?_)
  have hresolved := forall₂_filterMap fun id hid => (h.lineage id hid).2
  refine List.forall₂_iff_zip.2 ⟨hresolved.length_eq, fun {id b} hmem => ?_⟩
  have hid := (List.forall₂_iff_zip.1 hresolved).2 hmem
  obtain ⟨k, rfl⟩ := Json.exists_int_of_isSome (h.lineage id (List.of_mem_zip hmem).1).1
  obtain ⟨nodes, hnodes, hfind, hkind⟩ := contractOf?_spec hid
  obtain ⟨n, hn⟩ := Json.exists_int_of_isSome h.numbered
  have hget : c.contract.get "id" = .ok (c.contract.field "id") :=
    Json.field_of_contains (by rw [hn]; exact nofun)
  unfold Namespace.contractWithId
  refine (quiet_ask hget).bind ?_
  split
  · rename_i hsame
    obtain rfl : n = k := by simpa [hn] using hsame
    obtain rfl : c.contract = b := Option.some.inj (h.contractOf?_self.symm.trans (hn ▸ hid))
    exact quiet_pure _
  · exact SyntaxIndex.quiet_deref hnodes hfind hkind

end Inherits

namespace WellFormed

variable (hc : c.WellFormed)

include hc

theorem inherits : c.Inherits := ⟨hc.numbered, hc.lineage, hc.self⟩

theorem exists_nodes : ∃ nodes, c.index.nodes = .ok nodes :=
  Except.exists_of_toBool hc.resolve.collected

end WellFormed

end CompiledContract

end StorageUpgrade.Extract
