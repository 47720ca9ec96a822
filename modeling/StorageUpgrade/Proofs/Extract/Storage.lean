import StorageUpgrade.Extract.Layout
import StorageUpgrade.Proofs.Ast.Lookup

/-!
# The variables of an extracted layout

The storage of a layout lists variables that contracts declare.  Without a layout of the compiler
these are the variables among the nodes of the contract, one item each; with one, each entry that
the compiler gave becomes an item, which a declaration with its number is looked up for.
-/

namespace StorageUpgrade

open SyntaxM

namespace Ast

/-- Whether a node is known to declare a variable that takes up storage. -/
def declaresStorage (node : Json) : Bool :=
  match isStateVariable node with
  | .ok b => b
  | .error _ => false

/-- The parts of a node, none when they cannot be listed. -/
def parts (key : String) (node : Json) : List Json :=
  match partsOf key node with
  | .ok parts => parts
  | .error _ => []

end Ast

theorem Namespace.of_findFirst {test : Json → Except Json.Misuse Bool} {v : Json}
    {vs : List Json} (h : findFirst test vs = .ok (some v)) : v ∈ vs ∧ test v = .ok true := by
  induction vs with
  | nil => cases h
  | cons w vs ih =>
      obtain ⟨passes, htest, h⟩ := exists_of_bind_ok h
      cases passes with
      | true =>
          cases h
          exact ⟨List.mem_cons_self, htest⟩
      | false =>
          obtain ⟨hv, hpasses⟩ := ih h
          exact ⟨List.mem_cons_of_mem _ hv, hpasses⟩

namespace Extract

variable {decode : SourceDecoder} {index : SyntaxIndex} {contract node : Json}

/-- An item of a layout is that of a variable: it has the name of the variable, the name of the
contract that declares it, and the place of its declaration. -/
structure Describes (decode : SourceDecoder) (x : Item) (contract node : Json) : Prop where
  contract : x.contract = contract.field "name"
  label : x.label = node.field "name"
  place : ∃ place, decode node = .ok place ∧ x.src = .str place

/-! ### Without a layout of the compiler -/

theorem describes_of_declaredItem {x : Item} (h : Yields (declaredItem decode index contract node) x) :
    Describes decode x contract node := by
  unfold declaredItem at h
  obtain ⟨⟨retyped, renamed⟩, -, h⟩ := h.of_bind
  obtain ⟨declaredIn, hname, h⟩ := h.of_bind
  obtain ⟨label, hlabel, h⟩ := h.of_bind
  obtain ⟨type, -, h⟩ := h.of_bind
  obtain ⟨src, hsrc, h⟩ := h.of_bind
  obtain ⟨typeName, -, h⟩ := h.of_bind
  obtain ⟨-, -, h⟩ := h.of_bind
  obtain rfl := yields_pure.1 h
  exact {
    contract := (Json.field_of_get (yields_ask.1 hname)).symm
    label := (Json.field_of_get (yields_ask.1 hlabel)).symm
    place := ⟨src, yields_lift.1 hsrc, rfl⟩ }

theorem describes_of_declaredItems {nodes : List Json} : ∀ {xs : List Item},
    Yields (declaredItems decode index contract nodes) xs →
      List.Forall₂ (Describes decode · contract ·) xs (nodes.filter Ast.declaresStorage) := by
  induction nodes with
  | nil =>
      intro xs h
      obtain rfl := yields_pure.1 h
      exact .nil
  | cons node nodes ih =>
      intro xs h
      unfold declaredItems at h
      obtain ⟨takes, htakes, h⟩ := h.of_bind
      have hdeclares : Ast.declaresStorage node = takes := by
        rw [Ast.declaresStorage, yields_ask.1 htakes]
      rw [List.filter_cons, hdeclares]
      split at h
      · rename_i htrue
        obtain ⟨x, hx, h⟩ := h.of_bind
        obtain ⟨rest, hrest, h⟩ := h.of_bind
        obtain rfl := yields_pure.1 h
        rw [if_pos htrue]
        exact .cons (describes_of_declaredItem hx) (ih hrest)
      · rename_i hfalse
        rw [if_neg hfalse]
        exact ih h

/-! ### With a layout of the compiler -/

/-- The declaration that is found for a number is one with that number, among the nodes of a contract
that was looked up. -/
theorem of_declaration? {id name : Json} {ids : List Json}
    (h : Yields (declaration? index id ids) (some (node, name))) :
    ∃ contractId ∈ ids, ∃ contract nodes,
      Yields (index.deref [Ast.DefinitionKind.contract.nodeType] contractId) contract ∧
      Ast.partsOf "nodes" contract = .ok nodes ∧ node ∈ nodes ∧
      (node.field "id").alike id = true ∧ name = contract.field "name" := by
  induction ids with
  | nil => simp [declaration?] at h
  | cons contractId ids ih =>
      unfold declaration? at h
      obtain ⟨contract, hcontract, h⟩ := h.of_bind
      obtain ⟨nodes, hnodes, h⟩ := h.of_bind
      obtain ⟨found, hfound, h⟩ := h.of_bind
      have hlater : Yields (declaration? index id ids) (some (node, name)) →
          ∃ contractId' ∈ contractId :: ids, ∃ contract nodes,
            Yields (index.deref [Ast.DefinitionKind.contract.nodeType] contractId') contract ∧
            Ast.partsOf "nodes" contract = .ok nodes ∧ node ∈ nodes ∧
            (node.field "id").alike id = true ∧ name = contract.field "name" := by
        intro h
        obtain ⟨contractId', hmem, hrest⟩ := ih h
        exact ⟨contractId', List.mem_cons_of_mem _ hmem, hrest⟩
      split at h
      · exact hlater h
      · rename_i candidate
        obtain ⟨hmem, htest⟩ := Namespace.of_findFirst (yields_ask.1 hfound)
        obtain ⟨number, hnumber, hsame⟩ := exists_of_bind_ok htest
        obtain ⟨declares, -, h⟩ := h.of_bind
        split at h
        · obtain ⟨contractName, hname, h⟩ := h.of_bind
          cases yields_pure.1 h
          refine ⟨contractId, List.mem_cons_self, contract, nodes, hcontract, yields_ask.1 hnodes,
            hmem, ?_, (Json.field_of_get (yields_ask.1 hname)).symm⟩
          rw [Json.field_of_lookup_null hnumber]
          exact Except.ok.inj hsame
        · exact hlater h

/-- The item for an entry of the compiler describes a declaration that was found for its number, under
the label of the entry. -/
theorem of_placedItem {entry : Json} {x : Item}
    (h : Yields (placedItem decode index contract entry) x) :
    ∃ ids node, Yields (Namespace.linearized contract) ids ∧
      Yields (declaration? index (entry.field "astId") ids) (some (node, x.contract)) ∧
      x.label = entry.field "label" ∧ ∃ place, decode node = .ok place ∧ x.src = .str place := by
  unfold placedItem at h
  obtain ⟨id, hid, h⟩ := h.of_bind
  obtain ⟨ids, hids, h⟩ := h.of_bind
  obtain ⟨found, hfound, h⟩ := h.of_bind
  split at h
  · obtain ⟨label, -, h⟩ := h.of_bind
    exact absurd h yields_throw
  · rename_i node declaredIn
    obtain ⟨⟨retyped, renamed⟩, -, h⟩ := h.of_bind
    obtain ⟨typeName, -, h⟩ := h.of_bind
    obtain ⟨-, -, h⟩ := h.of_bind
    obtain ⟨label, hlabel, h⟩ := h.of_bind
    obtain ⟨type, -, h⟩ := h.of_bind
    obtain ⟨src, hsrc, h⟩ := h.of_bind
    obtain ⟨slot, -, h⟩ := h.of_bind
    obtain ⟨offset, -, h⟩ := h.of_bind
    obtain rfl := yields_pure.1 h
    rw [Json.field_of_lookup_null (yields_ask.1 hid)]
    exact ⟨ids, node, hids, hfound, (Json.field_of_get (yields_ask.1 hlabel)).symm, src,
      yields_lift.1 hsrc, rfl⟩

/-! ### The whole layout -/

variable {c : Compilation} {laidOut : Option Compilation}

theorem of_layout {l : Layout} (h : Yields (layout decode c laidOut) l) :
    ∃ flat, Yields (stateVariables decode c laidOut) (l.storage, flat) ∧ l.flat = .bool flat := by
  unfold layout at h
  obtain ⟨-, -, h⟩ := h.of_bind
  obtain ⟨⟨storage, flat⟩, hvariables, h⟩ := h.of_bind
  obtain ⟨name, -, h⟩ := h.of_bind
  obtain ⟨s, -, h⟩ := h.of_bind
  obtain ⟨-, -, h⟩ := h.of_bind
  obtain ⟨namespaces, -, h⟩ := h.of_bind
  obtain ⟨t, -, h⟩ := h.of_bind
  obtain rfl := yields_pure.1 h
  exact ⟨flat, hvariables, rfl⟩

/-- Without a layout of the compiler, a layout lists the variables that the contract declares. -/
theorem storage_of_not_compiled {l : Layout} (h : Yields (layout decode c laidOut) l)
    (hnull : c.layout.isNull = true) :
    l.flat = .bool false ∧ ∃ nodes, Ast.partsOf "nodes" c.contract = .ok nodes ∧
      List.Forall₂ (Describes decode · c.contract ·) l.storage
        (nodes.filter Ast.declaresStorage) := by
  obtain ⟨flat, h, hflat⟩ := of_layout h
  unfold stateVariables at h
  rw [if_pos hnull] at h
  obtain ⟨nodes, hnodes, h⟩ := h.of_bind
  obtain ⟨xs, hxs, h⟩ := h.of_bind
  obtain ⟨hstorage, rfl⟩ := Prod.mk.inj (yields_pure.1 h)
  refine ⟨hflat, nodes, yields_ask.1 hnodes, ?_⟩
  rw [hstorage]
  exact describes_of_declaredItems hxs

/-- With a layout of the compiler, a layout lists the entries that the compiler gave. -/
theorem storage_of_compiled {l : Layout} (h : Yields (layout decode c laidOut) l)
    (hnull : c.layout.isNull = false) :
    l.flat = .bool true ∧ ∃ entries, Ast.partsOf "storage" c.layout = .ok entries ∧
      List.Forall₂ (fun entry x => Yields (placedItem decode c.index c.contract entry) x)
        entries l.storage := by
  obtain ⟨flat, h, hflat⟩ := of_layout h
  unfold stateVariables at h
  simp only [hnull, Bool.false_eq_true, if_false] at h
  -- The types of a second compilation come first; the storage does not depend on them.
  have hrest : ∃ more, Yields (do
      let older ← ask (compilerTypes more)
      let newer ← ask (c.layout.lookup "types" >>= compilerTypes)
      modify fun s => { s with types := mergeTypes older newer }
      let storage ← ask (Ast.partsOf "storage" c.layout)
      return (← storage.mapM (placedItem decode c.index c.contract), true)) (l.storage, flat) := by
    split at h <;> obtain ⟨more, -, h⟩ := h.of_bind <;> exact ⟨more, h⟩
  obtain ⟨more, h⟩ := hrest
  obtain ⟨older, -, h⟩ := h.of_bind
  obtain ⟨newer, -, h⟩ := h.of_bind
  obtain ⟨-, -, h⟩ := h.of_bind
  obtain ⟨entries, hentries, h⟩ := h.of_bind
  obtain ⟨xs, hxs, h⟩ := h.of_bind
  obtain ⟨hstorage, rfl⟩ := Prod.mk.inj (yields_pure.1 h)
  refine ⟨hflat, entries, yields_ask.1 hentries, ?_⟩
  rw [hstorage]
  exact hxs.of_mapM

end Extract
end StorageUpgrade
