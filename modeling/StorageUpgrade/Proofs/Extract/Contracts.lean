import Mathlib.Tactic.MkIffOfInductiveProp
import StorageUpgrade.Extract.Validation
import StorageUpgrade.Proofs.Extract.Storage

/-!
# The contracts of a compilation

The contracts of a compilation are the definitions in its syntax trees.  `linearization` and
`inherited` say from the trees alone what the variables of a contract are, and `WellFormed` says what
is relied on of the compiler.  The layout that is extracted from a contract lists the variables of
all contracts that it inherits from if the compiler laid the contract out, and only the variables
that the contract itself declares otherwise.
-/

namespace StorageUpgrade.Validation

open SyntaxM

/-! ### The contracts of a compilation -/

/-- A contract that a source of a compilation defines. -/
structure Definition where
  source : String
  node : Json
deriving DecidableEq

namespace Definition

/-- The name of a contract. -/
def name (d : Definition) : Json := d.node.field "name"

/-- The full name of a contract. -/
def key (d : Definition) : String := fullName d.source d.name

/-- The number of a contract. -/
def id (d : Definition) : Json := d.node.field "id"

/-- The parts of a contract, each with the contract. -/
def parts (d : Definition) : List (Definition × Json) := (Ast.parts "nodes" d.node).map (d, ·)

/-- The variables that a contract itself declares, each with the contract. -/
def declared (d : Definition) : List (Definition × Json) :=
  d.parts.filter fun part => Ast.declaresStorage part.2

/-- The numbers of the contracts that a contract inherits from, itself first. -/
def lineage (d : Definition) : List Json := (d.node.field "linearizedBaseContracts").items

end Definition

/-- The contracts that a source defines. -/
def definitionsOf (source : String × Json) : List Definition :=
  (Ast.find contractKind (source.2.field "ast")).nodes.map (⟨source.1, ·⟩)

/-- The contracts that the sources of a compilation define. -/
def definitions (output : Json) : List Definition :=
  (output.field "sources").fields.flatMap definitionsOf

/-- The contracts that a contract inherits from, itself first. -/
def linearization (output : Json) (d : Definition) : List Definition :=
  d.lineage.filterMap fun id => (definitions output).find? (·.id = id)

/-- The layout that the compiler computed for a contract, `null` when it did not. -/
def compilerLayout (output : Json) (d : Definition) : Json :=
  match ((output.field "contracts").field d.source).part d.name with
  | .ok data => data.field "storageLayout"
  | .error _ => .null

/-- The names of the contracts that a compiler put out for a source. -/
def outputNames (outputs : Json) : List Json :=
  match outputs.elements with
  | .ok names => names
  | .error _ => []

/-- The variables of some contracts, each one listed before those that it inherits from: those of the
last one come first. -/
def inherited (contracts : List Definition) : List (Definition × Json) :=
  contracts.reverse.flatMap (·.declared)

/-- What is relied on of the output of a compiler. -/
@[mk_iff]
structure WellFormed (output : Json) : Prop where
  /-- Each source is listed once. -/
  sources : ((output.field "sources").fields.map (·.1)).Nodup
  outputs : ((output.field "contracts").fields.map (·.1)).Nodup
  /-- Contracts have numbers, and different ones have different numbers and full names. -/
  numbered : ∀ d ∈ definitions output, d.id.int?.isSome
  ids : ((definitions output).map (·.id)).Nodup
  keys : ((definitions output).map (·.key)).Nodup
  /-- The numbers of nodes are unique, and the parts of contracts are numbered. -/
  nodes : (SyntaxIndex.ofOutput 0 output).Unambiguous
  partsNumbered : ∀ part ∈ (definitions output).flatMap (·.parts), (part.2.field "id").int?.isSome
  parts : (((definitions output).flatMap (·.parts)).map (·.2.field "id")).Nodup
  /-- A contract that was put out for a source is defined there. -/
  defined : ∀ entry ∈ (output.field "contracts").fields, ∀ name ∈ outputNames entry.2,
    ∃ d ∈ definitions output, d.source = entry.1 ∧ d.name = name
  /-- A contract inherits from itself first, from each contract once, and from contracts of the
  compilation. -/
  lineageHead : ∀ d ∈ definitions output, d.lineage.head? = some d.id
  lineageNodup : ∀ d ∈ definitions output, d.lineage.Nodup
  lineageDefined : ∀ d ∈ definitions output, ∀ id ∈ d.lineage, ∃ b ∈ definitions output, b.id = id
  /-- A contract inherits from what the contracts that it inherits from do, in the same order. -/
  lineageSublist : ∀ d ∈ definitions output, ∀ b ∈ linearization output d,
    (linearization output b).Sublist (linearization output d)
  /-- The layout that the compiler computed for a contract lists the variables of all contracts that
  it inherits from once, those of the most basic one first. -/
  laidOut : ∀ d ∈ definitions output, compilerLayout output d ≠ .null →
    (Ast.parts "storage" (compilerLayout output d)).map
        (fun entry => (entry.field "astId", entry.field "label")) =
      (inherited (linearization output d)).map fun v => (v.2.field "id", v.2.field "name")

instance (output : Json) : Decidable (WellFormed output) :=
  decidable_of_iff' _ (wellFormed_iff output)

/-! ### Contracts and their numbers -/

variable {output : Json} {d : Definition}

theorem mem_definitions (h : d ∈ definitions output) :
    ∃ data, (d.source, data) ∈ (output.field "sources").fields ∧
      d.node ∈ (Ast.find contractKind (data.field "ast")).nodes := by
  obtain ⟨⟨source, data⟩, hsource, hd⟩ := List.mem_flatMap.1 h
  obtain ⟨node, hnode, rfl⟩ := List.mem_map.1 hd
  exact ⟨data, hsource, hnode⟩

theorem mem_definitions_of_mem_linearization {b : Definition} (h : b ∈ linearization output d) :
    b ∈ definitions output := by
  obtain ⟨id, -, hfind⟩ := List.mem_filterMap.1 h
  exact List.mem_of_find?_eq_some hfind

theorem mem_parts_of_mem_inherited {v : Definition × Json}
    (h : v ∈ inherited (linearization output d)) :
    v ∈ (definitions output).flatMap (·.parts) := by
  obtain ⟨b, hb, hv⟩ := List.mem_flatMap.1 h
  exact List.mem_flatMap.2 ⟨b, mem_definitions_of_mem_linearization (List.mem_reverse.1 hb),
    (List.mem_filter.1 hv).1⟩

namespace WellFormed

variable (hwf : WellFormed output)

include hwf

theorem eq_of_id_eq {b : Definition} (hd : d ∈ definitions output) (hb : b ∈ definitions output)
    (h : d.id = b.id) : d = b :=
  List.inj_on_of_nodup_map hwf.ids hd hb h

theorem eq_of_key_eq {b : Definition} (hd : d ∈ definitions output) (hb : b ∈ definitions output)
    (h : d.key = b.key) : d = b :=
  List.inj_on_of_nodup_map hwf.keys hd hb h

theorem map_id_linearization (hd : d ∈ definitions output) :
    (linearization output d).map (·.id) = d.lineage := by
  have hall := hwf.lineageDefined d hd
  unfold linearization
  generalize d.lineage = ids at hall ⊢
  induction ids with
  | nil => rfl
  | cons id ids ih =>
      obtain ⟨b, hb, hid⟩ := hall id List.mem_cons_self
      have hsome : ((definitions output).find? (·.id = id)).isSome := by
        rw [List.find?_isSome]
        exact ⟨b, hb, by simpa using hid⟩
      obtain ⟨c, hc⟩ := Option.isSome_iff_exists.1 hsome
      have hcid : c.id = id := by simpa using List.find?_some hc
      simp only [List.filterMap_cons, hc, List.map_cons, hcid, List.cons.injEq, true_and]
      exact ih fun id hmem => hall id (List.mem_cons_of_mem _ hmem)

theorem nodup_linearization (hd : d ∈ definitions output) : (linearization output d).Nodup := by
  apply List.Nodup.of_map (·.id)
  rw [hwf.map_id_linearization hd]
  exact hwf.lineageNodup d hd

/-- A contract comes first among those that it inherits from. -/
theorem linearization_eq (hd : d ∈ definitions output) :
    linearization output d = d :: (linearization output d).tail := by
  have hmap := hwf.map_id_linearization hd
  have hhead := hwf.lineageHead d hd
  cases hlin : linearization output d with
  | nil =>
      rw [hlin] at hmap
      rw [← hmap] at hhead
      cases hhead
  | cons b bases =>
      rw [hlin] at hmap
      rw [← hmap] at hhead
      have hb : b ∈ linearization output d := hlin ▸ List.mem_cons_self
      have hid : b.id = d.id := Option.some.inj hhead
      rw [hwf.eq_of_id_eq (mem_definitions_of_mem_linearization hb) hd hid]
      rfl

theorem field_lineage (hd : d ∈ definitions output) :
    d.node.field "linearizedBaseContracts" = .arr ((linearization output d).map (·.id)) := by
  have hhead := hwf.lineageHead d hd
  rw [hwf.map_id_linearization hd]
  unfold Definition.lineage at hhead ⊢
  cases hfield : d.node.field "linearizedBaseContracts" with
  | arr ids => rfl
  | _ =>
      rw [hfield] at hhead
      cases hhead

/-- Looking a contract up by its number leads to its definition. -/
theorem eq_of_yields_deref (hd : d ∈ definitions output) {kinds : List String} {v : Json}
    (h : Yields ((SyntaxIndex.ofOutput 0 output).deref kinds d.id) v) : v = d.node := by
  obtain ⟨nodes, hnodes, hfind, -⟩ := SyntaxIndex.of_yields_deref h
  obtain ⟨n, hn⟩ := Json.exists_int_of_isSome (hwf.numbered d hd)
  obtain ⟨data, hsource, hnode⟩ := mem_definitions hd
  rw [hn] at hfind
  exact hwf.nodes.eq_of_mem hnodes (SyntaxIndex.mem_of_find? hfind)
    (SyntaxIndex.mem_ofOutput hnodes hsource (Ast.mem_nodes_of_mem_findAll hnode).1
      (SyntaxIndex.numberOf?_of_field hn))

theorem eq_of_yields_linearized (hd : d ∈ definitions output) {ids : List Json}
    (h : Yields (Namespace.linearized d.node) ids) :
    ids = (linearization output d).map (·.id) := by
  obtain ⟨self, -, h⟩ := exists_of_bind_ok (yields_ask.1 h)
  obtain ⟨listed, hlisted, hids⟩ := exists_of_bind_ok h
  have hfield := hwf.field_lineage hd
  rcases Json.field_of_lookup hlisted with hx | ⟨hx, -⟩
  · rw [← hx, hfield] at hids
    exact (Except.ok.inj hids).symm
  · rw [hfield] at hx
    cases hx

/-! ### Layouts of contracts -/

/-- The item for an entry of the compiler is that of the variable that the entry is about. -/
theorem describes_of_placedItem {decode : SourceDecoder} (hd : d ∈ definitions output)
    {v : Definition × Json} (hv : v ∈ inherited (linearization output d)) {entry : Json} {x : Item}
    (hid : entry.field "astId" = v.2.field "id") (hlabel : entry.field "label" = v.2.field "name")
    (h : Yields (Extract.placedItem decode (SyntaxIndex.ofOutput 0 output) d.node entry) x) :
    Extract.Describes decode x v.1.node v.2 := by
  obtain ⟨ids, node, hids, hfound, hx, hplace⟩ := Extract.of_placedItem h
  obtain ⟨contractId, hcontractId, contract, nodes, hderef, hnodes, hnode, hsame, hname⟩ :=
    Extract.of_declaration? hfound
  have hlineage := hwf.eq_of_yields_linearized hd hids
  obtain ⟨b, hb, rfl⟩ := List.mem_map.1 (hlineage ▸ hcontractId)
  have hbdef := mem_definitions_of_mem_linearization hb
  obtain rfl := hwf.eq_of_yields_deref hbdef hderef
  have hvpart := mem_parts_of_mem_inherited hv
  have hpart : (b, node) ∈ (definitions output).flatMap (·.parts) := by
    refine List.mem_flatMap.2 ⟨b, hbdef, List.mem_map.2 ⟨node, ?_, rfl⟩⟩
    rw [Ast.parts, hnodes]
    exact hnode
  obtain ⟨m, hm⟩ := Json.exists_int_of_isSome (hwf.partsNumbered _ hpart)
  obtain ⟨n, hn⟩ := Json.exists_int_of_isSome (hwf.partsNumbered _ hvpart)
  have hnumber : node.field "id" = v.2.field "id" := by
    have hmn : (Json.int m).alike (.int n) = true := by rwa [← hm, ← hn, ← hid]
    rw [hm, hn]
    simpa using hmn
  obtain rfl : (b, node) = v := List.inj_on_of_nodup_map hwf.parts hpart hvpart hnumber
  exact ⟨hname, hx.trans hlabel, hplace⟩

end WellFormed

/-- A layout lists variables, one item each in the same order. -/
def Items (decode : SourceDecoder) (xs : List Item) (vs : List (Definition × Json)) : Prop :=
  List.Forall₂ (fun x v => Extract.Describes decode x v.1.node v.2) xs vs

/-- What the layout that was extracted from a contract is: the full one if the compiler laid the
contract out, and otherwise that of the variables that the contract itself declares. -/
structure Extracted (output : Json) (decode : SourceDecoder) (d : Definition) (l : Layout) :
    Prop where
  flat : compilerLayout output d ≠ .null →
    l.flat = .bool true ∧ Items decode l.storage (inherited (linearization output d))
  own : compilerLayout output d = .null →
    l.flat = .bool false ∧ Items decode l.storage d.declared

variable {decode : SourceDecoder}

theorem WellFormed.items_of_placedItems (hwf : WellFormed output) (hd : d ∈ definitions output)
    {entries : List Json} {xs : List Item}
    (h : List.Forall₂ (fun entry x => Yields
      (Extract.placedItem decode (SyntaxIndex.ofOutput 0 output) d.node entry) x) entries xs) :
    ∀ {vs : List (Definition × Json)}, (∀ v ∈ vs, v ∈ inherited (linearization output d)) →
      entries.map (fun entry => (entry.field "astId", entry.field "label")) =
        vs.map (fun v => (v.2.field "id", v.2.field "name")) →
      Items decode xs vs := by
  induction h with
  | nil =>
      intro vs _ hvs
      obtain rfl := List.map_eq_nil_iff.1 hvs.symm
      exact .nil
  | cons hx _ ih =>
      intro vs hmem hvs
      cases vs with
      | nil => cases hvs
      | cons v vs =>
          obtain ⟨hv, hvs⟩ := List.cons.inj hvs
          obtain ⟨hid, hlabel⟩ := Prod.mk.inj hv
          exact .cons (hwf.describes_of_placedItem hd (hmem v List.mem_cons_self) hid hlabel hx)
            (ih (fun w hw => hmem w (List.mem_cons_of_mem _ hw)) hvs)

theorem WellFormed.extracted_of_layout (hwf : WellFormed output) (hd : d ∈ definitions output)
    {l : Layout} (h : Yields (Extract.layout decode
      ⟨SyntaxIndex.ofOutput 0 output, d.node, compilerLayout output d⟩ none) l) :
    Extracted output decode d l := by
  constructor
  · intro hcompiled
    have hnull : (compilerLayout output d).isNull = false := by
      cases hlayout : compilerLayout output d with
      | null => exact absurd hlayout hcompiled
      | _ => rfl
    obtain ⟨hflat, entries, hentries, hitems⟩ := Extract.storage_of_compiled h hnull
    refine ⟨hflat, ?_⟩
    have hlaidOut := hwf.laidOut d hd hcompiled
    rw [Ast.parts, hentries] at hlaidOut
    exact hwf.items_of_placedItems hd hitems (fun _ hv => hv) hlaidOut
  · intro hnull
    obtain ⟨hflat, nodes, hnodes, hitems⟩ := Extract.storage_of_not_compiled h (by rw [hnull]; rfl)
    refine ⟨hflat, ?_⟩
    have hdeclared : d.declared = (nodes.filter Ast.declaresStorage).map (d, ·) := by
      rw [Definition.declared, Definition.parts, Ast.parts, hnodes, List.filter_map]
      rfl
    rw [Items, hdeclared, List.forall₂_map_right_iff]
    exact hitems

end StorageUpgrade.Validation
