import Mathlib.Tactic.MkIffOfInductiveProp
import StorageUpgrade.Proofs.Ast.Loading

/-!
# Entering type names

A type name has an identifier, and it may refer to the definition of a struct, an enum or a user
defined value type.  It is `Entered` in a table of types when there is an entry for its identifier that
has the members, or the underlying type, that the definition tells.  Loading a type name by itself
enters it, and a type name that is entered stays so, as long as an identifier stands for one underlying
type (`Setting`).
-/

namespace StorageUpgrade
namespace Ast

open SyntaxM

/-! ### Type names and what they refer to -/

/-- The encoded identifier of a type name. -/
def rawId (v : Json) : String :=
  match describe v with
  | .ok (id, _) => id
  | .error _ => ""

theorem rawId_eq {v : Json} {id text : String} (h : describe v = .ok (id, text)) : rawId v = id := by
  rw [rawId, h]

/-- The identifier by which the type of a type name is known in a layout. -/
def layoutId (v : Json) : String := TypeId.normalize (rawId v)

/-- The type names in a tree. -/
def typeNames (root : Json) : List Json :=
  (nodes (fun _ => false) root).filter (isOfKind typeNameKinds)

/-- The struct, enum or user defined value type that a type name refers to. -/
def definition? (index : SyntaxIndex) (v : Json) : Option Json :=
  match index.nodes, v.get "referencedDeclaration" with
  | .ok nodes, .ok number => (SyntaxIndex.find? nodes number).filter (isOfKind loadedKinds)
  | _, _ => none

/-- Whether a definition is that of a user defined value type. -/
def isValueType (d : Json) : Bool := isOfKind [DefinitionKind.valueType.nodeType] d

/-- The identifier of the type that a user defined value type stands for. -/
def underlyingOf (d : Json) : Except Json.Misuse Json := do
  let name ← d.get "underlyingType"
  let descriptions ← name.lookup "typeDescriptions" (.obj [])
  descriptions.lookup "typeIdentifier"

/-- A type name is reached from a tree: it is inside the tree, or inside a definition that another one
refers to. -/
inductive Reaches (index : SyntaxIndex) (root : Json) : Json → Prop where
  | inside {v : Json} : v ∈ typeNames root → Reaches index root v
  | through {v d w : Json} : Reaches index root v → definition? index v = some d →
      w ∈ typeNames d → Reaches index root w

/-- A type name is entered in a table: there is an entry for its identifier, with what the definition
says of the type. -/
def Entered (index : SyntaxIndex) (v : Json) (t : TypeTable) : Prop :=
  ∃ e, Json.find? (layoutId v) t = some e ∧ ∀ d, definition? index v = some d →
    (isValueType d = true → underlyingOf d = .ok e.underlying) ∧
    (isValueType d = false → e.members.isSome)

/-- Whether a type name is that of a contract, struct, enum or user defined value type. -/
def isUserDefined (v : Json) : Bool := isOfKind [TypeNameKind.userDefined.nodeType] v

/-- A type name is described, and it refers to something if it is user defined: to a contract if its
identifier is that of one, and otherwise to a definition that is loaded. -/
@[mk_iff]
structure Loadable (index : SyntaxIndex) (v : Json) : Prop where
  described : (describe v).toBool = true
  refers : isUserDefined v = true → (v.get "referencedDeclaration").toBool = true
  resolved : (v.get "referencedDeclaration").toBool = true →
    (definition? index v).isNone = isContractId (layoutId v)

instance (index : SyntaxIndex) (v : Json) : Decidable (Loadable index v) :=
  decidable_of_iff' _ (loadable_iff index v)

/-- A definition tells the type that it stands for, or its members. -/
def Complete (d : Json) : Prop :=
  if isValueType d then (underlyingOf d).toBool = true else (typeMembers d).toBool = true

instance (d : Json) : Decidable (Complete d) :=
  inferInstanceAs (Decidable (if isValueType d = true then (underlyingOf d).toBool = true
    else (typeMembers d).toBool = true))

/-- What is relied on of the types of a compilation: nodes have kinds, type names and definitions can
be loaded, and an identifier stands for one definition. -/
@[mk_iff]
structure TypesResolve (index : SyntaxIndex) (pool : List Json) : Prop where
  collected : index.nodes.toBool = true
  kinds : ∀ v ∈ pool, hasCompositeKind v = false
  loadable : ∀ v ∈ pool, isOfKind typeNameKinds v = true → Loadable index v
  complete : ∀ d ∈ pool, isOfKind loadedKinds d = true → Complete d
  identified : ∀ v ∈ pool, ∀ w ∈ pool, isOfKind typeNameKinds v = true →
    isOfKind typeNameKinds w = true → layoutId v = layoutId w →
      definition? index v = definition? index w

instance (index : SyntaxIndex) (pool : List Json) : Decidable (TypesResolve index pool) :=
  decidable_of_iff' _ (typesResolve_iff index pool)

/-- The identifier of a type name that refers to a user defined value type, with the identifier of the
type that it stands for. -/
def underlying? (index : SyntaxIndex) (v : Json) : Option (String × Json) :=
  match (definition? index v).filter isValueType with
  | some d => (underlyingOf d).toOption.map (layoutId v, ·)
  | none => none

/-- The user defined value types that some nodes refer to. -/
def underlyings (index : SyntaxIndex) (pool : List Json) : List (String × Json) :=
  (pool.filter (isOfKind typeNameKinds)).filterMap (underlying? index)

/-! ### Entering a type name -/

variable {known : KnownTypes} {index : SyntaxIndex} {pool : List Json} {E : Error → Prop}

/-- Where types are loaded: the nodes that lookups may lead to resolve, and what is known of user
defined value types is what they say. -/
structure Setting (known : KnownTypes) (index : SyntaxIndex) (pool : List Json) : Prop where
  spans : index.Spans pool
  resolve : TypesResolve index pool
  underlyings : ∀ entry ∈ underlyings index pool, known entry.1 entry.2
  functional : ∀ id u u', known id u → known id u' → u = u'

theorem definition?_spec {v d : Json} (h : definition? index v = some d) :
    ∃ nodes number, index.nodes = .ok nodes ∧ v.get "referencedDeclaration" = .ok number ∧
      SyntaxIndex.find? nodes number = some d ∧ isOfKind loadedKinds d = true := by
  unfold definition? at h
  split at h
  · rename_i nodes number hnodes hnumber
    obtain ⟨hfind, hkind⟩ := Option.filter_eq_some_iff.1 h
    exact ⟨nodes, number, hnodes, hnumber, hfind, hkind⟩
  · cases h

theorem mem_of_definition? (hspans : index.Spans pool) {v d : Json}
    (h : definition? index v = some d) : d ∈ pool := by
  obtain ⟨nodes, number, hnodes, -, hfind, -⟩ := definition?_spec h
  exact (hspans.of_find? hnodes hfind).1

theorem mem_of_mem_typeNames (hspans : index.Spans pool) {root v : Json} (hroot : root ∈ pool)
    (h : v ∈ typeNames root) : v ∈ pool ∧ isOfKind typeNameKinds v = true := by
  obtain ⟨hv, hkind⟩ := List.mem_filter.1 h
  obtain ⟨hnode, hwithin⟩ := mem_nodes_iff.1 hv
  exact ⟨hspans.within root hroot v hnode hwithin, hkind⟩

/-- The identifier of a user defined value type stands for one type. -/
theorem TypesResolve.underlying_eq (h : TypesResolve index pool) {u v : String × Json}
    (hu : u ∈ underlyings index pool) (hv : v ∈ underlyings index pool) (hid : u.1 = v.1) :
    u.2 = v.2 := by
  have hread : ∀ entry ∈ underlyings index pool, ∃ w ∈ pool, isOfKind typeNameKinds w = true ∧
      entry.1 = layoutId w ∧ ∃ d, definition? index w = some d ∧ underlyingOf d = .ok entry.2 := by
    intro entry hentry
    obtain ⟨w, hw, hsome⟩ := List.mem_filterMap.1 hentry
    obtain ⟨hpool, hkind⟩ := List.mem_filter.1 hw
    unfold underlying? at hsome
    split at hsome
    · rename_i d hd
      have hdefinition := (Option.filter_eq_some_iff.1 hd).1
      cases hunderlying : underlyingOf d with
      | error e =>
          rw [hunderlying] at hsome
          cases hsome
      | ok x =>
          rw [hunderlying] at hsome
          cases hsome
          exact ⟨w, hpool, hkind, rfl, d, hdefinition, hunderlying⟩
    · cases hsome
  obtain ⟨w, hw, hkind, hwid, d, hd, hud⟩ := hread u hu
  obtain ⟨w', hw', hkind', hwid', d', hd', hvd⟩ := hread v hv
  have hsame := h.identified w hw w' hw' hkind hkind' (hwid.symm.trans (hid.trans hwid'))
  rw [hd, hd'] at hsame
  cases hsame
  exact Except.ok.inj (hud.symm.trans hvd)

theorem Setting.known_of_definition? (hs : Setting known index pool) {v d u : Json} (hv : v ∈ pool)
    (hkind : isOfKind typeNameKinds v = true) (hd : definition? index v = some d)
    (htype : isValueType d = true) (hu : underlyingOf d = .ok u) : known (layoutId v) u := by
  refine hs.underlyings (layoutId v, u) (List.mem_filterMap.2 ⟨v, List.mem_filter.2 ⟨hv, hkind⟩, ?_⟩)
  rw [underlying?, hd, Option.filter_some_pos htype]
  dsimp only
  rw [hu]
  rfl

/-- A type name that is entered stays so when the table is filled. -/
theorem Setting.kept_entered (hs : Setting known index pool) {v : Json} (hv : v ∈ pool)
    (hkind : isOfKind typeNameKinds v = true) : Kept known (Entered index v) := by
  rintro t t' hgrows ⟨e, he, hd⟩
  obtain ⟨e', he', hfilled⟩ := hgrows _ e he
  refine ⟨e', he', fun d hdef => ⟨fun htype => ?_, fun htype => ?_⟩⟩
  · have hu := (hd d hdef).1 htype
    rcases hfilled.underlying with hsame | hknown
    · rw [hsame]
      exact hu
    · have hown := hs.known_of_definition? hv hkind hdef htype hu
      rw [hs.functional _ _ _ hknown hown]
      exact hu
  · have hsome := (hd d hdef).2 htype
    rw [hfilled.members hsome]
    exact hsome

theorem loads_register (id label : String) :
    Loads known E (fun _ => True) (register id label) fun _ t => (Json.find? id t).isSome := by
  refine loads_modify fun s _ => ?_
  split
  · exact ⟨.refl _, ‹_›⟩
  · refine ⟨.append _ _ _, ?_⟩
    simp [Json.find?_append, Json.find?_cons]

/-- Changing the entry of an identifier in a way that fills it. -/
theorem loads_updateEntry {id : String} {f : TypeEntry → TypeEntry} {P : TypeTable → Prop}
    {R : TypeEntry → Prop} (hkey : ∀ t, P t → (Json.find? id t).isSome)
    (h : ∀ t e, P t → Json.find? id t = some e → e.Filled known id (f e) ∧ R (f e)) :
    Loads known E P (updateEntry id f) fun _ t => ∃ e, Json.find? id t = some e ∧ R e := by
  unfold updateEntry
  refine loads_modify fun s hs => ⟨.update fun e he => (h _ e hs he).1, ?_⟩
  obtain ⟨e, he⟩ := Option.isSome_iff_exists.1 (hkey _ hs)
  exact ⟨f e, by rw [Json.find?_update, he]; simp, (h _ e hs he).2⟩

theorem loads_recordedMembers {P : TypeTable → Prop} (id : String) :
    Loads known E P (recordedMembers id) fun members t =>
      P t ∧ members = (Json.find? id t).bind (·.members) :=
  (loads_get (Q := fun s t => P t ∧ s.types = t) fun _ hP => ⟨hP, rfl⟩).bind fun s =>
    loads_pure fun t ht => ⟨ht.1, by rw [ht.2]⟩

/-- What a definition says of a type is recorded. -/
theorem Setting.loads_recordDefinition (hs : Setting known index pool) {v d : Json} (hv : v ∈ pool)
    (hkind : isOfKind typeNameKinds v = true) (hd : definition? index v = some d) :
    Loads known E (fun t => (Json.find? (layoutId v) t).isSome) (recordDefinition (layoutId v) d)
      fun _ t => Entered index v t := by
  obtain ⟨-, -, -, -, -, hloaded⟩ := definition?_spec hd
  have hcomplete := hs.resolve.complete d (mem_of_definition? hs.spans hd) hloaded
  have hasked : isDefinition .valueType d = .ok (isValueType d) :=
    hasKind_eq (isNode_of_isOfKind hloaded) _
  unfold recordDefinition
  refine .quiet_bind (quiet_ask hasked) ?_
  split
  · rename_i htype
    rw [Complete, if_pos htype] at hcomplete
    obtain ⟨u, hu⟩ := Except.exists_of_toBool hcomplete
    refine .quiet_bind (quiet_ask hu) (loads_updateEntry (fun t ht => ht) fun t e _ _ => ?_)
    refine ⟨⟨rfl, rfl, fun _ => rfl, .inr ?_⟩, fun d' hd' => ?_⟩
    · exact hs.known_of_definition? hv hkind hd htype hu
    · obtain rfl := Option.some.inj (hd.symm.trans hd')
      exact ⟨fun _ => hu, fun hfalse => absurd (hfalse.symm.trans htype) Bool.false_ne_true⟩
  · rename_i htype
    rw [Complete, if_neg htype] at hcomplete
    obtain ⟨ms, hms⟩ := Except.exists_of_toBool hcomplete
    refine (loads_recordedMembers _).bind fun members => ?_
    split
    · rename_i hnone
      refine .quiet_bind (quiet_lift hms)
        (loads_updateEntry (fun t ht => ht.1) fun t e ht he => ?_)
      have hempty : e.members = none := by
        have hmembers := ht.2
        rw [he] at hmembers
        exact hmembers.symm.trans (Option.isNone_iff_eq_none.1 hnone)
      refine ⟨⟨rfl, rfl, fun h => absurd h (by simp [hempty]), .inl rfl⟩, fun d' hd' => ?_⟩
      obtain rfl := Option.some.inj (hd.symm.trans hd')
      exact ⟨fun htrue => absurd htrue htype, fun _ => rfl⟩
    · rename_i hsome
      refine loads_pure fun t ⟨hkey, hmembers⟩ => ?_
      obtain ⟨e, he⟩ := Option.isSome_iff_exists.1 hkey
      refine ⟨e, he, fun d' hd' => ?_⟩
      obtain rfl := Option.some.inj (hd.symm.trans hd')
      refine ⟨fun htrue => absurd htrue htype, fun _ => ?_⟩
      rw [he] at hmembers
      rw [Option.isSome_iff_ne_none]
      simpa [hmembers] using hsome

/-- A type name that can be loaded is followed exactly if it refers to a definition. -/
theorem Loadable.follows {v : Json} (h : Loadable index v) :
    ((v.get "referencedDeclaration").toBool && !isContractId (layoutId v)) =
      (definition? index v).isSome := by
  cases hget : v.get "referencedDeclaration" with
  | error e =>
      have hnone : definition? index v = none := by
        unfold definition?
        rw [hget]
        cases index.nodes <;> rfl
      rw [hnone]
      rfl
  | ok number =>
      rw [← h.resolved (by rw [hget]; rfl)]
      cases definition? index v <;> rfl

/-- Loading a type name enters it, and leads to its definition. -/
theorem Setting.loads_loadNode (hs : Setting known index pool) {v : Json} (hv : v ∈ pool)
    (hkind : isOfKind typeNameKinds v = true) :
    Loads known E (fun _ => True) (loadNode index v)
      fun found t => found = definition? index v ∧ Entered index v t := by
  have hloadable := hs.resolve.loadable v hv hkind
  obtain ⟨⟨encoded, label⟩, hdescribe⟩ := Except.exists_of_toBool hloadable.described
  have hid : TypeId.normalize encoded = layoutId v := by rw [layoutId, rawId_eq hdescribe]
  unfold loadNode
  refine .quiet_bind (quiet_lift hdescribe) ?_
  simp only [hid]
  refine (loads_register _ _).bind fun _ => ?_
  refine .quiet_bind (quiet_ask (contains_eq (isNode_of_isOfKind hkind) _)) ?_
  rw [hloadable.follows]
  cases hd : definition? index v with
  | none =>
      refine loads_pure fun t hsome => ⟨rfl, ?_⟩
      obtain ⟨e, he⟩ := Option.isSome_iff_exists.1 hsome
      exact ⟨e, he, fun d hd' => by rw [hd] at hd'; cases hd'⟩
  | some d =>
      obtain ⟨nodes, number, hnodes, hget, hfind, hloaded⟩ := definition?_spec hd
      refine .quiet_bind (quiet_ask hget) (.quiet_bind
        (SyntaxIndex.quiet_deref hnodes hfind hloaded) ?_)
      refine (hs.loads_recordDefinition hv hkind hd).bind fun _ => ?_
      exact .quiet_bind (quiet_say _ _) (loads_pure fun t ht => ⟨rfl, ht⟩)

end Ast
end StorageUpgrade
