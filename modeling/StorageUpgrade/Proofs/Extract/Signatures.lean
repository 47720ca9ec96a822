import StorageUpgrade.Proofs.Ast.Answers
import StorageUpgrade.Proofs.Extract.ParameterTypes
import StorageUpgrade.Proofs.Extract.TypesClosed

/-!
# Signatures of functions

A syntax tree names the types of the parameters of a function (`Names`), and the signature of the
function is its name with the tuple of these types.  The lengths of arrays that the source gives by
literals stand in it as they are written there, and the others in decimals, as the compiler has
computed them.  So the signature is the canonical one if and only if all of these literals are
written in decimals (`ofFunction_cases`).

## Strategy

* A type name leads to the names of the parts of its type (`Names.parts`).  Hence all types that it
  names have the same height (`height_le_of_names`).
* The nodes by which a type name is reached name higher types than it does.  So they are all
  different, and since they are nodes of the compilation, a type is no higher than its own name is
  deep and than there are nodes (`height_le_depth_add_size`).  This is the number of steps that are
  taken for a parameter.
* With as many steps as a type is high, its name is written as the type (`quiet_typeName`).  The
  induction is on the parts of the type.
-/

namespace StorageUpgrade
namespace Signature

open SyntaxM
open Extract (typed referenceNode)

/-! ### Types that a syntax tree names -/

/-- The definition that a type name refers to. -/
def definition? (index : SyntaxIndex) (node : Json) : Option Json :=
  match index.nodes with
  | .ok nodes => SyntaxIndex.find? nodes (node.field "referencedDeclaration")
  | .error _ => none

/-- A type name refers to a definition of a kind. -/
structure Refers (index : SyntaxIndex) (node : Json) (kind : Ast.DefinitionKind)
    (definition : Json) : Prop where
  named : Ast.isOfKind [Ast.TypeNameKind.userDefined.nodeType] node = true
  referenced : node.field "referencedDeclaration" ≠ .null
  found : definition? index node = some definition
  kind : Ast.isOfKind [kind.nodeType] definition = true

/-- What the length of an array is given by: a literal with its text, or another expression, for
which a tree has no value. -/
inductive GivenBy (length : Json) : Option String → Prop where
  | literal {value : String} : length.field "value" = .str value → ']' ∉ value.toList →
      GivenBy length (some value)
  | expression : Ast.isNode length = true → length.field "value" = .null → GivenBy length none

/-- A node of a syntax tree names a type, as a compiler writes such nodes: the text of an
elementary type starts with its name, and that of an array of a fixed length ends with the length
in brackets. -/
inductive Names (index : SyntaxIndex) : Json → ParameterType → Prop where
  | elementary {node : Json} {id name : String} {words : List String} :
      Ast.isOfKind [Ast.TypeNameKind.elementary.nodeType] node = true →
      Ast.describe node = .ok (id, qualified name words) → ' ' ∉ name.toList →
      (∀ word ∈ words, word.toList ∈ qualifiers) → Names index node (.elementary name)
  | function {node : Json} :
      Ast.isOfKind [Ast.TypeNameKind.function.nodeType] node = true → Names index node .function
  | enum {node definition : Json} : Refers index node .enum definition → Names index node .enum
  | contract {node definition : Json} :
      Refers index node .contract definition → Names index node .contract
  | valueType {node definition : Json} {underlying : ParameterType} :
      Refers index node .valueType definition →
      Names index (definition.field "underlyingType") underlying →
      Names index node (.valueType underlying)
  | array {node : Json} {element : ParameterType} :
      Ast.isOfKind [Ast.TypeNameKind.array.nodeType] node = true →
      Names index (node.field "baseType") element → node.field "length" = .null →
      Names index node (.array element)
  | fixedArray {node : Json} {element : ParameterType} {id front : String} {length : Nat}
      {literal : Option String} :
      Ast.isOfKind [Ast.TypeNameKind.array.nodeType] node = true →
      Names index (node.field "baseType") element → GivenBy (node.field "length") literal →
      Ast.describe node = .ok (id, front ++ "[" ++ toString length ++ "]") →
      Names index node (.fixedArray element length literal)
  | struct {node definition : Json} {members : List Json} {types : List ParameterType} :
      Refers index node .struct definition → definition.field "members" = .arr members →
      List.Forall₂ (fun m t => Names index (m.field "typeName") t) members types →
      Names index node (.struct types)

variable {index : SyntaxIndex} {node : Json} {t : ParameterType}

theorem Refers.isNode {kind : Ast.DefinitionKind} {definition : Json}
    (h : Refers index node kind definition) : Ast.isNode node = true :=
  Ast.isNode_of_isOfKind h.named

theorem Names.isNode (h : Names index node t) : Ast.isNode node = true := by
  cases h with
  | elementary hkind => exact Ast.isNode_of_isOfKind hkind
  | function hkind => exact Ast.isNode_of_isOfKind hkind
  | enum hrefers => exact hrefers.isNode
  | contract hrefers => exact hrefers.isNode
  | valueType hrefers => exact hrefers.isNode
  | array hkind => exact Ast.isNode_of_isOfKind hkind
  | fixedArray hkind => exact Ast.isNode_of_isOfKind hkind
  | struct hrefers => exact hrefers.isNode

/-! ### Type names that a type name leads to -/

/-- The type names that a type name leads to: that of the elements of an array, those of the members
of a struct, and that of the type that a user defined value type stands for. -/
def leadsTo (index : SyntaxIndex) (node : Json) : List Json :=
  if Ast.isOfKind [Ast.TypeNameKind.array.nodeType] node then [node.field "baseType"]
  else if Ast.isOfKind [Ast.TypeNameKind.userDefined.nodeType] node then
    match definition? index node with
    | none => []
    | some d =>
      if Ast.isOfKind [Ast.DefinitionKind.struct.nodeType] d then
        (d.field "members").items.map (·.field "typeName")
      else if Ast.isOfKind [Ast.DefinitionKind.valueType.nodeType] d then [d.field "underlyingType"]
      else []
  else []

theorem not_isOfKind {kind other : String} {v : Json} (h : Ast.isOfKind [kind] v = true)
    (hne : other ≠ kind) : ¬ Ast.isOfKind [other] v = true := by
  unfold Ast.isOfKind at h ⊢
  split at h
  · rename_i own hown
    obtain rfl : own = kind := by simpa using h
    simpa [hown] using hne.symm
  · cases h

theorem Refers.leadsTo_eq {kind : Ast.DefinitionKind} {definition : Json}
    (h : Refers index node kind definition) : leadsTo index node =
      match kind with
      | .struct => (definition.field "members").items.map (·.field "typeName")
      | .valueType => [definition.field "underlyingType"]
      | _ => [] := by
  rw [leadsTo, if_neg (not_isOfKind h.named (by decide)), if_pos h.named, h.found]
  dsimp only
  cases kind with
  | struct => rw [if_pos h.kind]
  | valueType => rw [if_neg (not_isOfKind h.kind (by decide)), if_pos h.kind]
  | enum | contract =>
      rw [if_neg (not_isOfKind h.kind (by decide)), if_neg (not_isOfKind h.kind (by decide))]

theorem leadsTo_of_array (h : Ast.isOfKind [Ast.TypeNameKind.array.nodeType] node = true) :
    leadsTo index node = [node.field "baseType"] := if_pos h

/-- The type names that a type name leads to name the parts of its type. -/
theorem Names.parts (h : Names index node t) :
    List.Forall₂ (Names index) (leadsTo index node) t.parts := by
  cases h with
  | elementary hkind =>
      rw [leadsTo, if_neg (not_isOfKind hkind (by decide)), if_neg (not_isOfKind hkind (by decide))]
      exact .nil
  | function hkind =>
      rw [leadsTo, if_neg (not_isOfKind hkind (by decide)), if_neg (not_isOfKind hkind (by decide))]
      exact .nil
  | enum hrefers => exact hrefers.leadsTo_eq ▸ .nil
  | contract hrefers => exact hrefers.leadsTo_eq ▸ .nil
  | valueType hrefers hunderlying => exact hrefers.leadsTo_eq ▸ .cons hunderlying .nil
  | array hkind helement => exact leadsTo_of_array hkind ▸ .cons helement .nil
  | fixedArray hkind helement => exact leadsTo_of_array hkind ▸ .cons helement .nil
  | struct hrefers hmembers htypes =>
      rw [hrefers.leadsTo_eq, hmembers]
      exact List.forall₂_map_left_iff.2 htypes

/-- A type name names types of one height only. -/
theorem height_le_of_names {t' : ParameterType} (h : Names index node t) (h' : Names index node t') :
    t.height ≤ t'.height := by
  induction t using ParameterType.parts_induction generalizing node t' with
  | step t ih =>
      rw [t.height_eq, t'.height_eq]
      refine Nat.succ_le_succ (ParameterType.heightOf_le_iff.2 fun p hp => ?_)
      obtain ⟨w, hw, hwp⟩ := exists_left_of_mem h.parts hp
      obtain ⟨p', hp', hwp'⟩ := exists_right_of_mem h'.parts hw
      exact (ih p hp hwp hwp').trans (ParameterType.heightOf_le_iff.1 (Nat.le_refl _) p' hp')

/-! ### The height of a type is bounded -/

theorem depth_field_lt {v : Json} {key : String} (h : v.field key ≠ .null) :
    (v.field key).depth < v.depth := by
  have hmem := Json.mem_fields_of_field_ne h
  cases v with
  | obj es => exact Ast.depth_lt_of_mem_children (List.mem_map.2 ⟨_, hmem, rfl⟩)
  | _ => cases hmem

theorem field_ne_null {v : Json} {key : String} (h : Ast.isNode (v.field key) = true) :
    v.field key ≠ .null := by
  intro hnull
  rw [hnull] at h
  cases h

theorem get_of_isNode {v : Json} {key : String} (h : Ast.isNode (v.field key) = true) :
    v.get key = .ok (v.field key) := Json.field_of_contains (field_ne_null h)

theorem mem_children_of_mem_items {v m : Json} (h : m ∈ v.items) : m ∈ v.children := by
  cases v with
  | arr xs => exact h
  | _ => cases h

section Pool

variable {pool : List Json} (hs : index.Spans pool)

include hs

theorem mem_pool_of_definition {definition : Json} (h : definition? index node = some definition) :
    definition ∈ pool ∧ pool.length ≤ index.size := by
  unfold definition? at h
  split at h
  · rename_i nodes hnodes
    exact ⟨(hs.of_find? hnodes h).1, hs.size nodes hnodes⟩
  · cases h

/-- A type name leads to a part of itself, or to nodes of the compilation. -/
theorem of_mem_leadsTo {w : Json} (h : w ∈ leadsTo index node) (hw : Ast.isNode w = true) :
    w = node.field "baseType" ∨ w ∈ pool ∧ pool.length ≤ index.size := by
  unfold leadsTo at h
  split at h
  · exact .inl (List.mem_singleton.1 h)
  · split at h
    · split at h
      · cases h
      · rename_i definition hfound
        obtain ⟨hmem, hsize⟩ := mem_pool_of_definition hs hfound
        refine .inr ⟨?_, hsize⟩
        split at h
        · obtain ⟨m, hm, rfl⟩ := List.mem_map.1 h
          have hmembers : definition.field "members" ≠ .null := by
            intro hnull
            rw [hnull] at hm
            cases hm
          refine hs.within definition hmem _ hw ((Ast.within_field (field_ne_null hw)).trans ?_)
          exact Ast.Within.trans (.child (mem_children_of_mem_items hm) .self)
            (Ast.within_field hmembers)
        · split at h
          · obtain rfl := List.mem_singleton.1 h
            exact hs.within definition hmem _ hw (Ast.within_field (field_ne_null hw))
          · cases h
    · cases h

theorem mem_pool_of_mem_leadsTo {w : Json} (hnode : node ∈ pool) (h : w ∈ leadsTo index node)
    (hw : Ast.isNode w = true) : w ∈ pool := by
  rcases of_mem_leadsTo hs h hw with rfl | ⟨hmem, -⟩
  · exact hs.within node hnode _ hw (Ast.within_field (field_ne_null hw))
  · exact hmem

/-- The type names by which a type name was reached name higher types, so it is none of them, and
there are only so many nodes. -/
theorem height_add_length_le (hnode : node ∈ pool) (h : Names index node t) {seen : List Json}
    (hnodup : seen.Nodup)
    (hseen : ∀ v ∈ seen, v ∈ pool ∧ ∃ u, Names index v u ∧ t.height < u.height) :
    t.height + seen.length ≤ pool.length := by
  induction t using ParameterType.parts_induction generalizing node seen with
  | step t ih =>
      -- A node that was seen names a higher type, and a node names types of one height only.
      have hnew : node ∉ seen := by
        intro hmem
        obtain ⟨-, u, hu, hlt⟩ := hseen node hmem
        exact absurd (height_le_of_names hu h) (Nat.not_le.2 hlt)
      have hnodup' : (node :: seen).Nodup := List.nodup_cons.2 ⟨hnew, hnodup⟩
      have hlength : (node :: seen).length ≤ pool.length :=
        (List.subperm_of_subset hnodup' (List.forall_mem_cons.2 ⟨hnode, fun v hv =>
          (hseen v hv).1⟩)).length_le
      have hparts : ParameterType.heightOf t.parts ≤ pool.length - (node :: seen).length := by
        refine ParameterType.heightOf_le_iff.2 fun p hp => ?_
        obtain ⟨w, hw, hwp⟩ := exists_left_of_mem h.parts hp
        have hlower := ParameterType.height_lt_of_mem_parts hp
        have hrest := ih p hp (mem_pool_of_mem_leadsTo hs hnode hw hwp.isNode) hwp hnodup'
          (List.forall_mem_cons.2 ⟨⟨hnode, t, h, hlower⟩, fun v hv => ?_⟩)
        · omega
        · obtain ⟨hv, u, hu, hlt⟩ := hseen v hv
          exact ⟨hv, u, hu, hlower.trans hlt⟩
      rw [t.height_eq]
      rw [List.length_cons] at hlength hparts
      omega

/-- A type has no more levels than its name is deep, and those of the nodes of the compilation. -/
theorem height_le_depth_add_size (h : Names index node t) : t.height ≤ node.depth + index.size := by
  induction t using ParameterType.parts_induction generalizing node with
  | step t ih =>
      have hdepth := Ast.one_le_depth node
      have hparts : ParameterType.heightOf t.parts ≤ node.depth - 1 + index.size := by
        refine ParameterType.heightOf_le_iff.2 fun p hp => ?_
        obtain ⟨w, hw, hwp⟩ := exists_left_of_mem h.parts hp
        rcases of_mem_leadsTo hs hw hwp.isNode with rfl | ⟨hmem, hsize⟩
        · have hlower := depth_field_lt (field_ne_null hwp.isNode)
          have hrest := ih p hp hwp
          omega
        · have hrest := height_add_length_le hs hmem hwp List.nodup_nil nofun
          rw [List.length_nil] at hrest
          omega
      rw [t.height_eq]
      omega

end Pool

/-! ### Texts of types -/

section Test

variable {α : Type} {a : α} {m m' : SyntaxM α} {test : Except Json.Misuse Bool}

theorem quiet_then (htest : test = .ok true) (hm : Quiet m a) :
    Quiet (do if ← ask test then m else m') a := (quiet_ask htest).bind hm

theorem quiet_else (htest : test = .ok false) (hm : Quiet m' a) :
    Quiet (do if ← ask test then m else m') a := (quiet_ask htest).bind hm

end Test

section Kind

variable {kind other : String} {v : Json} (h : Ast.isOfKind [kind] v = true)

include h

theorem hasKind_self : Ast.hasKind kind v = .ok true := by
  rw [Ast.hasKind_eq (Ast.isNode_of_isOfKind h), h]

theorem hasKind_other (hne : other ≠ kind) : Ast.hasKind other v = .ok false := by
  rw [Ast.hasKind_eq (Ast.isNode_of_isOfKind h), Bool.eq_false_iff.2 (not_isOfKind h hne)]

/-- A node has a kind, so it does not matter whether it must have one. -/
theorem mayHaveKind_eq (asked : String) : Ast.mayHaveKind asked v = Ast.hasKind asked v := by
  have hnode := Ast.isNode_of_isOfKind h
  cases v with
  | obj es =>
      cases hkind : Json.find? "nodeType" es with
      | none => simp [Ast.isNode, Ast.kind?, hkind] at hnode
      | some k => simp [Ast.mayHaveKind, Ast.hasKind, Json.get, Json.lookup, hkind]
  | _ => cases hnode

theorem mayHaveKind_self : Ast.mayHaveKind kind v = .ok true :=
  (mayHaveKind_eq h kind).trans (hasKind_self h)

theorem mayHaveKind_other (hne : other ≠ kind) : Ast.mayHaveKind other v = .ok false :=
  (mayHaveKind_eq h other).trans (hasKind_other h hne)

end Kind

/-- The length of an array is written as in the source. -/
theorem quiet_arrayLength {length : Nat} {literal : Option String} {id front : String}
    (hgiven : GivenBy (node.field "length") literal)
    (hdescribed : Ast.describe node = .ok (id, front ++ "[" ++ toString length ++ "]")) :
    Quiet (arrayLength node (node.field "length")) (Spelling.asInSource length literal) := by
  unfold arrayLength
  cases hgiven with
  | literal hvalue hclosed =>
      have hset : (node.field "length").field "value" ≠ .null := by
        rw [hvalue]
        nofun
      have hget := Json.field_of_contains hset
      refine (quiet_ask (Json.lookup_eq (by rw [hget]; rfl) _)).bind ?_
      rw [hvalue]
      exact quiet_pure _
  | expression hnode hvalue =>
      refine (quiet_ask (Ast.lookup_eq hnode _)).bind ?_
      rw [hvalue]
      refine (quiet_lift hdescribed).bind ?_
      have htext : (front ++ "[" ++ toString length ++ "]").toList =
          front.toList ++ '[' :: ((toString length).toList ++ [']']) := by simp
      dsimp only
      rw [htext, lastLength?_bracketed]
      dsimp only
      rw [String.ofList_toList]
      exact quiet_pure _

theorem isOfKind_definitionKinds {kind : Ast.DefinitionKind} {definition : Json}
    (h : Ast.isOfKind [kind.nodeType] definition = true) :
    Ast.isOfKind definitionKinds definition = true := by
  unfold Ast.isOfKind at h ⊢
  split at h
  · rename_i own hown
    obtain rfl : own = kind.nodeType := by simpa using h
    have hall : kind ∈ Ast.DefinitionKind.all := by cases kind <;> decide
    exact List.contains_iff_mem.2 (List.mem_map_of_mem hall)
  · cases h

/-- What a type name is asked for goes on with the definition that it refers to. -/
theorem Refers.quiet_bind {kind : Ast.DefinitionKind} {definition : Json} {text : String}
    {f : Json → SyntaxM String} (h : Refers index node kind definition)
    (hf : Quiet (f definition) text) :
    Quiet (do f (← index.deref definitionKinds (← ask (node.get "referencedDeclaration")))) text := by
  have hfound := h.found
  unfold definition? at hfound
  split at hfound
  · rename_i nodes hnodes
    refine (quiet_ask (Json.field_of_contains h.referenced)).bind
      ((SyntaxIndex.quiet_deref hnodes hfound ?_).bind hf)
    exact isOfKind_definitionKinds h.kind
  · cases hfound

theorem GivenBy.ne_null {length : Json} {literal : Option String} (h : GivenBy length literal) :
    length ≠ .null := by
  rintro rfl
  cases h with
  | literal hvalue => cases hvalue
  | expression hnode => cases hnode

/-- A type name is written as the type that it names, with lengths as in the source. -/
theorem quiet_typeName {steps : Nat} (h : Names index node t) (hsteps : t.height ≤ steps) :
    Quiet (typeName index steps node) (t.text .asInSource) := by
  induction t using ParameterType.parts_induction generalizing node steps with
  | step t ih =>
      obtain ⟨steps, rfl⟩ : ∃ n, steps = n + 1 :=
        Nat.exists_eq_succ_of_ne_zero (by rw [t.height_eq] at hsteps; omega)
      have hparts : ∀ p ∈ t.parts, ∀ w, Names index w p →
          Quiet (typeName index steps w) (p.text .asInSource) := by
        intro p hp w hw
        have hlower := ParameterType.height_lt_of_mem_parts hp
        exact ih p hp hw (by omega)
      unfold typeName
      cases h with
      | elementary hkind hdescribed hname hwords =>
          refine quiet_else (mayHaveKind_other hkind (by decide)) (quiet_else
            (mayHaveKind_other hkind (by decide)) (quiet_else (mayHaveKind_other hkind (by decide))
              ((quiet_lift hdescribed).bind ?_)))
          dsimp only
          rw [dropQualifiers_qualified hname hwords]
          exact quiet_pure _
      | function hkind =>
          exact quiet_else (mayHaveKind_other hkind (by decide)) (quiet_else
            (mayHaveKind_other hkind (by decide)) (quiet_then (mayHaveKind_self hkind)
              (quiet_pure _)))
      | array hkind helement hlength =>
          refine quiet_else (mayHaveKind_other hkind (by decide)) (quiet_then
            (mayHaveKind_self hkind) ((quiet_ask (get_of_isNode helement.isNode)).bind
              ((hparts _ List.mem_cons_self _ helement).bind
                ((quiet_ask (Ast.lookup_eq (Ast.isNode_of_isOfKind hkind) _)).bind ?_))))
          rw [hlength]
          exact quiet_pure _
      | fixedArray hkind helement hgiven hdescribed =>
          refine quiet_else (mayHaveKind_other hkind (by decide)) (quiet_then
            (mayHaveKind_self hkind) ((quiet_ask (get_of_isNode helement.isNode)).bind
              ((hparts _ List.mem_cons_self _ helement).bind
                ((quiet_ask (Ast.lookup_eq (Ast.isNode_of_isOfKind hkind) _)).bind ?_))))
          split
          · rename_i hnull
            exact absurd hnull hgiven.ne_null
          · exact (quiet_arrayLength hgiven hdescribed).bind (quiet_pure _)
      | enum hrefers =>
          exact quiet_then (mayHaveKind_self hrefers.named) (hrefers.quiet_bind
            (quiet_else (hasKind_other hrefers.kind (by decide)) (quiet_then
              (hasKind_self hrefers.kind) (quiet_pure _))))
      | contract hrefers =>
          exact quiet_then (mayHaveKind_self hrefers.named) (hrefers.quiet_bind
            (quiet_else (hasKind_other hrefers.kind (by decide)) (quiet_else
              (hasKind_other hrefers.kind (by decide)) (quiet_then (hasKind_self hrefers.kind)
                (quiet_pure _)))))
      | valueType hrefers hunderlying =>
          exact quiet_then (mayHaveKind_self hrefers.named) (hrefers.quiet_bind
            (quiet_else (hasKind_other hrefers.kind (by decide)) (quiet_else
              (hasKind_other hrefers.kind (by decide)) (quiet_else
                (hasKind_other hrefers.kind (by decide))
                ((quiet_ask (get_of_isNode hunderlying.isNode)).bind
                  (hparts _ List.mem_cons_self _ hunderlying))))))
      | @struct _ definition members types hrefers hmembers htypes =>
          have hget : definition.get "members" = .ok (.arr members) := by
            rw [← hmembers]
            exact Json.field_of_contains (by rw [hmembers]; nofun)
          have hlisted : (definition.get "members" >>= Json.elements) = .ok members := by
            rw [hget]
            rfl
          have htexts : List.Forall₂ (fun m text => Quiet (do
              typeName index steps (← ask (m.get "typeName"))) text) members
              (ParameterType.texts .asInSource types) := by
            rw [ParameterType.texts_eq_map, List.forall₂_map_right_iff, List.forall₂_iff_zip]
            refine ⟨htypes.length_eq, fun {m p} hmem => ?_⟩
            have hp := (List.forall₂_iff_zip.1 htypes).2 hmem
            exact (quiet_ask (get_of_isNode hp.isNode)).bind
              (hparts p (List.of_mem_zip hmem).2 _ hp)
          exact quiet_then (mayHaveKind_self hrefers.named) (hrefers.quiet_bind
            (quiet_then (hasKind_self hrefers.kind) ((quiet_ask hlisted).bind
              ((quiet_mapM htexts).bind (quiet_pure _)))))

/-! ### Signatures -/

/-- A function with a name has parameters of some types. -/
structure DeclaresFunction (index : SyntaxIndex) (function : Json) (name : String)
    (types : List ParameterType) : Prop where
  name : function.field "name" = .str name
  parameters : ∃ parameters, (function.field "parameters").field "parameters" = .arr parameters ∧
    List.Forall₂ (fun p t => Names index (p.field "typeName") t) parameters types

/-- The literals in the types that are named are told from the bracket behind them. -/
theorem Names.closes (h : Names index node t) :
    ParameterType.Closes .asInSource t.lengths := by
  induction t using ParameterType.parts_induction generalizing node with
  | step t ih =>
      cases h with
      | @valueType _ _ underlying _ hunderlying =>
          exact ih underlying List.mem_cons_self hunderlying
      | @array _ element _ helement _ => exact ih element List.mem_cons_self helement
      | @fixedArray _ element _ _ length literal _ helement hgiven _ =>
          refine List.forall_mem_append.2 ⟨ih _ List.mem_cons_self helement,
            List.forall_mem_singleton.2 ?_⟩
          cases hgiven with
          | literal _ hclosed => exact hclosed
          | expression => exact not_mem_toString rfl length
      | struct _ _ htypes =>
          intro l hl
          obtain ⟨p, hp, hl⟩ := ParameterType.mem_lengthsIn.1 hl
          obtain ⟨m, -, hm⟩ := exists_left_of_mem htypes hp
          exact ih p hp hm l hl
      | _ => nofun

theorem agree_decimal_iff {lengths : List (Nat × Option String)} :
    ParameterType.Agree .asInSource .decimal lengths ↔
      ∀ l ∈ lengths, ∀ literal ∈ l.2, literal = toString l.1 := by
  refine forall₂_congr fun l _ => ?_
  obtain ⟨length, literal⟩ := l
  cases literal <;> simp [Spelling.asInSource, Spelling.decimal]

section Function

variable {number : Nat} {output function : Json} {name : String} {types : List ParameterType}
  (h : DeclaresFunction (.ofOutput number output) function name types)

include h

/-- The steps that are taken for a parameter are enough, so the signature is the name with the tuple
of the types, with lengths as in the source. -/
theorem quiet_ofFunction : Quiet (ofFunction (.ofOutput number output) function)
    (name ++ (ParameterType.struct types).text .asInSource) := by
  obtain ⟨parameters, hlist, hnames⟩ := h.parameters
  have hs := SyntaxIndex.spans_ofOutput number output
  have hinner : (function.field "parameters").get "parameters" = .ok (.arr parameters) := by
    rw [← hlist]
    exact Json.field_of_contains (by rw [hlist]; nofun)
  have houter : function.get "parameters" = .ok (function.field "parameters") := by
    refine Json.field_of_contains fun hnull => ?_
    rw [hnull] at hlist
    cases hlist
  have hlisted : (do (← (← function.get "parameters").get "parameters").elements) =
      .ok parameters := by
    rw [houter]
    change ((function.field "parameters").get "parameters" >>= Json.elements) = _
    rw [hinner]
    rfl
  have hname : function.get "name" = .ok (.str name) := by
    rw [← h.name]
    exact Json.field_of_contains (by rw [h.name]; nofun)
  have htexts : List.Forall₂ (fun p text => Quiet (do
      let type ← ask (p.get "typeName")
      typeName (.ofOutput number output)
        (type.depth + (SyntaxIndex.ofOutput number output).size + 1) type) text)
      parameters (ParameterType.texts .asInSource types) := by
    rw [ParameterType.texts_eq_map, List.forall₂_map_right_iff]
    refine hnames.imp fun p t hp => ?_
    exact (quiet_ask (get_of_isNode hp.isNode)).bind
      (quiet_typeName hp ((height_le_depth_add_size hs hp).trans (Nat.le_succ _)))
  unfold ofFunction
  refine (quiet_ask hlisted).bind ((quiet_mapM htexts).bind ((quiet_ask hname).bind ?_))
  rw [ParameterType.text, Json.display_str, ← String.append_assoc, ← String.append_assoc]
  exact quiet_pure _

end Function

/-! ### A contract with two functions -/

/-- The name of an elementary type. -/
def elementaryNode (id : Int) (text : String) : Json :=
  .obj [("id", .int id), ("nodeType", .str "ElementaryTypeName"), typed "" text]

/-- The name of an array type, with the expression of the length. -/
def arrayNode (id : Int) (base length : Json) (text : String) : Json :=
  .obj [("id", .int id), ("nodeType", .str "ArrayTypeName"), ("baseType", base), ("length", length),
    typed "" text]

/-- A number, as the source writes it. -/
def literalNode (id : Int) (value : String) : Json :=
  .obj [("id", .int id), ("nodeType", .str "Literal"), ("value", .str value)]

/-- A constant. -/
def constantNode (id : Int) : Json := .obj [("id", .int id), ("nodeType", .str "Identifier")]

/-- A parameter of a function, or a member of a struct. -/
def parameterNode (id : Int) (typeName : Json) : Json :=
  .obj [("id", .int id), ("nodeType", .str "VariableDeclaration"), ("typeName", typeName)]

/-- A function with some parameters. -/
def functionNode (id : Int) (name : String) (parameters : List Json) : Json :=
  .obj [("id", .int id), ("nodeType", .str "FunctionDefinition"), ("name", .str name),
    ("parameters", .obj [("id", .int (id + 1)), ("nodeType", .str "ParameterList"),
      ("parameters", .arr parameters)])]

def kindNode : Json :=
  .obj [("id", .int 3), ("nodeType", .str "EnumDefinition"), ("members", .arr [])]

def amountNode : Json :=
  .obj [("id", .int 4), ("nodeType", .str "UserDefinedValueTypeDefinition"),
    ("underlyingType", elementaryNode 5 "uint128")]

/-- A struct with an enum, a user defined value type and a contract. -/
def positionNode : Json :=
  .obj [("id", .int 6), ("nodeType", .str "StructDefinition"), ("members", .arr [
    parameterNode 7 (referenceNode 8 "" "enum Vault.Kind" 3),
    parameterNode 9 (referenceNode 10 "" "Vault.Amount" 4),
    parameterNode 11 (referenceNode 12 "" "contract Vault" 2)])]

/-- All lengths that are literals are written in decimals. -/
def settleNode : Json := functionNode 20 "settle" [
  parameterNode 22 (arrayNode 23 (referenceNode 24 "" "struct Vault.Position" 6) (literalNode 25 "2")
    "struct Vault.Position[2]"),
  parameterNode 26 (elementaryNode 27 "address payable"),
  parameterNode 28 (arrayNode 29 (elementaryNode 30 "uint256") (constantNode 31) "uint256[16]")]

/-- The length is not written in decimals. -/
def depositNode : Json := functionNode 40 "deposit" [
  parameterNode 42 (arrayNode 43 (elementaryNode 44 "uint256") (literalNode 45 "0x10") "uint256[16]")]

def vaultNode : Json :=
  .obj [("id", .int 2), ("nodeType", .str "ContractDefinition"),
    ("nodes", .arr [kindNode, amountNode, positionNode, settleNode, depositNode])]

/-- The index of the compilation of the contract. -/
def vaultIndex : SyntaxIndex := .ofOutput 0 (.obj [("sources", .obj [("A.sol", .obj [
  ("ast", .obj [("id", .int 1), ("nodeType", .str "SourceUnit"), ("nodes", .arr [vaultNode])])])])])

/-- The types of the parameters of `settle`. -/
def settleTypes : List ParameterType :=
  [.fixedArray (.struct [.enum, .valueType (.elementary "uint128"), .contract]) 2 (some "2"),
    .elementary "address", .fixedArray (.elementary "uint256") 16 none]

/-- The types of the parameters of `deposit`. -/
def depositTypes : List ParameterType := [.fixedArray (.elementary "uint256") 16 (some "0x10")]

theorem names_elementaryNode (id : Int) (name : String) (words : List String)
    (hname : ' ' ∉ name.toList) (hwords : ∀ word ∈ words, word.toList ∈ qualifiers) :
    Names index (elementaryNode id (qualified name words)) (.elementary name) :=
  .elementary rfl rfl hname hwords

theorem refers_referenceNode {id declaration : Int} {text : String} {kind : Ast.DefinitionKind}
    (definition : Json) (hfound : definition? index (referenceNode id "" text declaration) =
      some definition) (hkind : Ast.isOfKind [kind.nodeType] definition = true) :
    Refers index (referenceNode id "" text declaration) kind definition :=
  ⟨rfl, nofun, hfound, hkind⟩

theorem givenBy_literalNode (id : Int) {value : String} (h : ']' ∉ value.toList) :
    GivenBy (literalNode id value) (some value) := .literal rfl h

theorem givenBy_constantNode (id : Int) : GivenBy (constantNode id) none := .expression rfl rfl

theorem names_arrayNode (id : Int) (front : String) (length : Nat) {base expression : Json}
    {element : ParameterType} {literal : Option String}
    (hbase : Names index base element) (hgiven : GivenBy expression literal) :
    Names index (arrayNode id base expression (front ++ "[" ++ toString length ++ "]"))
      (.fixedArray element length literal) :=
  .fixedArray rfl hbase hgiven rfl

theorem declaresFunction_settle : DeclaresFunction vaultIndex settleNode "settle" settleTypes := by
  have hkind : Names vaultIndex (referenceNode 8 "" "enum Vault.Kind" 3) .enum :=
    .enum (refers_referenceNode kindNode (by decide +kernel) rfl)
  have hamount : Names vaultIndex (referenceNode 10 "" "Vault.Amount" 4)
      (.valueType (.elementary "uint128")) :=
    .valueType (refers_referenceNode amountNode (by decide +kernel) rfl)
      (names_elementaryNode 5 "uint128" [] (by decide) nofun)
  have hvault : Names vaultIndex (referenceNode 12 "" "contract Vault" 2) .contract :=
    .contract (refers_referenceNode vaultNode (by decide +kernel) rfl)
  have hposition : Names vaultIndex (referenceNode 24 "" "struct Vault.Position" 6)
      (.struct [.enum, .valueType (.elementary "uint128"), .contract]) :=
    .struct (refers_referenceNode positionNode (by decide +kernel) rfl) rfl
      (.cons hkind (.cons hamount (.cons hvault .nil)))
  refine ⟨rfl, _, rfl, .cons ?_ (.cons ?_ (.cons ?_ .nil))⟩
  · exact names_arrayNode 23 "struct Vault.Position" 2 hposition
      (givenBy_literalNode 25 (by decide))
  · exact names_elementaryNode 27 "address" ["payable"] (by decide) (by decide)
  · exact names_arrayNode 29 "uint256" 16 (names_elementaryNode 30 "uint256" [] (by decide) nofun)
      (givenBy_constantNode 31)

theorem declaresFunction_deposit : DeclaresFunction vaultIndex depositNode "deposit" depositTypes :=
  ⟨rfl, _, rfl, .cons (names_arrayNode 43 "uint256" 16
    (names_elementaryNode 44 "uint256" [] (by decide) nofun)
    (givenBy_literalNode 45 (by decide))) .nil⟩

/-! ### Signatures of functions -/

/-- The signature of a function is its name with the tuple of the types of its parameters, where the
lengths of arrays are written as in the source.  This is the canonical signature if and only if the
source writes in decimals all lengths that it gives by literals. -/
theorem ofFunction_cases {number : Nat} {output function : Json} {name : String}
    {types : List ParameterType}
    (h : DeclaresFunction (.ofOutput number output) function name types) :
    Answers (ofFunction (.ofOutput number output) function)
      (name ++ (ParameterType.struct types).text .asInSource) ∧
    (Answers (ofFunction (.ofOutput number output) function)
        (name ++ (ParameterType.struct types).canonical) ↔
      ∀ t ∈ types, ∀ l ∈ t.lengths, ∀ literal ∈ l.2, literal = toString l.1) := by
  have hanswers := (quiet_ofFunction h).answers
  have hcloses : ParameterType.Closes .asInSource (ParameterType.struct types).lengths := by
    obtain ⟨parameters, -, hnames⟩ := h.parameters
    intro l hl
    obtain ⟨t, ht, hl⟩ := ParameterType.mem_lengthsIn.1 hl
    obtain ⟨p, -, hp⟩ := exists_left_of_mem hnames ht
    exact hp.closes l hl
  have hdecimal : ParameterType.Closes .decimal (ParameterType.struct types).lengths :=
    fun l _ => not_mem_toString rfl l.1
  refine ⟨hanswers, ?_⟩
  calc Answers (ofFunction (.ofOutput number output) function)
        (name ++ (ParameterType.struct types).canonical)
      ↔ (ParameterType.struct types).text .asInSource = (ParameterType.struct types).canonical := by
        refine ⟨fun hcanonical => ?_, fun hsame => hsame ▸ hanswers⟩
        have hboth := (hanswers {}).symm.trans (hcanonical {})
        exact (String.append_right_inj name).1 (Except.ok.inj hboth)
    _ ↔ ∀ l ∈ (ParameterType.struct types).lengths, ∀ literal ∈ l.2, literal = toString l.1 :=
        (ParameterType.text_eq_text_iff hcloses hdecimal).trans agree_decimal_iff
    _ ↔ ∀ t ∈ types, ∀ l ∈ t.lengths, ∀ literal ∈ l.2, literal = toString l.1 := by
        refine ⟨fun hall t ht l hl => hall l (ParameterType.mem_lengthsIn.2 ⟨t, ht, hl⟩),
          fun hall l hl => ?_⟩
        obtain ⟨t, ht, hl⟩ := ParameterType.mem_lengthsIn.1 hl
        exact hall t ht l hl

/-- A tuple for a struct, lengths by a literal and by a constant, and an address without `payable`. -/
theorem ofFunction_cases_settle :
    DeclaresFunction vaultIndex settleNode "settle" settleTypes ∧
    Answers (ofFunction vaultIndex settleNode)
      "settle((uint8,uint128,address)[2],address,uint256[16])" := by
  have hdecimal : ∀ t ∈ settleTypes, ∀ l ∈ t.lengths, ∀ literal ∈ l.2, literal = toString l.1 := by
    decide
  have hcanonical : "settle" ++ (ParameterType.struct settleTypes).canonical =
      "settle((uint8,uint128,address)[2],address,uint256[16])" := by decide +kernel
  refine ⟨declaresFunction_settle, ?_⟩
  rw [← hcanonical]
  exact (ofFunction_cases declaresFunction_settle).2.2 hdecimal

/-- A length that the source writes in another way stands in the signature as it is written. -/
theorem not_canonical_deposit :
    DeclaresFunction vaultIndex depositNode "deposit" depositTypes ∧
    Answers (ofFunction vaultIndex depositNode) "deposit(uint256[0x10])" ∧
    "deposit" ++ (ParameterType.struct depositTypes).canonical = "deposit(uint256[16])" := by
  have htext : "deposit" ++ (ParameterType.struct depositTypes).text .asInSource =
      "deposit(uint256[0x10])" := by decide +kernel
  refine ⟨declaresFunction_deposit, ?_, by decide +kernel⟩
  rw [← htext]
  exact (quiet_ofFunction declaresFunction_deposit).answers

end Signature
end StorageUpgrade
