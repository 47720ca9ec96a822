import Mathlib.Data.List.Shortlex
import StorageUpgrade.Proofs.Ast.Trees

/-!
# The order of a search

A place in a tree is the way to it: which child to go to, level by level.  A search finds the nodes
of the given kinds at all places that no pruned node stands at or above, each place once.  It finds
them in the order of their depth, and from left to right where they are equally deep
(`findAll_complete`).

The search goes level by level.  So does one that keeps a queue, takes the value at its front, and
puts the children of this value behind all others: it ends, and it finds the same (`Drains`).

## Strategy

* `placesAt` lists the visited places of one depth.  Which places these are and how they are ordered
  follows by induction on the depth (`mem_placesAt`, `pairwise_placesAt`), since a place below a
  value is a child of this value and a place below the child.
* The search puts these lists behind each other (`nodesBelow_eq`).
* A queue that starts with the values of one level has taken them all when it holds the next level
  (`Drains.of_level`).
-/

namespace StorageUpgrade
namespace Ast

/-! ### Places -/

/-- The way to a place in a tree: the number of the child to go to, level by level. -/
abbrev Place := List Nat

/-- The value at a place. -/
def valueAt? : Json → Place → Option Json
  | v, [] => some v
  | v, i :: p => v.children[i]? >>= fun c => valueAt? c p

/-- No value at a place or above it is pruned. -/
def Unpruned (pruned : Json → Bool) (root : Json) (p : Place) : Prop :=
  ∀ q, q <+: p → ∀ v, valueAt? root q = some v → isVisited pruned v = true

/-- The visited places of a depth and the values at them, from left to right. -/
def placesAt (pruned : Json → Bool) : (depth : Nat) → Json → List (Place × Json)
  | 0, v => if isVisited pruned v then [([], v)] else []
  | depth + 1, v =>
    if isVisited pruned v then
      v.children.zipIdx.flatMap fun (c, i) =>
        (placesAt pruned depth c).map fun (p, w) => (i :: p, w)
    else []

variable {kinds : List String} {pruned : Json → Bool} {root v w : Json} {p : Place} {i depth : Nat}

theorem valueAt?_cons_eq_some_iff :
    valueAt? v (i :: p) = some w ↔ ∃ c, v.children[i]? = some c ∧ valueAt? c p = some w := by
  rw [valueAt?, Option.bind_eq_bind, Option.bind_eq_some_iff]

theorem within_of_valueAt? : ∀ {p : Place} {root : Json}, valueAt? root p = some v → Within v root
  | [], _, h => by
      cases h
      exact .self
  | _ :: _, _, h => by
      obtain ⟨c, hc, hp⟩ := valueAt?_cons_eq_some_iff.1 h
      exact .child (List.mem_of_getElem? hc) (within_of_valueAt? hp)

/-- No place is deeper than the tree. -/
theorem length_lt_depth : ∀ {p : Place} {root : Json}, valueAt? root p = some v →
    p.length < root.depth
  | [], root, _ => one_le_depth root
  | _ :: p, root, h => by
      obtain ⟨c, hc, hp⟩ := valueAt?_cons_eq_some_iff.1 h
      have hchild := depth_lt_of_mem_children (List.mem_of_getElem? hc)
      have hlength := length_lt_depth hp
      rw [List.length_cons]
      omega

theorem unpruned_nil : Unpruned pruned v [] ↔ isVisited pruned v = true := by
  constructor
  · exact fun h => h [] List.nil_prefix v rfl
  · intro h q hq u hu
    obtain rfl := List.prefix_nil.1 hq
    cases hu
    exact h

theorem unpruned_cons {c : Json} (hc : v.children[i]? = some c) :
    Unpruned pruned v (i :: p) ↔ isVisited pruned v = true ∧ Unpruned pruned c p := by
  constructor
  · intro h
    refine ⟨h [] List.nil_prefix v rfl, fun q hq u hu => ?_⟩
    exact h (i :: q) (List.cons_prefix_cons.2 ⟨rfl, hq⟩) u
      (valueAt?_cons_eq_some_iff.2 ⟨c, hc, hu⟩)
  · rintro ⟨hv, h⟩ q hq u hu
    cases q with
    | nil =>
        cases hu
        exact hv
    | cons j q =>
        obtain ⟨rfl, hprefix⟩ := List.cons_prefix_cons.1 hq
        obtain ⟨c', hc', hvalue⟩ := valueAt?_cons_eq_some_iff.1 hu
        obtain rfl := Option.some.inj (hc.symm.trans hc')
        exact h q hprefix u hvalue

/-! ### The places of one depth -/

theorem mem_placesAt_succ : (i :: p, w) ∈ placesAt pruned (depth + 1) v ↔
    isVisited pruned v = true ∧
      ∃ c, v.children[i]? = some c ∧ (p, w) ∈ placesAt pruned depth c := by
  rw [placesAt]
  split
  · rename_i hv
    simp [hv, List.mem_zipIdx_iff_getElem?]
  · rename_i hv
    simp [hv]

theorem mem_placesAt : ∀ {depth : Nat} {v : Json} {p : Place}, (p, w) ∈ placesAt pruned depth v ↔
    p.length = depth ∧ valueAt? v p = some w ∧ Unpruned pruned v p
  | 0, v, [] => by
      rw [unpruned_nil, placesAt]
      split <;> simp [valueAt?, eq_comm, *]
  | 0, v, i :: p => by
      rw [placesAt]
      split <;> simp
  | depth + 1, v, [] => by
      rw [placesAt]
      split <;> simp
  | depth + 1, v, i :: p => by
      rw [mem_placesAt_succ, List.length_cons, Nat.add_right_cancel_iff, valueAt?_cons_eq_some_iff]
      constructor
      · rintro ⟨hv, c, hc, hp⟩
        obtain ⟨hlength, hvalue, hpruned⟩ := mem_placesAt.1 hp
        exact ⟨hlength, ⟨c, hc, hvalue⟩, (unpruned_cons hc).2 ⟨hv, hpruned⟩⟩
      · rintro ⟨hlength, ⟨c, hc, hvalue⟩, hpruned⟩
        obtain ⟨hv, hpruned⟩ := (unpruned_cons hc).1 hpruned
        exact ⟨hv, c, hc, mem_placesAt.2 ⟨hlength, hvalue, hpruned⟩⟩

/-- The places of one depth come from left to right. -/
theorem pairwise_placesAt : ∀ (depth : Nat) (v : Json),
    (placesAt pruned depth v).Pairwise fun a b => List.Lex (· < ·) a.1 b.1
  | 0, v => by
      rw [placesAt]
      split
      · exact List.pairwise_singleton _ _
      · exact .nil
  | depth + 1, v => by
      rw [placesAt]
      split
      · refine List.pairwise_flatMap.2 ⟨?_, ?_⟩
        · rintro ⟨c, i⟩ _
          exact List.pairwise_map.2 ((pairwise_placesAt depth c).imp .cons)
        · have hnumbers : v.children.zipIdx.Pairwise fun a b => a.2 < b.2 := by
            rw [← List.pairwise_map (f := Prod.snd), List.zipIdx_map_snd]
            exact List.pairwise_lt_range'
          refine hnumbers.imp ?_
          rintro ⟨c, i⟩ ⟨d, j⟩ hij _ ha _ hb
          obtain ⟨a, -, rfl⟩ := List.mem_map.1 ha
          obtain ⟨b, -, rfl⟩ := List.mem_map.1 hb
          exact .rel hij
      · exact .nil

/-! ### The search -/

theorem values_placesAt_succ : (placesAt pruned (depth + 1) v).map (·.2) =
    if isVisited pruned v then v.children.flatMap fun c => (placesAt pruned depth c).map (·.2)
    else [] := by
  rw [placesAt]
  split
  · have hchildren : v.children.flatMap (fun c => (placesAt pruned depth c).map (·.2)) =
        v.children.zipIdx.flatMap fun x => (placesAt pruned depth x.1).map (·.2) := by
      conv_lhs => rw [← List.zipIdx_map_fst 0 v.children, List.flatMap_map]
    rw [hchildren, List.map_flatMap]
    simp only [List.map_map, Function.comp_def]
  · rfl

/-- The values one level deeper are found below the children of the visited ones. -/
theorem values_level_succ (depth : Nat) (level : List Json) :
    (level.flatMap fun v => (placesAt pruned (depth + 1) v).map (·.2)) =
      ((level.filter (isVisited pruned)).flatMap Json.children).flatMap fun c =>
        (placesAt pruned depth c).map (·.2) := by
  induction level with
  | nil => rfl
  | cons v level ih =>
      rw [List.flatMap_cons, ih, values_placesAt_succ, List.filter_cons]
      split
      · rw [List.flatMap_cons, List.flatMap_append]
      · rfl

theorem values_level_zero (level : List Json) :
    (level.flatMap fun v => (placesAt pruned 0 v).map (·.2)) = level.filter (isVisited pruned) := by
  induction level with
  | nil => rfl
  | cons v level ih =>
      rw [List.flatMap_cons, ih, List.filter_cons, placesAt]
      split <;> rfl

/-- A search finds the nodes of one depth after those of another. -/
theorem nodesBelow_eq (levels : Nat) : ∀ level : List Json, nodesBelow pruned levels level =
    (List.range levels).flatMap fun depth =>
      (level.flatMap fun v => (placesAt pruned depth v).map (·.2)).filter isNode := by
  induction levels with
  | zero => exact fun _ => rfl
  | succ levels ih =>
      intro level
      rw [nodesBelow, ih, List.range_succ_eq_map, List.flatMap_cons, List.flatMap_map,
        values_level_zero]
      simp only [values_level_succ]

/-- The places of a tree at which nodes of the given kinds stand, in the order of the search. -/
def placesOf (kinds : List String) (pruned : Json → Bool) (root : Json) : List (Place × Json) :=
  (List.range root.depth).flatMap fun depth =>
    (placesAt pruned depth root).filter fun (_, v) => isOfKind kinds v

theorem filter_isOfKind (vs : List Json) :
    (vs.filter isNode).filter (isOfKind kinds) = vs.filter (isOfKind kinds) := by
  rw [List.filter_filter]
  refine List.filter_congr fun v _ => ?_
  cases hv : isOfKind kinds v with
  | false => rfl
  | true => rw [isNode_of_isOfKind hv, Bool.and_self]

theorem filter_nodes_eq : (nodes pruned root).filter (isOfKind kinds) =
    (placesOf kinds pruned root).map (·.2) := by
  rw [nodes, nodesBelow_eq, placesOf, List.filter_flatMap, List.map_flatMap]
  refine List.flatMap_congr fun depth _ => ?_
  rw [List.flatMap_singleton, filter_isOfKind, List.filter_map]
  rfl

theorem mem_placesOf : (p, v) ∈ placesOf kinds pruned root ↔
    valueAt? root p = some v ∧ isOfKind kinds v = true ∧ Unpruned pruned root p := by
  simp only [placesOf, List.mem_flatMap, List.mem_range, List.mem_filter, mem_placesAt]
  constructor
  · rintro ⟨depth, -, ⟨-, hvalue, hpruned⟩, hkind⟩
    exact ⟨hvalue, hkind, hpruned⟩
  · rintro ⟨hvalue, hkind, hpruned⟩
    exact ⟨p.length, length_lt_depth hvalue, ⟨rfl, hvalue, hpruned⟩, hkind⟩

/-- The places are found by depth, and from left to right where they are equally deep. -/
theorem pairwise_placesOf :
    (placesOf kinds pruned root).Pairwise fun a b => List.Shortlex (· < ·) a.1 b.1 := by
  refine List.pairwise_flatMap.2 ⟨fun depth _ => ?_, ?_⟩
  · refine ((pairwise_placesAt depth root).filter _).imp_of_mem ?_
    rintro ⟨p, v⟩ ⟨q, w⟩ hp hq hlex
    have hlength := (mem_placesAt.1 (List.mem_of_mem_filter hp)).1
    have hlength' := (mem_placesAt.1 (List.mem_of_mem_filter hq)).1
    exact .of_lex (hlength.trans hlength'.symm) hlex
  · refine List.pairwise_lt_range.imp ?_
    rintro depth depth' hdepth ⟨p, v⟩ hp ⟨q, w⟩ hq
    have hlength := (mem_placesAt.1 (List.mem_of_mem_filter hp)).1
    have hlength' := (mem_placesAt.1 (List.mem_of_mem_filter hq)).1
    exact .of_length_lt (hlength.trans_lt (hdepth.trans_eq hlength'.symm))

/-! ### A search with a queue -/

/-- A queue is emptied: its first value is taken away, found if it is a node of one of the kinds,
and its children are put at the end, unless the value is pruned. -/
inductive Drains (kinds : List String) (pruned : Json → Bool) : (queue found : List Json) → Prop
  | done : Drains kinds pruned [] []
  | prune {v : Json} {queue found : List Json} (hv : isVisited pruned v = false)
      (hqueue : Drains kinds pruned queue found) : Drains kinds pruned (v :: queue) found
  | visit {v : Json} {queue found : List Json} (hv : isVisited pruned v = true)
      (hqueue : Drains kinds pruned (queue ++ v.children) found) :
      Drains kinds pruned (v :: queue) ([v].filter (isOfKind kinds) ++ found)

theorem Drains.unique {queue found found' : List Json} (h : Drains kinds pruned queue found)
    (h' : Drains kinds pruned queue found') : found = found' := by
  induction h generalizing found' with
  | done =>
      cases h'
      rfl
  | prune hv _ ih =>
      cases h' with
      | prune _ h' => exact ih h'
      | visit hv' => exact absurd (hv.symm.trans hv') Bool.false_ne_true
  | visit hv _ ih =>
      cases h' with
      | prune hv' => exact absurd (hv'.symm.trans hv) Bool.false_ne_true
      | visit _ h' => rw [ih h']

/-- When the values of one level are taken, their children stand behind what was there already. -/
theorem Drains.of_level {found : List Json} (level : List Json) : ∀ behind : List Json,
    Drains kinds pruned
      (behind ++ (level.filter (isVisited pruned)).flatMap Json.children) found →
    Drains kinds pruned (level ++ behind)
      ((level.filter (isVisited pruned)).filter (isOfKind kinds) ++ found) := by
  induction level with
  | nil =>
      intro behind h
      rwa [List.filter_nil, List.flatMap_nil, List.append_nil] at h
  | cons v level ih =>
      intro behind h
      cases hv : isVisited pruned v with
      | false =>
          rw [List.filter_cons_of_neg (by simp [hv])] at h ⊢
          exact .prune hv (ih behind h)
      | true =>
          rw [List.filter_cons_of_pos hv] at h ⊢
          rw [List.flatMap_cons, ← List.append_assoc] at h
          have hrest := ih (behind ++ v.children) h
          rw [← List.append_assoc] at hrest
          rw [← List.singleton_append (l := level.filter _), List.filter_append, List.append_assoc]
          exact .visit hv hrest

/-- A queue that starts with a level of values is emptied level by level. -/
theorem drains_nodesBelow (levels : Nat) : ∀ level : List Json, (∀ v ∈ level, v.depth ≤ levels) →
    Drains kinds pruned level ((nodesBelow pruned levels level).filter (isOfKind kinds)) := by
  induction levels with
  | zero =>
      intro level hdepth
      cases level with
      | nil => exact .done
      | cons v level =>
          have hpos := one_le_depth v
          have hzero := hdepth v List.mem_cons_self
          omega
  | succ levels ih =>
      intro level hdepth
      have hchildren : ∀ c ∈ (level.filter (isVisited pruned)).flatMap Json.children,
          c.depth ≤ levels := by
        intro c hc
        obtain ⟨v, hv, hc⟩ := List.mem_flatMap.1 hc
        have hlt := depth_lt_of_mem_children hc
        have hle := hdepth v (List.mem_of_mem_filter hv)
        omega
      have hlevel := Drains.of_level level [] (ih _ hchildren)
      rw [nodesBelow, List.filter_append, filter_isOfKind]
      rwa [List.append_nil] at hlevel

/-! ### What a search finds -/

theorem within_of_mem_nodes (h : v ∈ nodes pruned root) : Within v root := by
  rw [nodes, nodesBelow_eq] at h
  obtain ⟨depth, -, h⟩ := List.mem_flatMap.1 h
  rw [List.flatMap_singleton] at h
  obtain ⟨⟨p, w⟩, hp, rfl⟩ := List.mem_map.1 (List.mem_of_mem_filter h)
  exact within_of_valueAt? (mem_placesAt.1 hp).2.1

/-- A search comes to an end, and it finds each node of the kinds that is not pruned and not inside
a pruned node, once for each of its places, by depth and from left to right.  A search with a queue
finds the same. -/
theorem findAll_complete (hkinds : ∀ v, Within v root → hasCompositeKind v = false) :
    (∃ places : List (Place × Json), findAll kinds pruned root = { nodes := places.map (·.2) } ∧
      places.Pairwise (fun a b => List.Shortlex (· < ·) a.1 b.1) ∧
      ∀ p v, (p, v) ∈ places ↔
        valueAt? root p = some v ∧ isOfKind kinds v = true ∧ Unpruned pruned root p) ∧
    ∀ found, Drains kinds pruned [root] found ↔ findAll kinds pruned root = { nodes := found } := by
  have hfound : findAll kinds pruned root =
      { nodes := (nodes pruned root).filter (isOfKind kinds) } :=
    findAll_eq fun v hv => hkinds v (within_of_mem_nodes hv)
  have hdrains : Drains kinds pruned [root] ((nodes pruned root).filter (isOfKind kinds)) :=
    drains_nodesBelow root.depth [root] (List.forall_mem_singleton.2 (Nat.le_refl _))
  refine ⟨⟨placesOf kinds pruned root, ?_, pairwise_placesOf, fun _ _ => mem_placesOf⟩, ?_⟩
  · rw [hfound, filter_nodes_eq]
  · intro found
    rw [hfound, Found.mk.injEq]
    constructor
    · exact fun h => ⟨hdrains.unique h, rfl⟩
    · rintro ⟨rfl, -⟩
      exact hdrains

/-- A contract with a variable, and two functions with a variable in their bodies. -/
def vaultTree : Json :=
  let node (kind : String) (parts : List (String × Json)) : Json :=
    .obj (("nodeType", .str kind) :: parts)
  let declare (name : String) : Json := node "VariableDeclaration" [("name", .str name)]
  node "ContractDefinition" [("nodes", .arr [
    node "FunctionDefinition" [("body", node "Block" [("statements", .arr [declare "local"])])],
    declare "total",
    node "FunctionDefinition" [("body", .null),
      ("parameters", .arr [declare "amount", declare "amount"])]])]

/-- The variables outside of bodies are found, the one of the contract first, and equal ones are
found as often as they occur. -/
theorem findAll_complete_vaultTree :
    (∀ v, Within v vaultTree → hasCompositeKind v = false) ∧
    (∃ places : List (Place × Json),
      findAll ["VariableDeclaration"] (isOfKind ["Block"]) vaultTree =
        { nodes := places.map (·.2) } ∧
      places.Pairwise (fun a b => List.Shortlex (· < ·) a.1 b.1) ∧
      ∀ p v, (p, v) ∈ places ↔ valueAt? vaultTree p = some v ∧
        isOfKind ["VariableDeclaration"] v = true ∧ Unpruned (isOfKind ["Block"]) vaultTree p) ∧
    ∃ found, Drains ["VariableDeclaration"] (isOfKind ["Block"]) [vaultTree] found ∧
      found.map (·.field "name") = [.str "total", .str "amount", .str "amount"] := by
  have hkinds : ∀ v, Within v vaultTree → hasCompositeKind v = false := by
    intro v hv
    by_contra hkind
    have hnode : isNode v = true := by
      unfold hasCompositeKind at hkind
      unfold isNode
      split at hkind
      · rename_i kind h
        rw [h]
        rfl
      · exact absurd rfl hkind
    have hall : ∀ v ∈ nodes (fun _ => false) vaultTree, hasCompositeKind v = false := by decide
    exact hkind (hall v (mem_nodes_iff.2 ⟨hnode, hv⟩))
  obtain ⟨hplaces, hdrains⟩ :=
    @findAll_complete ["VariableDeclaration"] (isOfKind ["Block"]) vaultTree hkinds
  let found := (findAll ["VariableDeclaration"] (isOfKind ["Block"]) vaultTree).nodes
  exact ⟨hkinds, hplaces, found, (hdrains found).2 rfl, by decide⟩

end Ast
end StorageUpgrade
