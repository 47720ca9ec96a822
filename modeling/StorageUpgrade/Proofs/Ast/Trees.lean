import Mathlib.Data.List.TakeWhile
import StorageUpgrade.Proofs.Ast.Lookup

/-!
# The nodes of a tree

A search goes through a tree level by level.  What it comes to are the nodes that are inside the tree
(`mem_nodes_iff`), so the nodes of a part of a tree are nodes of the tree, and the index of a
compilation covers all nodes inside the nodes that it finds (`Spans`).
-/

namespace StorageUpgrade
namespace Ast

/-- A value is inside another one: it is that value, or inside one of its children. -/
inductive Within (w : Json) : Json → Prop where
  | self : Within w w
  | child {v c : Json} : c ∈ v.children → Within w c → Within w v

theorem Within.trans {u v w : Json} (h : Within u v) (h' : Within v w) : Within u w := by
  induction h' with
  | self => exact h
  | child hc _ ih => exact .child hc ih

/-! ### Depth -/

theorem one_le_depth (v : Json) : 1 ≤ v.depth := by
  cases v <;> simp [Json.depth]

theorem depth_le_depthItems {v : Json} {xs : List Json} (h : v ∈ xs) :
    v.depth ≤ Json.depthItems xs := by
  induction xs with
  | nil => cases h
  | cons x xs ih =>
      rw [Json.depthItems]
      rcases List.mem_cons.1 h with rfl | h
      · exact Nat.le_max_left _ _
      · exact Nat.le_trans (ih h) (Nat.le_max_right _ _)

theorem depth_le_depthEntries {v : Json} {es : List (String × Json)} (h : v ∈ es.map (·.2)) :
    v.depth ≤ Json.depthEntries es := by
  induction es with
  | nil => cases h
  | cons e es ih =>
      rw [Json.depthEntries]
      rcases List.mem_cons.1 h with rfl | h
      · exact Nat.le_max_left _ _
      · exact Nat.le_trans (ih h) (Nat.le_max_right _ _)

theorem depth_lt_of_mem_children {v c : Json} (h : c ∈ v.children) : c.depth < v.depth := by
  cases v with
  | arr xs =>
      rw [Json.depth]
      exact Nat.lt_succ_of_le (depth_le_depthItems h)
  | obj es =>
      rw [Json.depth]
      exact Nat.lt_succ_of_le (depth_le_depthEntries h)
  | _ => cases h

/-! ### The search -/

theorem isVisited_all (v : Json) : isVisited (fun _ => false) v = true := by
  simp [isVisited]

theorem nodesBelow_succ (levels : Nat) (level : List Json) :
    nodesBelow (fun _ => false) (levels + 1) level =
      level.filter isNode ++ nodesBelow (fun _ => false) levels (level.flatMap Json.children) := by
  have hvisited : level.filter (isVisited fun _ => false) = level :=
    List.filter_eq_self.2 fun v _ => isVisited_all v
  rw [nodesBelow, hvisited]

/-- What a search comes to is a node inside one of the values of its first level. -/
theorem of_mem_nodesBelow {w : Json} {levels : Nat} : ∀ {level : List Json},
    w ∈ nodesBelow (fun _ => false) levels level →
      isNode w = true ∧ ∃ v ∈ level, Within w v := by
  induction levels with
  | zero => nofun
  | succ levels ih =>
      intro level h
      rw [nodesBelow_succ] at h
      rcases List.mem_append.1 h with h | h
      · obtain ⟨hw, hnode⟩ := List.mem_filter.1 h
        exact ⟨hnode, w, hw, .self⟩
      · obtain ⟨hnode, c, hc, hwithin⟩ := ih h
        obtain ⟨v, hv, hc⟩ := List.mem_flatMap.1 hc
        exact ⟨hnode, v, hv, .child hc hwithin⟩

/-- A search that goes deep enough comes to all nodes inside the values of its first level. -/
theorem mem_nodesBelow {v w : Json} (hnode : isNode w = true) (h : Within w v) :
    ∀ {levels : Nat} {level : List Json}, v ∈ level → v.depth ≤ levels →
      w ∈ nodesBelow (fun _ => false) levels level := by
  induction h with
  | self =>
      intro levels level hw hdepth
      obtain ⟨levels, rfl⟩ := Nat.exists_eq_add_of_le' (Nat.le_trans (one_le_depth w) hdepth)
      rw [nodesBelow_succ]
      exact List.mem_append_left _ (List.mem_filter.2 ⟨hw, hnode⟩)
  | @child v c hc _ ih =>
      intro levels level hv hdepth
      obtain ⟨levels, rfl⟩ := Nat.exists_eq_add_of_le' (Nat.le_trans (one_le_depth v) hdepth)
      rw [nodesBelow_succ]
      refine List.mem_append_right _ (ih (List.mem_flatMap.2 ⟨v, hv, hc⟩) ?_)
      have hlt := depth_lt_of_mem_children hc
      omega

/-- The nodes of a tree are the nodes inside it. -/
theorem mem_nodes_iff {w root : Json} :
    w ∈ nodes (fun _ => false) root ↔ isNode w = true ∧ Within w root := by
  constructor
  · intro h
    obtain ⟨hnode, v, hv, hwithin⟩ := of_mem_nodesBelow h
    obtain rfl := List.mem_singleton.1 hv
    exact ⟨hnode, hwithin⟩
  · rintro ⟨hnode, hwithin⟩
    exact mem_nodesBelow hnode hwithin (List.mem_singleton.2 rfl) (Nat.le_refl _)

theorem findAll_eq {kinds : List String} {pruned : Json → Bool} {root : Json}
    (h : ∀ v ∈ nodes pruned root, hasCompositeKind v = false) :
    findAll kinds pruned root = { nodes := (nodes pruned root).filter (isOfKind kinds) } := by
  have htake : (nodes pruned root).takeWhile (!hasCompositeKind ·) = nodes pruned root :=
    List.takeWhile_eq_self_iff.2 fun v hv => by simp [h v hv]
  have hdrop : (nodes pruned root).dropWhile (!hasCompositeKind ·) = [] :=
    List.dropWhile_eq_nil_iff.2 fun v hv => by simp [h v hv]
  unfold findAll
  rw [List.span_eq_takeWhile_dropWhile, htake, hdrop]

theorem find_eq {kinds : List String} {root : Json}
    (h : ∀ v ∈ nodes (fun _ => false) root, hasCompositeKind v = false) :
    find kinds root = { nodes := (nodes (fun _ => false) root).filter (isOfKind kinds) } :=
  findAll_eq h

/-! ### Parts of a node -/

theorem isNode_of_isOfKind {kinds : List String} {v : Json} (h : isOfKind kinds v = true) :
    isNode v = true := by
  unfold isOfKind at h
  split at h
  · rename_i hkind
    rw [isNode, hkind]
    rfl
  · cases h

theorem hasKind_eq {v : Json} (h : isNode v = true) (kind : String) :
    hasKind kind v = .ok (isOfKind [kind] v) := by
  cases v with
  | obj es =>
      cases hkind : Json.find? "nodeType" es with
      | none => simp [isNode, kind?, hkind] at h
      | some k =>
          have hget : (Json.obj es).get "nodeType" = .ok k := by simp [Json.get, hkind]
          rw [hasKind, hget]
          cases k with
          | str s =>
              by_cases hs : s = kind <;> simp [isOfKind, kind?, hkind, bind, Except.bind, hs]
          | _ => simp [isOfKind, kind?, hkind, bind, Except.bind]
  | _ => cases h

/-- A node can be asked for any key. -/
theorem lookup_eq {v : Json} (h : isNode v = true) (key : String) :
    v.lookup key = .ok (v.field key) := by
  cases v with
  | obj es => rfl
  | _ => cases h

theorem contains_eq {v : Json} (h : isNode v = true) (key : String) :
    v.contains key = .ok (v.get key).toBool := by
  cases v with
  | obj es =>
      cases hfind : Json.find? key es <;>
        simp [Json.contains, Json.get, hfind, Except.toBool]
  | _ => cases h

theorem within_field {v : Json} {key : String} (h : v.field key ≠ .null) :
    Within (v.field key) v := by
  have hmem := Json.mem_fields_of_field_ne h
  cases v with
  | obj es => exact .child (List.mem_map.2 ⟨_, hmem, rfl⟩) .self
  | _ => cases hmem

theorem within_of_mem_partsOf {v part : Json} {key : String} {parts : List Json}
    (hparts : partsOf key v = .ok parts) (h : part ∈ parts) (hnode : isNode part = true) :
    Within part v := by
  obtain ⟨list, hlist, helements⟩ := exists_of_bind_ok hparts
  cases list with
  | arr xs =>
      obtain rfl := Except.ok.inj helements
      rcases Json.field_of_lookup hlist with hfield | ⟨-, hnil⟩
      · have hne : v.field key ≠ .null := by rw [hfield]; exact nofun
        exact Within.trans (.child (by rw [hfield]; exact h) .self) (within_field hne)
      · cases hnil
        cases h
  | obj es =>
      cases helements
      obtain ⟨e, -, rfl⟩ := List.mem_map.1 h
      cases hnode
  | str s =>
      cases helements
      obtain ⟨c, -, rfl⟩ := List.mem_map.1 h
      cases hnode
  | rawText points =>
      cases helements
      obtain ⟨n, -, rfl⟩ := List.mem_map.1 h
      unfold Json.ofPoints at hnode
      split at hnode <;> cases hnode
  | _ => cases helements

end Ast

/-! ### The nodes of a compilation -/

/-- The nodes of the syntax trees of an output. -/
def treeNodes (output : Json) : List Json :=
  (output.field "sources").fields.flatMap fun source =>
    Ast.nodes (fun _ => false) (source.2.field "ast")

namespace SyntaxIndex

/-- An index holds the numbered ones among some nodes, and what is inside these nodes is among them.
The index counts no less. -/
structure Spans (index : SyntaxIndex) (pool : List Json) : Prop where
  within : ∀ v ∈ pool, ∀ w, Ast.isNode w = true → Ast.Within w v → w ∈ pool
  numbered : ∀ nodes, index.nodes = .ok nodes → ∀ n v,
    (n, v) ∈ nodes ↔ v ∈ pool ∧ numberOf? v = some n
  size : ∀ nodes, index.nodes = .ok nodes → pool.length ≤ index.size

theorem of_collect (pool : List Json) {nodes : List (Int × Json)} {size : Nat}
    {sources : List (String × Json)} : ∀ {known notes start notes'},
    collect known notes start sources = (.ok nodes, notes', size) →
      (∀ entry ∈ known, entry.2 ∈ pool ∧ numberOf? entry.2 = some entry.1) →
      (∀ source ∈ sources, ∀ v ∈ Ast.nodes (fun _ => false) (source.2.field "ast"), v ∈ pool) →
      (∀ entry ∈ nodes, entry.2 ∈ pool ∧ numberOf? entry.2 = some entry.1) ∧
        start + (sources.flatMap fun source =>
          Ast.nodes (fun _ => false) (source.2.field "ast")).length = size := by
  induction sources with
  | nil =>
      intro known notes start notes' h hknown _
      cases h
      exact ⟨hknown, rfl⟩
  | cons source sources ih =>
      obtain ⟨name, data⟩ := source
      intro known notes start notes' h hknown hpool
      have hlater := fun other hother => hpool other (List.mem_cons_of_mem _ hother)
      unfold collect at h
      split at h
      · cases h
      · rename_i hcontains
        obtain ⟨hnodes, hsize⟩ := ih h hknown hlater
        refine ⟨hnodes, ?_⟩
        have hnone : Ast.nodes (fun _ => false) (data.field "ast") = [] := by
          rw [Json.field_of_not_contains hcontains]
          rfl
        rw [List.flatMap_cons, hnone, List.nil_append, hsize]
      · split at h
        · cases h
        · rename_i tree hget
          have htree : data.field "ast" = tree := Json.field_of_get hget
          have hhere := hpool _ List.mem_cons_self
          rw [htree] at hhere
          have hboth : ∀ entry ∈ ((Ast.nodes (fun _ => false) tree).filterMap fun node =>
              (numberOf? node).map (·, node)).reverse ++ known,
              entry.2 ∈ pool ∧ numberOf? entry.2 = some entry.1 := by
            intro entry hentry
            rcases List.mem_append.1 hentry with hentry | hentry
            · rw [List.mem_reverse, List.mem_filterMap] at hentry
              obtain ⟨v, hv, hnumber⟩ := hentry
              obtain ⟨n, hn, rfl⟩ := Option.map_eq_some_iff.1 hnumber
              exact ⟨hhere v hv, hn⟩
            · exact hknown entry hentry
          obtain ⟨hnodes, hsize⟩ := ih h hboth hlater
          refine ⟨hnodes, ?_⟩
          rw [List.flatMap_cons, htree, List.length_append, ← hsize, Nat.add_assoc]

theorem spans_ofOutput (number : Nat) (output : Json) :
    (ofOutput number output).Spans (treeNodes output) := by
  have hcollected : ∀ nodes, (ofOutput number output).nodes = .ok nodes →
      (∀ n v, (n, v) ∈ nodes ↔ v ∈ treeNodes output ∧ numberOf? v = some n) ∧
        (treeNodes output).length = (ofOutput number output).size := by
    intro nodes hnodes
    have hmem : ∀ n v, v ∈ treeNodes output → numberOf? v = some n → (n, v) ∈ nodes := by
      intro n v hv hn
      obtain ⟨source, hsource, hv⟩ := List.mem_flatMap.1 hv
      exact mem_ofOutput hnodes hsource hv hn
    unfold ofOutput at hnodes ⊢
    split at hnodes
    · cases hnodes
    · rename_i sources hsources
      have hfields : (output.field "sources").fields = sources := by
        obtain ⟨listed, hlisted, hentries⟩ := exists_of_bind_ok hsources
        rcases Json.field_of_lookup hlisted with h | ⟨h, rfl⟩
        · rw [h, Json.fields_of_entries hentries]
        · rw [h]
          exact Except.ok.inj hentries
      split at hnodes
      · cases hnodes
      · rename_i hcollect
        cases hnodes
        obtain ⟨hof, hsize⟩ := of_collect (treeNodes output) hcollect nofun
          fun source hsource v hv => List.mem_flatMap.2 ⟨source, hfields ▸ hsource, hv⟩
        refine ⟨fun n v => ⟨hof (n, v), fun h => hmem n v h.1 h.2⟩, ?_⟩
        rw [← hsize, treeNodes, hfields, Nat.zero_add]
  refine ⟨fun v hv w hnode hw => ?_, fun nodes hnodes => (hcollected nodes hnodes).1,
    fun nodes hnodes => Nat.le_of_eq (hcollected nodes hnodes).2⟩
  obtain ⟨source, hsource, hv⟩ := List.mem_flatMap.1 hv
  refine List.mem_flatMap.2 ⟨source, hsource, Ast.mem_nodes_iff.2 ⟨hnode, ?_⟩⟩
  exact hw.trans (Ast.mem_nodes_iff.1 hv).2

/-- A number that is looked up belongs to one of the nodes, and it is that of the node found. -/
theorem Spans.of_find? {index : SyntaxIndex} {pool : List Json} (h : index.Spans pool)
    {nodes : List (Int × Json)} (hnodes : index.nodes = .ok nodes) {id v : Json}
    (hfind : find? nodes id = some v) :
    v ∈ pool ∧ ∃ n, numberOf? v = some n ∧ (Json.int n).same id = true := by
  obtain ⟨⟨n, w⟩, hentry, rfl⟩ := Option.map_eq_some_iff.1 hfind
  obtain ⟨hpool, hnumber⟩ := (h.numbered nodes hnodes n w).1 (List.mem_of_find?_eq_some hentry)
  have hsame := List.find?_some hentry
  exact ⟨hpool, n, hnumber, hsame⟩

/-- Nodes with the same number are the same where numbers are unique. -/
theorem Spans.eq_of_number {index : SyntaxIndex} {pool : List Json} (h : index.Spans pool)
    (hunambiguous : index.Unambiguous) {nodes : List (Int × Json)} (hnodes : index.nodes = .ok nodes)
    {n : Int} {v w : Json} (hv : v ∈ pool) (hw : w ∈ pool) (hvn : numberOf? v = some n)
    (hwn : numberOf? w = some n) : v = w :=
  hunambiguous.eq_of_mem hnodes ((h.numbered nodes hnodes n v).2 ⟨hv, hvn⟩)
    ((h.numbered nodes hnodes n w).2 ⟨hw, hwn⟩)

end SyntaxIndex
end StorageUpgrade
