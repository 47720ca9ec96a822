import Mathlib.Data.List.Nodup
import Mathlib.Data.List.TakeDrop
import StorageUpgrade.Ast.Kind
import StorageUpgrade.Proofs.Ast.Runs

/-!
# Looking nodes up

The index of a compilation holds the numbered nodes of all its syntax trees.  A node is found by its
number: it is a node of the index with that number, and the only one where the numbers of the nodes
are `Unambiguous`.
-/

namespace StorageUpgrade

open SyntaxM

@[simp] theorem Json.same_int (m n : Int) : (Json.int m).same (.int n) = (m == n) := rfl

@[simp] theorem Json.alike_int (m n : Int) : (Json.int m).alike (.int n) = (m == n) := rfl

namespace Ast

theorem mem_nodes_of_mem_findAll {kinds : List String} {pruned : Json → Bool} {root v : Json}
    (h : v ∈ (findAll kinds pruned root).nodes) :
    v ∈ nodes pruned root ∧ isOfKind kinds v = true := by
  have hvisited : v ∈ ((nodes pruned root).takeWhile (!hasCompositeKind ·)).filter
      (isOfKind kinds) := by
    unfold findAll at h
    rw [List.span_eq_takeWhile_dropWhile] at h
    split at h <;> rename_i hspan <;> obtain ⟨rfl, -⟩ := Prod.mk.inj hspan <;> exact h
  obtain ⟨hv, hkind⟩ := List.mem_filter.1 hvisited
  exact ⟨(List.takeWhile_sublist _).subset hv, hkind⟩

end Ast

namespace SyntaxIndex

theorem mem_of_find? {nodes : List (Int × Json)} {n : Int} {v : Json}
    (h : find? nodes (.int n) = some v) : (n, v) ∈ nodes := by
  obtain ⟨⟨m, w⟩, hfind, rfl⟩ := Option.map_eq_some_iff.1 h
  have hmn : m = n := by simpa using List.find?_some hfind
  exact hmn ▸ List.mem_of_find?_eq_some hfind

theorem numberOf?_of_field {v : Json} {n : Int} (h : v.field "id" = .int n) :
    numberOf? v = some n := by
  cases v with
  | obj es =>
      simp only [Json.field, Json.fields] at h
      cases hid : Json.find? "id" es with
      | none =>
          rw [hid] at h
          cases h
      | some w =>
          rw [hid] at h
          cases h
          simp only [numberOf?, hid]
  | _ => cases h

/-- The numbers of the nodes of a compilation. -/
def numbers (index : SyntaxIndex) : List Int :=
  match index.nodes with
  | .ok nodes => nodes.map (·.1)
  | .error _ => []

/-- No two nodes of a compilation have the same number. -/
def Unambiguous (index : SyntaxIndex) : Prop := index.numbers.Nodup

instance (index : SyntaxIndex) : Decidable index.Unambiguous :=
  inferInstanceAs (Decidable index.numbers.Nodup)

theorem Unambiguous.eq_of_mem {index : SyntaxIndex} (h : index.Unambiguous)
    {nodes : List (Int × Json)} (hnodes : index.nodes = .ok nodes) {n : Int} {v w : Json}
    (hv : (n, v) ∈ nodes) (hw : (n, w) ∈ nodes) : v = w := by
  rw [Unambiguous, numbers, hnodes] at h
  exact congrArg Prod.snd (List.inj_on_of_nodup_map h hv hw rfl)

/-! ### What the sources of a compilation add to its index -/

theorem mem_collect_of_mem {nodes : List (Int × Json)} {entry : Int × Json}
    {sources : List (String × Json)} : ∀ {known notes size},
    entry ∈ known → (collect known notes size sources).1 = .ok nodes → entry ∈ nodes := by
  induction sources with
  | nil =>
      intro known notes size hknown h
      cases h
      exact hknown
  | cons source sources ih =>
      intro known notes size hknown h
      unfold collect at h
      split at h
      · cases h
      · exact ih hknown h
      · split at h
        · cases h
        · exact ih (List.mem_append_right _ hknown) h

/-- The numbered nodes of the tree of a source are in the index. -/
theorem mem_collect {nodes : List (Int × Json)} {source : String} {data : Json} {n : Int} {v : Json}
    (hv : v ∈ Ast.nodes (fun _ => false) (data.field "ast")) (hn : numberOf? v = some n)
    {sources : List (String × Json)} : ∀ {known notes size},
    (source, data) ∈ sources → (collect known notes size sources).1 = .ok nodes →
      (n, v) ∈ nodes := by
  induction sources with
  | nil => nofun
  | cons first sources ih =>
      intro known notes size hsource h
      unfold collect at h
      split at h
      · cases h
      · rename_i hcontains
        rcases List.mem_cons.1 hsource with rfl | hsource
        · rw [Json.field_of_not_contains hcontains] at hv
          cases hv
        · exact ih hsource h
      · split at h
        · cases h
        · rename_i tree hget
          rcases List.mem_cons.1 hsource with rfl | hsource
          · rw [Json.field_of_get hget] at hv
            refine mem_collect_of_mem (List.mem_append_left _ ?_) h
            rw [List.mem_reverse, List.mem_filterMap]
            exact ⟨v, hv, by rw [hn]; rfl⟩
          · exact ih hsource h

/-- The numbered nodes of the trees of an output are in its index. -/
theorem mem_ofOutput {number : Nat} {output : Json} {nodes : List (Int × Json)} {source : String}
    {data : Json} {n : Int} {v : Json} (hnodes : (ofOutput number output).nodes = .ok nodes)
    (hsource : (source, data) ∈ (output.field "sources").fields)
    (hv : v ∈ Ast.nodes (fun _ => false) (data.field "ast")) (hn : numberOf? v = some n) :
    (n, v) ∈ nodes := by
  unfold ofOutput at hnodes
  split at hnodes
  · cases hnodes
  · rename_i sources hsources
    obtain ⟨listed, hlookup, hentries⟩ := exists_of_bind_ok hsources
    have hlisted : (source, data) ∈ sources := by
      rcases Json.field_of_lookup hlookup with h | ⟨h, -⟩
      · rw [h, Json.fields_of_entries hentries] at hsource
        exact hsource
      · rw [h] at hsource
        cases hsource
    split at hnodes
    · cases hnodes
    · rename_i hcollect
      cases hnodes
      exact mem_collect hv hn hlisted (congrArg Prod.fst hcollect)

/-! ### Answers of a lookup -/

theorem nodes_of_yields_collected {index : SyntaxIndex} {nodes : List (Int × Json)}
    (h : Yields index.collected nodes) : index.nodes = .ok nodes := by
  unfold collected at h
  obtain ⟨s, -, h⟩ := h.of_bind
  have hrest : Yields (do
      let nodes ← ask index.nodes
      modify fun s => { s with opened := index.number :: s.opened }
      return nodes) nodes := by
    dsimp only at h
    split at h
    · obtain ⟨-, -, h⟩ := h.of_bind
      exact h
    · exact h
  obtain ⟨found, hfound, hrest⟩ := hrest.of_bind
  obtain ⟨-, -, hrest⟩ := hrest.of_bind
  obtain rfl := yields_pure.1 hrest
  exact yields_ask.1 hfound

theorem of_yields_deref {index : SyntaxIndex} {kinds : List String} {id v : Json}
    (h : Yields (index.deref kinds id) v) :
    ∃ nodes, index.nodes = .ok nodes ∧ find? nodes id = some v ∧ Ast.isOfKind kinds v = true := by
  unfold deref at h
  obtain ⟨nodes, hnodes, h⟩ := h.of_bind
  obtain ⟨-, h⟩ := h.of_check
  split at h
  · exact absurd h yields_throw
  · rename_i node hnode
    obtain ⟨kind, -, h⟩ := h.of_bind
    obtain ⟨-, h⟩ := h.of_check
    split at h
    · obtain rfl := yields_pure.1 h
      exact ⟨nodes, nodes_of_yields_collected hnodes, hnode, ‹_›⟩
    · exact absurd h yields_throw

end SyntaxIndex
end StorageUpgrade
