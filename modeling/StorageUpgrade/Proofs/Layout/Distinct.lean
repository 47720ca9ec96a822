import Mathlib.Data.List.Nodup
import StorageUpgrade.Layout.TypeGraph

/-!
# Every identifier names one type

The graph of the types of a layout has one node for each identifier that can be reached.  What a
comparator remembers of two types is kept under their identifiers, so this is what makes it right.
-/

namespace StorageUpgrade

/-- No two types of a graph have the same identifier. -/
def TypeGraph.Distinct (g : TypeGraph) : Prop := Function.Injective fun r : g.Ref => (g.info r).id

namespace TypeGraph

variable {types : List (String × TypeEntry)}

private theorem foldlM_nodup {α : Type} {f : List String → α → Except Problem (List String)}
    (hf : ∀ seen x seen', f seen x = .ok seen' → seen.Nodup → seen'.Nodup) (xs : List α) :
    ∀ seen seen', xs.foldlM f seen = .ok seen' → seen.Nodup → seen'.Nodup := by
  induction xs with
  | nil =>
      intro seen seen' h hseen
      cases h
      exact hseen
  | cons x xs ih =>
      intro seen seen' h hseen
      rw [List.foldlM_cons] at h
      cases hx : f seen x with
      | error e =>
          rw [hx] at h
          cases h
      | ok next =>
          rw [hx] at h
          exact ih next seen' h (hf seen x next hx hseen)

/-- An identifier is added only if it was not seen before. -/
theorem nodup_visit (steps : Nat) :
    ∀ seen type seen', visit types steps seen type = .ok seen' → seen.Nodup → seen'.Nodup := by
  induction steps with
  | zero =>
      intro seen type seen' h hseen
      cases h
      exact hseen
  | succ steps ih =>
      intro seen type seen' h hseen
      cases type with
      | str id =>
          simp only [visit] at h
          split at h
          · cases h
            exact hseen
          · rename_i hnew
            cases hparts : TypeId.Parts.ofId id with
            | error e =>
                rw [hparts] at h
                cases h
            | ok parts =>
                rw [hparts] at h
                refine foldlM_nodup ih _ _ _ h (List.nodup_append'.2 ⟨hseen, by simp, ?_⟩)
                simpa using hnew
      | _ => cases h

theorem nodup_reachable {roots : List Json} {ids : List String}
    (h : reachable types roots = .ok ids) : ids.Nodup :=
  foldlM_nodup (nodup_visit _) roots [] ids h List.nodup_nil

theorem id_info_ofIds (ids : List String) (r : (ofIds types ids).Ref) :
    ((ofIds types ids).info r).id = ids.get r := by
  rw [info, node_ofIds types ids r]
  rfl

theorem distinct_ofIds {ids : List String} (h : ids.Nodup) : (ofIds types ids).Distinct := by
  intro r s hrs
  simp only [id_info_ofIds] at hrs
  exact h.injective_get hrs

end TypeGraph

namespace DetailedLayout

/-- Some variables whose types are given by their places in a table. -/
def ofTable (types : List (String × TypeEntry))
    (vars : List (Variable (Fin (types.map Prod.fst).length))) : DetailedLayout :=
  ⟨TypeGraph.ofIds types (types.map Prod.fst), vars⟩

theorem distinct_ofTable {types : List (String × TypeEntry)}
    {vars : List (Variable (Fin (types.map Prod.fst).length))} (h : (types.map Prod.fst).Nodup) :
    (ofTable types vars).graph.Distinct := TypeGraph.distinct_ofIds h

end DetailedLayout

namespace Layout

variable {l : Layout} {items : List Item} {d : DetailedLayout}

/-- The details of some items are the types that can be reached from them, and their variables. -/
theorem exists_of_detailItems (h : l.detailItems items = .ok d) :
    ∃ ids, TypeGraph.reachable l.types (items.map (·.type)) = .ok ids ∧
      d = ⟨TypeGraph.ofIds l.types ids, items.filterMap (TypeGraph.resolve? ids)⟩ := by
  unfold detailItems at h
  cases hids : TypeGraph.reachable l.types (items.map (·.type)) with
  | error e =>
      rw [hids] at h
      cases h
  | ok ids =>
      rw [hids] at h
      cases h
      exact ⟨ids, rfl, rfl⟩

theorem detailItems_of_reachable {ids : List String}
    (h : TypeGraph.reachable l.types (items.map (·.type)) = .ok ids) :
    l.detailItems items =
      .ok ⟨TypeGraph.ofIds l.types ids, items.filterMap (TypeGraph.resolve? ids)⟩ := by
  rw [detailItems, h]
  rfl

/-- The types of a layout have distinct identifiers. -/
theorem distinct_of_detailItems (h : l.detailItems items = .ok d) : d.graph.Distinct := by
  obtain ⟨ids, hids, rfl⟩ := exists_of_detailItems h
  exact TypeGraph.distinct_ofIds (TypeGraph.nodup_reachable hids)

end Layout

end StorageUpgrade
