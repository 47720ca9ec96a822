import StorageUpgrade.Proofs.Layout.Reachable

/-!
# Types that two details have in common

The details of some variables number the types that these can reach.  A type that two details have
in common keeps its identifier.  It is made of the types of the same identifiers in both of them, if
both tables record the same for it, because neither list of types leaves out a part
(`partsListed_of_reachable`).  So types of the same identifier correspond (`corresponds_sameId`).
-/

namespace StorageUpgrade

namespace TypeGraph

/-- Two types have the same identifier. -/
def SameId (g h : TypeGraph) (a : g.Ref) (b : h.Ref) : Prop := (g.info a).id = (h.info b).id

section

variable {types types' : List (String × TypeEntry)} {ids ids' : List String}

theorem exists_finIdxOf? {id : String} (hid : id ∈ ids) :
    ∃ i, ids.finIdxOf? id = some i ∧ ids.get i = id := by
  have hsome : (ids.finIdxOf? id).isSome := by
    rw [List.isSome_finIdxOf?]
    exact List.contains_iff_mem.2 hid
  obtain ⟨i, hi⟩ := Option.isSome_iff_exists.1 hsome
  exact ⟨i, hi, (List.finIdxOf?_eq_some_iff.1 hi).1⟩

/-- An item whose type is listed describes a variable of this type. -/
theorem exists_resolve? {item : Item} (hitem : ∃ id ∈ ids, item.type = .str id) :
    ∃ i, resolve? ids item = some (item.map fun _ => i) ∧ item.type = .str (ids.get i) := by
  obtain ⟨id, hid, htype⟩ := hitem
  obtain ⟨i, hi, hget⟩ := exists_finIdxOf? hid
  refine ⟨i, ?_, htype.trans (congrArg Json.str hget.symm)⟩
  simp [resolve?, htype, Json.text?, hi]

theorem forall₂_refs (inner : List String) (h : ∀ id ∈ inner, id ∈ ids)
    (h' : ∀ id ∈ inner, id ∈ ids') :
    List.Forall₂ (fun (a : Fin ids.length) (b : Fin ids'.length) => ids.get a = ids'.get b)
      (inner.filterMap ids.finIdxOf?) (inner.filterMap ids'.finIdxOf?) := by
  induction inner with
  | nil => exact .nil
  | cons id inner ih =>
      obtain ⟨i, hi, hget⟩ := exists_finIdxOf? (h id List.mem_cons_self)
      obtain ⟨j, hj, hget'⟩ := exists_finIdxOf? (h' id List.mem_cons_self)
      rw [List.filterMap_cons_some hi, List.filterMap_cons_some hj]
      exact .cons (hget.trans hget'.symm) (ih (fun x hx => h x (List.mem_cons_of_mem _ hx))
        fun x hx => h' x (List.mem_cons_of_mem _ hx))

theorem alike_of_resolve? {item : Item} {i : Fin ids.length} {j : Fin ids'.length}
    (hi : item.type = .str (ids.get i)) (hj : item.type = .str (ids'.get j)) :
    (item.map fun _ => i).Alike (fun a b => ids.get a = ids'.get b) (item.map fun _ => j) :=
  ⟨rfl, Json.str.inj (hi.symm.trans hj)⟩

/-- The items describe variables of the same attributes and types in both details. -/
theorem forall₂_resolve? (items : List Item) (h : ∀ x ∈ items, ∃ id ∈ ids, x.type = .str id)
    (h' : ∀ x ∈ items, ∃ id ∈ ids', x.type = .str id) :
    List.Forall₂ (Variable.Alike fun a b => ids.get a = ids'.get b) (items.filterMap (resolve? ids))
      (items.filterMap (resolve? ids')) := by
  induction items with
  | nil => exact .nil
  | cons item items ih =>
      obtain ⟨i, hi, htype⟩ := exists_resolve? (h item List.mem_cons_self)
      obtain ⟨j, hj, htype'⟩ := exists_resolve? (h' item List.mem_cons_self)
      rw [List.filterMap_cons_some hi, List.filterMap_cons_some hj]
      exact .cons (alike_of_resolve? htype htype') (ih
        (fun x hx => h x (List.mem_cons_of_mem _ hx)) fun x hx => h' x (List.mem_cons_of_mem _ hx))

/-- The same for the members that a table records. -/
theorem forall₂_members (members : List (Item ⊕ String))
    (h : ∀ x, .inl x ∈ members → ∃ id ∈ ids, x.type = .str id)
    (h' : ∀ x, .inl x ∈ members → ∃ id ∈ ids', x.type = .str id) :
    List.Forall₂ (Sum.LiftRel (Variable.Alike fun a b => ids.get a = ids'.get b) Eq)
      (members.filterMap fun
        | .inl item => (resolve? ids item).map .inl
        | .inr name => some (.inr name))
      (members.filterMap fun
        | .inl item => (resolve? ids' item).map .inl
        | .inr name => some (.inr name)) := by
  induction members with
  | nil => exact .nil
  | cons m members ih =>
      have hrest := ih (fun x hx => h x (List.mem_cons_of_mem _ hx))
        fun x hx => h' x (List.mem_cons_of_mem _ hx)
      cases m with
      | inr name => exact .cons (.inr rfl) hrest
      | inl item =>
          obtain ⟨i, hi, htype⟩ := exists_resolve? (h item List.mem_cons_self)
          obtain ⟨j, hj, htype'⟩ := exists_resolve? (h' item List.mem_cons_self)
          simp only [List.filterMap_cons, hi, hj, Option.map_some]
          exact .cons (.inl (alike_of_resolve? htype htype')) hrest

/-- An identifier means the same in both lists, if both tables record the same for it. -/
theorem alike_nodeOf {id : String} (hlisted : PartsListed types ids id)
    (hlisted' : PartsListed types' ids' id) (hfind : Json.find? id types = Json.find? id types') :
    (nodeOf types ids id).Alike (fun a b => ids.get a = ids'.get b) (nodeOf types' ids' id) := by
  obtain ⟨parts, hparts, hpart⟩ := hlisted
  obtain ⟨_, hparts', hpart'⟩ := hlisted'
  obtain rfl := Except.ok.inj (hparts.symm.trans hparts')
  refine ⟨?_, ?_, ?_⟩
  · simp only [nodeOf, hfind]
  · simp only [nodeOf, hparts]
    cases hargs : parts.args with
    | none => exact .none
    | some args =>
        have hinner : ∀ x ∈ args, Json.str x ∈ parts.inner.map Json.str := fun x hx =>
          List.mem_map_of_mem (by simp [TypeId.Parts.inner, hargs, hx])
        refine .some (forall₂_refs args (fun x hx => ?_) fun x hx => ?_)
        · obtain ⟨y, hy, hxy⟩ := hpart _ (List.mem_append_left _ (hinner x hx))
          exact Json.str.inj hxy ▸ hy
        · obtain ⟨y, hy, hxy⟩ := hpart' _ (List.mem_append_left _ (hinner x hx))
          exact Json.str.inj hxy ▸ hy
  · simp only [nodeOf, ← hfind]
    have hmember : ∀ members, (Json.find? id types).bind (·.members) = some members →
        ∀ x, .inl x ∈ members → x.type ∈ memberTypes types id := by
      intro members hmembers x hx
      simp only [memberTypes, hmembers]
      exact List.mem_filterMap.2 ⟨_, hx, rfl⟩
    have hsame : memberTypes types id = memberTypes types' id := by rw [memberTypes, hfind]; rfl
    cases hmembers : (Json.find? id types).bind (·.members) with
    | none => exact .none
    | some members =>
        refine .some (forall₂_members members (fun x hx => ?_) fun x hx => ?_)
        · exact hpart _ (List.mem_append_right _ (hmember members hmembers x hx))
        · exact hpart' _ (List.mem_append_right _ (hsame ▸ hmember members hmembers x hx))

theorem sameId_eq (types types' : List (String × TypeEntry)) (ids ids' : List String) :
    SameId (ofIds types ids) (ofIds types' ids') = fun a b => ids.get a = ids'.get b := by
  funext a b
  rw [SameId, id_info_ofIds, id_info_ofIds]

/-- Types of the same identifier correspond. -/
theorem corresponds_sameId {roots roots' : List Json} (h : reachable types roots = .ok ids)
    (h' : reachable types' roots' = .ok ids')
    (hagree : ∀ id ∈ ids, id ∈ ids' → Json.find? id types = Json.find? id types') :
    (ofIds types ids).Corresponds (ofIds types' ids') (SameId _ _) := by
  intro a b hab
  rw [sameId_eq] at hab
  have ha : ids.get a ∈ ids := List.get_mem ids a
  have hb : ids.get a ∈ ids' := hab ▸ List.get_mem ids' b
  have hold : (ofIds types ids).node a = nodeOf types ids (ids.get a) := node_ofIds types ids a
  have hnew : (ofIds types' ids').node b = nodeOf types' ids' (ids.get a) :=
    (node_ofIds types' ids' b).trans (congrArg _ hab.symm)
  rw [hold, hnew, sameId_eq]
  exact alike_nodeOf ((partsListed_of_reachable h).1 _ ha) ((partsListed_of_reachable h').1 _ hb)
    (hagree _ ha hb)

end

end TypeGraph

namespace Layout

section

variable {l l' : Layout} {items items' : List Item} {d d' : DetailedLayout}
  (h : l.detailItems items = .ok d)
  (hagree : ∀ a : d.graph.Ref, Json.find? (d.graph.info a).id l.types =
    Json.find? (d.graph.info a).id l'.types)

include h hagree

/-- Types of the same identifier correspond in the details of two layouts that record the same for
them. -/
theorem corresponds_of_agree (h' : l'.detailItems items' = .ok d') :
    d.graph.Corresponds d'.graph (TypeGraph.SameId d.graph d'.graph) := by
  obtain ⟨ids, hids, rfl⟩ := exists_of_detailItems h
  obtain ⟨ids', hids', rfl⟩ := exists_of_detailItems h'
  refine TypeGraph.corresponds_sameId hids hids' fun id hid _ => ?_
  obtain ⟨i, hi, rfl⟩ := List.getElem_of_mem hid
  have hsame := hagree ⟨i, hi⟩
  rwa [TypeGraph.id_info_ofIds] at hsame

omit hagree in
/-- The variables of some items are also the first ones of a longer list of items. -/
theorem exists_kept_of_detailItems {extra : List Item}
    (h' : l'.detailItems (items ++ extra) = .ok d') :
    ∃ kept new, d'.vars = kept ++ new ∧
      List.Forall₂ (Variable.Alike (TypeGraph.SameId d.graph d'.graph)) d.vars kept := by
  obtain ⟨ids, hids, rfl⟩ := exists_of_detailItems h
  obtain ⟨ids', hids', rfl⟩ := exists_of_detailItems h'
  refine ⟨_, _, List.filterMap_append, ?_⟩
  rw [TypeGraph.sameId_eq]
  refine TypeGraph.forall₂_resolve? items (fun x hx => ?_) fun x hx => ?_
  · exact (TypeGraph.partsListed_of_reachable hids).2 _ (List.mem_map_of_mem hx)
  · exact (TypeGraph.partsListed_of_reachable hids').2 _
      (List.mem_map_of_mem (List.mem_append_left extra hx))

end

/-- Types of the same identifier correspond in the details of one layout. -/
theorem corresponds_of_detailItems {l : Layout} {items items' : List Item} {d d' : DetailedLayout}
    (h : l.detailItems items = .ok d) (h' : l.detailItems items' = .ok d') :
    d.graph.Corresponds d'.graph (TypeGraph.SameId d.graph d'.graph) :=
  corresponds_of_agree h (fun _ => rfl) h'

end Layout

end StorageUpgrade
