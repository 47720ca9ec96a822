import StorageUpgrade.Proofs.Layout.SameId
import StorageUpgrade.Proofs.TypeId.Refused

/-!
# The details of a layout are faithful

From the types of some items one comes to their arguments and return types, and to the types of the
members that the table records for them.  All types that are met in this way have a node in the graph
of the details, and no others do.  The details fail if and only if an item, or a member of a type that
is met, has a type that is no identifier or cannot be parsed.  Otherwise each node has the parts of its
identifier and what the table records for it, and each item is kept as it is (`detailItems_cases`).

## Strategy

* A visit only lists types that are met, and a problem that it reports is one of an item or a member
  (`sound_visit`): arguments and return types are never refused, because they come from an identifier
  that was parsed.
* All types that are met are listed, because the list is closed under parts
  (`TypeGraph.partsListed_of_reachable`): an induction on how a type is met (`Meets.listed`).
* A number of the graph is read back as the identifier that it was found for, so what a node refers to
  is what its identifier and its table entry name (`map_refs`, `map_itemOf`, `map_memberOf`).
-/

namespace StorageUpgrade

namespace TypeTree

/-- The arguments and return types of an identifier. -/
def inner (t : TypeTree) : List TypeTree := t.args.getD [] ++ t.rets.getD []

variable {id : String} {ids : Option (List String)} {trees : Option (List TypeTree)}

theorem map_id_of_rel (h : Option.Rel (List.Forall₂ fun part u => parse part = .ok u) ids trees) :
    trees.map (List.map TypeTree.id) = ids := by
  cases h with
  | none => rfl
  | some h =>
      refine congrArg some ?_
      induction h with
      | nil => rfl
      | cons hpart _ ih => rw [List.map_cons, TypeId.id_of_parseWithin hpart, ih]

theorem MadeOf.map_id_inner {parts : TypeId.Parts} {t : TypeTree} (h : MadeOf id parts t) :
    t.inner.map TypeTree.id = parts.inner := by
  rw [inner, List.map_append, TypeId.Parts.inner, ← map_id_of_rel h.args, ← map_id_of_rel h.rets]
  cases t.args <;> cases t.rets <;> rfl

/-- The trees inside a tree are those of their own identifiers. -/
theorem MadeOf.parse_id {parts : TypeId.Parts} {t u : TypeTree} (h : MadeOf id parts t)
    (hu : u ∈ t.inner) : parse u.id = .ok u := by
  have hparse {ids : Option (List String)} {trees : Option (List TypeTree)}
      (h : Option.Rel (List.Forall₂ fun part u => parse part = .ok u) ids trees)
      (hu : u ∈ trees.getD []) : parse u.id = .ok u := by
    cases h with
    | none => cases hu
    | some h =>
        obtain ⟨part, -, hpart⟩ := exists_left_of_mem h hu
        rwa [TypeId.id_of_parseWithin hpart]
  rcases List.mem_append.1 hu with hu | hu
  · exact hparse h.args hu
  · exact hparse h.rets hu

end TypeTree

namespace TypeGraph

/-- A type that stands for no node, with what is wrong with it. -/
inductive Refused : Json → Problem → Prop
  | unbalanced {id : String} {e : Unbalanced} (h : TypeTree.parse id = .error e) :
      Refused (.str id) (.unbalanced e)
  | notText {type : Json} (h : type.text? = none) : Refused type (.notText type)

/-- The members with types of their own that a table records for an identifier. -/
def memberItems (types : List (String × TypeEntry)) (id : String) : List Item :=
  (((Json.find? id types).bind (·.members)).getD []).filterMap Sum.getLeft?

/-- The identifier of a type of a graph. -/
def idOf (g : TypeGraph) (r : g.Ref) : String := (g.info r).id

/-- The item that describes a variable. -/
def itemOf (g : TypeGraph) : Variable g.Ref → Item := Variable.map fun r => .str (g.idOf r)

/-- The same for a member of a struct or an enum. -/
def memberOf (g : TypeGraph) : Variable g.Ref ⊕ String → Item ⊕ String := Sum.map g.itemOf id

/-- A node has the parts of an identifier, and what a table records for it.  An identifier that the
table does not list is its own label. -/
structure Records (types : List (String × TypeEntry)) (g : TypeGraph) (r : g.Ref) (t : TypeTree) :
    Prop where
  id : (g.node r).id = t.id
  head : (g.node r).head = t.head
  tail : (g.node r).tail = t.tail
  args : (g.node r).args.map (·.map g.idOf) = t.args.map (·.map TypeTree.id)
  rets : (g.node r).rets.map (·.map g.idOf) = t.rets.map (·.map TypeTree.id)
  label : (g.node r).label = ((Json.find? t.id types).map (·.label)).getD (.str t.id)
  numberOfBytes : (g.node r).numberOfBytes = (Json.find? t.id types).bind (·.numberOfBytes)
  underlying : (g.node r).underlying = ((Json.find? t.id types).map (·.underlying)).getD .null
  members : (g.node r).members.map (·.map g.memberOf) = (Json.find? t.id types).bind (·.members)

section

variable {types : List (String × TypeEntry)} {ids : List String}

theorem memberTypes_eq (types : List (String × TypeEntry)) (id : String) :
    memberTypes types id = (memberItems types id).map (·.type) := by
  unfold memberTypes memberItems
  split
  · rename_i hmembers
    rw [hmembers]
    rfl
  · rename_i members hmembers
    rw [hmembers, Option.getD_some, List.map_filterMap]
    refine List.filterMap_congr fun m _ => ?_
    cases m <;> rfl

theorem mem_memberTypes {id : String} {x : Item} (hx : x ∈ memberItems types id) :
    x.type ∈ memberTypes types id := by
  rw [memberTypes_eq]
  exact List.mem_map_of_mem hx

/-! ### Numbers are read back as identifiers -/

theorem idOf_ofIds (types : List (String × TypeEntry)) (ids : List String) :
    (ofIds types ids).idOf = ids.get := funext (id_info_ofIds ids)

/-- If each element is found and read back as itself, then so is the list. -/
theorem map_filterMap_eq {α β : Type} {find : α → Option β} {read : β → α} {xs : List α}
    (h : ∀ x ∈ xs, ∃ y, find x = some y ∧ read y = x) : (xs.filterMap find).map read = xs := by
  induction xs with
  | nil => rfl
  | cons x xs ih =>
      obtain ⟨⟨y, hy, hread⟩, hxs⟩ := List.forall_mem_cons.1 h
      rw [List.filterMap_cons_some hy, List.map_cons, hread, ih hxs]

theorem map_refs (types : List (String × TypeEntry)) {inner : List String}
    (h : ∀ id ∈ inner, id ∈ ids) :
    (inner.filterMap ids.finIdxOf?).map (ofIds types ids).idOf = inner :=
  map_filterMap_eq fun id hid => by
    rw [idOf_ofIds]
    exact exists_finIdxOf? (h id hid)

theorem exists_itemOf (types : List (String × TypeEntry)) {item : Item}
    (h : ∃ id ∈ ids, item.type = .str id) :
    ∃ v, resolve? ids item = some v ∧ (ofIds types ids).itemOf v = item := by
  obtain ⟨r, hr, htype⟩ := exists_resolve? h
  refine ⟨_, hr, ?_⟩
  obtain ⟨label, type⟩ := item
  obtain rfl : type = .str (ids.get r) := htype
  rw [itemOf, idOf_ofIds]
  rfl

theorem map_itemOf (types : List (String × TypeEntry)) {items : List Item}
    (h : ∀ x ∈ items, ∃ id ∈ ids, x.type = .str id) :
    (items.filterMap (resolve? ids)).map (ofIds types ids).itemOf = items :=
  map_filterMap_eq fun x hx => exists_itemOf types (h x hx)

theorem map_memberOf (types : List (String × TypeEntry)) {members : List (Item ⊕ String)}
    (h : ∀ x ∈ members.filterMap Sum.getLeft?, ∃ id ∈ ids, x.type = .str id) :
    (members.filterMap fun
      | .inl item => (resolve? ids item).map .inl
      | .inr value => some (.inr value)).map (ofIds types ids).memberOf = members :=
  map_filterMap_eq fun m hm => by
    cases m with
    | inl item =>
        obtain ⟨v, hv, hitem⟩ := exists_itemOf types (h item (List.mem_filterMap.2 ⟨_, hm, rfl⟩))
        exact ⟨.inl v, congrArg (Option.map Sum.inl) hv, congrArg Sum.inl hitem⟩
    | inr value => exact ⟨.inr value, rfl, rfl⟩

theorem parts_nodeOf (types : List (String × TypeEntry)) (ids : List String) {id : String}
    {parts : TypeId.Parts} (h : TypeId.Parts.ofId id = .ok parts) :
    (nodeOf types ids id).head = parts.head ∧ (nodeOf types ids id).tail = parts.tail ∧
      (nodeOf types ids id).args = parts.args.map (·.filterMap ids.finIdxOf?) ∧
        (nodeOf types ids id).rets = parts.rets.map (·.filterMap ids.finIdxOf?) := by
  unfold nodeOf
  rw [h]
  exact ⟨rfl, rfl, rfl, rfl⟩

/-- Listed parts are read back from the references to them. -/
theorem map_optional_refs (types : List (String × TypeEntry)) {inner : Option (List String)}
    {trees : Option (List TypeTree)} (hinner : ∀ part ∈ inner.getD [], part ∈ ids)
    (h : Option.Rel (List.Forall₂ fun part u => TypeTree.parse part = .ok u) inner trees) :
    (inner.map (·.filterMap ids.finIdxOf?)).map (·.map (ofIds types ids).idOf) =
      trees.map (·.map TypeTree.id) := by
  rw [TypeTree.map_id_of_rel h]
  cases inner with
  | none => rfl
  | some inner => exact congrArg some (map_refs types hinner)

theorem map_members_nodeOf {id : String}
    (h : ∀ x ∈ memberItems types id, ∃ id' ∈ ids, x.type = .str id') :
    (nodeOf types ids id).members.map (·.map (ofIds types ids).memberOf) =
      (Json.find? id types).bind (·.members) := by
  unfold memberItems at h
  unfold nodeOf
  dsimp only
  cases hmembers : (Json.find? id types).bind (·.members) with
  | none => rfl
  | some members =>
      rw [hmembers, Option.getD_some] at h
      exact congrArg some (map_memberOf types h)

/-- The node of an identifier whose parts are listed has these parts. -/
theorem records_of_partsListed {r : Fin ids.length} (h : PartsListed types ids (ids.get r)) :
    ∃ t, TypeTree.parse (ids.get r) = .ok t ∧ Records types (ofIds types ids) r t := by
  obtain ⟨parts, hparts, hlisted⟩ := h
  obtain ⟨t, ht, hmade⟩ := TypeTree.exists_madeOf hparts
  obtain ⟨hhead, htail, hargs, hrets⟩ := parts_nodeOf types ids hparts
  have hinner : ∀ part ∈ parts.inner, part ∈ ids := by
    intro part hpart
    obtain ⟨_, hmem, hstr⟩ := hlisted _ (List.mem_append_left _ (List.mem_map_of_mem hpart))
    exact Json.str.inj hstr ▸ hmem
  have hid : t.id = ids.get r := hmade.id
  have hnode : (ofIds types ids).node r = nodeOf types ids (ids.get r) := node_ofIds types ids r
  exact ⟨t, ht,
    { id := by rw [hnode, hid]; rfl
      head := by rw [hnode, hhead, hmade.head]
      tail := by rw [hnode, htail, hmade.tail]
      args := by
        rw [hnode, hargs]
        exact map_optional_refs types (fun _ h => hinner _ (List.mem_append_left _ h)) hmade.args
      rets := by
        rw [hnode, hrets]
        exact map_optional_refs types (fun _ h => hinner _ (List.mem_append_right _ h)) hmade.rets
      label := by rw [hnode, hid]; rfl
      numberOfBytes := by rw [hnode, hid]; rfl
      underlying := by rw [hnode, hid]; rfl
      members := by
        rw [hnode, hid]
        exact map_members_nodeOf fun x hx =>
          hlisted _ (List.mem_append_right _ (mem_memberTypes hx)) }⟩

end

end TypeGraph

namespace Layout

open TypeGraph

/-- The identifiers that one comes to from the types of some items: through the arguments and return
types of an identifier, and through the members that the table records for it. -/
inductive Meets (l : Layout) (items : List Item) : String → Prop
  | item {x : Item} {id : String} (hx : x ∈ items) (hid : x.type = .str id) : Meets l items id
  | part {id : String} {t u : TypeTree} (h : Meets l items id) (ht : TypeTree.parse id = .ok t)
      (hu : u ∈ t.inner) : Meets l items u.id
  | member {id id' : String} {x : Item} (h : Meets l items id) (hx : x ∈ memberItems l.types id)
      (hid : x.type = .str id') : Meets l items id'

/-- The items themselves, and the members of all types that one comes to from them. -/
inductive Uses (l : Layout) (items : List Item) : Item → Prop
  | item {x : Item} (hx : x ∈ items) : Uses l items x
  | member {id : String} {x : Item} (h : Meets l items id) (hx : x ∈ memberItems l.types id) :
      Uses l items x

/-- The details have the items as variables, and one node for each type that one comes to from them,
with its parts and what the table records for it. -/
structure Faithful (l : Layout) (items : List Item) (d : DetailedLayout) : Prop where
  vars : d.vars.map d.graph.itemOf = items
  meets_iff : ∀ id, l.Meets items id ↔ ∃ r, d.graph.idOf r = id
  distinct : d.graph.Distinct
  records : ∀ r, ∃ t, TypeTree.parse (d.graph.idOf r) = .ok t ∧ Records l.types d.graph r t

section

variable {l : Layout} {items : List Item}

theorem Uses.meets {x : Item} {id : String} (h : l.Uses items x) (hid : x.type = .str id) :
    l.Meets items id := by
  cases h with
  | item hx => exact .item hx hid
  | member h hx => exact .member h hx hid

/-! ### Only what is met is listed -/

/-- A type that a visit may come to: that of an item or a member, or a part of a type that is met. -/
inductive Awaits (l : Layout) (items : List Item) : Json → Prop
  | used {x : Item} (h : l.Uses items x) : Awaits l items x.type
  | part {id : String} {t u : TypeTree} (h : l.Meets items id) (ht : TypeTree.parse id = .ok t)
      (hu : u ∈ t.inner) : Awaits l items (.str u.id)

/-- The outcome of a visit is right: all that is listed is met, and a problem is one of an item or a
member. -/
def Sound (l : Layout) (items : List Item) : Except Problem (List String) → Prop
  | .ok ids => ∀ id ∈ ids, l.Meets items id
  | .error p => ∃ x, l.Uses items x ∧ Refused x.type p

theorem Awaits.meets {id : String} (h : l.Awaits items (.str id)) : l.Meets items id := by
  generalize htype : Json.str id = type at h
  cases h with
  | used h => exact h.meets htype.symm
  | part h ht hu =>
      obtain rfl := Json.str.inj htype
      exact .part h ht hu

/-- A problem with a type is one of an item or a member, since parts of an identifier have none. -/
theorem Awaits.sound_error {type : Json} {p : Problem} (h : l.Awaits items type)
    (hp : Refused type p) : Sound l items (.error p) := by
  cases h with
  | used h => exact ⟨_, h, hp⟩
  | part _ ht hu =>
      cases hp with
      | unbalanced he =>
          obtain ⟨_, -, -, hmade⟩ := TypeTree.exists_parts_of_parse ht
          rw [hmade.parse_id hu] at he
          cases he
      | notText htext => cases htext

theorem sound_foldlM {visit : List String → Json → Except Problem (List String)}
    (hvisit : ∀ seen type, l.Awaits items type → Sound l items (.ok seen) →
      Sound l items (visit seen type)) (types : List Json) :
    ∀ seen, (∀ type ∈ types, l.Awaits items type) → Sound l items (.ok seen) →
      Sound l items (types.foldlM visit seen) := by
  induction types with
  | nil => exact fun _ _ hseen => hseen
  | cons type types ih =>
      intro seen htypes hseen
      obtain ⟨htype, htypes⟩ := List.forall_mem_cons.1 htypes
      have hfirst := hvisit seen type htype hseen
      rw [List.foldlM_cons]
      cases hnext : visit seen type with
      | error p =>
          rw [hnext] at hfirst
          exact hfirst
      | ok next =>
          rw [hnext] at hfirst
          exact ih next htypes hfirst

theorem awaits_of_mem_inner {id : String} {parts : TypeId.Parts} {type : Json}
    (h : l.Meets items id) (hparts : TypeId.Parts.ofId id = .ok parts)
    (htype : type ∈ parts.inner.map Json.str ++ memberTypes l.types id) : l.Awaits items type := by
  rcases List.mem_append.1 htype with htype | htype
  · obtain ⟨part, hpart, rfl⟩ := List.mem_map.1 htype
    obtain ⟨t, ht, hmade⟩ := TypeTree.exists_madeOf hparts
    rw [← hmade.map_id_inner] at hpart
    obtain ⟨u, hu, rfl⟩ := List.mem_map.1 hpart
    exact .part h ht hu
  · rw [memberTypes_eq] at htype
    obtain ⟨x, hx, rfl⟩ := List.mem_map.1 htype
    exact .used (.member h hx)

theorem sound_visit (steps : Nat) : ∀ seen type, l.Awaits items type → Sound l items (.ok seen) →
    Sound l items (visit l.types steps seen type) := by
  induction steps with
  | zero => exact fun _ _ _ hseen => hseen
  | succ steps ih =>
      intro seen type htype hseen
      cases type with
      | str id =>
          rw [visit]
          split
          · exact hseen
          cases hparts : TypeId.Parts.ofId id with
          | error e => exact htype.sound_error (.unbalanced (TypeTree.parse_eq_error_iff.2 hparts))
          | ok parts =>
              have hid := htype.meets
              refine sound_foldlM ih _ _ (fun _ => awaits_of_mem_inner hid hparts) ?_
              intro id' hid'
              rcases List.mem_append.1 hid' with hid' | hid'
              · exact hseen id' hid'
              · rwa [List.mem_singleton.1 hid']
      | _ => exact htype.sound_error (.notText rfl)

theorem sound_reachable (l : Layout) (items : List Item) :
    Sound l items (reachable l.types (items.map (·.type))) := by
  refine sound_foldlM (sound_visit _) _ [] ?_ nofun
  intro type htype
  obtain ⟨x, hx, rfl⟩ := List.mem_map.1 htype
  exact .used (.item hx)

/-! ### All that is met is listed -/

section

variable {ids : List String} (h : reachable l.types (items.map (·.type)) = .ok ids)

include h

theorem Meets.listed {id : String} (hid : l.Meets items id) : id ∈ ids := by
  obtain ⟨hparts, hroots⟩ := partsListed_of_reachable h
  have hmem {id : String} {type : Json} (h : ∃ id ∈ ids, type = .str id) (htype : type = .str id) :
      id ∈ ids := by
    obtain ⟨_, hid, rfl⟩ := h
    exact Json.str.inj htype ▸ hid
  induction hid with
  | item hx hid => exact hmem (hroots _ (List.mem_map_of_mem hx)) hid
  | @part id t u _ ht hu ih =>
      obtain ⟨parts, hid, hlisted⟩ := hparts id ih
      obtain ⟨t', ht', hmade⟩ := TypeTree.exists_madeOf hid
      obtain rfl : t = t' := Except.ok.inj (ht.symm.trans ht')
      refine hmem (hlisted _ (List.mem_append_left _ (List.mem_map_of_mem ?_))) rfl
      rw [← hmade.map_id_inner]
      exact List.mem_map_of_mem hu
  | @member id id' x _ hx hid ih =>
      obtain ⟨parts, -, hlisted⟩ := hparts id ih
      exact hmem (hlisted _ (List.mem_append_right _ (mem_memberTypes hx))) hid

theorem Uses.exists_parse {x : Item} (hx : l.Uses items x) :
    ∃ id t, x.type = .str id ∧ TypeTree.parse id = .ok t := by
  obtain ⟨hparts, hroots⟩ := partsListed_of_reachable h
  have hlisted : ∃ id ∈ ids, x.type = .str id := by
    cases hx with
    | item hx => exact hroots _ (List.mem_map_of_mem hx)
    | member hid hx =>
        obtain ⟨parts, -, hlisted⟩ := hparts _ (hid.listed h)
        exact hlisted _ (List.mem_append_right _ (mem_memberTypes hx))
  obtain ⟨id, hid, htype⟩ := hlisted
  obtain ⟨parts, hofId, -⟩ := hparts id hid
  obtain ⟨t, ht⟩ := TypeTree.exists_parse hofId
  exact ⟨id, t, htype, ht⟩

theorem faithful_of_reachable :
    Faithful l items ⟨ofIds l.types ids, items.filterMap (resolve? ids)⟩ where
  vars := map_itemOf l.types fun x hx =>
    (partsListed_of_reachable h).2 _ (List.mem_map_of_mem hx)
  meets_iff := fun id => by
    have hsound := sound_reachable l items
    rw [h] at hsound
    rw [idOf_ofIds]
    constructor
    · intro hid
      exact List.mem_iff_get.1 (hid.listed h)
    · rintro ⟨r, rfl⟩
      exact hsound _ (List.get_mem ids r)
  distinct := distinct_ofIds (nodup_reachable h)
  records := fun r => by
    rw [idOf_ofIds]
    exact records_of_partsListed ((partsListed_of_reachable h).1 _ (List.get_mem ids r))

end

/-- Either an item, or a member of a type that one comes to from the items, has a type that is no
identifier or cannot be parsed, and the details of the items fail with what is wrong with such a type.
Or all these types can be parsed, and the items have details that are faithful to the table. -/
theorem detailItems_cases (l : Layout) (items : List Item) :
    (∃ x p, l.Uses items x ∧ Refused x.type p ∧ l.detailItems items = .error p) ∨
      (∀ x, l.Uses items x → ∃ id t, x.type = .str id ∧ TypeTree.parse id = .ok t) ∧
        ∃ d, l.detailItems items = .ok d ∧ l.Faithful items d := by
  cases h : reachable l.types (items.map (·.type)) with
  | error p =>
      have hsound := sound_reachable l items
      rw [h] at hsound
      obtain ⟨x, hx, hp⟩ := hsound
      refine .inl ⟨x, p, hx, hp, ?_⟩
      rw [detailItems, h]
      rfl
  | ok ids =>
      exact .inr ⟨fun x hx => hx.exists_parse h, _, detailItems_of_reachable h,
        faithful_of_reachable h⟩

end

end Layout
end StorageUpgrade
