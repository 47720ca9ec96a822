import StorageUpgrade.Proofs.Compare.Cases
import StorageUpgrade.Proofs.Compare.Reports
import StorageUpgrade.Proofs.Layout.SameId
import StorageUpgrade.Proofs.TypeId.Trees

/-!
# How named types are compared

Two types with the identifiers of named types are compared as their kinds ask for
(`compareNodes_of_isNamed`), and so are the named types inside others, because a layout lists them
with the types that they are parts of (`mem_of_names`).  All this takes the names to be told from
what stands beside them: a struct is taken for an elementary type if its name starts with an
underscore, and its members are not compared (`not_dispatched_hiddenType`).
-/

namespace StorageUpgrade

open TypeId

namespace TypeId

/-! ### The parts of the identifiers in layouts -/

theorem NamedKind.head_injective {kind kind' : NamedKind} :
    kind.head = kind'.head → kind = kind' := by
  cases kind <;> cases kind' <;> decide

theorem NamedType.ofId (u : NamedType) : Parts.ofId (String.ofList u.id) =
    .ok ⟨u.kind.head, some [String.ofList u.name.chars],
      some (String.ofList (u.kind.tail u.node false)), none⟩ := by
  have hparts := ofId_applied (not_mem_of_isWord u.kind.isHead_head.word) u.lists_name
    (not_mem_of_isWord (u.kind.isTail_tail u.node false).word)
  rwa [if_isEmpty (u.kind.tail_ne_nil u.node false), String.ofList_toList] at hparts

def BaseType.names : BaseType → List NamedType
  | elementary _ => []
  | named type => [type]

/-- The named types inside a type, itself included. -/
def StoredType.names : StoredType → List NamedType
  | base type => type.names
  | array element _ _ => element.names
  | mapping key value => key.names ++ value.names

end TypeId

namespace TypeGraph

variable {types : List (String × TypeEntry)} {ids : List String}

theorem PartsListed.mem_of_args {id part : String} {parts : Parts} {args : List String}
    (h : PartsListed types ids id) (hparts : Parts.ofId id = .ok parts)
    (hargs : parts.args = some args) (hpart : part ∈ args) : part ∈ ids := by
  obtain ⟨_, hparts', hlisted⟩ := h
  obtain rfl := Except.ok.inj (hparts.symm.trans hparts')
  have hinner : part ∈ parts.inner := by
    unfold Parts.inner
    rw [hargs]
    exact List.mem_append_left _ hpart
  obtain ⟨_, hmem, heq⟩ := hlisted _ (List.mem_append_left _ (List.mem_map_of_mem hinner))
  exact Json.str.inj heq ▸ hmem

theorem mem_of_names_base (key : BaseType) (hkey : String.ofList key.id ∈ ids) :
    ∀ u ∈ key.names, String.ofList u.id ∈ ids := by
  cases key with
  | elementary name => nofun
  | named u => exact List.forall_mem_singleton.2 hkey

/-- A layout that lists a type lists the named types inside. -/
theorem mem_of_names (hids : ∀ id ∈ ids, PartsListed types ids id) (t : StoredType)
    (ht : String.ofList t.id ∈ ids) : ∀ u ∈ t.names, String.ofList u.id ∈ ids := by
  induction t with
  | base type => exact mem_of_names_base type ht
  | array element length pointer ih =>
      have hparts := ofId_applied (not_mem_of_isWord isHead_array.word)
        (lists_one element.id_ne_nil element.balanced_id)
        (not_mem_of_isWord (isTail_length length false).word)
      exact ih ((hids _ ht).mem_of_args hparts rfl List.mem_cons_self)
  | mapping key value ih =>
      have hparts := ofId_applied (not_mem_of_isWord isHead_mapping.word)
        (lists_cons key.id_ne_nil key.balanced_id
          (lists_one value.id_ne_nil value.balanced_id))
        (not_mem_of_isWord isTail_nil.word)
      have hkey := (hids _ ht).mem_of_args hparts rfl List.mem_cons_self
      have hvalue := (hids _ ht).mem_of_args hparts rfl
        (List.mem_cons_of_mem _ List.mem_cons_self)
      intro u hu
      exact (List.mem_append.1 hu).elim (mem_of_names_base key hkey u) (ih hvalue u)

/-- A node that stands for a named type. -/
structure IsNamed {ρ : Type} (u : NamedType) (n : TypeNode ρ) : Prop where
  id : n.id = String.ofList u.id
  head : n.head = u.kind.head
  args : n.args.isSome

theorem isNamed_node {u : NamedType} {a : (ofIds types ids).Ref}
    (ha : ((ofIds types ids).info a).id = String.ofList u.id) :
    IsNamed u ((ofIds types ids).node a) := by
  rw [id_info_ofIds] at ha
  have hnode : (ofIds types ids).node a = nodeOf types ids (String.ofList u.id) :=
    (node_ofIds types ids a).trans (congrArg (nodeOf types ids) ha)
  rw [hnode]
  unfold nodeOf
  rw [u.ofId]
  exact ⟨rfl, rfl, rfl⟩

end TypeGraph

namespace Comparator

open TypeGraph

/-- How two types of one kind are compared. -/
def compareKind {g h : TypeGraph} (kind : NamedKind) (options : CompareOptions)
    (compare : TypeComparison g h) (old : TypeNode g.Ref) (updated : TypeNode h.Ref)
    (allowAppend : Bool) : CompareM (Option TypeChange) :=
  match kind with
  | .struct => compareStructs options compare old updated allowAppend
  | .enum => compareEnums options old updated
  | .contract => pure none
  | .userDefined => do
    let changed ← (underlyingChanged old.toTypeInfo updated.toTypeInfo : Except Json.Misuse _)
    return if changed then some (.mismatch .underlying old.toTypeInfo updated.toTypeInfo) else none

variable {g h : TypeGraph} {options : CompareOptions} {compare : TypeComparison g h}
  {old : TypeNode g.Ref} {updated : TypeNode h.Ref} {allowAppend : Bool}
  {was : List g.Ref} {is : List h.Ref}

theorem compareApplied_of_kind {kind : NamedKind} (hhead : old.head = kind.head) :
    compareApplied options compare old updated was is allowAppend =
      compareKind kind options compare old updated allowAppend := by
  cases kind with
  | struct => exact compareApplied_of_struct hhead
  | enum => exact compareApplied_of_enum hhead
  | contract =>
      unfold compareApplied
      exact if_pos hhead
  | userDefined =>
      have hcontract : old.head ≠ "t_contract" := by rw [hhead]; decide
      unfold compareApplied
      rw [if_neg hcontract]
      exact if_pos hhead

theorem comparedByHead_of_isNamed {u : NamedType} (hold : IsNamed u old)
    (hbytes : (isByteLabel old.label && isByteLabel updated.label) = false) :
    ComparedByHead old.toTypeInfo updated.toTypeInfo allowAppend := by
  have hid : '(' ∈ old.id.toList := by
    rw [hold.id, String.toList_ofList, NamedType.id, applied]
    exact List.mem_append_right _ List.mem_cons_self
  refine comparedByHead_of_mem hid ?_ hbytes
  unfold isFunction
  rw [hold.head]
  cases u.kind <;> decide

/-- Two named types are compared as their kind asks for, or they are found to be of different
kinds. -/
theorem compareNodes_of_isNamed {u u' : NamedType} (hold : IsNamed u old)
    (hupdated : IsNamed u' updated)
    (hbytes : (isByteLabel old.label && isByteLabel updated.label) = false) :
    compareNodes options compare old updated allowAppend =
      if u.kind = u'.kind then compareKind u.kind options compare old updated allowAppend
      else pure (some (.mismatch .obvious old.toTypeInfo updated.toTypeInfo)) := by
  have hcompared : ComparedByHead old.toTypeInfo updated.toTypeInfo allowAppend :=
    comparedByHead_of_isNamed hold hbytes
  by_cases hkind : u.kind = u'.kind
  · obtain ⟨was, hwas⟩ := Option.isSome_iff_exists.1 hold.args
    obtain ⟨is, his⟩ := Option.isSome_iff_exists.1 hupdated.args
    have hhead : old.head = updated.head := by rw [hold.head, hupdated.head, hkind]
    have hsame : SameHead old updated allowAppend was is := ⟨hcompared, hhead, hwas, his⟩
    rw [if_pos hkind, hsame.compareNodes_eq, compareApplied_of_kind hold.head]
  · have hhead : old.head ≠ updated.head := by
      rw [hold.head, hupdated.head]
      exact fun heq => hkind (NamedKind.head_injective heq)
    rw [if_neg hkind, hcompared.compareNodes_of_ne hhead]

/-! ### Named types keep their kinds -/

theorem keepsName_of_mem_base {key : BaseType} (hkey : key.KeepsNames) :
    ∀ u ∈ key.names, u.KeepsName := by
  cases key with
  | elementary name => nofun
  | named u => exact List.forall_mem_singleton.2 hkey

theorem keepsName_of_mem {t : StoredType} (ht : t.KeepsNames) : ∀ u ∈ t.names, u.KeepsName := by
  induction t with
  | base type => exact keepsName_of_mem_base ht
  | array element length pointer ih => exact ih ht
  | mapping key value ih =>
      intro u hu
      exact (List.mem_append.1 hu).elim (keepsName_of_mem_base ht.1 u) (ih ht.2 u)

/-- A named type is known by its kind and its name if and only if the name is told from what stands
beside it.  Then it is so inside arrays and mappings as well: their identifiers are taken apart down
to it, and the details that hold them hold it, too.  And two such types in details of layouts are
compared as their kind asks for, unless both are labelled like bytes. -/
theorem dispatched_by_kind {l l' : Layout} {items items' : List Item} {d d' : DetailedLayout}
    (hd : l.detailItems items = .ok d) (hd' : l'.detailItems items' = .ok d') :
    (∀ u : NamedType, TypeTree.parse (normalize u.encoded) = .ok u.tree ↔ u.KeepsName) ∧
      (∀ t : StoredType, t.KeepsNames →
        TypeTree.parse (normalize (encode (String.ofList t.chars))) = .ok t.tree ∧
          ∀ a : d.graph.Ref, (d.graph.info a).id = normalize (encode (String.ofList t.chars)) →
            ∀ u ∈ t.names, ∃ b : d.graph.Ref, (d.graph.info b).id = normalize u.encoded) ∧
      ∀ u u' : NamedType, u.KeepsName → u'.KeepsName → ∀ (a : d.graph.Ref) (b : d'.graph.Ref),
        (d.graph.info a).id = normalize u.encoded → (d'.graph.info b).id = normalize u'.encoded →
          (isByteLabel (d.graph.info a).label && isByteLabel (d'.graph.info b).label) = false →
            ∀ (options : CompareOptions) (compare : TypeComparison d.graph d'.graph) allowAppend,
              compareNodes options compare (d.graph.node a) (d'.graph.node b) allowAppend =
                if u.kind = u'.kind then
                  compareKind u.kind options compare (d.graph.node a) (d'.graph.node b) allowAppend
                else pure (some (.mismatch .obvious (d.graph.info a) (d'.graph.info b))) := by
  obtain ⟨ids, hids, rfl⟩ := Layout.exists_of_detailItems hd
  obtain ⟨ids', hids', rfl⟩ := Layout.exists_of_detailItems hd'
  refine ⟨NamedType.parse_normalize_iff, fun t ht => ⟨?_, fun a ha u hu => ?_⟩, ?_⟩
  · rw [t.normalize_encode ht]
    exact t.parse_id
  · rw [t.normalize_encode ht, id_info_ofIds] at ha
    have hu' := mem_of_names (partsListed_of_reachable hids).1 t (ha ▸ List.getElem_mem _) u hu
    obtain ⟨b, hb⟩ := List.mem_iff_get.1 hu'
    have hid := u.normalize_encoded (keepsName_of_mem ht u hu)
    exact ⟨b, (id_info_ofIds ids b).trans (hb.trans hid.symm)⟩
  · intro u u' hu hu' a b ha hb hbytes options compare allowAppend
    rw [u.normalize_encoded hu] at ha
    rw [u'.normalize_encoded hu'] at hb
    exact compareNodes_of_isNamed (isNamed_node ha) (isNamed_node hb) hbytes

/-- A struct in storage. -/
def accountType : NamedType where
  kind := .struct
  name := ⟨"Account".toList, by decide, List.all_eq_true.1 (by decide)⟩
  node := 12
  pointer := true

/-- A mapping from addresses to arrays of such structs. -/
def accountsType : StoredType :=
  .mapping (.elementary ⟨"address".toList, by decide, List.all_eq_true.1 (by decide)⟩)
    (.array (.base (.named accountType)) none true)

/-- A layout of one variable of this type. -/
def accountsLayout : Layout where
  storage := [{ label := .str "accounts", type := .str (String.ofList accountsType.id) }]

/-- The types of its variable. -/
def accountsIds : List String :=
  ["t_mapping(t_address,t_array(t_struct(Account)12_storage)dyn_storage)", "t_address",
    "t_array(t_struct(Account)12_storage)dyn_storage", "t_struct(Account)12_storage", "Account"]

theorem detail_accountsLayout : accountsLayout.detailItems accountsLayout.storage = .ok
    ⟨ofIds [] accountsIds, accountsLayout.storage.filterMap (resolve? accountsIds)⟩ :=
  Layout.detailItems_of_reachable (by decide +kernel)

/-- Structs inside a mapping keep their kind. -/
theorem dispatched_accountType :
    accountType.encoded = "t_struct$_Account_$12_storage_ptr" ∧
      TypeTree.parse (normalize accountType.encoded) = .ok accountType.tree ∧
      TypeTree.parse (normalize (encode (String.ofList accountsType.chars))) =
        .ok accountsType.tree ∧
      (∃ b, ((ofIds [] accountsIds).info b).id = normalize accountType.encoded) ∧
      compareNodes {} (fun _ _ _ => pure none) ((ofIds [] accountsIds).node ⟨3, by decide⟩)
          ((ofIds [] accountsIds).node ⟨3, by decide⟩) false =
        compareKind .struct {} (fun _ _ _ => pure none) ((ofIds [] accountsIds).node ⟨3, by decide⟩)
          ((ofIds [] accountsIds).node ⟨3, by decide⟩) false := by
  have haccount : accountType.KeepsName := by decide
  have haccounts : accountsType.KeepsNames := ⟨trivial, haccount⟩
  obtain ⟨hnamed, hstored, hcompared⟩ :=
    dispatched_by_kind detail_accountsLayout detail_accountsLayout
  obtain ⟨hparse, hlisted⟩ := hstored accountsType haccounts
  have hid : ((ofIds [] accountsIds).info ⟨3, by decide⟩).id = normalize accountType.encoded := by
    decide +kernel
  have hroot : ((ofIds [] accountsIds).info ⟨0, by decide⟩).id =
      normalize (encode (String.ofList accountsType.chars)) := by
    decide +kernel
  refine ⟨by decide +kernel, (hnamed accountType).2 haccount, hparse,
    hlisted ⟨0, by decide⟩ hroot accountType List.mem_cons_self, ?_⟩
  exact hcompared accountType accountType haccount haccount ⟨3, by decide⟩ ⟨3, by decide⟩ hid hid
    (by decide +kernel) {} _ false

/-- A struct whose name starts with an underscore. -/
def hiddenType : NamedType where
  kind := .struct
  name := ⟨"_S".toList, by decide, List.all_eq_true.1 (by decide)⟩
  node := 12

/-- A struct whose name ends as pointers to storage do. -/
def pointerType : NamedType where
  kind := .struct
  name := ⟨"a_storage_ptr".toList, by decide, List.all_eq_true.1 (by decide)⟩
  node := 12

/-- A layout of a struct `_S` that has one member of the given type. -/
def hiddenLayout (member : String) : Layout where
  storage := [{ label := .str "hidden", type := .str "t_struct$__S)12_storage" }]
  types :=
    [("t_struct$__S)12_storage", { label := .str "struct _S"
                                   members := some
                                     [.inl { label := .str "member", type := .str member }] })]

/-- A struct is taken for an elementary type if its name starts with an underscore, so its members
are not compared; and a name loses its end if it is that of a pointer. -/
theorem not_dispatched_hiddenType :
    TypeTree.parse (normalize hiddenType.encoded) = .ok (.plain "t_struct$__S)12_storage") ∧
      (Upgrade.report {} (hiddenLayout "t_uint256") (hiddenLayout "t_address")).outcome.1 =
        .ok ⟨[]⟩ ∧
      TypeTree.parse (normalize pointerType.encoded) =
        .ok (.applied "t_struct(a_storage)12_storage" "t_struct" [.plain "a_storage"]
          (some "12_storage") none) := by
  have hhidden : normalize hiddenType.encoded = "t_struct$__S)12_storage" := by decide +kernel
  have hpointer : normalize pointerType.encoded = "t_struct(a_storage)12_storage" := by
    decide +kernel
  rw [hhidden, hpointer]
  exact ⟨by rfl, Upgrade.eq_ok_of_passes (by decide +kernel), by rfl⟩

end Comparator

end StorageUpgrade
