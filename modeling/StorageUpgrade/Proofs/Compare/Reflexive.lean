import StorageUpgrade.Proofs.Compare.Enums
import StorageUpgrade.Proofs.Compare.Positional
import StorageUpgrade.Proofs.Compare.Safe
import StorageUpgrade.Proofs.Layout.SameId

/-!
# Layouts that are kept

A layout is compatible with itself, and with itself followed by more variables (`passes_append`),
whatever is asked for and whatever gaps it has.

## Strategy

* On well formed types a comparison only fails inside a type that contains itself, so all pairs of
  variables are compared without an error (`exists_fieldChange?`).
* A type does not change to one of the same meaning, by induction on the depth to which it is looked
  at (`eq_none_of_plainChange`).  The members of a struct are compared pair by pair, but only the
  pairs on the diagonal count: if they do not differ, the alignment has no operation.
* So no variable differs from its copy, and the alignment appends the others
  (`Alignment.forall_isAppend_ofChanges_iff`).
-/

namespace StorageUpgrade

/-- What declares another type has a known place, or a type of one byte. -/
def Variable.PlacedIfRetyped (v : TypedVariable) : Prop :=
  v.retypedFrom.isSet = true → v.isPlaced = true ∨ isByteLabel v.type.label = true

instance (v : TypedVariable) : Decidable v.PlacedIfRetyped :=
  inferInstanceAs (Decidable (_ → _))

/-- All members are recorded, and what declares another type is where it can be told that it did not
move. -/
structure DetailedLayout.Complete (d : DetailedLayout) : Prop where
  vars : ∀ v ∈ d.vars, (v.map d.graph.info).PlacedIfRetyped
  members : ∀ a, d.Holds a → (d.graph.node a).head = "t_struct" ∨ (d.graph.node a).head = "t_enum" →
    (d.graph.node a).members.isSome
  fields : ∀ a, d.Holds a → ∀ v ∈ (d.graph.node a).fields, (v.map d.graph.info).PlacedIfRetyped

theorem Json.alike_self_of_isOptionalText {text : Json} (h : IsOptionalText text) :
    text.alike text = true := by
  cases h <;> simp [Json.alike, Json.same]

namespace Comparator

open StorageUpgrade.Alignment

variable {options : CompareOptions}

/-! ### No change -/

section

variable {t : TypeInfo}

theorem eq_none_of_visibilityChange_self {change : Option TypeChange}
    (h : visibilityChange t t = .ok change) : change = none := by
  unfold visibilityChange at h
  cases hvisibility : visibility? t with
  | none =>
      rw [hvisibility] at h
      cases h
  | some was =>
      rw [hvisibility] at h
      simpa using h.symm

theorem eq_false_of_underlyingChanged_self {changed : Bool}
    (h : underlyingChanged t t = .ok changed) : changed = false := by
  unfold underlyingChanged at h
  by_cases hnull : (t.underlying.isNull || t.underlying.isNull) = true
  · rw [if_pos hnull] at h
    rw [← Except.ok.inj h]
    cases t.numberOfBytes <;> simp
  · rw [if_neg hnull] at h
    obtain ⟨id, hid, h⟩ := exists_of_bind_ok h
    obtain ⟨id', hid', h⟩ := exists_of_bind_ok h
    obtain rfl := Except.ok.inj (hid.symm.trans hid')
    rw [← Except.ok.inj h]
    cases t.numberOfBytes <;> simp

theorem eq_none_of_sizeChange_self {allowAppend : Bool} {reason : Option Mismatch}
    (h : sizeChange t t allowAppend = .ok reason) : reason = none := by
  unfold sizeChange at h
  cases hsize : arraySize? t with
  | none =>
      rw [hsize] at h
      cases h
  | some size =>
      rw [hsize] at h
      dsimp only at h
      split at h
      · simpa using h.symm
      · obtain ⟨after, hafter, h⟩ := exists_of_bind_ok h
        obtain ⟨before, hbefore, h⟩ := exists_of_bind_ok h
        obtain rfl := Except.ok.inj (hafter.symm.trans hbefore)
        simpa using h.symm

end

section

variable {v : TypedVariable}

theorem isRenamed_self (hlabel : IsOptionalText v.label) (hname : IsOptionalText v.renamedFrom) :
    isRenamed options v v = false := by
  rw [isRenamed, Json.alike_self_of_isOptionalText hlabel, Json.alike_self_of_isOptionalText hname]
  simp only [Bool.not_true, Bool.and_false, Bool.or_self]

theorem transition_self {α : Type} [DecidableEq α] (x : Option α) : transition x x = none := by
  cases x <;> simp [transition]

/-- A variable has moved only as far as its place is unknown. -/
theorem uncertain_of_layoutChange?_self (hplaced : v.PlacedIfRetyped) {moved : LayoutChange}
    (hmoved : layoutChange? v v = some moved) :
    moved.uncertain = true ∧ v.retypedFrom.isSet = false := by
  unfold layoutChange? at hmoved
  rw [Bool.and_self, Bool.or_self] at hmoved
  split at hmoved
  · cases hmoved
  rename_i hbyte
  split at hmoved
  · rename_i hnot
    cases hmoved
    refine ⟨rfl, Bool.eq_false_iff.2 fun hset => ?_⟩
    rcases hplaced hset with h | h
    · simp [h] at hnot
    · exact hbyte h
  · simp [transition_self] at hmoved

theorem differenceOf_self (hlabel : IsOptionalText v.label)
    (hname : IsOptionalText v.renamedFrom) (hplaced : v.PlacedIfRetyped) :
    differenceOf options v v none = .ok none :=
  differenceOf_eq_none_iff.2 ⟨rfl, isRenamed_self hlabel hname,
    fun _ hmoved => uncertain_of_layoutChange?_self hplaced hmoved⟩

/-- A variable does not differ from itself if its type does not change. -/
theorem FieldVerdict.eq_none_of_self {T : Option TypeChange → Prop} {change : Option FieldChange}
    (hverdict : FieldVerdict options T v v change) (hT : ∀ c, T c → c = none)
    (hlabel : IsOptionalText v.label) (hname : IsOptionalText v.renamedFrom)
    (hplaced : v.PlacedIfRetyped) : change = none := by
  obtain ⟨retyped, typeChange, difference, -, hcases, hd, rfl⟩ := hverdict
  have hnone : typeChange = none := by
    rcases hcases with ⟨-, h⟩ | ⟨-, h⟩
    · exact h
    · exact hT _ h
  rw [hnone] at hd
  rw [Except.ok.inj (hd.symm.trans (differenceOf_self hlabel hname hplaced))]
  rfl

end

/-! ### Types of the same meaning -/

section

variable {g h : TypeGraph} {r : g.Ref → h.Ref → Prop}

section

variable {old : TypeNode g.Ref} {updated : TypeNode h.Ref}

theorem forall₂_structMembers (halike : old.Alike r updated) {was : List (Variable g.Ref)}
    {is : List (Variable h.Ref)} (hwas : old.members.bind structMembers? = some was)
    (his : updated.members.bind structMembers? = some is) :
    List.Forall₂ (Variable.Alike r) was is := by
  obtain ⟨ms, hms, hwas⟩ := Option.bind_eq_some_iff.1 hwas
  obtain ⟨ns, hns, his⟩ := Option.bind_eq_some_iff.1 his
  have hmembers := halike.members
  rw [hms, hns] at hmembers
  cases hmembers with
  | some hmembers =>
      have hfields := structMembers?_rel hmembers
      rw [hwas, his] at hfields
      cases hfields with
      | some hfields => exact hfields

theorem enumMembers_eq (halike : old.Alike r updated) {was is : List String}
    (hwas : old.members.bind enumMembers? = some was)
    (his : updated.members.bind enumMembers? = some is) : was = is := by
  obtain ⟨ms, hms, hwas⟩ := Option.bind_eq_some_iff.1 hwas
  obtain ⟨ns, hns, his⟩ := Option.bind_eq_some_iff.1 his
  have hmembers := halike.members
  rw [hms, hns] at hmembers
  cases hmembers with
  | some hmembers => exact Option.some.inj (hwas.symm.trans ((enumMembers?_eq hmembers).trans his))

theorem forall₂_args (halike : old.Alike r updated) {was : List g.Ref} {is : List h.Ref}
    (hwas : old.args = some was) (his : updated.args = some is) : List.Forall₂ r was is := by
  have hargs := halike.args
  rw [hwas, his] at hargs
  cases hargs with
  | some hargs => exact hargs

/-- A type does not change to one of the same meaning if none of its parts does. -/
theorem NodeVerdict.eq_none_of_alike {T : TypeRelation g h} {A : MemberRelation g h}
    {allowAppend : Bool} {change : Option TypeChange}
    (hverdict : NodeVerdict options T A old updated allowAppend change)
    (halike : old.Alike r updated) (hwell : WellFormedNode g.isValue old)
    (hmembers : old.head = "t_struct" ∨ old.head = "t_enum" → old.members.isSome)
    (hT : ∀ a ∈ old.parts, ∀ b, r a b → ∀ allowAppend c, T a b allowAppend c → c = none)
    (hA : ∀ was is allowAppend ops, old.members.bind structMembers? = some was →
      old.head = "t_struct" → List.Forall₂ (Variable.Alike r) was is →
        A was is allowAppend ops → ops = []) :
    change = none := by
  have hinfo : old.toTypeInfo = updated.toTypeInfo := halike.info
  cases hverdict with
  | bytes | widened | plain | contract => rfl
  | functions hfunctions hchange =>
      rw [← hinfo] at hchange
      exact eq_none_of_visibilityChange_self hchange
  | obvious hcompared hhead => exact absurd (congrArg TypeInfo.head hinfo) hhead
  | userDefined hsame hhead hchanged =>
      rw [← hinfo] at hchanged
      obtain rfl := eq_false_of_underlyingChanged_self hchanged
      rfl
  | missing hsame hhead hnone =>
      have hold := hmembers hhead
      have hnew : updated.members.isNone = false := by
        rw [← isNone_eq_of_rel halike.members, Option.isNone_eq_false_iff]
        exact hold
      rcases hnone with hnone | hnone
      · rw [hnone] at hold
        cases hold
      · rw [hnone] at hnew
        cases hnew
  | struct hsame hhead hwas his hops =>
      obtain rfl := hA _ _ _ _ hwas hhead (forall₂_structMembers halike hwas his) hops
      rfl
  | enum hsame hhead hwas his =>
      obtain rfl := enumMembers_eq halike hwas his
      exact enumChange_eq_none_iff.2 ⟨List.prefix_rfl, rfl⟩
  | mappingKey hsame hhead hvalues hknown hkey =>
      have hparts := TypeNode.parts_of_args (.inl hhead) hsame.oldArgs
      cases forall₂_args halike hsame.oldArgs hsame.newArgs with
      | cons hkeys _ => cases hT _ (by simp [hparts]) _ hkeys _ _ hkey
  | mapping hsame hhead hvalues hkey hvalue =>
      have hparts := TypeNode.parts_of_args (.inl hhead) hsame.oldArgs
      cases forall₂_args halike hsame.oldArgs hsame.newArgs with
      | cons _ hrest =>
          cases hrest with
          | cons hvalues _ =>
              obtain rfl := hT _ (by simp [hparts]) _ hvalues _ _ hvalue
              rfl
  | arraySize hsame hhead hsize =>
      rw [← hinfo] at hsize
      cases eq_none_of_sizeChange_self hsize
  | array hsame hhead hsize helement =>
      have hparts := TypeNode.parts_of_args (.inr hhead) hsame.oldArgs
      cases forall₂_args halike hsame.oldArgs hsame.newArgs with
      | cons helements _ =>
          obtain rfl := hT _ (by simp [hparts]) _ helements _ _ helement
          rfl
  | unknown hsame hhead =>
      -- a well formed type with arguments is a function, or of a head that is compared
      have hfunction : isFunction old.toTypeInfo = false := by
        have hboth := hsame.functions
        rw [← hinfo, Bool.and_self] at hboth
        exact hboth
      exact absurd ((hwell.args hfunction).1 (by rw [hsame.oldArgs]; rfl)) hhead

end

/-- A variable does not differ from one of the same meaning if its type does not change. -/
theorem FieldVerdict.eq_none_of_alike (hr : g.Corresponds h r) {T : Option TypeChange → Prop}
    {x : Variable g.Ref} {y : Variable h.Ref} {change : Option FieldChange}
    (hverdict : FieldVerdict options T (x.map g.info) (y.map h.info) change) (hxy : x.Alike r y)
    (hT : ∀ c, T c → c = none) (hx : x.WellFormed) (hplaced : (x.map g.info).PlacedIfRetyped) :
    change = none := by
  rw [← hr.map_info_eq hxy] at hverdict
  exact hverdict.eq_none_of_self hT hx.label hx.renamedFrom hplaced

theorem forall₂_mem {α β : Type} {R : α → β → Prop} {xs : List α} {ys : List β}
    (h : List.Forall₂ R xs ys) : List.Forall₂ (fun x y => x ∈ xs ∧ y ∈ ys ∧ R x y) xs ys := by
  induction h with
  | nil => exact .nil
  | cons hxy _ ih =>
      refine .cons ⟨List.mem_cons_self, List.mem_cons_self, hxy⟩ (ih.imp ?_)
      rintro x y ⟨hx, hy, hR⟩
      exact ⟨List.mem_cons_of_mem _ hx, List.mem_cons_of_mem _ hy, hR⟩

/-- Nothing is reported of members that do not differ, whatever the other pairs of them do. -/
theorem MembersCompared.eq_nil {T : TypeRelation g h} {was : List (Variable g.Ref)}
    {is : List (Variable h.Ref)} {allowAppend : Bool} {reported : List FieldOp}
    (hcompared : MembersCompared options T was is allowAppend reported)
    (hsame : List.Forall₂ (fun x y => ∀ c, FieldCompared options T x y c → c = none) was is) :
    reported = [] := by
  obtain ⟨change, hchange, hreported⟩ := hcompared
  have hunchanged : Unchanged change was is := (forall₂_mem hsame).imp fun x y ⟨hx, hy, hxy⟩ =>
    hxy _ (hchange x hx y hy)
  have hnone : operations change was is = [] := by
    rw [operations, ofChanges_eq_ops_cheapest, ops_cheapest_of_unchanged
      (fun _ _ => price_costOf_nonneg _) true (List.forall₂_reverse_iff.2 hunchanged)]
    rfl
  rw [hnone] at hreported
  cases allowAppend <;> exact (Except.ok.inj hreported).symm

end

section

variable {d : DetailedLayout} {h : TypeGraph} {r : d.graph.Ref → h.Ref → Prop}
  (hg : d.graph.Distinct) (hh : h.Distinct) (hr : d.graph.Corresponds h r) (hwell : d.WellFormed)
  (hcomplete : d.Complete)

include hg hh hr hwell hcomplete

/-- A type does not change to one of the same meaning. -/
theorem eq_none_of_plainChange (depth : Nat) :
    ∀ (a : d.graph.Ref) (b : h.Ref) (allowAppend : Bool) (change : Option TypeChange), r a b →
      d.Holds a → Returns anyMemory (plainChange options d.graph h depth a b allowAppend) change →
        change = none := by
  induction depth with
  | zero =>
      intro a b allowAppend change _ _ hplain
      exact absurd hplain not_returns_plainChange_zero
  | succ depth ih =>
      intro a b allowAppend change hab ha hplain
      have hclosed := closedTypes_of_wellFormed hwell
      have hnode := hwell.types a ha
      refine (nodeVerdict_of_plainChange hg hh hplain).eq_none_of_alike (hr hab) hnode
        (hcomplete.members a ha) ?_ ?_
      · intro part hpart b' hb' allow c hc
        exact ih part b' allow c hb' (hclosed.closed a ha part hpart) hc
      · -- the types of members are parts, so no member differs from its copy
        intro was is allow ops hwas hhead halike hops
        obtain rfl := fields_of_bind_structMembers? hwas
        have hinside (x) (hx : x ∈ (d.graph.node a).fields) : d.Holds x.type :=
          hclosed.closed a ha x.type (TypeNode.type_mem_parts hhead hx)
        refine hops.eq_nil ((forall₂_mem halike).imp fun x y ⟨hx, _, hxy⟩ c hc => ?_)
        refine hc.verdict.eq_none_of_alike hr hxy (fun change hchange => ?_)
          (hnode.fields hhead x hx) (hcomplete.fields a ha x hx)
        exact ih _ _ _ _ hxy.type (hinside x hx) hchange

/-- A variable does not differ from its copy. -/
theorem fieldChange?_eq_none {x : Variable d.graph.Ref} {y : Variable h.Ref}
    {change : Option FieldChange} (hx : x ∈ d.vars) (hxy : x.Alike r y)
    (hchange : fieldChange? options d.graph h x y = .ok change) : change = none := by
  refine (fieldVerdict_of_fieldChange? hg hh hchange).eq_none_of_alike hr hxy ?_ (hwell.vars x hx)
    (hcomplete.vars x hx)
  rintro c ⟨depth, hdepth⟩
  exact eq_none_of_plainChange hg hh hr hwell hcomplete depth _ _ _ _ hxy.type ⟨x, hx, .refl⟩ hdepth

end

/-! ### Layouts -/

variable {old updated : DetailedLayout}

variable (options) in
/-- If no old type is inside itself, then all pairs of variables are compared without an error. -/
theorem exists_fieldChange? (hwell : old.WellFormed) (hwell' : updated.WellFormed)
    (hacyclic : old.Acyclic) {x : Variable old.graph.Ref} {y : Variable updated.graph.Ref}
    (hx : x ∈ old.vars) (hy : y ∈ updated.vars) :
    ∃ change, fieldChange? options old.graph updated.graph x y = .ok change := by
  have hsafe : Safe (fun _ => False) (compareTypes options old.graph updated.graph x.type y.type
      false) fun _ => True :=
    safe_compareTypes (closedTypes_of_wellFormed hwell) (closedTypes_of_wellFormed hwell')
      (fun a _ _ ha hinside _ _ => hacyclic a ha hinside) ⟨x, hx, .refl⟩ ⟨y, hy, .refl⟩ false
  have hfield : Safe (fun _ => False)
      (fieldChange options (compareTypes options old.graph updated.graph) x y)
      fun change => ∀ c, change = some c → ReadableOp (.change c) :=
    Safe.fieldChange (wellFormedVariable_of_mem hwell hx) (wellFormedVariable_of_mem hwell' hy)
      hsafe
  obtain ⟨change, hchange, -⟩ := hfield.exists_answer
  exact ⟨change, hchange⟩

/-- Nothing is reported if the variables are followed by others. -/
theorem passes_of_alike (hg : old.graph.Distinct) (hh : updated.graph.Distinct)
    {r : old.graph.Ref → updated.graph.Ref → Prop} (hr : old.graph.Corresponds updated.graph r)
    {kept extra : List (Variable updated.graph.Ref)} (hvars : updated.vars = kept ++ extra)
    (hkept : List.Forall₂ (Variable.Alike r) old.vars kept) (hwell : old.WellFormed)
    (hwell' : updated.WellFormed) (hacyclic : old.Acyclic) (hcomplete : old.Complete) :
    Passes options old updated := by
  have hchange (x) (hx : x ∈ old.vars) (y) (hy : y ∈ updated.vars) :
      fieldChange? options old.graph updated.graph x y =
        .ok (changeOrNone options old.graph updated.graph x y) := by
    obtain ⟨change, hchange⟩ := exists_fieldChange? options hwell hwell' hacyclic hx hy
    rw [changeOrNone, hchange]
  have hsame : Unchanged (changeOrNone options old.graph updated.graph) old.vars kept := by
    refine (forall₂_mem hkept).imp ?_
    rintro x y ⟨hx, hy, hxy⟩
    exact fieldChange?_eq_none hg hh hr hwell hcomplete hx hxy
      (hchange x hx y (hvars ▸ List.mem_append_left extra hy))
  -- a gap may be given up for free as well, but the table prefers to append what is left over
  refine (answer_align_iff hg hh hchange).2 (answer_nil_of_isAppend ?_)
  exact (forall_isAppend_ofChanges_iff (fun _ _ => price_costOf_nonneg _) _ _).2
    ⟨kept, extra, hvars, hsame⟩

/-- A layout may be followed by more variables, and it may be left as it is. -/
theorem passes_append {l l' : Layout} {items extra : List Item}
    (hold : l.detailItems items = .ok old)
    (hupdated : l'.detailItems (items ++ extra) = .ok updated)
    (hagree : ∀ a : old.graph.Ref, Json.find? (old.graph.info a).id l.types =
      Json.find? (old.graph.info a).id l'.types)
    (hwell : old.WellFormed) (hwell' : updated.WellFormed) (hacyclic : old.Acyclic)
    (hcomplete : old.Complete) (options : CompareOptions) : Passes options old updated := by
  obtain ⟨kept, new, hvars, hkept⟩ := Layout.exists_kept_of_detailItems hold hupdated
  exact passes_of_alike (Layout.distinct_of_detailItems hold)
    (Layout.distinct_of_detailItems hupdated) (Layout.corresponds_of_agree hold hagree hupdated)
    hvars hkept hwell hwell' hacyclic hcomplete

/-- A vault with a struct that changed the type of a member before, a mapping and a gap. -/
def vaultLayout : Layout where
  storage :=
    [{ label := .str "owner", type := .str "t_address", slot := some "0", offset := some 0 },
     { label := .str "limits", type := .str "t_struct(Limits)9_storage", slot := some "1",
       offset := some 0 },
     { label := .str "balances", type := .str "t_mapping(t_address,t_uint256)", slot := some "3",
       offset := some 0 },
     { label := .str "__gap", type := .str "t_array(t_uint256)46_storage", slot := some "4",
       offset := some 0 }]
  types :=
    [("t_address", { label := .str "address", numberOfBytes := some "20" }),
     ("t_uint256", { label := .str "uint256", numberOfBytes := some "32" }),
     ("t_enum(Mode)4",
      { label := .str "enum Mode"
        members := some [.inr "Closed", .inr "Open"]
        numberOfBytes := some "1" }),
     ("t_struct(Limits)9_storage",
      { label := .str "struct Limits"
        members := some
          [.inl { label := .str "daily", type := .str "t_uint256", slot := some "0",
                  offset := some 0, retypedFrom := .str "int256" },
           .inl { label := .str "mode", type := .str "t_enum(Mode)4", slot := some "1",
                  offset := some 0 }]
        numberOfBytes := some "64" }),
     ("t_array(t_uint256)46_storage",
      { label := .str "uint256[46]", numberOfBytes := some "1472" })]

/-- A variable behind those of the vault. -/
def vaultExtra : List Item :=
  [{ label := .str "keepers", type := .str "t_mapping(t_uint256,t_address)", slot := some "50",
     offset := some 0 }]

/-- The types of the vault. -/
def vaultIds : List String :=
  ["t_address", "t_struct(Limits)9_storage", "Limits", "t_uint256", "t_enum(Mode)4", "Mode",
    "t_mapping(t_address,t_uint256)", "t_array(t_uint256)46_storage"]

/-- The details of some variables of the vault whose types are listed. -/
def vaultDetail (ids : List String) (items : List Item) : DetailedLayout :=
  ⟨.ofIds vaultLayout.types ids, items.filterMap (TypeGraph.resolve? ids)⟩

theorem passes_append_vaultLayout :
    ∃ old updated, vaultLayout.detail = .ok old ∧
      vaultLayout.detailItems (vaultLayout.storage ++ vaultExtra) = .ok updated ∧
        old.WellFormed ∧ updated.WellFormed ∧ old.Acyclic ∧ old.Complete ∧
          Passes {} old updated := by
  let old := vaultDetail vaultIds vaultLayout.storage
  let updated := vaultDetail (vaultIds ++ ["t_mapping(t_uint256,t_address)"])
    (vaultLayout.storage ++ vaultExtra)
  have hold : vaultLayout.detail = .ok old :=
    Layout.detailItems_of_reachable (by decide +kernel)
  have hupdated : vaultLayout.detailItems (vaultLayout.storage ++ vaultExtra) = .ok updated :=
    Layout.detailItems_of_reachable (by decide +kernel)
  have hnodes : ∀ a, WellFormedNode old.graph.isValue (old.graph.node a) := by decide +kernel
  have hnodes' : ∀ a, WellFormedNode updated.graph.isValue (updated.graph.node a) := by
    decide +kernel
  have hwell : old.WellFormed := ⟨by decide +kernel, fun a _ => hnodes a⟩
  have hwell' : updated.WellFormed := ⟨by decide +kernel, fun a _ => hnodes' a⟩
  have hacyclic : old.Acyclic :=
    DetailedLayout.acyclic_of_rank (fun a => [0, 1, 0, 0, 0, 0, 1, 1].getD a 0) (by decide +kernel)
  have hmembers : ∀ a, (old.graph.node a).head = "t_struct" ∨ (old.graph.node a).head = "t_enum" →
      (old.graph.node a).members.isSome := by
    decide +kernel
  have hfields : ∀ a, ∀ v ∈ (old.graph.node a).fields,
      (v.map old.graph.info).PlacedIfRetyped := by
    decide +kernel
  have hcomplete : old.Complete :=
    ⟨by decide +kernel, fun a _ => hmembers a, fun a _ => hfields a⟩
  exact ⟨old, updated, hold, hupdated, hwell, hwell', hacyclic, hcomplete,
    passes_append hold hupdated (fun _ => rfl) hwell hwell' hacyclic hcomplete {}⟩

end Comparator

end StorageUpgrade
