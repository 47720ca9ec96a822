import Mathlib.Logic.Relation
import StorageUpgrade.Proofs.Compare.Outcome

/-!
# Well formed variables and types

A compiler writes identifiers of a fixed form, records members of the right kind, and gives slots
and sizes as numerals.  A layout is `WellFormed` if this is so of its variables and of all types
that these hold.  On such types each single step of a comparison that may fail does not.
-/

namespace StorageUpgrade

/-! ### Parts -/

namespace TypeNode

variable {ρ : Type}

/-- The members that are variables. -/
def fields (n : TypeNode ρ) : List (Variable ρ) := (n.members.getD []).filterMap Sum.getLeft?

/-- The types of what is stored for a value: the elements of an array, the keys and values of a
mapping, and the members of a struct. -/
def parts (n : TypeNode ρ) : List ρ :=
  if n.head = "t_mapping" ∨ n.head = "t_array" then n.args.getD []
  else if n.head = "t_struct" then n.fields.map (·.type)
  else []

theorem parts_of_args {n : TypeNode ρ} {args : List ρ}
    (hhead : n.head = "t_mapping" ∨ n.head = "t_array") (hargs : n.args = some args) :
    n.parts = args := by
  rw [parts, if_pos hhead, hargs, Option.getD_some]

theorem parts_of_struct {n : TypeNode ρ} (hhead : n.head = "t_struct") :
    n.parts = n.fields.map (·.type) := by
  rw [parts, hhead, if_neg (by decide), if_pos rfl]

theorem type_mem_parts {n : TypeNode ρ} {v : Variable ρ} (hhead : n.head = "t_struct")
    (hv : v ∈ n.fields) : v.type ∈ n.parts := by
  rw [parts_of_struct hhead]
  exact List.mem_map_of_mem hv

end TypeNode

/-- A type is a part of another one. -/
def TypeGraph.IsPart (g : TypeGraph) (part whole : g.Ref) : Prop := part ∈ (g.node whole).parts

namespace DetailedLayout

/-- A type is that of a variable, or inside it. -/
def Holds (d : DetailedLayout) (a : d.graph.Ref) : Prop :=
  ∃ v ∈ d.vars, Relation.ReflTransGen d.graph.IsPart a v.type

theorem Holds.of_isPart {d : DetailedLayout} {part whole : d.graph.Ref} (hwhole : d.Holds whole)
    (hpart : d.graph.IsPart part whole) : d.Holds part := by
  obtain ⟨v, hv, hinside⟩ := hwhole
  exact ⟨v, hv, .head hpart hinside⟩

/-- No type is inside itself. -/
def Acyclic (d : DetailedLayout) : Prop :=
  ∀ a, d.Holds a → ¬ Relation.TransGen d.graph.IsPart a a

/-- No type is inside itself if parts are of a smaller rank. -/
theorem acyclic_of_rank {d : DetailedLayout} (rank : d.graph.Ref → Nat)
    (hrank : ∀ whole, ∀ part ∈ (d.graph.node whole).parts, rank part < rank whole) :
    d.Acyclic := by
  intro a _ hinside
  have hlt : ∀ b, Relation.TransGen d.graph.IsPart a b → rank a < rank b := by
    intro b hb
    induction hb with
    | single hpart => exact hrank _ _ hpart
    | tail _ hpart ih => exact Nat.lt_trans ih (hrank _ _ hpart)
  exact Nat.lt_irrefl _ (hlt a hinside)

end DetailedLayout

/-! ### Well formed types -/

/-- A slot or a size is unknown, or a numeral. -/
def HasNumeral (text : Option String) : Prop := ∀ t ∈ text, ∃ n, numeral t = .ok n

instance (text : Option String) : Decidable (HasNumeral text) :=
  match text with
  | none => isTrue nofun
  | some t => match h : numeral t with
    | .ok n => isTrue fun _ ht => ⟨n, Option.mem_some.1 ht ▸ h⟩
    | .error _ => isFalse fun hn => nomatch h.symm.trans (hn t rfl).choose_spec

/-- A value is absent, or a text. -/
inductive IsOptionalText : Json → Prop
  | null : IsOptionalText .null
  | str (s : String) : IsOptionalText (.str s)
  | rawText (points : List Nat) : IsOptionalText (.rawText points)

instance : DecidablePred IsOptionalText
  | .null => isTrue .null
  | .str s => isTrue (.str s)
  | .rawText points => isTrue (.rawText points)
  | .bool _ | .int _ | .real _ | .arr _ | .obj _ => isFalse nofun

/-- The name of a variable and what it declares are texts, and its slot is a numeral, if they are
given. -/
structure Variable.WellFormed {ρ : Type} (v : Variable ρ) : Prop where
  label : IsOptionalText v.label
  retypedFrom : IsOptionalText v.retypedFrom
  renamedFrom : IsOptionalText v.renamedFrom
  slot : HasNumeral v.slot

instance {ρ : Type} (v : Variable ρ) : Decidable v.WellFormed :=
  decidable_of_iff (IsOptionalText v.label ∧ IsOptionalText v.retypedFrom ∧
      IsOptionalText v.renamedFrom ∧ HasNumeral v.slot)
    ⟨fun ⟨label, retypedFrom, renamedFrom, slot⟩ => ⟨label, retypedFrom, renamedFrom, slot⟩,
      fun h => ⟨h.label, h.retypedFrom, h.renamedFrom, h.slot⟩⟩

namespace Comparator

/-- Some digits can be read as a number. -/
def IsNumber (ds : List Char) : Prop := ∃ n, digitsNumber ds = .ok n

instance (ds : List Char) : Decidable (IsNumber ds) :=
  match h : digitsNumber ds with
  | .ok n => isTrue ⟨n, h⟩
  | .error _ => isFalse fun hn => nomatch h.symm.trans hn.choose_spec

/-- The heads of types with arguments. -/
def compositeHeads : List String :=
  ["t_contract", "t_userDefinedValueType", "t_struct", "t_enum", "t_mapping", "t_array"]

/-- The identifier of a type has one of the forms that compilers write, and what is recorded of the
type goes with it. -/
structure WellFormedNode {ρ : Type} (isValue : ρ → Bool) (n : TypeNode ρ) : Prop where
  function : isFunction n.toTypeInfo = true → (visibility? n.toTypeInfo).isSome
  args : isFunction n.toTypeInfo = false → (n.args.isSome ↔ n.head ∈ compositeHeads)
  userDefined : n.head = "t_userDefinedValueType" →
    n.underlying = .null ∨ n.underlying.text?.isSome
  enum : n.head = "t_enum" → ∀ members ∈ n.members, (enumMembers? members).isSome
  struct : n.head = "t_struct" → ∀ members ∈ n.members, (structMembers? members).isSome
  fields : n.head = "t_struct" → ∀ v ∈ n.fields, v.WellFormed
  mapping : n.head = "t_mapping" →
    ∃ args ∈ n.args, args.length = 2 ∧ ∀ key ∈ args.head?, isValue key = true
  array : n.head = "t_array" → ∃ args ∈ n.args, args.length = 1
  size : n.head = "t_array" →
    ∃ size ∈ arraySize? n.toTypeInfo, size = "dyn" ∨ IsNumber size.toList
  bits : ∀ ds ∈ uintBits? n.id, IsNumber ds
  bytes : HasNumeral n.numberOfBytes

instance {ρ : Type} (isValue : ρ → Bool) (n : TypeNode ρ) : Decidable (WellFormedNode isValue n) :=
  decidable_of_iff
    ((isFunction n.toTypeInfo = true → (visibility? n.toTypeInfo).isSome) ∧
      (isFunction n.toTypeInfo = false → (n.args.isSome ↔ n.head ∈ compositeHeads)) ∧
      (n.head = "t_userDefinedValueType" → n.underlying = .null ∨ n.underlying.text?.isSome) ∧
      (n.head = "t_enum" → ∀ members ∈ n.members, (enumMembers? members).isSome) ∧
      (n.head = "t_struct" → ∀ members ∈ n.members, (structMembers? members).isSome) ∧
      (n.head = "t_struct" → ∀ v ∈ n.fields, v.WellFormed) ∧
      (n.head = "t_mapping" →
        ∃ args ∈ n.args, args.length = 2 ∧ ∀ key ∈ args.head?, isValue key = true) ∧
      (n.head = "t_array" → ∃ args ∈ n.args, args.length = 1) ∧
      (n.head = "t_array" →
        ∃ size ∈ arraySize? n.toTypeInfo, size = "dyn" ∨ IsNumber size.toList) ∧
      (∀ ds ∈ uintBits? n.id, IsNumber ds) ∧ HasNumeral n.numberOfBytes)
    ⟨fun ⟨h1, h2, h3, h4, h5, h6, h7, h8, h9, h10, h11⟩ =>
        ⟨h1, h2, h3, h4, h5, h6, h7, h8, h9, h10, h11⟩,
      fun h => ⟨h.function, h.args, h.userDefined, h.enum, h.struct, h.fields, h.mapping, h.array,
        h.size, h.bits, h.bytes⟩⟩

theorem filterMap_of_structMembers? {ρ : Type} {members : List (Variable ρ ⊕ String)}
    {fields : List (Variable ρ)} (h : structMembers? members = some fields) :
    members.filterMap Sum.getLeft? = fields := by
  induction members generalizing fields with
  | nil =>
      cases h
      rfl
  | cons m members ih =>
      rw [structMembers?, List.mapM_cons] at h
      obtain ⟨v, hv, h⟩ := Option.bind_eq_some_iff.1 h
      obtain ⟨rest, hrest, h⟩ := Option.bind_eq_some_iff.1 h
      cases h
      rw [List.filterMap_cons_some hv, ih hrest]

theorem fields_of_bind_structMembers? {ρ : Type} {n : TypeNode ρ} {fields : List (Variable ρ)}
    (hfields : n.members.bind structMembers? = some fields) : n.fields = fields := by
  obtain ⟨members, hmembers, hfields⟩ := Option.bind_eq_some_iff.1 hfields
  rw [TypeNode.fields, hmembers, Option.getD_some, filterMap_of_structMembers? hfields]

/-- The members of a struct are its fields. -/
theorem structMembers?_eq_fields {ρ : Type} {n : TypeNode ρ} {members : List (Variable ρ ⊕ String)}
    (hmembers : n.members = some members) (h : (structMembers? members).isSome) :
    structMembers? members = some n.fields := by
  obtain ⟨fields, hfields⟩ := Option.isSome_iff_exists.1 h
  have hbind : n.members.bind structMembers? = some fields := by
    rw [hmembers]
    exact hfields
  rw [hfields, fields_of_bind_structMembers? hbind]

namespace WellFormedNode

variable {ρ : Type} {isValue : ρ → Bool} {n : TypeNode ρ} (hn : WellFormedNode isValue n)

include hn

theorem exists_keyAndValue (hhead : n.head = "t_mapping") :
    ∃ key value, n.args = some [key, value] ∧ isValue key = true := by
  obtain ⟨args, hargs, hlength, hkey⟩ := hn.mapping hhead
  obtain ⟨key, value, rfl⟩ := List.length_eq_two.1 hlength
  exact ⟨key, value, hargs, hkey key rfl⟩

theorem exists_element (hhead : n.head = "t_array") : ∃ element, n.args = some [element] := by
  obtain ⟨args, hargs, hlength⟩ := hn.array hhead
  obtain ⟨element, rfl⟩ := List.length_eq_one_iff.1 hlength
  exact ⟨element, hargs⟩

end WellFormedNode

end Comparator

/-- The variables of a layout and all types that they hold are well formed. -/
structure DetailedLayout.WellFormed (d : DetailedLayout) : Prop where
  vars : ∀ v ∈ d.vars, v.WellFormed
  types : ∀ a, d.Holds a → Comparator.WellFormedNode d.graph.isValue (d.graph.node a)

/-! ### Positions -/

namespace Variable

/-- The slot and the size of a variable are numerals, as far as they are known. -/
structure Readable (v : TypedVariable) : Prop where
  slot : HasNumeral v.slot
  bytes : HasNumeral v.type.numberOfBytes

namespace Readable

variable {v w : TypedVariable}

theorem exists_start? (hv : v.Readable) : ∃ first, v.start? = .ok first := by
  unfold start?
  cases hslot : v.slot with
  | none => exact ⟨none, rfl⟩
  | some slot =>
      cases v.offset with
      | none => exact ⟨none, rfl⟩
      | some offset =>
          obtain ⟨n, hn⟩ := hv.slot slot hslot
          exact ⟨some (n * slotSize + offset), by simp [hn, bind, Except.bind]⟩

theorem exists_end? (hv : v.Readable) : ∃ last, v.end? = .ok last := by
  obtain ⟨first, hfirst⟩ := hv.exists_start?
  unfold end?
  rw [hfirst]
  cases first with
  | none => exact ⟨none, rfl⟩
  | some first =>
      cases hsize : v.type.numberOfBytes with
      | none => exact ⟨none, rfl⟩
      | some size =>
          obtain ⟨n, hn⟩ := hv.bytes size hsize
          exact ⟨some (first + n), by simp [hn, bind, Except.bind]⟩

theorem exists_span (hv : v.Readable) : ∃ span, v.span = .ok span := by
  obtain ⟨first, hfirst⟩ := hv.exists_start?
  obtain ⟨last, hlast⟩ := hv.exists_end?
  exact ⟨(first, last), by rw [span, hfirst, hlast]; rfl⟩

theorem exists_endsWith (hv : v.Readable) (hw : w.Readable) : ∃ ends, v.endsWith w = .ok ends := by
  obtain ⟨last, hlast⟩ := hv.exists_end?
  obtain ⟨last', hlast'⟩ := hw.exists_end?
  unfold endsWith
  rw [hlast]
  cases last with
  | none => exact ⟨false, rfl⟩
  | some last => exact ⟨last' == some last, by rw [hlast']; rfl⟩

theorem exists_endMatchesGap (hv : v.Readable) (hw : w.Readable) :
    ∃ ends, v.endMatchesGap w = .ok ends := by
  unfold endMatchesGap
  split
  · exact hw.exists_endsWith hv
  · exact ⟨false, rfl⟩

end Readable

end Variable

namespace Comparator

/-! ### Checks that do not fail -/

section

variable {ρ σ : Type} {isValue : ρ → Bool} {isValue' : σ → Bool} {n : TypeNode ρ} {m : TypeNode σ}

theorem exists_mayWiden (hn : WellFormedNode isValue n) (hm : WellFormedNode isValue' m)
    (allowAppend : Bool) : ∃ wide, mayWiden n.toTypeInfo m.toTypeInfo allowAppend = .ok wide := by
  have hbits := hn.bits
  have hbits' := hm.bits
  unfold mayWiden isUintGrowth
  split
  · cases hwas : uintBits? n.id with
    | none => exact ⟨false, rfl⟩
    | some was =>
        cases his : uintBits? m.id with
        | none => exact ⟨false, rfl⟩
        | some is =>
            obtain ⟨before, hbefore⟩ := hbits was hwas
            obtain ⟨after, hafter⟩ := hbits' is his
            exact ⟨decide (before ≤ after), by simp [hbefore, hafter, bind, Except.bind]⟩
  · exact ⟨false, rfl⟩

theorem exists_visibilityChange {old updated : TypeInfo} (hold : (visibility? old).isSome)
    (hupdated : (visibility? updated).isSome) :
    ∃ change, visibilityChange old updated = .ok change := by
  obtain ⟨was, hwas⟩ := Option.isSome_iff_exists.1 hold
  obtain ⟨is, his⟩ := Option.isSome_iff_exists.1 hupdated
  exact ⟨_, by rw [visibilityChange, hwas, his]⟩

theorem exists_underlyingId? {underlying : Json}
    (h : underlying = .null ∨ underlying.text?.isSome) :
    ∃ id, underlyingId? underlying = .ok id := by
  rcases h with rfl | h
  · exact ⟨none, rfl⟩
  · cases underlying with
    | str id => exact ⟨some (TypeId.normalize id), rfl⟩
    | _ => cases h

theorem exists_underlyingChanged {old updated : TypeInfo}
    (hold : old.underlying = .null ∨ old.underlying.text?.isSome)
    (hupdated : updated.underlying = .null ∨ updated.underlying.text?.isSome) :
    ∃ changed, underlyingChanged old updated = .ok changed := by
  obtain ⟨was, hwas⟩ := exists_underlyingId? hold
  obtain ⟨is, his⟩ := exists_underlyingId? hupdated
  unfold underlyingChanged
  dsimp only
  split
  · exact ⟨_, rfl⟩
  · rw [hwas, his]
    exact ⟨_, rfl⟩

theorem exists_sizeChange {old updated : TypeInfo} {was is : String}
    (hwas : arraySize? old = some was) (his : arraySize? updated = some is)
    (hnumber : was = "dyn" ∨ IsNumber was.toList) (hnumber' : is = "dyn" ∨ IsNumber is.toList)
    (allowAppend : Bool) : ∃ reason, sizeChange old updated allowAppend = .ok reason := by
  unfold sizeChange
  rw [hwas, his]
  dsimp only
  split
  · exact ⟨_, rfl⟩
  · rename_i hstatic
    obtain ⟨hstatic, hstatic'⟩ := not_or.1 hstatic
    obtain ⟨before, hbefore⟩ := hnumber.resolve_left hstatic
    obtain ⟨after, hafter⟩ := hnumber'.resolve_left hstatic'
    exact ⟨_, by rw [hbefore, hafter]; rfl⟩

end

theorem exists_isRetyped (old updated : TypedVariable) (h : IsOptionalText updated.retypedFrom) :
    ∃ retyped, isRetyped old updated = .ok retyped := by
  unfold isRetyped
  generalize updated.retypedFrom = retypedFrom at h
  cases h <;> exact ⟨_, rfl⟩

theorem exists_differenceOf (options : CompareOptions) {old updated : TypedVariable}
    (hold : old.Readable) (hupdated : updated.Readable) (typeChange : Option TypeChange) :
    ∃ difference, differenceOf options old updated typeChange = .ok difference := by
  unfold differenceOf
  dsimp only
  split
  · exact ⟨_, rfl⟩
  · rename_i change _
    obtain ⟨ends, hends⟩ := hupdated.exists_endsWith hold
    obtain ⟨gap, hgap⟩ := hold.exists_endMatchesGap hupdated
    have htypes : ∃ d, differenceOfTypes (isRenamed options old updated) old updated change =
        .ok d := by
      unfold differenceOfTypes
      split
      · exact ⟨_, by rw [hgap]; rfl⟩
      split
      · exact ⟨_, by rw [hends]; rfl⟩
      · exact ⟨_, rfl⟩
    obtain ⟨d, hd⟩ := htypes
    exact ⟨some d, by rw [hd]; rfl⟩
  · split
    · exact ⟨_, rfl⟩
    · exact ⟨_, rfl⟩

end Comparator

end StorageUpgrade
