import Mathlib.Data.List.TakeDrop
import StorageUpgrade.Proofs.Compare.Outcome

/-!
# The cases of a comparison

`NodeVerdict` lists what the comparison of two types can find, each case with the conditions under
which it is reached, and `FieldVerdict` does so for two variables.  Both speak of the parts of the
types through relations: `T` relates two types to the changes of one to the other, and `A` relates
two lists of members to the operations that turn one into the other.
-/

namespace StorageUpgrade.Comparator

variable {g h : TypeGraph} {P : MemoryProp} {options : CompareOptions}

/-- A relation between two types and the change of one to the other. -/
abbrev TypeRelation (g h : TypeGraph) := g.Ref → h.Ref → Bool → Option TypeChange → Prop

/-- A relation between two lists of variables and the operations that turn one into the other. -/
abbrev MemberRelation (g h : TypeGraph) :=
  List (Variable g.Ref) → List (Variable h.Ref) → Bool → List FieldOp → Prop

/-- Two types are compared by their heads: they are not functions, bytes, or numbers that may
widen. -/
structure ComparedByHead (old updated : TypeInfo) (allowAppend : Bool) : Prop where
  functions : (isFunction old && isFunction updated) = false
  bytes : (isByteLabel old.label && isByteLabel updated.label) = false
  widen : mayWiden old updated allowAppend = .ok false

/-- Two types of the same head with arguments. -/
structure SameHead (old : TypeNode g.Ref) (updated : TypeNode h.Ref) (allowAppend : Bool)
    (was : List g.Ref) (is : List h.Ref) : Prop extends
    ComparedByHead old.toTypeInfo updated.toTypeInfo allowAppend where
  head : old.head = updated.head
  oldArgs : old.args = some was
  newArgs : updated.args = some is

/-- What the comparison of two types can find. -/
inductive NodeVerdict (options : CompareOptions) (T : TypeRelation g h) (A : MemberRelation g h)
    (old : TypeNode g.Ref) (updated : TypeNode h.Ref) (allowAppend : Bool) :
    Option TypeChange → Prop
  | functions {change : Option TypeChange}
      (hfunctions : (isFunction old.toTypeInfo && isFunction updated.toTypeInfo) = true)
      (hchange : visibilityChange old.toTypeInfo updated.toTypeInfo = .ok change) :
      NodeVerdict options T A old updated allowAppend change
  | bytes (hfunctions : (isFunction old.toTypeInfo && isFunction updated.toTypeInfo) = false)
      (hbytes : (isByteLabel old.label && isByteLabel updated.label) = true) :
      NodeVerdict options T A old updated allowAppend none
  | widened (hfunctions : (isFunction old.toTypeInfo && isFunction updated.toTypeInfo) = false)
      (hbytes : (isByteLabel old.label && isByteLabel updated.label) = false)
      (hwiden : mayWiden old.toTypeInfo updated.toTypeInfo allowAppend = .ok true) :
      NodeVerdict options T A old updated allowAppend none
  | obvious (hcompared : ComparedByHead old.toTypeInfo updated.toTypeInfo allowAppend)
      (hhead : old.head ≠ updated.head) :
      NodeVerdict options T A old updated allowAppend
        (some (.mismatch .obvious old.toTypeInfo updated.toTypeInfo))
  | plain (hcompared : ComparedByHead old.toTypeInfo updated.toTypeInfo allowAppend)
      (hhead : old.head = updated.head) (hold : old.args = none) (hupdated : updated.args = none) :
      NodeVerdict options T A old updated allowAppend none
  | contract {was : List g.Ref} {is : List h.Ref} (hsame : SameHead old updated allowAppend was is)
      (hhead : old.head = "t_contract") : NodeVerdict options T A old updated allowAppend none
  | userDefined {was : List g.Ref} {is : List h.Ref}
      (hsame : SameHead old updated allowAppend was is)
      (hhead : old.head = "t_userDefinedValueType") {changed : Bool}
      (hchanged : underlyingChanged old.toTypeInfo updated.toTypeInfo = .ok changed) :
      NodeVerdict options T A old updated allowAppend
        (if changed then some (.mismatch .underlying old.toTypeInfo updated.toTypeInfo) else none)
  | missing {was : List g.Ref} {is : List h.Ref} (hsame : SameHead old updated allowAppend was is)
      (hhead : old.head = "t_struct" ∨ old.head = "t_enum")
      (hmembers : old.members = none ∨ updated.members = none) :
      NodeVerdict options T A old updated allowAppend
        (if options.allowCustomTypes then none
          else some (.mismatch .missingMembers old.toTypeInfo updated.toTypeInfo))
  | struct {was : List g.Ref} {is : List h.Ref} (hsame : SameHead old updated allowAppend was is)
      (hhead : old.head = "t_struct") {oldMembers : List (Variable g.Ref)}
      {newMembers : List (Variable h.Ref)}
      (hold : old.members.bind structMembers? = some oldMembers)
      (hupdated : updated.members.bind structMembers? = some newMembers) {ops : List FieldOp}
      (hops : A oldMembers newMembers allowAppend ops) :
      NodeVerdict options T A old updated allowAppend
        (if ops.isEmpty then none
          else some (.structMembers old.toTypeInfo updated.toTypeInfo ops allowAppend))
  | enum {was : List g.Ref} {is : List h.Ref} (hsame : SameHead old updated allowAppend was is)
      (hhead : old.head = "t_enum") {oldMembers newMembers : List String}
      (hold : old.members.bind enumMembers? = some oldMembers)
      (hupdated : updated.members.bind enumMembers? = some newMembers) :
      NodeVerdict options T A old updated allowAppend
        (enumChange old.toTypeInfo updated.toTypeInfo oldMembers newMembers)
  | mappingKey {oldKey oldValue : g.Ref} {newKey newValue : h.Ref}
      (hsame : SameHead old updated allowAppend [oldKey, oldValue] [newKey, newValue])
      (hhead : old.head = "t_mapping") (hvalues : (g.isValue oldKey && h.isValue newKey) = true)
      (hknown : ((g.info oldKey).head == "unknown") = false) {change : TypeChange}
      (hkey : T oldKey newKey false (some change)) :
      NodeVerdict options T A old updated allowAppend
        (some (.nested .mappingKey old.toTypeInfo updated.toTypeInfo change))
  | mapping {oldKey oldValue : g.Ref} {newKey newValue : h.Ref}
      (hsame : SameHead old updated allowAppend [oldKey, oldValue] [newKey, newValue])
      (hhead : old.head = "t_mapping") (hvalues : (g.isValue oldKey && h.isValue newKey) = true)
      (hkey : ((g.info oldKey).head == "unknown") = true ∨ T oldKey newKey false none)
      {change : Option TypeChange} (hvalue : T oldValue newValue true change) :
      NodeVerdict options T A old updated allowAppend
        (change.map (.nested .mappingValue old.toTypeInfo updated.toTypeInfo))
  | arraySize {was : List g.Ref} {is : List h.Ref}
      (hsame : SameHead old updated allowAppend was is) (hhead : old.head = "t_array")
      {reason : Mismatch}
      (hsize : sizeChange old.toTypeInfo updated.toTypeInfo allowAppend = .ok (some reason)) :
      NodeVerdict options T A old updated allowAppend
        (some (.mismatch reason old.toTypeInfo updated.toTypeInfo))
  | array {oldElement : g.Ref} {newElement : h.Ref} {was : List g.Ref} {is : List h.Ref}
      (hsame : SameHead old updated allowAppend (oldElement :: was) (newElement :: is))
      (hhead : old.head = "t_array")
      (hsize : sizeChange old.toTypeInfo updated.toTypeInfo allowAppend = .ok none)
      {change : Option TypeChange} (helement : T oldElement newElement false change) :
      NodeVerdict options T A old updated allowAppend
        (change.map (.nested .arrayValue old.toTypeInfo updated.toTypeInfo))
  | unknown {was : List g.Ref} {is : List h.Ref} (hsame : SameHead old updated allowAppend was is)
      (hhead : old.head ∉ ["t_contract", "t_userDefinedValueType", "t_struct", "t_enum",
        "t_mapping", "t_array"]) :
      NodeVerdict options T A old updated allowAppend
        (some (.mismatch .unknown old.toTypeInfo updated.toTypeInfo))

/-- Only arrays get shorter. -/
theorem NodeVerdict.head_of_isArrayShrink {T : TypeRelation g h} {A : MemberRelation g h}
    {old : TypeNode g.Ref} {updated : TypeNode h.Ref} {allowAppend : Bool} {change : TypeChange}
    (hverdict : NodeVerdict options T A old updated allowAppend (some change))
    (hshrink : change.isArrayShrink = true) : old.head = "t_array" := by
  generalize hresult : some change = result at hverdict
  cases hverdict with
  | arraySize hsame hhead => exact hhead
  | functions hfunctions hchange =>
      subst hresult
      unfold visibilityChange at hchange
      split at hchange
      · split at hchange
        · cases hchange
        · cases hchange
          cases hshrink
      · cases hchange
  | enum hsame hhead hold hupdated =>
      unfold enumChange at hresult
      dsimp only at hresult
      split at hresult
      · cases hresult
        cases hshrink
      · split at hresult
        · cases hresult
        · cases hresult
          cases hshrink
  | bytes | widened | plain | contract => cases hresult
  | obvious | mappingKey | unknown =>
      cases hresult
      cases hshrink
  | userDefined | missing | struct =>
      split at hresult
      · cases hresult <;> cases hshrink
      · cases hresult <;> cases hshrink
  | mapping | array =>
      obtain ⟨inner, -, rfl⟩ := Option.map_eq_some_iff.1 hresult.symm
      cases hshrink

/-- What the comparison of two variables can find. -/
def FieldVerdict (options : CompareOptions) (T : Option TypeChange → Prop)
    (old updated : TypedVariable) (change : Option FieldChange) : Prop :=
  ∃ retyped typeChange difference, isRetyped old updated = .ok retyped ∧
    (retyped = true ∧ typeChange = none ∨ retyped = false ∧ T typeChange) ∧
    differenceOf options old updated typeChange = .ok difference ∧
    change = difference.map (.mk old updated)

theorem ok_of_lift {α : Type} {x : Except Json.Misuse α} {a : α}
    (h : Json.Misuse.lift x = .ok a) : x = .ok a := by
  cases x with
  | error e => cases h
  | ok b =>
      cases h
      rfl

section

variable {compare : TypeComparison g h} {T : TypeRelation g h} {A : MemberRelation g h}
  (hT : ∀ old updated allowAppend,
    Ensures P (compare old updated allowAppend) (T old updated allowAppend))

include hT

theorem ensures_fieldChange (old : Variable g.Ref) (updated : Variable h.Ref) :
    Ensures P (fieldChange options compare old updated)
      (FieldVerdict options (T old.type updated.type false) (old.map g.info)
        (updated.map h.info)) := by
  unfold Comparator.fieldChange
  refine Ensures.bind (Ensures.lift fun _ hretyped => ok_of_lift hretyped)
    fun retyped hretyped => ?_
  cases retyped with
  | true =>
      refine Ensures.bind (Ensures.pure (R := fun change => change = none) rfl)
        fun change hchange => Ensures.bind (Ensures.lift fun _ hd => hd) fun difference hd => ?_
      exact Ensures.pure ⟨true, change, difference, hretyped, .inl ⟨rfl, hchange⟩, hd, rfl⟩
  | false =>
      refine (hT _ _ _).bind fun change hchange =>
        Ensures.bind (Ensures.lift fun _ hd => hd) fun difference hd => ?_
      exact Ensures.pure ⟨false, change, difference, hretyped, .inr ⟨rfl, hchange⟩, hd, rfl⟩

theorem ensures_compareMappings {old : TypeNode g.Ref} {updated : TypeNode h.Ref}
    {allowAppend : Bool} {was : List g.Ref} {is : List h.Ref}
    (hsame : SameHead old updated allowAppend was is) (hhead : old.head = "t_mapping") :
    Ensures P (compareMappings compare old updated was is)
      (NodeVerdict options T A old updated allowAppend) := by
  unfold Comparator.compareMappings
  have hpair {ρ : Type} (args : List ρ) :
      Ensures P (keyAndValue args) fun p => args = [p.1, p.2] := by
    unfold keyAndValue
    split
    · exact Ensures.pure rfl
    · exact Ensures.throw
  refine (hpair was).bind fun oldPair hwas => (hpair is).bind fun newPair his => ?_
  obtain ⟨oldKey, oldValue⟩ := oldPair
  obtain ⟨newKey, newValue⟩ := newPair
  subst hwas his
  dsimp only
  split
  · rename_i hvalues
    have hverdict (hkey : ((g.info oldKey).head == "unknown") = true ∨ T oldKey newKey false none)
        (change : Option TypeChange) (hchange : T oldValue newValue true change) :
        NodeVerdict options T A old updated allowAppend
          (change.map (.nested .mappingValue old.toTypeInfo updated.toTypeInfo)) :=
      .mapping hsame hhead hvalues hkey hchange
    have hrest (hkey : ((g.info oldKey).head == "unknown") = true ∨ T oldKey newKey false none) :=
      (hT oldValue newValue true).bind fun change hchange =>
        Ensures.pure (P := P) (hverdict hkey change hchange)
    split
    · rename_i hunknown
      refine Ensures.bind (Ensures.pure (R := fun change => change = none) rfl)
        fun change hchange => ?_
      subst hchange
      exact hrest (.inl hunknown)
    · rename_i hknown
      refine (hT oldKey newKey false).bind fun keyChange hkey => ?_
      cases keyChange with
      | some change =>
          exact Ensures.pure (.mappingKey hsame hhead hvalues (Bool.eq_false_iff.2 hknown) hkey)
      | none => exact hrest (.inr hkey)
  · exact Ensures.throw

theorem ensures_compareArrays {old : TypeNode g.Ref} {updated : TypeNode h.Ref}
    {allowAppend : Bool} {was : List g.Ref} {is : List h.Ref}
    (hsame : SameHead old updated allowAppend was is) (hhead : old.head = "t_array") :
    Ensures P (compareArrays compare old updated was is allowAppend)
      (NodeVerdict options T A old updated allowAppend) := by
  unfold Comparator.compareArrays
  refine Ensures.bind (Ensures.lift fun _ hsize => hsize) fun reason hsize => ?_
  cases reason with
  | some reason => exact Ensures.pure (.arraySize hsame hhead hsize)
  | none =>
      dsimp only
      split
      · exact (hT _ _ _).bind fun change hchange =>
          Ensures.pure (.array hsame hhead hsize hchange)
      · exact Ensures.throw

omit hT in
theorem ensures_missingMembers {old : TypeNode g.Ref} {updated : TypeNode h.Ref}
    {allowAppend : Bool} {was : List g.Ref} {is : List h.Ref}
    (hsame : SameHead old updated allowAppend was is)
    (hhead : old.head = "t_struct" ∨ old.head = "t_enum")
    (hmembers : old.members = none ∨ updated.members = none) :
    Ensures P (missingMembers options old.toTypeInfo updated.toTypeInfo)
      (NodeVerdict options T A old updated allowAppend) := by
  have hverdict : NodeVerdict options T A old updated allowAppend
      (if options.allowCustomTypes then none
        else some (.mismatch .missingMembers old.toTypeInfo updated.toTypeInfo)) :=
    .missing hsame hhead hmembers
  unfold Comparator.missingMembers
  split
  · rename_i hallow
    rw [if_pos hallow] at hverdict
    rintro s t change hP houtcome
    cases houtcome
    exact ⟨hP, hverdict⟩
  · rename_i hallow
    rw [if_neg hallow] at hverdict
    exact Ensures.pure hverdict

omit hT in
theorem ensures_compareStructs (hA : ∀ was is allowAppend,
      Ensures P (alignVariables options compare was is allowAppend) (A was is allowAppend))
    {old : TypeNode g.Ref} {updated : TypeNode h.Ref} {allowAppend : Bool} {was : List g.Ref}
    {is : List h.Ref} (hsame : SameHead old updated allowAppend was is)
    (hhead : old.head = "t_struct") :
    Ensures P (compareStructs options compare old updated allowAppend)
      (NodeVerdict options T A old updated allowAppend) := by
  unfold Comparator.compareStructs
  split
  · rename_i hold hupdated
    split
    · rename_i hwas his
      refine (hA _ _ _).bind fun ops hops => Ensures.pure ?_
      exact .struct hsame hhead (by rw [hold]; exact hwas) (by rw [hupdated]; exact his) hops
    · exact Ensures.throw
  · rename_i hno
    refine ensures_missingMembers hsame (.inl hhead) ?_
    by_contra hmembers
    obtain ⟨hold, hupdated⟩ := not_or.1 hmembers
    obtain ⟨was, hwas⟩ := Option.ne_none_iff_exists'.1 hold
    obtain ⟨is, his⟩ := Option.ne_none_iff_exists'.1 hupdated
    exact hno was is hwas his

omit hT in
theorem ensures_compareEnums {old : TypeNode g.Ref} {updated : TypeNode h.Ref}
    {allowAppend : Bool} {was : List g.Ref} {is : List h.Ref}
    (hsame : SameHead old updated allowAppend was is) (hhead : old.head = "t_enum") :
    Ensures P (compareEnums options old updated)
      (NodeVerdict options T A old updated allowAppend) := by
  unfold Comparator.compareEnums
  split
  · rename_i hold hupdated
    split
    · rename_i hwas his
      exact Ensures.pure
        (.enum hsame hhead (by rw [hold]; exact hwas) (by rw [hupdated]; exact his))
    · exact Ensures.throw
  · rename_i hno
    refine ensures_missingMembers hsame (.inr hhead) ?_
    by_contra hmembers
    obtain ⟨hold, hupdated⟩ := not_or.1 hmembers
    obtain ⟨was, hwas⟩ := Option.ne_none_iff_exists'.1 hold
    obtain ⟨is, his⟩ := Option.ne_none_iff_exists'.1 hupdated
    exact hno was is hwas his

theorem ensures_compareApplied (hA : ∀ was is allowAppend,
      Ensures P (alignVariables options compare was is allowAppend) (A was is allowAppend))
    {old : TypeNode g.Ref} {updated : TypeNode h.Ref} {allowAppend : Bool} {was : List g.Ref}
    {is : List h.Ref} (hsame : SameHead old updated allowAppend was is) :
    Ensures P (compareApplied options compare old updated was is allowAppend)
      (NodeVerdict options T A old updated allowAppend) := by
  unfold Comparator.compareApplied
  by_cases hcontract : old.head = "t_contract"
  · rw [if_pos hcontract]
    exact Ensures.pure (.contract hsame hcontract)
  by_cases huser : old.head = "t_userDefinedValueType"
  · rw [if_neg hcontract, if_pos huser]
    exact Ensures.bind (Ensures.lift fun _ hd => ok_of_lift hd) fun changed hchanged =>
      Ensures.pure (.userDefined hsame huser hchanged)
  by_cases hstruct : old.head = "t_struct"
  · rw [if_neg hcontract, if_neg huser, if_pos hstruct]
    exact ensures_compareStructs hA hsame hstruct
  by_cases henum : old.head = "t_enum"
  · rw [if_neg hcontract, if_neg huser, if_neg hstruct, if_pos henum]
    exact ensures_compareEnums hsame henum
  by_cases hmapping : old.head = "t_mapping"
  · rw [if_neg hcontract, if_neg huser, if_neg hstruct, if_neg henum, if_pos hmapping]
    exact ensures_compareMappings hT hsame hmapping
  by_cases harray : old.head = "t_array"
  · rw [if_neg hcontract, if_neg huser, if_neg hstruct, if_neg henum, if_neg hmapping,
      if_pos harray]
    exact ensures_compareArrays hT hsame harray
  rw [if_neg hcontract, if_neg huser, if_neg hstruct, if_neg henum, if_neg hmapping, if_neg harray]
  exact Ensures.pure (.unknown hsame (by
    simp only [List.mem_cons, List.not_mem_nil, or_false, not_or]
    exact ⟨hcontract, huser, hstruct, henum, hmapping, harray⟩))

/-- Every answer to a comparison of types falls under one of the cases. -/
theorem ensures_compareNodes (hA : ∀ was is allowAppend,
      Ensures P (alignVariables options compare was is allowAppend) (A was is allowAppend))
    (old : TypeNode g.Ref) (updated : TypeNode h.Ref) (allowAppend : Bool) :
    Ensures P (compareNodes options compare old updated allowAppend)
      (NodeVerdict options T A old updated allowAppend) := by
  unfold Comparator.compareNodes
  split
  · rename_i hfunctions
    exact Ensures.lift fun change hchange => .functions hfunctions hchange
  rename_i hfunctions
  replace hfunctions := Bool.eq_false_iff.2 hfunctions
  split
  · rename_i hbytes
    exact Ensures.pure (.bytes hfunctions hbytes)
  rename_i hbytes
  replace hbytes := Bool.eq_false_iff.2 hbytes
  apply Ensures.bind (Ensures.lift fun _ hwiden => hwiden)
  intro mayWiden hwiden
  cases mayWiden with
  | true => exact Ensures.pure (.widened hfunctions hbytes hwiden)
  | false =>
      have hcompared : ComparedByHead old.toTypeInfo updated.toTypeInfo allowAppend :=
        ⟨hfunctions, hbytes, hwiden⟩
      rw [if_neg Bool.false_ne_true]
      split
      · rename_i hhead
        exact Ensures.pure (.obvious hcompared hhead)
      rename_i hhead
      replace hhead := not_not.1 hhead
      split
      · rename_i hold hupdated
        exact Ensures.pure (.plain hcompared hhead hold hupdated)
      · rename_i was is hwas his
        exact ensures_compareApplied hT hA ⟨hcompared, hhead, hwas, his⟩
      · exact Ensures.throw

end

/-! ### Comparing by heads -/

/-- The digits behind `t_uint` end an identifier, so no identifier with arguments is that of a number. -/
theorem uintBits?_of_mem {id : String} (h : '(' ∈ id.toList) : uintBits? id = none := by
  unfold uintBits?
  dsimp only
  split
  · rename_i hmark
    obtain ⟨rest, hrest⟩ := List.isPrefixOf_iff_prefix.1 hmark
    rw [← hrest, List.drop_left]
    have hmem : '(' ∈ rest := by
      rw [← hrest] at h
      exact (List.mem_append.1 h).resolve_left (by decide)
    have hdigits : ∀ {ds tail}, spanDigits rest = (ds, tail) → '(' ∈ tail := by
      intro ds tail hspan
      rw [spanDigits, List.span_eq_takeWhile_dropWhile, Prod.mk.injEq] at hspan
      obtain ⟨rfl, rfl⟩ := hspan
      rw [← List.takeWhile_append_dropWhile (p := isDigit) (l := rest)] at hmem
      refine (List.mem_append.1 hmem).resolve_left fun hdigit => ?_
      exact absurd (List.all_eq_true.1 List.all_takeWhile _ hdigit) (by decide)
    split
    · rfl
    · rename_i hspan
      exact absurd (hdigits hspan) List.not_mem_nil
    · rename_i hspan
      exact absurd (hdigits hspan) (by decide)
    · rfl
  · rfl

section

variable {compare : TypeComparison g h} {old : TypeNode g.Ref} {updated : TypeNode h.Ref}
  {allowAppend : Bool} {was : List g.Ref} {is : List h.Ref}

/-- A type with parentheses in its identifier is no number, so it does not widen. -/
theorem comparedByHead_of_mem {old updated : TypeInfo} (hid : '(' ∈ old.id.toList)
    (hfunction : isFunction old = false)
    (hbytes : (isByteLabel old.label && isByteLabel updated.label) = false) :
    ComparedByHead old updated allowAppend where
  functions := by rw [hfunction, Bool.false_and]
  bytes := hbytes
  widen := by
    have hgrowth : isUintGrowth old updated = .ok false := by
      unfold isUintGrowth
      rw [uintBits?_of_mem hid]
    unfold mayWiden
    rw [hgrowth, ite_self]

/-- Two types of the same head with arguments are compared by this head. -/
theorem SameHead.compareNodes_eq (hsame : SameHead old updated allowAppend was is) :
    compareNodes options compare old updated allowAppend =
      compareApplied options compare old updated was is allowAppend := by
  unfold compareNodes
  rw [hsame.functions, hsame.bytes, hsame.widen, hsame.oldArgs, hsame.newArgs]
  exact if_neg (not_not.2 hsame.head)

/-- Two types of different heads are not compared any further. -/
theorem ComparedByHead.compareNodes_of_ne
    (hcompared : ComparedByHead old.toTypeInfo updated.toTypeInfo allowAppend)
    (hhead : old.head ≠ updated.head) :
    compareNodes options compare old updated allowAppend =
      pure (some (.mismatch .obvious old.toTypeInfo updated.toTypeInfo)) := by
  unfold compareNodes
  rw [hcompared.functions, hcompared.bytes, hcompared.widen]
  exact if_pos hhead

theorem compareApplied_of_struct (hhead : old.head = "t_struct") :
    compareApplied options compare old updated was is allowAppend =
      compareStructs options compare old updated allowAppend := by
  have hcontract : old.head ≠ "t_contract" := by rw [hhead]; decide
  have huser : old.head ≠ "t_userDefinedValueType" := by rw [hhead]; decide
  unfold compareApplied
  rw [if_neg hcontract, if_neg huser, if_pos hhead]

theorem compareApplied_of_enum (hhead : old.head = "t_enum") :
    compareApplied options compare old updated was is allowAppend =
      compareEnums options old updated := by
  have hcontract : old.head ≠ "t_contract" := by rw [hhead]; decide
  have huser : old.head ≠ "t_userDefinedValueType" := by rw [hhead]; decide
  have hstruct : old.head ≠ "t_struct" := by rw [hhead]; decide
  unfold compareApplied
  rw [if_neg hcontract, if_neg huser, if_neg hstruct, if_pos hhead]

end

end StorageUpgrade.Comparator
