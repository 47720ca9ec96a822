import StorageUpgrade.Proofs.Compare.Cases
import StorageUpgrade.Proofs.Compare.WellFormed

/-!
# The case that two types fall under

A comparison may be asked to let more or less pass, and the changes of the parts of two types may be
found by one comparator or another.  Which case of `NodeVerdict` applies depends on neither: it is the
`nodeCase` of the two types, and in each case the types leave little that may still be found
(`NodeVerdict.finds`).  So what two comparisons of the same types find is told case by case, with no
need to go through pairs of cases.
-/

namespace StorageUpgrade.Comparator

variable {g h : TypeGraph} {options : CompareOptions}

/-- The cases of a comparison of two types, with the parts that are compared.  In the case `same` nothing
changes.  Arrays are first compared by their sizes, so they may be found to differ without an element. -/
inductive NodeCase (ρ σ : Type) where
  | functions
  | same
  | obvious
  | userDefined
  | missing
  | struct (was : List (Variable ρ)) (is : List (Variable σ))
  | enum (was is : List String)
  | mapping (oldKey oldValue : ρ) (newKey newValue : σ)
  | array (oldElement : Option ρ) (newElement : Option σ)
  | unknown

/-- The case of two types of the same head with arguments. -/
def appliedCase (old : TypeNode g.Ref) (updated : TypeNode h.Ref) : NodeCase g.Ref h.Ref :=
  if old.head = "t_contract" then .same
  else if old.head = "t_userDefinedValueType" then .userDefined
  else if old.head = "t_struct" then
    match old.members.bind structMembers?, updated.members.bind structMembers? with
    | some was, some is => .struct was is
    | _, _ => .missing
  else if old.head = "t_enum" then
    match old.members.bind enumMembers?, updated.members.bind enumMembers? with
    | some was, some is => .enum was is
    | _, _ => .missing
  else if old.head = "t_mapping" then
    match old.args, updated.args with
    | some [oldKey, oldValue], some [newKey, newValue] => .mapping oldKey oldValue newKey newValue
    | _, _ => .unknown
  else if old.head = "t_array" then
    .array (old.args.bind List.head?) (updated.args.bind List.head?)
  else .unknown

/-- The case that two types fall under, with or without leave to grow.  Neither the options nor the
changes of their parts matter for it. -/
def nodeCase (old : TypeNode g.Ref) (updated : TypeNode h.Ref) (allowAppend : Bool) :
    NodeCase g.Ref h.Ref :=
  if isFunction old.toTypeInfo && isFunction updated.toTypeInfo then .functions
  else if isByteLabel old.label && isByteLabel updated.label then .same
  else match mayWiden old.toTypeInfo updated.toTypeInfo allowAppend with
    | .ok true => .same
    | _ =>
      if old.head ≠ updated.head then .obvious
      else if old.args.isNone then .same
      else appliedCase old updated

/-- What a comparison finds of two types that fall under a case. -/
def NodeCase.Finds (options : CompareOptions) (T : TypeRelation g h) (A : MemberRelation g h)
    (old : TypeNode g.Ref) (updated : TypeNode h.Ref) (allowAppend : Bool)
    (change : Option TypeChange) : NodeCase g.Ref h.Ref → Prop
  | functions => visibilityChange old.toTypeInfo updated.toTypeInfo = .ok change
  | same => change = none
  | obvious => change = some (.mismatch .obvious old.toTypeInfo updated.toTypeInfo)
  | userDefined => ∃ changed, underlyingChanged old.toTypeInfo updated.toTypeInfo = .ok changed ∧
      change = if changed then some (.mismatch .underlying old.toTypeInfo updated.toTypeInfo) else none
  | missing => change = if options.allowCustomTypes then none
      else some (.mismatch .missingMembers old.toTypeInfo updated.toTypeInfo)
  | struct was is => old.head = "t_struct" ∧ updated.head = "t_struct" ∧
      old.members.bind structMembers? = some was ∧ updated.members.bind structMembers? = some is ∧
      ∃ ops, A was is allowAppend ops ∧
        change = if ops.isEmpty then none
          else some (.structMembers old.toTypeInfo updated.toTypeInfo ops allowAppend)
  | enum was is => change = enumChange old.toTypeInfo updated.toTypeInfo was is
  | mapping oldKey oldValue newKey newValue =>
      old.parts = [oldKey, oldValue] ∧ updated.parts = [newKey, newValue] ∧
      ((∃ inner, ((g.info oldKey).head == "unknown") = false ∧ T oldKey newKey false (some inner) ∧
          change = some (.nested .mappingKey old.toTypeInfo updated.toTypeInfo inner)) ∨
        (((g.info oldKey).head == "unknown") = true ∨ T oldKey newKey false none) ∧
          ∃ inner, T oldValue newValue true inner ∧
            change = inner.map (.nested .mappingValue old.toTypeInfo updated.toTypeInfo))
  | array oldElement newElement =>
      (∃ reason, sizeChange old.toTypeInfo updated.toTypeInfo allowAppend = .ok (some reason) ∧
        change = some (.mismatch reason old.toTypeInfo updated.toTypeInfo)) ∨
      sizeChange old.toTypeInfo updated.toTypeInfo allowAppend = .ok none ∧
        ∃ a ∈ oldElement, ∃ b ∈ newElement, a ∈ old.parts ∧ b ∈ updated.parts ∧
          ∃ inner, T a b false inner ∧
            change = inner.map (.nested .arrayValue old.toTypeInfo updated.toTypeInfo)
  | unknown => change = some (.mismatch .unknown old.toTypeInfo updated.toTypeInfo)

section

variable {T : TypeRelation g h} {A : MemberRelation g h} {old : TypeNode g.Ref}
  {updated : TypeNode h.Ref} {allowAppend : Bool} {change : Option TypeChange}

theorem ComparedByHead.nodeCase_eq
    (hcompared : ComparedByHead old.toTypeInfo updated.toTypeInfo allowAppend) :
    nodeCase old updated allowAppend =
      if old.head ≠ updated.head then .obvious
      else if old.args.isNone then .same
      else appliedCase old updated := by
  rw [nodeCase, hcompared.functions, hcompared.bytes, hcompared.widen]
  rfl

theorem SameHead.nodeCase_eq {was : List g.Ref} {is : List h.Ref}
    (hsame : SameHead old updated allowAppend was is) :
    nodeCase old updated allowAppend = appliedCase old updated := by
  rw [hsame.toComparedByHead.nodeCase_eq, if_neg (not_not.2 hsame.head), hsame.oldArgs]
  rfl

theorem SameHead.appliedCase_of_mapping {oldKey oldValue : g.Ref} {newKey newValue : h.Ref}
    (hsame : SameHead old updated allowAppend [oldKey, oldValue] [newKey, newValue])
    (hhead : old.head = "t_mapping") :
    appliedCase old updated = .mapping oldKey oldValue newKey newValue := by
  simp [appliedCase, hhead, hsame.oldArgs, hsame.newArgs]

theorem SameHead.appliedCase_of_array {was : List g.Ref} {is : List h.Ref}
    (hsame : SameHead old updated allowAppend was is) (hhead : old.head = "t_array") :
    appliedCase old updated = .array was.head? is.head? := by
  simp [appliedCase, hhead, hsame.oldArgs, hsame.newArgs]

/-- What a comparison finds is what can be found of types of their case. -/
theorem NodeVerdict.finds (hverdict : NodeVerdict options T A old updated allowAppend change) :
    (nodeCase old updated allowAppend).Finds options T A old updated allowAppend change := by
  cases hverdict with
  | functions hfunctions hchange =>
      rw [nodeCase, if_pos hfunctions]
      exact hchange
  | bytes hfunctions hbytes =>
      rw [nodeCase, hfunctions, if_pos hbytes]
      rfl
  | widened hfunctions hbytes hwiden =>
      rw [nodeCase, hfunctions, hbytes, hwiden]
      rfl
  | obvious hcompared hhead =>
      rw [hcompared.nodeCase_eq, if_pos hhead]
      rfl
  | plain hcompared hhead hold hupdated =>
      rw [hcompared.nodeCase_eq, if_neg (not_not.2 hhead), hold]
      rfl
  | contract hsame hhead =>
      have hcase : appliedCase old updated = .same := by simp [appliedCase, hhead]
      rw [hsame.nodeCase_eq, hcase]
      rfl
  | userDefined hsame hhead hchanged =>
      have hcase : appliedCase old updated = .userDefined := by simp [appliedCase, hhead]
      rw [hsame.nodeCase_eq, hcase]
      exact ⟨_, hchanged, rfl⟩
  | missing hsame hhead hmembers =>
      have hcase : appliedCase old updated = .missing := by
        rcases hhead with hhead | hhead <;> rcases hmembers with hnone | hnone <;>
          simp [appliedCase, hhead, hnone]
      rw [hsame.nodeCase_eq, hcase]
      rfl
  | @struct _ _ hsame hhead was is hwas his ops hops =>
      have hcase : appliedCase old updated = .struct was is := by
        simp [appliedCase, hhead, hwas, his]
      rw [hsame.nodeCase_eq, hcase]
      exact ⟨hhead, hsame.head ▸ hhead, hwas, his, ops, hops, rfl⟩
  | @enum _ _ hsame hhead was is hwas his =>
      have hcase : appliedCase old updated = .enum was is := by
        simp [appliedCase, hhead, hwas, his]
      rw [hsame.nodeCase_eq, hcase]
      rfl
  | mappingKey hsame hhead hvalues hknown hkey =>
      rw [hsame.nodeCase_eq, hsame.appliedCase_of_mapping hhead]
      exact ⟨TypeNode.parts_of_args (.inl hhead) hsame.oldArgs,
        TypeNode.parts_of_args (.inl (hsame.head ▸ hhead)) hsame.newArgs, .inl ⟨_, hknown, hkey, rfl⟩⟩
  | mapping hsame hhead hvalues hkey hvalue =>
      rw [hsame.nodeCase_eq, hsame.appliedCase_of_mapping hhead]
      exact ⟨TypeNode.parts_of_args (.inl hhead) hsame.oldArgs,
        TypeNode.parts_of_args (.inl (hsame.head ▸ hhead)) hsame.newArgs, .inr ⟨hkey, _, hvalue, rfl⟩⟩
  | arraySize hsame hhead hsize =>
      rw [hsame.nodeCase_eq, hsame.appliedCase_of_array hhead]
      exact .inl ⟨_, hsize, rfl⟩
  | array hsame hhead hsize helement =>
      have hold := TypeNode.parts_of_args (.inr hhead) hsame.oldArgs
      have hupdated := TypeNode.parts_of_args (.inr (hsame.head ▸ hhead)) hsame.newArgs
      rw [hsame.nodeCase_eq, hsame.appliedCase_of_array hhead]
      exact .inr ⟨hsize, _, rfl, _, rfl, by simp [hold], by simp [hupdated], _, helement, rfl⟩
  | unknown hsame hhead =>
      simp only [List.mem_cons, List.not_mem_nil, or_false, not_or] at hhead
      obtain ⟨hcontract, huser, hstruct, henum, hmapping, harray⟩ := hhead
      have hcase : appliedCase old updated = .unknown := by
        simp [appliedCase, hcontract, huser, hstruct, henum, hmapping, harray]
      rw [hsame.nodeCase_eq, hcase]
      rfl

/-- With leave to grow two types fall under the same case as without, unless they are numbers that
widen. -/
theorem nodeCase_append (old : TypeNode g.Ref) (updated : TypeNode h.Ref) :
    nodeCase old updated true = nodeCase old updated false ∨ nodeCase old updated true = .same := by
  unfold nodeCase
  split
  · exact .inl rfl
  · split
    · exact .inl rfl
    · split
      · exact .inr rfl
      · exact .inl rfl

end

end StorageUpgrade.Comparator
