import StorageUpgrade.Proofs.Compare.Reflexive
import StorageUpgrade.Proofs.Compare.Unfolding

/-!
# When recursion is found

Every variable is compared with every other one, so the same pairs of types are met again and again.
Still a comparison gives up on recursion only where a type of each side is inside itself: it is
enough that no type of *one* of the two layouts is, whatever the other one holds
(`ne_recursiveType_of_acyclic`).  Nothing is asked of the form of the types.

## Strategy

* An error is local (`IsLocal`) if the step at hand fails by itself: a value lacks what is asked of
  it, or an assumption does not hold.  All checks have local errors only.
* Going through the steps, a comparison of two types has local errors and those of the comparisons
  of parts (`safeLocally_compareNodes`), for any two types.
* The recursion is the one of `safe_typeChange_of_nodes`: a pair that is in progress is met again
  only inside itself, on both sides at once.
-/

namespace StorageUpgrade.Comparator

variable {α β : Type}

/-! ### Local errors -/

/-- An error of a single step. -/
inductive IsLocal : Error → Prop
  | misuse (m : Json.Misuse) : IsLocal (.misuse m)
  | fault (f : Fault) : IsLocal (.fault f)

theorem IsLocal.ne_recursiveType {e : Error} (he : IsLocal e) (label : String) :
    e ≠ .upgrade (.recursiveType label) := by
  cases he <;> nofun

/-- All errors of a check are local. -/
def FailsLocally (x : Except Error α) : Prop := ∀ e, x = .error e → IsLocal e

namespace FailsLocally

theorem ok (a : α) : FailsLocally (.ok a) := nofun

theorem error {e : Error} (he : IsLocal e) : FailsLocally (.error e : Except Error α) := by
  intro e' h
  cases h
  exact he

theorem lift (x : Except Json.Misuse α) : FailsLocally (x : Except Error α) := by
  cases x with
  | ok a => exact ok a
  | error m => exact error (.misuse m)

theorem bind {x : Except Error α} {f : α → Except Error β} (hx : FailsLocally x)
    (hf : ∀ a, FailsLocally (f a)) : FailsLocally (x >>= f) := by
  cases x with
  | ok a => exact hf a
  | error e => exact error (hx e rfl)

theorem map {x : Except Error α} (hx : FailsLocally x) (f : α → β) :
    FailsLocally (x.map f) := by
  cases x with
  | ok a => exact ok (f a)
  | error e => exact error (hx e rfl)

theorem mapM {f : α → Except Error β} (hf : ∀ a, FailsLocally (f a)) (xs : List α) :
    FailsLocally (xs.mapM f) := by
  induction xs with
  | nil => exact ok []
  | cons x xs ih =>
      rw [List.mapM_cons]
      exact (hf x).bind fun _ => ih.bind fun _ => ok _

theorem digitsNumber (ds : List Char) : FailsLocally (digitsNumber ds) := by
  unfold StorageUpgrade.digitsNumber
  split
  · exact ok _
  · exact error (.misuse _)

/-! #### Positions -/

theorem numeral (s : String) : FailsLocally (numeral s) := lift _

theorem start? (v : TypedVariable) : FailsLocally v.start? := by
  unfold Variable.start?
  split
  · exact (numeral _).bind fun _ => ok _
  · exact ok none

theorem end? (v : TypedVariable) : FailsLocally v.end? := by
  refine (start? v).bind fun first => ?_
  split
  · exact (numeral _).bind fun _ => ok _
  · exact ok none

theorem span (v : TypedVariable) : FailsLocally v.span :=
  (start? v).bind fun _ => (end? v).bind fun _ => ok _

theorem endsWith (v w : TypedVariable) : FailsLocally (v.endsWith w) := by
  refine (end? v).bind fun last => ?_
  cases last with
  | none => exact ok false
  | some last => exact (end? w).bind fun _ => ok _

theorem endMatchesGap (v w : TypedVariable) : FailsLocally (v.endMatchesGap w) := by
  unfold Variable.endMatchesGap
  split
  · exact endsWith w v
  · exact ok false

/-! #### Operations -/

theorem consumesGap (op : FieldOp) : FailsLocally (consumesGap op) := by
  unfold Comparator.consumesGap
  split
  · exact ok true
  · exact endsWith _ _
  · exact ok false

theorem gapSpan? (op : FieldOp) : FailsLocally (gapSpan? op) := by
  unfold Comparator.gapSpan?
  split
  · exact (span _).map some
  · exact (span _).map some
  · exact ok none

theorem review (gaps : List (Option Int × Option Int)) (op : FieldOp) :
    FailsLocally (review gaps op) := by
  refine (consumesGap op).bind fun consumes => ?_
  split
  · split <;> exact ok _
  split
  · refine (span _).bind fun _ => ?_
    split <;> exact ok _
  · exact ok none

theorem differenceOf (options : CompareOptions) (old updated : TypedVariable)
    (change : Option TypeChange) : FailsLocally (differenceOf options old updated change) := by
  have htypes (renamed : Bool) (change : TypeChange) :
      FailsLocally (differenceOfTypes renamed old updated change) := by
    unfold differenceOfTypes
    split
    · exact (endMatchesGap old updated).bind fun _ => ok _
    split
    · exact (endsWith updated old).bind fun _ => ok _
    · exact ok _
  unfold Comparator.differenceOf
  dsimp only
  split
  · exact ok _
  · exact (htypes _ _).map some
  · split <;> exact ok _

/-! #### Types -/

theorem visibilityChange (old updated : TypeInfo) :
    FailsLocally (visibilityChange old updated) := by
  unfold Comparator.visibilityChange
  split
  · exact ok _
  · exact error (.fault _)

theorem mayWiden (old updated : TypeInfo) (allowAppend : Bool) :
    FailsLocally (mayWiden old updated allowAppend) := by
  unfold Comparator.mayWiden isUintGrowth
  split
  · split
    · exact (digitsNumber _).bind fun _ => (digitsNumber _).bind fun _ => ok _
    · exact ok false
  · exact ok false

theorem sizeChange (old updated : TypeInfo) (allowAppend : Bool) :
    FailsLocally (sizeChange old updated allowAppend) := by
  unfold Comparator.sizeChange
  split
  · split
    · exact ok _
    · exact (digitsNumber _).bind fun _ => (digitsNumber _).bind fun _ => ok _
  · exact error (.fault _)

end FailsLocally

/-! ### The steps of a comparison -/

/-- All errors of a comparison are local. -/
abbrev SafeLocally (m : CompareM α) : Prop := Safe IsLocal m fun _ => True

theorem FailsLocally.safe {x : Except Error α} (hx : FailsLocally x) :
    SafeLocally (x : CompareM α) := by
  cases x with
  | ok a => exact Safe.pure trivial
  | error e => exact Safe.throw (hx e rfl)

theorem safeLocally_mapM {f : α → CompareM β} (xs : List α) (h : ∀ x ∈ xs, SafeLocally (f x)) :
    SafeLocally (xs.mapM f) :=
  (Safe.mapM (R := fun _ _ => True) xs h).mono fun _ _ => trivial

theorem safeLocally_filterGapOps (ops : List FieldOp) : SafeLocally (filterGapOps ops) := by
  refine (FailsLocally.mapM FailsLocally.gapSpan? ops).safe.bind fun gaps _ => ?_
  refine (safeLocally_mapM ops fun op _ => ?_).bind fun _ _ => Safe.pure trivial
  refine (FailsLocally.review _ op).safe.bind fun note _ => ?_
  cases note with
  | none => exact Safe.pure trivial
  | some note => exact (Safe.modify _).bind fun _ _ => Safe.pure trivial

section

variable {g h : TypeGraph} {options : CompareOptions} {compare : TypeComparison g h}

theorem safeLocally_fieldChange {old : Variable g.Ref} {updated : Variable h.Ref}
    (hcompare : SafeLocally (compare old.type updated.type false)) :
    SafeLocally (fieldChange options compare old updated) := by
  refine (FailsLocally.lift _).safe.bind fun retyped _ => ?_
  have hrest (change : Option TypeChange) :=
    (FailsLocally.differenceOf options (old.map g.info) (updated.map h.info) change).safe.bind
      fun difference _ => Safe.pure (E := IsLocal) (R := fun _ => True)
        (a := difference.map (FieldChange.mk (old.map g.info) (updated.map h.info))) trivial
  cases retyped with
  | true => exact (Safe.pure (R := fun _ => True) trivial).bind fun change _ => hrest change
  | false => exact hcompare.bind fun change _ => hrest change

theorem safeLocally_alignVariables {old : List (Variable g.Ref)} {updated : List (Variable h.Ref)}
    (hcompare : ∀ x ∈ old, ∀ y ∈ updated, SafeLocally (compare x.type y.type false))
    (allowAppend : Bool) :
    SafeLocally (alignVariables options compare old updated allowAppend) := by
  unfold alignVariables
  refine (safeLocally_mapM old fun x hx => ?_).bind fun rows _ =>
    (Safe.modify _).bind fun _ _ => safeLocally_filterGapOps _
  exact (safeLocally_mapM updated fun y hy => safeLocally_fieldChange (hcompare x hx y hy)).bind
    fun _ _ => Safe.pure trivial

variable {old : TypeNode g.Ref} {updated : TypeNode h.Ref}
  (hparts : ∀ a ∈ old.parts, ∀ b ∈ updated.parts, ∀ allowAppend,
    SafeLocally (compare a b allowAppend))

include hparts

theorem safeLocally_compareStructs (hhead : old.head = "t_struct")
    (hhead' : updated.head = "t_struct") (allowAppend : Bool) :
    SafeLocally (compareStructs options compare old updated allowAppend) := by
  unfold compareStructs
  split
  · rename_i was is hwas his
    cases hfields : structMembers? was with
    | none => exact Safe.throw (.fault _)
    | some fields =>
        cases hfields' : structMembers? is with
        | none => exact Safe.throw (.fault _)
        | some fields' =>
            -- the members that are aligned are the fields, whose types are parts
            obtain rfl : fields = old.fields := Option.some.inj
              (hfields.symm.trans (structMembers?_eq_fields hwas (by simp [hfields])))
            obtain rfl : fields' = updated.fields := Option.some.inj
              (hfields'.symm.trans (structMembers?_eq_fields his (by simp [hfields'])))
            rw [TypeNode.parts_of_struct hhead, TypeNode.parts_of_struct hhead'] at hparts
            refine (safeLocally_alignVariables (fun x hx y hy => ?_) allowAppend).bind
              fun _ _ => Safe.pure trivial
            exact hparts _ (List.mem_map_of_mem hx) _ (List.mem_map_of_mem hy) false
  · exact Safe.missingMembers _ _

omit hparts in
theorem safeLocally_compareEnums : SafeLocally (compareEnums options old updated) := by
  unfold compareEnums
  split
  · split
    · exact Safe.pure trivial
    · exact Safe.throw (.fault _)
  · exact Safe.missingMembers _ _

theorem safeLocally_compareMappings (hhead : old.head = "t_mapping")
    (hhead' : updated.head = "t_mapping") {was : List g.Ref} {is : List h.Ref}
    (hwas : old.args = some was) (his : updated.args = some is) :
    SafeLocally (compareMappings compare old updated was is) := by
  rw [TypeNode.parts_of_args (.inl hhead) hwas, TypeNode.parts_of_args (.inl hhead') his] at hparts
  unfold compareMappings
  have htwo {ρ : Type} (args : List ρ) :
      Safe IsLocal (keyAndValue args) fun p => p.1 ∈ args ∧ p.2 ∈ args := by
    unfold keyAndValue
    split
    · exact Safe.pure (by simp)
    · exact Safe.throw (.misuse _)
  refine (htwo was).bind fun (key, value) hold => (htwo is).bind fun (key', value') hupdated => ?_
  have hvalues : SafeLocally (do
      let change ← compare value value' true
      return change.map (TypeChange.nested .mappingValue old.toTypeInfo updated.toTypeInfo)) :=
    (hparts value hold.2 value' hupdated.2 true).bind fun _ _ => Safe.pure trivial
  dsimp only
  split
  · split
    · exact hvalues
    · refine (hparts key hold.1 key' hupdated.1 false).bind fun keyChange _ => ?_
      cases keyChange with
      | some change => exact Safe.pure trivial
      | none => exact hvalues
  · exact Safe.throw (.fault _)

theorem safeLocally_compareArrays (hhead : old.head = "t_array") (hhead' : updated.head = "t_array")
    {was : List g.Ref} {is : List h.Ref} (hwas : old.args = some was) (his : updated.args = some is)
    (allowAppend : Bool) :
    SafeLocally (compareArrays compare old updated was is allowAppend) := by
  rw [TypeNode.parts_of_args (.inr hhead) hwas, TypeNode.parts_of_args (.inr hhead') his] at hparts
  unfold compareArrays
  refine (FailsLocally.sizeChange _ _ allowAppend).safe.bind fun reason _ => ?_
  cases reason with
  | some reason => exact Safe.pure trivial
  | none =>
      dsimp only
      split
      · exact (hparts _ List.mem_cons_self _ List.mem_cons_self false).bind
          fun _ _ => Safe.pure trivial
      · exact Safe.throw (.misuse _)

/-- Comparing two types, of whatever form, has local errors and those of comparing parts. -/
theorem safeLocally_compareNodes (allowAppend : Bool) :
    SafeLocally (compareNodes options compare old updated allowAppend) := by
  unfold compareNodes
  split
  · exact (FailsLocally.visibilityChange _ _).safe
  split
  · exact Safe.pure trivial
  refine (FailsLocally.mayWiden _ _ allowAppend).safe.bind fun wide _ => ?_
  split
  · exact Safe.pure trivial
  split
  · exact Safe.pure trivial
  rename_i hheads
  have hhead : old.head = updated.head := not_not.1 hheads
  split
  · exact Safe.pure trivial
  · rename_i was is hwas his
    unfold compareApplied
    split
    · exact Safe.pure trivial
    split
    · exact (FailsLocally.lift _).safe.bind fun _ _ => Safe.pure trivial
    split
    · rename_i hstruct
      exact safeLocally_compareStructs hparts hstruct (hhead ▸ hstruct) allowAppend
    split
    · exact safeLocally_compareEnums
    split
    · rename_i hmapping
      exact safeLocally_compareMappings hparts hmapping (hhead ▸ hmapping) hwas his
    split
    · rename_i harray
      exact safeLocally_compareArrays hparts harray (hhead ▸ harray) hwas his allowAppend
    · exact Safe.pure trivial
  · exact Safe.throw (.fault _)

end

/-! ### Layouts -/

section

variable {old updated : DetailedLayout} (hacyclic : old.Acyclic ∨ updated.Acyclic)
  (options : CompareOptions)

include hacyclic

theorem safeLocally_compareTypes {a : old.graph.Ref} {b : updated.graph.Ref} (ha : old.Holds a)
    (hb : updated.Holds b) (allowAppend : Bool) :
    SafeLocally (compareTypes options old.graph updated.graph a b allowAppend) := by
  refine safe_compareTypes_of_nodes (S := old.Holds) (T := updated.Holds)
    (fun _ hold _ hpart => hold.of_isPart hpart)
    (fun _ hupdated _ hpart => hupdated.of_isPart hpart)
    (fun _ _ _ allow _ _ hparts => safeLocally_compareNodes hparts allow) ?_ ha hb allowAppend
  -- one side of a pair that is inside itself contradicts the hypothesis, whichever side it is
  intro a' b' label ha' hinside hb' hinside'
  rcases hacyclic with hold | hupdated
  · exact absurd hinside (hold a' ha')
  · exact absurd hinside' (hupdated b' hb')

theorem safeLocally_compareLayouts : SafeLocally (compareLayouts options old updated) :=
  safeLocally_alignVariables (fun x hx y hy =>
    safeLocally_compareTypes hacyclic options ⟨x, hx, .refl⟩ ⟨y, hy, .refl⟩ false) true

/-- Recursion is found only where both layouts have a type that is inside itself: neither comparing
the layouts nor comparing two of their types gives up on it otherwise, whatever the comparator
remembers. -/
theorem ne_recursiveType_of_acyclic (s : ComparatorState) (label : String) :
    (outcome (compareLayouts options old updated) s).1 ≠
        .error (.upgrade (.recursiveType label)) ∧
      ∀ a b allowAppend, old.Holds a → updated.Holds b →
        (outcome (compareTypes options old.graph updated.graph a b allowAppend) s).1 ≠
          .error (.upgrade (.recursiveType label)) := by
  have hlocal {α : Type} {m : CompareM α} (hm : SafeLocally m) :
      (outcome m s).1 ≠ .error (.upgrade (.recursiveType label)) := by
    intro herror
    have hs := hm s
    rw [herror] at hs
    exact hs.ne_recursiveType label rfl
  exact ⟨hlocal (safeLocally_compareLayouts hacyclic options), fun a b allowAppend ha hb =>
    hlocal (safeLocally_compareTypes hacyclic options ha hb allowAppend)⟩

end

/-- The types of `nodeLayout`. -/
def nodeIds : List String :=
  ["t_struct(Node)7_storage", "Node", "t_mapping(t_uint256,t_struct(Node)7_storage)",
    "t_uint256", "t_array(t_struct(Node)7_storage)dyn_storage"]

/-- The details of `nodeLayout`. -/
def nodeDetail : DetailedLayout :=
  ⟨.ofIds nodeLayout.types nodeIds, nodeLayout.storage.filterMap (TypeGraph.resolve? nodeIds)⟩

theorem answer_nodeDetail : answer (compareLayouts {} nodeDetail nodeDetail) =
    .error (.upgrade (.recursiveType "t_mapping(t_uint256,t_struct(Node)7_storage)")) := by
  rfl

/-- Comparing nodes with themselves gives up on recursion, comparing them with a vault does not. -/
theorem ne_recursiveType_nodeLayout_vaultLayout :
    nodeLayout.detail = .ok nodeDetail ∧
      vaultLayout.detail = .ok (vaultDetail vaultIds vaultLayout.storage) ∧
      (vaultDetail vaultIds vaultLayout.storage).Acyclic ∧
      answer (compareLayouts {} nodeDetail nodeDetail) =
        .error (.upgrade (.recursiveType "t_mapping(t_uint256,t_struct(Node)7_storage)")) ∧
      ∀ label, answer (compareLayouts {} nodeDetail (vaultDetail vaultIds vaultLayout.storage)) ≠
        .error (.upgrade (.recursiveType label)) := by
  have hacyclic : (vaultDetail vaultIds vaultLayout.storage).Acyclic :=
    DetailedLayout.acyclic_of_rank (fun a => [0, 1, 0, 0, 0, 0, 1, 1].getD a 0) (by decide +kernel)
  refine ⟨Layout.detailItems_of_reachable (by decide +kernel),
    Layout.detailItems_of_reachable (by decide +kernel), hacyclic, answer_nodeDetail, ?_⟩
  intro label
  exact (ne_recursiveType_of_acyclic (.inr hacyclic) {} {} label).1

end StorageUpgrade.Comparator
