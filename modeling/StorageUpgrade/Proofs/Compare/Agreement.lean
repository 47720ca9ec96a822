import StorageUpgrade.Proofs.Compare.Outcome
import StorageUpgrade.Proofs.Layout.Correspondence

/-!
# Comparisons of types that agree

The change of a variable, of a list of variables or of a type is found from the changes of the types
inside, in a fixed number of kinds of steps.  A relation between comparisons that is kept by each
kind of step is a `Congruence`.  If two ways to compare types are related, then so are all
comparisons that are built from them, on types of the same meaning
(`Congruence.compareNodes`, `Congruence.alignVariables`).

One such relation is that one comparison answers whatever the other one does
(`congruence_follows`).
-/

namespace StorageUpgrade.Comparator

/-- A relation between comparisons. -/
abbrev ComparisonRelation := (α : Type) → CompareM α → CompareM α → Prop

/-- A relation is kept by the steps that comparisons with some options are made of: they answer,
fail, take a note that no answer depends on, or go on with an answer.  That types were passed
without a look at their members is noted only if the options let such types pass. -/
structure Congruence (options : CompareOptions) (R : ComparisonRelation) : Prop where
  pure : ∀ {α : Type} (a : α), R α (pure a) (pure a)
  throw : ∀ {α : Type} (e : Error), R α (throw e) (throw e)
  note : ∀ f : ComparatorState → ComparatorState,
    (∀ s, (f s).cache = s.cache ∧ (f s).inProgress = s.inProgress ∧
      (options.allowCustomTypes = false → (f s).unchecked = s.unchecked)) →
      R Unit (modify f) (modify f)
  bind : ∀ {α β : Type} {m n : CompareM α} {f k : α → CompareM β},
    R α m n → (∀ a, R β (f a) (k a)) → R β (m >>= f) (n >>= k)

/-- Two ways to compare types are related on related types. -/
def RelatedOnTypes {g h g' h' : TypeGraph} (R : ComparisonRelation) (rg : g.Ref → g'.Ref → Prop)
    (rh : h.Ref → h'.Ref → Prop) (compare : TypeComparison g h) (compare' : TypeComparison g' h') :
    Prop :=
  ∀ ⦃old old'⦄, rg old old' → ∀ ⦃updated updated'⦄, rh updated updated' → ∀ allowAppend,
    R _ (compare old updated allowAppend) (compare' old' updated' allowAppend)

/-! ### Members of types of the same meaning -/

section

variable {ρ σ : Type} {r : ρ → σ → Prop} {ms : List (Variable ρ ⊕ String)}
  {ns : List (Variable σ ⊕ String)}

theorem structMembers?_rel (h : List.Forall₂ (Sum.LiftRel (Variable.Alike r) Eq) ms ns) :
    Option.Rel (List.Forall₂ (Variable.Alike r)) (structMembers? ms) (structMembers? ns) := by
  unfold structMembers?
  induction h with
  | nil => exact .some .nil
  | cons hmn _ ih =>
      rw [List.mapM_cons, List.mapM_cons]
      cases hmn with
      | inr => exact .none
      | inl hvw =>
          revert ih
          generalize List.mapM Sum.getLeft? _ = x
          generalize List.mapM Sum.getLeft? _ = y
          intro ih
          cases ih with
          | none => exact .none
          | some hrest => exact .some (.cons hvw hrest)

theorem enumMembers?_eq (h : List.Forall₂ (Sum.LiftRel (Variable.Alike r) Eq) ms ns) :
    enumMembers? ms = enumMembers? ns := by
  unfold enumMembers?
  induction h with
  | nil => rfl
  | cons hmn _ ih =>
      rw [List.mapM_cons, List.mapM_cons, ih]
      cases hmn with
      | inl => rfl
      | inr hname =>
          subst hname
          rfl

end

/-- Related arguments are a key and a value each, or neither of them is. -/
theorem keyAndValue_rel {ρ σ : Type} {r : ρ → σ → Prop} {was : List ρ} {is : List σ}
    (h : List.Forall₂ r was is) :
    (∃ k v l w, was = [k, v] ∧ is = [l, w] ∧ r k l ∧ r v w) ∨
      (keyAndValue was = throw (.misuse .badForm) ∧ keyAndValue is = throw (.misuse .badForm)) := by
  cases h with
  | nil => exact .inr ⟨rfl, rfl⟩
  | cons hk hrest =>
      cases hrest with
      | nil => exact .inr ⟨rfl, rfl⟩
      | cons hv hrest =>
          cases hrest with
          | nil => exact .inl ⟨_, _, _, _, rfl, rfl, hk, hv⟩
          | cons => exact .inr ⟨rfl, rfl⟩

/-! ### Related comparisons -/

namespace Congruence

variable {R : ComparisonRelation} {options : CompareOptions} (hR : Congruence options R)

include hR

theorem lift {α : Type} (x : Except Error α) : R α (x : CompareM α) x := by
  cases x with
  | error e => exact hR.throw e
  | ok a => exact hR.pure a

theorem say (level : Log.Level) (message : String) :
    R Unit (say level message) (say level message) := hR.note _ fun _ => ⟨rfl, rfl, fun _ => rfl⟩

theorem mapM {α β γ : Type} {f : α → CompareM γ} {k : β → CompareM γ} {xs : List α} {ys : List β}
    (h : List.Forall₂ (fun x y => R γ (f x) (k y)) xs ys) : R _ (xs.mapM f) (ys.mapM k) := by
  induction h with
  | nil => exact hR.pure []
  | cons hxy _ ih =>
      rw [List.mapM_cons, List.mapM_cons]
      exact hR.bind hxy fun _ => hR.bind ih fun _ => hR.pure _

theorem filterGapOps (ops : List FieldOp) : R _ (filterGapOps ops) (filterGapOps ops) := by
  refine hR.bind (hR.lift _) fun gaps => hR.bind (hR.mapM (List.forall₂_same.2 fun op _ => ?_))
    fun _ => hR.pure _
  refine hR.bind (hR.lift _) fun note => ?_
  cases note with
  | none => exact hR.pure _
  | some note => exact hR.bind (hR.say Log.debug note) fun _ => hR.pure _

theorem missingMembers (old updated : TypeInfo) :
    R _ (missingMembers options old updated) (missingMembers options old updated) := by
  unfold Comparator.missingMembers
  split
  · rename_i hallow
    refine hR.bind (hR.say _ _) fun _ => hR.bind (hR.note _ fun _ => ⟨rfl, rfl, ?_⟩) fun _ =>
      hR.pure none
    intro hno
    rw [hallow] at hno
    cases hno
  · exact hR.pure _

variable {g h g' h' : TypeGraph} {rg : g.Ref → g'.Ref → Prop} {rh : h.Ref → h'.Ref → Prop}

theorem compareEnums {old : TypeNode g.Ref} {old' : TypeNode g'.Ref}
    {updated : TypeNode h.Ref} {updated' : TypeNode h'.Ref} (hold : old.Alike rg old')
    (hupdated : updated.Alike rh updated') :
    R _ (compareEnums options old updated) (compareEnums options old' updated') := by
  obtain ⟨was, _, _, oldMembers⟩ := old
  obtain ⟨_, _, _, oldMembers'⟩ := old'
  obtain ⟨is, _, _, newMembers⟩ := updated
  obtain ⟨_, _, _, newMembers'⟩ := updated'
  obtain ⟨rfl, -, hold⟩ := hold
  obtain ⟨rfl, -, hupdated⟩ := hupdated
  unfold Comparator.compareEnums
  cases hold with
  | none => exact hR.missingMembers _ _
  | some hold =>
      cases hupdated with
      | none => exact hR.missingMembers _ _
      | some hupdated =>
          dsimp only
          rw [← enumMembers?_eq hold, ← enumMembers?_eq hupdated]
          split
          · exact hR.pure _
          · exact hR.throw _

variable (hrg : g.Corresponds g' rg) (hrh : h.Corresponds h' rh) {compare : TypeComparison g h}
  {compare' : TypeComparison g' h'} (hcompare : RelatedOnTypes R rg rh compare compare')

include hrg hrh hcompare

theorem fieldChange {old : Variable g.Ref} {old' : Variable g'.Ref} {updated : Variable h.Ref}
    {updated' : Variable h'.Ref} (hold : old.Alike rg old') (hupdated : updated.Alike rh updated') :
    R _ (fieldChange options compare old updated)
      (fieldChange options compare' old' updated') := by
  unfold Comparator.fieldChange
  rw [← hrg.map_info_eq hold, ← hrh.map_info_eq hupdated]
  refine hR.bind (hR.lift _) fun retyped => ?_
  have hrest (change : Option TypeChange) := hR.bind
    (hR.lift (differenceOf options (old.map g.info) (updated.map h.info) change)) fun difference =>
      hR.pure (difference.map (FieldChange.mk (old.map g.info) (updated.map h.info)))
  cases retyped with
  | true => exact hR.bind (hR.pure none) hrest
  | false => exact hR.bind (hcompare hold.type hupdated.type false) hrest

theorem alignVariables {old : List (Variable g.Ref)} {old' : List (Variable g'.Ref)}
    {updated : List (Variable h.Ref)} {updated' : List (Variable h'.Ref)}
    (hold : List.Forall₂ (Variable.Alike rg) old old')
    (hupdated : List.Forall₂ (Variable.Alike rh) updated updated') (allowAppend : Bool) :
    R _ (alignVariables options compare old updated allowAppend)
      (alignVariables options compare' old' updated' allowAppend) := by
  unfold Comparator.alignVariables
  rw [← hrh.map_map_info_eq hupdated, ← hold.length_eq, ← hupdated.length_eq]
  refine hR.bind (hR.mapM (hold.imp fun x x' hx => ?_)) fun rows =>
    hR.bind (hR.say _ _) fun _ => hR.filterGapOps _
  rw [← hrg.map_info_eq hx]
  exact hR.bind (hR.mapM (hupdated.imp fun y y' hy =>
    hR.fieldChange hrg hrh hcompare hx hy)) fun _ => hR.pure _

theorem compareStructs {old : TypeNode g.Ref} {old' : TypeNode g'.Ref} {updated : TypeNode h.Ref}
    {updated' : TypeNode h'.Ref} (hold : old.Alike rg old') (hupdated : updated.Alike rh updated')
    (allowAppend : Bool) :
    R _ (compareStructs options compare old updated allowAppend)
      (compareStructs options compare' old' updated' allowAppend) := by
  obtain ⟨was, _, _, oldMembers⟩ := old
  obtain ⟨_, _, _, oldMembers'⟩ := old'
  obtain ⟨is, _, _, newMembers⟩ := updated
  obtain ⟨_, _, _, newMembers'⟩ := updated'
  obtain ⟨rfl, -, hold⟩ := hold
  obtain ⟨rfl, -, hupdated⟩ := hupdated
  unfold Comparator.compareStructs
  cases hold with
  | none => exact hR.missingMembers _ _
  | some hold =>
      cases hupdated with
      | none => exact hR.missingMembers _ _
      | some hupdated =>
          have hold := structMembers?_rel hold
          have hupdated := structMembers?_rel hupdated
          revert hold hupdated
          dsimp only
          generalize structMembers? _ = oldMembers
          generalize structMembers? _ = oldMembers'
          generalize structMembers? _ = newMembers
          generalize structMembers? _ = newMembers'
          intro hold hupdated
          cases hold with
          | none => exact hR.throw _
          | some hold =>
              cases hupdated with
              | none => exact hR.throw _
              | some hupdated =>
                  exact hR.bind (hR.alignVariables hrg hrh hcompare hold hupdated _)
                    fun _ => hR.pure _

theorem compareMappings {old : TypeNode g.Ref} {old' : TypeNode g'.Ref} {updated : TypeNode h.Ref}
    {updated' : TypeNode h'.Ref} (hold : old.toTypeInfo = old'.toTypeInfo)
    (hupdated : updated.toTypeInfo = updated'.toTypeInfo) {was : List g.Ref} {was' : List g'.Ref}
    {is : List h.Ref} {is' : List h'.Ref} (hwas : List.Forall₂ rg was was')
    (his : List.Forall₂ rh is is') :
    R _ (compareMappings compare old updated was is)
      (compareMappings compare' old' updated' was' is') := by
  unfold Comparator.compareMappings
  obtain ⟨k, v, k', v', rfl, rfl, hk, hv⟩ | ⟨hbad, hbad'⟩ := keyAndValue_rel hwas
  swap
  · rw [hbad, hbad']
    exact hR.throw _
  obtain ⟨l, w, l', w', rfl, rfl, hl, hw⟩ | ⟨hbad, hbad'⟩ := keyAndValue_rel his
  swap
  · rw [hbad, hbad']
    exact hR.throw _
  simp only [keyAndValue, pure_bind]
  rw [← hold, ← hupdated, ← hrg.isValue_eq hk, ← hrh.isValue_eq hl, ← hrg.info_eq hk]
  split
  · -- the change of the key, if it is looked for, comes before that of the value
    split
    · exact hR.bind (hcompare hv hw true) fun _ => hR.pure _
    · refine hR.bind (hcompare hk hl false) fun keyChange => ?_
      cases keyChange with
      | some change => exact hR.pure _
      | none => exact hR.bind (hcompare hv hw true) fun _ => hR.pure _
  · exact hR.throw _

omit hrg hrh in
theorem compareArrays {old : TypeNode g.Ref} {old' : TypeNode g'.Ref} {updated : TypeNode h.Ref}
    {updated' : TypeNode h'.Ref} (hold : old.toTypeInfo = old'.toTypeInfo)
    (hupdated : updated.toTypeInfo = updated'.toTypeInfo) {was : List g.Ref} {was' : List g'.Ref}
    {is : List h.Ref} {is' : List h'.Ref} (hwas : List.Forall₂ rg was was')
    (his : List.Forall₂ rh is is') (allowAppend : Bool) :
    R _ (compareArrays compare old updated was is allowAppend)
      (compareArrays compare' old' updated' was' is' allowAppend) := by
  unfold Comparator.compareArrays
  rw [← hold, ← hupdated]
  refine hR.bind (hR.lift _) fun reason => ?_
  cases reason with
  | some reason => exact hR.pure _
  | none =>
      cases hwas with
      | nil => exact hR.throw _
      | cons helement =>
          cases his with
          | nil => exact hR.throw _
          | cons helement' =>
              exact hR.bind (hcompare helement helement' false) fun _ => hR.pure _

theorem compareApplied {old : TypeNode g.Ref} {old' : TypeNode g'.Ref} {updated : TypeNode h.Ref}
    {updated' : TypeNode h'.Ref} (hold : old.Alike rg old') (hupdated : updated.Alike rh updated')
    {was : List g.Ref} {was' : List g'.Ref} {is : List h.Ref} {is' : List h'.Ref}
    (hwas : List.Forall₂ rg was was') (his : List.Forall₂ rh is is') (allowAppend : Bool) :
    R _ (compareApplied options compare old updated was is allowAppend)
      (compareApplied options compare' old' updated' was' is' allowAppend) := by
  unfold Comparator.compareApplied
  rw [← hold.info, ← hupdated.info]
  split
  · exact hR.pure none
  split
  · exact hR.bind (hR.lift _) fun _ => hR.pure _
  split
  · exact hR.compareStructs hrg hrh hcompare hold hupdated allowAppend
  split
  · exact hR.compareEnums hold hupdated
  split
  · exact hR.compareMappings hrg hrh hcompare hold.info hupdated.info hwas his
  split
  · exact hR.compareArrays hcompare hold.info hupdated.info hwas his allowAppend
  · exact hR.pure _

/-- The changes of two types are related if the changes of the types inside are. -/
theorem compareNodes {old : TypeNode g.Ref} {old' : TypeNode g'.Ref} {updated : TypeNode h.Ref}
    {updated' : TypeNode h'.Ref} (hold : old.Alike rg old') (hupdated : updated.Alike rh updated')
    (allowAppend : Bool) :
    R _ (compareNodes options compare old updated allowAppend)
      (compareNodes options compare' old' updated' allowAppend) := by
  unfold Comparator.compareNodes
  rw [← hold.info, ← hupdated.info]
  split
  · exact hR.lift _
  split
  · exact hR.pure none
  refine hR.bind (hR.lift _) fun mayWiden => ?_
  split
  · exact hR.pure none
  split
  · exact hR.pure _
  have hargs := hold.args
  have hargs' := hupdated.args
  revert hargs hargs'
  generalize old.args = was
  generalize old'.args = was'
  generalize updated.args = is
  generalize updated'.args = is'
  intro hargs hargs'
  cases hargs with
  | none =>
      cases hargs' with
      | none => exact hR.pure none
      | some => exact hR.throw _
  | some hwas =>
      cases hargs' with
      | none => exact hR.throw _
      | some his =>
          exact hR.compareApplied hrg hrh hcompare hold hupdated hwas his allowAppend

end Congruence

/-! ### Comparisons of the same types -/

namespace Congruence

variable {R : ComparisonRelation} {options : CompareOptions} (hR : Congruence options R)
  {g h : TypeGraph} {compare compare' : TypeComparison g h}
  (hcompare : RelatedOnTypes R Eq Eq compare compare')

include hR hcompare

theorem fieldChange_same (old : Variable g.Ref) (updated : Variable h.Ref) :
    R _ (Comparator.fieldChange options compare old updated)
      (Comparator.fieldChange options compare' old updated) :=
  hR.fieldChange g.corresponds_eq h.corresponds_eq hcompare ⟨rfl, rfl⟩ ⟨rfl, rfl⟩

theorem alignVariables_same (old : List (Variable g.Ref)) (updated : List (Variable h.Ref))
    (allowAppend : Bool) :
    R _ (Comparator.alignVariables options compare old updated allowAppend)
      (Comparator.alignVariables options compare' old updated allowAppend) :=
  hR.alignVariables g.corresponds_eq h.corresponds_eq hcompare
    (List.forall₂_same.2 fun _ _ => ⟨rfl, rfl⟩) (List.forall₂_same.2 fun _ _ => ⟨rfl, rfl⟩)
    allowAppend

theorem compareNodes_same (old : g.Ref) (updated : h.Ref) (allowAppend : Bool) :
    R _ (Comparator.compareNodes options compare (g.node old) (h.node updated) allowAppend)
      (Comparator.compareNodes options compare' (g.node old) (h.node updated) allowAppend) :=
  hR.compareNodes g.corresponds_eq h.corresponds_eq hcompare (g.corresponds_eq rfl)
    (h.corresponds_eq rfl) allowAppend

end Congruence

/-! ### One comparison after another -/

theorem congruence_follows (options : CompareOptions) (P Q : MemoryProp) :
    Congruence options fun _ => Follows P Q where
  pure := Follows.pure
  throw := Follows.throw
  bind := Follows.bind
  note := fun f hf s t a hP ht => by
    cases ht
    rw [(hf s).1]
    exact ⟨hP, fun u hQ => ⟨f u, rfl, (hf u).1 ▸ hQ⟩⟩

section

variable {g h : TypeGraph} {P Q : MemoryProp} {options : CompareOptions}
  {compare compare' : TypeComparison g h}

/-- Whatever the first way to compare types answers, the second one answers too. -/
def FollowsOnTypes (P Q : MemoryProp) (compare compare' : TypeComparison g h) : Prop :=
  ∀ old updated allowAppend,
    Follows P Q (compare old updated allowAppend) (compare' old updated allowAppend)

theorem FollowsOnTypes.related (hcompare : FollowsOnTypes P Q compare compare') :
    RelatedOnTypes (fun _ => Follows P Q) Eq Eq compare compare' := by
  rintro old _ rfl updated _ rfl allowAppend
  exact hcompare old updated allowAppend

theorem Follows.filterGapOps (ops : List FieldOp) :
    Follows P Q (filterGapOps ops) (filterGapOps ops) :=
  (congruence_follows {} P Q).filterGapOps ops

theorem Follows.fieldChange (hcompare : FollowsOnTypes P Q compare compare')
    (old : Variable g.Ref) (updated : Variable h.Ref) :
    Follows P Q (fieldChange options compare old updated)
      (fieldChange options compare' old updated) :=
  (congruence_follows options P Q).fieldChange_same hcompare.related old updated

theorem Follows.compareNodes (hcompare : FollowsOnTypes P Q compare compare') (old : g.Ref)
    (updated : h.Ref) (allowAppend : Bool) :
    Follows P Q (compareNodes options compare (g.node old) (h.node updated) allowAppend)
      (compareNodes options compare' (g.node old) (h.node updated) allowAppend) :=
  (congruence_follows options P Q).compareNodes_same hcompare.related old updated allowAppend

end

end StorageUpgrade.Comparator
