import StorageUpgrade.Proofs.Compare.Cases
import StorageUpgrade.Proofs.Compare.Memory
import StorageUpgrade.Proofs.Compare.Passing

/-!
# The change of a variable

`fieldChange?` is the change of a variable as a new comparator finds it.  Any comparator with a
faithful memory finds the same one (`fieldChange?_eq_ok_iff`), so the operations of two layouts are
those of `fieldChange?` (`exists_of_answer_align`, `answer_align_iff`).

A variable does not change at all when it keeps its name, its type and its place, as far as these
can be told (`differenceOf_eq_none_iff`); what uses up a gap ends where the gap did
(`FieldVerdict.gap`).
-/

namespace StorageUpgrade.Comparator

variable {g h : TypeGraph} {P : MemoryProp} {options : CompareOptions}

/-- The change of a variable as a new comparator finds it. -/
def fieldChange? (options : CompareOptions) (g h : TypeGraph) (old : Variable g.Ref)
    (updated : Variable h.Ref) : Except Error (Option FieldChange) :=
  answer (fieldChange options (compareTypes options g h) old updated)

/-- If the updated variable does not declare the old type, the change of the types decides. -/
theorem outcome_fieldChange {x : Variable g.Ref} {y : Variable h.Ref} {change : Option TypeChange}
    {s t : ComparatorState} (hretyped : isRetyped (x.map g.info) (y.map h.info) = .ok false)
    (hchange : outcome (compareTypes options g h x.type y.type false) s = (.ok change, t)) :
    outcome (fieldChange options (compareTypes options g h) x y) s =
      ((differenceOf options (x.map g.info) (y.map h.info) change).map
        (·.map (.mk (x.map g.info) (y.map h.info))), t) := by
  unfold fieldChange
  dsimp only
  refine (outcome_bind_of_ok (a := false) (t := s) _ (by rw [hretyped]; rfl)).trans ?_
  refine (outcome_bind_of_ok _ hchange).trans ?_
  rw [outcome_bind, outcome_lift]
  cases differenceOf options (x.map g.info) (y.map h.info) change <;> rfl

/-! ### New comparators and others -/

section

variable (hg : g.Distinct) (hh : h.Distinct)

include hg hh

theorem fieldChange?_eq_ok_iff {old : Variable g.Ref} {updated : Variable h.Ref}
    {change : Option FieldChange} :
    fieldChange? options g h old updated = .ok change ↔
      Returns (Faithful options g h)
        (fieldChange options (compareTypes options g h) old updated) change := by
  constructor
  · exact fun hanswer =>
      (Follows.fieldChange (compareTypes_self hg hh) old updated).of_answer faithful_nil hanswer
  · exact fun hreturns => hreturns.answer_eq faithful_nil

theorem ensures_fieldChange? (old : Variable g.Ref) (updated : Variable h.Ref) :
    Ensures (Faithful options g h) (fieldChange options (compareTypes options g h) old updated)
      fun change => fieldChange? options g h old updated = .ok change :=
  (Follows.fieldChange (compareTypes_self hg hh) old updated).mono fun _ hreturns =>
    (fieldChange?_eq_ok_iff hg hh).2 hreturns

/-- The change of a variable comes from the settled change of its type. -/
theorem fieldVerdict_of_fieldChange? {old : Variable g.Ref} {updated : Variable h.Ref}
    {change : Option FieldChange} (hchange : fieldChange? options g h old updated = .ok change) :
    FieldVerdict options (Settled options g h old.type updated.type false) (old.map g.info)
      (updated.map h.info) change :=
  (ensures_fieldChange (settled_of_typeChange hg hh _ _) old updated).of_answer faithful_nil hchange

/-- What is reported of two layouts comes from the changes of all pairs of their variables. -/
theorem exists_of_answer_align {old : List (Variable g.Ref)} {updated : List (Variable h.Ref)}
    {allowAppend : Bool} {reported : List FieldOp}
    (hanswer : answer (align options g h old updated allowAppend) = .ok reported) :
    ∃ change, (∀ x ∈ old, ∀ y ∈ updated, fieldChange? options g h x y = .ok (change x y)) ∧
      answer (filterGapOps (reportable allowAppend (operations change old updated))) =
        .ok reported := by
  have hunique (x : Variable g.Ref) (y : Variable h.Ref) (c c' : Option FieldChange)
      (hc : fieldChange? options g h x y = .ok c) (hc' : fieldChange? options g h x y = .ok c') :
      c = c' := Except.ok.inj (hc.symm.trans hc')
  exact (Ensures.alignVariables hunique (ensures_fieldChange? hg hh) old updated
    allowAppend).of_answer faithful_nil hanswer

/-- The changes of all pairs of variables decide what is reported of two layouts. -/
theorem answer_align_iff {change : Variable g.Ref → Variable h.Ref → Option FieldChange}
    {old : List (Variable g.Ref)} {updated : List (Variable h.Ref)} {allowAppend : Bool}
    {reported : List FieldOp}
    (hchange : ∀ x ∈ old, ∀ y ∈ updated, fieldChange? options g h x y = .ok (change x y)) :
    answer (align options g h old updated allowAppend) = .ok reported ↔
      answer (filterGapOps (reportable allowAppend (operations change old updated))) =
        .ok reported := by
  constructor
  · intro hanswer
    obtain ⟨change', hchange', hreported⟩ := exists_of_answer_align hg hh hanswer
    have hsame (x) (hx : x ∈ old) (y) (hy : y ∈ updated) : change x y = change' x y :=
      Except.ok.inj ((hchange x hx y hy).symm.trans (hchange' x hx y hy))
    rw [operations_congr hsame]
    exact hreported
  · intro hreported
    have hreturns (x) (hx : x ∈ old) (y) (hy : y ∈ updated) :
        Returns (Faithful options g h) (fieldChange options (compareTypes options g h) x y)
          (change x y) :=
      (fieldChange?_eq_ok_iff hg hh).1 (hchange x hx y hy)
    exact (Returns.alignVariables hreturns hreported).answer_eq faithful_nil

end

/-! ### How two variables differ -/

variable {old updated : TypedVariable}

theorem differenceOf_some {change : TypeChange} (hretyped : updated.retypedFrom.isSet = false) :
    differenceOf options old updated (some change) =
      (differenceOfTypes (isRenamed options old updated) old updated change).map some := by
  unfold differenceOf
  rw [hretyped]
  rfl

/-- Two variables do not differ if the type, the name and the place are the same, where an unknown
place is not counted unless another type is declared. -/
theorem differenceOf_eq_none_iff {typeChange : Option TypeChange} :
    differenceOf options old updated typeChange = .ok none ↔
      typeChange = none ∧ isRenamed options old updated = false ∧
        ∀ moved, layoutChange? old updated = some moved →
          moved.uncertain = true ∧ updated.retypedFrom.isSet = false := by
  unfold differenceOf
  dsimp only
  split
  · -- a place that differs counts when another type is declared
    rename_i moved hmoved
    have hset : updated.retypedFrom.isSet = true := by
      by_contra hset
      rw [if_neg hset] at hmoved
      cases hmoved
    rw [if_pos hset] at hmoved
    refine iff_of_false (by simp) fun ⟨_, _, hplace⟩ => ?_
    rw [(hplace moved hmoved).2] at hset
    cases hset
  · rename_i change _
    refine iff_of_false ?_ (by simp)
    cases differenceOfTypes (isRenamed options old updated) old updated change <;>
      simp [Except.map]
  · rename_i hmoved
    have hplace : (∀ moved, layoutChange? old updated = some moved →
        moved.uncertain = true ∧ updated.retypedFrom.isSet = false) ↔
        (layoutChange? old updated).filter (!·.uncertain) = none := by
      cases hset : updated.retypedFrom.isSet with
      | true =>
          rw [hset, if_pos rfl] at hmoved
          simp [hmoved]
      | false =>
          cases layoutChange? old updated with
          | none => simp
          | some moved => simp [Option.filter]
    rw [hplace]
    cases isRenamed options old updated <;> simp

theorem differenceOfTypes_of_differenceOf {typeChange : Option TypeChange}
    {difference : Difference} (hlayout : difference.isLayout = false)
    (hrename : difference ≠ .rename)
    (hd : differenceOf options old updated typeChange = .ok (some difference)) :
    ∃ change, typeChange = some change ∧
      differenceOfTypes (isRenamed options old updated) old updated change = .ok difference := by
  unfold differenceOf at hd
  dsimp only at hd
  split at hd
  · cases hd
    cases hlayout
  · rename_i change _
    refine ⟨change, rfl, ?_⟩
    cases hof : differenceOfTypes (isRenamed options old updated) old updated change with
    | error e =>
        rw [hof] at hd
        cases hd
    | ok difference' =>
        rw [hof] at hd
        cases hd
        rfl
  · split at hd
    · cases hd
      exact absurd rfl hrename
    · obtain ⟨moved, -, rfl⟩ := Option.map_eq_some_iff.1 (Except.ok.inj hd)
      cases hlayout

/-- A variable takes the end of a gap only if it ends there and has another name. -/
theorem differenceOfTypes_finishGap_iff {renamed : Bool} {change : TypeChange} :
    differenceOfTypes renamed old updated change = .ok .finishGap ↔
      renamed = true ∧ old.isGap = true ∧ updated.endsWith old = .ok true := by
  cases renamed with
  | false =>
      refine iff_of_false ?_ (by simp)
      unfold differenceOfTypes
      cases updated.endsWith old <;>
        cases change.isArrayShrink && updated.isGap <;> simp [bind, Except.bind]
  | true =>
      unfold differenceOfTypes Variable.endMatchesGap
      cases old.isGap with
      | false => simp [bind, Except.bind]
      | true =>
          rcases updated.endsWith old with e | _ | _ <;> simp [bind, Except.bind]

/-- A gap gets shorter only if it keeps its name and its array gets shorter. -/
theorem differenceOfTypes_shrinkGap_iff {renamed : Bool} {change change' : TypeChange} :
    differenceOfTypes renamed old updated change = .ok (.shrinkGap change') ↔
      renamed = false ∧ change.isArrayShrink = true ∧ updated.isGap = true ∧ change = change' ∧
        ∃ aligned, updated.endsWith old = .ok aligned := by
  cases renamed with
  | true =>
      refine iff_of_false ?_ (by simp)
      unfold differenceOfTypes
      rcases old.endMatchesGap updated with e | _ | _ <;> simp [bind, Except.bind]
  | false =>
      unfold differenceOfTypes
      cases hshrinks : change.isArrayShrink && updated.isGap with
      | false =>
          refine iff_of_false (by simp) fun ⟨_, hshrink, hgap, _⟩ => ?_
          rw [hshrink, hgap] at hshrinks
          cases hshrinks
      | true =>
          obtain ⟨hshrink, hgap⟩ := (Bool.and_eq_true _ _).mp hshrinks
          rcases updated.endsWith old with e | _ <;> simp [hshrink, hgap, bind, Except.bind]

/-- What uses up a gap ends where the old variable did, and it is a gap that got shorter or takes
the place of a gap under another name. -/
theorem FieldVerdict.gap {T : Option TypeChange → Prop} {change : FieldChange}
    (hverdict : FieldVerdict options T old updated (some change)) (hgap : change.ConsumesGap) :
    change.old = old ∧ updated.endsWith old = .ok true ∧
      (isRenamed options old updated = true ∧ old.isGap = true ∨
        isRenamed options old updated = false ∧ updated.isGap = true ∧
          ∃ typeChange, typeChange.isArrayShrink = true ∧ T (some typeChange)) := by
  obtain ⟨retyped, typeChange, difference, -, hT, hd, hchange⟩ := hverdict
  obtain ⟨difference, rfl, rfl⟩ := Option.map_eq_some_iff.1 hchange.symm
  refine ⟨rfl, ?_⟩
  cases difference with
  | finishGap =>
      obtain ⟨typeChange, rfl, hof⟩ := differenceOfTypes_of_differenceOf rfl (by simp) hd
      obtain ⟨hrenamed, hold, hends⟩ := differenceOfTypes_finishGap_iff.1 hof
      exact ⟨hends, .inl ⟨hrenamed, hold⟩⟩
  | shrinkGap shrink =>
      obtain ⟨typeChange, rfl, hof⟩ := differenceOfTypes_of_differenceOf rfl (by simp) hd
      obtain ⟨hrenamed, hshrink, hupdated, -, -⟩ := differenceOfTypes_shrinkGap_iff.1 hof
      refine ⟨hgap, .inr ⟨hrenamed, hupdated, typeChange, hshrink, ?_⟩⟩
      rcases hT with ⟨-, hnone⟩ | ⟨-, hT⟩
      · cases hnone
      · exact hT
  | _ => exact hgap.elim

/-! ### The change of a type -/

/-- The change of a variable, and how it comes from the change of its type, which `T` gives. -/
structure FieldCompared (options : CompareOptions) (T : TypeRelation g h) (old : Variable g.Ref)
    (updated : Variable h.Ref) (change : Option FieldChange) : Prop where
  eq_ok : fieldChange? options g h old updated = .ok change
  verdict : FieldVerdict options (T old.type updated.type false) (old.map g.info)
    (updated.map h.info) change

theorem FieldCompared.unique {T : TypeRelation g h} {old : Variable g.Ref}
    {updated : Variable h.Ref} {change change' : Option FieldChange}
    (hc : FieldCompared options T old updated change)
    (hc' : FieldCompared options T old updated change') : change = change' :=
  Except.ok.inj (hc.eq_ok.symm.trans hc'.eq_ok)

/-- The operations that are reported of two lists of members, the changes of whose types are related
by `T`. -/
def MembersCompared (options : CompareOptions) (T : TypeRelation g h) : MemberRelation g h :=
  fun old updated allowAppend reported =>
    ∃ change, (∀ x ∈ old, ∀ y ∈ updated, FieldCompared options T x y (change x y)) ∧
      answer (filterGapOps (reportable allowAppend (operations change old updated))) =
        .ok reported

/-- A change that is found with one more level of parts falls under one of the cases. -/
theorem nodeVerdict_of_plainChange (hg : g.Distinct) (hh : h.Distinct) {depth : Nat}
    {old : g.Ref} {updated : h.Ref} {allowAppend : Bool} {change : Option TypeChange}
    (hplain : Returns anyMemory (plainChange options g h (depth + 1) old updated allowAppend)
      change) :
    NodeVerdict options
      (fun o u a c => Returns anyMemory (plainChange options g h depth o u a) c)
      (MembersCompared options fun o u a c =>
        Returns anyMemory (plainChange options g h depth o u a) c)
      (g.node old) (h.node updated) allowAppend change := by
  -- what is found in some depth the comparator finds, too
  have hfollows : FollowsOnTypes anyMemory (Faithful options g h) (plainChange options g h depth)
      (compareTypes options g h) := by
    intro o u a
    exact (plainChange_self depth o u a).mono fun _ hreturns =>
      (returns_compareTypes_iff hg hh).2 ⟨depth, hreturns⟩
  have hfield (x : Variable g.Ref) (y : Variable h.Ref) :
      Ensures anyMemory (fieldChange options (plainChange options g h depth) x y)
        (FieldCompared options (fun o u a c =>
          Returns anyMemory (plainChange options g h depth o u a) c) x y) := by
    intro s t c hs hc
    have hreturns := ((Follows.fieldChange hfollows x y) hs hc).2
    have hverdict := (ensures_fieldChange (plainChange_self depth) x y hs hc).2
    exact ⟨trivial, (fieldChange?_eq_ok_iff hg hh).2 hreturns, hverdict⟩
  obtain ⟨t, ht, -⟩ := hplain (s := {}) trivial
  exact (ensures_compareNodes (P := anyMemory) (plainChange_self depth)
    (Ensures.alignVariables (fun _ _ _ _ hc hc' => hc.unique hc') hfield) (g.node old)
    (h.node updated) allowAppend trivial ht).2

end StorageUpgrade.Comparator
