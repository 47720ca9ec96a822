import StorageUpgrade.Proofs.Compare.Unfolding
import StorageUpgrade.Proofs.Layout.SameId

/-!
# One comparator for many comparisons

A comparator remembers results under the identifiers of types, from one comparison to the next, also
when a comparison fails in the end.  A `Query` compares variables or types of the details of two
layouts, whichever variables they were made for, and a `session` answers one query after another
with one comparator.  Each answer, and each error, is the one that a new comparator gives, and no
comparison is in progress afterwards (`session_of_right`).

## Strategy

* The details of a layout number the types in their own way, but types of the same identifier
  correspond, so what is settled in one detail is settled in all of them.  The memory of a session
  is therefore right for every pair of details (`rightMemory_layouts`).
* Two comparators of right memories give the same result (`sameResult_typeChange`).  A settled
  change is answered, from the memory or not.  A change that is not settled is never remembered, so
  both look at the parts, and they go on with the same results, errors included.  The pairs in
  progress are not settled either, because the parts of a settled pair are settled.
-/

namespace StorageUpgrade.Comparator

variable {α β : Type} {P : MemoryProp}

/-! ### The same results -/

/-- With any two memories that satisfy `P`, two comparisons give the same result, be it an answer or
an error, and leave memories that satisfy `P`. -/
def SameResult (P : MemoryProp) (m n : CompareM α) : Prop := ∀ ⦃s t⦄, P s.cache → P t.cache →
  (outcome m s).1 = (outcome n t).1 ∧ P (outcome m s).2.cache ∧ P (outcome n t).2.cache

theorem SameResult.bind {m n : CompareM α} {f k : α → CompareM β} (hmn : SameResult P m n)
    (hfk : ∀ a, SameResult P (f a) (k a)) : SameResult P (m >>= f) (n >>= k) := by
  intro s t hs ht
  obtain ⟨hresult, hPs, hPt⟩ := hmn hs ht
  rw [outcome_bind, outcome_bind]
  cases hm : outcome m s with
  | mk x u =>
      cases hn : outcome n t with
      | mk y v =>
          rw [hm, hn] at hresult
          rw [hm] at hPs
          rw [hn] at hPt
          obtain rfl : x = y := hresult
          cases x with
          | error e => exact ⟨rfl, hPs, hPt⟩
          | ok a => exact hfk a hPs hPt

theorem congruence_sameResult (options : CompareOptions) (P : MemoryProp) :
    Congruence options fun _ => SameResult P where
  pure := fun _ _ _ hs ht => ⟨rfl, hs, ht⟩
  throw := fun _ _ _ hs ht => ⟨rfl, hs, ht⟩
  note := fun f hf s t hs ht =>
    ⟨rfl, show P (f s).cache from (hf s).1 ▸ hs, show P (f t).cache from (hf t).1 ▸ ht⟩
  bind := SameResult.bind

theorem Returns.sameResult {m : CompareM α} {a : α} (h : Returns P m a) : SameResult P m m := by
  intro s t hs ht
  obtain ⟨u, hu, hPu⟩ := h hs
  obtain ⟨v, hv, hPv⟩ := h ht
  rw [hu, hv]
  exact ⟨rfl, hPu, hPv⟩

theorem SameResult.tracking {key : TypeKey} {m n : CompareM α} (hmn : SameResult P m n) :
    SameResult P (tracking key m) (tracking key n) := by
  intro s t hs ht
  rw [outcome_tracking, outcome_tracking]
  exact hmn (s := { s with inProgress := key :: s.inProgress })
    (t := { t with inProgress := key :: t.inProgress }) hs ht

theorem outcome_remembering_of_new {key : TypeKey} {m : CompareM (Option TypeChange)}
    {s : ComparatorState} (hnew : remembered? key s = none) :
    outcome (remembering key m) s = match outcome m s with
      | (.ok result, t) => (.ok result, { t with cache := (key, result) :: t.cache })
      | (.error e, t) => (.error e, t) := by
  unfold remembering
  rw [outcome_bind_of_ok _ (outcome_get s), hnew]
  dsimp only
  rw [outcome_bind]
  rcases outcome m s with ⟨_ | _, _⟩ <;> rfl

/-! ### The same results for types -/

section

variable {options : CompareOptions} {g h : TypeGraph} (hright : RightMemory options g h P)

include hright

/-- A pair of types with a settled change is answered.  One without it is not remembered and has no
answer, so its result is the one of the comparison itself, which must be an error. -/
theorem RightMemory.sameResult_remembering {old : g.Ref} {updated : h.Ref} {allowAppend : Bool}
    {compare : CompareM (Option TypeChange)}
    (hanswer : Ensures P (remembering (pairKey g h (old, updated, allowAppend)) compare)
      (Settled options g h old updated allowAppend))
    (hsettled : ∀ change, Settled options g h old updated allowAppend change →
      Returns P (remembering (pairKey g h (old, updated, allowAppend)) compare) change)
    (hunsettled : (∀ change, ¬ Settled options g h old updated allowAppend change) →
      SameResult P compare compare) :
    SameResult P (remembering (pairKey g h (old, updated, allowAppend)) compare)
      (remembering (pairKey g h (old, updated, allowAppend)) compare) := by
  by_cases hex : ∃ change, Settled options g h old updated allowAppend change
  · obtain ⟨change, hchange⟩ := hex
    exact (hsettled change hchange).sameResult
  have hnone : ∀ change, ¬ Settled options g h old updated allowAppend change :=
    fun change hchange => hex ⟨change, hchange⟩
  have hnew : ∀ s, P s.cache → remembered? (pairKey g h (old, updated, allowAppend)) s = none := by
    intro s hs
    cases hfind : s.cache.find? (·.1 == pairKey g h (old, updated, allowAppend)) with
    | none => rw [remembered?, hfind, Option.map_none]
    | some entry => exact absurd (hright.faithful hs _ _ _ _ hfind) (hnone _)
  have herror : ∀ s, P s.cache →
      outcome (remembering (pairKey g h (old, updated, allowAppend)) compare) s =
        outcome compare s := by
    intro s hs
    have houtcome := outcome_remembering_of_new (m := compare) (hnew s hs)
    cases hresult : outcome compare s with
    | mk x t =>
        rw [hresult] at houtcome
        cases x with
        | error e => exact houtcome
        | ok result => exact absurd (hanswer hs houtcome).2 (hnone _)
  intro s t hs ht
  rw [herror s hs, herror t ht]
  exact hunsettled hnone hs ht

/-- Comparators of right memories give the same result for a pair of types, where no pair in
progress has a settled change. -/
theorem RightMemory.sameResult_typeChange (remaining : Nat) :
    ∀ inProgress : List (g.Ref × h.Ref × Bool), inProgress.Nodup →
      pairCount g h ≤ remaining + inProgress.length →
      (∀ k ∈ inProgress, ∀ change, ¬ Settled options g h k.1 k.2.1 k.2.2 change) →
      RelatedOnTypes (fun _ => SameResult P) Eq Eq (typeChange options g h remaining inProgress)
        (typeChange options g h remaining inProgress) := by
  have hreturns (remaining : Nat) (inProgress : List (g.Ref × h.Ref × Bool))
      (hnodup : inProgress.Nodup) (hcount : pairCount g h ≤ remaining + inProgress.length)
      (hopen : ∀ k ∈ inProgress, ∀ change, ¬ Settled options g h k.1 k.2.1 k.2.2 change)
      (old : g.Ref) (updated : h.Ref) (allowAppend : Bool) (change : Option TypeChange)
      (hchange : Settled options g h old updated allowAppend change) :
      Returns P (typeChange options g h remaining inProgress old updated allowAppend) change := by
    obtain ⟨depth, hdepth⟩ := hchange
    exact hright.returns_typeChange depth remaining inProgress old updated allowAppend change hdepth
      hnodup hcount fun k hk change' hplain => hopen k hk change' ⟨depth, hplain⟩
  induction remaining with
  | zero =>
      rintro inProgress hnodup hcount hopen old _ rfl updated _ rfl allowAppend
      exact hright.sameResult_remembering
        (hright.settled_of_typeChange 0 inProgress old updated allowAppend)
        (hreturns 0 inProgress hnodup hcount hopen old updated allowAppend)
        fun _ => (congruence_sameResult options P).throw _
  | succ remaining ih =>
      rintro inProgress hnodup hcount hopen old _ rfl updated _ rfl allowAppend
      refine hright.sameResult_remembering
        (hright.settled_of_typeChange (remaining + 1) inProgress old updated allowAppend)
        (hreturns (remaining + 1) inProgress hnodup hcount hopen old updated allowAppend) ?_
      intro hnone
      split
      · exact (congruence_sameResult options P).throw _
      · rename_i hnew
        have hparts := ih ((old, updated, allowAppend) :: inProgress)
          (List.nodup_cons.2 ⟨by simpa using hnew, hnodup⟩) (by rw [List.length_cons]; omega)
          (List.forall_mem_cons.2 ⟨hnone, hopen⟩)
        exact SameResult.tracking
          ((congruence_sameResult options P).compareNodes_same hparts old updated allowAppend)

theorem RightMemory.sameResult_compareTypes : RelatedOnTypes (fun _ => SameResult P) Eq Eq
    (compareTypes options g h) (compareTypes options g h) :=
  hright.sameResult_typeChange (pairCount g h) [] List.nodup_nil (Nat.le_refl _) (by simp)

end

/-! ### Queries -/

end StorageUpgrade.Comparator

namespace StorageUpgrade

/-- Some variables of a layout, with the types of the layout that they use. -/
structure Layout.Details (l : Layout) where
  items : List Item
  layout : DetailedLayout
  detailed : l.detailItems items = .ok layout

namespace Comparator

variable {options : CompareOptions} {l l' : Layout}

/-- What a comparator is asked about two layouts: to compare some of their variables, or two types
that these use. -/
inductive Query (l l' : Layout) where
  | layouts (old : l.Details) (updated : l'.Details)
  | types (old : l.Details) (updated : l'.Details) (was : old.layout.graph.Ref)
      (is : updated.layout.graph.Ref) (allowAppend : Bool)

/-- What a comparator answers: the operations to be reported, or the change of a type. -/
inductive Reply where
  | operations (ops : List FieldOp)
  | change (change : Option TypeChange)

/-- The comparison that answers a query. -/
def Query.ask (options : CompareOptions) : Query l l' → CompareM Reply
  | .layouts old updated => do
    let ops ← compareLayouts options old.layout updated.layout
    return .operations ops
  | .types old updated was is allowAppend => do
    let change ← compareTypes options old.layout.graph updated.layout.graph was is allowAppend
    return .change change

/-- The results of some queries in a row, each with the comparator that it leaves behind to answer
the next one. -/
def session (options : CompareOptions) :
    List (Query l l') → ComparatorState → List (Except Error Reply × ComparatorState)
  | [], _ => []
  | q :: queries, s =>
    let result := outcome (q.ask options) s
    result :: session options queries result.2

/-- Whatever is remembered is settled, in all details of two layouts. -/
def RightForLayouts (options : CompareOptions) (l l' : Layout) : MemoryProp := fun cache =>
  ∀ (d : l.Details) (d' : l'.Details), Faithful options d.layout.graph d'.layout.graph cache

variable (options) in
theorem rightMemory_layouts (d : l.Details) (d' : l'.Details) :
    RightMemory options d.layout.graph d'.layout.graph (RightForLayouts options l l') where
  faithful := fun hP => hP d d'
  remember := by
    intro old updated allowAppend change hchange cache hP e e' was is allowAppend' result hfind
    rw [List.find?_cons] at hfind
    split at hfind
    · rename_i hkey
      obtain rfl : _ = result := Option.some_inj.1 hfind
      simp only [beq_iff_eq, TypeKey.mk.injEq] at hkey
      obtain ⟨hold, hupdated, rfl⟩ := hkey
      exact hchange.of_corresponds (Layout.corresponds_of_detailItems d.detailed e.detailed)
        (Layout.corresponds_of_detailItems d'.detailed e'.detailed) hold hupdated
    · exact hP e e' _ _ _ _ hfind

theorem sameResult_compareLayouts (old : l.Details) (updated : l'.Details) :
    SameResult (RightForLayouts options l l') (compareLayouts options old.layout updated.layout)
      (compareLayouts options old.layout updated.layout) :=
  (congruence_sameResult options _).alignVariables_same
    (rightMemory_layouts options old updated).sameResult_compareTypes old.layout.vars
    updated.layout.vars true

theorem sameResult_ask (q : Query l l') :
    SameResult (RightForLayouts options l l') (q.ask options) (q.ask options) := by
  cases q with
  | layouts old updated =>
      exact (sameResult_compareLayouts old updated).bind fun _ =>
        (congruence_sameResult options _).pure _
  | types old updated was is allowAppend =>
      have htypes := (rightMemory_layouts options old updated).sameResult_compareTypes
      exact (htypes rfl rfl allowAppend).bind fun _ => (congruence_sameResult options _).pure _

variable (options) in
/-- The comparisons that a query puts in progress are so no longer when it ends. -/
theorem inProgress_ask (q : Query l l') {s : ComparatorState} (hs : s.inProgress = []) :
    (outcome (q.ask options) s).2.inProgress = [] := by
  cases q with
  | layouts old updated =>
      have hlayouts := agreeWhile_compareLayouts options
        (Layout.distinct_of_detailItems old.detailed)
        (Layout.distinct_of_detailItems updated.detailed)
        (compareTypes options _ _)
      exact (hlayouts.bind (fun _ => (congruence_agreeWhile options []).pure _) s hs).2
  | types old updated was is allowAppend =>
      have htypes := agreeWhile_compareTypes options
        (Layout.distinct_of_detailItems old.detailed)
        (Layout.distinct_of_detailItems updated.detailed)
        (compareTypes options _ _)
      exact ((htypes rfl rfl allowAppend).bind
        (fun _ => (congruence_agreeWhile options []).pure _) s hs).2

/-- A comparator with a right memory answers each query as a new one does, and its memory stays
right. -/
theorem session_of_right (queries : List (Query l l')) :
    ∀ s : ComparatorState, RightForLayouts options l l' s.cache → s.inProgress = [] →
      (session options queries s).map (fun r => (r.1, r.2.inProgress)) =
        queries.map fun q => (answer (q.ask options), []) := by
  induction queries with
  | nil => exact fun _ _ _ => rfl
  | cons q queries ih =>
      intro s hright hidle
      obtain ⟨hresult, hkeep, -⟩ := sameResult_ask q (t := {}) hright fun _ _ => faithful_nil
      have hidle' := inProgress_ask options q hidle
      rw [session, List.map_cons, List.map_cons, ih _ hkeep hidle', hidle', hresult]
      rfl

end Comparator

end StorageUpgrade
