import StorageUpgrade.Proofs.Compare.Agreement

/-!
# Operations that are not reported

`filterGapOps` drops the changes that use up a storage gap, and the variables that are inserted
where a gap was that some change touches.  If nothing is left to report, then every change uses up
its gap, so the inserted variables lie within gaps that are used up (`dropped_of_answer_nil`); the
converse is `answer_filterGapOps_nil`.
-/

namespace StorageUpgrade

/-- A change that uses up a gap: a variable takes its end, or it gets shorter and ends where it
did. -/
def FieldChange.ConsumesGap : FieldChange → Prop
  | mk _ _ .finishGap => True
  | mk old updated (.shrinkGap _) => updated.endsWith old = .ok true
  | _ => False

instance (c : FieldChange) : Decidable c.ConsumesGap :=
  match c with
  | .mk _ _ .finishGap => isTrue trivial
  | .mk old updated (.shrinkGap _) => inferInstanceAs (Decidable (updated.endsWith old = .ok true))
  | .mk _ _ .replace | .mk _ _ .rename | .mk _ _ (.type _) | .mk _ _ (.layout _)
  | .mk _ _ (.other _) => isFalse id

/-- All bytes of a variable are bytes of another one. -/
def Variable.LiesWithin (v gap : TypedVariable) : Prop :=
  ∃ first last gapFirst gapLast, v.span = .ok (some first, some last) ∧
    gap.span = .ok (some gapFirst, some gapLast) ∧ gapFirst ≤ first ∧ last ≤ gapLast

namespace Comparator

/-- An operation that is not reported among others. -/
def Dropped (ops : List FieldOp) (op : FieldOp) : Prop :=
  (∃ c, op = .change c ∧ c.ConsumesGap) ∨
    ∃ v c, op = .insert v ∧ Alignment.Op.change c ∈ ops ∧ c.ConsumesGap ∧ v.LiesWithin c.old

/-! ### Single operations -/

theorem consumesGap_ok_true_iff {op : FieldOp} :
    consumesGap op = .ok true ↔ ∃ c, op = .change c ∧ c.ConsumesGap := by
  cases op with
  | change c =>
      obtain ⟨old, updated, difference⟩ := c
      cases difference <;> simp [consumesGap, FieldChange.ConsumesGap]
  | _ => simp [consumesGap]

theorem withinSpan_iff {span gap : Option Int × Option Int} : withinSpan span gap = true ↔
    ∃ first last gapFirst gapLast, span = (some first, some last) ∧
      gap = (some gapFirst, some gapLast) ∧ gapFirst ≤ first ∧ last ≤ gapLast := by
  obtain ⟨_ | first, _ | last⟩ := span <;> obtain ⟨_ | gapFirst, _ | gapLast⟩ := gap <;>
    simp [withinSpan]

/-- The span of a gap that an operation touches is that of the old variable of a change. -/
theorem exists_of_gapSpan? {op : FieldOp} {gap : Option Int × Option Int}
    (h : gapSpan? op = .ok (some gap)) : ∃ c, op = .change c ∧ c.old.span = .ok gap := by
  cases op with
  | change c =>
      obtain ⟨old, updated, difference⟩ := c
      refine ⟨_, rfl, ?_⟩
      cases difference with
      | finishGap | shrinkGap =>
          simp only [gapSpan?] at h
          cases hspan : old.span with
          | error e => simp [hspan, Except.map] at h
          | ok span =>
              simp only [hspan, Except.map, Except.ok.injEq, Option.some.injEq] at h
              rw [FieldChange.old, hspan, h]
      | _ => simp [gapSpan?] at h
  | _ => simp [gapSpan?] at h

theorem gapSpan?_of_consumesGap {c : FieldChange} (h : c.ConsumesGap)
    {gap : Option Int × Option Int} (hspan : c.old.span = .ok gap) :
    gapSpan? (.change c) = .ok (some gap) := by
  obtain ⟨old, updated, difference⟩ := c
  rw [FieldChange.old] at hspan
  cases difference with
  | finishGap | shrinkGap =>
      simp only [gapSpan?]
      rw [hspan]
      rfl
  | _ => exact h.elim

/-- An operation is dropped because it uses up a gap, or because it inserts within one. -/
theorem exists_of_review {gaps : List (Option Int × Option Int)} {op : FieldOp} {note : String}
    (h : review gaps op = .ok (some note)) :
    (∃ c, op = .change c ∧ c.ConsumesGap) ∨
      ∃ v span gap, op = .insert v ∧ v.span = .ok span ∧ gap ∈ gaps ∧
        withinSpan span gap = true := by
  unfold review at h
  obtain ⟨consumes, hconsumes, h⟩ := exists_of_bind_ok h
  cases consumes with
  | true => exact .inl (consumesGap_ok_true_iff.1 hconsumes)
  | false =>
      right
      rw [if_neg Bool.false_ne_true] at h
      cases op with
      | insert v =>
          obtain ⟨span, hspan, h⟩ := exists_of_bind_ok h
          split at h
          · rename_i hany
            obtain ⟨gap, hgap, hwithin⟩ := List.any_eq_true.1 hany
            exact ⟨v, span, gap, rfl, hspan, hgap, hwithin⟩
          · cases h
      | _ => cases h

theorem review_of_consumesGap (gaps : List (Option Int × Option Int)) {c : FieldChange}
    (h : c.ConsumesGap) : ∃ note, review gaps (.change c) = .ok (some note) := by
  unfold review
  rw [consumesGap_ok_true_iff.2 ⟨c, rfl, h⟩]
  exact ⟨_, rfl⟩

theorem review_of_within {gaps : List (Option Int × Option Int)} {v : TypedVariable}
    {span gap : Option Int × Option Int} (hspan : v.span = .ok span) (hgap : gap ∈ gaps)
    (hwithin : withinSpan span gap = true) :
    ∃ note, review gaps (.insert v) = .ok (some note) := by
  have hany : gaps.any (withinSpan span) = true := List.any_eq_true.2 ⟨gap, hgap, hwithin⟩
  unfold review
  simp only [consumesGap, hspan, hany, bind, Except.bind]
  exact ⟨_, rfl⟩

/-! ### All operations -/

/-- What is not reported was dropped with a note. -/
theorem ensures_filterGapOps_noted (ops : List FieldOp) :
    Ensures anyMemory (filterGapOps ops) fun reported =>
      ∃ gaps, ops.mapM gapSpan? = .ok gaps ∧
        ∀ op ∈ ops, op ∉ reported →
          ∃ note, review (gaps.filterMap id) op = .ok (some note) := by
  unfold filterGapOps
  apply (Ensures.lift fun gaps hgaps => hgaps).bind
  intro gaps hgaps
  refine Ensures.bind (Ensures.mapM (R := fun op kept => kept ≠ some op →
    ∃ note, review (gaps.filterMap id) op = .ok (some note)) ops ?_) ?_
  · intro op _
    apply (Ensures.lift fun note hnote => hnote).bind
    intro note hnote
    cases note with
    | none => exact Ensures.pure fun hkept => absurd rfl hkept
    | some note =>
        exact (Ensures.say _ _).bind fun _ _ => Ensures.pure fun _ => ⟨note, hnote⟩
  · intro kept hkept
    refine Ensures.pure ⟨gaps, hgaps, ?_⟩
    intro op hop hdropped
    obtain ⟨k, hk, hnote⟩ := exists_right_of_mem hkept hop
    refine hnote ?_
    rintro rfl
    exact hdropped (List.mem_filterMap.2 ⟨some op, hk, rfl⟩)

/-- Nothing is reported that is not an operation. -/
theorem subset_of_answer_filterGapOps {ops reported : List FieldOp}
    (h : answer (filterGapOps ops) = .ok reported) : reported ⊆ ops := by
  have hsubset : Ensures anyMemory (filterGapOps ops) fun reported => reported ⊆ ops := by
    unfold filterGapOps
    apply (Ensures.lift fun _ _ => trivial).bind
    intro gaps _
    refine Ensures.bind (Ensures.mapM (R := fun op kept => ∀ op', kept = some op' → op' = op) ops
      ?_) ?_
    · intro op _
      apply (Ensures.lift fun _ _ => trivial).bind
      intro note _
      cases note with
      | none => exact Ensures.pure fun op' hkept => (Option.some.inj hkept).symm
      | some note =>
          exact (Ensures.say _ _).bind fun _ _ => Ensures.pure fun _ hkept => nomatch hkept
    · intro kept hkept
      refine Ensures.pure fun op hop => ?_
      obtain ⟨k, hk, rfl⟩ := List.mem_filterMap.1 hop
      obtain ⟨op', hop', hsame⟩ := exists_left_of_mem hkept hk
      exact hsame op rfl ▸ hop'
  exact hsubset.of_answer trivial h

/-- Operations that have no note are all reported. -/
theorem answer_filterGapOps_self {ops : List FieldOp} {gaps : List (Option (Option Int × Option Int))}
    (hgaps : ops.mapM gapSpan? = .ok gaps)
    (hkept : ∀ op ∈ ops, review (gaps.filterMap id) op = .ok none) :
    answer (filterGapOps ops) = .ok ops := by
  have hreturns : Returns anyMemory (filterGapOps ops) ((ops.map some).filterMap id) := by
    refine Returns.bind (Returns.lift hgaps) (Returns.bind (Returns.mapM ?_) (Returns.pure _))
    refine List.forall₂_map_right_iff.2 (List.forall₂_same.2 fun op hop => ?_)
    exact Returns.bind (Returns.lift (hkept op hop)) (Returns.pure _)
  rw [List.filterMap_map, Function.id_comp, List.filterMap_some] at hreturns
  exact hreturns.answer_eq trivial

/-- If nothing is reported, then every operation was dropped for a gap that is used up. -/
theorem dropped_of_answer_nil {ops : List FieldOp} (h : answer (filterGapOps ops) = .ok []) :
    ∀ op ∈ ops, Dropped ops op := by
  obtain ⟨gaps, hgaps, hnoted⟩ := (ensures_filterGapOps_noted ops).of_answer trivial h
  have hdropped (op) (hop : op ∈ ops) := hnoted op hop List.not_mem_nil
  have htouched (gap) (hgap : gap ∈ gaps.filterMap id) :
      ∃ c, Alignment.Op.change c ∈ ops ∧ c.old.span = .ok gap := by
    obtain ⟨_, hsome, rfl⟩ := List.mem_filterMap.1 hgap
    obtain ⟨op, hop, hspan⟩ := exists_left_of_mem (forall₂_of_mapM_ok hgaps) hsome
    obtain ⟨c, rfl, hold⟩ := exists_of_gapSpan? hspan
    exact ⟨c, hop, hold⟩
  intro op hop
  obtain ⟨note, hnote⟩ := hdropped op hop
  rcases exists_of_review hnote with hconsumes | ⟨v, span, gap, rfl, hspan, hgap, hwithin⟩
  · exact .inl hconsumes
  · right
    obtain ⟨c, hc, hold⟩ := htouched gap hgap
    -- the change of the gap is not reported either, so it uses up the gap
    obtain ⟨note', hnote'⟩ := hdropped _ hc
    rcases exists_of_review hnote' with ⟨c', hc', hconsumes⟩ | ⟨_, _, _, hinsert, -⟩
    · cases hc'
      obtain ⟨first, last, gapFirst, gapLast, rfl, rfl, hle⟩ := withinSpan_iff.1 hwithin
      exact ⟨v, c, rfl, hc, hconsumes, first, last, gapFirst, gapLast, hspan, hold, hle⟩
    · cases hinsert

/-- A change that is not reported uses up a gap. -/
theorem consumesGap_of_not_reported {ops reported : List FieldOp} {c : FieldChange}
    (h : answer (filterGapOps ops) = .ok reported) (hc : Alignment.Op.change c ∈ ops)
    (hdropped : Alignment.Op.change c ∉ reported) : c.ConsumesGap := by
  obtain ⟨gaps, -, hnoted⟩ := (ensures_filterGapOps_noted ops).of_answer trivial h
  obtain ⟨note, hnote⟩ := hnoted _ hc hdropped
  rcases exists_of_review hnote with ⟨c', hc', hconsumes⟩ | ⟨_, _, _, hinsert, -⟩
  · cases hc'
    exact hconsumes
  · cases hinsert

/-- Nothing is reported if every operation is dropped and the old position of every gap is known. -/
theorem answer_filterGapOps_nil {ops : List FieldOp} (hdropped : ∀ op ∈ ops, Dropped ops op)
    (hspans : ∀ c, Alignment.Op.change c ∈ ops → ∃ span, c.old.span = .ok span) :
    answer (filterGapOps ops) = .ok [] := by
  have hgap (op) (hop : op ∈ ops) : ∃ gap, gapSpan? op = .ok gap ∧
      ∀ c span, op = .change c → c.old.span = .ok span → gap = some span := by
    rcases hdropped op hop with ⟨c, rfl, hconsumes⟩ | ⟨v, _, rfl, -⟩
    · obtain ⟨span, hspan⟩ := hspans c hop
      refine ⟨some span, gapSpan?_of_consumesGap hconsumes hspan, ?_⟩
      rintro _ span' ⟨⟩ hspan'
      rw [hspan] at hspan'
      cases hspan'
      rfl
    · exact ⟨none, rfl, fun _ _ h => by cases h⟩
  obtain ⟨gaps, hgaps, hspan⟩ := exists_mapM_ok hgap
  have hreturns : Returns anyMemory (filterGapOps ops) ((ops.map fun _ => none).filterMap id) := by
    refine Returns.bind (Returns.lift hgaps) (Returns.bind (Returns.mapM ?_) (Returns.pure _))
    refine List.forall₂_map_right_iff.2 (List.forall₂_same.2 fun op hop => ?_)
    have hnote : ∃ note, review (gaps.filterMap id) op = .ok (some note) := by
      rcases hdropped op hop with ⟨c, rfl, hconsumes⟩ | ⟨v, c, rfl, hc, -, hwithin⟩
      · exact review_of_consumesGap _ hconsumes
      · obtain ⟨first, last, gapFirst, gapLast, hv, hold, hle⟩ := hwithin
        refine review_of_within hv ?_ (withinSpan_iff.2 ⟨_, _, _, _, rfl, rfl, hle⟩)
        obtain ⟨gap, hgap, hentry⟩ := exists_right_of_mem hspan hc
        exact List.mem_filterMap.2 ⟨gap, hgap, hentry c _ rfl hold⟩
    obtain ⟨note, hnote⟩ := hnote
    exact Returns.bind (Returns.lift hnote) ((Returns.say _ _).bind (Returns.pure none))
  have hnil : (ops.map fun _ => (none : Option FieldOp)).filterMap id = [] := by
    simp
  exact (hnil ▸ hreturns).answer_eq trivial

end Comparator
end StorageUpgrade
