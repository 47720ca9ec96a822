import StorageUpgrade.Proofs.Alignment.Matching
import StorageUpgrade.Proofs.Compare.Review

/-!
# What it means that nothing is reported

The operations of a comparison depend on the changes of all pairs of variables only
(`Ensures.alignVariables`).  If none of them is reported, then every old variable has a partner
among the updated ones, in order: the two do not differ, or they use up a gap.  A variable that is
nobody's partner lies within a gap that is used up, or it stands behind all partners and variables
may be appended (`exists_passing`).
-/

namespace StorageUpgrade.Comparator

open StorageUpgrade.Alignment

variable {g h : TypeGraph} {P : MemoryProp} {options : CompareOptions}

/-- The operations that turn some variables into others, given the change of each pair. -/
def operations (change : Variable g.Ref → Variable h.Ref → Option FieldChange)
    (old : List (Variable g.Ref)) (updated : List (Variable h.Ref)) : List FieldOp :=
  ofChanges costOf (old.map fun x => (x.map g.info, updated.map (change x)))
    (updated.map (·.map h.info))

theorem operations_congr {change change' : Variable g.Ref → Variable h.Ref → Option FieldChange}
    {old : List (Variable g.Ref)} {updated : List (Variable h.Ref)}
    (hchange : ∀ x ∈ old, ∀ y ∈ updated, change x y = change' x y) :
    operations change old updated = operations change' old updated := by
  have hrow (x : Variable g.Ref) (hx : x ∈ old) : (x.map g.info, updated.map (change x)) =
      (x.map g.info, updated.map (change' x)) := by
    rw [List.map_congr_left fun y hy => hchange x hx y hy]
  rw [operations, operations, List.map_congr_left hrow]

/-- The operations that may be reported. -/
def reportable (allowAppend : Bool) (ops : List FieldOp) : List FieldOp :=
  if allowAppend then ops.filter (!·.isAppend) else ops

/-- `partner` gives the place of the partner of each old variable in an upgrade of which nothing is
reported. -/
structure Passing (change : Variable g.Ref → Variable h.Ref → Option FieldChange)
    (old : List (Variable g.Ref)) (updated : List (Variable h.Ref)) (allowAppend : Bool)
    (partner : Nat → Nat) : Prop where
  increasing : ∀ ⦃i j : Nat⦄, i < j → j < old.length → partner i < partner j
  meets : ∀ ⦃i : Nat⦄ ⦃x : Variable g.Ref⦄, old[i]? = some x →
    ∃ y, updated[partner i]? = some y ∧ ∀ c, change x y = some c → c.ConsumesGap
  others : ∀ ⦃j : Nat⦄ ⦃y : Variable h.Ref⦄, updated[j]? = some y →
    (∃ i < old.length, partner i = j) ∨
      (∃ i x z c, old[i]? = some x ∧ updated[partner i]? = some z ∧ change x z = some c ∧
        c.ConsumesGap ∧ (y.map h.info).LiesWithin c.old) ∨
      allowAppend = true ∧ ∀ i < old.length, partner i < j

theorem Passing.partner_lt {change : Variable g.Ref → Variable h.Ref → Option FieldChange}
    {old : List (Variable g.Ref)} {updated : List (Variable h.Ref)} {allowAppend : Bool}
    {partner : Nat → Nat} (hpassing : Passing change old updated allowAppend partner) {i : Nat}
    (hi : i < old.length) : partner i < updated.length := by
  obtain ⟨y, hy, -⟩ := hpassing.meets (List.getElem?_eq_getElem hi)
  exact (List.getElem?_eq_some_iff.1 hy).1

/-! ### The operations of a comparison -/

theorem ensures_filterGapOps (ops : List FieldOp) :
    Ensures P (filterGapOps ops) fun reported => answer (filterGapOps ops) = .ok reported :=
  (Follows.filterGapOps (Q := anyMemory) ops).mono fun _ hreturns => hreturns.answer_eq trivial

theorem returns_filterGapOps {ops reported : List FieldOp}
    (hanswer : answer (filterGapOps ops) = .ok reported) :
    Returns P (filterGapOps ops) reported :=
  (Follows.filterGapOps (P := anyMemory) ops).of_answer trivial hanswer

private theorem eq_map_of_forall₂ {α β : Type} {R : α → β → Prop} {f : α → β}
    (hf : ∀ x y, R x y → y = f x) {xs : List α} {ys : List β} (hR : List.Forall₂ R xs ys) :
    ys = xs.map f := by
  induction hR with
  | nil => rfl
  | cons hxy _ ih => rw [List.map_cons, ← ih, hf _ _ hxy]

/-- The changes of all pairs decide what is reported. -/
theorem Ensures.alignVariables {compare : TypeComparison g h}
    {R : Variable g.Ref → Variable h.Ref → Option FieldChange → Prop}
    (hunique : ∀ x y c c', R x y c → R x y c' → c = c')
    (hfield : ∀ x y, Ensures P (fieldChange options compare x y) (R x y))
    (old : List (Variable g.Ref)) (updated : List (Variable h.Ref)) (allowAppend : Bool) :
    Ensures P (alignVariables options compare old updated allowAppend) fun reported =>
      ∃ change, (∀ x ∈ old, ∀ y ∈ updated, R x y (change x y)) ∧
        answer (filterGapOps (reportable allowAppend (operations change old updated))) =
          .ok reported := by
  classical
  let change (x : Variable g.Ref) (y : Variable h.Ref) : Option FieldChange :=
    if hc : ∃ c, R x y c then hc.choose else none
  have hchange (x y c) (hc : R x y c) : c = change x y := by
    have hex : ∃ c, R x y c := ⟨c, hc⟩
    simp only [change, dif_pos hex]
    exact hunique x y _ _ hc hex.choose_spec
  have hrow (x : Variable g.Ref) : Ensures P (do
        let changes ← updated.mapM fun y => fieldChange options compare x y
        return (x.map g.info, changes))
      fun row => row = (x.map g.info, updated.map (change x)) ∧
        ∀ y ∈ updated, R x y (change x y) := by
    apply (Ensures.mapM updated fun y _ => hfield x y).bind
    intro changes hchanges
    refine Ensures.pure ⟨by rw [eq_map_of_forall₂ (hchange x) hchanges], ?_⟩
    intro y hy
    obtain ⟨c, -, hR⟩ := exists_right_of_mem hchanges hy
    exact hchange x y c hR ▸ hR
  have hrows : Ensures P (old.mapM fun x => do
        let changes ← updated.mapM fun y => fieldChange options compare x y
        return (x.map g.info, changes))
      fun rows => rows = old.map (fun x => (x.map g.info, updated.map (change x))) ∧
        ∀ x ∈ old, ∀ y ∈ updated, R x y (change x y) := by
    apply (Ensures.mapM old fun x _ => hrow x).mono
    intro rows hrows
    refine ⟨eq_map_of_forall₂ (fun x row hrow => hrow.1) hrows, ?_⟩
    intro x hx
    obtain ⟨row, -, hrow⟩ := exists_right_of_mem hrows hx
    exact hrow.2
  apply hrows.bind
  rintro rows ⟨rfl, hR⟩
  apply (Ensures.say _ _).bind
  intro _ _
  exact (ensures_filterGapOps _).mono fun reported hreported => ⟨change, hR, hreported⟩

/-- If the changes of all pairs are known, then so is what is reported. -/
theorem Returns.alignVariables {compare : TypeComparison g h}
    {change : Variable g.Ref → Variable h.Ref → Option FieldChange}
    {old : List (Variable g.Ref)} {updated : List (Variable h.Ref)} {allowAppend : Bool}
    {reported : List FieldOp}
    (hfield : ∀ x ∈ old, ∀ y ∈ updated,
      Returns P (fieldChange options compare x y) (change x y))
    (hreported : answer (filterGapOps (reportable allowAppend (operations change old updated))) =
      .ok reported) :
    Returns P (alignVariables options compare old updated allowAppend) reported := by
  have hrow (x : Variable g.Ref) (hx : x ∈ old) :
      Returns P (updated.mapM fun y => fieldChange options compare x y)
        (updated.map (change x)) :=
    Returns.mapM (List.forall₂_map_right_iff.2 (List.forall₂_same.2 fun y hy => hfield x hx y hy))
  have hrows : Returns P (old.mapM fun x => do
        let changes ← updated.mapM fun y => fieldChange options compare x y
        return (x.map g.info, changes))
      (old.map fun x => (x.map g.info, updated.map (change x))) :=
    Returns.mapM (List.forall₂_map_right_iff.2 (List.forall₂_same.2 fun x hx =>
      (hrow x hx).bind (Returns.pure _)))
  exact hrows.bind ((Returns.say _ _).bind (returns_filterGapOps hreported))

/-! ### What a change costs -/

/-- No change of a variable costs less than nothing. -/
theorem price_costOf_nonneg (change : Option FieldChange) : 0 ≤ price costOf change := by
  apply price_nonneg
  intro c n hn
  unfold costOf at hn
  split at hn
  · exact Int.le_of_eq (Option.some_inj.1 hn)
  · split at hn
    · exact Int.le_of_eq (Option.some_inj.1 hn)
    · cases hn
  · cases hn

theorem endsAligned_eq_true_iff {c : FieldChange} :
    endsAligned c = true ↔ c.updated.endsWith c.old = .ok true := by
  unfold endsAligned
  rcases c.updated.endsWith c.old with e | _ | _ <;> simp

/-- What uses up a gap is as good as no change. -/
theorem price_costOf_eq_zero_iff {change : Option FieldChange} :
    price costOf change = 0 ↔ ∀ c, change = some c → c.ConsumesGap := by
  cases change with
  | none => simp
  | some c =>
      obtain ⟨old, updated, difference⟩ := c
      rw [price_some]
      cases difference with
      | finishGap => simp [costOf, FieldChange.difference, FieldChange.ConsumesGap]
      | shrinkGap shrink =>
          have haligned := endsAligned_eq_true_iff (c := .mk old updated (.shrinkGap shrink))
          by_cases hends : endsAligned (.mk old updated (.shrinkGap shrink)) = true
          · refine iff_of_true ?_ ?_
            · simp [costOf, FieldChange.difference, hends]
            · rintro _ ⟨⟩
              exact haligned.1 hends
          · refine iff_of_false ?_ fun hgap => hends (haligned.2 (hgap _ rfl))
            simp [costOf, FieldChange.difference, hends, changeCost]
      | _ => simp [costOf, FieldChange.difference, FieldChange.ConsumesGap, changeCost]

/-! ### Partners -/

theorem mem_operations {change : Variable g.Ref → Variable h.Ref → Option FieldChange}
    {old : List (Variable g.Ref)} {updated : List (Variable h.Ref)} {op : FieldOp} :
    op ∈ operations change old updated ↔
      ∃ raw ∈ (cheapest change costOf old.reverse updated.reverse).ops change true,
        raw.map (·.map g.info) (·.map h.info) = op := by
  rw [operations, ofChanges_eq_ops_cheapest, List.mem_reverse, List.mem_map]

theorem mem_reportable {allowAppend : Bool} {ops : List FieldOp} {op : FieldOp} :
    op ∈ reportable allowAppend ops ↔ op ∈ ops ∧ (allowAppend = true → op.isAppend = false) := by
  cases allowAppend <;> simp [reportable]

/-- If nothing is reported, every old variable has a partner. -/
theorem exists_passing {change : Variable g.Ref → Variable h.Ref → Option FieldChange}
    {old : List (Variable g.Ref)} {updated : List (Variable h.Ref)} {allowAppend : Bool}
    (hnil : answer (filterGapOps (reportable allowAppend (operations change old updated))) =
      .ok []) :
    ∃ partner, Passing change old updated allowAppend partner := by
  have hdropped (raw) (hraw : raw ∈ (cheapest change costOf old.reverse updated.reverse).ops
      change true) (hkeep : allowAppend = true → (raw.map (·.map g.info) (·.map h.info) :
        FieldOp).isAppend = false) :
      Dropped (reportable allowAppend (operations change old updated))
        (raw.map (·.map g.info) (·.map h.info)) :=
    dropped_of_answer_nil hnil _ (mem_reportable.2 ⟨mem_operations.2 ⟨raw, hraw, rfl⟩, hkeep⟩)
  obtain ⟨partner, hmatches⟩ := (cheapest change costOf old.reverse updated.reverse).exists_matches
    true fun x hx => by
      rcases hdropped _ hx fun _ => rfl with ⟨c, hc, -⟩ | ⟨v, c, hv, -⟩
      · cases hc
      · cases hv
  rw [List.reverse_reverse, List.reverse_reverse] at hmatches
  refine ⟨partner, hmatches.increasing, ?_, ?_⟩
  · intro i x hx
    obtain ⟨y, hy, hop⟩ := hmatches.meets hx
    refine ⟨y, hy, ?_⟩
    intro c hc
    rcases hdropped _ (hop c hc) fun _ => rfl with ⟨c', hc', hconsumes⟩ | ⟨v, c', hv, -⟩
    · cases hc'
      exact hconsumes
    · cases hv
  · intro j y hy
    rcases hmatches.others hy with hpartner | hinsert | ⟨happend, hbehind⟩
    · exact .inl hpartner
    · right; left
      rcases hdropped _ hinsert fun _ => rfl with ⟨c, hc, -⟩ | ⟨v, c, hv, hmem, hconsumes, hwithin⟩
      · cases hc
      · cases hv
        obtain ⟨raw, hraw, hmap⟩ := mem_operations.1 (mem_reportable.1 hmem).1
        cases raw with
        | change c' =>
            cases hmap
            obtain ⟨i, x, z, hx, hz, hxz⟩ := hmatches.changes hraw
            exact ⟨i, x, z, c, hx, hz, hxz, hconsumes, hwithin⟩
        | _ => cases hmap
    · right; right
      refine ⟨?_, hbehind⟩
      by_contra hno
      rcases hdropped _ happend fun h => absurd h hno with ⟨c, hc, -⟩ | ⟨v, c, hv, -⟩
      · cases hc
      · cases hv

end StorageUpgrade.Comparator
