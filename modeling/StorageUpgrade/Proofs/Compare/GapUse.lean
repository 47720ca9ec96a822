import StorageUpgrade.Proofs.Alignment.Blocks
import StorageUpgrade.Proofs.Compare.Compatible
import StorageUpgrade.Proofs.Compare.Positions

/-!
# Using up storage gaps

A storage gap is meant to be used up by later versions: new variables take its place from the front,
and a shorter gap, or a last new variable, ends where it ended.  `Extends` describes layouts that
are made from another one in this way.  If variables are then added at the end, and the comparison
makes no error, nothing is reported (`passes_of_extends`).

The updated variables come in blocks, one for each old variable.  A new variable inside a gap ends
before the gap does, so no old variable meets it at no cost, and the table finds the blocks.
-/

namespace StorageUpgrade

/-- A variable ends before another one begins, which is not empty. -/
def Variable.Precedes (v w : TypedVariable) : Prop :=
  ∃ last first end', v.end? = .ok (some last) ∧ w.start? = .ok (some first) ∧
    w.end? = .ok (some end') ∧ last ≤ first ∧ first < end'

namespace Variable

instance (v w : TypedVariable) : Decidable (v.Precedes w) :=
  decidable_of_iff ((match v.end?, w.start?, w.end? with
    | .ok (some last), .ok (some first), .ok (some end') => decide (last ≤ first ∧ first < end')
    | _, _, _ => false) = true) (by
      unfold Precedes
      rcases v.end? with e | _ | last <;> rcases w.start? with e' | _ | first <;>
        rcases w.end? with e'' | _ | end' <;> simp)

variable {gap v w : TypedVariable}

theorem exists_span_of_end? {last : Int} (hend : v.end? = .ok (some last)) :
    ∃ span, v.span = .ok span := by
  have hend' := hend
  unfold end? at hend
  obtain ⟨start, hstart, -⟩ := exists_of_bind_ok hend
  exact ⟨(start, some last), by rw [span, hstart, hend']; rfl⟩

theorem isPlaced_of_end? {last : Int} (hend : v.end? = .ok (some last)) : v.isPlaced = true := by
  unfold end? at hend
  obtain ⟨start, hstart, hend⟩ := exists_of_bind_ok hend
  split at hend
  · rename_i hsize
    unfold start? at hstart
    split at hstart
    · rename_i hslot hoffset
      simp [isPlaced, hslot, hoffset, hsize]
    · cases hstart
  · cases hend

/-- What precedes the variable that takes the end of a gap does not end there. -/
theorem Precedes.not_sameEnd (hprecedes : v.Precedes w) (hends : SameEnd gap w) :
    ¬ SameEnd gap v := by
  obtain ⟨last, first, end', hlast, hfirst, hend', hle, hlt⟩ := hprecedes
  obtain ⟨gapLast, hgap, hw⟩ := hends
  rintro ⟨vLast, hgap', hv⟩
  rw [hlast] at hv
  rw [hend'] at hw
  rw [hgap] at hgap'
  cases hv
  cases hw
  cases hgap'
  omega

end Variable

namespace Comparator

open StorageUpgrade.Alignment

variable {options : CompareOptions} {g h : TypeGraph}

/-! ### Layouts that use up gaps -/

/-- An array is followed by a shorter one. -/
structure GetsShorter (g h : TypeGraph) (old : g.Ref) (updated : h.Ref) : Prop where
  oldHead : (g.info old).head = "t_array"
  newHead : (h.info updated).head = "t_array"
  oldArgs : (g.node old).args.isSome = true
  newArgs : (h.node updated).args.isSome = true
  length : ∃ m n, ArrayLength (g.info old) m ∧ ArrayLength (h.info updated) n ∧ n < m

/-- Some new variables and a last one, all of them within a gap, use it up: the last one ends where
the gap did, and it is a shorter gap or a variable of another type and name.  None of those that are
named like the gap may be taken for it because both are labelled like bytes. -/
structure FillsGap (options : CompareOptions) (g h : TypeGraph) (gap : Variable g.Ref)
    (new : List (Variable h.Ref)) (last : Variable h.Ref) : Prop where
  isGap : (gap.map g.info).isGap = true
  within : ∀ v ∈ new, (v.map h.info).LiesWithin (gap.map g.info)
  precedes : ∀ v ∈ new, (v.map h.info).Precedes (last.map h.info)
  sameEnd : Variable.SameEnd (gap.map g.info) (last.map h.info)
  notRenamed : ∀ v ∈ last :: new, v.renamedFrom = .null
  notRetyped : last.retypedFrom = .null
  noBytes : ∀ v ∈ last :: new, v.label = .str gapLabel →
    ¬ Variable.BytePair (gap.map g.info) (v.map h.info)
  shorterOrOther :
    last.label = .str gapLabel ∧ GetsShorter g h gap.type last.type ∨
      last.label ≠ .str gapLabel ∧
        ∃ change, answer (compareTypes options g h gap.type last.type false) = .ok (some change)

/-- Variables that are made from others by keeping them, and by using up gaps among them. -/
inductive Extends (options : CompareOptions) (g h : TypeGraph) :
    List (Variable g.Ref) → List (Variable h.Ref) → Prop
  | nil : Extends options g h [] []
  | keep {old : List (Variable g.Ref)} {updated : List (Variable h.Ref)} {x : Variable g.Ref}
      {y : Variable h.Ref} (hextends : Extends options g h old updated)
      (hkept : fieldChange? options g h x y = .ok none) :
      Extends options g h (old ++ [x]) (updated ++ [y])
  | fill {old : List (Variable g.Ref)} {updated new : List (Variable h.Ref)} {x : Variable g.Ref}
      {y : Variable h.Ref} (hextends : Extends options g h old updated)
      (hfills : FillsGap options g h x new y) :
      Extends options g h (old ++ [x]) (updated ++ new ++ [y])

/-! ### What uses up a gap -/

/-- A change of the length of an array is found before its elements are looked at. -/
theorem returns_compareNodes_of_sizeChange {P : MemoryProp} {compare : TypeComparison g h}
    {old : TypeNode g.Ref} {updated : TypeNode h.Ref} {was : List g.Ref} {is : List h.Ref}
    {reason : Mismatch} (hold : old.head = "t_array") (hupdated : updated.head = "t_array")
    (hbytes : ¬ (isByteLabel old.label && isByteLabel updated.label) = true)
    (hwas : old.args = some was) (his : updated.args = some is)
    (hsize : sizeChange old.toTypeInfo updated.toTypeInfo false = .ok (some reason)) :
    Returns P (compareNodes options compare old updated false)
      (some (.mismatch reason old.toTypeInfo updated.toTypeInfo)) := by
  have hfunction : isFunction old.toTypeInfo = false := by
    rw [isFunction, hold]
    decide
  unfold compareNodes
  rw [hfunction, Bool.false_and, if_neg Bool.false_ne_true, if_neg hbytes]
  -- a type may not widen here, so the heads are compared
  refine Returns.bind (Returns.lift (a := false) rfl) ?_
  rw [if_neg Bool.false_ne_true, hold, hupdated, if_neg (not_not.2 rfl), hwas, his]
  dsimp only
  unfold compareApplied
  rw [hold, if_neg (by decide), if_neg (by decide), if_neg (by decide), if_neg (by decide),
    if_neg (by decide), if_pos rfl]
  exact Returns.bind (Returns.lift hsize) (Returns.pure _)

/-- An array that gets shorter is found to do so, unless both are labelled like bytes. -/
theorem settled_of_getsShorter {old : g.Ref} {updated : h.Ref}
    (hshorter : GetsShorter g h old updated)
    (hbytes : ¬ (isByteLabel (g.info old).label && isByteLabel (h.info updated).label) = true) :
    Settled options g h old updated false
      (some (.mismatch .arrayShrink (g.info old) (h.info updated))) := by
  obtain ⟨hold, hupdated, holdArgs, hnewArgs, m, n, hm, hn, hlt⟩ := hshorter
  obtain ⟨was, hwas⟩ := Option.isSome_iff_exists.1 holdArgs
  obtain ⟨is, his⟩ := Option.isSome_iff_exists.1 hnewArgs
  have hsize : sizeChange (g.info old) (h.info updated) false = .ok (some .arrayShrink) := by
    unfold sizeChange
    rw [hm.arraySize?_eq, hn.arraySize?_eq]
    dsimp only
    rw [if_neg (by simp [ofList_leadingDigits_ne_dyn]), String.toList_ofList, String.toList_ofList,
      hm.2, hn.2]
    simp [bind, Except.bind, hlt]
  exact ⟨1, returns_compareNodes_of_sizeChange hold hupdated hbytes hwas his hsize⟩

section

variable {old updated : TypedVariable}

theorem isRetyped_of_null (hretyped : updated.retypedFrom = .null) :
    isRetyped old updated = .ok false := by
  rw [isRetyped, hretyped]

theorem isRenamed_gap (hold : old.label = .str gapLabel) (hfrom : updated.renamedFrom = .null)
    (hrenames : options.allowRenames = false) :
    isRenamed options old updated = !updated.label.alike (.str gapLabel) := by
  simp [isRenamed, hold, hfrom, hrenames, alike_null, Json.isNull]

theorem FillsGap.gap_label {gap : Variable g.Ref} {new : List (Variable h.Ref)}
    {last : Variable h.Ref} (hfills : FillsGap options g h gap new last) :
    (gap.map g.info).label = .str gapLabel :=
  beq_iff_eq.1 ((Bool.and_eq_true _ _).mp hfills.isGap).1

variable (hg : g.Distinct) (hh : h.Distinct)

include hg hh

/-- What fills a gap together with the last variable uses it up. -/
theorem FillsGap.exists_consumesGap (hrenames : options.allowRenames = false) {x : Variable g.Ref}
    {new : List (Variable h.Ref)} {y : Variable h.Ref} {change : Option FieldChange}
    (hfills : FillsGap options g h x new y) (hchange : fieldChange? options g h x y = .ok change) :
    ∃ c, change = some c ∧ c.ConsumesGap ∧ c.old = x.map g.info := by
  obtain ⟨retyped, typeChange, difference, hretyped, hcases, hd, rfl⟩ :=
    fieldVerdict_of_fieldChange? hg hh hchange
  have hlabel := hfills.gap_label
  have hnotRenamed : y.renamedFrom = .null := hfills.notRenamed y List.mem_cons_self
  have hends := Variable.endsWith_ok_true_iff.2 hfills.sameEnd
  have hsettled : Settled options g h x.type y.type false typeChange := by
    rw [isRetyped_of_null hfills.notRetyped] at hretyped
    rcases hcases with ⟨rfl, -⟩ | ⟨-, hsettled⟩
    · cases hretyped
    · exact hsettled
  rcases hfills.shorterOrOther with ⟨hnew, hshorter⟩ | ⟨hnew, typeChange', hother⟩
  · have hbytes :
        ¬ (isByteLabel (g.info x.type).label && isByteLabel (h.info y.type).label) = true :=
      fun hbytes => hfills.noBytes y List.mem_cons_self hnew ((Bool.and_eq_true _ _).mp hbytes)
    obtain rfl := hsettled.unique (settled_of_getsShorter hshorter hbytes)
    have hgap : (y.map h.info).isGap = true := by
      simp only [Variable.isGap, Bool.and_eq_true, beq_iff_eq]
      exact ⟨hnew, hshorter.newHead⟩
    have hrenamed : isRenamed options (x.map g.info) (y.map h.info) = false := by
      rw [isRenamed_gap hlabel hnotRenamed hrenames, Variable.label_map, hnew]
      rfl
    rw [differenceOf_some (congrArg Json.isSet hfills.notRetyped), hrenamed,
      differenceOfTypes_shrinkGap_iff.2 ⟨rfl, rfl, hgap, rfl, true, hends⟩] at hd
    cases hd
    exact ⟨_, rfl, hends, rfl⟩
  · obtain rfl := hsettled.unique
      ((settled_of_typeChange hg hh _ _ _ _ _).of_answer faithful_nil hother)
    have hrenamed : isRenamed options (x.map g.info) (y.map h.info) = true := by
      rw [isRenamed_gap hlabel hnotRenamed hrenames, Bool.not_eq_true',
        Bool.eq_false_iff]
      exact fun halike => hnew (Json.eq_str_of_alike_str halike)
    rw [differenceOf_some (congrArg Json.isSet hfills.notRetyped), hrenamed,
      differenceOfTypes_finishGap_iff.2 ⟨rfl, hfills.isGap, hends⟩] at hd
    cases hd
    exact ⟨_, rfl, trivial, rfl⟩

/-- A variable that does not differ from a gap has its name. -/
theorem gap_label_of_unchanged (hrenames : options.allowRenames = false) {x : Variable g.Ref}
    {y : Variable h.Ref} (hx : (x.map g.info).label = .str gapLabel) (hfrom : y.renamedFrom = .null)
    (hchange : fieldChange? options g h x y = .ok none) : y.label = .str gapLabel := by
  obtain ⟨_, typeChange, difference, -, -, hd, hnone⟩ := fieldVerdict_of_fieldChange? hg hh hchange
  obtain rfl := Option.map_eq_none_iff.1 hnone.symm
  have hrenamed := (differenceOf_eq_none_iff.1 hd).2.1
  rw [isRenamed_gap hx hfrom hrenames, Bool.not_eq_false'] at hrenamed
  exact Json.eq_str_of_alike_str hrenamed

/-- A new variable inside a gap is not met by the gap at no cost. -/
theorem FillsGap.price_ne_zero (hrenames : options.allowRenames = false) {x : Variable g.Ref}
    {new : List (Variable h.Ref)} {y z : Variable h.Ref} {change : Option FieldChange}
    (hfills : FillsGap options g h x new y) (hz : z ∈ new)
    (hchange : fieldChange? options g h x z = .ok change) :
    price costOf change ≠ 0 := by
  intro hprice
  have hgap := price_costOf_eq_zero_iff.1 hprice
  have hends := (hfills.precedes z hz).not_sameEnd hfills.sameEnd
  obtain ⟨last, -, -, hlast, -⟩ := hfills.precedes z hz
  obtain ⟨gapLast, hgapLast, -⟩ := hfills.sameEnd
  have hmem : z ∈ y :: new := List.mem_cons_of_mem _ hz
  -- a meeting is free if the two do not differ, or if the gap is used up: both take its end
  cases change with
  | none =>
      rcases samePlace_of_unchanged hg hh (Variable.isPlaced_of_end? hgapLast)
        (Variable.isPlaced_of_end? hlast) hchange with hbytes | hsame
      · have hlabel : z.label = .str gapLabel :=
          gap_label_of_unchanged hg hh hrenames hfills.gap_label (hfills.notRenamed z hmem) hchange
        exact hfills.noBytes z hmem hlabel hbytes
      · exact hends ⟨last, hsame.end?_eq.trans hlast, hlast⟩
  | some c =>
      obtain ⟨-, haligned, -⟩ := (fieldVerdict_of_fieldChange? hg hh hchange).gap (hgap c rfl)
      exact hends (Variable.endsWith_ok_true_iff.1 haligned)

end

/-! ### The blocks of an extension -/

/-- An old variable is succeeded by new ones and one that it meets at no cost.  If the two differ,
then a gap is used up, and the new variables lie within it; they do not exist otherwise. -/
structure GapBlock (change : Variable g.Ref → Variable h.Ref → Option FieldChange)
    (x : Variable g.Ref) (new : List (Variable h.Ref)) (y : Variable h.Ref) : Prop where
  last : ∀ c, change x y = some c → c.ConsumesGap ∧ ∃ span, c.old.span = .ok span
  new : ∀ z ∈ new, price costOf (change x z) ≠ 0 ∧
    ∃ c, change x y = some c ∧ (z.map h.info).LiesWithin c.old

theorem separated_gapBlock (change : Variable g.Ref → Variable h.Ref → Option FieldChange) :
    Separated change costOf (GapBlock change) where
  nonneg x y := price_costOf_nonneg (change x y)
  last _ _ _ hblock := price_costOf_eq_zero_iff.2 fun c hc => (hblock.last c hc).1
  new _ _ _ hblock z hz := (hblock.new z hz).1

theorem Extends.blocks (hg : g.Distinct) (hh : h.Distinct) (hrenames : options.allowRenames = false)
    {change : Variable g.Ref → Variable h.Ref → Option FieldChange} {old : List (Variable g.Ref)}
    {updated : List (Variable h.Ref)} (hextends : Extends options g h old updated)
    (hchange : ∀ x ∈ old, ∀ y ∈ updated, fieldChange? options g h x y = .ok (change x y)) :
    Blocks (GapBlock change) old.reverse updated.reverse := by
  induction hextends with
  | nil => exact .nil
  | @keep old updated x y _ hkept ih =>
      have hxy := hchange x (by simp) y (by simp)
      rw [hkept] at hxy
      have hblock : GapBlock change x [] y := by
        refine ⟨?_, nofun⟩
        intro c hc
        rw [← Except.ok.inj hxy] at hc
        cases hc
      rw [List.reverse_append, List.reverse_append]
      exact .cons hblock (ih fun x hx y hy => hchange x (List.mem_append_left _ hx) y
        (List.mem_append_left _ hy))
  | @fill old updated new x y _ hfills ih =>
      obtain ⟨c, hc, hconsumes, hold⟩ := hfills.exists_consumesGap hg hh hrenames
        (hchange x (by simp) y (by simp))
      have hblock : GapBlock change x new y := by
        constructor
        · intro c' hc'
          rw [hc] at hc'
          cases hc'
          obtain ⟨last, hlast, -⟩ := hfills.sameEnd
          exact ⟨hconsumes, hold ▸ Variable.exists_span_of_end? hlast⟩
        · intro z hz
          have hxz := hchange x (by simp) z (by simp [hz])
          exact ⟨hfills.price_ne_zero hg hh hrenames hz hxz, c, hc, hold ▸ hfills.within z hz⟩
      rw [List.reverse_append, List.reverse_append, List.reverse_append]
      exact .cons hblock (ih fun x hx y hy => hchange x (List.mem_append_left _ hx) y
        (List.mem_append_left _ (List.mem_append_left _ hy)))

/-- The operations of an alignment in blocks are not reported. -/
theorem answer_nil_of_blocks {change : Variable g.Ref → Variable h.Ref → Option FieldChange}
    {old : List (Variable g.Ref)} {kept appended : List (Variable h.Ref)}
    (hblocks : Blocks (GapBlock change) old.reverse kept.reverse) :
    answer (filterGapOps (reportable true (operations change old (kept ++ appended)))) =
      .ok [] := by
  have hseparated := separated_gapBlock change
  have hops {raw} : raw ∈ (cheapest change costOf old.reverse (kept ++ appended).reverse).ops
      change true ↔ raw ∈ (cheapest change costOf old.reverse kept.reverse).ops change true ∨
        ∃ z ∈ appended.reverse, raw = .append z := by
    rw [List.reverse_append, cheapest_append_of_free hseparated.nonneg _ (hblocks.free hseparated)]
    exact Path.mem_ops_addAll
  have hkept {c : FieldChange}
      (hc : Op.change c ∈ (cheapest change costOf old.reverse kept.reverse).ops change true) :
      Op.change c ∈ reportable true (operations change old (kept ++ appended)) := by
    exact mem_reportable.2 ⟨mem_operations.2 ⟨.change c, hops.2 (.inl hc), rfl⟩, fun _ => rfl⟩
  have hmem (op) (hop : op ∈ reportable true (operations change old (kept ++ appended))) :
      ∃ raw ∈ (cheapest change costOf old.reverse kept.reverse).ops change true,
        raw.map (·.map g.info) (·.map h.info) = op := by
    obtain ⟨hop, hnot⟩ := mem_reportable.1 hop
    obtain ⟨raw, hraw, rfl⟩ := mem_operations.1 hop
    rcases hops.1 hraw with hraw | ⟨z, -, rfl⟩
    · exact ⟨raw, hraw, rfl⟩
    · -- what is appended is not reported
      cases hnot rfl
  apply answer_filterGapOps_nil
  · intro op hop
    obtain ⟨raw, hraw, rfl⟩ := hmem op hop
    obtain ⟨x, new, y, hblock, hchanges, hkind⟩ := hblocks.mem_ops hseparated hraw
    rcases hkind with ⟨c, hc, rfl⟩ | ⟨z, hz, rfl⟩
    · exact .inl ⟨c, rfl, (hblock.last c hc).1⟩
    · obtain ⟨-, c, hc, hwithin⟩ := hblock.new z hz
      exact .inr ⟨z.map h.info, c, rfl, hkept (hchanges c hc), (hblock.last c hc).1, hwithin⟩
  · intro c hc
    obtain ⟨raw, hraw, hmap⟩ := hmem _ hc
    obtain ⟨x, new, y, hblock, -, hkind⟩ := hblocks.mem_ops hseparated hraw
    rcases hkind with ⟨c', hc', rfl⟩ | ⟨z, -, rfl⟩
    · cases hmap
      exact (hblock.last c hc').2
    · cases hmap

/-- Nothing is reported of an upgrade that keeps variables, uses up gaps and adds variables at the
end, if the comparison makes no error. -/
theorem passes_of_extends {old updated : DetailedLayout} (hg : old.graph.Distinct)
    (hh : updated.graph.Distinct) (hrenames : options.allowRenames = false)
    {kept appended : List (Variable updated.graph.Ref)}
    (hextends : Extends options old.graph updated.graph old.vars kept)
    (hupdated : updated.vars = kept ++ appended)
    (hcompared : ∃ reported, answer (compareLayouts options old updated) = .ok reported) :
    Passes options old updated := by
  obtain ⟨reported, hanswer⟩ := hcompared
  obtain ⟨change, hchange, -⟩ := exists_of_answer_align hg hh hanswer
  have hblocks : Blocks (GapBlock change) old.vars.reverse kept.reverse :=
    hextends.blocks hg hh hrenames fun x hx y hy =>
      hchange x hx y (hupdated ▸ List.mem_append_left _ hy)
  refine (answer_align_iff hg hh hchange).2 ?_
  rw [hupdated]
  exact answer_nil_of_blocks hblocks

/-- A second number takes the first half of the gap of `gapLayout`. -/
theorem fillsGap_gapLayout :
    FillsGap {} gapLayout.graph usedGapLayout.graph (gapLayout.vars.get ⟨1, by decide⟩)
      [usedGapLayout.vars.get ⟨1, by decide⟩] (usedGapLayout.vars.get ⟨2, by decide⟩) where
  isGap := by decide
  within v hv := by
    obtain rfl := List.mem_singleton.1 hv
    exact ⟨32, 64, 32, 96, by decide +kernel, by decide +kernel, by decide, by decide⟩
  precedes v hv := by
    obtain rfl := List.mem_singleton.1 hv
    exact ⟨64, 64, 96, by decide +kernel, by decide +kernel, by decide +kernel, by decide,
      by decide⟩
  sameEnd := by decide +kernel
  notRenamed := by decide
  notRetyped := by decide
  noBytes := by decide
  shorterOrOther := by
    refine .inl ⟨by decide, by decide, by decide, by decide, by decide, 2, 1, ?_, ?_, by decide⟩
    · exact ⟨by decide +kernel, by decide +kernel⟩
    · exact ⟨by decide +kernel, by decide +kernel⟩

theorem passes_usedGapLayout_of_extends : Passes {} gapLayout usedGapLayout := by
  have hkept : Extends {} gapLayout.graph usedGapLayout.graph [gapLayout.vars.get ⟨0, by decide⟩]
      [usedGapLayout.vars.get ⟨0, by decide⟩] :=
    .keep .nil (by decide +kernel)
  have hupdated : usedGapLayout.vars = [usedGapLayout.vars.get ⟨0, by decide⟩] ++
      [usedGapLayout.vars.get ⟨1, by decide⟩] ++ [usedGapLayout.vars.get ⟨2, by decide⟩] ++
        [usedGapLayout.vars.get ⟨3, by decide⟩] := rfl
  exact passes_of_extends (DetailedLayout.distinct_ofTable (by decide))
    (DetailedLayout.distinct_ofTable (by decide)) rfl (hkept.fill fillsGap_gapLayout) hupdated
    ⟨[], passes_gapLayout_usedGapLayout⟩

/-- A new comparator reports something of an upgrade. -/
def Reports (options : CompareOptions) (old updated : DetailedLayout) : Prop :=
  ∃ op ops, answer (compareLayouts options old updated) = .ok (op :: ops)

instance (old updated : DetailedLayout) : Decidable (Reports options old updated) :=
  match hanswer : answer (compareLayouts options old updated) with
  | .ok (op :: ops) => isTrue ⟨op, ops, hanswer⟩
  | .ok [] => isFalse fun ⟨_, _, hreports⟩ => nomatch hanswer.symm.trans hreports
  | .error _ => isFalse fun ⟨_, _, hreports⟩ => nomatch hanswer.symm.trans hreports

/-- A gap for two structs whose members are not recorded. -/
def structGapLayout : DetailedLayout :=
  .ofTable [("t_array(t_struct(S)1_storage)2_storage",
        { label := .str "struct S[2]", numberOfBytes := some "64" }),
      ("t_struct(S)1_storage", { label := .str "struct S", numberOfBytes := some "32" })]
    [{ label := .str "__gap", type := ⟨0, by decide⟩, slot := some "0", offset := some 0 }]

/-- Numbers, gaps for three of them and for two, which are labelled like numbers of one byte, and
such numbers. -/
def byteGapTypes : List (String × TypeEntry) :=
  [("t_uint256", { label := .str "uint256", numberOfBytes := some "32" }),
    ("t_array(t_uint256)3_storage", { label := .str "uint8", numberOfBytes := some "96" }),
    ("t_array(t_uint256)2_storage", { label := .str "uint8", numberOfBytes := some "64" }),
    ("t_uint8", { label := .str "uint8", numberOfBytes := some "1" })]

/-- A gap for three numbers. -/
def unusedByteGapLayout : DetailedLayout :=
  .ofTable byteGapTypes
    [{ label := .str "__gap", type := ⟨1, by decide⟩, slot := some "0", offset := some 0 }]

/-- A number, and a gap for two that ends where the gap for three did. -/
def usedByteGapLayout : DetailedLayout :=
  .ofTable byteGapTypes
    [{ label := .str "a", type := ⟨0, by decide⟩, slot := some "0", offset := some 0 },
      { label := .str "__gap", type := ⟨2, by decide⟩, slot := some "1", offset := some 0 }]

/-- Two numbers where the gap for three was, and a byte between them that is named like the gap. -/
def renamedByteGapLayout : DetailedLayout :=
  .ofTable byteGapTypes
    [{ label := .str "a", type := ⟨0, by decide⟩, slot := some "0", offset := some 0 },
      { label := .str "__gap", type := ⟨3, by decide⟩, slot := some "1", offset := some 0 },
      { label := .str "b", type := ⟨0, by decide⟩, slot := some "2", offset := some 0 }]

/-- It is not enough that a gap is kept as it is, since its type may be rejected even then, nor that
it is used up properly, if it and a new variable of its name are labelled like bytes. -/
theorem reports_of_structGap_and_byteGap :
    Reports {} structGapLayout structGapLayout ∧
      Reports {} unusedByteGapLayout usedByteGapLayout ∧
        Reports {} unusedByteGapLayout renamedByteGapLayout := by
  decide +kernel

end Comparator
end StorageUpgrade
