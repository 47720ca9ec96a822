import StorageUpgrade.Proofs.Alignment.Earliest
import StorageUpgrade.Proofs.Compare.GapUse

/-!
# Partners of a more lenient comparison

Two comparisons find changes of the same variables.  If what is free for the stricter one is the
same for the more lenient one, then this one may find other partners, because more pairs of
variables match.  It finds earlier ones, if any (`Earliest.earliest`), and what becomes of the
others must be seen: an upgrade of which the stricter comparison reports nothing passes the more
lenient one as well (`Relaxed.answer_nil`), if the updated variables stand in order and a gap that
is used up does not match anything before the end of the gap.

## Strategy

Let `p` be the partners for the stricter comparison, and `q` those for the more lenient one.

* A variable that uses up a gap stays the partner of that gap (`Relaxed.partner_eq`), because what
  stands before it ends before the gap does.
* If a variable has an earlier partner in `q` than in `p`, then the earlier one lies within a gap
  further on that is used up (`Relaxed.within_of_lt`).  It was not appended; if it was inserted,
  then within a gap, and if it was the partner of a variable before, then that one has an earlier
  partner as well, and the gap of the earlier one goes on until its end.
* Hence what is nobody's partner in `q` lies within a gap that is used up, or behind everything
  (`Relaxed.within_of_free`).
-/

namespace StorageUpgrade

namespace Variable

/-- The place of a variable is known, and it is not empty. -/
def IsNonempty (v : TypedVariable) : Prop :=
  ∃ first last, v.start? = .ok (some first) ∧ v.end? = .ok (some last) ∧ first < last

/-- Variables that are not empty, each of which ends before the next ones begin. -/
structure InOrder (vs : List TypedVariable) : Prop where
  nonempty : ∀ v ∈ vs, v.IsNonempty
  precedes : vs.Pairwise Precedes

instance (v : TypedVariable) : Decidable v.IsNonempty :=
  decidable_of_iff ((match v.start?, v.end? with
    | .ok (some first), .ok (some last) => decide (first < last)
    | _, _ => false) = true) (by
      unfold IsNonempty
      rcases v.start? with e | _ | first <;> rcases v.end? with e' | _ | last <;> simp)

instance (vs : List TypedVariable) : Decidable (InOrder vs) :=
  decidable_of_iff ((∀ v ∈ vs, v.IsNonempty) ∧ vs.Pairwise Precedes)
    ⟨fun ⟨nonempty, precedes⟩ => ⟨nonempty, precedes⟩, fun h => ⟨h.nonempty, h.precedes⟩⟩

variable {gap v w z : TypedVariable}

theorem span_eq_ok_iff {first last : Option Int} :
    v.span = .ok (first, last) ↔ v.start? = .ok first ∧ v.end? = .ok last := by
  unfold span
  rcases v.start? with e | first' <;> rcases v.end? with e' | last' <;> simp [bind, Except.bind]

/-- What stands between a variable within a gap and the one that takes the end of the gap lies
within the gap, too. -/
theorem LiesWithin.of_between (hwithin : v.LiesWithin gap) (hnonempty : v.IsNonempty)
    (hvw : v.Precedes w) (hwz : w.Precedes z) (hends : SameEnd gap z) : w.LiesWithin gap := by
  obtain ⟨first, last, hfirst, hlast, hlt⟩ := hnonempty
  obtain ⟨vFirst, vLast, gapFirst, gapLast, hv, hgap, hge, -⟩ := hwithin
  obtain ⟨vEnd, wFirst, wLast, hvEnd, hwFirst, hwLast, hvw, -⟩ := hvw
  obtain ⟨wEnd, zFirst, zLast, hwEnd, -, hzLast, hwz, hz⟩ := hwz
  obtain ⟨common, hgapEnd, hzEnd⟩ := hends
  obtain ⟨hvFirst, -⟩ := span_eq_ok_iff.1 hv
  obtain ⟨-, hgapLast⟩ := span_eq_ok_iff.1 hgap
  cases hfirst.symm.trans hvFirst
  cases hlast.symm.trans hvEnd
  cases hwLast.symm.trans hwEnd
  cases hgapLast.symm.trans hgapEnd
  cases hzLast.symm.trans hzEnd
  exact ⟨wFirst, wLast, gapFirst, gapLast, span_eq_ok_iff.2 ⟨hwFirst, hwLast⟩, hgap, by omega,
    by omega⟩

/-- What stands behind the variable that takes the end of a gap does not lie within the gap. -/
theorem Precedes.not_liesWithin (hprecedes : z.Precedes v) (hends : SameEnd gap z) :
    ¬ v.LiesWithin gap := by
  rintro ⟨vFirst, vLast, gapFirst, gapLast, hv, hgap, -, hle⟩
  obtain ⟨zEnd, first, last, hzEnd, -, hlast, hzv, hlt⟩ := hprecedes
  obtain ⟨common, hgapEnd, hzEnd'⟩ := hends
  obtain ⟨-, hvLast⟩ := span_eq_ok_iff.1 hv
  obtain ⟨-, hgapLast⟩ := span_eq_ok_iff.1 hgap
  cases hzEnd.symm.trans hzEnd'
  cases hlast.symm.trans hvLast
  cases hgapLast.symm.trans hgapEnd
  omega

end Variable

namespace Comparator

open StorageUpgrade.Alignment

variable {g h : TypeGraph}

/-- The changes that a stricter and a more lenient comparison find.  What is free for the stricter
one is the same for the other; what uses up a gap in either takes its end; and a gap that is used up
for the stricter one does not match what precedes the variable that takes its end. -/
structure Relaxed (change change' : Variable g.Ref → Variable h.Ref → Option FieldChange)
    (old : List (Variable g.Ref)) (updated : List (Variable h.Ref)) : Prop where
  same : ∀ x ∈ old, ∀ y ∈ updated, price costOf (change x y) = 0 → change' x y = change x y
  ends : ∀ x ∈ old, ∀ y ∈ updated, ∀ c, change x y = some c ∨ change' x y = some c →
    c.ConsumesGap → Variable.SameEnd (x.map g.info) (y.map h.info) ∧ c.old = x.map g.info
  late : ∀ x ∈ old, ∀ y ∈ updated, ∀ z ∈ updated, ∀ c, change x z = some c → c.ConsumesGap →
    price costOf (change' x y) = 0 → ¬ (y.map h.info).Precedes (z.map h.info)
  inOrder : ∀ x ∈ old, ∀ y ∈ updated, ∀ c, change x y = some c → c.ConsumesGap →
    Variable.InOrder (updated.map (·.map h.info))

/-- An old variable is given up for its partner, with the given change. -/
structure GivesUp (change : Variable g.Ref → Variable h.Ref → Option FieldChange)
    (old : List (Variable g.Ref)) (updated : List (Variable h.Ref)) (partner : Nat → Nat) (i : Nat)
    (x : Variable g.Ref) (z : Variable h.Ref) (c : FieldChange) : Prop where
  old : old[i]? = some x
  updated : updated[partner i]? = some z
  change : change x z = some c
  consumes : c.ConsumesGap

section

variable {change change' : Variable g.Ref → Variable h.Ref → Option FieldChange}
  {old : List (Variable g.Ref)} {updated : List (Variable h.Ref)} {allowAppend : Bool}
  {p q : Nat → Nat} {ops : List (Op (Variable g.Ref) (Variable h.Ref) FieldChange)}

theorem GivesUp.lt {i : Nat} {x : Variable g.Ref} {z : Variable h.Ref} {c : FieldChange}
    (hgives : GivesUp change old updated p i x z c) : i < old.length :=
  (List.getElem?_eq_some_iff.1 hgives.old).1

/-- The partners of a stricter comparison are a way to find the old variables for a more lenient
one. -/
theorem Relaxed.embeds (hrelaxed : Relaxed change change' old updated)
    (hpassing : Passing change old updated allowAppend p) :
    Embeds change' costOf old updated old.length p where
  increasing := hpassing.increasing
  meets i hi := by
    have hx := List.getElem?_eq_getElem hi
    obtain ⟨y, hy, hgap⟩ := hpassing.meets hx
    have hprice : price costOf (change old[i] y) = 0 := price_costOf_eq_zero_iff.2 hgap
    refine ⟨old[i], y, hx, hy, ?_⟩
    rw [hrelaxed.same _ (List.getElem_mem hi) y (List.mem_of_getElem? hy) hprice]
    exact hprice

variable (hrelaxed : Relaxed change change' old updated)
  (hpassing : Passing change old updated allowAppend p)
  (hearliest : Earliest change' costOf old updated ops true q)

include hrelaxed

theorem Relaxed.change_eq {i : Nat} {x : Variable g.Ref} {z : Variable h.Ref} {c : FieldChange}
    (hgives : GivesUp change old updated p i x z c) : change' x z = some c := by
  have hprice : price costOf (change x z) = 0 := by
    rw [price_costOf_eq_zero_iff, hgives.change]
    rintro _ ⟨⟩
    exact hgives.consumes
  rw [hrelaxed.same x (List.mem_of_getElem? hgives.old) z (List.mem_of_getElem? hgives.updated)
    hprice, hgives.change]

theorem Relaxed.sameEnd {i : Nat} {x : Variable g.Ref} {z : Variable h.Ref} {c : FieldChange}
    (hgives : GivesUp change old updated p i x z c) : Variable.SameEnd c.old (z.map h.info) := by
  obtain ⟨hends, hold⟩ := hrelaxed.ends x (List.mem_of_getElem? hgives.old) z
    (List.mem_of_getElem? hgives.updated) c (.inl hgives.change) hgives.consumes
  rw [hold]
  exact hends

/-- If some gap is used up, the updated variables precede each other. -/
theorem Relaxed.precedes {i : Nat} {x : Variable g.Ref} {z : Variable h.Ref} {c : FieldChange}
    (hgives : GivesUp change old updated p i x z c) {j k : Nat} (hjk : j < k)
    {v w : Variable h.Ref} (hv : updated[j]? = some v) (hw : updated[k]? = some w) :
    (v.map h.info).Precedes (w.map h.info) := by
  have horder := hrelaxed.inOrder x (List.mem_of_getElem? hgives.old) z
    (List.mem_of_getElem? hgives.updated) c hgives.change hgives.consumes
  obtain ⟨hj, rfl⟩ := List.getElem?_eq_some_iff.1 hv
  obtain ⟨hk, rfl⟩ := List.getElem?_eq_some_iff.1 hw
  exact List.pairwise_iff_getElem.1 (List.pairwise_map.1 horder.precedes) j k hj hk hjk

/-- What stands between a variable within a gap and the partner of the gap lies within it, too. -/
theorem Relaxed.within_of_between {i : Nat} {x : Variable g.Ref} {z : Variable h.Ref}
    {c : FieldChange} (hgives : GivesUp change old updated p i x z c) {j k : Nat} (hjk : j < k)
    (hk : k < p i) {v w : Variable h.Ref} (hv : updated[j]? = some v) (hw : updated[k]? = some w)
    (hwithin : (v.map h.info).LiesWithin c.old) : (w.map h.info).LiesWithin c.old := by
  have horder := hrelaxed.inOrder x (List.mem_of_getElem? hgives.old) z
    (List.mem_of_getElem? hgives.updated) c hgives.change hgives.consumes
  have hnonempty := horder.nonempty _ (List.mem_map_of_mem (List.mem_of_getElem? hv))
  exact hwithin.of_between hnonempty (hrelaxed.precedes hgives hjk hv hw)
    (hrelaxed.precedes hgives hk hw hgives.updated) (hrelaxed.sameEnd hgives)

theorem Relaxed.le_of_within {i : Nat} {x : Variable g.Ref} {z : Variable h.Ref}
    {c : FieldChange} (hgives : GivesUp change old updated p i x z c) {j : Nat} {v : Variable h.Ref}
    (hv : updated[j]? = some v) (hwithin : (v.map h.info).LiesWithin c.old) : j ≤ p i := by
  by_contra hlt
  have hprecedes := hrelaxed.precedes hgives (Nat.lt_of_not_le hlt) hgives.updated hv
  exact hprecedes.not_liesWithin (hrelaxed.sameEnd hgives) hwithin

include hpassing hearliest

theorem Relaxed.partner_le {i : Nat} (hi : i < old.length) : q i ≤ p i :=
  hearliest.earliest (hrelaxed.embeds hpassing) i hi

/-- What takes the end of a gap stays its partner. -/
theorem Relaxed.partner_eq {i : Nat} {x : Variable g.Ref} {z : Variable h.Ref} {c : FieldChange}
    (hgives : GivesUp change old updated p i x z c) : q i = p i := by
  by_contra hne
  have hle := hrelaxed.partner_le hpassing hearliest hgives.lt
  obtain ⟨y, hy, -⟩ := hearliest.meets hgives.old
  have hprecedes := hrelaxed.precedes hgives (by omega) hy hgives.updated
  exact hrelaxed.late x (List.mem_of_getElem? hgives.old) y (List.mem_of_getElem? hy) z
    (List.mem_of_getElem? hgives.updated) c hgives.change hgives.consumes
    (hearliest.free hgives.old hy) hprecedes

/-- An earlier partner lies within a gap further on that is used up. -/
theorem Relaxed.within_of_lt (i : Nat) (hi : i < old.length) (hlt : q i < p i) :
    ∃ m x z c y, GivesUp change old updated p m x z c ∧ i < m ∧ updated[q i]? = some y ∧
      (y.map h.info).LiesWithin c.old := by
  induction i using Nat.strong_induction_on with
  | _ i ih =>
      obtain ⟨y, hy, -⟩ := hearliest.meets (List.getElem?_eq_getElem hi)
      rcases hpassing.others hy with ⟨k, hk, hpartner⟩ | hwithin | ⟨-, hbehind⟩
      · -- the earlier partner was that of a variable before
        have hki : k < i := by
          by_contra hik
          rcases Nat.lt_or_eq_of_le (Nat.le_of_not_lt hik) with hik | rfl
          · have := hpassing.increasing hik hk
            omega
          · omega
        have hqk : q k < q i := hearliest.increasing hki hi
        obtain ⟨m, x, z, c, v, hgives, hkm, hv, hwithin⟩ := ih k hki hk (by omega)
        have hqm : q m = p m := hrelaxed.partner_eq hpassing hearliest hgives
        have him : i < m := by
          by_contra hmi
          rcases Nat.lt_or_eq_of_le (Nat.le_of_not_lt hmi) with hmi | rfl
          · have hqmi := hearliest.increasing hmi hi
            have hpkm := hpassing.increasing hkm hgives.lt
            omega
          · omega
        have hqim : q i < q m := hearliest.increasing him hgives.lt
        exact ⟨m, x, z, c, y, hgives, him, hy,
          hrelaxed.within_of_between hgives hqk (by omega) hv hy hwithin⟩
      · obtain ⟨m, x, z, c, hx, hz, hc, hconsumes, hwithin⟩ := hwithin
        have hgives : GivesUp change old updated p m x z c := ⟨hx, hz, hc, hconsumes⟩
        have hqm : q m = p m := hrelaxed.partner_eq hpassing hearliest hgives
        have hle := hrelaxed.le_of_within hgives hy hwithin
        refine ⟨m, x, z, c, y, hgives, ?_, hy, hwithin⟩
        by_contra hmi
        rcases Nat.lt_or_eq_of_le (Nat.le_of_not_lt hmi) with hmi | rfl
        · have hqmi := hearliest.increasing hmi hi
          omega
        · omega
      · have := hbehind i hi
        omega

/-- What stands before the partner of some variable and is nobody's partner lies within a gap that
is used up. -/
theorem Relaxed.within_of_free {j : Nat} {y : Variable h.Ref} (hy : updated[j]? = some y)
    (hnot : ∀ i < old.length, q i ≠ j) (hbefore : allowAppend = true → ∃ i < old.length, j < q i) :
    ∃ m x z c, GivesUp change old updated p m x z c ∧ (y.map h.info).LiesWithin c.old ∧
      j < q m := by
  rcases hpassing.others hy with ⟨i, hi, rfl⟩ | hwithin | ⟨hallow, hbehind⟩
  · have hle := hrelaxed.partner_le hpassing hearliest hi
    have hne := hnot i hi
    obtain ⟨m, x, z, c, v, hgives, him, hv, hwithin⟩ :=
      hrelaxed.within_of_lt hpassing hearliest i hi (by omega)
    have hqm : q m = p m := hrelaxed.partner_eq hpassing hearliest hgives
    have hpim : p i < p m := hpassing.increasing him hgives.lt
    exact ⟨m, x, z, c, hgives, hrelaxed.within_of_between hgives (by omega) hpim hv hy hwithin,
      by omega⟩
  · obtain ⟨m, x, z, c, hx, hz, hc, hconsumes, hwithin⟩ := hwithin
    have hgives : GivesUp change old updated p m x z c := ⟨hx, hz, hc, hconsumes⟩
    have hqm : q m = p m := hrelaxed.partner_eq hpassing hearliest hgives
    have hle := hrelaxed.le_of_within hgives hy hwithin
    have hne := hnot m hgives.lt
    exact ⟨m, x, z, c, hgives, hwithin, by omega⟩
  · obtain ⟨i, hi, hlt⟩ := hbefore hallow
    have hle := hrelaxed.partner_le hpassing hearliest hi
    have := hbehind i hi
    omega

end

/-- If nothing is reported by a stricter comparison, then nothing is by the more lenient one. -/
theorem Relaxed.answer_nil {change change' : Variable g.Ref → Variable h.Ref → Option FieldChange}
    {old : List (Variable g.Ref)} {updated : List (Variable h.Ref)} {allowAppend : Bool}
    (hrelaxed : Relaxed change change' old updated)
    (hnil : answer (filterGapOps (reportable allowAppend (operations change old updated))) =
      .ok []) :
    answer (filterGapOps (reportable allowAppend (operations change' old updated))) = .ok [] := by
  obtain ⟨p, hpassing⟩ := exists_passing hnil
  have hfree : Free change' costOf old.reverse updated.reverse := by
    have hembeds := hrelaxed.embeds hpassing
    rw [← List.reverse_reverse old, ← List.reverse_reverse updated, List.length_reverse] at hembeds
    exact hembeds.free
  obtain ⟨q, hearliest⟩ :=
    exists_earliest (fun x y => price_costOf_nonneg (change' x y)) true hfree
  rw [List.reverse_reverse, List.reverse_reverse] at hearliest
  have hreportable {m : Nat} {x : Variable g.Ref} {z : Variable h.Ref} {c : FieldChange}
      (hgives : GivesUp change old updated p m x z c) :
      Op.change c ∈ reportable allowAppend (operations change' old updated) := by
    obtain ⟨w, hw, hop⟩ := hearliest.meets hgives.old
    rw [hrelaxed.partner_eq hpassing hearliest hgives, hgives.updated] at hw
    cases hw
    have hc := hop c (hrelaxed.change_eq hgives)
    exact mem_reportable.2 ⟨mem_operations.2 ⟨.change c, hc, rfl⟩, fun _ => rfl⟩
  have hchange {c : FieldChange} (hc : Op.change c ∈
      (cheapest change' costOf old.reverse updated.reverse).ops change' true) :
      c.ConsumesGap ∧ ∃ span, c.old.span = .ok span := by
    obtain ⟨i, x, y, hx, hy, hxy⟩ := hearliest.changes hc
    have hconsumes := price_costOf_eq_zero_iff.1 (hearliest.free hx hy) c hxy
    obtain ⟨⟨last, hlast, -⟩, hold⟩ := hrelaxed.ends x (List.mem_of_getElem? hx) y
      (List.mem_of_getElem? hy) c (.inr hxy) hconsumes
    exact ⟨hconsumes, hold ▸ Variable.exists_span_of_end? hlast⟩
  apply answer_filterGapOps_nil
  · intro op hop
    obtain ⟨hop, happend⟩ := mem_reportable.1 hop
    obtain ⟨raw, hraw, rfl⟩ := mem_operations.1 hop
    cases raw with
    | change c => exact .inl ⟨c, rfl, (hchange hraw).1⟩
    | delete x => exact absurd hraw (hearliest.deletes x)
    | insert y =>
        obtain ⟨j, hy, hnot, hbefore⟩ := hearliest.inserts hraw
        obtain ⟨m, x, z, c, hgives, hwithin, -⟩ :=
          hrelaxed.within_of_free hpassing hearliest hy hnot fun _ => hbefore rfl
        exact .inr ⟨y.map h.info, c, rfl, hreportable hgives, hgives.consumes, hwithin⟩
    | append y =>
        -- nothing is within a gap and behind all partners, that of the gap among them
        obtain ⟨j, hy, hbehind⟩ := hearliest.appends hraw
        have hno : allowAppend = true → ∃ i < old.length, j < q i := fun hallow => by
          cases happend hallow
        obtain ⟨m, x, z, c, hgives, -, hlt⟩ := hrelaxed.within_of_free hpassing hearliest hy
          (fun i hi => Nat.ne_of_lt (hbehind i hi)) hno
        have := hbehind m hgives.lt
        omega
  · intro c hc
    obtain ⟨raw, hraw, hmap⟩ := mem_operations.1 (mem_reportable.1 hc).1
    cases raw with
    | change c' =>
        cases hmap
        exact (hchange hraw).2
    | _ => cases hmap

end Comparator
end StorageUpgrade
