import StorageUpgrade.Proofs.Compare.Positional

/-!
# What is given up for a gap

A change that is not reported gives up the old variable for what ends where it did.  The old
variable is then a storage gap, but for one way around: what is new is a shorter gap, and a change
of the name does not count, because renames are allowed or because the new gap says that it had the
name of the old variable before (`gap_or_renamed_of_dropped`).  Whether the *new* variable is a gap
decides there, so an array that held values can be given up as padding
(`passes_arrayLayout_renamedGapLayout`).

## Strategy

* Filtering keeps every change that does not use up a gap (`consumesGap_of_not_reported`).
* A change that does is a gap whose end is taken, or an array that got shorter without a new name
  (`FieldVerdict.gap`).
* In the second case the old variable is an array; it is a gap if it has the name of the new one
  (`gap_or_renamed_of_consumesGap`).
-/

namespace StorageUpgrade.Comparator

open StorageUpgrade.Alignment

variable {options : CompareOptions} {g h : TypeGraph}

/-- What is dropped was a gap, or an array that a gap takes the place of whose name may differ. -/
theorem gap_or_renamed_of_dropped (hg : g.Distinct) (hh : h.Distinct)
    {old : List (Variable g.Ref)} {updated : List (Variable h.Ref)}
    {allowAppend : Bool} {reported : List FieldOp}
    (hanswer : answer (align options g h old updated allowAppend) = .ok reported) :
    ∃ change, (∀ x ∈ old, ∀ y ∈ updated, fieldChange? options g h x y = .ok (change x y)) ∧
      ∀ c, Op.change c ∈ operations change old updated → Op.change c ∉ reported →
        ∃ x ∈ old, ∃ y ∈ updated, change x y = some c ∧ c.old = x.map g.info ∧
          ((x.map g.info).isGap = true ∨
            (g.info x.type).head = "t_array" ∧ (y.map h.info).isGap = true ∧
              (options.allowRenames = true ∨ x.label.alike y.renamedFrom = true)) := by
  obtain ⟨change, hchange, hreported⟩ := exists_of_answer_align hg hh hanswer
  refine ⟨change, hchange, ?_⟩
  intro c hc hdropped
  have hmem : Op.change c ∈ reportable allowAppend (operations change old updated) :=
    mem_reportable.2 ⟨hc, fun _ => rfl⟩
  have hconsumes : c.ConsumesGap := consumesGap_of_not_reported hreported hmem hdropped
  obtain ⟨x, hx, y, hy, hxy⟩ := exists_of_change_mem_operations hc
  have hpair := hchange x hx y hy
  rw [hxy] at hpair
  obtain ⟨-, hold, hgap⟩ := gap_or_renamed_of_consumesGap hg hh hpair hconsumes
  exact ⟨x, hx, y, hy, hxy, hold, hgap⟩

/-- An array for two numbers. -/
def arrayLayout : DetailedLayout :=
  .ofTable gapTypes
    [{ label := .str "data", type := twoNumbers, slot := some "0", offset := some 0 }]

/-- A gap for one number that had another name before. -/
def renamedGapLayout : DetailedLayout :=
  .ofTable gapTypes
    [{ label := .str "__gap", type := oneNumber, slot := some "1", offset := some 0
       renamedFrom := .str "data" }]

theorem answer_arrayLayout_renamedGapLayout :
    answer (align {} arrayLayout.graph renamedGapLayout.graph arrayLayout.vars
      renamedGapLayout.vars true) = .ok [] := by
  decide +kernel

/-- An array that is no gap is given up for a gap that had its name before. -/
theorem gap_or_renamed_arrayLayout :
    ∃ change, ∀ c, Op.change c ∈ operations change arrayLayout.vars renamedGapLayout.vars →
      ∃ x ∈ arrayLayout.vars, ∃ y ∈ renamedGapLayout.vars, change x y = some c ∧
        ((x.map arrayLayout.graph.info).isGap = true ∨
          (arrayLayout.graph.info x.type).head = "t_array" ∧
            (y.map renamedGapLayout.graph.info).isGap = true ∧
              (({} : CompareOptions).allowRenames = true ∨
                x.label.alike y.renamedFrom = true)) := by
  obtain ⟨change, -, hdropped⟩ := gap_or_renamed_of_dropped
    (DetailedLayout.distinct_ofTable (by decide)) (DetailedLayout.distinct_ofTable (by decide))
    answer_arrayLayout_renamedGapLayout
  refine ⟨change, ?_⟩
  intro c hc
  obtain ⟨x, hx, y, hy, hxy, -, hgap⟩ := hdropped c hc List.not_mem_nil
  exact ⟨x, hx, y, hy, hxy, hgap⟩

/-- Nothing is reported although the only old variable, which is no gap, gets shorter. -/
theorem passes_arrayLayout_renamedGapLayout :
    Passes {} arrayLayout renamedGapLayout ∧ (∀ v ∈ arrayLayout.typed, v.isGap = false) ∧
      ∃ x ∈ arrayLayout.vars, ∃ y ∈ renamedGapLayout.vars, ∃ c,
        fieldChange? {} arrayLayout.graph renamedGapLayout.graph x y = .ok (some c) ∧
          c.ConsumesGap := by
  refine ⟨answer_arrayLayout_renamedGapLayout, by decide, arrayLayout.vars.get ⟨0, by decide⟩,
    List.mem_cons_self, renamedGapLayout.vars.get ⟨0, by decide⟩, List.mem_cons_self, ?_⟩
  exact ⟨_, by rfl, by decide +kernel⟩

end StorageUpgrade.Comparator
