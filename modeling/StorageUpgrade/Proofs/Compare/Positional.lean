import StorageUpgrade.Proofs.Alignment.Appending
import StorageUpgrade.Proofs.Compare.Positions

/-!
# Upgrades that use up no gap

When no two variables are related as a gap and what uses it up, the alignment comes down to a
comparison place by place: nothing is reported of an upgrade if and only if each old variable is
followed by one at the same index of which it differs in nothing.

Nothing that is inserted can be dropped then, so the alignment of an upgrade that passes does
nothing but append.  Conversely, the variables at the same index can be matched at no cost, and
`forall_isAppend_ofChanges_iff` says that the table does so.
-/

namespace StorageUpgrade.Comparator

open StorageUpgrade.Alignment

variable {g h : TypeGraph} {options : CompareOptions}

/-- Two variables are compared without an error, and they are no gap and what uses it up. -/
def SparesGap (options : CompareOptions) (g h : TypeGraph) (old : Variable g.Ref)
    (updated : Variable h.Ref) : Prop :=
  ∃ change, fieldChange? options g h old updated = .ok change ∧
    ∀ c, change = some c → ¬ c.ConsumesGap

/-- The change of a variable, none if the comparison makes an error. -/
def changeOrNone (options : CompareOptions) (g h : TypeGraph) (old : Variable g.Ref)
    (updated : Variable h.Ref) : Option FieldChange :=
  match fieldChange? options g h old updated with
  | .ok change => change
  | .error _ => none

theorem SparesGap.fieldChange?_eq {old : Variable g.Ref} {updated : Variable h.Ref}
    (hspares : SparesGap options g h old updated) :
    fieldChange? options g h old updated = .ok (changeOrNone options g h old updated) := by
  obtain ⟨change, hchange, -⟩ := hspares
  rw [changeOrNone, hchange]

theorem SparesGap.not_consumesGap {old : Variable g.Ref} {updated : Variable h.Ref}
    {c : FieldChange} (hspares : SparesGap options g h old updated)
    (hc : changeOrNone options g h old updated = some c) : ¬ c.ConsumesGap := by
  obtain ⟨change, hchange, hnot⟩ := hspares
  rw [changeOrNone, hchange] at hc
  exact hnot c hc

instance (old : Variable g.Ref) (updated : Variable h.Ref) :
    Decidable (SparesGap options g h old updated) :=
  match hchange : fieldChange? options g h old updated with
  | .ok none => isTrue ⟨none, hchange, nofun⟩
  | .ok (some c) => decidable_of_iff (¬ c.ConsumesGap) (by simp [SparesGap, hchange])
  | .error _ => isFalse fun ⟨_, hok, _⟩ => nomatch hchange.symm.trans hok

theorem exists_of_change_mem_operations
    {change : Variable g.Ref → Variable h.Ref → Option FieldChange} {old : List (Variable g.Ref)}
    {updated : List (Variable h.Ref)} {c : FieldChange}
    (hc : Op.change c ∈ operations change old updated) :
    ∃ x ∈ old, ∃ y ∈ updated, change x y = some c := by
  obtain ⟨raw, hraw, hmap⟩ := mem_operations.1 hc
  cases raw with
  | change c' =>
      cases hmap
      obtain ⟨x, hx, y, hy, hxy⟩ := Path.exists_of_change_mem_ops _ hraw
      exact ⟨x, List.mem_reverse.1 hx, y, List.mem_reverse.1 hy, hxy⟩
  | _ => cases hmap

/-- If no gap is used up, then nothing is dropped. -/
theorem isAppend_of_answer_nil {change : Variable g.Ref → Variable h.Ref → Option FieldChange}
    {old : List (Variable g.Ref)} {updated : List (Variable h.Ref)}
    (hgaps : ∀ x ∈ old, ∀ y ∈ updated, ∀ c, change x y = some c → ¬ c.ConsumesGap)
    (hnil : answer (filterGapOps (reportable true (operations change old updated))) = .ok []) :
    ∀ op ∈ operations change old updated, op.isAppend = true := by
  intro op hop
  by_contra hkept
  have hnot {c : FieldChange}
      (hc : Op.change c ∈ reportable true (operations change old updated)) : ¬ c.ConsumesGap := by
    obtain ⟨x, hx, y, hy, hxy⟩ := exists_of_change_mem_operations (mem_reportable.1 hc).1
    exact hgaps x hx y hy c hxy
  have hmem : op ∈ reportable true (operations change old updated) :=
    mem_reportable.2 ⟨hop, fun _ => Bool.eq_false_iff.2 hkept⟩
  rcases dropped_of_answer_nil hnil op hmem with ⟨c, rfl, hconsumes⟩ | ⟨_, c, _, hc, hconsumes, -⟩
  · exact hnot hmem hconsumes
  · exact hnot hc hconsumes

/-- Nothing is reported of variables that are appended. -/
theorem answer_nil_of_isAppend {ops : List FieldOp} (happend : ∀ op ∈ ops, op.isAppend = true) :
    answer (filterGapOps (reportable true ops)) = .ok [] := by
  have hnone : reportable true ops = [] := by
    rw [List.eq_nil_iff_forall_not_mem]
    intro op hop
    obtain ⟨hop, hkept⟩ := mem_reportable.1 hop
    rw [happend op hop] at hkept
    cases hkept rfl
  rw [hnone]
  rfl

/-- If no gap is used up, then nothing is reported exactly when variables are appended only. -/
theorem answer_nil_iff_isAppend {change : Variable g.Ref → Variable h.Ref → Option FieldChange}
    {old : List (Variable g.Ref)} {updated : List (Variable h.Ref)}
    (hgaps : ∀ x ∈ old, ∀ y ∈ updated, ∀ c, change x y = some c → ¬ c.ConsumesGap) :
    answer (filterGapOps (reportable true (operations change old updated))) = .ok [] ↔
      ∀ op ∈ operations change old updated, op.isAppend = true := by
  constructor
  · exact isAppend_of_answer_nil hgaps
  · exact answer_nil_of_isAppend

/-- If no gap can be used up, then nothing is reported of an upgrade if and only if each old
variable does not differ from the updated one at the same index. -/
theorem passes_iff_unchanged {old updated : DetailedLayout} (hg : old.graph.Distinct)
    (hh : updated.graph.Distinct)
    (hspares : ∀ x ∈ old.vars, ∀ y ∈ updated.vars,
      SparesGap options old.graph updated.graph x y) :
    Passes options old updated ↔
      old.vars.length ≤ updated.vars.length ∧
        ∀ (i : Nat) x y, old.vars[i]? = some x → updated.vars[i]? = some y →
          fieldChange? options old.graph updated.graph x y = .ok none := by
  have hchange (x) (hx : x ∈ old.vars) (y) (hy : y ∈ updated.vars) :
      fieldChange? options old.graph updated.graph x y =
        .ok (changeOrNone options old.graph updated.graph x y) :=
    (hspares x hx y hy).fieldChange?_eq
  have hgaps (x) (hx : x ∈ old.vars) (y) (hy : y ∈ updated.vars) (c)
      (hc : changeOrNone options old.graph updated.graph x y = some c) : ¬ c.ConsumesGap :=
    (hspares x hx y hy).not_consumesGap hc
  have hprices (x) (y) : 0 ≤ price costOf (changeOrNone options old.graph updated.graph x y) :=
    price_costOf_nonneg _
  calc Passes options old updated
      ↔ ∀ op ∈ operations (changeOrNone options old.graph updated.graph) old.vars updated.vars,
          op.isAppend = true :=
        (answer_align_iff hg hh hchange).trans (answer_nil_iff_isAppend hgaps)
    _ ↔ _ := (forall_isAppend_ofChanges_iff hprices _ _).trans exists_unchanged_iff_getElem?
    _ ↔ _ := and_congr_right fun _ => forall_congr' fun i => forall_congr' fun x =>
      forall_congr' fun y => forall_congr' fun hx => forall_congr' fun hy => by
        rw [hchange x (List.mem_of_getElem? hx) y (List.mem_of_getElem? hy), Except.ok.injEq]

/-- Numbers of 32 bytes with the given names, one behind the other. -/
def numberLayout (names : List String) : DetailedLayout :=
  .ofTable [("t_uint256", { label := .str "uint256", numberOfBytes := some "32" })]
    (names.zipIdx.map fun (name, i) =>
      { label := .str name, type := ⟨0, by decide⟩, slot := some (toString i), offset := some 0 })

theorem passes_numberLayout_iff :
    Passes {} (numberLayout ["a"]) (numberLayout ["a", "b"]) ↔
      (numberLayout ["a"]).vars.length ≤ (numberLayout ["a", "b"]).vars.length ∧
        ∀ (i : Nat) x y, (numberLayout ["a"]).vars[i]? = some x →
          (numberLayout ["a", "b"]).vars[i]? = some y → fieldChange? {} _ _ x y = .ok none :=
  passes_iff_unchanged (DetailedLayout.distinct_ofTable (by decide))
    (DetailedLayout.distinct_ofTable (by decide)) (by decide +kernel)

end StorageUpgrade.Comparator
