import Mathlib.Order.Monotone.Defs
import StorageUpgrade.Proofs.Compare.Field
import StorageUpgrade.Proofs.Json.Reading

/-!
# Upgrades that pass keep positions

When nothing is reported of an upgrade, every old variable has a partner in the updated layout, in
order.  A variable that is no storage gap has the place of its partner, and a gap has the place or
at least the end of its partner; two types of one byte that hold each other's values are exempt.
What is nobody's partner stands behind all partners, or lies within a gap that its partner used up.

Hence, if the updated variables do not overlap, nothing new touches an old variable.
-/

namespace StorageUpgrade

/-- The variables of a layout with what is known of their types. -/
def DetailedLayout.typed (d : DetailedLayout) : List TypedVariable :=
  d.vars.map (·.map d.graph.info)

namespace DetailedLayout

@[simp] theorem length_typed (d : DetailedLayout) : d.typed.length = d.vars.length :=
  List.length_map _

theorem typed_get_of_getElem? (d : DetailedLayout) (i : Fin d.typed.length)
    {x : Variable d.graph.Ref} (hx : d.vars[i.val]? = some x) :
    d.typed.get i = x.map d.graph.info := by
  obtain ⟨hlt, rfl⟩ := List.getElem?_eq_some_iff.1 hx
  exact List.getElem_map _

theorem exists_of_typed (d : DetailedLayout) (i : Fin d.typed.length) :
    ∃ x, d.vars[i.val]? = some x ∧ d.typed.get i = x.map d.graph.info := by
  have hlt : i.val < d.vars.length := d.length_typed ▸ i.isLt
  exact ⟨d.vars[i.val], List.getElem?_eq_getElem hlt,
    d.typed_get_of_getElem? i (List.getElem?_eq_getElem hlt)⟩

end DetailedLayout

namespace Variable

/-- Two variables have the same slot, offset and number of bytes. -/
def SamePlace (old updated : TypedVariable) : Prop :=
  old.slot = updated.slot ∧ old.offset = updated.offset ∧
    old.type.numberOfBytes = updated.type.numberOfBytes

/-- Two variables end at the same byte. -/
def SameEnd (old updated : TypedVariable) : Prop :=
  ∃ last, old.end? = .ok (some last) ∧ updated.end? = .ok (some last)

/-- The types of two variables are of one byte and hold each other's values. -/
def BytePair (old updated : TypedVariable) : Prop :=
  isByteLabel old.type.label = true ∧ isByteLabel updated.type.label = true

/-- A byte belongs to a variable. -/
def Occupies (v : TypedVariable) (byte : Int) : Prop :=
  ∃ first last, v.start? = .ok (some first) ∧ v.end? = .ok (some last) ∧ first ≤ byte ∧ byte < last

/-- A byte belongs to both of two variables. -/
def Overlaps (v w : TypedVariable) : Prop := ∃ byte, v.Occupies byte ∧ w.Occupies byte

variable {old updated : TypedVariable}

theorem SamePlace.start?_eq (h : SamePlace old updated) : old.start? = updated.start? := by
  obtain ⟨hslot, hoffset, -⟩ := h
  rw [start?, start?, hslot, hoffset]

theorem SamePlace.end?_eq (h : SamePlace old updated) : old.end? = updated.end? := by
  rw [end?, end?, h.start?_eq, h.2.2]

theorem SamePlace.occupies_iff (h : SamePlace old updated) (byte : Int) :
    old.Occupies byte ↔ updated.Occupies byte := by
  rw [Occupies, Occupies, h.start?_eq, h.end?_eq]

theorem endsWith_ok_true_iff : updated.endsWith old = .ok true ↔ SameEnd old updated := by
  unfold endsWith SameEnd
  rcases updated.end? with e | _ | last <;> rcases old.end? with e' | _ | last' <;>
    simp [bind, Except.bind]
  exact ⟨Eq.symm, Eq.symm⟩

instance : Decidable (BytePair old updated) := inferInstanceAs (Decidable (_ ∧ _))

instance : Decidable (SamePlace old updated) := inferInstanceAs (Decidable (_ ∧ _ ∧ _))

instance : Decidable (SameEnd old updated) := decidable_of_iff _ endsWith_ok_true_iff

end Variable

namespace Comparator

variable {options : CompareOptions} {g h : TypeGraph} {old updated : TypedVariable}

/-- A new comparator reports nothing of an upgrade. -/
def Passes (options : CompareOptions) (old updated : DetailedLayout) : Prop :=
  answer (compareLayouts options old updated) = .ok []

instance (options : CompareOptions) (old updated : DetailedLayout) :
    Decidable (Passes options old updated) :=
  inferInstanceAs (Decidable (answer (compareLayouts options old updated) = .ok []))

theorem transition_eq_none_iff {α : Type} [DecidableEq α] {a b : α} :
    transition (some a) (some b) = none ↔ a = b := by
  simp [transition]

/-- A place that is known does not change unnoticed. -/
theorem samePlace_of_layoutChange? (hold : old.isPlaced = true) (hupdated : updated.isPlaced = true)
    (hmoved : ∀ moved, layoutChange? old updated = some moved → moved.uncertain = true) :
    Variable.BytePair old updated ∨ Variable.SamePlace old updated := by
  unfold layoutChange? at hmoved
  rw [hold, hupdated] at hmoved
  simp only [Variable.isPlaced, Bool.and_eq_true, Option.isSome_iff_exists] at hold hupdated
  obtain ⟨⟨⟨slot, hslot⟩, offset, hoffset⟩, bytes, hbytes⟩ := hold
  obtain ⟨⟨⟨slot', hslot'⟩, offset', hoffset'⟩, bytes', hbytes'⟩ := hupdated
  by_cases hpair : (isByteLabel old.type.label && isByteLabel updated.type.label) = true
  · exact .inl ((Bool.and_eq_true _ _).mp hpair)
  right
  rw [if_neg hpair, hslot, hslot', hoffset, hoffset', hbytes, hbytes'] at hmoved
  simp only [Bool.not_true, Bool.or_self, Bool.false_eq_true, if_false] at hmoved
  split at hmoved
  · exact absurd (hmoved _ rfl) (by simp)
  · rename_i hsame
    simp only [Bool.or_eq_true, not_or, Option.not_isSome_iff_eq_none, transition_eq_none_iff]
      at hsame
    obtain ⟨⟨rfl, rfl⟩, rfl⟩ := hsame
    exact ⟨by rw [hslot, hslot'], by rw [hoffset, hoffset'], by rw [hbytes, hbytes']⟩

/-! ### Gaps that are used up -/

theorem same_null (v : Json) : v.same .null = v.isNull := by
  cases v with
  | real x => cases x <;> rfl
  | _ => rfl

theorem alike_null {v : Json} (h : v ≠ .null) : v.alike .null = false := by
  rw [Json.alike, same_null]
  cases v <;> simp_all [Json.isNull]

/-- If an updated gap does not count as renamed, then the old variable has the name of a gap as
well, unless its name may differ. -/
theorem label_eq_or_of_not_isRenamed (hgap : updated.isGap = true)
    (hrenamed : isRenamed options old updated = false) :
    old.label = .str gapLabel ∨ options.allowRenames = true ∨
      old.label.alike updated.renamedFrom = true := by
  have hlabel : updated.label = .str gapLabel := by
    simp only [Variable.isGap, Bool.and_eq_true, beq_iff_eq] at hgap
    exact hgap.1
  by_cases hrenames : options.allowRenames = true
  · exact .inr (.inl hrenames)
  by_cases hfrom : old.label.alike updated.renamedFrom = true
  · exact .inr (.inr hfrom)
  -- nothing excuses another name, so the two names are the same
  rw [Bool.not_eq_true] at hrenames hfrom
  have hsame : updated.label.alike old.label = true := by
    rw [isRenamed, hrenames, hfrom] at hrenamed
    simp only [Bool.not_false, Bool.true_and, Bool.or_eq_false_iff, Bool.not_eq_false'] at hrenamed
    exact hrenamed.1
  exact .inl (Json.eq_str_of_alike (hlabel ▸ hsame))

section

variable (hg : g.Distinct) (hh : h.Distinct)

include hg hh

/-- Only arrays get shorter. -/
theorem head_of_settled {a : g.Ref} {b : h.Ref} {allowAppend : Bool} {change : TypeChange}
    (hsettled : Settled options g h a b allowAppend (some change))
    (hshrink : change.isArrayShrink = true) : (g.info a).head = "t_array" := by
  obtain ⟨depth, hplain⟩ := hsettled
  cases depth with
  | zero => exact absurd hplain not_returns_plainChange_zero
  | succ depth => exact (nodeVerdict_of_plainChange hg hh hplain).head_of_isArrayShrink hshrink

/-- What uses up a gap takes its end, and the old variable is a gap, or an array whose name may
differ. -/
theorem gap_or_renamed_of_consumesGap {x : Variable g.Ref} {y : Variable h.Ref} {c : FieldChange}
    (hchange : fieldChange? options g h x y = .ok (some c)) (hconsumes : c.ConsumesGap) :
    Variable.SameEnd (x.map g.info) (y.map h.info) ∧ c.old = x.map g.info ∧
      ((x.map g.info).isGap = true ∨
        (g.info x.type).head = "t_array" ∧ (y.map h.info).isGap = true ∧
          (options.allowRenames = true ∨ x.label.alike y.renamedFrom = true)) := by
  have hverdict := fieldVerdict_of_fieldChange? hg hh hchange
  obtain ⟨hold, hends, hcase⟩ := hverdict.gap hconsumes
  refine ⟨Variable.endsWith_ok_true_iff.1 hends, hold, ?_⟩
  rcases hcase with ⟨-, hgap⟩ | ⟨hrenamed, hgap, typeChange, hshrink, hsettled⟩
  · exact .inl hgap
  · have harray : (g.info x.type).head = "t_array" := head_of_settled hg hh hsettled hshrink
    rcases label_eq_or_of_not_isRenamed hgap hrenamed with hlabel | hname
    · -- a gap that got shorter keeps its name, so the old variable is a gap as well
      left
      simp only [Variable.isGap, Bool.and_eq_true, beq_iff_eq]
      exact ⟨hlabel, harray⟩
    · exact .inr ⟨harray, hgap, hname⟩

/-- What uses up a gap takes its end, and the old variable is a gap. -/
theorem gap_of_consumesGap (hrenames : options.allowRenames = false) {x : Variable g.Ref}
    {y : Variable h.Ref} {c : FieldChange} (hname : x.label ≠ .null)
    (hfrom : (y.map h.info).isGap = true → y.renamedFrom = .null)
    (hchange : fieldChange? options g h x y = .ok (some c)) (hconsumes : c.ConsumesGap) :
    (x.map g.info).isGap = true ∧ Variable.SameEnd (x.map g.info) (y.map h.info) ∧
      c.old = x.map g.info := by
  obtain ⟨hends, hold, hcase⟩ := gap_or_renamed_of_consumesGap hg hh hchange hconsumes
  refine ⟨?_, hends, hold⟩
  rcases hcase with hgap | ⟨-, hgap, hallowed | halike⟩
  · exact hgap
  · exact absurd (hrenames.symm.trans hallowed) Bool.false_ne_true
  · rw [hfrom hgap, alike_null hname] at halike
    cases halike

/-- A variable that does not change keeps its place if it is known. -/
theorem samePlace_of_unchanged {x : Variable g.Ref} {y : Variable h.Ref}
    (hx : (x.map g.info).isPlaced = true) (hy : (y.map h.info).isPlaced = true)
    (hchange : fieldChange? options g h x y = .ok none) :
    Variable.BytePair (x.map g.info) (y.map h.info) ∨
      Variable.SamePlace (x.map g.info) (y.map h.info) := by
  obtain ⟨_, typeChange, difference, -, -, hd, hnone⟩ := fieldVerdict_of_fieldChange? hg hh hchange
  obtain rfl := Option.map_eq_none_iff.1 hnone.symm
  exact samePlace_of_layoutChange? hx hy fun moved hmoved =>
    ((differenceOf_eq_none_iff.1 hd).2.2 moved hmoved).1

end

/-! ### Upgrades that pass -/

/-- `f` gives every old variable its partner in an upgrade that keeps the old variables where they
were. -/
structure KeepsPlaces (old updated : List TypedVariable) (f : Fin old.length → Fin updated.length) :
    Prop where
  increasing : StrictMono f
  kept : ∀ i, (old.get i).isGap = false →
    ¬ Variable.BytePair (old.get i) (updated.get (f i)) →
      Variable.SamePlace (old.get i) (updated.get (f i))
  gaps : ∀ i, (old.get i).isGap = true →
    ¬ Variable.BytePair (old.get i) (updated.get (f i)) →
      Variable.SamePlace (old.get i) (updated.get (f i)) ∨
        Variable.SameEnd (old.get i) (updated.get (f i))
  added : ∀ j, j ∉ Set.range f → (∀ i, f i < j) ∨
    ∃ i, (old.get i).isGap = true ∧ Variable.SameEnd (old.get i) (updated.get (f i)) ∧
      (updated.get j).LiesWithin (old.get i)

/-- An added variable touches no old variable, if no two updated variables overlap. -/
theorem KeepsPlaces.not_overlaps {old updated : List TypedVariable}
    {f : Fin old.length → Fin updated.length} (hkeeps : KeepsPlaces old updated f)
    (hdisjoint : ∀ j k, j ≠ k → ¬ (updated.get j).Overlaps (updated.get k))
    {j : Fin updated.length} (hj : j ∉ Set.range f) {i : Fin old.length}
    (hgap : (old.get i).isGap = false)
    (hpair : ¬ Variable.BytePair (old.get i) (updated.get (f i))) :
    ¬ (updated.get j).Overlaps (old.get i) := by
  rintro ⟨byte, hadded, hold⟩
  have hne : j ≠ f i := fun heq => hj ⟨i, heq.symm⟩
  exact hdisjoint j (f i) hne
    ⟨byte, hadded, ((hkeeps.kept i hgap hpair).occupies_iff byte).1 hold⟩

/-- Old variables have names, all places are known, and no updated gap had another name before. -/
structure Placed (old updated : DetailedLayout) : Prop where
  oldNames : ∀ x ∈ old.vars, x.label ≠ .null
  oldPlaces : ∀ x ∈ old.vars, (x.map old.graph.info).isPlaced = true
  newPlaces : ∀ y ∈ updated.vars, (y.map updated.graph.info).isPlaced = true
  newGaps : ∀ y ∈ updated.vars, (y.map updated.graph.info).isGap = true → y.renamedFrom = .null

section

variable {old updated : DetailedLayout} (hg : old.graph.Distinct) (hh : updated.graph.Distinct)
  (hrenames : options.allowRenames = false) (hplaced : Placed old updated)
  {change : Variable old.graph.Ref → Variable updated.graph.Ref → Option FieldChange}
  (hchange : ∀ x ∈ old.vars, ∀ y ∈ updated.vars,
    fieldChange? options old.graph updated.graph x y = .ok (change x y))
  {partner : Nat → Nat} (hpassing : Passing change old.vars updated.vars true partner)

include hg hh hrenames hplaced hchange hpassing

/-- Partners are in the same place, or the old one is a gap that is used up. -/
theorem Passing.place_of_partner {i : Nat} {x : Variable old.graph.Ref}
    (hx : old.vars[i]? = some x) :
    ∃ y, updated.vars[partner i]? = some y ∧
      ((Variable.BytePair (x.map old.graph.info) (y.map updated.graph.info) ∨
          Variable.SamePlace (x.map old.graph.info) (y.map updated.graph.info)) ∨
        (x.map old.graph.info).isGap = true ∧
          Variable.SameEnd (x.map old.graph.info) (y.map updated.graph.info)) := by
  obtain ⟨y, hy, hgap⟩ := hpassing.meets hx
  have hxmem := List.mem_of_getElem? hx
  have hymem := List.mem_of_getElem? hy
  have hxy := hchange x hxmem y hymem
  refine ⟨y, hy, ?_⟩
  cases hc : change x y with
  | none =>
      rw [hc] at hxy
      exact .inl (samePlace_of_unchanged hg hh (hplaced.oldPlaces x hxmem)
        (hplaced.newPlaces y hymem) hxy)
  | some c =>
      rw [hc] at hxy
      obtain ⟨hisGap, hend, -⟩ := gap_of_consumesGap hg hh hrenames (hplaced.oldNames x hxmem)
        (hplaced.newGaps y hymem) hxy (hgap c hc)
      exact .inr ⟨hisGap, hend⟩

/-- What is nobody's partner stands behind all partners, or within a gap that is used up. -/
theorem Passing.place_of_added {j : Nat} {y : Variable updated.graph.Ref}
    (hy : updated.vars[j]? = some y) (hj : ∀ i < old.vars.length, partner i ≠ j) :
    (∀ i < old.vars.length, partner i < j) ∨
      ∃ i x z, old.vars[i]? = some x ∧ updated.vars[partner i]? = some z ∧
        (x.map old.graph.info).isGap = true ∧
          Variable.SameEnd (x.map old.graph.info) (z.map updated.graph.info) ∧
            (y.map updated.graph.info).LiesWithin (x.map old.graph.info) := by
  rcases hpassing.others hy with ⟨i, hi, hpartner⟩ | hwithin | ⟨-, hbehind⟩
  · exact absurd hpartner (hj i hi)
  · obtain ⟨i, x, z, c, hx, hz, hc, hconsumes, hwithin⟩ := hwithin
    have hxmem := List.mem_of_getElem? hx
    have hzmem := List.mem_of_getElem? hz
    have hxz := hchange x hxmem z hzmem
    rw [hc] at hxz
    obtain ⟨hgap, hend, hcold⟩ := gap_of_consumesGap hg hh hrenames (hplaced.oldNames x hxmem)
      (hplaced.newGaps z hzmem) hxz hconsumes
    exact .inr ⟨i, x, z, hx, hz, hgap, hend, hcold ▸ hwithin⟩
  · exact .inl hbehind

/-- Partners as a map between the variables of the two layouts. -/
theorem Passing.exists_keepsPlaces : ∃ f, KeepsPlaces old.typed updated.typed f := by
  have hlt (i : Fin old.typed.length) : i.val < old.vars.length :=
    Nat.lt_of_lt_of_eq i.isLt old.length_typed
  let f (i : Fin old.typed.length) : Fin updated.typed.length :=
    ⟨partner i, Nat.lt_of_lt_of_eq (hpassing.partner_lt (hlt i)) updated.length_typed.symm⟩
  have hplace (i : Fin old.typed.length) :
      (Variable.BytePair (old.typed.get i) (updated.typed.get (f i)) ∨
        Variable.SamePlace (old.typed.get i) (updated.typed.get (f i))) ∨
      (old.typed.get i).isGap = true ∧
        Variable.SameEnd (old.typed.get i) (updated.typed.get (f i)) := by
    obtain ⟨x, hx, hxi⟩ := old.exists_of_typed i
    obtain ⟨y, hy, hxy⟩ := hpassing.place_of_partner hg hh hrenames hplaced hchange hx
    rw [hxi, updated.typed_get_of_getElem? (f i) hy]
    exact hxy
  refine ⟨f, fun i j hij => hpassing.increasing hij (hlt j), ?_, ?_, ?_⟩
  · intro i hgap hpair
    rcases hplace i with (hbytes | hsame) | ⟨hisGap, -⟩
    · exact absurd hbytes hpair
    · exact hsame
    · rw [hgap] at hisGap
      cases hisGap
  · intro i hgap hpair
    rcases hplace i with (hbytes | hsame) | ⟨-, hend⟩
    · exact absurd hbytes hpair
    · exact .inl hsame
    · exact .inr hend
  · intro j hj
    obtain ⟨y, hy, hyj⟩ := updated.exists_of_typed j
    have hnot (i : Nat) (hi : i < old.vars.length) : partner i ≠ j := fun hpartner =>
      hj ⟨⟨i, Nat.lt_of_lt_of_eq hi old.length_typed.symm⟩, Fin.ext hpartner⟩
    -- the gap that an added variable lies in is found by its index
    rcases hpassing.place_of_added hg hh hrenames hplaced hchange hy hnot with
      hbehind | ⟨i, x, z, hx, hz, hgap, hend, hwithin⟩
    · exact .inl fun i => hbehind i (hlt i)
    · have hi := (List.getElem?_eq_some_iff.1 hx).1
      let k : Fin old.typed.length := ⟨i, Nat.lt_of_lt_of_eq hi old.length_typed.symm⟩
      refine .inr ⟨k, ?_⟩
      rw [old.typed_get_of_getElem? k hx, updated.typed_get_of_getElem? (f k) hz, hyj]
      exact ⟨hgap, hend, hwithin⟩

end

/-- If nothing is reported of an upgrade, then it keeps the old variables where they were, and what
it adds does not touch them. -/
theorem exists_keepsPlaces_of_passes {options : CompareOptions} {old updated : DetailedLayout}
    (hg : old.graph.Distinct) (hh : updated.graph.Distinct)
    (hrenames : options.allowRenames = false) (hplaced : Placed old updated)
    (hpasses : Passes options old updated) :
    ∃ f, KeepsPlaces old.typed updated.typed f ∧
      ((∀ j k, j ≠ k → ¬ (updated.typed.get j).Overlaps (updated.typed.get k)) →
        ∀ j, j ∉ Set.range f → ∀ i, (old.typed.get i).isGap = false →
          ¬ Variable.BytePair (old.typed.get i) (updated.typed.get (f i)) →
            ¬ (updated.typed.get j).Overlaps (old.typed.get i)) := by
  obtain ⟨change, hchange, hnil⟩ := exists_of_answer_align hg hh hpasses
  obtain ⟨partner, hpassing⟩ := exists_passing hnil
  obtain ⟨f, hkeeps⟩ := hpassing.exists_keepsPlaces hg hh hrenames hplaced hchange
  refine ⟨f, hkeeps, ?_⟩
  intro hdisjoint j hj i hgap hpair
  exact hkeeps.not_overlaps hdisjoint hj hgap hpair

/-! ### A gap that is used up, and one that moves -/

/-- Numbers, and gaps for two of them and for one. -/
def gapTypes : List (String × TypeEntry) :=
  [("t_uint256", { label := .str "uint256", numberOfBytes := some "32" }),
    ("t_array(t_uint256)2_storage", { label := .str "uint256[2]", numberOfBytes := some "64" }),
    ("t_array(t_uint256)1_storage", { label := .str "uint256[1]", numberOfBytes := some "32" })]

/-- The array of two numbers in this table. -/
def twoNumbers : Fin (gapTypes.map Prod.fst).length := ⟨1, by decide⟩

/-- The array of one number in this table. -/
def oneNumber : Fin (gapTypes.map Prod.fst).length := ⟨2, by decide⟩

/-- A number with a gap for two numbers behind it. -/
def gapLayout : DetailedLayout :=
  .ofTable gapTypes
    [{ label := .str "a", type := ⟨0, by decide⟩, slot := some "0", offset := some 0 },
      { label := .str "__gap", type := ⟨1, by decide⟩, slot := some "1", offset := some 0 }]

/-- The same layout with a second number where the gap was, and a third one at the end. -/
def usedGapLayout : DetailedLayout :=
  .ofTable gapTypes
    [{ label := .str "a", type := ⟨0, by decide⟩, slot := some "0", offset := some 0 },
      { label := .str "b", type := ⟨0, by decide⟩, slot := some "1", offset := some 0 },
      { label := .str "__gap", type := ⟨2, by decide⟩, slot := some "2", offset := some 0 },
      { label := .str "c", type := ⟨0, by decide⟩, slot := some "3", offset := some 0 }]

theorem passes_gapLayout_usedGapLayout : Passes {} gapLayout usedGapLayout := by
  decide +kernel

theorem exists_keepsPlaces_gapLayout :
    ∃ f, KeepsPlaces gapLayout.typed usedGapLayout.typed f := by
  obtain ⟨f, hkeeps, -⟩ := exists_keepsPlaces_of_passes
    (DetailedLayout.distinct_ofTable (by decide)) (DetailedLayout.distinct_ofTable (by decide))
    (by rfl) ⟨by decide, by decide, by decide, by decide⟩ passes_gapLayout_usedGapLayout
  exact ⟨f, hkeeps⟩

/-- A gap whose type is labelled like a number of one byte, in a slot. -/
def byteGapLayout (slot : String) : DetailedLayout :=
  .ofTable [("t_array(t_uint256)2_storage", { label := .str "uint8", numberOfBytes := some "64" }),
      ("t_uint256", { label := .str "uint256", numberOfBytes := some "32" })]
    [{ label := .str "__gap", type := ⟨0, by decide⟩, slot := some slot, offset := some 0 }]

/-- An array for two numbers that has no name. -/
def unnamedLayout : DetailedLayout :=
  .ofTable gapTypes
    [{ label := .null, type := ⟨1, by decide⟩, slot := some "0", offset := some 0 }]

/-- A gap for one number, which ends where an array for two numbers does. -/
def shortGapLayout : DetailedLayout :=
  .ofTable gapTypes
    [{ label := .str "__gap", type := ⟨2, by decide⟩, slot := some "1", offset := some 0 }]

/-- Gaps have to be exempt as well when they are labelled like bytes, and old variables have to have
names: a gap with no former name counts as the new version of a variable without one. -/
theorem passes_of_moved_byteGap_and_unnamed :
    (Passes {} (byteGapLayout "0") (byteGapLayout "5") ∧
      ¬ ∃ f : Fin (byteGapLayout "0").typed.length → Fin (byteGapLayout "5").typed.length,
        StrictMono f ∧ ∀ i, ((byteGapLayout "0").typed.get i).isGap = true →
          ((byteGapLayout "0").typed.get i).SamePlace ((byteGapLayout "5").typed.get (f i)) ∨
            ((byteGapLayout "0").typed.get i).SameEnd ((byteGapLayout "5").typed.get (f i))) ∧
    Passes {} unnamedLayout shortGapLayout ∧
      ¬ ∃ f : Fin unnamedLayout.typed.length → Fin shortGapLayout.typed.length,
        StrictMono f ∧ ∀ i, (unnamedLayout.typed.get i).isGap = false →
          ¬ Variable.BytePair (unnamedLayout.typed.get i) (shortGapLayout.typed.get (f i)) →
            (unnamedLayout.typed.get i).SamePlace (shortGapLayout.typed.get (f i)) := by
  refine ⟨⟨by decide +kernel, ?_⟩, by decide +kernel, ?_⟩
  · rintro ⟨f, -, hgaps⟩
    have hmoved : ∀ i j,
        ¬ (((byteGapLayout "0").typed.get i).SamePlace ((byteGapLayout "5").typed.get j) ∨
          ((byteGapLayout "0").typed.get i).SameEnd ((byteGapLayout "5").typed.get j)) := by
      decide +kernel
    exact hmoved ⟨0, by decide⟩ _ (hgaps ⟨0, by decide⟩ (by decide))
  · rintro ⟨f, -, hkept⟩
    have hmoved : ∀ i j,
        ¬ Variable.BytePair (unnamedLayout.typed.get i) (shortGapLayout.typed.get j) ∧
          ¬ (unnamedLayout.typed.get i).SamePlace (shortGapLayout.typed.get j) := by
      decide +kernel
    obtain ⟨hpair, hplace⟩ := hmoved ⟨0, by decide⟩ (f ⟨0, by decide⟩)
    exact hplace (hkept ⟨0, by decide⟩ (by decide) hpair)

end Comparator
end StorageUpgrade
