import StorageUpgrade.Proofs.Compare.Earlier
import StorageUpgrade.Proofs.Compare.Relaxing
import StorageUpgrade.Proofs.Compare.Reports

/-!
# Allowing renames

An upgrade that passes should still pass when variables may change their names.  This is so as long
as gaps are used up by gaps (`Upgrade.passes_of_allowRenames`).  Where a variable of another name
takes the end of a gap, the new name is what tells that the gap was given up, and if names do not
count, the two are compared as any other variables
(`Upgrade.not_passes_spareItems_finishedItems`).  The updated variables must not overlap, either: a
variable of another name in the place of a gap would match the gap, and the shorter gap that used it
up would count as inserted.

## Strategy

* Two types that did not change still do not, and an array that got shorter still does
  (`eq_of_plainChange`), by induction on the depth of the types.
* So the comparison that allows renames is a more lenient one in the sense of `Relaxed`
  (`relaxed_of_keepsGaps`), both among the members of structs and among the variables.
* Each report of an upgrade is one that a new comparator makes (`Upgrade.outcome_report`).
-/

namespace StorageUpgrade

namespace Variable

/-- Gaps are used up by gaps: a variable that ends where a gap did is a gap that keeps its name.  If
there may be gaps at all, then they are not labelled like bytes, and the updated variables stand in
order. -/
structure KeepsGaps (old updated : List TypedVariable) : Prop where
  gaps : ∀ x ∈ old, x.isGap = true → ∀ y ∈ updated, SameEnd x y →
    y.isGap = true ∧ y.renamedFrom = .null
  labels : ∀ x ∈ old, x.type.head = "t_array" → isByteLabel x.type.label = false
  inOrder : (∃ x ∈ old, x.type.head = "t_array") → InOrder updated

instance (old updated : List TypedVariable) : Decidable (KeepsGaps old updated) :=
  decidable_of_iff
    ((∀ x ∈ old, x.isGap = true → ∀ y ∈ updated, SameEnd x y →
        y.isGap = true ∧ y.renamedFrom = .null) ∧
      (∀ x ∈ old, x.type.head = "t_array" → isByteLabel x.type.label = false) ∧
      ((∃ x ∈ old, x.type.head = "t_array") → InOrder updated))
    ⟨fun ⟨gaps, labels, inOrder⟩ => ⟨gaps, labels, inOrder⟩,
      fun h => ⟨h.gaps, h.labels, h.inOrder⟩⟩

end Variable

namespace DetailedLayout

/-- Gaps are used up by gaps, among the variables and among the members of any two structs that are
found to have no change. -/
structure KeepsGaps (options : CompareOptions) (old updated : DetailedLayout) : Prop where
  vars : Variable.KeepsGaps old.typed updated.typed
  fields : ∀ a, old.Holds a → ∀ b, updated.Holds b → ∀ allowAppend,
    Comparator.answer (Comparator.compareTypes options old.graph updated.graph a b allowAppend) =
        .ok none →
      Variable.KeepsGaps ((old.graph.node a).fields.map (·.map old.graph.info))
        ((updated.graph.node b).fields.map (·.map updated.graph.info))

end DetailedLayout

namespace Comparator

variable {g h : TypeGraph} {options options' : CompareOptions}

/-! ### Variables -/

section

variable (hg : g.Distinct) (hh : h.Distinct) (hrenames : options'.allowRenames = true)

include hg hh

/-- What uses up a gap takes the end of an array. -/
theorem FieldCompared.sameEnd {T : TypeRelation g h} {x : Variable g.Ref} {y : Variable h.Ref}
    {c : FieldChange} (hxy : FieldCompared options T x y (some c)) (hconsumes : c.ConsumesGap) :
    Variable.SameEnd (x.map g.info) (y.map h.info) ∧ c.old = x.map g.info ∧
      (x.map g.info).type.head = "t_array" := by
  obtain ⟨hends, hold, hcase⟩ := gap_or_renamed_of_consumesGap hg hh hxy.eq_ok hconsumes
  refine ⟨hends, hold, ?_⟩
  rcases hcase with hgap | ⟨harray, -⟩
  · simp only [Variable.isGap, Bool.and_eq_true, beq_iff_eq] at hgap
    exact hgap.2
  · exact harray

omit hg hh in
/-- Where gaps are used up by gaps, the name of what uses one up is accepted. -/
theorem FieldCompared.not_isRenamed {T : TypeRelation g h} {x : Variable g.Ref} {y : Variable h.Ref}
    {c : FieldChange} (hxy : FieldCompared options T x y (some c)) (hconsumes : c.ConsumesGap)
    (hgaps : (x.map g.info).isGap = true →
      Variable.SameEnd (x.map g.info) (y.map h.info) →
        (y.map h.info).isGap = true ∧ (y.map h.info).renamedFrom = .null) :
    isRenamed options (x.map g.info) (y.map h.info) = false := by
  obtain ⟨-, hends, hcase⟩ := hxy.verdict.gap hconsumes
  rcases hcase with ⟨-, hgap⟩ | ⟨hrenamed, -⟩
  · obtain ⟨hupdated, hfrom⟩ := hgaps hgap (Variable.endsWith_ok_true_iff.1 hends)
    simp only [Variable.isGap, Bool.and_eq_true, beq_iff_eq] at hgap hupdated
    cases hallow : options.allowRenames with
    | true => exact isRenamed_of_allowRenames hallow
    | false =>
        rw [isRenamed_gap hgap.1 hfrom hallow, hupdated.1]
        rfl
  · exact hrenamed

include hrenames

/-- If gaps are used up by gaps, then a comparison that accepts all names is a more lenient one. -/
theorem relaxed_of_keepsGaps {T T' : TypeRelation g h}
    {change change' : Variable g.Ref → Variable h.Ref → Option FieldChange}
    {old : List (Variable g.Ref)} {updated : List (Variable h.Ref)}
    (hkeeps : Variable.KeepsGaps (old.map (·.map g.info)) (updated.map (·.map h.info)))
    (hchange : ∀ x ∈ old, ∀ y ∈ updated, FieldCompared options T x y (change x y))
    (hchange' : ∀ x ∈ old, ∀ y ∈ updated, FieldCompared options' T' x y (change' x y))
    (hT : ∀ x ∈ old, ∀ y ∈ updated, ∀ c c', OnlyShrinks c → T x.type y.type false c →
      T' x.type y.type false c' → c' = c) :
    Relaxed change change' old updated where
  same x hx y hy hprice := by
    refine (hchange x hx y hy).verdict.eq_of_lenient (hchange' x hx y hy).verdict hrenames
      (hT x hx y hy) ?_
    intro c hc
    have hconsumes := price_costOf_eq_zero_iff.1 hprice c hc
    have hxy := hchange x hx y hy
    rw [Option.mem_def.1 hc] at hxy
    exact ⟨hconsumes, hxy.not_isRenamed hconsumes fun hgap hends =>
      hkeeps.gaps _ (List.mem_map_of_mem hx) hgap _ (List.mem_map_of_mem hy) hends⟩
  ends x hx y hy c hc hconsumes := by
    rcases hc with hc | hc
    · obtain ⟨hends, hold, -⟩ := FieldCompared.sameEnd hg hh (hc ▸ hchange x hx y hy) hconsumes
      exact ⟨hends, hold⟩
    · obtain ⟨hends, hold, -⟩ := FieldCompared.sameEnd hg hh (hc ▸ hchange' x hx y hy) hconsumes
      exact ⟨hends, hold⟩
  late x hx y hy z hz c hc hconsumes hprice hprecedes := by
    obtain ⟨hends, -, harray⟩ := FieldCompared.sameEnd hg hh (hc ▸ hchange x hx z hz) hconsumes
    refine hprecedes.not_sameEnd hends ?_
    have hxy := hchange' x hx y hy
    have hgap := price_costOf_eq_zero_iff.1 hprice
    cases hc' : change' x y with
    | some c' => exact (FieldCompared.sameEnd hg hh (hc' ▸ hxy) (hgap c' hc')).1
    | none =>
        -- two variables of known places that do not differ are in the same place
        obtain ⟨gapLast, hgapLast, -⟩ := hends
        obtain ⟨last, -, -, hlast, -⟩ := hprecedes
        rcases samePlace_of_unchanged hg hh (Variable.isPlaced_of_end? hgapLast)
          (Variable.isPlaced_of_end? hlast) (hc' ▸ hxy).eq_ok with ⟨hbyte, -⟩ | hsame
        · rw [hkeeps.labels _ (List.mem_map_of_mem hx) harray] at hbyte
          cases hbyte
        · exact ⟨last, hsame.end?_eq.trans hlast, hlast⟩
  inOrder x hx y hy c hc hconsumes := by
    obtain ⟨-, -, harray⟩ := FieldCompared.sameEnd hg hh (hc ▸ hchange x hx y hy) hconsumes
    exact hkeeps.inOrder ⟨_, List.mem_map_of_mem hx, harray⟩

end

/-! ### Types -/

section

variable {old updated : DetailedLayout} (hg : old.graph.Distinct) (hh : updated.graph.Distinct)
  (hrenames : options'.allowRenames = true)
  (hcustom : options.allowCustomTypes = true → options'.allowCustomTypes = true)
  (hkeeps : old.KeepsGaps options updated)

include hg hh hrenames hcustom hkeeps

/-- A comparison that accepts all names finds that two types did not change, or that an array got
shorter, where one that does not accept them does. -/
theorem eq_of_plainChange (depth : Nat) :
    ∀ depth' a b allowAppend change change', old.Holds a → updated.Holds b → OnlyShrinks change →
      Returns anyMemory (plainChange options old.graph updated.graph depth a b allowAppend) change →
      Returns anyMemory (plainChange options' old.graph updated.graph depth' a b allowAppend)
        change' → change' = change := by
  induction depth with
  | zero =>
      intro depth' a b allowAppend change change' _ _ _ hplain
      exact absurd hplain not_returns_plainChange_zero
  | succ depth ih =>
      intro depth' a b allowAppend change change' ha hb hshrinks hplain hplain'
      cases depth' with
      | zero => exact absurd hplain' not_returns_plainChange_zero
      | succ depth' =>
          refine (nodeVerdict_of_plainChange hg hh hplain).eq_of_lenient
            (nodeVerdict_of_plainChange hg hh hplain') hcustom ?_ ?_ hshrinks
          · intro a' ha' b' hb' allow c hnone hc
            exact ih depth' a' b' allow none c (ha.of_isPart ha') (hb.of_isPart hb')
              onlyShrinks_none hnone hc
          · rintro rfl hold hupdated was is ops hwas his ⟨change, hchange, hnil⟩
              ⟨change', hchange', hops⟩
            obtain rfl := fields_of_bind_structMembers? hwas
            obtain rfl := fields_of_bind_structMembers? his
            have hanswer : answer (compareTypes options old.graph updated.graph a b allowAppend) =
                .ok none :=
              ((returns_compareTypes_iff hg hh).2 ⟨_, hplain⟩).answer_eq faithful_nil
            have hrelaxed : Relaxed change change' _ _ :=
              relaxed_of_keepsGaps hg hh hrenames (hkeeps.fields a ha b hb allowAppend hanswer)
                hchange hchange' fun x hx y hy c c' hc hplain hplain' =>
                  ih depth' _ _ _ _ _ (ha.of_isPart (TypeNode.type_mem_parts hold hx))
                    (hb.of_isPart (TypeNode.type_mem_parts hupdated hy)) hc hplain hplain'
            rw [hrelaxed.answer_nil hnil] at hops
            exact (Except.ok.inj hops).symm

/-- If gaps are used up by gaps, then an upgrade that passes does so when names may change, too,
unless it fails. -/
theorem passes_of_keepsGaps (hpasses : Passes options old updated) {reported : List FieldOp}
    (hanswer : answer (compareLayouts options' old updated) = .ok reported) :
    Passes options' old updated := by
  obtain ⟨change, hchange, hnil⟩ := exists_of_answer_align hg hh hpasses
  obtain ⟨change', hchange', hreported⟩ := exists_of_answer_align hg hh hanswer
  have hrelaxed : Relaxed change change' old.vars updated.vars := by
    refine relaxed_of_keepsGaps hg hh hrenames hkeeps.vars
      (fun x hx y hy => ⟨hchange x hx y hy, fieldVerdict_of_fieldChange? hg hh (hchange x hx y hy)⟩)
      (fun x hx y hy =>
        ⟨hchange' x hx y hy, fieldVerdict_of_fieldChange? hg hh (hchange' x hx y hy)⟩) ?_
    rintro x hx y hy c c' hshrinks ⟨depth, hplain⟩ ⟨depth', hplain'⟩
    exact eq_of_plainChange hg hh hrenames hcustom hkeeps depth depth' _ _ _ _ _ ⟨x, hx, .refl⟩
      ⟨y, hy, .refl⟩ hshrinks hplain hplain'
  exact (answer_align_iff hg hh hchange').2 (hrelaxed.answer_nil hnil)

end

end Comparator

/-! ### Reports -/

namespace Upgrade

open Comparator

variable {options : ValidationOptions} {old updated : Layout}

/-- Two lists of variables are compared by an upgrade: the variables of the contracts, or those of a
namespace. -/
def Compares (old updated : Layout) (items newItems : List Item) : Prop :=
  (items = old.storage ∧ newItems = updated.storage) ∨
    ∃ id, (id, items) ∈ old.namespaces.getD [] ∧
      Json.find? id (updated.namespaces.getD []) = some newItems

/-- Gaps are used up by gaps in everything that an upgrade compares. -/
def KeepsGaps (options : ValidationOptions) (old updated : Layout) : Prop :=
  ∀ items newItems was is, Compares old updated items newItems →
    old.detailItems items = .ok was → updated.detailItems newItems = .ok is →
      was.KeepsGaps (compareOptions options) is

theorem exists_of_newReport {compare : CompareOptions}
    {was is : Except TypeGraph.Problem DetailedLayout} {r : Report}
    (h : newReport compare was is = .ok r) :
    ∃ d d', was = .ok d ∧ is = .ok d' ∧ answer (compareLayouts compare d d') = .ok r.ops := by
  unfold newReport at h
  cases was with
  | error e => cases h
  | ok d =>
      cases is with
      | error e => cases h
      | ok d' =>
          obtain ⟨ops, hops, h⟩ := exists_of_bind_ok (x := answer (compareLayouts compare d d')) h
          cases h
          exact ⟨d, d', rfl, rfl, hops⟩

theorem exists_of_newReports {r : NamespacedReport} (h : newReports options old updated = .ok r) :
    newReport (compareOptions options) old.detail updated.detail = .ok r.main ∧
      List.Forall₂ (fun entry n => ∃ newItems,
        Json.find? entry.1 (updated.namespaces.getD []) = some newItems ∧
          newReport (compareOptions options) (old.detailItems entry.2)
            (updated.detailItems newItems) = .ok n.2) (old.namespaces.getD []) r.namespaces := by
  obtain ⟨main, hmain, h⟩ := exists_of_bind_ok h
  obtain ⟨namespaces, hnamespaces, h⟩ := exists_of_bind_ok h
  cases h
  refine ⟨hmain, (forall₂_of_mapM_ok hnamespaces).imp ?_⟩
  rintro ⟨id, items⟩ n hn
  dsimp only at hn
  cases hfind : Json.find? id (updated.namespaces.getD []) with
  | none =>
      rw [hfind] at hn
      cases hn
  | some newItems =>
      rw [hfind] at hn
      obtain ⟨report, hreport, hn⟩ := exists_of_bind_ok hn
      cases hn
      exact ⟨newItems, rfl, hreport⟩

/-- Nothing is reported of an upgrade if nothing is of any of its comparisons. -/
theorem passes_merged_iff {r : NamespacedReport} :
    r.merged.passes = true ↔ r.main.ops = [] ∧ ∀ n ∈ r.namespaces, n.2.ops = [] := by
  rw [Report.passes, List.isEmpty_iff, NamespacedReport.merged, List.append_eq_nil_iff,
    List.flatMap_eq_nil_iff]

theorem nil_of_keepsGaps (hkeeps : KeepsGaps options old updated) {items newItems : List Item}
    (hcompares : Compares old updated items newItems) {r r' : Report}
    (hr : newReport (compareOptions options) (old.detailItems items)
      (updated.detailItems newItems) = .ok r)
    (hr' : newReport (compareOptions { options with allowRenames := true })
      (old.detailItems items) (updated.detailItems newItems) = .ok r') (hnil : r.ops = []) :
    r'.ops = [] := by
  obtain ⟨d, d', hd, hd', hanswer⟩ := exists_of_newReport hr
  obtain ⟨e, e', he, he', hanswer'⟩ := exists_of_newReport hr'
  cases hd.symm.trans he
  cases hd'.symm.trans he'
  rw [hnil] at hanswer
  let lenient := { options with allowRenames := true }
  have hcustom : (compareOptions options).allowCustomTypes = true →
      (compareOptions lenient).allowCustomTypes = true := id
  have hpasses : Passes (compareOptions lenient) d d' :=
    passes_of_keepsGaps (Layout.distinct_of_detailItems hd) (Layout.distinct_of_detailItems hd')
      rfl hcustom (hkeeps items newItems d d' hcompares hd hd') hanswer hanswer'
  exact Except.ok.inj (hanswer'.symm.trans hpasses)

/-- If gaps are used up by gaps, then allowing renames lets no upgrade fail that passed before. -/
theorem passes_of_allowRenames (hkeeps : KeepsGaps options old updated) {r r' : Report}
    (hr : (report options old updated).outcome.1 = .ok r) (hpasses : r.passes = true)
    (hr' : (report { options with allowRenames := true } old updated).outcome.1 = .ok r') :
    r'.passes = true := by
  rw [outcome_report] at hr hr'
  obtain ⟨reports, hreports, hmerged⟩ := exists_of_bind_ok hr
  obtain ⟨reports', hreports', hmerged'⟩ := exists_of_bind_ok hr'
  cases hmerged
  cases hmerged'
  obtain ⟨hmain, hnamespaces⟩ := exists_of_newReports hreports
  obtain ⟨hmain', hnamespaces'⟩ := exists_of_newReports hreports'
  obtain ⟨hnil, hnils⟩ := passes_merged_iff.1 hpasses
  refine passes_merged_iff.2 ⟨nil_of_keepsGaps hkeeps (.inl ⟨rfl, rfl⟩) hmain hmain' hnil, ?_⟩
  intro n' hn'
  obtain ⟨⟨id, items⟩, hentry, newItems, hfind, hn⟩ := exists_left_of_mem hnamespaces' hn'
  obtain ⟨n, hmem, newItems', hfind', hstrict⟩ := exists_right_of_mem hnamespaces hentry
  cases hfind.symm.trans hfind'
  exact nil_of_keepsGaps hkeeps (.inr ⟨id, hentry, hfind⟩) hstrict hn (hnils n hmem)

/-! ### A gap that is used up by a gap, and one that is not -/

/-- Some variables with the types of `gapTypes`, in a contract and in a namespace. -/
def gapTypesLayout (items : List Item) : Layout where
  storage := items
  types := gapTypes
  namespaces := some [("box", items)]

/-- A number with a gap for two numbers behind it. -/
def spareItems : List Item :=
  [{ label := .str "a", type := .str "t_uint256", slot := some "0", offset := some 0 },
    { label := .str "__gap", type := .str "t_array(t_uint256)2_storage", slot := some "1"
      offset := some 0 }]

/-- The same number under another name, which is declared, a second one where the gap was, and a
shorter gap. -/
def shrunkItems : List Item :=
  [{ label := .str "b", type := .str "t_uint256", slot := some "0", offset := some 0
     renamedFrom := .str "a" },
    { label := .str "c", type := .str "t_uint256", slot := some "1", offset := some 0 },
    { label := .str "__gap", type := .str "t_array(t_uint256)1_storage", slot := some "2"
      offset := some 0 }]

/-- The same number, and two others where the gap was. -/
def finishedItems : List Item :=
  [{ label := .str "a", type := .str "t_uint256", slot := some "0", offset := some 0 },
    { label := .str "b", type := .str "t_uint256", slot := some "1", offset := some 0 },
    { label := .str "c", type := .str "t_uint256", slot := some "2", offset := some 0 }]

/-- The details of some variables of `gapTypesLayout`. -/
def gapTypesDetail (ids : List String) (items : List Item) : DetailedLayout :=
  ⟨.ofIds gapTypes ids, items.filterMap (TypeGraph.resolve? ids)⟩

theorem keepsGaps_spareItems_shrunkItems :
    KeepsGaps {} (gapTypesLayout spareItems) (gapTypesLayout shrunkItems) := by
  let was := gapTypesDetail ["t_uint256", "t_array(t_uint256)2_storage"] spareItems
  let is := gapTypesDetail ["t_uint256", "t_array(t_uint256)1_storage"] shrunkItems
  have hwas : (gapTypesLayout spareItems).detailItems spareItems = .ok was :=
    Layout.detailItems_of_reachable (by decide +kernel)
  have his : (gapTypesLayout shrunkItems).detailItems shrunkItems = .ok is :=
    Layout.detailItems_of_reachable (by decide +kernel)
  have hvars : Variable.KeepsGaps was.typed is.typed := by
    decide +kernel
  have hfields : ∀ a b, Variable.KeepsGaps ((was.graph.node a).fields.map (·.map was.graph.info))
      ((is.graph.node b).fields.map (·.map is.graph.info)) := by
    decide +kernel
  intro items newItems d d' hcompares hd hd'
  -- the contract and the namespace hold the same variables
  have hitems : items = spareItems ∧ newItems = shrunkItems := by
    rcases hcompares with hstorage | ⟨id, hentry, hfind⟩
    · exact hstorage
    · cases List.mem_singleton.1 hentry
      cases hfind
      exact ⟨rfl, rfl⟩
  obtain ⟨rfl, rfl⟩ := hitems
  cases hwas.symm.trans hd
  cases his.symm.trans hd'
  exact ⟨hvars, fun a _ b _ _ _ => hfields a b⟩

/-- A gap that a shorter gap used up is still used up when renames are allowed. -/
theorem passes_spareItems_shrunkItems :
    ∃ r, (report { allowRenames := true } (gapTypesLayout spareItems)
      (gapTypesLayout shrunkItems)).outcome.1 = .ok r ∧ r.passes = true :=
  ⟨⟨[]⟩, by rfl, passes_of_allowRenames (r := ⟨[]⟩) keepsGaps_spareItems_shrunkItems (by rfl) rfl
    (by rfl)⟩

/-- A gap whose end a variable of another name took passes, but not when renames are allowed. -/
theorem not_passes_spareItems_finishedItems :
    (∃ r, (report {} (gapTypesLayout spareItems) (gapTypesLayout finishedItems)).outcome.1 =
        .ok r ∧ r.passes = true) ∧
      ∃ r, (report { allowRenames := true } (gapTypesLayout spareItems)
        (gapTypesLayout finishedItems)).outcome.1 = .ok r ∧ r.passes = false :=
  ⟨⟨⟨[]⟩, by rfl, rfl⟩, _, by rfl, rfl⟩

end Upgrade

end StorageUpgrade
