import StorageUpgrade.Proofs.Compare.Reports
import StorageUpgrade.Proofs.Compare.Unchecked

/-!
# What a report says of types that pass unchecked

A report that may let types pass whose members are unknown ends with a warning or with the notice
that the option is not needed.

* After the notice the report is the one that is made without the option
  (`report_strict_of_checked`).
* The warning says that types were let pass which are found to lack members without the option
  (`warned_iff_letsPass`).  They need not be types of variables that the upgrade matches: all
  variables are compared with all others before one of the alignments is taken, so there may be a
  warning although the option makes no difference (`warned_knownItem_unknownItem`).
-/

namespace StorageUpgrade

/-- The same options, without leave for types whose members are unknown. -/
def ValidationOptions.strict (options : ValidationOptions) : ValidationOptions :=
  { options with allowCustomTypes := false }

namespace Upgrade

open Comparator

variable {options : ValidationOptions} {old updated : Layout}

/-! ### Layouts of structs with and without members -/

/-- A layout whose main variables are also those of a namespace; it uses a struct whose members are
known and one whose members are not. -/
def recordLayout (items : List Item) : Layout where
  storage := items
  types :=
    [("t_uint256", { label := .str "uint256", numberOfBytes := some "32" }),
      ("t_struct(S)1_storage", { label := .str "struct S", numberOfBytes := some "32"
                                 members := some
                                   [.inl { label := .str "a", type := .str "t_uint256" }] }),
      ("t_struct(T)2_storage", { label := .str "struct T", numberOfBytes := some "32" })]
  namespaces := some [("box", items)]

/-- A number. -/
def countItem : Item := { label := .str "count", type := .str "t_uint256" }

/-- A struct whose members are known. -/
def knownItem : Item := { label := .str "known", type := .str "t_struct(S)1_storage" }

/-- A struct whose members are not known. -/
def unknownItem : Item := { label := .str "unknown", type := .str "t_struct(T)2_storage" }

/-! ### The comparator of a report -/

/-- The comparator of a report and the one without the option agree until types pass unchecked. -/
theorem agreeUntilPassed_compareAll (hcustom : options.allowCustomTypes = true) :
    AgreeUntilPassed (compareAll options old updated)
      (compareAll options.strict old updated) := by
  have hstep : Congruence (compareOptions options).strict fun _ => AgreeUntilPassed :=
    congruence_agreeUntilPassed rfl
  have hcompare (was is : Except TypeGraph.Problem DetailedLayout) :
      (AgreeUntilPassed : CompareM Report → CompareM Report → Prop)
        (do
          let was ← (was : Except Error _)
          let is ← (is : Except Error _)
          return ⟨← compareLayouts (compareOptions options) was is⟩)
        (do
          let was ← (was : Except Error _)
          let is ← (is : Except Error _)
          return ⟨← compareLayouts (compareOptions options).strict was is⟩) := by
    refine (hstep.lift _).bind fun was => (hstep.lift _).bind fun is => ?_
    exact (agreeUntilPassed_compareLayouts hcustom was is).bind fun ops => hstep.pure _
  refine (hcompare old.detail updated.detail).bind fun main => ?_
  refine (hstep.mapM (List.forall₂_same.2 fun entry _ => ?_)).bind fun namespaces => hstep.pure _
  obtain ⟨id, items⟩ := entry
  dsimp only
  cases Json.find? id (updated.namespaces.getD []) with
  | none => exact hstep.throw _
  | some newItems =>
      refine (hstep.say _ _).bind fun _ => ?_
      exact (hcompare (old.detailItems items) (updated.detailItems newItems)).bind fun report =>
        hstep.pure _

/-- The state of the comparator of a report after all comparisons. -/
def finalState (options : ValidationOptions) (old updated : Layout) : ComparatorState :=
  (outcome (compareAll options old updated) {}).2

/-- What is said at the end of a report. -/
def closingRecords (options : ValidationOptions) (unchecked : Bool) : List Log.Record :=
  if unchecked then [⟨"storage", Log.warning, uncheckedWarning⟩]
  else if options.allowCustomTypes then [⟨"storage", Log.info, unneededNotice⟩]
  else []

theorem outcome_report_of_error {e : Error}
    (h : (outcome (compareAll options old updated) {}).1 = .error e) :
    (report options old updated).outcome = (.error e, (finalState options old updated).log) := by
  unfold finalState
  unfold outcome at h ⊢
  unfold report withComparator LoggedM.outcome
  generalize (compareAll options old updated).run.run {} = run at h ⊢
  obtain ⟨_, s⟩ := run
  obtain rfl := h
  rfl

theorem outcome_report_of_ok {reports : NamespacedReport}
    (h : (outcome (compareAll options old updated) {}).1 = .ok reports) :
    (report options old updated).outcome = (.ok reports.merged,
      (finalState options old updated).log ++
        closingRecords options (finalState options old updated).unchecked) := by
  unfold finalState
  unfold outcome at h ⊢
  unfold report withComparator LoggedM.outcome closingRecords
  generalize (compareAll options old updated).run.run {} = run at h ⊢
  obtain ⟨_, ⟨_, _, unchecked, _⟩⟩ := run
  obtain rfl := h
  cases unchecked with
  | true => rfl
  | false =>
      cases options.allowCustomTypes with
      | true => rfl
      | false => exact congrArg (Prod.mk _) (List.append_nil _).symm

/-! ### The notice -/

/-- If no type passed unchecked, then the option makes no difference: the report or the error is
the one without it, and so is what is said, but for the notice at the end of a report. -/
theorem report_strict_of_checked (hcustom : options.allowCustomTypes = true)
    (hchecked : (finalState options old updated).unchecked = false) :
    (report options.strict old updated).outcome.1 = (report options old updated).outcome.1 ∧
      ∀ r, (report options old updated).outcome.1 = .ok r →
        (report options old updated).outcome.2 =
          (report options.strict old updated).outcome.2 ++
            [⟨"storage", Log.info, unneededNotice⟩] := by
  have hsame : outcome (compareAll options.strict old updated) {} =
      outcome (compareAll options old updated) {} := by
    rcases (agreeUntilPassed_compareAll hcustom).agree {} nofun with ⟨hsame, -⟩ | ⟨hpassed, -⟩
    · exact hsame
    · exact absurd (hchecked.symm.trans hpassed) nofun
  have hstate : finalState options.strict old updated = finalState options old updated :=
    congrArg Prod.snd hsame
  cases h : (outcome (compareAll options old updated) {}).1 with
  | error e =>
      -- nothing is said at the end of a comparison that fails
      rw [outcome_report_of_error h, outcome_report_of_error ((congrArg Prod.fst hsame).trans h)]
      exact ⟨rfl, nofun⟩
  | ok reports =>
      have hstrict := outcome_report_of_ok ((congrArg Prod.fst hsame).trans h)
      rw [hstate, hchecked] at hstrict
      rw [hstrict, outcome_report_of_ok h, hchecked]
      unfold closingRecords
      rw [hcustom]
      exact ⟨rfl, fun _ _ => congrArg (· ++ _) (List.append_nil _).symm⟩

/-- Structs of known members do not pass unchecked, so the same is reported without the option when
one that stood before a number comes after it. -/
theorem report_strict_knownItem :
    ∃ r, (report { allowCustomTypes := true } (recordLayout [knownItem, countItem])
        (recordLayout [countItem, knownItem])).outcome.1 = .ok r ∧
      r.passes = false ∧
      (report (ValidationOptions.strict { allowCustomTypes := true })
        (recordLayout [knownItem, countItem])
        (recordLayout [countItem, knownItem])).outcome.1 = .ok r ∧
      (report { allowCustomTypes := true } (recordLayout [knownItem, countItem])
        (recordLayout [countItem, knownItem])).outcome.2 =
      (report (ValidationOptions.strict { allowCustomTypes := true })
        (recordLayout [knownItem, countItem])
        (recordLayout [countItem, knownItem])).outcome.2 ++
          [⟨"storage", Log.info, unneededNotice⟩] := by
  obtain ⟨r, hr, hpasses⟩ : ∃ r, (report { allowCustomTypes := true }
      (recordLayout [knownItem, countItem]) (recordLayout [countItem, knownItem])).outcome.1 =
        .ok r ∧ r.passes = false := by decide +kernel
  have hchecked : (finalState { allowCustomTypes := true } (recordLayout [knownItem, countItem])
      (recordLayout [countItem, knownItem])).unchecked = false := by decide +kernel
  obtain ⟨hsame, hlog⟩ := report_strict_of_checked rfl hchecked
  exact ⟨r, hr, hpasses, hsame.trans hr, hlog r hr⟩

/-! ### The warning -/

/-- Some types are remembered as unchanged with the option, and as types whose members are missing
without it. -/
def LetsPass (options : ValidationOptions) (old updated : Layout) : Prop :=
  Passed (finalState options old updated).cache (finalState options.strict old updated).cache

theorem unchecked_iff_letsPass (hcustom : options.allowCustomTypes = true) :
    (finalState options old updated).unchecked = true ↔ LetsPass options old updated := by
  have hagree : AgreeUntilPassed (compareAll options old updated)
      (compareAll options.strict old updated) := agreeUntilPassed_compareAll hcustom
  rcases hagree.agree {} nofun with ⟨hsame, hkept, hnone⟩ | ⟨hunchecked, hpassed⟩
  · have hstate : finalState options.strict old updated = finalState options old updated :=
      congrArg Prod.snd hsame
    constructor
    · intro hunchecked
      exact absurd (hkept.symm.trans hunchecked) nofun
    · intro hpasses
      unfold LetsPass at hpasses
      rw [hstate] at hpasses
      obtain ⟨key, change, hmissing, -, hmem⟩ := hpasses
      exact absurd hmissing (hnone _ hmem)
  · exact iff_of_true hunchecked hpassed

/-- The report of an upgrade ends with the warning. -/
def Warned (options : ValidationOptions) (old updated : Layout) : Prop :=
  ∃ said, (report options old updated).outcome.2 =
    said ++ [⟨"storage", Log.warning, uncheckedWarning⟩]

theorem warned_iff_unchecked {r : Report} (hcustom : options.allowCustomTypes = true)
    (hreport : (report options old updated).outcome.1 = .ok r) :
    Warned options old updated ↔ (finalState options old updated).unchecked = true := by
  have hlog : (report options old updated).outcome.2 = (finalState options old updated).log ++
      closingRecords options (finalState options old updated).unchecked := by
    cases h : (outcome (compareAll options old updated) {}).1 with
    | error e =>
        rw [outcome_report_of_error h] at hreport
        cases hreport
    | ok reports => rw [outcome_report_of_ok h]
  unfold Warned
  rw [hlog]
  unfold closingRecords
  cases (finalState options old updated).unchecked with
  | true => exact iff_of_true ⟨_, rfl⟩ rfl
  | false =>
      -- the last record is the notice, which is no warning
      rw [hcustom]
      refine iff_of_false ?_ nofun
      rintro ⟨said, hsaid⟩
      injection List.append_inj_right' hsaid rfl with hrecord
      injection hrecord with _ hlevel
      exact absurd hlevel (by decide)

/-- There is a warning if and only if types were let pass that are found to lack members without
the option. -/
theorem warned_iff_letsPass {r : Report} (hcustom : options.allowCustomTypes = true)
    (hreport : (report options old updated).outcome.1 = .ok r) :
    Warned options old updated ↔ LetsPass options old updated :=
  (warned_iff_unchecked hcustom hreport).trans (unchecked_iff_letsPass hcustom)

/-- There is a warning if a struct with unknown members stays as it is, since it was let pass. -/
theorem warned_unknownItem :
    Warned { allowCustomTypes := true } (recordLayout [unknownItem]) (recordLayout [unknownItem]) ∧
      LetsPass { allowCustomTypes := true } (recordLayout [unknownItem])
        (recordLayout [unknownItem]) := by
  have hreport : (report { allowCustomTypes := true } (recordLayout [unknownItem])
      (recordLayout [unknownItem])).outcome.1 = .ok ⟨[]⟩ := eq_ok_of_passes (by decide +kernel)
  have hwarned := (warned_iff_unchecked rfl hreport).2 (by decide +kernel)
  exact ⟨hwarned, (warned_iff_letsPass rfl hreport).1 hwarned⟩

/-- There is a warning although the report is the same without the option: the struct with unknown
members is appended, but it was compared with the other one before. -/
theorem warned_knownItem_unknownItem :
    Warned { allowCustomTypes := true } (recordLayout [knownItem])
        (recordLayout [knownItem, unknownItem]) ∧
      (report { allowCustomTypes := true } (recordLayout [knownItem])
        (recordLayout [knownItem, unknownItem])).outcome.1 = .ok ⟨[]⟩ ∧
      (report { allowCustomTypes := false } (recordLayout [knownItem])
        (recordLayout [knownItem, unknownItem])).outcome.1 = .ok ⟨[]⟩ := by
  have hreport : (report { allowCustomTypes := true } (recordLayout [knownItem])
      (recordLayout [knownItem, unknownItem])).outcome.1 = .ok ⟨[]⟩ :=
    eq_ok_of_passes (by decide +kernel)
  exact ⟨(warned_iff_unchecked rfl hreport).2 (by decide +kernel), hreport,
    eq_ok_of_passes (by decide +kernel)⟩

end Upgrade

end StorageUpgrade
