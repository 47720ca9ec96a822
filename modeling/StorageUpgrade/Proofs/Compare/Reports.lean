import StorageUpgrade.Proofs.Compare.Session
import StorageUpgrade.Upgrade

/-!
# The reports of an upgrade

One comparator makes all reports of an upgrade.  A comparator that is used again gives the results
of new ones (`session_eq`), so each report is the one that a new comparator makes
(`answer_compareAll`): the report of a namespace does not depend on what was compared before it, and
an upgrade fails where the first of its comparisons does.

The memory of the comparator is right for the two layouts all the time, and `Results P m x` says
that `m` has the result `x` with any memory that satisfies `P`.
-/

namespace StorageUpgrade

namespace Comparator

variable {α β : Type} {P : MemoryProp}

/-- With any memory that satisfies `P`, a comparison has the given result, be it an answer or an
error, and leaves a memory that satisfies `P`. -/
def Results (P : MemoryProp) (m : CompareM α) (x : Except Error α) : Prop := ∀ ⦃s⦄, P s.cache →
  (outcome m s).1 = x ∧ P (outcome m s).2.cache

theorem SameResult.results {m : CompareM α} (h : SameResult P m m) (hnil : P []) :
    Results P m (answer m) := by
  intro s hs
  obtain ⟨hresult, hP, -⟩ := h (t := {}) hs hnil
  exact ⟨hresult, hP⟩

theorem Results.answer_eq {m : CompareM α} {x : Except Error α} (h : Results P m x) (hnil : P []) :
    answer m = x := (h hnil).1

theorem Results.pure (a : α) : Results P (pure a) (.ok a) := fun _ hs => ⟨rfl, hs⟩

theorem Results.throw (e : Error) : Results P (throw e : CompareM α) (.error e) :=
  fun _ hs => ⟨rfl, hs⟩

theorem Results.bind {m : CompareM α} {f : α → CompareM β} {x : Except Error α}
    {y : α → Except Error β} (hm : Results P m x) (hf : ∀ a, Results P (f a) (y a)) :
    Results P (m >>= f) (x >>= y) := by
  intro s hs
  obtain ⟨hresult, hP⟩ := hm hs
  rw [outcome_bind]
  cases hmt : outcome m s with
  | mk z t =>
      rw [hmt] at hresult hP
      obtain rfl : z = x := hresult
      cases z with
      | error e => exact ⟨rfl, hP⟩
      | ok a => exact hf a hP

theorem Results.say (level : Log.Level) (message : String) :
    Results P (say level message) (.ok ()) := fun _ hs => ⟨rfl, hs⟩

theorem Results.mapM {f : α → CompareM β} {y : α → Except Error β} (xs : List α)
    (h : ∀ a, Results P (f a) (y a)) : Results P (xs.mapM f) (xs.mapM y) := by
  induction xs with
  | nil => exact Results.pure []
  | cons a xs ih =>
      rw [List.mapM_cons, List.mapM_cons]
      exact (h a).bind fun b => ih.bind fun bs => Results.pure (b :: bs)

end Comparator

namespace Upgrade

open Comparator

/-- The report on two lists of variables that a new comparator makes. -/
def newReport (options : CompareOptions) (old updated : Except TypeGraph.Problem DetailedLayout) :
    Except Error Report := do
  let was ← (old : Except Error _)
  let is ← (updated : Except Error _)
  let ops ← answer (compareLayouts options was is)
  return ⟨ops⟩

/-- The reports of an upgrade, each of them made by a new comparator. -/
def newReports (options : ValidationOptions) (old updated : Layout) :
    Except Error NamespacedReport := do
  let main ← newReport (compareOptions options) old.detail updated.detail
  let namespaces ← (old.namespaces.getD []).mapM fun (id, items) =>
    match Json.find? id (updated.namespaces.getD []) with
    | none => .error (.upgrade (.noNamespace id))
    | some newItems => do
      let report ← newReport (compareOptions options) (old.detailItems items)
        (updated.detailItems newItems)
      return (id, report)
  return { main, namespaces }

/-- All reports are made by one comparator as they are made by new ones. -/
theorem answer_compareAll (options : ValidationOptions) (old updated : Layout) :
    answer (compareAll options old updated) = newReports options old updated := by
  have hnil : RightForLayouts (compareOptions options) old updated [] := fun _ _ => faithful_nil
  have hcompare (items newItems : List Item) :
      Results (RightForLayouts (compareOptions options) old updated) (do
        let was ← (old.detailItems items : Except Error _)
        let is ← (updated.detailItems newItems : Except Error _)
        return ⟨← compareLayouts (compareOptions options) was is⟩)
        (newReport (compareOptions options) (old.detailItems items)
          (updated.detailItems newItems)) := by
    unfold newReport
    cases hwas : old.detailItems items with
    | error e => exact Results.throw _
    | ok was =>
        cases his : updated.detailItems newItems with
        | error e => exact Results.throw _
        | ok is =>
            exact ((sameResult_compareLayouts ⟨items, was, hwas⟩ ⟨newItems, is, his⟩).results
              hnil).bind fun ops => Results.pure _
  refine Results.answer_eq (P := RightForLayouts (compareOptions options) old updated) ?_ hnil
  refine (hcompare old.storage updated.storage).bind fun main => ?_
  refine (Results.mapM _ fun entry => ?_).bind fun namespaces => Results.pure _
  obtain ⟨id, items⟩ := entry
  dsimp only
  cases Json.find? id (updated.namespaces.getD []) with
  | none => exact Results.throw _
  | some newItems =>
      exact (Results.say _ _).bind fun _ => (hcompare items newItems).bind fun _ => Results.pure _

/-- The report of an upgrade holds what new comparators report, or it is their first error. -/
theorem outcome_report (options : ValidationOptions) (old updated : Layout) :
    (report options old updated).outcome.1 =
      (newReports options old updated).map NamespacedReport.merged := by
  have hanswer := answer_compareAll options old updated
  unfold answer outcome at hanswer
  rw [← hanswer]
  unfold report withComparator LoggedM.outcome
  -- what is said at the end has no bearing on the report
  rcases (compareAll options old updated).run.run {} with ⟨e | reports, ⟨_, _, unchecked, _⟩⟩
  · rfl
  · cases unchecked with
    | true => rfl
    | false => cases options.allowCustomTypes <;> rfl

instance decidableExistsOk {ε α : Type} (x : Except ε α) (p : α → Prop) [DecidablePred p] :
    Decidable (∃ a, x = .ok a ∧ p a) :=
  match x with
  | .error _ => isFalse nofun
  | .ok a => decidable_of_iff (p a)
      ⟨fun h => ⟨a, rfl, h⟩, fun ⟨_, ha, h⟩ => Except.ok.inj ha ▸ h⟩

theorem eq_ok_of_passes {x : Except Error Report} (h : ∃ r, x = .ok r ∧ r.passes = true) :
    x = .ok ⟨[]⟩ := by
  obtain ⟨⟨ops⟩, rfl, hpasses⟩ := h
  obtain rfl : ops = [] := List.isEmpty_iff.1 hpasses
  rfl

end Upgrade

/-- A comparator that is used again gives the results of new ones, errors included, and no
comparison is in progress after any of them; and the reports of an upgrade are those of new
comparators. -/
theorem Comparator.session_eq {l l' : Layout} (options : CompareOptions)
    (queries : List (Query l l')) :
    (session options queries {}).map (fun r => (r.1, r.2.inProgress)) =
        queries.map (fun q => (answer (q.ask options), [])) ∧
      ∀ checks : ValidationOptions,
        answer (Upgrade.compareAll checks l l') = Upgrade.newReports checks l l' :=
  ⟨session_of_right queries {} (fun _ _ => faithful_nil) rfl,
    fun checks => Upgrade.answer_compareAll checks l l'⟩

end StorageUpgrade
