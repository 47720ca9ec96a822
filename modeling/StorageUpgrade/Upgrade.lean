import StorageUpgrade.Compare.Comparator
import StorageUpgrade.Options
import StorageUpgrade.Report.Basic

/-!
# Checking an upgrade

The layout of a contract after an upgrade is compared with the one before it: first the variables of
the contracts, then each namespace of the old layout with the one of the same identifier in the
updated layout.  One comparator does all comparisons.
-/

namespace StorageUpgrade

/-- The reports on the variables of the contracts and on each namespace. -/
structure NamespacedReport where
  main : Report
  namespaces : List (String × Report)

/-- All reports as one. -/
def NamespacedReport.merged (r : NamespacedReport) : Report :=
  ⟨r.main.ops ++ r.namespaces.flatMap fun n => n.2.ops⟩

/-- A run that may fail, with the records of its log. -/
abbrev LoggedM := ExceptT Error (StateM (List Log.Record))

namespace LoggedM

/-- Adds a record to the log. -/
def say (topic : String) (level : Log.Level) (message : String) : LoggedM Unit :=
  modify fun log => log ++ [⟨topic, level, message⟩]

/-- The outcome of a run, and its log. -/
def outcome (x : LoggedM α) : Except Error α × List Log.Record := x.run.run []

end LoggedM

namespace Upgrade

/-- What the comparator lets pass. -/
def compareOptions (options : ValidationOptions) : CompareOptions :=
  { allowCustomTypes := options.allowCustomTypes, allowRenames := options.allowRenames }

/-- The reports of an upgrade. -/
def compareAll (options : ValidationOptions) (old updated : Layout) :
    CompareM NamespacedReport := do
  let compare (was is : Except TypeGraph.Problem DetailedLayout) : CompareM Report := do
    let was ← (was : Except Error _)
    let is ← (is : Except Error _)
    return ⟨← Comparator.compareLayouts (compareOptions options) was is⟩
  let main ← compare old.detail updated.detail
  let namespaces ← (old.namespaces.getD []).mapM fun (id, items) => do
    match Json.find? id (updated.namespaces.getD []) with
    | none => throw (.upgrade (.noNamespace id))
    | some newItems =>
      Comparator.say Log.debug ("Comparing namespace " ++ id)
      return (id, ← compare (old.detailItems items) (updated.detailItems newItems))
  return { main, namespaces }

/-- Runs a comparison with a new comparator; also says whether types were passed without a look at
their members. -/
def withComparator (x : CompareM α) : LoggedM (α × Bool) := do
  let (result, state) := x.run.run {}
  modify (· ++ state.log)
  return (← (result : Except Error α), state.unchecked)

/-- The reports of an upgrade, with what was not given switched off. -/
def namespacedReport (options : ValidationOptions) (old updated : Layout) :
    LoggedM NamespacedReport := do
  return (← withComparator (compareAll options old updated)).1

/-- The warning that types were passed without a look at their members. -/
def uncheckedWarning : String :=
  "Potentially unsafe deployment: you are using \x60unsafeAllowCustomTypes\x60 to force approve " ++
  "structs or enums with missing data. Make sure you have manually checked the storage layout " ++
  "for incompatibilities."

/-- The notice that the option to pass unknown types had no effect. -/
def unneededNotice : String :=
  "\x60unsafeAllowCustomTypes\x60 is no longer necessary. " ++
  "Structs and enums are automatically checked."

/-- The report of an upgrade. -/
def report (options : ValidationOptions) (old updated : Layout) : LoggedM Report := do
  let (report, unchecked) ← withComparator (compareAll options old updated)
  if unchecked then LoggedM.say "storage" Log.warning uncheckedWarning
  else if options.allowCustomTypes then LoggedM.say "storage" Log.info unneededNotice
  return report.merged

/-- The report of an upgrade, unless the check is skipped. -/
def check (options : ValidationOptions) (old updated : Layout) : LoggedM (Option Report) := do
  if options.skipCheck then
    LoggedM.say "storage" Log.warning "Skipping the storage layout check, as requested"
    return none
  return some (← report options old updated)

/-- The title of a report that does not pass. -/
def incompatibleTitle : String := "New storage layout is incompatible"

/-- The operations that make an upgrade unsafe, none when the check is skipped. -/
def problems (options : ValidationOptions) (old updated : Layout) : LoggedM (List FieldOp) := do
  return ((← check options old updated).map (·.ops)).getD []

end Upgrade

end StorageUpgrade
