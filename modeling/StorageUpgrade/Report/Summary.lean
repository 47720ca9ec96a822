import StorageUpgrade.Namespace.Location
import StorageUpgrade.Platform
import StorageUpgrade.Upgrade

/-!
# The summary of a report

A table with a row for each operation of each layout, and a row for each layout that has none.
-/

namespace StorageUpgrade
namespace Summary

/-- The titles of the columns. -/
def titles : List String := ["Layout", "Base slot", "Operation", "Variable", "Location"]

/-- What stands in a cell that has nothing to say. -/
def nothing : Json := .str "-"

/-- The variable that an operation is about. -/
def variableOf : FieldOp → TypedVariable
  | .insert updated | .append updated => updated
  | .delete old => old
  | .change c => c.updated

/-- The rows of a layout. -/
def rowsOf (name : String) (slot : Json) (report : Report) : List (List Json) :=
  if report.passes then [[.str name, slot, .str "compatible", nothing, nothing]]
  else report.ops.map fun op =>
    let v := variableOf op
    [.str name, slot, .str (FieldOp.kind op), v.label, if v.src.isSet then v.src else nothing]

/-- The base slot of a namespace. -/
def slotOf (platform : Platform) (id : String) : Json :=
  match locationSlot? platform.hash id with
  | some slot => .str (hexNumber slot)
  | none => nothing

/-- The rows of all layouts. -/
def rows (platform : Platform) (report : NamespacedReport) : List (List Json) :=
  rowsOf "main" (.str "0x0") report.main ++
    report.namespaces.flatMap fun (id, report) => rowsOf id (slotOf platform id) report

/-- The summary as a table. -/
def table (platform : Platform) (report : NamespacedReport) : Except Json.Misuse String :=
  platform.drawTable titles (rows platform report)

end Summary
end StorageUpgrade
