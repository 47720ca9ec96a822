import StorageUpgrade.Compare.Change
import StorageUpgrade.Layout.Position
import StorageUpgrade.Text.Affix
import StorageUpgrade.Text.Lines

/-!
# Explaining a report

A report holds the operations that make an upgrade unsafe, and passes when there are none.
`Report.explain` has one block for each of them, in order, except for changes of position behind
the first operation, which are taken to follow from the operations before them.  A block starts
with the place of the variable in the sources.  For the variables of a layout the types inside a
changed type are explained as well; for the members of a struct they are not.
-/

namespace StorageUpgrade

/-- The operations that make an upgrade unsafe. -/
structure Report where
  ops : List FieldOp

namespace Report

/-- Whether an upgrade is safe. -/
def passes (r : Report) : Bool := r.ops.isEmpty

@[simp] theorem passes_nil : passes ⟨[]⟩ = true := rfl

/-- What the variables of an operation are. -/
inductive Context where
  | layout
  | struct
deriving DecidableEq, Repr

/-- A name between backticks. -/
def named (name : String) : String := "\x60" ++ name ++ "\x60"

/-- The name of a variable between backticks. -/
def nameOf (v : TypedVariable) : String := named v.label.display

/-- What a type was and is, by its label. -/
def describeTypes (old updated : TypeInfo) : String :=
  if old.label.alike updated.label then "to " ++ updated.label.display
  else "from " ++ old.label.display ++ " to " ++ updated.label.display

/-- A size, which may be unknown. -/
def sizeText (size : Option String) : String := size.getD "None"

/-- How the types that two user defined value types stand for differ. -/
def describeUnderlying (old updated : TypeInfo) : Except Error String :=
  if old.underlying.isNull || updated.underlying.isNull || old.underlying.alike updated.underlying
  then .ok ("Number of bytes changed from " ++ sizeText old.numberOfBytes ++ " to " ++
    sizeText updated.numberOfBytes)
  else match old.underlying, updated.underlying with
    | .str was, .str is =>
      .ok ("Underlying type changed from " ++ dropFront "t_" was ++ " to " ++ dropFront "t_" is)
    | _, _ => .error (.misuse .wrongKind)

/-- The length of an array type, which must have a fixed one. -/
def fixedSize (t : TypeInfo) : Except Error String :=
  match leadingDigits t.tail with
  | [] => .error (.fault (.notFixedArray t.id))
  | ds => .ok (String.ofList ds)

/-- What is wrong with the new length of a gap. -/
def gapNote (grows : Bool) (expected : Option Int) : Except Error String :=
  if grows then .ok "Size cannot increase here"
  else match expected with
    | none => .ok "Size cannot decrease"
    | some size =>
      if Numeral.isTooLong size then .error (.misuse (.badForm (.int size)))
      else .ok ("Expected gap resize to " ++ toString size)

/-- What is wrong with the new length of an array, or of a gap if the variable was one. -/
def explainResize (grows : Bool) (was is : TypeInfo) (old updated : TypedVariable) :
    Except Error String := do
  let before ← fixedSize was
  let after ← fixedSize is
  if old.isGap then
    let expected ← old.expectedGapSize? updated
    .ok ("Bad storage gap resize from " ++ before ++ " to " ++ after ++ "\n" ++
      (← gapNote grows expected))
  else
    .ok ("Bad array resize from " ++ before ++ " to " ++ after ++ "\n" ++
      (if grows then "Size cannot increase here" else "Size cannot decrease"))

/-- What is wrong with a change that has no parts. -/
def explainMismatch (reason : Mismatch) (was is : TypeInfo) (old updated : TypedVariable) :
    Except Error String :=
  let basic := "Bad upgrade " ++ describeTypes was is
  match reason with
  | .visibility => .ok (basic ++ "\nDifferent visibility")
  | .obvious => .ok basic
  | .enumResize => .ok (basic ++ "\nDifferent representation sizes")
  | .underlying => do .ok (basic ++ "\n" ++ (← describeUnderlying was is))
  | .arrayShrink => explainResize false was is old updated
  | .arrayGrow => explainResize true was is old updated
  | .arrayDynamic =>
    .ok (if startsWithText "dyn" (was.tail.getD "") then
      "Bad upgrade from dynamic to fixed size array"
    else "Bad upgrade from fixed to dynamic size array")
  | .missingMembers =>
    .ok ("Insufficient data to compare " ++ dropFront "t_" is.head ++ "s\n" ++
      "Manually assess compatibility, then use option \x60unsafeAllowCustomTypes: true\x60")
  | .unknown => .ok ("Unknown type " ++ is.label.display)
  | .other kind => .error (.fault (.unknownTypeChange kind))

/-- What is wrong with a change of the type of a variable. -/
def explainType (old updated : TypedVariable) : TypeChange → Except Error String
  | .mismatch reason was is => explainMismatch reason was is old updated
  | .enumMembers was is _ => .ok ("Bad upgrade " ++ describeTypes was is)
  | .structMembers was is _ _ => .ok ("Bad upgrade " ++ describeTypes was is)
  | .nested part _ is inner => do
    let place := match part with
      | .mappingKey => "In key of "
      | .mappingValue | .arrayValue => "In "
    .ok (place ++ is.label.display ++ itemize [← explainType old updated inner])

/-- The differences of position and size, one a line. -/
def describeMove (change : LayoutChange) : String :=
  let line (name was is : String) := name ++ " changed from " ++ was ++ " to " ++ is
  itemize ((change.slot.map fun (was, is) => line "Slot" was is).toList ++
    (change.offset.map fun (was, is) => line "Offset" (toString was) (toString is)).toList ++
    (change.bytes.map fun (was, is) => line "Number of bytes" was is).toList)

/-- What is wrong with an added or removed variable or enum member, given its name. -/
def explainBasic (nameOf : α → String) : Alignment.Op α α γ → Option String
  | .delete old => some ("Deleted " ++ nameOf old)
  | .insert updated => some ("Inserted " ++ nameOf updated)
  | .append updated => some ("Added " ++ nameOf updated)
  | .change _ => none

/-- What to do about an added or removed variable. -/
def hints (context : Context) (allowAppend : Bool) : FieldOp → List String
  | .insert _ =>
    match context with
    | .struct =>
      if allowAppend then ["New struct members should be placed after existing ones"]
      else ["New struct members are not allowed here. Define a new struct"]
    | .layout => ["New variables should be placed after all existing inherited variables"]
  | .delete _ => ["Keep the variable even if unused"]
  | _ => []

/-- What is wrong with an operation; `details` lists the changes inside the type of a variable. -/
def explainOp (details : TypeChange → Except Error (List String)) (context : Context)
    (allowAppend : Bool) (op : FieldOp) : Except Error String :=
  match op with
  | .change (.mk old updated difference) =>
    match difference with
    | .type change | .shrinkGap change => do
      let basic ← explainType old updated change
      .ok ("Upgraded " ++ nameOf updated ++ " to an incompatible type" ++
        itemize (basic :: (← details change)))
    | .finishGap =>
      .ok ("Converted end of storage gap " ++ nameOf old ++ " to " ++ nameOf updated)
    | .rename => .ok ("Renamed " ++ nameOf old ++ " to " ++ nameOf updated)
    | .replace =>
      .ok ("Replaced " ++ nameOf old ++ " with " ++ nameOf updated ++ " of incompatible type")
    | .layout change =>
      .ok (String.ofList (trimRight ("Layout " ++
        (if change.uncertain then "could have changed" else "changed") ++ " for " ++
        nameOf updated ++ " (" ++ old.type.label.display ++ " -> " ++
        updated.type.label.display ++ ")" ++ describeMove change).toList))
    | .other kind => .error (.fault (.unknownOperation kind))
  | op =>
    .ok ((explainBasic nameOf op).getD "" ++ itemizeWith ">" (hints context allowAppend op))

/-- What is wrong with an operation on the members of an enum. -/
def explainEnumOp (op : EnumOp) : String :=
  match op with
  | .change (old, updated) => "Replaced " ++ named old ++ " with " ++ named updated
  | op => (explainBasic named op).getD ""

/-- The operations without the changes of position behind the first one. -/
def withoutFollowers : List FieldOp → List FieldOp
  | [] => []
  | op :: ops => op :: ops.filter (!FieldOp.isLayout ·)

/-- The operations on the members inside a changed type. -/
def explainMembers : TypeChange → Except Error (Option String)
  | .structMembers _ is ops allowAppend => do
    let lines ← (withoutFollowers ops).mapM (explainOp (fun _ => .ok []) .struct allowAppend)
    .ok (some ("In " ++ is.label.display ++ itemize lines))
  | .enumMembers _ is ops =>
    .ok (some ("In " ++ is.label.display ++ itemize (ops.map explainEnumOp)))
  | _ => .ok none

/-- The lists of two sequences of lists joined one by one. -/
def joinLevels : List (List α) → List (List α) → List (List α)
  | [], bs => bs
  | as, [] => as
  | a :: as, b :: bs => (a ++ b) :: joinLevels as bs

mutual

/-- A change and the changes nested in it, level by level: those of the values of mappings and
arrays and of the types of struct members. -/
def levels (change : TypeChange) : List (List TypeChange) :=
  match change with
  | .nested .mappingValue was is inner => [.nested .mappingValue was is inner] :: levels inner
  | .nested .arrayValue was is inner => [.nested .arrayValue was is inner] :: levels inner
  | .structMembers was is ops allowAppend =>
    [.structMembers was is ops allowAppend] :: levelsOfOps ops
  | change => [[change]]

/-- The changes of the types of some members, level by level. -/
def levelsOfOps : List (Alignment.Op TypedVariable TypedVariable FieldChange) →
    List (List TypeChange)
  | [] => []
  | op :: ops => joinLevels (levelsOfOp op) (levelsOfOps ops)

/-- The changes of the type of a member, level by level. -/
def levelsOfOp : Alignment.Op TypedVariable TypedVariable FieldChange → List (List TypeChange)
  | .change c => levelsOfChange c
  | _ => []

/-- The changes of the type of a changed member, level by level. -/
def levelsOfChange : FieldChange → List (List TypeChange)
  | .mk _ _ difference => levelsOfDifference difference

/-- The changes of a type in a difference, level by level. -/
def levelsOfDifference : Difference → List (List TypeChange)
  | .type change => levels change
  | _ => []

end

/-- A list without the repetitions of an earlier element. -/
def distinct [BEq α] (xs : List α) : List α :=
  xs.foldl (fun seen x => if seen.contains x then seen else seen ++ [x]) []

/-- The operations on members inside a changed type, each said once. -/
def explainNested (change : TypeChange) : Except Error (List String) := do
  let lines ← (levels change).flatten.mapM explainMembers
  .ok (distinct (lines.filterMap id))

/-- The place of the variable of an operation: in the sources, or for a removed variable its
contract. -/
def place : FieldOp → Json
  | .insert updated | .append updated => updated.src
  | .change c => c.updated.src
  | .delete old => old.contract

/-- The text of a place, which may be unknown. -/
def placeText : Json → Except Error String
  | .null => .ok "<unknown>"
  | .str place => .ok place
  | .rawText points => .ok (Json.rawText points).display
  | _ => .error (.misuse .wrongKind)

/-- The block of an operation. -/
def block (bold : Bool) (op : FieldOp) : Except Error String := do
  let place ← placeText (place op)
  let text ← explainOp explainNested .layout true op
  .ok ((if bold then Style.bold.apply place else place) ++ ":" ++ indent text 2 1)

/-- What is wrong with an upgrade, with an empty line between the operations. -/
def explain (bold : Bool) (r : Report) : Except Error String := do
  let blocks ← (withoutFollowers r.ops).mapM (block bold)
  .ok ("\n\n".intercalate blocks)

end Report

end StorageUpgrade
