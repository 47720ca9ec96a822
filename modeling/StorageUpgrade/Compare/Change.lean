import StorageUpgrade.Alignment
import StorageUpgrade.Layout.TypeGraph

/-!
# Changes between two layouts

What a comparison finds: the change of a type, the change of a variable, and the operations that
turn the variables of one layout into those of another.  A change holds what is known of the types
and variables it is about, so that it can be explained without the layouts.
-/

namespace StorageUpgrade

/-- A change of a type that has no parts. -/
inductive Mismatch where
  | obvious
  | unknown
  | arrayGrow
  | arrayShrink
  | arrayDynamic
  | visibility
  | enumResize
  | missingMembers
  | underlying
  /-- A kind of change that no comparison finds. -/
  | other (kind : String)
deriving DecidableEq, Repr

/-- The name of a change that has no parts. -/
def Mismatch.kind : Mismatch → String
  | obvious => "obvious mismatch"
  | unknown => "unknown"
  | arrayGrow => "array grow"
  | arrayShrink => "array shrink"
  | arrayDynamic => "array dynamic"
  | visibility => "visibility change"
  | enumResize => "enum resize"
  | missingMembers => "missing members"
  | underlying => "underlying type"
  | other kind => kind

/-- The part of a composite type that changed. -/
inductive Part where
  | mappingKey
  | mappingValue
  | arrayValue
deriving DecidableEq, Repr

/-- The name of a change of a part. -/
def Part.kind : Part → String
  | mappingKey => "mapping key"
  | mappingValue => "mapping value"
  | arrayValue => "array value"

/-- The differences in position and size of a variable, each as what was and what is.  They are
uncertain when the position of one of the two is unknown. -/
structure LayoutChange where
  uncertain : Bool := false
  slot : Option (String × String) := none
  offset : Option (Int × Int) := none
  bytes : Option (String × String) := none
deriving DecidableEq, Repr

/-- The operations that turn the members of an enum into those of another one. -/
abbrev EnumOp := Alignment.Op String String (String × String)

/-- A variable with what is known of its type. -/
abbrev TypedVariable := Variable TypeInfo

mutual

/-- A change of a type. -/
inductive TypeChange where
  | mismatch (reason : Mismatch) (old updated : TypeInfo)
  | nested (part : Part) (old updated : TypeInfo) (inner : TypeChange)
  | enumMembers (old updated : TypeInfo) (ops : List EnumOp)
  | structMembers (old updated : TypeInfo)
      (ops : List (Alignment.Op TypedVariable TypedVariable FieldChange)) (allowAppend : Bool)

/-- A change of a variable, or of a member of a struct. -/
inductive FieldChange where
  | mk (old updated : TypedVariable) (difference : Difference)

/-- How two variables differ. -/
inductive Difference where
  | replace
  | rename
  | type (change : TypeChange)
  | layout (change : LayoutChange)
  /-- A gap got shorter. -/
  | shrinkGap (change : TypeChange)
  /-- A variable took the end of a gap. -/
  | finishGap
  /-- A kind of difference that no comparison finds. -/
  | other (kind : String)

end

/-- The operations that turn the variables of a layout into those of another one. -/
abbrev FieldOp := Alignment.Op TypedVariable TypedVariable FieldChange

namespace TypeChange

/-- The name of the kind of a change. -/
def kind : TypeChange → String
  | mismatch reason .. => reason.kind
  | nested part .. => part.kind
  | enumMembers .. => "enum members"
  | structMembers .. => "struct members"

/-- The type as it was. -/
def old : TypeChange → TypeInfo
  | mismatch _ old _ | nested _ old _ _ | enumMembers old _ _
  | structMembers old _ _ _ => old

/-- The type as it is. -/
def updated : TypeChange → TypeInfo
  | mismatch _ _ updated | nested _ _ updated _ | enumMembers _ updated _
  | structMembers _ updated _ _ => updated

/-- Whether an array got shorter. -/
def isArrayShrink : TypeChange → Bool
  | mismatch .arrayShrink _ _ => true
  | _ => false

end TypeChange

namespace Difference

/-- The name of the kind of a difference. -/
def kind : Difference → String
  | replace => "replace"
  | rename => "rename"
  | type _ => "typechange"
  | layout _ => "layoutchange"
  | shrinkGap _ => "shrinkgap"
  | finishGap => "finishgap"
  | other kind => kind

/-- Whether a difference is one of position and size. -/
def isLayout : Difference → Bool
  | layout _ => true
  | _ => false

end Difference

namespace FieldChange

/-- The variable as it was. -/
def old : FieldChange → TypedVariable
  | mk old _ _ => old

/-- The variable as it is. -/
def updated : FieldChange → TypedVariable
  | mk _ updated _ => updated

/-- How the two differ. -/
def difference : FieldChange → Difference
  | mk _ _ difference => difference

end FieldChange

namespace Alignment.Op

/-- The name of the kind of an operation, given the one of a change. -/
def kindWith (kind : γ → String) : Op α β γ → String
  | insert _ => "insert"
  | append _ => "append"
  | delete _ => "delete"
  | change c => kind c

end Alignment.Op

/-- The name of the kind of an operation on variables. -/
def FieldOp.kind (op : FieldOp) : String := op.kindWith (·.difference.kind)

/-- Whether an operation is a change of position and size. -/
def FieldOp.isLayout : FieldOp → Bool
  | .change c => c.difference.isLayout
  | _ => false

end StorageUpgrade
