import StorageUpgrade.Compare.Change
import StorageUpgrade.Compare.EnumSize
import StorageUpgrade.Layout.Position
import StorageUpgrade.Log
import StorageUpgrade.Text.Affix
import StorageUpgrade.TypeId.Encoding

/-!
# Comparing layouts

Two lists of variables are compatible when each old variable keeps its place and its type.  The
variables are aligned, every old one being compared with every updated one, and the operations
of the alignment are what is reported.  Members of structs are compared in the same way.

Types may contain themselves, on both sides.  `typeChange` follows the pairs of types whose
comparison is in progress and gives up when it meets one of them again.  All pairs come from two
finite graphs, so their number bounds the depth of the comparison; it is handed down as the number
of pairs that are not in progress yet.  Results are remembered under the identifiers of the two
types, also from one comparison to the next.
-/

namespace StorageUpgrade

/-- What the comparison is asked to let pass. -/
structure CompareOptions where
  /-- Structs and enums whose members are unknown are taken to be compatible. -/
  allowCustomTypes : Bool := false
  /-- Variables may change their names. -/
  allowRenames : Bool := false
deriving DecidableEq, Repr

/-- Under what the result of a comparison of types is remembered. -/
structure TypeKey where
  old : String
  updated : String
  allowAppend : Bool
deriving DecidableEq, Repr

/-- What a comparison leaves behind: the results for types, the latest first, the comparisons of
types that are in progress, the latest first, whether types were passed without a look at their
members, and the records of its log. -/
structure ComparatorState where
  cache : List (TypeKey × Option TypeChange) := []
  inProgress : List TypeKey := []
  unchecked : Bool := false
  log : List Log.Record := []

/-- A comparison; its state survives an error. -/
abbrev CompareM := ExceptT Error (StateM ComparatorState)

namespace Comparator

/-- Adds a record of the topic of comparisons to the log. -/
def say (level : Log.Level) (message : String) : CompareM Unit :=
  modify fun s => { s with log := s.log ++ [⟨"storage", level, message⟩] }

/-! ### Storage gaps -/

/-- Whether an operation uses up a gap: a variable took its end, or it got shorter and still ends
where it did. -/
def consumesGap : FieldOp → Except Error Bool
  | .change (.mk _ _ .finishGap) => .ok true
  | .change (.mk old updated (.shrinkGap _)) => updated.endsWith old
  | _ => .ok false

/-- The old position and end of the gap that an operation touches. -/
def gapSpan? : FieldOp → Except Error (Option (Option Int × Option Int))
  | .change (.mk old _ .finishGap) | .change (.mk old _ (.shrinkGap _)) =>
    old.span.map some
  | _ => .ok none

/-- Whether a span lies within another one; spans with an unknown end do not. -/
def withinSpan : Option Int × Option Int → Option Int × Option Int → Bool
  | (some start, some last), (some gapStart, some gapLast) => gapStart ≤ start && last ≤ gapLast
  | _, _ => false

/-- What becomes of an operation: it is reported, or it is dropped with a note. -/
def review (gaps : List (Option Int × Option Int)) (op : FieldOp) :
    Except Error (Option String) := do
  if ← consumesGap op then
    match op with
    | .change c =>
      .ok (some ("Gap " ++ c.old.label.display ++ " was consumed by " ++ c.updated.label.display))
    | _ => .ok none
  else match op with
    | .insert updated =>
      let span ← updated.span
      if gaps.any (withinSpan span) then
        .ok (some ("Inserted " ++ updated.label.display ++ " lies within a gap"))
      else .ok none
    | _ => .ok none

/-- The operations that are to be reported: gaps that were used up are not, nor are variables that
were inserted where such a gap was. -/
def filterGapOps (ops : List FieldOp) : CompareM (List FieldOp) := do
  let gaps ← (ops.mapM gapSpan? : Except Error _)
  let reported ← ops.mapM fun op => do
    match ← (review (gaps.filterMap id) op : Except Error _) with
    | some note =>
      say Log.debug note
      return none
    | none => return some op
  return reported.filterMap id

/-! ### Variables -/

/-- Whether the two variables of a change end at the same byte, as far as their ends can be told. -/
def endsAligned (c : FieldChange) : Bool :=
  match c.updated.endsWith c.old with
  | .ok b => b
  | .error _ => false

/-- The cost of a change in an alignment, `none` for the usual one: giving up a gap for what ends
where it did is free. -/
def costOf (c : FieldChange) : Option Int :=
  match c.difference with
  | .finishGap => some 0
  | .shrinkGap _ => if endsAligned c then some 0 else none
  | _ => none

/-- What was and what is, unless they are the same. -/
def transition [DecidableEq α] (was is : Option α) : Option (α × α) :=
  match was, is with
  | some a, some b => if a = b then none else some (a, b)
  | _, _ => none

/-- The change of the position and size of a variable. -/
def layoutChange? (old updated : TypedVariable) : Option LayoutChange :=
  if isByteLabel old.type.label && isByteLabel updated.type.label then none
  else if !old.isPlaced || !updated.isPlaced then some { uncertain := true }
  else
    let slot := transition old.slot updated.slot
    let offset := transition old.offset updated.offset
    let bytes := transition old.type.numberOfBytes updated.type.numberOfBytes
    if slot.isSome || offset.isSome || bytes.isSome then some { slot, offset, bytes } else none

/-- Whether the name of a variable changed without notice. -/
def isRenamed (options : CompareOptions) (old updated : TypedVariable) : Bool :=
  !options.allowRenames && !old.label.alike updated.renamedFrom &&
    (!updated.label.alike old.label ||
      (!updated.renamedFrom.isNull && !updated.renamedFrom.alike old.renamedFrom))

/-- Whether the updated variable declares that its type was the old one before. -/
def isRetyped (old updated : TypedVariable) : Except Json.Misuse Bool :=
  match updated.retypedFrom with
  | .null => .ok false
  | .str label => .ok (old.type.label == .str (trimText label))
  | .rawText _ => .ok false
  | _ => .error .notObject

/-- How two variables differ whose types differ. -/
def differenceOfTypes (renamed : Bool) (old updated : TypedVariable) (change : TypeChange) :
    Except Error Difference := do
  if renamed then
    .ok (if ← old.endMatchesGap updated then .finishGap else .replace)
  else if change.isArrayShrink && updated.isGap then
    let _ ← updated.endsWith old
    .ok (.shrinkGap change)
  else .ok (.type change)

/-- How two variables differ, given the change of their types.  A variable that declares another
type may not move; then a change of the type counts, then a new name, and a new place counts by
itself only if it is certain. -/
def differenceOf (options : CompareOptions) (old updated : TypedVariable)
    (typeChange : Option TypeChange) : Except Error (Option Difference) :=
  let renamed := isRenamed options old updated
  let moved := layoutChange? old updated
  match (if updated.retypedFrom.isSet then moved else none), typeChange with
  | some change, _ => .ok (some (.layout change))
  | none, some change => (differenceOfTypes renamed old updated change).map some
  | none, none =>
    if renamed then .ok (some .rename)
    else .ok ((moved.filter (!·.uncertain)).map .layout)

section

variable {g h : TypeGraph}

/-- A comparison of two types, which may be allowed to grow at their end. -/
abbrev TypeComparison (g h : TypeGraph) := g.Ref → h.Ref → Bool → CompareM (Option TypeChange)

/-- The change of a variable. -/
def fieldChange (options : CompareOptions) (compareTypes : TypeComparison g h)
    (old : Variable g.Ref) (updated : Variable h.Ref) : CompareM (Option FieldChange) := do
  let was := old.map g.info
  let is := updated.map h.info
  let retyped ← (isRetyped was is : Except Json.Misuse _)
  let change ← if retyped then pure none else compareTypes old.type updated.type false
  let difference ← (differenceOf options was is change : Except Error _)
  return difference.map (.mk was is)

/-- The operations that turn some variables into others.  Variables at the end are not reported when
they may be appended. -/
def alignVariables (options : CompareOptions) (compareTypes : TypeComparison g h)
    (old : List (Variable g.Ref)) (updated : List (Variable h.Ref)) (allowAppend : Bool) :
    CompareM (List FieldOp) := do
  let rows ← old.mapM fun x => do
    let changes ← updated.mapM fun y => fieldChange options compareTypes x y
    return (x.map g.info, changes)
  let ops := Alignment.ofChanges costOf rows (updated.map (·.map h.info))
  say Log.debug ("Aligned " ++ toString old.length ++ " fields with " ++
    toString updated.length ++ " fields: " ++
    (Json.arr (ops.map fun op => .str (FieldOp.kind op))).display)
  filterGapOps (if allowAppend then ops.filter (!·.isAppend) else ops)

end

/-! ### Types -/

/-- The digits of the number of bits of an unsigned integer type. -/
def uintBits? (id : String) : Option (List Char) :=
  let mark := "t_uint".toList
  if mark.isPrefixOf id.toList then
    match spanDigits (id.toList.drop mark.length) with
    | ([], _) => none
    | (ds, []) | (ds, ['\n']) => some ds
    | _ => none
  else none

/-- Whether an unsigned integer got no narrower. -/
def isUintGrowth (old updated : TypeInfo) : Except Error Bool :=
  match uintBits? old.id, uintBits? updated.id with
  | some was, some is => do
    let after ← digitsNumber is
    let before ← digitsNumber was
    .ok (before ≤ after)
  | _, _ => .ok false

/-- Whether a type is an unsigned integer that got no narrower, where it may grow. -/
def mayWiden (old updated : TypeInfo) (allowAppend : Bool) : Except Error Bool :=
  if allowAppend then isUintGrowth old updated else .ok false

/-- The identifier of an underlying type as it is known in a layout, if one is given. -/
def underlyingId? : Json → Except Json.Misuse (Option String)
  | .null => .ok none
  | .str id => .ok (some (TypeId.normalize id))
  | _ => .error .wrongKind

/-- Whether the types that two user defined value types stand for are known to differ. -/
def underlyingChanged (old updated : TypeInfo) : Except Json.Misuse Bool := do
  let sizeChanged := match old.numberOfBytes, updated.numberOfBytes with
    | some was, some is => was != is
    | _, _ => false
  if old.underlying.isNull || updated.underlying.isNull then .ok sizeChanged
  else .ok ((← underlyingId? old.underlying) != (← underlyingId? updated.underlying) || sizeChanged)

/-- Whether the head of a type is that of a function. -/
def isFunction (t : TypeInfo) : Bool := startsWithText "t_function" t.head

/-- The visibility of a function type. -/
def visibility? (t : TypeInfo) : Option String :=
  ["t_function_internal", "t_function_external"].find? (startsWithText · t.head)

/-- The change of the visibility of a function type. -/
def visibilityChange (old updated : TypeInfo) : Except Error (Option TypeChange) :=
  match visibility? old, visibility? updated with
  | some was, some is =>
    .ok (if was = is then none else some (.mismatch .visibility old updated))
  | _, _ => .error (.fault (.notFunctions old.id updated.id))

/-- The length of an array: digits, or `dyn`. -/
def arraySize? (t : TypeInfo) : Option String :=
  match leadingDigits t.tail with
  | [] => if startsWithText "dyn" (t.tail.getD "") then some "dyn" else none
  | ds => some (String.ofList ds)

/-- The change of the length of an array. -/
def sizeChange (old updated : TypeInfo) (allowAppend : Bool) :
    Except Error (Option Mismatch) :=
  match arraySize? old, arraySize? updated with
  | some was, some is =>
    if was = "dyn" ∨ is = "dyn" then .ok (if was = is then none else some .arrayDynamic)
    else do
      let after ← digitsNumber is.toList
      let before ← digitsNumber was.toList
      .ok (if after < before then some .arrayShrink
        else if !allowAppend && before < after then some .arrayGrow else none)
  | _, _ => .error (.fault (.noArrayLength old.id updated.id))

/-- The change of the names of the members of an enum. -/
def enumChange (old updated : TypeInfo) (was is : List String) : Option TypeChange :=
  if enumSize was.length ≠ enumSize is.length then some (.mismatch .enumResize old updated)
  else
    let change (a b : String) : Option (String × String) := if a = b then none else some (a, b)
    let ops := (Alignment.align change (fun _ => none) was is).filter (!·.isAppend)
    if ops.isEmpty then none else some (.enumMembers old updated ops)

/-- The members of a struct, if all of them are. -/
def structMembers? (members : List (Variable ρ ⊕ String)) : Option (List (Variable ρ)) :=
  members.mapM Sum.getLeft?

/-- The names of the members of an enum, if all of them are. -/
def enumMembers? (members : List (Variable ρ ⊕ String)) : Option (List String) :=
  members.mapM Sum.getRight?

section

variable {g h : TypeGraph}

/-- A type whose members are unknown changed, unless such types are let pass. -/
def missingMembers (options : CompareOptions) (old updated : TypeInfo) :
    CompareM (Option TypeChange) := do
  if options.allowCustomTypes then
    say Log.debug ("Allowing " ++ updated.label.display ++ " without comparing its members")
    modify fun s => { s with unchecked := true }
    return none
  return some (.mismatch .missingMembers old updated)

/-- The change of a struct. -/
def compareStructs (options : CompareOptions) (compareTypes : TypeComparison g h)
    (old : TypeNode g.Ref) (updated : TypeNode h.Ref) (allowAppend : Bool) :
    CompareM (Option TypeChange) :=
  match old.members, updated.members with
  | some was, some is =>
    match structMembers? was, structMembers? is with
    | some was, some is => do
      let ops ← alignVariables options compareTypes was is allowAppend
      return if ops.isEmpty then none
        else some (.structMembers old.toTypeInfo updated.toTypeInfo ops allowAppend)
    | _, _ => throw (.fault (.notStructMembers old.label.display))
  | _, _ => missingMembers options old.toTypeInfo updated.toTypeInfo

/-- The change of an enum. -/
def compareEnums (options : CompareOptions) (old : TypeNode g.Ref)
    (updated : TypeNode h.Ref) : CompareM (Option TypeChange) :=
  match old.members, updated.members with
  | some was, some is =>
    match enumMembers? was, enumMembers? is with
    | some was, some is => pure (enumChange old.toTypeInfo updated.toTypeInfo was is)
    | _, _ => throw (.fault (.notEnumMembers old.label.display))
  | _, _ => missingMembers options old.toTypeInfo updated.toTypeInfo

/-- The key and the value of a mapping. -/
def keyAndValue : List ρ → CompareM (ρ × ρ)
  | [key, value] => pure (key, value)
  | _ => throw (.misuse .badForm)

/-- The change of a mapping.  An unknown key is compatible with every key, and values may grow. -/
def compareMappings (compareTypes : TypeComparison g h) (old : TypeNode g.Ref)
    (updated : TypeNode h.Ref) (was : List g.Ref) (is : List h.Ref) :
    CompareM (Option TypeChange) := do
  let (oldKey, oldValue) ← keyAndValue was
  let (newKey, newValue) ← keyAndValue is
  unless g.isValue oldKey && h.isValue newKey do
    throw (.fault (.compositeKeys old.id updated.id))
  let keyChange ← if (g.info oldKey).head == "unknown" then pure none
    else compareTypes oldKey newKey false
  match keyChange with
  | some change =>
    return some (.nested .mappingKey old.toTypeInfo updated.toTypeInfo change)
  | none =>
    let change ← compareTypes oldValue newValue true
    return change.map (.nested .mappingValue old.toTypeInfo updated.toTypeInfo)

/-- The change of an array. -/
def compareArrays (compareTypes : TypeComparison g h) (old : TypeNode g.Ref)
    (updated : TypeNode h.Ref) (was : List g.Ref) (is : List h.Ref) (allowAppend : Bool) :
    CompareM (Option TypeChange) := do
  match ← (sizeChange old.toTypeInfo updated.toTypeInfo allowAppend : Except Error _) with
  | some reason => return some (.mismatch reason old.toTypeInfo updated.toTypeInfo)
  | none =>
    match was, is with
    | oldElement :: _, newElement :: _ =>
      let change ← compareTypes oldElement newElement false
      return change.map (.nested .arrayValue old.toTypeInfo updated.toTypeInfo)
    | _, _ => throw (.misuse .empty)

/-- The change of a type with arguments to one of the same head. -/
def compareApplied (options : CompareOptions) (compareTypes : TypeComparison g h)
    (old : TypeNode g.Ref) (updated : TypeNode h.Ref) (was : List g.Ref) (is : List h.Ref)
    (allowAppend : Bool) : CompareM (Option TypeChange) := do
  if old.head = "t_contract" then pure none
  else if old.head = "t_userDefinedValueType" then
    let changed ← (underlyingChanged old.toTypeInfo updated.toTypeInfo : Except Json.Misuse _)
    return if changed then some (.mismatch .underlying old.toTypeInfo updated.toTypeInfo) else none
  else if old.head = "t_struct" then
    compareStructs options compareTypes old updated allowAppend
  else if old.head = "t_enum" then compareEnums (g := g) (h := h) options old updated
  else if old.head = "t_mapping" then compareMappings compareTypes old updated was is
  else if old.head = "t_array" then
    compareArrays compareTypes old updated was is allowAppend
  else pure (some (.mismatch .unknown old.toTypeInfo updated.toTypeInfo))

/-- The change of a type, given how the types it is made of are compared. -/
def compareNodes (options : CompareOptions) (compareTypes : TypeComparison g h)
    (old : TypeNode g.Ref) (updated : TypeNode h.Ref) (allowAppend : Bool) :
    CompareM (Option TypeChange) := do
  if isFunction old.toTypeInfo && isFunction updated.toTypeInfo then
    (visibilityChange old.toTypeInfo updated.toTypeInfo : Except Error _)
  else if isByteLabel old.label && isByteLabel updated.label then pure none
  else if ← (mayWiden old.toTypeInfo updated.toTypeInfo allowAppend : Except Error _) then pure none
  else if old.head ≠ updated.head then
    pure (some (.mismatch .obvious old.toTypeInfo updated.toTypeInfo))
  else match old.args, updated.args with
    | none, none => pure none
    | some was, some is => compareApplied options compareTypes old updated was is allowAppend
    | _, _ => throw (.fault (.argumentsOfOne old.id updated.id))

/-- The remembered result of a comparison of types. -/
def remembered? (key : TypeKey) (s : ComparatorState) : Option (Option TypeChange) :=
  (s.cache.find? (·.1 == key)).map (·.2)

/-- Answers with the remembered result, and otherwise compares and remembers. -/
def remembering (key : TypeKey) (compare : CompareM (Option TypeChange)) :
    CompareM (Option TypeChange) := do
  match remembered? key (← get) with
  | some result => return result
  | none =>
    let result ← compare
    modify fun s => { s with cache := (key, result) :: s.cache }
    return result

/-- Compares while the key is listed as in progress, which it is no longer however this ends. -/
def tracking (key : TypeKey) (compare : CompareM α) : CompareM α := do
  modify fun s => { s with inProgress := key :: s.inProgress }
  try compare
  finally modify fun s => { s with inProgress := s.inProgress.erase key }

/-- The change of a type, where the comparisons of the pairs `inProgress` wait for the result and at
most `remaining` pairs are not among them. -/
def typeChange (options : CompareOptions) (g h : TypeGraph) :
    (remaining : Nat) → (inProgress : List (g.Ref × h.Ref × Bool)) → TypeComparison g h
  | 0, _, old, updated, allowAppend =>
    remembering ⟨(g.info old).id, (h.info updated).id, allowAppend⟩
      (throw (.upgrade (.recursiveType (h.info updated).label.display)))
  | remaining + 1, inProgress, old, updated, allowAppend =>
    remembering ⟨(g.info old).id, (h.info updated).id, allowAppend⟩
      (if inProgress.contains (old, updated, allowAppend) then
        throw (.upgrade (.recursiveType (h.info updated).label.display))
      else
        tracking ⟨(g.info old).id, (h.info updated).id, allowAppend⟩
          (compareNodes options
            (typeChange options g h remaining ((old, updated, allowAppend) :: inProgress))
            (g.node old) (h.node updated) allowAppend))

/-- The number of pairs of types of two graphs, each with and without leave to grow. -/
def pairCount (g h : TypeGraph) : Nat := 2 * (g.size * h.size)

/-- The change of a type. -/
def compareTypes (options : CompareOptions) (g h : TypeGraph) : TypeComparison g h :=
  typeChange options g h (pairCount g h) []

/-- The operations that turn some variables into others. -/
def align (options : CompareOptions) (g h : TypeGraph) (old : List (Variable g.Ref))
    (updated : List (Variable h.Ref)) (allowAppend : Bool) : CompareM (List FieldOp) :=
  alignVariables options (compareTypes options g h) old updated allowAppend

end

/-- The operations to be reported of an upgrade: variables may always be added at the end. -/
def compareLayouts (options : CompareOptions) (old updated : DetailedLayout) :
    CompareM (List FieldOp) :=
  align options old.graph updated.graph old.vars updated.vars true

end Comparator

end StorageUpgrade
