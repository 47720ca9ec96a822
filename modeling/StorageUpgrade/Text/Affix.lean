/-!
# Fronts and backs of texts

Whether a text starts or ends with another one, what is left of it then, and what a text becomes
when another one takes the place of its pieces.
-/

namespace StorageUpgrade

/-- Whether a text starts with `front`. -/
def startsWithText (front s : String) : Bool := front.toList.isPrefixOf s.toList

/-- Whether a text ends with `back`. -/
def endsWithText (back s : String) : Bool := back.toList.isSuffixOf s.toList

/-- What is left of a text behind `front`. -/
def afterFront? : (front : List Char) → List Char → Option (List Char)
  | [], cs => some cs
  | p :: ps, c :: cs => if p = c then afterFront? ps cs else none
  | _ :: _, [] => none

theorem afterFront?_eq_some_iff {front cs rest : List Char} :
    afterFront? front cs = some rest ↔ cs = front ++ rest := by
  induction front generalizing cs with
  | nil => simp [afterFront?]
  | cons p ps ih =>
    cases cs with
    | nil => simp [afterFront?]
    | cons c cs =>
      by_cases h : p = c
      · simp [afterFront?, h, ih]
      · simp [afterFront?, h, Ne.symm h]

/-- The text without `front` at its start, if it is there. -/
def dropFront (front s : String) : String :=
  match afterFront? front.toList s.toList with
  | some rest => String.ofList rest
  | none => s

/-- The text with `new` in the place of every piece `old`, where the first `skip` characters belong
to such a piece; `old` may not be empty. -/
def replaceFrom (old new : List Char) (skip : Nat) : List Char → List Char
  | [] => []
  | c :: cs =>
    match skip with
    | skip + 1 => replaceFrom old new skip cs
    | 0 =>
      if old.isPrefixOf (c :: cs) then new ++ replaceFrom old new (old.length - 1) cs
      else c :: replaceFrom old new 0 cs

/-- The text with `new` in the place of every piece `old`, which may not be empty. -/
def replaceAll (old new cs : List Char) : List Char := replaceFrom old new 0 cs

@[simp] theorem replaceAll_nil (old new : List Char) : replaceAll old new [] = [] := rfl

end StorageUpgrade
