import StorageUpgrade.Text.Word

/-!
# Encoded type identifiers

In a syntax tree the identifier of a type may hold no parentheses and no commas, so they are written
as `$_`, `_$` and `_$_`.  The code is not prefix free: a piece of it counts only if the marks right
behind it, up to the next character that is neither `$` nor `_`, can be read as pieces too.

Some identifiers carry the suffix `_storage_ptr` where others have `_storage`; normalizing decodes
an identifier and drops the difference.
-/

namespace StorageUpgrade
namespace TypeId

/-- Whether the run of `$` and `_` at the front of a text can be cut into pieces of the code. -/
def isCodeRun : List Char → Bool
  | '$' :: '_' :: cs => isCodeRun cs
  | '_' :: '$' :: cs => isCodeRun cs || (match cs with
    | '_' :: rest => isCodeRun rest
    | _ => false)
  | [] => true
  | c :: _ => c != '$' && c != '_'

/-- The mark that the piece of the code at the front of a text stands for, and the number of its
characters behind the first one. -/
def mark? : List Char → Option (Char × Nat)
  | '$' :: '_' :: cs => if isCodeRun cs then some ('(', 1) else none
  | '_' :: '$' :: '_' :: cs =>
    if isCodeRun cs then some (',', 2)
    else if isCodeRun ('_' :: cs) then some (')', 1) else none
  | '_' :: '$' :: cs => if isCodeRun cs then some (')', 1) else none
  | _ => none

/-- Reads a text with every piece of the code replaced by the mark it stands for, where the first
`skip` characters belong to a piece that was read already. -/
def decodeFrom (skip : Nat) : List Char → List Char
  | [] => []
  | c :: cs =>
    match skip with
    | skip + 1 => decodeFrom skip cs
    | 0 => match mark? (c :: cs) with
      | some (mark, more) => mark :: decodeFrom more cs
      | none => c :: decodeFrom 0 cs

/-- Reads a text with every piece of the code replaced by the mark it stands for. -/
def decodeChars (cs : List Char) : List Char := decodeFrom 0 cs

theorem decodeFrom_eq_drop (skip : Nat) (cs : List Char) :
    decodeFrom skip cs = decodeChars (cs.drop skip) := by
  induction cs generalizing skip with
  | nil => cases skip <;> rfl
  | cons c cs ih =>
    cases skip with
    | zero => rfl
    | succ skip => simpa [decodeFrom] using ih skip

/-- The identifier that an encoded one stands for. -/
def decode (id : String) : String := String.ofList (decodeChars id.toList)

/-- The suffix of a type that is referred to in storage. -/
def pointerSuffix : List Char := "_storage_ptr".toList

/-- Shortens the suffix `_storage_ptr` to `_storage` wherever a word ends behind it, where the first
`skip` characters are dropped. -/
def shortenFrom (skip : Nat) : List Char → List Char
  | [] => []
  | c :: cs =>
    match skip with
    | skip + 1 => shortenFrom skip cs
    | 0 =>
      if pointerSuffix.isPrefixOf (c :: cs) && endsWord ((c :: cs).drop pointerSuffix.length) then
        "_storage".toList ++ shortenFrom (pointerSuffix.length - 1) cs
      else c :: shortenFrom 0 cs

/-- Shortens the suffix `_storage_ptr` to `_storage` wherever a word ends behind it. -/
def dropPointers (cs : List Char) : List Char := shortenFrom 0 cs

theorem shortenFrom_eq_drop (skip : Nat) (cs : List Char) :
    shortenFrom skip cs = dropPointers (cs.drop skip) := by
  induction cs generalizing skip with
  | nil => cases skip <;> rfl
  | cons c cs ih =>
    cases skip with
    | zero => rfl
    | succ skip => simpa [shortenFrom] using ih skip

/-- The identifier by which a type is known in the layout. -/
def normalize (id : String) : String := String.ofList (dropPointers (decodeChars id.toList))

end TypeId
end StorageUpgrade
