import StorageUpgrade.Error
import StorageUpgrade.Text.Word

/-!
# Annotations in documentation

A documentation text is cut into blocks at the lines that start, behind blanks, with `@` and a word.
A marker is such a word, the title, perhaps followed by a colon and a tag of lower case letters and
hyphens; a blank or the end of the line must follow it.  The rest of the block are its arguments.
A block whose start is no marker consists of arguments only.

The parts of a text that are still to be read always start at the start of a line.  Reading stops
when a block would be empty: then the text starts with `@` and a word that is no marker.
-/

namespace StorageUpgrade
namespace Documentation

/-- A block of a documentation text. -/
structure Block where
  title : Option String
  tag : Option String
  args : String
deriving DecidableEq, Repr

/-- Whether a text that starts a line starts, behind blanks, with `@` and a word. -/
def startsBlock (cs : List Char) : Bool :=
  match cs.dropWhile isBlank with
  | '@' :: c :: _ => isWord c
  | _ => false

/-- A lower case letter. -/
def isTagStart (c : Char) : Bool := 'a' ≤ c && c ≤ 'z'

/-- A lower case letter or a hyphen. -/
def isTagChar (c : Char) : Bool := isTagStart c || c == '-'

/-- The tag behind a title, and the rest. -/
def readTag : List Char → Option (List Char) × List Char
  | ':' :: c :: cs =>
    if isTagStart c then (some (c :: cs.takeWhile isTagChar), cs.dropWhile isTagChar)
    else (none, ':' :: c :: cs)
  | cs => (none, cs)

/-- A space or a tab. -/
def isGapChar (c : Char) : Bool := c == ' ' || c == '\t'

/-- The text behind a marker: a blank or the end of the line must follow. -/
def afterMarker? : List Char → Option (List Char)
  | [] => some []
  | c :: cs =>
    if isGapChar c then some (cs.dropWhile isGapChar)
    else if c = '\n' then some (c :: cs)
    else none

/-- The marker at the start of a text, and the rest. -/
def marker? : List Char → Option (List Char × Option (List Char) × List Char)
  | '@' :: cs =>
    let title := cs.takeWhile isWord
    if title.isEmpty then none
    else
      let (tag, rest) := readTag (cs.dropWhile isWord)
      (afterMarker? rest).map fun rest => (title, tag, rest)
  | _ => none

/-- The arguments at the start of a text, up to the next block, and the rest; `fresh` says that the
text starts a line. -/
def readArgs : (fresh : Bool) → List Char → List Char × List Char
  | _, [] => ([], [])
  | fresh, c :: cs =>
    if fresh && startsBlock (c :: cs) then ([], c :: cs)
    else
      let (args, rest) := readArgs (c == '\n') cs
      (c :: args, rest)

/-- Nothing of a text is lost between its arguments and the rest. -/
theorem readArgs_append (fresh : Bool) (cs : List Char) :
    (readArgs fresh cs).1 ++ (readArgs fresh cs).2 = cs := by
  induction cs generalizing fresh with
  | nil => simp [readArgs]
  | cons c cs ih =>
    simp only [readArgs]
    split
    · rfl
    · simpa using ih (c == '\n')

/-- Whether some blanks at the start of a line end with a new line. -/
def endsLine (blanks : List Char) : Bool :=
  match blanks.getLast? with
  | none => true
  | some c => c == '\n'

/-- The block at the start of a line, and the rest. -/
def readBlock (cs : List Char) : Block × List Char :=
  let blanks := cs.takeWhile isBlank
  let body := cs.dropWhile isBlank
  match marker? body with
  | some (title, tag, rest) =>
    let (args, rest) := readArgs false rest
    (⟨some (String.ofList title), tag.map String.ofList, String.ofList args⟩, rest)
  | none =>
    let (args, rest) := readArgs (endsLine blanks) body
    (⟨none, none, String.ofList args⟩, rest)

/-- The blocks of a text, at most `steps` of them. -/
def readBlocks : (steps : Nat) → List Char → List Block
  | 0, _ => []
  | steps + 1, cs =>
    if cs.isEmpty then []
    else
      let (block, rest) := readBlock cs
      if rest.length < cs.length then block :: readBlocks steps rest else []

/-- The blocks of a documentation text. -/
def blocks (doc : String) : List Block := readBlocks (doc.length + 1) doc.toList

/-- The tags of the custom annotations of a text with their trimmed arguments, in order. -/
def custom (doc : String) : List (String × String) :=
  (blocks doc).filterMap fun b =>
    match b.title, b.tag with
    | some "custom", some tag => some (tag, trimText b.args)
    | _, _ => none

/-- Whether a text has a custom annotation with a tag. -/
def hasTag (doc tag : String) : Bool := (custom doc).any (·.1 == tag)

/-- The arguments of the custom annotations with a tag, word by word. -/
def argsOf (doc tag : String) : List String :=
  (custom doc).flatMap fun (t, args) =>
    if t == tag then (words args.toList).map String.ofList else []

/-- The documentation of a node, empty when there is none. -/
def ofNode (node : Json) : Except Json.Misuse Json := do
  let doc ← node.lookup "documentation"
  match doc with
  | .null => .ok (.str "")
  | .str text => .ok (.str text)
  | doc =>
    let text ← doc.lookup "text"
    .ok (if text.isSet then text else .str "")

/-- The documentation of a node, which must be a text. -/
def textOfNode (node : Json) : Except Json.Misuse String := do
  match ← ofNode node with
  | .str text => .ok text
  | _ => .error .wrongKind

/-- The tag that declares the type that a variable had before. -/
def retypedTag : String := "oz-retyped-from"

/-- The tag that declares the name that a variable had before. -/
def renamedTag : String := "oz-renamed-from"

/-- The tag that declares the location of a namespace. -/
def locationTag : String := "storage-location"

/-- The arguments of the last custom annotation with a tag. -/
def lastArgs? (doc tag : String) : Option String :=
  ((custom doc).filter (·.1 == tag)).getLast?.map (·.2)

/-- The type and the name that a variable had before, as far as its documentation declares them. -/
def declared (node : Json) : Except Json.Misuse (Option String × Option String) := do
  let doc ← textOfNode node
  .ok (lastArgs? doc retypedTag, lastArgs? doc renamedTag)

/-- The location that the documentation of a node declares, which must be a single word. -/
def location? (node : Json) : Except Error (Option String) := do
  let doc ← (textOfNode node : Except Json.Misuse _)
  if !hasTag doc locationTag then .ok none
  else match argsOf doc locationTag with
    | [location] => .ok (some location)
    | _ => .error (.upgrade .locationArguments)

end Documentation
end StorageUpgrade
