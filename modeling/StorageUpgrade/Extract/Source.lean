import StorageUpgrade.Error
import StorageUpgrade.Shell.Path

/-!
# Places in the sources

A node of a syntax tree says where it stands by the number of its first byte, its length and the
number of its source.  For the user this becomes the path of the source and a line in it.
-/

namespace StorageUpgrade

/-- Gives the place of a node. -/
abbrev SourceDecoder := Json → Except Error String

namespace Path

/-- The number of names that two paths have in common at their start. -/
def commonLength : List String → List String → Nat
  | a :: as, b :: bs => if a = b then commonLength as bs + 1 else 0
  | _, _ => 0

/-- The way from one path to another, both from the same directory on. -/
def relativeTo (base path : Path) : Path :=
  let here := base.resolve.names
  let there := path.resolve.names
  let common := commonLength here there
  { rooted := false
    names := List.replicate (here.length - common) ".." ++ there.drop common }

end Path

namespace Source

/-- The first byte and the source of a node. -/
structure Span where
  start : Int
  source : Int
deriving DecidableEq, Repr

/-- Reads the place of a node: three whole numbers between colons, and perhaps more behind them. -/
def Span.ofJson (v : Json) : Except Json.Misuse Span :=
  match v with
  | .str s =>
    match (splitAt ':' s.toList).map String.ofList with
    | start :: size :: source :: _ => do
      let start ← (Json.str start).toInt
      let _ ← (Json.str size).toInt
      let source ← (Json.str source).toInt
      .ok ⟨start, source⟩
    | _ => .error .badForm
  | _ => .error .notObject

/-- The number of line ends among the characters that start in the first `bytes` bytes. -/
def lineEnds : (bytes : Nat) → List Char → Nat
  | _, [] => 0
  | bytes, c :: cs =>
    if bytes = 0 then 0
    else lineEnds (bytes - c.utf8Size) cs + if c = '\n' then 1 else 0

/-- The line of a byte; a negative number counts from the end of the text. -/
def lineOf (content : String) (start : Int) : Nat :=
  let bytes := if start < 0 then (start + content.utf8ByteSize).toNat else start.toNat
  lineEnds bytes content.toList + 1

/-- The first source with a number. -/
def pathOf? (id : Int) : List (String × Json) → Except Json.Misuse (Option String)
  | [] => .ok none
  | (path, data) :: sources => do
    if (← data.lookup "id").alike (.int id) then .ok (some path) else pathOf? id sources

/-- Gives the place of a node in the sources of a compilation, with paths from a base on. -/
def decoder (input output : Json) (base : String) : SourceDecoder := fun node => do
  let span ← (node.get "src" >>= Span.ofJson : Except Json.Misuse _)
  let sources ← (output.lookup "sources" (.obj []) >>= Json.entries : Except Json.Misuse _)
  match ← (pathOf? span.source sources : Except Json.Misuse _) with
  | none => .error (.input (.noSource (.int span.source)))
  | some path =>
    if path.isEmpty then .error (.misuse .badForm)
    else
      let name := (Path.relativeTo (.ofText base) (.ofText path)).text
      let content ← (do
        let inputs ← input.lookup "sources" (.obj [])
        let data ← inputs.lookup path (.obj [])
        data.lookup "content" : Except Json.Misuse _)
      match content with
      | .null => .error (.input (.noContent name))
      | .str text => .ok (name ++ ":" ++ toString (lineOf text span.start))
      | _ => .error (.misuse .notObject)

end Source

end StorageUpgrade
