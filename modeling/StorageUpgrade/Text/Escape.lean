import StorageUpgrade.Text.Lines
import StorageUpgrade.Text.Word

/-!
# Escape sequences of terminals

A text may hold characters that a terminal takes for commands: control sequences, which change
colours and the like, and links, of which only their text is shown.  What is left without them is
what takes up columns.

A control sequence starts with an escape and a bracket, and ends with its first letter or sign
behind digits and separators.  A link is a command that opens an address, the text of the link, and
the same command without an address.
-/

namespace StorageUpgrade
namespace Escape

/-- The character that starts every command. -/
def esc : Char := '\x1b'

/-- A character of the parameters of a control sequence. -/
def isParameter (c : Char) : Bool := '0' ≤ c && c ≤ '?'

/-- A character between the parameters of a control sequence and its end. -/
def isIntermediate (c : Char) : Bool := ' ' ≤ c && c ≤ '/'

/-- A character that ends a control sequence. -/
def isFinal (c : Char) : Bool := '@' ≤ c && c ≤ '~'

/-- The rest of a text behind a control sequence. -/
def afterControl? : List Char → Option (List Char)
  | '\x1b' :: '[' :: cs =>
    match (cs.dropWhile isParameter).dropWhile isIntermediate with
    | c :: rest => if isFinal c then some rest else none
    | [] => none
  | _ => none

/-- Whether a list of word runs between equals signs can be cut into keys and values: a run that
ends one value and starts the next key has at least two characters. -/
def areRuns : (first : Bool) → List (List Char) → Bool
  | _, [] => false
  | first, [run] => !first && !run.isEmpty
  | true, run :: runs => !run.isEmpty && areRuns false runs
  | false, run :: runs => 2 ≤ run.length && areRuns false runs

/-- Whether a piece of the parameters of a link holds keys with values. -/
def areSettings (piece : List Char) : Bool :=
  let runs := splitAt '=' piece
  runs.all (·.all isWord) && areRuns true runs

/-- Whether a text can be the parameters of a link: keys with values, with single colons behind
them. -/
def areParameters (cs : List Char) : Bool :=
  match splitAt ':' cs with
  | [[]] => true
  | ps => (if ps.getLast? = some [] then ps.dropLast else ps).all areSettings

/-- The text in front of the next escape, which may not be empty, and the rest from it on. -/
def untilEscape? (cs : List Char) : Option (List Char × List Char) :=
  match cs.span (· != esc) with
  | ([], _) => none
  | found => some found

/-- The text of a link at the front of a text, and the rest behind the link. -/
def link? : List Char → Option (List Char × List Char)
  | '\x1b' :: ']' :: '8' :: ';' :: cs =>
    match cs.span (· != ';') with
    | (parameters, ';' :: cs) =>
      if !areParameters parameters then none
      else match untilEscape? cs with
        | some (_, '\x1b' :: '\\' :: cs) =>
          match untilEscape? cs with
          | some (shown, '\x1b' :: ']' :: '8' :: ';' :: ';' :: '\x1b' :: '\\' :: rest) =>
            some (shown, rest)
          | _ => none
        | _ => none
    | _ => none
  | _ => none

/-- What is shown of a command at the front of a text, and the rest behind it. -/
def command? (cs : List Char) : Option (List Char × List Char) :=
  match afterControl? cs with
  | some rest => some ([], rest)
  | none => link? cs

/-- Whether a text holds a command. -/
def occursIn : List Char → Bool
  | [] => false
  | c :: cs => (command? (c :: cs)).isSome || occursIn cs

/-- What is shown of a text, of which the first `skip` characters belong to a command. -/
def shownFrom (skip : Nat) : List Char → List Char
  | [] => []
  | c :: cs =>
    match skip with
    | skip + 1 => shownFrom skip cs
    | 0 => match command? (c :: cs) with
      | some (shown, rest) => shown ++ shownFrom (cs.length - rest.length) cs
      | none => c :: shownFrom 0 cs

/-- What is shown of a text. -/
def shown (cs : List Char) : List Char := shownFrom 0 cs

@[simp] theorem shown_nil : shown [] = [] := rfl

end Escape
end StorageUpgrade
