import StorageUpgrade.Shell.Settings
import StorageUpgrade.Text.Numeral

/-!
# Arguments of the command line

An argument is a flag, a plain text, or the marker `--`, behind which everything is plain.  Plain
arguments come in runs between the flags: a flag that takes values takes those behind it, the first
run that is left names the files, and nothing takes the others.

`Arguments.read` gives the settings that the arguments ask for.  Asking for help ends the reading at
once.
-/

namespace StorageUpgrade
namespace Arguments

/-- A flag of the command line. -/
inductive Flag where
  | help
  | attribute (a : Attribute)
deriving DecidableEq, Repr

/-- An argument. -/
inductive Token where
  | plain (text : String)
  | marker
  /-- A flag, with the value behind an equals sign if there is one. -/
  | flag (f : Flag) (value : Option String)
  /-- A flag of one letter that asks for help, with further letters behind it. -/
  | letters (tail : List Char)
  /-- Looks like a flag and is none. -/
  | unknown (text : String)
deriving DecidableEq, Repr

/-- The flags by their texts. -/
def flags : List (String × Flag) :=
  [("-h", .help), ("--help", .help)] ++
    (Attribute.all.filter (· ≠ .files)).map fun a => (a.flag, .attribute a)

/-- The name of the flag for help in messages. -/
def helpName : String := "-h/--help"

/-- Whether a text is a negative number; a line end may follow it. -/
def isNegativeNumber (cs : List Char) : Bool :=
  match cs with
  | '-' :: cs =>
    let cs := if cs.getLast? = some '\n' then cs.dropLast else cs
    let (whole, rest) := spanDigits cs
    match rest with
    | [] => !whole.isEmpty
    | '.' :: fraction => !fraction.isEmpty && fraction.all isDigit
    | _ => false
  | _ => false

/-- The part of a text in front of the first equals sign, and the part behind it. -/
def splitValue? (text : String) : Option (String × String) :=
  match text.toList.span (· != '=') with
  | (_, []) => none
  | (front, _ :: back) => some (String.ofList front, String.ofList back)

/-- The flag that a text is, if it is one. -/
def flag? (text : String) : Option Token :=
  match Json.find? text flags with
  | some f => some (.flag f none)
  | none => do
    let (front, back) ← splitValue? text
    let f ← Json.find? front flags
    some (.flag f (some back))

/-- What an argument in front of the marker is.  Texts that are a single dash or negative numbers,
or that hold a space, are no flags. -/
def classify (text : String) : Token :=
  match text.toList with
  | '-' :: c :: cs =>
    match flag? text with
    | some token => token
    | none =>
      if c = 'h' then .letters cs
      else if isNegativeNumber text.toList || text.toList.contains ' ' then .plain text
      else .unknown text
  | _ => .plain text

/-- The arguments one by one. -/
def tokens : List String → List Token
  | [] => []
  | text :: texts =>
    if text = "--" then .marker :: texts.map .plain else classify text :: tokens texts

/-- The text of a plain argument or of the marker. -/
def Token.text? : Token → Option String
  | plain text => some text
  | marker => some "--"
  | _ => none

/-- The first run of plain arguments, and each flag with the run behind it. -/
def runs : List Token → List Token × List (Token × List Token)
  | [] => ([], [])
  | t :: ts =>
    let (run, rest) := runs ts
    if t.text?.isSome then (t :: run, rest) else ([], (t, run) :: rest)

/-- What has been read: the settings, the files if they were named, and what nothing takes. -/
structure Progress where
  settings : Settings := .initial
  files : Option (List String) := none
  others : List String := []

/-- A run of plain arguments that no flag takes: it names the files, unless they have been named.
The marker is not the name of a file. -/
def Progress.takeRun (p : Progress) (run : List Token) : Progress :=
  let texts := run.filterMap Token.text?
  if texts.isEmpty then p
  else match p.files with
    | none => { p with files := some (texts.erase "--") }
    | some _ => { p with others := p.others ++ texts }

/-- What reading the arguments comes to. -/
inductive Request (α : Type) where
  | help
  | run (a : α)

/-- A list of texts as a value. -/
def textList (texts : List String) : Json := .arr (texts.map .str)

/-- What the letters behind the flag of one letter come to: the letter may be repeated, and other
letters do not matter any more. -/
def readLetters : List Char → Except ArgumentProblem Unit
  | '-' :: cs => .error (.valueRefused helpName (String.ofList ('-' :: cs)))
  | 'h' :: '=' :: cs => .error (.valueRefused helpName (String.ofList cs))
  | 'h' :: cs => readLetters cs
  | _ => .ok ()

/-- The values at the front of a run, and the rest. -/
def spanValues (run : List Token) : List String × List Token :=
  ((run.takeWhile (· ≠ .marker)).filterMap Token.text?, run.dropWhile (· ≠ .marker))

/-- Reads a flag and the run behind it. -/
def readFlag (p : Progress) (token : Token) (run : List Token) :
    Except ArgumentProblem (Request Progress) :=
  match token with
  | .flag .help none => .ok .help
  | .flag .help (some value) =>
    .error (.valueRefused helpName value)
  | .letters tail => do
    readLetters tail
    return .help
  | .flag (.attribute a) value =>
    match a.definition.kind, value with
    | .list, some value =>
      .ok (.run ({ p with settings := p.settings.set a (textList [value]) }.takeRun run))
    | .list, none =>
      match spanValues run with
      | ([], _) => .error (.valueNeeded a.flag)
      | (values, run) =>
        .ok (.run ({ p with settings := p.settings.set a (textList values) }.takeRun run))
    | _, some value => .error (.valueRefused a.flag value)
    | _, none => .ok (.run ({ p with settings := p.settings.set a (.bool true) }.takeRun run))
  | .unknown text => .ok (.run ({ p with others := p.others ++ [text] }.takeRun run))
  | .plain _ | .marker => .ok (.run (p.takeRun (token :: run)))

/-- Reads flags with the runs behind them. -/
def readFlags (p : Progress) :
    List (Token × List Token) → Except ArgumentProblem (Request Progress)
  | [] => .ok (.run p)
  | (token, run) :: rest => do
    match ← readFlag p token run with
    | .help => return .help
    | .run p => readFlags p rest

/-- The settings that arguments ask for, or help; the values are not checked. -/
def read (args : List String) : Except ArgumentProblem (Request Settings) := do
  let (first, rest) := runs (tokens args)
  match ← readFlags (Progress.takeRun {} first) rest with
  | .help => return .help
  | .run p =>
    if p.others.isEmpty then
      return .run (p.settings.set .files (textList (p.files.getD [])))
    else throw (.unknown p.others)

/-- Whether the first word of what nothing takes looks like a flag with a single dash; there must be
a word. -/
def isSingleDash (args : List String) : Except Json.Misuse Bool :=
  match words (" ".intercalate args).toList with
  | [] => .error .empty
  | ('-' :: c :: _) :: _ => .ok (c != '-')
  | _ => .ok false

end Arguments
end StorageUpgrade
