import StorageUpgrade.Log
import StorageUpgrade.Text.Blank
import StorageUpgrade.Text.Lines

/-!
# What is shown of a log

A view decides which records are shown, and how: news and everything more urgent, and the details of
the run too when it is debugged.  While debugging, the records may be limited to some topics, but
warnings and errors of every topic are shown.
-/

namespace StorageUpgrade
namespace Log

/-- Which records are shown, and how. -/
structure View where
  /-- Whether the details of the run are shown. -/
  debug : Bool := false
  /-- The topics whose records are shown while debugging; all of them if none is given. -/
  topics : List String := []
  /-- Whether the topic of a record stands in front of its message. -/
  showTopics : Bool := false
  /-- Whether the levels of warnings and errors are coloured. -/
  colored : Bool := false
  /-- Whether anything is shown at all. -/
  isOpen : Bool := true
deriving DecidableEq, Repr

namespace View

/-- The level from which on records are shown. -/
def threshold (v : View) : Level := if v.debug then Log.debug else Log.info

/-- Whether a view is limited to its topics. -/
def isLimited (v : View) : Bool := v.debug && !v.topics.isEmpty

/-- Whether a view shows the records of a topic whatever their level. -/
def includes (v : View) (topic : String) : Bool := (v.topics.map trimText).contains topic

/-- Whether a record is shown. -/
def shows (v : View) (r : Record) : Bool :=
  v.isOpen && decide (v.threshold ≤ r.level) &&
    (!v.isLimited || v.includes r.topic || decide (warning ≤ r.level))

/-- The style of the name of a level. -/
def style? (level : Level) : Option Style :=
  if level = warning then some .orange
  else if level = error ∨ level = critical then some .red
  else none

/-- The name of a level as it is shown. -/
def levelText (v : View) (level : Level) : String :=
  match v.colored, style? level with
  | true, some style => style.apply (levelName level)
  | _, _ => levelName level

/-- The line that shows a record. -/
def line (v : View) (r : Record) : String :=
  let topic := if v.showTopics then r.topic ++ " - " else ""
  v.levelText r.level ++ ": " ++ topic ++ r.message ++ "\n"

/-- What a view shows of some records. -/
def write (v : View) (records : List Record) : String :=
  String.join ((records.filter v.shows).map v.line)

@[simp] theorem write_nil (v : View) : v.write [] = "" := rfl

/-- The view that has been closed. -/
def close (v : View) : View := { v with isOpen := false }

end View
end Log
end StorageUpgrade
