/-!
# Log records

What a run has to say besides its result: each record has a topic, a level and a message.  Records
are kept in the order in which they were made, whatever becomes of the run.
-/

namespace StorageUpgrade
namespace Log

/-- The level of a record; higher levels are more urgent. -/
abbrev Level := Int

/-- Details of the run. -/
def debug : Level := 10

/-- News for the user. -/
def info : Level := 20

/-- Something the user should look at. -/
def warning : Level := 30

/-- Something that went wrong. -/
def error : Level := 40

/-- Something that ends the run. -/
def critical : Level := 50

/-- The name of a level. -/
def levelName (level : Level) : String :=
  if level = debug then "DEBUG"
  else if level = info then "INFO"
  else if level = warning then "WARNING"
  else if level = error then "ERROR"
  else if level = critical then "CRITICAL"
  else "Level " ++ toString level

/-- The topics of the records of this library. -/
def topics : List String := ["ast", "config", "file", "namespace", "run", "storage"]

/-- One message. -/
structure Record where
  topic : String
  level : Level
  message : String
deriving DecidableEq, Repr

/-- A record, which is of the topic of all topics when none is named. -/
def record (topic : String) (level : Level) (message : String) : Record :=
  { topic := if topic.isEmpty then "root" else topic, level, message }

end Log
end StorageUpgrade
