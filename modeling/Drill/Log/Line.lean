import Drill.Log.Event

/-!
# Log lines

How a message is written on one line, as a row of columns (`Layout.columns`) or as the members of an
object (`Layout.members`). The texts go in as they are: an object whose texts hold quotes or line
breaks is not what a reader of objects expects.
-/

namespace Drill.Log

/-- A message on its way out. -/
structure Message where
  level : Level
  logger : String
  /-- The run that the message belongs to; an empty id is no id. -/
  runId : Option String
  text : String
deriving DecidableEq

/-- The two ways to write a message. -/
inductive Layout where
  | columns
  | members
deriving DecidableEq

namespace Message

/-- The run id before the text, in brackets; empty without a run. -/
def mark (m : Message) : String :=
  match m.runId with
  | some id => if id.isEmpty then "" else s!"[{id}] "
  | none => ""

/-- A word padded with blanks on the right to a width. -/
def padRight (width : Nat) (word : String) : String :=
  word ++ String.ofList (List.replicate (width - word.length) ' ')

/-- The line of a message at a time (`HarnessFormatter.format`). -/
def line (m : Message) (time : String) : Layout → String
  | .columns => s!"{time} | {padRight 8 m.level.name} | {m.logger} | {m.mark}{m.text}"
  | .members =>
    "\x7b\"timestamp\": \"" ++ time ++ "\", \"level\": \"" ++ m.level.name ++
      "\", \"module\": \"" ++
      m.logger ++ "\", \"run_id\": \"" ++ m.mark ++ "\", \"message\": \"" ++ m.text ++ "\"\x7d"

end Message

/-- The text up to the first line break. -/
def firstLine (text : String) : String := String.ofList (text.toList.takeWhile (· ≠ '\n'))

end Drill.Log
