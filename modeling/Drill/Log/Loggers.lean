import Drill.Log.Line

/-!
# Loggers

Which messages are written. Loggers are named by paths with dots, and a logger without a threshold
of its own takes the one above it (`Loggers.threshold`). `Loggers.setUp` sends everything from a
threshold on to one output and keeps the chatter of the request library down.
-/

namespace Drill.Log

/-- Where messages go, and from which rank on. -/
structure Output where
  threshold : Nat
  layout : Layout
deriving DecidableEq

/-- The loggers of a program (`logging`). -/
structure Loggers where
  /-- The threshold of the root. -/
  root : Nat
  output : Option Output
  runId : Option String
deriving DecidableEq

namespace Loggers

/-- Loggers that were never set up. -/
def initial : Loggers := ⟨Level.warning.rank, none, none⟩

/-- Sends messages from the named level on to one output; an unknown name stands for the level of
plain information (`setup_logging`). -/
def setUp (l : Loggers) (word : String) (layout : Layout) : Loggers :=
  let threshold := (rankNamed? word).getD Level.info.rank
  { l with root := threshold, output := some ⟨threshold, layout⟩ }

/-- Loggers that have a threshold of their own from the first set-up on (`httpx`, `httpcore`). -/
def quiet : List String := ["httpx", "httpcore"]

/-- Is the logger the named one or below it? -/
def isUnder (above logger : String) : Bool :=
  logger = above || (above.toList ++ ['.']).isPrefixOf logger.toList

/-- From which rank on a logger lets messages through. -/
def threshold (l : Loggers) (logger : String) : Nat :=
  if l.output.isSome && quiet.any (isUnder · logger) then Level.warning.rank else l.root

/-- The full name of a logger; the root may be left unnamed. -/
def fullName (logger : String) : String := if logger.isEmpty then "root" else logger

/-- The line that a message makes, if it is written. -/
def write (l : Loggers) (time logger : String) (level : Level) (text : String) : Option String :=
  match l.output with
  | some output =>
    if l.threshold logger ≤ level.rank && output.threshold ≤ level.rank then
      some ((⟨level, fullName logger, l.runId, text⟩ : Message).line time output.layout)
    else none
  | none => none

/-- The line that an event of a run makes, if it is written. -/
def writeEvent (l : Loggers) (time runId : String) (e : Event) : Option String :=
  ({ l with runId := if e.isInsideRun then some runId else none }).write time e.source
    e.level e.text

end Loggers

end Drill.Log
