import Drill.Text.Case

/-!
# Log levels

How grave a message is. `Level.rank` orders the levels; `rankNamed?` reads a threshold by any of its
names, in capitals or not.
-/

namespace Drill.Log

/-- How grave a message is. -/
inductive Level where
  | debug
  | info
  | warning
  | error
  | critical
deriving DecidableEq

namespace Level

/-- The word for a level. -/
def name : Level → String
  | debug => "DEBUG"
  | info => "INFO"
  | warning => "WARNING"
  | error => "ERROR"
  | critical => "CRITICAL"

/-- The number of a level; graver levels have larger ones. -/
def rank : Level → Nat
  | debug => 10
  | info => 20
  | warning => 30
  | error => 40
  | critical => 50

/-- The levels, least grave first. -/
def all : List Level := [debug, info, warning, error, critical]

/-- The level of a word, in capitals. -/
def ofName? (name : String) : Option Level := all.find? (·.name = name)

end Level

/-- The threshold that a word names, in capitals or not: a level, a second name of one, or none at
all. -/
def rankNamed? (word : String) : Option Nat :=
  match Text.capitals word with
  | "FATAL" => some Level.critical.rank
  | "WARN" => some Level.warning.rank
  | "NOTSET" => some 0
  | name => (Level.ofName? name).map Level.rank

end Drill.Log
