import Drill.Log.Level
import Drill.Number.Double
import Drill.Fault

/-!
# Settings

How long a drill waits and how strictly it checks (`HarnessSettings`). Durations are positive
numbers of milliseconds; each is stretched by a positive factor and turned into seconds
(`Settings.seconds`), so that a slow environment slows the whole drill down alike.
-/

namespace Drill

open Number (Double)

/-- A positive number of milliseconds (a field with `gt=0`). -/
structure Millis where
  count : Nat
  positive : 0 < count
deriving DecidableEq

/-- A positive factor (`timeout_factor`). -/
structure Factor where
  value : Double
  positive : value.isPositive = true
deriving DecidableEq

/-- The settings of a drill (`HarnessSettings`). -/
structure Settings where
  /-- The window before the first checkpoint. -/
  stability : Millis
  /-- How long a node is kept down. -/
  outage : Millis
  /-- From the end of one call to the start of the next. -/
  period : Millis
  /-- How long the clusters take to form. -/
  formation : Millis
  /-- The wait after a node is back; the stability window if none is set. -/
  restart : Option Millis
  /-- How long a node may take to shut down. -/
  grace : Millis
  /-- The longest a call may take, if there is a bound. -/
  callLimit : Option Millis
  factor : Factor
  /-- Is there a checkpoint during every outage? -/
  strict : Bool
  logLevel : Log.Level
  jsonLogs : Bool
deriving DecidableEq

namespace Settings

/-- What holds where nothing is set (the defaults of the fields). -/
def default : Settings where
  stability := ⟨5000, by decide⟩
  outage := ⟨5000, by decide⟩
  period := ⟨100, by decide⟩
  formation := ⟨5000, by decide⟩
  restart := none
  grace := ⟨30000, by decide⟩
  callLimit := none
  factor := ⟨.one, by decide⟩
  strict := true
  logLevel := .info
  jsonLogs := false

/-- Milliseconds stretched by the factor, in seconds (`adjust`). -/
def stretch (s : Settings) (millis : Double) : Double := millis * s.factor.value / .ofInt 1000

/-- A whole number of milliseconds stretched by the factor, in seconds (`adjust`). -/
def stretchInt (s : Settings) (millis : Int) : Except Fault Double :=
  (Double.ofInt? millis).elim (.error .largeInteger) fun x => .ok (s.stretch x)

/-- A duration in seconds (the properties such as `stability_window_s`). -/
def seconds (s : Settings) (m : Millis) : Except Fault Double := s.stretchInt m.count

/-- The wait after a node is back, in seconds (`restart_convergence_s`). -/
def restartSeconds (s : Settings) : Except Fault Double := s.seconds (s.restart.getD s.stability)

/-- The longest a call may take, in seconds (`invocation_timeout_s`). -/
def limitSeconds (s : Settings) : Except Fault (Option Double) :=
  match s.callLimit with
  | some m => (s.seconds m).map some
  | none => .ok none

end Settings

end Drill
