import Drill.Clock
import Drill.Invoker.Service
import Drill.Monitor

/-!
# Invokers

An invoker (`InvocationDriver`) calls a service again and again, with a fixed delay from the end of
one call to the start of the next, and hands every outcome to the monitor. `Invoker` is where it
stands, `Pacing` how fast it goes, and `Scene` everything that changes while it works: the clock,
the service, the monitor, the invoker and the log. A scene moves on by the steps in
`Drill.Invoker.Step`.

The invoker works in a background task, its loop. `Task` says where the loop waits, which is all
that matters of it between two moves: a loop runs only while everyone else waits.
-/

namespace Drill

open Number (Double)

/-- Where an invoker is in its life (`DriverState`). -/
inductive Phase where
  | idle
  | running
  | cancelled
deriving DecidableEq

/-- The word for a phase. -/
def Phase.name : Phase → String
  | idle => "IDLE"
  | running => "RUNNING"
  | cancelled => "CANCELLED"

/-- How an invoker's loop came to its end. -/
inductive Ending where
  | returned
  | cancelled
  | failed (fault : Fault)
deriving DecidableEq

/-- What an invoker's loop is doing (the background task of a driver). -/
inductive Task where
  | absent
  /-- The first call is made as soon as everyone else waits. -/
  | scheduled
  /-- A call waits: until its limit, if it has one, and until it answers, if it ever does. -/
  | calling (limit wake : Option Timer)
  /-- The delay until the next call. -/
  | resting (wake : Timer)
  | ended (how : Ending)
deriving DecidableEq

namespace Task

/-- The timer that the loop waits for. Of a call's two timers the limit was set first. -/
def next? : Task → Option Timer
  | calling (some limit) (some wake) => some (if wake.Before limit then wake else limit)
  | calling limit wake => limit.or wake
  | resting wake => some wake
  | _ => none

/-- Is there a loop that has not come to its end? -/
def isAlive : Task → Bool
  | scheduled | calling _ _ | resting _ => true
  | absent | ended _ => false

end Task

/-- The longest that a call may take (`invocation_timeout_s`). -/
inductive Limit where
  | none
  /-- Calls are not even entered, and every tick fails with this fault. -/
  | refused (fault : Fault)
  | within (span : Nat)
deriving DecidableEq

namespace Limit

/-- A call took too long. -/
def exceeded : Fault := .plain .timeout ""

/-- The limit of some seconds, if there is one. A limit that is not positive has passed before the
call is entered, and one that is infinite is refused by the clock (`micros`); in both cases the tick
fails without a call. -/
def of : Option Double → Limit
  | .none => none
  | .some seconds =>
    if seconds.isPositive then
      match micros seconds with
      | .ok span => within span
      | .error fault => refused fault
    else refused exceeded

end Limit

/-- How fast an invoker goes (the arguments of `InvocationDriver`). -/
structure Pacing where
  /-- The delay in seconds, as it is shown. -/
  shown : Double
  /-- The delay in microseconds, if it can be counted. -/
  period : Except Fault Nat
  limit : Limit

namespace Pacing

/-- The pacing of a delay and a limit in seconds; the delay has to be positive
(`InvocationDriver.__init__`). -/
def of (period : Double) (limit : Option Double) : Except Fault Pacing :=
  if period.isBelowZero || period.isZero then
    .error (.plain .value s!"period_s must be positive, got {period.shortest}")
  else .ok ⟨period, micros period, .of limit⟩

end Pacing

/-- Where an invoker stands (`InvocationDriver`). -/
structure Invoker where
  phase : Phase
  /-- How many calls it has set out to make. -/
  ticks : Nat
  task : Task
  /-- Is a cancellation on its way to the loop? -/
  interrupted : Bool
deriving DecidableEq

/-- An invoker that was never started. -/
def Invoker.fresh : Invoker := ⟨.idle, 0, .absent, false⟩

/-- Everything that changes while an invoker works. -/
structure Scene (σ : Type) where
  clock : Clock
  service : σ
  monitor : Monitor
  invoker : Invoker
  /-- What was logged, newest first. -/
  log : List Log.Entry

namespace Scene

variable {σ : Type}

/-- The scene before anything happens. -/
def opening (service : σ) (monitor : Monitor) : Scene σ := ⟨.zero, service, monitor, .fresh, []⟩

/-- Logs some events, oldest first. -/
def note (s : Scene σ) (events : List Log.Event) : Scene σ :=
  { s with log := (events.map fun e => ⟨s.clock.now, e⟩).reverse ++ s.log }

/-- Sets a timer. -/
def timer (s : Scene σ) (span : Nat) : Timer × Scene σ :=
  let (t, clock) := s.clock.timer span
  (t, { s with clock })

/-- Gives the loop something else to do. -/
def become (s : Scene σ) (task : Task) : Scene σ := { s with invoker := { s.invoker with task } }

/-- Ends the loop. -/
def finish (s : Scene σ) (how : Ending) : Scene σ :=
  { s with invoker := { s.invoker with task := .ended how, interrupted := false } }

/-- Hands what became of the current call to the monitor. -/
def record (s : Scene σ) (outcome : Outcome) : Scene σ :=
  let (monitor, events) := s.monitor.record s.invoker.ticks outcome
  { s with monitor }.note events

/-- Asks the monitor for its verdict. -/
def checkpoint (s : Scene σ) (label : String) : Except Fault Unit × Scene σ :=
  let (verdict, events) := s.monitor.checkpoint label
  (verdict, s.note events)

end Scene

end Drill
