import Drill.Invoker.Control

/-!
# A service that plays its part

A service for trying out an invoker: each call has a `Cue`, a line of a script that says how the
call begins and how it ends, and calls without one of their own take the standing cue. A `Cast` is
such a service with all its cues; it also counts the calls.
-/

namespace Drill

/-- How a call ends by its cue. -/
inductive Delivery where
  /-- The next number of the series. -/
  | next
  /-- A value of its own, which may be missing. -/
  | value (v : Option Int)
  | fault (fault : Fault)
  | cancelled
deriving DecidableEq

/-- What one call does. -/
structure Cue where
  opening : Opening
  delivery : Delivery
  /-- What it answers if it is broken off; without this it gives in. -/
  onInterrupt : Option Delivery
deriving DecidableEq

/-- The cues of the calls to come, and counts of the calls so far. -/
structure Cast where
  upcoming : List Cue
  standing : Cue
  current : Cue
  serial : Int
  entered : Nat
  completed : Nat
  active : Nat
  mostActive : Nat
deriving DecidableEq

namespace Cast

/-- A cast before its first call. -/
def start (upcoming : List Cue) (standing : Cue) (serial : Int) : Cast :=
  ⟨upcoming, standing, standing, serial, 0, 0, 0, 0⟩

/-- A call begins. -/
def enter (c : Cast) : Opening × Cast :=
  let cue := c.upcoming.headD c.standing
  (cue.opening, { c with
    upcoming := c.upcoming.tail
    current := cue
    entered := c.entered + 1
    active := c.active + 1
    mostActive := max c.mostActive (c.active + 1) })

/-- The current call is no longer active. -/
def leave (c : Cast) : Cast := { c with active := c.active - 1 }

/-- The current call ends with a delivery. -/
def deliver (c : Cast) : Delivery → Answer × Cast
  | .next =>
    (.value (some c.serial), { c.leave with serial := c.serial + 1, completed := c.completed + 1 })
  | .value v => (.value v, { c.leave with completed := c.completed + 1 })
  | .fault fault => (.fault fault, c.leave)
  | .cancelled => (.cancelled, c.leave)

/-- The current call is broken off. -/
def interrupt (c : Cast) : Option Answer × Cast :=
  match c.current.onInterrupt with
  | some delivery =>
    let (a, c) := c.deliver delivery
    (some a, c)
  | none => (none, c.leave)

/-- The cast as a service. -/
def service : Service Cast := ⟨enter, fun c => c.deliver c.current.delivery, interrupt⟩

/-- How many timers a loop may need until the calls with cues of their own are over. -/
def patience (c : Cast) : Nat := 2 * c.upcoming.length + 4

end Cast

end Drill
