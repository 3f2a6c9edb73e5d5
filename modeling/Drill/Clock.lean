import Drill.Fault
import Drill.Number.Double

/-!
# The clock

Runs go by a virtual clock. Time is counted in microseconds from zero and moves only when a timer
fires. Of two timers the one that is due first fires first; of two that are due at once, the one
that was set first (`Timer.Before`).
-/

namespace Drill

open Number (Double)

/-- The microseconds of some seconds, a half rounded up. It is here, where the virtual clock counts
a span, that an infinite one is refused; whoever waits would take it. -/
def micros (seconds : Double) : Except Fault Nat :=
  match (seconds * .ofInt 1000000 + .half).floor? with
  | some n => .ok n.toNat
  | none => .error .infiniteSpan

/-- Something that happens at a moment; `serial` counts timers in the order they were set. -/
structure Timer where
  due : Nat
  serial : Nat
deriving DecidableEq

namespace Timer

/-- Does the first timer fire before the second? -/
def Before (a b : Timer) : Prop := a.due < b.due ∨ a.due = b.due ∧ a.serial < b.serial

instance (a b : Timer) : Decidable (Before a b) := inferInstanceAs (Decidable (_ ∨ _ ∧ _))

end Timer

/-- The moment it is, and how many timers were set so far. -/
structure Clock where
  now : Nat
  set : Nat
deriving DecidableEq

namespace Clock

/-- The clock before anything happens. -/
def zero : Clock := ⟨0, 0⟩

/-- Sets a timer. -/
def timer (c : Clock) (span : Nat) : Timer × Clock := (⟨c.now + span, c.set⟩, ⟨c.now, c.set + 1⟩)

/-- Moves on to the moment of a timer. -/
def reach (c : Clock) (t : Timer) : Clock := { c with now := t.due }

end Clock

/-- A wait of the script: for a span, or just long enough for everyone else to come to a wait. -/
inductive Pause where
  | passing
  | timed (span : Nat)
deriving DecidableEq

/-- The pause of some seconds (`asyncio.sleep`). -/
def Pause.of (seconds : Double) : Except Fault Pause :=
  if seconds.isPositive then (micros seconds).map .timed else .ok .passing

end Drill
