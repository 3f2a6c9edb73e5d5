import Drill.Fault

/-!
# Services

What an invoker calls (`ServiceHandle`). A call is entered, may wait, and then answers; a call that
is broken off while it waits may still answer, or give in. `Service σ` describes this for a service
with state `σ`.
-/

namespace Drill

/-- How long a call waits before it answers. -/
inductive Wait where
  | none
  | span (micros : Nat)
  | forever
deriving DecidableEq

/-- How a call begins. -/
structure Opening where
  /-- Does the call cancel the invoker that made it? -/
  cancelsInvoker : Bool
  wait : Wait
deriving DecidableEq

/-- How a call ends: with a value, which may be missing, with a fault, or with a cancellation. -/
inductive Answer where
  | value (v : Option Int)
  | fault (fault : Fault)
  | cancelled
deriving DecidableEq

/-- A service under test (`ServiceHandle`, with `fetch_and_increment` cut at its waits). -/
structure Service (σ : Type) where
  /-- A call begins. -/
  enter : σ → Opening × σ
  /-- The call's wait is over. -/
  finish : σ → Answer × σ
  /-- The call is broken off while it waits; without an answer it gives in. -/
  interrupt : σ → Option Answer × σ

end Drill
