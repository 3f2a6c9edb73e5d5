import Drill.Invoker.Step

/-!
# Starting and closing an invoker

The three requests to an invoker that can be refused or can take time. `start` is good for one start
only; `waitClosed` waits for the loop's end and passes on the fault that ended it, as often as it is
asked.
-/

namespace Drill.Scene

variable {σ : Type} (service : Service σ) (pacing : Pacing)

/-- Starts the invoker (`InvocationDriver.start`). -/
def start (s : Scene σ) : Except Fault (Scene σ) :=
  if s.invoker.phase = .idle then
    .ok ({ s with invoker := { s.invoker with phase := .running, task := .scheduled } }.note
      [.invokerStarted pacing.shown])
  else .error (.plain .runtime s!"Driver cannot start from state {s.invoker.phase.name}")

/-- How the loop ended, as one who waits for it learns. -/
def ending : Task → Except Fault Unit
  | .ended (.failed fault) => .error fault
  | _ => .ok ()

/-- Waits for the loop's end, for `fuel` timers at most (`wait_closed`). A loop that was cancelled
ends without any. -/
def waitClosed (fuel : Nat) (s : Scene σ) : Except Fault Unit × Scene σ :=
  let s := if s.invoker.task.isAlive then drain service pacing fuel (s.settle service pacing) else s
  (ending s.invoker.task, s)

/-- Cancels the invoker and waits for its end (`aclose`). -/
def close (s : Scene σ) : Except Fault Unit × Scene σ :=
  s.cancel.waitClosed service pacing 0

end Drill.Scene
