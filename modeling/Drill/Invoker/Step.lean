import Drill.Invoker.Basic

/-!
# How an invoker moves

The steps of an invoker's loop (`_loop` and `_tick`). `beginCall` sets out to make a call,
`conclude` takes its answer and goes on to the delay or to the end, `settle` runs the loop until it
waits, and `fire` is what a timer sets off. A call that is broken off may still answer. If its time
was up (`runOut`), that answer is its outcome, and giving in is a failure. If the invoker was
cancelled (`breakOff`), giving in is no outcome at all, and an answer is one only for a call without
a limit: a call with a limit is heard through whoever keeps its time (`asyncio.wait_for`), and that
one is gone.
-/

namespace Drill.Scene

variable {σ : Type}

/-- Cancels the invoker (`InvocationDriver.cancel`): no call is made from now on, and the loop is
told as soon as it waits. -/
def cancel (s : Scene σ) : Scene σ :=
  if s.invoker.phase = .cancelled then s
  else
    { s with invoker := { s.invoker with
        phase := .cancelled
        interrupted := s.invoker.task.isAlive } }.note [.invokerCancelled s.invoker.ticks]

variable (service : Service σ) (pacing : Pacing)

/-- Begins the delay until the next call (the sleep in `_loop`). -/
def rest (s : Scene σ) : Scene σ :=
  match pacing.period with
  | .ok span =>
    let (wake, s) := s.timer span
    s.become (.resting wake)
  | .error fault => s.finish (.failed fault)

/-- Goes on after a call (the test of the state in `_loop`): to the delay, or to the end if the
invoker was cancelled meanwhile. -/
def proceed (s : Scene σ) : Scene σ :=
  if s.invoker.phase = .cancelled then s.finish .returned else s.rest pacing

/-- Takes the answer of a call (the end of `_tick`). An answer without a value and a cancellation
end the loop. -/
def conclude (s : Scene σ) : Answer → Scene σ
  | .value (some v) => (s.record (.value v)).proceed pacing
  | .value none => s.finish (.failed Outcome.ambiguous)
  | .fault fault => (s.record (.failure fault)).proceed pacing
  | .cancelled => s.finish .cancelled

/-- The waiting call answers. -/
def answer (s : Scene σ) : Scene σ :=
  let (a, state) := service.finish s.service
  { s with service := state }.conclude pacing a

/-- The waiting call is broken off because its time is up. -/
def runOut (s : Scene σ) : Scene σ :=
  let (a, state) := service.interrupt s.service
  let s := { s with service := state }
  match a with
  | none | some .cancelled => s.conclude pacing (.fault Limit.exceeded)
  | some a => s.conclude pacing a

/-- The waiting call is broken off because the invoker was cancelled. -/
def breakOff (s : Scene σ) (limit : Option Timer) : Scene σ :=
  let (a, state) := service.interrupt s.service
  let s := { s with service := state }
  match a, limit with
  | some a, none => s.conclude pacing a
  | _, _ => s.finish .cancelled

/-- Enters a call whose limit, if any, is already running. -/
def enter (s : Scene σ) (limit : Option Timer) : Scene σ :=
  let (opened, state) := service.enter s.service
  let s := { s with service := state }
  let s := if opened.cancelsInvoker then s.cancel else s
  match opened.wait with
  | .none => s.answer service pacing
  | .span span =>
    let (wake, s) := s.timer span
    if s.invoker.interrupted then s.breakOff service pacing limit
      else s.become (.calling limit (some wake))
  | .forever =>
    if s.invoker.interrupted then s.breakOff service pacing limit
      else s.become (.calling limit none)

/-- Sets out to make a call (`_tick`). The limit's timer is set before the call is entered. -/
def beginCall (s : Scene σ) : Scene σ :=
  let s := { s with invoker := { s.invoker with ticks := s.invoker.ticks + 1 } }
  match pacing.limit with
  | .none => s.enter service pacing none
  | .refused fault => s.conclude pacing (.fault fault)
  | .within span =>
    let (limit, s) := s.timer span
    s.enter service pacing (some limit)

/-- Runs the loop until it waits: makes the first call, or takes a cancellation that was on its
way. -/
def settle (s : Scene σ) : Scene σ :=
  match s.invoker.task with
  | .scheduled =>
    if s.invoker.interrupted then s.finish .cancelled
    else (s.become (.calling none none)).beginCall service pacing
  | .calling limit _ => if s.invoker.interrupted then s.breakOff service pacing limit else s
  | .resting _ => if s.invoker.interrupted then s.finish .cancelled else s
  | .absent | .ended _ => s

/-- What the timer that the loop waits for sets off. -/
def fire (s : Scene σ) (t : Timer) : Scene σ :=
  let s := { s with clock := s.clock.reach t }
  match s.invoker.task with
  | .resting _ => (s.become (.calling none none)).beginCall service pacing
  | .calling limit _ => if limit = some t then s.runOut service pacing else s.answer service pacing
  | .absent | .scheduled | .ended _ => s

/-- Lets the loop go on until the given timer fires. -/
def advance (goal : Timer) : Nat → Scene σ → Scene σ
  | 0, s => { s with clock := s.clock.reach goal }
  | fuel + 1, s =>
    match s.invoker.task.next? with
    | some t =>
      if t.Before goal then advance goal fuel (s.fire service pacing t)
      else { s with clock := s.clock.reach goal }
    | none => { s with clock := s.clock.reach goal }

/-- The script waits for a span. Its timer is set before the loop moves. Calls are at least a
microsecond apart and take two timers at most, so twice the span is enough. -/
def sleep (s : Scene σ) (span : Nat) : Scene σ :=
  let (goal, s) := s.timer span
  advance service pacing goal (2 * span + 3) (s.settle service pacing)

/-- The script pauses. -/
def pause (s : Scene σ) : Pause → Scene σ
  | .passing => s.settle service pacing
  | .timed span => s.sleep service pacing span

/-- The loop goes on, with nobody else waiting for a timer, until it ends or `fuel` timers have
fired. -/
def drain : Nat → Scene σ → Scene σ
  | 0, s => s
  | fuel + 1, s =>
    match s.invoker.task.next? with
    | some t => drain fuel (s.fire service pacing t)
    | none => s

end Drill.Scene
