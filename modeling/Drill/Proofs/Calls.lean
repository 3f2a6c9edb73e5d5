import Drill.Invoker.Control

/-!
# How calls end

A tick of a loop begins when it sets out to make a call, and ends when the call does, whatever the
service is. `CallEnd` says how a call can end, `CallEnd.outcome?` what the monitor is told of it,
and `Scene.endCall` what the loop does then: it goes on if the monitor was told, and otherwise it
has come to its end in the middle of the tick. `Scene.Goes` lists all that a loop does when it is
let go on or when a timer fires; a tick that it begins is on a list of its own (`Scene.Begins`).

Everything that is said of loops elsewhere, for one service or for all, starts from these lists.
Main statements: `settle_goes` and `fire_goes`, the lists are complete, and `Goes.sound`, a
cancellation is on its way exactly when the invoker was cancelled and its loop has not come to its
end.
-/

namespace Drill

/-- What the monitor is told of an answer. -/
def Answer.outcome? : Answer → Option Outcome
  | .value (some v) => some (.value v)
  | .fault f => some (.failure f)
  | .value none | .cancelled => none

/-- How the loop ends with an answer of which the monitor is not told. -/
def Answer.ending : Answer → Ending
  | .value none => .failed Outcome.ambiguous
  | .value (some _) | .fault _ | .cancelled => .cancelled

/-- How the call of a tick ends. -/
inductive CallEnd where
  /-- The limit kept it from being entered. -/
  | refused (fault : Fault)
  /-- It answered of its own accord. -/
  | answered (a : Answer)
  /-- Its time was up, and it was broken off. -/
  | expired (a : Option Answer)
  /-- The invoker was cancelled, and it was broken off while it waited. -/
  | broken (limited : Bool) (a : Option Answer)
deriving DecidableEq

namespace CallEnd

/-- The answer that the loop takes. A call with a limit is not heard when it is broken off. -/
def answer? : CallEnd → Option Answer
  | refused fault => some (.fault fault)
  | answered a => some a
  -- Giving in to the limit is no cancellation for the loop: it is told that the limit was exceeded.
  | expired none | expired (some .cancelled) => some (.fault Limit.exceeded)
  | expired (some a) => some a
  | broken false a => a
  | broken true _ => none

/-- What the monitor is told. -/
def outcome? (e : CallEnd) : Option Outcome := e.answer?.bind Answer.outcome?

/-- What the monitor is told, with the number of the call. -/
def news (sequence : Nat) (e : CallEnd) : List (Int × Outcome) :=
  (e.outcome?.map fun outcome => ((sequence : Int), outcome)).toList

/-- How the loop ends if the monitor is told nothing. -/
def ending (e : CallEnd) : Ending := (e.answer?.map Answer.ending).getD .cancelled

end CallEnd

/-- What an event tells of a call: its number and what became of it. -/
def Log.Event.outcome? : Log.Event → Option (Int × Outcome)
  | received sequence v => some (sequence, .value v)
  | latched sequence fault | failedAgain sequence fault => some (sequence, .failure fault)
  | _ => none

/-- An idle invoker has no loop, and a cancellation is on its way exactly when the invoker was
cancelled and there is a loop to tell. -/
structure Invoker.Sound (i : Invoker) : Prop where
  idle : i.phase = .idle → i.task = .absent
  interrupted_iff : i.interrupted = true ↔ i.phase = .cancelled ∧ i.task.isAlive = true

namespace Task

/-- Is a call under way? -/
def isCalling : Task → Bool
  | calling _ _ => true
  | absent | scheduled | resting _ | ended _ => false

/-- What becomes of a loop's task when the invoker is closed. -/
def cut : Task → Task
  | ended how => ended how
  | absent | scheduled | calling _ _ | resting _ => ended .cancelled

end Task

/-- An invoker that was started and not cancelled. -/
structure Invoker.Running (i : Invoker) : Prop where
  phase : i.phase = .running
  uninterrupted : i.interrupted = false
  started : i.task ≠ .absent

/-- A loop makes a call exactly while it waits for one. -/
theorem Task.isCalling_iff {task : Task} : task.isCalling = true ↔
    ∃ limit wake, task = .calling limit wake := by
  cases task <;> simp [Task.isCalling]

/-- A loop that makes a call has not come to its end. -/
theorem Task.isAlive_of_isCalling {task : Task} (calling : task.isCalling = true) :
    task.isAlive = true := by
  cases task with
  | calling => rfl
  | absent | scheduled | resting | ended => cases calling

/-- A loop that is alive has not come to any end. -/
theorem Task.ne_ended {task : Task} (alive : task.isAlive = true) (how : Ending) :
    task ≠ .ended how := by
  rintro rfl
  cases alive

namespace Invoker

variable {i : Invoker}

/-- An invoker that was never started has no loop and nothing on its way. -/
theorem fresh_sound : fresh.Sound := ⟨fun _ => rfl, by simp [fresh]⟩

/-- A loop that is alive and was not told of a cancellation was started and not cancelled. -/
theorem Sound.running (sound : i.Sound) (alive : i.task.isAlive = true)
    (calm : i.interrupted = false) :
    i.Running := by
  have present : i.task ≠ .absent := by
    intro absent
    rw [absent] at alive
    cases alive
  refine ⟨?_, calm, present⟩
  cases phase : i.phase with
  | running => rfl
  | idle => exact absurd (sound.idle phase) present
  | cancelled =>
    have interrupted := sound.interrupted_iff.mpr ⟨phase, alive⟩
    rw [calm] at interrupted
    cases interrupted

/-- An invoker that was started and not cancelled is told of no cancellation. -/
theorem Running.sound (running : i.Running) : i.Sound where
  idle idle := by cases running.phase.symm.trans idle
  interrupted_iff := by simp [running.uninterrupted, running.phase]

/-- Only an invoker that was started has a loop. -/
theorem Sound.busy (sound : i.Sound) (alive : i.task.isAlive = true) : i.phase ≠ .idle := by
  intro idle
  rw [sound.idle idle] at alive
  cases alive

/-- A cancellation is on its way to a loop that is still there. -/
theorem Sound.alive (sound : i.Sound) (interrupted : i.interrupted = true) :
    i.task.isAlive = true :=
  (sound.interrupted_iff.mp interrupted).2

/-- A cancellation is on its way only after one was asked for. -/
theorem Sound.cancelled (sound : i.Sound) (interrupted : i.interrupted = true) :
    i.phase = .cancelled :=
  (sound.interrupted_iff.mp interrupted).1

end Invoker

/-- The monitor logs of every call that it is told of. -/
theorem Monitor.record_told (monitor : Monitor) (sequence : Int) (outcome : Outcome) :
    (monitor.record sequence outcome).2.filterMap Log.Event.outcome? = [(sequence, outcome)] := by
  cases outcome with
  | value v =>
    simp only [Monitor.record, Monitor.recordValue]
    split
    next => rfl
    next => split <;> rfl
  | failure fault =>
    simp only [Monitor.record, Monitor.recordFailure]
    split <;> rfl

/-- Sets the timer of a call's answer, if the call has to wait for one. -/
def Clock.waking (c : Clock) : Wait → Option Timer × Clock
  | .span span => (some (c.timer span).1, (c.timer span).2)
  | .none | .forever => (none, c)

namespace Scene

variable {σ : Type}

/-- Does everyone wait? -/
structure Still (s : Scene σ) : Prop where
  calm : s.invoker.interrupted = false
  begun : s.invoker.task ≠ .scheduled

/-! ## The parts of a tick -/

section

variable (pacing : Pacing) (s : Scene σ)

/-- Sets out to make a call: one tick more. -/
def tick : Scene σ :=
  { s with invoker := { s.invoker with ticks := s.invoker.ticks + 1, task := .calling none none } }

/-- Sets the timer of a call's limit, if there is one. -/
def arm : Option Timer × Scene σ :=
  match pacing.limit with
  | .within span => (some (s.timer span).1, (s.timer span).2)
  | .none | .refused _ => (none, s)

/-- Ends a tick: the monitor hears its outcome, and the delay until the next call begins. -/
def endTick (outcome : Outcome) : Scene σ := (s.record outcome).rest pacing

@[simp] theorem record_service (outcome : Outcome) : (s.record outcome).service = s.service := rfl

/-- The monitor is told the number of the tick with its outcome. -/
theorem record_monitor (outcome : Outcome) :
    (s.record outcome).monitor = (s.monitor.record s.invoker.ticks outcome).1 := rfl

@[simp] theorem rest_service : (s.rest pacing).service = s.service := by
  unfold rest
  split <;> rfl

@[simp] theorem rest_monitor : (s.rest pacing).monitor = s.monitor := by
  unfold rest
  split <;> rfl

@[simp] theorem endTick_service (outcome : Outcome) :
    (s.endTick pacing outcome).service = s.service := by
  rw [endTick, rest_service, record_service]

/-- The end of a tick tells the monitor of its outcome and does nothing else to it. -/
theorem endTick_monitor (outcome : Outcome) :
    (s.endTick pacing outcome).monitor = (s.monitor.record s.invoker.ticks outcome).1 := by
  rw [endTick, rest_monitor, record_monitor]

@[simp] theorem arm_monitor : (s.arm pacing).2.monitor = s.monitor := by
  unfold arm
  split <;> rfl

@[simp] theorem arm_invoker : (s.arm pacing).2.invoker = s.invoker := by
  unfold arm
  split <;> rfl

variable {s}

/-- A tick that ends leaves the invoker running. -/
theorem endTick_running (running : s.invoker.Running) (outcome : Outcome) :
    (s.endTick pacing outcome).invoker.Running := by
  unfold endTick rest
  split
  next => exact ⟨running.phase, running.uninterrupted, Task.noConfusion⟩
  next => exact ⟨running.phase, rfl, Task.noConfusion⟩

/-- To count a tick leaves it running. -/
theorem tick_running (running : s.invoker.Running) : s.tick.invoker.Running :=
  ⟨running.phase, running.uninterrupted, Task.noConfusion⟩

/-- So does the timer of its limit. -/
theorem arm_running (running : s.invoker.Running) : (s.arm pacing).2.invoker.Running := by
  rw [arm_invoker]
  exact running

/-- After a tick the loop delays the next one, or it has come to its end. -/
theorem endTick_task (outcome : Outcome) :
    (s.endTick pacing outcome).invoker.task.isCalling = false := by
  unfold endTick rest
  split <;> rfl

/-- The loop of an invoker that was not cancelled goes on to its delay. -/
theorem proceed_of_running (running : s.invoker.Running) : s.proceed pacing = s.rest pacing := by
  have h : s.invoker.phase ≠ .cancelled := by
    rw [running.phase]
    decide
  rw [proceed, if_neg h]

/-- After a tick the loop goes on if its delay can be counted. -/
theorem endTick_alive {pacing : Pacing} {span : Nat} (counted : pacing.period = .ok span)
    (s : Scene σ) (outcome : Outcome) : (s.endTick pacing outcome).invoker.task.isAlive = true := by
  unfold endTick rest
  rw [counted]
  rfl

end

/-- What the monitor was told, oldest first: the numbers of the calls and what became of them. -/
def told (s : Scene σ) : List (Int × Outcome) := s.log.reverse.filterMap fun e => e.event.outcome?

/-- Of what is logged, the monitor is told the outcomes. -/
theorem note_told (s : Scene σ) (events : List Log.Event) :
    (s.note events).told = s.told ++ events.filterMap Log.Event.outcome? := by
  unfold told note
  rw [List.reverse_append, List.reverse_reverse, List.filterMap_append, List.filterMap_map]
  rfl

/-- To record an outcome is to tell the monitor of it, with the number of the tick. -/
theorem record_told (s : Scene σ) (outcome : Outcome) :
    (s.record outcome).told = s.told ++ [((s.invoker.ticks : Int), outcome)] := by
  unfold record
  rw [note_told, Monitor.record_told]
  rfl

/-- A cancellation is logged, but the monitor is not told of it. -/
theorem cancel_told (s : Scene σ) : s.cancel.told = s.told := by
  unfold cancel
  split
  next => rfl
  next =>
    rw [note_told]
    exact List.append_nil _

section

variable (pacing : Pacing) (s : Scene σ)

/-- Ends a tick with the end of its call. -/
def endCall (e : CallEnd) : Scene σ :=
  match e.answer? with
  | some a => s.conclude pacing a
  | none => s.finish .cancelled

variable {e : CallEnd} {outcome : Outcome}

/-- The loop goes on when the monitor was told. -/
theorem endCall_of_told (told : e.outcome? = some outcome) :
    s.endCall pacing e = (s.record outcome).proceed pacing := by
  unfold CallEnd.outcome? at told
  unfold endCall
  cases answer : e.answer? with
  | none =>
    rw [answer] at told
    cases told
  | some a =>
    rw [answer] at told
    cases a with
    | fault fault =>
      cases told
      rfl
    | cancelled => cases told
    | value v? =>
      cases v? with
      | none => cases told
      | some v =>
        cases told
        rfl

/-- For a running loop the end of a call of which the monitor is told is the end of a tick. -/
theorem endCall_eq_endTick {s : Scene σ} (running : s.invoker.Running)
    (told : e.outcome? = some outcome) :
    s.endCall pacing e = s.endTick pacing outcome :=
  (endCall_of_told pacing s told).trans (proceed_of_running pacing (s := s.record outcome) running)

/-- The loop has come to its end when the monitor was not told. -/
theorem endCall_of_untold (untold : e.outcome? = none) :
    s.endCall pacing e = s.finish e.ending := by
  unfold CallEnd.outcome? at untold
  unfold endCall CallEnd.ending
  cases answer : e.answer? with
  | none => rfl
  | some a =>
    rw [answer] at untold
    cases a with
    | fault fault => cases untold
    | cancelled => rfl
    | value v? =>
      cases v? with
      | none => rfl
      | some v => cases untold

/-- The scene once the monitor is told of the end of a call, if it is told. -/
def tell (e : CallEnd) : Scene σ := (e.outcome?.map s.record).getD s

/-- The end of a call tells the monitor of its outcome, if it has one. -/
theorem tell_told (e : CallEnd) : (s.tell e).told = s.told ++ e.news s.invoker.ticks := by
  unfold tell CallEnd.news
  cases e.outcome? with
  | none => exact (List.append_nil _).symm
  | some outcome => exact s.record_told outcome

theorem tell_service (e : CallEnd) : (s.tell e).service = s.service := by
  unfold tell
  cases e.outcome? <;> rfl

theorem tell_clock (e : CallEnd) : (s.tell e).clock = s.clock := by
  unfold tell
  cases e.outcome? <;> rfl

theorem tell_invoker (e : CallEnd) : (s.tell e).invoker = s.invoker := by
  unfold tell
  cases e.outcome? <;> rfl

/-- A call counts exactly if it has an outcome. -/
theorem tell_invocations (e : CallEnd) :
    (s.tell e).monitor.invocations = s.monitor.invocations + e.outcome?.toList.length := by
  unfold tell
  cases e.outcome? with
  | none => rfl
  | some outcome => exact Monitor.record_invocations _ _ outcome

/-- What becomes of a loop at the end of a tick, and of a cancellation that is on its way. -/
inductive Onward (i : Invoker) : Task → Bool → Prop where
  | rests (wake : Timer) (going : i.phase ≠ .cancelled) : Onward i (.resting wake) i.interrupted
  | ends (how : Ending) : Onward i (.ended how) false

/-- The loop goes on to its delay. It has come to its end if the invoker was cancelled, or if its
delay cannot be counted. -/
theorem proceed_onward : ∃ clock task interrupted,
    s.proceed pacing = { s with clock, invoker := { s.invoker with task, interrupted } } ∧
    Onward s.invoker task interrupted := by
  unfold proceed
  split
  next => exact ⟨_, _, _, rfl, .ends _⟩
  next going =>
    unfold rest
    cases pacing.period with
    | ok span => exact ⟨_, _, _, rfl, .rests _ going⟩
    | error fault => exact ⟨_, _, _, rfl, .ends _⟩

/-- When a tick ends, the monitor is told of it if there is an outcome, and the loop goes on or has
come to its end. -/
theorem endCall_onward (e : CallEnd) : ∃ clock task interrupted,
    s.endCall pacing e = { s.tell e with clock, invoker := { s.invoker with task, interrupted } } ∧
    Onward s.invoker task interrupted := by
  unfold tell
  cases told : e.outcome? with
  | none => exact ⟨_, _, _, endCall_of_untold pacing s told, .ends _⟩
  | some outcome =>
    obtain ⟨clock, task, interrupted, proceeds, onward⟩ := proceed_onward pacing (s.record outcome)
    exact ⟨clock, task, interrupted, (endCall_of_told pacing s told).trans proceeds, onward⟩

@[simp] theorem endCall_service (e : CallEnd) : (s.endCall pacing e).service = s.service := by
  obtain ⟨_, _, _, same, _⟩ := s.endCall_onward pacing e
  rw [same]
  exact s.tell_service e

@[simp] theorem endCall_ticks (e : CallEnd) :
    (s.endCall pacing e).invoker.ticks = s.invoker.ticks := by
  obtain ⟨_, _, _, same, _⟩ := s.endCall_onward pacing e
  rw [same]

@[simp] theorem endCall_phase (e : CallEnd) :
    (s.endCall pacing e).invoker.phase = s.invoker.phase := by
  obtain ⟨_, _, _, same, _⟩ := s.endCall_onward pacing e
  rw [same]

/-- What follows the end of a call, the delay or the end of the loop, tells the monitor nothing. -/
theorem endCall_told (e : CallEnd) :
    (s.endCall pacing e).told = s.told ++ e.news s.invoker.ticks := by
  obtain ⟨_, _, _, same, _⟩ := s.endCall_onward pacing e
  rw [same]
  exact s.tell_told e

/-- Nor does it count. -/
theorem endCall_invocations (e : CallEnd) : (s.endCall pacing e).monitor.invocations
    = s.monitor.invocations + e.outcome?.toList.length := by
  obtain ⟨_, _, _, same, _⟩ := s.endCall_onward pacing e
  rw [same]
  exact s.tell_invocations e

/-- No call is under way after a tick. -/
theorem endCall_idle (e : CallEnd) : (s.endCall pacing e).invoker.task.isCalling = false := by
  obtain ⟨_, _, _, same, onward⟩ := s.endCall_onward pacing e
  rw [same]
  cases onward with
  | rests | ends => rfl

variable {s} in
/-- A loop waits when a tick has ended. -/
theorem endCall_still (e : CallEnd) (sound : s.invoker.Sound) : (s.endCall pacing e).Still := by
  obtain ⟨_, _, _, same, onward⟩ := s.endCall_onward pacing e
  rw [same]
  cases onward with
  | ends how => exact ⟨rfl, Task.noConfusion⟩
  | rests wake going =>
    refine ⟨?_, Task.noConfusion⟩
    cases interrupted : s.invoker.interrupted with
    | false => rfl
    | true => exact absurd (sound.cancelled interrupted) going

/-- A loop whose monitor was not told has come to its end. -/
theorem endCall_ended {e : CallEnd} (untold : e.outcome? = none) :
    (s.endCall pacing e).invoker.task = .ended e.ending := by
  rw [endCall_of_untold pacing s untold]
  rfl

/-- After a tick the loop of an invoker that was not cancelled is alive exactly if the monitor was
told and the delay can be counted. -/
theorem endCall_alive_iff (e : CallEnd) (going : s.invoker.phase ≠ .cancelled) :
    (s.endCall pacing e).invoker.task.isAlive = true ↔
      e.outcome? ≠ none ∧ ∃ span, pacing.period = .ok span := by
  cases told : e.outcome? with
  | none =>
    rw [endCall_ended pacing s told]
    simp [Task.isAlive]
  | some outcome =>
    have going' : (s.record outcome).invoker.phase ≠ .cancelled := going
    rw [endCall_of_told pacing s told, proceed, if_neg going', rest]
    cases pacing.period with
    | ok span => simp [timer, become, Task.isAlive]
    | error fault => simp [finish, Task.isAlive]

/-- After a tick a cancelled loop has come to its end, whether the monitor was told or not. -/
theorem endCall_of_cancelled (e : CallEnd) (cancelled : s.invoker.phase = .cancelled) :
    s.endCall pacing e = (s.tell e).finish (if e.outcome?.isSome then .returned else e.ending) := by
  unfold tell
  cases told : e.outcome? with
  | none => exact endCall_of_untold pacing s told
  | some outcome =>
    have cancelled' : (s.record outcome).invoker.phase = .cancelled := cancelled
    rw [endCall_of_told pacing s told, proceed, if_pos cancelled']
    rfl

variable {s} in

/-- After a call the loop goes on or has come to its end, and it does not miss a cancellation. -/
theorem endCall_sound (e : CallEnd) (alive : s.invoker.task.isAlive = true)
    (sound : s.invoker.Sound) :
    (s.endCall pacing e).invoker.Sound := by
  obtain ⟨_, _, _, same, onward⟩ := s.endCall_onward pacing e
  rw [same]
  cases onward with
  | ends how => exact ⟨fun idle => absurd idle (sound.busy alive), by simp [Task.isAlive]⟩
  | rests wake going =>
    refine ⟨fun idle => absurd idle (sound.busy alive), ?_⟩
    refine ⟨fun interrupted => absurd (sound.cancelled interrupted) going, ?_⟩
    rintro ⟨cancelled, _⟩
    exact absurd cancelled going

end

section

variable (service : Service σ) (pacing : Pacing) (s : Scene σ)

/-- The scene with a tick begun and its call entered, which may have cancelled the invoker. -/
def called : Scene σ :=
  let entered : Scene σ := { (s.tick.arm pacing).2 with service := (service.enter s.service).2 }
  if (service.enter s.service).1.cancelsInvoker then entered.cancel else entered

/-- A call that was entered waits from now on, until its limit if it has one, and until it answers
if it ever does. -/
def waiting (limit : Option Timer) (wait : Wait) : Scene σ :=
  ({ s with clock := (s.clock.waking wait).2 } : Scene σ).become
    (.calling limit (s.clock.waking wait).1)

/-- A call that was entered answers at once, or it waits. If the invoker was cancelled meanwhile, it
is broken off where it waits. -/
def await (limit : Option Timer) : Wait → Scene σ
  | .none => s.answer service pacing
  | .span span =>
    if s.invoker.interrupted then (s.timer span).2.breakOff service pacing limit
    else (s.timer span).2.become (.calling limit (some (s.timer span).1))
  | .forever =>
    if s.invoker.interrupted then s.breakOff service pacing limit
      else s.become (.calling limit none)

/-- To enter a call is to enter the service and then to wait for it. -/
theorem enter_await (limit : Option Timer) :
    let entered : Scene σ := { s with service := (service.enter s.service).2 }
    s.enter service pacing limit
      = (if (service.enter s.service).1.cancelsInvoker then entered.cancel else entered).await
          service pacing limit (service.enter s.service).1.wait := by
  unfold enter
  generalize service.enter s.service = result
  obtain ⟨⟨cancels, wait⟩, state⟩ := result
  cases wait <;> rfl

/-- A call that is not refused is entered. -/
theorem beginCall_called (entered : ∀ fault, pacing.limit ≠ .refused fault) :
    (s.become (.calling none none)).beginCall service pacing
      = (s.called service pacing).await service pacing (s.tick.arm pacing).1
          (service.enter s.service).1.wait := by
  unfold beginCall called arm
  cases limit : pacing.limit with
  | refused fault => exact absurd limit (entered fault)
  | none => exact enter_await service pacing s.tick none
  | within span => exact enter_await service pacing (s.tick.timer span).2 _

/-! How the call ends that a move of the loop ends, if it ends one. -/

def awaitEnd (limit : Option Timer) : Wait → Option CallEnd
  | .none => some (.answered (service.finish s.service).1)
  | .span _ | .forever =>
    if s.invoker.interrupted then some (.broken limit.isSome (service.interrupt s.service).1)
      else none

def beginning : Option CallEnd :=
  match pacing.limit with
  | .refused fault => some (.refused fault)
  | .none | .within _ =>
    (s.called service pacing).awaitEnd service (s.tick.arm pacing).1
      (service.enter s.service).1.wait

def settling : Option CallEnd :=
  match s.invoker.task with
  | .scheduled => if s.invoker.interrupted then none else s.beginning service pacing
  | .calling limit _ =>
    if s.invoker.interrupted then some (.broken limit.isSome (service.interrupt s.service).1)
      else none
  | .absent | .resting _ | .ended _ => none

def firing (t : Timer) : Option CallEnd :=
  match s.invoker.task with
  | .resting _ => ({ s with clock := s.clock.reach t } : Scene σ).beginning service pacing
  | .calling limit _ =>
    if limit = some t then some (.expired (service.interrupt s.service).1)
    else some (.answered (service.finish s.service).1)
  | .absent | .scheduled | .ended _ => none

end

section

variable (service : Service σ) (pacing : Pacing)

/-- How the call that is under way can end, with what the service is left in. -/
inductive Ends (s : Scene σ) : CallEnd → σ → Prop where
  | answered : Ends s (.answered (service.finish s.service).1) (service.finish s.service).2
  | expired : Ends s (.expired (service.interrupt s.service).1) (service.interrupt s.service).2
  | broken (limited : Bool) (interrupted : s.invoker.interrupted = true) :
      Ends s (.broken limited (service.interrupt s.service).1) (service.interrupt s.service).2

/-- A tick that begins, with the end of its call if that ends at once. -/
inductive Begins (s : Scene σ) : Option CallEnd → Scene σ → Prop where
  /-- The limit keeps the call from being entered. -/
  | refused {fault : Fault} (limit : pacing.limit = .refused fault) :
      Begins s (some (.refused fault)) (s.tick.endCall pacing (.refused fault))
  /-- The call waits. -/
  | calls {wait : Wait} (opened : (service.enter s.service).1.wait = wait) (waits : wait ≠ .none)
      (calm : (s.called service pacing).invoker.interrupted = false) :
      Begins s none ((s.called service pacing).waiting (s.tick.arm pacing).1 wait)
  /-- The call does not wait, or it is broken off because it cancelled the invoker. -/
  | callsOnce {e : CallEnd} {state : σ} (clock : Clock)
      (once : (∃ limited a, e = .broken limited a) ∨
        (service.enter s.service).1.wait = .none ∧ clock = (s.called service pacing).clock ∧
          ∃ a, e = .answered a)
      (ends : Ends service (s.called service pacing) e state) :
      Begins s (some e)
        (({ s.called service pacing with clock, service := state } : Scene σ).endCall pacing e)

/-- What a loop can do in one move, with the end of the call that it ends. -/
inductive Goes (s : Scene σ) : Option CallEnd → Scene σ → Prop where
  /-- It keeps waiting. -/
  | waits (still : s.Still) : Goes s none s
  /-- Told of a cancellation between two calls, it comes to its end. -/
  | stops (idle : s.invoker.task.isCalling = false) (interrupted : s.invoker.interrupted = true) :
      Goes s none (s.finish .cancelled)
  | begins {e : Option CallEnd} {s' : Scene σ} (running : s.invoker.Running)
      (alive : s.invoker.task.isAlive = true) (idle : s.invoker.task.isCalling = false)
      (begins : Begins service pacing s e s') : Goes s e s'
  /-- The tick of a call that waited ends with it. -/
  | ends {e : CallEnd} {state : σ} (calling : s.invoker.task.isCalling = true)
      (ends : Ends service s e state) :
      Goes s (some e) (({ s with service := state } : Scene σ).endCall pacing e)

variable {service} {pacing} {s : Scene σ}

/-- A call whose time is up ends with what the service makes of the interruption. -/
theorem runOut_endCall (s : Scene σ) : s.runOut service pacing
    = ({ s with service := (service.interrupt s.service).2 } : Scene σ).endCall pacing
        (.expired (service.interrupt s.service).1) := by
  unfold runOut
  generalize service.interrupt s.service = result
  obtain ⟨a, state⟩ := result
  cases a with
  | none => rfl
  | some a => cases a <;> rfl

/-- So does a call that is cancelled, except that an answer under a limit is not heard. -/
theorem breakOff_endCall (s : Scene σ) (limit : Option Timer) : s.breakOff service pacing limit
    = ({ s with service := (service.interrupt s.service).2 } : Scene σ).endCall pacing
        (.broken limit.isSome (service.interrupt s.service).1) := by
  unfold breakOff
  generalize service.interrupt s.service = result
  obtain ⟨a, state⟩ := result
  cases a with
  | none => cases limit <;> rfl
  | some a => cases limit <;> rfl

/-- A running loop begins a tick. -/
theorem beginCall_begins (s : Scene σ) : Begins service pacing s (s.beginning service pacing)
    ((s.become (.calling none none)).beginCall service pacing) := by
  have called (entered : ∀ fault, pacing.limit ≠ .refused fault) :
      Begins service pacing s
        ((s.called service pacing).awaitEnd service (s.tick.arm pacing).1
          (service.enter s.service).1.wait)
        ((s.become (.calling none none)).beginCall service pacing) := by
    rw [beginCall_called service pacing s entered]
    unfold awaitEnd await
    -- The invoker is told of a cancellation here only if the call itself cancelled it.
    cases interrupted : (s.called service pacing).invoker.interrupted with
    | false =>
      cases wait : (service.enter s.service).1.wait with
      | none => exact .callsOnce _ (.inr ⟨wait, rfl, _, rfl⟩) .answered
      | span span => exact .calls wait Wait.noConfusion interrupted
      | forever => exact .calls wait Wait.noConfusion interrupted
    | true =>
      cases wait : (service.enter s.service).1.wait with
      | none => exact .callsOnce _ (.inr ⟨wait, rfl, _, rfl⟩) .answered
      | span span =>
        simp only [if_true, breakOff_endCall]
        exact .callsOnce ((s.called service pacing).timer span).2.clock (.inl ⟨_, _, rfl⟩)
          (.broken _ interrupted)
      | forever =>
        simp only [if_true, breakOff_endCall]
        exact .callsOnce _ (.inl ⟨_, _, rfl⟩) (.broken _ interrupted)
  unfold beginning
  cases limit : pacing.limit with
  | refused fault =>
    have refuses : (s.become (.calling none none)).beginCall service pacing
        = s.tick.endCall pacing (.refused fault) := by
      unfold beginCall
      rw [limit]
      rfl
    rw [refuses]
    exact .refused limit
  | none => exact called (by simp [limit])
  | within span => exact called (by simp [limit])

/-- Told of a cancellation between two calls, a loop comes to its end. -/
theorem settle_of_idle (interrupted : s.invoker.interrupted = true)
    (alive : s.invoker.task.isAlive = true)
    (idle : s.invoker.task.isCalling = false) : s.settle service pacing = s.finish .cancelled := by
  unfold settle
  rw [interrupted]
  cases task : s.invoker.task with
  | scheduled | resting => rfl
  | calling =>
    rw [task] at idle
    cases idle
  | absent | ended =>
    rw [task] at alive
    cases alive

/-- Told of a cancellation during a call, a loop ends its tick with the call broken off. -/
theorem settle_of_calling {limit wake : Option Timer} (interrupted : s.invoker.interrupted = true)
    (calling : s.invoker.task = .calling limit wake) : s.settle service pacing
      = ({ s with service := (service.interrupt s.service).2 } : Scene σ).endCall pacing
          (.broken limit.isSome (service.interrupt s.service).1) := by
  unfold settle
  rw [calling, interrupted]
  exact breakOff_endCall s limit

/-- Let go on for the first time, a loop begins a tick. -/
theorem settle_begins (scheduled : s.invoker.task = .scheduled)
    (calm : s.invoker.interrupted = false) :
    Begins service pacing s (s.settling service pacing) (s.settle service pacing) := by
  unfold settling settle
  simp only [scheduled, calm, Bool.false_eq_true, if_false]
  exact beginCall_begins s

variable (service pacing) in
/-- Let go on, a loop does one of the things on the list. -/
theorem settle_goes (sound : s.invoker.Sound) :
    Goes service pacing s (s.settling service pacing) (s.settle service pacing) := by
  cases interrupted : s.invoker.interrupted with
  | false =>
    cases task : s.invoker.task with
    | scheduled =>
      have alive : s.invoker.task.isAlive = true := by rw [task]; rfl
      exact .begins (sound.running alive interrupted) alive (by rw [task]; rfl)
        (settle_begins task interrupted)
    | resting | calling | absent | ended =>
      unfold settling settle
      simp only [task, interrupted, Bool.false_eq_true, if_false]
      exact .waits ⟨interrupted, by simp [task]⟩
  | true =>
    have alive := sound.alive interrupted
    cases task : s.invoker.task with
    | scheduled | resting =>
      have idle : s.invoker.task.isCalling = false := by rw [task]; rfl
      rw [settle_of_idle interrupted alive idle]
      unfold settling
      simp only [task, interrupted, if_true]
      exact .stops idle interrupted
    | calling limit wake =>
      rw [settle_of_calling interrupted task]
      unfold settling
      simp only [task, interrupted, if_true]
      exact .ends (by rw [task]; rfl) (.broken _ interrupted)
    | absent | ended =>
      rw [task] at alive
      cases alive

/-- The timer of a delay makes the loop begin a tick. -/
theorem fire_begins {wake : Timer} (resting : s.invoker.task = .resting wake) (t : Timer) :
    Begins service pacing { s with clock := s.clock.reach t } (s.firing service pacing t)
      (s.fire service pacing t) := by
  unfold firing fire
  simp only [resting]
  exact beginCall_begins _

/-- The timer that a call waits for ends the call: either its time is up, or it is the timer of its
answer. -/
theorem fire_ends {limit wake : Option Timer} (calling : s.invoker.task = .calling limit wake)
    (t : Timer) : ∃ e state, s.firing service pacing t = some e ∧
      Ends service { s with clock := s.clock.reach t } e state ∧
      s.fire service pacing t
        = ({ s with clock := s.clock.reach t, service := state } : Scene σ).endCall pacing e := by
  unfold firing fire
  simp only [calling]
  by_cases up : limit = some t
  · simp only [if_pos up, runOut_endCall]
    exact ⟨_, _, rfl, .expired, rfl⟩
  · simp only [if_neg up]
    exact ⟨_, _, rfl, .answered, rfl⟩

variable (service pacing) in
/-- The timer that a loop waits for makes it do one of the things on the list. -/
theorem fire_goes {t : Timer} (sound : s.invoker.Sound) (still : s.Still)
    (next : s.invoker.task.next? = some t) :
    Goes service pacing { s with clock := s.clock.reach t } (s.firing service pacing t)
      (s.fire service pacing t) := by
  cases task : s.invoker.task with
  | absent | scheduled | ended =>
    rw [task] at next
    cases next
  | resting wake =>
    have alive : s.invoker.task.isAlive = true := by rw [task]; rfl
    have idle : s.invoker.task.isCalling = false := by rw [task]; rfl
    exact .begins (sound.running alive still.calm) alive idle (fire_begins task t)
  | calling limit wake =>
    have calling :
      ({ s with clock := s.clock.reach t } : Scene σ).invoker.task.isCalling = true := by
      simp [task, Task.isCalling]
    obtain ⟨e, state, firing, ends, fires⟩ := fire_ends task t
    rw [firing, fires]
    exact .ends calling ends

/-! What a tick that begins changes. -/

/-- A cancellation is put on its way exactly if there is a loop to hear it. -/
theorem cancel_sound (sound : s.invoker.Sound) : s.cancel.invoker.Sound := by
  unfold cancel
  split
  next => exact sound
  next => exact ⟨Phase.noConfusion, by simp [note]⟩

/-- To cancel an invoker leaves it cancelled. -/
theorem cancel_cancelled (s : Scene σ) : s.cancel.invoker.phase = .cancelled := by
  unfold cancel
  split
  next cancelled => exact cancelled
  next => rfl

@[simp] theorem cancel_service (s : Scene σ) : s.cancel.service = s.service := by
  unfold cancel
  split <;> rfl

@[simp] theorem cancel_monitor (s : Scene σ) : s.cancel.monitor = s.monitor := by
  unfold cancel
  split <;> rfl

@[simp] theorem cancel_ticks (s : Scene σ) : s.cancel.invoker.ticks = s.invoker.ticks := by
  unfold cancel
  split <;> rfl

@[simp] theorem cancel_task (s : Scene σ) : s.cancel.invoker.task = s.invoker.task := by
  unfold cancel
  split <;> rfl

/-- To count a tick agrees with what is known of a running invoker. -/
theorem tick_sound (running : s.invoker.Running) : s.tick.invoker.Sound :=
  (tick_running running).sound

variable (service pacing)

/-- A call is entered after one more tick has begun, and the invoker may be cancelled with it. -/
theorem called_cases (s : Scene σ) :
    let entered : Scene σ := { (s.tick.arm pacing).2 with service := (service.enter s.service).2 }
    (s.called service pacing = entered ∧ (service.enter s.service).1.cancelsInvoker = false) ∨
      (s.called service pacing = entered.cancel ∧
        (service.enter s.service).1.cancelsInvoker = true) := by
  unfold called
  cases (service.enter s.service).1.cancelsInvoker with
  | false => exact .inl ⟨rfl, rfl⟩
  | true => exact .inr ⟨rfl, rfl⟩

/-- To set the timer of a limit tells the monitor nothing. -/
theorem arm_told (s : Scene σ) : (s.arm pacing).2.told = s.told := by
  unfold arm
  split <;> rfl

/-- A call belongs to a tick of its own. -/
theorem called_ticks (s : Scene σ) :
    (s.called service pacing).invoker.ticks = s.invoker.ticks + 1 := by
  rcases s.called_cases service pacing with ⟨same, _⟩ | ⟨same, _⟩
  · simp only [same, arm_invoker]
    rfl
  · simp only [same, cancel_ticks, arm_invoker]
    rfl

/-- Before it waits for anything, a call has no timers. -/
theorem called_task (s : Scene σ) :
    (s.called service pacing).invoker.task = .calling none none := by
  rcases s.called_cases service pacing with ⟨same, _⟩ | ⟨same, _⟩
  · simp only [same, arm_invoker]
    rfl
  · simp only [same, cancel_task, arm_invoker]
    rfl

/-- The service was entered once. -/
theorem called_service (s : Scene σ) :
    (s.called service pacing).service = (service.enter s.service).2 := by
  rcases s.called_cases service pacing with ⟨same, _⟩ | ⟨same, _⟩
  · rw [same]
  · rw [same, cancel_service]

/-- The monitor learns of a call when it ends. -/
theorem called_monitor (s : Scene σ) : (s.called service pacing).monitor = s.monitor := by
  rcases s.called_cases service pacing with ⟨same, _⟩ | ⟨same, _⟩
  · simp only [same, arm_monitor]
    rfl
  · simp only [same, cancel_monitor, arm_monitor]
    rfl

/-- So to enter a call tells it nothing. -/
theorem called_told (s : Scene σ) : (s.called service pacing).told = s.told := by
  rcases s.called_cases service pacing with ⟨same, _⟩ | ⟨same, _⟩
  · rw [same]
    exact s.tick.arm_told pacing
  · rw [same, cancel_told]
    exact s.tick.arm_told pacing

/-- A service may cancel its invoker while it is entered, and what is known of the invoker still
agrees. -/
theorem called_sound (running : s.invoker.Running) : (s.called service pacing).invoker.Sound := by
  have armed : (s.tick.arm pacing).2.invoker.Sound := by
    rw [arm_invoker]
    exact tick_sound running
  rcases s.called_cases service pacing with ⟨same, _⟩ | ⟨same, _⟩
  · rw [same]
    exact armed
  · rw [same]
    exact cancel_sound armed

variable {service pacing}

/-- The call of a new tick did not cancel the invoker if no cancellation is on its way. -/
theorem called_going (running : s.invoker.Running)
    (calm : (s.called service pacing).invoker.interrupted = false) :
    (s.called service pacing).invoker.phase = .running := by
  have alive : (s.called service pacing).invoker.task.isAlive = true := by
    rw [called_task]
    rfl
  exact ((called_sound service pacing running).running alive calm).phase

/-- A tick that begins agrees with what is known of a running invoker, however it goes on. -/
theorem Begins.sound {e : Option CallEnd} {s' : Scene σ} (begins : Begins service pacing s e s')
    (running : s.invoker.Running) : s'.invoker.Sound := by
  cases begins with
  | refused => exact endCall_sound pacing _ rfl (tick_sound running)
  | calls opened waits calm =>
    have going := called_going running calm
    refine ⟨?_, ?_⟩
    · intro idle
      cases going.symm.trans idle
    · refine ⟨fun interrupted => absurd (calm.symm.trans interrupted) Bool.noConfusion, ?_⟩
      rintro ⟨cancelled, _⟩
      cases going.symm.trans cancelled
  | callsOnce clock =>
    have alive : (s.called service pacing).invoker.task.isAlive = true := by
      rw [called_task]
      rfl
    exact endCall_sound pacing _ alive (called_sound service pacing running)

/-- It goes on until the loop waits for something. -/
theorem Begins.still {e : Option CallEnd} {s' : Scene σ} (begins : Begins service pacing s e s')
    (running : s.invoker.Running) : s'.Still := by
  cases begins with
  | refused => exact endCall_still pacing _ (tick_sound running)
  | calls opened waits calm => exact ⟨calm, Task.noConfusion⟩
  | callsOnce clock => exact endCall_still pacing _ (called_sound service pacing running)

/-- A loop keeps its invoker sound. -/
theorem Goes.sound {e : Option CallEnd} {s' : Scene σ} (goes : Goes service pacing s e s')
    (sound : s.invoker.Sound) : s'.invoker.Sound := by
  cases goes with
  | waits => exact sound
  | stops idle interrupted =>
    refine ⟨?_, by simp [finish, Task.isAlive]⟩
    intro phase
    cases (sound.cancelled interrupted).symm.trans phase
  | begins running _ idle begins => exact begins.sound running
  | ends calling => exact endCall_sound pacing _ (Task.isAlive_of_isCalling calling) sound

/-- Once it has gone on, a loop waits. -/
theorem Goes.still {e : Option CallEnd} {s' : Scene σ} (goes : Goes service pacing s e s')
    (sound : s.invoker.Sound) : s'.Still := by
  cases goes with
  | waits still => exact still
  | stops => exact ⟨rfl, Task.noConfusion⟩
  | begins running _ idle begins => exact begins.still running
  | ends => exact endCall_still pacing _ sound

end

end Scene

end Drill
