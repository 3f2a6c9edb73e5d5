import Drill.Cluster
import Drill.Proofs.Calls

/-!
# What a loop does to its cluster

A cluster cancels no invoker, and it gives in when a call is broken off. So of all that a loop can
do (`Goes`) there is less for an invoker that calls a cluster and was not cancelled: every move is a
`Turn`, in which a call is entered and waits, or a tick comes to its end. `TickEnd` says how a tick
can end, and `Scene.settleEnd` and `Scene.fireEnd` say it of the scene before the move.

Main statements: `settle_turn` and `fire_turn`, the moves of a running loop are turns, and
`close_eq`, closing the invoker ends its loop and answers no call.
-/

namespace Drill

/-- What one tick of a loop came to. -/
inductive TickEnd where
  /-- The cluster answered the call of this number. -/
  | answered (number : Int) (outcome : Outcome)
  /-- The time of a waiting call was up. -/
  | expired
  /-- The call was not even entered, because of its limit. -/
  | refused (fault : Fault)
deriving DecidableEq

namespace TickEnd

/-- What the monitor is told. -/
def outcome : TickEnd → Outcome
  | answered _ outcome => outcome
  | expired => .failure Limit.exceeded
  | refused fault => .failure fault

end TickEnd

/-- The handle when one more call goes through it. -/
def Handle.opened (h : Handle) : Handle :=
  { h with active := h.active + 1, mostActive := max h.mostActive (h.active + 1) }

/-- The handle when one call less goes through it. -/
def Handle.left (h : Handle) : Handle := { h with active := h.active - 1 }

/-- The handle when it was taken back. -/
def Handle.closed (h : Handle) : Handle := { h with closes := h.closes + 1 }

namespace Cluster

/-- What the call that is answered next comes to. -/
def reply (c : Cluster) : Outcome :=
  match c.answer.1 with
  | .value (some v) => .value v
  | .fault fault => .failure fault
  | .value none | .cancelled => .failure Outcome.ambiguous

/-- What the counter jumps by at the call that is answered next. -/
def jump (c : Cluster) : Int := (c.trouble.jumps.get? (c.calls + 1)).getD 0

/-- A cluster answers with a fault and keeps its counter, or with the counter after its jump. -/
theorem answer_cases (c : Cluster) :
    (∃ fault, c.reply = .failure fault ∧
      c.answer = (.fault fault, { c with calls := c.calls + 1 })) ∨
    (c.reply = .value (c.serial + c.jump) ∧
      c.answer = (.value (some (c.serial + c.jump)),
        { c with calls := c.calls + 1, serial := c.serial + c.jump + 1 })) := by
  have answers : (∃ fault, c.answer = (.fault fault, { c with calls := c.calls + 1 })) ∨
      c.answer = (.value (some (c.serial + c.jump)),
        { c with calls := c.calls + 1, serial := c.serial + c.jump + 1 }) := by
    unfold answer
    dsimp only
    split
    next fault _ => exact .inl ⟨fault, rfl⟩
    next =>
      split
      next => exact .inl ⟨_, rfl⟩
      next =>
        split
        next => exact .inl ⟨_, rfl⟩
        next => exact .inr rfl
  unfold reply
  rcases answers with ⟨fault, h⟩ | h
  · rw [h]
    exact .inl ⟨fault, rfl, rfl⟩
  · rw [h]
    exact .inr ⟨rfl, rfl⟩

/-- The handles with the last one changed. -/
def changeLast (change : Handle → Handle) (handles : List Handle) : List Handle :=
  match handles.getLast? with
  | some handle => handles.dropLast ++ [change handle]
  | none => handles

/-- The last handle of a list is the one at its end. -/
theorem changeLast_concat (change : Handle → Handle) (handles : List Handle) (handle : Handle) :
    changeLast change (handles ++ [handle]) = handles ++ [change handle] := by
  simp [changeLast]

/-- The handle in use is the last one. -/
theorem updateHandle_eq (c : Cluster) (change : Handle → Handle) :
    c.updateHandle change = { c with handles := changeLast change c.handles } := by
  unfold updateHandle changeLast
  cases c.handles.getLast? <;> rfl

/-- The cluster when a call has been entered. -/
def entered (c : Cluster) : Cluster := c.enter.2

/-- The cluster when a call has been answered. -/
def answered (c : Cluster) : Cluster := c.answer.2.leave

/-- To enter a call is counted on the handle in use. -/
theorem entered_eq (c : Cluster) :
    c.entered = { c with handles := changeLast Handle.opened c.handles } :=
  updateHandle_eq _ _

/-- So is to leave it. -/
theorem leave_eq (c : Cluster) : c.leave = { c with handles := changeLast Handle.left c.handles } :=
  updateHandle_eq _ _

/-- Taken back or not, the handle is closed. -/
theorem release_snd (c : Cluster) :
    c.release.2 = { c with handles := changeLast Handle.closed c.handles } := by
  unfold release
  rw [updateHandle_eq]
  dsimp only
  split <;> rfl

/-- A call waits as long as it was ordered to. -/
theorem opened_wait (c : Cluster) :
    (service.enter c).1.wait =
      match c.nextDelay with
      | some span => .span span
      | none => .none := rfl

/-- The monitor is told of the answer of a cluster. -/
theorem answered_told (c : Cluster) :
    (CallEnd.answered (service.finish c).1).outcome? = some c.reply := by
  have answer : (service.finish c).1 = c.answer.1 := rfl
  rcases c.answer_cases with ⟨fault, reply, is⟩ | ⟨reply, is⟩
  · rw [answer, is, reply]
    rfl
  · rw [answer, is, reply]
    rfl

/-- Handles have no part in an answer. -/
theorem answer_handles (c : Cluster) (handles : List Handle) :
    ({ c with handles } : Cluster).answer = (c.answer.1, { c.answer.2 with handles }) := by
  have missing : ({ c with handles } : Cluster).missing = c.missing := rfl
  unfold answer
  dsimp only
  rw [missing]
  split
  next => rfl
  next =>
    split
    next => rfl
    next => split <;> rfl

/-- What a cluster replies does not depend on its handles. -/
theorem reply_handles (c : Cluster) (handles : List Handle) :
    ({ c with handles } : Cluster).reply = c.reply := by
  rw [reply, answer_handles]
  rfl

/-- So to enter the cluster does not change its reply. -/
theorem reply_entered (c : Cluster) : c.entered.reply = c.reply := by
  rw [entered_eq, reply_handles]

/-- An answered call leaves its number behind, and a new counter if it was answered with a value. -/
theorem answered_cases (c : Cluster) :
    (∃ fault, c.reply = .failure fault ∧
      c.answered = { c with calls := c.calls + 1, handles := changeLast Handle.left c.handles }) ∨
    (c.reply = .value (c.serial + c.jump) ∧
      c.answered = { c with
        calls := c.calls + 1
        serial := c.serial + c.jump + 1
        handles := changeLast Handle.left c.handles }) := by
  unfold answered
  rcases c.answer_cases with ⟨fault, hr, ha⟩ | ⟨hr, ha⟩
  · exact .inl ⟨fault, hr, by rw [ha, leave_eq]⟩
  · exact .inr ⟨hr, by rw [ha, leave_eq]⟩

/-- Nothing but calls lies between two states of a cluster. -/
def OnlyCalls (c c' : Cluster) : Prop :=
  ∃ calls serial handles, c' = { c with calls, serial, handles }

theorem OnlyCalls.refl (c : Cluster) : c.OnlyCalls c := ⟨_, _, _, rfl⟩

/-- What only calls have touched may be touched by further calls. -/
theorem OnlyCalls.trans {a b c : Cluster} (ab : a.OnlyCalls b) (bc : b.OnlyCalls c) :
    a.OnlyCalls c := by
  obtain ⟨_, _, _, rfl⟩ := ab
  obtain ⟨_, _, _, rfl⟩ := bc
  exact ⟨_, _, _, rfl⟩

section

variable {c c' : Cluster}

/-- Calls leave all nodes as they are. -/
theorem OnlyCalls.topology (calls : c.OnlyCalls c') : c'.topology = c.topology := by
  obtain ⟨_, _, _, rfl⟩ := calls
  rfl

/-- A call is no request to a node. -/
theorem OnlyCalls.requests (calls : c.OnlyCalls c') : c'.requests = c.requests := by
  obtain ⟨_, _, _, rfl⟩ := calls
  rfl

/-- So it gives no grace period either. -/
theorem OnlyCalls.gracePeriods (calls : c.OnlyCalls c') : c'.gracePeriods = c.gracePeriods := by
  obtain ⟨_, _, _, rfl⟩ := calls
  rfl

end

theorem onlyCalls_entered (c : Cluster) : c.OnlyCalls c.entered := ⟨_, _, _, c.entered_eq⟩

theorem onlyCalls_leave (c : Cluster) : c.OnlyCalls c.leave := ⟨_, _, _, c.leave_eq⟩

theorem onlyCalls_answered (c : Cluster) : c.OnlyCalls c.answered := by
  rcases c.answered_cases with ⟨_, _, h⟩ | ⟨_, h⟩
  · exact ⟨_, _, _, h⟩
  · exact ⟨_, _, _, h⟩

end Cluster

/-- What the end of a call of a cluster is to the tick. -/
def TickEnd.of (c : Cluster) : CallEnd → TickEnd
  | .refused fault => .refused fault
  | .answered _ => .answered (c.calls + 1) c.reply
  | .expired _ | .broken _ _ => .expired

namespace Scene

section

variable (pacing : Pacing) (s : Scene Cluster)

/-- Enters a call that waits for a span. -/
def callOut (span : Nat) : Scene Cluster :=
  let (limit, armed) := s.tick.arm pacing
  let (wake, calling) := ({ armed with service := s.service.entered } : Scene Cluster).timer span
  calling.become (.calling limit (some wake))

/-- A call that is out has entered the cluster and not left it. -/
theorem callOut_service (span : Nat) : (s.callOut pacing span).service = s.service.entered := rfl

/-- The monitor knows nothing of it yet. -/
theorem callOut_monitor (span : Nat) : (s.callOut pacing span).monitor = s.monitor :=
  s.tick.arm_monitor pacing

/-- What the tick that begins now comes to, if it ends at once. -/
def beginEnd : Option TickEnd :=
  match pacing.limit, s.service.nextDelay with
  | .refused fault, _ => some (.refused fault)
  | _, none => some (.answered (s.service.calls + 1) s.service.reply)
  | _, some _ => none

/-- The tick that ends when the loop is next let go on, before any timer fires. -/
def settleEnd : Option TickEnd :=
  match s.invoker.task with
  | .scheduled => s.beginEnd pacing
  | .absent | .calling _ _ | .resting _ | .ended _ => none

/-- The tick that ends when a timer fires. -/
def fireEnd (t : Timer) : Option TickEnd :=
  match s.invoker.task with
  | .resting _ => s.beginEnd pacing
  | .calling limit _ =>
    if limit = some t then some .expired
    else some (.answered (s.service.calls + 1) s.service.reply)
  | .absent | .scheduled | .ended _ => none

/-- A move of a running loop, with the tick that it ends, if it ends one. -/
inductive Turn : Option TickEnd → Scene Cluster → Prop where
  /-- The limit keeps the call from being entered. -/
  | refused {fault : Fault} (idle : s.invoker.task.isCalling = false)
      (limit : pacing.limit = .refused fault) :
      Turn (some (.refused fault)) (s.tick.endTick pacing (.failure fault))
  /-- A call is entered and answered without waiting. -/
  | answeredAtOnce (idle : s.invoker.task.isCalling = false) (delay : s.service.nextDelay = none) :
      Turn (some (.answered (s.service.calls + 1) s.service.reply))
        (({ (s.tick.arm pacing).2 with service := s.service.entered.answered } :
          Scene Cluster).endTick
          pacing s.service.reply)
  /-- A call is entered and waits. -/
  | entered {span : Nat} (idle : s.invoker.task.isCalling = false)
      (delay : s.service.nextDelay = some span) : Turn none (s.callOut pacing span)
  /-- A call that waited is answered. -/
  | answered (calling : s.invoker.task.isCalling = true) :
      Turn (some (.answered (s.service.calls + 1) s.service.reply))
        (({ s with service := s.service.answered } : Scene Cluster).endTick pacing s.service.reply)
  /-- The time of a call that waited is up. -/
  | expired (calling : s.invoker.task.isCalling = true) :
      Turn (some .expired)
        (({ s with service := s.service.leave } : Scene Cluster).endTick pacing
          (.failure Limit.exceeded))

variable {s}

/-! Every move of a loop is on the list of all that a loop can do (`Goes`). A cluster cancels no
invoker and gives in when it is broken off, so for a running loop what is left of the list are the
turns. -/

/-- A cluster cancels no invoker, so none is on its way when a call was entered. -/
theorem not_interrupted_called (running : s.invoker.Running) :
    (s.called Cluster.service pacing).invoker.interrupted = false := by
  have entered : (s.called Cluster.service pacing).invoker = (s.tick.arm pacing).2.invoker := rfl
  rw [entered, arm_invoker]
  exact running.uninterrupted

/-- A tick of a cluster's loop ends as it begins exactly when any loop's does. -/
theorem beginEnd_eq (running : s.invoker.Running) :
    s.beginEnd pacing = (s.beginning Cluster.service pacing).map (.of s.service) := by
  unfold beginEnd beginning
  cases pacing.limit with
  | refused fault => rfl
  | none | within span =>
    have calm := not_interrupted_called pacing running
    simp only [Cluster.opened_wait]
    cases s.service.nextDelay with
    | none => rfl
    | some span => simp only [awaitEnd, calm, Bool.false_eq_true, if_false, Option.map_none]

/-- The same for a loop that is let go on. -/
theorem settleEnd_eq (running : s.invoker.Running) :
    s.settleEnd pacing = (s.settling Cluster.service pacing).map (.of s.service) := by
  unfold settleEnd settling
  rw [running.uninterrupted]
  cases s.invoker.task with
  | scheduled => exact beginEnd_eq pacing running
  | absent | calling | resting | ended => rfl

/-- The same for a timer that fires. -/
theorem fireEnd_eq (running : s.invoker.Running) (t : Timer) :
    s.fireEnd pacing t = (s.firing Cluster.service pacing t).map (.of s.service) := by
  unfold fireEnd firing
  cases s.invoker.task with
  | resting => exact beginEnd_eq pacing (s := { s with clock := s.clock.reach t }) running
  | calling limit _ =>
    by_cases up : limit = some t
    · simp only [if_pos up]
      rfl
    · simp only [if_neg up]
      rfl
  | absent | scheduled | ended => rfl

/-- A tick that begins is a turn, whether it ends at once or not. -/
theorem Begins.turn {e : Option CallEnd} {s' : Scene Cluster} (running : s.invoker.Running)
    (idle : s.invoker.task.isCalling = false) (begins : Begins Cluster.service pacing s e s') :
    Turn pacing s (e.map (.of s.service)) s' := by
  have ticked := tick_running running
  cases begins with
  | @refused fault limit =>
    rw [endCall_eq_endTick pacing ticked rfl]
    exact .refused idle limit
  | calls opens waits =>
    rw [Cluster.opened_wait] at opens
    cases delay : s.service.nextDelay with
    | none =>
      rw [delay] at opens
      exact absurd opens.symm waits
    | some span =>
      rw [delay] at opens
      cases opens
      exact .entered idle delay
  | @callsOnce e state clock once ends =>
    -- A call that is over as soon as it was entered was broken off or waited for nothing; a cluster
    -- breaks nothing off.
    rcases once with ⟨limited, a, rfl⟩ | ⟨none, rfl, a, rfl⟩
    · cases ends with
      | broken _ interrupted => cases (not_interrupted_called pacing running).symm.trans interrupted
    · cases delay : s.service.nextDelay with
      | some span =>
        rw [Cluster.opened_wait, delay] at none
        cases none
      | none =>
        cases ends with
        | answered =>
          have told := Cluster.answered_told s.service.entered
          rw [Cluster.reply_entered] at told
          have ended := endCall_eq_endTick pacing
            (s := { (s.tick.arm pacing).2 with service := s.service.entered.answered })
            (arm_running pacing ticked) told
          exact (congrArg (Turn pacing s _) ended).mpr (.answeredAtOnce idle delay)

/-- So is the end of a call that waited. -/
theorem Ends.turn {e : CallEnd} {c : Cluster} (running : s.invoker.Running)
    (calling : s.invoker.task.isCalling = true) (ends : Ends Cluster.service s e c) :
    Turn pacing s (some (.of s.service e))
      (({ s with service := c } : Scene Cluster).endCall pacing e) := by
  cases ends with
  | answered =>
    have ended := endCall_eq_endTick pacing (s := { s with service := s.service.answered }) running
      (Cluster.answered_told s.service)
    exact (congrArg (Turn pacing s _) ended).mpr (.answered calling)
  | expired =>
    have ended := endCall_eq_endTick pacing (s := { s with service := s.service.leave }) running
      (e := .expired none) rfl
    exact (congrArg (Turn pacing s _) ended).mpr (.expired calling)
  | broken _ interrupted => cases running.uninterrupted.symm.trans interrupted

/-- Let go on, a running loop takes a turn or keeps waiting. -/
theorem settle_turn (running : s.invoker.Running) :
    s.settleEnd pacing = none ∧ s.settle Cluster.service pacing = s ∨
      Turn pacing s (s.settleEnd pacing) (s.settle Cluster.service pacing) := by
  rw [settleEnd_eq pacing running]
  have goes := settle_goes Cluster.service pacing running.sound
  generalize s.settling Cluster.service pacing = e, s.settle Cluster.service pacing = s' at goes
  cases goes with
  | waits => exact .inl ⟨rfl, rfl⟩
  | stops _ interrupted => cases running.uninterrupted.symm.trans interrupted
  | begins _ _ idle begins => exact .inr (begins.turn pacing running idle)
  | ends calling ends => exact .inr (ends.turn pacing running calling)

/-- The timer that a running loop waits for makes it take a turn. -/
theorem fire_turn {t : Timer} (running : s.invoker.Running) (next : s.invoker.task.next? = some t) :
    Turn pacing { s with clock := s.clock.reach t } (s.fireEnd pacing t)
      (s.fire Cluster.service pacing t) := by
  have reached : ({ s with clock := s.clock.reach t } : Scene Cluster).invoker.Running := running
  rw [fireEnd_eq pacing running]
  cases task : s.invoker.task with
  | resting wake => exact (fire_begins task t).turn pacing reached (by simp [task, Task.isCalling])
  | calling limit wake =>
    obtain ⟨e, c, firing, ends, fires⟩ := fire_ends task t
    rw [firing, fires]
    exact ends.turn pacing reached (by simp [task, Task.isCalling])
  | absent | scheduled | ended how =>
    rw [task] at next
    cases next

/-- A loop keeps running from turn to turn. -/
theorem Turn.running {e : Option TickEnd} {s' : Scene Cluster} (turn : Turn pacing s e s')
    (running : s.invoker.Running) : s'.invoker.Running := by
  cases turn with
  | refused => exact endTick_running pacing (tick_running running) _
  | answeredAtOnce =>
    exact endTick_running pacing (s :=
      { (s.tick.arm pacing).2 with service := s.service.entered.answered })
      (arm_running pacing (tick_running running)) _
  | entered =>
    have armed := arm_running pacing (tick_running running)
    exact ⟨armed.phase, armed.uninterrupted, Task.noConfusion⟩
  | answered =>
    exact endTick_running pacing (s := { s with service := s.service.answered }) running _
  | expired => exact endTick_running pacing (s := { s with service := s.service.leave }) running _

/-- While its delay can be counted, a loop that is not cancelled does not come to its end. -/
theorem Turn.alive {e : Option TickEnd} {s' : Scene Cluster} {span : Nat}
    (counted : pacing.period = .ok span) (turn : Turn pacing s e s') :
    s'.invoker.task.isAlive = true := by
  cases turn with
  | entered => rfl
  | refused | answeredAtOnce | answered | expired => exact endTick_alive counted _ _

/-- A turn reaches the cluster through calls only. -/
theorem Turn.onlyCalls {e : Option TickEnd} {s' : Scene Cluster} (turn : Turn pacing s e s') :
    s.service.OnlyCalls s'.service := by
  cases turn with
  | refused =>
    rw [endTick_service]
    exact .refl _
  | answeredAtOnce =>
    rw [endTick_service]
    exact s.service.onlyCalls_entered.trans s.service.entered.onlyCalls_answered
  | entered => exact s.service.onlyCalls_entered
  | answered =>
    rw [endTick_service]
    exact s.service.onlyCalls_answered
  | expired =>
    rw [endTick_service]
    exact s.service.onlyCalls_leave

/-- Closed, a running invoker is cancelled and its loop has ended; a call that waited gives in, and
the monitor hears of nothing. -/
theorem close_eq (running : s.invoker.Running) :
    s.close Cluster.service pacing =
      (ending s.invoker.task,
        { s.cancel with
          service := if s.invoker.task.isCalling then s.service.leave else s.service
          invoker := ⟨.cancelled, s.invoker.ticks, s.invoker.task.cut, false⟩ }) := by
  have going : s.invoker.phase ≠ .cancelled := by
    rw [running.phase]
    decide
  have cancelled : s.cancel.invoker
      = ⟨.cancelled, s.invoker.ticks, s.invoker.task, s.invoker.task.isAlive⟩ := by
    rw [cancel, if_neg going]
    rfl
  have interrupted (alive : s.invoker.task.isAlive = true) :
    s.cancel.invoker.interrupted = true := by
    rw [cancelled]
    exact alive
  unfold close waitClosed
  -- The cancellation reaches the task where it waits, before any timer fires.
  cases task : s.invoker.task with
  | absent => exact absurd task running.started
  | ended how => simp [task, Task.isAlive, Task.isCalling, Task.cut, cancel, going, note]
  | scheduled | resting =>
    have settled : s.cancel.settle Cluster.service pacing = s.cancel.finish .cancelled :=
      settle_of_idle (interrupted (by rw [task]; rfl)) (by rw [cancelled, task]; rfl)
        (by rw [cancelled, task]; rfl)
    simp [cancelled, task, settled, Task.isAlive, Task.isCalling, Task.cut, drain, finish, ending]
  | calling limit wake =>
    have broken : (CallEnd.broken limit.isSome none).outcome? = none := by cases limit <;> rfl
    have settled : s.cancel.settle Cluster.service pacing
        = ({ s.cancel with service := s.cancel.service.leave } : Scene Cluster).finish
          .cancelled := by
      refine (settle_of_calling (interrupted (by rw [task]; rfl)) (by rw [cancelled, task])).trans
        ?_
      refine (endCall_of_untold pacing _ broken).trans ?_
      cases limit <;> rfl
    simp [cancelled, task, settled, Task.isAlive, Task.isCalling, Task.cut, drain, finish, ending]

end

end Scene

end Drill
