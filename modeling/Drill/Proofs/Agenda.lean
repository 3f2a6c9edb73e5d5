import Drill.Proofs.Pulse
import Drill.Proofs.Trail

/-!
# The agenda of an invoker

An invoker that nobody cancels has its whole work laid out from the moment when it makes its first
call: a call is entered when the delay after the one before it is over, and it is over when its
answer comes or its time is up, whichever is first. An `Agenda` says how long the calls wait and how
they end of their own accord, and `Service.Performs` that a service does so. How a call ends makes
no difference to the moments of the later ones, only how long it lasts does.

Main statements: `Moved.fire`, a timer brings the loop to the next moment of its agenda, `On.sleep`,
no moment is missed while others wait, and `agenda_kept`, what this means for calls, ticks and the
monitor after any requests.
-/

namespace Drill

/-- What is planned for an invoker and its service. -/
structure Agenda where
  /-- From the end of one call to the start of the next. -/
  period : Nat
  positive : 1 ≤ period
  /-- The longest that a call may take, if there is a bound. -/
  limit : Option Nat
  /-- How long the calls wait, one after the other. -/
  wait : Nat → Wait
  /-- How they end if they are left alone. -/
  outcome : Nat → Outcome

namespace Agenda

variable (a : Agenda)

/-- The pacing of the agenda, with a delay that is shown in its place. -/
def pacing (shown : Number.Double) : Pacing := ⟨shown, .ok a.period, a.limit.elim .none .within⟩

/-- Does the call answer before its time is up? -/
def inTime (k : Nat) : Bool :=
  match a.wait k, a.limit with
  | .none, _ => true
  | .span _, none => true
  | .span span, some limit => span < limit
  | .forever, _ => false

/-- How long the call lasts, if it is ever over. -/
def lasts (k : Nat) : Option Nat :=
  match a.wait k, a.limit with
  | .none, _ => some 0
  | .span span, none => some span
  | .span span, some limit => some (min span limit)
  | .forever, limit => limit

/-- What becomes of the call. -/
def result (k : Nat) : Outcome := if a.inTime k then a.outcome k else .failure Limit.exceeded

/-- The moment when the call is entered, if the calls before it are ever over. -/
def opens (base : Nat) : Nat → Option Nat
  | 0 => some base
  | k + 1 => (opens base k).bind fun t => (a.lasts k).map fun span => t + span + a.period

/-- The moment when the call is over. -/
def closes (base k : Nat) : Option Nat := (a.opens base k).bind fun t => (a.lasts k).map (t + ·)

/-- What the monitor is told of the call, and when. -/
def telling (base k : Nat) : Option (Nat × Int × Outcome) :=
  (a.closes base k).map (·, (k : Int) + 1, a.result k)

theorem opens_succ (base k : Nat) :
    a.opens base (k + 1) = (a.closes base k).map (· + a.period) := by
  unfold closes
  rw [opens, Option.map_bind]
  refine congrArg _ (funext fun t => ?_)
  rw [Function.comp_apply, Option.map_map]
  rfl

/-- No call is over before it is entered. -/
theorem opens_le_closes {base k opened closed : Nat} (opens : a.opens base k = some opened)
    (closes : a.closes base k = some closed) : opened ≤ closed := by
  unfold Agenda.closes at closes
  rw [opens, Option.bind_some] at closes
  obtain ⟨span, _, rfl⟩ := Option.map_eq_some_iff.mp closes
  exact Nat.le_add_right opened span

section

variable {σ : Type} (service : Service σ) (state : σ)

/-- What the service is in before the call. -/
def before : Nat → σ
  | 0 => state
  | k + 1 =>
    if a.inTime k then (service.finish (service.enter (before k)).2).2
    else (service.interrupt (service.enter (before k)).2).2

/-- What the service is in during the call. -/
def inside (k : Nat) : σ := (service.enter (a.before service state k)).2

end

end Agenda

/-- The calls of the service do as planned. None cancels the invoker, and those whose time is up
give in. -/
structure Service.Performs {σ : Type} (service : Service σ) (a : Agenda) (state : σ) : Prop where
  enters : ∀ k, (service.enter (a.before service state k)).1 = ⟨false, a.wait k⟩
  answers : ∀ k, a.inTime k = true → (service.finish (a.inside service state k)).1.outcome? =
    some (a.outcome k)
  givesIn : ∀ k, a.inTime k = false → ∀ answer,
    (service.interrupt (a.inside service state k)).1 = some answer → answer = .cancelled

/-- The answer that has an outcome. -/
def Answer.of : Outcome → Answer
  | .value v => .value (some v)
  | .failure f => .fault f

theorem Answer.outcome?_of (outcome : Outcome) : (Answer.of outcome).outcome? = some outcome := by
  cases outcome <;> rfl

namespace Scene

variable {σ : Type}

/-- A running loop that is told of the end of a call begins its delay. -/
theorem endCall_of_running {pacing : Pacing} {s : Scene σ} {e : CallEnd} {outcome : Outcome}
    (running : s.invoker.Running) (told : e.outcome? = some outcome) :
    s.endCall pacing e = s.endTick pacing outcome := by
  have recorded : (s.record outcome).invoker.Running := running
  rw [endCall_of_told pacing s told, proceed_of_running pacing recorded]
  rfl

end Scene

namespace Agenda

open Scene

variable {σ : Type} {a : Agenda} {service : Service σ} {state : σ} {base : Nat}
    {shown : Number.Double}
  {first : List (Nat × Int × Outcome)} {s s' : Scene (Watched σ)} {m : Nat}

variable (a service state base) in
/-- Where a loop stands on its agenda when so many calls are over. -/
inductive Stage (s : Scene (Watched σ)) : Nat → Prop where
  | upcoming (task : s.invoker.task = .scheduled) (now : s.clock.now = base)
      (entered : s.service.entered = 0)
      (here : s.service.state = state) : Stage s 0
  | calls {m : Nat} {limit wake : Option Timer} (task : s.invoker.task = .calling limit wake)
      (entered : s.service.entered = m + 1) (here : s.service.state = a.inside service state m)
      (due : (Task.calling limit wake).next?.map Timer.due = a.closes base m)
      (up : ∀ t, (Task.calling limit wake).next? = some t → (limit = some t ↔ a.inTime m = false)) :
        Stage s m
  | rests {m : Nat} {wake : Timer} (task : s.invoker.task = .resting wake)
      (entered : s.service.entered = m + 1)
      (here : s.service.state = a.before service state (m + 1))
      (due : a.opens base (m + 1) = some wake.due) : Stage s (m + 1)

variable (a service state base first) in
/-- The loop keeps to its agenda, and the monitor was told of the calls that are over. -/
structure On (s : Scene (Watched σ)) (m : Nat) : Prop where
  running : s.invoker.Running
  ahead : s.Ahead
  ticks : s.invoker.ticks = s.service.entered
  told : s.tellings.map some = first.map some ++ (List.range m).map (a.telling base)
  stage : Stage a service state base s m

variable (a service state base first) in
/-- A move of the loop that takes no time. It enters at most one call, and it ends in a delay unless
it begins a call. -/
structure Moved (s s' : Scene (Watched σ)) : Prop where
  on : ∃ m, On a service state base first s' m
  enters : Enters (a.opens base) s s'
  now : s'.clock.now = s.clock.now
  begun : 1 ≤ s'.service.entered
  delays : s.invoker.task.isCalling = true ∨ s'.invoker.task.isCalling = false →
    ∀ t, s'.invoker.task.next? = some t → s.clock.now + 1 ≤ t.due

/-- The end of a call is told in time, and the delay leads to the next call. -/
theorem Moved.endTick (running : s.invoker.Running) (ticks : s.invoker.ticks = m + 1)
    (entered : s.service.entered = m + 1) (here : s.service.state = a.before service state (m + 1))
    (told : s.tellings.map some = first.map some ++ (List.range m).map (a.telling base))
    (closes : a.closes base m = some s.clock.now) (shown : Number.Double) :
    Moved a service state base first s (s.endTick (a.pacing shown) (a.result m)) := by
  have counted : (a.pacing shown).period = .ok a.period := rfl
  obtain ⟨wake, task, due⟩ := endTick_resting counted s (a.result m)
  have telling : a.telling base m = some (s.clock.now, ((m + 1 : Nat) : Int), a.result m) := by
    unfold Agenda.telling
    rw [closes]
    rfl
  -- The delay is positive, so nothing is due in the moment in which the call ends.
  have later (t : Timer)
    (next : (s.endTick (a.pacing shown) (a.result m)).invoker.task.next? = some t) :
      s.clock.now + 1 ≤ t.due := by
    rw [task] at next
    cases next
    rw [due]
    exact Nat.add_le_add_left a.positive _
  have on : On a service state base first (s.endTick (a.pacing shown) (a.result m)) (m + 1) := {
    running := endTick_running _ running _
    ahead := by
      intro t next
      rw [endTick_now]
      exact Nat.le_of_succ_le (later t next)
    ticks := by
      rw [endTick_service, entered]
      exact ticks
    told := by
      have same : (s.endTick (a.pacing shown) (a.result m)).tellings =
        (s.record (a.result m)).tellings := rfl
      rw [same, record_tellings, List.map_append, told, ticks, List.range_succ, List.map_append,
        List.append_assoc, List.map_singleton, List.map_singleton, telling]
    stage := by
      refine .rests task ?_ ?_ ?_
      · rw [endTick_service, entered]
      · rw [endTick_service, here]
      · rw [opens_succ, closes, due]
        rfl }
  refine ⟨⟨_, on⟩, .inl (by rw [endTick_service]), endTick_now s _, ?_, fun _ => later⟩
  rw [endTick_service, entered]
  exact Nat.le_add_left 1 m

section

variable (performs : service.Performs a state) (running : s.invoker.Running)
    (ticks : s.invoker.ticks = m + 1)
  (entered : s.service.entered = m + 1) (here : s.service.state = a.inside service state m)
  (told : s.tellings.map some = first.map some ++ (List.range m).map (a.telling base))
  (closes : a.closes base m = some s.clock.now)

include performs running ticks entered here told closes

/-- The call answers in time. -/
theorem Moved.answer (inTime : a.inTime m = true) (shown : Number.Double) :
    Moved a service state base first s
      (s.answer service.watched (a.pacing shown)) ∧
    (s.answer service.watched (a.pacing shown)).service.entered = s.service.entered := by
  have outcome :
    (CallEnd.answered (service.watched.finish s.service).1).outcome? = some (a.result m) := by
    show (service.finish s.service.state).1.outcome? = _
    rw [here, performs.answers m inTime, Agenda.result, if_pos inTime]
  have left : ({ s with service := (service.watched.finish s.service).2 } :
    Scene (Watched σ)).service.state
      = a.before service state (m + 1) := by
    show (service.finish s.service.state).2 = _
    rw [here, before, if_pos inTime]
    rfl
  have answered : ({ s with service := (service.watched.finish s.service).2 } : Scene (Watched σ)
      ).invoker.Running := running
  have same : s.answer service.watched (a.pacing shown)
      = ({ s with service := (service.watched.finish s.service).2 } : Scene (Watched σ)).endTick
          (a.pacing shown) (a.result m) := endCall_of_running answered outcome
  obtain ⟨on, enters, now, begun, delays⟩ :=
    Moved.endTick answered ticks entered left told closes shown
  rw [same, endTick_service]
  exact ⟨⟨on, enters, now, begun, delays⟩, rfl⟩

/-- The call gives in when its time is up. -/
theorem Moved.runOut (late : a.inTime m = false) (shown : Number.Double) :
    Moved a service state base first s (s.runOut service.watched (a.pacing shown)) := by
  have outcome :
    (CallEnd.expired (service.watched.interrupt s.service).1).outcome? = some (a.result m) := by
    have givesIn := performs.givesIn m late
    rw [← here] at givesIn
    show (CallEnd.expired (service.interrupt s.service.state).1).outcome? = _
    rw [Agenda.result, late]
    cases gave : (service.interrupt s.service.state).1 with
    | none => rfl
    | some answer =>
      rw [givesIn answer gave]
      rfl
  have left : ({ s with service := (service.watched.interrupt s.service).2 } :
    Scene (Watched σ)).service.state
      = a.before service state (m + 1) := by
    show (service.interrupt s.service.state).2 = _
    rw [here, before, late]
    rfl
  have recorded : ({ s with service := (service.watched.interrupt s.service).2 } : Scene (Watched σ)
      ).invoker.Running := running
  obtain ⟨on, enters, now, begun, delays⟩ :=
    Moved.endTick recorded ticks entered left told closes shown
  rw [runOut_endCall, endCall_of_running recorded outcome]
  exact ⟨on, enters, now, begun, delays⟩

end

/-- Of the timers of a call that waits, the one that fires first says how long the call lasts and
whether it answers in time. The timer of the limit was set first. -/
theorem next_of_call {k span now set serial : Nat} (wait : a.wait k = .span span)
    (order : a.limit ≠ none → set < serial) :
    let limit := a.limit.map fun limit => ⟨now + limit, set⟩
    (Task.calling limit (some ⟨now + span, serial⟩)).next?.map Timer.due =
      (a.lasts k).map (now + ·) ∧
      ∀ t, (Task.calling limit (some ⟨now + span, serial⟩)).next? = some t →
        (limit = some t ↔ a.inTime k = false) := by
  unfold Agenda.lasts Agenda.inTime
  rw [wait]
  generalize a.limit = limit? at order ⊢
  cases limit? with
  | none => simp [Task.next?]
  | some limit =>
    have apart : set ≠ serial := Nat.ne_of_lt (order (Option.some_ne_none _))
    by_cases early : span < limit
    · have before : (⟨now + span, serial⟩ : Timer).Before ⟨now + limit, set⟩ :=
        .inl (by simpa using early)
      simp [Task.next?, before, early, Nat.min_eq_left (Nat.le_of_lt early), apart]
    · have late : ¬ (⟨now + span, serial⟩ : Timer).Before ⟨now + limit, set⟩ := by
        have later := order (Option.some_ne_none _)
        unfold Timer.Before
        dsimp only
        omega
      simp [Task.next?, late, early, Nat.min_eq_right (Nat.le_of_not_lt early)]

/-- A call that hangs is over when its time is up. -/
theorem next_of_hanging {k now set : Nat} (wait : a.wait k = .forever) :
    let limit := a.limit.map fun limit => ⟨now + limit, set⟩
    (Task.calling limit none).next?.map Timer.due = (a.lasts k).map (now + ·) ∧
      ∀ t, (Task.calling limit none).next? = some t → (limit = some t ↔ a.inTime k = false) := by
  unfold Agenda.lasts Agenda.inTime
  rw [wait]
  cases a.limit with
  | none => simp [Task.next?]
  | some limit => simp [Task.next?]

/-- A call of the agenda is entered: its limit is set, and nothing else has changed. -/
theorem called_of_performs (performs : service.Performs a state)
    (here : s.service.state = a.before service state m) (shown : Number.Double) :
    ∃ set, (s.tick.arm (a.pacing shown)).1 = a.limit.map (fun limit => ⟨s.clock.now + limit, set⟩) ∧
      (s.called service.watched (a.pacing shown)).service
        = ⟨a.inside service state m, s.service.entered + 1, s.service.left⟩ ∧
      (s.called service.watched (a.pacing shown)).clock.now = s.clock.now ∧
      (s.called service.watched (a.pacing shown)).invoker = s.tick.invoker ∧
      (s.called service.watched (a.pacing shown)).tellings = s.tellings ∧
      (a.limit ≠ none → set < (s.called service.watched (a.pacing shown)).clock.set) := by
  have enters := performs.enters m
  have calm : (service.watched.enter s.service).1.cancelsInvoker = false := by
    show (service.enter s.service.state).1.cancelsInvoker = false
    rw [here, enters]
  have inside : (service.watched.enter s.service).2
      = ⟨a.inside service state m, s.service.entered + 1, s.service.left⟩ := by
    show (⟨(service.enter s.service.state).2, _, _⟩ : Watched σ) = _
    rw [here]
    rfl
  have called : s.called service.watched (a.pacing shown)
      = { (s.tick.arm (a.pacing shown)).2 with
          service := (service.watched.enter s.service).2 } := by
    unfold Scene.called
    rw [calm]
    rfl
  rw [called, inside]
  unfold Agenda.pacing Scene.arm
  refine ⟨s.clock.set, ?_⟩
  cases a.limit with
  | none => exact ⟨rfl, rfl, rfl, rfl, rfl, fun some => absurd rfl some⟩
  | some limit => exact ⟨rfl, rfl, rfl, rfl, rfl, fun _ => Nat.lt_succ_self _⟩

/-- A call that has begun and waits is on the agenda, if its timers say how long it lasts. -/
theorem On.calls (running : s.invoker.Running) (ticks : s.invoker.ticks = m + 1)
    (entered : s.service.entered = m + 1)
    (here : s.service.state = a.inside service state m)
    (told : s.tellings.map some = first.map some ++ (List.range m).map (a.telling base))
    (closes : a.closes base m = (a.lasts m).map (s.clock.now + ·)) {limit wake : Option Timer}
    (timers : (Task.calling limit wake).next?.map Timer.due = (a.lasts m).map (s.clock.now + ·) ∧
      ∀ t, (Task.calling limit wake).next? = some t →
        (limit = some t ↔ a.inTime m = false)) (set : Nat) :
    On a service state base first
      (({ s with clock := ⟨s.clock.now, set⟩ } : Scene (Watched σ)).become (.calling limit wake))
        m := by
  obtain ⟨due, up⟩ := timers
  refine ⟨⟨running.phase, running.uninterrupted, Task.noConfusion⟩, ?_,
    ticks.trans entered.symm, told, .calls rfl entered here (due.trans closes.symm) up⟩
  intro t next
  have since : (Task.calling limit wake).next? = some t := next
  rw [since] at due
  obtain ⟨span, _, sum⟩ := Option.map_eq_some_iff.mp due.symm
  show s.clock.now ≤ t.due
  rw [← sum]
  exact Nat.le_add_right _ _

/-- A loop that was idle and has entered a call that waits has moved, if the timers say how long the
call lasts. -/
theorem Moved.calls (idle : s.invoker.task.isCalling = false) (enters : Enters (a.opens base) s s')
    (now : s'.clock.now = s.clock.now) (running : s'.invoker.Running)
    (ticks : s'.invoker.ticks = m + 1)
    (entered : s'.service.entered = m + 1) (here : s'.service.state = a.inside service state m)
    (told : s'.tellings.map some = first.map some ++ (List.range m).map (a.telling base))
    (closes : a.closes base m = (a.lasts m).map (s'.clock.now + ·)) {limit wake : Option Timer}
    (timers : (Task.calling limit wake).next?.map Timer.due = (a.lasts m).map (s'.clock.now + ·) ∧
      ∀ t, (Task.calling limit wake).next? = some t →
        (limit = some t ↔ a.inTime m = false)) (set : Nat) :
    Moved a service state base first s
      (({ s' with clock := ⟨s'.clock.now, set⟩ } : Scene (Watched σ)).become
        (.calling limit wake)) := by
  refine ⟨⟨m, .calls running ticks entered here told closes timers set⟩, enters, now, ?_, ?_⟩
  · show 1 ≤ s'.service.entered
    rw [entered]
    exact Nat.le_add_left 1 m
  · rintro (calling | rests)
    · rw [idle] at calling
      cases calling
    · cases rests

/-- The next call of the agenda begins. -/
theorem Moved.begin (performs : service.Performs a state) (running : s.invoker.Running)
    (idle : s.invoker.task.isCalling = false) (ticks : s.invoker.ticks = m)
    (entered : s.service.entered = m)
    (here : s.service.state = a.before service state m) (due : a.opens base m = some s.clock.now)
    (told : s.tellings.map some = first.map some ++ (List.range m).map (a.telling base))
    (shown : Number.Double) :
    Moved a service state base first s
      ((s.become (.calling none none)).beginCall service.watched (a.pacing shown)) := by
  have unrefused (fault : Fault) : (a.pacing shown).limit ≠ .refused fault := by
    unfold Agenda.pacing
    cases a.limit <;> exact Limit.noConfusion
  -- First the scene in which the service has just been entered.
  obtain ⟨set, armed, inside, now, invoker, tellings, order⟩ :=
    called_of_performs performs here shown
  have wait : (service.watched.enter s.service).1.wait = a.wait m := by
    show (service.enter s.service.state).1.wait = a.wait m
    rw [here, performs.enters]
  have calm : (s.called service.watched (a.pacing shown)).invoker.interrupted = false := by
    rw [invoker]
    exact running.uninterrupted
  have called : (s.called service.watched (a.pacing shown)).invoker.Running := by
    rw [invoker]
    exact tick_running running
  have ticked : (s.called service.watched (a.pacing shown)).invoker.ticks = m + 1 := by
    rw [invoker, ← ticks]
    rfl
  rw [beginCall_called service.watched _ s unrefused, armed, wait, ← now]
  generalize s.called service.watched (a.pacing shown) = c at *
  have one : c.service.entered = m + 1 := by rw [inside, entered]
  have enters {s' : Scene (Watched σ)} (same : s'.service.entered = c.service.entered)
      (still : s'.clock.now = c.clock.now) : Enters (a.opens base) s s' := by
    refine .inr ⟨by rw [same, one, entered], ?_⟩
    rw [entered, due, still, now]
  have closes : a.closes base m = (a.lasts m).map (c.clock.now + ·) := by
    unfold Agenda.closes
    rw [due, now]
    rfl
  have here' : c.service.state = a.inside service state m := by rw [inside]
  have told' : c.tellings.map some = first.map some ++ (List.range m).map (a.telling base) := by
    rw [tellings, told]
  -- How long the call waits decides whether its tick ends at once.
  cases wait' : a.wait m with
  | none =>
    have inTime : a.inTime m = true := by
      unfold Agenda.inTime
      rw [wait']
    have closing : a.closes base m = some c.clock.now := by
      rw [closes, Agenda.lasts, wait']
      rfl
    -- A call that waits for nothing is answered before any timer is set.
    obtain ⟨moved, same⟩ := Moved.answer performs called ticked one here' told' closing inTime shown
    have calling : c.invoker.task.isCalling = true := by
      rw [invoker]
      rfl
    refine ⟨moved.on, enters same moved.now, moved.now.trans now, moved.begun, fun _ => ?_⟩
    rw [← now]
    exact moved.delays (.inl calling)
  | span span =>
    unfold await
    rw [calm]
    exact .calls idle (enters rfl rfl) now called ticked one here' told' closes
      (next_of_call wait' order)
      (c.clock.set + 1)
  | forever =>
    unfold await
    rw [calm]
    exact .calls idle (enters rfl rfl) now called ticked one here' told' closes
      (next_of_hanging wait') c.clock.set

/-! The moves of a loop that keeps to its agenda. -/

section

variable (on : On a service state base first s m)

include on

/-- What another timer or another moment is no matter for keeps the loop on its agenda. -/
theorem On.reclock (begun : 1 ≤ s.service.entered) {clock : Clock}
    (ahead : ∀ t, s.invoker.task.next? = some t → clock.now ≤ t.due) :
    On a service state base first { s with clock } m where
  running := on.running
  ahead := ahead
  ticks := on.ticks
  told := on.told
  stage := by
    cases on.stage with
    | upcoming _ _ entered =>
      rw [entered] at begun
      cases begun
    | calls task entered here due up => exact .calls task entered here due up
    | rests task entered here due => exact .rests task entered here due

theorem On.timer (span : Nat) : On a service state base first (s.timer span).2 m where
  running := on.running
  ahead := on.ahead
  ticks := on.ticks
  told := on.told
  stage := by
    cases on.stage with
    | upcoming task now entered here => exact .upcoming task now entered here
    | calls task entered here due up => exact .calls task entered here due up
    | rests task entered here due => exact .rests task entered here due

/-- What is left of the agenda is not yet due. -/
theorem On.left : (m = s.service.entered ∨ m + 1 = s.service.entered) ∧
    (∀ t, a.opens base s.service.entered = some t → s.clock.now ≤ t) ∧
    (∀ t, a.closes base m = some t → s.clock.now ≤ t) := by
  have closes {k opened : Nat} (opens : a.opens base k = some opened)
    (early : s.clock.now ≤ opened) :
      ∀ t, a.closes base k = some t → s.clock.now ≤ t :=
    fun t closed => Nat.le_trans early (a.opens_le_closes opens closed)
  cases on.stage with
  | upcoming _ now entered =>
    have opens : a.opens base 0 = some s.clock.now := congrArg some now.symm
    rw [entered, opens]
    refine ⟨.inl rfl, ?_, closes opens (Nat.le_refl _)⟩
    rintro t ⟨⟩
    exact Nat.le_refl _
  | @calls m limit wake task entered _ due =>
    have later (t : Nat) (closed : a.closes base m = some t) : s.clock.now ≤ t := by
      rw [closed] at due
      obtain ⟨timer, next, rfl⟩ := Option.map_eq_some_iff.mp due
      exact on.ahead timer (by rw [task]; exact next)
    rw [entered]
    refine ⟨.inr rfl, fun t opened => ?_, later⟩
    rw [opens_succ] at opened
    obtain ⟨closed, closes, rfl⟩ := Option.map_eq_some_iff.mp opened
    exact Nat.le_add_right_of_le (later closed closes)
  | @rests m wake task entered _ due =>
    have early : s.clock.now ≤ wake.due := on.ahead wake (by rw [task]; rfl)
    rw [entered, due]
    refine ⟨.inl rfl, ?_, closes due early⟩
    rintro t ⟨⟩
    exact early

variable (performs : service.Performs a state) (shown : Number.Double)

include performs

/-- Let go on, the loop enters the first call of its agenda, or it keeps waiting. -/
theorem On.settle :
    (∃ m, On a service state base first (s.settle service.watched (a.pacing shown)) m) ∧
    Enters (a.opens base) s (s.settle service.watched (a.pacing shown)) ∧
    (s.settle service.watched (a.pacing shown)).clock.now = s.clock.now ∧
    1 ≤ (s.settle service.watched (a.pacing shown)).service.entered := by
  have calm := on.running.uninterrupted
  have told := on.told
  unfold Scene.settle
  cases on.stage with
  | upcoming task now entered here =>
    have due : a.opens base 0 = some s.clock.now := congrArg some now.symm
    have idle : s.invoker.task.isCalling = false := by
      rw [task]
      rfl
    obtain ⟨on', enters, still, begun, _⟩ :=
      Moved.begin performs on.running idle (on.ticks.trans entered) entered here due told shown
    rw [task, calm]
    exact ⟨on', enters, still, begun⟩
  | calls task entered | rests task entered =>
    have begun : 1 ≤ s.service.entered := by
      rw [entered]
      exact Nat.le_add_left 1 _
    rw [task, calm]
    exact ⟨⟨_, on⟩, .inl rfl, rfl, begun⟩

/-- A timer brings the loop to the next moment of its agenda. -/
theorem Moved.fire {t : Timer} (next : s.invoker.task.next? = some t) :
    Moved a service state base first { s with clock := s.clock.reach t }
      (s.fire service.watched (a.pacing shown) t) := by
  have told := on.told
  have ticks := on.ticks
  have running : ({ s with clock := s.clock.reach t } : Scene (Watched σ)).invoker.Running :=
    on.running
  unfold Scene.fire
  cases on.stage with
  | upcoming task =>
    rw [task] at next
    cases next
  | @calls m limit wake task entered here due up =>
    rw [task] at next
    rw [next] at due
    have ticked := ticks.trans entered
    simp only [task]
    -- Of the two timers of a call the limit's fires exactly if the call is out of time.
    by_cases late : limit = some t
    · rw [if_pos late]
      exact Moved.runOut performs running ticked entered here told due.symm
        ((up t next).mp late) shown
    · have inTime : a.inTime m = true :=
        eq_true_of_ne_false fun unanswered => late ((up t next).mpr unanswered)
      rw [if_neg late]
      exact (Moved.answer performs running ticked entered here told due.symm inTime shown).1
  | rests task entered here due =>
    rw [task] at next
    cases next
    have idle : ({ s with clock := s.clock.reach t } : Scene (Watched σ)).invoker.task.isCalling =
      false := by
      simp [task, Task.isCalling]
    simp only [task]
    exact Moved.begin performs running idle (ticks.trans entered) entered here due told shown

/-- With every timer that fires up to the goal there is one less to fire. -/
theorem Moved.owed {t : Timer} (next : s.invoker.task.next? = some t) {goal : Nat}
    (due : t.due ≤ goal) :
    (s.fire service.watched (a.pacing shown) t).invoker.task.owed goal + 1 ≤
    s.invoker.task.owed goal := by
  obtain ⟨⟨_, on'⟩, _, now, _, delays⟩ := Moved.fire on performs shown next
  have call : s.invoker.task.isCalling.toNat ≤ 1 := Bool.toNat_le _
  rw [Task.owed_of_next next]
  cases next' : (s.fire service.watched (a.pacing shown) t).invoker.task.next? with
  | none =>
    rw [Task.owed_of_none next']
    omega
  | some t' =>
    have ahead : t.due ≤ t'.due := by
      have since := on'.ahead t' next'
      rw [now] at since
      exact since
    rw [Task.owed_of_next next']
    cases before : s.invoker.task.isCalling with
    | true =>
      have later : t.due + 1 ≤ t'.due := delays (.inl before) t' next'
      rw [Bool.toNat_true]
      omega
    | false =>
      cases after : (s.fire service.watched (a.pacing shown) t).invoker.task.isCalling with
      | true =>
        rw [Bool.toNat_true, Bool.toNat_false]
        omega
      | false =>
        have later : t.due + 1 ≤ t'.due := delays (.inr after) t' next'
        rw [Bool.toNat_false]
        omega

end

/-- An invoker that is started for the first time has its whole agenda before it. -/
theorem On.begun (a : Agenda) (service : Service σ) {s : Scene (Watched σ)}
    (fresh : s.invoker = .fresh)
    (unused : s.service = ⟨state, 0, 0⟩) (shown : Number.Double) :
    On a service state s.clock.now s.tellings (s.begun (a.pacing shown)) 0 where
  running := by
    unfold Scene.begun
    rw [fresh]
    exact ⟨rfl, rfl, Task.noConfusion⟩
  ahead t next := by cases next
  ticks := by
    show s.invoker.ticks = s.service.entered
    rw [fresh, unused]
    rfl
  told := by
    unfold Scene.begun
    rw [note_tellings]
    simp [tellings, Log.Event.outcome?]
  stage := .upcoming rfl rfl (congrArg Watched.entered unused) (congrArg Watched.state unused)

variable (a service state base first) in
/-- A row of steps from one scene to another keeps to the agenda. -/
def Leads (s : Scene (Watched σ)) (path : List (Scene (Watched σ)))
    (s' : Scene (Watched σ)) : Prop :=
  Along (Enters (a.opens base)) s path s' ∧ (∃ m, On a service state base first s' m) ∧
    1 ≤ s'.service.entered

theorem Leads.cons {path : List (Scene (Watched σ))} {s'' : Scene (Watched σ)}
    (enters : Enters (a.opens base) s s')
    (leads : Leads a service state base first s' path s'') :
    Leads a service state base first s (s' :: path) s'' :=
  ⟨.cons enters leads.1, leads.2⟩

section

variable (performs : service.Performs a state) (shown : Number.Double)

include performs

/-- No moment of the agenda is missed until the timer of someone else fires. -/
theorem On.advance (goal : Timer) (fuel : Nat) {s : Scene (Watched σ)} {m : Nat}
    (on : On a service state base first s m) (begun : 1 ≤ s.service.entered)
    (enough : s.invoker.task.owed goal.due ≤ fuel) :
    Leads a service state base first s (s.advancing service.watched (a.pacing shown) goal fuel)
      (s.advance service.watched (a.pacing shown) goal fuel) := by
  -- Where no timer is due any more, the clock may go to the goal.
  have reaches {s : Scene (Watched σ)} {m : Nat} (on : On a service state base first s m)
      (begun : 1 ≤ s.service.entered)
        (ahead : ∀ t, s.invoker.task.next? = some t → goal.due ≤ t.due) :
      Leads a service state base first s [{ s with clock := s.clock.reach goal }]
        { s with clock := s.clock.reach goal } :=
    ⟨.single (.inl rfl), ⟨m, on.reclock begun ahead⟩, begun⟩
  induction fuel generalizing s m with
  | zero =>
    have none := Nat.le_zero.mp enough
    exact reaches on begun fun t next => Nat.le_of_lt (Task.due_lt_of_owed none next)
  | succ fuel ih =>
    unfold advancing Scene.advance
    cases next : s.invoker.task.next? with
    | none => exact reaches on begun fun t next' => by rw [next] at next'; cases next'
    | some t =>
      by_cases before : t.Before goal
      · have due : t.due ≤ goal.due := by
          unfold Timer.Before at before
          omega
        obtain ⟨⟨_, on'⟩, enters, _, begun', _⟩ := Moved.fire on performs shown next
        -- A timer that fires is owed no longer, so the fuel that is left is enough.
        have owed := Moved.owed on performs shown next due
        have step : Enters (a.opens base) s (s.fire service.watched (a.pacing shown) t) := enters
        simp only [if_pos before]
        exact .cons step (ih on' begun' (by omega))
      · simp only [if_neg before]
        refine reaches on begun fun t' next' => ?_
        rw [next] at next'
        cases next'
        unfold Timer.Before at before
        omega

/-- The same while nobody else waits for a timer. -/
theorem On.drain (fuel : Nat) {s : Scene (Watched σ)} {m : Nat}
    (on : On a service state base first s m)
    (begun : 1 ≤ s.service.entered) : Leads a service state base first s
      (s.draining service.watched (a.pacing shown) fuel)
        (s.drain service.watched (a.pacing shown) fuel) := by
  induction fuel generalizing s m with
  | zero => exact ⟨.nil s, ⟨m, on⟩, begun⟩
  | succ fuel ih =>
    unfold draining Scene.drain
    cases next : s.invoker.task.next? with
    | none => exact ⟨.nil s, ⟨m, on⟩, begun⟩
    | some t =>
      obtain ⟨⟨_, on'⟩, enters, _, begun', _⟩ := Moved.fire on performs shown next
      have step : Enters (a.opens base) s (s.fire service.watched (a.pacing shown) t) := enters
      exact .cons step (ih on' begun')

/-- No moment of the agenda is missed while others wait. -/
theorem On.sleep (span : Nat) (on : On a service state base first s m) :
    Leads a service state base first s
    (s.serving service.watched (a.pacing shown) (.sleep span))
      (s.sleep service.watched (a.pacing shown) span) := by
  obtain ⟨⟨_, settled⟩, enters, now, begun⟩ := (on.timer span).settle performs shown
  have timed : Enters (a.opens base) s (s.timer span).2 := .inl rfl
  refine .cons timed
    (.cons enters (settled.advance performs shown (s.timer span).1 (2 * span + 3) begun ?_))
  -- The loop has no timer that was due when the wait began.
  have still : ((s.timer span).2.settle service.watched (a.pacing shown)).clock.now = s.clock.now :=
    now
  have goal : (s.timer span).1.due = s.clock.now + span := rfl
  cases next : ((s.timer span).2.settle service.watched (a.pacing shown)).invoker.task.next? with
  | none =>
    rw [Task.owed_of_none next]
    exact Nat.zero_le _
  | some t =>
    have ahead := settled.ahead t next
    rw [Task.owed_of_next next, goal]
    omega

/-- Nor is one missed while somebody waits for the loop's end. -/
theorem On.waitClosed (fuel : Nat) (on : On a service state base first s m) :
    Leads a service state base first s
    (s.serving service.watched (a.pacing shown) (.waitClosed fuel))
    (s.waitClosed service.watched (a.pacing shown) fuel).2 := by
  obtain ⟨⟨_, settled⟩, enters, _, begun⟩ := on.settle performs shown
  have alive : s.invoker.task.isAlive = true := by
    cases on.stage with
    | upcoming task | calls task | rests task =>
      rw [task]
      rfl
  unfold serving winding Scene.waitClosed
  rw [alive]
  exact .cons enters (settled.drain performs shown fuel begun)

/-- Whatever is asked of the invoker, short of a cancellation, its loop keeps to its agenda. Only a
start is no wait, and it is refused. -/
theorem On.serve (r : Request) (uncancelled : r ≠ .cancel ∧ r ≠ .close)
    (on : On a service state base first s m) :
    Along (Enters (a.opens base)) s (s.serving service.watched (a.pacing shown) r)
      (s.serve service.watched (a.pacing shown) r) ∧
    (∃ m, On a service state base first (s.serve service.watched (a.pacing shown) r) m) ∧
    (r ≠ .start → 1 ≤ (s.serve service.watched (a.pacing shown) r).service.entered) := by
  cases r with
  | cancel => exact absurd rfl uncancelled.1
  | close => exact absurd rfl uncancelled.2
  | start =>
    have busy : s.invoker.phase ≠ .idle := by
      rw [on.running.phase]
      exact Phase.noConfusion
    unfold serving
    rw [serve_start_of_busy service.watched (a.pacing shown) busy]
    exact ⟨.single (.inl rfl), ⟨m, on⟩, fun other => absurd rfl other⟩
  | sleep span =>
    obtain ⟨along, on', begun⟩ := on.sleep performs shown span
    exact ⟨along, on', fun _ => begun⟩
  | waitClosed fuel =>
    obtain ⟨along, on', begun⟩ := on.waitClosed performs shown fuel
    exact ⟨along, on', fun _ => begun⟩

theorem On.serveAll (requests : List Request)
    (uncancelled : ∀ r ∈ requests, r ≠ .cancel ∧ r ≠ .close)
    {s : Scene (Watched σ)} {m : Nat} (on : On a service state base first s m) :
    Along (Enters (a.opens base)) s (s.trail service.watched (a.pacing shown) requests)
      (requests.foldl (Scene.serve service.watched (a.pacing shown)) s) ∧
    (∃ m, On a service state base first
      (requests.foldl (Scene.serve service.watched (a.pacing shown)) s) m) ∧
    ∀ r ∈ requests, r ≠ .start →
      1 ≤ (requests.foldl (Scene.serve service.watched (a.pacing shown)) s).service.entered := by
  induction requests generalizing s m with
  | nil => exact ⟨.nil s, ⟨m, on⟩, fun r none => nomatch none⟩
  | cons r requests ih =>
    obtain ⟨along, ⟨_, on'⟩, begun⟩ := on.serve performs shown r (uncancelled r List.mem_cons_self)
    obtain ⟨rest, last, later⟩ := ih (fun r mem => uncancelled r (List.mem_cons_of_mem _ mem)) on'
    refine ⟨along.append rest, last, fun r' mem waits => ?_⟩
    rcases List.mem_cons.mp mem with rfl | mem
    · exact Nat.le_trans (begun waits) rest.entries.1
    · exact later r' mem waits

/-- Whatever is asked of an invoker that was started and that nobody cancels: its calls were entered
and told of at the moments of its agenda, each with its own outcome or because its time was up, and
what is left is not yet due. Whoever waited has seen the first call. -/
theorem agenda_kept {s : Scene (Watched σ)} (fresh : s.invoker = .fresh)
    (unused : s.service = ⟨state, 0, 0⟩) (requests : List Request)
    (uncancelled : ∀ r ∈ requests, r ≠ .cancel ∧ r ≠ .close) :
    let begun := s.begun (a.pacing shown)
    let last := requests.foldl (Scene.serve service.watched (a.pacing shown)) begun
    ∃ n m, (m = n ∨ m + 1 = n) ∧ last.service.entered = n ∧ last.invoker.ticks = n ∧
      last.invoker.phase = .running ∧
      (begun.entries (begun.trail service.watched (a.pacing shown) requests)).map some
        = (List.range n).map (a.opens s.clock.now) ∧
      last.tellings.map some = s.tellings.map some ++ (List.range m).map (a.telling s.clock.now) ∧
      (∀ t, a.opens s.clock.now n = some t → last.clock.now ≤ t) ∧
      (∀ t, a.closes s.clock.now m = some t → last.clock.now ≤ t) ∧
      ∀ r ∈ requests, r ≠ .start → 1 ≤ n := by
  have on : On a service state s.clock.now s.tellings (s.begun (a.pacing shown)) 0 :=
    .begun a service fresh unused shown
  obtain ⟨along, ⟨m, last⟩, waited⟩ := on.serveAll performs shown requests uncancelled
  have entries := along.entries.2
  have none : (s.begun (a.pacing shown)).service.entered = 0 := congrArg Watched.entered unused
  rw [none, Nat.sub_zero, ← List.range_eq_range'] at entries
  obtain ⟨ended, opens, closes⟩ := last.left
  exact ⟨_, m, ended, rfl, last.ticks, last.running.phase, entries, last.told, opens,
    closes, waited⟩

end

/-- A service that does what is planned, and knows nothing but how many of its calls are over. -/
def rehearsed (a : Agenda) : Service Nat where
  enter k := (⟨false, a.wait k⟩, k)
  finish k := (.of (a.outcome k), k + 1)
  interrupt k := (none, k + 1)

/-- Whatever is planned, there is a service that does so. -/
theorem rehearsed_performs (a : Agenda) : a.rehearsed.Performs a 0 := by
  have before (k : Nat) : a.before a.rehearsed 0 k = k := by
    induction k with
    | zero => rfl
    | succ k ih =>
      rw [Agenda.before, ih]
      cases a.inTime k <;> rfl
  refine ⟨fun k => ?_, fun k _ => ?_, fun k _ answer gave => ?_⟩
  · rw [before]
    rfl
  · unfold inside
    rw [before]
    exact Answer.outcome?_of _
  · cases gave

/-- The first call fails at once, the second one is slow, and the time of the next two is up: one
answers in the same moment, and the other one hangs. -/
def mixed : Agenda where
  period := 100
  positive := by decide
  limit := some 50
  wait
    | 1 => .span 30
    | 2 => .span 50
    | 3 => .forever
    | _ => .none
  outcome
    | 0 => .failure (.plain .runtime "down")
    | k => .value k

theorem mixed_kept :
    let begun := (Scene.opening (⟨0, 0, 0⟩ : Watched Nat) (.start none)).begun (mixed.pacing .half)
    let last := [Request.sleep 600].foldl
      (Scene.serve mixed.rehearsed.watched (mixed.pacing .half)) begun
    mixed.rehearsed.Performs mixed 0 ∧
    begun.entries (begun.trail mixed.rehearsed.watched (mixed.pacing .half) [.sleep 600])
      = [0, 100, 230, 380, 530] ∧
    last.tellings = [(0, 1, .failure (.plain .runtime "down")), (130, 2, .value 1),
      (280, 3, .failure Limit.exceeded), (430, 4, .failure Limit.exceeded),
      (530, 5, .value 4)] := by
  intro begun last
  have uncancelled : ∀ r ∈ [Request.sleep 600], r ≠ .cancel ∧ r ≠ .close := by decide
  obtain ⟨n, m, _, _, ticks, _, entries, tellings, opens, closes, _⟩ :=
    agenda_kept mixed.rehearsed_performs .half (s :=
      .opening (⟨0, 0, 0⟩ : Watched Nat) (.start none)) rfl rfl
      [.sleep 600] uncancelled
  have five : n = 5 := by
    rw [← ticks]
    decide +kernel
  have all : m = 5 := by
    have length := congrArg List.length tellings
    rw [List.length_map, List.length_append, List.length_map, List.length_map,
      List.length_range] at length
    have told : last.tellings.length = 5 := by decide +kernel
    exact (Nat.zero_add m).symm.trans (length.symm.trans told)
  subst five all
  exact ⟨mixed.rehearsed_performs, (List.map_inj_right fun _ _ => Option.some.inj).mp entries,
    (List.map_inj_right fun _ _ => Option.some.inj).mp tellings⟩

end Agenda

end Drill
