import Drill.Proofs.Loop
import Drill.Proofs.Control

/-!
# Loops that do not look at numbers

What a cluster counts is for the monitor to follow and for nobody else to act on. `Scene.unnumbered`
is a scene without these numbers: the counter and its jumps, the value that is expected next and how
often it was not the one that came, and what was logged. Two scenes are `Alike` if they are the same
without these, and whatever the loop of an invoker does leaves them alike.

Main statements: `Alike.settle`, `Alike.fire` and `Alike.close`, which say this of the moves of the
loop and of its end.
-/

namespace Drill

/-- The outcome without its value. -/
def Outcome.unnumbered : Outcome → Outcome
  | value _ => value 0
  | failure fault => failure fault

/-- The answer without its value. -/
def Answer.unnumbered : Answer → Answer
  | value v? => value (v?.map fun _ => 0)
  | fault f => fault f
  | cancelled => cancelled

/-- Answers that are the same without their values are two values, or one and the same answer. -/
theorem Answer.cases_of_unnumbered {a a' : Answer} (same : a'.unnumbered = a.unnumbered) :
    (∃ v v', a = .value (some v) ∧ a' = .value (some v')) ∨ a' = a := by
  cases a with
  | cancelled =>
    cases a' with
    | cancelled => exact .inr rfl
    | value | fault => cases same
  | fault fault =>
    cases a' with
    | fault fault' =>
      cases same
      exact .inr rfl
    | value | cancelled => cases same
  | value v? =>
    cases a' with
    | fault | cancelled => cases same
    | value v'? =>
      cases v? with
      | some v =>
        cases v'? with
        | some v' => exact .inl ⟨v, v', rfl, rfl⟩
        | none => cases same
      | none =>
        cases v'? with
        | some v' => cases same
        | none => exact .inr rfl

/-- What a tick came to, without its value. -/
def TickEnd.unnumbered : TickEnd → TickEnd
  | answered number outcome => answered number outcome.unnumbered
  | expired => expired
  | refused fault => refused fault

/-- What the monitor knows, without what it expects and how often that was not what came. -/
def Monitor.unnumbered (m : Monitor) : Monitor := { m with expected := none, resyncs := 0 }

/-- Without its numbers the monitor counts calls and failures and keeps the first failure. -/
theorem Monitor.unnumbered_record (m : Monitor) (sequence : Int) (outcome : Outcome) :
    (m.record sequence outcome).1.unnumbered =
    (m.unnumbered.record sequence outcome.unnumbered).1.unnumbered := by
  unfold unnumbered
  rw [record_invocations, record_invocations, record_failures, record_failures, record_firstFailure,
    record_firstFailure]
  cases outcome <;> rfl

namespace Cluster

/-- The cluster without its counter and the jumps of it. -/
def unnumbered (c : Cluster) : Cluster := { c with serial := 0, trouble.jumps := [] }

variable (c : Cluster)

theorem unnumbered_eq_recast : c.unnumbered = c.recast (fun _ => 0) fun t =>
    { t with jumps := [] } := rfl

/-- A handle has no numbers. -/
theorem updateHandle_unnumbered (change : Handle → Handle) :
    c.unnumbered.updateHandle change = (c.updateHandle change).unnumbered := by
  rw [updateHandle_eq, updateHandle_eq]
  rfl

theorem leave_unnumbered : c.unnumbered.leave = c.leave.unnumbered := c.updateHandle_unnumbered _

theorem enter_unnumbered : c.unnumbered.enter = (c.enter.1, c.enter.2.unnumbered) :=
  congrArg (Prod.mk _) (c.updateHandle_unnumbered _)

/-- To acquire the service takes no number. -/
theorem acquire_unnumbered (implementation : String) :
    c.unnumbered.acquire implementation
      = ((c.acquire implementation).1, (c.acquire implementation).2.unnumbered) := by
  rw [unnumbered_eq_recast, unnumbered_eq_recast]
  exact c.acquire_recast (fun _ => by rfl) implementation

/-- Nor does a release. -/
theorem release_unnumbered : c.unnumbered.release = (c.release.1, c.release.2.unnumbered) := by
  unfold release
  rw [updateHandle_unnumbered]
  generalize c.updateHandle _ = c
  have ordered : c.unnumbered.trouble.release = c.trouble.release := rfl
  dsimp only
  rw [ordered]
  cases c.trouble.release <;> rfl

/-- The requests to a node are no calls: no number is given for them. -/
theorem stop_unnumbered (id : String) (grace : Int) :
    c.unnumbered.stop id grace = ((c.stop id grace).1, (c.stop id grace).2.unnumbered) := by
  rw [unnumbered_eq_recast, unnumbered_eq_recast]
  exact c.stop_recast (fun _ => by rfl) (fun _ => by rfl) id grace

theorem start_unnumbered (id : String) :
    c.unnumbered.start id = ((c.start id).1, (c.start id).2.unnumbered) := by
  rw [unnumbered_eq_recast, unnumbered_eq_recast]
  exact c.start_recast (fun _ => by rfl) (fun _ => by rfl) id

/-- What a call answers depends on the number of calls, and its number is all that differs. -/
theorem answer_unnumbered :
    c.unnumbered.answer.1.unnumbered = c.answer.1.unnumbered ∧
    c.unnumbered.answer.2.unnumbered = c.answer.2.unnumbered := by
  have missing : c.unnumbered.missing = c.missing := rfl
  unfold answer
  rw [missing]
  unfold unnumbered
  dsimp only
  split
  next => exact ⟨rfl, rfl⟩
  next =>
    split
    next => exact ⟨rfl, rfl⟩
    next => split <;> exact ⟨rfl, rfl⟩

variable {c} {c' : Cluster}

/-- What is made of a cluster without its numbers is the same for both. -/
theorem congr_unnumbered {α : Type} (f : Cluster → α) (alike : c'.unnumbered = c.unnumbered) :
    f c'.unnumbered = f c.unnumbered :=
  congrArg f alike

/-- Calls wait equally long. -/
theorem enter_of_unnumbered (alike : c'.unnumbered = c.unnumbered) :
    (service.enter c').1 = (service.enter c).1 ∧
    (service.enter c').2.unnumbered = (service.enter c).2.unnumbered := by
  have same : (c'.enter.1, c'.enter.2.unnumbered) = (c.enter.1, c.enter.2.unnumbered) := by
    rw [← enter_unnumbered, alike, enter_unnumbered]
  exact Prod.mk.inj same

theorem leave_of_unnumbered (alike : c'.unnumbered = c.unnumbered) :
    c'.leave.unnumbered = c.leave.unnumbered := by
  rw [← leave_unnumbered, alike, leave_unnumbered]

/-- They answer the same, but for the number. -/
theorem finish_of_unnumbered (alike : c'.unnumbered = c.unnumbered) :
    (service.finish c').1.unnumbered = (service.finish c).1.unnumbered ∧
    (service.finish c').2.unnumbered = (service.finish c).2.unnumbered := by
  have answers : c'.answer.1.unnumbered = c.answer.1.unnumbered := by
    rw [← c'.answer_unnumbered.1, alike, c.answer_unnumbered.1]
  have left : c'.answer.2.unnumbered = c.answer.2.unnumbered := by
    rw [← c'.answer_unnumbered.2, alike, c.answer_unnumbered.2]
  exact ⟨answers, leave_of_unnumbered left⟩

theorem reply_of_unnumbered (alike : c'.unnumbered = c.unnumbered) :
    c'.reply.unnumbered = c.reply.unnumbered := by
  have answers : c'.answer.1.unnumbered = c.answer.1.unnumbered := by
    rw [← c'.answer_unnumbered.1, alike, c.answer_unnumbered.1]
  rcases c.answer_cases with ⟨fault, reply, answer⟩ | ⟨reply, answer⟩
  · rcases c'.answer_cases with ⟨fault', reply', answer'⟩ | ⟨_, answer'⟩
    · rw [answer, answer'] at answers
      cases answers
      rw [reply, reply']
    · rw [answer, answer'] at answers
      cases answers
  · rcases c'.answer_cases with ⟨_, _, answer'⟩ | ⟨reply', _⟩
    · rw [answer, answer'] at answers
      cases answers
    · rw [reply, reply']
      rfl

end Cluster

namespace Scene

/-- The scene without the numbers that nobody acts on, and without what was logged. -/
def unnumbered (s : Scene Cluster) : Scene Cluster :=
  { s with service := s.service.unnumbered, monitor := s.monitor.unnumbered, log := [] }

/-- The scene with a cluster that counts from elsewhere and jumps otherwise. -/
def recounted (serial : Int) (jumps : Assoc Int Int) (s : Scene Cluster) : Scene Cluster :=
  { s with service := { s.service with serial, trouble.jumps := jumps } }

/-- Two scenes that differ only in the counter and its jumps, in the value that is expected next and
how often it was not the one that came, and in what was logged. -/
def Renumbered (s s' : Scene Cluster) : Prop :=
  ∃ serial jumps expected resyncs log, s' = { s with
    service := { s.service with serial, trouble.jumps := jumps }
    monitor := { s.monitor with expected, resyncs }
    log }

/-- Two scenes that are the same but for their numbers. -/
def Alike (s s' : Scene Cluster) : Prop := s'.unnumbered = s.unnumbered

namespace Alike

variable {s s' : Scene Cluster} {pacing : Pacing}

theorem congr {α : Type} (f : Scene Cluster → α) (alike : s.Alike s') :
    f s'.unnumbered = f s.unnumbered :=
  congrArg f alike

/-- It is the same time in both scenes. -/
theorem clock (alike : s.Alike s') : s'.clock = s.clock := alike.congr Scene.clock

theorem service (alike : s.Alike s') : s'.service.unnumbered = s.service.unnumbered :=
  alike.congr Scene.service

theorem monitor (alike : s.Alike s') : s'.monitor.unnumbered = s.monitor.unnumbered :=
  alike.congr Scene.monitor

/-- The invokers stand at the same point. -/
theorem invoker (alike : s.Alike s') : s'.invoker = s.invoker := alike.congr Scene.invoker

/-- Scenes are alike if their parts are; their logs may differ in everything. -/
theorem of_parts (clock : s'.clock = s.clock)
    (service : s'.service.unnumbered = s.service.unnumbered)
    (monitor : s'.monitor.unnumbered = s.monitor.unnumbered) (invoker : s'.invoker = s.invoker) :
    s.Alike s' := by
  unfold Alike unnumbered
  rw [clock, service, monitor, invoker]

/-- Without its numbers a scene is nothing else. -/
theorem renumbered (alike : s.Alike s') : s.Renumbered s' :=
  ⟨s'.service.serial, s'.service.trouble.jumps, s'.monitor.expected, s'.monitor.resyncs, s'.log,
    alike.congr fun scene => { scene with
      service := { scene.service with
        serial := s'.service.serial, trouble.jumps := s'.service.trouble.jumps }
      monitor := { scene.monitor with
        expected := s'.monitor.expected, resyncs := s'.monitor.resyncs }
      log := s'.log }⟩

/-- Scenes stay alike with clusters that are. -/
theorem withService (alike : s.Alike s') {c c' : Cluster}
    (clusters : c'.unnumbered = c.unnumbered) :
    ({ s with service := c } : Scene Cluster).Alike { s' with service := c' } :=
  of_parts alike.clock clusters alike.monitor alike.invoker

/-- Scenes stay alike with the same invoker. -/
theorem withInvoker (alike : s.Alike s') (i : Invoker) :
    ({ s with invoker := i } : Scene Cluster).Alike { s' with invoker := i } :=
  of_parts alike.clock alike.service alike.monitor rfl

/-- Both loops may be put to wait for the same thing. -/
theorem become (alike : s.Alike s') (task : Task) : (s.become task).Alike (s'.become task) := by
  unfold Scene.become
  rw [alike.invoker]
  exact alike.withInvoker _

theorem finish (alike : s.Alike s') (how : Ending) : (s.finish how).Alike (s'.finish how) := by
  unfold Scene.finish
  rw [alike.invoker]
  exact alike.withInvoker _

/-- What is logged is no matter. -/
theorem note (alike : s.Alike s') (events events' : List Log.Event) :
    (s.note events).Alike (s'.note events') := alike

/-- Both set the same timer. -/
theorem timer (alike : s.Alike s') (span : Nat) :
    (s'.timer span).1 = (s.timer span).1 ∧ (s.timer span).2.Alike (s'.timer span).2 := by
  unfold Scene.timer
  rw [alike.clock]
  exact ⟨rfl, of_parts rfl alike.service alike.monitor alike.invoker⟩

/-- Both may reach the same timer. -/
theorem reach (alike : s.Alike s') (t : Timer) :
    ({ s with clock := s.clock.reach t } : Scene Cluster).Alike
      { s' with clock := s'.clock.reach t } := by
  rw [alike.clock]
  exact of_parts rfl alike.service alike.monitor alike.invoker

/-- Both monitors may be told of outcomes that differ in their numbers only. -/
theorem record (alike : s.Alike s') (outcome outcome' : Outcome)
    (outcomes : outcome'.unnumbered = outcome.unnumbered) :
    (s.record outcome).Alike (s'.record outcome') := by
  refine of_parts alike.clock alike.service ?_ alike.invoker
  rw [record_monitor, record_monitor, Monitor.unnumbered_record s'.monitor,
    Monitor.unnumbered_record s.monitor, outcomes, alike.monitor, alike.invoker]

/-- The value that the monitor starts from is one of the numbers. -/
theorem seed (alike : s.Alike s') (v v' : Int) :
    ({ s with monitor := (s.monitor.seed v).1 } : Scene Cluster).Alike
      { s' with monitor := (s'.monitor.seed v').1 } :=
  of_parts alike.clock alike.service alike.monitor alike.invoker

/-- The delay is counted in both or in neither. -/
theorem rest (alike : s.Alike s') : (s.rest pacing).Alike (s'.rest pacing) := by
  unfold Scene.rest
  cases pacing.period with
  | error fault => exact alike.finish _
  | ok span =>
    obtain ⟨timers, armed⟩ := alike.timer span
    dsimp only
    rw [timers]
    exact armed.become _

/-- Both loops go on or both end. -/
theorem proceed (alike : s.Alike s') : (s.proceed pacing).Alike (s'.proceed pacing) := by
  unfold Scene.proceed
  rw [alike.invoker]
  split
  next => exact alike.finish _
  next => exact alike.rest

/-- Both may be cancelled. -/
theorem cancel (alike : s.Alike s') : s.cancel.Alike s'.cancel := by
  unfold Scene.cancel
  rw [alike.invoker]
  split
  next => exact alike
  next => exact (alike.withInvoker _).note _ _

/-- Whatever value a call answers with, the loop goes on in the same way. -/
theorem conclude (alike : s.Alike s') {a a' : Answer} (answers : a'.unnumbered = a.unnumbered) :
    (s.conclude pacing a).Alike (s'.conclude pacing a') := by
  rcases Answer.cases_of_unnumbered answers with ⟨v, v', rfl, rfl⟩ | rfl
  · exact (alike.record (.value v) (.value v') rfl).proceed
  · cases a' with
    | cancelled => exact alike.finish _
    | fault fault => exact (alike.record _ _ rfl).proceed
    | value v? =>
      cases v? with
      | none => exact alike.finish _
      | some v => exact (alike.record _ _ rfl).proceed

/-- The answer that is taken in one of them differs from the other one in its number only. -/
theorem answer (alike : s.Alike s') :
    (s.answer Cluster.service pacing).Alike (s'.answer Cluster.service pacing) := by
  obtain ⟨answers, clusters⟩ := Cluster.finish_of_unnumbered alike.service
  exact (alike.withService clusters).conclude answers

/-- A call to a cluster gives in when it is broken off. -/
theorem leave (alike : s.Alike s') :
    ({ s with service := s.service.leave } : Scene Cluster).Alike
      { s' with service := s'.service.leave } :=
  alike.withService (Cluster.leave_of_unnumbered alike.service)

/-- A call that is broken off gives in, in both of them. -/
theorem breakOff (alike : s.Alike s') (limit : Option Timer) :
    (s.breakOff Cluster.service pacing limit).Alike (s'.breakOff Cluster.service pacing limit) :=
  alike.leave.finish _

theorem await (alike : s.Alike s') (limit : Option Timer) (wait : Wait) :
    (s.await Cluster.service pacing limit wait).Alike
      (s'.await Cluster.service pacing limit wait) := by
  unfold Scene.await
  rw [alike.invoker]
  cases wait with
  | none => exact alike.answer
  | span span =>
    obtain ⟨timers, armed⟩ := alike.timer span
    dsimp only
    rw [timers]
    split
    next => exact armed.breakOff limit
    next => exact armed.become _
  | forever =>
    dsimp only
    split
    next => exact alike.breakOff limit
    next => exact alike.become _

/-- A call may be entered in both, and it waits equally long. -/
theorem enter (alike : s.Alike s') (limit : Option Timer) :
    (s.enter Cluster.service pacing limit).Alike (s'.enter Cluster.service pacing limit) := by
  obtain ⟨openings, clusters⟩ := Cluster.enter_of_unnumbered alike.service
  have entered := alike.withService clusters
  rw [enter_await, enter_await, openings]
  split
  next => exact entered.cancel.await limit _
  next => exact entered.await limit _

theorem tick (alike : s.Alike s') : s.tick.Alike s'.tick := by
  unfold Scene.tick
  rw [alike.invoker]
  exact alike.withInvoker _

/-- The loops set out to make a call side by side. -/
theorem beginCall (alike : s.Alike s') :
    ((s.become (.calling none none)).beginCall Cluster.service pacing).Alike
      ((s'.become (.calling none none)).beginCall Cluster.service pacing) := by
  have ticked := alike.tick
  unfold Scene.beginCall
  cases pacing.limit with
  | none => exact ticked.enter none
  | refused fault => exact ticked.conclude rfl
  | within span =>
    obtain ⟨timers, armed⟩ := ticked.timer span
    show ((s.tick.timer span).2.enter Cluster.service pacing (some (s.tick.timer span).1)).Alike
      ((s'.tick.timer span).2.enter Cluster.service pacing (some (s'.tick.timer span).1))
    rw [timers]
    exact armed.enter _

variable (pacing) in
/-- Let go on, loops do the same. -/
theorem settle (alike : s.Alike s') :
    (s.settle Cluster.service pacing).Alike (s'.settle Cluster.service pacing) := by
  unfold Scene.settle
  rw [alike.invoker]
  cases s.invoker.task with
  | absent | ended => exact alike
  | scheduled =>
    dsimp only
    split
    next => exact alike.finish _
    next => exact alike.beginCall
  | calling limit wake =>
    dsimp only
    split
    next => exact alike.breakOff limit
    next => exact alike
  | resting wake =>
    dsimp only
    split
    next => exact alike.finish _
    next => exact alike

/-- A timer that fires makes loops do the same. -/
theorem fire (alike : s.Alike s') (t : Timer) :
    (s.fire Cluster.service pacing t).Alike (s'.fire Cluster.service pacing t) := by
  have reached := alike.reach t
  have tasks : s'.invoker.task = s.invoker.task := by rw [alike.invoker]
  unfold Scene.fire
  dsimp only
  rw [tasks]
  cases s.invoker.task with
  | absent | scheduled | ended => exact reached
  | resting wake => exact reached.beginCall
  | calling limit wake =>
    dsimp only
    split
    next => exact reached.leave.conclude rfl
    next => exact reached.answer

variable (pacing) in
/-- Closed, loops come to the same end. -/
theorem close (alike : s.Alike s') : ∃ how t t', s.close Cluster.service pacing = (how, t) ∧
    s'.close Cluster.service pacing = (how, t') ∧ t.Alike t' := by
  have cancelled := alike.cancel
  have settled := cancelled.settle pacing
  unfold Scene.close waitClosed
  rw [cancelled.invoker]
  cases s.cancel.invoker.task.isAlive with
  | false =>
    exact ⟨_, _, _, rfl,
      Prod.ext (congrArg (fun i => ending i.task) cancelled.invoker) rfl, cancelled⟩
  | true =>
    exact ⟨_, _, _, rfl, Prod.ext (congrArg (fun i => ending i.task) settled.invoker) rfl, settled⟩

/-- Ticks come to the same, whatever value they come to. -/
theorem beginEnd (alike : s.Alike s') :
    (s'.beginEnd pacing).map TickEnd.unnumbered = (s.beginEnd pacing).map TickEnd.unnumbered := by
  have calls : s'.service.calls = s.service.calls :=
    Cluster.congr_unnumbered Cluster.calls alike.service
  have delays : s'.service.nextDelay = s.service.nextDelay :=
    Cluster.congr_unnumbered Cluster.nextDelay alike.service
  have replies := Cluster.reply_of_unnumbered alike.service
  unfold Scene.beginEnd
  rw [calls, delays]
  cases pacing.limit with
  | refused fault => rfl
  | none | within =>
    cases s.service.nextDelay with
    | some span => rfl
    | none =>
      simp only [Option.map_some, TickEnd.unnumbered]
      rw [replies]

/-- A tick that ends at once ends in both, with outcomes that differ in their numbers only. -/
theorem settleEnd (alike : s.Alike s') :
    (s'.settleEnd pacing).map TickEnd.unnumbered = (s.settleEnd pacing).map TickEnd.unnumbered := by
  unfold Scene.settleEnd
  rw [alike.invoker]
  cases s.invoker.task with
  | scheduled => exact alike.beginEnd
  | absent | calling | resting | ended => rfl

/-- A tick that a timer ends is ended by it in both. -/
theorem fireEnd (alike : s.Alike s') (t : Timer) :
    (s'.fireEnd pacing t).map TickEnd.unnumbered = (s.fireEnd pacing t).map TickEnd.unnumbered := by
  have calls : s'.service.calls = s.service.calls :=
    Cluster.congr_unnumbered Cluster.calls alike.service
  have replies := Cluster.reply_of_unnumbered alike.service
  unfold Scene.fireEnd
  rw [alike.invoker, calls]
  cases s.invoker.task with
  | resting wake => exact alike.beginEnd
  | absent | scheduled | ended => rfl
  | calling limit wake =>
    dsimp only
    split
    next => rfl
    next =>
      simp only [Option.map_some, TickEnd.unnumbered]
      rw [replies]

end Alike

end Scene

end Drill
