import Drill.Proofs.Timing
import Drill.Proofs.Tolerance

/-!
# How long calls are under way

A call of the loop that waits has two timers, one for its answer and one for its limit, and the loop
waits for the one that is due first; of two that are due at once this is the limit's. While such a
call is under way it is `Aloft`: it was entered at a moment that is known, and neither timer is
overdue. The first call of a run is another matter: there is no loop yet and no limit either, so it
takes as long as the cluster lets it wait.

Main statements: `Reached.overseen`, calls of the loop are never overdue, `Reached.aloft_next`, how
they end, and `limit_conduct`, how long each call of a run takes.
-/

namespace Drill

namespace Scene

/-- A call that was entered at this moment waits for its answer and for its limit, and neither is
overdue. -/
structure Aloft (limit since span serial : Nat) (s : Scene Cluster) : Prop where
  task : s.invoker.task = .calling (some ⟨since + limit, serial⟩) (some ⟨since + span, serial + 1⟩)
  delay : s.service.nextDelay = some span
  begun : since ≤ s.clock.now
  limited : s.clock.now ≤ since + limit
  awaited : s.clock.now ≤ since + span

namespace Aloft

variable {limit since span serial : Nat} {s s' : Scene Cluster} {pacing : Pacing}

theorem calling (aloft : s.Aloft limit since span serial) : s.invoker.task.isCalling = true := by
  rw [aloft.task]
  rfl

/-- Of the two timers the limit's is waited for, unless the answer comes sooner. -/
theorem next (aloft : s.Aloft limit since span serial) : s.invoker.task.next?
    = some (if span < limit then ⟨since + span, serial + 1⟩ else ⟨since + limit, serial⟩) := by
  rw [aloft.task]
  by_cases sooner : span < limit
  · have before : Timer.Before ⟨since + span, serial + 1⟩ ⟨since + limit, serial⟩ :=
      .inl (Nat.add_lt_add_left sooner since)
    rw [if_pos sooner]
    exact congrArg some (if_pos before)
  · have late : ¬ Timer.Before ⟨since + span, serial + 1⟩ ⟨since + limit, serial⟩ := by
      unfold Timer.Before
      dsimp only
      omega
    rw [if_neg sooner]
    exact congrArg some (if_neg late)

theorem due (aloft : s.Aloft limit since span serial) {t : Timer}
    (next : s.invoker.task.next? = some t) :
    s.clock.now ≤ t.due ∧ t.due ≤ since + limit ∧ t.due ≤ since + span := by
  have begun := aloft.limited
  have awaited := aloft.awaited
  rw [aloft.next] at next
  cases next
  split
  next => dsimp only; omega
  next => dsimp only; omega

/-- A call stays under way until the timer that it waits for fires. -/
theorem later (aloft : s.Aloft limit since span serial) (invoker : s'.invoker = s.invoker)
    (delay : s'.service.nextDelay = s.service.nextDelay) (onward : s.clock.now ≤ s'.clock.now)
    (early : ∀ t, s.invoker.task.next? = some t → s'.clock.now ≤ t.due) :
    s'.Aloft limit since span serial := by
  have due := aloft.due aloft.next
  have before := early _ aloft.next
  refine ⟨by rw [invoker]; exact aloft.task, by rw [delay]; exact aloft.delay, ?_, ?_, ?_⟩
  · exact Nat.le_trans aloft.begun onward
  · exact Nat.le_trans before due.2.1
  · exact Nat.le_trans before due.2.2

/-- Let go on, the loop keeps waiting for its call. -/
theorem settle_of_running (pacing : Pacing) (running : s.invoker.Running)
    (calling : s.invoker.task.isCalling = true) :
    s.settleEnd pacing = none ∧ s.settle Cluster.service pacing = s := by
  unfold settleEnd Scene.settle
  cases task : s.invoker.task with
  | calling => exact ⟨rfl, if_neg (by simp [running.uninterrupted])⟩
  | absent | scheduled | resting | ended =>
    rw [task] at calling
    cases calling

/-- A call ends with its answer if that comes before its time is up, and otherwise it expires. -/
theorem fireEnd (pacing : Pacing) (aloft : s.Aloft limit since span serial) {t : Timer}
    (next : s.invoker.task.next? = some t) : s.fireEnd pacing t
      = some (if span < limit then .answered (s.service.calls + 1) s.service.reply
        else .expired) := by
  rw [aloft.next] at next
  unfold Scene.fireEnd
  rw [aloft.task]
  by_cases sooner : span < limit
  · rw [if_pos sooner] at next ⊢
    cases next
    refine if_neg ?_
    intro same
    injection same with same
    injection same with _ serials
    omega
  · rw [if_neg sooner] at next ⊢
    cases next
    exact if_pos rfl

end Aloft

variable {limit : Nat} {s s' : Scene Cluster} {pacing : Pacing} {e : Option TickEnd}

theorem endTick_ticks (s : Scene Cluster) (outcome : Outcome) :
    (s.endTick pacing outcome).invoker.ticks = s.invoker.ticks := by
  unfold endTick rest
  split <;> rfl

/-- A call that is entered and waits is under way from now on. -/
theorem callOut_aloft {span : Nat} (within : pacing.limit = .within limit)
    (delay : s.service.nextDelay = some span) :
    (s.callOut pacing span).Aloft limit s.clock.now span s.clock.set := by
  have armed :
    s.tick.arm pacing = (some ⟨s.clock.now + limit, s.clock.set⟩, (s.tick.timer limit).2) := by
    unfold arm
    rw [within]
    rfl
  unfold callOut
  rw [armed]
  refine ⟨rfl, ?_, Nat.le_refl _, Nat.le_add_right _ _, Nat.le_add_right _ _⟩
  show s.service.entered.nextDelay = some span
  rw [Cluster.entered_eq]
  exact delay

/-- A call that is under way after a turn was entered in it. -/
theorem Turn.aloft (turn : Turn pacing s e s') (within : pacing.limit = .within limit)
    (calling : s'.invoker.task.isCalling = true) :
    ∃ span serial, s'.Aloft limit s.clock.now span serial := by
  cases turn with
  | entered _ delay => exact ⟨_, _, callOut_aloft within delay⟩
  | refused | answeredAtOnce | answered | expired =>
    rw [endTick_task] at calling
    cases calling

/-- A turn ends a call that was under way, or begins a tick. -/
theorem Turn.ticks (turn : Turn pacing s e s') :
    (s.invoker.task.isCalling = true ∧ s'.invoker.task.isCalling = false ∧
      s'.invoker.ticks = s.invoker.ticks) ∨
    (s.invoker.task.isCalling = false ∧ s'.invoker.ticks = s.invoker.ticks + 1) := by
  cases turn with
  | refused idle => exact .inr ⟨idle, endTick_ticks _ _⟩
  | answeredAtOnce idle =>
    refine .inr ⟨idle, ?_⟩
    rw [endTick_ticks]
    exact congrArg Invoker.ticks (s.tick.arm_invoker pacing)
  | entered idle =>
    refine .inr ⟨idle, ?_⟩
    exact congrArg Invoker.ticks (s.tick.arm_invoker pacing)
  | answered calling => exact .inl ⟨calling, endTick_task _ _, endTick_ticks _ _⟩
  | expired calling => exact .inl ⟨calling, endTick_task _ _, endTick_ticks _ _⟩

/-- What a call comes to is what the monitor records. -/
theorem Turn.records {e : TickEnd} (turn : Turn pacing s (some e) s')
    (calling : s.invoker.task.isCalling = true) :
    s'.monitor = (s.monitor.record s.invoker.ticks e.outcome).1 := by
  cases turn with
  | refused idle | answeredAtOnce idle =>
    rw [idle] at calling
    cases calling
  | answered => exact endTick_monitor _ _ _
  | expired => exact endTick_monitor _ _ _

end Scene

namespace Run

/-- A part of the work that takes no time by itself. A call that is under way is not touched by it,
and a wait that it begins is not over before it began. -/
structure Moment.Prompt (m m' : Moment) : Prop where
  now : m'.progress.scene.clock.now = m.progress.scene.clock.now
  waits : ∀ pacing goal fuel jobs, m'.stance = .waiting pacing goal fuel jobs →
    m.progress.scene.clock.now ≤ goal.due
  aside : m.progress.scene.invoker.task.isCalling = true →
    m'.progress.scene.invoker = m.progress.scene.invoker ∧
    m'.progress.scene.service.nextDelay = m.progress.scene.service.nextDelay ∧ m'.ends = m.ends

namespace Moment.Prompt

variable {plan : Plan} {m : Moment} {pacing : Pacing} {rest : List Job}

/-- Work of which the loop knows nothing. -/
theorem unseen {p : Progress} {stance : Stance}
    (now : p.scene.clock.now = m.progress.scene.clock.now)
    (invoker : p.scene.invoker = m.progress.scene.invoker)
    (delay : p.scene.service.nextDelay = m.progress.scene.service.nextDelay)
    (goes : stance.isWaiting = false) : m.Prompt ⟨p, stance, m.ends⟩ := by
  refine ⟨now, ?_, fun _ => ⟨invoker, delay, rfl⟩⟩
  intro _ _ _ _ waiting
  rw [show stance = _ from waiting] at goes
  cases goes

theorem settle (m : Moment) (pacing : Pacing) (stance : Stance)
    (running : m.progress.scene.invoker.Running)
    (waits : ∀ pacing goal fuel jobs, stance = .waiting pacing goal fuel jobs →
      m.progress.scene.clock.now ≤ goal.due) : m.Prompt (m.settle pacing stance) := by
  refine ⟨Scene.settle_now running, waits, ?_⟩
  intro calling
  obtain ⟨none, same⟩ := Scene.Aloft.settle_of_running pacing running calling
  unfold Moment.settle
  dsimp only
  rw [none, same]
  exact ⟨rfl, rfl, List.append_nil _⟩

theorem sleep (m : Moment) (pacing : Pacing) (rest : List Job)
    (running : m.progress.scene.invoker.Running)
    (span : Nat) : m.Prompt (m.sleep pacing span rest) := by
  have settled := settle { m with progress.scene := (m.progress.scene.timer span).2 } pacing
    (.waiting pacing (m.progress.scene.timer span).1 (2 * span + 3) rest) running (by
      intro _ _ _ _ waiting
      cases waiting
      exact Nat.le_add_right _ _)
  exact ⟨settled.now, settled.waits, settled.aside⟩

theorem wait (m : Moment) (pacing : Pacing) (rest : List Job)
    (running : m.progress.scene.invoker.Running)
    (seconds : Number.Double) : m.Prompt (m.wait pacing seconds rest) := by
  unfold Moment.wait
  cases Pause.of seconds with
  | error fault => exact unseen rfl rfl rfl rfl
  | ok pause =>
    cases pause with
    | passing =>
      have settled :=
        settle { m with progress := m.progress.noteNap seconds } pacing (.doing pacing rest)
        running (fun _ _ _ _ waiting => by cases waiting)
      exact ⟨settled.now, settled.waits, settled.aside⟩
    | timed span =>
      have slept := sleep { m with progress := m.progress.noteNap seconds } pacing rest running span
      exact ⟨slept.now, slept.waits, slept.aside⟩

theorem delay (m : Moment) (pacing : Pacing) (rest : List Job)
    (running : m.progress.scene.invoker.Running)
    (span? : Option Nat) : m.Prompt (m.delay pacing span? rest) := by
  cases span? with
  | none => exact unseen rfl rfl rfl rfl
  | some span => exact sleep m pacing rest running span

/-- A request to a node is no matter of the loop. -/
theorem ask {s : Stage Unit} (atOnce : m.progress.AtOnce s.2)
    (frame : m.progress.scene.service.OnlyControl s.2.scene.service) :
    m.Prompt (m.attempt s (fun raised => .quitting pacing (.error raised)) fun _ m =>
      m.stand (.doing pacing rest)) := by
  obtain ⟨result, p⟩ := s
  have now := congrArg Clock.now atOnce.clock
  have delay : p.scene.service.nextDelay = m.progress.scene.service.nextDelay := by
    obtain ⟨_, _, _, _, same⟩ := frame
    rw [show p.scene.service = _ from same]
    rfl
  cases result with
  | ok _ => exact unseen now atOnce.invoker delay rfl
  | error raised => exact unseen now atOnce.invoker delay rfl

theorem work (running : m.progress.scene.invoker.Running) (job : Job) :
    m.Prompt (plan.work m pacing rest job) := by
  cases job with
  | stabilise =>
    unfold Plan.work Progress.lift
    cases plan.settings.seconds plan.settings.stability with
    | error fault => exact unseen rfl rfl rfl rfl
    | ok seconds => exact wait m pacing rest running seconds
  | stop id grace =>
    -- A request is made at once, and all it touches are the nodes and the notes.
    refine ask (askStop_atOnce m.progress id grace) ?_
    unfold Progress.askStop Progress.onCluster
    cases asked : m.progress.scene.service.stop id grace with
    | mk result c =>
      simp only [asked]
      cases result <;> exact Cluster.stop_frame asked
  | start id =>
    refine ask (askStart_atOnce m.progress id) ?_
    unfold Progress.askStart Progress.onCluster
    cases asked : m.progress.scene.service.start id with
    | mk result c =>
      simp only [asked]
      cases result <;> exact Cluster.start_frame asked
  | step s =>
    cases s with
    | wait kind seconds =>
      -- The note before the wait changes none of the three.
      have waited :=
        wait { m with progress := m.progress.note (.waiting seconds kind) } pacing rest running
          seconds
      exact ⟨waited.now, waited.waits, waited.aside⟩
    | checkpoint label =>
      unfold Plan.work Progress.checkpoint Scene.checkpoint Monitor.checkpoint
      cases m.progress.scene.monitor.firstFailure with
      | none => exact unseen rfl rfl rfl rfl
      | some first => exact unseen rfl rfl rfl rfl
    | stop id =>
      unfold Plan.work
      rcases announceStop_cases plan m.progress id with ⟨grace, label, announced⟩ |
        ⟨_, raised, unannounced⟩
      · simp only [announced, Moment.attempt]
        have delayed := delay { m with progress := m.progress.note (.shutdown label id) } pacing
          (.stop id grace :: rest) running m.progress.scene.service.trouble.stopDelay
        exact ⟨delayed.now, delayed.waits, delayed.aside⟩
      · simp only [unannounced, Moment.attempt]
        exact unseen rfl rfl rfl rfl
    | start id =>
      unfold Plan.work
      rcases announceStart_cases plan m.progress id with ⟨label, announced⟩ |
        ⟨_, raised, unannounced⟩
      · simp only [announced, Moment.attempt]
        have delayed := delay { m with progress := m.progress.note (.startup label id) } pacing
          (.start id :: rest) running m.progress.scene.service.trouble.startDelay
        exact ⟨delayed.now, delayed.waits, delayed.aside⟩
      · simp only [unannounced, Moment.attempt]
        exact unseen rfl rfl rfl rfl

end Moment.Prompt

/-- What is known at every moment of a run whose calls have this limit: no wait is overdue, and a
call that is under way is not overdue either. -/
structure Overseen (limit : Nat) (m : Moment) : Prop where
  waits : ∀ pacing goal fuel jobs, m.stance = .waiting pacing goal fuel jobs →
    m.progress.scene.clock.now ≤ goal.due
  aloft : m.progress.scene.invoker.task.isCalling = true →
    (m.stance.isBusy = true ∨ ∃ pacing result, m.stance = .quitting pacing result) ∧
    ∃ since span serial, m.progress.scene.Aloft limit since span serial

/-- A call that was under way comes to this in the next moment. -/
structure Ends (limit since span : Nat) (m m' : Moment) (e : TickEnd) : Prop where
  how : e = if span < limit then
    .answered (m.progress.scene.service.calls + 1) m.progress.scene.service.reply else .expired
  now : m'.progress.scene.clock.now = since + min span limit
  ends : m'.ends = m.ends ++ [e]
  records : m'.progress.scene.monitor
    = (m.progress.scene.monitor.record m.progress.scene.invoker.ticks e.outcome).1
  landed : m'.progress.scene.invoker.task.isCalling = false

/-- What a move does to the tick that is under way: it leaves the loop alone, begins the next tick
where no call is under way, or ends this one. -/
inductive Moment.Ticked (m m' : Moment) : Prop where
  | still (task : m'.progress.scene.invoker.task = m.progress.scene.invoker.task)
      (ticks : m'.progress.scene.invoker.ticks = m.progress.scene.invoker.ticks)
  | began (idle : m.progress.scene.invoker.task.isCalling = false)
      (ticks : m'.progress.scene.invoker.ticks = m.progress.scene.invoker.ticks + 1)
  | ended (landed : m'.progress.scene.invoker.task.isCalling = false)
      (ticks : m'.progress.scene.invoker.ticks = m.progress.scene.invoker.ticks)

theorem Moment.Ticked.of_invoker {m m' : Moment}
    (invoker : m'.progress.scene.invoker = m.progress.scene.invoker) : m.Ticked m' := by
  refine .still ?_ ?_
  · rw [invoker]
  · rw [invoker]

namespace Works

variable {plan : Plan} {pacing : Pacing} {m m' : Moment} {jobs : List Job} {limit : Nat}

/-- A call that was not under way before was entered in a turn of the loop. -/
theorem aloft (within : pacing.limit = .within limit) (works : Works plan pacing m jobs m')
    (before : ¬ m.progress.scene.invoker.task.isCalling = true)
    (calling : m'.progress.scene.invoker.task.isCalling = true) :
    ∃ since span serial, m'.progress.scene.Aloft limit since span serial := by
  cases works.stirs with
  | rests _ _ invoker =>
    rw [invoker] at calling
    exact absurd calling before
  | turns _ _ _ turn => exact ⟨_, turn.aloft within calling⟩

/-- While the invoker works it is either busy or told to quit. -/
theorem isBusy_or_quitting (works : Works plan pacing m jobs m') :
    m'.stance.isBusy = true ∨ ∃ pacing result, m'.stance = .quitting pacing result := by
  rcases works.stance with ⟨jobs', has'⟩ | ⟨result, quitting⟩
  · refine .inl ?_
    generalize m'.stance = stance' at has'
    cases has' <;> rfl
  · exact .inr ⟨_, _, quitting⟩

theorem ticked (works : Works plan pacing m jobs m') : m.Ticked m' := by
  cases works.stirs with
  | rests _ _ invoker => exact .of_invoker invoker
  | turns _ _ invoker turn =>
    rcases turn.ticks with ⟨_, landed, ticks⟩ | ⟨idle, ticks⟩
    · exact .ended landed (by rw [← invoker]; exact ticks)
    · exact .began (by rw [← invoker]; exact idle) (by rw [← invoker]; exact ticks)

end Works

namespace Plan

/-- No wait of the run is cut short because its fuel is used up. -/
def Fueled (plan : Plan) (scene : Scene Cluster) : Prop :=
  ∀ m pacing goal jobs t, plan.Reached scene m → m.stance = .waiting pacing goal 0 jobs →
    m.progress.scene.invoker.task.next? = some t → ¬ t.Before goal

variable {plan : Plan} {scene : Scene Cluster} {m m' c b : Moment} {pacing : Pacing}
    {jobs : List Job}

/-- Between calls that are a microsecond apart no wait uses up its fuel. -/
theorem fueled_of_period (countable : plan.settings.Countable)
    (positive : 1 ≤ plan.settings.span plan.settings.period) (scene : Scene Cluster) :
    plan.Fueled scene := by
  intro m pacing goal jobs t reached waiting timer
  exact reached.fuel_enough countable positive waiting timer

/-- A limit that can be counted is the limit of every call of the loop. -/
theorem limit_within (countable : plan.settings.Countable) (paced : plan.pacing = .ok pacing)
    {most : Millis}
    (limited : plan.settings.callLimit = some most) :
    pacing.limit = .within (plan.settings.span most) := by
  obtain ⟨seconds, ok, positive, counted, _⟩ := (countable.limit most limited).timed
  obtain ⟨_, limit, _, isLimit, rfl⟩ := pacing_eq paced
  unfold Settings.limitSeconds at isLimit
  simp only [limited, ok] at isLimit
  cases isLimit
  show Limit.of (some seconds) = _
  unfold Limit.of
  simp only [positive, if_true, counted]

section

variable {limit since span serial : Nat}

/-- A call that is under way stays so, or comes to its end as soon as one of its timers is due. -/
theorem Reached.aloft_next (fueled : plan.Fueled scene) (reached : plan.Reached scene m)
    (has : m.stance.Has pacing jobs) (overseen : Overseen limit m)
    (aloft : m.progress.scene.Aloft limit since span serial) (next : plan.Next m m') :
    (m'.progress.scene.Aloft limit since span serial ∧
      m'.progress.scene.invoker.ticks = m.progress.scene.invoker.ticks ∧ m'.ends = m.ends) ∨
    ∃ e, Ends limit since span m m' e := by
  have running := (reached.works has next).1
  obtain ⟨p, stance, ends⟩ := m
  cases has with
  | doing =>
    cases jobs with
    | nil =>
      cases next
      exact .inl ⟨aloft, rfl, rfl⟩
    | cons job rest =>
      have prompt : Moment.Prompt ⟨p, .doing pacing (job :: rest), ends⟩
          (plan.work ⟨p, .doing pacing (job :: rest), ends⟩ pacing rest job) := .work running job
      cases next
      -- A job of its own accord leaves a call that is under way alone.
      obtain ⟨invoker, delay, ends'⟩ := prompt.aside aloft.calling
      refine .inl ⟨aloft.later invoker delay (Nat.le_of_eq prompt.now.symm) ?_,
        congrArg Invoker.ticks invoker, ends'⟩
      intro t timer
      rw [prompt.now]
      exact (aloft.due timer).1
  | waiting goal fuel =>
    rcases next_waiting rfl next with ⟨rfl, late⟩ | ⟨t, left, rfl, timer, before, rfl⟩
    · refine .inl ⟨aloft.later rfl rfl (overseen.waits _ _ _ _ rfl) ?_, rfl, rfl⟩
      intro t timer
      -- The goal comes first, so the call's own timers are still to come.
      have after : ¬ t.Before goal := by
        rcases late with rfl | late
        · exact fueled _ _ _ _ t reached rfl timer
        · exact late t timer
      unfold Timer.Before at after
      show goal.due ≤ t.due
      omega
    -- A timer of the call fires: its tick ends here.
    · have turn := Scene.fire_turn pacing running timer
      have ended := aloft.fireEnd pacing timer
      rw [ended] at turn
      refine .inr ⟨_, rfl, ?_, ?_, turn.records aloft.calling, ?_⟩
      · show (p.scene.fire Cluster.service pacing t).clock.now = _
        rw [turn.now]
        show t.due = _
        rw [aloft.next] at timer
        cases timer
        split
        next => dsimp only; omega
        next => dsimp only; omega
      · show ends ++ (p.scene.fireEnd pacing t).toList = _
        rw [ended]
        rfl
      · rcases turn.ticks with ⟨_, landed, _⟩ | ⟨idle, _⟩
        · exact landed
        · have calling : p.scene.invoker.task.isCalling = false := idle
          rw [aloft.calling] at calling
          cases calling

/-- Before the invoker works there is no call of the loop, and nobody waits for it. -/
theorem Early.grounded (early : plan.Early scene m) :
    m.progress.scene.invoker.task.isCalling = false ∧
    m.progress.scene.invoker.ticks = 0 ∧ m.stance.isWaiting = false := by
  have fresh {c : Cluster} {monitor : Monitor} (still : m.Still plan c monitor .fresh)
      (idle : m.stance.isWaiting = false) : m.progress.scene.invoker.task.isCalling = false ∧
      m.progress.scene.invoker.ticks = 0 ∧ m.stance.isWaiting = false := by
    rw [still.invoker]
    exact ⟨rfl, rfl, idle⟩
  cases early with
  | checking stance still | flawed _ stance still | acquiring _ stance still
  | unavailable _ _ _ stance still
  | ungathered _ _ stance still | unheard _ _ _ _ stance still | launching _ _ stance still
  | unlaunched _ _ _ stance still => exact fresh still (by rw [stance]; rfl)
  | gathering _ stance still =>
    rcases stance with stance | stance | ⟨_, stance⟩ <;> exact fresh still (by rw [stance]; rfl)
  | hearing _ stance still =>
    rcases stance with stance | ⟨_, stance⟩ <;> exact fresh still (by rw [stance]; rfl)
  | launched _ _ _ stance still =>
    rw [still.invoker, stance]
    exact ⟨rfl, rfl, rfl⟩

/-- A wait that has begun is not overdue. -/
theorem next_waits (running : m.progress.scene.invoker.Running) (has : m.stance.Has pacing jobs)
    (next : plan.Next m m') {pacing' : Pacing} {goal : Timer} {fuel : Nat} {jobs' : List Job}
    (waiting : m'.stance = .waiting pacing' goal fuel jobs') :
    m'.progress.scene.clock.now ≤ goal.due := by
  obtain ⟨p, stance, ends⟩ := m
  cases has with
  | doing =>
    cases jobs with
    | nil =>
      cases next
      cases waiting
    | cons job rest =>
      have prompt : Moment.Prompt ⟨p, .doing pacing (job :: rest), ends⟩
          (plan.work ⟨p, .doing pacing (job :: rest), ends⟩ pacing rest job) := .work running job
      cases next
      rw [prompt.now]
      exact prompt.waits _ _ _ _ waiting
  | waiting goal' fuel' =>
    rcases next_waiting rfl next with ⟨rfl, _⟩ | ⟨t, left, rfl, timer, before, rfl⟩
    · cases waiting
    · cases waiting
      show (p.scene.fire Cluster.service pacing t).clock.now ≤ _
      rw [(Scene.fire_turn pacing running timer).now]
      unfold Timer.Before at before
      show t.due ≤ _
      omega

/-- No call of the loop is ever overdue. -/
theorem Reached.overseen (countable : plan.settings.Countable) (fueled : plan.Fueled scene)
    {most : Millis}
    (limited : plan.settings.callLimit = some most) (reached : plan.Reached scene m) :
    Overseen (plan.settings.span most) m := by
  refine Reached.induct_next (I := Overseen (plan.settings.span most)) ?early ?works ?quits
    ?releases reached
  case early =>
    intro m _ early
    obtain ⟨idle, _, alone⟩ := early.grounded
    constructor
    · intro _ _ _ _ waiting
      rw [waiting] at alone
      cases alone
    · intro calling
      rw [idle] at calling
      cases calling
  case works =>
    intro m m' pacing jobs reached overseen running has next works
    have within := limit_within countable ((reached.sound countable).paced _ _ has) limited
    refine ⟨fun _ _ _ _ waiting => next_waits running has next waiting, ?_⟩
    intro calling
    refine ⟨works.isBusy_or_quitting, ?_⟩
    -- Either the call was under way before this move or the move has begun it.
    by_cases before : m.progress.scene.invoker.task.isCalling = true
    · obtain ⟨_, since, span, serial, aloft⟩ := overseen.aloft before
      rcases reached.aloft_next fueled has overseen aloft next with ⟨aloft', _⟩ | ⟨_, ended⟩
      · exact ⟨since, span, serial, aloft'⟩
      · rw [ended.landed] at calling
        cases calling
    · exact works.aloft within before calling
  case quits =>
    intro m m' pacing result _ _ _ _ quits
    constructor
    · intro _ _ _ _ waiting
      rw [quits.stance] at waiting
      cases waiting
    · intro calling
      rw [quits.invoker] at calling
      -- A loop that was closed makes no call.
      cases task : m.progress.scene.invoker.task <;> rw [task] at calling <;> cases calling
  case releases =>
    intro m result _ overseen stance
    have released := released m.progress
    constructor
    · intro _ _ _ _ waiting
      cases waiting
    · intro calling
      -- To let go of the service does not touch the loop.
      have before : m.progress.scene.invoker.task.isCalling = true := by
        rw [← released.invoker]
        exact calling
      rcases (overseen.aloft before).1 with busy | ⟨_, _, quitting⟩
      · rw [stance] at busy
        cases busy
      · rw [stance] at quitting
        cases quitting

/-! ### One call from moment to moment -/

theorem Reached.ticks_next (reached : plan.Reached scene m) (next : plan.Next m m') :
    m.Ticked m' := by
  cases reached.goes next with
  | onset early early' =>
    obtain ⟨_, none, _⟩ := early.grounded
    obtain ⟨idle, none', _⟩ := early'.grounded
    exact .ended idle (by rw [none, none'])
  | works _ _ works => exact works.ticked
  | quits _ _ quits =>
    refine .ended ?_ (by rw [quits.invoker])
    rw [quits.invoker]
    cases m.progress.scene.invoker.task <;> rfl
  | releases _ same =>
    rw [same]
    exact .of_invoker (released m.progress).invoker

/-- From a moment at which a call is under way on, it is under way or its tick is over. -/
theorem Reached.call_leads (reached : plan.Reached scene c)
    (calling : c.progress.scene.invoker.task.isCalling = true) (leads : plan.Leads c b) :
    (b.progress.scene.invoker.task = c.progress.scene.invoker.task ∧
      b.progress.scene.invoker.ticks = c.progress.scene.invoker.ticks) ∨
    c.progress.scene.invoker.ticks < b.progress.scene.invoker.ticks ∨
    (b.progress.scene.invoker.task.isCalling = false ∧
      c.progress.scene.invoker.ticks = b.progress.scene.invoker.ticks) := by
  induction leads with
  | refl => exact .inl ⟨rfl, rfl⟩
  | @tail b m leads next ih =>
    have reached' : plan.Reached scene b := reached.trans leads
    have step := reached'.ticks_next next
    rcases ih with ⟨task, ticks⟩ | later | ⟨landed, ticks⟩
    · rcases step with ⟨task', ticks'⟩ | ⟨idle, _⟩ | ⟨landed, ticks'⟩
      · exact .inl ⟨task'.trans task, ticks'.trans ticks⟩
      · rw [task, calling] at idle
        cases idle
      · exact .inr (.inr ⟨landed, (ticks'.trans ticks).symm⟩)
    · rcases step with ⟨_, ticks'⟩ | ⟨_, ticks'⟩ | ⟨_, ticks'⟩ <;> exact .inr (.inl (by omega))
    · rcases step with ⟨task', ticks'⟩ | ⟨_, ticks'⟩ | ⟨landed', ticks'⟩
      · exact .inr (.inr ⟨by rw [task']; exact landed, by omega⟩)
      · exact .inr (.inl (by omega))
      · exact .inr (.inr ⟨landed', by omega⟩)

end

/-! ### The first call -/

/-- Until the first call the cluster has not been called. -/
theorem Reached.ringing_delay (reached : plan.Reached scene c) {steps : List Step}
    (stance : c.stance = .ringing steps) :
    c.progress.scene.service.nextDelay = scene.service.nextDelay := by
  have onset := reached.onset
  rw [stance] at onset
  rw [onset.2.service]
  rfl

/-- The first call takes as long as the cluster makes it wait, whatever the limit is. -/
theorem Reached.rings (reached : plan.Reached scene c) {steps : List Step}
    (stance : c.stance = .ringing steps) :
    ∃ h, plan.Leads c h ∧ h.stance = .hearing steps ∧
      h.progress.scene.clock.now = c.progress.scene.clock.now + scene.service.nextDelay.getD 0 := by
  have service := reached.ringing_delay stance
  obtain ⟨p, _, ends⟩ := c
  subst stance
  rw [← service]
  -- The call that the run makes itself is entered, waits by a timer of the run, and is heard.
  cases delay : p.scene.service.nextDelay with
  | none =>
    have rung : plan.Next ⟨p, .ringing steps, ends⟩
        ⟨{ p with scene.service := p.scene.service.entered }, .hearing steps, ends⟩ := by
      unfold Next Plan.next ring Cluster.service Cluster.enter
      dsimp only
      rw [delay]
      rfl
    exact ⟨_, .single rung, rfl, rfl⟩
  | some span =>
    have rung : plan.Next ⟨p, .ringing steps, ends⟩
        (Moment.rest ⟨{ p with scene.service := p.scene.service.entered },
          .ringing steps, ends⟩ span
          (.hearing steps)) := by
      unfold Next Plan.next ring Cluster.service Cluster.enter
      dsimp only
      rw [delay]
      rfl
    exact ⟨_, (Relation.ReflTransGen.single rung).tail rfl, rfl, rfl⟩

end Plan

/-- At both moments one and the same call of the loop is under way. -/
structure Moment.SameCall (c b : Moment) : Prop where
  first : c.progress.scene.invoker.task.isCalling = true
  last : b.progress.scene.invoker.task.isCalling = true
  tick : b.progress.scene.invoker.ticks = c.progress.scene.invoker.ticks

/-- How long the calls of a run are under way, if those of its loop have this limit. -/
structure Limited (plan : Plan) (scene : Scene Cluster) (limit : Nat) : Prop where
  /-- From any moment at which a call of the loop is under way, it takes no longer than its limit,
  the moment at which it is over included. -/
  bounded : ∀ c b m, plan.Reached scene c → plan.Leads c b → c.SameCall b → m = b ∨ plan.Next b m →
    m.progress.scene.clock.now ≤ c.progress.scene.clock.now + limit
  /-- It goes on, or is broken off with the run, or comes to its end: answered if the answer comes
  sooner than its limit, and otherwise expired, which is a failure. -/
  ends : ∀ b m, plan.Reached scene b → b.progress.scene.invoker.task.isCalling = true →
    plan.Next b m →
    b.SameCall m ∨ (∃ pacing result, b.stance = .quitting pacing result) ∨
    ∃ since span e, b.progress.scene.service.nextDelay = some span ∧ Ends limit since span b m e
  /-- The first call takes its time. -/
  first : ∀ c steps, plan.Reached scene c → c.stance = .ringing steps →
    ∃ h, plan.Leads c h ∧ h.stance = .hearing steps ∧
      h.progress.scene.clock.now = c.progress.scene.clock.now + scene.service.nextDelay.getD 0

namespace Plan

/-- No call of the loop is under way for longer than its limit, and one that is not answered before
fails. The first call of a run has no limit: it takes as long as the cluster makes it wait. -/
theorem limit_conduct (plan : Plan) (scene : Scene Cluster) (countable : plan.settings.Countable)
    (fueled : plan.Fueled scene) {most : Millis} (limited : plan.settings.callLimit = some most) :
    Limited plan scene (plan.settings.span most) := by
  have overseen {m : Moment} (reached : plan.Reached scene m) :
    Overseen (plan.settings.span most) m :=
    reached.overseen countable fueled limited
  refine ⟨?bounded, ?ends, fun c steps reached stance => reached.rings stance⟩
  case bounded =>
    intro c b m reached leads same onward
    have reached' : plan.Reached scene b := reached.trans leads
    obtain ⟨_, since, span, serial, aloft⟩ := (overseen reached).aloft same.first
    obtain ⟨stance, since', span', serial', aloft'⟩ := (overseen reached').aloft same.last
    have task : b.progress.scene.invoker.task = c.progress.scene.invoker.task := by
      rcases reached.call_leads same.first leads with ⟨task, _⟩ | later | ⟨landed, _⟩
      · exact task
      · have tick := same.tick
        omega
      · rw [same.last] at landed
        cases landed
    -- The timer of the limit tells when the call was entered.
    rw [aloft.task, aloft'.task] at task
    injection task with limits _
    injection limits with limits
    injection limits with dues _
    have begun := aloft.begun
    rcases onward with rfl | next
    · have limited := aloft'.limited
      omega
    · rcases stance with busy | ⟨pacing, result, quitting⟩
      · obtain ⟨pacing, jobs, has⟩ := Stance.has_of_isBusy busy
        rcases reached'.aloft_next fueled has (overseen reached') aloft' next with
          ⟨on, _⟩ | ⟨_, ended⟩
        · have limited := on.limited
          omega
        · have now := ended.now
          omega
      · have limited := aloft'.limited
        have now : m.progress.scene.clock.now = b.progress.scene.clock.now := by
          have running := reached'.running quitting
          unfold Next Plan.next at next
          rw [quitting] at next
          cases next
          exact congrArg Clock.now (quit_clock running result)
        omega
  case ends =>
    intro b m reached calling next
    obtain ⟨stance, since, span, serial, aloft⟩ := (overseen reached).aloft calling
    rcases stance with busy | quitting
    · obtain ⟨pacing, jobs, has⟩ := Stance.has_of_isBusy busy
      rcases reached.aloft_next fueled has (overseen reached) aloft next with
        ⟨on, ticks, _⟩ | ⟨e, ended⟩
      · exact .inl ⟨calling, on.calling, ticks⟩
      · exact .inr (.inr ⟨since, span, e, aloft.delay, ended⟩)
    · exact .inr (.inl quitting)

/-- On a leisurely cluster the first call of the loop is under way for ten milliseconds, and
expires. -/
theorem hasty_limits :
    hasty.settings.Countable ∧ hasty.Fueled (.opening leisurely (.start none)) ∧
    hasty.settings.callLimit = some ⟨1, Nat.one_pos⟩ ∧
    hasty.settings.span ⟨1, Nat.one_pos⟩ = 10000 ∧
    ∃ c b m, hasty.Reached (.opening leisurely (.start none)) c ∧ hasty.Leads c b ∧ c.SameCall b ∧
      hasty.Next b m ∧ m.progress.scene.clock.now ≤ c.progress.scene.clock.now + 10000 ∧
      m.ends = [.expired] ∧ m.progress.scene.monitor.failures = 1 := by
  have period : hasty.settings.span hasty.settings.period = 10000 := by decide +kernel
  have positive : 1 ≤ hasty.settings.span hasty.settings.period := by
    rw [period]
    decide
  have limit : hasty.settings.span ⟨1, Nat.one_pos⟩ = 10000 := by decide +kernel
  have limited : hasty.settings.callLimit = some ⟨1, Nat.one_pos⟩ := rfl
  have fueled := fueled_of_period hasty_countable positive (.opening leisurely (.start none))
  have bounds :=
    limit_conduct hasty (.opening leisurely (.start none)) hasty_countable fueled limited
  rw [limit] at bounds
  -- The call is entered at the ninth moment, and the fourteenth is the last one before it is over.
  have reached := hasty.leads_later 9 (hasty.opening (.opening leisurely (.start none)))
  have leads :=
    hasty.leads_later 5 (hasty.later 9 (hasty.opening (.opening leisurely (.start none))))
  have next := hasty.next_later (n := 5)
    (m := hasty.later 9 (hasty.opening (.opening leisurely (.start none)))) (by decide +kernel)
  have same : (hasty.later 9 (hasty.opening (.opening leisurely (.start none)))).SameCall
      (hasty.later 5 (hasty.later 9 (hasty.opening (.opening leisurely (.start none))))) :=
    ⟨by decide +kernel, by decide +kernel, by decide +kernel⟩
  have bound := bounds.bounded _ _ _ reached leads same (.inr next)
  exact ⟨hasty_countable, fueled, limited, limit, _, _, _, reached, leads, same, next, bound,
    by decide +kernel, by decide +kernel⟩

/-- A calm cluster whose first call waits for fifty milliseconds. -/
def drowsy : Cluster := { calm with trouble.delays := [(1, some 50000)] }

/-- The first call is under way for five times its limit, and the run passes. -/
theorem drowsy_passes :
    hasty.settings.callLimit = some ⟨1, Nat.one_pos⟩ ∧
    hasty.settings.span ⟨1, Nat.one_pos⟩ = 10000 ∧
    (∃ c steps h, hasty.Reached (.opening drowsy (.start none)) c ∧ c.stance = .ringing steps ∧
      hasty.Leads c h ∧ h.stance = .hearing steps ∧
      h.progress.scene.clock.now = c.progress.scene.clock.now + 50000) ∧
    ∃ report, (hasty.conduct (.opening drowsy (.start none))).1 = .ok report ∧
      report.failures = 0 := by
  have limit : hasty.settings.span ⟨1, Nat.one_pos⟩ = 10000 := by decide +kernel
  have passes :
    ((hasty.conduct (.opening drowsy (.start none))).1.toOption.map (·.failures)) = some 0 := by
    decide +kernel
  have reached := hasty.leads_later 4 (hasty.opening (.opening drowsy (.start none)))
  have rings : (match (hasty.later 4 (hasty.opening (.opening drowsy (.start none)))).stance with
      | .ringing _ => true
      | _ => false) = true := by
    decide +kernel
  refine ⟨rfl, limit, ?_, ?_⟩
  · generalize hasty.later 4 (hasty.opening (.opening drowsy (.start none))) = c at reached rings
    split at rings
    next steps stance =>
      obtain ⟨h, leads, stance', now⟩ := Reached.rings reached stance
      exact ⟨c, steps, h, reached, stance, leads, stance', now⟩
    next => cases rings
  · generalize (hasty.conduct (.opening drowsy (.start none))).1 = result at passes
    cases result with
    | error raised => cases passes
    | ok report => exact ⟨report, rfl, Option.some.inj passes⟩

end Plan

end Run

end Drill
