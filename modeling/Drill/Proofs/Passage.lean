import Drill.Proofs.Place
import Drill.Proofs.Pulse

/-!
# How time passes in a run

The run and the loop share a clock, and the loop's timers move it; but a wait of the run ends at its
own timer, whatever the loop does meanwhile. `Passes` says of every move when the run goes on: a
wait keeps its end, and a job that is done takes as long as it lasts, which is no matter of the
loop. Nor can the loop hold up a wait, because it owes fewer timers than the wait has fuel
(`Ticking`).

Main statements: `next_passes`, every move is one of these, and `Reached.ticking`, the fuel is
enough all along.
-/

namespace Drill

/-- The microseconds that a wait of some seconds takes. -/
def spanOf (seconds : Number.Double) : Nat :=
  match Pause.of seconds with
  | .ok (.timed span) => span
  | .ok .passing | .error _ => 0

/-- A timed pause lasts for its span. -/
theorem spanOf_timed {seconds : Number.Double} {span : Nat}
    (timed : Pause.of seconds = .ok (.timed span)) :
    spanOf seconds = span := by
  unfold spanOf
  rw [timed]

/-- Any other pause takes no time. -/
theorem spanOf_passing {seconds : Number.Double} (passing : Pause.of seconds = .ok .passing) :
    spanOf seconds = 0 := by
  unfold spanOf
  rw [passing]

namespace Settings

/-- A duration in microseconds. -/
def span (s : Settings) (m : Millis) : Nat := (s.seconds m).toOption.elim 0 spanOf

theorem span_of_seconds {s : Settings} {m : Millis} {seconds : Number.Double}
    (ok : s.seconds m = .ok seconds) :
    s.span m = spanOf seconds := by
  unfold Settings.span
  rw [ok]
  rfl

/-- A duration that counts is a timed pause of its span. -/
theorem Counts.timed {s : Settings} {m : Millis} (counts : s.Counts m) :
    ∃ seconds, s.seconds m = .ok seconds ∧ seconds.isPositive = true ∧
      micros seconds = .ok (s.span m) ∧
      Pause.of seconds = .ok (.timed (s.span m)) := by
  obtain ⟨seconds, span, ok, positive, counted⟩ := counts
  have timed : Pause.of seconds = .ok (.timed span) := by
    unfold Pause.of
    rw [if_pos positive, counted]
    rfl
  have same : s.span m = span := by
    rw [span_of_seconds ok]
    exact spanOf_timed timed
  rw [same]
  exact ⟨seconds, ok, positive, counted, timed⟩

end Settings

/-- How long a step of a script lasts: a request to a node as long as was ordered. -/
def Step.lasts (trouble : Trouble) : Step → Nat
  | .wait _ seconds => spanOf seconds
  | .stop _ => trouble.stopDelay.getD 0
  | .start _ => trouble.startDelay.getD 0
  | .checkpoint _ => 0

namespace Run

/-- How long a job lasts. -/
def Job.lasts (plan : Plan) (trouble : Trouble) : Job → Nat
  | .stabilise => plan.settings.span plan.settings.stability
  | .step s => s.lasts trouble
  | .stop _ _ | .start _ => 0

/-- When the run goes on: at the end of the wait that it is in, or at once. -/
def Moment.due (m : Moment) : Nat :=
  match m.stance with
  | .alone goal _ | .waiting _ goal _ _ => goal.due
  | .checking | .acquiring _ | .gathering _ | .ringing _ | .hearing _ | .launching _ | .doing _ _
  | .quitting _ _ | .releasing _ | .finished _ => m.progress.scene.clock.now

/-- Between two progresses no time passes, and the loop does nothing. -/
structure Progress.AtOnce (p p' : Progress) : Prop where
  clock : p'.scene.clock = p.scene.clock
  invoker : p'.scene.invoker = p.scene.invoker

/-- The loop is not behind, and a wait has fuel for all its timers. -/
structure Ticking (m : Moment) : Prop where
  ahead : m.progress.scene.Ahead
  fuel : ∀ pacing goal fuel jobs, m.stance = .waiting pacing goal fuel jobs →
    m.progress.scene.invoker.task.owed goal.due ≤ fuel

/-- One tick more came to its end at most, and its time was up only if it could be. -/
def Ticks (ends ends' : List TickEnd) (expires : Prop) : Prop :=
  ∃ e : Option TickEnd, ends' = ends ++ e.toList ∧ (e = some .expired → expires)

/-- A moment at which the run is to go on with these jobs at this time, and what happened to the
ticks. -/
structure Awaits (pacing : Pacing) (jobs : List Job) (due : Nat) (ends : List TickEnd)
    (expires : Prop)
    (m : Moment) : Prop where
  has : m.stance.Has pacing jobs
  due : m.due = due
  ticking : Ticking m
  ticks : Ticks ends m.ends expires

/-- The jobs left when a job was done, or was announced. -/
inductive Job.Leaves : Job → List Job → List Job → Prop where
  | done (job : Job) (rest : List Job) : Leaves job rest rest
  | stop (id : String) (grace : Int) (rest : List Job) :
    Leaves (.step (.stop id)) rest (.stop id grace :: rest)
  | start (id : String) (rest : List Job) : Leaves (.step (.start id)) rest (.start id :: rest)

/-- What the next moment is while the invoker works, as far as time goes. -/
inductive Passes (plan : Plan) (pacing : Pacing) (m m' : Moment) : List Job → Prop where
  /-- A wait goes on, or is over. -/
  | waits {jobs : List Job} (waiting : m.stance.isWaiting = true)
      (awaits : Awaits pacing jobs m.due m.ends m.progress.scene.invoker.task.Expires m') :
      Passes plan pacing m m' jobs
  | does {job : Job} {rest jobs' : List Job} (doing : m.stance = .doing pacing (job :: rest))
      (leaves : job.Leaves rest jobs')
      (awaits : Awaits pacing jobs'
        (m.due + job.lasts plan m.progress.scene.service.trouble) m.ends False
        m') :
      Passes plan pacing m m' (job :: rest)
  | quits {jobs : List Job} {result : Except Raised Unit} (doing : m.stance = .doing pacing jobs)
      (short : ∀ job ∈ jobs.head?,
        job.waits = false ∧ job.lasts plan m.progress.scene.service.trouble = 0)
      (stance : m'.stance = .quitting pacing result)
      (clock : m'.progress.scene.clock = m.progress.scene.clock) : Passes plan pacing m m' jobs

section

variable {plan : Plan} {pacing : Pacing} {period : Nat} {m m' : Moment} {rest : List Job}

/-- A job is done at once. -/
theorem Moment.due_of_doing {jobs : List Job} (doing : m.stance = .doing pacing jobs) :
    m.due = m.progress.scene.clock.now := by
  unfold due
  rw [doing]

theorem Ticks.none (ends : List TickEnd) (expires : Prop) : Ticks ends ends expires := by
  refine ⟨.none, (List.append_nil ends).symm, ?_⟩
  intro expired
  cases expired

/-- A loop that is let go on does not wait for the time of a call to be up. -/
theorem settle_ticks (ends : List TickEnd) (s : Scene Cluster) (expires : Prop) :
    Ticks ends (ends ++ (s.settleEnd pacing).toList) expires := by
  refine ⟨s.settleEnd pacing, rfl, ?_⟩
  intro expired
  unfold Scene.settleEnd Scene.beginEnd at expired
  split at expired
  next => split at expired <;> cases expired
  all_goals cases expired

/-- A run that does not wait goes on at once. -/
theorem Awaits.of_doing (doing : m.stance = .doing pacing rest) (ahead : m.progress.scene.Ahead)
    (expires : Prop) : Awaits pacing rest m.progress.scene.clock.now m.ends expires m := by
  refine ⟨Stance.has_of_doing doing, Moment.due_of_doing doing, ⟨ahead, ?_⟩, .none m.ends expires⟩
  intro _ _ _ _ waiting
  rw [doing] at waiting
  cases waiting

/-- A request to stop a node takes no time of its own. -/
theorem askStop_atOnce (p : Progress) (id : String) (grace : Int) :
    p.AtOnce (p.askStop id grace).2 := by
  unfold Progress.askStop Progress.onCluster
  obtain ⟨result, c, asked⟩ : ∃ result c, p.scene.service.stop id grace = (result, c) := ⟨_, _, rfl⟩
  simp only [asked]
  cases result <;> exact ⟨rfl, rfl⟩

/-- Nor does a request to start one. -/
theorem askStart_atOnce (p : Progress) (id : String) : p.AtOnce (p.askStart id).2 := by
  unfold Progress.askStart Progress.onCluster
  obtain ⟨result, c, asked⟩ : ∃ result c, p.scene.service.start id = (result, c) := ⟨_, _, rfl⟩
  simp only [asked]
  cases result <;> exact ⟨rfl, rfl⟩

/-- Nor does a checkpoint. -/
theorem checkpoint_atOnce (p : Progress) (label : String) : p.AtOnce (p.checkpoint label).2 := by
  unfold Progress.checkpoint Scene.checkpoint Monitor.checkpoint
  cases p.scene.monitor.firstFailure <;> exact ⟨rfl, rfl⟩

/-- A job that takes no time is done, or the run is to quit. -/
theorem attempt_passes {job : Job} {s : Stage Unit} (ahead : m.progress.scene.Ahead)
    (doing : m.stance = .doing pacing (job :: rest)) (prompt : job.waits = false)
    (short : job.lasts plan m.progress.scene.service.trouble = 0) (atOnce : m.progress.AtOnce s.2) :
    Passes plan pacing m
      (m.attempt s (fun raised => .quitting pacing (.error raised)) fun _ m =>
        m.stand (.doing pacing rest))
      (job :: rest) := by
  obtain ⟨result, p⟩ := s
  have clock : p.scene.clock = m.progress.scene.clock := atOnce.clock
  have invoker : p.scene.invoker = m.progress.scene.invoker := atOnce.invoker
  cases result with
  | ok _ =>
    have ahead' : p.scene.Ahead := by
      unfold Scene.Ahead at ahead ⊢
      rw [clock, invoker]
      exact ahead
    have done := Awaits.of_doing (m := ⟨p, .doing pacing rest, m.ends⟩) rfl ahead' False
    refine .does doing (.done job rest) ?_
    rw [short, Moment.due_of_doing doing, ← clock]
    exact done
  | error raised =>
    refine .quits doing ?_ rfl clock
    intro job' head
    cases head
    exact ⟨prompt, short⟩

/-- A job begins that takes time. -/
theorem Passes.begins {job : Job} {jobs' : List Job} {span : Nat}
    (doing : m.stance = .doing pacing (job :: rest)) (leaves : job.Leaves rest jobs')
    (lasts : job.lasts plan m.progress.scene.service.trouble = span)
    (awaits : Awaits pacing jobs' (m.progress.scene.clock.now + span) m.ends False m') :
    Passes plan pacing m m' (job :: rest) := by
  refine .does doing leaves ?_
  rw [lasts, Moment.due_of_doing doing]
  exact awaits

variable (counted : pacing.period = .ok period) (positive : 1 ≤ period)
  (running : m.progress.scene.invoker.Running) (ahead : m.progress.scene.Ahead)

include counted positive running ahead

/-- A wait has more fuel than the loop can owe when it begins. -/
theorem sleep_awaits (span : Nat) :
    Awaits pacing rest (m.progress.scene.clock.now + span) m.ends False
      (m.sleep pacing span rest) := by
  have running' : (m.progress.scene.timer span).2.invoker.Running := running
  have ahead' : (m.progress.scene.timer span).2.Ahead := ahead
  have now : (m.progress.scene.timer span).2.clock.now = m.progress.scene.clock.now := rfl
  have owed :=
    Scene.settle_owed counted positive running' ahead' (m.progress.scene.clock.now + span)
  refine ⟨.waiting _ _, rfl, ⟨Scene.settle_ahead counted positive running' ahead', ?_⟩,
    settle_ticks _ _ _⟩
  intro _ _ _ _ waiting
  cases waiting
  rw [now] at owed
  refine Nat.le_trans owed ?_
  omega

/-- A delay of the service is waited for to its end. -/
theorem delay_awaits (span? : Option Nat) :
    Awaits pacing rest (m.progress.scene.clock.now + span?.getD 0) m.ends False
      (m.delay pacing span? rest) := by
  cases span? with
  | none =>
    have stands : (m.stand (.doing pacing rest)).stance = .doing pacing rest := rfl
    exact .of_doing stands ahead False
  | some span => exact sleep_awaits counted positive running ahead span

/-- So is a wait. -/
theorem wait_awaits {seconds : Number.Double} {pause : Pause}
    (paused : Pause.of seconds = .ok pause) :
    Awaits pacing rest (m.progress.scene.clock.now + spanOf seconds) m.ends False
      (m.wait pacing seconds rest) := by
  have running' : (m.progress.noteNap seconds).scene.invoker.Running := running
  have ahead' : (m.progress.noteNap seconds).scene.Ahead := ahead
  unfold Moment.wait
  rw [paused]
  cases pause with
  | timed span =>
    rw [spanOf_timed paused]
    exact sleep_awaits (m := { m with progress := m.progress.noteNap seconds }) counted
      positive running'
      ahead'
      span
  | passing =>
    rw [spanOf_passing paused]
    have settled := Scene.settle_ahead counted positive running' ahead'
    exact ⟨.doing, Scene.settle_now running', ⟨settled, fun _ _ _ _ => Stance.noConfusion⟩,
      settle_ticks _ _ _⟩

/-- A job that can be done takes as long as it lasts. -/
theorem work_passes {job : Job} (doing : m.stance = .doing pacing (job :: rest))
    (feasible : job.Feasible plan) :
    Passes plan pacing m (plan.work m pacing rest job) (job :: rest) := by
  cases job with
  | stop id grace => exact attempt_passes ahead doing rfl rfl (askStop_atOnce m.progress id grace)
  | start id => exact attempt_passes ahead doing rfl rfl (askStart_atOnce m.progress id)
  | stabilise =>
    obtain ⟨seconds, pause, ok, paused⟩ := feasible
    unfold Plan.work Progress.lift
    rw [ok]
    exact .begins doing (.done _ rest) (Settings.span_of_seconds ok)
      (wait_awaits counted positive running ahead paused)
  | step s =>
    cases s with
    | checkpoint label =>
        exact attempt_passes ahead doing rfl rfl (checkpoint_atOnce m.progress label)
    | wait kind seconds =>
      -- What is feasible can be counted, so the wait does not end the work.
      obtain ⟨pause, paused⟩ := feasible
      exact .begins doing (.done _ rest) rfl
        (wait_awaits (m := { m with progress := m.progress.note (.waiting seconds kind) })
          counted positive running ahead paused)
    | stop id =>
      unfold Plan.work
      rcases announceStop_cases plan m.progress id with ⟨grace, label, announced⟩ | ⟨unfeasible, _⟩
      · simp only [announced, Moment.attempt]
        exact .begins doing (.stop id grace rest) rfl
          (delay_awaits (m := { m with progress := m.progress.note (.shutdown label id) })
            counted positive running ahead _)
      · exact absurd feasible unfeasible
    | start id =>
      unfold Plan.work
      rcases announceStart_cases plan m.progress id with ⟨label, announced⟩ | ⟨unfeasible, _⟩
      · simp only [announced, Moment.attempt]
        exact .begins doing (.start id rest) rfl
          (delay_awaits (m := { m with progress := m.progress.note (.startup label id) })
            counted positive running ahead _)
      · exact absurd feasible unfeasible

omit ahead in
/-- What the next moment is, as far as time goes. -/
theorem next_passes {jobs : List Job} (ticking : Ticking m) (has : m.stance.Has pacing jobs)
    (feasible : ∀ job ∈ jobs, job.Feasible plan) (next : plan.Next m m') :
    Passes plan pacing m m' jobs := by
  obtain ⟨p, stance, ends⟩ := m
  have ahead : p.scene.Ahead := ticking.ahead
  cases has with
  | doing =>
    cases jobs with
    | nil =>
      cases next
      refine .quits rfl ?_ rfl rfl
      intro _ none
      cases none
    | cons job rest =>
      cases next
      exact work_passes counted positive running ahead rfl (feasible job List.mem_cons_self)
  | waiting goal fuel =>
    have owed := ticking.fuel _ _ _ _ rfl
    -- The wait is over only when the loop's next timer is not due before its end.
    have arrives (late : ∀ t, p.scene.invoker.task.next? = some t → goal.due ≤ t.due) :
        Passes plan pacing ⟨p, .waiting pacing goal fuel jobs, ends⟩
          ((⟨p, .waiting pacing goal fuel jobs, ends⟩ : Moment).arrive goal (.doing pacing jobs))
            jobs :=
      .waits rfl (.of_doing (m := (⟨p, .waiting pacing goal fuel jobs, ends⟩ : Moment).arrive goal
        (.doing pacing jobs)) rfl late _)
    rcases Plan.next_waiting rfl next with ⟨rfl, ends⟩ | ⟨t, left, rfl, timer, before, rfl⟩
    · refine arrives fun t timer => ?_
      rcases ends with rfl | late
      · exact Nat.le_of_lt (Task.due_lt_of_owed (Nat.le_zero.mp owed) timer)
      · have after := late t timer
        unfold Timer.Before at after
        omega
    · have due : t.due ≤ goal.due := by
        unfold Timer.Before at before
        omega
      have less := Scene.fire_owed counted positive running timer due
      have turn := Scene.fire_turn pacing running timer
      refine .waits rfl ⟨.waiting goal left, rfl, ⟨turn.ahead counted positive, ?_⟩, _, rfl, ?_⟩
      · intro _ _ _ _ waiting
        cases waiting
        have owed' : p.scene.invoker.task.owed goal.due ≤ left + 1 := owed
        exact Nat.le_of_succ_le_succ (Nat.le_trans less owed')
      · exact Scene.fireEnd_expired timer

end

namespace Plan

variable {plan : Plan} {scene : Scene Cluster} {m m' : Moment} {pacing : Pacing} {jobs : List Job}

/-- An invoker goes as fast as the settings say. -/
theorem pacing_eq (paced : plan.pacing = .ok pacing) :
    ∃ seconds limit, plan.settings.seconds plan.settings.period = .ok seconds ∧
      plan.settings.limitSeconds = .ok limit ∧ pacing = ⟨seconds, micros seconds, .of limit⟩ := by
  unfold Plan.pacing at paced
  cases ok : plan.settings.seconds plan.settings.period with
  | error fault =>
    rw [ok] at paced
    cases paced
  | ok seconds =>
    rw [ok] at paced
    cases limited : plan.settings.limitSeconds with
    | error fault =>
      rw [limited] at paced
      cases paced
    | ok limit =>
      rw [limited] at paced
      have made : Pacing.of seconds limit = .ok pacing := paced
      unfold Pacing.of at made
      split at made
      next => cases made
      next =>
        cases made
        exact ⟨seconds, limit, rfl, rfl, rfl⟩

/-- The delay between calls is the period of the settings. -/
theorem pacing_period (countable : plan.settings.Countable) (paced : plan.pacing = .ok pacing) :
    pacing.period = .ok (plan.settings.span plan.settings.period) := by
  obtain ⟨seconds, ok, _, counted, _⟩ := countable.period.timed
  obtain ⟨seconds', limit, ok', _, rfl⟩ := pacing_eq paced
  rw [ok] at ok'
  cases ok'
  exact counted

/-- The loop is never behind, and no wait runs out of fuel. -/
theorem Reached.ticking (countable : plan.settings.Countable)
    (positive : 1 ≤ plan.settings.span plan.settings.period) (reached : plan.Reached scene m)
    (has : m.stance.Has pacing jobs) : Ticking m := by
  refine Reached.induct_has (I := fun m _ _ => Ticking m) ?launched ?works reached has
  case launched =>
    intro m steps v pacing _ _ stance still
    refine (Awaits.of_doing stance ?_ False).ticking
    intro t timer
    rw [still.invoker] at timer
    cases timer
  case works =>
    intro m m' pacing jobs jobs' reached ticking running has next _ has'
    have sound := reached.sound countable
    have counted := pacing_period countable (sound.paced _ _ has)
    have passes := next_passes counted positive running ticking has (sound.feasible _ _ has) next
    cases passes with
    | waits _ awaits => exact awaits.ticking
    | does _ _ awaits => exact awaits.ticking
    | quits _ _ stance => exact absurd has' (Stance.idle (by rw [stance]; rfl) _ _)

theorem Reached.passes (countable : plan.settings.Countable)
    (positive : 1 ≤ plan.settings.span plan.settings.period) (reached : plan.Reached scene m)
    (has : m.stance.Has pacing jobs) (next : plan.Next m m') : Passes plan pacing m m' jobs := by
  have sound := reached.sound countable
  exact next_passes (pacing_period countable (sound.paced _ _ has)) positive
    (reached.works has next).1
    (reached.ticking countable positive has) has (sound.feasible _ _ has) next

/-- A wait is never over because it has no fuel left. -/
theorem Reached.fuel_enough (countable : plan.settings.Countable)
    (positive : 1 ≤ plan.settings.span plan.settings.period) (reached : plan.Reached scene m)
    {goal t : Timer}
    (waiting : m.stance = .waiting pacing goal 0 jobs)
    (timer : m.progress.scene.invoker.task.next? = some t) :
    ¬ t.Before goal := by
  have has : m.stance.Has pacing jobs := by
    rw [waiting]
    exact .waiting goal 0
  have owed := (reached.ticking countable positive has).fuel _ _ _ _ waiting
  have late := Task.due_lt_of_owed (Nat.le_zero.mp owed) timer
  unfold Timer.Before
  omega

end Plan

end Run

end Drill
