import Drill.Proofs.Control
import Drill.Proofs.Course

/-!
# What a run does while the invoker works

Every moment while the invoker works is a wait or the start of a job, and `Works` lists what the
next one can be: time passes and the loop takes a turn at most (`Drift`), or something is done
(`Acts`): a checkpoint passes, a node is stopped or started, or the run is to quit and says why.
`Works.stirs` is what is left of this for the scene. `Quits` says what quitting does, and
`Progress.Released` what letting go does. Main statements: `next_works`, the next moment is one of
these, `Works.running`, the loop keeps running, and `next_quits`.
-/

namespace Drill.Run

open Number (Double)

/-- Two progresses differ in the clock, the log and the notes of waits at most. -/
structure Progress.Calm (p p' : Progress) : Prop where
  service : p'.scene.service = p.scene.service
  monitor : p'.scene.monitor = p.scene.monitor
  invoker : p'.scene.invoker = p.scene.invoker
  live : p'.live = p.live
  checkpoints : p'.checkpoints = p.checkpoints
  toggled : p'.toggled = p.toggled

namespace Progress.Calm

theorem refl (p : Progress) : p.Calm p := ⟨rfl, rfl, rfl, rfl, rfl, rfl⟩

theorem trans {p q r : Progress} (pq : p.Calm q) (qr : q.Calm r) : p.Calm r :=
  ⟨qr.service.trans pq.service, qr.monitor.trans pq.monitor, qr.invoker.trans pq.invoker,
    qr.live.trans pq.live, qr.checkpoints.trans pq.checkpoints, qr.toggled.trans pq.toggled⟩

theorem note (p : Progress) (e : Log.Event) : p.Calm (p.note e) := ⟨rfl, rfl, rfl, rfl, rfl, rfl⟩

theorem noteNap (p : Progress) (seconds : Double) : p.Calm (p.noteNap seconds) :=
  ⟨rfl, rfl, rfl, rfl, rfl, rfl⟩

theorem timer (p : Progress) (span : Nat) : p.Calm { p with scene := (p.scene.timer span).2 } :=
  ⟨rfl, rfl, rfl, rfl, rfl, rfl⟩

theorem reach (p : Progress) (t : Timer) : p.Calm { p with scene.clock := p.scene.clock.reach t } :=
  ⟨rfl, rfl, rfl, rfl, rfl, rfl⟩

/-- While a run is calm its invoker keeps running. -/
theorem running {p p' : Progress} (calm : p.Calm p') (running : p.scene.invoker.Running) :
    p'.scene.invoker.Running := by
  rw [calm.invoker]
  exact running

end Progress.Calm

/-- Between two moments nothing happens, or the loop takes a turn. -/
inductive Drift (pacing : Pacing) (m m' : Moment) : Prop where
  | calm (calm : m.progress.Calm m'.progress) (ends : m'.ends = m.ends)
  | turn {q : Progress} {e : Option TickEnd} {s : Scene Cluster} (calm : m.progress.Calm q)
      (turn : Scene.Turn pacing q.scene e s) (progress : m'.progress = { q with scene := s })
      (ends : m'.ends = m.ends ++ e.toList)

/-- The invoker works, and these jobs are to be done when it does not wait any more. -/
inductive Stance.Has (pacing : Pacing) (jobs : List Job) : Stance → Prop where
  | doing : Has pacing jobs (.doing pacing jobs)
  | waiting (goal : Timer) (fuel : Nat) : Has pacing jobs (.waiting pacing goal fuel jobs)

/-- Was the invoker started? If the run is letting go or over, this says so only if no fault ended
it. -/
def Stance.isLate : Stance → Bool
  | .doing _ _ | .waiting _ _ _ _ | .quitting _ _ | .releasing (.ok ()) | .finished (.ok ()) => true
  | .checking | .acquiring _ | .gathering _ | .alone _ _ | .ringing _ | .hearing _ | .launching _
  | .releasing (.error _) | .finished (.error _) => false

/-- Jobs are done late in a run only. -/
theorem Stance.Has.isLate {pacing : Pacing} {jobs : List Job} {stance : Stance}
    (has : stance.Has pacing jobs) : stance.isLate = true := by
  cases has <;> rfl

/-- The jobs that are left are determined by where the run stands. -/
theorem Stance.Has.unique {pacing pacing' : Pacing} {jobs jobs' : List Job} {stance : Stance}
    (has : stance.Has pacing jobs) (has' : stance.Has pacing' jobs') : jobs = jobs' := by
  cases has <;> cases has' <;> rfl

/-- So is the pacing. -/
theorem Stance.Has.pacing_eq {pacing pacing' : Pacing} {jobs jobs' : List Job} {stance : Stance}
    (has : stance.Has pacing jobs) (has' : stance.Has pacing' jobs') : pacing = pacing' := by
  cases has <;> cases has' <;> rfl

/-- Does the invoker work? -/
def Stance.isBusy : Stance → Bool
  | .doing _ _ | .waiting _ _ _ _ => true
  | .checking | .acquiring _ | .gathering _ | .alone _ _ | .ringing _ | .hearing _ | .launching _
  | .quitting _ _ | .releasing _ | .finished _ => false

/-- Where the invoker does not work, there are no jobs. -/
theorem Stance.idle {stance : Stance} (idle : stance.isBusy = false) (pacing : Pacing)
    (jobs : List Job) :
    ¬ stance.Has pacing jobs := by
  intro has
  cases has <;> cases idle

/-- A run that is busy has jobs left, perhaps none. -/
theorem Stance.has_of_isBusy {stance : Stance} (busy : stance.isBusy = true) :
    ∃ pacing jobs, stance.Has pacing jobs := by
  cases stance with
  | doing => exact ⟨_, _, .doing⟩
  | waiting => exact ⟨_, _, .waiting _ _⟩
  | checking | acquiring | gathering | alone | ringing | hearing | launching | quitting | releasing
  | finished => cases busy

theorem Stance.Has.isBusy {pacing : Pacing} {jobs : List Job} {stance : Stance}
    (has : stance.Has pacing jobs) : stance.isBusy = true := by
  cases has <;> rfl

theorem Stance.has_of_doing {stance : Stance} {pacing : Pacing} {jobs : List Job}
    (doing : stance = .doing pacing jobs) : stance.Has pacing jobs := by
  rw [doing]
  exact .doing

/-- Where the invoker was not started, it neither works nor is it to be closed. -/
theorem Stance.idle_of_isLate {stance : Stance} (early : stance.isLate = false) :
    stance.isBusy = false ∧ ∀ pacing result, stance ≠ .quitting pacing result := by
  constructor
  · unfold Stance.isLate at early
    split at early <;> first | rfl | cases early
  · intro pacing result quitting
    rw [quitting] at early
    cases early

/-- Jobs before and after a moment at which none of them has an effect. -/
inductive Effectless : List Job → List Job → Prop where
  | same (jobs : List Job) : Effectless jobs jobs
  | stabilise (rest : List Job) : Effectless (.stabilise :: rest) rest
  | wait (kind : WaitKind) (seconds : Double) (rest : List Job) :
      Effectless (.step (.wait kind seconds) :: rest) rest
  | stop (id : String) (grace : Int) (rest : List Job) :
      Effectless (.step (.stop id) :: rest) (.stop id grace :: rest)
  | start (id : String) (rest : List Job) :
      Effectless (.step (.start id) :: rest) (.start id :: rest)

/-- What holds of all jobs, and of every request to a node, goes on to hold of all jobs. -/
theorem Effectless.forall_mem {P : Job → Prop} {jobs jobs' : List Job}
    (effectless : Effectless jobs jobs')
    (stop : ∀ id grace, P (.stop id grace)) (start : ∀ id, P (.start id))
    (all : ∀ job ∈ jobs, P job) :
    ∀ job ∈ jobs', P job := by
  cases effectless with
  | same => exact all
  | stabilise | wait => exact (List.forall_mem_cons.mp all).2
  | stop id grace => exact List.forall_mem_cons.mpr ⟨stop id grace, (List.forall_mem_cons.mp all).2⟩
  | start id => exact List.forall_mem_cons.mpr ⟨start id, (List.forall_mem_cons.mp all).2⟩

/-- The job's durations can be counted, and its node is one of the plan's. -/
def Job.Feasible (plan : Plan) : Job → Prop
  | .stabilise => ∃ seconds pause,
      plan.settings.seconds plan.settings.stability = .ok seconds ∧ Pause.of seconds = .ok pause
  | .step (.wait _ seconds) => ∃ pause, Pause.of seconds = .ok pause
  | .step (.stop id) => (∃ label, plan.source.label id = .ok label) ∧ ∃ seconds grace,
      plan.settings.seconds plan.settings.grace = .ok seconds ∧
      Progress.graceMillis seconds = .ok grace
  | .step (.start id) => ∃ label, plan.source.label id = .ok label
  | .step (.checkpoint _) | .stop _ _ | .start _ => True

/-- What the next moment can be when a job is done that takes no time, or none is left. -/
inductive Acts (plan : Plan) (pacing : Pacing) (m : Moment) : List Job → Moment → Prop where
  | passed {label : String} {rest : List Job} {p : Progress} (calm : m.progress.Calm p)
      (pure : m.progress.scene.monitor.firstFailure = none) :
      Acts plan pacing m (.step (.checkpoint label) :: rest)
        ⟨{ p with checkpoints := p.checkpoints ++ [label] }, .doing pacing rest, m.ends⟩
  | stopped {id : String} {grace : Int} {rest : List Job} {c : Cluster}
      (honored : m.progress.scene.service.stop id grace = (.ok (), c)) :
      Acts plan pacing m (.stop id grace :: rest)
        ⟨{ m.progress with
            scene.service := c
            live := m.progress.live.mark id .stopped
            toggled := m.progress.toggled ++ [id] }, .doing pacing rest, m.ends⟩
  | started {id : String} {rest : List Job} {c : Cluster}
      (honored : m.progress.scene.service.start id = (.ok (), c)) :
      Acts plan pacing m (.start id :: rest)
        ⟨{ m.progress with
            scene.service := c
            live := m.progress.live.mark id .running }, .doing pacing rest, m.ends⟩
  /-- Nothing is left to do. -/
  | done : Acts plan pacing m [] (m.stand (.quitting pacing (.ok ())))
  /-- A job cannot be done because of its node or its durations. -/
  | unfeasible {job : Job} {rest : List Job} {p : Progress} {raised : Raised}
      (unfeasible : ¬ job.Feasible plan) (calm : m.progress.Calm p) :
      Acts plan pacing m (job :: rest) ⟨p, .quitting pacing (.error raised), m.ends⟩
  | violated {label : String} {rest : List Job} {p : Progress} {first : Fault}
      (calm : m.progress.Calm p) (failed : m.progress.scene.monitor.firstFailure = some first) :
      Acts plan pacing m (.step (.checkpoint label) :: rest)
        ⟨p, .quitting pacing
          (.error (.plain (.violation label first m.progress.scene.monitor.invocations))), m.ends⟩
  | stopRefused {id : String} {grace : Int} {rest : List Job} {fault : Fault} {c : Cluster}
      (refused : m.progress.scene.service.stop id grace = (.error fault, c)) :
      Acts plan pacing m (.stop id grace :: rest)
        ⟨{ m.progress with scene.service := c },
          .quitting pacing (.error (Progress.refusal "Stopping" id .stop fault)), m.ends⟩
  | startRefused {id : String} {rest : List Job} {fault : Fault} {c : Cluster}
      (refused : m.progress.scene.service.start id = (.error fault, c)) :
      Acts plan pacing m (.start id :: rest)
        ⟨{ m.progress with scene.service := c },
          .quitting pacing (.error (Progress.refusal "Starting" id .start fault)), m.ends⟩

/-- What the next moment can be while the invoker works. -/
inductive Works (plan : Plan) (pacing : Pacing) (m : Moment) (jobs : List Job)
    (m' : Moment) : Prop where
  /-- Time passes, or a job without an effect is done. -/
  | drift {jobs' : List Job} (busy : m.stance ≠ .doing pacing [])
      (effectless : Effectless jobs jobs')
      (stance : m'.stance.Has pacing jobs') (drift : Drift pacing m m')
  | acts (stance : m.stance = .doing pacing jobs) (acts : Acts plan pacing m jobs m')

section

variable (pacing : Pacing) {plan : Plan} {m m' : Moment} {rest : List Job}

/-- Time that passes does nothing to the cluster but make calls. -/
theorem Drift.onlyCalls (drift : Drift pacing m m') :
    m.progress.scene.service.OnlyCalls m'.progress.scene.service := by
  cases drift with
  | calm calm ends =>
    rw [calm.service]
    exact .refl _
  | turn calm turn progress ends =>
    rw [progress, ← calm.service]
    exact turn.onlyCalls

/-- Time that passes tells the run nothing of the nodes. -/
theorem Drift.live (drift : Drift pacing m m') : m'.progress.live = m.progress.live := by
  cases drift with
  | calm calm ends => exact calm.live
  | turn calm turn progress ends =>
    rw [progress]
    exact calm.live

/-- A run that lets the loop go on drifts. -/
theorem drift_settle (running : m.progress.scene.invoker.Running) (stance : Stance) :
    Drift pacing m (m.settle pacing stance) := by
  rcases Scene.settle_turn pacing running with ⟨nothing, same⟩ | turn
  · refine .calm ⟨?_, ?_, ?_, rfl, rfl, rfl⟩ ?_
    · show (m.progress.scene.settle Cluster.service pacing).service = _
      rw [same]
    · show (m.progress.scene.settle Cluster.service pacing).monitor = _
      rw [same]
    · show (m.progress.scene.settle Cluster.service pacing).invoker = _
      rw [same]
    · show m.ends ++ (m.progress.scene.settleEnd pacing).toList = m.ends
      rw [nothing]
      exact List.append_nil _
  · exact .turn (.refl _) turn rfl rfl

/-- A drift may follow on nothing. -/
theorem Drift.after {p : Progress} {stance : Stance} (calm : m.progress.Calm p)
    (drift : Drift pacing ⟨p, stance, m.ends⟩ m') : Drift pacing m m' := by
  cases drift with
  | calm calm' ends => exact .calm (calm.trans calm') ends
  | turn calm' turn progress ends => exact .turn (calm.trans calm') turn progress ends

/-- To wait for a timer is a drift. -/
theorem drift_sleep (running : m.progress.scene.invoker.Running) (span : Nat) :
    Drift pacing m (m.sleep pacing span rest) := by
  have calm := Progress.Calm.timer m.progress span
  exact .after pacing calm
    (drift_settle pacing (m := { m with progress.scene := (m.progress.scene.timer span).2 })
      (calm.running running) _)

/-- So is a delay of the service. -/
theorem drift_delay (rest : List Job) (running : m.progress.scene.invoker.Running)
    (span? : Option Nat) :
    (m.delay pacing span? rest).stance.Has pacing rest ∧
    Drift pacing m (m.delay pacing span? rest) := by
  cases span? with
  | none => exact ⟨.doing, .calm (.refl _) rfl⟩
  | some span => exact ⟨.waiting _ _, drift_sleep pacing running span⟩

/-- A wait of the script begins, unless it cannot be counted. -/
theorem wait_cases (running : m.progress.scene.invoker.Running) (seconds : Double) :
    ((m.wait pacing seconds rest).stance.Has pacing rest ∧
      Drift pacing m (m.wait pacing seconds rest)) ∨
      ((¬ ∃ pause, Pause.of seconds = .ok pause) ∧ ∃ p raised, m.progress.Calm p ∧
        m.wait pacing seconds rest = ⟨p, .quitting pacing (.error raised), m.ends⟩) := by
  have calm := Progress.Calm.noteNap m.progress seconds
  unfold Moment.wait
  cases Pause.of seconds with
  | error fault =>
    refine .inr ⟨?_, _, _, calm, rfl⟩
    rintro ⟨_, h⟩
    cases h
  | ok pause =>
    have noted : (m.progress.noteNap seconds).scene.invoker.Running := calm.running running
    cases pause with
    | passing =>
      exact .inl ⟨.doing, .after pacing calm (drift_settle pacing
        (m := { m with progress := m.progress.noteNap seconds }) noted _)⟩
    | timed span =>
      exact .inl ⟨.waiting _ _, .after pacing calm (drift_sleep pacing
        (m := { m with progress := m.progress.noteNap seconds }) noted span)⟩

/-- A node is announced to be stopped, unless it or the grace period is unknown. -/
theorem announceStop_cases (plan : Plan) (p : Progress) (id : String) :
    (∃ grace label, p.announceStop plan.settings plan.source id =
      (.ok grace, p.note (.shutdown label id))) ∨
      ((¬ (Job.step (.stop id)).Feasible plan) ∧
        ∃ raised, p.announceStop plan.settings plan.source id = (.error raised, p)) := by
  unfold Progress.announceStop Job.Feasible
  cases known : plan.source.label id with
  | error fault =>
    refine .inr ⟨?_, _, rfl⟩
    rintro ⟨⟨_, h⟩, _⟩
    rw [known] at h
    cases h
  | ok label =>
    cases plan.settings.seconds plan.settings.grace with
    | error fault =>
      refine .inr ⟨?_, _, rfl⟩
      rintro ⟨_, _, _, h, _⟩
      cases h
    | ok seconds =>
      cases millis : Progress.graceMillis seconds with
      | ok grace =>
        refine .inl ⟨grace, label, ?_⟩
        simp [millis]
      | error fault =>
        refine .inr ⟨?_, .plain fault, ?_⟩
        · rintro ⟨_, _, _, h, h'⟩
          cases h
          rw [millis] at h'
          cases h'
        · simp [millis]

/-- A node is announced to be started, unless it is unknown. -/
theorem announceStart_cases (plan : Plan) (p : Progress) (id : String) :
    (∃ label, p.announceStart plan.source id = (.ok (), p.note (.startup label id))) ∨
      ((¬ (Job.step (.start id)).Feasible plan) ∧
        ∃ raised, p.announceStart plan.source id = (.error raised, p)) := by
  unfold Progress.announceStart Progress.lift Job.Feasible
  cases known : plan.source.label id with
  | ok label => exact .inl ⟨label, rfl⟩
  | error fault =>
    refine .inr ⟨?_, _, rfl⟩
    rintro ⟨_, h⟩
    rw [known] at h
    cases h

/-- A stop that is asked for is what the job of a stop does. -/
theorem askStop_acts (id : String) (grace : Int) :
    Acts plan pacing m (.stop id grace :: rest) (plan.work m pacing rest (.stop id grace)) := by
  unfold Plan.work Progress.askStop Progress.onCluster
  obtain ⟨result, c, asked⟩ : ∃ result c, m.progress.scene.service.stop id grace = (result, c) :=
    ⟨_, _, rfl⟩
  simp only [asked]
  cases result with
  | ok _ => exact .stopped asked
  | error fault => exact .stopRefused asked

/-- A start that is asked for is what the job of a start does. -/
theorem askStart_acts (id : String) :
    Acts plan pacing m (.start id :: rest) (plan.work m pacing rest (.start id)) := by
  unfold Plan.work Progress.askStart Progress.onCluster
  obtain ⟨result, c, asked⟩ : ∃ result c, m.progress.scene.service.start id = (result, c) :=
    ⟨_, _, rfl⟩
  simp only [asked]
  cases result with
  | ok _ => exact .started asked
  | error fault => exact .startRefused asked

/-- A checkpoint is passed, or it ends the work. -/
theorem checkpoint_acts (label : String) :
    Acts plan pacing m (.step (.checkpoint label) :: rest)
      (plan.work m pacing rest (.step (.checkpoint label))) := by
  unfold Plan.work Progress.checkpoint Scene.checkpoint Monitor.checkpoint
  cases failed : m.progress.scene.monitor.firstFailure with
  | none => exact .passed (.note m.progress _) failed
  | some first => exact .violated (.note m.progress _) failed

/-- What the next moment is when a job is to be done. -/
theorem work_works (running : m.progress.scene.invoker.Running) (job : Job)
    (stance : m.stance = .doing pacing (job :: rest)) :
    Works plan pacing m (job :: rest) (plan.work m pacing rest job) := by
  have busy : m.stance ≠ .doing pacing [] := by simp [stance]
  cases job with
  | stop id grace => exact .acts stance (askStop_acts pacing id grace)
  | start id => exact .acts stance (askStart_acts pacing id)
  | stabilise =>
    -- The wait for stability was not announced, so nothing is noted down before it.
    unfold Plan.work Progress.lift
    cases seconds : plan.settings.seconds plan.settings.stability with
    | error fault =>
      refine .acts stance (.unfeasible ?_ (.refl m.progress))
      rintro ⟨_, _, h, _⟩
      rw [seconds] at h
      cases h
    | ok s =>
      -- A span that can be counted makes a drift; any other one ends the work.
      rcases wait_cases pacing running s with ⟨stance', drift⟩ | ⟨uncounted, p, raised, calm, ends⟩
      · exact .drift busy (.stabilise rest) stance' drift
      · show Works plan pacing m _ (m.wait pacing s rest)
        rw [ends]
        refine .acts stance (.unfeasible ?_ calm)
        rintro ⟨_, pause, h, h'⟩
        rw [seconds] at h
        cases h
        exact uncounted ⟨pause, h'⟩
  | step s =>
    cases s with
    | checkpoint label => exact .acts stance (checkpoint_acts pacing label)
    | wait kind seconds =>
      have calm := Progress.Calm.note m.progress (.waiting seconds kind)
      have noted : (m.progress.note (.waiting seconds kind)).scene.invoker.Running :=
        calm.running running
      unfold Plan.work
      rcases wait_cases pacing
          (m := { m with progress := m.progress.note (.waiting seconds kind) }) noted seconds with
        ⟨stance', drift⟩ | ⟨uncounted, p, raised, calm', ends⟩
      · exact .drift busy (.wait kind seconds rest) stance' (.after pacing calm drift)
      · dsimp only
        rw [ends]
        exact .acts stance (.unfeasible uncounted (calm.trans calm'))
    | stop id =>
      unfold Plan.work
      rcases announceStop_cases plan m.progress id with ⟨grace, label, announced⟩ |
        ⟨unfeasible, raised, unannounced⟩
      -- The delay is waited for first, and the request itself stays to be made.
      · have calm := Progress.Calm.note m.progress (.shutdown label id)
        simp only [announced, Moment.attempt]
        obtain ⟨stance', drift⟩ := drift_delay pacing (.stop id grace :: rest)
          (m := { m with progress := m.progress.note (.shutdown label id) }) (calm.running running)
          m.progress.scene.service.trouble.stopDelay
        exact .drift busy (.stop id grace rest) stance' (.after pacing calm drift)
      · simp only [unannounced, Moment.attempt]
        exact .acts stance (.unfeasible unfeasible (.refl m.progress))
    | start id =>
      unfold Plan.work
      rcases announceStart_cases plan m.progress id with ⟨label, announced⟩ |
        ⟨unfeasible, raised, unannounced⟩
      · have calm := Progress.Calm.note m.progress (.startup label id)
        simp only [announced, Moment.attempt]
        obtain ⟨stance', drift⟩ := drift_delay pacing (.start id :: rest)
          (m := { m with progress := m.progress.note (.startup label id) }) (calm.running running)
          m.progress.scene.service.trouble.startDelay
        exact .drift busy (.start id rest) stance' (.after pacing calm drift)
      · simp only [unannounced, Moment.attempt]
        exact .acts stance (.unfeasible unfeasible (.refl m.progress))

/-- What the next moment is while the invoker works. -/
theorem next_works {jobs : List Job} (running : m.progress.scene.invoker.Running)
    (stance : m.stance.Has pacing jobs) (next : plan.next m = some m') :
    Works plan pacing m jobs m' := by
  obtain ⟨p, stance', ends⟩ := m
  cases stance with
  | doing =>
    cases jobs with
    | nil =>
      cases next
      exact .acts rfl .done
    | cons job rest =>
      cases next
      exact work_works pacing running job rfl
  | waiting goal fuel =>
    -- Either a timer of the invoker comes first, or the run's own one ends the wait.
    have busy : Stance.waiting pacing goal fuel jobs ≠ .doing pacing [] := Stance.noConfusion
    rcases Plan.next_waiting rfl next with ⟨rfl, _⟩ | ⟨t, left, rfl, timer, _, rfl⟩
    · exact .drift busy (.same jobs) .doing (.calm (.reach p goal) rfl)
    · exact .drift busy (.same jobs) (.waiting goal left)
        (.turn (.reach p t) (Scene.fire_turn pacing running timer) rfl rfl)

/-- What work does to the scene: nothing that counts but a request to a node, or the loop takes a
turn. -/
inductive Moment.Stirs (pacing : Pacing) (m m' : Moment) : Prop where
  | rests (control : m.progress.scene.service.OnlyControl m'.progress.scene.service)
      (monitor : m'.progress.scene.monitor = m.progress.scene.monitor)
      (invoker : m'.progress.scene.invoker = m.progress.scene.invoker) (ends : m'.ends = m.ends)
  | turns {s : Scene Cluster} {e : Option TickEnd} (service : s.service = m.progress.scene.service)
      (monitor : s.monitor = m.progress.scene.monitor)
        (invoker : s.invoker = m.progress.scene.invoker)
      (turn : Scene.Turn pacing s e m'.progress.scene) (ends : m'.ends = m.ends ++ e.toList)

/-- Whatever is done, the loop gets to its turns. -/
theorem Works.stirs {jobs : List Job} (works : Works plan pacing m jobs m') :
    m.Stirs pacing m' := by
  have still (calm : m.progress.Calm m'.progress) (ends : m'.ends = m.ends) :
    m.Stirs pacing m' := by
    refine .rests ?_ calm.monitor calm.invoker ends
    rw [calm.service]
    exact .refl _
  cases works with
  | drift busy effectless stance drift =>
    cases drift with
    | calm calm ends => exact still calm ends
    | turn calm turn progress ends =>
      refine .turns calm.service calm.monitor calm.invoker ?_ ends
      rw [progress]
      exact turn
  | acts stance acts =>
    cases acts with
    | passed calm => exact .rests (calm.service ▸ .refl _) calm.monitor calm.invoker rfl
    | unfeasible _ calm | violated calm => exact still calm rfl
    | stopped asked | stopRefused asked => exact .rests (Cluster.stop_frame asked) rfl rfl rfl
    | started asked | startRefused asked => exact .rests (Cluster.start_frame asked) rfl rfl rfl
    | done => exact .rests (.refl _) rfl rfl rfl

/-- The loop keeps running while the invoker works. -/
theorem Works.running {jobs : List Job} (works : Works plan pacing m jobs m')
    (running : m.progress.scene.invoker.Running) : m'.progress.scene.invoker.Running := by
  cases works.stirs pacing with
  | rests _ _ invoker =>
    rw [invoker]
    exact running
  | turns _ _ invoker turn =>
    rw [← invoker] at running
    exact turn.running pacing running

/-- Work goes on, or the run is to quit. -/
theorem Works.stance {jobs : List Job} (works : Works plan pacing m jobs m') :
    (∃ jobs', m'.stance.Has pacing jobs') ∨ ∃ result, m'.stance = .quitting pacing result := by
  cases works with
  | drift busy effectless stance drift => exact .inl ⟨_, stance⟩
  | acts stance acts =>
    cases acts with
    | passed | stopped | started => exact .inl ⟨_, .doing⟩
    | done | unfeasible | violated | stopRefused | startRefused => exact .inr ⟨_, rfl⟩

end

/-- What a run comes to when the invoker was closed, whose loop did this last. -/
def closing (task : Task) (result : Except Raised Unit) : Except Raised Unit :=
  match Scene.ending task with
  | .ok () => result
  | .error fault => .error (.plain fault)

/-- The moment after the invoker was closed. -/
structure Quits (result : Except Raised Unit) (m m' : Moment) : Prop where
  service : m'.progress.scene.service =
    if m.progress.scene.invoker.task.isCalling then m.progress.scene.service.leave
    else m.progress.scene.service
  monitor : m'.progress.scene.monitor = m.progress.scene.monitor
  invoker : m'.progress.scene.invoker
    = ⟨.cancelled, m.progress.scene.invoker.ticks, m.progress.scene.invoker.task.cut, false⟩
  live : m'.progress.live = m.progress.live
  checkpoints : m'.progress.checkpoints = m.progress.checkpoints
  toggled : m'.progress.toggled = m.progress.toggled
  stance : m'.stance = .releasing (closing m.progress.scene.invoker.task result)
  ends : m'.ends = m.ends

/-- All that quitting does to the cluster is that a call which waits gives in. -/
theorem Quits.onlyCalls {result : Except Raised Unit} {m m' : Moment} (quits : Quits result m m') :
    m.progress.scene.service.OnlyCalls m'.progress.scene.service := by
  rw [quits.service]
  split
  next => exact Cluster.onlyCalls_leave _
  next => exact .refl _

/-- The progress after the service was let go. -/
structure Progress.Released (p p' : Progress) : Prop where
  service : p'.scene.service
    = { p.scene.service with handles := Cluster.changeLast Handle.closed p.scene.service.handles }
  monitor : p'.scene.monitor = p.scene.monitor
  invoker : p'.scene.invoker = p.scene.invoker
  live : p'.live = p.live
  checkpoints : p'.checkpoints = p.checkpoints
  toggled : p'.toggled = p.toggled

/-- Handles are given back without a request to a node. -/
theorem Progress.Released.onlyCalls {p p' : Progress} (released : p.Released p') :
    p.scene.service.OnlyCalls p'.scene.service := ⟨_, _, _, released.service⟩

theorem released (p : Progress) : p.Released (Plan.release p) := by
  have closed := p.scene.service.release_snd
  unfold Plan.release Progress.onCluster
  obtain ⟨result, c, h⟩ : ∃ result c, p.scene.service.release = (result, c) := ⟨_, _, rfl⟩
  rw [h] at closed
  simp only [h]
  cases result with
  | ok _ => exact ⟨closed, rfl, rfl, rfl, rfl, rfl⟩
  | error fault => exact ⟨closed, rfl, rfl, rfl, rfl, rfl⟩

/-- What the next moment is when the run is to quit. -/
theorem next_quits {plan : Plan} {m m' : Moment} {pacing : Pacing} {result : Except Raised Unit}
    (running : m.progress.scene.invoker.Running) (stance : m.stance = .quitting pacing result)
    (next : plan.next m = some m') : Quits result m m' := by
  obtain ⟨p, _, ends⟩ := m
  subst stance
  have closed := Scene.close_eq pacing running
  unfold Plan.next Plan.quit at next
  simp only [closed] at next
  have monitor : p.scene.cancel.monitor = p.scene.monitor := by
    unfold Scene.cancel
    split <;> rfl
  cases ending : Scene.ending p.scene.invoker.task with
  | ok _ =>
    rw [ending] at next
    cases next
    exact ⟨rfl, monitor, rfl, rfl, rfl, rfl, by simp [closing, ending], rfl⟩
  | error fault =>
    rw [ending] at next
    cases next
    exact ⟨rfl, monitor, rfl, rfl, rfl, rfl, by simp [closing, ending], rfl⟩

/-- Only a line of the log lies between the last moment of a run and what is left of it. -/
theorem Plan.conduct_calm (plan : Plan) (scene : Scene Cluster) :
    ∃ m result, plan.Reached scene m ∧ m.stance = .finished result ∧
      m.progress.Calm (plan.conduct scene).2 := by
  obtain ⟨m, reached, ⟨raised, stance, ends⟩ | ⟨stance, ends⟩⟩ := plan.leads_conduct scene
  · refine ⟨m, _, reached, stance, ?_⟩
    rw [ends]
    exact .refl m.progress
  · refine ⟨m, _, reached, stance, ?_⟩
    rw [ends]
    exact .note m.progress _

end Drill.Run
