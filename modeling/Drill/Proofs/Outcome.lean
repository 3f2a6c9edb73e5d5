import Drill.Proofs.Tally

/-!
# What a run ends with

`Fatal` lists the moments that end a run and the fault that each of them ends it with: a script that
fails its check, a service that is not handed out, a first call that fails, a checkpoint after a
failed tick, and a node that does not stop or start. When all durations can be counted
(`Settings.Countable`), nothing else does: no job is unfeasible, and the loop is alive until it is
closed, so closing it brings up no fault of its own (`closing_of_alive`).

`Sound` carries this from moment to moment, with the fatal moment that is to blame once there is a
fault. The other way round, the moment after a fatal one has the fault (`next_of_fatal`), and from
there on it stays (`Reached.ends_with`). Main statement: `conduct_error_iff`, a run ends with a
fault exactly if it comes to a fatal moment.
-/

namespace Drill

open Number (Double)

namespace Number.Double

theorem isBelowZero_of_isPositive {x : Double} (positive : x.isPositive = true) :
    x.isBelowZero = false := by
  cases x with
  | nan => rfl
  | infinite s | finite s m => cases s <;> simp_all [isPositive, isBelowZero]

theorem isZero_of_isPositive {x : Double} (positive : x.isPositive = true) : x.isZero = false := by
  cases x with
  | nan | infinite s => rfl
  | finite s m => cases s <;> simp_all [isPositive, isZero]

end Number.Double

namespace Settings

/-- A duration is a positive number of seconds and a finite number of microseconds. -/
def Counts (s : Settings) (m : Millis) : Prop :=
  ∃ seconds span, s.seconds m = .ok seconds ∧ seconds.isPositive = true ∧ micros seconds = .ok span

instance (s : Settings) (m : Millis) : Decidable (s.Counts m) :=
  match seconds : s.seconds m with
  | .error fault => isFalse (by
      intro ⟨_, _, ok, _⟩
      rw [seconds] at ok
      cases ok)
  | .ok x =>
    match counted : micros x with
    | .error fault => isFalse (by
        intro ⟨_, _, ok, _, ok'⟩
        rw [seconds] at ok
        cases ok
        rw [counted] at ok'
        cases ok')
    | .ok span =>
      if positive : x.isPositive = true then isTrue ⟨x, span, seconds, positive, counted⟩
      else isFalse (by
        intro ⟨_, _, ok, positive', _⟩
        rw [seconds] at ok
        cases ok
        exact positive positive')

/-- Of the settings only the factor matters to the length of a duration. -/
theorem seconds_congr {s s' : Settings} (factor : s'.factor = s.factor) (m : Millis) :
    s'.seconds m = s.seconds m := by
  unfold Settings.seconds Settings.stretchInt Settings.stretch
  rw [factor]

/-- Whether a duration counts depends on the factor only. -/
theorem Counts.congr {s s' : Settings} {m : Millis} (factor : s'.factor = s.factor)
    (counts : s.Counts m) :
    s'.Counts m := by
  unfold Settings.Counts
  rw [seconds_congr factor]
  exact counts

/-- All durations can be counted, in the units in which a run counts them. -/
structure Countable (s : Settings) : Prop where
  formation : s.Counts s.formation
  stability : s.Counts s.stability
  outage : s.Counts s.outage
  restart : s.Counts (s.restart.getD s.stability)
  period : s.Counts s.period
  limit : ∀ m, s.callLimit = some m → s.Counts m
  grace : ∃ seconds millis, s.seconds s.grace = .ok seconds ∧
    Run.Progress.graceMillis seconds = .ok millis

/-- A duration that counts can be waited for. -/
theorem Counts.pause {s : Settings} {m : Millis} (counts : s.Counts m) {seconds : Double}
    (ok : s.seconds m = .ok seconds) : ∃ pause, Pause.of seconds = .ok pause := by
  obtain ⟨seconds', span, ok', positive, counted⟩ := counts
  rw [ok'] at ok
  cases ok
  refine ⟨.timed span, ?_⟩
  unfold Pause.of
  rw [if_pos positive, counted]
  rfl

end Settings

namespace Run

/-- A node's refusal is a fault of control that names the node and the operation. -/
theorem refusal_eq {fault : Fault} {id : String} {operation : Operation} (doing : String)
    (named : fault.during id operation = fault) :
    ∃ text cause, Progress.refusal doing id operation fault
      = ⟨.control text id operation.name, cause⟩ := by
  cases fault with
  | control text node op =>
    cases named
    exact ⟨_, _, rfl⟩
  | plain | transport | harness | invocation | violation | acquisition | script => exact ⟨_, _, rfl⟩

/-- A moment that ends the run, and the fault that it ends it with. -/
inductive Fatal (plan : Plan) (m : Moment) : Raised → Prop where
  /-- The script breaks the rules, and the service is not asked for. -/
  | flaw {steps : List Step} {flaw : Script.Flaw} (stance : m.stance = .checking)
      (built : plan.settings.script plan.source = .ok steps)
      (flawed : Script.check plan.source steps = .error flaw) :
      Fatal plan m (.plain (.script flaw.text))
  /-- The service is not handed out. -/
  | unavailable {steps : List Step} {fault : Fault} (stance : m.stance = .acquiring steps)
      (acquisition : m.progress.scene.service.trouble.acquisition = some fault) :
      Fatal plan m (plan.unavailable fault)
  /-- The first call fails. -/
  | warmUp {steps : List Step} {fault : Fault} (stance : m.stance = .hearing steps)
      (reply : m.progress.scene.service.reply = .failure fault) :
      Fatal plan m (.of (.violation "on the first invocation" fault 0) fault)
  /-- A checkpoint is made after a tick that failed. -/
  | violated {pacing : Pacing} {label : String} {rest : List Job} {first : Fault}
      (stance : m.stance = .doing pacing (.step (.checkpoint label) :: rest))
      (failed : m.ends.findSome? TickEnd.failure? = some first) :
      Fatal plan m (.plain (.violation label first m.ends.length))
  /-- A node does not stop. -/
  | stopRefused {pacing : Pacing} {id : String} {grace : Int} {rest : List Job} {fault : Fault}
      {text : String} {cause : Option Kind}
        (stance : m.stance = .doing pacing (.stop id grace :: rest))
      (refused : (m.progress.scene.service.stop id grace).1 = .error fault)
      (named : Progress.refusal "Stopping" id .stop fault = ⟨.control text id "stop", cause⟩) :
      Fatal plan m ⟨.control text id "stop", cause⟩
  /-- A node does not start. -/
  | startRefused {pacing : Pacing} {id : String} {rest : List Job} {fault : Fault}
      {text : String} {cause : Option Kind} (stance : m.stance = .doing pacing (.start id :: rest))
      (refused : (m.progress.scene.service.start id).1 = .error fault)
      (named : Progress.refusal "Starting" id .start fault = ⟨.control text id "start", cause⟩) :
      Fatal plan m ⟨.control text id "start", cause⟩

namespace Plan

variable {plan : Plan}

/-- When durations can be counted, scripts know how long to wait. -/
theorem exists_pace (countable : plan.settings.Countable) :
    ∃ outage restart, plan.settings.seconds plan.settings.outage = .ok outage ∧
      plan.settings.seconds (plan.settings.restart.getD plan.settings.stability) = .ok restart ∧
      plan.settings.pace = .ok ⟨outage, restart, plan.settings.strict⟩ := by
  obtain ⟨outage, _, outage_ok, _⟩ := countable.outage
  obtain ⟨restart, _, restart_ok, _⟩ := countable.restart
  refine ⟨outage, restart, outage_ok, restart_ok, ?_⟩
  unfold Settings.pace Settings.restartSeconds
  rw [outage_ok, restart_ok]
  rfl

/-- When durations can be counted, only a flaw keeps a plan from its script. -/
theorem script_error (countable : plan.settings.Countable) {fault : Fault}
    (error : plan.script = .error fault) :
    ∃ steps flaw, plan.settings.script plan.source = .ok steps ∧
      Script.check plan.source steps = .error flaw ∧ fault = flaw.fault := by
  obtain ⟨outage, restart, _, _, paced⟩ := exists_pace countable
  generalize (⟨outage, restart, plan.settings.strict⟩ : Script.Pace) = pace at paced
  have built : plan.settings.script plan.source = .ok (Script.build plan.source pace) := by
    unfold Settings.script
    rw [paced]
    rfl
  unfold script at error
  rw [built] at error
  cases checked : Script.check plan.source (Script.build plan.source pace) with
  | ok _ =>
    simp only [bind, Except.bind, pure, Except.pure, checked] at error
    cases error
  | error flaw =>
    simp only [bind, Except.bind, checked] at error
    cases error
    exact ⟨_, flaw, built, checked, rfl⟩

/-- A script that was built may still have a flaw, which is then the fault of the plan. -/
theorem script_of_flaw {steps : List Step} {flaw : Script.Flaw}
    (built : plan.settings.script plan.source = .ok steps)
    (flawed : Script.check plan.source steps = .error flaw) :
    plan.script = .error (.script flaw.text) := by
  unfold script
  rw [built]
  simp only [bind, Except.bind, flawed]
  rfl

theorem script_of_check {steps : List Step} (built : plan.settings.script plan.source = .ok steps)
    (checked : Script.check plan.source steps = .ok ()) : plan.script = .ok steps := by
  unfold script
  rw [built]
  simp only [bind, Except.bind, checked]
  rfl

/-- When durations can be counted, an invoker can be made. -/
theorem exists_pacing (countable : plan.settings.Countable) :
    ∃ pacing span, plan.pacing = .ok pacing ∧ pacing.period = .ok span := by
  obtain ⟨period, span, period_ok, positive, counted⟩ := countable.period
  have limit : ∃ limit, plan.settings.limitSeconds = .ok limit := by
    unfold Settings.limitSeconds
    cases callLimit : plan.settings.callLimit with
    | none => exact ⟨_, rfl⟩
    | some m =>
      obtain ⟨seconds, _, ok, _⟩ := countable.limit m callLimit
      refine ⟨some seconds, ?_⟩
      dsimp only
      rw [ok]
      rfl
  obtain ⟨limit, limit_ok⟩ := limit
  refine ⟨⟨period, micros period, .of limit⟩, span, ?_, counted⟩
  unfold pacing
  rw [period_ok, limit_ok]
  show Pacing.of period limit = _
  unfold Pacing.of
  rw [Double.isBelowZero_of_isPositive positive, Double.isZero_of_isPositive positive]
  rfl

/-- The jobs of a script are the stability window, checkpoints, requests to nodes that have labels,
and waits of the settings. -/
theorem mem_jobs {steps : List Step} (script : plan.script = .ok steps) {job : Job}
    (mem : job ∈ jobs steps) :
    job = .stabilise ∨ (∃ label, job = .step (.checkpoint label)) ∨
    (∃ id label, plan.source.label id = .ok label ∧
      (job = .step (.stop id) ∨ job = .step (.start id))) ∨
    ∃ kind seconds, job = .step (.wait kind seconds) ∧
      (plan.settings.seconds plan.settings.outage = .ok seconds ∨
        plan.settings.seconds (plan.settings.restart.getD plan.settings.stability) =
        .ok seconds) := by
  obtain ⟨pace, paced, rfl, _⟩ := script_ok script
  obtain ⟨outage, restart, _⟩ := Settings.pace_ok paced
  rcases List.mem_cons.mp mem with rfl | mem
  · exact .inl rfl
  rcases List.mem_cons.mp mem with rfl | mem
  · exact .inr (.inl ⟨_, rfl⟩)
  obtain ⟨step, built, rfl⟩ := List.mem_map.mp mem
  obtain ⟨id, known, _, checked, toggles⟩ := Script.mem_build built
  obtain ⟨label, labelled⟩ := Topology.exists_label known
  rcases Script.mem_toggle toggles with rfl | rfl | rfl | rfl | ⟨label', rfl⟩
  · exact .inr (.inr (.inl ⟨id, label, labelled, .inl rfl⟩))
  · exact .inr (.inr (.inl ⟨id, label, labelled, .inr rfl⟩))
  · exact .inr (.inr (.inr ⟨_, _, rfl, .inl outage⟩))
  · exact .inr (.inr (.inr ⟨_, _, rfl, .inr restart⟩))
  · exact .inr (.inl ⟨label', rfl⟩)

/-- When durations can be counted, every job of the script can be done. -/
theorem jobs_feasible (countable : plan.settings.Countable) {steps : List Step}
    (script : plan.script = .ok steps) : ∀ job ∈ jobs steps, job.Feasible plan := by
  intro job mem
  rcases mem_jobs script mem with rfl | ⟨_, rfl⟩ | ⟨id, label, labelled, rfl | rfl⟩ |
    ⟨_, _, rfl, ok | ok⟩
  · obtain ⟨seconds, _, ok, _⟩ := countable.stability
    obtain ⟨pause, timed⟩ := countable.stability.pause ok
    exact ⟨seconds, pause, ok, timed⟩
  · trivial
  · exact ⟨⟨label, labelled⟩, countable.grace⟩
  · exact ⟨label, labelled⟩
  · exact countable.outage.pause ok
  · exact countable.restart.pause ok

end Plan

/-- The fault that the run is about to end with. -/
def Stance.raised? : Stance → Option Raised
  | .quitting _ result | .releasing result | .finished result =>
    match result with
    | .error raised => some raised
    | .ok () => none
  | .checking | .acquiring _ | .gathering _ | .alone _ _ | .ringing _ | .hearing _ | .launching _
  | .doing _ _ | .waiting _ _ _ _ => none

/-- Nothing goes wrong by itself: the invoker's loop is alive and the jobs can be done, and where
the run is about to end with a fault, it came to a moment that does so. -/
structure Sound (plan : Plan) (scene : Scene Cluster) (m : Moment) : Prop where
  paced : ∀ pacing jobs, m.stance.Has pacing jobs → plan.pacing = .ok pacing
  feasible : ∀ pacing jobs, m.stance.Has pacing jobs → ∀ job ∈ jobs, job.Feasible plan
  alive : ∀ pacing jobs, m.stance.Has pacing jobs → m.progress.scene.invoker.task.isAlive = true
  closable : ∀ pacing result, m.stance = .quitting pacing result →
    m.progress.scene.invoker.task.isAlive = true
  blamed : ∀ raised, m.stance.raised? = some raised →
    ∃ c, plan.Reached scene c ∧ Fatal plan c raised

namespace Sound

variable {plan : Plan} {scene : Scene Cluster} {m m' : Moment} {pacing : Pacing} {jobs : List Job}

/-- Where nothing is worked on, only the blame counts. -/
theorem of_idle (idle : m.stance.isBusy = false)
    (closed : ∀ pacing result, m.stance ≠ .quitting pacing result)
    (blamed : ∀ raised, m.stance.raised? = some raised →
      ∃ c, plan.Reached scene c ∧ Fatal plan c raised) : Sound plan scene m where
  paced pacing jobs has := absurd has (Stance.idle idle pacing jobs)
  feasible pacing jobs has := absurd has (Stance.idle idle pacing jobs)
  alive pacing jobs has := absurd has (Stance.idle idle pacing jobs)
  closable pacing result stance := absurd stance (closed pacing result)
  blamed := blamed

/-- What is known while jobs are left. -/
theorem of_has (has : m.stance.Has pacing jobs) (paced : plan.pacing = .ok pacing)
    (feasible : ∀ job ∈ jobs, job.Feasible plan)
    (alive : m.progress.scene.invoker.task.isAlive = true) : Sound plan scene m := by
  refine ⟨?_, ?_, fun _ _ _ => alive, ?_, ?_⟩
  · intro pacing' jobs' has'
    rw [← has.pacing_eq has']
    exact paced
  · intro pacing' jobs' has'
    rw [← has.unique has']
    exact feasible
  · intro pacing' result stance
    exact absurd has (Stance.idle (by rw [stance]; rfl) pacing jobs)
  · intro raised found
    generalize m.stance = stance at has found
    cases has <;> cases found

/-- What is known when the work has come to its end. -/
theorem of_quitting {result : Except Raised Unit} (stance : m.stance = .quitting pacing result)
    (alive : m.progress.scene.invoker.task.isAlive = true)
    (blamed : ∀ raised, result = .error raised → ∃ c, plan.Reached scene c ∧ Fatal plan c raised) :
    Sound plan scene m := by
  have idle : m.stance.isBusy = false := by
    rw [stance]
    rfl
  refine ⟨?_, ?_, ?_, fun _ _ _ => alive, ?_⟩
  · exact fun pacing' jobs has => absurd has (Stance.idle idle pacing' jobs)
  · exact fun pacing' jobs has => absurd has (Stance.idle idle pacing' jobs)
  · exact fun pacing' jobs has => absurd has (Stance.idle idle pacing' jobs)
  · intro raised found
    rw [stance] at found
    cases result with
    | ok _ => cases found
    | error raised' =>
      cases found
      exact blamed raised rfl

/-- A moment with a fault blames a moment that was fatal. -/
theorem of_fatal {c : Moment} {raised : Raised} (reached : plan.Reached scene c)
    (fatal : Fatal plan c raised)
    (stance : m.stance = .releasing (.error raised) ∨ m.stance = .finished (.error raised)) :
    Sound plan scene m := by
  rcases stance with stance | stance
  all_goals
    refine of_idle ?_ ?_ ?_ <;> rw [stance]
    · rfl
    · exact fun _ _ => Stance.noConfusion
    · intro raised' found
      cases found
      exact ⟨c, reached, fatal⟩

/-- Nothing fatal has happened before the first job unless the run is over. -/
theorem early (countable : plan.settings.Countable) (early : plan.Early scene m) :
    Sound plan scene m := by
  -- Most of the stages raise nothing and have no invoker yet.
  have onset {stance : Stance} (same : m.stance = stance) (late : stance.isLate = false)
      (calm : stance.raised? = none) : Sound plan scene m := by
    subst same
    refine of_idle (Stance.idle_of_isLate late).1 (Stance.idle_of_isLate late).2 ?_
    intro raised found
    rw [calm] at found
    cases found
  cases early with
  | checking stance | acquiring _ stance | launching _ _ stance => exact onset stance rfl rfl
  | gathering _ stance =>
    rcases stance with stance | stance | ⟨_, stance⟩ <;> exact onset stance rfl rfl
  | hearing _ stance => rcases stance with stance | ⟨_, stance⟩ <;> exact onset stance rfl rfl
  | flawed script stance =>
    obtain ⟨steps, flaw, built, flawed, rfl⟩ := Plan.script_error countable script
    exact of_fatal .refl (.flaw rfl built flawed) (.inr stance)
  | unavailable reached before acquisition stance =>
    exact of_fatal reached (.unavailable before acquisition) (.inr stance)
  -- Countable settings leave no way to get here.
  | ungathered _ uncounted =>
    obtain ⟨seconds, _, ok, _⟩ := countable.formation
    obtain ⟨pause, timed⟩ := countable.formation.pause ok
    exact absurd timed (uncounted seconds pause ok)
  | unheard _ reached before reply stance =>
    exact of_fatal reached (.warmUp before reply) (.inl stance)
  | unlaunched _ _ unpaced =>
    obtain ⟨pacing, _, paced, _⟩ := Plan.exists_pacing countable
    rw [paced] at unpaced
    cases unpaced
  | launched ready _ paced stance still =>
    refine of_has (by rw [stance]; exact .doing) paced
      (Plan.jobs_feasible countable ready.script) ?_
    rw [still.invoker]
    rfl

/-- Time that passes keeps a run sound. -/
theorem drift (countable : plan.settings.Countable) (sound : Sound plan scene m)
    (has : m.stance.Has pacing jobs) {jobs' : List Job} (effectless : Effectless jobs jobs')
    (has' : m'.stance.Has pacing jobs') (drift : Drift pacing m m') : Sound plan scene m' := by
  have paced := sound.paced pacing jobs has
  have feasible :=
    effectless.forall_mem (fun _ _ => trivial) (fun _ => trivial) (sound.feasible pacing jobs has)
  refine of_has has' paced feasible ?_
  cases drift with
  | calm calm ends =>
    rw [calm.invoker]
    exact sound.alive pacing jobs has
  | turn calm turn progress ends =>
    -- A loop would end by itself only if its delay could not be counted.
    obtain ⟨pacing', span, paced', counted⟩ := Plan.exists_pacing countable
    have same : pacing' = pacing := Except.ok.inj (paced'.symm.trans paced)
    subst same
    rw [progress]
    exact turn.alive pacing' counted

/-- A job that is done keeps a run sound, or the moment is fatal. -/
theorem acts (reached : plan.Reached scene m) (sound : Sound plan scene m)
    (stance : m.stance = .doing pacing jobs) (acts : Acts plan pacing m jobs m') :
    Sound plan scene m' := by
  have has : m.stance.Has pacing jobs := by
    rw [stance]
    exact .doing
  -- The tally says what the ticks came to, where the monitor only has its own record.
  have tally := reached.tally has.isLate
  have paced := sound.paced pacing jobs has
  have alive := sound.alive pacing jobs has
  have feasible := sound.feasible pacing jobs has
  -- What is left to be done was to be done before, so it stays feasible.
  cases acts with
  | passed calm pure =>
    refine of_has .doing paced (fun job mem => feasible job (List.mem_cons_of_mem _ mem)) ?_
    rw [← calm.invoker] at alive
    exact alive
  | stopped honored =>
    exact of_has .doing paced (fun job mem => feasible job (List.mem_cons_of_mem _ mem)) alive
  | started honored =>
    exact of_has .doing paced (fun job mem => feasible job (List.mem_cons_of_mem _ mem)) alive
  | done =>
    refine of_quitting rfl alive ?_
    intro _ h
    cases h
  | unfeasible unfeasible => exact absurd (feasible _ List.mem_cons_self) unfeasible
  | violated calm failed =>
    rw [← calm.invoker] at alive
    refine of_quitting rfl alive ?_
    intro _ h
    cases h
    rw [tally.firstFailure] at failed
    rw [tally.invocations]
    exact ⟨m, reached, .violated stance failed⟩
  | stopRefused refused =>
    refine of_quitting rfl alive ?_
    intro _ h
    cases h
    obtain ⟨text, cause, named⟩ := refusal_eq "Stopping" (Cluster.stop_error refused).1
    rw [named]
    exact ⟨m, reached, .stopRefused stance (congrArg Prod.fst refused) named⟩
  | startRefused refused =>
    refine of_quitting rfl alive ?_
    intro _ h
    cases h
    obtain ⟨text, cause, named⟩ := refusal_eq "Starting" (Cluster.start_error refused).1
    rw [named]
    exact ⟨m, reached, .startRefused stance (congrArg Prod.fst refused) named⟩

end Sound

/-- Closing a loop that is alive brings up no fault. -/
theorem closing_of_alive {task : Task} (alive : task.isAlive = true) (result : Except Raised Unit) :
    closing task result = result := by
  cases task with
  | ended how => cases alive
  | absent | scheduled | calling | resting => rfl

namespace Plan

variable {plan : Plan} {scene : Scene Cluster} {m : Moment}

/-- So all this is known of every moment that a run comes to. -/
theorem Reached.sound (countable : plan.settings.Countable) (reached : plan.Reached scene m) :
    Sound plan scene m := by
  refine Reached.induct (I := Sound plan scene) ?early ?works ?quits ?releases reached
  case early => exact fun m _ early => .early countable early
  case works =>
    intro m m' pacing jobs reached sound _ has works
    cases works with
    | drift _ effectless has' drift => exact sound.drift countable has effectless has' drift
    | acts stance acts => exact sound.acts reached stance acts
  case quits =>
    intro m m' pacing result _ sound _ stance quits
    have stays : m'.stance = .releasing result := by
      rw [quits.stance, closing_of_alive (sound.closable pacing result stance)]
    refine .of_idle ?_ ?_ ?_ <;> rw [stays]
    · rfl
    · exact fun _ _ => Stance.noConfusion
    · intro raised found
      refine sound.blamed raised ?_
      rw [stance]
      exact found
  case releases =>
    intro m result _ sound stance
    refine .of_idle rfl (fun _ _ => Stance.noConfusion) ?_
    intro raised found
    refine sound.blamed raised ?_
    rw [stance]
    exact found

/-- After a fatal moment the run is about to end with its fault. -/
theorem next_of_fatal {raised : Raised} (reached : plan.Reached scene m)
    (fatal : Fatal plan m raised) :
    ∃ m', plan.next m = some m' ∧ m'.stance.raised? = some raised := by
  obtain ⟨p, stance, ends⟩ := m
  cases fatal with
  | @flaw steps flaw stance built flawed =>
    cases stance
    have script : plan.script = .error (.script flaw.text) := script_of_flaw built flawed
    have checked :
      ((p.note (.runStarted plan.implementation plan.settings.banner)).lift plan.script).1
        = .error (.plain (.script flaw.text)) := by
      unfold Progress.lift
      rw [script]
      rfl
    refine ⟨_, rfl, ?_⟩
    rw [Moment.attempt_stance checked]
    rfl
  | unavailable stance acquisition =>
    cases stance
    refine ⟨_, rfl, ?_⟩
    rw [Moment.attempt_stance (congrArg Prod.fst (acquire_of_some acquisition))]
    rfl
  | warmUp stance reply =>
    cases stance
    refine ⟨_, rfl, ?_⟩
    rw [Moment.attempt_stance (hear_of_failure reply)]
    rfl
  | @violated pacing label rest first stance failed =>
    cases stance
    -- The monitor knows the failures of all the ticks so far, and the first of them is the one that
    -- counts.
    have tally := reached.tally rfl
    have latched : p.scene.monitor.firstFailure = some first := tally.firstFailure.trans failed
    have counted : p.scene.monitor.invocations = ends.length := tally.invocations
    have violated :
      (p.checkpoint label).1 = .error (.plain (.violation label first ends.length)) := by
      unfold Progress.checkpoint Scene.checkpoint Monitor.checkpoint
      simp only [latched, counted]
    refine ⟨_, rfl, ?_⟩
    unfold work
    dsimp only
    rw [Moment.attempt_stance violated]
    rfl
  | @stopRefused pacing id grace rest fault text cause stance refused named =>
    cases stance
    have asked : (p.askStop id grace).1 = .error ⟨.control text id "stop", cause⟩ := by
      unfold Progress.askStop Progress.onCluster
      simp only at refused
      simp only [refused, named]
    refine ⟨_, rfl, ?_⟩
    unfold work
    dsimp only
    rw [Moment.attempt_stance asked]
    rfl
  | @startRefused pacing id rest fault text cause stance refused named =>
    cases stance
    have asked : (p.askStart id).1 = .error ⟨.control text id "start", cause⟩ := by
      unfold Progress.askStart Progress.onCluster
      simp only at refused
      simp only [refused, named]
    refine ⟨_, rfl, ?_⟩
    unfold work
    dsimp only
    rw [Moment.attempt_stance asked]
    rfl

/-- A run that is about to end with a fault only closes the invoker and lets go. -/
theorem Reached.raised_next {raised : Raised} {m' : Moment} (countable : plan.settings.Countable)
    (reached : plan.Reached scene m) (found : m.stance.raised? = some raised)
    (next : plan.Next m m') :
    m'.stance.raised? = some raised ∧ m'.progress.checkpoints = m.progress.checkpoints ∧
      m.progress.scene.service.OnlyCalls m'.progress.scene.service := by
  generalize stance : m.stance = s at found
  cases s with
  | quitting pacing result =>
    have quits := next_quits (reached.running stance) stance next
    have alive := (reached.sound countable).closable _ _ stance
    refine ⟨?_, quits.checkpoints, quits.onlyCalls⟩
    rw [quits.stance, closing_of_alive alive]
    exact found
  | releasing result =>
    unfold Next Plan.next at next
    rw [stance] at next
    cases next
    have released := released m.progress
    exact ⟨found, released.checkpoints, released.onlyCalls⟩
  | finished result =>
    unfold Next Plan.next at next
    rw [stance] at next
    cases next
  | _ => cases found

/-- The fault that a run is about to end with stays. -/
theorem Reached.raised_leads {raised : Raised} {m' : Moment} (countable : plan.settings.Countable)
    (reached : plan.Reached scene m) (found : m.stance.raised? = some raised)
    (leads : plan.Leads m m') :
    m'.stance.raised? = some raised := by
  induction leads with
  | refl => exact found
  | tail leads next ih => exact (Reached.raised_next countable (reached.trans leads) ih next).1

/-- The fault that a run is about to end with is the one that it ends with. -/
theorem Reached.ends_with {raised : Raised} {result : Except Raised Unit} {m' : Moment}
    (countable : plan.settings.Countable) (reached : plan.Reached scene m)
    (found : m.stance.raised? = some raised) (last : plan.Reached scene m')
    (finished : m'.stance = .finished result) : result = .error raised := by
  have found' := reached.raised_leads countable found (reached.leads_finished last finished)
  rw [finished] at found'
  cases result with
  | ok _ => cases found'
  | error raised' =>
    cases found'
    rfl

/-- A run that is about to end with a fault ends with it. -/
theorem Reached.conduct_of_raised {raised : Raised} (countable : plan.settings.Countable)
    (reached : plan.Reached scene m) (found : m.stance.raised? = some raised) :
    (plan.conduct scene).1 = .error raised := by
  obtain ⟨last, reached', ⟨raised', finished, ends⟩ | ⟨finished, _⟩⟩ := plan.leads_conduct scene
  · rw [ends]
    cases Reached.ends_with countable reached found reached' finished
    rfl
  · cases Reached.ends_with countable reached found reached' finished

/-- A run that comes to a fatal moment ends with the fault of it. -/
theorem Reached.conduct_of_fatal {raised : Raised} (countable : plan.settings.Countable)
    (reached : plan.Reached scene m) (fatal : Fatal plan m raised) :
    (plan.conduct scene).1 = .error raised := by
  obtain ⟨after, next, found⟩ := next_of_fatal reached fatal
  exact Reached.conduct_of_raised countable (reached.tail next) found

/-- When all durations can be counted, a run ends with a fault exactly if it comes to a moment that
is fatal, and the fault is that moment's; otherwise it ends with a report. A run whose script breaks
the rules never asks for the service, and leaves the cluster as it was. -/
theorem conduct_error_iff (plan : Plan) (scene : Scene Cluster)
    (countable : plan.settings.Countable) :
    (∀ raised, (plan.conduct scene).1 = .error raised ↔
      ∃ m, plan.Reached scene m ∧ Fatal plan m raised) ∧
    ((∃ report, (plan.conduct scene).1 = .ok report) ↔
      ∀ m raised, plan.Reached scene m → ¬ Fatal plan m raised) ∧
    ∀ steps flaw, plan.settings.script plan.source = .ok steps →
      Script.check plan.source steps = .error flaw →
      (plan.conduct scene).1 = .error (.plain (.script flaw.text)) ∧
        (∀ m steps', plan.Reached scene m → m.stance ≠ .acquiring steps') ∧
        (plan.conduct scene).2.scene.service = scene.service := by
  -- Both directions go through the last moment of the run, where the fault is the one to blame.
  have iff (raised : Raised) : (plan.conduct scene).1 = .error raised ↔
      ∃ m, plan.Reached scene m ∧ Fatal plan m raised := by
    refine ⟨fun same => ?_, fun ⟨m, reached, fatal⟩ => reached.conduct_of_fatal countable fatal⟩
    obtain ⟨last, reached, ⟨raised', finished, ends⟩ | ⟨finished, ends⟩⟩ := plan.leads_conduct scene
    · rw [ends] at same
      cases same
      exact (reached.sound countable).blamed raised (by rw [finished]; rfl)
    · rw [ends] at same
      cases same
  refine ⟨iff, ⟨?_, ?_⟩, fun steps flaw built flawed => ⟨?_, ?_, ?_⟩⟩
  · intro ⟨report, ends⟩ m raised reached fatal
    have fault := (iff raised).mpr ⟨m, reached, fatal⟩
    rw [ends] at fault
    cases fault
  · intro harmless
    cases ends : (plan.conduct scene).1 with
    | ok report => exact ⟨report, rfl⟩
    | error raised =>
      obtain ⟨m, reached, fatal⟩ := (iff raised).mp ends
      exact absurd fatal (harmless m raised reached)
  -- A flaw is fatal at the first moment, so the rest is a case of the above.
  · exact (iff _).mpr ⟨_, .refl, .flaw rfl built flawed⟩
  · intro m steps' reached stance
    have script := reached.acquiring stance |>.1
    rw [script_of_flaw built flawed] at script
    cases script
  · exact conduct_of_script_error (script_of_flaw built flawed) scene

theorem brisk_countable : brisk.settings.Countable where
  formation := by decide +kernel
  stability := by decide +kernel
  outage := by decide +kernel
  restart := by decide +kernel
  period := by decide +kernel
  limit := by
    intro _ none
    cases none
  grace := by
    have counted : ((brisk.settings.seconds brisk.settings.grace).bind Progress.graceMillis).toBool
        = true := by
      decide +kernel
    generalize brisk.settings.seconds brisk.settings.grace = grace at counted
    cases grace with
    | error fault => cases counted
    | ok seconds =>
      simp only [Except.bind] at counted
      cases millis : Progress.graceMillis seconds with
      | ok n => exact ⟨seconds, n, rfl, millis⟩
      | error fault =>
        rw [millis] at counted
        cases counted

/-- A calm cluster, but for a fault ordered for its third call. -/
def frail : Cluster := { calm with trouble.calls := [(3, Cluster.injected 3)] }

deriving instance DecidableEq for Except

/-- The third call fails while the first node is down, and the checkpoint made then is to blame. -/
theorem frail_conduct_error :
    brisk.settings.Countable ∧
    (brisk.conduct (.opening frail (.start none))).1
      = .error (.plain (.violation "after clusterA-node0 was shut down" (Cluster.injected 3) 2)) ∧
    ∃ m, brisk.Reached (.opening frail (.start none)) m ∧
      Fatal brisk m
        (.plain (.violation "after clusterA-node0 was shut down" (Cluster.injected 3) 2)) := by
  have fails : (brisk.conduct (.opening frail (.start none))).1
      = .error (.plain
        (.violation "after clusterA-node0 was shut down" (Cluster.injected 3) 2)) := by
    decide +kernel
  exact ⟨brisk_countable, fails, ((conduct_error_iff brisk _ brisk_countable).1 _).mp fails⟩

end Plan

end Run

end Drill
