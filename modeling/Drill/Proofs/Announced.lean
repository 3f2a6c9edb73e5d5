import Drill.Proofs.Passage

/-!
# What a run is announced to end with

A run is announced to end with a fault of one of four kinds: the service is not to be had, a call
failed, a node does not do what it is told, or the script breaks the rules. Everything that goes
wrong with the service and with the nodes is turned into one of these. Durations are not: `Snag`
lists the moments at which one cannot be turned into a time, and `Settings.Unfit` the settings that
are to blame. Not every duration can, because a whole number of milliseconds may have no double, its
product with the factor may be infinite, and the delay between calls may vanish.

Main statements: `next_raised`, a fault comes up at a snag or is announced, and
`conduct_unannounced_iff`, a run ends with another fault exactly if it comes to a snag, and then its
settings are unfit for it.
-/

namespace Drill

open Number (Double)

/-- The kinds of fault that a run is announced to end with. -/
def Kind.announced : List Kind := [.acquisition, .violation, .control, .script]

/-- Is the run announced to end like this? -/
def Raised.Announced (r : Raised) : Prop := r.fault.kind ∈ Kind.announced

instance (r : Raised) : Decidable r.Announced := inferInstanceAs (Decidable (_ ∈ _))

namespace Settings

/-- The durations for which somebody waits, calls and nodes apart. -/
def waits (s : Settings) : List Millis :=
  [s.stability, s.outage, s.period, s.formation, s.restart.getD s.stability]

/-- The durations of the settings. -/
def durations (s : Settings) : List Millis := s.waits ++ s.grace :: s.callLimit.toList

/-- A fault for which the settings are to blame. -/
inductive Unfit (s : Settings) : Fault → Prop where
  /-- No double is near a duration. -/
  | large {m : Millis} (among : m ∈ s.durations) (apart : Double.ofInt? m.count = none) :
      Unfit s .largeInteger
  /-- A wait has no end. -/
  | endless {m : Millis} {seconds : Double} (among : m ∈ s.waits)
      (stretched : s.seconds m = .ok seconds)
      (uncounted : micros seconds = .error .infiniteSpan) : Unfit s .infiniteSpan
  /-- A node may take for ever to shut down. -/
  | patient {seconds : Double} (stretched : s.seconds s.grace = .ok seconds)
      (uncounted : Run.Progress.graceMillis seconds = .error .infiniteSpan) : Unfit s .infiniteSpan
  /-- There is no delay between calls. -/
  | restless {seconds : Double} (stretched : s.seconds s.period = .ok seconds)
      (none : seconds.isPositive = false) :
      Unfit s (.plain .value s!"period_s must be positive, got {seconds.shortest}")

/-- Settings that are unfit give faults that nobody announces. -/
theorem Unfit.unannounced {s : Settings} {fault : Fault} (unfit : s.Unfit fault) :
    ¬ (Raised.plain fault).Announced := by
  cases unfit with
  | large | endless | patient | restless =>
    show Kind.plain _ ∉ Kind.announced
    decide

/-- A duration has no seconds only if its number is too large for a double. -/
theorem seconds_error {s : Settings} {m : Millis} {fault : Fault}
    (error : s.seconds m = .error fault) :
    fault = .largeInteger ∧ Double.ofInt? m.count = none := by
  unfold Settings.seconds Settings.stretchInt at error
  cases whole : Double.ofInt? m.count with
  | none =>
    rw [whole] at error
    cases error
    exact ⟨rfl, rfl⟩
  | some n =>
    rw [whole] at error
    cases error

end Settings

/-- A span has no microseconds only if it is infinite. -/
theorem micros_error {seconds : Double} {fault : Fault} (error : micros seconds = .error fault) :
    fault = .infiniteSpan := by
  unfold micros at error
  split at error
  next => cases error
  next =>
    cases error
    rfl

/-- A pause cannot be counted for the same reason. -/
theorem Pause.of_error {seconds : Double} {fault : Fault}
    (error : Pause.of seconds = .error fault) :
    fault = .infiniteSpan ∧ micros seconds = .error .infiniteSpan := by
  unfold Pause.of at error
  split at error
  next =>
    cases counted : micros seconds with
    | ok span =>
      rw [counted] at error
      cases error
    | error fault' =>
      rw [counted] at error
      cases error
      cases micros_error counted
      exact ⟨rfl, rfl⟩
  next => cases error

/-- Nor has an infinite grace period a whole number of milliseconds. -/
theorem Run.Progress.graceMillis_error {seconds : Double} {fault : Fault}
    (error : Run.Progress.graceMillis seconds = .error fault) : fault = .infiniteSpan := by
  unfold Run.Progress.graceMillis at error
  split at error
  next => cases error
  next =>
    cases error
    rfl

namespace Run

/-- Turns the durations that a job needs into times. -/
def Job.counting (plan : Plan) : Job → Except Fault Unit
  | .stabilise => ((plan.settings.seconds plan.settings.stability).bind Pause.of).map fun _ => ()
  | .step (.wait _ seconds) => (Pause.of seconds).map fun _ => ()
  | .step (.stop _) =>
      ((plan.settings.seconds plan.settings.grace).bind Progress.graceMillis).map fun _ => ()
  | .step (.start _) | .step (.checkpoint _) | .stop _ _ | .start _ => .ok ()

/-- A moment at which a duration cannot be turned into a time. -/
inductive Snag (plan : Plan) (m : Moment) : Fault → Prop where
  | script {fault : Fault} (stance : m.stance = .checking)
      (unpaced : plan.settings.pace = .error fault) :
      Snag plan m fault
  | formation {steps : List Step} {fault : Fault} (stance : m.stance = .gathering steps)
      (uncounted : (plan.settings.seconds plan.settings.formation).bind Pause.of = .error fault) :
      Snag plan m fault
  | pacing {steps : List Step} {fault : Fault} (stance : m.stance = .launching steps)
      (unpaced : plan.pacing = .error fault) : Snag plan m fault
  | job {pacing : Pacing} {job : Job} {rest : List Job} {fault : Fault}
      (stance : m.stance = .doing pacing (job :: rest))
        (uncounted : job.counting plan = .error fault) :
      Snag plan m fault
  /-- The loop has come to its end after a call, because it could not begin its delay. -/
  | loop {pacing : Pacing} {result : Except Raised Unit} {fault : Fault}
      (stance : m.stance = .quitting pacing result)
      (ended : m.progress.scene.invoker.task = .ended (.failed fault)) : Snag plan m fault

/-- Where a fault comes from that the next moment brings up. -/
inductive Origin (plan : Plan) (m : Moment) : Raised → Prop where
  | snag {fault : Fault} (snag : Snag plan m fault) : Origin plan m (.plain fault)
  | flaw (flaw : Script.Flaw) : Origin plan m (.plain flaw.fault)
  | unavailable (fault : Fault) : Origin plan m (plan.unavailable fault)
  | warmUp (fault : Fault) : Origin plan m (.of (.violation Plan.warmUpLabel fault 0) fault)
  | violated {pacing : Pacing} {label : String} {rest : List Job} (first : Fault) (count : Int)
      (stance : m.stance = .doing pacing (.step (.checkpoint label) :: rest)) :
      Origin plan m (.plain (.violation label first count))
  | refused (doing id : String) (operation : Operation) (fault : Fault) :
      Origin plan m (Progress.refusal doing id operation fault)

/-- What a job of the plan is known to be about: a node, or a wait of the settings. -/
def Job.Known (plan : Plan) : Job → Prop
  | .step (.wait _ seconds) => plan.settings.seconds plan.settings.outage = .ok seconds ∨
      plan.settings.seconds (plan.settings.restart.getD plan.settings.stability) = .ok seconds
  | .step (.stop id) | .step (.start id) => ∃ label, plan.source.label id = .ok label
  | .stabilise | .step (.checkpoint _) | .stop _ _ | .start _ => True

/-- The invoker goes as the settings say, all jobs are of the plan, and only a delay that cannot be
counted has made the loop come to its end with a fault. -/
structure Prepared (plan : Plan) (m : Moment) : Prop where
  paced : ∀ pacing jobs, m.stance.Has pacing jobs → plan.pacing = .ok pacing
  known : ∀ pacing jobs, m.stance.Has pacing jobs → ∀ job ∈ jobs, job.Known plan
  failed : ∀ fault, m.progress.scene.invoker.task = .ended (.failed fault) →
    ∃ pacing, plan.pacing = .ok pacing ∧ pacing.period = .error fault

section

variable {plan : Plan} {scene : Scene Cluster} {m m' : Moment} {pacing : Pacing}
    {jobs rest : List Job}
  {job : Job} {raised : Raised}

/-- All jobs come from steps of the script. -/
theorem jobs_known {steps : List Step} (script : plan.script = .ok steps) :
    ∀ job ∈ Plan.jobs steps, job.Known plan := by
  intro job mem
  rcases Plan.mem_jobs script mem with rfl | ⟨_, rfl⟩ | ⟨id, label, labelled, rfl | rfl⟩ |
    ⟨_, _, rfl, ok⟩
  · trivial
  · trivial
  · exact ⟨label, labelled⟩
  · exact ⟨label, labelled⟩
  · exact ok

/-- A turn makes the loop come to its end only if the delay cannot be counted. -/
theorem turn_failed {s s' : Scene Cluster} {e : Option TickEnd} (turn : Scene.Turn pacing s e s')
    {fault : Fault}
    (ended : s'.invoker.task = .ended (.failed fault)) : pacing.period = .error fault := by
  have rests {s : Scene Cluster} {outcome : Outcome}
      (ended : (s.endTick pacing outcome).invoker.task = .ended (.failed fault)) :
      pacing.period = .error fault := by
    unfold Scene.endTick Scene.rest at ended
    split at ended
    next => cases ended
    next fault' counted =>
      cases ended
      exact counted
  cases turn with
  | entered => cases ended
  | refused | answeredAtOnce | answered | expired => exact rests ended

/-- While nothing is done, the jobs ask for nothing. -/
theorem Prepared.of_idle (idle : m.stance.isBusy = false)
    (failed : ∀ fault, m.progress.scene.invoker.task = .ended (.failed fault) →
      ∃ pacing, plan.pacing = .ok pacing ∧ pacing.period = .error fault) : Prepared plan m where
  paced _ _ has := absurd has (Stance.idle idle _ _)
  known _ _ has := absurd has (Stance.idle idle _ _)
  failed := failed

/-- A moment is prepared if its pacing, its jobs and its loop are. -/
theorem Prepared.of_has (has : m.stance.Has pacing jobs) (paced : plan.pacing = .ok pacing)
    (known : ∀ job ∈ jobs, job.Known plan)
    (failed : ∀ fault, m.progress.scene.invoker.task = .ended (.failed fault) →
      ∃ pacing, plan.pacing = .ok pacing ∧ pacing.period = .error fault) : Prepared plan m where
  paced pacing' jobs' has' := by
    rw [← has.pacing_eq has']
    exact paced
  known pacing' jobs' has' := by
    rw [← has.unique has']
    exact known
  failed := failed

/-- Everything before the first job is prepared. -/
theorem Prepared.early (early : plan.Early scene m) : Prepared plan m := by
  have unstarted {c : Cluster} {monitor : Monitor} {invoker : Invoker}
      (still : m.Still plan c monitor invoker)
        (alive : ∀ fault, invoker.task ≠ .ended (.failed fault)) :
      ∀ fault, m.progress.scene.invoker.task = .ended (.failed fault) →
        ∃ pacing, plan.pacing = .ok pacing ∧ pacing.period = .error fault := by
    intro fault ended
    rw [still.invoker] at ended
    exact absurd ended (alive fault)
  have onset {c : Cluster} {monitor : Monitor} {stance : Stance} (same : m.stance = stance)
      (idle : stance.isBusy = false) (still : m.Still plan c monitor .fresh) : Prepared plan m := by
    subst same
    exact .of_idle idle (unstarted still fun _ => Task.noConfusion)
  cases early with
  | checking stance still | flawed _ stance still | acquiring _ stance still
  | unavailable _ _ _ stance still | ungathered _ _ stance still | unheard _ _ _ _ stance still
  | launching _ _ stance still | unlaunched _ _ _ stance still => exact onset stance rfl still
  | gathering _ stance still =>
    rcases stance with stance | stance | ⟨_, stance⟩ <;> exact onset stance rfl still
  | hearing _ stance still =>
      rcases stance with stance | ⟨_, stance⟩ <;> exact onset stance rfl still
  | launched ready _ paced stance still =>
    exact .of_has (by rw [stance]; exact .doing) paced (jobs_known ready.script)
      (unstarted still fun _ => Task.noConfusion)

/-- Each move of the work keeps a moment prepared. -/
theorem Prepared.works (prepared : Prepared plan m) (has : m.stance.Has pacing jobs)
    (works : Works plan pacing m jobs m') : Prepared plan m' := by
  have paced := prepared.paced _ _ has
  have known := prepared.known _ _ has
  have failed : ∀ fault, m'.progress.scene.invoker.task = .ended (.failed fault) →
      ∃ pacing, plan.pacing = .ok pacing ∧ pacing.period = .error fault := by
    cases works.stirs with
    | rests _ _ invoker =>
      rw [invoker]
      exact prepared.failed
    | turns _ _ _ turn => exact fun fault ended => ⟨pacing, paced, turn_failed turn ended⟩
  cases works with
  | drift busy effectless has' drift =>
    exact .of_has has' paced
      (effectless.forall_mem (fun _ _ => trivial) (fun _ => trivial) known) failed
  | acts stance acts =>
    cases acts with
    | passed | stopped | started =>
      exact .of_has .doing paced (fun job mem => known job (List.mem_cons_of_mem _ mem)) failed
    | done | unfeasible | violated | stopRefused | startRefused => exact .of_idle rfl failed

/-- So every moment that a run comes to is prepared. -/
theorem Plan.Reached.prepared (reached : plan.Reached scene m) : Prepared plan m := by
  refine Reached.induct (I := Prepared plan) ?early ?works ?quits ?releases reached
  case early => exact fun m _ early => .early early
  case works => exact fun m m' pacing jobs _ prepared _ has works => prepared.works has works
  case quits =>
    intro m m' pacing result _ prepared _ _ quits
    refine .of_idle (by rw [quits.stance]; rfl) ?_
    intro fault ended
    refine prepared.failed fault ?_
    rw [quits.invoker] at ended
    generalize m.progress.scene.invoker.task = task at ended
    cases task with
    | ended how => exact ended
    | absent | scheduled | calling | resting => cases ended
  case releases =>
    intro m result _ prepared _
    refine .of_idle rfl ?_
    show ∀ fault, (Plan.release m.progress).scene.invoker.task = _ → _
    rw [(released m.progress).invoker]
    exact prepared.failed

/-- A wait raises exactly what its pause does. -/
theorem wait_raised {seconds : Double}
    (raises : (m.wait pacing seconds rest).stance.raised? = some raised) :
    ∃ fault, (Pause.of seconds).map (fun _ => ()) = .error fault ∧ raised = .plain fault := by
  unfold Moment.wait at raises
  cases paused : Pause.of seconds with
  | error fault =>
    rw [paused] at raises
    cases raises
    exact ⟨fault, rfl, rfl⟩
  | ok pause =>
    rw [paused] at raises
    cases pause <;> cases raises

/-- A delay of the service raises nothing. -/
theorem delay_raised (span? : Option Nat) : (m.delay pacing span? rest).stance.raised? = none := by
  cases span? <;> rfl

/-- A refusal is announced, whatever is behind it. -/
theorem refusal_announced (doing id : String) (operation : Operation) (fault : Fault) :
    (Progress.refusal doing id operation fault).Announced := by
  cases fault <;> exact (by decide : Kind.control ∈ Kind.announced)

/-- A fault comes up where a part of the work fails. -/
theorem attempt_raised {α : Type} {s : Stage α} {failed : Raised → Stance}
    {go : α → Moment → Moment}
    (failing : ∀ raised, (failed raised).raised? = some raised)
    (calm : ∀ a m, (go a m).stance.raised? = none)
    (raises : (m.attempt s failed go).stance.raised? = some raised) : s.1 = .error raised := by
  obtain ⟨result, p⟩ := s
  cases result with
  | ok a =>
    have none : (m.attempt (.ok a, p) failed go).stance.raised? = none := calm a _
    rw [none] at raises
    cases raises
  | error raised' =>
    have same : (failed raised').raised? = some raised := raises
    rw [failing raised'] at same
    cases same
    rfl

/-- A value that was not found is raised as it is. -/
theorem lift_raised {α : Type} {p : Progress} {value : Except Fault α}
    (error : (p.lift value).1 = .error raised) :
    ∃ fault, value = .error fault ∧ raised = .plain fault := by
  cases value with
  | ok a => cases error
  | error fault =>
    cases error
    exact ⟨fault, rfl, rfl⟩

/-- A checkpoint raises nothing but a violation. -/
theorem checkpoint_raised {p : Progress} {label : String}
    (error : (p.checkpoint label).1 = .error raised) :
    ∃ first count, raised = .plain (.violation label first count) := by
  unfold Progress.checkpoint Scene.checkpoint Monitor.checkpoint at error
  cases failed : p.scene.monitor.firstFailure with
  | none =>
    simp only [failed] at error
    cases error
  | some first =>
    simp only [failed] at error
    cases error
    exact ⟨first, _, rfl⟩

/-- A stop raises nothing but a refusal. -/
theorem askStop_refused {p : Progress} {id : String} {grace : Int}
    (error : (p.askStop id grace).1 = .error raised) :
    ∃ fault, raised = Progress.refusal "Stopping" id .stop fault := by
  unfold Progress.askStop at error
  split at error
  next => cases error
  next fault _ _ =>
    cases error
    exact ⟨fault, rfl⟩

/-- Nor does a start. -/
theorem askStart_refused {p : Progress} {id : String} (error : (p.askStart id).1 = .error raised) :
    ∃ fault, raised = Progress.refusal "Starting" id .start fault := by
  unfold Progress.askStart at error
  split at error
  next => cases error
  next fault _ _ =>
    cases error
    exact ⟨fault, rfl⟩

/-- A stop is announced unless its grace period cannot be counted. -/
theorem announceStop_error {p : Progress} {id label : String}
    (labelled : plan.source.label id = .ok label)
    (error : (p.announceStop plan.settings plan.source id).1 = .error raised) :
    ∃ fault, (Job.step (.stop id)).counting plan = .error fault ∧ raised = .plain fault := by
  unfold Job.counting
  unfold Progress.announceStop Progress.lift at error
  rw [labelled] at error
  generalize plan.settings.seconds plan.settings.grace = stretched at error ⊢
  cases stretched with
  | error fault =>
    cases error
    exact ⟨fault, rfl, rfl⟩
  | ok seconds =>
    simp only [Except.mapError, Stage.next_ok] at error
    simp only [Except.bind]
    generalize Progress.graceMillis seconds = millis at error ⊢
    cases millis with
    | error fault =>
      cases error
      exact ⟨fault, rfl, rfl⟩
    | ok grace => cases error

/-- A start has nothing to count, so it is always announced. -/
theorem announceStart_ok {p : Progress} {id label : String}
    (labelled : plan.source.label id = .ok label) :
    (p.announceStart plan.source id).1 = .ok () := by
  unfold Progress.announceStart
  rw [labelled]
  rfl

/-- A job raises a fault of a checkpoint or of a node, or it needs a duration that cannot be turned
into a time. -/
theorem work_raised (known : job.Known plan)
    (raises : (plan.work m pacing rest job).stance.raised? = some raised) :
    (∃ label, job = .step (.checkpoint label) ∧ (m.progress.checkpoint label).1 = .error raised) ∨
      (∃ doing id operation fault, raised = Progress.refusal doing id operation fault) ∨
      ∃ fault, job.counting plan = .error fault ∧ raised = .plain fault := by
  unfold Plan.work at raises
  cases job with
  | stop id grace =>
    obtain ⟨fault, refused⟩ :=
      askStop_refused (attempt_raised (fun _ => rfl) (fun _ _ => rfl) raises)
    exact .inr (.inl ⟨_, _, _, fault, refused⟩)
  | start id =>
    obtain ⟨fault, refused⟩ :=
      askStart_refused (attempt_raised (fun _ => rfl) (fun _ _ => rfl) raises)
    exact .inr (.inl ⟨_, _, _, fault, refused⟩)
  | stabilise =>
    unfold Job.counting
    unfold Progress.lift at raises
    cases ok : plan.settings.seconds plan.settings.stability with
    | error fault =>
      rw [ok] at raises
      cases raises
      exact .inr (.inr ⟨fault, rfl, rfl⟩)
    | ok seconds =>
      rw [ok] at raises
      exact .inr (.inr (wait_raised raises))
  | step s =>
    cases s with
    | checkpoint label =>
        exact .inl ⟨label, rfl, attempt_raised (fun _ => rfl) (fun _ _ => rfl) raises⟩
    | wait kind seconds =>
      exact .inr (.inr (wait_raised raises))
    | stop id =>
      -- A node of the script has a label, so only its grace period can be at fault.
      obtain ⟨label, labelled⟩ := known
      have error := attempt_raised (fun _ => rfl) (fun _ m => delay_raised _) raises
      exact .inr (.inr (announceStop_error labelled error))
    | start id =>
      obtain ⟨label, labelled⟩ := known
      have error := attempt_raised (fun _ => rfl) (fun _ m => delay_raised _) raises
      rw [announceStart_ok labelled] at error
      cases error

/-- A script that is not to be had breaks the rules, or its waits are not known. -/
theorem script_raised {fault : Fault} (error : plan.script = .error fault) :
    (∃ flaw : Script.Flaw, fault = flaw.fault) ∨ plan.settings.pace = .error fault := by
  unfold Plan.script Settings.script at error
  cases paced : plan.settings.pace with
  | error fault' =>
    rw [paced] at error
    cases error
    exact .inr rfl
  | ok pace =>
    rw [paced] at error
    simp only [bind, Except.bind, pure, Except.pure] at error
    split at error
    next => cases error
    next flaw _ =>
      cases error
      exact .inl ⟨flaw, rfl⟩

/-- All that can go wrong with the acquisition is that the service is unavailable. -/
theorem acquire_raised {p : Progress} (error : (plan.acquire p).1 = .error raised) :
    ∃ fault, raised = plan.unavailable fault := by
  cases acquisition : p.scene.service.trouble.acquisition with
  | none =>
    rw [Plan.acquire_of_none acquisition] at error
    cases error
  | some fault =>
    rw [Plan.acquire_of_some acquisition] at error
    cases error
    exact ⟨fault, rfl⟩

/-- An invoker that was never started can be started, so only its pacing can be at fault. -/
theorem launch_raised {p : Progress} (fresh : p.scene.invoker = .fresh)
    (error : (plan.launch p).1 = .error raised) :
    ∃ fault, plan.pacing = .error fault ∧ raised = .plain fault := by
  cases paced : plan.pacing with
  | ok pacing =>
    rw [Plan.launch_of_fresh paced fresh] at error
    cases error
  | error fault =>
    unfold Plan.launch Progress.lift at error
    rw [paced] at error
    cases error
    exact ⟨fault, rfl, rfl⟩

/-- The first call raises a violation before any other call is made. -/
theorem hear_raised {p : Progress} (error : (Plan.hear p).1 = .error raised) :
    ∃ fault, raised = .of (.violation Plan.warmUpLabel fault 0) fault := by
  cases reply : p.scene.service.reply with
  | failure fault =>
    rw [Plan.hear_of_failure reply] at error
    cases error
    exact ⟨fault, rfl⟩
  | value v =>
    unfold Plan.hear Cluster.service at error
    rcases p.scene.service.answer_cases with ⟨fault, failed, _⟩ | ⟨_, answer⟩
    · rw [failed] at reply
      cases reply
    · simp only [answer] at error
      cases error

/-- While the run stands alone, it waits for its first call. -/
theorem Plan.Reached.alone (reached : plan.Reached scene m) {goal : Timer} {after : Stance}
    (stance : m.stance = .alone goal after) : after.raised? = none := by
  have onset := reached.onset
  rw [stance] at onset
  obtain ⟨steps, rfl | rfl⟩ := onset
  · rfl
  · rfl

/-- The first wait raises what its duration does. -/
theorem gather_raised {p : Progress} {after : Stance} (raises : (m.attempt
      (p.lift (plan.settings.seconds plan.settings.formation))
      (fun raised => .releasing (.error raised))
      fun seconds m => m.waitAlone seconds after).stance.raised? = some raised)
    (calm : after.raised? = none := by rfl) :
    ∃ fault, (plan.settings.seconds plan.settings.formation).bind Pause.of = .error fault ∧
      raised = .plain fault := by
  unfold Progress.lift at raises
  generalize plan.settings.seconds plan.settings.formation = stretched at raises ⊢
  cases stretched with
  | error fault =>
    cases raises
    exact ⟨fault, rfl, rfl⟩
  | ok seconds =>
    have waits : (({ m with progress := p } : Moment).waitAlone seconds after).stance.raised? =
      some raised := raises
    unfold Moment.waitAlone at waits
    show ∃ fault, Pause.of seconds = _ ∧ _
    generalize Pause.of seconds = paused at waits ⊢
    cases paused with
    | error fault =>
      cases waits
      exact ⟨fault, rfl, rfl⟩
    | ok pause =>
      cases pause with
      | timed span => cases waits
      | passing =>
        have same : after.raised? = some raised := waits
        rw [calm] at same
        cases same

/-- Closing a loop brings up the fault with which it came to its end, if there is one. -/
theorem closing_cases (task : Task) (result : Except Raised Unit) : closing task result = result ∨
    ∃ fault, task = .ended (.failed fault) ∧ closing task result = .error (.plain fault) := by
  cases task with
  | ended how =>
    cases how with
    | failed fault => exact .inr ⟨fault, rfl, rfl⟩
    | returned | cancelled => exact .inl rfl
  | absent | scheduled | calling | resting => exact .inl rfl

/-- A fault that comes up has one of these origins. -/
theorem next_origin (reached : plan.Reached scene m) (next : plan.Next m m')
    (raises : m'.stance.raised? = some raised) : m.stance.raised? = some raised ∨
    Origin plan m raised := by
  have prepared := reached.prepared
  have whole := next
  generalize stance : m.stance = current
  unfold Plan.Next Plan.next at next
  rw [stance] at next
  cases current with
  | checking =>
    cases next
    obtain ⟨fault, script, rfl⟩ :=
      lift_raised (attempt_raised (fun _ => rfl) (fun _ _ => rfl) raises)
    rcases script_raised script with ⟨flaw, rfl⟩ | unpaced
    · exact .inr (.flaw flaw)
    · exact .inr (.snag (.script stance unpaced))
  | acquiring steps =>
    cases next
    obtain ⟨fault, rfl⟩ := acquire_raised (attempt_raised (fun _ => rfl) (fun _ _ => rfl) raises)
    exact .inr (.unavailable fault)
  | gathering steps =>
    cases next
    obtain ⟨fault, uncounted, rfl⟩ := gather_raised raises
    exact .inr (.snag (.formation stance uncounted))
  -- To wait alone ends where it was set to end, and no run is set to end that way with a fault.
  | alone goal after =>
    cases next
    have none := reached.alone stance
    have some : after.raised? = some raised := raises
    rw [none] at some
    cases some
  | ringing steps =>
    dsimp only at next
    split at next
    all_goals
      cases next
      cases raises
  | hearing steps =>
    cases next
    obtain ⟨fault, rfl⟩ := hear_raised (attempt_raised (fun _ => rfl) (fun _ _ => rfl) raises)
    exact .inr (.warmUp fault)
  | launching steps =>
    cases next
    obtain ⟨fault, unpaced, rfl⟩ :=
      launch_raised (reached.launching stance)
        (attempt_raised (fun _ => rfl) (fun _ _ => rfl) raises)
    exact .inr (.snag (.pacing stance unpaced))
  | doing pacing jobs =>
    cases jobs with
    | nil =>
      cases next
      cases raises
    | cons job rest =>
      cases next
      -- The job comes from the script, so what it can raise is known from its kind.
      have known := prepared.known _ _ (Stance.has_of_doing stance) job List.mem_cons_self
      rcases work_raised known raises with ⟨_, rfl, error⟩ | ⟨_, _, _, _, rfl⟩ |
        ⟨fault, uncounted, rfl⟩
      · obtain ⟨first, count, rfl⟩ := checkpoint_raised error
        exact .inr (.violated first count stance)
      · exact .inr (.refused _ _ _ _)
      · exact .inr (.snag (.job stance uncounted))
  | waiting pacing goal fuel jobs =>
    rcases Plan.next_waiting stance whole with ⟨rfl, _⟩ | ⟨_, _, _, _, _, rfl⟩ <;> cases raises
  -- The result is taken along, except that a loop that failed puts its own fault in its place.
  | quitting pacing result =>
    rw [(next_quits (reached.running stance) stance whole).stance] at raises
    rcases closing_cases m.progress.scene.invoker.task result with same | ⟨fault, ended, same⟩
    · rw [same] at raises
      exact .inl raises
    · rw [same] at raises
      cases raises
      exact .inr (.snag (.loop stance ended))
  | releasing result =>
    cases next
    exact .inl raises
  | finished result => cases next

/-- A fault that comes up is announced, or it comes up at a snag. -/
theorem next_raised (reached : plan.Reached scene m) (next : plan.Next m m')
    (raises : m'.stance.raised? = some raised) :
    m.stance.raised? = some raised ∨ raised.Announced ∨ ∃ fault, Snag plan m fault ∧
    raised = .plain fault := by
  rcases next_origin reached next raises with same | origin
  · exact .inl same
  cases origin with
  | snag snag => exact .inr (.inr ⟨_, snag, rfl⟩)
  | flaw => exact .inr (.inl (by decide : Kind.script ∈ Kind.announced))
  | unavailable fault =>
      cases fault <;> exact .inr (.inl (by decide : Kind.acquisition ∈ Kind.announced))
  | warmUp | violated => exact .inr (.inl (by decide : Kind.violation ∈ Kind.announced))
  | refused => exact .inr (.inl (refusal_announced _ _ _ _))

/-- A stretched duration that is not to be had makes the settings unfit. -/
theorem unfit_seconds {m : Millis} {fault : Fault} (among : m ∈ plan.settings.durations)
    (error : plan.settings.seconds m = .error fault) : plan.settings.Unfit fault := by
  obtain ⟨rfl, apart⟩ := Settings.seconds_error error
  exact .large among apart

/-- A wait that cannot be counted is due to the duration that it was set to. -/
theorem unfit_pause {m : Millis} {fault : Fault} (among : m ∈ plan.settings.waits)
    (error : (plan.settings.seconds m).bind Pause.of = .error fault) :
    plan.settings.Unfit fault := by
  cases stretched : plan.settings.seconds m with
  | error fault' =>
    rw [stretched] at error
    cases error
    exact unfit_seconds (List.mem_append_left _ among) stretched
  | ok seconds =>
    rw [stretched] at error
    obtain ⟨rfl, uncounted⟩ := Pause.of_error error
    exact .endless among stretched uncounted

/-- A grace period that cannot be counted is due to its duration, or to the factor. -/
theorem unfit_grace {fault : Fault}
    (error : (plan.settings.seconds plan.settings.grace).bind Progress.graceMillis = .error fault) :
    plan.settings.Unfit fault := by
  cases stretched : plan.settings.seconds plan.settings.grace with
  | error fault' =>
    rw [stretched] at error
    cases error
    exact unfit_seconds (by simp [Settings.durations]) stretched
  | ok seconds =>
    rw [stretched] at error
    have uncounted : Progress.graceMillis seconds = .error fault := error
    cases Progress.graceMillis_error uncounted
    exact .patient stretched uncounted

/-- A script that cannot be paced is due to one of its two durations. -/
theorem unfit_pace {fault : Fault} (error : plan.settings.pace = .error fault) :
    plan.settings.Unfit fault := by
  rcases Settings.pace_error error with outage | restart
  · exact unfit_seconds (by simp [Settings.durations, Settings.waits]) outage
  · exact unfit_seconds (by simp [Settings.durations, Settings.waits]) restart

/-- A limit that cannot be counted is due to its duration. -/
theorem unfit_limit {fault : Fault} (error : plan.settings.limitSeconds = .error fault) :
    plan.settings.Unfit fault := by
  unfold Settings.limitSeconds at error
  cases limit : plan.settings.callLimit with
  | none =>
    rw [limit] at error
    cases error
  | some m =>
    rw [limit] at error
    dsimp only at error
    cases stretched : plan.settings.seconds m with
    | ok seconds =>
      rw [stretched] at error
      cases error
    | error fault' =>
      rw [stretched] at error
      cases error
      exact unfit_seconds (by simp [Settings.durations, limit]) stretched

/-- So a pacing that cannot be counted is due to the period or to the limit. -/
theorem unfit_pacing {fault : Fault} (error : plan.pacing = .error fault) :
    plan.settings.Unfit fault := by
  unfold Plan.pacing at error
  cases stretched : plan.settings.seconds plan.settings.period with
  | error fault' =>
    rw [stretched] at error
    cases error
    exact unfit_seconds (by simp [Settings.durations, Settings.waits]) stretched
  | ok seconds =>
    rw [stretched] at error
    cases limit : plan.settings.limitSeconds with
    | error fault' =>
      rw [limit] at error
      cases error
      exact unfit_limit limit
    | ok limit' =>
      rw [limit] at error
      have refused : Pacing.of seconds limit' = .error fault := error
      unfold Pacing.of at refused
      split at refused
      next small =>
        cases refused
        refine .restless stretched ?_
        by_contra positive
        rw [Bool.not_eq_false] at positive
        rw [Double.isBelowZero_of_isPositive positive,
          Double.isZero_of_isPositive positive] at small
        cases small
      next => cases refused

/-- A period with seconds but without microseconds is due to the period, too. -/
theorem unfit_period {fault : Fault} (paced : plan.pacing = .ok pacing)
    (uncounted : pacing.period = .error fault) :
    plan.settings.Unfit fault := by
  obtain ⟨seconds, limit, stretched, _, rfl⟩ := Plan.pacing_eq paced
  cases micros_error uncounted
  exact .endless (by simp [Settings.waits]) stretched uncounted

theorem error_of_map {α : Type} {value : Except Fault α} {fault : Fault}
    (error : value.map (fun _ => ()) = .error fault) : value = .error fault := by
  cases value with
  | ok a => cases error
  | error fault' =>
    cases error
    rfl

/-- A job that cannot be counted is due to one of the durations of the settings. -/
theorem unfit_job {fault : Fault} (known : job.Known plan)
    (uncounted : job.counting plan = .error fault) :
    plan.settings.Unfit fault := by
  have waits {m : Millis} {seconds : Double} (among : m ∈ plan.settings.waits)
      (stretched : plan.settings.seconds m = .ok seconds)
        (paused : Pause.of seconds = .error fault) :
      plan.settings.Unfit fault := by
    refine unfit_pause among ?_
    rw [stretched]
    exact paused
  cases job with
  | stabilise => exact unfit_pause (by simp [Settings.waits]) (error_of_map uncounted)
  | stop | start => cases uncounted
  | step s =>
    cases s with
    | wait kind seconds =>
      rcases known with outage | restart
      · exact waits (by simp [Settings.waits]) outage (error_of_map uncounted)
      · exact waits (by simp [Settings.waits]) restart (error_of_map uncounted)
    | stop id => exact unfit_grace (error_of_map uncounted)
    | start | checkpoint => cases uncounted

/-- At a snag the settings are to blame. -/
theorem Snag.unfit (reached : plan.Reached scene m) {fault : Fault} (snag : Snag plan m fault) :
    plan.settings.Unfit fault := by
  have prepared := reached.prepared
  cases snag with
  | script _ unpaced => exact unfit_pace unpaced
  | formation _ uncounted => exact unfit_pause (by simp [Settings.waits]) uncounted
  | pacing _ unpaced => exact unfit_pacing unpaced
  | job stance uncounted =>
    exact unfit_job (prepared.known _ _ (Stance.has_of_doing stance) _ List.mem_cons_self) uncounted
  | loop _ ended =>
    obtain ⟨pacing, paced, uncounted⟩ := prepared.failed _ ended
    exact unfit_period paced uncounted

/-- A wait that cannot be counted ends the run with that fault. -/
theorem wait_of_error {seconds : Double} {fault : Fault}
    (paused : Pause.of seconds = .error fault) :
    (m.wait pacing seconds rest).stance.raised? = some (.plain fault) := by
  unfold Moment.wait
  rw [paused]
  rfl

/-- So does a stop whose grace period cannot be counted. -/
theorem announceStop_of_uncounted {p : Progress} {id label : String} {fault : Fault}
    (labelled : plan.source.label id = .ok label)
    (uncounted : (plan.settings.seconds plan.settings.grace).bind Progress.graceMillis =
      .error fault) :
    (p.announceStop plan.settings plan.source id).1 = .error (.plain fault) := by
  unfold Progress.announceStop Progress.lift
  rw [labelled]
  generalize plan.settings.seconds plan.settings.grace = stretched at uncounted ⊢
  cases stretched with
  | error fault' =>
    cases uncounted
    rfl
  | ok seconds =>
    have millis : Progress.graceMillis seconds = .error fault := uncounted
    simp only [Except.mapError, Stage.next_ok, millis, Stage.next_error]

/-- A job with a duration that cannot be turned into a time raises the fault of it. -/
theorem work_of_uncounted {fault : Fault} (known : job.Known plan)
    (uncounted : job.counting plan = .error fault) :
    (plan.work m pacing rest job).stance.raised? = some (.plain fault) := by
  unfold Plan.work
  cases job with
  | stop | start => cases uncounted
  | stabilise =>
    have error := error_of_map uncounted
    unfold Progress.lift
    generalize plan.settings.seconds plan.settings.stability = stretched at error ⊢
    cases stretched with
    | error fault' =>
      cases error
      rfl
    | ok seconds => exact wait_of_error error
  | step s =>
    cases s with
    | start | checkpoint => cases uncounted
    | wait kind seconds => exact wait_of_error (error_of_map uncounted)
    | stop id =>
      obtain ⟨label, labelled⟩ := known
      have refused := announceStop_of_uncounted (p := m.progress) labelled (error_of_map uncounted)
      dsimp only
      rw [Moment.attempt_stance refused]
      rfl

/-- The fault of a snag comes up. -/
theorem Snag.next (reached : plan.Reached scene m) {fault : Fault} (snag : Snag plan m fault) :
    ∃ m', plan.Next m m' ∧ m'.stance.raised? = some (.plain fault) := by
  have prepared := reached.prepared
  obtain ⟨p, stance, ends⟩ := m
  cases snag with
  | script stance unpaced =>
    cases stance
    have script :
      ((p.note (.runStarted plan.implementation plan.settings.banner)).lift plan.script).1
        = .error (.plain fault) := by
      unfold Progress.lift Plan.script Settings.script
      rw [unpaced]
      rfl
    refine ⟨_, rfl, ?_⟩
    rw [Moment.attempt_stance script]
    rfl
  | formation stance uncounted =>
    cases stance
    refine ⟨_, rfl, ?_⟩
    unfold Progress.lift
    generalize plan.settings.seconds plan.settings.formation = stretched at uncounted ⊢
    cases stretched with
    | error fault' =>
      cases uncounted
      rfl
    | ok seconds =>
      -- The duration itself is known; what cannot be counted is its span.
      have paused : Pause.of seconds = .error fault := uncounted
      show Stance.raised? (Moment.waitAlone _ seconds _).stance = _
      unfold Moment.waitAlone
      rw [paused]
      rfl
  | pacing stance unpaced =>
    cases stance
    have launch : (plan.launch p).1 = .error (.plain fault) := by
      unfold Plan.launch Progress.lift
      rw [unpaced]
      rfl
    refine ⟨_, rfl, ?_⟩
    rw [Moment.attempt_stance launch]
    rfl
  | job stance uncounted =>
    cases stance
    have known := prepared.known _ _ .doing _ List.mem_cons_self
    exact ⟨_, rfl, work_of_uncounted known uncounted⟩
  | @loop pacing result _ stance ended =>
    cases stance
    -- How the loop is closed does not matter here, only that its fault comes up.
    obtain ⟨m', next⟩ : ∃ m', plan.Next ⟨p, .quitting pacing result, ends⟩ m' := ⟨_, rfl⟩
    refine ⟨m', next, ?_⟩
    have ended' : p.scene.invoker.task = .ended (.failed fault) := ended
    rw [(next_quits (reached.running rfl) rfl next).stance, ended']
    rfl

/-- A fault that is not announced stays, or the loop brings up another one. -/
theorem unannounced_leads (reached : plan.Reached scene m) {raised : Raised}
    (raises : m.stance.raised? = some raised) (unannounced : ¬ raised.Announced)
    (leads : plan.Leads m m') :
    ∃ raised', m'.stance.raised? = some raised' ∧ ¬ raised'.Announced := by
  induction leads with
  | refl => exact ⟨raised, raises, unannounced⟩
  | @tail b c leads next ih =>
    obtain ⟨raised', raises', unannounced'⟩ := ih
    have reached' : plan.Reached scene b := reached.trans leads
    generalize stance : b.stance = current at raises'
    cases current with
    | quitting pacing result =>
      rw [(next_quits (reached'.running stance) stance next).stance]
      rcases closing_cases b.progress.scene.invoker.task result with same | ⟨fault, ended, same⟩
      · rw [same]
        exact ⟨raised', raises', unannounced'⟩
      · rw [same]
        exact ⟨_, rfl, (Snag.unfit reached' (.loop stance ended)).unannounced⟩
    | releasing result =>
      unfold Plan.Next Plan.next at next
      rw [stance] at next
      cases next
      exact ⟨raised', raises', unannounced'⟩
    | finished result =>
      unfold Plan.Next Plan.next at next
      rw [stance] at next
      cases next
    | _ => cases raises'

/-- A fault that has come up is announced, or the run came to a snag. -/
theorem Plan.Reached.blames (reached : plan.Reached scene m) {raised : Raised}
    (raises : m.stance.raised? = some raised) :
    raised.Announced ∨ ∃ c fault, plan.Reached scene c ∧ Snag plan c fault ∧
    raised = .plain fault := by
  induction reached with
  | refl => cases raises
  | tail leads next ih =>
    rcases next_raised leads next raises with before | announced | ⟨fault, snag, same⟩
    · exact ih before
    · exact .inl announced
    · exact .inr ⟨_, fault, leads, snag, same⟩

end

namespace Plan

variable (plan : Plan) (scene : Scene Cluster)

/-- A run ends with a fault that it is not announced to end with exactly if it comes to a snag; and
then it is one for which its settings are unfit, whatever topology, service and nodes they were
combined with. -/
theorem conduct_unannounced_iff :
    ((∃ raised, (plan.conduct scene).1 = .error raised ∧ ¬ raised.Announced) ↔
      ∃ m fault, plan.Reached scene m ∧ Snag plan m fault) ∧
    ∀ raised, (plan.conduct scene).1 = .error raised → raised.Announced ∨
      ∃ fault, raised = .plain fault ∧ plan.settings.Unfit fault := by
  -- The same argument serves both halves: what a run ends with came up at some moment.
  have blames (raised : Raised) (ends : (plan.conduct scene).1 = .error raised) : raised.Announced ∨
      ∃ m fault, plan.Reached scene m ∧ Snag plan m fault ∧ raised = .plain fault := by
    obtain ⟨last, reached, ⟨raised', finished, conducts⟩ | ⟨_, conducts⟩⟩ :=
      plan.leads_conduct scene
    · rw [conducts] at ends
      cases ends
      exact reached.blames (by rw [finished]; rfl)
    · rw [conducts] at ends
      cases ends
  refine ⟨⟨?_, ?_⟩, ?_⟩
  · rintro ⟨raised, ends, unannounced⟩
    rcases blames raised ends with announced | ⟨m, fault, reached, snag, _⟩
    · exact absurd announced unannounced
    · exact ⟨m, fault, reached, snag⟩
  · rintro ⟨m, fault, reached, snag⟩
    obtain ⟨m', next, raises⟩ := snag.next reached
    have reached' : plan.Reached scene m' := reached.tail next
    obtain ⟨last, finish, ends⟩ := plan.leads_conduct scene
    -- From the snag on, every moment has a fault that nobody announces, up to the last one.
    have stays {result : Except Raised Unit} (finished : last.stance = .finished result) :
        ∃ raised, last.stance.raised? = some raised ∧ ¬ raised.Announced :=
      unannounced_leads reached' raises (snag.unfit reached).unannounced
        (reached'.leads_finished finish finished)
    rcases ends with ⟨raised, finished, conducts⟩ | ⟨finished, _⟩
    · obtain ⟨raised', raises', unannounced⟩ := stays finished
      rw [finished] at raises'
      cases raises'
      exact ⟨raised, congrArg Prod.fst conducts, unannounced⟩
    · obtain ⟨raised', raises', _⟩ := stays finished
      rw [finished] at raises'
      cases raises'
  · intro raised ends
    rcases blames raised ends with announced | ⟨m, fault, reached, snag, same⟩
    · exact .inl announced
    · exact .inr ⟨fault, same, snag.unfit reached⟩

/-- The brisk plan with a very long time for a node to shut down. -/
def lavish : Plan :=
  { brisk with settings :=
    { brisk.settings with grace := ⟨Nat.pow 100 154, Nat.pow_pos (Nat.succ_pos 99)⟩ } }

/-- A grace period can become infinite when it is stretched. This comes up where the first node is
to be stopped, in the middle of the run, and not as a node that does not do what it is told. -/
theorem lavish_unannounced : ∃ raised,
    (lavish.conduct (.opening calm (.start none))).1 = .error raised ∧
    raised = .plain .infiniteSpan ∧ ¬ raised.Announced ∧
    (lavish.conduct (.opening calm (.start none))).2.checkpoints = [Script.baseline] := by
  refine ⟨_, ?_, rfl, ?_, ?_⟩
  all_goals decide +kernel

/-- The brisk plan with the smallest of all factors, under which its delay between calls
vanishes. -/
def shrunken : Plan :=
  { brisk with settings :=
    { brisk.settings with factor := ⟨.finite false ⟨1, 0, by decide⟩, by decide⟩ } }

example : (shrunken.conduct (.opening calm (.start none))).1
    = .error (.plain (.plain .value "period_s must be positive, got 0.0")) := by
  decide +kernel

end Plan

end Run

end Drill
