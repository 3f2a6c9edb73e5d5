import Drill.Proofs.Work

/-!
# What a run does before the invoker works

Up to the start of the invoker a run goes straight on: it checks its script, acquires the service,
waits and makes the first call, and `Early` says of every moment on the way what the run has changed
so far.

Together with `Works` and `Quits`, which say what can happen later, this tells how a run goes from
any moment to the next (`Reached.goes`), and it gives the one induction that the other files use:
what holds early, and is kept by work, by quitting and by letting go, holds of every moment that is
reached (`Reached.induct`, and `Reached.induct_next` for those that also look at the step itself).
`Reached.induct_has` is for what holds only as long as the invoker works. Each of them brings its
invariant and the step lemmas for it. Main statements: `Early.next`, the moment after an early one
is early, `Reached.goes` and `Reached.induct`.
-/

namespace Drill.Run

/-- The cluster when the service was handed out. -/
def Plan.held (plan : Plan) (scene : Scene Cluster) : Cluster :=
  { scene.service with handles := scene.service.handles ++ [⟨plan.implementation, 0, 0, 0⟩] }

/-- The fault of a run whose service was not handed out because of this fault. -/
def Plan.unavailable (plan : Plan) : Fault → Raised
  | .acquisition text => .plain (.acquisition text)
  | fault =>
    .of (.acquisition s!"Could not acquire service for {plan.implementation}: {fault.text}") fault

/-- The monitor after a first call that was answered with this value. -/
def seeded (v : Int) : Monitor := { Monitor.start none with expected := some v }

/-- An invoker that was started and did nothing yet. -/
def poised : Invoker := ⟨.running, 0, .scheduled, false⟩

theorem poised_running : poised.Running := ⟨rfl, rfl, Task.noConfusion⟩

/-- A moment of a run that has changed the cluster, the monitor and the invoker at most. -/
structure Moment.Still (plan : Plan) (c : Cluster) (monitor : Monitor) (invoker : Invoker)
    (m : Moment) :
    Prop where
  service : m.progress.scene.service = c
  monitor : m.progress.scene.monitor = monitor
  invoker : m.progress.scene.invoker = invoker
  live : m.progress.live = plan.source
  checkpoints : m.progress.checkpoints = []
  toggled : m.progress.toggled = []
  ends : m.ends = []

/-- The run has its script and the service. -/
structure Plan.Ready (plan : Plan) (scene : Scene Cluster) (steps : List Step) : Prop where
  script : plan.script = .ok steps
  acquisition : scene.service.trouble.acquisition = none

/-- A moment before the invoker works, or the one at which it begins to. -/
inductive Plan.Early (plan : Plan) (scene : Scene Cluster) (m : Moment) : Prop where
  | checking (stance : m.stance = .checking)
      (still : m.Still plan scene.service (.start none) .fresh)
  | flawed {fault : Fault} (script : plan.script = .error fault)
      (stance : m.stance = .finished (.error (.plain fault)))
      (still : m.Still plan scene.service (.start none) .fresh)
  | acquiring {steps : List Step} (script : plan.script = .ok steps)
      (stance : m.stance = .acquiring steps)
        (still : m.Still plan scene.service (.start none) .fresh)
  | unavailable {c : Moment} {steps : List Step} {fault : Fault} (reached : plan.Reached scene c)
      (before : c.stance = .acquiring steps)
      (acquisition : c.progress.scene.service.trouble.acquisition = some fault)
      (stance : m.stance = .finished (.error (plan.unavailable fault)))
      (still : m.Still plan scene.service (.start none) .fresh)
  | gathering {steps : List Step} (ready : plan.Ready scene steps)
      (stance : m.stance = .gathering steps ∨ m.stance = .ringing steps ∨
        ∃ goal, m.stance = .alone goal (.ringing steps))
      (still : m.Still plan (plan.held scene) (.start none) .fresh)
  /-- The time in which the clusters form cannot be counted. -/
  | ungathered {steps : List Step} {raised : Raised} (ready : plan.Ready scene steps)
      (uncounted : ∀ seconds pause, plan.settings.seconds plan.settings.formation = .ok seconds →
        Pause.of seconds ≠ .ok pause)
      (stance : m.stance = .releasing (.error raised))
      (still : m.Still plan (plan.held scene) (.start none) .fresh)
  | hearing {steps : List Step} (ready : plan.Ready scene steps)
      (stance : m.stance = .hearing steps ∨ ∃ goal, m.stance = .alone goal (.hearing steps))
      (still : m.Still plan (plan.held scene).entered (.start none) .fresh)
  | unheard {c : Moment} {steps : List Step} {fault : Fault} (ready : plan.Ready scene steps)
      (reached : plan.Reached scene c) (before : c.stance = .hearing steps)
      (reply : c.progress.scene.service.reply = .failure fault)
      (stance : m.stance = .releasing (.error (.of (.violation Plan.warmUpLabel fault 0) fault)))
      (still : m.Still plan (plan.held scene).entered.answered (.start none) .fresh)
  | launching {steps : List Step} {v : Int} (ready : plan.Ready scene steps)
      (reply : scene.service.reply = .value v) (stance : m.stance = .launching steps)
      (still : m.Still plan (plan.held scene).entered.answered (seeded v) .fresh)
  | unlaunched {steps : List Step} {v : Int} {fault : Fault} (ready : plan.Ready scene steps)
      (reply : scene.service.reply = .value v) (unpaced : plan.pacing = .error fault)
      (stance : m.stance = .releasing (.error (.plain fault)))
      (still : m.Still plan (plan.held scene).entered.answered (seeded v) .fresh)
  | launched {steps : List Step} {v : Int} {pacing : Pacing} (ready : plan.Ready scene steps)
      (reply : scene.service.reply = .value v) (paced : plan.pacing = .ok pacing)
      (stance : m.stance = .doing pacing (Plan.jobs steps))
      (still : m.Still plan (plan.held scene).entered.answered (seeded v) poised)

namespace Plan

variable {plan : Plan} {scene : Scene Cluster} {m m' : Moment}

/-- A run begins early. -/
theorem opening_early : plan.Early scene (plan.opening scene) :=
  .checking rfl ⟨rfl, rfl, rfl, rfl, rfl, rfl, rfl⟩

/-- After the check it acquires the service or has failed. -/
theorem early_checking {c : Moment} (stance : c.stance = .checking)
    (still : c.Still plan scene.service (.start none) .fresh) (next : plan.next c = some m) :
    plan.Early scene m := by
  obtain ⟨p, _, ends⟩ := c
  subst stance
  unfold Plan.next Progress.lift at next
  cases script : plan.script with
  | error fault =>
    rw [script] at next
    cases next
    exact .flawed script rfl { still with }
  | ok steps =>
    rw [script] at next
    cases next
    exact .acquiring script rfl { still with }

/-- A service that is not handed out. -/
theorem acquire_of_some {p : Progress} {fault : Fault}
    (acquisition : p.scene.service.trouble.acquisition = some fault) :
    plan.acquire p = (.error (plan.unavailable fault), p) := by
  unfold acquire Progress.onCluster Cluster.acquire
  simp only [acquisition]
  cases fault <;> rfl

/-- A service that is handed out. -/
theorem acquire_of_none {p : Progress} (acquisition : p.scene.service.trouble.acquisition = none) :
    plan.acquire p = (.ok (), { p with scene.service := { p.scene.service with
      handles := p.scene.service.handles ++ [⟨plan.implementation, 0, 0, 0⟩] } }) := by
  unfold acquire Progress.onCluster Cluster.acquire
  simp only [acquisition]

/-- A first call that fails. -/
theorem hear_of_failure {p : Progress} {fault : Fault}
    (reply : p.scene.service.reply = .failure fault) :
    (hear p).1 = .error (.of (.violation warmUpLabel fault 0) fault) := by
  unfold hear Cluster.service
  rcases p.scene.service.answer_cases with ⟨fault', reply', answer⟩ | ⟨reply', answer⟩
  · rw [reply'] at reply
    cases reply
    simp only [answer]
  · rw [reply'] at reply
    cases reply

/-- With the service acquired it gathers, and without it the run is over. -/
theorem early_acquiring {c : Moment} {steps : List Step} (reached : plan.Reached scene c)
    (script : plan.script = .ok steps) (stance : c.stance = .acquiring steps)
    (still : c.Still plan scene.service (.start none) .fresh) (next : plan.next c = some m) :
    plan.Early scene m := by
  obtain ⟨p, _, ends⟩ := c
  subst stance
  have service : p.scene.service = scene.service := still.service
  unfold Plan.next at next
  cases acquisition : p.scene.service.trouble.acquisition with
  | none =>
    have acquired : plan.acquire p = (.ok (), { p with scene.service := plan.held scene }) := by
      rw [acquire_of_none acquisition, service]
      rfl
    simp only [acquired] at next
    cases next
    rw [service] at acquisition
    exact .gathering ⟨script, acquisition⟩ (.inl rfl) { still with service := rfl }
  | some fault =>
    simp only [acquire_of_some acquisition] at next
    cases next
    exact .unavailable reached rfl acquisition rfl { still with }

/-- The first wait is a time in which nothing else happens. -/
theorem early_waitAlone {c : Moment} {steps : List Step} (seconds : Number.Double)
    (ready : plan.Ready scene steps)
    (counted : plan.settings.seconds plan.settings.formation = .ok seconds)
    (still : c.Still plan (plan.held scene) (.start none) .fresh) :
    plan.Early scene (c.waitAlone seconds (.ringing steps)) := by
  unfold Moment.waitAlone
  cases pause : Pause.of seconds with
  | error fault =>
    refine .ungathered ready ?_ rfl { still with }
    intro s pause' h h'
    rw [counted] at h
    cases h
    rw [pause] at h'
    cases h'
  | ok wait =>
    cases wait with
    | passing => exact .gathering ready (.inr (.inl rfl)) { still with }
    | timed span => exact .gathering ready (.inr (.inr ⟨_, rfl⟩)) { still with }

/-- After it the first call is made. -/
theorem early_gathering {c : Moment} {steps : List Step} (ready : plan.Ready scene steps)
    (stance : c.stance = .gathering steps)
    (still : c.Still plan (plan.held scene) (.start none) .fresh) (next : plan.next c = some m) :
    plan.Early scene m := by
  obtain ⟨p, _, ends⟩ := c
  subst stance
  unfold Plan.next Progress.lift at next
  cases counted : plan.settings.seconds plan.settings.formation with
  | error fault =>
    rw [counted] at next
    cases next
    refine .ungathered ready ?_ rfl { still with }
    intro s pause h
    rw [counted] at h
    cases h
  | ok seconds =>
    rw [counted] at next
    cases next
    exact early_waitAlone seconds ready counted { still with }

/-- That call waits for as long as the service takes. -/
theorem early_ringing {c : Moment} {steps : List Step} (ready : plan.Ready scene steps)
    (stance : c.stance = .ringing steps)
    (still : c.Still plan (plan.held scene) (.start none) .fresh) (next : plan.next c = some m) :
    plan.Early scene m := by
  obtain ⟨p, _, ends⟩ := c
  subst stance
  have entered : p.scene.service.entered = (plan.held scene).entered := by
    rw [show p.scene.service = plan.held scene from still.service]
  unfold Plan.next ring Cluster.service Cluster.enter at next
  dsimp only at next
  cases delay : p.scene.service.nextDelay with
  | none =>
    rw [delay] at next
    cases next
    exact .hearing ready (.inl rfl) { still with service := entered }
  | some span =>
    rw [delay] at next
    cases next
    exact .hearing ready (.inr ⟨_, rfl⟩) { still with service := entered }

/-- What it answers is known before the invoker is made, and a failure ends the run. -/
theorem early_hearing {c : Moment} {steps : List Step} (reached : plan.Reached scene c)
    (ready : plan.Ready scene steps) (stance : c.stance = .hearing steps)
    (still : c.Still plan (plan.held scene).entered (.start none) .fresh)
    (next : plan.next c = some m) : plan.Early scene m := by
  obtain ⟨p, _, ends⟩ := c
  subst stance
  have service : p.scene.service = (plan.held scene).entered := still.service
  have replies : p.scene.service.reply = scene.service.reply := by
    rw [service, Cluster.reply_entered]
    exact Cluster.reply_handles _ _
  have answered : p.scene.service.answer.2.leave = (plan.held scene).entered.answered := by
    rw [service]
    rfl
  unfold Plan.next hear Cluster.service at next
  dsimp only at next
  rcases p.scene.service.answer_cases with ⟨fault, reply, answer⟩ | ⟨reply, answer⟩
  · rw [answer] at next answered
    cases next
    exact .unheard ready reached rfl reply rfl { still with service := answered }
  · rw [answer] at next answered
    cases next
    have seeds (v : Int) : (p.scene.monitor.seed v).1 = seeded v := by
      rw [show p.scene.monitor = .start none from still.monitor]
      rfl
    refine .launching ready ?_ rfl { still with service := answered, monitor := seeds _ }
    rw [← replies, reply]

/-- An invoker that is started for the first time. -/
theorem launch_of_fresh {p : Progress} {pacing : Pacing} (paced : plan.pacing = .ok pacing)
    (fresh : p.scene.invoker = .fresh) :
    plan.launch p = (.ok pacing, { p with
      scene := ({ p.scene with invoker := poised } : Scene Cluster).note
        [.invokerStarted pacing.shown] }) := by
  have started :
    p.scene.start pacing = .ok (({ p.scene with invoker := poised } : Scene Cluster).note
      [.invokerStarted pacing.shown]) := by
    unfold Scene.start
    rw [fresh]
    rfl
  unfold launch
  simp only [paced, Progress.lift_ok, Stage.next_ok, started]

/-- The invoker is started, or its pace cannot be counted. -/
theorem early_launching {c : Moment} {steps : List Step} {v : Int} (ready : plan.Ready scene steps)
    (reply : scene.service.reply = .value v) (stance : c.stance = .launching steps)
    (still : c.Still plan (plan.held scene).entered.answered (seeded v) .fresh)
    (next : plan.next c = some m) : plan.Early scene m := by
  obtain ⟨p, _, ends⟩ := c
  subst stance
  have fresh : p.scene.invoker = .fresh := still.invoker
  cases paced : plan.pacing with
  | error fault =>
    unfold Plan.next launch Progress.lift at next
    rw [paced] at next
    cases next
    exact .unlaunched ready reply paced rfl { still with }
  | ok pacing =>
    unfold Plan.next at next
    simp only [launch_of_fresh paced fresh] at next
    cases next
    exact .launched ready reply paced rfl { still with invoker := rfl }

/-- While the invoker does not work, the next moment is known. -/
theorem Early.next {c : Moment} (reached : plan.Reached scene c) (early : plan.Early scene c)
    (next : plan.next c = some m) :
    plan.Early scene m ∨ (∃ result, c.stance = .releasing result) ∨
      c.progress.scene.invoker.Running ∧ ∃ pacing jobs, c.stance.Has pacing jobs := by
  obtain ⟨p, stance, ends⟩ := c
  -- Each stage leads to the next one or to the release; the last one is where the work begins.
  cases early with
  | checking stance still => exact .inl (early_checking stance still next)
  | flawed script stance still =>
    cases stance
    cases next
  | acquiring script stance still => exact .inl (early_acquiring reached script stance still next)
  | unavailable _ _ _ stance still =>
    cases stance
    cases next
  | gathering ready stance still =>
    rcases stance with stance | stance | ⟨goal, stance⟩
    · exact .inl (early_gathering ready stance still next)
    · exact .inl (early_ringing ready stance still next)
    · cases stance
      cases next
      exact .inl (.gathering ready (.inr (.inl rfl)) { still with })
  | ungathered ready uncounted stance still => exact .inr (.inl ⟨_, stance⟩)
  | hearing ready stance still =>
    rcases stance with stance | ⟨goal, stance⟩
    · exact .inl (early_hearing reached ready stance still next)
    · cases stance
      cases next
      exact .inl (.hearing ready (.inl rfl) { still with })
  | unheard _ _ _ _ stance still => exact .inr (.inl ⟨_, stance⟩)
  | launching ready reply stance still => exact .inl (early_launching ready reply stance still next)
  | unlaunched ready reply unpaced stance still => exact .inr (.inl ⟨_, stance⟩)
  | launched ready reply paced stance still =>
    cases stance
    refine .inr (.inr ⟨?_, _, _, .doing⟩)
    rw [still.invoker]
    exact poised_running

/-- Of the moments at which the invoker was started early on, this is the first. -/
theorem Early.late {c : Moment} (early : plan.Early scene c) (late : c.stance.isLate = true) :
    ∃ steps v pacing, plan.Ready scene steps ∧ scene.service.reply = .value v ∧
      c.stance = .doing pacing (jobs steps) ∧
      c.Still plan (plan.held scene).entered.answered (seeded v) poised := by
  cases early with
  | launched ready reply paced stance still => exact ⟨_, _, _, ready, reply, stance, still⟩
  | gathering ready stance still =>
    rcases stance with stance | stance | ⟨_, stance⟩
    all_goals
      rw [stance] at late
      cases late
  | hearing ready stance still =>
    rcases stance with stance | ⟨_, stance⟩
    all_goals
      rw [stance] at late
      cases late
  | checking stance | flawed _ stance | acquiring _ stance | unavailable _ _ _ stance
  | ungathered _ _ stance | unheard _ _ _ _ stance | launching _ _ stance
  | unlaunched _ _ _ stance =>
    rw [stance] at late
    cases late

/-- A run is early, or its invoker runs and works or is to be closed, or the run lets go and is
over. -/
inductive Course (plan : Plan) (scene : Scene Cluster) (m : Moment) : Prop where
  | early (early : plan.Early scene m)
  | working {pacing : Pacing} {jobs : List Job} (running : m.progress.scene.invoker.Running)
      (stance : m.stance.Has pacing jobs)
  | quitting {pacing : Pacing} {result : Except Raised Unit}
      (running : m.progress.scene.invoker.Running) (stance : m.stance = .quitting pacing result)
  | releasing {result : Except Raised Unit} (stance : m.stance = .releasing result)
  | finished {result : Except Raised Unit} (stance : m.stance = .finished result)

/-- How a run goes from one moment to the next. -/
inductive Goes (plan : Plan) (scene : Scene Cluster) (m m' : Moment) : Prop where
  | onset (early : plan.Early scene m) (early' : plan.Early scene m')
  | works {pacing : Pacing} {jobs : List Job} (running : m.progress.scene.invoker.Running)
      (has : m.stance.Has pacing jobs) (works : Works plan pacing m jobs m')
  | quits {pacing : Pacing} {result : Except Raised Unit}
      (running : m.progress.scene.invoker.Running)
      (stance : m.stance = .quitting pacing result) (quits : Quits result m m')
  | releases {result : Except Raised Unit} (stance : m.stance = .releasing result)
      (next : m' = ⟨release m.progress, .finished result, m.ends⟩)

/-- From any point of its course a run goes on in one of the known ways. -/
theorem Course.goes {m : Moment} (course : plan.Course scene m) (reached : plan.Reached scene m)
    (next : plan.Next m m') : plan.Goes scene m m' := by
  have working {pacing : Pacing} {jobs : List Job} (running : m.progress.scene.invoker.Running)
      (has : m.stance.Has pacing jobs) : plan.Goes scene m m' :=
    .works running has (next_works pacing running has next)
  have releasing {result : Except Raised Unit} (stance : m.stance = .releasing result) :
      plan.Goes scene m m' := by
    refine .releases stance ?_
    unfold Next Plan.next at next
    rw [stance] at next
    cases next
    rfl
  cases course with
  | early early =>
    -- The first moment at which the invoker works is both early and at work.
    rcases early.next reached next with early' | ⟨result, stance⟩ | ⟨running, pacing, jobs, has⟩
    · exact .onset early early'
    · exact releasing stance
    · exact working running has
  | working running has => exact working running has
  | quitting running stance => exact .quits running stance (next_quits running stance next)
  | releasing stance => exact releasing stance
  | finished stance =>
    unfold Next Plan.next at next
    rw [stance] at next
    cases next

/-- Where it goes on to is a point of its course again. -/
theorem Goes.course {m : Moment} (goes : plan.Goes scene m m') : plan.Course scene m' := by
  cases goes with
  | onset _ early' => exact .early early'
  | works running _ works =>
    have running' := works.running _ running
    rcases works.stance with ⟨_, has⟩ | ⟨_, stance⟩
    · exact .working running' has
    · exact .quitting running' stance
  | quits _ _ quits => exact .releasing quits.stance
  | releases _ next =>
    rw [next]
    exact .finished rfl

/-- Every moment of a run is somewhere on its course. -/
theorem Reached.course {m : Moment} (reached : plan.Reached scene m) : plan.Course scene m := by
  induction reached with
  | refl => exact .early opening_early
  | tail reached next ih => exact (ih.goes reached next).course

/-- So every move of a run is one of the known ways to go on. -/
theorem Reached.goes {m : Moment} (reached : plan.Reached scene m) (next : plan.Next m m') :
    plan.Goes scene m m' :=
  reached.course.goes reached next

/-- What holds early and is kept by work, by quitting and by letting go, holds all along. A step of
the work is also known to be the next moment, for what `Works` does not tell. -/
theorem Reached.induct_next {I : Moment → Prop}
    (early : ∀ m, plan.Reached scene m → plan.Early scene m → I m)
    (works : ∀ m m' pacing jobs, plan.Reached scene m → I m → m.progress.scene.invoker.Running →
      m.stance.Has pacing jobs → plan.Next m m' → Works plan pacing m jobs m' → I m')
    (quits : ∀ m m' pacing result, plan.Reached scene m → I m → m.progress.scene.invoker.Running →
      m.stance = .quitting pacing result → Quits result m m' → I m')
    (releases : ∀ m result, plan.Reached scene m → I m → m.stance = .releasing result →
      I ⟨release m.progress, .finished result, m.ends⟩)
    {m : Moment} (reached : plan.Reached scene m) : I m := by
  induction reached with
  | refl => exact early _ .refl opening_early
  | @tail m m' reached next holds =>
    cases Reached.goes reached next with
    | onset _ early' => exact early m' (reached.tail next) early'
    | works running has step => exact works m m' _ _ reached holds running has next step
    | quits running stance step => exact quits m m' _ _ reached holds running stance step
    | releases stance same =>
      rw [same]
      exact releases m _ reached holds stance

/-- What holds early and is kept by work, by quitting and by letting go, holds all along. -/
theorem Reached.induct {I : Moment → Prop}
    (early : ∀ m, plan.Reached scene m → plan.Early scene m → I m)
    (works : ∀ m m' pacing jobs, plan.Reached scene m → I m → m.progress.scene.invoker.Running →
      m.stance.Has pacing jobs → Works plan pacing m jobs m' → I m')
    (quits : ∀ m m' pacing result, plan.Reached scene m → I m → m.progress.scene.invoker.Running →
      m.stance = .quitting pacing result → Quits result m m' → I m')
    (releases : ∀ m result, plan.Reached scene m → I m → m.stance = .releasing result →
      I ⟨release m.progress, .finished result, m.ends⟩)
    {m : Moment} (reached : plan.Reached scene m) : I m :=
  reached.induct_next early
    (fun m m' pacing jobs reached holds running stance _ step =>
      works m m' pacing jobs reached holds running stance step)
    quits releases

/-- The invoker that a run is to close runs. -/
theorem Reached.running {m : Moment} {pacing : Pacing} {result : Except Raised Unit}
    (reached : plan.Reached scene m) (stance : m.stance = .quitting pacing result) :
    m.progress.scene.invoker.Running := by
  cases reached.course with
  | early early =>
    -- No early moment is about to close an invoker.
    obtain ⟨_, _, _, _, _, stance', _⟩ := early.late (by rw [stance]; rfl)
    rw [stance] at stance'
    cases stance'
  | working running => exact running
  | quitting running => exact running
  | releasing stance' | finished stance' =>
    rw [stance] at stance'
    cases stance'

/-- While the invoker works it runs, and the next moment is one of those that work can lead to. -/
theorem Reached.works {m : Moment} {pacing : Pacing} {jobs : List Job}
    (reached : plan.Reached scene m)
    (has : m.stance.Has pacing jobs) (next : plan.Next m m') :
    m.progress.scene.invoker.Running ∧ Works plan pacing m jobs m' := by
  have running : m.progress.scene.invoker.Running := by
    cases reached.course with
    | early early =>
      obtain ⟨_, _, _, _, _, _, still⟩ := early.late has.isLate
      rw [still.invoker]
      exact poised_running
    | working running => exact running
    | quitting running => exact running
    | releasing stance | finished stance =>
      rw [stance] at has
      cases has
  exact ⟨running, next_works pacing running has next⟩

/-- What holds when the invoker was just started, and is kept by its work, holds for as long as it
works. -/
theorem Reached.induct_has {I : Moment → Pacing → List Job → Prop}
    (launched : ∀ m steps v pacing, plan.Reached scene m → plan.Ready scene steps →
      m.stance = .doing pacing (jobs steps) →
      m.Still plan (plan.held scene).entered.answered (seeded v) poised → I m pacing (jobs steps))
    (works : ∀ m m' pacing jobs jobs', plan.Reached scene m → I m pacing jobs →
      m.progress.scene.invoker.Running → m.stance.Has pacing jobs → plan.Next m m' →
      Works plan pacing m jobs m' → m'.stance.Has pacing jobs' → I m' pacing jobs')
    {m : Moment} {pacing : Pacing} {jobs : List Job} (reached : plan.Reached scene m)
    (has : m.stance.Has pacing jobs) : I m pacing jobs := by
  refine (reached.induct_next (I := fun m => ∀ pacing jobs, m.stance.Has pacing jobs →
    I m pacing jobs)
    ?early ?works ?quits ?releases) pacing jobs has
  case early =>
    intro m reached early pacing jobs has
    obtain ⟨steps, v, _, ready, _, stance, still⟩ := early.late has.isLate
    rw [stance] at has
    cases has
    exact launched m steps v pacing reached ready stance still
  case works =>
    intro m m' pacing jobs reached holds running has next step pacing' jobs' has'
    rcases step.stance with ⟨_, same⟩ | ⟨_, quitting⟩
    · cases same.pacing_eq has'
      exact works m m' pacing jobs jobs' reached (holds pacing jobs has) running has next step has'
    · rw [quitting] at has'
      cases has'
  case quits =>
    intro m m' _ _ _ _ _ _ quits pacing jobs has
    exact absurd has (Stance.idle (by rw [quits.stance]; rfl) pacing jobs)
  case releases =>
    intro m _ _ _ _ pacing jobs has
    cases has

/-- What is known of a reached moment at which the run is about to do this on its way to the
invoker. -/
def Onset (plan : Plan) (scene : Scene Cluster) (m : Moment) : Stance → Prop
  | .acquiring steps => plan.script = .ok steps ∧ m.Still plan scene.service (.start none) .fresh
  | .gathering steps | .ringing steps =>
    plan.Ready scene steps ∧ m.Still plan (plan.held scene) (.start none) .fresh
  | .alone _ after => ∃ steps, after = .ringing steps ∨ after = .hearing steps
  | .hearing steps =>
      plan.Ready scene steps ∧ m.Still plan (plan.held scene).entered (.start none) .fresh
  | .launching steps => plan.Ready scene steps ∧
    ∃ v, scene.service.reply = .value v ∧
      m.Still plan (plan.held scene).entered.answered (seeded v) .fresh
  | .checking | .doing _ _ | .waiting _ _ _ _ | .quitting _ _ | .releasing _ | .finished _ => True

theorem Early.onset {m : Moment} (early : plan.Early scene m) : plan.Onset scene m m.stance := by
  cases early with
  | acquiring script stance still =>
    rw [stance]
    exact ⟨script, still⟩
  | gathering ready stance still =>
    rcases stance with stance | stance | ⟨_, stance⟩ <;> rw [stance]
    · exact ⟨ready, still⟩
    · exact ⟨ready, still⟩
    · exact ⟨_, .inl rfl⟩
  | hearing ready stance still =>
    rcases stance with stance | ⟨_, stance⟩ <;> rw [stance]
    · exact ⟨ready, still⟩
    · exact ⟨_, .inr rfl⟩
  | launching ready reply stance still =>
    rw [stance]
    exact ⟨ready, _, reply, still⟩
  | checking stance | flawed _ stance | unavailable _ _ _ stance | ungathered _ _ stance
  | unheard _ _ _ _ stance | unlaunched _ _ _ stance | launched _ _ _ stance =>
    rw [stance]
    trivial

/-- Every moment that a run comes to is as late as its stance says. -/
theorem Reached.onset {m : Moment} (reached : plan.Reached scene m) :
    plan.Onset scene m m.stance := by
  cases reached.course with
  | early early => exact early.onset
  | working _ has =>
    generalize m.stance = stance at has
    cases has <;> trivial
  | quitting _ stance | releasing stance | finished stance =>
    rw [stance]
    trivial

/-- Only a run with a script asks for the service, and until then it does nothing else. -/
theorem Reached.acquiring {m : Moment} {steps : List Step} (reached : plan.Reached scene m)
    (stance : m.stance = .acquiring steps) :
    plan.script = .ok steps ∧ m.Still plan scene.service (.start none) .fresh := by
  have onset := reached.onset
  rw [stance] at onset
  exact onset

/-- The first call is answered as the cluster would have answered it at first. -/
theorem Reached.hearing {m : Moment} {steps : List Step} (reached : plan.Reached scene m)
    (stance : m.stance = .hearing steps) :
    m.progress.scene.service.reply = scene.service.reply := by
  have onset := reached.onset
  rw [stance] at onset
  rw [onset.2.service, Cluster.reply_entered]
  exact Cluster.reply_handles _ _

/-- An invoker that is about to be started was not started before. -/
theorem Reached.launching {m : Moment} {steps : List Step} (reached : plan.Reached scene m)
    (stance : m.stance = .launching steps) : m.progress.scene.invoker = .fresh := by
  have onset := reached.onset
  rw [stance] at onset
  obtain ⟨_, _, _, still⟩ := onset
  exact still.invoker

/-- Where the invoker was started, the run had its script, the service and an answer. -/
theorem Reached.ready {m : Moment} (reached : plan.Reached scene m)
    (late : m.stance.isLate = true) :
    ∃ steps v, plan.Ready scene steps ∧ scene.service.reply = .value v := by
  refine Reached.induct (I := fun m => m.stance.isLate = true →
    ∃ steps v, plan.Ready scene steps ∧ scene.service.reply = .value v)
    ?early ?works ?quits ?releases reached late
  case early =>
    intro m _ early late
    obtain ⟨steps, v, _, ready, reply, _⟩ := early.late late
    exact ⟨steps, v, ready, reply⟩
  case works =>
    intro m m' pacing jobs _ ready _ has _ _
    exact ready has.isLate
  case quits =>
    intro m m' pacing result _ ready _ stance _ _
    exact ready (by rw [stance]; rfl)
  case releases =>
    intro m result _ ready stance late
    refine ready ?_
    rw [stance]
    cases result with
    | ok _ => rfl
    | error raised => cases late

end Plan

end Drill.Run
