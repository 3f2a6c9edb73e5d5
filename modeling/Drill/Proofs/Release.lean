import Drill.Proofs.Control
import Drill.Proofs.Onset
import Drill.Proofs.Unseen

/-!
# How a run lets go of its service

A run that was handed the service holds one handle, on which a call is under way only while the loop
waits for one (`Cluster.Lent`). `Custody` keeps this up to the moment at which the run lets go: by
then the invoker was never started, or it was cancelled and its loop has ended (`Invoker.Quiet`),
and a call that was under way has given in. Every way to the end leads through one such moment
(`Reached.let_go`), and only the end comes after it. That a fault of the release changes nothing is
a matter of what a run does not see (`Drill.Proofs.Unseen`).

Main statement: `release_conduct`, a handle that was handed out is taken back once, at the end.
-/

namespace Drill

namespace Cluster

/-- After the handles of another cluster there is one of this implementation, which was taken back
that often and on which that many calls are under way. -/
def Lent (c : Cluster) (implementation : String) (service : Cluster) (closes active : Nat) : Prop :=
  ∃ most, service.handles = c.handles ++ [⟨implementation, closes, active, most⟩]

namespace Lent

variable {c service service' : Cluster} {implementation : String} {closes active : Nat}

theorem congr (lent : c.Lent implementation service closes active)
    (handles : service'.handles = service.handles) :
    c.Lent implementation service' closes active := by
  obtain ⟨most, same⟩ := lent
  exact ⟨most, handles.trans same⟩

/-- Handles are changed at the end, where the run's own one is. -/
theorem change (lent : c.Lent implementation service closes active) {f : Handle → Handle}
    {closes' active' : Nat}
    (changes : ∀ most, ∃ most', f ⟨implementation, closes, active, most⟩
      = ⟨implementation, closes', active', most'⟩)
    (handles : service'.handles = changeLast f service.handles) :
    c.Lent implementation service' closes' active' := by
  obtain ⟨most, same⟩ := lent
  obtain ⟨most', changed⟩ := changes most
  refine ⟨most', ?_⟩
  rw [handles, same, changeLast_concat, changed]

theorem entered (lent : c.Lent implementation service closes active) :
    c.Lent implementation service.entered closes (active + 1) := by
  refine lent.change (f := Handle.opened) (fun most => ⟨_, rfl⟩) ?_
  rw [entered_eq]

theorem leave (lent : c.Lent implementation service closes (active + 1)) :
    c.Lent implementation service.leave closes active := by
  refine lent.change (f := Handle.left) (fun most => ⟨most, rfl⟩) ?_
  rw [leave_eq]

theorem answered (lent : c.Lent implementation service closes (active + 1)) :
    c.Lent implementation service.answered closes active := by
  refine lent.change (f := Handle.left) (fun most => ⟨most, rfl⟩) ?_
  rcases service.answered_cases with ⟨_, _, h⟩ | ⟨_, h⟩ <;> rw [h]

/-- Nodes have no part in handles. -/
theorem control (lent : c.Lent implementation service closes active)
    (frame : service.OnlyControl service') : c.Lent implementation service' closes active := by
  obtain ⟨_, _, _, _, rfl⟩ := frame
  exact lent.congr rfl

end Lent

end Cluster

/-- How many calls the loop waits for. -/
def Task.active (t : Task) : Nat := if t.isCalling then 1 else 0

/-- An invoker that was never started, or one that was cancelled and whose loop has ended. -/
def Invoker.Quiet (i : Invoker) : Prop :=
  i = .fresh ∨ i.phase = .cancelled ∧ ∃ how, i.task = .ended how

/-- Nothing happens to a service that nobody is left to call. -/
theorem Scene.sleep_of_quiet {σ : Type} {service : Service σ} {s : Scene σ}
    (quiet : s.invoker.Quiet)
    (pacing : Pacing) (span : Nat) : (s.sleep service pacing span).service = s.service := by
  have ended : s.invoker.task = .absent ∨ ∃ how, s.invoker.task = .ended how := by
    rcases quiet with fresh | ⟨_, ended⟩
    · rw [fresh]
      exact .inl rfl
    · exact .inr ended
  obtain ⟨clock, state, monitor, ⟨phase, ticks, task, interrupted⟩, log⟩ := s
  rcases ended with ended | ⟨how, ended⟩
  all_goals
    cases ended
    rfl

namespace Run

/-- A turn of the loop ends the calls that it begins, unless it waits for them. -/
theorem lent_turn {c : Cluster} {implementation : String} {pacing : Pacing} {s s' : Scene Cluster}
    {e : Option TickEnd} (turn : Scene.Turn pacing s e s')
    (lent : c.Lent implementation s.service 0 s.invoker.task.active) :
    c.Lent implementation s'.service 0 s'.invoker.task.active := by
  have rests (s : Scene Cluster) (outcome : Outcome) :
      (s.endTick pacing outcome).invoker.task.active = 0 := by
    unfold Task.active
    rw [Scene.endTick_task]
    rfl
  have idle (idle : s.invoker.task.isCalling = false) : s.invoker.task.active = 0 := by
    unfold Task.active
    rw [idle]
    rfl
  have calling (calling : s.invoker.task.isCalling = true) : s.invoker.task.active = 0 + 1 := by
    unfold Task.active
    rw [calling]
    rfl
  -- A call is under way on the handle exactly if the task says so, before the turn and after it.
  cases turn with
  | refused still limit =>
    rw [Scene.endTick_service, rests]
    rw [idle still] at lent
    exact lent
  | answeredAtOnce still delay =>
    rw [Scene.endTick_service, rests]
    rw [idle still] at lent
    exact lent.entered.answered
  | entered still delay =>
    rw [Scene.callOut_service]
    rw [idle still] at lent
    exact lent.entered
  | answered waits =>
    rw [Scene.endTick_service, rests]
    rw [calling waits] at lent
    exact lent.answered
  | expired waits =>
    rw [Scene.endTick_service, rests]
    rw [calling waits] at lent
    exact lent.leave

/-- While the invoker works or is to be closed, the handle is out, and when the service is let go,
nothing is under way on it and nobody is left to call it. -/
structure Custody (plan : Plan) (c : Cluster) (m : Moment) : Prop where
  working : ∀ pacing jobs, m.stance.Has pacing jobs →
    c.Lent plan.implementation m.progress.scene.service 0 m.progress.scene.invoker.task.active
  quitting : ∀ pacing result, m.stance = .quitting pacing result →
    c.Lent plan.implementation m.progress.scene.service 0 m.progress.scene.invoker.task.active
  releasing : ∀ result, m.stance = .releasing result →
    c.Lent plan.implementation m.progress.scene.service 0 0 ∧ m.progress.scene.invoker.Quiet

namespace Custody

variable {plan : Plan} {scene : Scene Cluster} {c : Cluster} {m m' : Moment} {pacing : Pacing}
  {jobs : List Job}

theorem of_lent (lent : c.Lent plan.implementation m.progress.scene.service 0
    m.progress.scene.invoker.task.active) (kept : ∀ result, m.stance ≠ .releasing result) :
    Custody plan c m :=
  ⟨fun _ _ _ => lent, fun _ _ _ => lent, fun result stance => absurd stance (kept result)⟩

theorem of_releasing {result : Except Raised Unit} (stance : m.stance = .releasing result)
    (lent : c.Lent plan.implementation m.progress.scene.service 0 0)
    (quiet : m.progress.scene.invoker.Quiet) : Custody plan c m := by
  refine ⟨fun pacing jobs has => absurd has (Stance.idle (by rw [stance]; rfl) _ _), ?_,
    fun _ _ => ⟨lent, quiet⟩⟩
  intro pacing result' quitting
  rw [stance] at quitting
  cases quitting

/-- Where the handle is not out, there is nothing to say. -/
theorem of_idle (idle : m.stance.isBusy = false)
    (done : ∀ pacing result, m.stance ≠ .quitting pacing result)
    (kept : ∀ result, m.stance ≠ .releasing result) : Custody plan c m :=
  ⟨fun pacing jobs has => absurd has (Stance.idle idle pacing jobs),
    fun pacing result stance => absurd stance (done pacing result),
    fun result stance => absurd stance (kept result)⟩

theorem early (early : plan.Early scene m) : Custody plan scene.service m := by
  have held : scene.service.Lent plan.implementation (plan.held scene) 0 0 := ⟨0, rfl⟩
  have answered := held.entered.answered
  have onset {stance : Stance} (same : m.stance = stance) (late : stance.isLate = false)
      (kept : ∀ result, stance ≠ .releasing result) : Custody plan scene.service m := by
    subst same
    exact of_idle (Stance.idle_of_isLate late).1 (Stance.idle_of_isLate late).2 kept
  cases early with
  | checking stance | flawed _ stance | acquiring _ stance | unavailable _ _ _ stance
  | launching _ _ stance => exact onset stance rfl fun _ => Stance.noConfusion
  | gathering _ stance =>
    rcases stance with stance | stance | ⟨_, stance⟩ <;>
      exact onset stance rfl fun _ => Stance.noConfusion
  | hearing _ stance =>
    rcases stance with stance | ⟨_, stance⟩ <;> exact onset stance rfl fun _ => Stance.noConfusion
  | ungathered _ _ stance still =>
      exact of_releasing stance (still.service ▸ held) (.inl still.invoker)
  | unheard _ _ _ _ stance still =>
    exact of_releasing stance (still.service ▸ answered) (.inl still.invoker)
  | unlaunched _ _ _ stance still =>
    exact of_releasing stance (still.service ▸ answered) (.inl still.invoker)
  | launched _ _ _ stance still =>
    refine of_lent ?_ (by simp [stance])
    rw [still.service, still.invoker]
    exact answered

/-- Work keeps the handle out. -/
theorem works (custody : Custody plan c m) (has : m.stance.Has pacing jobs)
    (works : Works plan pacing m jobs m') : Custody plan c m' := by
  have lent := custody.working pacing jobs has
  refine of_lent ?_ ?_
  · cases works.stirs with
    | rests control _ invoker =>
      rw [invoker]
      exact lent.control control
    | turns service _ invoker turn =>
      rw [← service, ← invoker] at lent
      exact lent_turn turn lent
  · intro result stance
    rcases works.stance with ⟨jobs', has'⟩ | ⟨result', quitting⟩
    · rw [stance] at has'
      cases has'
    · rw [stance] at quitting
      cases quitting

/-- Closed, the invoker ends the call that is under way, if there is one. -/
theorem quits {result : Except Raised Unit} (custody : Custody plan c m)
    (running : m.progress.scene.invoker.Running) (stance : m.stance = .quitting pacing result)
    (quits : Quits result m m') : Custody plan c m' := by
  have lent := custody.quitting pacing result stance
  refine of_releasing quits.stance ?_ ?_
  · rw [quits.service]
    unfold Task.active at lent
    -- A call that waits gives in before the handle is given back.
    split
    next calling =>
      rw [if_pos calling] at lent
      exact lent.leave
    next idle =>
      rw [if_neg idle] at lent
      exact lent
  · rw [quits.invoker]
    refine .inr ⟨rfl, ?_⟩
    have started := running.started
    cases task : m.progress.scene.invoker.task with
    | absent => exact absurd task started
    | scheduled | calling | resting => exact ⟨.cancelled, rfl⟩
    | ended how => exact ⟨how, rfl⟩

end Custody

namespace Plan

variable {plan : Plan} {scene : Scene Cluster} {m : Moment}

theorem Reached.custody (reached : plan.Reached scene m) : Custody plan scene.service m := by
  refine Reached.induct (I := Custody plan scene.service) ?early ?works ?quits ?releases reached
  case early => exact fun m _ early => .early early
  case works => exact fun m m' pacing jobs _ custody _ has works => custody.works has works
  case quits =>
    exact fun m m' pacing result _ custody running stance quits =>
      custody.quits running stance quits
  case releases =>
    intro m result _ _ _
    exact .of_idle rfl (fun _ _ => Stance.noConfusion) fun _ => Stance.noConfusion

/-- A run that was handed the service is over when it has let go. -/
theorem Reached.let_go {steps : List Step} {result : Except Raised Unit}
    (ready : plan.Ready scene steps)
    (reached : plan.Reached scene m) (stance : m.stance = .finished result) :
    ∃ before, plan.Reached scene before ∧ before.stance = .releasing result ∧
      m = ⟨release before.progress, .finished result, before.ends⟩ := by
  refine Reached.induct (I := fun m => ∀ result, m.stance = .finished result →
    ∃ before, plan.Reached scene before ∧ before.stance = .releasing result ∧
      m = ⟨release before.progress, .finished result, before.ends⟩)
    ?early ?works ?quits ?releases reached result stance
  case early =>
    intro m _ early result stance
    cases early with
    | flawed script =>
      rw [ready.script] at script
      cases script
    | unavailable reached before acquisition =>
      have still := (reached.acquiring before).2
      rw [still.service, ready.acquisition] at acquisition
      cases acquisition
    -- All of these are stages at which the run is not over.
    | checking stance' | acquiring _ stance' | ungathered _ _ stance' | unheard _ _ _ _ stance'
    | launching _ _ stance' | unlaunched _ _ _ stance' | launched _ _ _ stance' =>
      rw [stance] at stance'
      cases stance'
    | gathering _ stance' => simp [stance] at stance'
    | hearing _ stance' => simp [stance] at stance'
  case works =>
    intro m m' pacing jobs _ _ _ _ works result stance
    rcases works.stance with ⟨jobs', has'⟩ | ⟨result', quitting⟩
    · rw [stance] at has'
      cases has'
    · rw [stance] at quitting
      cases quitting
  case quits =>
    intro m m' pacing result _ _ _ _ quits result' stance
    have releasing := quits.stance
    rw [stance] at releasing
    cases releasing
  case releases =>
    intro m result reached _ stance result' finished
    cases finished
    exact ⟨m, reached, stance, rfl⟩

/-- Where a run lets go, only its end is left. -/
theorem Leads.releasing {m' : Moment} {result : Except Raised Unit}
    (stance : m.stance = .releasing result)
    (leads : plan.Leads m m') : m' = m ∨ m' = ⟨release m.progress, .finished result, m.ends⟩ := by
  rcases leads.cases_head with same | ⟨b, next, leads⟩
  · exact .inl same.symm
  · unfold Next Plan.next at next
    rw [stance] at next
    cases next
    exact .inr (Leads.eq_of_finished rfl leads)

/-- A run lets go once. -/
theorem Reached.releasing_unique {m' : Moment} {result result' : Except Raised Unit}
    (reached : plan.Reached scene m) (stance : m.stance = .releasing result)
    (reached' : plan.Reached scene m') (stance' : m'.stance = .releasing result') : m' = m := by
  -- After the first of the two there is only the end, where nothing is let go.
  rcases reached.leads_or_leads reached' with leads | leads
  · rcases leads.releasing stance with same | rfl
    · exact same
    · cases stance'
  · rcases leads.releasing stance' with same | rfl
    · exact same.symm
    · cases stance

/-- A run that was not handed the service does nothing to the cluster. -/
theorem Reached.service_eq (unready : ∀ steps, ¬ plan.Ready scene steps)
    (reached : plan.Reached scene m) :
    m.progress.scene.service = scene.service := by
  refine (Reached.induct (I := fun m => m.progress.scene.service = scene.service ∧
      m.stance.isLate = false ∧ ∀ result, m.stance ≠ .releasing result)
    ?early ?works ?quits ?releases reached).1
  case early =>
    intro m _ early
    cases early with
    | checking stance still | flawed _ stance still | acquiring _ stance still
    | unavailable _ _ _ stance still =>
      refine ⟨still.service, ?_, ?_⟩ <;> rw [stance]
      · rfl
      · exact fun _ => Stance.noConfusion
    | gathering ready | ungathered ready | hearing ready | unheard ready | launching ready
    | unlaunched ready | launched ready => exact absurd ready (unready _)
  case works =>
    intro m m' pacing jobs _ ⟨_, early, _⟩ _ has _
    rw [has.isLate] at early
    cases early
  case quits =>
    intro m m' pacing result _ ⟨_, early, _⟩ _ stance _
    rw [stance] at early
    cases early
  case releases =>
    intro m result _ ⟨_, _, kept⟩ stance
    exact absurd stance (kept result)

theorem report_release (plan : Plan) (p : Progress) : plan.report (release p) = plan.report p := by
  have released := released p
  unfold report
  rw [released.monitor, released.checkpoints, released.toggled]

/-- Two parts of a run come to the same, as far as a report can tell. -/
structure SameReport (plan : Plan) (s s' : Stage Unit) : Prop where
  result : s.1 = s'.1
  report : plan.report s.2 = plan.report s'.2

theorem SameReport.ended {plan : Plan} {s s' : Stage Unit} (same : SameReport plan s s')
    (event : Progress → Log.Event) :
    (s.next fun _ p => ((.ok (plan.report p), p.note (event p)) : Stage Report)).1
      = (s'.next fun _ p => (.ok (plan.report p), p.note (event p))).1 := by
  obtain ⟨result, p⟩ := s
  obtain ⟨result', p'⟩ := s'
  obtain ⟨results, reports⟩ := same
  cases results
  cases result with
  | error raised => rfl
  | ok _ => exact congrArg Except.ok reports

theorem SameReport.next {α : Type} {plan : Plan} {fault? : Option Fault} (s : Stage α)
    {f : α → Progress → Stage Unit}
    (same : ∀ a p, SameReport plan (f a (p.reordered fault?)) (f a p)) :
    SameReport plan ((s.reordered fault?).next f) (s.next f) := by
  obtain ⟨result, p⟩ := s
  cases result with
  | error raised => exact ⟨rfl, rfl⟩
  | ok a => exact same a p

/-- What a run comes to does not depend on what the release of its service will do. -/
theorem conduct_reordered (plan : Plan) (scene : Scene Cluster) (fault? : Option Fault) :
    (plan.conduct { scene with service := scene.service.reordered fault? }).1 =
    (plan.conduct scene).1 := by
  let begun :=
    (Progress.fresh scene plan.source).note (.runStarted plan.implementation plan.settings.banner)
  -- The two runs go side by side up to their releases, which a report does not see.
  refine SameReport.ended ?_ _
  refine SameReport.next (begun.lift plan.script) fun steps p => ?_
  rw [acquire_reordered]
  refine SameReport.next (plan.acquire p) fun _ p => ?_
  rw [drill_reordered]
  generalize plan.drill steps p = drilled
  obtain ⟨result, p⟩ := drilled
  exact ⟨rfl, (plan.report_release _).trans (plan.report_release p).symm⟩

/-- The moment at which a run gives back its handle, and what is left of the run. -/
structure GivesBack (plan : Plan) (scene : Scene Cluster) (m : Moment) (result : Except Raised Unit)
    (handle : Handle) : Prop where
  reached : plan.Reached scene m
  stance : m.stance = .releasing result
  /-- The handle is given back once. -/
  only : ∀ m' result', plan.Reached scene m' → m'.stance = .releasing result' → m' = m
  /-- The invoker was never started, or it was cancelled and its loop has ended. -/
  quiet : m.progress.scene.invoker.Quiet
  handles : m.progress.scene.service.handles = scene.service.handles ++ [handle]
  implementation : handle.implementation = plan.implementation
  closes : handle.closes = 0
  active : handle.active = 0
  /-- The run does nothing more. -/
  last : ∀ m', plan.Leads m m' → m' = m ∨ m' = ⟨release m.progress, .finished result, m.ends⟩
  /-- The cluster stays as it was, but for the handle. -/
  service : (plan.conduct scene).2.scene.service =
    { m.progress.scene.service with
      handles := scene.service.handles ++ [{ handle with closes := 1 }] }
  /-- Nor does the loop do anything, however long one waits. -/
  idle : ∀ pacing span, ((plan.conduct scene).2.scene.sleep Cluster.service pacing span).service
    = (plan.conduct scene).2.scene.service

theorem exists_givesBack {steps : List Step} (ready : plan.Ready scene steps) :
    ∃ m result handle, plan.GivesBack scene m result handle := by
  obtain ⟨last, result, reached, finished, calm⟩ := plan.conduct_calm scene
  obtain ⟨m, reached', stance, rfl⟩ := reached.let_go ready finished
  obtain ⟨⟨most, handles⟩, quiet⟩ := reached'.custody.releasing result stance
  have released := released m.progress
  have service := calm.service.trans released.service
  have invoker := calm.invoker.trans released.invoker
  rw [handles, Cluster.changeLast_concat] at service
  refine ⟨m, result, _, reached', stance, ?_, quiet, handles, rfl, rfl, rfl, ?_, service, ?_⟩
  · exact fun m' result' reached'' stance' => reached'.releasing_unique stance reached'' stance'
  · exact fun m' leads => leads.releasing stance
  · intro pacing span
    refine Scene.sleep_of_quiet ?_ pacing span
    rw [invoker]
    exact quiet

/-- A run that is handed the service gives its handle back once, when its invoker is cancelled and
its loop has ended, and nothing calls the cluster from then on. One that is not handed the service
does nothing to the cluster. What a run comes to does not depend on what giving back will do. -/
theorem release_conduct (plan : Plan) (scene : Scene Cluster) :
    (∀ steps, plan.script = .ok steps → scene.service.trouble.acquisition = none →
      ∃ m result handle, plan.GivesBack scene m result handle) ∧
    ((∀ steps, plan.script = .ok steps → ∃ fault, scene.service.trouble.acquisition = some fault) →
      (∀ m, plan.Reached scene m → m.progress.scene.service = scene.service) ∧
        (plan.conduct scene).2.scene.service = scene.service) ∧
    ∀ fault?, (plan.conduct { scene with service := scene.service.reordered fault? }).1
      = (plan.conduct scene).1 := by
  refine ⟨fun steps script acquisition => exists_givesBack ⟨script, acquisition⟩, ?_,
    plan.conduct_reordered scene⟩
  intro refused
  have unready (steps : List Step) : ¬ plan.Ready scene steps := by
    intro ready
    obtain ⟨fault, acquisition⟩ := refused steps ready.script
    rw [ready.acquisition] at acquisition
    cases acquisition
  obtain ⟨last, result, reached, _, calm⟩ := plan.conduct_calm scene
  refine ⟨fun m reached => reached.service_eq unready, ?_⟩
  rw [calm.service]
  exact reached.service_eq unready

/-- A run without trouble gives its one handle back. -/
theorem calm_gives_back :
    ∃ m result handle, brisk.GivesBack (.opening calm (.start none)) m result handle ∧
      (brisk.conduct (.opening calm (.start none))).2.scene.service.handles
        = [⟨"Impl", 1, 0, 1⟩] := by
  have built : brisk.script.toBool = true := by decide +kernel
  have handles : (brisk.conduct (.opening calm (.start none))).2.scene.service.handles
      = [⟨"Impl", 1, 0, 1⟩] := by
    decide +kernel
  have holds := (release_conduct brisk (.opening calm (.start none))).1
  generalize brisk.script = script at built holds
  cases script with
  | error fault => cases built
  | ok steps =>
    obtain ⟨m, result, handle, back⟩ := holds steps rfl rfl
    exact ⟨m, result, handle, back, handles⟩

end Plan

end Run

end Drill
