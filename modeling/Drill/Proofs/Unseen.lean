import Drill.Proofs.Calls
import Drill.Proofs.Control
import Drill.Proofs.Work

/-!
# What a run does not see

A loop knows its service by the answers to its calls only: a change of the service's state that no
call sees (`Service.Unseen`) is carried along by every move of the loop, and so is what was logged
before. A run does not look at more than that until it lets go of its cluster, and it never looks at
the checkpoints that it has passed. So it goes on in the same way in any `Guise`: with another
cluster that it cannot tell from its own, with an earlier log and with earlier checkpoints. What the
cluster is to do when it is released is a case of this.

Main statements: `settle_guised`, `fire_guised` and `close_guised`, which say this of the loop,
`execute_guised`, which says it of a step of the script, and `drill_guised`, which says it of all
that a run does while it holds the service.
-/

namespace Drill

open Number (Double)

/-- A change of a service's state that its calls do not see. -/
structure Service.Unseen {σ : Type} (service : Service σ) (f : σ → σ) : Prop where
  enter : ∀ state, service.enter (f state) = ((service.enter state).1, f (service.enter state).2)
  finish : ∀ state,
    service.finish (f state) = ((service.finish state).1, f (service.finish state).2)
  interrupt : ∀ state,
    service.interrupt (f state) = ((service.interrupt state).1, f (service.interrupt state).2)

namespace Scene

variable {σ : Type} {service : Service σ} (f : σ → σ) (past : List Log.Entry)
    (pacing : Pacing) (s : Scene σ)

/-- The scene with the service's state changed. -/
def map (f : σ → σ) (s : Scene σ) : Scene σ := { s with service := f s.service }

/-- The scene with the service's state changed and an earlier log. -/
def guised (f : σ → σ) (past : List Log.Entry) (s : Scene σ) : Scene σ :=
  { s with service := f s.service, log := s.log ++ past }

/-- To change the service alone is a guise without an earlier log. -/
theorem map_eq_guised : s.map f = s.guised f [] := by simp [map, guised]

/-- What is logged now comes before what was logged earlier. -/
theorem note_guised (events : List Log.Event) :
    (s.guised f past).note events = (s.note events).guised f past := by
  simp [note, guised]

theorem record_guised (outcome : Outcome) :
    (s.guised f past).record outcome = (s.record outcome).guised f past :=
  note_guised f past { s with monitor := (s.monitor.record s.invoker.ticks outcome).1 } _

/-- A checkpoint asks the monitor, which a guise leaves as it is. -/
theorem checkpoint_guised (label : String) : (s.guised f past).checkpoint label
    = ((s.checkpoint label).1, (s.checkpoint label).2.guised f past) :=
  congrArg (Prod.mk _) (note_guised f past s _)

/-- To cancel takes the phase and the task of the loop. -/
theorem cancel_guised : (s.guised f past).cancel = s.cancel.guised f past := by
  unfold cancel
  show (if s.invoker.phase = .cancelled then _ else _) = _
  split <;> rfl

/-- Whether a delay can be counted is a matter of the pacing. -/
theorem rest_guised : (s.guised f past).rest pacing = (s.rest pacing).guised f past := by
  unfold rest
  cases pacing.period <;> rfl

/-- The loop goes on or ends as its phase says. -/
theorem proceed_guised : (s.guised f past).proceed pacing = (s.proceed pacing).guised f past := by
  unfold proceed
  show (if s.invoker.phase = .cancelled then _ else _) = _
  split
  next => rfl
  next => exact rest_guised f past pacing s

/-- An answer is taken in the same way, whatever the service's state has become. -/
theorem conclude_guised (a : Answer) :
    (s.guised f past).conclude pacing a = (s.conclude pacing a).guised f past := by
  cases a with
  | cancelled => rfl
  | fault fault =>
    show ((s.guised f past).record (.failure fault)).proceed pacing = _
    rw [record_guised f past, proceed_guised f past]
    rfl
  | value v? =>
    cases v? with
    | none => rfl
    | some v =>
      show ((s.guised f past).record (.value v)).proceed pacing = _
      rw [record_guised f past, proceed_guised f past]
      rfl

section

variable {f} (unseen : service.Unseen f)

include unseen

theorem answer_guised :
    (s.guised f past).answer service pacing = (s.answer service pacing).guised f past := by
  have finished : service.finish (s.guised f past).service = _ := unseen.finish s.service
  unfold answer
  rw [finished]
  exact conclude_guised f past pacing { s with service := (service.finish s.service).2 } _

/-- A call whose time is up gives the same answer, since it cannot see the change. -/
theorem runOut_guised :
    (s.guised f past).runOut service pacing = (s.runOut service pacing).guised f past := by
  have broken : service.interrupt (s.guised f past).service = _ := unseen.interrupt s.service
  unfold runOut
  rw [broken]
  generalize service.interrupt s.service = result
  obtain ⟨a, state⟩ := result
  have concluded := conclude_guised f past pacing { s with service := state }
  cases a with
  | none => exact concluded _
  | some a => cases a <;> exact concluded _

/-- So does a call that is cancelled. -/
theorem breakOff_guised (limit : Option Timer) :
    (s.guised f past).breakOff service pacing limit =
    (s.breakOff service pacing limit).guised f past := by
  have broken : service.interrupt (s.guised f past).service = _ := unseen.interrupt s.service
  unfold breakOff
  rw [broken]
  generalize service.interrupt s.service = result
  obtain ⟨a, state⟩ := result
  cases a with
  | none => rfl
  | some a =>
    cases limit with
    | none => exact conclude_guised f past pacing { s with service := state } a
    | some t => rfl

/-- How long a call waits was settled when it was entered. -/
theorem await_guised (limit : Option Timer) (wait : Wait) :
    (s.guised f past).await service pacing limit wait
      = (s.await service pacing limit wait).guised f past := by
  have invoker : (s.guised f past).invoker = s.invoker := rfl
  cases wait with
  | none => exact answer_guised past pacing s unseen
  | span span =>
    have broken := breakOff_guised past pacing (s.timer span).2 unseen limit
    unfold await
    rw [invoker]
    cases s.invoker.interrupted with
    | false => rfl
    | true => exact broken
  | forever =>
    have broken := breakOff_guised past pacing s unseen limit
    unfold await
    rw [invoker]
    cases s.invoker.interrupted with
    | false => rfl
    | true => exact broken

/-- A call is entered with the change, which it does not see. -/
theorem enter_guised (limit : Option Timer) :
    (s.guised f past).enter service pacing limit =
    (s.enter service pacing limit).guised f past := by
  have entered : service.enter (s.guised f past).service = _ := unseen.enter s.service
  rw [enter_await, enter_await, entered]
  -- A call that cancels its invoker goes on in the scene after that.
  cases (service.enter s.service).1.cancelsInvoker with
  | false =>
    exact await_guised past pacing { s with service := (service.enter s.service).2 } unseen limit _
  | true =>
    have cancelled :
      ({ s.guised f past with service := f (service.enter s.service).2 } : Scene σ).cancel
        = ({ s with service := (service.enter s.service).2 } : Scene σ).cancel.guised f past :=
      cancel_guised f past { s with service := (service.enter s.service).2 }
    simp only [if_true]
    rw [cancelled]
    exact await_guised past pacing _ unseen limit _

/-- A call sets out in the same way, whether it comes to be entered or not. -/
theorem beginCall_guised :
    (s.guised f past).beginCall service pacing = (s.beginCall service pacing).guised f past := by
  unfold beginCall
  cases pacing.limit with
  | none =>
    exact enter_guised past pacing { s with invoker.ticks := s.invoker.ticks + 1 } unseen none
  | refused fault =>
    exact conclude_guised f past pacing { s with invoker.ticks := s.invoker.ticks + 1 }
      (.fault fault)
  | within span =>
    exact enter_guised past pacing
      (({ s with invoker.ticks := s.invoker.ticks + 1 } : Scene σ).timer span).2 unseen _

/-- A loop that is let go on in a guise comes to where it would have come, in that guise. -/
theorem settle_guised :
    (s.guised f past).settle service pacing = (s.settle service pacing).guised f past := by
  have begun := beginCall_guised past pacing (s.become (.calling none none)) unseen
  have broken := breakOff_guised past pacing s unseen
  obtain ⟨clock, state, monitor, ⟨phase, ticks, task, interrupted⟩, log⟩ := s
  cases interrupted with
  | true =>
    cases task with
    | calling limit wake => exact broken limit
    | absent | scheduled | resting | ended => rfl
  | false =>
    cases task with
    | scheduled => exact begun
    | absent | calling | resting | ended => rfl

/-- Neither does a timer set off anything else. -/
theorem fire_guised (t : Timer) :
    (s.guised f past).fire service pacing t = (s.fire service pacing t).guised f past := by
  have begun := beginCall_guised past pacing
    (({ s with clock := s.clock.reach t } : Scene σ).become (.calling none none)) unseen
  have expired := runOut_guised past pacing { s with clock := s.clock.reach t } unseen
  have answered := answer_guised past pacing { s with clock := s.clock.reach t } unseen
  obtain ⟨clock, state, monitor, ⟨phase, ticks, task, interrupted⟩, log⟩ := s
  cases task with
  | resting wake => exact begun
  | absent | scheduled | ended => rfl
  | calling limit wake =>
    show (if limit = some t then _ else _) = guised f past (if limit = some t then _ else _)
    split
    next => exact expired
    next => exact answered

/-- All timers up to a goal fire in the guise, by induction on how many there may be. -/
theorem advance_guised (goal : Timer) (fuel : Nat) :
    (s.guised f past).advance service pacing goal fuel
      = (s.advance service pacing goal fuel).guised f past := by
  induction fuel generalizing s with
  | zero => rfl
  | succ fuel ih =>
    unfold advance
    have next : (s.guised f past).invoker.task.next? = s.invoker.task.next? := rfl
    rw [next]
    cases s.invoker.task.next? with
    | none => rfl
    | some t =>
      -- Timers are no matter of the service, so the same one fires on both sides.
      dsimp only
      rw [fire_guised past pacing s unseen, ih]
      split <;> rfl

theorem sleep_guised (span : Nat) :
    (s.guised f past).sleep service pacing span = (s.sleep service pacing span).guised f past := by
  have settled := settle_guised past pacing (s.timer span).2 unseen
  unfold sleep
  show advance service pacing _ _ (((s.timer span).2.guised f past).settle service pacing) = _
  rw [settled]
  exact advance_guised past pacing _ unseen _ _

/-- A pause lets the loop go on at once, or while its timer runs. -/
theorem pause_guised (pause : Pause) :
    (s.guised f past).pause service pacing pause =
    (s.pause service pacing pause).guised f past := by
  cases pause with
  | passing => exact settle_guised past pacing s unseen
  | timed span => exact sleep_guised past pacing s unseen span

/-- To wait for the end of a loop brings out the same fault, or none. -/
theorem close_guised : (s.guised f past).close service pacing
    = ((s.close service pacing).1, (s.close service pacing).2.guised f past) := by
  have settled := settle_guised past pacing s.cancel unseen
  unfold close waitClosed
  rw [cancel_guised f past]
  generalize s.cancel = s at settled ⊢
  have invoker : (s.guised f past).invoker = s.invoker := rfl
  rw [invoker]
  cases s.invoker.task.isAlive with
  | false => rfl
  | true =>
    simp only [if_true, drain]
    rw [settled]
    rfl

end

end Scene

/-- The cluster with another order for a fault of its release. -/
def Cluster.reordered (fault? : Option Fault) (c : Cluster) : Cluster :=
  { c with trouble.release := fault? }

namespace Cluster

variable (fault? : Option Fault) (c : Cluster)

theorem reordered_eq_recast : c.reordered fault? = c.recast (fun serial => serial) fun t =>
    { t with release := fault? } := rfl

/-- The handles have nothing to do with the fault of a release. -/
theorem updateHandle_reordered (f : Handle → Handle) :
    (c.reordered fault?).updateHandle f = (c.updateHandle f).reordered fault? := by
  rw [updateHandle_eq, updateHandle_eq]
  rfl

/-- A call is answered without a look at the fault of a release. -/
theorem answer_reordered :
    (c.reordered fault?).answer = (c.answer.1, c.answer.2.reordered fault?) := by
  have missing : (c.reordered fault?).missing = c.missing := rfl
  unfold answer
  rw [missing]
  unfold reordered
  dsimp only
  split
  next => rfl
  next =>
    split
    next => rfl
    next => split <;> rfl

/-- Calls do not see what release will do. -/
theorem unseen_reordered : service.Unseen (reordered fault?) where
  enter c := by
    unfold service enter
    dsimp only
    rw [updateHandle_reordered]
    rfl
  finish c := by
    unfold service leave
    dsimp only
    rw [answer_reordered, updateHandle_reordered]
  interrupt c := by
    unfold service leave
    dsimp only
    rw [updateHandle_reordered]

/-- The service is acquired under the same condition. -/
theorem acquire_reordered (implementation : String) :
    (c.reordered fault?).acquire implementation
      = ((c.acquire implementation).1, (c.acquire implementation).2.reordered fault?) := by
  rw [reordered_eq_recast, reordered_eq_recast]
  exact c.acquire_recast (fun _ => by rfl) implementation

/-- A stop reads the troubles of stops only. -/
theorem stop_reordered (id : String) (grace : Int) :
    (c.reordered fault?).stop id grace
      = ((c.stop id grace).1, (c.stop id grace).2.reordered fault?) := by
  rw [reordered_eq_recast, reordered_eq_recast]
  exact c.stop_recast (fun _ => by rfl) (fun _ => by rfl) id grace

/-- A start reads the troubles of starts only. -/
theorem start_reordered (id : String) :
    (c.reordered fault?).start id = ((c.start id).1, (c.start id).2.reordered fault?) := by
  rw [reordered_eq_recast, reordered_eq_recast]
  exact c.start_recast (fun _ => by rfl) (fun _ => by rfl) id

/-- A change of a cluster that a run does not see while it holds the service. -/
structure Blind (f : Cluster → Cluster) : Prop where
  unseen : service.Unseen f
  acquire : ∀ c implementation,
    (f c).acquire implementation = ((c.acquire implementation).1, f (c.acquire implementation).2)
  stop : ∀ c id grace, (f c).stop id grace = ((c.stop id grace).1, f (c.stop id grace).2)
  start : ∀ c id, (f c).start id = ((c.start id).1, f (c.start id).2)
  stopDelay : ∀ c, (f c).trouble.stopDelay = c.trouble.stopDelay
  startDelay : ∀ c, (f c).trouble.startDelay = c.trouble.startDelay

/-- Until it is released, a cluster does not show what its release will raise. -/
theorem blind_reordered : Blind (reordered fault?) where
  unseen := unseen_reordered fault?
  acquire := acquire_reordered fault?
  stop := stop_reordered fault?
  start := start_reordered fault?
  stopDelay _ := rfl
  startDelay _ := rfl

/-- The least that can be done to a cluster is nothing. -/
theorem blind_id : Blind id where
  unseen := ⟨fun _ => rfl, fun _ => rfl, fun _ => rfl⟩
  acquire _ _ := rfl
  stop _ _ _ := rfl
  start _ _ := rfl
  stopDelay _ := rfl
  startDelay _ := rfl

end Cluster

namespace Run

/-- Things that a run does not see: another cluster in place of its own, what was logged before, and
the checkpoints that were passed before. -/
structure Guise where
  cluster : Cluster → Cluster
  blind : Cluster.Blind cluster
  log : List Log.Entry
  checkpoints : List String

/-- The progress in another guise. -/
def Progress.guised (g : Guise) (p : Progress) : Progress :=
  { p with scene := p.scene.guised g.cluster g.log, checkpoints := g.checkpoints ++ p.checkpoints }

/-- What a part of the run comes to, in another guise. -/
def Stage.guised {α : Type} (g : Guise) (s : Stage α) : Stage α := (s.1, s.2.guised g)

/-- Parts of a run that do not see a guise do not see it one after the other. -/
theorem Stage.next_guised {α β : Type} {g : Guise} {s s' : Stage α} {f : α → Progress → Stage β}
    (same : s' = s.guised g) (goes : ∀ a p, f a (p.guised g) = (f a p).guised g) :
    s'.next f = (s.next f).guised g := by
  rw [same]
  obtain ⟨result, p⟩ := s
  cases result with
  | ok a => exact goes a p
  | error raised => rfl

namespace Progress

variable (g : Guise) (pacing : Pacing) (p : Progress)

/-- Without an invoker only the clock moves on. -/
theorem waitAlone_guised (seconds : Double) :
    (p.guised g).waitAlone seconds = (p.waitAlone seconds).guised g := by
  unfold waitAlone
  cases Pause.of seconds with
  | error fault => rfl
  | ok pause => cases pause <;> rfl

theorem sleep_guised (span : Nat) :
    (p.guised g).sleep pacing span = (p.sleep pacing span).guised g := by
  have slept := Scene.sleep_guised g.log pacing p.scene g.blind.unseen span
  unfold sleep guised
  rw [slept]

theorem wait_guised (seconds : Double) :
    (p.guised g).wait pacing seconds = (p.wait pacing seconds).guised g := by
  unfold wait
  cases Pause.of seconds with
  | error fault => rfl
  | ok pause =>
    have paused := Scene.pause_guised g.log pacing p.scene g.blind.unseen pause
    let noted := (p.noteNap seconds).guised g
    exact congrArg (fun scene => ((Except.ok (), { noted with scene }) : Stage Unit)) paused

/-- A checkpoint that passes is added to those that a guise brings along. -/
theorem checkpoint_guised (label : String) :
    (p.guised g).checkpoint label = (p.checkpoint label).guised g := by
  have asked : (p.guised g).scene.checkpoint label = _ :=
    Scene.checkpoint_guised g.cluster g.log p.scene label
  unfold checkpoint
  rw [asked]
  generalize p.scene.checkpoint label = verdict
  obtain ⟨result, scene⟩ := verdict
  cases result with
  | error fault => rfl
  | ok _ => simp [Stage.guised, guised]

theorem delay_guised (span? : Option Nat) :
    (p.guised g).delay pacing span? = (p.delay pacing span?).guised g := by
  cases span? with
  | none => rfl
  | some span => exact sleep_guised g pacing p span

variable {g} in

/-- What a guise cannot be told by is done to the cluster in the guise. -/
theorem onCluster_guised {f : Cluster → Except Fault Unit × Cluster}
    (blind : ∀ c, f (g.cluster c) = ((f c).1, g.cluster (f c).2)) :
    (p.guised g).onCluster f = ((p.onCluster f).1, (p.onCluster f).2.guised g) := by
  have changed : f (p.guised g).scene.service = _ := blind p.scene.service
  unfold onCluster
  rw [changed]
  rfl

/-- A stop is asked of the cluster, and the answer is what it would have been. -/
theorem askStop_guised (id : String) (grace : Int) :
    (p.guised g).askStop id grace = (p.askStop id grace).guised g := by
  unfold askStop
  rw [onCluster_guised p fun c => g.blind.stop c id grace]
  generalize p.onCluster _ = asked
  obtain ⟨result, p⟩ := asked
  cases result <;> rfl

/-- The same for a start. -/
theorem askStart_guised (id : String) : (p.guised g).askStart id = (p.askStart id).guised g := by
  unfold askStart
  rw [onCluster_guised p fun c => g.blind.start c id]
  generalize p.onCluster _ = asked
  obtain ⟨result, p⟩ := asked
  cases result <;> rfl

variable (settings : Settings) (source : Topology)

/-- What is announced of a stop is read off the settings and the source. -/
theorem announceStop_guised (id : String) :
    (p.guised g).announceStop settings source id =
    (p.announceStop settings source id).guised g := by
  unfold announceStop
  refine Stage.next_guised rfl fun label p => ?_
  refine Stage.next_guised rfl fun seconds p => ?_
  exact Stage.next_guised rfl fun grace p => rfl

/-- A step of the script does in a guise what it would have done, and its result is the same. -/
theorem execute_guised (step : Step) :
    (p.guised g).execute pacing settings source step
      = (p.execute pacing settings source step).guised g := by
  cases step with
  | wait kind seconds => exact wait_guised g pacing (p.note (.waiting seconds kind)) seconds
  | checkpoint label => exact checkpoint_guised g p label
  | stop id =>
    refine Stage.next_guised (announceStop_guised g p settings source id) fun grace p => ?_
    have delay : (p.guised g).scene.service.trouble.stopDelay = _ :=
      g.blind.stopDelay p.scene.service
    rw [delay, delay_guised, askStop_guised]
  | start id =>
    have announced : (p.guised g).announceStart source id = (p.announceStart source id).guised g :=
      Stage.next_guised rfl fun label p => rfl
    refine Stage.next_guised announced fun _ p => ?_
    have delay : (p.guised g).scene.service.trouble.startDelay = _ :=
      g.blind.startDelay p.scene.service
    rw [delay, delay_guised, askStart_guised]

/-- So do all steps in a row, by induction on them. -/
theorem executeAll_guised (steps : List Step) :
    (p.guised g).executeAll pacing settings source steps
      = (p.executeAll pacing settings source steps).guised g := by
  induction steps generalizing p with
  | nil => rfl
  | cons step steps ih =>
    exact Stage.next_guised (execute_guised g pacing p settings source step) fun _ p => ih p

end Progress

namespace Plan

variable (plan : Plan) (g : Guise) (p : Progress)

/-- The service is acquired in the guise, or it is unavailable for the same reason. -/
theorem acquire_guised : plan.acquire (p.guised g) = (plan.acquire p).guised g := by
  unfold acquire
  rw [p.onCluster_guised fun c => g.blind.acquire c plan.implementation]
  generalize p.onCluster _ = result
  obtain ⟨result, p⟩ := result
  cases result with
  | ok _ => rfl
  | error fault => cases fault <;> rfl

/-- The first call is entered in the guise and waits as long. -/
theorem ring_guised : ring (p.guised g) = ((ring p).1, (ring p).2.guised g) := by
  have entered : Cluster.service.enter (p.guised g).scene.service = _ :=
    g.blind.unseen.enter p.scene.service
  unfold ring
  rw [entered]
  generalize Cluster.service.enter p.scene.service = result
  obtain ⟨⟨cancels, wait⟩, c⟩ := result
  cases wait <;> rfl

/-- Its answer is the one that it would have given. -/
theorem hear_guised : hear (p.guised g) = (hear p).guised g := by
  have finished : Cluster.service.finish (p.guised g).scene.service = _ :=
    g.blind.unseen.finish p.scene.service
  unfold hear
  rw [finished]
  generalize Cluster.service.finish p.scene.service = result
  obtain ⟨a, c⟩ := result
  cases a with
  | fault fault => rfl
  | cancelled => rfl
  | value v? => cases v? <;> rfl

/-- So the warm-up comes to the same end. -/
theorem warmUp_guised : warmUp (p.guised g) = (warmUp p).guised g := by
  unfold warmUp
  rw [ring_guised]
  generalize ring p = rung
  obtain ⟨span?, p⟩ := rung
  cases span? with
  | none => exact hear_guised g p
  | some span => exact hear_guised g (p.elapse span)

/-- The loop is stopped whatever the steps came to. -/
theorem quit_guised (pacing : Pacing) (s : Stage Unit) :
    quit pacing (s.guised g) = (quit pacing s).guised g := by
  obtain ⟨result, p⟩ := s
  have closed : (p.guised g).scene.close Cluster.service pacing = _ :=
    Scene.close_guised g.log pacing p.scene g.blind.unseen
  unfold quit Stage.guised
  dsimp only
  rw [closed]
  generalize p.scene.close Cluster.service pacing = ending
  obtain ⟨how, scene⟩ := ending
  cases how <;> rfl

theorem exercise_guised (pacing : Pacing) (steps : List Step) :
    plan.exercise pacing steps (p.guised g) = (plan.exercise pacing steps p).guised g := by
  refine Stage.next_guised rfl fun seconds p => ?_
  refine Stage.next_guised (p.wait_guised g pacing seconds) fun _ p => ?_
  refine Stage.next_guised (p.checkpoint_guised g _) fun _ p => ?_
  exact p.executeAll_guised g pacing plan.settings plan.source steps

/-- The invoker is started, and everything until it is stopped again follows. -/
theorem launch_guised : plan.launch (p.guised g) = (plan.launch p).guised g := by
  refine Stage.next_guised rfl fun pacing p => ?_
  have started : (p.guised g).scene.start pacing
      = (p.scene.start pacing).map (Scene.guised g.cluster g.log) := by
    unfold Scene.start
    show (if p.scene.invoker.phase = .idle then _ else _)
      = (if p.scene.invoker.phase = .idle then _ else _ : Except Fault (Scene Cluster)).map _
    split <;> rfl
  rw [started]
  cases p.scene.start pacing <;> rfl

/-- The handle is counted in the guise as it would have been without. -/
theorem gather_guised : plan.gather (p.guised g) = (plan.gather p).guised g :=
  Stage.next_guised rfl fun seconds p => p.waitAlone_guised g seconds

/-- What a run does while it holds the service does not depend on its guise. -/
theorem drill_guised (steps : List Step) :
    plan.drill steps (p.guised g) = (plan.drill steps p).guised g := by
  refine Stage.next_guised (plan.gather_guised g p) fun _ p => ?_
  refine Stage.next_guised (warmUp_guised g p) fun _ p => ?_
  refine Stage.next_guised (plan.launch_guised g p) fun pacing p => ?_
  rw [exercise_guised, quit_guised]

end Plan

/-- The progress with another order for a fault of the release. -/
def Progress.reordered (fault? : Option Fault) (p : Progress) : Progress :=
  { p with scene := p.scene.map (Cluster.reordered fault?) }

/-- What a part of the run comes to, with another order for a fault of the release. -/
def Stage.reordered {α : Type} (fault? : Option Fault) (s : Stage α) : Stage α :=
  (s.1, s.2.reordered fault?)

/-- What the release will do is a guise of a run. -/
def Guise.reordered (fault? : Option Fault) : Guise where
  cluster := Cluster.reordered fault?
  blind := Cluster.blind_reordered fault?
  log := []
  checkpoints := []

section

variable (fault? : Option Fault)

theorem Progress.reordered_eq (p : Progress) :
    p.reordered fault? = p.guised (.reordered fault?) := by
  unfold reordered
  rw [Scene.map_eq_guised]
  rfl

theorem Stage.reordered_eq {α : Type} (s : Stage α) :
    s.reordered fault? = s.guised (.reordered fault?) :=
  congrArg (Prod.mk s.1) (s.2.reordered_eq fault?)

namespace Plan

variable (plan : Plan) (p : Progress)

/-- The fault of a release plays no part when the service is acquired. -/
theorem acquire_reordered :
    plan.acquire (p.reordered fault?) = (plan.acquire p).reordered fault? := by
  rw [Progress.reordered_eq, Stage.reordered_eq, acquire_guised]

/-- What happens while the service is held does not depend on what its release will do. -/
theorem drill_reordered (steps : List Step) :
    plan.drill steps (p.reordered fault?) = (plan.drill steps p).reordered fault? := by
  rw [Progress.reordered_eq, Stage.reordered_eq, drill_guised]

end Plan

end

end Run

end Drill
