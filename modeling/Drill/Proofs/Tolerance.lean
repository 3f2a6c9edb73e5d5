import Drill.Proofs.Passage
import Drill.Proofs.Toggling

/-!
# A cluster that tolerates a drill

When nothing is ordered that makes a request or a call fail (`Trouble.Harmless`), what is left to
fear is the outage of a node and the time of a call. With a running sibling for every node the
cluster stays reachable, and a call that waits for less than it may is answered before its limit,
whatever is stopped and started meanwhile. So no tick fails (`Serene`), no moment is fatal, and the
run ends with a report.

Main statements: `Reached.serene`, `not_fatal` and `tolerance_conduct`.
-/

namespace Drill

/-- Nothing is ordered that makes a call, a request or the acquisition fail. -/
structure Trouble.Harmless (t : Trouble) : Prop where
  calls : t.calls = []
  critical : t.critical = []
  stubborn : t.stubborn = []
  dead : t.dead = []
  stops : t.stops = []
  starts : t.starts = []
  acquisition : t.acquisition = none

namespace Cluster

variable {c : Cluster}

/-- A reachable cluster answers with a value. -/
theorem reply_of_harmless (harmless : c.trouble.Harmless)
    (reachable : c.topology.isReachable = true) :
    ∃ v, c.reply = .value v := by
  have missing : c.missing = [] := by
    unfold missing
    rw [harmless.critical]
    simp
  have calls (number : Int) : c.trouble.calls.get? number = none := by
    rw [harmless.calls]
    rfl
  unfold reply answer
  simp only [calls, reachable, missing]
  exact ⟨_, rfl⟩

theorem stop_of_harmless (harmless : c.trouble.Harmless) {id : String} (known : id ∈ c.topology.ids)
    (grace : Int) : (c.stop id grace).1 = .ok () := by
  have stops : c.trouble.stops.get? id = none := by
    rw [harmless.stops]
    rfl
  unfold stop mark Topology.marked
  simp [stops, harmless.stubborn, known]

theorem start_of_harmless (harmless : c.trouble.Harmless) {id : String}
    (known : id ∈ c.topology.ids) :
    (c.start id).1 = .ok () := by
  have starts : c.trouble.starts.get? id = none := by
    rw [harmless.starts]
    rfl
  unfold start mark Topology.marked
  simp [starts, harmless.dead, known]

end Cluster

namespace Run

/-- No call waits for as long as it may take. -/
def Plan.Patient (plan : Plan) (trouble : Trouble) : Prop :=
  ∀ limit number delay, plan.settings.callLimit = some limit →
    (trouble.delays.get? number).getD trouble.delay = some delay → delay < plan.settings.span limit

/-- No tick has failed, and none is about to. -/
structure Serene (s : Scene Cluster) : Prop where
  pure : s.monitor.firstFailure = none
  unhurried : ¬ s.invoker.task.Expires

theorem Serene.congr {s s' : Scene Cluster} (serene : Serene s) (monitor : s'.monitor = s.monitor)
    (invoker : s'.invoker = s.invoker) : Serene s' := by
  constructor
  · rw [monitor]
    exact serene.pure
  · rw [invoker]
    exact serene.unhurried

/-- A turn that does not end because of a limit keeps a scene serene. -/
theorem Serene.turn {pacing : Pacing} {period : Nat} {s s' : Scene Cluster} {e : Option TickEnd}
    (counted : pacing.period = .ok period) (unrefused : ∀ fault, pacing.limit ≠ .refused fault)
    (patient : ∀ span limit, s.service.nextDelay = some span →
      pacing.limit = .within limit → span < limit)
    (replies : ∃ v, s.service.reply = .value v) (serene : Serene s)
    (turn : Scene.Turn pacing s e s')
    (timely : e ≠ some .expired) : Serene s' := by
  obtain ⟨v, reply⟩ := replies
  constructor
  · have answered {t : Scene Cluster} (monitor : t.monitor = s.monitor) :
        (t.endTick pacing s.service.reply).monitor.firstFailure = none := by
      rw [Scene.endTick_monitor, Monitor.record_firstFailure, reply, monitor]
      exact serene.pure
    cases turn with
    | refused _ limit => exact absurd limit (unrefused _)
    | answeredAtOnce =>
      refine answered ?_
      exact s.tick.arm_monitor pacing
    | entered =>
      rw [Scene.callOut_monitor]
      exact serene.pure
    | answered =>
      refine answered ?_
      rfl
    | expired => exact absurd rfl timely
  · rcases turn.task_cases counted with ⟨wake, task, _⟩ |
      ⟨_, _, span, limit, wake, delay, task, due, limits⟩
    · rw [task]
      rintro ⟨_, _, same, _⟩
      cases same
    · rw [task]
      refine Task.not_expires fun l isLimit => ?_
      obtain ⟨n, within, due'⟩ := limits l isLimit
      have sooner := patient span n delay within
      omega

namespace Plan

variable {plan : Plan} {scene : Scene Cluster} {m m' : Moment} {pacing : Pacing} {jobs : List Job}

/-- A limit of the settings is one in microseconds, and no call is refused. -/
theorem pacing_limit (countable : plan.settings.Countable) (paced : plan.pacing = .ok pacing) :
    pacing.limit = .none ∨
      ∃ limit, plan.settings.callLimit = some limit ∧
        pacing.limit = .within (plan.settings.span limit) := by
  obtain ⟨_, limit, _, limited, rfl⟩ := pacing_eq paced
  unfold Settings.limitSeconds at limited
  cases callLimit : plan.settings.callLimit with
  | none =>
    rw [callLimit] at limited
    cases limited
    exact .inl rfl
  | some m =>
    obtain ⟨seconds, ok, positive, counted, _⟩ := (countable.limit m callLimit).timed
    simp only [callLimit, ok] at limited
    cases limited
    refine .inr ⟨m, rfl, ?_⟩
    show Limit.of (some seconds) = _
    unfold Limit.of
    simp only [positive, if_true, counted]

/-- What a run of this plan meets in a cluster with this trouble, where nothing is to fear. -/
structure Safe (plan : Plan) (c : Cluster) : Prop where
  agree : plan.source = c.topology
  up : plan.source.stopped = []
  harmless : c.trouble.Harmless
  patient : plan.Patient c.trouble

/-- Only a tick whose limit is waited for expires. -/
theorem Reached.timely (countable : plan.settings.Countable)
    (positive : 1 ≤ plan.settings.span plan.settings.period) (reached : plan.Reached scene m)
    (has : m.stance.Has pacing jobs) (next : plan.Next m m') {pacing' : Pacing} {jobs' : List Job}
    (has' : m'.stance.Has pacing' jobs') {e : Option TickEnd} (ends : m'.ends = m.ends ++ e.toList)
    (unhurried : ¬ m.progress.scene.invoker.task.Expires) : e ≠ some .expired := by
  rintro rfl
  have only {expires : Prop} (ticks : Ticks m.ends m'.ends expires) : expires := by
    obtain ⟨e, ends', late⟩ := ticks
    rw [ends] at ends'
    have same : [TickEnd.expired] = e.toList := List.append_cancel_left ends'
    cases e with
    | none => cases same
    | some e =>
      cases same
      exact late rfl
  cases reached.passes countable positive has next with
  | waits _ awaits => exact unhurried (only awaits.ticks)
  | does _ _ awaits => exact only awaits.ticks
  | quits _ _ stance => exact absurd has' (Stance.idle (by rw [stance]; rfl) _ _)

/-- Where nothing is to fear, a turn that does not end because of a limit keeps a scene serene. -/
theorem Reached.serene_turn (countable : plan.settings.Countable) (safe : Safe plan scene.service)
    (reached : plan.Reached scene m) (has : m.stance.Has pacing jobs) {s s' : Scene Cluster}
    {e : Option TickEnd} (service : s.service = m.progress.scene.service) (serene : Serene s)
    (turn : Scene.Turn pacing s e s') (timely : e ≠ some .expired) : Serene s' := by
  have paced := (reached.sound countable).paced _ _ has
  have limits := pacing_limit countable paced
  have trouble := (reached.tally has.isLate).trouble
  obtain ⟨asked, known⟩ := (reached.toggled safe.agree safe.up).known
  have reachable := known.reachable safe.up
  rw [← service] at trouble reachable
  refine serene.turn (pacing_period countable paced) ?unrefused ?patient ?replies turn timely
  case unrefused =>
    intro fault refused
    rcases limits with unlimited | ⟨_, _, within⟩
    · rw [unlimited] at refused
      cases refused
    · rw [within] at refused
      cases refused
  case patient =>
    intro span n delay limited
    rcases limits with unlimited | ⟨limit, callLimit, within⟩
    · rw [unlimited] at limited
      cases limited
    · rw [within] at limited
      cases limited
      unfold Cluster.nextDelay at delay
      rw [trouble] at delay
      exact safe.patient limit _ span callLimit delay
  case replies =>
    refine Cluster.reply_of_harmless ?_ reachable
    rw [trouble]
    exact safe.harmless

/-- While the invoker works, no tick fails. -/
theorem Reached.serene (countable : plan.settings.Countable)
    (positive : 1 ≤ plan.settings.span plan.settings.period) (safe : Safe plan scene.service)
    (reached : plan.Reached scene m) (has : m.stance.Has pacing jobs) :
    Serene m.progress.scene := by
  refine Reached.induct_has (I := fun m _ _ => Serene m.progress.scene) ?launched ?works reached has
  case launched =>
    intro m _ _ _ _ _ _ still
    constructor
    · rw [still.monitor]
      rfl
    · rw [still.invoker]
      rintro ⟨_, _, same, _⟩
      cases same
  case works =>
    intro m m' pacing jobs jobs' reached serene _ has next works has'
    cases works.stirs with
    | rests _ monitor invoker => exact serene.congr monitor invoker
    | turns service monitor invoker turn ends =>
      have timely := reached.timely countable positive has next has' ends serene.unhurried
      exact reached.serene_turn countable safe has service
        (serene.congr monitor invoker) turn timely

/-- When all nodes run and have siblings, there is a script. -/
theorem exists_script (countable : plan.settings.Countable) (up : plan.source.stopped = [])
    (two : 2 ≤ plan.source.first.ids.length) : ∃ steps, plan.script = .ok steps := by
  cases script : plan.script with
  | ok steps => exact ⟨steps, rfl⟩
  | error fault =>
    obtain ⟨steps, flaw, built, flawed, _⟩ := script_error countable script
    obtain ⟨outage, restart, _, _, paced⟩ := exists_pace countable
    unfold Settings.script at built
    rw [paced] at built
    cases built
    have passes := (Script.check_build_iff (countable.forward paced)).mpr ⟨up, two⟩
    rw [passes] at flawed
    cases flawed

theorem Reached.harmless (safe : Safe plan scene.service) (reached : plan.Reached scene m)
    (has : m.stance.Has pacing jobs) : m.progress.scene.service.trouble.Harmless := by
  rw [(reached.tally has.isLate).trouble]
  exact safe.harmless

/-- The nodes of the script are nodes of the cluster. -/
theorem Reached.ids_eq (safe : Safe plan scene.service)
    (reached : plan.Reached scene m) {down : Option String} (nodes : Down plan m down) :
    m.progress.scene.service.topology.ids = plan.source.ids := by
  rw [← (reached.toggled safe.agree safe.up).live, nodes.live]
  cases down with
  | none => rfl
  | some id => exact Topology.ids_mark plan.source id .stopped

/-- Where nothing is to fear, nothing is fatal. -/
theorem not_fatal (countable : plan.settings.Countable)
    (positive : 1 ≤ plan.settings.span plan.settings.period)
    (safe : Safe plan scene.service) (two : 2 ≤ plan.source.first.ids.length)
    (reached : plan.Reached scene m)
    (raised : Raised) : ¬ Fatal plan m raised := by
  intro fatal
  -- Each way to come to a bad end is excluded by something that a harmless cluster does not do.
  cases fatal with
  | flaw _ built flawed =>
    obtain ⟨steps, script⟩ := exists_script countable safe.up two
    rw [script_of_flaw built flawed] at script
    cases script
  | unavailable stance acquisition =>
    rw [(reached.acquiring stance).2.service, safe.harmless.acquisition] at acquisition
    cases acquisition
  | warmUp stance reply =>
    have reachable : scene.service.topology.isReachable = true := by
      rw [← safe.agree]
      exact Topology.isReachable_of_up safe.up
    obtain ⟨v, answered⟩ := Cluster.reply_of_harmless safe.harmless reachable
    rw [reached.hearing stance, answered] at reply
    cases reply
  | violated stance failed =>
    have has := Stance.has_of_doing stance
    -- A serene run has no failure to latch.
    have pure := (reached.serene countable positive safe has).pure
    rw [(reached.tally has.isLate).firstFailure, failed] at pure
    cases pure
  | stopRefused stance refused =>
    have has := Stance.has_of_doing stance
    obtain ⟨down, clear, placed⟩ := reached.placed countable has
    have harmless := reached.harmless safe has
    have ids := reached.ids_eq safe placed.nodes
    -- A node that is asked to stop is a known one, and a harmless cluster honors that.
    cases placed.place with
    | stop known =>
      rw [← ids] at known
      rw [Cluster.stop_of_harmless harmless known] at refused
      cases refused
  | @startRefused pacing id rest fault text cause stance refused =>
    have has := Stance.has_of_doing stance
    obtain ⟨down, clear, placed⟩ := reached.placed countable has
    have harmless := reached.harmless safe has
    have ids := reached.ids_eq safe placed.nodes
    cases placed.place with
    | start =>
      have known := placed.nodes.known id rfl
      rw [← ids] at known
      rw [Cluster.start_of_harmless harmless known] at refused
      cases refused

/-- When every node runs and has a sibling, nothing is ordered that makes a call or a request fail,
and no call waits for as long as it may take, every wait of a run comes to its own end, and the run
ends with a report: no failure, every checkpoint passed and every node stopped and started in
turn. -/
theorem tolerance_conduct (plan : Plan) (scene : Scene Cluster)
    (countable : plan.settings.Countable)
    (positive : 1 ≤ plan.settings.span plan.settings.period)
    (same : plan.source.shape = scene.service.topology.shape) (up : plan.source.stopped = [])
    (up' : scene.service.topology.stopped = [])
    (two : ∀ c ∈ plan.source.subClusters, 2 ≤ c.ids.length)
    (harmless : scene.service.trouble.Harmless) (patient : plan.Patient scene.service.trouble) :
    (∀ m pacing goal jobs t, plan.Reached scene m → m.stance = .waiting pacing goal 0 jobs →
      m.progress.scene.invoker.task.next? = some t → ¬ t.Before goal) ∧
    ∃ report steps, (plan.conduct scene).1 = .ok report ∧ plan.script = .ok steps ∧
      report.failures = 0 ∧
      report.checkpoints = Script.baseline :: steps.filterMap Step.label? ∧
      report.toggled = plan.source.ids := by
  constructor
  · intro m pacing goal jobs t reached waiting timer
    exact reached.fuel_enough countable positive waiting timer
  have safe : Safe plan scene.service := ⟨Topology.eq_of_shape same up up', up, harmless, patient⟩
  have two' : 2 ≤ plan.source.first.ids.length := two _ List.mem_cons_self
  obtain ⟨m, reached, ⟨raised, finished, _⟩ | ⟨finished, ends⟩⟩ := plan.leads_conduct scene
  · obtain ⟨c, reached', fatal⟩ := (reached.sound countable).blamed raised (by rw [finished]; rfl)
    exact absurd fatal (not_fatal countable positive safe two' reached' raised)
  · have late : m.stance.isLate = true := by
      rw [finished]
      rfl
    have tally := reached.tally late
    obtain ⟨steps, script⟩ := exists_script countable up two'
    obtain ⟨pace, _, built, _⟩ := script_ok script
    have ledger := (reached.ledgered script).done (by rw [finished]; rfl)
    -- A ledger that is done has no failure, so none of the ticks failed.
    have failed := TickEnd.countP_failed_eq_zero (tally.firstFailure.symm.trans (ledger.pure rfl))
    refine ⟨_, steps, congrArg Prod.fst ends, script, tally.failures.trans failed, ?_, ?_⟩
    · exact (List.append_nil _).symm.trans ledger.checkpoints
    · have toggled := ledger.toggled
      rw [built, Script.stops_build] at toggled
      exact (List.append_nil _).symm.trans toggled

/-- The brisk plan with ten milliseconds for each call. -/
def hasty : Plan :=
  { brisk with settings := { brisk.settings with callLimit := some ⟨1, Nat.one_pos⟩ } }

/-- A calm cluster whose calls wait for almost as long, and whose counter jumps. -/
def tardy : Cluster := { calm with trouble.delay := some 9999, trouble.jumps := [(3, -7)] }

theorem hasty_countable : hasty.settings.Countable where
  formation := brisk_countable.formation.congr rfl
  stability := brisk_countable.stability.congr rfl
  outage := brisk_countable.outage.congr rfl
  restart := brisk_countable.restart.congr rfl
  period := brisk_countable.period.congr rfl
  limit := by
    intro m callLimit
    cases callLimit
    decide +kernel
  grace := by
    have same : hasty.settings.seconds hasty.settings.grace =
      brisk.settings.seconds brisk.settings.grace :=
      Settings.seconds_congr rfl _
    rw [same]
    exact brisk_countable.grace

/-- A call that takes almost as long as it may is no failure, whoever is down. -/
theorem tardy_tolerates :
    hasty.settings.Countable ∧ hasty.settings.span hasty.settings.period = 10000 ∧
    hasty.Patient tardy.trouble ∧
    ∃ report, (hasty.conduct (.opening tardy (.start none))).1 = .ok report ∧ report.failures = 0 ∧
      report.toggled = ["node-1", "node-2", "node-3", "node-4"] := by
  have period : hasty.settings.span hasty.settings.period = 10000 := by decide +kernel
  have positive : 1 ≤ hasty.settings.span hasty.settings.period := by
    rw [period]
    decide
  have limit : hasty.settings.span ⟨1, by decide⟩ = 10000 := by decide +kernel
  have patient : hasty.Patient tardy.trouble := by
    intro m number delay callLimit waits
    cases callLimit
    cases waits
    rw [limit]
    decide
  have up : Topology.twoByTwo.stopped = [] := by decide
  obtain ⟨_, report, _, passed, _, failures, _, toggled⟩ :=
    tolerance_conduct hasty (.opening tardy (.start none)) hasty_countable positive rfl up
      up (by decide)
      ⟨rfl, rfl, rfl, rfl, rfl, rfl, rfl⟩ patient
  exact ⟨hasty_countable, period, patient, report, passed, failures, toggled⟩

end Plan

end Run

end Drill
