import Drill.Proofs.Outcome
import Drill.Proofs.Replay

/-!
# Where a run stands in its script

The jobs that a run has left to do say where it stands: which node is down, and whether a checkpoint
was passed since the last wait (`Place`). After such a checkpoint no time passes up to the next
stop, and, if checking is strict, up to the next start; so when requests take no time
(`Cluster.Prompt`), no tick can have failed there. `Placed` adds to a place what the run and the
cluster have to do with it.

Main statements: `place_jobs`, a script begins at a place, and `Reached.placed`, a run goes from
place to place.
-/

namespace Drill

namespace Topology

variable {t : Topology} {id : String}

theorem mem_stopped : id ∈ t.stopped ↔ ∃ n ∈ t.nodes, n.id = id ∧ n.state = .stopped := by
  simp only [stopped, SubCluster.inState, nodes, List.mem_flatMap, List.mem_map, List.mem_filter,
    decide_eq_true_eq]
  constructor
  · rintro ⟨c, row, m, ⟨member, down⟩, named⟩
    exact ⟨_, ⟨c, row, m, member, rfl⟩, named, down⟩
  · rintro ⟨_, ⟨c, row, m, member, rfl⟩, named, down⟩
    exact ⟨c, row, m, ⟨member, down⟩, named⟩

/-- A node that was stopped is down. -/
theorem mem_stopped_mark (known : id ∈ t.ids) : id ∈ (t.mark id .stopped).stopped := by
  rw [← ids_nodes] at known
  obtain ⟨n, mem, named⟩ := List.mem_map.mp known
  rw [mem_stopped, nodes_mark]
  refine ⟨{ n with state := .stopped }, List.mem_map.mpr ⟨n, mem, ?_⟩, named, rfl⟩
  rw [if_pos named]

end Topology

/-- When durations can be counted, no wait of a script is a negative one. -/
theorem Settings.Countable.forward {s : Settings} (countable : s.Countable) {pace : Script.Pace}
    (paced : s.pace = .ok pace) : pace.Forward := by
  obtain ⟨outage_ok, restart_ok, _⟩ := Settings.pace_ok paced
  obtain ⟨_, _, ok, outage, _⟩ := countable.outage
  cases outage_ok.symm.trans ok
  obtain ⟨_, _, ok, restart, _⟩ := countable.restart
  cases restart_ok.symm.trans ok
  exact ⟨Number.Double.isBelowZero_of_isPositive outage,
    Number.Double.isBelowZero_of_isPositive restart⟩

/-- Requests to nodes of the cluster take no time. -/
structure Cluster.Prompt (c : Cluster) : Prop where
  stop : c.trouble.stopDelay = none
  start : c.trouble.startDelay = none

namespace Run

open Script (Visit visits)

/-- What is left to do when this node is down. Where a place is clear, no time passed since the last
checkpoint: such are the ends of scripts, the places before a stop, and, with strict checking, those
before a start. -/
inductive Place (t : Topology) (strict : Bool) : Option String → Bool → List Job → Prop where
  | done : Place t strict none true []
  | checkpoint {down : Option String} {clear : Bool} {label : String} {rest : List Job}
      (then' : Place t strict down true rest) :
        Place t strict down clear (.step (.checkpoint label) :: rest)
  | stabilise {down : Option String} {clear : Bool} {rest : List Job}
      (then' : Place t strict down false rest) : Place t strict down clear (.stabilise :: rest)
  | wait {down : Option String} {clear : Bool} {kind : WaitKind} {seconds : Number.Double}
      {rest : List Job}
      (then' : Place t strict down false rest) :
      Place t strict down clear (.step (.wait kind seconds) :: rest)
  | announceStop {id : String} {rest : List Job} (known : id ∈ t.ids)
      (then' : Place t strict (some id) true rest) :
        Place t strict none true (.step (.stop id) :: rest)
  | stop {id : String} {grace : Int} {rest : List Job} (known : id ∈ t.ids)
      (then' : Place t strict (some id) true rest) :
        Place t strict none true (.stop id grace :: rest)
  | announceStart {id : String} {clear : Bool} {rest : List Job}
      (checked : strict = true → clear = true)
      (then' : Place t strict none clear rest) :
      Place t strict (some id) clear (.step (.start id) :: rest)
  | start {id : String} {clear : Bool} {rest : List Job} (checked : strict = true → clear = true)
      (then' : Place t strict none clear rest) : Place t strict (some id) clear (.start id :: rest)

namespace Place

variable {t : Topology}

/-- The steps of a visit lead from a place at which nobody is down to another one. -/
theorem visit {pace : Script.Pace} {v : Visit} (known : v.id ∈ t.ids) {rest : List Job}
    (then' : Place t pace.strict none true rest) :
    Place t pace.strict none true ((v.steps pace).map .step ++ rest) := by
  unfold Visit.steps Script.toggle
  cases checked : pace.strict || v.first with
  | true =>
    refine .announceStop known (.wait (.checkpoint (.announceStart ?_ (.wait (.checkpoint then')))))
    exact fun _ => rfl
  | false =>
    refine .announceStop known (.wait (.announceStart ?_ (.wait (.checkpoint then'))))
    intro strict
    rw [strict] at checked
    cases checked

theorem visits {pace : Script.Pace} {vs : List Visit} (known : ∀ v ∈ vs, v.id ∈ t.ids) :
    Place t pace.strict none true ((vs.flatMap (Visit.steps pace)).map .step) := by
  induction vs with
  | nil => exact .done
  | cons v vs ih =>
    rw [List.flatMap_cons, List.map_append]
    exact visit (known v List.mem_cons_self) (ih fun u mem => known u (List.mem_cons_of_mem v mem))

end Place

/-- The jobs of a script are a place at which nobody is down. -/
theorem place_jobs {plan : Plan} {steps : List Step} (script : plan.script = .ok steps) :
    Place plan.source plan.settings.strict none true (Plan.jobs steps) := by
  obtain ⟨pace, paced, rfl, _⟩ := Plan.script_ok script
  obtain ⟨_, _, strict⟩ := Settings.pace_ok paced
  rw [Script.build_eq_visits, ← strict]
  exact .stabilise (.checkpoint (Place.visits fun v mem => Script.visit_known mem))

/-- Is the job a wait of the script? -/
def Job.waits : Job → Bool
  | .stabilise | .step (.wait _ _) => true
  | .step (.stop _) | .step (.start _) | .step (.checkpoint _) | .stop _ _ | .start _ => false

/-- A wait may begin anywhere. -/
theorem Place.of_waits {t : Topology} {strict : Bool} {down : Option String}
    {clear : Bool} {job : Job}
    {rest : List Job} (place : Place t strict down clear (job :: rest)) (waits : job.waits = true) :
    Place t strict down false (job :: rest) := by
  cases place with
  | stabilise then' => exact .stabilise then'
  | wait then' => exact .wait then'
  | checkpoint | announceStop | stop | announceStart | start => cases waits

/-- Where a place is not clear, jobs without an effect lead to another such place. -/
theorem Place.effectless {t : Topology} {strict : Bool} {down : Option String}
    {jobs jobs' : List Job}
    (place : Place t strict down false jobs) (effectless : Effectless jobs jobs') :
    Place t strict down false jobs' := by
  cases effectless with
  | same => exact place
  | stabilise =>
    cases place with
    | stabilise then' => exact then'
  | wait =>
    cases place with
    | wait then' => exact then'
  | stop => cases place
  | start =>
    cases place with
    | announceStart checked then' => exact .start checked then'

/-- A job that takes no time tells the monitor nothing. -/
theorem Acts.monitor {plan : Plan} {pacing : Pacing} {m m' : Moment} {jobs : List Job}
    (acts : Acts plan pacing m jobs m') :
    m'.progress.scene.monitor = m.progress.scene.monitor ∧ m'.stance.isWaiting = false := by
  cases acts with
  | passed calm | unfeasible _ calm | violated calm => exact ⟨calm.monitor, rfl⟩
  | stopped | started | done | stopRefused | startRefused => exact ⟨rfl, rfl⟩

/-- When requests take no time, only jobs that wait let the loop move. -/
theorem work_prompt {plan : Plan} {pacing : Pacing} {m : Moment} {job : Job} {rest : List Job}
    (prompt : m.progress.scene.service.Prompt) (waits : job.waits = false) :
    (plan.work m pacing rest job).progress.scene.monitor = m.progress.scene.monitor ∧
      (plan.work m pacing rest job).stance.isWaiting = false := by
  cases job with
  | stabilise => cases waits
  | stop id grace => exact (askStop_acts pacing id grace).monitor
  | start id => exact (askStart_acts pacing id).monitor
  | step s =>
    cases s with
    | wait kind seconds => cases waits
    | checkpoint label => exact (checkpoint_acts pacing label).monitor
    | stop id =>
      rcases announceStop_cases plan m.progress id with ⟨grace, label, announced⟩ |
        ⟨_, raised, announced⟩
      -- A prompt cluster has no delay, so the step is over when it was announced.
      · have still :
          (m.progress.note (.shutdown label id)).scene.service.trouble.stopDelay = none :=
          prompt.stop
        have next : plan.work m pacing rest (.step (.stop id))
            = ⟨m.progress.note (.shutdown label id),
              .doing pacing (.stop id grace :: rest), m.ends⟩ := by
          simp only [Plan.work, announced, Moment.attempt, still]
          rfl
        rw [next]
        exact ⟨rfl, rfl⟩
      · have next : plan.work m pacing rest (.step (.stop id))
            = ⟨m.progress, .quitting pacing (.error raised), m.ends⟩ := by
          simp only [Plan.work, announced, Moment.attempt]
        rw [next]
        exact ⟨rfl, rfl⟩
    | start id =>
      rcases announceStart_cases plan m.progress id with ⟨label, announced⟩ | ⟨_, raised, announced⟩
      · have still :
          (m.progress.note (.startup label id)).scene.service.trouble.startDelay = none :=
          prompt.start
        have next : plan.work m pacing rest (.step (.start id))
            = ⟨m.progress.note (.startup label id), .doing pacing (.start id :: rest), m.ends⟩ := by
          simp only [Plan.work, announced, Moment.attempt, still]
          rfl
        rw [next]
        exact ⟨rfl, rfl⟩
      · have next : plan.work m pacing rest (.step (.start id))
            = ⟨m.progress, .quitting pacing (.error raised), m.ends⟩ := by
          simp only [Plan.work, announced, Moment.attempt]
        rw [next]
        exact ⟨rfl, rfl⟩

/-- This node and no other is down, as far as the run knows, and it is down in the cluster. -/
structure Down (plan : Plan) (m : Moment) (down : Option String) : Prop where
  live : m.progress.live = down.elim plan.source (plan.source.mark · .stopped)
  known : ∀ id, down = some id → id ∈ plan.source.ids
  cluster : ∀ id, down = some id → id ∈ m.progress.scene.service.topology.stopped

namespace Down

variable {plan : Plan} {m m' : Moment} {down : Option String}

theorem congr (nodes : Down plan m down) (live : m'.progress.live = m.progress.live)
    (topology : m'.progress.scene.service.topology = m.progress.scene.service.topology) :
    Down plan m' down := by
  refine ⟨live.trans nodes.live, nodes.known, ?_⟩
  rw [topology]
  exact nodes.cluster

theorem stopped (up : plan.source.stopped = []) (nodes : Down plan m down) :
    m.progress.live.stopped = down.toList := by
  rw [nodes.live]
  cases down with
  | none => exact up
  | some id => exact Topology.stopped_mark up (nodes.known id rfl)

end Down

/-- A moment at which the run stands at a place. -/
structure Placed (plan : Plan) (scene : Scene Cluster) (m : Moment) (jobs : List Job)
    (down : Option String) (clear : Bool) : Prop where
  place : Place plan.source plan.settings.strict down clear jobs
  nodes : Down plan m down
  pure : scene.service.Prompt → clear = true →
    m.progress.scene.monitor.firstFailure = none ∧ m.stance.isWaiting = false

namespace Placed

variable {plan : Plan} {scene : Scene Cluster} {m m' : Moment} {pacing : Pacing}
    {jobs jobs' : List Job}
  {down : Option String} {clear : Bool}

/-- As long as a place is clear and no wait begins, nothing fails. -/
theorem pure_next {job : Job} {rest : List Job}
    (placed : Placed plan scene m (job :: rest) down clear)
    (trouble : m.progress.scene.service.trouble = scene.service.trouble)
    (has : m.stance.Has pacing (job :: rest)) (next : plan.Next m m') (waits : job.waits = false)
    (prompt : scene.service.Prompt) (isClear : clear = true) :
    m'.progress.scene.monitor.firstFailure = none ∧ m'.stance.isWaiting = false := by
  obtain ⟨pure, still⟩ := placed.pure prompt isClear
  have prompt' : m.progress.scene.service.Prompt := by
    constructor
    · rw [trouble]
      exact prompt.stop
    · rw [trouble]
      exact prompt.start
  obtain ⟨p, stance, ends⟩ := m
  cases has with
  | waiting goal fuel => cases still
  | doing =>
    cases next
    have quiet :
      (plan.work ⟨p, .doing pacing (job :: rest), ends⟩ pacing rest job).progress.scene.monitor
        = p.scene.monitor ∧ _ := work_prompt prompt' waits
    obtain ⟨monitor, still'⟩ := quiet
    refine ⟨?_, still'⟩
    rw [monitor]
    exact pure

/-- Time that passes leads on to a place. -/
theorem drift (placed : Placed plan scene m jobs down clear)
    (trouble : m.progress.scene.service.trouble = scene.service.trouble)
    (has : m.stance.Has pacing jobs) (next : plan.Next m m') (busy : m.stance ≠ .doing pacing [])
    (effectless : Effectless jobs jobs') (drift : Drift pacing m m') :
    ∃ clear', Placed plan scene m' jobs' down clear' := by
  have nodes := placed.nodes.congr drift.live drift.onlyCalls.topology
  -- A wait gives the loop its turns, and what was clear before may not be clear after it.
  have unclear (place : Place plan.source plan.settings.strict down false jobs') :
      ∃ clear', Placed plan scene m' jobs' down clear' := by
    refine ⟨false, place, nodes, ?_⟩
    intro _ isClear
    cases isClear
  have place := placed.place
  cases effectless with
  | stabilise rest =>
    cases place with
    | stabilise then' => exact unclear then'
  | wait kind seconds rest =>
    cases place with
    | wait then' => exact unclear then'
  | stop id grace rest =>
    cases place with
    | announceStop known then' =>
      exact ⟨true, .stop known then', nodes, placed.pure_next trouble has next rfl⟩
  | start id rest =>
    cases place with
    | announceStart checked then' =>
      exact ⟨clear, .start checked then', nodes, placed.pure_next trouble has next rfl⟩
  -- The job at hand is still at hand, so nothing but a wait can have gone on.
  | same =>
    cases jobs with
    | nil =>
      refine ⟨clear, place, nodes, fun prompt isClear => ?_⟩
      obtain ⟨_, still⟩ := placed.pure prompt isClear
      generalize m.stance = stance at has busy still
      cases has with
      | doing => exact absurd rfl busy
      | waiting => cases still
    | cons job rest =>
      cases waits : job.waits with
      | true => exact unclear (place.of_waits waits)
      | false => exact ⟨clear, place, nodes, placed.pure_next trouble has next waits⟩

/-- A job that takes no time leads on to a place. -/
theorem acts (up : plan.source.stopped = []) (placed : Placed plan scene m jobs down clear)
    (acts : Acts plan pacing m jobs m') {pacing' : Pacing} (has' : m'.stance.Has pacing' jobs') :
    ∃ down' clear', Placed plan scene m' jobs' down' clear' := by
  have place := placed.place
  have live := placed.nodes.live
  cases acts with
  | passed calm pure =>
    cases has'
    cases place with
    | checkpoint then' =>
      -- A checkpoint that passes shows that nothing has failed so far.
      refine ⟨down, true, then', placed.nodes.congr calm.live ?_, fun _ _ => ⟨?_, rfl⟩⟩
      · exact congrArg Cluster.topology calm.service
      · exact (congrArg Monitor.firstFailure calm.monitor).trans pure
  | @stopped id grace rest c honored =>
    cases has'
    cases place with
    | stop known then' =>
      -- The node that was stopped is the one that is down from here on.
      obtain ⟨_, mem, _, rfl⟩ := Cluster.stop_ok honored
      refine ⟨some id, true, then', ⟨?_, ?_, ?_⟩, fun prompt isClear =>
        ⟨(placed.pure prompt isClear).1, rfl⟩⟩
      · exact congrArg (Topology.mark · id .stopped) live
      · rintro _ ⟨⟩
        exact known
      · rintro _ ⟨⟩
        exact Topology.mem_stopped_mark mem
  | started honored =>
    cases has'
    cases place with
    | start checked then' =>
      refine ⟨none, clear, then', ⟨?_, ?_, ?_⟩, fun prompt isClear =>
        ⟨(placed.pure prompt isClear).1, rfl⟩⟩
      -- A node that was taken down and up again leaves the topology as it was.
      · show m.progress.live.mark _ .running = plan.source
        rw [live]
        exact Topology.mark_mark up
      · rintro _ ⟨⟩
      · rintro _ ⟨⟩
  | done | unfeasible | violated | stopRefused | startRefused => cases has'

end Placed

namespace Plan

variable {plan : Plan} {scene : Scene Cluster} {m : Moment} {pacing : Pacing} {jobs : List Job}

/-- When durations can be counted, all nodes ran when the script passed its check. -/
theorem source_up (countable : plan.settings.Countable) {steps : List Step}
    (script : plan.script = .ok steps) :
    plan.source.stopped = [] := by
  obtain ⟨pace, paced, rfl, checked⟩ := script_ok script
  exact ((Script.check_build_iff (countable.forward paced)).mp checked).1

/-- While the invoker works, a run stands at a place. -/
theorem Reached.placed (countable : plan.settings.Countable) (reached : plan.Reached scene m)
    (has : m.stance.Has pacing jobs) : ∃ down clear, Placed plan scene m jobs down clear := by
  refine Reached.induct_has (I := fun m _ jobs => ∃ down clear, Placed plan scene m jobs down clear)
    ?launched ?works reached has
  case launched =>
    intro m steps v pacing _ ready stance still
    refine ⟨none, true, place_jobs ready.script, ⟨still.live, ?_, ?_⟩, fun _ _ => ⟨?_, ?_⟩⟩
    · rintro _ ⟨⟩
    · rintro _ ⟨⟩
    · rw [still.monitor]
      rfl
    · rw [stance]
      rfl
  case works =>
    intro m m' pacing jobs jobs' reached placed _ has next works has'
    obtain ⟨down, clear, placed⟩ := placed
    obtain ⟨steps, _, ready, _⟩ := reached.ready has.isLate
    have trouble := (reached.tally has.isLate).trouble
    cases works with
    | drift busy effectless stance drift =>
      have same := stance.unique has'
      subst same
      obtain ⟨clear', placed'⟩ := placed.drift trouble has next busy effectless drift
      exact ⟨down, clear', placed'⟩
    | acts stance acts => exact placed.acts (source_up countable ready.script) acts has'

end Plan

end Run

end Drill
