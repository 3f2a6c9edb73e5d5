import Drill.Proofs.Latch
import Drill.Proofs.Release

/-!
# What less checking misses

A run that does not check during every outage goes side by side with one that does: a run does not
look at what it logged and at the checkpoints that it passed (`Progress.Beside`), and what two runs
do alike leaves them abreast or ends them alike (`Abreast.part`). Only at a checkpoint that the
strict run has to itself can they part (`Abreast.extra`). If it passes, nothing but the report tells
of it. If it finds a failure, the other run is doomed: it ends with the same failure at a checkpoint
of its own, or the node that is down does not start.

Main statements: `Abreast.visits`, two runs that are abreast in their scripts come to what can be
compared, `Plan.compared`, this holds of any two runs, and `relaxed_conduct`, which says what it
means for the verdict.
-/

namespace Drill.Run

open Number (Double)
open Script (Visit)

/-- The progress with nothing logged and no checkpoint passed. -/
def Progress.bare (p : Progress) : Progress :=
  { p with scene := { p.scene with log := [] }, checkpoints := [] }

/-- The guise of an earlier log and of earlier checkpoints. -/
def Guise.past (log : List Log.Entry) (checkpoints : List String) : Guise :=
  ⟨id, Cluster.blind_id, log, checkpoints⟩

theorem Progress.guised_bare (p : Progress) :
    p.bare.guised (.past p.scene.log p.checkpoints) = p := by
  simp [bare, guised, Scene.guised, Guise.past]

/-- The second of two runs came as far as the first, perhaps with fewer checkpoints. What they
logged is no matter. -/
structure Progress.Beside (p q : Progress) : Prop where
  bare : q.bare = p.bare
  checkpoints : q.checkpoints.Sublist p.checkpoints

/-- Two reports that tell the same, but that the second run may have passed fewer checkpoints. -/
structure Report.Beside (r r' : Report) : Prop where
  implementation : r'.implementation = r.implementation
  invocations : r'.invocations = r.invocations
  failures : r'.failures = r.failures
  resyncs : r'.resyncs = r.resyncs
  checkpoints : r'.checkpoints.Sublist r.checkpoints
  toggled : r'.toggled = r.toggled

namespace Progress.Beside

variable {p q : Progress}

theorem monitor (beside : p.Beside q) : q.scene.monitor = p.scene.monitor :=
  congrArg (·.scene.monitor) beside.bare

theorem service (beside : p.Beside q) : q.scene.service = p.scene.service :=
  congrArg (·.scene.service) beside.bare

theorem live (beside : p.Beside q) : q.live = p.live := congrArg (·.live) beside.bare

/-- What they log next is no matter either. -/
theorem note (p : Progress) (e e' : Log.Event) : (p.note e).Beside (p.note e') := ⟨rfl, .refl _⟩

theorem report (beside : p.Beside q) (plan : Plan) :
    ((plan.checked true).report p).Beside ((plan.checked false).report q) where
  implementation := rfl
  invocations := congrArg Monitor.invocations beside.monitor
  failures := congrArg Monitor.failures beside.monitor
  resyncs := congrArg Monitor.resyncs beside.monitor
  checkpoints := beside.checkpoints
  toggled := congrArg (·.toggled) beside.bare

/-- What does not see a guise comes to the same in both runs, and leaves them side by side. -/
theorem through {α : Type} {f : Progress → Stage α} (blind : ∀ g p, f (p.guised g) = (f p).guised g)
    (beside : p.Beside q) : (f q).1 = (f p).1 ∧ (f p).2.Beside (f q).2 := by
  have first : f p = (f p.bare).guised (.past p.scene.log p.checkpoints) := by
    rw [← blind, guised_bare]
  have second : f q = (f p.bare).guised (.past q.scene.log q.checkpoints) := by
    rw [← blind, ← beside.bare, guised_bare]
  rw [first, second]
  exact ⟨rfl, rfl, beside.checkpoints.append (.refl _)⟩

/-- A checkpoint that the first run has to itself leaves the runs side by side if it passes. -/
theorem checkpoint (beside : p.Beside q) (pure : p.scene.monitor.firstFailure = none)
    (label : String) :
    ∃ p', p.checkpoint label = (.ok (), p') ∧ p'.Beside q := by
  refine ⟨{ p with
    scene := p.scene.note [.checkpointPassed label p.scene.monitor.invocations]
    checkpoints := p.checkpoints ++ [label] }, ?_, beside.bare, ?_⟩
  · simp [Progress.checkpoint, Scene.checkpoint, Monitor.checkpoint, pure]
  · exact beside.checkpoints.trans (List.sublist_append_left _ _)

end Progress.Beside

namespace Plan

variable (plan : Plan) (strict : Bool)

/-! How often a plan checks is no matter to what its parts do. -/

theorem seconds_checked (m : Millis) :
    (plan.checked strict).settings.seconds m = plan.settings.seconds m :=
  Settings.seconds_congr rfl m

/-- The first wait has nothing to do with the checking. -/
theorem gather_checked : (plan.checked strict).gather = plan.gather := by
  funext p
  unfold gather
  rw [seconds_checked]
  rfl

/-- Neither has the start of the invoker. -/
theorem launch_checked : (plan.checked strict).launch = plan.launch := by
  funext p
  have limit : (plan.checked strict).settings.limitSeconds = plan.settings.limitSeconds := by
    unfold Settings.limitSeconds
    have same : (plan.checked strict).settings.callLimit = plan.settings.callLimit := rfl
    rw [same]
    cases plan.settings.callLimit with
    | none => rfl
    | some m =>
      dsimp only
      rw [seconds_checked]
  unfold launch pacing
  rw [seconds_checked, limit]
  rfl

/-- Nor any single step. -/
theorem execute_checked (pacing : Pacing) (p : Progress) (step : Step) :
    p.execute pacing (plan.checked strict).settings (plan.checked strict).source step
      = p.execute pacing plan.settings plan.source step := by
  cases step with
  | wait | checkpoint | start => rfl
  | stop id =>
    simp only [Progress.execute, Progress.stop, Progress.announceStop, seconds_checked]
    rfl

variable {plan} in
/-- A run that quits without a fault reports what it came to. -/
theorem Reached.conduct_of_quitting {scene : Scene Cluster} {m : Moment} {pacing : Pacing}
    (countable : plan.settings.Countable) (reached : plan.Reached scene m)
    (stance : m.stance = .quitting pacing (.ok ())) :
    (plan.conduct scene).1 = .ok (plan.report m.progress) := by
  obtain ⟨m', next⟩ : ∃ m', plan.next m = some m' := by
    unfold next
    rw [stance]
    exact ⟨_, rfl⟩
  have quits := next_quits (reached.running stance) stance next
  have alive := (reached.sound countable).closable _ _ stance
  have releasing := quits.stance
  rw [closing_of_alive alive] at releasing
  have releases : plan.Next m' ⟨release m'.progress, .finished (.ok ()), m'.ends⟩ := by
    unfold Next Plan.next
    rw [releasing]
  have finished : plan.Reached scene ⟨release m'.progress, .finished (.ok ()), m'.ends⟩ :=
    (reached.tail next).tail releases
  have same : plan.report (release m'.progress) = plan.report m.progress := by
    rw [report_release]
    unfold report
    rw [quits.monitor, quits.checkpoints, quits.toggled]
  obtain ⟨last, reached', ⟨raised, stance', _⟩ | ⟨stance', ends⟩⟩ := plan.leads_conduct scene
  all_goals
    cases finished.finished_unique rfl reached' stance'
  · cases stance'
  · rw [ends, ← same]

/-- A script fails its check at the stop of this node, and says so at the position of it. -/
def FlawedAt (id : String) (raised : Raised) : Prop :=
  ∃ steps position flaw, plan.settings.script plan.source = .ok steps ∧
    steps[position]? = some (.stop id) ∧ Script.hitch? plan.source id = some flaw ∧
    raised = .plain (flaw position).fault

end Plan

/-- Where a run without strict checking is about to start a node, the node is down, and nothing that
failed was checked yet. -/
theorem Place.of_start {t : Topology} {rest : List Job} {down : Option String}
    {clear : Bool} {id : String}
    {kind : WaitKind} {seconds : Double}
    (place : Place t false down clear (.step (.start id) :: .step (.wait kind seconds) :: rest)) :
    down = some id ∧
      Place t false (some id) false (.step (.start id) :: .step (.wait kind seconds) :: rest) := by
  cases place with
  | announceStart checked then' =>
    cases then' with
    | wait then' =>
      refine ⟨rfl, .announceStart ?_ (.wait then')⟩
      intro strict
      cases strict

/-- What a run that checks during every outage and one that does not come to. -/
inductive Compared (plan : Plan) (scene : Scene Cluster) : Prop where
  | passed {r r' : Report} (strict : ((plan.checked true).conduct scene).1 = .ok r)
      (relaxed : ((plan.checked false).conduct scene).1 = .ok r') (beside : r.Beside r')
  | raised {raised : Raised} (strict : ((plan.checked true).conduct scene).1 = .error raised)
      (relaxed : ((plan.checked false).conduct scene).1 = .error raised)
  /-- The scripts fail their checks at the same node, which may not be stopped. -/
  | flawed {id : String} {raised raised' : Raised} (first : (plan.checked true).FlawedAt id raised)
      (second : (plan.checked false).FlawedAt id raised')
      (strict : ((plan.checked true).conduct scene).1 = .error raised)
      (relaxed : ((plan.checked false).conduct scene).1 = .error raised')
  /-- A checkpoint of the strict run alone finds the first failure, at which a node is down. -/
  | caught {m m' : Moment} {id label : String} {first : Fault} {count : Nat} {raised : Raised}
      (reached : (plan.checked true).Reached scene m)
      (fatal : Fatal (plan.checked true) m (.plain (.violation label first count)))
      (stopped : m.progress.live.stopped = [id])
        (down : id ∈ m.progress.scene.service.topology.stopped)
      (reached' : (plan.checked false).Reached scene m')
      (verdict : Verdict (plan.checked false) first (some id) m' raised)
      (strict : ((plan.checked true).conduct scene).1 =
        .error (.plain (.violation label first count)))
      (relaxed : ((plan.checked false).conduct scene).1 = .error raised)

namespace Compared

variable {plan : Plan} {scene : Scene Cluster}

/-- Both runs pass or neither does. -/
theorem passes_iff (compared : Compared plan scene) :
    (∃ r, ((plan.checked true).conduct scene).1 = .ok r) ↔
      ∃ r, ((plan.checked false).conduct scene).1 = .ok r := by
  cases compared with
  | passed strict relaxed => simp [strict, relaxed]
  | raised strict relaxed | flawed _ _ strict relaxed | caught _ _ _ _ _ _ strict relaxed =>
    simp [strict, relaxed]

/-- If they pass, their reports differ in the checkpoints only. -/
theorem reports (compared : Compared plan scene) {r r' : Report}
    (passed : ((plan.checked true).conduct scene).1 = .ok r)
    (passed' : ((plan.checked false).conduct scene).1 = .ok r') : r.Beside r' := by
  cases compared with
  | passed strict relaxed beside =>
    rw [strict] at passed
    rw [relaxed] at passed'
    cases passed
    cases passed'
    exact beside
  | raised strict | flawed _ _ strict | caught _ _ _ _ _ _ strict =>
    rw [strict] at passed
    cases passed

theorem violation (compared : Compared plan scene) {label : String} {first : Fault} {count : Int}
    {cause : Option Kind}
    (violated : ((plan.checked true).conduct scene).1 =
      .error ⟨.violation label first count, cause⟩) :
    (∃ label' count' cause',
      ((plan.checked false).conduct scene).1 = .error ⟨.violation label' first count', cause'⟩) ∨
    ∃ m id text cause', (plan.checked true).Reached scene m ∧
      Fatal (plan.checked true) m ⟨.violation label first count, cause⟩ ∧
      m.progress.live.stopped = [id] ∧ id ∈ m.progress.scene.service.topology.stopped ∧
      ((plan.checked false).conduct scene).1 = .error ⟨.control text id "start", cause'⟩ := by
  cases compared with
  | passed strict =>
    rw [strict] at violated
    cases violated
  | raised strict relaxed =>
    rw [strict] at violated
    cases violated
    exact .inl ⟨_, _, _, relaxed⟩
  | flawed flaw _ strict =>
    -- A script does not fail its check with a violation.
    obtain ⟨_, _, _, _, _, _, text⟩ := flaw
    rw [strict, text] at violated
    cases violated
  | caught reached fatal stopped down _ verdict strict relaxed =>
    rw [strict] at violated
    cases violated
    cases verdict with
    | violation => exact .inl ⟨_, _, _, relaxed⟩
    | unstarted _ isDown =>
      cases isDown
      exact .inr ⟨_, _, _, _, reached, fatal, stopped, down, relaxed⟩

/-- A failure of another kind comes up in both, or the script is at fault in both. -/
theorem other (compared : Compared plan scene) {raised : Raised}
    (failed : ((plan.checked true).conduct scene).1 = .error raised)
    (other : raised.fault.kind ≠ .violation) :
    ((plan.checked false).conduct scene).1 = .error raised ∨
      ∃ id raised', (plan.checked true).FlawedAt id raised ∧
        (plan.checked false).FlawedAt id raised' ∧
        ((plan.checked false).conduct scene).1 = .error raised' := by
  cases compared with
  | passed strict =>
    rw [strict] at failed
    cases failed
  | raised strict relaxed =>
    rw [strict] at failed
    cases failed
    exact .inl relaxed
  | flawed first second strict relaxed =>
    rw [strict] at failed
    cases failed
    exact .inr ⟨_, _, first, second, relaxed⟩
  | caught _ _ _ _ _ _ strict =>
    rw [strict] at failed
    cases failed
    exact absurd rfl other

end Compared

/-- Two runs of a plan came equally far. The first one checks during every outage, and the second
one does not. -/
structure Abreast (plan : Plan) (scene : Scene Cluster) (stance stance' : Stance) (p q : Progress) :
    Prop where
  strict : ∃ ends, (plan.checked true).Reached scene ⟨p, stance, ends⟩
  relaxed : ∃ ends, (plan.checked false).Reached scene ⟨q, stance', ends⟩
  beside : p.Beside q

namespace Abreast

variable {plan : Plan} {scene : Scene Cluster} {stance stance' : Stance} {p q : Progress}
  {pacing : Pacing} {rest rest' : List Job}

/-- Runs that are about to end with a fault end with it. -/
theorem raised (countable : plan.settings.Countable) {raised : Raised}
    (abreast : Abreast plan scene stance stance' p q) (found : stance.raised? = some raised)
    (found' : stance'.raised? = some raised) : Compared plan scene := by
  obtain ⟨_, reached⟩ := abreast.strict
  obtain ⟨_, reached'⟩ := abreast.relaxed
  exact .raised (reached.conduct_of_raised (Plan.checked_countable countable true) found)
    (reached'.conduct_of_raised (Plan.checked_countable countable false) found')

/-- A part that both runs do alike leaves them abreast, or ends them alike. -/
theorem part (countable : plan.settings.Countable) {α : Type} {failed : Raised → Stance}
    {done done' : α → Stance} (abreast : Abreast plan scene stance stance' p q)
    (f : Progress → Stage α)
    (blind : ∀ g p, f (p.guised g) = (f p).guised g)
    (strict : ∀ ends, (plan.checked true).Brings ⟨p, stance, ends⟩ (f p) (Plan.after failed done))
    (relaxed : ∀ ends,
      (plan.checked false).Brings ⟨q, stance', ends⟩ (f q) (Plan.after failed done'))
    (fails : ∀ raised, (failed raised).raised? = some raised)
    (goes : ∀ a p q, Abreast plan scene (done a) (done' a) p q → Compared plan scene) :
    Compared plan scene := by
  obtain ⟨ends, reached⟩ := abreast.strict
  obtain ⟨ends', reached'⟩ := abreast.relaxed
  obtain ⟨same, beside⟩ := abreast.beside.through blind
  obtain ⟨last, leads⟩ := strict ends
  obtain ⟨last', leads'⟩ := relaxed ends'
  rw [same] at leads'
  cases result : (f p).1 with
  | ok a =>
    rw [result] at leads leads'
    exact goes a _ _ ⟨⟨_, reached.trans leads⟩, ⟨_, reached'.trans leads'⟩, beside⟩
  | error raised =>
    rw [result] at leads leads'
    exact Abreast.raised countable ⟨⟨_, reached.trans leads⟩, ⟨_, reached'.trans leads'⟩, beside⟩
      (fails raised) (fails raised)

/-- Both wait for the stability window. -/
theorem stabilise (countable : plan.settings.Countable)
    (abreast : Abreast plan scene (.doing pacing (.stabilise :: rest))
      (.doing pacing (.stabilise :: rest')) p q)
    (goes : ∀ p q, Abreast plan scene (.doing pacing rest) (.doing pacing rest') p q →
      Compared plan scene) : Compared plan scene := by
  have strict (ends : List TickEnd) := (plan.checked true).brings_stabilise pacing rest p ends
  have relaxed (ends : List TickEnd) := (plan.checked false).brings_stabilise pacing rest' q ends
  simp only [Plan.seconds_checked] at strict relaxed
  let window (p : Progress) : Stage Double := p.lift (plan.settings.seconds plan.settings.stability)
  refine abreast.part countable (fun p => (window p).next fun seconds p => p.wait pacing seconds)
    (fun g p => ?_) strict relaxed (fun _ => rfl) fun _ p q => goes p q
  exact Stage.next_guised rfl fun seconds p => p.wait_guised g pacing seconds

/-- A step that both scripts have. -/
theorem step (countable : plan.settings.Countable) {s : Step}
    (abreast : Abreast plan scene (.doing pacing (.step s :: rest))
      (.doing pacing (.step s :: rest')) p q)
    (goes : ∀ p q, Abreast plan scene (.doing pacing rest) (.doing pacing rest') p q →
      Compared plan scene) : Compared plan scene := by
  have strict (ends : List TickEnd) := (plan.checked true).brings_execute pacing rest p ends s
  have relaxed (ends : List TickEnd) := (plan.checked false).brings_execute pacing rest' q ends s
  simp only [Plan.execute_checked] at strict relaxed
  exact abreast.part countable (fun p => p.execute pacing plan.settings plan.source s)
    (fun g p => p.execute_guised g pacing plan.settings plan.source s) strict relaxed (fun _ => rfl)
    fun _ p q => goes p q

/-- A checkpoint that only the first run makes tells it what the second one finds later. -/
theorem extra (countable : plan.settings.Countable) {label id : String} {kind : WaitKind}
    {seconds : Double}
    (abreast : Abreast plan scene (.doing pacing (.step (.checkpoint label) :: rest))
      (.doing pacing (.step (.start id) :: .step (.wait kind seconds) :: rest')) p q)
    (goes : ∀ p, Abreast plan scene (.doing pacing rest)
      (.doing pacing (.step (.start id) :: .step (.wait kind seconds) :: rest')) p q →
        Compared plan scene) : Compared plan scene := by
  obtain ⟨ends, reached⟩ := abreast.strict
  obtain ⟨ends', reached'⟩ := abreast.relaxed
  cases failed : p.scene.monitor.firstFailure with
  | none =>
    obtain ⟨p', passed, beside⟩ := abreast.beside.checkpoint failed label
    obtain ⟨last, leads⟩ :=
      (plan.checked true).brings_execute pacing rest p ends (.checkpoint label)
    rw [show p.execute pacing _ _ (.checkpoint label) = _ from passed] at leads
    exact goes p' ⟨⟨last, reached.trans leads⟩, abreast.relaxed, beside⟩
  | some first =>
    have countable' := Plan.checked_countable countable false
    have tally := reached.tally rfl
    have fatal :
      Fatal (plan.checked true) ⟨p, .doing pacing (.step (.checkpoint label) :: rest), ends⟩
        (.plain (.violation label first ends.length)) := by
      refine .violated rfl ?_
      rw [← tally.firstFailure]
      exact failed
    -- From here on the second run can only end with a fault.
    obtain ⟨down, clear, placed⟩ := reached'.placed countable' .doing
    obtain ⟨rfl, place⟩ := placed.place.of_start
    have failed' : q.scene.monitor.firstFailure = some first := by
      rw [abreast.beside.monitor]
      exact failed
    obtain ⟨raised, relaxed, verdict⟩ :=
      (Doomed.of_place .doing place failed').ends countable' reached'
    obtain ⟨steps, _, ready, _⟩ := reached'.ready rfl
    have stopped := placed.nodes.stopped (Plan.source_up countable' ready.script)
    have down := placed.nodes.cluster id rfl
    simp only [abreast.beside.live] at stopped
    simp only [abreast.beside.service] at down
    have strict := reached.conduct_of_fatal (Plan.checked_countable countable true) fatal
    exact .caught reached fatal stopped down reached' verdict strict relaxed

/-- Runs that have come to the end of their scripts both pass. -/
theorem done (countable : plan.settings.Countable)
    (abreast : Abreast plan scene (.doing pacing []) (.doing pacing []) p q) :
    Compared plan scene := by
  obtain ⟨_, reached⟩ := abreast.strict
  obtain ⟨_, reached'⟩ := abreast.relaxed
  have strict := Plan.Reached.conduct_of_quitting (Plan.checked_countable countable true)
    (reached.tail rfl) rfl
  have relaxed := Plan.Reached.conduct_of_quitting (Plan.checked_countable countable false)
    (reached'.tail rfl) rfl
  exact .passed strict relaxed (abreast.beside.report plan)

/-- Runs that are abreast at the beginning of the same visits. -/
theorem visits (countable : plan.settings.Countable) (outage restart : Double) (vs : List Visit)
    (abreast : Abreast plan scene
      (.doing pacing ((vs.flatMap (Visit.steps ⟨outage, restart, true⟩)).map .step))
      (.doing pacing ((vs.flatMap (Visit.steps ⟨outage, restart, false⟩)).map .step)) p q) :
    Compared plan scene := by
  induction vs generalizing p q with
  | nil => exact abreast.done countable
  | cons v vs ih =>
    obtain ⟨id, label, first⟩ := v
    -- The node is stopped, and both wait.
    refine abreast.step countable fun p q abreast => ?_
    refine abreast.step countable fun p q abreast => ?_
    cases first with
    | true =>
      refine abreast.step countable fun p q abreast => ?_
      refine abreast.step countable fun p q abreast => ?_
      refine abreast.step countable fun p q abreast => ?_
      exact abreast.step countable fun p q abreast => ih abreast
    | false =>
      refine abreast.extra countable fun p abreast => ?_
      refine abreast.step countable fun p q abreast => ?_
      refine abreast.step countable fun p q abreast => ?_
      exact abreast.step countable fun p q abreast => ih abreast

end Abreast

namespace Plan

variable {plan : Plan} {scene : Scene Cluster}

/-- The scripts of a plan have the same visits, at the same pace, or they fail their checks at the
same node. -/
theorem script_checked (countable : plan.settings.Countable) :
    (∃ outage restart, ∀ strict, (plan.checked strict).script
      = .ok ((Script.visits plan.source).flatMap (Visit.steps ⟨outage, restart, strict⟩))) ∨
    ∃ id, ∀ strict, ∃ raised, (plan.checked strict).FlawedAt id raised ∧
      ∀ scene, ((plan.checked strict).conduct scene).1 = .error raised := by
  obtain ⟨outage, restart, outage_ok, restart_ok, _⟩ := exists_pace countable
  have paced (strict : Bool) :
    (plan.checked strict).settings.pace = .ok ⟨outage, restart, strict⟩ := by
    obtain ⟨outage', restart', outage_ok', restart_ok', paced⟩ :=
      exists_pace (checked_countable countable strict)
    rw [seconds_checked] at outage_ok' restart_ok'
    cases Except.ok.inj (outage_ok.symm.trans outage_ok')
    cases Except.ok.inj (restart_ok.symm.trans restart_ok')
    exact paced
  have forward (strict : Bool) : Script.Pace.Forward ⟨outage, restart, strict⟩ :=
    (checked_countable countable strict).forward (paced strict)
  have built (strict : Bool) : (plan.checked strict).settings.script plan.source
      = .ok (Script.build plan.source ⟨outage, restart, strict⟩) := by
    unfold Settings.script
    rw [paced]
    rfl
  rcases Script.visits_cases plan.source with clear | ⟨before, v, after, flaw, split, clear, hitch⟩
  · refine .inl ⟨outage, restart, fun strict => ?_⟩
    rw [← Script.build_eq_visits]
    exact script_of_check (built strict) (Script.check_of_clear (forward strict) clear)
  · refine .inr ⟨v.id, fun strict => ?_⟩
    obtain ⟨position, stops, flawed⟩ := Script.check_of_hitch (forward strict) split clear hitch
    refine ⟨_, ⟨_, position, flaw, built strict, stops, hitch, rfl⟩, fun scene => ?_⟩
    exact Reached.conduct_of_fatal (checked_countable countable strict) .refl
      (.flaw rfl (built strict) flawed)

/-- A run with a script asks for the service. -/
theorem reached_acquiring {steps : List Step} (script : plan.script = .ok steps)
    (scene : Scene Cluster) :
    plan.Reached scene ⟨(Progress.fresh scene plan.source).note
      (.runStarted plan.implementation plan.settings.banner), .acquiring steps, []⟩ := by
  refine .single ?_
  unfold Next next opening Progress.lift
  simp only [script]
  rfl

/-- Two runs with scripts ask for the service side by side, although they logged their settings. -/
theorem abreast_acquiring {steps steps' : List Step}
    (script : (plan.checked true).script = .ok steps)
    (script' : (plan.checked false).script = .ok steps') (scene : Scene Cluster) :
    ∃ p q, Abreast plan scene (.acquiring steps) (.acquiring steps') p q :=
  ⟨_, _, ⟨_, reached_acquiring script scene⟩, ⟨_, reached_acquiring script' scene⟩,
    .note (.fresh scene plan.source) _ _⟩

/-- A run that checks during every outage and one that does not can be compared. -/
theorem compared (plan : Plan) (scene : Scene Cluster) (countable : plan.settings.Countable) :
    Compared plan scene := by
  rcases script_checked countable with ⟨outage, restart, script⟩ | ⟨id, flawed⟩
  · obtain ⟨p, q, abreast⟩ := abreast_acquiring (script true) (script false) scene
    refine abreast.part countable plan.acquire plan.acquire_guised (fun _ => .head rfl .done)
      (fun _ => .head rfl .done) (fun _ => rfl) fun _ p q abreast => ?_
    have gathers (strict : Bool) (steps : List Step) (p : Progress) (ends : List TickEnd) :=
      (plan.checked strict).brings_gather steps p ends
    simp only [gather_checked] at gathers
    refine abreast.part countable plan.gather plan.gather_guised (gathers true _ p)
      (gathers false _ q)
      (fun _ => rfl) fun _ p q abreast => ?_
    refine abreast.part countable warmUp warmUp_guised ((plan.checked true).brings_warmUp _ p)
      ((plan.checked false).brings_warmUp _ q) (fun _ => rfl) fun _ p q abreast => ?_
    have launches (strict : Bool) (steps : List Step) (p : Progress) (ends : List TickEnd) :=
      (plan.checked strict).brings_launch steps p ends
    simp only [launch_checked] at launches
    refine abreast.part countable plan.launch plan.launch_guised (launches true _ p)
      (launches false _ q)
      (fun _ => rfl) fun pacing p q abreast => ?_
    refine abreast.stabilise countable fun p q abreast => ?_
    exact abreast.step countable fun p q abreast => abreast.visits countable outage restart _
  · obtain ⟨raised, first, strict⟩ := flawed true
    obtain ⟨raised', second, relaxed⟩ := flawed false
    exact .flawed first second (strict scene) (relaxed scene)

/-- Checking less does not change the verdict. A run that checks during every outage passes exactly
if one that does not passes, and the reports differ at most in the checkpoints. If it ends with a
violation, so does the other one, with the same first failure, unless the node that is down at that
moment does not start. If it ends with another fault, so does the other one, but a fault of the
script says where the script of the run itself is wrong. -/
theorem relaxed_conduct (plan : Plan) (scene : Scene Cluster)
    (countable : plan.settings.Countable) :
    ((∃ r, ((plan.checked true).conduct scene).1 = .ok r) ↔
      ∃ r, ((plan.checked false).conduct scene).1 = .ok r) ∧
    (∀ r r', ((plan.checked true).conduct scene).1 = .ok r →
      ((plan.checked false).conduct scene).1 = .ok r' → r.Beside r') ∧
    (∀ label first count cause,
      ((plan.checked true).conduct scene).1 = .error ⟨.violation label first count, cause⟩ →
        (∃ label' count' cause',
          ((plan.checked false).conduct scene).1
            = .error ⟨.violation label' first count', cause'⟩) ∨
        ∃ m id text cause', (plan.checked true).Reached scene m ∧
          Fatal (plan.checked true) m ⟨.violation label first count, cause⟩ ∧
          m.progress.live.stopped = [id] ∧ id ∈ m.progress.scene.service.topology.stopped ∧
          ((plan.checked false).conduct scene).1 = .error ⟨.control text id "start", cause'⟩) ∧
    ∀ raised, ((plan.checked true).conduct scene).1 = .error raised →
      raised.fault.kind ≠ .violation →
      ((plan.checked false).conduct scene).1 = .error raised ∨
        ∃ id raised', (plan.checked true).FlawedAt id raised ∧
          (plan.checked false).FlawedAt id raised' ∧
          ((plan.checked false).conduct scene).1 = .error raised' := by
  have compared := plan.compared scene countable
  refine ⟨compared.passes_iff, ?_, ?_, ?_⟩
  · intro r r' passed passed'
    exact compared.reports passed passed'
  · intro label first count cause violated
    exact compared.violation violated
  · intro raised failed other
    exact compared.other failed other

/-- A faint cluster whose second node does not start again. -/
def weary : Cluster := { faint with trouble.dead := ["node-2"] }

/-- While the second node is down a call fails. The strict run finds this at once, and the other run
finds that the node does not start. -/
theorem weary_relaxes :
    brisk.settings.Countable ∧
    ((brisk.checked true).conduct (.opening weary (.start none))).1
      = .error (.plain (.violation "after clusterA-node1 was shut down" (Cluster.injected 5) 4)) ∧
    ((brisk.checked false).conduct (.opening weary (.start none))).1
      = .error (.plain (.control "node-2 refused to start" "node-2" "start")) ∧
    ∃ m, (brisk.checked true).Reached (.opening weary (.start none)) m ∧
      m.progress.live.stopped = ["node-2"] ∧
      "node-2" ∈ m.progress.scene.service.topology.stopped := by
  have strict : ((brisk.checked true).conduct (.opening weary (.start none))).1
      = .error (.plain
        (.violation "after clusterA-node1 was shut down" (Cluster.injected 5) 4)) := by
    decide +kernel
  have relaxed : ((brisk.checked false).conduct (.opening weary (.start none))).1
      = .error (.plain (.control "node-2 refused to start" "node-2" "start")) := by
    decide +kernel
  refine ⟨brisk_countable, strict, relaxed, ?_⟩
  obtain ⟨_, _, violated, _⟩ := relaxed_conduct brisk (.opening weary (.start none)) brisk_countable
  rcases violated _ _ _ _ strict with ⟨_, _, _, same⟩ |
    ⟨m, id, _, _, reached, _, stopped, down, named⟩
  · rw [relaxed] at same
    cases same
  · rw [relaxed] at named
    cases named
    exact ⟨m, reached, stopped, down⟩

/-- The brisk plan for nodes of which one is down. -/
def hobbled : Plan := { brisk with source := Topology.twoByTwo.mark "node-3" .stopped }

/-- A calm cluster of these nodes. -/
def limp : Cluster := { calm with topology := hobbled.source }

/-- Where the script is wrong, the two runs do not end with the same fault: its text counts the
steps up to the wrong one, and a strict script has more of them. -/
theorem hobbled_differs :
    hobbled.settings.Countable ∧
    ((hobbled.checked true).conduct (.opening limp (.start none))).1
      = .error (.plain (.script "Step 12: node-3 is already stopped")) ∧
    ((hobbled.checked false).conduct (.opening limp (.start none))).1
      = .error (.plain (.script "Step 11: node-3 is already stopped")) ∧
    ¬ ∀ raised, ((hobbled.checked true).conduct (.opening limp (.start none))).1 = .error raised →
      raised.fault.kind ≠ .violation →
        ((hobbled.checked false).conduct (.opening limp (.start none))).1 = .error raised := by
  have strict : ((hobbled.checked true).conduct (.opening limp (.start none))).1
      = .error (.plain (.script "Step 12: node-3 is already stopped")) := by
    decide +kernel
  have relaxed : ((hobbled.checked false).conduct (.opening limp (.start none))).1
      = .error (.plain (.script "Step 11: node-3 is already stopped")) := by
    decide +kernel
  refine ⟨brisk_countable, strict, relaxed, fun same => ?_⟩
  have claimed := same _ strict Kind.noConfusion
  rw [relaxed] at claimed
  exact absurd claimed (by decide)

end Plan

end Drill.Run
