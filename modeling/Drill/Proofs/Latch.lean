import Drill.Proofs.Place

/-!
# What is left of a run after its first failure

The first failure is kept for good, and the next checkpoint finds it. Up to there a run goes through
places that are not clear, and such a place has no stop ahead of its checkpoint, and no start either
if checking is strict (`Place`). So `Doomed`, which compares a moment with the one of the first
failure, is kept by every move: either the run is on its way to the checkpoint, and has started the
node that was down at most, or it is about to end, with a violation or because that node did not
start.

Main statements: `Doomed.next`, `Reached.records`, only waiting brings up a first failure, and
`latch_conduct`, after it no checkpoint passes, nothing is asked but the start of that node, and the
run ends with a fault.
-/

namespace Drill

/-- A turn of the loop does not forget a failure. -/
theorem Scene.Turn.latched {pacing : Pacing} {s s' : Scene Cluster} {e : Option TickEnd}
    {first : Fault}
    (turn : Turn pacing s e s') (failed : s.monitor.firstFailure = some first) :
    s'.monitor.firstFailure = some first := by
  have recorded {t : Scene Cluster} {outcome : Outcome} (same : t.monitor = s.monitor) :
      (t.endTick pacing outcome).monitor.firstFailure = some first := by
    rw [endTick_monitor, Monitor.record_firstFailure, same, failed]
    cases outcome <;> rfl
  cases turn with
  | entered =>
    rw [callOut_monitor]
    exact failed
  | answeredAtOnce =>
    refine recorded ?_
    exact s.tick.arm_monitor pacing
  | refused | answered | expired =>
    refine recorded ?_
    rfl

namespace Run

/-- The request that is made at this moment. -/
def Stance.asks? : Stance → Option (Operation × String)
  | .doing _ (.stop id _ :: _) => some (.stop, id)
  | .doing _ (.start id :: _) => some (.start, id)
  | .doing _ [] | .doing _ (.stabilise :: _) | .doing _ (.step _ :: _)
  | .checking | .acquiring _ | .gathering _ | .alone _ _ | .ringing _ | .hearing _ | .launching _
  | .waiting _ _ _ _ | .quitting _ _ | .releasing _ | .finished _ => none

/-- What a run can end with that comes to its first failure at a moment when this node is down: with
that failure, or because the node does not start. -/
inductive Verdict (plan : Plan) (first : Fault) (down : Option String) (c : Moment) :
    Raised → Prop where
  | violation (label : String) (count : Nat) :
      Verdict plan first down c (.plain (.violation label first count))
  | unstarted {m : Moment} {id text : String} {fault : Fault} {cause : Option Kind}
      (relaxed : plan.settings.strict = false) (isDown : down = some id) (leads : plan.Leads c m)
      (asks : m.stance.asks? = some (.start, id))
      (refused : (m.progress.scene.service.start id).1 = .error fault) :
      Verdict plan first down c ⟨.control text id "start", cause⟩

/-- What was asked of a cluster since it had noted down these requests, and who is down now: nothing
was asked, or the start of the node that was down. -/
inductive Since (strict : Bool) (down : Option String) (requests : List (Operation × String)) :
    Option String → List (Operation × String) → Prop where
  | nothing : Since strict down requests down requests
  | started {id : String} (relaxed : strict = false) (isDown : down = some id) :
      Since strict down requests none (requests ++ [(.start, id)])

/-- Before a start that is not clear to fail, nothing was asked. -/
theorem Since.of_start {strict : Bool} {down : Option String} {id : String}
    {requests requests' : List (Operation × String)}
    (since : Since strict down requests (some id) requests')
    (checked : strict = true → false = true) :
    strict = false ∧ down = some id ∧ requests' = requests := by
  cases since
  refine ⟨?_, rfl, rfl⟩
  cases strict with
  | false => rfl
  | true => cases checked rfl

/-- What has become of a run since this node was down and it had come to its first failure. -/
inductive Doomed (plan : Plan) (first : Fault) (down : Option String) (c m : Moment) : Prop where
  | working {pacing : Pacing} {jobs : List Job} {now : Option String}
      (has : m.stance.Has pacing jobs)
      (place : Place plan.source plan.settings.strict now false jobs)
      (failed : m.progress.scene.monitor.firstFailure = some first)
      (checkpoints : m.progress.checkpoints = c.progress.checkpoints)
      (since : Since plan.settings.strict down c.progress.scene.service.requests now
        m.progress.scene.service.requests)
  | ended {raised : Raised} (found : m.stance.raised? = some raised)
      (verdict : Verdict plan first down c raised)
      (checkpoints : m.progress.checkpoints = c.progress.checkpoints)
      (since : ∃ now, Since plan.settings.strict down c.progress.scene.service.requests now
        m.progress.scene.service.requests)

/-- Time that passes does not make the monitor forget a failure. -/
theorem Drift.latched {pacing : Pacing} {m m' : Moment} {first : Fault} (drift : Drift pacing m m')
    (failed : m.progress.scene.monitor.firstFailure = some first) :
    m'.progress.scene.monitor.firstFailure = some first := by
  cases drift with
  | calm calm ends =>
    rw [calm.monitor]
    exact failed
  | turn calm turn progress ends =>
    rw [← calm.monitor] at failed
    rw [progress]
    exact turn.latched failed

namespace Doomed

variable {plan : Plan} {scene : Scene Cluster} {first : Fault} {down : Option String}
    {c m m' : Moment}

/-- A run that comes to its first failure where a place is not clear is doomed. -/
theorem of_place {pacing : Pacing} {jobs : List Job} (has : m.stance.Has pacing jobs)
    (place : Place plan.source plan.settings.strict down false jobs)
    (failed : m.progress.scene.monitor.firstFailure = some first) : Doomed plan first down m m :=
  .working has place failed rfl .nothing

section

variable {pacing : Pacing} {id : String} {rest : List Job} {now : Option String}

/-- A start that is honored is the one that was to come. -/
theorem started (place : Place plan.source plan.settings.strict now false (.start id :: rest))
    (failed : m.progress.scene.monitor.firstFailure = some first)
    (checkpoints : m.progress.checkpoints = c.progress.checkpoints)
    (since : Since plan.settings.strict down c.progress.scene.service.requests now
      m.progress.scene.service.requests)
    {service : Cluster} (honored : m.progress.scene.service.start id = (.ok (), service)) :
    Doomed plan first down c
      ⟨{ m.progress with
          scene.service := service
          live := m.progress.live.mark id .running }, .doing pacing rest, m.ends⟩ := by
  cases place with
  | start checked then' =>
    obtain ⟨relaxed, isDown, asked⟩ := since.of_start checked
    obtain ⟨_, _, rfl⟩ := Cluster.start_ok honored
    refine .working .doing then' failed checkpoints ?_
    show Since _ _ _ _ (m.progress.scene.service.requests ++ [(.start, id)])
    rw [asked]
    exact .started relaxed isDown

/-- When a start is refused, this is what the run ends with. -/
theorem startRefused (leads : plan.Leads c m)
    (stance : m.stance = .doing pacing (.start id :: rest))
    (place : Place plan.source plan.settings.strict now false (.start id :: rest))
    (checkpoints : m.progress.checkpoints = c.progress.checkpoints)
    (since : Since plan.settings.strict down c.progress.scene.service.requests now
      m.progress.scene.service.requests)
    {fault : Fault} {service : Cluster}
    (refused : m.progress.scene.service.start id = (.error fault, service)) :
    Doomed plan first down c
      ⟨{ m.progress with scene.service := service },
        .quitting pacing (.error (Progress.refusal "Starting" id .start fault)), m.ends⟩ := by
  cases place with
  | start checked then' =>
    obtain ⟨relaxed, isDown, asked⟩ := since.of_start checked
    obtain ⟨during, outcome⟩ := Cluster.start_error refused
    obtain ⟨text, cause, named⟩ := refusal_eq "Starting" during
    have verdict : Verdict plan first down c (Progress.refusal "Starting" id .start fault) := by
      rw [named]
      refine .unstarted relaxed isDown leads ?_ (congrArg Prod.fst refused)
      rw [stance]
      rfl
    -- The request may have been kept off before it was noted down.
    rcases outcome with rfl | ⟨_, rfl⟩
    · exact .ended rfl verdict checkpoints ⟨some id, since⟩
    · refine .ended rfl verdict checkpoints ⟨none, ?_⟩
      show Since _ _ _ _ (m.progress.scene.service.requests ++ [(.start, id)])
      rw [asked]
      exact .started relaxed isDown

end

/-- Whatever job a doomed run does, it stays doomed. -/
theorem acts {pacing : Pacing} {jobs : List Job} {now : Option String}
    (countable : plan.settings.Countable) (reached : plan.Reached scene m) (leads : plan.Leads c m)
    (stance : m.stance = .doing pacing jobs)
    (place : Place plan.source plan.settings.strict now false jobs)
    (failed : m.progress.scene.monitor.firstFailure = some first)
    (checkpoints : m.progress.checkpoints = c.progress.checkpoints)
    (since : Since plan.settings.strict down c.progress.scene.service.requests now
      m.progress.scene.service.requests)
    (acts : Acts plan pacing m jobs m') : Doomed plan first down c m' := by
  cases acts with
  | passed calm pure =>
    rw [failed] at pure
    cases pure
  | stopped => cases place
  | done => cases place
  | stopRefused => cases place
  | unfeasible unfeasible =>
    have feasible := (reached.sound countable).feasible _ _ (Stance.has_of_doing stance)
    exact absurd (feasible _ List.mem_cons_self) unfeasible
  | violated calm failed' =>
    rw [failed] at failed'
    cases failed'
    rw [← calm.service] at since
    exact .ended rfl (.violation _ _) (calm.checkpoints.trans checkpoints) ⟨now, since⟩
  | started honored => exact started place failed checkpoints since honored
  | startRefused refused => exact startRefused leads stance place checkpoints since refused

/-- A doomed run stays doomed, whatever it does. -/
theorem next (countable : plan.settings.Countable) (reached : plan.Reached scene m)
    (leads : plan.Leads c m) (doomed : Doomed plan first down c m) (next : plan.Next m m') :
    Doomed plan first down c m' := by
  cases doomed with
  | ended found verdict checkpoints since =>
    obtain ⟨found', checkpoints', calls⟩ := reached.raised_next countable found next
    rw [← calls.requests] at since
    exact .ended found' verdict (checkpoints'.trans checkpoints) since
  | working has place failed checkpoints since =>
    cases (reached.works has next).2 with
    | drift busy effectless has' drift =>
      rw [← drift.onlyCalls.requests] at since
      exact .working has' (place.effectless effectless) (drift.latched failed)
        (drift.report.1.trans checkpoints) since
    | acts stance acts =>
        exact .acts countable reached leads stance place failed checkpoints since acts

theorem leads (countable : plan.settings.Countable) (reached : plan.Reached scene c)
    (doomed : Doomed plan first down c c) (leads : plan.Leads c m) :
    Doomed plan first down c m := by
  induction leads with
  | refl => exact doomed
  | tail leads next ih => exact ih.next countable (reached.trans leads) leads next

/-- A doomed run asks for the start of the node that was down, and for nothing else. -/
theorem asks (doomed : Doomed plan first down c m) {request : Operation × String}
    (asks : m.stance.asks? = some request) :
    ∃ pacing id rest, m.stance = .doing pacing (.start id :: rest) ∧ request = (.start, id) ∧
      down = some id ∧ plan.settings.strict = false ∧
      m.progress.scene.service.requests = c.progress.scene.service.requests ∧
      Place plan.source plan.settings.strict none false rest ∧
      m.progress.scene.monitor.firstFailure = some first := by
  cases doomed with
  | ended found =>
    generalize m.stance = stance at found asks
    cases stance with
    | quitting | releasing | finished => cases asks
    | _ => cases found
  | working has place failed _ since =>
    generalize m.stance = stance at has asks
    cases has with
    | waiting => cases asks
    | doing =>
      cases place with
      | start checked then' =>
        cases asks
        obtain ⟨relaxed, isDown, asked⟩ := since.of_start checked
        exact ⟨_, _, _, rfl, rfl, isDown, relaxed, asked, then', failed⟩
      | checkpoint | stabilise | wait | announceStart => cases asks

/-- A doomed run ends with one of the faults that it can end with. -/
theorem ends (countable : plan.settings.Countable) (reached : plan.Reached scene c)
    (doomed : Doomed plan first down c c) :
    ∃ raised, (plan.conduct scene).1 = .error raised ∧ Verdict plan first down c raised := by
  have raised_of {last : Moment} {result : Except Raised Unit} (reached' : plan.Reached scene last)
      (stance : last.stance = .finished result) :
      ∃ raised, result = .error raised ∧ Verdict plan first down c raised := by
    have doomed' := doomed.leads countable reached (reached.leads_finished reached' stance)
    cases doomed' with
    | working has =>
      rw [stance] at has
      cases has
    | ended found verdict =>
      rw [stance] at found
      cases result with
      | ok _ => cases found
      | error raised =>
        cases found
        exact ⟨_, rfl, verdict⟩
  obtain ⟨last, reached', ⟨raised, stance, conducted⟩ | ⟨stance, _⟩⟩ := plan.leads_conduct scene
  · obtain ⟨_, same, verdict⟩ := raised_of reached' stance
    rw [← Except.error.inj same] at verdict
    exact ⟨_, congrArg Prod.fst conducted, verdict⟩
  · obtain ⟨_, same, _⟩ := raised_of reached' stance
    cases same

end Doomed

namespace Plan

variable {plan : Plan} {scene : Scene Cluster} {c m m' : Moment} {first : Fault}

theorem Early.pure (early : plan.Early scene m) : m.progress.scene.monitor.firstFailure = none := by
  cases early with
  | checking _ still | flawed _ _ still | acquiring _ _ still | unavailable _ _ _ _ still
  | gathering _ _ still | ungathered _ _ _ still | hearing _ _ still | unheard _ _ _ _ _ still
  | launching _ _ _ still | unlaunched _ _ _ _ still | launched _ _ _ _ still =>
    rw [still.monitor]
    rfl

/-- A first failure comes up while the invoker works, and only where time passes. -/
theorem Reached.records (reached : plan.Reached scene c) (next : plan.Next c m)
    (pure : c.progress.scene.monitor.firstFailure = none)
    (failed : m.progress.scene.monitor.firstFailure = some first) :
    ∃ pacing jobs, m.stance.Has pacing jobs := by
  have unchanged (same : m.progress.scene.monitor = c.progress.scene.monitor) :
      ∃ pacing jobs, m.stance.Has pacing jobs := by
    rw [same, pure] at failed
    cases failed
  cases reached.goes next with
  | onset _ early' =>
    rw [early'.pure] at failed
    cases failed
  | works _ _ works =>
    cases works with
    | drift _ _ has' _ => exact ⟨_, _, has'⟩
    | acts _ acts => exact unchanged acts.monitor.1
  | quits _ _ quits => exact unchanged quits.monitor
  | releases _ same =>
    refine unchanged ?_
    rw [same]
    exact (released c.progress).monitor

/-- A run that comes to its first failure is doomed, and one node is down at most. -/
theorem Reached.doomed (countable : plan.settings.Countable) (prompt : scene.service.Prompt)
    (reached : plan.Reached scene m) {pacing : Pacing} {jobs : List Job}
    (has : m.stance.Has pacing jobs)
    (failed : m.progress.scene.monitor.firstFailure = some first) :
    ∃ down, Down plan m down ∧ Doomed plan first down m m := by
  obtain ⟨down, clear, placed⟩ := reached.placed countable has
  have unclear : clear = false := by
    cases isClear : clear with
    | false => rfl
    | true =>
      rw [(placed.pure prompt isClear).1] at failed
      cases failed
  subst unclear
  exact ⟨down, placed.nodes, .of_place has placed.place failed⟩

theorem asks_of_raised {raised : Raised} {stance : Stance} (found : stance.raised? = some raised) :
    stance.asks? = none := by
  cases stance with
  | quitting | releasing | finished => rfl
  | _ => cases found

/-- After a request of a doomed run there is no other one. -/
theorem Reached.asks_once {down : Option String} {request : Operation × String}
    (countable : plan.settings.Countable) (reached : plan.Reached scene c)
    (doomed : Doomed plan first down m c) (asks : c.stance.asks? = some request)
    (next : plan.Next c m') {last : Moment} (leads : plan.Leads m' last) :
    last.stance.asks? = none := by
  obtain ⟨pacing, id, rest, stance, _, _, _, _, place, failed⟩ := doomed.asks asks
  have reached' : plan.Reached scene m' := reached.tail next
  have acts : Acts plan pacing c (.start id :: rest) m' := by
    unfold Next Plan.next at next
    rw [stance] at next
    cases next
    exact askStart_acts pacing id
  have ended {raised : Raised} (found : m'.stance.raised? = some raised) :
    last.stance.asks? = none :=
    asks_of_raised (reached'.raised_leads countable found leads)
  -- If the node starts, the run is doomed with nobody down from there on.
  have started (has : m'.stance.Has pacing rest) : last.stance.asks? = none := by
    have failed' : m'.progress.scene.monitor.firstFailure = some first := by
      rw [acts.monitor.1]
      exact failed
    have doomed' := (Doomed.of_place has place failed').leads countable reached' leads
    cases again : last.stance.asks? with
    | none => rfl
    | some request' =>
      obtain ⟨_, _, _, _, _, isDown, _⟩ := doomed'.asks again
      cases isDown
  cases acts with
  | started => exact started .doing
  | unfeasible | startRefused => exact ended rfl

/-- Once the driver of a prompt cluster has come to its first failure, no checkpoint passes and no
node is stopped any more. With strict checking nothing is asked at all, and otherwise at most once,
for the start of the node that is down at that moment. The run ends with a violation that has the
first failure, or with the fault of that start. -/
theorem latch_conduct (plan : Plan) (scene : Scene Cluster) (countable : plan.settings.Countable)
    (prompt : scene.service.Prompt) :
    ∀ c m first, plan.Reached scene c → plan.Next c m →
      c.progress.scene.monitor.firstFailure = none →
      m.progress.scene.monitor.firstFailure = some first →
      ∃ down, m.progress.live.stopped = down.toList ∧
        (∀ id, down = some id → id ∈ m.progress.scene.service.topology.stopped) ∧
        (∀ m', plan.Leads m m' →
          m'.progress.checkpoints = m.progress.checkpoints ∧
          (∃ now, Since plan.settings.strict down m.progress.scene.service.requests now
            m'.progress.scene.service.requests) ∧
          ∀ request, m'.stance.asks? = some request →
            plan.settings.strict = false ∧ (∃ id, down = some id ∧ request = (.start, id)) ∧
            ∀ next last, plan.Next m' next → plan.Leads next last → last.stance.asks? = none) ∧
        ∃ raised, (plan.conduct scene).1 = .error raised ∧ Verdict plan first down m raised := by
  intro c m first reached next pure failed
  -- The failure comes up while the jobs are done, so one node at most is down.
  obtain ⟨pacing, jobs, has⟩ := reached.records next pure failed
  have reached' : plan.Reached scene m := reached.tail next
  obtain ⟨steps, _, ready, _⟩ := reached'.ready has.isLate
  obtain ⟨down, nodes, doomed⟩ := reached'.doomed countable prompt has failed
  refine ⟨down, nodes.stopped (source_up countable ready.script), nodes.cluster, ?_,
    doomed.ends countable reached'⟩
  intro m' leads
  have doomed' := doomed.leads countable reached' leads
  refine ⟨?_, ?_, ?_⟩
  · cases doomed' with
    | working _ _ _ checkpoints => exact checkpoints
    | ended _ _ checkpoints => exact checkpoints
  · cases doomed' with
    | working _ _ _ _ since => exact ⟨_, since⟩
    | ended _ _ _ since => exact since
  · intro request asks
    obtain ⟨_, id, _, _, asked, isDown, relaxed, _⟩ := doomed'.asks asks
    refine ⟨relaxed, ⟨id, isDown, asked⟩, ?_⟩
    intro after last next' leads'
    exact Reached.asks_once countable (reached'.trans leads) doomed' asks next' leads'

/-- The plan with a checkpoint during every outage, or without. -/
def checked (strict : Bool) (plan : Plan) : Plan :=
  { plan with settings := { plan.settings with strict } }

/-- How often a run checks is no matter of its durations. -/
theorem checked_countable {plan : Plan} (countable : plan.settings.Countable) (strict : Bool) :
    (plan.checked strict).settings.Countable where
  formation := countable.formation.congr rfl
  stability := countable.stability.congr rfl
  outage := countable.outage.congr rfl
  restart := countable.restart.congr rfl
  period := countable.period.congr rfl
  limit m callLimit := (countable.limit m callLimit).congr rfl
  grace := by
    rw [Settings.seconds_congr rfl]
    exact countable.grace

/-- A calm cluster, but for a fault ordered for its fifth call. -/
def faint : Cluster := { calm with trouble.calls := [(5, Cluster.injected 5)] }

/-- The fifth call fails while the second node is down, which is not checked at once. The node is
started again, and then the checkpoint finds the failure. -/
theorem faint_latches :
    (brisk.checked false).settings.Countable ∧ faint.Prompt ∧
    ∃ m, (brisk.checked false).Reached (.opening faint (.start none)) m ∧
      m.progress.live.stopped = ["node-2"] ∧
      (∀ m', (brisk.checked false).Leads m m' → m'.progress.checkpoints = m.progress.checkpoints) ∧
      (∃ raised, ((brisk.checked false).conduct (.opening faint (.start none))).1 = .error raised ∧
        Verdict (brisk.checked false) (Cluster.injected 5) (some "node-2") m raised) ∧
      ((brisk.checked false).conduct (.opening faint (.start none))).1
        = .error (.plain
          (.violation "after clusterA-node1 was brought back up" (Cluster.injected 5) 5)) := by
  have countable := checked_countable brisk_countable false
  have prompt : faint.Prompt := ⟨rfl, rfl⟩
  have ends : ((brisk.checked false).conduct (.opening faint (.start none))).1
      = .error (.plain
        (.violation "after clusterA-node1 was brought back up" (Cluster.injected 5) 5)) := by
    decide +kernel
  -- The fifth call is made while the run waits, after its twenty-fifth moment.
  have moments : ∃ c m, (brisk.checked false).Reached (.opening faint (.start none)) c ∧
      (brisk.checked false).Next c m ∧ c.progress.scene.monitor.firstFailure = none ∧
      m.progress.scene.monitor.firstFailure = some (Cluster.injected 5) ∧
      m.progress.live.stopped = ["node-2"] := by
    refine ⟨_, _, (brisk.checked false).leads_later 25 _,
      (brisk.checked false).next_later ?_, ?_, ?_, ?_⟩
    all_goals decide +kernel
  obtain ⟨c, m, reached, next, pure, failed, stopped⟩ := moments
  obtain ⟨down, live, _, later, verdict⟩ :=
    latch_conduct _ _ countable prompt c m _ reached next pure failed
  have known : down = some "node-2" := by
    rw [stopped] at live
    cases down with
    | none => cases live
    | some id =>
      cases live
      rfl
  rw [known] at verdict
  exact ⟨countable, prompt, m, reached.tail next, stopped, fun m' leads => (later m' leads).1,
    verdict, ends⟩

end Plan

end Run

end Drill
