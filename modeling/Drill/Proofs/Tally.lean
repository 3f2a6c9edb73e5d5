import Drill.Proofs.Control
import Drill.Proofs.Onset
import Drill.Proofs.Scripted

/-!
# What the monitor counts

Every tick that comes to its end is counted once: `Tally` compares the monitor and the cluster with
the list of what the ticks came to. Whatever a turn of the loop does to the cluster, it tells the
monitor (`Tally.turn`), and requests to nodes do not matter to either. A call that waits when the
invoker is closed gives in: it is no call of the cluster, and the monitor does not hear of it.

`Ledger` does the same for the labels and the nodes of the report: what is in the report, and what
the jobs that are left will add to it, make up the whole script. The last job is a checkpoint, and
no tick ends between it and the report, so a run that passes has no failure. Main statements:
`Reached.tally`, the tally is right all along, and `tally_conduct`, which says what the monitor
knows whenever everyone waits and what a report can say.
-/

namespace Drill

namespace TickEnd

/-- Did the cluster answer? -/
def isAnswered : TickEnd → Bool
  | answered _ _ => true
  | expired | refused _ => false

/-- Was the time of the call up? A limit that is not positive leaves a call no time. -/
def isTimedOut : TickEnd → Bool
  | expired => true
  | refused fault => fault = Limit.exceeded
  | answered _ _ => false

/-- Had the call a limit that no timer can be set for? -/
def isUntimed : TickEnd → Bool
  | refused fault => fault ≠ Limit.exceeded
  | expired | answered _ _ => false

/-- Did the cluster answer with a fault? -/
def isFault : TickEnd → Bool
  | answered _ (.failure _) => true
  | answered _ (.value _) | expired | refused _ => false

/-- Did the cluster answer with a value, and did its counter jump? -/
def isJump (jumps : Assoc Int Int) : TickEnd → Bool
  | answered number (.value _) => (jumps.get? number).getD 0 ≠ 0
  | answered _ (.failure _) | expired | refused _ => false

/-- What the tick failed with. -/
def failure? (e : TickEnd) : Option Fault :=
  match e.outcome with
  | .failure fault => some fault
  | .value _ => none

/-- A tick is answered, out of time or untimed, and no two of these. -/
theorem length_eq (ends : List TickEnd) :
    ends.length = ends.countP isAnswered + ends.countP isTimedOut + ends.countP isUntimed := by
  induction ends with
  | nil => rfl
  | cons e ends ih =>
    rw [List.length_cons, List.countP_cons, List.countP_cons, List.countP_cons, ih]
    cases e with
    | answered number outcome => simp [isAnswered, isTimedOut, isUntimed]; omega
    | expired => simp [isAnswered, isTimedOut, isUntimed]; omega
    | refused fault =>
      by_cases h : fault = Limit.exceeded
      · simp [isAnswered, isTimedOut, isUntimed, h]; omega
      · simp [isAnswered, isTimedOut, isUntimed, h]; omega

/-- A tick that failed was answered with a fault, out of time or untimed. -/
theorem countP_failed (ends : List TickEnd) :
    ends.countP (fun e => !e.outcome.isValue)
      = ends.countP isFault + ends.countP isTimedOut + ends.countP isUntimed := by
  induction ends with
  | nil => rfl
  | cons e ends ih =>
    rw [List.countP_cons, List.countP_cons, List.countP_cons, List.countP_cons, ih]
    cases e with
    | answered number outcome =>
      cases outcome with
      | value v => simp [isFault, isTimedOut, isUntimed, outcome, Outcome.isValue]
      | failure fault => simp [isFault, isTimedOut, isUntimed, outcome, Outcome.isValue]; omega
    | expired => simp [isFault, isTimedOut, isUntimed, outcome, Outcome.isValue]; omega
    | refused fault =>
      by_cases h : fault = Limit.exceeded
      · simp [isFault, isTimedOut, isUntimed, outcome, Outcome.isValue, h]; omega
      · simp [isFault, isTimedOut, isUntimed, outcome, Outcome.isValue, h]; omega

/-- Nothing failed exactly when there is no first failure. -/
theorem countP_failed_eq_zero {ends : List TickEnd} (none : ends.findSome? failure? = none) :
    ends.countP (fun e => !e.outcome.isValue) = 0 := by
  rw [List.countP_eq_zero]
  intro e mem
  have h := List.findSome?_eq_none_iff.mp none e mem
  unfold failure? at h
  cases outcome : e.outcome with
  | value v => simp [Outcome.isValue]
  | failure fault =>
    rw [outcome] at h
    cases h

end TickEnd

namespace Cluster

theorem calls_entered (c : Cluster) : c.entered.calls = c.calls := by
  rw [entered_eq]

theorem serial_entered (c : Cluster) : c.entered.serial = c.serial := by
  rw [entered_eq]

theorem trouble_entered (c : Cluster) : c.entered.trouble = c.trouble := by
  rw [entered_eq]

theorem trouble_answered (c : Cluster) : c.answered.trouble = c.trouble := by
  rcases c.answered_cases with ⟨_, _, h⟩ | ⟨_, h⟩ <;> rw [h]

theorem calls_answered (c : Cluster) : c.answered.calls = c.calls + 1 := by
  rcases c.answered_cases with ⟨_, _, h⟩ | ⟨_, h⟩ <;> rw [h]

/-- An answer with a value leaves the counter one past it, and one with a fault leaves it alone. -/
theorem serial_answered (c : Cluster) :
    c.answered.serial = match c.reply with
      | .value v => v + 1
      | .failure _ => c.serial := by
  rcases c.answered_cases with ⟨_, reply, h⟩ | ⟨reply, h⟩ <;> rw [h, reply]

/-- A value is where the counter stands after its jump. -/
theorem eq_of_reply {c : Cluster} {v : Int} (reply : c.reply = .value v) :
    v = c.serial + c.jump := by
  rcases c.answer_cases with ⟨_, h, _⟩ | ⟨h, _⟩
  · rw [h] at reply
    cases reply
  · rw [h] at reply
    cases reply
    rfl

end Cluster

namespace Run

/-- The monitor and the cluster after these ends of ticks, for a run that began with another
cluster. -/
structure Tally (c : Cluster) (service : Cluster) (monitor : Monitor)
    (ends : List TickEnd) : Prop where
  trouble : service.trouble = c.trouble
  calls : service.calls = c.calls + 1 + ends.countP TickEnd.isAnswered
  expected : ∃ last, monitor.expected = some last ∧ last + 1 = service.serial
  invocations : monitor.invocations = ends.length
  failures : monitor.failures = ends.countP fun e => !e.outcome.isValue
  resyncs : monitor.resyncs = ends.countP (TickEnd.isJump c.trouble.jumps)
  firstFailure : monitor.firstFailure = ends.findSome? TickEnd.failure?

namespace Tally

variable {c service service' : Cluster} {monitor : Monitor} {ends : List TickEnd}

/-- Nothing but calls, answers and the cluster's trouble matters. -/
theorem congr (tally : Tally c service monitor ends) (trouble : service'.trouble = service.trouble)
    (calls : service'.calls = service.calls) (serial : service'.serial = service.serial) :
    Tally c service' monitor ends := by
  refine { tally with trouble := ?_, calls := ?_, expected := ?_ }
  · rw [trouble, tally.trouble]
  · rw [calls, tally.calls]
  · rw [serial]
    exact tally.expected

/-- The tally of a run begins when its first call was answered with a value. -/
theorem first {v : Int} (reply : c.reply = .value v) (handles : List Handle) :
    Tally c ({ c with handles } : Cluster).entered.answered (seeded v) [] := by
  refine ⟨?_, ?_, ⟨v, rfl, ?_⟩, rfl, rfl, rfl, rfl⟩
  · rw [Cluster.trouble_answered, Cluster.trouble_entered]
  · rw [Cluster.calls_answered, Cluster.calls_entered]
    rfl
  · rw [Cluster.serial_answered, Cluster.reply_entered, Cluster.reply_handles, reply]

/-- A tick without an answer fails and does not move the counter. -/
theorem unanswered (tally : Tally c service monitor ends) {e : TickEnd} {fault : Fault}
    (unanswered : e.isAnswered = false) (failed : e.outcome = .failure fault) (sequence : Int) :
    Tally c service (monitor.record sequence (.failure fault)).1 (ends ++ [e]) := by
  have noJump : e.isJump c.trouble.jumps = false := by
    cases e with
    | answered number outcome => cases unanswered
    | expired | refused fault => rfl
  constructor
  · exact tally.trouble
  · rw [tally.calls, List.countP_append, List.countP_singleton, unanswered]
    rfl
  · rw [Monitor.record_expected]
    exact tally.expected
  · rw [Monitor.record_invocations, tally.invocations, List.length_append, List.length_singleton]
  · rw [Monitor.record_failures, tally.failures, List.countP_append, List.countP_singleton, failed]
    rfl
  · obtain ⟨last, known, _⟩ := tally.expected
    rw [Monitor.record_resyncs known, tally.resyncs, List.countP_append,
      List.countP_singleton, noJump]
    rfl
  · have first : TickEnd.failure? e = some fault := by
      unfold TickEnd.failure?
      rw [failed]
    rw [Monitor.record_firstFailure, tally.firstFailure, List.findSome?_append,
      List.findSome?_singleton, first]
    cases ends.findSome? TickEnd.failure? <;> rfl

/-- An answered tick is recorded as it was answered, and is a call of the cluster. -/
theorem answered (tally : Tally c service monitor ends) (sequence : Int) :
    Tally c service.answered (monitor.record sequence service.reply).1
      (ends ++ [.answered (service.calls + 1) service.reply]) := by
  obtain ⟨last, known, follows⟩ := tally.expected
  constructor
  · rw [Cluster.trouble_answered, tally.trouble]
  · rw [Cluster.calls_answered, tally.calls, List.countP_append, List.countP_singleton]
    simp only [TickEnd.isAnswered, if_true]
    omega
  · rw [Monitor.record_expected, Cluster.serial_answered]
    cases service.reply with
    | value v => exact ⟨v, rfl, rfl⟩
    | failure fault => exact tally.expected
  · rw [Monitor.record_invocations, tally.invocations, List.length_append, List.length_singleton]
  · rw [Monitor.record_failures, tally.failures, List.countP_append, List.countP_singleton]
    cases service.reply <;> rfl
  · rw [Monitor.record_resyncs known, tally.resyncs, List.countP_append, List.countP_singleton]
    cases reply : service.reply with
    | failure fault => rfl
    | value v =>
      -- The monitor sees a jump exactly if the cluster's counter made one, forwards or backwards.
      have jumps : v = last + 1 + service.jump := by
        rw [Cluster.eq_of_reply reply, follows]
      unfold Cluster.jump at jumps
      rw [tally.trouble] at jumps
      by_cases still : v = last + 1
      · have none : (c.trouble.jumps.get? ((service.calls : Int) + 1)).getD 0 = 0 := by omega
        simp [TickEnd.isJump, none, still]
      · have jumped : (c.trouble.jumps.get? ((service.calls : Int) + 1)).getD 0 ≠ 0 := by omega
        simp [TickEnd.isJump, jumped, still]
  · rw [Monitor.record_firstFailure, tally.firstFailure, List.findSome?_append,
      List.findSome?_singleton]
    cases service.reply with
    | value v => cases ends.findSome? TickEnd.failure? <;> rfl
    | failure fault => cases ends.findSome? TickEnd.failure? <;> rfl

/-- A call that gives in is no call of the cluster. -/
theorem leave (tally : Tally c service monitor ends) : Tally c service.leave monitor ends := by
  rw [Cluster.leave_eq]
  exact tally.congr rfl rfl rfl

/-- A turn of the loop keeps the tally. -/
theorem turn {pacing : Pacing} {s s' : Scene Cluster} {e : Option TickEnd}
    (tally : Tally c s.service s.monitor ends) (turn : Scene.Turn pacing s e s') :
    Tally c s'.service s'.monitor (ends ++ e.toList) := by
  have entered : Tally c s.service.entered s.monitor ends :=
    tally.congr s.service.trouble_entered s.service.calls_entered s.service.serial_entered
  cases turn with
  | refused idle limit =>
    rw [Scene.endTick_service, Scene.endTick_monitor]
    exact tally.unanswered rfl rfl _
  | answeredAtOnce idle delay =>
    rw [Scene.endTick_service, Scene.endTick_monitor]
    -- The call was entered before it was answered, which changes nothing that counts.
    have answered := entered.answered s.tick.invoker.ticks
    rw [Cluster.reply_entered, Cluster.calls_entered] at answered
    simp only [Scene.arm_monitor, Scene.arm_invoker]
    exact answered
  | entered idle delay =>
    rw [Scene.callOut_service, Scene.callOut_monitor, Option.toList_none, List.append_nil]
    exact entered
  | answered calling =>
    rw [Scene.endTick_service, Scene.endTick_monitor]
    exact tally.answered _
  | expired calling =>
    rw [Scene.endTick_service, Scene.endTick_monitor]
    exact tally.leave.unanswered rfl rfl _

/-- What is done to nodes is no matter of the tally. -/
theorem control (tally : Tally c service monitor ends) (frame : service.OnlyControl service') :
    Tally c service' monitor ends := by
  obtain ⟨_, _, _, _, rfl⟩ := frame
  exact tally.congr rfl rfl rfl

/-- Work keeps the tally. -/
theorem works {plan : Plan} {pacing : Pacing} {jobs : List Job} {m m' : Moment}
    (tally : Tally c m.progress.scene.service m.progress.scene.monitor m.ends)
    (works : Works plan pacing m jobs m') :
    Tally c m'.progress.scene.service m'.progress.scene.monitor m'.ends := by
  cases works.stirs with
  | rests control monitor _ ends =>
    rw [monitor, ends]
    exact tally.control control
  | turns service monitor _ turn ends =>
    rw [← service, ← monitor] at tally
    rw [ends]
    exact tally.turn turn

end Tally

namespace Plan

variable {plan : Plan} {scene : Scene Cluster} {m : Moment}

/-- The tally is right from the start of the invoker on. -/
theorem Reached.tally (reached : plan.Reached scene m) (late : m.stance.isLate = true) :
    Tally scene.service m.progress.scene.service m.progress.scene.monitor m.ends := by
  refine Reached.induct (I := fun m => m.stance.isLate = true →
    Tally scene.service m.progress.scene.service m.progress.scene.monitor m.ends)
    ?early ?works ?quits ?releases reached late
  case early =>
    intro m _ early late
    obtain ⟨steps, v, pacing, _, reply, _, still⟩ := early.late late
    rw [still.service, still.monitor, still.ends]
    exact .first reply _
  case works =>
    intro m m' pacing jobs _ tally _ has works _
    exact (tally has.isLate).works works
  case quits =>
    intro m m' pacing result _ tally _ stance quits _
    have tally := tally (by rw [stance]; rfl)
    rw [quits.service, quits.monitor, quits.ends]
    -- A call that waits gives in: it is answered to nobody, and its tick comes to no end.
    split
    next => exact tally.leave
    next => exact tally
  case releases =>
    intro m result _ tally stance late
    have released := released m.progress
    cases result with
    | error raised => cases late
    | ok _ =>
      have tally := tally (by rw [stance]; rfl)
      show Tally _ (release m.progress).scene.service (release m.progress).scene.monitor _
      rw [released.service, released.monitor]
      exact tally.congr rfl rfl rfl

end Plan

/-- The label that a job leaves in the report. -/
def Job.label? : Job → Option String
  | .step s => s.label?
  | .stabilise | .stop _ _ | .start _ => none

/-- The node that a job leaves in the report. -/
def Job.stop? : Job → Option String
  | .step s => s.stop?
  | .stop id _ => some id
  | .stabilise | .start _ => none

/-- The report so far and what the jobs will add to it make up the report of the whole script, whose
last job is a checkpoint. -/
structure Ledger (steps : List Step) (m : Moment) (jobs : List Job) : Prop where
  checkpoints : m.progress.checkpoints ++ jobs.filterMap Job.label?
    = Script.baseline :: steps.filterMap Step.label?
  toggled : m.progress.toggled ++ jobs.filterMap Job.stop? = steps.filterMap Step.stop?
  last : jobs ≠ [] → ∃ label, jobs.getLast? = some (.step (.checkpoint label))
  pure : jobs = [] → m.progress.scene.monitor.firstFailure = none
  busy : ∀ pacing goal fuel, m.stance ≠ .waiting pacing goal fuel []

/-- Jobs without an effect leave nothing in the report. -/
theorem Effectless.report {jobs jobs' : List Job} (effectless : Effectless jobs jobs') :
    jobs'.filterMap Job.label? = jobs.filterMap Job.label? ∧
      jobs'.filterMap Job.stop? = jobs.filterMap Job.stop? := by
  cases effectless <;> exact ⟨rfl, rfl⟩

/-- What has no effect leaves the last checkpoint last. -/
theorem Effectless.last {jobs jobs' : List Job} {label : String}
    (effectless : Effectless jobs jobs')
    (last : jobs.getLast? = some (.step (.checkpoint label))) :
    jobs'.getLast? = some (.step (.checkpoint label)) := by
  -- A job without an effect is no checkpoint, so it is not the last one.
  cases effectless with
  | same => exact last
  | stabilise | wait => cases jobs' <;> simp_all
  | stop id grace rest | start id rest => cases rest <;> simp_all

/-- While a job takes its time, nothing is added to the report. -/
theorem Drift.report {pacing : Pacing} {m m' : Moment} (drift : Drift pacing m m') :
    m'.progress.checkpoints = m.progress.checkpoints ∧
    m'.progress.toggled = m.progress.toggled := by
  cases drift with
  | calm calm ends => exact ⟨calm.checkpoints, calm.toggled⟩
  | turn calm turn progress ends =>
    rw [progress]
    exact ⟨calm.checkpoints, calm.toggled⟩

namespace Ledger

variable {pacing : Pacing} {steps : List Step} {m m' : Moment}
    {jobs jobs' rest : List Job} {job : Job}

/-- The ledger of a script when nothing of it was done. -/
theorem first {t : Topology} {pace : Script.Pace} (built : steps = Script.build t pace)
    (checkpoints : m.progress.checkpoints = []) (toggled : m.progress.toggled = [])
    (stance : m.stance = .doing pacing (Plan.jobs steps)) : Ledger steps m (Plan.jobs steps) := by
  have picked {β : Type} (pick : Job → Option β) :
      (steps.map Job.step).filterMap pick = steps.filterMap (fun s => pick (.step s)) := by
    rw [List.filterMap_map]
    rfl
  constructor
  · rw [checkpoints, List.nil_append]
    exact congrArg (Script.baseline :: ·) (picked Job.label?)
  · rw [toggled, List.nil_append]
    exact picked Job.stop?
  · intro _
    obtain ⟨label, last⟩ := Script.build_getLast? t pace
    rw [← built] at last
    refine ⟨label, ?_⟩
    rw [Plan.jobs, List.getLast?_cons, List.getLast?_cons, List.getLast?_map, last]
    rfl
  · intro none
    cases none
  · intro _ _ _ waiting
    rw [stance] at waiting
    cases waiting

/-- Time that passes keeps the ledger. -/
theorem drift (ledger : Ledger steps m jobs) (has : m.stance.Has pacing jobs)
    (busy : m.stance ≠ .doing pacing []) (effectless : Effectless jobs jobs')
    (has' : m'.stance.Has pacing jobs')
    (drift : Drift pacing m m') : Ledger steps m' jobs' := by
  have more : jobs ≠ [] := by
    intro none
    subst none
    generalize stance : m.stance = s at has
    cases has with
    | doing => exact busy stance
    | waiting goal fuel => exact ledger.busy _ _ _ stance
  obtain ⟨label, last⟩ := ledger.last more
  have last' := effectless.last last
  have more' : jobs' ≠ [] := by
    intro none
    subst none
    cases last'
  constructor
  · rw [drift.report.1, effectless.report.1]
    exact ledger.checkpoints
  · rw [drift.report.2, effectless.report.2]
    exact ledger.toggled
  · exact fun _ => ⟨label, last'⟩
  · exact fun none => absurd none more'
  · intro _ _ _ waiting
    rw [waiting] at has'
    cases has'
    exact more' rfl

/-- A job that was done moves its part of the ledger into the report. -/
theorem next (ledger : Ledger steps m (job :: rest))
    (checkpoints : m'.progress.checkpoints = m.progress.checkpoints ++ job.label?.toList)
    (toggled : m'.progress.toggled = m.progress.toggled ++ job.stop?.toList)
    (pure : rest = [] → m'.progress.scene.monitor.firstFailure = none)
    (stance : m'.stance = .doing pacing rest) : Ledger steps m' rest := by
  have first {β : Type} (pick : Job → Option β) :
      (pick job).toList ++ rest.filterMap pick = (job :: rest).filterMap pick := by
    cases h : pick job <;> simp [h]
  obtain ⟨label, last⟩ := ledger.last (List.cons_ne_nil job rest)
  constructor
  · rw [checkpoints, List.append_assoc, first]
    exact ledger.checkpoints
  · rw [toggled, List.append_assoc, first]
    exact ledger.toggled
  · intro more
    refine ⟨label, ?_⟩
    rw [← last]
    exact (List.getLast?_cons_of_ne_nil more).symm
  · exact pure
  · intro _ _ _ waiting
    rw [stance] at waiting
    cases waiting

end Ledger

/-- Does the run wait, and the invoker work? -/
def Stance.isWaiting : Stance → Bool
  | .waiting _ _ _ _ => true
  | .checking | .acquiring _ | .gathering _ | .alone _ _ | .ringing _ | .hearing _ | .launching _
  | .doing _ _ | .quitting _ _ | .releasing _ | .finished _ => false

theorem Stance.waiting_of_isWaiting {stance : Stance} (waits : stance.isWaiting = true) :
    ∃ pacing goal fuel jobs, stance = .waiting pacing goal fuel jobs := by
  cases stance with
  | waiting pacing goal fuel jobs => exact ⟨pacing, goal, fuel, jobs, rfl⟩
  | _ => cases waits

/-- Is the work done, and has the run come to no fault? -/
def Stance.isDone : Stance → Bool
  | .quitting _ (.ok ()) | .releasing (.ok ()) | .finished (.ok ()) => true
  | .checking | .acquiring _ | .gathering _ | .alone _ _ | .ringing _ | .hearing _ | .launching _
  | .doing _ _ | .waiting _ _ _ _ | .quitting _ (.error _) | .releasing (.error _)
  | .finished (.error _) =>
    false

/-- A ledger is right as long as the run has come to no fault. -/
structure Ledgered (steps : List Step) (m : Moment) : Prop where
  working : ∀ pacing jobs, m.stance.Has pacing jobs → Ledger steps m jobs
  done : m.stance.isDone = true → Ledger steps m []

namespace Ledgered

variable {plan : Plan} {scene : Scene Cluster} {steps : List Step} {m m' : Moment} {pacing : Pacing}
  {jobs : List Job}

theorem of_doing {rest : List Job} (stance : m.stance = .doing pacing rest)
    (ledger : Ledger steps m rest) : Ledgered steps m := by
  constructor
  · intro pacing' jobs has
    rw [stance] at has
    cases has
    exact ledger
  · intro done
    rw [stance] at done
    cases done

theorem of_error {raised : Raised} (stance : m.stance = .quitting pacing (.error raised)) :
    Ledgered steps m := by
  refine ⟨fun pacing' jobs has => absurd has (Stance.idle (by rw [stance]; rfl) _ _), ?_⟩
  intro done
  rw [stance] at done
  cases done

/-- Before the first job the report is empty. -/
theorem early (script : plan.script = .ok steps) (early : plan.Early scene m) :
    Ledgered steps m := by
  obtain ⟨pace, _, built, _⟩ := Plan.script_ok script
  have launched (late : m.stance.isLate = true) :
      ∃ pacing, m.stance = .doing pacing (Plan.jobs steps) ∧ Ledger steps m (Plan.jobs steps) := by
    obtain ⟨steps', _, pacing, ready, _, stance, still⟩ := early.late late
    have same : steps' = steps := Except.ok.inj (ready.script.symm.trans script)
    subst same
    exact ⟨pacing, stance, .first built still.checkpoints still.toggled stance⟩
  constructor
  · intro pacing jobs has
    obtain ⟨pacing', stance, ledger⟩ := launched has.isLate
    rw [stance] at has
    cases has
    exact ledger
  · intro done
    have late : m.stance.isLate = true := by
      generalize m.stance = s at done
      unfold Stance.isDone at done
      split at done <;> first | rfl | cases done
    obtain ⟨pacing', stance, ledger⟩ := launched late
    rw [stance] at done
    cases done

/-- A job that was done keeps the ledger, and so does a fault. -/
theorem acted (ledger : Ledger steps m jobs) (acts : Acts plan pacing m jobs m') :
    Ledgered steps m' := by
  -- A stop or a start is not the last job, which is a checkpoint.
  have more {job : Job} {rest : List Job} (ledger : Ledger steps m (job :: rest))
      (control : job.label? = none) : rest ≠ [] := by
    intro none
    subst none
    obtain ⟨label, last⟩ := ledger.last (List.cons_ne_nil _ _)
    cases last
    cases control
  cases acts with
  | passed calm pure =>
    refine of_doing rfl (ledger.next ?_ ?_ ?_ rfl)
    · exact congrArg (· ++ _) calm.checkpoints
    · exact calm.toggled.trans (List.append_nil _).symm
    · intro _
      exact (congrArg Monitor.firstFailure calm.monitor).trans pure
  | stopped honored =>
    exact of_doing rfl (ledger.next (List.append_nil _).symm rfl
      (fun none => absurd none (more ledger rfl)) rfl)
  | started honored =>
    exact of_doing rfl (ledger.next (List.append_nil _).symm (List.append_nil _).symm
      (fun none => absurd none (more ledger rfl)) rfl)
  | done =>
    constructor
    · intro pacing' jobs' has'
      cases has'
    · intro _
      exact { ledger with busy := fun _ _ _ h => Stance.noConfusion h }
  | unfeasible | violated | stopRefused | startRefused => exact of_error rfl

/-- Each move of the work enters in the report what it has done. -/
theorem works (ledgered : Ledgered steps m) (has : m.stance.Has pacing jobs)
    (works : Works plan pacing m jobs m') : Ledgered steps m' := by
  have ledger := ledgered.working pacing jobs has
  cases works with
  | drift busy effectless stance drift =>
    constructor
    · intro pacing' jobs' has'
      have same := stance.unique has'
      subst same
      exact ledger.drift has busy effectless stance drift
    · intro done
      generalize m'.stance = s at stance done
      cases stance <;> cases done
  | acts stance acts => exact acted ledger acts

/-- Once the work is done, only the report counts. -/
theorem of_done (ledger : Ledger steps m [])
    (checkpoints : m'.progress.checkpoints = m.progress.checkpoints)
    (toggled : m'.progress.toggled = m.progress.toggled)
    (monitor : m'.progress.scene.monitor = m.progress.scene.monitor)
    (idle : ∀ pacing jobs, ¬ m'.stance.Has pacing jobs) : Ledgered steps m' := by
  refine ⟨fun pacing jobs has => absurd has (idle pacing jobs), fun _ => ⟨?_, ?_, ?_, ?_, ?_⟩⟩
  · rw [checkpoints]
    exact ledger.checkpoints
  · rw [toggled]
    exact ledger.toggled
  · exact ledger.last
  · rw [monitor]
    exact ledger.pure
  · intro pacing goal fuel waiting
    refine idle pacing [] ?_
    rw [waiting]
    exact .waiting goal fuel

/-- Where no jobs are left to do, there is nothing to compare. -/
theorem of_not_done (done : m.stance.isDone = false)
    (idle : ∀ pacing jobs, ¬ m.stance.Has pacing jobs) :
    Ledgered steps m := by
  refine ⟨fun pacing jobs has => absurd has (idle pacing jobs), fun h => ?_⟩
  rw [done] at h
  cases h

end Ledgered

namespace Plan

variable {plan : Plan} {scene : Scene Cluster} {steps : List Step} {m : Moment}

/-- The ledger is right all along. -/
theorem Reached.ledgered (script : plan.script = .ok steps) (reached : plan.Reached scene m) :
    Ledgered steps m := by
  refine Reached.induct (I := Ledgered steps) ?early ?works ?quits ?releases reached
  case early => exact fun m _ early => .early script early
  case works => exact fun m m' pacing jobs _ ledgered _ has works => ledgered.works has works
  case quits =>
    intro m m' pacing result _ ledgered _ stance quits
    have idle (pacing : Pacing) (jobs : List Job) : ¬ m'.stance.Has pacing jobs :=
      Stance.idle (by rw [quits.stance]; rfl) pacing jobs
    cases result with
    | ok _ =>
      have ledger := ledgered.done (by rw [stance]; rfl)
      exact .of_done ledger quits.checkpoints quits.toggled quits.monitor idle
    | error raised =>
      refine .of_not_done ?_ idle
      rw [quits.stance]
      unfold closing
      split <;> rfl
  case releases =>
    intro m result _ ledgered stance
    have released := released m.progress
    have idle (pacing : Pacing) (jobs : List Job) : ¬ (Stance.finished result).Has pacing jobs :=
      Stance.idle rfl pacing jobs
    cases result with
    | ok _ =>
      have ledger := ledgered.done (by rw [stance]; rfl)
      exact .of_done ledger released.checkpoints released.toggled released.monitor idle
    | error raised => exact .of_not_done rfl idle

/-- Whenever everyone waits, no call is lost and none is counted twice: the monitor counts the calls
that the cluster answered, the calls whose time was up and those that no timer could be set for, and
of these as failures all but the ones answered with a value; it expects what the cluster answers
next, and it knows of every jump. So a report has no failures and counts all calls but the first,
and it has every label and every node of the script. -/
theorem tally_conduct (plan : Plan) (scene : Scene Cluster) :
    (∀ m pacing goal fuel jobs, plan.Reached scene m → m.stance = .waiting pacing goal fuel jobs →
      let monitor := m.progress.scene.monitor
      let cluster := m.progress.scene.service
      cluster.calls = scene.service.calls + 1 + m.ends.countP TickEnd.isAnswered ∧
      monitor.invocations = m.ends.countP TickEnd.isAnswered + m.ends.countP TickEnd.isTimedOut
        + m.ends.countP TickEnd.isUntimed ∧
      monitor.failures = m.ends.countP TickEnd.isFault + m.ends.countP TickEnd.isTimedOut
        + m.ends.countP TickEnd.isUntimed ∧
      (∃ last, monitor.expected = some last ∧ last + 1 = cluster.serial) ∧
      monitor.resyncs = m.ends.countP (TickEnd.isJump scene.service.trouble.jumps)) ∧
    ∀ report p, plan.conduct scene = (.ok report, p) →
      report.failures = 0 ∧
      p.scene.service.calls = scene.service.calls + report.invocations + 1 ∧
      (∃ steps, plan.script = .ok steps ∧
        report.checkpoints = Script.baseline :: steps.filterMap Step.label?) ∧
      report.toggled = plan.source.ids := by
  constructor
  · intro m pacing goal fuel jobs reached stance
    have tally := reached.tally (by rw [stance]; rfl)
    refine ⟨tally.calls, ?_, ?_, tally.expected, tally.resyncs⟩
    · rw [tally.invocations, TickEnd.length_eq]
    · rw [tally.failures, TickEnd.countP_failed]
  · intro report p conducted
    obtain ⟨m, reached, ⟨raised, _, ends⟩ | ⟨stance, ends⟩⟩ := plan.leads_conduct scene
    · rw [ends] at conducted
      cases conducted
    · rw [ends] at conducted
      cases conducted
      have late : m.stance.isLate = true := by
        rw [stance]
        rfl
      have tally := reached.tally late
      obtain ⟨steps, _, ready, _⟩ := reached.ready late
      obtain ⟨pace, _, built, _⟩ := script_ok ready.script
      have ledger := (reached.ledgered ready.script).done (by rw [stance]; rfl)
      have failed := TickEnd.countP_failed_eq_zero (tally.firstFailure.symm.trans (ledger.pure rfl))
      refine ⟨tally.failures.trans failed, ?_, ⟨steps, ready.script, ?_⟩, ?_⟩
      · -- No failure means that every tick was answered, and so was a call of the cluster.
        have calls := tally.calls
        have invocations := tally.invocations
        rw [TickEnd.length_eq] at invocations
        rw [TickEnd.countP_failed] at failed
        show m.progress.scene.service.calls
          = scene.service.calls + m.progress.scene.monitor.invocations + 1
        omega
      · exact (List.append_nil _).symm.trans ledger.checkpoints
      · have toggled := ledger.toggled
        rw [built, Script.stops_build] at toggled
        exact (List.append_nil _).symm.trans toggled

/-- A run without trouble counts its calls. -/
theorem calm_conduct_counts :
    ∃ report p, brisk.conduct (.opening calm (.start none)) = (.ok report, p) ∧
      report.failures = 0 ∧
      p.scene.service.calls = report.invocations + 1 ∧ report.toggled = Topology.twoByTwo.ids := by
  have passes : (brisk.conduct (.opening calm (.start none))).1.toBool = true := by decide +kernel
  have counts := (tally_conduct brisk (.opening calm (.start none))).2
  generalize brisk.conduct (.opening calm (.start none)) = stage at passes counts ⊢
  obtain ⟨result, p⟩ := stage
  cases result with
  | error raised => cases passes
  | ok report =>
    obtain ⟨failures, calls, _, toggled⟩ := counts report p rfl
    have begun : (Scene.opening calm (.start none)).service.calls = 0 := rfl
    exact ⟨report, p, rfl, failures, by omega, toggled⟩

/-- The brisk plan with a limit for calls that is finite in milliseconds and infinite when
stretched. -/
def untimed : Plan :=
  { brisk with settings :=
    { brisk.settings with callLimit := some ⟨10 ^ 308, Nat.pow_pos (by decide)⟩ } }

/-- An infinite limit lets calls fail that the cluster never sees and whose time is not up. -/
theorem untimed_counts :
    ∃ m pacing goal fuel jobs, untimed.Reached (.opening calm (.start none)) m ∧
      m.stance = .waiting pacing goal fuel jobs ∧
      m.progress.scene.monitor.invocations
        ≠ m.ends.countP TickEnd.isAnswered + m.ends.countP TickEnd.isTimedOut := by
  have waits :
    (untimed.later 8 (untimed.opening (.opening calm (.start none)))).stance.isWaiting = true := by
    decide +kernel
  obtain ⟨pacing, goal, fuel, jobs, stance⟩ := Stance.waiting_of_isWaiting waits
  refine ⟨_, pacing, goal, fuel, jobs, untimed.leads_later 8 _, stance, ?_⟩
  decide +kernel

end Plan

end Run

end Drill
