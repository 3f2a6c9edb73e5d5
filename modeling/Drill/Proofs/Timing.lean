import Drill.Proofs.Passage
import Mathlib.Algebra.GroupWithZero.Nat

/-!
# When the steps of a run happen

Up to the start of the invoker a run takes as long as its clusters need to form and its first call
to be answered (`reached_launching`). From there on every moment is `Timed`: the jobs that are left
say which steps were done (`Along`), and the run goes on when those have lasted. The last step that
was reached is kept with it (`Last`), and the time at which it is over.

Main statements: `Timed.next`, moments stay in time, and `timing_conduct`, when each step is reached
and when the run ends.
-/

namespace Drill

namespace Run

theorem Progress.waitAlone_timed (p : Progress) {seconds : Number.Double} {span : Nat}
    (timed : Pause.of seconds = .ok (.timed span)) :
    p.waitAlone seconds = (.ok (), (p.noteNap seconds).elapse span) := by
  unfold Progress.waitAlone
  simp only [timed]

namespace Plan

variable {plan : Plan} {scene : Scene Cluster} {m m' : Moment}

theorem gather_eq (p : Progress) {seconds : Number.Double} {span : Nat}
    (ok : plan.settings.seconds plan.settings.formation = .ok seconds)
    (timed : Pause.of seconds = .ok (.timed span)) :
    plan.gather p = (.ok (), ((p.note .waitingForClusters).noteNap seconds).elapse span) := by
  unfold gather
  simp only [ok, Progress.lift_ok, Stage.next_ok, Progress.waitAlone_timed _ timed]

theorem elapse_eq (p : Progress) (span : Nat) : (p.elapse span).scene.service = p.scene.service ∧
    (p.elapse span).scene.clock.now = p.scene.clock.now + span := ⟨rfl, rfl⟩

/-- The clusters form for as long as the settings say. -/
theorem gather_timed (countable : plan.settings.Countable) (p : Progress) :
    ∃ q, plan.gather p = (.ok (), q) ∧ q.scene.service = p.scene.service ∧
      q.scene.clock.now = p.scene.clock.now + plan.settings.span plan.settings.formation := by
  obtain ⟨seconds, ok, _, _, timed⟩ := countable.formation.timed
  exact ⟨_, gather_eq p ok timed, elapse_eq _ _⟩

/-- The first call takes as long as the cluster makes it wait. -/
theorem warmUp_timed {p : Progress} {v : Int} (reply : p.scene.service.reply = .value v) :
    ∃ q, warmUp p = (.ok (), q) ∧
      q.scene.clock.now = p.scene.clock.now + p.scene.service.nextDelay.getD 0 := by
  have heard {q : Progress} (entered : q.scene.service = p.scene.service.entered) :
      ∃ q', hear q = (.ok (), q') ∧ q'.scene.clock = q.scene.clock := by
    have reply' : q.scene.service.reply = .value v := by
      rw [entered, Cluster.reply_entered]
      exact reply
    unfold hear Cluster.service
    rcases q.scene.service.answer_cases with ⟨fault, failed, _⟩ | ⟨_, answer⟩
    · rw [failed] at reply'
      cases reply'
    · simp only [answer]
      exact ⟨_, rfl, rfl⟩
  unfold warmUp ring Cluster.service Cluster.enter
  dsimp only
  cases delay : p.scene.service.nextDelay with
  | none =>
    obtain ⟨q', hears, clock⟩ :=
      heard (q := { p with scene.service := p.scene.service.entered }) rfl
    exact ⟨q', hears, congrArg Clock.now clock⟩
  | some span =>
    obtain ⟨q', hears, clock⟩ := heard
      (q := ({ p with scene.service := p.scene.service.entered } : Progress).elapse span) rfl
    exact ⟨q', hears, congrArg Clock.now clock⟩

/-- A run with a script, the service and an answer comes to the start of the invoker, at a time that
is known. -/
theorem reached_launching (countable : plan.settings.Countable) {steps : List Step} {v : Int}
    (ready : plan.Ready scene steps) (reply : scene.service.reply = .value v) :
    ∃ m, plan.Reached scene m ∧ m.stance = .launching steps ∧ m.progress.scene.clock.now
      = scene.clock.now + plan.settings.span plan.settings.formation +
      scene.service.nextDelay.getD 0 := by
  -- Neither the check nor the acquisition takes time.
  obtain ⟨p, ends, checks, service, clock⟩ :
    ∃ p ends, plan.Reached scene ⟨p, .acquiring steps, ends⟩ ∧
      p.scene.service = scene.service ∧ p.scene.clock = scene.clock := by
    have checked : plan.Brings (plan.opening scene)
        (((Progress.fresh scene plan.source).note
          (.runStarted plan.implementation plan.settings.banner)).lift plan.script)
        (after (fun raised => .finished (.error raised)) .acquiring) := .head rfl .done
    unfold Progress.lift at checked
    rw [ready.script] at checked
    obtain ⟨ends, leads⟩ := checked
    exact ⟨_, ends, leads, rfl, rfl⟩
  obtain ⟨q, ends, acquires, service', clock'⟩ :
      ∃ q ends', plan.Leads ⟨p, .acquiring steps, ends⟩ ⟨q, .gathering steps, ends'⟩ ∧
      q.scene.service = plan.held scene ∧ q.scene.clock = scene.clock := by
    have acquired : plan.Brings ⟨p, .acquiring steps, ends⟩ (plan.acquire p)
        (after (fun raised => .finished (.error raised)) fun _ => .gathering steps) :=
          .head rfl .done
    have acquisition : p.scene.service.trouble.acquisition = none := by
      rw [service]
      exact ready.acquisition
    rw [acquire_of_none acquisition, service] at acquired
    obtain ⟨ends', leads⟩ := acquired
    exact ⟨_, ends', leads, rfl, clock⟩
  -- The first wait and the first call do: the one lasts for the formation time, the other one for
  -- the delay of the service.
  obtain ⟨r, gathers, service'', now⟩ := gather_timed countable q
  have held : r.scene.service = plan.held scene := service''.trans service'
  have reply' : r.scene.service.reply = .value v := by
    rw [held]
    exact (Cluster.reply_handles _ _).trans reply
  have delay : r.scene.service.nextDelay = scene.service.nextDelay := by
    rw [held]
    rfl
  obtain ⟨t, answers, now'⟩ := warmUp_timed reply'
  have gathered := plan.brings_gather steps q ends
  rw [gathers] at gathered
  obtain ⟨ends, gathered⟩ := gathered
  have answered := plan.brings_warmUp steps r ends
  rw [answers] at answered
  obtain ⟨ends, answered⟩ := answered
  refine ⟨_, ((checks.trans acquires).trans gathered).trans answered, rfl, ?_⟩
  rw [now, clock', delay] at now'
  exact now'

end Plan

/-- The step that is reached at a moment. -/
def Stance.step? : Stance → Option Step
  | .doing _ (.step s :: _) => some s
  | .doing _ [] | .doing _ (.stabilise :: _) | .doing _ (.stop _ _ :: _) | .doing _ (.start _ :: _)
  | .checking | .acquiring _ | .gathering _ | .alone _ _ | .ringing _ | .hearing _ | .launching _
  | .waiting _ _ _ _ | .quitting _ _ | .releasing _ | .finished _ => none

theorem Stance.doing_of_step? {stance : Stance} {s : Step} (step : stance.step? = some s) :
    ∃ pacing rest, stance = .doing pacing (.step s :: rest) := by
  unfold step? at step
  split at step
  next pacing s' rest =>
    cases step
    exact ⟨pacing, rest, rfl⟩
  all_goals cases step

/-- Is there no more work? -/
def Stance.isOver : Stance → Bool
  | .quitting _ _ | .releasing _ | .finished _ => true
  | .checking | .acquiring _ | .gathering _ | .alone _ _ | .ringing _ | .hearing _
  | .launching _ | .doing _ _ | .waiting _ _ _ _ => false

/-- The jobs that are left of some steps, and how long the steps before them last. -/
inductive Along (trouble : Trouble) (steps : List Step) : List Job → Nat → Prop where
  | between (before after : List Step) (whole : steps = before ++ after) :
      Along trouble steps (after.map .step) (before.map (Step.lasts trouble)).sum
  | stop (id : String) (grace : Int) (before after : List Step) (whole : steps = before ++ after) :
      Along trouble steps (.stop id grace :: after.map .step) (before.map (Step.lasts trouble)).sum
  | start (id : String) (before after : List Step) (whole : steps = before ++ after) :
      Along trouble steps (.start id :: after.map .step) (before.map (Step.lasts trouble)).sum

/-- A job that is done, or announced, is along the way with the time that it lasts. -/
theorem Along.next {plan : Plan} {trouble : Trouble} {steps : List Step} {job : Job}
    {rest jobs' : List Job}
    {n : Nat} (along : Along trouble steps (job :: rest) n) (leaves : job.Leaves rest jobs') :
    Along trouble steps jobs' (n + job.lasts plan trouble) := by
  generalize same : job :: rest = jobs at along
  cases along with
  | between before after whole =>
    cases after with
    | nil => cases same
    | cons s after =>
      obtain ⟨rfl, rfl⟩ := List.cons.inj same
      -- The step moves over to those that are done.
      have whole' : steps = (before ++ [s]) ++ after := by
        rw [whole, List.append_assoc]
        rfl
      have sum : (before.map (Step.lasts trouble)).sum + s.lasts trouble
          = ((before ++ [s]).map (Step.lasts trouble)).sum := by
        rw [List.map_append, List.sum_append]
        rfl
      show Along trouble steps jobs' (_ + s.lasts trouble)
      rw [sum]
      cases leaves with
      | done => exact .between _ after whole'
      | stop id grace => exact .stop id grace _ after whole'
      | start id => exact .start id _ after whole'
  | stop id grace before after whole =>
    cases same
    cases leaves
    exact .between before after whole
  | start id before after whole =>
    cases same
    cases leaves
    exact .between before after whole

/-- A job along the way that is not a step takes no time, because the step did. -/
theorem Along.short (plan : Plan) {trouble : Trouble} {steps : List Step} {job : Job}
    {rest : List Job}
    {n : Nat} (along : Along trouble steps (job :: rest) n) :
    job.lasts plan trouble = 0 ∨ ∃ s, job = .step s := by
  generalize same : job :: rest = jobs at along
  cases along with
  | between before after =>
    cases after with
    | nil => cases same
    | cons s after => exact .inr ⟨s, (List.cons.inj same).1⟩
  | stop | start =>
    cases same
    exact .inl rfl

theorem Along.of_step {trouble : Trouble} {steps : List Step} {s : Step} {rest : List Job} {n : Nat}
    (along : Along trouble steps (.step s :: rest) n) :
    ∃ before after, steps = before ++ s :: after ∧ rest = after.map .step ∧
      n = (before.map (Step.lasts trouble)).sum := by
  generalize same : Job.step s :: rest = jobs at along
  cases along with
  | between before after whole =>
    cases after with
    | nil => cases same
    | cons s' after =>
      cases same
      exact ⟨before, after, whole, rfl, rfl⟩
  | stop | start => cases same

/-- The last step that was reached up to a moment. -/
structure Last (plan : Plan) (scene : Scene Cluster) (s : Step) (c m : Moment) : Prop where
  reached : plan.Reached scene c
  step : c.stance.step? = some s
  leads : plan.Leads c m
  last : ∀ c' s', plan.Reached scene c' → c'.stance.step? = some s' → plan.Leads c' m →
    plan.Leads c' c

namespace Last

variable {plan : Plan} {scene : Scene Cluster} {s : Step} {c m m' : Moment}

theorem self (reached : plan.Reached scene m) (step : m.stance.step? = some s) :
    Last plan scene s m m :=
  ⟨reached, step, .refl, fun _ _ _ _ leads => leads⟩

/-- Where no step is reached, the last one stays the last one. -/
theorem next (last : Last plan scene s c m) (next : plan.Next m m')
    (none : m'.stance.step? = none) :
    Last plan scene s c m' := by
  refine ⟨last.reached, last.step, last.leads.tail next, ?_⟩
  intro c' s' reached' step' leads'
  rcases reached'.leads_of_next (last.reached.trans last.leads) next leads' with rfl | before
  · rw [none] at step'
    cases step'
  · exact last.last c' s' reached' step' before

end Last

theorem quit_clock {p : Progress} {pacing : Pacing} (running : p.scene.invoker.Running)
    (result : Except Raised Unit) :
    (Plan.quit pacing (result, p)).2.scene.clock = p.scene.clock := by
  have cancelled : p.scene.cancel.clock = p.scene.clock := by
    unfold Scene.cancel
    split <;> rfl
  unfold Plan.quit
  simp only [Scene.close_eq pacing running]
  cases Scene.ending p.scene.invoker.task <;> exact cancelled

theorem release_clock (p : Progress) : (Plan.release p).scene.clock = p.scene.clock := by
  unfold Plan.release Progress.onCluster
  obtain ⟨result, c, h⟩ : ∃ result c, p.scene.service.release = (result, c) := ⟨_, _, rfl⟩
  simp only [h]
  cases result <;> rfl

/-- How a run stands in time whose invoker is started at `base`, with a stability window of this
length. -/
inductive Timed (plan : Plan) (scene : Scene Cluster) (steps : List Step) (base window : Nat)
    (m : Moment) : Prop where
  | launching (stance : m.stance = .launching steps) (due : m.due = base)
  | poised {pacing : Pacing} (stance : m.stance = .doing pacing (Plan.jobs steps))
      (due : m.due = base)
  | stabilising {pacing : Pacing}
      (has : m.stance.Has pacing ((.checkpoint Script.baseline :: steps).map .step))
      (waiting : m.stance.isWaiting = true)
      (due : m.due = base + window)
  | working {pacing : Pacing} {jobs : List Job} {n : Nat} {s : Step} {c : Moment}
      (has : m.stance.Has pacing jobs)
      (along : Along scene.service.trouble (.checkpoint Script.baseline :: steps) jobs n)
      (due : m.due = base + window + n) (last : Last plan scene s c m)
      (since : m = c ∨ m.stance.step? = none ∧
        m.due = c.progress.scene.clock.now + s.lasts scene.service.trouble)
  | ended {s : Step} {c : Moment} (ended : m.stance.isOver = true) (last : Last plan scene s c m)
      (now : m.progress.scene.clock.now = c.progress.scene.clock.now +
        s.lasts scene.service.trouble)

namespace Timed

variable {plan : Plan} {scene : Scene Cluster} {steps : List Step} {base window : Nat}
    {m m' : Moment}

/-- While the invoker works, a step is reached, or the one before it lasts or is over. -/
theorem awaits {pacing : Pacing} {jobs : List Job} {n : Nat} {s : Step} {c : Moment}
    {ends : List TickEnd}
    {expires : Prop}
    (reached : plan.Reached scene m) (last : Last plan scene s c m) (next : plan.Next m m')
    (awaits : Awaits pacing jobs (base + window + n) ends expires m')
    (along : Along scene.service.trouble (.checkpoint Script.baseline :: steps) jobs n)
    (since : base + window + n
      = c.progress.scene.clock.now + s.lasts scene.service.trouble) :
    Timed plan scene steps base window m' := by
  cases step : m'.stance.step? with
  | some s' =>
      exact .working awaits.has along awaits.due (.self (reached.tail next) step) (.inl rfl)
  | none =>
    exact .working awaits.has along awaits.due (last.next next step)
      (.inr ⟨step, awaits.due.trans since⟩)

/-- The stability window lasts, or the first checkpoint is reached. -/
theorem stabilised {pacing : Pacing} {ends : List TickEnd} {expires : Prop}
    (reached : plan.Reached scene m) (next : plan.Next m m')
    (awaits : Awaits pacing ((.checkpoint Script.baseline :: steps).map .step)
      (base + window) ends expires m') : Timed plan scene steps base window m' := by
  have along : Along scene.service.trouble (.checkpoint Script.baseline :: steps) _ 0 :=
    .between [] (.checkpoint Script.baseline :: steps) rfl
  cases waiting : m'.stance.isWaiting with
  | true => exact .stabilising awaits.has waiting awaits.due
  | false =>
    have step : m'.stance.step? = some (.checkpoint Script.baseline) := by
      have has := awaits.has
      generalize m'.stance = stance at has waiting
      cases has with
      | doing => rfl
      | waiting => cases waiting
    exact .working awaits.has along awaits.due (.self (reached.tail next) step) (.inl rfl)

theorem of_launching (countable : plan.settings.Countable) (reached : plan.Reached scene m)
    (stance : m.stance = .launching steps) (due : m.due = base) (next : plan.Next m m') :
    Timed plan scene steps base window m' := by
  obtain ⟨pacing, _, paced, _⟩ := Plan.exists_pacing countable
  have fresh := reached.launching stance
  obtain ⟨p, _, ends⟩ := m
  subst stance
  unfold Plan.Next Plan.next at next
  simp only [Plan.launch_of_fresh paced fresh] at next
  cases next
  exact .poised rfl due

/-- When the last job is done, or a fault ends the work, the step reached last is over. -/
theorem quits {pacing : Pacing} {jobs : List Job} {s : Step} {c : Moment}
    {result : Except Raised Unit} (last : Last plan scene s c m) (next : plan.Next m m')
    (doing : m.stance = .doing pacing jobs)
    (short : ∀ job ∈ jobs.head?, job.lasts plan scene.service.trouble = 0)
    (since : m = c ∨ m.stance.step? = none ∧
      m.due = c.progress.scene.clock.now + s.lasts scene.service.trouble)
    (stance : m'.stance = .quitting pacing result)
    (clock : m'.progress.scene.clock = m.progress.scene.clock) :
    Timed plan scene steps base window m' := by
  have ended : m'.stance.isOver = true := by
    rw [stance]
    rfl
  have none : m'.stance.step? = none := by
    rw [stance]
    rfl
  refine .ended ended (last.next next none) ?_
  rw [clock, ← Moment.due_of_doing doing]
  rcases since with rfl | ⟨_, due⟩
  · have step := last.step
    rw [doing] at step
    cases jobs with
    | nil => cases step
    | cons job rest =>
      cases job with
      | step s' =>
        cases step
        have atOnce : s.lasts scene.service.trouble = 0 := short (.step s) rfl
        rw [atOnce, Moment.due_of_doing doing]
        rfl
      | stabilise | stop | start => cases step
  · exact due

theorem of_over (reached : plan.Reached scene m) {s : Step} {c : Moment}
    (ended : m.stance.isOver = true) (last : Last plan scene s c m)
    (now : m.progress.scene.clock.now = c.progress.scene.clock.now + s.lasts scene.service.trouble)
    (next : plan.Next m m') : Timed plan scene steps base window m' := by
  have goes (ended' : m'.stance.isOver = true) (none : m'.stance.step? = none)
      (clock : m'.progress.scene.clock = m.progress.scene.clock) :
        Timed plan scene steps base window m' := by
    rw [← clock] at now
    exact .ended ended' (last.next next none) now
  obtain ⟨p, stance, ends⟩ := m
  cases stance with
  | quitting pacing result =>
    have running : p.scene.invoker.Running := reached.running rfl
    cases next
    exact goes rfl rfl (quit_clock running result)
  | releasing result =>
    cases next
    exact goes rfl rfl (release_clock p)
  | finished => cases next
  | _ => cases ended

/-- Where the run waits, it waits for the end of the step that was reached last. -/
theorem since_of_waits {s : Step} {c : Moment} (last : Last plan scene s c m)
    (waiting : m.stance.isWaiting = true)
    (since : m = c ∨ m.stance.step? = none ∧
      m.due = c.progress.scene.clock.now + s.lasts scene.service.trouble) :
    m.due = c.progress.scene.clock.now + s.lasts scene.service.trouble := by
  rcases since with rfl | ⟨_, since⟩
  · have step := last.step
    generalize m.stance = stance at waiting step
    cases stance with
    | waiting => cases step
    | _ => cases waiting
  · exact since

/-- Where a job is done, the step that was reached last ends when the job has taken its time. -/
theorem since_of_does {pacing : Pacing} {job : Job} {rest : List Job} {n : Nat}
    {s : Step} {c : Moment}
    (last : Last plan scene s c m) (doing : m.stance = .doing pacing (job :: rest))
    (along : Along scene.service.trouble (.checkpoint Script.baseline :: steps) (job :: rest) n)
    (since : m = c ∨ m.stance.step? = none ∧
      m.due = c.progress.scene.clock.now + s.lasts scene.service.trouble) :
    m.due + job.lasts plan scene.service.trouble
      = c.progress.scene.clock.now + s.lasts scene.service.trouble := by
  rcases since with rfl | ⟨none, since⟩
  · have step := last.step
    rw [doing] at step
    rw [Moment.due_of_doing doing]
    cases job with
    | step s' =>
      cases step
      rfl
    | stabilise | stop | start => cases step
  · rcases along.short plan with short | ⟨s', rfl⟩
    · rw [short]
      exact since
    · rw [doing] at none
      cases none

/-- The next moment is in time as well. -/
theorem next (countable : plan.settings.Countable)
    (positive : 1 ≤ plan.settings.span plan.settings.period)
    (same : plan.settings.span plan.settings.stability = window) (reached : plan.Reached scene m)
    (timed : Timed plan scene steps base window m) (next : plan.Next m m') :
    Timed plan scene steps base window m' := by
  have trouble {pacing : Pacing} {jobs : List Job} (has : m.stance.Has pacing jobs) :
      m.progress.scene.service.trouble = scene.service.trouble := (reached.tally has.isLate).trouble
  -- By how far the run has come: before its jobs, in its first wait, among its steps, or past them.
  cases timed with
  | launching stance due => exact of_launching countable reached stance due next
  | poised stance due =>
    have has := Stance.has_of_doing stance
    cases reached.passes countable positive has next with
    | waits waiting =>
      rw [stance] at waiting
      cases waiting
    | does doing leaves awaits =>
      rw [stance] at doing
      cases doing
      cases leaves
      have lasts : Job.lasts plan m.progress.scene.service.trouble .stabilise = window := same
      rw [due, lasts] at awaits
      exact stabilised reached next awaits
    | quits doing short =>
      obtain ⟨prompt, _⟩ := short .stabilise rfl
      cases prompt
  | stabilising has waiting due =>
    -- Either the wait goes on or its goal is reached; no other job is at hand.
    cases reached.passes countable positive has next with
    | waits _ awaits =>
      rw [due] at awaits
      exact stabilised reached next awaits
    | does doing | quits doing =>
      rw [doing] at waiting
      cases waiting
  | @working pacing jobs n s c has along due last since =>
    cases reached.passes countable positive has next with
    | waits waiting awaits' =>
      -- The time since the beginning of the step is carried along while it lasts.
      have since' := since_of_waits last waiting since
      rw [due] at awaits' since'
      exact awaits reached last next awaits' along since'
    | does doing leaves awaits' =>
      rw [trouble has] at awaits'
      have since' := since_of_does last doing along since
      rw [due, Nat.add_assoc _ n] at awaits' since'
      exact awaits reached last next awaits' (along.next leaves) since'
    | quits doing short stance clock =>
      rw [trouble has] at short
      exact quits last next doing (fun job head => (short job head).2) since stance clock
  | ended ended last now => exact of_over reached ended last now next

end Timed

namespace Plan

variable {plan : Plan} {scene : Scene Cluster} {m m' : Moment}

/-- When the work has begun, the invoker is not started again. -/
theorem Reached.past_leads {pacing : Pacing} {jobs : List Job} (reached : plan.Reached scene m)
    (has : m.stance.Has pacing jobs) (leads : plan.Leads m m') :
    (∃ pacing jobs, m'.stance.Has pacing jobs) ∨ m'.stance.isOver = true := by
  induction leads with
  | refl => exact .inl ⟨_, _, has⟩
  | @tail b c leads next ih =>
    have reached' : plan.Reached scene b := reached.trans leads
    rcases ih with ⟨pacing, jobs, has⟩ | ended
    · rcases (reached'.works has next).2.stance with ⟨jobs', has'⟩ | ⟨result, stance⟩
      · exact .inl ⟨_, _, has'⟩
      · refine .inr ?_
        rw [stance]
        rfl
    · right
      generalize stance : b.stance = current at ended
      cases current with
      | quitting pacing result =>
        rw [(next_quits (reached'.running stance) stance next).stance]
        rfl
      | releasing result =>
        unfold Next Plan.next at next
        rw [stance] at next
        cases next
        rfl
      | finished result =>
        unfold Next Plan.next at next
        rw [stance] at next
        cases next
      | _ => cases ended

theorem Reached.timed_leads (countable : plan.settings.Countable)
    (positive : 1 ≤ plan.settings.span plan.settings.period) {steps : List Step}
    (reached : plan.Reached scene m) (stance : m.stance = .launching steps)
    (leads : plan.Leads m m') :
    Timed plan scene steps m.due (plan.settings.span plan.settings.stability) m' := by
  induction leads with
  | refl => exact .launching stance rfl
  | tail leads next ih => exact ih.next countable positive rfl (reached.trans leads) next

/-- Where the invoker works, it was started at a time that is known. -/
theorem Reached.launched (countable : plan.settings.Countable) (reached : plan.Reached scene m)
    {pacing : Pacing} {jobs : List Job} (has : m.stance.Has pacing jobs) :
    ∃ l steps, plan.Reached scene l ∧ l.stance = .launching steps ∧ plan.Leads l m ∧
      plan.script = .ok steps ∧ l.progress.scene.clock.now
        = scene.clock.now + plan.settings.span plan.settings.formation +
        scene.service.nextDelay.getD 0 := by
  obtain ⟨steps, v, ready, reply⟩ := reached.ready has.isLate
  obtain ⟨l, reached', stance, now⟩ := reached_launching countable ready reply
  refine ⟨l, steps, reached', stance, ?_, ready.script, now⟩
  rcases reached'.leads_or_leads reached with leads | leads
  · exact leads
  · rcases reached.past_leads has leads with ⟨_, _, has'⟩ | ended
    · rw [stance] at has'
      cases has'
    · rw [stance] at ended
      cases ended

/-- When a step is reached. -/
theorem Reached.step_timed (countable : plan.settings.Countable)
    (positive : 1 ≤ plan.settings.span plan.settings.period) (reached : plan.Reached scene m)
    {pacing : Pacing} {s : Step} {rest : List Job}
    (doing : m.stance = .doing pacing (.step s :: rest)) :
    ∃ steps before after, plan.script = .ok steps ∧
      .checkpoint Script.baseline :: steps = before ++ s :: after ∧ rest = after.map .step ∧
      m.progress.scene.clock.now = scene.clock.now + plan.settings.span plan.settings.formation
        + scene.service.nextDelay.getD 0 + plan.settings.span plan.settings.stability
        + (before.map (Step.lasts scene.service.trouble)).sum := by
  have has := Stance.has_of_doing doing
  obtain ⟨first, steps, reached', stance, leads, script, now⟩ := reached.launched countable has
  have due : first.due = first.progress.scene.clock.now := by
    unfold Moment.due
    rw [stance]
  have timed := reached'.timed_leads countable positive stance leads
  rw [due, now] at timed
  cases timed with
  | working has' along due =>
    cases has.unique has'
    obtain ⟨before, after, whole, left, sum⟩ := along.of_step
    rw [sum, Moment.due_of_doing doing] at due
    exact ⟨steps, before, after, script, whole, left, due⟩
  | launching stance' | poised stance' =>
    rw [doing] at stance'
    cases stance'
  | stabilising _ waiting =>
    rw [doing] at waiting
    cases waiting
  | ended ended =>
    rw [doing] at ended
    cases ended

/-- No script ends with a wait. -/
theorem script_not_wait {steps before after : List Step} {kind : WaitKind} {seconds : Number.Double}
    (script : plan.script = .ok steps)
    (whole : .checkpoint Script.baseline :: steps = before ++ .wait kind seconds :: after) :
    after ≠ [] := by
  rintro rfl
  obtain ⟨pace, _, rfl, _⟩ := script_ok script
  obtain ⟨label, last⟩ := Script.build_getLast? plan.source pace
  have ends := congrArg List.getLast? whole
  rw [List.getLast?_cons, last, List.getLast?_concat] at ends
  cases ends

/-- A wait is not the last step, because the step after it is reached. -/
theorem Reached.not_wait (countable : plan.settings.Countable)
    (positive : 1 ≤ plan.settings.span plan.settings.period) {c last : Moment} {s : Step}
    (isLast : Last plan scene s c last) (reached' : plan.Reached scene last)
    {result : Except Raised Unit}
    (finished : last.stance = .finished result) (kind : WaitKind) (seconds : Number.Double) :
    s ≠ .wait kind seconds := by
  rintro rfl
  have reached := isLast.reached
  obtain ⟨pacing, rest, doing⟩ := Stance.doing_of_step? isLast.step
  obtain ⟨steps, before, after, script, whole, rfl, _⟩ :=
    reached.step_timed countable positive doing
  obtain ⟨s, after, rfl⟩ := List.exists_cons_of_ne_nil (script_not_wait script whole)
  have sound := reached.sound countable
  obtain ⟨pause, paused⟩ := sound.feasible _ _ (Stance.has_of_doing doing) _ List.mem_cons_self
  -- The wait brings the run to the next step, which would have to be reached before the wait.
  obtain ⟨p, _, ends⟩ := c
  subst doing
  obtain ⟨ends', leads⟩ :=
    plan.brings_execute pacing ((s :: after).map .step) p ends (.wait kind seconds)
  have waits : (p.execute pacing plan.settings plan.source (.wait kind seconds)).1 = .ok () := by
    unfold Progress.execute Progress.wait
    simp only [paused]
  rw [waits] at leads
  have next := reached.trans leads
  have back := isLast.last _ s next rfl (Reached.leads_finished next reached' finished)
  have same := congrArg Moment.stance (reached.leads_antisymm leads back)
  exact List.cons_ne_self _ _ (Stance.doing.inj same).2.symm

/-- When durations can be counted and the invoker's delay is a microsecond at least, no wait of a
run runs out of fuel, and each step is reached when the clusters have formed, the first call has
waited, the stability window is over and the steps before it have lasted, whatever the invoker's
ticks come to. A run whose first call was answered ends when the last step that it reaches is over;
that step is no wait. -/
theorem timing_conduct (plan : Plan) (scene : Scene Cluster) (countable : plan.settings.Countable)
    (positive : 1 ≤ plan.settings.span plan.settings.period) :
    (∀ m pacing goal jobs t, plan.Reached scene m → m.stance = .waiting pacing goal 0 jobs →
      m.progress.scene.invoker.task.next? = some t → ¬ t.Before goal) ∧
    (∀ m pacing s rest, plan.Reached scene m → m.stance = .doing pacing (.step s :: rest) →
      ∃ steps before after, plan.script = .ok steps ∧
        .checkpoint Script.baseline :: steps = before ++ s :: after ∧ rest = after.map .step ∧
        m.progress.scene.clock.now = scene.clock.now + plan.settings.span plan.settings.formation
          + scene.service.nextDelay.getD 0 + plan.settings.span plan.settings.stability
          + (before.map (Step.lasts scene.service.trouble)).sum) ∧
    (∀ m steps, plan.Reached scene m → m.stance = .launching steps →
      ∃ c pacing s rest, plan.Reached scene c ∧ c.stance = .doing pacing (.step s :: rest) ∧
        (∀ c' pacing' s' rest', plan.Reached scene c' →
          c'.stance = .doing pacing' (.step s' :: rest') → plan.Leads c' c) ∧
        (∀ kind seconds, s ≠ .wait kind seconds) ∧
        (plan.conduct scene).2.scene.clock.now
          = c.progress.scene.clock.now + s.lasts scene.service.trouble) := by
  refine ⟨?_, ?_, ?_⟩
  · intro m pacing goal jobs t reached waiting timer
    exact reached.fuel_enough countable positive waiting timer
  · intro m pacing s rest reached doing
    exact reached.step_timed countable positive doing
  · intro m steps reached stance
    obtain ⟨last, result, reached', finished, clock⟩ : ∃ last result, plan.Reached scene last ∧
        last.stance = .finished result ∧
        (plan.conduct scene).2.scene.clock = last.progress.scene.clock := by
      obtain ⟨last, reached', ⟨raised, finished, ends⟩ | ⟨finished, ends⟩⟩ :=
        plan.leads_conduct scene
      · exact ⟨last, _, reached', finished, by rw [ends]⟩
      · refine ⟨last, _, reached', finished, ?_⟩
        rw [ends]
        rfl
    have timed :=
      reached.timed_leads countable positive stance (reached.leads_finished reached' finished)
    cases timed with
    | @ended s c ended isLast now =>
      obtain ⟨pacing, rest, doing⟩ := Stance.doing_of_step? isLast.step
      refine ⟨c, pacing, s, rest, isLast.reached, doing, ?_,
        Reached.not_wait countable positive isLast reached' finished, ?_⟩
      · intro c' pacing' s' rest' reached'' doing'
        refine isLast.last c' s' reached'' ?_ (reached''.leads_finished reached' finished)
        rw [doing']
        rfl
      · rw [clock]
        exact now
    | launching stance' | poised stance' =>
      rw [finished] at stance'
      cases stance'
    | stabilising has | working has =>
      rw [finished] at has
      cases has

/-- A calm cluster whose calls wait longer than any step of a brisk script lasts. -/
def leisurely : Cluster := { calm with trouble.delay := some 25000 }

/-- Of the calls only the first one delays the run: it ends when the clusters formed, that call
waited, the stability window and the eight waits of the script were over, each of ten
milliseconds. -/
theorem leisurely_times :
    brisk.settings.Countable ∧ brisk.settings.span brisk.settings.period = 10000 ∧
    ∃ c pacing s rest, brisk.Reached (.opening leisurely (.start none)) c ∧
      c.stance = .doing pacing (.step s :: rest) ∧
      c.progress.scene.clock.now + s.lasts leisurely.trouble = 10000 + 25000 + 10000 + 8 * 10000 ∧
      (brisk.conduct (.opening leisurely (.start none))).2.scene.clock.now = 125000 := by
  have period : brisk.settings.span brisk.settings.period = 10000 := by decide +kernel
  have positive : 1 ≤ brisk.settings.span brisk.settings.period := by
    rw [period]
    decide
  have ends : (brisk.conduct (.opening leisurely (.start none))).2.scene.clock.now = 125000 := by
    decide +kernel
  obtain ⟨steps, script⟩ : ∃ steps, brisk.script = .ok steps := by
    have passes : brisk.script.toBool = true := by decide +kernel
    cases script : brisk.script with
    | error fault =>
      rw [script] at passes
      cases passes
    | ok steps => exact ⟨steps, rfl⟩
  have reply : leisurely.reply = .value 0 := by decide +kernel
  have ready : brisk.Ready (.opening leisurely (.start none)) steps := ⟨script, rfl⟩
  obtain ⟨m, reached, stance, _⟩ := reached_launching brisk_countable ready reply
  obtain ⟨_, _, ending⟩ :=
    timing_conduct brisk (.opening leisurely (.start none)) brisk_countable positive
  obtain ⟨c, pacing, s, rest, reached', doing, _, _, last⟩ := ending m steps reached stance
  rw [ends] at last
  exact ⟨brisk_countable, period, c, pacing, s, rest, reached', doing, last.symm, ends⟩

end Plan

end Run

end Drill
