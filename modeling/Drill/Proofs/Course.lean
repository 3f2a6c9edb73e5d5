import Drill.Proofs.Loop
import Drill.Run.Conduct
import Drill.Topology.Shape
import Mathlib.Logic.Relation

/-!
# The course of a run

`Plan.conduct` says what a whole run comes to; it does not say what happens on the way. This file
splits a run into moments. A `Moment` is how far the run has come, what it is about to do (`Stance`)
and what the invoker's ticks came to so far, and `Plan.next` is the moment after it: a part of the
work is done, or everyone waits and one timer fires. A run is over when there is no next moment, and
every moment that a run of the plan comes to is `Reached`.

Main statements: `leads_conduct`, the moments lead from the start of a run to what `conduct` makes
of it, so that whatever holds of all reached moments holds of the run, and
`Reached.finished_unique`, they come to one end only.
-/

namespace Drill.Run

open Number (Double)
open Relation (ReflTransGen)

/-- A part of the work while the invoker works. -/
inductive Job where
  /-- Let the stability window pass. -/
  | stabilise
  | step (s : Step)
  /-- Have a node stopped, which was announced. -/
  | stop (id : String) (grace : Int)
  /-- Have a node started, which was announced. -/
  | start (id : String)

/-- What a run is about to do. -/
inductive Stance where
  | checking
  | acquiring (steps : List Step)
  | gathering (steps : List Step)
  /-- To wait for a timer while there is no invoker. -/
  | alone (goal : Timer) (after : Stance)
  | ringing (steps : List Step)
  | hearing (steps : List Step)
  | launching (steps : List Step)
  | doing (pacing : Pacing) (jobs : List Job)
  /-- To wait for a timer while the invoker works, for as many of its timers as there is fuel
  for. -/
  | waiting (pacing : Pacing) (goal : Timer) (fuel : Nat) (jobs : List Job)
  /-- To close the invoker. -/
  | quitting (pacing : Pacing) (result : Except Raised Unit)
  /-- To let go of the service. -/
  | releasing (result : Except Raised Unit)
  | finished (result : Except Raised Unit)

/-- A moment of a run. -/
structure Moment where
  progress : Progress
  stance : Stance
  /-- What the invoker's ticks came to, oldest first. -/
  ends : List TickEnd

namespace Moment

/-- The same moment with something else to do. -/
def stand (m : Moment) (stance : Stance) : Moment := { m with stance }

/-- The moment after a part of the work: the run goes on from a result, and a fault makes it stand
otherwise. -/
def attempt {α : Type} (m : Moment) (s : Stage α) (failed : Raised → Stance)
    (go : α → Moment → Moment) :
    Moment :=
  match s with
  | (.ok a, progress) => go a { m with progress }
  | (.error raised, progress) => { m with progress, stance := failed raised }

theorem attempt_stance {α : Type} {m : Moment} {s : Stage α} {raised : Raised}
    (fault : s.1 = .error raised)
    (failed : Raised → Stance) (go : α → Moment → Moment) :
    (m.attempt s failed go).stance = failed raised := by
  obtain ⟨result, p⟩ := s
  cases fault
  rfl

/-- The moment when a wait of a span begins, with no invoker. -/
def rest (m : Moment) (span : Nat) (after : Stance) : Moment :=
  ⟨{ m.progress with scene := (m.progress.scene.timer span).2 },
    .alone (m.progress.scene.timer span).1 after, m.ends⟩

/-- The moment when a wait begins, with no invoker. -/
def waitAlone (m : Moment) (seconds : Double) (after : Stance) : Moment :=
  let noted : Moment := { m with progress := m.progress.noteNap seconds }
  match Pause.of seconds with
  | .ok .passing => noted.stand after
  | .ok (.timed span) => noted.rest span after
  | .error fault => noted.stand (.releasing (.error (.plain fault)))

/-- The moment when the run lets the loop go on. -/
def settle (m : Moment) (pacing : Pacing) (stance : Stance) : Moment :=
  ⟨{ m.progress with scene := m.progress.scene.settle Cluster.service pacing }, stance,
    m.ends ++ (m.progress.scene.settleEnd pacing).toList⟩

/-- The moment when a wait of a span begins. -/
def sleep (m : Moment) (pacing : Pacing) (span : Nat) (jobs : List Job) : Moment :=
  ({ m with progress.scene := (m.progress.scene.timer span).2 }).settle pacing
    (.waiting pacing (m.progress.scene.timer span).1 (2 * span + 3) jobs)

/-- The moment when a wait of the script begins. -/
def wait (m : Moment) (pacing : Pacing) (seconds : Double) (jobs : List Job) : Moment :=
  let noted : Moment := { m with progress := m.progress.noteNap seconds }
  match Pause.of seconds with
  | .ok .passing => noted.settle pacing (.doing pacing jobs)
  | .ok (.timed span) => noted.sleep pacing span jobs
  | .error fault => noted.stand (.quitting pacing (.error (.plain fault)))

/-- The moment when a request begins, which may take time. -/
def delay (m : Moment) (pacing : Pacing) (span? : Option Nat) (jobs : List Job) : Moment :=
  match span? with
  | some span => m.sleep pacing span jobs
  | none => m.stand (.doing pacing jobs)

/-- The moment when a timer of the invoker has fired. -/
def fire (m : Moment) (pacing : Pacing) (t : Timer) (stance : Stance) : Moment :=
  ⟨{ m.progress with scene := m.progress.scene.fire Cluster.service pacing t }, stance,
    m.ends ++ (m.progress.scene.fireEnd pacing t).toList⟩

/-- The moment when the run's own timer has fired. -/
def arrive (m : Moment) (goal : Timer) (stance : Stance) : Moment :=
  { m with progress.scene.clock := m.progress.scene.clock.reach goal, stance }

end Moment

namespace Plan

variable (plan : Plan)

/-- The moment after a job, with other jobs to come. -/
def work (m : Moment) (pacing : Pacing) (jobs : List Job) (job : Job) : Moment :=
  let failed (raised : Raised) : Stance := .quitting pacing (.error raised)
  match job with
  | .stabilise =>
    m.attempt (m.progress.lift (plan.settings.seconds plan.settings.stability)) failed
      fun seconds m => m.wait pacing seconds jobs
  | .step (.wait kind seconds) =>
    ({ m with progress := m.progress.note (.waiting seconds kind) }).wait pacing seconds jobs
  | .step (.checkpoint label) =>
    m.attempt (m.progress.checkpoint label) failed fun _ m => m.stand (.doing pacing jobs)
  | .step (.stop id) =>
    m.attempt (m.progress.announceStop plan.settings plan.source id) failed fun grace m =>
      m.delay pacing m.progress.scene.service.trouble.stopDelay (.stop id grace :: jobs)
  | .step (.start id) =>
    m.attempt (m.progress.announceStart plan.source id) failed fun _ m =>
      m.delay pacing m.progress.scene.service.trouble.startDelay (.start id :: jobs)
  | .stop id grace => m.attempt (m.progress.askStop id grace) failed fun _ m =>
      m.stand (.doing pacing jobs)
  | .start id => m.attempt (m.progress.askStart id) failed fun _ m => m.stand (.doing pacing jobs)

/-- The jobs of a script. -/
def jobs (steps : List Step) : List Job :=
  .stabilise :: .step (.checkpoint Script.baseline) :: steps.map .step

/-- The moment after a moment, unless the run is over. -/
def next (m : Moment) : Option Moment :=
  match m.stance with
  | .checking =>
    some (m.attempt
      ((m.progress.note (.runStarted plan.implementation plan.settings.banner)).lift plan.script)
      (fun raised => .finished (.error raised)) fun steps m => m.stand (.acquiring steps))
  | .acquiring steps =>
    some (m.attempt (plan.acquire m.progress) (fun raised => .finished (.error raised)) fun _ m =>
      m.stand (.gathering steps))
  | .gathering steps =>
    some (m.attempt
      ((m.progress.note .waitingForClusters).lift (plan.settings.seconds plan.settings.formation))
      (fun raised => .releasing (.error raised)) fun seconds m =>
      m.waitAlone seconds (.ringing steps))
  | .alone goal after => some (m.arrive goal after)
  | .ringing steps =>
    match ring m.progress with
    | (some span, progress) => some (({ m with progress }).rest span (.hearing steps))
    | (none, progress) => some { m with progress, stance := .hearing steps }
  | .hearing steps =>
    some (m.attempt (hear m.progress) (fun raised => .releasing (.error raised)) fun _ m =>
      m.stand (.launching steps))
  | .launching steps =>
    some (m.attempt (plan.launch m.progress) (fun raised => .releasing (.error raised))
      fun pacing m =>
      m.stand (.doing pacing (jobs steps)))
  | .doing pacing [] => some (m.stand (.quitting pacing (.ok ())))
  | .doing pacing (job :: rest) => some (plan.work m pacing rest job)
  | .waiting pacing goal 0 rest => some (m.arrive goal (.doing pacing rest))
  | .waiting pacing goal (fuel + 1) rest =>
    match m.progress.scene.invoker.task.next? with
    | some t =>
      if t.Before goal then some (m.fire pacing t (.waiting pacing goal fuel rest))
      else some (m.arrive goal (.doing pacing rest))
    | none => some (m.arrive goal (.doing pacing rest))
  | .quitting pacing result =>
    some { m with
      progress := (quit pacing (result, m.progress)).2
      stance := .releasing (quit pacing (result, m.progress)).1 }
  | .releasing result => some { m with progress := release m.progress, stance := .finished result }
  | .finished _ => none

/-- One moment comes right after another. -/
def Next (a b : Moment) : Prop := plan.next a = some b

/-- One moment leads to another. -/
def Leads : Moment → Moment → Prop := ReflTransGen plan.Next

/-- The first moment of a run. -/
def opening (scene : Scene Cluster) : Moment := ⟨.fresh scene plan.source, .checking, []⟩

/-- The moments that a run comes to. -/
def Reached (scene : Scene Cluster) (m : Moment) : Prop := plan.Leads (plan.opening scene) m

/-- A moment leads to what a part of a run comes to, and the run then takes the stance for its
result. -/
def Brings {α : Type} (m : Moment) (s : Stage α) (stance : Except Raised α → Stance) : Prop :=
  ∃ ends, plan.Leads m ⟨s.2, stance s.1, ends⟩

/-- The stance after a part of the work with this result. -/
def after {α : Type} (failed : Raised → Stance) (done : α → Stance) : Except Raised α → Stance
  | .ok a => done a
  | .error raised => failed raised

/-- The stance after a job with this result. -/
abbrev afterJob (pacing : Pacing) (rest : List Job) : Except Raised Unit → Stance :=
  after (fun raised => .quitting pacing (.error raised)) fun _ => .doing pacing rest

/-- The stance after a part of the work with this result, while the service is held. -/
abbrev afterPart {α : Type} (done : α → Stance) : Except Raised α → Stance :=
  after (fun raised => .releasing (.error raised)) done

variable {plan}

section

variable {α β : Type} {m m' : Moment} {s : Stage α} {failed : Raised → Stance}
  {stance : Except Raised α → Stance}

/-- A move before a part of a run belongs to it. -/
theorem Brings.head (next : plan.next m = some m') (brings : plan.Brings m' s stance) :
    plan.Brings m s stance := by
  obtain ⟨ends, leads⟩ := brings
  exact ⟨ends, .head next leads⟩

theorem Brings.trans {p : Progress} {a : α} {t : Stage β} {last : Except Raised β → Stance}
    (first : plan.Brings m (.ok a, p) stance)
    (goes : ∀ ends, plan.Brings ⟨p, stance (.ok a), ends⟩ t last) : plan.Brings m t last := by
  obtain ⟨ends, leads⟩ := first
  obtain ⟨ends', leads'⟩ := goes ends
  exact ⟨ends', leads.trans leads'⟩

/-- Work that needs no time brings what it comes to. -/
theorem Brings.done {done : α → Stance} :
    plan.Brings (m.attempt s failed fun a m => m.stand (done a)) s (after failed done) := by
  obtain ⟨result, p⟩ := s
  cases result with
  | ok a => exact ⟨m.ends, .refl⟩
  | error raised => exact ⟨m.ends, .refl⟩

variable {f : α → Progress → Stage β} {last : Except Raised β → Stance}

/-- An attempt brings what goes on from its result brings, or the fault. -/
theorem Brings.attempt {go : α → Moment → Moment}
    (goes : ∀ a p, plan.Brings (go a { m with progress := p }) (f a p) last)
    (fails : ∀ raised, last (.error raised) = failed raised := by intro; rfl) :
    plan.Brings (m.attempt s failed go) (s.next f) last := by
  obtain ⟨result, p⟩ := s
  cases result with
  | ok a => exact goes a p
  | error raised =>
    refine ⟨m.ends, ?_⟩
    rw [Stage.next_error, fails raised]
    exact .refl

/-- A part of the work brings what goes on from its result brings, or the fault. -/
theorem Brings.next {done : α → Stance} (first : plan.Brings m s (after failed done))
    (goes : ∀ a p ends, plan.Brings ⟨p, done a, ends⟩ (f a p) last)
    (fails : ∀ raised, last (.error raised) = failed raised := by intro; rfl) :
    plan.Brings m (s.next f) last := by
  obtain ⟨result, p⟩ := s
  obtain ⟨ends, leads⟩ := first
  cases result with
  | ok a => exact .trans ⟨ends, leads⟩ fun ends' => goes a p ends'
  | error raised =>
    refine ⟨ends, ?_⟩
    rw [Stage.next_error, fails raised]
    exact leads

end

section

variable (plan) (pacing : Pacing) (rest : List Job)

/-- While a wait lasts, the loop advances. -/
theorem brings_advance (goal : Timer) (fuel : Nat) (p : Progress) (ends : List TickEnd) :
    plan.Brings ⟨p, .waiting pacing goal fuel rest, ends⟩
      (.ok (), { p with scene := p.scene.advance Cluster.service pacing goal fuel })
      (afterJob pacing rest) := by
  -- A unit of fuel is one timer of the invoker, and one moment.
  induction fuel generalizing p ends with
  | zero => exact .head rfl ⟨ends, .refl⟩
  | succ fuel ih =>
    unfold Scene.advance
    cases timer : p.scene.invoker.task.next? with
    | none =>
      have arrives : plan.next ⟨p, .waiting pacing goal (fuel + 1) rest, ends⟩
          = some ((⟨p, .waiting pacing goal (fuel + 1) rest, ends⟩ : Moment).arrive goal
              (.doing pacing rest)) := by
        simp [next, timer]
      exact .head arrives ⟨ends, .refl⟩
    | some t =>
      by_cases before : t.Before goal
      · have fires : plan.next ⟨p, .waiting pacing goal (fuel + 1) rest, ends⟩
            = some ((⟨p, .waiting pacing goal (fuel + 1) rest, ends⟩ : Moment).fire pacing t
                (.waiting pacing goal fuel rest)) := by
          simp [next, timer, before]
        simp only [before, if_true]
        exact .head fires (ih { p with scene := p.scene.fire Cluster.service pacing t } _)
      · have arrives : plan.next ⟨p, .waiting pacing goal (fuel + 1) rest, ends⟩
            = some ((⟨p, .waiting pacing goal (fuel + 1) rest, ends⟩ : Moment).arrive goal
                (.doing pacing rest)) := by
          simp [next, timer, before]
        simp only [before, if_false]
        exact .head arrives ⟨ends, .refl⟩

/-- A sleep brings a run to the next job. -/
theorem brings_sleep (m : Moment) (span : Nat) :
    plan.Brings (m.sleep pacing span rest) (.ok (), m.progress.sleep pacing span)
      (afterJob pacing rest) :=
  plan.brings_advance pacing rest _ _ _ _

/-- So does a delay of the service. -/
theorem brings_delay (m : Moment) (span? : Option Nat) :
    plan.Brings (m.delay pacing span? rest) (.ok (), m.progress.delay pacing span?)
      (afterJob pacing rest) := by
  cases span? with
  | none => exact ⟨m.ends, .refl⟩
  | some span => exact plan.brings_sleep pacing rest m span

/-- So does a wait that can be counted; any other one ends the work. -/
theorem brings_wait (m : Moment) (seconds : Double) :
    plan.Brings (m.wait pacing seconds rest) (m.progress.wait pacing seconds)
      (afterJob pacing rest) := by
  unfold Moment.wait Progress.wait
  cases Pause.of seconds with
  | error fault => exact ⟨m.ends, .refl⟩
  | ok pause =>
    cases pause with
    | passing => exact ⟨_, .refl⟩
    | timed span => exact plan.brings_sleep pacing rest _ span

/-- A step of the script brings what it comes to. -/
theorem brings_execute (p : Progress) (ends : List TickEnd) (step : Step) :
    plan.Brings ⟨p, .doing pacing (.step step :: rest), ends⟩
      (p.execute pacing plan.settings plan.source step) (afterJob pacing rest) := by
  cases step with
  | wait kind seconds =>
    exact .head rfl (plan.brings_wait pacing rest ⟨p.note (.waiting seconds kind), _, ends⟩ seconds)
  | checkpoint label => exact .head rfl .done
  | stop id =>
    -- Announced, then delayed, then asked for: a job each.
    refine .head rfl ?_
    simp only [work, Progress.execute, Progress.stop]
    refine .attempt fun grace p' => ?_
    refine .trans (plan.brings_delay pacing (.stop id grace :: rest) _ _) fun ends' => ?_
    exact .head rfl .done
  | start id =>
    refine .head rfl ?_
    simp only [work, Progress.execute, Progress.start]
    refine .attempt fun _ p' => ?_
    refine .trans (plan.brings_delay pacing (.start id :: rest) _ _) fun ends' => ?_
    exact .head rfl .done

/-- The steps of the script bring what they come to. -/
theorem brings_executeAll (steps : List Step) (p : Progress) (ends : List TickEnd) :
    plan.Brings ⟨p, .doing pacing (steps.map .step), ends⟩
      (p.executeAll pacing plan.settings plan.source steps) (.quitting pacing) := by
  induction steps generalizing p ends with
  | nil => exact .head rfl ⟨ends, .refl⟩
  | cons step steps ih =>
    exact .next (plan.brings_execute pacing (steps.map .step) p ends step)
      fun _ p' ends' => ih p' ends'

/-- The stability window brings what waiting for it comes to. -/
theorem brings_stabilise (p : Progress) (ends : List TickEnd) :
    plan.Brings ⟨p, .doing pacing (.stabilise :: rest), ends⟩
      ((p.lift (plan.settings.seconds plan.settings.stability)).next fun seconds p =>
        p.wait pacing seconds)
      (afterJob pacing rest) := by
  refine .head rfl ?_
  simp only [work]
  exact .attempt fun seconds p' => plan.brings_wait pacing rest _ seconds

/-- The jobs of a script bring what they come to. -/
theorem brings_exercise (steps : List Step) (p : Progress) (ends : List TickEnd) :
    plan.Brings ⟨p, .doing pacing (jobs steps), ends⟩ (plan.exercise pacing steps p)
      (.quitting pacing) := by
  refine .head rfl ?_
  simp only [work, exercise]
  refine .attempt fun seconds p' => ?_
  refine .next (plan.brings_wait pacing _ _ seconds) fun _ p' ends' => ?_
  exact .next (.head rfl .done) fun _ p' ends' =>
    plan.brings_executeAll pacing steps p' ends'

end

section

variable (plan) (steps : List Step)

/-- Without an invoker, a wait is one move of the clock. -/
theorem brings_waitAlone (m : Moment) (seconds : Double) (stance : Stance) :
    plan.Brings (m.waitAlone seconds stance) (m.progress.waitAlone seconds)
      (afterPart fun _ => stance) := by
  unfold Moment.waitAlone Progress.waitAlone
  cases Pause.of seconds with
  | error fault => exact ⟨m.ends, .refl⟩
  | ok pause =>
    cases pause with
    | passing => exact ⟨m.ends, .refl⟩
    | timed span => exact .head rfl ⟨m.ends, .refl⟩

/-- The first wait brings a run to its first call. -/
theorem brings_gather (p : Progress) (ends : List TickEnd) :
    plan.Brings ⟨p, .gathering steps, ends⟩ (plan.gather p) (afterPart fun _ => .ringing steps) :=
  .head rfl (.attempt fun seconds p' => plan.brings_waitAlone _ seconds (.ringing steps))

/-- The first call brings it to the start of the invoker. -/
theorem brings_warmUp (p : Progress) (ends : List TickEnd) :
    plan.Brings ⟨p, .ringing steps, ends⟩ (warmUp p) (afterPart fun _ => .launching steps) := by
  unfold warmUp
  cases rung : ring p with
  | mk span? p' =>
    cases span? with
    | none =>
      have heard : plan.next ⟨p, .ringing steps, ends⟩ = some ⟨p', .hearing steps, ends⟩ := by
        simp [next, rung]
      exact .head heard (.head rfl .done)
    | some span =>
      have waits : plan.next ⟨p, .ringing steps, ends⟩
          = some ((⟨p', .ringing steps, ends⟩ : Moment).rest span (.hearing steps)) := by
        simp [next, rung]
      exact .head waits (.head rfl (.head rfl .done))

/-- And that brings it to the first job. -/
theorem brings_launch (p : Progress) (ends : List TickEnd) :
    plan.Brings ⟨p, .launching steps, ends⟩ (plan.launch p)
      (afterPart fun pacing => .doing pacing (jobs steps)) :=
  .head rfl .done

/-- Whatever the jobs came to, the invoker is stopped and the service is let go of. -/
theorem brings_quit (pacing : Pacing) {m : Moment} {s : Stage Unit}
    (brings : plan.Brings m s (.quitting pacing)) : plan.Brings m (quit pacing s) .releasing := by
  obtain ⟨result, p⟩ := s
  obtain ⟨ends, leads⟩ := brings
  exact ⟨ends, leads.tail rfl⟩

/-- What happens while the service is held brings what it comes to. -/
theorem brings_drill (p : Progress) (ends : List TickEnd) :
    plan.Brings ⟨p, .gathering steps, ends⟩ (plan.drill steps p) .releasing := by
  unfold drill
  refine .next (plan.brings_gather steps p ends) fun _ p' ends' => ?_
  refine .next (plan.brings_warmUp steps p' ends') fun _ p' ends' => ?_
  refine .next (plan.brings_launch steps p' ends') fun pacing p' ends' => ?_
  exact plan.brings_quit pacing (plan.brings_exercise pacing steps p' ends')

/-- A run brings what it comes to. -/
theorem brings_perform (scene : Scene Cluster) :
    plan.Brings (plan.opening scene) (plan.perform (.fresh scene plan.source)) .finished := by
  unfold perform
  refine .next (.head rfl .done) fun steps p ends => ?_
  refine .next (.head rfl .done) fun _ p' ends' => ?_
  have drilled := plan.brings_drill steps p' ends'
  generalize plan.drill steps p' = stage at drilled ⊢
  obtain ⟨result, p''⟩ := stage
  obtain ⟨ends'', leads⟩ := drilled
  exact ⟨ends'', leads.tail rfl⟩

end

section

variable {m m' : Moment} {pacing : Pacing} {goal : Timer} {fuel : Nat} {jobs : List Job}

/-- A wait is over, or a timer of the loop fires before. It is over with timers left only if it has
no fuel. -/
theorem next_waiting (stance : m.stance = .waiting pacing goal fuel jobs) (next : plan.Next m m') :
    (m' = m.arrive goal (.doing pacing jobs) ∧
      (fuel = 0 ∨ ∀ t, m.progress.scene.invoker.task.next? = some t → ¬ t.Before goal)) ∨
    ∃ t left, fuel = left + 1 ∧ m.progress.scene.invoker.task.next? = some t ∧ t.Before goal ∧
      m' = m.fire pacing t (.waiting pacing goal left jobs) := by
  unfold Next Plan.next at next
  rw [stance] at next
  cases fuel with
  | zero =>
    cases next
    exact .inl ⟨rfl, .inl rfl⟩
  | succ fuel =>
    dsimp only at next
    split at next
    next t timer =>
      split at next
      next before =>
        cases next
        exact .inr ⟨t, fuel, rfl, timer, before, rfl⟩
      next late =>
        cases next
        refine .inl ⟨rfl, .inr fun t' timer' => ?_⟩
        rw [timer] at timer'
        cases timer'
        exact late
    next none =>
      cases next
      refine .inl ⟨rfl, .inr fun t timer => ?_⟩
      rw [none] at timer
      cases timer

end

section

variable {scene : Scene Cluster} {m m' : Moment}

/-- Of two moments of a run, one leads to the other. -/
theorem Reached.leads_or_leads (reached : plan.Reached scene m) (reached' : plan.Reached scene m') :
    plan.Leads m m' ∨ plan.Leads m' m := by
  -- There is one next moment at most, so the moments of a run are in a row.
  refine ReflTransGen.total_of_right_unique (fun a b c ab ac => ?_) reached reached'
  exact Option.some.inj (ab.symm.trans ac)

/-- Nothing comes after the end of a run. -/
theorem Leads.eq_of_finished {result : Except Raised Unit} (finished : m.stance = .finished result)
    (leads : plan.Leads m m') : m' = m := by
  rcases leads.cases_head with same | ⟨b, next, _⟩
  · exact same.symm
  · unfold Next Plan.next at next
    rw [finished] at next
    cases next

/-- Every moment of a run leads to its end. -/
theorem Reached.leads_finished {result : Except Raised Unit} (reached : plan.Reached scene m)
    (last : plan.Reached scene m') (finished : m'.stance = .finished result) : plan.Leads m m' := by
  rcases reached.leads_or_leads last with leads | leads
  · exact leads
  · rw [Leads.eq_of_finished finished leads]
    exact .refl

/-- A run has one end. -/
theorem Reached.finished_unique {result result' : Except Raised Unit}
    (reached : plan.Reached scene m)
    (finished : m.stance = .finished result) (reached' : plan.Reached scene m')
    (finished' : m'.stance = .finished result') : m' = m :=
  Leads.eq_of_finished finished (reached.leads_finished reached' finished')

variable (plan scene)

/-- The moments of a run lead to what it comes to. -/
theorem leads_conduct :
    ∃ m, plan.Reached scene m ∧
      ((∃ raised, m.stance = .finished (.error raised) ∧
        plan.conduct scene = (.error raised, m.progress)) ∨
        (m.stance = .finished (.ok ()) ∧
          plan.conduct scene = (.ok (plan.report m.progress),
            m.progress.note (.runPassed plan.runId m.progress.scene.monitor.invocations
              m.progress.scene.monitor.resyncs)))) := by
  obtain ⟨ends, reached⟩ := plan.brings_perform scene
  refine ⟨_, reached, ?_⟩
  unfold conduct
  generalize plan.perform (.fresh scene plan.source) = stage
  obtain ⟨result, p⟩ := stage
  cases result with
  | error raised => exact .inl ⟨raised, rfl, rfl⟩
  | ok _ => exact .inr ⟨rfl, rfl⟩

end

section

variable {scene : Scene Cluster} {c m m' : Moment}

/-- A run never comes back to a moment. -/
theorem Reached.leads_antisymm (reached : plan.Reached scene m) (there : plan.Leads m m')
    (back : plan.Leads m' m) : m' = m := by
  by_cases apart : m' = m
  · exact apart
  -- A run that came back would come back from wherever it goes, and it goes to its end.
  have returns {x : Moment} (leads : plan.Leads m x) : plan.Leads x m := by
    induction leads with
    | refl => exact .refl
    | @tail b c leads next ih =>
      have onward {y : Moment} (next' : plan.Next b y) (leads' : plan.Leads y m) :
        plan.Leads c m := by
        rw [Option.some.inj (next.symm.trans next')]
        exact leads'
      rcases ih.cases_head with rfl | ⟨y, next', leads'⟩
      · rcases there.cases_head with same | ⟨y, next', leads'⟩
        · exact absurd same.symm apart
        · exact onward next' (leads'.trans back)
      · exact onward next' leads'
  obtain ⟨last, reached', ends⟩ := plan.leads_conduct scene
  obtain ⟨result, finished⟩ : ∃ result, last.stance = .finished result := by
    rcases ends with ⟨raised, stance, _⟩ | ⟨stance, _⟩
    · exact ⟨_, stance⟩
    · exact ⟨_, stance⟩
  have same : m = last :=
    Leads.eq_of_finished finished (returns (reached.leads_finished reached' finished))
  subst same
  exact Leads.eq_of_finished finished there

/-- What leads to the next moment leads to the one before it, or is the next moment. -/
theorem Reached.leads_of_next (reached : plan.Reached scene c) (reached' : plan.Reached scene m)
    (next : plan.Next m m') (leads : plan.Leads c m') : c = m' ∨ plan.Leads c m := by
  rcases reached.leads_or_leads reached' with before | after
  · exact .inr before
  rcases after.cases_head with rfl | ⟨y, next', leads'⟩
  · exact .inr .refl
  · have same : m' = y := Option.some.inj (next.symm.trans next')
    subst same
    exact .inl (Reached.leads_antisymm (reached'.tail next) leads' leads)

end

/-- A run without a script leaves the cluster as it was. -/
theorem conduct_of_script_error {fault : Fault} (script : plan.script = .error fault)
    (scene : Scene Cluster) : (plan.conduct scene).2.scene.service = scene.service := by
  unfold conduct perform
  rw [script]
  rfl

section

variable (plan : Plan)

/-- The moment that many moments later, or the last one before it. -/
def later : Nat → Moment → Moment
  | 0, m => m
  | n + 1, m =>
    match plan.next m with
    | some m' => later n m'
    | none => m

/-- Some number of moves later is where a moment leads to. -/
theorem leads_later (n : Nat) (m : Moment) : plan.Leads m (plan.later n m) := by
  induction n generalizing m with
  | zero => exact .refl
  | succ n ih =>
    unfold later
    split
    next m' next => exact .head next (ih m')
    next => exact .refl

theorem next_later {n : Nat} {m : Moment} (more : (plan.next (plan.later n m)).isSome = true) :
    plan.Next (plan.later n m) (plan.later (n + 1) m) := by
  induction n generalizing m with
  | zero =>
    obtain ⟨m', next⟩ := Option.isSome_iff_exists.mp more
    have next' : plan.next m = some m' := next
    show plan.next m = some (plan.later 1 m)
    simp only [later, next']
  | succ n ih =>
    have later_succ (n : Nat) : plan.later (n + 1) m = match plan.next m with
        | some m' => plan.later n m'
        | none => m := rfl
    rw [later_succ n, later_succ (n + 1)]
    rw [later_succ n] at more
    cases next : plan.next m with
    | none =>
      rw [next] at more
      simp only [next] at more
      cases more
    | some m' =>
      rw [next] at more
      exact ih more

end

/-- A plan with short waits for two by two nodes. -/
def brisk : Plan where
  settings := { Settings.default with
    stability := ⟨1, by decide⟩
    outage := ⟨1, by decide⟩
    period := ⟨1, by decide⟩
    formation := ⟨1, by decide⟩
    grace := ⟨1, by decide⟩
    factor := ⟨.ofInt 10, by decide +kernel⟩ }
  implementation := "Impl"
  source := .twoByTwo
  runId := "run"

end Plan

/-- A cluster of two by two nodes for which no fault and no delay was ordered. -/
def calm : Cluster where
  topology := .twoByTwo
  serial := 0
  calls := 0
  trouble := ⟨[], [], none, [], [], [], [], none, none, [], [], none, none⟩
  handles := []
  requests := []
  gracePeriods := []
  mostStopped := 0

end Drill.Run
