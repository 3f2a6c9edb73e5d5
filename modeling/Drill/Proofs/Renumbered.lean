import Drill.Proofs.Course
import Drill.Proofs.Unnumbered

/-!
# Runs on renumbered clusters

Where a cluster begins to count and how far its counter jumps is no matter to a run. The values go
to the monitor, which follows them, and a value that it did not expect is no failure; nobody waits
for a value or ends because of one. So two runs of a plan on clusters that differ in their numbers
only are alike at every moment: `Moment.unnumbered` is a moment without these numbers, and
`Moment.Alike` says that two are the same without them.

Main statements: `next_alike`, moments that are alike lead to moments that are, and
`renumbered_conduct`, the two runs go side by side and come to the same end.
-/

namespace Drill.Run

open Number (Double)
open Relation (ReflTransGen)

/-- The progress without the numbers that nobody acts on. -/
def Progress.unnumbered (p : Progress) : Progress := { p with scene := p.scene.unnumbered }

/-- Two runs have come equally far. -/
def Progress.Alike (p q : Progress) : Prop := q.unnumbered = p.unnumbered

/-- Two parts of a run come to the same. -/
def Stage.Alike {α : Type} (s t : Stage α) : Prop := t.1 = s.1 ∧ s.2.Alike t.2

/-- Parts that keep runs alike may follow one another. -/
theorem Stage.Alike.next {α β : Type} {s t : Stage α} {f g : α → Progress → Stage β}
    (stages : s.Alike t)
    (goes : ∀ a p q, p.Alike q → (f a p).Alike (g a q)) : (s.next f).Alike (t.next g) := by
  obtain ⟨result, p⟩ := s
  obtain ⟨result', q⟩ := t
  obtain ⟨results, alike⟩ := stages
  cases results
  cases result with
  | ok a => exact goes a p q alike
  | error raised => exact ⟨rfl, alike⟩

namespace Progress.Alike

variable {p q : Progress} {pacing : Pacing}

theorem congr {α : Type} (f : Progress → α) (alike : p.Alike q) : f q.unnumbered = f p.unnumbered :=
  congrArg f alike

/-- The scenes of runs that are alike are alike. -/
theorem scene (alike : p.Alike q) : p.scene.Alike q.scene := alike.congr Progress.scene

/-- They may go on to other scenes that are alike. -/
theorem withScene (alike : p.Alike q) {s s' : Scene Cluster} (scenes : s.Alike s') :
    ({ p with scene := s } : Progress).Alike { q with scene := s' } := by
  have same : s'.unnumbered = s.unnumbered := scenes
  have live : q.live = p.live := alike.congr Progress.live
  have naps : q.naps = p.naps := alike.congr Progress.naps
  have checkpoints : q.checkpoints = p.checkpoints := alike.congr Progress.checkpoints
  have toggled : q.toggled = p.toggled := alike.congr Progress.toggled
  unfold Alike unnumbered
  rw [same, live, naps, checkpoints, toggled]

/-- What is logged is no matter. -/
theorem note (alike : p.Alike q) (e e' : Log.Event) : (p.note e).Alike (q.note e') := alike

/-- What comes to the same without the numbers leaves runs alike. -/
theorem through {f : Progress → Progress}
    (forgets : ∀ p, (f p).unnumbered = (f p.unnumbered).unnumbered)
    (alike : p.Alike q) : (f p).Alike (f q) := by
  have same : q.unnumbered = p.unnumbered := alike
  unfold Alike
  rw [forgets q, same, ← forgets p]

theorem noteNap (alike : p.Alike q) (seconds : Double) :
    (p.noteNap seconds).Alike (q.noteNap seconds) :=
  alike.through (f := fun p => p.noteNap seconds) fun _ => rfl

/-- A fault that ends a part ends it in both runs. -/
theorem lift {α : Type} (alike : p.Alike q) (value : Except Fault α) :
    (p.lift value).Alike (q.lift value) :=
  ⟨rfl, alike⟩

/-- The monitor's verdict is the same, whatever value it expects. -/
theorem checkpoint (alike : p.Alike q) (label : String) :
    (p.checkpoint label).Alike (q.checkpoint label) := by
  have first : q.scene.monitor.firstFailure = p.scene.monitor.firstFailure :=
    alike.congr fun p => p.scene.monitor.firstFailure
  have invocations : q.scene.monitor.invocations = p.scene.monitor.invocations :=
    alike.congr fun p => p.scene.monitor.invocations
  unfold Progress.checkpoint Scene.checkpoint Monitor.checkpoint
  rw [first, invocations]
  cases p.scene.monitor.firstFailure with
  | some fault => exact ⟨rfl, alike⟩
  | none =>
    exact ⟨rfl,
      alike.through (f := fun p => { p with checkpoints := p.checkpoints ++ [label] }) fun _ => rfl⟩

/-- A request leaves runs alike if it does not see the numbers of the cluster. -/
theorem onCluster (alike : p.Alike q) {f : Cluster → Except Fault Unit × Cluster}
    (blind : ∀ c, f c.unnumbered = ((f c).1, (f c).2.unnumbered)) :
    ∃ result p' q', p.onCluster f = (result, p') ∧ q.onCluster f = (result, q') ∧ p'.Alike q' := by
  have same : ((f q.scene.service).1, (f q.scene.service).2.unnumbered)
      = ((f p.scene.service).1, (f p.scene.service).2.unnumbered) := by
    rw [← blind, alike.scene.service, blind]
  obtain ⟨results, clusters⟩ := Prod.mk.inj same
  have asked := alike.withScene (alike.scene.withService clusters)
  exact ⟨_, _, _, rfl, Prod.ext results rfl, asked⟩

/-- What is announced is read off the settings and the source, in which the runs agree. -/
theorem announceStop (alike : p.Alike q) (settings : Settings) (source : Topology) (id : String) :
    (p.announceStop settings source id).Alike (q.announceStop settings source id) := by
  refine (alike.lift _).next fun _ _ _ alike => ?_
  refine (alike.lift _).next fun seconds _ _ alike => ?_
  exact (alike.lift _).next fun grace _ _ alike => ⟨rfl, alike.note _ _⟩

theorem announceStart (alike : p.Alike q) (source : Topology) (id : String) :
    (p.announceStart source id).Alike (q.announceStart source id) :=
  (alike.lift _).next fun _ _ _ alike => ⟨rfl, alike.note _ _⟩

/-- A stop is refused or honored in both runs. -/
theorem askStop (alike : p.Alike q) (id : String) (grace : Int) :
    (p.askStop id grace).Alike (q.askStop id grace) := by
  obtain ⟨result, p', q', here, there, asked⟩ :=
    alike.onCluster (f := fun c => c.stop id grace) fun c => c.stop_unnumbered id grace
  unfold Progress.askStop
  rw [here, there]
  cases result with
  | error fault => exact ⟨rfl, asked⟩
  | ok _ =>
    refine ⟨rfl, asked.through (f := fun p => { p with
      live := p.live.mark id .stopped, toggled := p.toggled ++ [id] }) fun _ => rfl⟩

/-- So is a start. -/
theorem askStart (alike : p.Alike q) (id : String) : (p.askStart id).Alike (q.askStart id) := by
  obtain ⟨result, p', q', here, there, asked⟩ :=
    alike.onCluster (f := fun c => c.start id) fun c => c.start_unnumbered id
  unfold Progress.askStart
  rw [here, there]
  cases result with
  | error fault => exact ⟨rfl, asked⟩
  | ok _ =>
    exact ⟨rfl,
      asked.through (f := fun p => { p with live := p.live.mark id .running }) fun _ => rfl⟩

end Progress.Alike

namespace Plan

variable (plan : Plan) {p q : Progress}

/-- Both runs get the service, or neither does, and for the same reason. -/
theorem acquire_alike (alike : p.Alike q) : (plan.acquire p).Alike (plan.acquire q) := by
  obtain ⟨result, p', q', here, there, asked⟩ :=
    alike.onCluster (f := fun c => c.acquire plan.implementation) fun c =>
      c.acquire_unnumbered plan.implementation
  unfold acquire
  rw [here, there]
  cases result with
  | ok _ => exact ⟨rfl, asked⟩
  | error fault => cases fault <;> exact ⟨rfl, asked⟩

/-- To let go of the cluster keeps the runs alike. -/
theorem release_alike (alike : p.Alike q) : (release p).Alike (release q) := by
  obtain ⟨result, p', q', here, there, asked⟩ :=
    alike.onCluster (f := fun c => c.release) fun c => c.release_unnumbered
  unfold release
  rw [here, there]
  cases result with
  | ok _ => exact asked
  | error fault => exact asked.note _ _

/-- The first call waits equally long in both runs. -/
theorem ring_alike (alike : p.Alike q) :
    ∃ span? p' q', ring p = (span?, p') ∧ ring q = (span?, q') ∧ p'.Alike q' := by
  obtain ⟨openings, clusters⟩ := Cluster.enter_of_unnumbered alike.scene.service
  have entered := alike.withScene (alike.scene.withService clusters)
  unfold ring
  dsimp only
  rw [openings]
  cases (Cluster.service.enter p.scene.service).1.wait <;> exact ⟨_, _, _, rfl, rfl, entered⟩

/-- The first call sets what the monitor expects, and that is one of the numbers. -/
theorem hear_alike (alike : p.Alike q) : (hear p).Alike (hear q) := by
  obtain ⟨answers, clusters⟩ := Cluster.finish_of_unnumbered alike.scene.service
  have heard := alike.withScene (alike.scene.withService clusters)
  unfold hear
  generalize Cluster.service.finish p.scene.service = here at answers heard ⊢
  generalize Cluster.service.finish q.scene.service = there at answers heard ⊢
  obtain ⟨a, c⟩ := here
  obtain ⟨a', c'⟩ := there
  rcases Answer.cases_of_unnumbered answers with ⟨v, v', rfl, rfl⟩ | same
  · exact ⟨rfl, heard.withScene (heard.scene.seed v v')⟩
  · cases same
    cases a with
    | cancelled => exact ⟨rfl, heard⟩
    | fault fault => exact ⟨rfl, heard.note _ _⟩
    | value v? =>
      cases v? with
      | none => exact ⟨rfl, heard⟩
      | some v => exact ⟨rfl, heard.withScene (heard.scene.seed v v)⟩

/-- The invokers are started at the same pace, or the pace cannot be counted in either run. -/
theorem launch_alike (alike : p.Alike q) : (plan.launch p).Alike (plan.launch q) := by
  refine (alike.lift _).next fun pacing p q alike => ?_
  unfold Scene.start
  rw [alike.scene.invoker]
  by_cases idle : p.scene.invoker.phase = .idle
  · simp only [if_pos idle]
    exact ⟨rfl, alike.withScene ((alike.scene.withInvoker _).note _ _)⟩
  · simp only [if_neg idle]
    exact ⟨rfl, alike⟩

/-- The invokers are stopped side by side, whatever the steps came to. -/
theorem quit_alike (pacing : Pacing) (result : Except Raised Unit) (alike : p.Alike q) :
    (quit pacing (result, p)).Alike (quit pacing (result, q)) := by
  obtain ⟨ending, s, s', here, there, closed⟩ := alike.scene.close pacing
  unfold quit
  dsimp only
  rw [here, there]
  cases ending with
  | ok _ => exact ⟨rfl, alike.withScene closed⟩
  | error fault => exact ⟨rfl, alike.withScene closed⟩

end Plan

/-- The moment without the numbers that nobody acts on. -/
def Moment.unnumbered (m : Moment) : Moment :=
  { m with progress := m.progress.unnumbered, ends := m.ends.map TickEnd.unnumbered }

/-- Two moments of two runs are the same but for their numbers. -/
def Moment.Alike (m m' : Moment) : Prop := m'.unnumbered = m.unnumbered

namespace Moment.Alike

variable {m m' : Moment} {pacing : Pacing}

/-- What is made of a moment without its numbers is the same for both. -/
theorem congr {α : Type} (f : Moment → α) (alike : m.Alike m') : f m'.unnumbered = f m.unnumbered :=
  congrArg f alike

theorem progress (alike : m.Alike m') : m.progress.Alike m'.progress := alike.congr Moment.progress

/-- Both moments are at the same point of the run. -/
theorem stance (alike : m.Alike m') : m'.stance = m.stance := alike.congr Moment.stance

theorem ends (alike : m.Alike m') :
    m'.ends.map TickEnd.unnumbered = m.ends.map TickEnd.unnumbered :=
  alike.congr Moment.ends

/-- Moments are alike if they are at the same point and their parts are alike. -/
theorem of_parts {p q : Progress} (progress : p.Alike q) (stance : Stance)
    {ends ends' : List TickEnd}
    (same : ends'.map TickEnd.unnumbered = ends.map TickEnd.unnumbered) :
    (⟨p, stance, ends⟩ : Moment).Alike ⟨q, stance, ends'⟩ := by
  have progress : q.unnumbered = p.unnumbered := progress
  unfold Alike unnumbered
  rw [progress, same]

/-- Runs that are alike may take the place of the ones at hand. -/
theorem withProgress (alike : m.Alike m') {p q : Progress} (progress : p.Alike q) :
    ({ m with progress := p } : Moment).Alike { m' with progress := q } := by
  rw [alike.stance]
  exact of_parts progress _ alike.ends

theorem stand (alike : m.Alike m') (stance : Stance) : (m.stand stance).Alike (m'.stand stance) :=
  of_parts alike.progress stance alike.ends

/-- A part of a run ends in a fault for both moments or for neither, and the rest goes on from alike
moments. -/
theorem attempt {α : Type} (alike : m.Alike m') {s t : Stage α} (stages : s.Alike t)
    (failed : Raised → Stance)
    {go go' : α → Moment → Moment} (goes : ∀ a n n', n.Alike n' → (go a n).Alike (go' a n')) :
    (m.attempt s failed go).Alike (m'.attempt t failed go') := by
  obtain ⟨result, p⟩ := s
  obtain ⟨result', q⟩ := t
  obtain ⟨results, progress⟩ := stages
  cases results
  cases result with
  | ok a => exact goes a _ _ (alike.withProgress progress)
  | error raised => exact of_parts progress _ alike.ends

/-- Both moments may be followed by a rest of the same length. -/
theorem rest (alike : m.Alike m') (span : Nat) (after : Stance) :
    (m.rest span after).Alike (m'.rest span after) := by
  obtain ⟨timers, armed⟩ := alike.progress.scene.timer span
  unfold Moment.rest
  rw [timers]
  exact of_parts (alike.progress.withScene armed) _ alike.ends

theorem waitAlone (alike : m.Alike m') (seconds : Double) (after : Stance) :
    (m.waitAlone seconds after).Alike (m'.waitAlone seconds after) := by
  have noted := alike.withProgress (alike.progress.noteNap seconds)
  unfold Moment.waitAlone
  cases Pause.of seconds with
  | error fault => exact noted.stand _
  | ok pause =>
    cases pause with
    | passing => exact noted.stand _
    | timed span => exact noted.rest span after

/-- What the loop's ticks come to is the same, whatever value they come to. -/
theorem append {e e' : Option TickEnd} {ends ends' : List TickEnd}
    (same : ends'.map TickEnd.unnumbered = ends.map TickEnd.unnumbered)
    (last : e'.map TickEnd.unnumbered = e.map TickEnd.unnumbered) :
    (ends' ++ e'.toList).map TickEnd.unnumbered = (ends ++ e.toList).map TickEnd.unnumbered := by
  rw [List.map_append, List.map_append, same, ← Option.toList_map, ← Option.toList_map, last]

/-- The loops go on side by side, and what ends a tick in one ends it in the other. -/
theorem settle (alike : m.Alike m') (stance : Stance) :
    (m.settle pacing stance).Alike (m'.settle pacing stance) :=
  of_parts (alike.progress.withScene (alike.progress.scene.settle pacing)) stance
    (append alike.ends alike.progress.scene.settleEnd)

theorem sleep (alike : m.Alike m') (span : Nat) (jobs : List Job) :
    (m.sleep pacing span jobs).Alike (m'.sleep pacing span jobs) := by
  obtain ⟨timers, armed⟩ := alike.progress.scene.timer span
  unfold Moment.sleep
  rw [timers]
  exact (alike.withProgress (alike.progress.withScene armed)).settle _

/-- A wait can be counted at both moments or at neither. -/
theorem wait (alike : m.Alike m') (seconds : Double) (jobs : List Job) :
    (m.wait pacing seconds jobs).Alike (m'.wait pacing seconds jobs) := by
  have noted := alike.withProgress (alike.progress.noteNap seconds)
  unfold Moment.wait
  cases Pause.of seconds with
  | error fault => exact noted.stand _
  | ok pause =>
    cases pause with
    | passing => exact noted.settle _
    | timed span => exact noted.sleep span jobs

/-- A delay of the service takes the same time in both runs. -/
theorem delay (alike : m.Alike m') (span? : Option Nat) (jobs : List Job) :
    (m.delay pacing span? jobs).Alike (m'.delay pacing span? jobs) := by
  cases span? with
  | none => exact alike.stand _
  | some span => exact alike.sleep span jobs

/-- The timers that are due fire side by side. -/
theorem fire (alike : m.Alike m') (t : Timer) (stance : Stance) :
    (m.fire pacing t stance).Alike (m'.fire pacing t stance) :=
  of_parts (alike.progress.withScene (alike.progress.scene.fire t)) stance
    (append alike.ends (alike.progress.scene.fireEnd t))

/-- The goal of a wait is reached at the same time. -/
theorem arrive (alike : m.Alike m') (goal : Timer) (stance : Stance) :
    (m.arrive goal stance).Alike (m'.arrive goal stance) :=
  of_parts (alike.progress.withScene (alike.progress.scene.reach goal)) stance alike.ends

end Moment.Alike

namespace Plan

variable (plan : Plan) {m m' : Moment}

/-- Whatever job comes next, it is done in both runs with results that are alike. -/
theorem work_alike (alike : m.Alike m') (pacing : Pacing) (jobs : List Job) (job : Job) :
    (plan.work m pacing jobs job).Alike (plan.work m' pacing jobs job) := by
  cases job with
  | stabilise =>
    exact alike.attempt (alike.progress.lift _) _ fun seconds _ _ alike => alike.wait seconds jobs
  | stop id grace =>
    exact alike.attempt (alike.progress.askStop id grace) _ fun _ _ _ alike => alike.stand _
  | start id => exact alike.attempt (alike.progress.askStart id) _ fun _ _ _ alike => alike.stand _
  | step step =>
    cases step with
    | wait kind seconds => exact (alike.withProgress (alike.progress.note _ _)).wait seconds jobs
    | checkpoint label =>
      exact alike.attempt (alike.progress.checkpoint label) _ fun _ _ _ alike => alike.stand _
    | stop id =>
      refine alike.attempt (alike.progress.announceStop _ _ id) _ fun grace n n' alike => ?_
      have delays :
        n'.progress.scene.service.trouble.stopDelay = n.progress.scene.service.trouble.stopDelay :=
        alike.congr fun m => m.progress.scene.service.trouble.stopDelay
      rw [delays]
      exact alike.delay _ _
    | start id =>
      refine alike.attempt (alike.progress.announceStart _ id) _ fun _ n n' alike => ?_
      have delays : n'.progress.scene.service.trouble.startDelay =
        n.progress.scene.service.trouble.startDelay :=
        alike.congr fun m => m.progress.scene.service.trouble.startDelay
      rw [delays]
      exact alike.delay _ _

/-- Moments that are alike lead to moments that are alike. -/
theorem next_alike (alike : m.Alike m') :
    (plan.next m').map Moment.unnumbered = (plan.next m).map Moment.unnumbered := by
  -- The moments stand alike, so the same is done next.
  have onward {n n' : Moment} (alike : n.Alike n') :
    (some n').map Moment.unnumbered = (some n).map Moment.unnumbered :=
    congrArg some alike
  unfold next
  rw [alike.stance]
  cases m.stance with
  | finished result => rfl
  | checking =>
    exact onward (alike.attempt ((alike.progress.note _ _).lift _) _ fun _ _ _ alike =>
      alike.stand _)
  | acquiring steps =>
    exact onward (alike.attempt (plan.acquire_alike alike.progress) _ fun _ _ _ alike =>
      alike.stand _)
  | gathering steps =>
    exact onward (alike.attempt ((alike.progress.note _ _).lift _) _ fun seconds _ _ alike =>
      alike.waitAlone seconds _)
  | alone goal after => exact onward (alike.arrive goal after)
  | ringing steps =>
    obtain ⟨span?, p, q, here, there, rung⟩ := ring_alike alike.progress
    dsimp only
    rw [here, there]
    cases span? with
    | some span => exact onward ((alike.withProgress rung).rest span _)
    | none => exact onward (Moment.Alike.of_parts rung _ alike.ends)
  | hearing steps =>
      exact onward (alike.attempt (hear_alike alike.progress) _ fun _ _ _ alike => alike.stand _)
  | launching steps =>
    exact onward (alike.attempt (plan.launch_alike alike.progress) _ fun _ _ _ alike =>
      alike.stand _)
  | doing pacing jobs =>
    cases jobs with
    | nil => exact onward (alike.stand _)
    | cons job rest => exact onward (plan.work_alike alike pacing rest job)
  | waiting pacing goal fuel jobs =>
    cases fuel with
    | zero => exact onward (alike.arrive goal _)
    | succ fuel =>
      have tasks : m'.progress.scene.invoker.task = m.progress.scene.invoker.task :=
        alike.congr fun m => m.progress.scene.invoker.task
      dsimp only
      rw [tasks]
      cases m.progress.scene.invoker.task.next? with
      | none => exact onward (alike.arrive goal _)
      | some t =>
        dsimp only
        split
        next => exact onward (alike.fire t _)
        next => exact onward (alike.arrive goal _)
  | quitting pacing result =>
    obtain ⟨results, quits⟩ := quit_alike pacing result alike.progress
    dsimp only
    rw [results]
    exact onward (Moment.Alike.of_parts quits _ alike.ends)
  | releasing result =>
      exact onward (Moment.Alike.of_parts (release_alike alike.progress) _ alike.ends)

/-- Runs that are alike stay alike. -/
theorem later_alike (n : Nat) (alike : m.Alike m') : (plan.later n m).Alike (plan.later n m') := by
  induction n generalizing m m' with
  | zero => exact alike
  | succ n ih =>
    have onward := plan.next_alike alike
    unfold later
    cases here : plan.next m with
    | none =>
      rw [here] at onward
      rw [Option.map_eq_none_iff.mp onward]
      exact alike
    | some a =>
      rw [here] at onward
      obtain ⟨b, there, unnumbered⟩ := Option.map_eq_some_iff.mp onward
      rw [there]
      exact ih unnumbered

variable {plan} in

/-- A moment that a moment leads to is some number of moves later. -/
theorem Leads.later (leads : plan.Leads m m') : ∃ n, plan.later n m = m' := by
  induction leads using ReflTransGen.head_induction_on with
  | refl => exact ⟨0, rfl⟩
  | head next _ ih =>
    obtain ⟨n, later⟩ := ih
    have next : plan.next _ = some _ := next
    refine ⟨n + 1, ?_⟩
    simp only [Plan.later, next]
    exact later

end Plan

/-- Runs that are alike report the same but for the values that nobody expected. -/
theorem Progress.Alike.report {p q : Progress} (alike : p.Alike q) (plan : Plan) :
    plan.report q = { plan.report p with resyncs := q.scene.monitor.resyncs } :=
  alike.congr fun progress => { plan.report progress with resyncs := q.scene.monitor.resyncs }

/-- Two runs have come equally far, on clusters that differ in their numbers. -/
def Progress.Renumbered (p q : Progress) : Prop :=
  ∃ scene, p.scene.Renumbered scene ∧ q = { p with scene }

/-- Two runs are equally far and about to do the same, and their ticks came to the same except for
values. -/
structure Moment.Renumbered (m m' : Moment) : Prop where
  progress : m.progress.Renumbered m'.progress
  stance : m'.stance = m.stance
  ends : m'.ends.map TickEnd.unnumbered = m.ends.map TickEnd.unnumbered

theorem Progress.Alike.renumbered {p q : Progress} (alike : p.Alike q) : p.Renumbered q :=
  ⟨q.scene, alike.scene.renumbered, alike.congr fun progress => { progress with scene := q.scene }⟩

/-- Moments that are alike differ in their numbers and in the log only. -/
theorem Moment.Alike.renumbered {m m' : Moment} (alike : m.Alike m') : m.Renumbered m' :=
  ⟨alike.progress.renumbered, alike.stance, alike.ends⟩

namespace Plan

variable (plan : Plan)

/-- The runs of a plan in two scenes whose clusters differ only in where they count from and how far
they jump go side by side. They do the same at the same times, and they come to the same end: they
fail with the same fault, or they pass, and their reports may differ in how often an unexpected
value came. -/
theorem renumbered_conduct (scene : Scene Cluster) (serial : Int) (jumps : Assoc Int Int) :
    (∀ n, (plan.later n (plan.opening scene)).Renumbered
      (plan.later n (plan.opening (scene.recounted serial jumps)))) ∧
    (plan.conduct scene).2.Renumbered (plan.conduct (scene.recounted serial jumps)).2 ∧
    ((∃ report resyncs, (plan.conduct scene).1 = .ok report ∧
        (plan.conduct (scene.recounted serial jumps)).1 = .ok { report with resyncs }) ∨
      ∃ raised, (plan.conduct scene).1 = .error raised ∧
        (plan.conduct (scene.recounted serial jumps)).1 = .error raised) := by
  have alike (n : Nat) : (plan.later n (plan.opening scene)).Alike
      (plan.later n (plan.opening (scene.recounted serial jumps))) := plan.later_alike n rfl
  refine ⟨fun n => (alike n).renumbered, ?_⟩
  obtain ⟨m, reached, verdict⟩ := plan.leads_conduct scene
  obtain ⟨m', reached', verdict'⟩ := plan.leads_conduct (scene.recounted serial jumps)
  obtain ⟨n, rfl⟩ := Leads.later reached
  obtain ⟨result, finished⟩ :
    ∃ result, (plan.later n (plan.opening scene)).stance = .finished result := by
    rcases verdict with ⟨raised, stance, _⟩ | ⟨stance, _⟩
    · exact ⟨_, stance⟩
    · exact ⟨_, stance⟩
  obtain ⟨result', finished'⟩ : ∃ result, m'.stance = .finished result := by
    rcases verdict' with ⟨raised, stance, _⟩ | ⟨stance, _⟩
    · exact ⟨_, stance⟩
    · exact ⟨_, stance⟩
  -- Where the one run ends, the other one stands alike, so this is its end.
  have same : (plan.later n (plan.opening scene)).Alike m' := by
    have there : plan.Reached (scene.recounted serial jumps)
        (plan.later n (plan.opening (scene.recounted serial jumps))) := plan.leads_later n _
    rw [there.finished_unique ((alike n).stance.trans finished) reached' finished']
    exact alike n
  rcases verdict with ⟨raised, stance, fails⟩ | ⟨stance, passes⟩
  · rcases verdict' with ⟨raised', stance', fails'⟩ | ⟨stance', _⟩
    · cases stance.symm.trans (same.stance.symm.trans stance')
      rw [fails, fails']
      exact ⟨same.progress.renumbered, .inr ⟨raised, rfl, rfl⟩⟩
    · cases stance.symm.trans (same.stance.symm.trans stance')
  · rcases verdict' with ⟨raised', stance', _⟩ | ⟨_, passes'⟩
    · cases stance.symm.trans (same.stance.symm.trans stance')
    · rw [passes, passes']
      refine ⟨(same.progress.note _ _).renumbered,
        .inl ⟨_, m'.progress.scene.monitor.resyncs, rfl, ?_⟩⟩
      rw [same.progress.report plan]

end Plan

end Drill.Run
