import Drill.Proofs.Trail
import Drill.Proofs.Windup

/-!
# The life of an invoker

An invoker is idle, then it runs, and then it is cancelled, or it is cancelled at once. Whatever is
asked of it, it goes on in this order only, and so does its loop: one is made when the invoker is
started, it goes on until it comes to its end, and there is no other one.

Main statements: `Move.evolves`, what a move makes of an invoker and its loop, `starts_le_one` and
`Along.births`, it is started once at most and has one loop at most, and `trail_lifecycle`, all that
holds of an invoker's life.
-/

namespace Drill

/-- A phase comes after another one, or is the same. -/
inductive Phase.Follows : Phase → Phase → Prop where
  | stays (phase : Phase) : Follows phase phase
  | started : Follows idle running
  | cancelled : Follows running cancelled
  | discarded : Follows idle cancelled

theorem Phase.Follows.trans {phase phase' phase'' : Phase} (first : phase.Follows phase')
    (second : phase'.Follows phase'') : phase.Follows phase'' := by
  cases first with
  | stays => exact second
  | started =>
    cases second with
    | stays => exact .started
    | cancelled => exact .discarded
  | cancelled =>
    cases second
    exact .cancelled
  | discarded =>
    cases second
    exact .discarded

/-- After a cancellation no other phase comes. -/
theorem Phase.Follows.cancelled_eq {phase : Phase} (follows : Follows .cancelled phase) :
    phase = .cancelled := by
  cases follows
  rfl

instance : Trans Phase.Follows Phase.Follows Phase.Follows := ⟨Phase.Follows.trans⟩

/-- What may become of a loop in a move. -/
inductive Task.Follows : Task → Task → Prop where
  | stays (task : Task) : Follows task task
  /-- The loop is made. -/
  | made : Follows absent scheduled
  /-- A loop that has not come to its end goes on, or it comes to its end. -/
  | goes {task task' : Task} (alive : task.isAlive = true) (present : task' ≠ absent)
      (begun : task' ≠ scheduled) :
      Follows task task'

/-- What is known of an invoker agrees. -/
structure Invoker.Agrees (i : Invoker) : Prop where
  /-- Before it is started there is nothing else to know. -/
  idle : i.phase = .idle → i = .fresh
  /-- While it runs it has a loop, which is not told to end. -/
  running : i.phase = .running → i.task ≠ .absent ∧ i.interrupted = false
  /-- It is told so exactly if the invoker was cancelled and the loop is alive. -/
  interrupted_iff : i.interrupted = true ↔ i.phase = .cancelled ∧ i.task.isAlive = true
  /-- Without a loop it makes no calls. -/
  quiet : i.task = .absent → i.ticks = 0

theorem Invoker.fresh_agrees : fresh.Agrees where
  idle _ := rfl
  running := nofun
  interrupted_iff := by simp [fresh]
  quiet _ := rfl

theorem Invoker.Agrees.sound {i : Invoker} (agrees : i.Agrees) : i.Sound where
  idle phase := by
    rw [agrees.idle phase]
    rfl
  interrupted_iff := agrees.interrupted_iff

namespace Scene

variable {σ : Type} {service : Service σ} {pacing : Pacing} {s s' : Scene σ}

/-- A tick that has ended leaves a loop that has begun. -/
theorem endCall_begun (pacing : Pacing) (s : Scene σ) (e : CallEnd) :
    (s.endCall pacing e).invoker.task ≠ .absent ∧
    (s.endCall pacing e).invoker.task ≠ .scheduled := by
  obtain ⟨_, _, _, same, onward⟩ := s.endCall_onward pacing e
  rw [same]
  cases onward with
  | rests | ends => exact ⟨Task.noConfusion, Task.noConfusion⟩

/-- A call that is entered leaves the invoker running, or cancels it. -/
theorem called_phase (running : s.invoker.phase = .running) :
    (s.called service pacing).invoker.phase = .running ∨
    (s.called service pacing).invoker.phase = .cancelled := by
  rcases s.called_cases service pacing with ⟨same, _⟩ | ⟨same, _⟩
  · left
    simp only [same, arm_invoker]
    exact running
  · right
    rw [same]
    exact cancel_cancelled _

/-- What a move makes of an invoker and its loop. -/
structure Evolves (s s' : Scene σ) : Prop where
  phase : s.invoker.phase.Follows s'.invoker.phase
  task : s.invoker.task.Follows s'.invoker.task
  /-- A loop is made when the invoker begins to run, and only then. -/
  made_iff : s.invoker.task = .absent ∧ s'.invoker.task ≠ .absent ↔
    s.invoker.phase = .idle ∧ s'.invoker.phase = .running
  /-- As long as there is none, no call is made and the monitor is told nothing. -/
  quiet : s'.invoker.task = .absent →
    s'.service = s.service ∧ s'.monitor = s.monitor ∧ s'.invoker.ticks = s.invoker.ticks
  /-- An invoker that stays idle is left alone. -/
  idle : s'.invoker.phase = .idle → s'.invoker = s.invoker

/-- A move that leaves the invoker alone is no event of its life. -/
theorem Evolves.of_invoker (service_eq : s'.service = s.service) (monitor : s'.monitor = s.monitor)
    (invoker : s'.invoker = s.invoker) : Evolves s s' where
  phase := by
    rw [invoker]
    exact .stays _
  task := by
    rw [invoker]
    exact .stays _
  made_iff := by
    rw [invoker]
    constructor
    · rintro ⟨absent, present⟩
      exact absurd absent present
    · rintro ⟨idle, running⟩
      cases idle.symm.trans running
  quiet _ := ⟨service_eq, monitor, by rw [invoker]⟩
  idle _ := invoker

/-- A loop that is alive goes on, whether its invoker is cancelled meanwhile or not. -/
theorem Evolves.of_alive (alive : s.invoker.task.isAlive = true)
    (present : s'.invoker.task ≠ .absent)
    (begun : s'.invoker.task ≠ .scheduled) (busy : s.invoker.phase ≠ .idle)
    (phase : s.invoker.phase.Follows s'.invoker.phase) : Evolves s s' where
  phase := phase
  task := .goes alive present begun
  made_iff := by
    constructor
    · rintro ⟨absent, _⟩
      rw [absent] at alive
      cases alive
    · rintro ⟨idle, _⟩
      exact absurd idle busy
  quiet absent := absurd absent present
  idle idle := by
    rw [idle] at phase
    generalize s.invoker.phase = before at phase busy
    cases phase
    exact absurd rfl busy

/-- A tick that begins is part of the life of a running invoker. -/
theorem Begins.evolves {e : Option CallEnd} (running : s.invoker.Running)
    (alive : s.invoker.task.isAlive = true)
    (begins : Begins service pacing s e s') : Evolves s s' := by
  have busy : s.invoker.phase ≠ .idle := by
    rw [running.phase]
    exact Phase.noConfusion
  have onward {phase : Phase} (after : phase = .running ∨ phase = .cancelled) :
    s.invoker.phase.Follows phase := by
    rw [running.phase]
    rcases after with rfl | rfl
    · exact .stays _
    · exact .cancelled
  cases begins with
  | refused limit =>
    obtain ⟨present, begun⟩ := endCall_begun pacing s.tick (.refused _)
    refine .of_alive alive present begun busy (onward ?_)
    rw [endCall_phase]
    exact .inl running.phase
  | calls opened waits calm =>
    exact .of_alive alive Task.noConfusion Task.noConfusion busy
      (onward (called_phase running.phase))
  | callsOnce clock once ends =>
    obtain ⟨present, begun⟩ := endCall_begun pacing _ _
    refine .of_alive alive present begun busy (onward ?_)
    rw [endCall_phase]
    exact called_phase running.phase

/-- Every move of the loop is. -/
theorem Goes.evolves {e : Option CallEnd} (sound : s.invoker.Sound)
    (goes : Goes service pacing s e s') :
    Evolves s s' := by
  cases goes with
  | waits => exact .of_invoker rfl rfl rfl
  | stops idle interrupted =>
    have alive := sound.alive interrupted
    exact .of_alive alive Task.noConfusion Task.noConfusion (sound.busy alive) (.stays _)
  | begins running alive idle begins => exact begins.evolves running alive
  | ends calling ends =>
    have alive := Task.isAlive_of_isCalling calling
    obtain ⟨present, begun⟩ := endCall_begun pacing _ _
    refine .of_alive alive present begun (sound.busy alive) ?_
    rw [endCall_phase]
    exact .stays _

/-- A move makes of an invoker what may become of it. -/
theorem Move.evolves {e : Option CallEnd} (move : Move service pacing s e s')
    (sound : s.invoker.Sound) :
    Evolves s s' := by
  cases move with
  | start started =>
    obtain ⟨idle, rfl⟩ := start_eq_ok_iff.mp started
    have absent := sound.idle idle
    exact {
      phase := by
        rw [idle]
        exact .started
      task := by
        rw [absent]
        exact .made
      made_iff := iff_of_true ⟨absent, Task.noConfusion⟩ ⟨idle, rfl⟩
      quiet := nofun
      idle := nofun }
  | cancel =>
    by_cases cancelled : s.invoker.phase = .cancelled
    · rw [cancel_of_cancelled cancelled]
      exact .of_invoker rfl rfl rfl
    · have phase := s.cancel_cancelled
      exact {
        phase := by
          rw [phase]
          -- To cancel is the end of any phase, and the loop learns of it when it is let go on.
          cases before : s.invoker.phase with
          | idle => exact .discarded
          | running => exact .cancelled
          | cancelled => exact .stays _
        task := by
          rw [cancel_task]
          exact .stays _
        made_iff := by
          rw [cancel_task, phase]
          exact iff_of_false (fun made => made.2 made.1) fun runs => Phase.noConfusion runs.2
        quiet := fun _ => ⟨cancel_service s, cancel_monitor s, cancel_ticks s⟩
        idle := fun idle => Phase.noConfusion (idle.symm.trans phase) }
  | stir stir =>
    obtain ⟨clock, goes⟩ := stir.goes sound
    -- A stir moves the clock and then the loop, and only the loop can change an invoker.
    have evolves := Goes.evolves (s := { s with clock }) sound goes
    exact ⟨evolves.phase, evolves.task, evolves.made_iff, evolves.quiet, evolves.idle⟩
  | timer span => exact .of_invoker rfl rfl rfl
  | reach still t => exact .of_invoker rfl rfl rfl

/-- So is every step of a trail, requests included. -/
theorem Step.evolves (step : Step service pacing s s') (sound : s.invoker.Sound) :
    Evolves s s' := by
  rcases step with rfl | ⟨e, move⟩
  · exact .of_invoker rfl rfl rfl
  · exact move.evolves sound

/-- What is known of an invoker agrees after a move, too. -/
theorem Evolves.agrees (evolves : Evolves s s') (agrees : s.invoker.Agrees)
    (sound : s'.invoker.Sound) :
    s'.invoker.Agrees where
  idle phase := by
    have same := evolves.idle phase
    rw [same]
    rw [same] at phase
    exact agrees.idle phase
  running phase := by
    constructor
    · have follows := evolves.phase
      rw [phase] at follows
      generalize before : s.invoker.phase = other at follows
      cases follows with
      -- It was running before, so its loop was made, and a loop that was made does not become
      -- absent.
      | stays =>
        have present := (agrees.running before).1
        have task := evolves.task
        intro absent
        rw [absent] at task
        generalize s.invoker.task = loop at task present
        cases task with
        | stays => exact present rfl
        | goes _ present' => exact present' rfl
      | started => exact (evolves.made_iff.mpr ⟨before, phase⟩).2
    · cases interrupted : s'.invoker.interrupted with
      | false => rfl
      | true => cases phase.symm.trans (sound.cancelled interrupted)
  interrupted_iff := sound.interrupted_iff
  quiet absent := by
    rw [(evolves.quiet absent).2.2]
    apply agrees.quiet
    have task := evolves.task
    rw [absent] at task
    generalize s.invoker.task = loop at task
    cases task with
    | stays => rfl
    | goes _ present => exact absurd rfl present

variable (service pacing) in
theorem along_evolves (requests : List Request) (sound : s.invoker.Sound) :
    Along Evolves s (s.trail service pacing requests) (requests.foldl (serve service pacing) s) :=
  (along_trail service pacing requests sound).weaken sound (fun _ _ sound step => step.sound sound)
    fun _ _ sound step => step.evolves sound

variable {path : List (Scene σ)}

/-- After a row of moves, what is known of the invoker still agrees, and its phase comes after the
one before. -/
theorem Along.onward (along : Along (Step service pacing) s path s') (sound : s.invoker.Sound) :
    s'.invoker.Sound ∧ s.invoker.phase.Follows s'.invoker.phase :=
  (along.holds (P := fun t => t.invoker.Sound ∧ s.invoker.phase.Follows t.invoker.phase)
    ⟨sound, .stays _⟩
    fun _ _ known step => ⟨step.sound known.1, known.2.trans (step.evolves known.1).phase⟩).2

/-- On a row, every phase comes after all the phases before. -/
theorem Along.phases (along : Along Evolves s path s') :
    ((s :: path).map (·.invoker.phase)).Pairwise Phase.Follows := by
  rw [← List.isChain_iff_pairwise, List.isChain_map]
  exact along.isChain.imp fun _ _ evolves => evolves.phase

/-- Does an invoker get a loop between two scenes: had it none that was alive, or does its loop
begin anew? -/
def Born (s s' : Scene σ) : Prop :=
  s.invoker.task.isAlive = false ∧ s'.invoker.task.isAlive = true ∨
  s.invoker.task ≠ .scheduled ∧ s'.invoker.task = .scheduled

instance (s s' : Scene σ) : Decidable (Born s s') := inferInstanceAs (Decidable (_ ∨ _))

/-- How many loops an invoker gets on a row of scenes, seen from the scene before it. -/
def births : Scene σ → List (Scene σ) → Nat
  | _, [] => 0
  | s, s' :: path => (if Born s s' then 1 else 0) + births s' path

/-- An invoker that has a loop gets no other one. -/
theorem Evolves.unborn (evolves : Evolves s s') (present : s.invoker.task ≠ .absent) :
    s'.invoker.task ≠ .absent ∧ ¬ Born s s' := by
  have task := evolves.task
  unfold Born
  generalize s.invoker.task = loop, s'.invoker.task = loop' at task present
  cases task with
  | stays =>
    refine ⟨present, ?_⟩
    rintro (⟨dead, alive⟩ | ⟨begun, scheduled⟩)
    · exact Bool.noConfusion (dead.symm.trans alive)
    · exact begun scheduled
  | made => exact absurd rfl present
  | goes alive present' begun =>
    refine ⟨present', ?_⟩
    rintro (⟨dead, _⟩ | ⟨_, scheduled⟩)
    · exact Bool.noConfusion (dead.symm.trans alive)
    · exact begun scheduled

/-- An invoker gets one loop at most, and none if it has one. -/
theorem Along.births (along : Along Evolves s path s') :
    s.births path ≤ 1 ∧ (s.invoker.task ≠ .absent → s.births path = 0) := by
  induction along with
  | nil s => exact ⟨Nat.zero_le 1, fun _ => rfl⟩
  | @cons s t s' path evolves rest ih =>
    obtain ⟨once, none⟩ := ih
    have later (present : s.invoker.task ≠ .absent) : s.births (t :: path) = 0 := by
      obtain ⟨present', unborn⟩ := evolves.unborn present
      unfold Scene.births
      rw [if_neg unborn, none present']
    refine ⟨?_, later⟩
    by_cases absent : s.invoker.task = .absent
    · by_cases absent' : t.invoker.task = .absent
      · have unborn : ¬ Born s t := by
          unfold Born
          rw [absent, absent']
          decide
        unfold Scene.births
        rw [if_neg unborn, Nat.zero_add]
        exact once
      · unfold Scene.births
        rw [none absent']
        split <;> decide
    · rw [later absent]
      exact Nat.zero_le 1

section

variable (service pacing)

/-- How many of the requests start the invoker. -/
def starts : Scene σ → List Request → Nat
  | _, [] => 0
  | s, r :: requests =>
    (if r = .start ∧ (s.start pacing).isOk then 1 else 0) +
      starts (s.serve service pacing r) requests

/-- An invoker is started once at most, and not at all if it is not idle. -/
theorem starts_le_one (requests : List Request) (sound : s.invoker.Sound) :
    s.starts service pacing requests ≤ 1 ∧
    (s.invoker.phase ≠ .idle → s.starts service pacing requests = 0) := by
  induction requests generalizing s with
  | nil => exact ⟨Nat.zero_le 1, fun _ => rfl⟩
  | cons r requests ih =>
    obtain ⟨sound', phase⟩ := (along_serving service pacing r sound).onward sound
    obtain ⟨once, none⟩ := ih sound'
    unfold starts
    by_cases started : r = .start ∧ (s.start pacing).isOk
    · obtain ⟨rfl, ok⟩ := started
      have idle : s.invoker.phase = .idle := by
        by_contra busy
        rw [start_of_busy pacing busy] at ok
        cases ok
      have begun : s.serve service pacing .start = s.begun pacing := by
        unfold serve
        rw [start_eq_ok_iff.mpr ⟨idle, rfl⟩]
      have running : (s.serve service pacing .start).invoker.phase ≠ .idle := by
        rw [begun]
        exact Phase.noConfusion
      rw [if_pos ⟨rfl, ok⟩, none running]
      exact ⟨Nat.le_refl 1, fun busy => absurd idle busy⟩
    · rw [if_neg started, Nat.zero_add]
      refine ⟨once, fun busy => none ?_⟩
      intro idle
      rw [idle] at phase
      generalize s.invoker.phase = before at phase busy
      cases phase
      exact busy rfl

/-- The loop of an invoker was not made, and neither its service nor its monitor was asked
anything. -/
structure Dormant (s s' : Scene σ) : Prop where
  service : s'.service = s.service
  monitor : s'.monitor = s.monitor
  task : s'.invoker.task = .absent
  ticks : s'.invoker.ticks = s.invoker.ticks

variable {service pacing} in
theorem Dormant.trans {s'' : Scene σ} (first : Dormant s s') (second : Dormant s' s'') :
    Dormant s s'' where
  service := second.service.trans first.service
  monitor := second.monitor.trans first.monitor
  task := second.task
  ticks := second.ticks.trans first.ticks

variable {service pacing} in

/-- To cancel an invoker that has no loop wakes nothing. -/
theorem Dormant.cancel (absent : s.invoker.task = .absent) : Dormant s s.cancel where
  service := cancel_service s
  monitor := cancel_monitor s
  task := (cancel_task s).trans absent
  ticks := cancel_ticks s

/-- Without a loop there is nothing to wait for. -/
theorem winding_dormant (fuel : Nat) (absent : s.invoker.task = .absent) :
    Along Dormant s (s.winding service pacing fuel) (s.waitClosed service pacing fuel).2 := by
  unfold winding waitClosed
  simp only [absent, Task.isAlive]
  exact .nil s

/-- Without a loop no time but the asked one is waited for. -/
theorem advancing_dormant (goal : Timer) (fuel : Nat) (absent : s.invoker.task = .absent) :
    Along Dormant s (s.advancing service pacing goal fuel)
      (s.advance service pacing goal fuel) := by
  have reached : Dormant s { s with clock := s.clock.reach goal } := ⟨rfl, rfl, absent, rfl⟩
  cases fuel with
  | zero => exact .single reached
  | succ fuel =>
    unfold advancing advance
    simp only [absent, Task.next?]
    exact .single reached

/-- Nothing but a start wakes an invoker. -/
theorem serving_dormant (r : Request) (absent : s.invoker.task = .absent)
    (refused : r = .start → s.invoker.phase ≠ .idle) :
    Along Dormant s (s.serving service pacing r) (s.serve service pacing r) := by
  have same : Dormant s s := ⟨rfl, rfl, absent, rfl⟩
  cases r with
  | start =>
    unfold serving
    rw [serve_start_of_busy service pacing (refused rfl)]
    exact .single same
  | cancel => exact .single (.cancel absent)
  | sleep span =>
    have timed : (s.timer span).2.invoker.task = .absent := absent
    have settled : (s.timer span).2.settle service pacing = (s.timer span).2 :=
      settle_of_ended (by rw [timed]; rfl)
    show Along Dormant s ((s.timer span).2 :: (s.timer span).2.settle service pacing :: _)
      (((s.timer span).2.settle service pacing).advance service pacing _ _)
    rw [settled]
    exact .cons ⟨rfl, rfl, timed, rfl⟩ (.cons ⟨rfl, rfl, timed, rfl⟩
      (advancing_dormant service pacing _ _ timed))
  | waitClosed fuel => exact winding_dormant service pacing fuel absent
  | close =>
    have cancel := Dormant.cancel absent
    exact .cons cancel (winding_dormant service pacing 0 cancel.task)

theorem serve_close_cancelled (sound : s.invoker.Sound) :
    (s.serve service pacing .close).invoker.phase = .cancelled := by
  have sound' := cancel_sound sound
  have onward := (along_winding service pacing 0 sound').onward sound'
  rw [cancel_cancelled] at onward
  exact onward.2.cancelled_eq

/-- An invoker that was cancelled before it was started, or was not asked to start, stays asleep. -/
theorem trail_dormant (requests : List Request) (sound : s.invoker.Sound)
    (absent : s.invoker.task = .absent)
    (late : ∀ before after, requests = before ++ .start :: after →
      s.invoker.phase = .cancelled ∨ .cancel ∈ before ∨ .close ∈ before) :
    ∀ s' ∈ s.trail service pacing requests, Dormant s s' := by
  induction requests generalizing s with
  | nil => exact fun _ mem => absurd mem List.not_mem_nil
  | cons r requests ih =>
    -- An invoker that can still be started would have to be cancelled before.
    have refused : r = .start → s.invoker.phase ≠ .idle := by
      rintro rfl idle
      rcases late [] requests rfl with cancelled | mem | mem
      · cases idle.symm.trans cancelled
      · cases mem
      · cases mem
    have known : (∀ t ∈ s.serving service pacing r, Dormant s t) ∧
      Dormant s (s.serve service pacing r) :=
      (serving_dormant service pacing r absent refused).holds ⟨rfl, rfl, absent, rfl⟩
        fun _ _ first second => first.trans second
    obtain ⟨sound', phase⟩ := (along_serving service pacing r sound).onward sound
    -- A cancellation counts for all later requests, whether this one was it or an earlier one.
    have late' : ∀ before after, requests = before ++ .start :: after →
        (s.serve service pacing r).invoker.phase = .cancelled ∨ .cancel ∈ before ∨
        .close ∈ before := by
      rintro before after rfl
      rcases late (r :: before) after rfl with cancelled | mem | mem
      · rw [cancelled] at phase
        exact .inl phase.cancelled_eq
      · rcases List.mem_cons.mp mem with rfl | mem
        · exact .inl s.cancel_cancelled
        · exact .inr (.inl mem)
      · rcases List.mem_cons.mp mem with rfl | mem
        · exact .inl (serve_close_cancelled service pacing sound)
        · exact .inr (.inr mem)
    intro s' mem
    rcases List.mem_append.mp mem with mem | mem
    · exact known.1 s' mem
    · exact known.2.trans (ih sound' known.2.task late' s' mem)

end

/-- The life of an invoker, whatever its service does and whatever is asked of it.

At every moment the phase comes after all the phases before, and what is known of the invoker
agrees. It can be started at exactly the moments at which it is idle, and otherwise a start is
refused and changes nothing; of all starts one succeeds at most. It gets one loop at most, at the
moment at which it begins to run. Once it is cancelled, another cancellation changes nothing. If
each start comes after a cancellation, no call is entered, no tick begins and the monitor is told
nothing. -/
theorem trail_lifecycle (service : Service σ) (pacing : Pacing) (clock : Clock) (state : σ)
    (monitor : Monitor) (log : List Log.Entry) (requests : List Request) :
    let s : Scene (Watched σ) := ⟨clock, ⟨state, 0, 0⟩, monitor, .fresh, log⟩
    let trail := s.trail service.watched pacing requests
    ((s :: trail).map (·.invoker.phase)).Pairwise Phase.Follows ∧
    (∀ u ∈ s :: trail, u.invoker.Agrees ∧
      (u.invoker.phase = .idle → u.start pacing = .ok (u.begun pacing)) ∧
      (u.invoker.phase ≠ .idle →
        u.start pacing
          = .error (.plain .runtime s!"Driver cannot start from state {u.invoker.phase.name}") ∧
        u.serve service.watched pacing .start = u) ∧
      (u.invoker.phase = .cancelled → u.cancel = u)) ∧
    s.starts service.watched pacing requests ≤ 1 ∧
    (s :: trail).IsChain Evolves ∧
    s.births trail ≤ 1 ∧
    ((∀ before after, requests = before ++ .start :: after → .cancel ∈ before ∨ .close ∈ before) →
      ∀ u ∈ trail, u.service = ⟨state, 0, 0⟩ ∧ u.monitor = monitor ∧ u.invoker.task = .absent ∧
        u.invoker.ticks = 0) := by
  intro s trail
  have sound : s.invoker.Sound := Invoker.fresh_sound
  have evolves : Along Evolves s trail _ := along_evolves service.watched pacing requests sound
  -- An invariant of the steps, so it holds at every scene of the trail.
  have agrees : ∀ u ∈ s :: trail, u.invoker.Agrees := by
    obtain ⟨later, _⟩ :=
      (along_trail service.watched pacing requests sound).holds (P := (·.invoker.Agrees))
      Invoker.fresh_agrees fun _ _ agrees step =>
        (step.evolves agrees.sound).agrees agrees (step.sound agrees.sound)
    exact List.forall_mem_cons.mpr ⟨Invoker.fresh_agrees, later⟩
  refine ⟨evolves.phases, fun u mem => ⟨agrees u mem, ?_, ?_, cancel_of_cancelled⟩,
    (starts_le_one service.watched pacing requests sound).1, evolves.isChain, evolves.births.1, ?_⟩
  · intro idle
    exact start_eq_ok_iff.mpr ⟨idle, rfl⟩
  · intro busy
    exact ⟨start_of_busy pacing busy, serve_start_of_busy service.watched pacing busy⟩
  -- This is the only part that depends on the order of the requests.
  · intro late u mem
    have dormant := trail_dormant service.watched pacing requests sound rfl
      (fun before after cut => .inr (late before after cut)) u mem
    exact ⟨dormant.service, dormant.monitor, dormant.task, dormant.ticks⟩

/-- Cancelled first, an invoker is started in vain. Cancelled later, it has called its service, but
it is not started again. -/
theorem stubborn_lifecycle :
    let s : Scene (Watched Cast) := .opening ⟨stubborn, 0, 0⟩ (.start none)
    let waiting := [Request.start, .sleep 10].foldl (serve Cast.service.watched patient) s
    let last := waiting.cancel
    (∀ s' ∈ s.trail Cast.service.watched patient [.cancel, .start, .sleep 10],
      s'.service.entered = 0) ∧
    last.service.entered = 1 ∧
    last.start patient = .error (.plain .runtime "Driver cannot start from state CANCELLED") ∧
    last.cancel = last := by
  intro s waiting last
  constructor
  · obtain ⟨_, _, _, _, _, asleep⟩ :=
      trail_lifecycle Cast.service patient .zero stubborn (.start none) []
      [.cancel, .start, .sleep 10]
    intro s' mem
    refine congrArg Watched.entered (asleep ?_ s' mem).1
    intro before after cut
    cases before with
    | nil => cases cut
    | cons first before =>
      obtain ⟨rfl, _⟩ := List.cons.inj cut
      exact .inl List.mem_cons_self
  · obtain ⟨_, known, _⟩ := trail_lifecycle Cast.service patient .zero stubborn (.start none) []
      [.start, .sleep 10, .cancel]
    have cancelled : last.invoker.phase = .cancelled := cancel_cancelled waiting
    have there : last ∈ s.trail Cast.service.watched patient [.start, .sleep 10, .cancel] := by
      unfold trail trail trail
      exact List.mem_append_right
        _ (List.mem_append_right _ (List.mem_append_left _ List.mem_cons_self))
    obtain ⟨_, _, refused, again⟩ := known last (List.mem_cons_of_mem _ there)
    refine ⟨by decide +kernel, ?_, again cancelled⟩
    rw [(refused (by rw [cancelled]; exact Phase.noConfusion)).1, cancelled]
    rfl

end Scene

end Drill
