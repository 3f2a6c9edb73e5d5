import Drill.Proofs.Sequence
import Mathlib.Data.List.Chain

/-!
# The trail of an invoker

While an invoker does what it is asked, its scene changes with every timer that fires, and
`Scene.serve` tells only what the last scene looks like. `Scene.trail` lists all of them in their
order. From a trail one can tell at which moments calls were entered (`Scene.entries`); the moments
at which the monitor was told of them are in the log (`Scene.tellings`).

Main statements: `record_tellings`, what the monitor is told has a moment and a number,
`Along.entries`, a row of steps that enter their calls at set moments makes a row of these moments,
and `along_trail`, a trail is a row of moves of the invoker.
-/

namespace Drill.Scene

variable {σ : Type}

section

variable (service : Service σ) (pacing : Pacing)

/-- The scenes that a loop goes through until the timer of someone else fires. -/
def advancing (goal : Timer) : Nat → Scene σ → List (Scene σ)
  | 0, s => [{ s with clock := s.clock.reach goal }]
  | fuel + 1, s =>
    match s.invoker.task.next? with
    | some t =>
      if t.Before goal then s.fire service pacing t :: advancing goal fuel (s.fire service pacing t)
      else [{ s with clock := s.clock.reach goal }]
    | none => [{ s with clock := s.clock.reach goal }]

/-- The scenes that a loop goes through while nobody else waits for a timer. -/
def draining : Nat → Scene σ → List (Scene σ)
  | 0, _ => []
  | fuel + 1, s =>
    match s.invoker.task.next? with
    | some t => s.fire service pacing t :: draining fuel (s.fire service pacing t)
    | none => []

/-- The scenes of a wait for the loop's end. -/
def winding (fuel : Nat) (s : Scene σ) : List (Scene σ) :=
  if s.invoker.task.isAlive then
    s.settle service pacing :: (s.settle service pacing).draining service pacing fuel
  else []

/-- The scenes that a request leads through. -/
def serving (s : Scene σ) : Request → List (Scene σ)
  | .start => [s.serve service pacing .start]
  | .cancel => [s.cancel]
  | .sleep span =>
    (s.timer span).2 :: (s.timer span).2.settle service pacing ::
      ((s.timer span).2.settle service pacing).advancing service pacing (s.timer span).1
        (2 * span + 3)
  | .waitClosed fuel => s.winding service pacing fuel
  | .close => s.cancel :: s.cancel.winding service pacing 0

/-- The scenes that some requests lead through, one after the other. -/
def trail : Scene σ → List Request → List (Scene σ)
  | _, [] => []
  | s, r :: requests => s.serving service pacing r ++ trail (s.serve service pacing r) requests

end

/-- What the monitor was told and when, oldest first: the number of the call and what became of
it. -/
def tellings (s : Scene σ) : List (Nat × Int × Outcome) :=
  s.log.reverse.filterMap fun e => e.event.outcome?.map (e.moment, ·)

/-- Outcomes are told at the moment at which they are logged. -/
theorem note_tellings (s : Scene σ) (events : List Log.Event) : (s.note events).tellings
    = s.tellings ++ (events.filterMap Log.Event.outcome?).map (s.clock.now, ·) := by
  unfold tellings note
  rw [List.reverse_append, List.reverse_reverse, List.filterMap_append, List.filterMap_map,
    List.map_filterMap]
  rfl

/-- So an outcome that is recorded is told now. -/
theorem record_tellings (s : Scene σ) (outcome : Outcome) :
    (s.record outcome).tellings = s.tellings ++
    [(s.clock.now, (s.invoker.ticks : Int), outcome)] := by
  unfold record
  rw [note_tellings, Monitor.record_told]
  rfl

/-- A row of steps from one scene to another. -/
inductive Along (step : Scene σ → Scene σ → Prop) : Scene σ → List (Scene σ) → Scene σ → Prop where
  | nil (s : Scene σ) : Along step s [] s
  | cons {s s' s'' : Scene σ} {path : List (Scene σ)} (first : step s s')
      (rest : Along step s' path s'') :
      Along step s (s' :: path) s''

section

variable {step step' : Scene σ → Scene σ → Prop} {s s' s'' : Scene σ} {path path' : List (Scene σ)}

theorem Along.single (only : step s s') : Along step s [s'] s' := .cons only (.nil s')

/-- Two rows of moves make one row. -/
theorem Along.append (first : Along step s path s') (second : Along step s' path' s'') :
    Along step s (path ++ path') s'' := by
  induction first with
  | nil => exact second
  | cons step _ ih => exact .cons step (ih second)

/-- What every step keeps holds of all scenes on a row, if it holds of the first. -/
theorem Along.holds {P : Scene σ → Prop} (along : Along step s path s') (first : P s)
    (keeps : ∀ s s', P s → step s s' → P s') : (∀ t ∈ path, P t) ∧ P s' := by
  induction along with
  | nil => exact ⟨fun t mem => absurd mem List.not_mem_nil, first⟩
  | @cons s t s' path one rest ih =>
    obtain ⟨later, last⟩ := ih (keeps s t first one)
    refine ⟨fun u mem => ?_, last⟩
    rcases List.mem_cons.mp mem with rfl | mem
    · exact keeps s u first one
    · exact later u mem

/-- Steps that are of another kind where something holds that they keep. -/
theorem Along.weaken {P : Scene σ → Prop} (along : Along step s path s') (first : P s)
    (keeps : ∀ s s', P s → step s s' → P s') (weaker : ∀ s s', P s → step s s' → step' s s') :
    Along step' s path s' := by
  induction along with
  | nil s => exact .nil s
  | @cons s t s' path one rest ih => exact .cons (weaker s t first one) (ih (keeps s t first one))

/-- The scenes of a row follow one another by the moves. -/
theorem Along.isChain (along : Along step s path s') : (s :: path).IsChain step := by
  induction along with
  | nil s => exact .singleton s
  | cons one rest ih => exact .cons_cons one ih

end

/-- The moments at which calls were entered on a row of scenes, seen from the scene before it. -/
def entries (s : Scene (Watched σ)) : List (Scene (Watched σ)) → List Nat
  | [] => []
  | s' :: path =>
      List.replicate (s'.service.entered - s.service.entered) s'.clock.now ++ entries s' path

/-- Calls are entered at the moments that are set for them, one at a time at most. -/
def Enters (moment : Nat → Option Nat) (s s' : Scene (Watched σ)) : Prop :=
  s'.service.entered = s.service.entered ∨
    s'.service.entered = s.service.entered + 1 ∧ moment s.service.entered = some s'.clock.now

/-- Then the moments of the entries are those, from the first call on that was not yet entered. -/
theorem Along.entries {moment : Nat → Option Nat} {s s' : Scene (Watched σ)}
    {path : List (Scene (Watched σ))}
    (along : Along (Enters moment) s path s') : s.service.entered ≤ s'.service.entered ∧
      (s.entries path).map some
        = (List.range' s.service.entered (s'.service.entered - s.service.entered)).map moment := by
  induction along with
  | nil s =>
    rw [Nat.sub_self]
    exact ⟨Nat.le_refl _, rfl⟩
  | @cons s s₁ s' path first rest ih =>
    obtain ⟨later, rest⟩ := ih
    unfold Scene.entries
    rcases first with same | ⟨one, entered⟩
    · rw [same] at later rest ⊢
      rw [Nat.sub_self]
      exact ⟨later, rest⟩
    · rw [one] at later rest ⊢
      have more : s'.service.entered - s.service.entered =
        s'.service.entered - (s.service.entered + 1) + 1 := by
        omega
      rw [Nat.add_sub_cancel_left, more, List.range'_succ, List.map_cons, entered,
        List.map_append, rest]
      exact ⟨by omega, rfl⟩

section

variable (service : Service σ) (pacing : Pacing)

/-- Nothing happens, or one move. -/
def Step (s s' : Scene σ) : Prop := s' = s ∨ ∃ e, Move service pacing s e s'

variable {service pacing} {s s' : Scene σ} {path : List (Scene σ)}

/-- A step agrees with what is known of an invoker. -/
theorem Step.sound (step : Step service pacing s s') (sound : s.invoker.Sound) :
    s'.invoker.Sound := by
  rcases step with rfl | ⟨e, move⟩
  · exact sound
  · exact move.sound sound

variable (service pacing)

/-- The scenes while timers fire up to a goal are a row of moves. -/
theorem along_advancing (goal : Timer) (fuel : Nat) (sound : s.invoker.Sound) (still : s.Still) :
    Along (Step service pacing) s (s.advancing service pacing goal fuel)
      (s.advance service pacing goal fuel) := by
  have reaches {s : Scene σ} (still : s.Still) :
      Along (Step service pacing) s [{ s with clock := s.clock.reach goal }]
        { s with clock := s.clock.reach goal } :=
    .single (.inr ⟨none, .reach still goal⟩)
  induction fuel generalizing s with
  | zero => exact reaches still
  | succ fuel ih =>
    unfold advancing advance
    cases next : s.invoker.task.next? with
    | none => exact reaches still
    | some t =>
      by_cases before : t.Before goal
      · have goes := fire_goes service pacing sound still next
        simp only [before, if_true]
        exact .cons (.inr ⟨_, .stir (.fire still next)⟩) (ih (goes.sound sound) (goes.still sound))
      · simp only [before, if_false]
        exact reaches still

/-- So are those while a loop goes on to its end. -/
theorem along_draining (fuel : Nat) (sound : s.invoker.Sound) (still : s.Still) :
    Along (Step service pacing) s (s.draining service pacing fuel)
      (s.drain service pacing fuel) := by
  induction fuel generalizing s with
  | zero => exact .nil s
  | succ fuel ih =>
    unfold draining drain
    cases next : s.invoker.task.next? with
    | none => exact .nil s
    | some t =>
      have goes := fire_goes service pacing sound still next
      exact .cons (.inr ⟨_, .stir (.fire still next)⟩) (ih (goes.sound sound) (goes.still sound))

/-- So are those while one waits for that end. -/
theorem along_winding (fuel : Nat) (sound : s.invoker.Sound) :
    Along (Step service pacing) s (s.winding service pacing fuel)
      (s.waitClosed service pacing fuel).2 := by
  unfold winding waitClosed
  by_cases alive : s.invoker.task.isAlive = true
  · have goes := settle_goes service pacing sound
    simp only [alive, if_true]
    exact .cons (.inr ⟨_, .stir .settle⟩)
      (along_draining service pacing fuel (goes.sound sound) (goes.still sound))
  · simp only [alive]
    exact .nil s

/-- The scenes of a request are a row of moves. -/
theorem along_serving (r : Request) (sound : s.invoker.Sound) :
    Along (Step service pacing) s (s.serving service pacing r) (s.serve service pacing r) := by
  cases r with
  | start =>
    refine .single ?_
    unfold serve
    cases started : s.start pacing with
    | ok s' => exact .inr ⟨none, .start started⟩
    | error fault => exact .inl rfl
  | cancel => exact .single (.inr ⟨none, .cancel⟩)
  | sleep span =>
    have goes := settle_goes service pacing (s := (s.timer span).2) sound
    exact .cons (.inr ⟨none, .timer span⟩) (.cons (.inr ⟨_, .stir .settle⟩)
      (along_advancing service pacing _ _ (goes.sound sound) (goes.still sound)))
  | waitClosed fuel => exact along_winding service pacing fuel sound
  | close =>
    exact .cons (.inr ⟨none, .cancel⟩) (along_winding service pacing 0 (cancel_sound sound))

/-- A trail is a row of moves. -/
theorem along_trail (requests : List Request) (sound : s.invoker.Sound) :
    Along (Step service pacing) s (s.trail service pacing requests)
      (requests.foldl (serve service pacing) s) := by
  induction requests generalizing s with
  | nil => exact .nil s
  | cons r requests ih =>
    have first := along_serving service pacing r sound
    exact first.append (ih (first.holds sound fun _ _ sound step => step.sound sound).2)

end

end Drill.Scene
