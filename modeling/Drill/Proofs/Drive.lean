import Drill.Proofs.Calls

/-!
# What can be done with an invoker

An invoker can be started and cancelled at any moment, and in between its loop is let go on or a
timer fires. `Scene.Move` is one of these, with the end of the call that it ends, and `Scene.Driven`
a row of them, with the ends of all calls in it. How far time moves on while the loop waits is up to
others, so `Driven` leaves it open.

Main statement: `Driven.sound`, which holds after every such row.
-/

namespace Drill.Scene

variable {σ : Type}

section

variable (service : Service σ) (pacing : Pacing)

/-- The scene once the invoker is started. -/
def begun (s : Scene σ) : Scene σ :=
  ({ s with invoker := { s.invoker with phase := .running, task := .scheduled } } : Scene σ).note
    [.invokerStarted pacing.shown]

/-- A move of the loop, with the end of the call that it ends, if it ends one. -/
inductive Stir (s : Scene σ) : Option CallEnd → Scene σ → Prop where
  | settle : Stir s (s.settling service pacing) (s.settle service pacing)
  | fire {t : Timer} (still : s.Still) (next : s.invoker.task.next? = some t) :
      Stir s (s.firing service pacing t) (s.fire service pacing t)

/-- Something that happens to an invoker or that its loop does. -/
inductive Move (s : Scene σ) : Option CallEnd → Scene σ → Prop where
  | start {s' : Scene σ} (started : s.start pacing = .ok s') : Move s none s'
  | cancel : Move s none s.cancel
  | stir {e : Option CallEnd} {s' : Scene σ} (stir : Stir service pacing s e s') : Move s e s'
  /-- Someone else sets a timer. -/
  | timer (span : Nat) : Move s none (s.timer span).2
  /-- The timer of someone else fires. -/
  | reach (still : s.Still) (t : Timer) : Move s none { s with clock := s.clock.reach t }

/-- What one can ask of an invoker. -/
inductive Request where
  | start
  | cancel
  | sleep (span : Nat)
  /-- To wait for its loop's end, for so many timers at most. -/
  | waitClosed (fuel : Nat)
  | close
deriving DecidableEq

/-- What an invoker is asked is done, or refused. -/
def serve (s : Scene σ) : Request → Scene σ
  | .start =>
    match s.start pacing with
    | .ok s' => s'
    | .error _ => s
  | .cancel => s.cancel
  | .sleep span => s.sleep service pacing span
  | .waitClosed fuel => (s.waitClosed service pacing fuel).2
  | .close => (s.close service pacing).2

/-- A row of moves leads from one scene to another, with the ends of all calls that end
meanwhile. -/
inductive Driven (s : Scene σ) : List CallEnd → Scene σ → Prop where
  | refl : Driven s [] s
  | tail {ends : List CallEnd} {e : Option CallEnd} {s' s'' : Scene σ} (driven : Driven s ends s')
      (move : Move service pacing s' e s'') : Driven s (ends ++ e.toList) s''

end

variable {service : Service σ} {pacing : Pacing} {s s' : Scene σ}

theorem Driven.single {e : Option CallEnd} (move : Move service pacing s e s') :
    Driven service pacing s e.toList s' := .tail .refl move

/-- A move of the loop is one of the things that a loop can do. -/
theorem Stir.goes {e : Option CallEnd} (stir : Stir service pacing s e s')
    (sound : s.invoker.Sound) :
    ∃ clock, Goes service pacing { s with clock } e s' := by
  cases stir with
  | settle => exact ⟨s.clock, settle_goes service pacing sound⟩
  | fire still next => exact ⟨_, fire_goes service pacing sound still next⟩

/-- Exactly an idle invoker can be started. -/
theorem start_eq_ok_iff : s.start pacing = .ok s' ↔
    s.invoker.phase = .idle ∧ s' = s.begun pacing := by
  unfold start
  split
  next idle =>
    rw [Except.ok.injEq]
    exact ⟨fun started => ⟨idle, started.symm⟩, fun started => started.2.symm⟩
  next busy => exact ⟨nofun, fun started => absurd started.1 busy⟩

variable (pacing) in
theorem start_of_busy (busy : s.invoker.phase ≠ .idle) :
    s.start pacing =
    .error (.plain .runtime s!"Driver cannot start from state {s.invoker.phase.name}") :=
  if_neg busy

variable (service pacing) in
/-- An invoker that is not idle is asked in vain to start. -/
theorem serve_start_of_busy (busy : s.invoker.phase ≠ .idle) :
    s.serve service pacing .start = s := by
  unfold serve
  rw [start_of_busy pacing busy]

variable (service) in
/-- An idle invoker that is started has made its first move. -/
theorem driven_begun (idle : s.invoker.phase = .idle) :
    Driven service pacing s [] (s.begun pacing) :=
  .single (.start (start_eq_ok_iff.mpr ⟨idle, rfl⟩))

theorem Move.sound {e : Option CallEnd} (move : Move service pacing s e s')
    (sound : s.invoker.Sound) :
    s'.invoker.Sound := by
  cases move with
  | start started =>
    obtain ⟨idle, rfl⟩ := start_eq_ok_iff.mp started
    refine ⟨Phase.noConfusion, ?_⟩
    refine ⟨fun interrupted => ?_, fun cancelled => Phase.noConfusion cancelled.1⟩
    cases (sound.cancelled interrupted).symm.trans idle
  | cancel => exact cancel_sound sound
  | stir stir =>
    obtain ⟨clock, goes⟩ := stir.goes sound
    exact goes.sound sound
  | timer | reach => exact sound

/-- Whatever is done with an invoker, it stays sound. -/
theorem Driven.sound {ends : List CallEnd} (driven : Driven service pacing s ends s')
    (sound : s.invoker.Sound) : s'.invoker.Sound := by
  induction driven with
  | refl => exact sound
  | tail _ move ih => exact move.sound ih

end Drill.Scene
