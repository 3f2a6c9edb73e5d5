import Drill.Proofs.Sequence

/-!
# After a cancellation

Once an invoker is cancelled, all that is left to its loop is to come to its end, and it does so as
soon as it is let go on. A call that is under way is broken off. What it answers then is the last
thing that the monitor may be told, and only a call without a limit is heard; a call that gives in
is no outcome at all. The same holds if the invoker is cancelled by its own call, which is heard in
addition if it does not wait.

Main statements: `Driven.of_cancelled`, after a cancellation nothing happens but that the loop comes
to its end, `waitClosed_of_cancelled`, waiting for that end takes no time, and `driven_windup`, what
this means for calls, ticks and the monitor at every moment of a cancellation.
-/

namespace Drill.Scene

variable {σ : Type} {service : Service σ} {pacing : Pacing}

/-- Nothing but time has passed between two scenes. -/
structure Unmoved (s s' : Scene σ) : Prop where
  service : s'.service = s.service
  invoker : s'.invoker = s.invoker
  told : s'.told = s.told

section

variable {s s' : Scene σ} {ends : List CallEnd}

theorem Unmoved.refl (s : Scene σ) : Unmoved s s := ⟨rfl, rfl, rfl⟩

theorem cancel_of_cancelled (cancelled : s.invoker.phase = .cancelled) : s.cancel = s :=
  if_pos cancelled

/-- A loop that has come to its end does nothing. -/
theorem settle_of_ended (ended : s.invoker.task.isAlive = false) : s.settle service pacing = s := by
  unfold settle
  cases task : s.invoker.task with
  | absent | ended => rfl
  | scheduled | calling | resting =>
    rw [task] at ended
    cases ended

/-- Of a cancelled invoker that nothing is on its way to, the loop has come to its end. -/
theorem ended_of_calm (sound : s.invoker.Sound) (cancelled : s.invoker.phase = .cancelled)
    (calm : s.invoker.interrupted = false) : s.invoker.task.isAlive = false := by
  cases alive : s.invoker.task.isAlive with
  | false => rfl
  | true =>
    exact absurd (calm.symm.trans (sound.interrupted_iff.mpr ⟨cancelled, alive⟩)) Bool.noConfusion

/-- The end of a cancelled loop's last tick takes no time. -/
theorem endCall_clock_of_cancelled (e : CallEnd) (cancelled : s.invoker.phase = .cancelled) :
    (s.endCall pacing e).clock = s.clock := by
  rw [endCall_of_cancelled pacing s e cancelled]
  exact s.tell_clock e

theorem endCall_invoker_of_cancelled (e : CallEnd) (cancelled : s.invoker.phase = .cancelled) :
    (s.endCall pacing e).invoker = { s.invoker with
      task := .ended (if e.outcome?.isSome then .returned else e.ending)
      interrupted := false } := by
  rw [endCall_of_cancelled pacing s e cancelled, finish, tell_invoker]

variable (service pacing) in
/-- Let go on, a cancelled loop comes to its end at once. -/
theorem settle_windup (sound : s.invoker.Sound) (cancelled : s.invoker.phase = .cancelled) :
    (s.settle service pacing).clock = s.clock ∧
    (s.settle service pacing).invoker.phase = .cancelled ∧
    (s.settle service pacing).invoker.ticks = s.invoker.ticks ∧
    (s.settle service pacing).invoker.task.isAlive = false := by
  cases interrupted : s.invoker.interrupted with
  | false =>
    have ended := ended_of_calm sound cancelled interrupted
    rw [settle_of_ended ended]
    exact ⟨rfl, cancelled, rfl, ended⟩
  | true =>
    have alive := sound.alive interrupted
    cases calling : s.invoker.task.isCalling with
    | false =>
      rw [settle_of_idle interrupted alive calling]
      exact ⟨rfl, cancelled, rfl, rfl⟩
    | true =>
      obtain ⟨limit, wake, task⟩ := Task.isCalling_iff.mp calling
      rw [settle_of_calling interrupted task]
      have cancelled' :
        ({ s with service := (service.interrupt s.service).2 } : Scene σ).invoker.phase
          = .cancelled := cancelled
      rw [endCall_clock_of_cancelled _ cancelled', endCall_invoker_of_cancelled _ cancelled']
      exact ⟨rfl, cancelled, rfl, rfl⟩

/-- Time makes no difference to how the last tick of a cancelled loop ends. -/
theorem Unmoved.endCall (unmoved : Unmoved s s') (cancelled : s.invoker.phase = .cancelled)
    (e : CallEnd) :
    Unmoved (s.endCall pacing e) (s'.endCall pacing e) := by
  obtain ⟨same, invoker, told⟩ := unmoved
  have cancelled' : s'.invoker.phase = .cancelled := by rwa [invoker]
  refine ⟨?_, ?_, ?_⟩
  · rw [endCall_service, endCall_service, same]
  · rw [endCall_invoker_of_cancelled e cancelled,
      endCall_invoker_of_cancelled e cancelled', invoker]
  · rw [endCall_told, endCall_told, told, invoker]

/-- Time makes no difference to how a cancelled loop comes to its end. -/
theorem Unmoved.settle (unmoved : Unmoved s s') (sound : s.invoker.Sound)
    (cancelled : s.invoker.phase = .cancelled) :
    Unmoved (s.settle service pacing) (s'.settle service pacing) := by
  obtain ⟨same, invoker, told⟩ := unmoved
  cases interrupted : s.invoker.interrupted with
  | false =>
    have ended := ended_of_calm sound cancelled interrupted
    rw [settle_of_ended ended, settle_of_ended (by rwa [invoker])]
    exact ⟨same, invoker, told⟩
  | true =>
    have alive := sound.alive interrupted
    have interrupted' : s'.invoker.interrupted = true := by rwa [invoker]
    cases calling : s.invoker.task.isCalling with
    | false =>
      rw [settle_of_idle interrupted alive calling,
        settle_of_idle interrupted' (by rwa [invoker]) (by rwa [invoker])]
      exact ⟨same, by simp only [finish, invoker], told⟩
    | true =>
      obtain ⟨limit, wake, task⟩ := Task.isCalling_iff.mp calling
      rw [settle_of_calling interrupted task,
        settle_of_calling interrupted' (by rwa [invoker]), same]
      have broken : Unmoved { s with service := (service.interrupt s.service).2 }
          { s' with service := (service.interrupt s.service).2 } := ⟨rfl, invoker, told⟩
      exact broken.endCall cancelled _

/-- After a cancellation a loop stays where it is until it is let go on, and then it comes to its
end. -/
theorem Driven.of_cancelled (driven : Driven service pacing s ends s') (sound : s.invoker.Sound)
    (cancelled : s.invoker.phase = .cancelled) :
    Unmoved s s' ∨ Unmoved (s.settle service pacing) s' := by
  obtain ⟨_, cancelled₂, _, ended₂⟩ := settle_windup service pacing sound cancelled
  induction driven with
  | refl => exact .inl (.refl s)
  | @tail _ _ s₁ _ driven move ih =>
    have sound₁ := driven.sound sound
    have cancelled₁ : s₁.invoker.phase = .cancelled := by
      rcases ih with same | same
      · rw [same.invoker, cancelled]
      · rw [same.invoker, cancelled₂]
    cases move with
    -- Only an idle invoker can be started.
    | start started => cases cancelled₁.symm.trans (start_eq_ok_iff.mp started).1
    | cancel =>
      rw [cancel_of_cancelled cancelled₁]
      exact ih
    | stir stir =>
      cases stir with
      | settle =>
        rcases ih with same | same
        · exact .inr (same.settle sound cancelled)
        · rw [settle_of_ended (by rw [same.invoker, ended₂])]
          exact .inr same
      | fire still next =>
        -- Everyone waits, so the loop has come to its end and waits for no timer.
        have ended := ended_of_calm sound₁ cancelled₁ still.calm
        cases task : s₁.invoker.task with
        | absent | scheduled | ended =>
          rw [task] at next
          cases next
        | calling | resting =>
          rw [task] at ended
          cases ended
    | timer | reach =>
      exact ih.imp (fun same => ⟨same.1, same.2, same.3⟩) fun same => ⟨same.1, same.2, same.3⟩

theorem ending_eq_error_iff {task : Task} {fault : Fault} :
    ending task = .error fault ↔ task = .ended (.failed fault) := by
  cases task with
  | ended how => cases how <;> simp [ending]
  | absent | scheduled | calling | resting => simp [ending]

/-- To wait for the end of a cancelled loop is to let it go on once. -/
theorem waitClosed_of_cancelled (fuel : Nat) (sound : s.invoker.Sound)
    (cancelled : s.invoker.phase = .cancelled) : s.waitClosed service pacing fuel
      = (ending (s.settle service pacing).invoker.task, s.settle service pacing) := by
  obtain ⟨_, _, _, ended⟩ := settle_windup service pacing sound cancelled
  unfold waitClosed
  cases alive : s.invoker.task.isAlive with
  | false =>
    rw [settle_of_ended alive]
    rfl
  | true =>
    have drained :
      drain service pacing fuel (s.settle service pacing) = s.settle service pacing := by
      cases fuel with
      | zero => rfl
      | succ fuel =>
        unfold drain
        cases task : (s.settle service pacing).invoker.task with
        | absent | ended => rfl
        | scheduled | calling | resting =>
          rw [task] at ended
          cases ended
    simp only [if_true, drained]

end

/-- Since a moment no call was entered and no tick began, and the monitor was told some news. -/
structure Since (s s' : Scene (Watched σ)) (news : List (Int × Outcome)) : Prop where
  entered : s'.service.entered = s.service.entered
  ticks : s'.invoker.ticks = s.invoker.ticks
  told : s'.told = s.told ++ news

section

variable {s s' : Scene (Watched σ)} {ends : List CallEnd}

theorem Unmoved.since (unmoved : Unmoved s s') : Since s s' [] where
  entered := by rw [unmoved.service]
  ticks := by rw [unmoved.invoker]
  told := by rw [unmoved.told, List.append_nil]

theorem Since.unmoved {s'' : Scene (Watched σ)} {tale : List (Int × Outcome)}
    (since : Since s s' tale)
    (unmoved : Unmoved s' s'') : Since s s'' tale where
  entered := by rw [unmoved.service, since.entered]
  ticks := by rw [unmoved.invoker, since.ticks]
  told := by rw [unmoved.told, since.told]

/-- A call that is broken off is heard only if it has no limit and does not give in. -/
theorem broken_outcome {limited : Bool} {a? : Option Answer} {outcome : Outcome}
    (told : (CallEnd.broken limited a?).outcome? = some outcome) :
    limited = false ∧ ∃ a, a? = some a ∧ a.outcome? = some outcome := by
  cases limited with
  | true => cases told
  | false =>
    cases a? with
    | none => cases told
    | some a => exact ⟨rfl, a, rfl, told⟩

variable (service pacing) in
/-- Let go on, a cancelled loop breaks its call off, if one is under way, and that may be news. -/
theorem settle_since (sound : s.invoker.Sound) (cancelled : s.invoker.phase = .cancelled) :
    Since s (s.settle service.watched pacing) [] ∨
    ∃ wake a outcome, s.invoker.task = .calling none wake ∧
      (service.interrupt s.service.state).1 = some a ∧ a.outcome? = some outcome ∧
      Since s (s.settle service.watched pacing) [((s.invoker.ticks : Int), outcome)] := by
  cases interrupted : s.invoker.interrupted with
  | false =>
    rw [settle_of_ended (ended_of_calm sound cancelled interrupted)]
    exact .inl (Unmoved.refl s).since
  | true =>
    cases calling : s.invoker.task.isCalling with
    | false =>
      rw [settle_of_idle interrupted (sound.alive interrupted) calling]
      exact .inl ⟨rfl, rfl, (List.append_nil _).symm⟩
    | true =>
      obtain ⟨limit, wake, task⟩ := Task.isCalling_iff.mp calling
      rw [settle_of_calling interrupted task]
      -- Only an answer without a limit is told, and then it is the last thing told.
      cases told :
        (CallEnd.broken limit.isSome (service.watched.interrupt s.service).1).outcome? with
      | none =>
        refine .inl ⟨?_, endCall_ticks _ _ _, ?_⟩
        · rw [endCall_service]
          rfl
        · rw [endCall_told, CallEnd.news, told]
          rfl
      | some outcome =>
        obtain ⟨unlimited, a, answers, heard⟩ := broken_outcome told
        cases limit with
        | some limit => cases unlimited
        | none =>
          refine .inr ⟨wake, a, outcome, task, answers, heard, ?_, endCall_ticks _ _ _, ?_⟩
          · rw [endCall_service]
            rfl
          · rw [endCall_told, CallEnd.news, told]
            rfl

/-- After a cancellation there may be news of the call that was under way, and of no other. -/
theorem Driven.since (driven : Driven service.watched pacing s.cancel ends s')
    (sound : s.invoker.Sound) :
    Since s s' [] ∨ ∃ wake a outcome, s.invoker.task = .calling none wake ∧
      (service.interrupt s.service.state).1 = some a ∧ a.outcome? = some outcome ∧
      Since s s' [((s.invoker.ticks : Int), outcome)] := by
  have sound' := cancel_sound sound
  have before {s'' : Scene (Watched σ)} {tale : List (Int × Outcome)}
    (since : Since s.cancel s'' tale) :
      Since s s'' tale := by
    obtain ⟨entered, ticks, told⟩ := since
    rw [cancel_service] at entered
    rw [cancel_ticks] at ticks
    rw [cancel_told] at told
    exact ⟨entered, ticks, told⟩
  rcases driven.of_cancelled sound' s.cancel_cancelled with same | same
  · exact .inl (before same.since)
  · rcases settle_since service pacing sound' s.cancel_cancelled with
      since | ⟨wake, a, outcome, task, answers, heard, since⟩
    · exact .inl (before (since.unmoved same))
    · rw [cancel_task] at task
      rw [cancel_service] at answers
      rw [cancel_ticks] at since
      exact .inr ⟨wake, a, outcome, task, answers, heard, before (since.unmoved same)⟩

end

/-- What becomes of a call that cancels its own invoker: it ends without waiting, or it is broken
off. -/
inductive CutsShort (service : Service σ) (state : σ) : CallEnd → σ → Prop where
  | answered (wait : (service.enter state).1.wait = .none) :
      CutsShort service state (.answered (service.finish (service.enter state).2).1)
        (service.finish (service.enter state).2).2
  | broken (limited : Bool) :
      CutsShort service state (.broken limited (service.interrupt (service.enter state).2).1)
        (service.interrupt (service.enter state).2).2

/-- What is left to do when the invoker was cancelled in the midst of a move: the call that did it
comes to its end, and so does the loop. -/
structure Cut (service : Service σ) (s : Scene σ) (e : CallEnd) (s' : Scene σ) : Prop where
  cancels : (service.enter s.service).1.cancelsInvoker = true
  call : CutsShort service s.service e s'.service
  cancelled : s'.invoker.phase = .cancelled
  ended : s'.invoker.task.isAlive = false
  ticks : s'.invoker.ticks = s.invoker.ticks + 1
  told : s'.told = s.told ++ e.news (s.invoker.ticks + 1)

theorem Begins.cut {s s' : Scene σ} {e? : Option CallEnd} (begins : Begins service pacing s e? s')
    (running : s.invoker.Running) (cancelled : s'.invoker.phase = .cancelled) :
    ∃ e, e? = some e ∧ Cut service s e s' := by
  have going : s.invoker.phase ≠ .cancelled := by
    rw [running.phase]
    exact Phase.noConfusion
  cases begins with
  | refused => exact absurd ((endCall_phase _ _ _).symm.trans cancelled) going
  -- A call that cancels the invoker is broken off where it waits, so this one did not.
  | calls opened waits calm => cases (called_going running calm).symm.trans cancelled
  | @callsOnce e state clock once ends =>
    have phase : ({ s.called service pacing with clock, service := state } : Scene σ).invoker.phase
        = .cancelled := by
      rw [endCall_phase] at cancelled
      exact cancelled
    refine ⟨e, rfl, ?_, ?_, cancelled, ?_, ?_, ?_⟩
    · rcases called_cases service pacing s with ⟨same, _⟩ | ⟨_, cancels⟩
      · simp only [same, arm_invoker] at phase
        exact absurd phase going
      · exact cancels
    · rw [endCall_service]
      cases ends with
      | answered =>
        rcases once with ⟨_, _, broken⟩ | ⟨wait, _⟩
        · cases broken
        · rw [called_service]
          exact .answered wait
      | expired =>
        rcases once with ⟨_, _, broken⟩ | ⟨_, _, _, answered⟩
        · cases broken
        · cases answered
      | broken limited =>
        rw [called_service]
        exact .broken limited
    · rw [endCall_invoker_of_cancelled e phase]
      rfl
    · rw [endCall_ticks]
      exact called_ticks service pacing s
    · have told :
        ({ s.called service pacing with clock, service := state } : Scene σ).told = s.told :=
        called_told service pacing s
      have ticks :
        ({ s.called service pacing with clock, service := state } : Scene σ).invoker.ticks
          = s.invoker.ticks + 1 := called_ticks service pacing s
      rw [endCall_told, told, ticks]

/-- Only a call that was just entered can cancel the invoker in the midst of a move. -/
theorem Stir.cut {s s' : Scene σ} {e? : Option CallEnd} (stir : Stir service pacing s e? s')
    (sound : s.invoker.Sound) (going : s.invoker.phase ≠ .cancelled)
    (cancelled : s'.invoker.phase = .cancelled) : ∃ e, e? = some e ∧ Cut service s e s' := by
  obtain ⟨clock, goes⟩ := stir.goes sound
  cases goes with
  | waits => exact absurd cancelled going
  | stops idle interrupted => exact absurd (sound.cancelled interrupted) going
  | ends => exact absurd ((endCall_phase _ _ _).symm.trans cancelled) going
  | begins running alive idle begins =>
    obtain ⟨e, ends, cut⟩ := begins.cut running cancelled
    exact ⟨e, ends, cut.cancels, cut.call, cut.cancelled, cut.ended, cut.ticks, cut.told⟩

theorem CutsShort.entered {w w' : Watched σ} {e : CallEnd}
    (cut : CutsShort service.watched w e w') :
    w'.entered = w.entered + 1 := by
  cases cut with
  | answered | broken => rfl

/-- However an invoker is cancelled, no call is entered and no tick begins from that moment on, and
the monitor is told of one more call at most.

Cancelled from outside, that is the call which was under way, and only if it has no limit and
answered with a value or a fault when it was broken off. Cancelled by its own call, that is this
call, and only if it did not wait or answered when it was broken off. Waiting for the loop's end
takes no time, finds it at its end and passes on the fault that ended it, if it was a fault. -/
theorem driven_windup {state : σ} {monitor : Monitor} {ends : List CallEnd} {s : Scene (Watched σ)}
    (driven : Driven service.watched pacing (.opening ⟨state, 0, 0⟩ monitor) ends s) :
    (∀ ends' s', Driven service.watched pacing s.cancel ends' s' →
      Since s s' [] ∨ ∃ wake a outcome, s.invoker.task = .calling none wake ∧
        (service.interrupt s.service.state).1 = some a ∧ a.outcome? = some outcome ∧
        Since s s' [((s.invoker.ticks : Int), outcome)]) ∧
    (∀ e? s₁, Stir service.watched pacing s e? s₁ → s.invoker.phase ≠ .cancelled →
      s₁.invoker.phase = .cancelled →
      ∃ e, e? = some e ∧ Cut service.watched s e s₁ ∧ s₁.service.entered = s.service.entered + 1 ∧
        ∀ ends' s', Driven service.watched pacing s₁ ends' s' → Since s₁ s' []) ∧
    (s.invoker.phase = .cancelled → ∀ fuel,
      (s.waitClosed service.watched pacing fuel).2.clock = s.clock ∧
      (s.waitClosed service.watched pacing fuel).2.invoker.task.isAlive = false ∧
      ∀ fault, (s.waitClosed service.watched pacing fuel).1 = .error fault ↔
        (s.waitClosed service.watched pacing fuel).2.invoker.task = .ended (.failed fault)) := by
  have sound := driven.sound Invoker.fresh_sound
  refine ⟨fun _ _ later => later.since sound, ?_, ?_⟩
  · intro e? s₁ stir going cancelled
    obtain ⟨e, ends, cut⟩ := stir.cut sound going cancelled
    refine ⟨e, ends, cut, cut.call.entered, fun _ s' later => ?_⟩
    have sound₁ := (driven.tail (.stir stir)).sound Invoker.fresh_sound
    rcases later.of_cancelled sound₁ cancelled with same | same
    · exact same.since
    · rw [settle_of_ended cut.ended] at same
      exact same.since
  · intro cancelled fuel
    obtain ⟨clock, _, _, ended⟩ := settle_windup service.watched pacing sound cancelled
    rw [waitClosed_of_cancelled fuel sound cancelled]
    refine ⟨clock, ended, fun fault => ?_⟩
    exact ending_eq_error_iff

/-- Half a second from one call to the next, without a limit. -/
def patient : Pacing := { leisurely with limit := .none }

/-- The second call of a cast waits. -/
def secondCall : Scene (Watched Cast) :=
  (((Scene.opening ⟨stubborn, 0, 0⟩ (.start none)).begun patient).settle
    Cast.service.watched patient).fire
    Cast.service.watched patient ⟨500000, 0⟩

/-- Broken off by a cancellation, the second call has the last word. -/
theorem secondCall_windup : ∃ ends,
    Driven Cast.service.watched patient (.opening ⟨stubborn, 0, 0⟩ (.start none)) ends secondCall ∧
    Since secondCall (secondCall.cancel.settle Cast.service.watched patient) [(2, .value 55)] ∧
    secondCall.cancel.invoker.phase = .cancelled ∧
    (secondCall.cancel.waitClosed Cast.service.watched patient 0).2.clock = secondCall.clock ∧
    (secondCall.cancel.waitClosed Cast.service.watched patient 0).2.invoker.task.isAlive
      = false := by
  have answered :
    Driven Cast.service.watched patient (.opening ⟨stubborn, 0, 0⟩ (.start none)) _ _ :=
    (driven_begun Cast.service.watched rfl).tail (.stir .settle)
  have waiting := answered.tail (.stir (.fire (t := ⟨500000, 0⟩) ⟨rfl, Task.noConfusion⟩ rfl))
  obtain ⟨news, _, _⟩ := driven_windup waiting
  obtain ⟨_, _, closed⟩ := driven_windup (waiting.tail .cancel)
  obtain ⟨clock, ended, _⟩ := closed rfl 0
  refine ⟨_, waiting, ?_, rfl, clock, ended⟩
  rcases news _ _ (.single (.stir .settle)) with ⟨_, _, told⟩ |
    ⟨wake, a, outcome, _, answers, heard, since⟩
  · cases told
  · cases answers
    cases heard
    exact since

end Drill.Scene
