import Drill.Proofs.Sequence

/-!
# What a loop survives

A loop is meant to go on until its invoker is cancelled, whatever becomes of its calls. It survives
every fault and every call that takes too long. It does not survive a call that ends with a
cancellation although nobody cancelled anything, nor one that answers without a value: the invoker
is still running, but its loop has come to its end.

Main statements: `driven_alive_iff`, these two are all that a running invoker does not survive as
long as its delay can be counted, and `quitting_not_alive`, one call is enough.
-/

namespace Drill.Scene

variable {σ : Type} {service : Service σ} {pacing : Pacing}

variable (pacing) in
/-- What a running invoker's loop has behind it and whether it is alive. -/
structure Lasting (ends : List CallEnd) (s : Scene σ) : Prop where
  idle : s.invoker.phase = .idle → ends = []
  /-- No call is broken off for a cancellation of the invoker. -/
  unbroken : s.invoker.phase ≠ .cancelled → ∀ e ∈ ends, ∀ limited a, e ≠ .broken limited a
  alive_iff : s.invoker.phase = .running → (s.invoker.task.isAlive = true ↔
    (∀ e ∈ ends, e.outcome? ≠ none) ∧ (ends = [] ∨ ∃ span, pacing.period = .ok span))

namespace Lasting

variable {ends : List CallEnd} {s s' : Scene σ}

theorem of_cancelled (cancelled : s.invoker.phase = .cancelled) : Lasting pacing ends s where
  idle idle := by cases cancelled.symm.trans idle
  unbroken going := absurd cancelled going
  alive_iff running := by cases cancelled.symm.trans running

/-- A tick ends of which all predecessors were told. -/
theorem endCall {e : CallEnd} (busy : s.invoker.phase ≠ .idle) (all : ∀ e ∈ ends, e.outcome? ≠ none)
    (unbroken : ∀ e ∈ ends, ∀ limited a, e ≠ .broken limited a)
    (last : s.invoker.phase ≠ .cancelled → ∀ limited a, e ≠ .broken limited a) :
    Lasting pacing (ends ++ [e]) (s.endCall pacing e) where
  idle idle := by
    rw [endCall_phase] at idle
    exact absurd idle busy
  unbroken going := by
    rw [endCall_phase] at going
    exact List.forall_mem_append.mpr ⟨unbroken, List.forall_mem_singleton.mpr (last going)⟩
  alive_iff running := by
    rw [endCall_phase] at running
    have going : s.invoker.phase ≠ .cancelled := by
      rw [running]
      exact Phase.noConfusion
    rw [endCall_alive_iff pacing s e going, List.forall_mem_append, List.forall_mem_singleton]
    constructor
    · rintro ⟨told, counted⟩
      exact ⟨⟨all, told⟩, .inr counted⟩
    · rintro ⟨⟨_, told⟩, none | counted⟩
      · exact absurd none (by simp)
      · exact ⟨told, counted⟩

/-- No call is broken off unless the invoker was cancelled. -/
theorem not_broken {e : CallEnd} {state : σ} (ends : Ends service s e state)
    (sound : s.invoker.Sound)
    (going : s.invoker.phase ≠ .cancelled) : ∀ limited a, e ≠ .broken limited a := by
  cases ends with
  | answered | expired => exact fun _ _ => CallEnd.noConfusion
  | broken _ interrupted => exact absurd (sound.cancelled interrupted) going

/-- Whatever a loop does, it lasts as long as it may. -/
theorem goes {e : Option CallEnd} (lasting : Lasting pacing ends s) (sound : s.invoker.Sound)
    (goes : Goes service pacing s e s') : Lasting pacing (ends ++ e.toList) s' := by
  cases goes with
  | waits =>
    rw [Option.toList_none, List.append_nil]
    exact lasting
  | stops idle interrupted => exact of_cancelled (sound.cancelled interrupted)
  | begins running alive idle begins =>
    -- The loop is alive at the beginning of this tick, so all ticks before were told of.
    have unbroken := lasting.unbroken (by rw [running.phase]; exact Phase.noConfusion)
    have told := (lasting.alive_iff running.phase).mp alive
    cases begins with
    | refused limit =>
      have busy : s.tick.invoker.phase ≠ .idle := by
        rw [tick_running running |>.phase]
        exact Phase.noConfusion
      exact endCall busy told.1 unbroken fun _ _ _ => CallEnd.noConfusion
    | calls opened waits calm =>
      rw [Option.toList_none, List.append_nil]
      have going := called_going running calm
      refine ⟨fun idle => ?_, fun _ => unbroken, fun _ => ⟨fun _ => told, fun _ => rfl⟩⟩
      cases going.symm.trans idle
    | callsOnce clock once ends' =>
      have sound := called_sound service pacing running
      have busy := sound.busy (by rw [called_task]; rfl)
      have last := not_broken ends' sound
      exact endCall busy told.1 unbroken last
  | ends calling ends' =>
    have busy := sound.busy (Task.isAlive_of_isCalling calling)
    -- Nothing is asked of the loop of a cancelled invoker.
    by_cases cancelled : s.invoker.phase = .cancelled
    · exact of_cancelled ((endCall_phase _ _ _).trans cancelled)
    · have running : s.invoker.phase = .running := by
        cases phase : s.invoker.phase with
        | running => rfl
        | idle => exact absurd phase busy
        | cancelled => exact absurd phase cancelled
      have told := (lasting.alive_iff running).mp (Task.isAlive_of_isCalling calling)
      have last := not_broken ends' sound
      exact endCall busy told.1 (lasting.unbroken cancelled) last

/-- Whatever is done with an invoker, its loop lasts as long as it may. -/
theorem driven {state : σ} {monitor : Monitor}
    (driven : Driven service pacing (.opening state monitor) ends s) : Lasting pacing ends s := by
  induction driven with
  | refl => exact ⟨fun _ => rfl, fun _ _ member => (nomatch member), Phase.noConfusion⟩
  | @tail _ _ s₁ _ driven move ih =>
    have sound := driven.sound Invoker.fresh_sound
    cases move with
    | start started =>
      obtain ⟨idle, rfl⟩ := start_eq_ok_iff.mp started
      rw [ih.idle idle]
      exact ⟨Phase.noConfusion, fun _ _ member => (nomatch member),
        fun _ => ⟨fun _ => ⟨fun _ member => (nomatch member), .inl rfl⟩, fun _ => rfl⟩⟩
    | cancel => exact of_cancelled (cancel_cancelled s₁)
    | stir stir =>
      obtain ⟨clock, goes⟩ := stir.goes sound
      have lasting : Lasting pacing _ { s₁ with clock } := ⟨ih.idle, ih.unbroken, ih.alive_iff⟩
      exact lasting.goes sound goes
    | timer | reach =>
      rw [Option.toList_none, List.append_nil]
      exact ⟨ih.idle, ih.unbroken, ih.alive_iff⟩

end Lasting

/-- Of a call that is not broken off the monitor is told, unless it ends with a cancellation or
without a value. -/
theorem outcome?_ne_none_iff {e : CallEnd} (unbroken : ∀ limited a, e ≠ .broken limited a) :
    e.outcome? ≠ none ↔ ¬e.Cancels ∧ ¬e.Valueless := by
  rw [ne_eq, CallEnd.outcome?_eq_none_iff]
  constructor
  · exact fun told =>
      ⟨fun cancels => told (.inr (.inl cancels)), fun none => told (.inr (.inr (.inl none)))⟩
  · rintro ⟨uncancelled, valued⟩ (⟨limited, gaveIn⟩ | cancels | valueless | ⟨a, _, unheard⟩)
    · exact unbroken _ _ gaveIn
    · exact uncancelled cancels
    · exact valued valueless
    · exact unbroken _ _ unheard

/-- The loop of a running invoker waits for its first call, for an answer or for the next call,
exactly as long as no call ended with a cancellation or without a value, and its delay can be
counted if a call ended. -/
theorem driven_alive_iff {state : σ} {monitor : Monitor} {ends : List CallEnd} {s : Scene σ}
    (driven : Driven service pacing (.opening state monitor) ends s)
    (running : s.invoker.phase = .running) :
    (s.invoker.task = .scheduled ∨ s.invoker.task.isCalling = true ∨
      ∃ wake, s.invoker.task = .resting wake) ↔
      (∀ e ∈ ends, ¬e.Cancels ∧ ¬e.Valueless) ∧ (ends = [] ∨ ∃ span, pacing.period = .ok span) := by
  have lasting := Lasting.driven driven
  have unbroken := lasting.unbroken (by rw [running]; exact Phase.noConfusion)
  have survives : (∀ e ∈ ends, e.outcome? ≠ none) ↔ ∀ e ∈ ends, ¬e.Cancels ∧ ¬e.Valueless :=
    forall₂_congr fun e member => outcome?_ne_none_iff (unbroken e member)
  rw [← survives, ← lasting.alive_iff running]
  cases s.invoker.task <;> simp [Task.isAlive, Task.isCalling]

/-- A call fails, and so does the next one. -/
def failing : Cast := .start [] ⟨⟨false, .none⟩, .fault Limit.exceeded, none⟩ 0

/-- The first call ends with a cancellation. -/
def quitting : Cast := .start [⟨⟨false, .none⟩, .cancelled, none⟩] ⟨⟨false, .none⟩, .next, none⟩ 0

/-- A millisecond from one call to the next. -/
def quick : Pacing := ⟨.half, .ok 1000, .none⟩

theorem failing_alive : ∃ ends s,
    Driven Cast.service quick (.opening failing (.start none)) ends s ∧ s.invoker.phase = .running ∧
    s.monitor.failures = 2 ∧
    (s.invoker.task = .scheduled ∨ s.invoker.task.isCalling = true ∨
      ∃ wake, s.invoker.task = .resting wake) := by
  have failed : Driven Cast.service quick (.opening failing (.start none)) _ _ :=
    (driven_begun Cast.service rfl).tail (.stir .settle)
  have again := failed.tail (.stir (.fire (t := ⟨1000, 0⟩) ⟨rfl, Task.noConfusion⟩ rfl))
  refine ⟨_, _, again, rfl, rfl, (driven_alive_iff again rfl).mpr ⟨?_, .inr ⟨1000, rfl⟩⟩⟩
  intro e member
  have failure : e = .answered (.fault Limit.exceeded) := by
    rcases List.mem_cons.mp member with first | second
    · exact first
    · exact List.mem_singleton.mp second
  rw [failure]
  refine ⟨?_, fun valueless => by cases valueless⟩
  rintro (cancels | ⟨limited, cancels⟩)
  · cases cancels
  · cases cancels

/-- One cancellation that a call ends with is enough, although nobody cancelled the invoker. -/
theorem quitting_not_alive :
    ¬∀ (ends : List CallEnd) (s : Scene Cast),
      Driven Cast.service quick (.opening quitting (.start none)) ends s →
      s.invoker.phase = .running →
      (s.invoker.task = .scheduled ∨ s.invoker.task.isCalling = true ∨
        ∃ wake, s.invoker.task = .resting wake) := by
  intro alive
  rcases alive _ _ ((driven_begun Cast.service rfl).tail (.stir .settle)) rfl with scheduled |
    calling | ⟨wake, resting⟩
  · cases scheduled
  · cases calling
  · cases resting

end Drill.Scene
