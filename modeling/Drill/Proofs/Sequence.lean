import Drill.Proofs.Drive
import Drill.Invoker.Cue

/-!
# The numbers of the calls

The monitor is told of the calls of an invoker in their order and with their numbers, whatever is
done with the invoker and whatever its service does. `Ledger` compares the invoker with the ends of
its calls, and `Watched` counts the calls that were entered and those that were left. A call of
which the monitor is not told is the last one: with it the loop has come to its end in the middle of
a tick.

Main statements: `Ledger.driven` and `Counted.driven`, both books are kept in every row of moves,
`outcome?_eq_none_iff`, of which calls the monitor is not told, and `driven_numbers`, the numbers
that it is told and the number of ticks.
-/

namespace Drill

namespace CallEnd

variable (e : CallEnd)

/-- It gave in when the invoker was cancelled. -/
def GaveIn : Prop := ∃ limited, e = .broken limited none

/-- It raised a cancellation of its own. -/
def Cancels : Prop := e = .answered .cancelled ∨ ∃ limited, e = .broken limited (some .cancelled)

/-- It answered without a value, which is no outcome. -/
def Valueless : Prop := e.answer? = some (.value none)

/-- It answered when the invoker was cancelled, but through its limit nobody heard it any more. -/
def Unheard : Prop := ∃ a, a ≠ .cancelled ∧ e = .broken true (some a)

variable {e}

/-- There are four ways for a call to end without an outcome. -/
theorem outcome?_eq_none_iff :
    e.outcome? = none ↔ e.GaveIn ∨ e.Cancels ∨ e.Valueless ∨ e.Unheard := by
  constructor
  · intro untold
    -- Every end with an outcome is absurd here, and the others are told apart by their answers.
    cases e with
    | refused fault => cases untold
    | answered a =>
      cases a with
      | fault fault => cases untold
      | cancelled => exact .inr (.inl (.inl rfl))
      | value v? =>
        cases v? with
        | none => exact .inr (.inr (.inl rfl))
        | some v => cases untold
    | expired a? =>
      cases a? with
      | none => cases untold
      | some a =>
        cases a with
        | fault fault => cases untold
        | cancelled => cases untold
        | value v? =>
          cases v? with
          | none => exact .inr (.inr (.inl rfl))
          | some v => cases untold
    | broken limited a? =>
      cases a? with
      | none => exact .inl ⟨limited, rfl⟩
      | some a =>
        -- Under a limit an answer is not heard, unless it is a cancellation of its own.
        by_cases cancels : a = .cancelled
        · exact .inr (.inl (.inr ⟨limited, by rw [cancels]⟩))
        · cases limited with
          | true => exact .inr (.inr (.inr ⟨a, cancels, rfl⟩))
          | false =>
            cases a with
            | fault fault => cases untold
            | cancelled => exact absurd rfl cancels
            | value v? =>
              cases v? with
              | none => exact .inr (.inr (.inl rfl))
              | some v => cases untold
  · rintro (⟨limited, rfl⟩ | (rfl | ⟨limited, rfl⟩) | valueless | ⟨a, _, rfl⟩)
    · cases limited <;> rfl
    · rfl
    · cases limited <;> rfl
    · unfold outcome?
      rw [valueless]
      rfl
    · rfl

end CallEnd

/-- A service whose calls are counted. -/
structure Watched (σ : Type) where
  state : σ
  /-- How many calls were entered. -/
  entered : Nat
  /-- How many calls were left, with an answer or not. -/
  left : Nat

/-- The service with its calls counted. -/
def Service.watched {σ : Type} (service : Service σ) : Service (Watched σ) where
  enter w := ((service.enter w.state).1, ⟨(service.enter w.state).2, w.entered + 1, w.left⟩)
  finish w := ((service.finish w.state).1, ⟨(service.finish w.state).2, w.entered, w.left + 1⟩)
  interrupt w :=
    ((service.interrupt w.state).1, ⟨(service.interrupt w.state).2, w.entered, w.left + 1⟩)

namespace Scene

variable {σ : Type} {service : Service σ} {pacing : Pacing}

/-- A call that ends was left once. -/
theorem Ends.watched {s : Scene (Watched σ)} {w : Watched σ} {e : CallEnd}
    (ends : Ends service.watched s e w) :
    w.entered = s.service.entered ∧ w.left = s.service.left + 1 := by
  cases ends with
  | answered | expired | broken => exact ⟨rfl, rfl⟩

/-- A call that was entered and not left is under way. -/
def Counted (s : Scene (Watched σ)) : Prop :=
  s.service.entered = s.service.left + s.invoker.task.isCalling.toNat

section

variable {s s' : Scene (Watched σ)} {e : Option CallEnd}

theorem Counted.of_idle (idle : s.invoker.task.isCalling = false)
    (counts : s.service.entered = s.service.left) : s.Counted := by
  unfold Counted
  rw [idle]
  exact counts

theorem Counted.idle (counted : s.Counted) (idle : s.invoker.task.isCalling = false) :
    s.service.entered = s.service.left := by
  unfold Counted at counted
  rw [idle] at counted
  exact counted

/-- Every move of a loop keeps the count. -/
theorem Counted.goes (counted : s.Counted) (goes : Goes service.watched pacing s e s') :
    s'.Counted := by
  have entered : (s.called service.watched pacing).service.entered = s.service.entered + 1 ∧
      (s.called service.watched pacing).service.left = s.service.left := by
    rw [called_service]
    exact ⟨rfl, rfl⟩
  cases goes with
  | waits => exact counted
  | stops idle => exact .of_idle rfl (counted.idle idle)
  | begins running _ idle begins =>
    have equal := counted.idle idle
    cases begins with
    | refused =>
      refine .of_idle (endCall_idle pacing _ _) ?_
      rw [endCall_service]
      exact equal
    | calls =>
      show (s.called service.watched pacing).service.entered = _ + 1
      rw [entered.1, equal]
      exact congrArg (· + 1) entered.2.symm
    | callsOnce clock once ends =>
      -- The call is entered and left in one move.
      obtain ⟨still, one⟩ := ends.watched
      refine .of_idle (endCall_idle pacing _ _) ?_
      simp only [endCall_service]
      omega
  | ends calling ends =>
    obtain ⟨still, one⟩ := ends.watched
    unfold Counted at counted
    rw [calling] at counted
    refine .of_idle (endCall_idle pacing _ _) ?_
    simp only [endCall_service, still, one]
    exact counted

/-- Every call is entered once and left once, and none is entered while another one is under way. -/
theorem Counted.driven {ends : List CallEnd} (driven : Driven service.watched pacing s ends s')
    (counted : s.Counted) (sound : s.invoker.Sound) : s'.Counted := by
  induction driven with
  | refl => exact counted
  | @tail _ _ s₁ _ driven move ih =>
    cases move with
    | start started =>
      obtain ⟨idle, rfl⟩ := start_eq_ok_iff.mp started
      have absent := (driven.sound sound).idle idle
      exact .of_idle rfl (ih.idle (by rw [absent]; rfl))
    | cancel =>
      unfold Counted
      rw [cancel_service, cancel_task]
      exact ih
    | stir stir =>
      obtain ⟨clock, goes⟩ := stir.goes (driven.sound sound)
      have counted : Counted { s₁ with clock } := ih
      exact counted.goes goes
    | timer | reach => exact ih

end

/-- The outcomes with their numbers, from one on. -/
def numbered (outcomes : List Outcome) : List (Int × Outcome) :=
  outcomes.mapIdx fun i outcome => ((i : Int) + 1, outcome)

/-- The numbers count from one. -/
theorem map_fst_numbered (outcomes : List Outcome) :
    (numbered outcomes).map Prod.fst = (List.range outcomes.length).map fun i : Nat =>
    (i : Int) + 1 :=
  List.ext_getElem (by simp [numbered]) (by simp [numbered])

theorem map_snd_numbered (outcomes : List Outcome) : (numbered outcomes).map Prod.snd = outcomes :=
  List.ext_getElem (by simp [numbered]) (by simp [numbered])

/-- What an invoker and its monitor keep of the calls that ended. -/
structure Ledger (start : Nat) (ends : List CallEnd) (s : Scene σ) : Prop where
  /-- There is one tick for each, and one for the call that is under way. -/
  ticks : s.invoker.ticks = ends.length + s.invoker.task.isCalling.toNat
  told : s.told = numbered (ends.filterMap CallEnd.outcome?)
  invocations : s.monitor.invocations = start + (ends.filterMap CallEnd.outcome?).length
  /-- Only of the last one the monitor may not have been told. -/
  whole : ∀ e ∈ ends.dropLast, e.outcome? ≠ none
  last : ∀ e, ends.getLast? = some e → e.outcome? = none → s.invoker.task = .ended e.ending

namespace Ledger

variable {start : Nat} {ends : List CallEnd} {s s' : Scene σ}

/-- While the loop has not come to its end, the monitor was told of every call that ended. -/
theorem all_told (ledger : Ledger start ends s) (going : ∀ how, s.invoker.task ≠ .ended how) :
    ∀ e ∈ ends, e.outcome? ≠ none := by
  intro e member untold
  rcases List.eq_nil_or_concat ends with rfl | ⟨before, last, rfl⟩
  · cases member
  · rw [List.concat_eq_append] at member ledger
    rcases List.mem_append.mp member with earlier | latest
    · exact ledger.whole e (by rwa [List.dropLast_concat]) untold
    · rw [List.mem_singleton.mp latest] at untold
      exact going _ (ledger.last last List.getLast?_concat untold)

/-- If all calls have outcomes, there are as many outcomes as calls. -/
theorem length_told {ends : List CallEnd} (told : ∀ e ∈ ends, e.outcome? ≠ none) :
    (ends.filterMap CallEnd.outcome?).length = ends.length := by
  refine List.filterMap_length_eq_length.mpr fun e member => ?_
  exact Option.isSome_iff_ne_none.mpr (told e member)

/-- The books are good for every scene with the same ticks, tellings and task. -/
theorem congr (ledger : Ledger start ends s) (ticks : s'.invoker.ticks = s.invoker.ticks)
    (task : s'.invoker.task = s.invoker.task) (told : s'.told = s.told)
    (monitor : s'.monitor = s.monitor) : Ledger start ends s' where
  ticks := by rw [ticks, task, ledger.ticks]
  told := told.trans ledger.told
  invocations := by rw [monitor, ledger.invocations]
  whole := ledger.whole
  last e latest untold := by rw [task, ledger.last e latest untold]

/-- A loop that does not call may do something else without a call, as long as all were told. -/
theorem turn (ledger : Ledger start ends s) (idle : s.invoker.task.isCalling = false)
    (all : ∀ e ∈ ends, e.outcome? ≠ none)
    (ticks : s'.invoker.ticks = s.invoker.ticks + s'.invoker.task.isCalling.toNat)
    (told : s'.told = s.told) (monitor : s'.monitor = s.monitor) : Ledger start ends s' where
  ticks := by
    rw [ticks, ledger.ticks, idle]
    rfl
  told := told.trans ledger.told
  invocations := by rw [monitor, ledger.invocations]
  whole := ledger.whole
  last e latest untold := absurd untold (all e (List.mem_of_getLast? latest))

/-- A tick ends: its call is entered into the books, and the monitor is told of it or it is the last
one. -/
theorem endCall (ledger : Ledger start ends s) (calling : s.invoker.task.isCalling = true)
    (e : CallEnd) :
    Ledger start (ends ++ [e]) (s.endCall pacing e) := by
  have all := ledger.all_told (Task.ne_ended (Task.isAlive_of_isCalling calling))
  have ticks : s.invoker.ticks = ends.length + 1 := by
    rw [ledger.ticks, calling]
    rfl
  refine ⟨?_, ?_, ?_, ?_, ?_⟩
  · -- The tick that counted for the call under way counts for one that ended.
    rw [endCall_ticks, endCall_idle, ticks, List.length_append]
    rfl
  · rw [endCall_told, ledger.told, List.filterMap_append, numbered, numbered, CallEnd.news]
    cases told : e.outcome? with
    | none => simp [told]
    | some outcome =>
      -- All the others were told, so their number is the index of this one.
      simp [told, List.mapIdx_concat, length_told all, ticks]
  · rw [endCall_invocations, ledger.invocations, List.filterMap_append, List.length_append,
      Nat.add_assoc]
    cases told : e.outcome? <;> simp [told]
  · rw [List.dropLast_concat]
    exact all
  · intro e' latest untold
    rw [List.getLast?_concat] at latest
    cases latest
    exact endCall_ended pacing s untold

variable (service pacing) in
/-- A call is entered: one more tick, and nobody is told of it yet. -/
theorem called (ledger : Ledger start ends s) (idle : s.invoker.task.isCalling = false)
    (all : ∀ e ∈ ends, e.outcome? ≠ none) : Ledger start ends (s.called service pacing) := by
  refine ledger.turn idle all ?_ (called_told service pacing s) (called_monitor service pacing s)
  rw [called_ticks, called_task]
  rfl

/-- The books are kept by whatever a loop does. -/
theorem goes {e : Option CallEnd} (ledger : Ledger start ends s) (sound : s.invoker.Sound)
    (goes : Goes service pacing s e s') : Ledger start (ends ++ e.toList) s' := by
  cases goes with
  | waits =>
    rw [Option.toList_none, List.append_nil]
    exact ledger
  | stops idle interrupted =>
    rw [Option.toList_none, List.append_nil]
    exact ledger.turn idle (ledger.all_told (Task.ne_ended (sound.alive interrupted))) rfl rfl rfl
  | begins running alive idle begins =>
    have all := ledger.all_told (Task.ne_ended alive)
    have called := ledger.called service pacing idle all
    have calling : (s.called service pacing).invoker.task.isCalling = true := by
      rw [called_task]
      rfl
    cases begins with
    | refused limit =>
      have ticked : Ledger start ends s.tick := ledger.turn idle all rfl rfl rfl
      exact ticked.endCall rfl _
    | calls opened waits calm =>
      rw [Option.toList_none, List.append_nil]
      exact ledger.turn idle all (called_ticks service pacing s) (called_told service pacing s)
        (called_monitor service pacing s)
    | @callsOnce e state clock =>
      have answered : Ledger start ends { s.called service pacing with clock, service := state } :=
        called.congr rfl rfl rfl rfl
      exact answered.endCall calling e
  | @ends e state calling =>
    have answered : Ledger start ends { s with service := state } := ledger.congr rfl rfl rfl rfl
    exact answered.endCall calling e

/-- At first there is nothing to count. -/
theorem opening (state : σ) (monitor : Monitor) :
    Ledger monitor.invocations [] (Scene.opening state monitor) where
  ticks := rfl
  told := rfl
  invocations := rfl
  whole _ member := nomatch member
  last _ latest := nomatch latest

/-- The books are kept whatever is done with an invoker. -/
theorem driven {before : List CallEnd} (ledger : Ledger start before s) (sound : s.invoker.Sound)
    (driven : Driven service pacing s ends s') : Ledger start (before ++ ends) s' := by
  induction driven with
  | refl =>
    rw [List.append_nil]
    exact ledger
  | @tail _ e s₁ _ driven move ih =>
    have sound := driven.sound sound
    rw [← List.append_assoc]
    cases move with
    | start started =>
      -- An idle invoker has made no call, so nothing is open when it is started.
      rw [Option.toList_none, List.append_nil]
      obtain ⟨idle, rfl⟩ := start_eq_ok_iff.mp started
      have absent := sound.idle idle
      have all := ih.all_told (by rw [absent]; exact fun how => Task.noConfusion)
      exact ih.turn (by rw [absent]; rfl) all rfl
        ((note_told _ _).trans (List.append_nil _)) rfl
    | cancel =>
      rw [Option.toList_none, List.append_nil]
      exact ih.congr (cancel_ticks s₁) (cancel_task s₁) (cancel_told s₁) (cancel_monitor s₁)
    | stir stir =>
      obtain ⟨clock, goes⟩ := stir.goes sound
      have ledger : Ledger start _ { s₁ with clock } := ih.congr rfl rfl rfl rfl
      exact ledger.goes sound goes
    | timer | reach =>
      rw [Option.toList_none, List.append_nil]
      exact ih.congr rfl rfl rfl rfl

/-- All calls that ended were told, or all but the last one. -/
theorem length_cases (ledger : Ledger start ends s) :
    ((ends.filterMap CallEnd.outcome?).length = ends.length ∧
      ∀ e, ends.getLast? = some e → e.outcome? ≠ none) ∨
    ((ends.filterMap CallEnd.outcome?).length + 1 = ends.length ∧
      ∃ e, ends.getLast? = some e ∧ e.outcome? = none) := by
  rcases List.eq_nil_or_concat ends with rfl | ⟨before, last, rfl⟩
  · exact .inl ⟨rfl, fun _ latest => nomatch latest⟩
  · rw [List.concat_eq_append] at ledger ⊢
    have whole := ledger.whole
    rw [List.dropLast_concat] at whole
    have told := length_told whole
    rw [List.filterMap_append, List.getLast?_concat]
    cases untold : last.outcome? with
    | none => exact .inr ⟨by simp [told, untold], last, rfl, untold⟩
    | some outcome =>
      refine .inl ⟨by simp [told, untold], fun e latest => ?_⟩
      cases latest
      simp [untold]

end Ledger

/-- Whatever a service does and whatever is done with its invoker, no call is entered while another
one is under way, and the monitor is told of the calls as number one, two and so on, as they end.
There are as many ticks as it was told of calls, and one more exactly while a call is under way or
when the loop has come to its end in the middle of its last tick. -/
theorem driven_numbers {state : σ} {monitor : Monitor} {ends : List CallEnd} {s : Scene (Watched σ)}
    (driven : Driven service.watched pacing (.opening ⟨state, 0, 0⟩ monitor) ends s) :
    (s.service.entered = s.service.left + s.invoker.task.isCalling.toNat) ∧
    ∃ m, s.told.map Prod.fst = ((List.range m).map fun i : Nat => (i : Int) + 1) ∧
      s.told.map Prod.snd = ends.filterMap CallEnd.outcome? ∧
      s.monitor.invocations = monitor.invocations + m ∧
      (s.invoker.ticks = m ∨ s.invoker.ticks = m + 1) ∧
      (s.invoker.ticks = m + 1 ↔ s.invoker.task.isCalling = true ∨
        ∃ e, ends.getLast? = some e ∧ s.invoker.task = .ended e.ending ∧
          (e.GaveIn ∨ e.Cancels ∨ e.Valueless ∨ e.Unheard)) := by
  have counted : Counted (.opening (⟨state, 0, 0⟩ : Watched σ) monitor) := rfl
  have ledger :=
    (Ledger.opening (⟨state, 0, 0⟩ : Watched σ) monitor).driven Invoker.fresh_sound driven
  rw [List.nil_append] at ledger
  have length : s.told.length = (ends.filterMap CallEnd.outcome?).length := by
    rw [ledger.told, numbered, List.length_mapIdx]
  refine ⟨counted.driven driven Invoker.fresh_sound, _, ?_, ?_, ledger.invocations, ?_⟩
  · rw [ledger.told, map_fst_numbered]
  · rw [ledger.told, map_snd_numbered]
  have ticks := ledger.ticks
  -- Either all ticks were told, or the last one ended without an outcome and nothing follows it.
  rcases ledger.length_cases with ⟨all, last⟩ | ⟨one, e, latest, untold⟩
  · have none (e : CallEnd) (latest : ends.getLast? = some e) :
        ¬(e.GaveIn ∨ e.Cancels ∨ e.Valueless ∨ e.Unheard) :=
      fun reason => last e latest (CallEnd.outcome?_eq_none_iff.mpr reason)
    rw [ticks, all]
    cases s.invoker.task.isCalling with
    | true => exact ⟨.inr rfl, by simp⟩
    | false =>
      refine ⟨.inl rfl, by simp, ?_⟩
      rintro (calling | ⟨e, latest, _, reason⟩)
      · cases calling
      · exact absurd reason (none e latest)
  · have ended := ledger.last e latest untold
    have reason := CallEnd.outcome?_eq_none_iff.mp untold
    rw [ticks, ended, ← one]
    exact ⟨.inr rfl, fun _ => .inr ⟨e, latest, rfl, reason⟩, fun _ => rfl⟩

/-- Half a second from one call to the next, and a second for each. -/
def leisurely : Pacing := ⟨.half, .ok 500000, .within 1000000⟩

/-- The first call answers at once, and later ones wait until they are broken off. -/
def stubborn : Cast :=
  .start [⟨⟨false, .none⟩, .next, none⟩] ⟨⟨false, .forever⟩, .next, some (.value (some 55))⟩ 0

/-- The invoker is started, and cancelled during its second call. -/
def cutShort : Scene (Watched Cast) :=
  ((((Scene.opening ⟨stubborn, 0, 0⟩ (.start none)).begun leisurely).settle Cast.service.watched
    leisurely).fire
    Cast.service.watched leisurely ⟨500000, 1⟩).cancel.settle Cast.service.watched leisurely

theorem cutShort_driven :
    Driven Cast.service.watched leisurely (.opening ⟨stubborn, 0, 0⟩ (.start none))
    [.answered (.value (some 0)), .broken true (some (.value (some 55)))] cutShort := by
  have answered :
    Driven Cast.service.watched leisurely (.opening ⟨stubborn, 0, 0⟩ (.start none)) _ _ :=
    (driven_begun Cast.service.watched rfl).tail (.stir .settle)
  have waiting := answered.tail (.stir (.fire ⟨rfl, Task.noConfusion⟩ rfl))
  exact (waiting.tail .cancel).tail (.stir .settle)

/-- The answer of the second call comes too late, and the loop has come to its end in the midst of
its tick. -/
theorem cutShort_numbers :
    Driven Cast.service.watched leisurely (.opening ⟨stubborn, 0, 0⟩ (.start none))
      [.answered (.value (some 0)), .broken true (some (.value (some 55)))] cutShort ∧
    cutShort.service.entered = cutShort.service.left ∧ cutShort.invoker.ticks = 2 ∧
    cutShort.told.map Prod.fst = [1] ∧ cutShort.told.map Prod.snd = [.value 0] ∧
    ∃ e : CallEnd, cutShort.invoker.task = .ended e.ending ∧
      (e.GaveIn ∨ e.Cancels ∨ e.Valueless ∨ e.Unheard) := by
  obtain ⟨counted, m, numbers, outcomes, invocations, _, more⟩ := driven_numbers cutShort_driven
  have one : m = 1 := by
    have total : 1 = 0 + m := invocations
    omega
  rw [one] at numbers more
  refine ⟨cutShort_driven, counted, rfl, numbers, outcomes, ?_⟩
  rcases more.mp rfl with calling | ⟨e, _, ended, reason⟩
  · cases calling
  · exact ⟨e, ended, reason⟩

/-- An answer that nobody hears any more is a reason of its own for a tick without an outcome. -/
theorem cutShort_unheard :
    ¬∀ (ends : List CallEnd) (s : Scene (Watched Cast)),
      Driven Cast.service.watched leisurely (.opening ⟨stubborn, 0, 0⟩ (.start none)) ends s →
      (s.invoker.ticks = s.told.length + 1 ↔ s.invoker.task.isCalling = true ∨
        ∃ e, ends.getLast? = some e ∧ s.invoker.task = .ended e.ending ∧
          (e.GaveIn ∨ e.Cancels ∨ e.Valueless)) := by
  intro listed
  rcases (listed _ _ cutShort_driven).mp rfl with calling | ⟨e, latest, _, reason⟩
  · cases calling
  · cases latest
    rcases reason with ⟨limited, gaveIn⟩ | (cancels | ⟨limited, cancels⟩) | valueless
    · cases gaveIn
    · cases cancels
    · cases cancels
    · cases valueless

end Scene

end Drill
