import Drill.Proofs.Loop

/-!
# How a loop's timers follow one another

A tick ends in a delay, and the delay is a microsecond at least; a call in between takes one timer
more. So of two timers of a loop that fire in a row, the second is due later than the first or it
ends a call that the first one began, and the number of timers that can fire up to some moment
(`Task.owed`) drops with every one that does. Main statements: `Turn.task_cases`, the timer that a
loop waits for after a turn, `fire_owed`, the drop, and `settle_owed`, what is owed when a wait
begins.
-/

namespace Drill

namespace Task

/-- How many timers of the loop can fire up to a moment, if delays are a microsecond at least. -/
def owed (goal : Nat) (task : Task) : Nat :=
  match task.next? with
  | some t => 2 * (goal + 1 - t.due) - task.isCalling.toNat
  | none => 0

variable {goal : Nat} {task : Task} {t : Timer}

/-- A loop that waits for a timer owes two for each moment from there up to the goal, and one less
during a call. -/
theorem owed_of_next (next : task.next? = some t) :
    task.owed goal = 2 * (goal + 1 - t.due) - task.isCalling.toNat := by
  unfold owed
  rw [next]

/-- A loop that waits for nothing owes nothing. -/
theorem owed_of_none (next : task.next? = none) : task.owed goal = 0 := by
  unfold owed
  rw [next]

/-- If nothing is owed, the next timer is beyond the goal. -/
theorem due_lt_of_owed (none : task.owed goal = 0) (next : task.next? = some t) : goal < t.due := by
  rw [owed_of_next next] at none
  have call : task.isCalling.toNat ≤ 1 := Bool.toNat_le _
  omega

/-- Of a call's two timers the one that is due first is waited for. -/
theorem calling_next {limit : Option Timer} {wake : Timer}
    (next : (calling limit (some wake)).next? = some t) :
    t = wake ∨ ∃ l, limit = some l ∧ t = l ∧ ¬ wake.Before l := by
  cases limit with
  | none =>
    cases next
    exact .inl rfl
  | some l =>
    simp only [next?, Option.some.injEq] at next
    split at next
    next => exact .inl next.symm
    next late => exact .inr ⟨l, rfl, next.symm, late⟩

/-- Is the timer that is waited for the limit of a call? -/
def Expires (task : Task) : Prop := ∃ l wake, task = calling (some l) wake ∧ task.next? = some l

/-- A call that is answered before its limit does not expire. -/
theorem not_expires {limit : Option Timer} {wake : Timer}
    (early : ∀ l, limit = some l → wake.due < l.due) :
    ¬ (calling limit (some wake)).Expires := by
  rintro ⟨l, wake', same, next⟩
  cases same
  have earlier := early l rfl
  rcases calling_next next with rfl | ⟨l', same, _, late⟩
  · omega
  · cases same
    exact late (.inl earlier)

end Task

namespace Scene

/-- No timer of the loop was due before now. -/
def Ahead {σ : Type} (s : Scene σ) : Prop :=
  ∀ t, s.invoker.task.next? = some t → s.clock.now ≤ t.due

variable {pacing : Pacing} {s s' : Scene Cluster} {e : Option TickEnd} {period : Nat}

@[simp] theorem arm_now {σ : Type} (s : Scene σ) : (s.arm pacing).2.clock.now = s.clock.now := by
  unfold arm
  split <;> rfl

@[simp] theorem endTick_now {σ : Type} (s : Scene σ) (outcome : Outcome) :
    (s.endTick pacing outcome).clock.now = s.clock.now := by
  unfold endTick rest
  split <;> rfl

@[simp] theorem callOut_now (s : Scene Cluster) (span : Nat) :
    (s.callOut pacing span).clock.now = s.clock.now :=
  s.tick.arm_now

/-- After a tick the loop delays. -/
theorem endTick_resting {σ : Type} (counted : pacing.period = .ok period) (s : Scene σ)
    (outcome : Outcome) :
    ∃ wake, (s.endTick pacing outcome).invoker.task = .resting wake ∧
      wake.due = s.clock.now + period := by
  unfold endTick rest
  rw [counted]
  exact ⟨_, rfl, rfl⟩

/-- A call that waits has its own timer, and one for its limit, if it has one. -/
theorem callOut_calling (pacing : Pacing) (s : Scene Cluster) (span : Nat) :
    ∃ limit wake, (s.callOut pacing span).invoker.task = .calling limit (some wake) ∧
      wake.due = s.clock.now + span ∧
      ∀ l, limit = some l → ∃ n, pacing.limit = .within n ∧ l.due = s.clock.now + n := by
  have now : (s.tick.arm pacing).2.clock.now = s.clock.now := s.tick.arm_now
  refine ⟨(s.tick.arm pacing).1, _, rfl, congrArg (· + span) now, ?_⟩
  unfold arm
  cases pacing.limit with
  | none | refused =>
    intro l none
    cases none
  | within n =>
    intro l some
    cases some
    exact ⟨n, rfl, rfl⟩

/-- A turn takes no time. -/
theorem Turn.now (turn : Turn pacing s e s') : s'.clock.now = s.clock.now := by
  cases turn with
  | entered => exact callOut_now s _
  | answeredAtOnce =>
    rw [endTick_now]
    exact s.tick.arm_now
  | refused | answered | expired => exact endTick_now _ _

/-- After a turn the loop delays, or a call was entered and waits. -/
theorem Turn.task_cases (counted : pacing.period = .ok period) (turn : Turn pacing s e s') :
    (∃ wake, s'.invoker.task = .resting wake ∧ wake.due = s.clock.now + period) ∨
    (s.invoker.task.isCalling = false ∧ e = none ∧
      ∃ span limit wake, s.service.nextDelay = some span ∧
      s'.invoker.task = .calling limit (some wake) ∧ wake.due = s.clock.now + span ∧
      ∀ l, limit = some l → ∃ n, pacing.limit = .within n ∧ l.due = s.clock.now + n) := by
  have rests {t : Scene Cluster} (now : t.clock.now = s.clock.now) (outcome : Outcome) :
      ∃ wake, (t.endTick pacing outcome).invoker.task = .resting wake ∧
        wake.due = s.clock.now + period := by
    rw [← now]
    exact endTick_resting counted t outcome
  cases turn with
  | @entered span idle delay =>
    obtain ⟨limit, wake, task, due, limits⟩ := callOut_calling pacing s span
    exact .inr ⟨idle, rfl, span, limit, wake, delay, task, due, limits⟩
  | answeredAtOnce =>
    refine .inl (rests ?_ _)
    exact s.tick.arm_now
  | refused | answered | expired =>
    refine .inl (rests ?_ _)
    rfl

/-- After a turn the loop waits for a timer that is not due before now. A turn that ends a call is
followed by a delay. -/
theorem Turn.timer (counted : pacing.period = .ok period) (positive : 1 ≤ period)
    (turn : Turn pacing s e s') {t : Timer} (next : s'.invoker.task.next? = some t) :
    s.clock.now ≤ t.due ∧
      (s.invoker.task.isCalling = true ∨ s'.invoker.task.isCalling = false →
        s.clock.now + 1 ≤ t.due) := by
  rcases turn.task_cases counted with ⟨wake, task, due⟩ |
    ⟨idle, _, span, limit, wake, _, task, due, limits⟩
  · rw [task] at next
    cases next
    omega
  · rw [task] at next ⊢
    constructor
    · rcases Task.calling_next next with rfl | ⟨l, isLimit, rfl, _⟩
      · omega
      · obtain ⟨n, _, due⟩ := limits t isLimit
        omega
    · rintro (calling | rests)
      · rw [idle] at calling
        cases calling
      · cases rests

theorem Turn.ahead (counted : pacing.period = .ok period) (positive : 1 ≤ period)
    (turn : Turn pacing s e s') : s'.Ahead := by
  intro t next
  rw [turn.now]
  exact (turn.timer counted positive next).1

/-- What a loop owes after a turn: a timer less if it began at a timer, and two less if it ended a
call. -/
theorem Turn.owed (counted : pacing.period = .ok period) (positive : 1 ≤ period)
    (turn : Turn pacing s e s') (goal : Nat) :
    s'.invoker.task.owed goal ≤
    2 * (goal + 1 - s.clock.now) - 1 - s.invoker.task.isCalling.toNat := by
  cases next : s'.invoker.task.next? with
  | none =>
    rw [Task.owed_of_none next]
    exact Nat.zero_le _
  | some t =>
    obtain ⟨due, later⟩ := turn.timer counted positive next
    rw [Task.owed_of_next next]
    cases before : s.invoker.task.isCalling with
    | true =>
      have due' := later (.inl before)
      rw [Bool.toNat_true]
      omega
    | false =>
      cases after : s'.invoker.task.isCalling with
      | true =>
        rw [Bool.toNat_true, Bool.toNat_false]
        omega
      | false =>
        have due' := later (.inr after)
        rw [Bool.toNat_false]
        omega

/-- With every timer that fires up to the goal there is one less to fire. -/
theorem fire_owed (counted : pacing.period = .ok period) (positive : 1 ≤ period)
    (running : s.invoker.Running) {t : Timer} (next : s.invoker.task.next? = some t) {goal : Nat}
    (due : t.due ≤ goal) :
    (s.fire Cluster.service pacing t).invoker.task.owed goal + 1 ≤ s.invoker.task.owed goal := by
  have less := (fire_turn pacing running next).owed counted positive goal
  have now : ({ s with clock := s.clock.reach t } : Scene Cluster).clock.now = t.due := rfl
  have call : s.invoker.task.isCalling.toNat ≤ 1 := Bool.toNat_le _
  rw [now] at less
  rw [Task.owed_of_next next]
  dsimp only at less
  omega

/-- When a wait begins, the loop owes twice as many timers as the wait has microseconds, and two
more. -/
theorem settle_owed (counted : pacing.period = .ok period) (positive : 1 ≤ period)
    (running : s.invoker.Running) (ahead : s.Ahead) (goal : Nat) :
    (s.settle Cluster.service pacing).invoker.task.owed goal ≤ 2 * (goal + 1 - s.clock.now) := by
  rcases settle_turn pacing running with ⟨_, same⟩ | turn
  · rw [same]
    cases next : s.invoker.task.next? with
    | none =>
      rw [Task.owed_of_none next]
      exact Nat.zero_le _
    | some t =>
      have due := ahead t next
      rw [Task.owed_of_next next]
      omega
  · have less := turn.owed counted positive goal
    omega

/-- A loop that was let go on waits for a time ahead. -/
theorem settle_ahead (counted : pacing.period = .ok period) (positive : 1 ≤ period)
    (running : s.invoker.Running) (ahead : s.Ahead) : (s.settle Cluster.service pacing).Ahead := by
  rcases settle_turn pacing running with ⟨_, same⟩ | turn
  · rw [same]
    exact ahead
  · exact turn.ahead counted positive

/-- The time of a call is up when the timer of its limit fires. -/
theorem fireEnd_expired {t : Timer} (next : s.invoker.task.next? = some t)
    (expired : s.fireEnd pacing t = some .expired) : s.invoker.task.Expires := by
  unfold fireEnd at expired
  cases task : s.invoker.task with
  | resting =>
    rw [task] at expired
    unfold beginEnd at expired
    dsimp only at expired
    split at expired <;> cases expired
  | calling limit wake =>
    rw [task] at expired next
    by_cases up : limit = some t
    · rw [up] at next
      exact ⟨t, wake, by rw [up], by rw [up]; exact next⟩
    · simp only [up, if_false] at expired
      cases expired
  | absent | scheduled | ended =>
    rw [task] at expired
    cases expired

theorem settle_now (running : s.invoker.Running) :
    (s.settle Cluster.service pacing).clock.now = s.clock.now := by
  rcases settle_turn pacing running with ⟨_, same⟩ | turn
  · rw [same]
  · exact turn.now

end Scene

end Drill
