import Drill.Proofs.Calls
import Drill.Proofs.Timing
import Mathlib.Algebra.Order.Floor.Div
import Mathlib.Order.Interval.Set.Nat

/-!
# How many calls fit into a window

An invoker whose calls all take as long ends them at moments that can be told beforehand: one at the
end of its first call, and then one after every further delay and call. `Scene.OnBeat` says that a
loop keeps to them. At a tie the timer that was set first fires first, and the timer of the
stability window was set before any of the loop's (`Scene.Outruns`); so a call that would end with
the window ends after its checkpoint. At later checkpoints a tie can go either way.

Main statements: `Scene.Turn.onBeat`, a turn keeps the loop on its beat, `Kept.next`, so does every
moment of a run, and `window_conduct`, the number of calls that the monitor knows of at a
checkpoint.
-/

namespace Drill

/-- How long a call takes that waits for so long, if it waits at all. -/
def Limit.callTime : Limit → Option Nat → Nat
  | refused _, _ | _, .none => 0
  | none, some span => span
  | within most, some span => min span most

@[simp] theorem Limit.callTime_none (limit : Limit) : limit.callTime .none = 0 := by
  cases limit <;> rfl

/-- How long the call of a number waits, if it waits at all. -/
def Trouble.wait (t : Trouble) (number : Int) : Option Nat := (t.delays.get? number).getD t.delay

/-- The longest that a call may take under the settings. -/
def Settings.limit (s : Settings) : Limit :=
  match s.limitSeconds with
  | .ok seconds => .of seconds
  | .error _ => .none

namespace Scene

variable {pacing : Pacing} {s s' : Scene Cluster} {e : Option TickEnd} {period call base n : Nat}

/-- The loop of an invoker that was started at `base` stands where it has to after so many calls,
each of which took as long. -/
inductive OnBeat (period call base : Nat) (s : Scene Cluster) (n : Nat) : Prop where
  | resting {wake : Timer} (task : s.invoker.task = .resting wake)
      (due : wake.due = base + n * (call + period)) (ended : wake.due ≤ s.clock.now + period)
  | calling {t : Timer} (calling : s.invoker.task.isCalling = true)
      (next : s.invoker.task.next? = some t)
      (due : t.due = base + n * (call + period) + call)
        (begun : base + n * (call + period) ≤ s.clock.now)

namespace OnBeat

theorem congr (beat : OnBeat period call base s n) (invoker : s'.invoker = s.invoker)
    (later : s.clock.now ≤ s'.clock.now) : OnBeat period call base s' n := by
  cases beat with
  | resting task due ended =>
    refine .resting (by rw [invoker]; exact task) due ?_
    omega
  | calling calling next due begun =>
    refine .calling (by rw [invoker]; exact calling) (by rw [invoker]; exact next) due ?_
    omega

/-- Calls that are counted have ended. -/
theorem ended (beat : OnBeat period call base s n) {k : Nat} (counted : k < n) :
    base + (k * (call + period) + call) ≤ s.clock.now := by
  have before : (k + 1) * (call + period) ≤ n * (call + period) := Nat.mul_le_mul_right _ counted
  rw [Nat.succ_mul] at before
  cases beat with
  | resting task due ended => omega
  | calling calling next due begun => omega

/-- Calls that are not counted end later, or now. -/
theorem upcoming (beat : OnBeat period call base s n) (ahead : s.Ahead) {k : Nat} (left : n ≤ k) :
    s.clock.now ≤ base + (k * (call + period) + call) := by
  have after : n * (call + period) ≤ k * (call + period) := Nat.mul_le_mul_right _ left
  cases beat with
  | @resting wake task due ended =>
    have next := ahead wake (by rw [task]; rfl)
    omega
  | @calling t calling next due begun =>
    have next := ahead t next
    omega

/-- Let go on, a loop on its beat keeps waiting. -/
theorem settle (beat : OnBeat period call base s n) (running : s.invoker.Running) :
    s.settleEnd pacing = none ∧ s.settle Cluster.service pacing = s := by
  unfold settleEnd Scene.settle
  cases beat with
  | resting task =>
    rw [task]
    exact ⟨rfl, if_neg (by simp [running.uninterrupted])⟩
  | calling calling next =>
    obtain ⟨limit, wake, task⟩ := Task.isCalling_iff.mp calling
    rw [task]
    exact ⟨rfl, if_neg (by simp [running.uninterrupted])⟩

end OnBeat

/-- A timer was set before those that the loop waits for, now or later. -/
structure Outruns (goal : Timer) (s : Scene Cluster) : Prop where
  set : goal.serial < s.clock.set
  next : ∀ t, s.invoker.task.next? = some t → goal.serial < t.serial

theorem arm_set (s : Scene Cluster) : s.clock.set ≤ (s.arm pacing).2.clock.set := by
  unfold arm
  split
  next => exact Nat.le_succ _
  next => exact Nat.le_refl _
  next => exact Nat.le_refl _

/-- The delay after a tick is a timer that was set last. -/
theorem endTick_outruns {goal : Timer} (set : goal.serial < s.clock.set) (outcome : Outcome) :
    Outruns goal (s.endTick pacing outcome) := by
  unfold endTick rest
  cases pacing.period with
  | error fault => exact ⟨set, fun t next => by cases next⟩
  | ok period =>
    refine ⟨Nat.lt_succ_of_lt set, ?_⟩
    intro t next
    cases next
    exact set

/-- The timers of a call were set last. -/
theorem callOut_outruns {goal : Timer} (set : goal.serial < s.clock.set) (span : Nat) :
    Outruns goal (s.callOut pacing span) := by
  have armed : s.clock.set ≤ (s.tick.arm pacing).2.clock.set := s.tick.arm_set
  have limits (l : Timer) (limit : (s.tick.arm pacing).1 = some l) : l.serial = s.clock.set := by
    unfold arm at limit
    split at limit
    next =>
      cases limit
      rfl
    next => cases limit
    next => cases limit
  refine ⟨Nat.lt_succ_of_le (Nat.le_trans (Nat.le_of_lt set) armed), ?_⟩
  intro t next
  rcases Task.calling_next next with rfl | ⟨l, limit, rfl, _⟩
  · exact Nat.lt_of_lt_of_le set armed
  · rw [limits t limit]
    exact set

/-- After a turn the loop's timers come after all those that were set before. -/
theorem Turn.outruns {goal : Timer} (turn : Turn pacing s e s') (set : goal.serial < s.clock.set) :
    Outruns goal s' := by
  cases turn with
  | entered => exact callOut_outruns set _
  | answeredAtOnce =>
    refine endTick_outruns ?_ _
    exact Nat.lt_of_lt_of_le set s.tick.arm_set
  | refused | answered | expired =>
    refine endTick_outruns ?_ _
    exact set

/-- The timer that a call waits for is due when the call has taken its time. -/
theorem callOut_next (entered : ∀ fault, pacing.limit ≠ .refused fault) (span : Nat) :
    ∃ t, (s.callOut pacing span).invoker.task.next? = some t ∧
      t.due = s.clock.now + pacing.limit.callTime (some span) := by
  unfold callOut arm
  cases limit : pacing.limit with
  | refused fault => exact absurd limit (entered fault)
  | none => exact ⟨_, rfl, rfl⟩
  | within most =>
    refine ⟨_, rfl, ?_⟩
    -- The limit was set first, so it is waited for at a tie.
    show (if Timer.Before ⟨s.clock.now + span, s.clock.set + 1⟩ ⟨s.clock.now + most, s.clock.set⟩
      then (⟨s.clock.now + span, s.clock.set + 1⟩ : Timer)
        else ⟨s.clock.now + most, s.clock.set⟩).due
        = s.clock.now + min span most
    by_cases early : span < most
    · rw [if_pos (.inl (Nat.add_lt_add_left early _)), Nat.min_eq_left (Nat.le_of_lt early)]
    · rw [if_neg (by unfold Timer.Before; dsimp only; omega),
        Nat.min_eq_right (Nat.le_of_not_lt early)]

/-- A turn keeps the loop on its beat. -/
theorem Turn.onBeat (counted : pacing.period = .ok period)
    (entered : ∀ fault, pacing.limit ≠ .refused fault)
    (alike : pacing.limit.callTime s.service.nextDelay = call) (turn : Turn pacing s e s')
    (idle : s.invoker.task.isCalling = false → s.clock.now = base + n * (call + period))
    (calling : s.invoker.task.isCalling = true → s.clock.now = base + n * (call + period) + call) :
    OnBeat period call base s' (n + e.toList.length) := by
  -- A call that has ended here is the last one before the next beat.
  have rests {s' : Scene Cluster} (now : s'.clock.now = base + n * (call + period) + call)
    (outcome : Outcome) :
      OnBeat period call base (s'.endTick pacing outcome) (n + 1) := by
    obtain ⟨wake, task, due⟩ := endTick_resting counted s' outcome
    refine .resting task ?_ ?_
    · rw [Nat.succ_mul]
      omega
    · rw [endTick_now]
      omega
  cases turn with
  | refused _ limit => exact absurd limit (entered _)
  | answered isCalling | expired isCalling =>
    refine rests ?_ _
    exact calling isCalling
  | answeredAtOnce isIdle delay =>
    -- A call that waits for nothing takes no time, so the beat has no gap for it.
    have none : call = 0 := by
      rw [← alike, delay, Limit.callTime_none]
    refine rests ?_ _
    show (s.tick.arm pacing).2.clock.now = _
    rw [arm_now, none, Nat.add_zero, ← none]
    exact idle isIdle
  | @entered span isIdle delay =>
    obtain ⟨t, next, due⟩ := callOut_next (s := s) entered span
    rw [← delay, alike] at due
    refine .calling rfl next ?_ ?_
    · rw [due, idle isIdle]
      rfl
    · rw [callOut_now, idle isIdle]
      exact Nat.le_refl _

/-- The timer that it waits for keeps a loop on its beat. -/
theorem OnBeat.fire (counted : pacing.period = .ok period)
    (entered : ∀ fault, pacing.limit ≠ .refused fault)
    (alike : pacing.limit.callTime s.service.nextDelay = call) (running : s.invoker.Running)
    (beat : OnBeat period call base s n) {t : Timer} (timer : s.invoker.task.next? = some t) :
    OnBeat period call base (s.fire Cluster.service pacing t)
      (n + (s.fireEnd pacing t).toList.length) := by
  have turn := fire_turn pacing running timer
  refine Turn.onBeat (s := { s with clock := s.clock.reach t }) counted entered alike turn ?_ ?_
  · intro idle
    show t.due = _
    cases beat with
    | resting task due =>
      rw [task] at timer
      cases timer
      exact due
    | calling calling =>
      have idle' : s.invoker.task.isCalling = false := idle
      rw [calling] at idle'
      cases idle'
  · intro isCalling
    show t.due = _
    cases beat with
    | resting task =>
      have calling : s.invoker.task.isCalling = true := isCalling
      rw [task] at calling
      cases calling
    | calling calling next due =>
      rw [next] at timer
      cases timer
      exact due

/-- Let go on for the first time, a loop takes a turn. -/
theorem settle_of_scheduled (running : s.invoker.Running)
    (scheduled : s.invoker.task = .scheduled) :
    Turn pacing s (s.settleEnd pacing) (s.settle Cluster.service pacing) := by
  have idle : s.invoker.task.isCalling = false := by
    rw [scheduled]
    rfl
  rw [settleEnd_eq pacing running]
  exact (settle_begins scheduled running.uninterrupted).turn pacing running idle

/-- From its first turn on, a loop is on its beat. -/
theorem onBeat_of_scheduled (counted : pacing.period = .ok period)
    (entered : ∀ fault, pacing.limit ≠ .refused fault)
    (alike : pacing.limit.callTime s.service.nextDelay = call) (running : s.invoker.Running)
    (scheduled : s.invoker.task = .scheduled) :
    OnBeat period call s.clock.now (s.settle Cluster.service pacing)
      (s.settleEnd pacing).toList.length := by
  have beat : OnBeat period call s.clock.now (s.settle Cluster.service pacing)
      (0 + (s.settleEnd pacing).toList.length) :=
    (settle_of_scheduled running scheduled).onBeat counted entered alike ?idle ?calling
  case idle =>
    intro _
    rw [Nat.zero_mul]
    rfl
  case calling =>
    intro calling
    rw [scheduled] at calling
    cases calling
  rw [Nat.zero_add] at beat
  exact beat

end Scene

/-- Only so many numbers satisfy what no later number does. -/
theorem ncard_le_of_forall {p : Nat → Prop} {n : Nat} (left : ∀ k, n ≤ k → ¬ p k) :
    {k | p k}.ncard ≤ n := by
  have among : {k | p k} ⊆ Set.Iio n := by
    intro k holds
    by_contra later
    exact left k (Nat.le_of_not_lt later) holds
  have fewer := Set.ncard_le_ncard among (Set.finite_Iio n)
  rw [Set.ncard_Iio_nat] at fewer
  exact fewer

/-- As many numbers satisfy what all earlier numbers do, if a later number does not. -/
theorem le_ncard_of_forall {p : Nat → Prop} {n m : Nat} (first : ∀ k < n, p k)
    (left : ∀ k, m ≤ k → ¬ p k) :
    n ≤ {k | p k}.ncard := by
  have among : {k | p k} ⊆ Set.Iio m := by
    intro k holds
    by_contra later
    exact left k (Nat.le_of_not_lt later) holds
  have more := Set.ncard_le_ncard (s := Set.Iio n) first ((Set.finite_Iio m).subset among)
  rw [Set.ncard_Iio_nat] at more
  exact more

/-- A window has as many parts of a length as begin within it. -/
theorem parts_of_window {period window n : Nat} (positive : 1 ≤ period)
    (begun : ∀ k < n, k * period < window)
    (past : window ≤ n * period) :
    n = window ⌈/⌉ period ∧ window / period ≤ n ∧ n ≤ window / period + 1 := by
  have least : window ⌈/⌉ period ≤ n := by
    rw [ceilDiv_le_iff_le_mul positive, Nat.mul_comm]
    exact past
  have whole : window / period ≤ n := Nat.div_le_of_le_mul (by rw [Nat.mul_comm]; exact past)
  cases n with
  | zero => exact ⟨(Nat.le_zero.mp least).symm, whole, Nat.zero_le _⟩
  | succ k =>
    have last := begun k (Nat.lt_succ_self k)
    refine ⟨Nat.le_antisymm ?_ least, whole, ?_⟩
    · by_contra more
      have fewer : window ⌈/⌉ period ≤ k := Nat.le_of_lt_succ (Nat.lt_of_not_le more)
      rw [ceilDiv_le_iff_le_mul positive, Nat.mul_comm] at fewer
      exact Nat.not_lt_of_le fewer last
    · exact Nat.succ_le_succ ((Nat.le_div_iff_mul_le positive).mpr (Nat.le_of_lt last))

namespace Scene.OnBeat

variable {s : Scene Cluster} {period call base n offset : Nat}

theorem upcoming_since (beat : OnBeat period call base s n) (ahead : s.Ahead)
    (since : s.clock.now = base + offset) {k : Nat} (left : n ≤ k) :
    offset ≤ k * (call + period) + call := by
  have late := beat.upcoming ahead left
  omega

/-- What is counted after some time: all calls that have ended before, and none that ends later. -/
theorem counts (beat : OnBeat period call base s n) (ahead : s.Ahead) (positive : 1 ≤ period)
    (since : s.clock.now = base + offset) :
    {k | k * (call + period) + call < offset}.ncard ≤ n ∧
      n ≤ {k | k * (call + period) + call ≤ offset}.ncard := by
  constructor
  · exact ncard_le_of_forall fun k left => Nat.not_lt_of_le (beat.upcoming_since ahead since left)
  · refine le_ncard_of_forall (m := offset + 1) (fun k counted => ?_) fun k later => ?_
    · have ended := beat.ended counted
      show k * (call + period) + call ≤ offset
      omega
    · have slow : k ≤ k * (call + period) := Nat.le_mul_of_pos_right k (by omega)
      omega

/-- What is counted at the end of a window in which all calls ended that are counted. -/
theorem counts_within (beat : OnBeat period call base s n) (ahead : s.Ahead)
    (since : s.clock.now = base + offset) (ended : ∀ k < n, k * (call + period) + call < offset) :
    n = {k | k * (call + period) + call < offset}.ncard := by
  apply Nat.le_antisymm
  · exact le_ncard_of_forall (p := fun k => k * (call + period) + call < offset) ended
      fun k left => Nat.not_lt_of_le (beat.upcoming_since ahead since left)
  · exact ncard_le_of_forall fun k left => Nat.not_lt_of_le (beat.upcoming_since ahead since left)

/-- Calls that take no time are as many as delays begin within the window. -/
theorem counts_parts (beat : OnBeat period 0 base s n) (ahead : s.Ahead) (positive : 1 ≤ period)
    (since : s.clock.now = base + offset) (ended : ∀ k < n, k * (0 + period) + 0 < offset) :
    n = offset ⌈/⌉ period ∧ offset / period ≤ n ∧ n ≤ offset / period + 1 := by
  have past := beat.upcoming_since ahead since (Nat.le_refl n)
  simp only [Nat.zero_add, Nat.add_zero] at ended past
  exact parts_of_window positive ended past

end Scene.OnBeat

namespace Settings

/-- A limit that can be counted lets calls be entered. -/
theorem limit_entered {s : Settings} (countable : s.Countable) (fault : Fault) :
    s.limit ≠ .refused fault := by
  unfold Settings.limit
  cases callLimit : s.callLimit with
  | none =>
    have limited : s.limitSeconds = .ok none := by
      unfold limitSeconds
      rw [callLimit]
    rw [limited]
    exact Limit.noConfusion
  | some m =>
    obtain ⟨seconds, span, ok, positive, counted⟩ := countable.limit m callLimit
    have limited : s.limitSeconds = .ok (some seconds) := by
      unfold limitSeconds
      rw [callLimit]
      dsimp only
      rw [ok]
      rfl
    have within : Limit.of (some seconds) = .within span := by
      unfold Limit.of
      dsimp only
      rw [if_pos positive, counted]
    rw [limited]
    dsimp only
    rw [within]
    exact Limit.noConfusion

end Settings

namespace Run

open Scene (OnBeat Outruns)

/-- How a run stands while the invoker works that was started at `base`, whose calls all take as
long, with a stability window of this length. -/
inductive Kept (period call base window : Nat) (steps : List Step) (m : Moment) : Prop where
  | poised {pacing : Pacing} (stance : m.stance = .doing pacing (Plan.jobs steps))
      (scheduled : m.progress.scene.invoker.task = .scheduled)
        (now : m.progress.scene.clock.now = base)
      (none : m.ends = [])
  | stabilising {pacing : Pacing} {goal : Timer} {fuel : Nat}
      (stance : m.stance =
        .waiting pacing goal fuel ((.checkpoint Script.baseline :: steps).map .step))
      (beat : OnBeat period call base m.progress.scene m.ends.length)
        (due : goal.due = base + window)
      (outruns : Outruns goal m.progress.scene) (early : m.progress.scene.clock.now < goal.due)
  | baseline {pacing : Pacing}
      (stance : m.stance = .doing pacing ((.checkpoint Script.baseline :: steps).map .step))
      (beat : OnBeat period call base m.progress.scene m.ends.length)
      (now : m.progress.scene.clock.now = base + window)
      (ended : ∀ k < m.ends.length, k * (call + period) + call < window)
  | working {pacing : Pacing} {jobs : List Job} (has : m.stance.Has pacing jobs)
      (beat : OnBeat period call base m.progress.scene m.ends.length)
      (early : m.progress.scene.clock.now ≤ m.due) (fewer : jobs.length ≤ steps.length)

section

variable {plan : Plan} {pacing : Pacing} {period call base window : Nat} {steps : List Step}
    {m m' : Moment}
  {rest : List Job} {job : Job}

/-- A loop on its beat does nothing when it is let go on. -/
theorem settle_of_onBeat (running : m.progress.scene.invoker.Running)
    (beat : OnBeat period call base m.progress.scene m.ends.length) (stance : Stance) :
    m.settle pacing stance = m.stand stance := by
  have still : m.progress.scene.settleEnd pacing = .none ∧
      m.progress.scene.settle Cluster.service pacing = m.progress.scene := beat.settle running
  obtain ⟨none, same⟩ := still
  unfold Moment.settle
  rw [none, same, Option.toList_none, List.append_nil]
  rfl

variable (running : m.progress.scene.invoker.Running)
  (beat : OnBeat period call base m.progress.scene m.ends.length)
  (fewer : rest.length ≤ steps.length)

include beat fewer

/-- What takes no time keeps the loop on its beat. -/
theorem attempt_kept {s : Stage Unit} (atOnce : m.progress.AtOnce s.2)
    (busy : (m.attempt s (fun raised => .quitting pacing (.error raised)) fun _ m =>
      m.stand (.doing pacing rest)).stance.isBusy = true) :
    Kept period call base window steps
      (m.attempt s (fun raised => .quitting pacing (.error raised)) fun _ m =>
        m.stand (.doing pacing rest)) := by
  obtain ⟨result, p⟩ := s
  cases result with
  | error raised => cases busy
  | ok _ =>
    have now : m.progress.scene.clock.now = p.scene.clock.now :=
      congrArg Clock.now atOnce.clock.symm
    exact .working .doing (beat.congr atOnce.invoker (Nat.le_of_eq now)) (Nat.le_refl _) fewer

include running

/-- A sleep keeps the beat. -/
theorem sleep_kept (span : Nat) :
    Kept period call base window steps (m.sleep pacing span rest) := by
  have beat' : OnBeat period call base (m.progress.scene.timer span).2 m.ends.length :=
    beat.congr rfl (Nat.le_refl _)
  unfold Moment.sleep
  rw [settle_of_onBeat (m := { m with progress.scene := (m.progress.scene.timer span).2 })
    running beat']
  exact .working (.waiting _ _) beat' (Nat.le_add_right _ _) fewer

theorem delay_kept (span? : Option Nat) :
    Kept period call base window steps (m.delay pacing span? rest) := by
  cases span? with
  | none => exact .working .doing beat (Nat.le_refl _) fewer
  | some span => exact sleep_kept running beat fewer span

/-- So does a wait. -/
theorem wait_kept (seconds : Number.Double)
    (busy : (m.wait pacing seconds rest).stance.isBusy = true) :
    Kept period call base window steps (m.wait pacing seconds rest) := by
  have running' : (m.progress.noteNap seconds).scene.invoker.Running := running
  have beat' : OnBeat period call base (m.progress.noteNap seconds).scene m.ends.length :=
    beat.congr rfl (Nat.le_refl _)
  unfold Moment.wait at busy ⊢
  cases paused : Pause.of seconds with
  | error fault =>
    rw [paused] at busy
    cases busy
  | ok pause =>
    cases pause with
    | timed span =>
      exact sleep_kept (m := { m with progress := m.progress.noteNap seconds })
        running' beat' fewer span
    | passing =>
      dsimp only
      rw [settle_of_onBeat (m := { m with progress := m.progress.noteNap seconds }) running' beat']
      exact .working .doing beat' (Nat.le_refl _) fewer

/-- A job that begins or is done keeps the loop on its beat. -/
theorem work_kept (shorter : rest.length + 1 ≤ steps.length)
    (busy : (plan.work m pacing rest job).stance.isBusy = true) :
    Kept period call base window steps (plan.work m pacing rest job) := by
  unfold Plan.work at busy ⊢
  cases job with
  | stop id grace => exact attempt_kept beat fewer (askStop_atOnce m.progress id grace) busy
  | start id => exact attempt_kept beat fewer (askStart_atOnce m.progress id) busy
  | stabilise =>
    unfold Progress.lift at busy ⊢
    cases ok : plan.settings.seconds plan.settings.stability with
    | error fault =>
      rw [ok] at busy
      cases busy
    | ok seconds =>
      rw [ok] at busy
      exact wait_kept running beat fewer seconds busy
  | step s =>
    cases s with
    | checkpoint label => exact attempt_kept beat fewer (checkpoint_atOnce m.progress label) busy
    | wait kind seconds =>
      exact wait_kept (m := { m with progress := m.progress.note (.waiting seconds kind) }) running
        (beat.congr rfl (Nat.le_refl _)) fewer seconds busy
    | stop id =>
      rcases announceStop_cases plan m.progress id with ⟨grace, label, announced⟩ |
        ⟨_, raised, refused⟩
      -- The request is still to be made, so there are as many jobs as before.
      · have fewer' : (Job.stop id grace :: rest).length ≤ steps.length := shorter
        simp only [announced, Moment.attempt]
        exact delay_kept (m := { m with progress := m.progress.note (.shutdown label id) }) running
          (beat.congr rfl (Nat.le_refl _)) fewer' _
      · simp only [refused, Moment.attempt] at busy
        cases busy
    | start id =>
      rcases announceStart_cases plan m.progress id with ⟨label, announced⟩ | ⟨_, raised, refused⟩
      · have fewer' : (Job.start id :: rest).length ≤ steps.length := shorter
        simp only [announced, Moment.attempt]
        exact delay_kept (m := { m with progress := m.progress.note (.startup label id) }) running
          (beat.congr rfl (Nat.le_refl _)) fewer' _
      · simp only [refused, Moment.attempt] at busy
        cases busy

end

namespace Plan

variable {plan : Plan} {scene : Scene Cluster} {m m' : Moment} {pacing : Pacing} {call : Nat}

theorem limit_of_paced (paced : plan.pacing = .ok pacing) : pacing.limit = plan.settings.limit := by
  obtain ⟨seconds, limit, _, limited, rfl⟩ := pacing_eq paced
  unfold Settings.limit
  rw [limited]

/-- What is known of the pace of a run whose calls all take as long. -/
structure Steady (plan : Plan) (scene : Scene Cluster) (call : Nat) : Prop where
  countable : plan.settings.Countable
  period : 1 ≤ plan.settings.span plan.settings.period
  window : 1 ≤ plan.settings.span plan.settings.stability
  alike : ∀ number, plan.settings.limit.callTime (scene.service.trouble.wait number) = call

namespace Steady

variable (steady : plan.Steady scene call)

include steady

/-- The delay of a steady run can be counted. -/
theorem counted (reached : plan.Reached scene m) {jobs : List Job}
    (has : m.stance.Has pacing jobs) :
    pacing.period = .ok (plan.settings.span plan.settings.period) :=
  pacing_period steady.countable ((reached.sound steady.countable).paced _ _ has)

theorem entered (reached : plan.Reached scene m) {jobs : List Job} (has : m.stance.Has pacing jobs)
    (fault : Fault) : pacing.limit ≠ .refused fault := by
  rw [limit_of_paced ((reached.sound steady.countable).paced _ _ has)]
  exact Settings.limit_entered steady.countable fault

/-- Whatever the cluster has come to, its next call takes as long as the others. -/
theorem takes (reached : plan.Reached scene m) {jobs : List Job} (has : m.stance.Has pacing jobs) :
    pacing.limit.callTime m.progress.scene.service.nextDelay = call := by
  have delay : m.progress.scene.service.nextDelay
      = scene.service.trouble.wait (m.progress.scene.service.calls + 1) := by
    rw [← (reached.tally has.isLate).trouble]
    rfl
  rw [delay, limit_of_paced ((reached.sound steady.countable).paced _ _ has)]
  exact steady.alike _

end Steady

end Plan

section

variable {plan : Plan} {scene : Scene Cluster} {m m' : Moment} {call base : Nat} {steps : List Step}

/-- The stability window begins with the first turn of the loop. -/
theorem stabilise_kept {pacing : Pacing} (steady : plan.Steady scene call)
    (reached : plan.Reached scene m)
    (running : m.progress.scene.invoker.Running)
    (stance : m.stance = .doing pacing (Plan.jobs steps))
    (scheduled : m.progress.scene.invoker.task = .scheduled)
    (now : m.progress.scene.clock.now = base)
    (none : m.ends = []) :
    Kept (plan.settings.span plan.settings.period) call base
      (plan.settings.span plan.settings.stability) steps
      (plan.work m pacing ((.checkpoint Script.baseline :: steps).map .step) .stabilise) := by
  have has := Stance.has_of_doing stance
  obtain ⟨seconds, ok, _, _, timed⟩ := steady.countable.stability.timed
  have works : plan.work m pacing ((.checkpoint Script.baseline :: steps).map .step) .stabilise
      = ({ m with progress := m.progress.noteNap seconds } : Moment).sleep pacing
          (plan.settings.span plan.settings.stability)
            ((.checkpoint Script.baseline :: steps).map .step) := by
    unfold Plan.work Progress.lift
    rw [ok]
    show m.wait pacing seconds _ = _
    unfold Moment.wait
    rw [timed]
  -- The timer of the window is set before the loop moves.
  generalize window : plan.settings.span plan.settings.stability = span at works ⊢
  have positive : 1 ≤ span := by
    rw [← window]
    exact steady.window
  have turn : Scene.Turn pacing (m.progress.scene.timer span).2 _ _ :=
    Scene.settle_of_scheduled running scheduled
  have beat :=
    Scene.onBeat_of_scheduled (s := (m.progress.scene.timer span).2) (steady.counted reached has)
    (steady.entered reached has) (steady.takes reached has) running scheduled
  have settled : ((m.progress.scene.timer span).2.settle Cluster.service pacing).clock.now = base :=
    turn.now.trans now
  rw [works]
  unfold Moment.sleep Moment.settle
  refine .stabilising rfl ?_ (congrArg (· + span) now) (turn.outruns (Nat.lt_succ_self _)) ?_
  · show OnBeat _ _ _ _ (m.ends ++ ((m.progress.scene.timer span).2.settleEnd pacing).toList).length
    rw [none, ← now]
    exact beat
  · show ((m.progress.scene.timer span).2.settle Cluster.service pacing).clock.now
      < m.progress.scene.clock.now + span
    rw [settled, now]
    exact Nat.lt_add_of_pos_right positive

/-- A timer that fires keeps the loop on its beat. -/
theorem fire_kept {pacing : Pacing} {jobs : List Job} (steady : plan.Steady scene call)
    (reached : plan.Reached scene m) (has : m.stance.Has pacing jobs)
    (running : m.progress.scene.invoker.Running)
    (beat : OnBeat (plan.settings.span plan.settings.period) call base m.progress.scene
      m.ends.length)
    {t : Timer} (timer : m.progress.scene.invoker.task.next? = some t) (stance : Stance) :
    OnBeat (plan.settings.span plan.settings.period) call base
      (m.fire pacing t stance).progress.scene
      (m.fire pacing t stance).ends.length := by
  have fired :=
    beat.fire (steady.counted reached has) (steady.entered reached has) (steady.takes reached has)
    running timer
  rw [← List.length_append] at fired
  exact fired

/-- While the window lasts, a timer of the loop fires or the window is over. -/
theorem stabilising_kept {pacing : Pacing} {goal : Timer} {fuel : Nat}
    (steady : plan.Steady scene call)
    (reached : plan.Reached scene m)
    (stance : m.stance =
      .waiting pacing goal fuel ((.checkpoint Script.baseline :: steps).map .step))
    (beat : OnBeat (plan.settings.span plan.settings.period) call base m.progress.scene
      m.ends.length)
    (due : goal.due = base + plan.settings.span plan.settings.stability)
    (outruns : Outruns goal m.progress.scene) (early : m.progress.scene.clock.now < goal.due)
    (next : plan.Next m m') :
    Kept (plan.settings.span plan.settings.period) call base
      (plan.settings.span plan.settings.stability)
      steps m' := by
  have has : m.stance.Has pacing ((.checkpoint Script.baseline :: steps).map .step) := by
    rw [stance]
    exact .waiting goal fuel
  have running := (reached.works has next).1
  rcases Plan.next_waiting stance next with ⟨rfl, _⟩ | ⟨t, left, _, timer, before, rfl⟩
  · refine .baseline rfl (beat.congr rfl (Nat.le_of_lt early)) due ?_
    intro k counted
    have ended := beat.ended counted
    omega
  · -- The loop's timer was set after the window's, so it fires only if it is due earlier.
    have later := outruns.next t timer
    have turn := Scene.fire_turn pacing running timer
    refine .stabilising rfl (fire_kept steady reached has running beat timer _) due
      (turn.outruns outruns.set) ?_
    show ((m.progress.scene.fire Cluster.service pacing t)).clock.now < goal.due
    rw [turn.now]
    show t.due < goal.due
    unfold Timer.Before at before
    omega

/-- After the window a job is done, a timer of the loop fires or a wait is over. -/
theorem working_kept {pacing : Pacing} {jobs : List Job} (steady : plan.Steady scene call)
    (reached : plan.Reached scene m) (has : m.stance.Has pacing jobs)
    (beat : OnBeat (plan.settings.span plan.settings.period) call base m.progress.scene
      m.ends.length)
    (early : m.progress.scene.clock.now ≤ m.due) (fewer : jobs.length ≤ steps.length)
    (next : plan.Next m m') (busy : m'.stance.isBusy = true) :
    Kept (plan.settings.span plan.settings.period) call base
      (plan.settings.span plan.settings.stability)
      steps m' := by
  have running := (reached.works has next).1
  generalize stance : m.stance = current at has
  cases has with
  | doing =>
    unfold Plan.Next Plan.next at next
    rw [stance] at next
    cases jobs with
    | nil =>
      cases next
      cases busy
    | cons job rest =>
      cases next
      exact work_kept running beat (Nat.le_of_succ_le fewer) fewer busy
  | waiting goal fuel =>
    -- The wait is over exactly at its goal, which is where the beat was counted to.
    have due : m.due = goal.due := by
      unfold Moment.due
      rw [stance]
    have has : m.stance.Has pacing jobs := by
      rw [stance]
      exact .waiting goal fuel
    rcases Plan.next_waiting stance next with ⟨rfl, _⟩ | ⟨t, left, _, timer, before, rfl⟩
    · rw [due] at early
      exact .working .doing (beat.congr rfl early) (Nat.le_refl _) fewer
    · have turn := Scene.fire_turn pacing running timer
      refine .working (.waiting goal left)
        (fire_kept steady reached has running beat timer _) ?_ fewer
      show (m.progress.scene.fire Cluster.service pacing t).clock.now ≤ goal.due
      rw [turn.now]
      show t.due ≤ goal.due
      unfold Timer.Before at before
      omega

/-- The next moment at which the invoker works keeps the beat as well. -/
theorem Kept.next (steady : plan.Steady scene call) (reached : plan.Reached scene m)
    (kept : Kept (plan.settings.span plan.settings.period) call base
      (plan.settings.span plan.settings.stability) steps m)
    (next : plan.Next m m') (busy : m'.stance.isBusy = true) :
    Kept (plan.settings.span plan.settings.period) call base
      (plan.settings.span plan.settings.stability)
      steps m' := by
  cases kept with
  | poised stance scheduled now none =>
    have running := (reached.works (Stance.has_of_doing stance) next).1
    have kept := stabilise_kept steady reached running stance scheduled now none
    unfold Plan.Next Plan.next Plan.jobs at next
    rw [stance] at next
    cases next
    exact kept
  | stabilising stance beat due outruns early =>
    exact stabilising_kept steady reached stance beat due outruns early next
  | baseline stance beat now ended =>
    unfold Plan.Next Plan.next at next
    rw [stance] at next
    cases next
    refine attempt_kept beat ?_ (checkpoint_atOnce m.progress _) busy
    rw [List.length_map]
  | working has beat early fewer => exact working_kept steady reached has beat early fewer next busy

end

namespace Plan

variable {plan : Plan} {scene : Scene Cluster} {m : Moment} {call : Nat} {steps : List Step}

/-- The work begins at the time at which the invoker was started. -/
theorem Reached.poised_now (steady : plan.Steady scene call) (reached : plan.Reached scene m)
    {pacing : Pacing}
    (stance : m.stance = .doing pacing (jobs steps)) : m.progress.scene.clock.now
      = scene.clock.now + plan.settings.span plan.settings.formation +
      scene.service.nextDelay.getD 0 := by
  obtain ⟨l, steps', reached', launching, leads, _, now⟩ :=
    reached.launched steady.countable (Stance.has_of_doing stance)
  have due : l.due = l.progress.scene.clock.now := by
    unfold Moment.due
    rw [launching]
  have timed := reached'.timed_leads steady.countable steady.period launching leads
  rw [due, now] at timed
  cases timed with
  | poised _ due => rw [← due, Moment.due_of_doing stance]
  | launching stance' =>
    rw [stance] at stance'
    cases stance'
  | stabilising _ waiting =>
    rw [stance] at waiting
    cases waiting
  | working has along =>
    -- No step is left of which the stability window would be a part.
    cases (Stance.has_of_doing stance).unique has
    generalize left : jobs steps = jobs at along
    cases along with
    | between before after => cases after <;> cases left
    | stop | start => cases left
  | ended ended =>
    rw [stance] at ended
    cases ended

/-- Wherever the invoker works, its loop is on its beat. -/
theorem Reached.kept (steady : plan.Steady scene call) (script : plan.script = .ok steps)
    (reached : plan.Reached scene m) (busy : m.stance.isBusy = true) :
    Kept (plan.settings.span plan.settings.period) call
      (scene.clock.now + plan.settings.span plan.settings.formation +
        scene.service.nextDelay.getD 0)
      (plan.settings.span plan.settings.stability) steps m := by
  obtain ⟨pacing, jobs, has⟩ := Stance.has_of_isBusy busy
  refine Reached.induct_has (I := fun m _ _ => Kept (plan.settings.span plan.settings.period) call
    (scene.clock.now + plan.settings.span plan.settings.formation + scene.service.nextDelay.getD 0)
    (plan.settings.span plan.settings.stability) steps m) ?launched ?works reached has
  case launched =>
    intro m steps' v pacing reached ready stance still
    cases ready.script.symm.trans script
    exact .poised stance (by rw [still.invoker]; rfl) (reached.poised_now steady stance) still.ends
  case works =>
    intro m m' pacing jobs jobs' reached kept _ _ next _ has'
    exact kept.next steady reached next has'.isBusy

/-- A checkpoint with the label of the first one is the first one. -/
theorem Reached.baseline_first (steady : plan.Steady scene call) (reached : plan.Reached scene m)
    {pacing : Pacing} {rest : List Job} (script : plan.script = .ok steps)
    (doing : m.stance = .doing pacing (.step (.checkpoint Script.baseline) :: rest)) :
    rest = steps.map .step := by
  obtain ⟨steps', before, after, script', whole, left, _⟩ :=
    reached.step_timed steady.countable steady.period doing
  cases script.symm.trans script'
  cases before with
  | nil =>
    cases whole
    exact left
  | cons first before =>
    obtain ⟨rfl, rfl⟩ := List.cons.inj whole
    obtain ⟨pace, _, built, _⟩ := script_ok script
    have again : .checkpoint Script.baseline ∈ Script.build plan.source pace := by
      rw [← built]
      exact List.mem_append_right before List.mem_cons_self
    exact absurd again (Script.baseline_not_mem_build plan.source pace)

/-- A run of the plan whose calls all take as long, with a delay and a stability window of a
microsecond at least: at a checkpoint the monitor knows of every call that has ended before, and
possibly of one that ends just now. At the first checkpoint it knows of those only that end before
the window does; when calls take no time, these are as many as delays fit into the window, a part of
a delay being one as well. -/
theorem window_conduct (plan : Plan) (scene : Scene Cluster) {call : Nat}
    (steady : plan.Steady scene call) :
    let period := plan.settings.span plan.settings.period
    let window := plan.settings.span plan.settings.stability
    ∀ m pacing label rest, plan.Reached scene m →
      m.stance = .doing pacing (.step (.checkpoint label) :: rest) →
      ∃ l steps offset, plan.Reached scene l ∧ l.stance = .launching steps ∧ plan.Leads l m ∧
        m.progress.scene.clock.now = l.progress.scene.clock.now + offset ∧
        {k | k * (call + period) + call < offset}.ncard ≤ m.progress.scene.monitor.invocations ∧
        m.progress.scene.monitor.invocations ≤ {k | k * (call + period) + call ≤ offset}.ncard ∧
        (label = Script.baseline → rest = steps.map .step ∧ offset = window ∧
          m.progress.scene.monitor.invocations = {k | k * (call + period) + call < window}.ncard ∧
          (call = 0 → m.progress.scene.monitor.invocations = window ⌈/⌉ period ∧
            window / period ≤ m.progress.scene.monitor.invocations ∧
            m.progress.scene.monitor.invocations ≤ window / period + 1)) := by
  intro period window m pacing label rest reached doing
  have has := Stance.has_of_doing doing
  obtain ⟨l, steps, reached', launching, leads, script, now⟩ :=
    reached.launched steady.countable has
  have kept := reached.kept steady script (by rw [doing]; rfl)
  have ahead := (reached.ticking steady.countable steady.period has).ahead
  have positive : 1 ≤ period := steady.period
  rw [← now] at kept
  rw [(reached.tally has.isLate).invocations]
  -- The beat holds at every checkpoint; the bound on the last call only at the first one, which the
  -- number of remaining jobs tells apart.
  obtain ⟨beat, baseline⟩ :
    OnBeat period call l.progress.scene.clock.now m.progress.scene m.ends.length ∧
      (rest = steps.map .step →
        m.progress.scene.clock.now = l.progress.scene.clock.now + window ∧
        ∀ k < m.ends.length, k * (call + period) + call < window) := by
    cases kept with
    | poised stance | stabilising stance =>
      rw [doing] at stance
      cases stance
    | baseline stance beat now ended => exact ⟨beat, fun _ => ⟨now, ended⟩⟩
    | working has' beat early fewer =>
      cases has.unique has'
      refine ⟨beat, fun left => ?_⟩
      rw [left, List.length_cons, List.length_map] at fewer
      exact absurd fewer (Nat.not_succ_le_self _)
  -- The time is known from the steps before, so it is some offset after the start of the invoker.
  obtain ⟨offset, since⟩ :
    ∃ offset, m.progress.scene.clock.now = l.progress.scene.clock.now + offset := by
    obtain ⟨_, before, _, _, _, _, time⟩ := reached.step_timed steady.countable steady.period doing
    rw [← now, Nat.add_assoc] at time
    exact ⟨_, time⟩
  obtain ⟨atLeast, atMost⟩ := beat.counts ahead positive since
  refine ⟨l, steps, offset, reached', launching, leads, since, atLeast, atMost, ?_⟩
  rintro rfl
  have left := reached.baseline_first steady script doing
  obtain ⟨time, ended⟩ := baseline left
  have same : offset = window := Nat.add_left_cancel (since.symm.trans time)
  refine ⟨left, same, beat.counts_within ahead time ended, ?_⟩
  rintro rfl
  exact beat.counts_parts ahead positive time ended

/-- The brisk plan with a longer stability window and a limit for calls. -/
def hurried : Plan :=
  { brisk with settings := { brisk.settings with
      stability := ⟨5, Nat.succ_pos 4⟩
      callLimit := some ⟨1, Nat.one_pos⟩ } }

/-- On a leisurely cluster the time of every call is up after ten milliseconds. The third one would
be over with the window of fifty, and is not counted. -/
theorem hurried_counts :
    hurried.Steady (.opening leisurely (.start none)) 10000 ∧
    ∃ m pacing rest, hurried.Reached (.opening leisurely (.start none)) m ∧
      m.stance = .doing pacing (.step (.checkpoint Script.baseline) :: rest) ∧
      m.progress.scene.monitor.invocations = 2 ∧
      {k | k * (10000 + 10000) + 10000 < 50000}.ncard = 2 := by
  have period : hurried.settings.span hurried.settings.period = 10000 := by decide +kernel
  have window : hurried.settings.span hurried.settings.stability = 50000 := by decide +kernel
  have limit : hurried.settings.limit = .within 10000 := by decide +kernel
  have stability : hurried.settings.Counts ⟨5, Nat.succ_pos 4⟩ := by decide +kernel
  have grace :
    hurried.settings.seconds hurried.settings.grace = brisk.settings.seconds brisk.settings.grace :=
    Settings.seconds_congr rfl _
  have countable : hurried.settings.Countable := {
    formation := brisk_countable.formation.congr rfl
    stability := stability
    outage := brisk_countable.outage.congr rfl
    restart := stability
    period := brisk_countable.period.congr rfl
    limit := by
      intro m some
      cases some
      exact brisk_countable.period.congr rfl
    grace := by
      rw [grace]
      exact brisk_countable.grace }
  have steady : hurried.Steady (.opening leisurely (.start none)) 10000 := by
    refine ⟨countable, by rw [period]; decide, by rw [window]; decide, fun number => ?_⟩
    rw [limit]
    rfl
  -- The fourteenth moment after the first is the first checkpoint.
  have step : (hurried.later 14 (hurried.opening (.opening leisurely (.start none)))).stance.step?
      = some (.checkpoint Script.baseline) := by
    decide +kernel
  have invocations : (hurried.later 14 (hurried.opening (.opening leisurely (.start none)))
      ).progress.scene.monitor.invocations = 2 := by
    decide +kernel
  have reached := hurried.leads_later 14 (hurried.opening (.opening leisurely (.start none)))
  obtain ⟨pacing, rest, doing⟩ := Stance.doing_of_step? step
  obtain ⟨_, _, _, _, _, _, _, _, _, first⟩ :=
    window_conduct hurried _ steady _ pacing _ rest reached doing
  obtain ⟨_, _, counted, _⟩ := first rfl
  rw [invocations, period, window] at counted
  exact ⟨steady, _, pacing, rest, reached, doing, invocations, counted.symm⟩

end Plan

end Run

end Drill
