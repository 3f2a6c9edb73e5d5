import Drill.Proofs.Trail
import Drill.Proofs.Windup
import Mathlib.Data.List.Forall2

/-!
# A limit that is never reached

An invoker whose calls are all over before their time is up does the same with a limit as without
one, but for the timers that it sets (`Scene.Matched`). There is one exception: a call that waits
when the invoker is cancelled may answer all the same, and without a limit that answer is heard.
Then the two part (`Scene.Parted`), and it is the last thing that either of them does.

Main statements: `Matched.settle` and `Matched.fire`, the loops stay together or part, `Pair.serve`,
so do the invokers whatever they are asked, and `limit_unseen`, what this means for the whole trail.
-/

namespace Drill

section

variable {σ : Type} (service : Service σ) (w : σ)

/-- The states that a service can come to. -/
inductive Service.Visits : σ → Prop where
  | refl : Visits w
  | enter {w' : σ} (visits : Visits w') : Visits (service.enter w').2
  | finish {w' : σ} (visits : Visits w') : Visits (service.finish w').2
  | interrupt {w' : σ} (visits : Visits w') : Visits (service.interrupt w').2

/-- Is the wait over before so much time? -/
def Wait.Under (span : Nat) : Wait → Prop
  | .none => True
  | .span d => d < span
  | .forever => False

instance (span : Nat) : (wait : Wait) → Decidable (wait.Under span)
  | .none => .isTrue trivial
  | .span d => inferInstanceAs (Decidable (d < span))
  | .forever => .isFalse id

/-- No call of the service ever waits as long as that. -/
def Service.Swift (span : Nat) : Prop :=
  ∀ w', service.Visits w w' → (service.enter w').1.wait.Under span

/-- No call of the service ever answers when it is broken off. -/
def Service.Yields : Prop :=
  ∀ w' a, service.Visits w w' → (service.interrupt w').1 = some a → a.outcome? = none

end

/-- The same pacing with another limit. -/
def Pacing.limited (pacing : Pacing) (limit : Limit) : Pacing := { pacing with limit }

/-- Two timers that are due at once. Both were set already, and both before or both after a mark, if
so many timers were set before it. -/
structure Timer.Abreast (mark mark' set set' : Nat) (t t' : Timer) : Prop where
  due : t.due = t'.due
  set : t.serial < set
  set' : t'.serial < set'
  order : t.serial < mark ↔ t'.serial < mark'

namespace Task

/-- Two loops do the same, one with a limit for its calls and one without. -/
inductive Matched (mark mark' set set' : Nat) : Task → Task → Prop where
  | absent : Matched mark mark' set set' absent absent
  | scheduled : Matched mark mark' set set' scheduled scheduled
  | enters : Matched mark mark' set set' (calling none none) (calling none none)
  | calls {limit wake wake' : Timer} (abreast : wake.Abreast mark mark' set set' wake')
      (early : wake.due < limit.due) :
      Matched mark mark' set set' (calling (some limit) (some wake)) (calling none (some wake'))
  | rests {wake wake' : Timer} (abreast : wake.Abreast mark mark' set set' wake') :
      Matched mark mark' set set' (resting wake) (resting wake')
  | ended (how how' : Ending) : Matched mark mark' set set' (ended how) (ended how')

variable {mark mark' set set' : Nat} {task task' : Task}

/-- One of two matched loops is alive if the other one is. -/
theorem Matched.isAlive (matched : Matched mark mark' set set' task task') :
    task'.isAlive = task.isAlive := by
  cases matched <;> rfl

/-- The limit is never the timer that is waited for. -/
theorem Matched.next (matched : Matched mark mark' set set' task task') :
    (task.next? = none ∧ task'.next? = none) ∨
    ∃ t t', task.next? = some t ∧ task'.next? = some t' ∧ t.Abreast mark mark' set set' t' := by
  cases matched with
  | absent | scheduled | enters | ended => exact .inl ⟨rfl, rfl⟩
  | @calls limit wake wake' abreast early =>
    have before : wake.Before limit := .inl early
    exact .inr ⟨wake, wake', by simp [next?, before], rfl, abreast⟩
  | rests abreast => exact .inr ⟨_, _, rfl, rfl, abreast⟩

/-- Marks and clocks are no matter for loops that wait for the same. -/
theorem Matched.remark {mark₂ mark₂' set₂ set₂' : Nat}
    (matched : Matched mark mark' set set' task task')
    (remark : ∀ t t', Timer.Abreast mark mark' set set' t t' →
      Timer.Abreast mark₂ mark₂' set₂ set₂' t t') :
    Matched mark₂ mark₂' set₂ set₂' task task' := by
  cases matched with
  | absent => exact .absent
  | scheduled => exact .scheduled
  | enters => exact .enters
  | calls abreast early => exact .calls (remark _ _ abreast) early
  | rests abreast => exact .rests (remark _ _ abreast)
  | ended how how' => exact .ended how how'

/-- A loop that has come to its end waits for no timer. -/
theorem next?_of_ended (ended : task.isAlive = false) : task.next? = none := by
  cases task with
  | absent | ended => rfl
  | scheduled | calling | resting => cases ended

end Task

namespace Scene

variable {σ : Type}

/-- A row of moves of a service goes on from what it is left in. -/
theorem Goes.visits {service : Service σ} {pacing : Pacing} {s s' : Scene σ}
    {e : Option CallEnd} {w : σ}
    (goes : Goes service pacing s e s') (visits : service.Visits w s.service) :
    service.Visits w s'.service := by
  have ends {s : Scene σ} {e : CallEnd} {state : σ} (visits : service.Visits w s.service)
      (ends : Ends service s e state) : service.Visits w state := by
    cases ends with
    | answered => exact .finish visits
    | expired | broken => exact .interrupt visits
  have called : service.Visits w (s.called service pacing).service := by
    rw [called_service]
    exact .enter visits
  cases goes with
  | waits | stops => exact visits
  | ends _ ends' =>
    rw [endCall_service]
    exact ends visits ends'
  | begins _ _ _ begins =>
    cases begins with
    | refused =>
      rw [endCall_service]
      exact visits
    | calls => exact called
    | callsOnce _ _ ends' =>
      rw [endCall_service]
      exact ends called ends'

/-- The scene with other timers. -/
def retimed (s : Scene σ) (set : Nat) (task : Task) : Scene σ :=
  { s with clock := ⟨s.clock.now, set⟩, invoker := { s.invoker with task } }

/-- Nothing but timers tells the two scenes apart. -/
inductive Matched (mark mark' : Nat) (s : Scene σ) : Scene σ → Prop where
  | of {set : Nat} {task : Task} (low : mark ≤ s.clock.set) (low' : mark' ≤ set)
      (tasks : Task.Matched mark mark' s.clock.set set s.invoker.task task) :
        Matched mark mark' s (s.retimed set task)

/-- Both invokers were cancelled and their loops have come to their ends. The second one has heard
what a call answered when it was broken off, and the first one has not. -/
structure Parted (service : Service σ) (w : σ) (s u : Scene σ) : Prop where
  now : u.clock.now = s.clock.now
  state : u.service = s.service
  ticks : u.invoker.ticks = s.invoker.ticks
  cancelled : s.invoker.phase = .cancelled
  cancelled' : u.invoker.phase = .cancelled
  ended : s.invoker.task.isAlive = false
  ended' : u.invoker.task.isAlive = false
  heard : ∃ w' a outcome moment, service.Visits w w' ∧ (service.interrupt w').1 = some a ∧
    a.outcome? = some outcome ∧
    u.tellings = s.tellings ++ [(moment, (s.invoker.ticks : Int), outcome)] ∧
    u.monitor = (s.monitor.record s.invoker.ticks outcome).1

section

variable {service : Service σ} {pacing : Pacing} {w : σ} {mark mark' span : Nat} {s u : Scene σ}

/-- The service may go on in both scenes. -/
theorem Matched.withService (matched : Matched mark mark' s u) (state : σ) :
    Matched mark mark' { s with service := state } { u with service := state } := by
  obtain ⟨low, low', tasks⟩ := matched
  exact .of low low' tasks

/-- Both loops may come to their ends. -/
theorem Matched.finish (matched : Matched mark mark' s u) (how how' : Ending) :
    Matched mark mark' (s.finish how) (u.finish how') := by
  obtain ⟨low, low', _⟩ := matched
  exact .of low low' (.ended how how')

/-- Both wait for the same delay, although its timers were set as different numbers. -/
theorem Matched.rest (matched : Matched mark mark' s u) (limit limit' : Limit) :
    Matched mark mark' (s.rest (pacing.limited limit)) (u.rest (pacing.limited limit')) := by
  obtain ⟨low, low', tasks⟩ := matched
  unfold Scene.rest Pacing.limited
  cases pacing.period with
  | error fault => exact .of low low' (.ended _ _)
  | ok period =>
    refine .of (Nat.le_succ_of_le low) (Nat.le_succ_of_le low') (.rests ⟨rfl, ?_, ?_, ?_⟩)
    · exact Nat.lt_succ_self _
    · exact Nat.lt_succ_self _
    · exact iff_of_false (Nat.not_lt_of_le low) (Nat.not_lt_of_le low')

/-- Both take an answer in the same way. -/
theorem Matched.conclude (matched : Matched mark mark' s u) (limit limit' : Limit) (a : Answer) :
    Matched mark mark' (s.conclude (pacing.limited limit) a)
      (u.conclude (pacing.limited limit') a) := by
  have told {s u : Scene σ} (matched : Matched mark mark' s u) :
      Matched mark mark' (s.proceed (pacing.limited limit))
        (u.proceed (pacing.limited limit')) := by
    have phase : u.invoker.phase = s.invoker.phase := by
      obtain ⟨_⟩ := matched
      rfl
    unfold proceed
    rw [phase]
    split
    next => exact matched.finish _ _
    next => exact matched.rest limit limit'
  have record (outcome : Outcome) : Matched mark mark' (s.record outcome) (u.record outcome) := by
    obtain ⟨low, low', tasks⟩ := matched
    exact .of low low' tasks
  cases a with
  | cancelled => exact matched.finish _ _
  | fault fault => exact told (record _)
  | value v? =>
    cases v? with
    | none => exact matched.finish _ _
    | some v => exact told (record _)

/-- Both invokers may be cancelled. -/
theorem Matched.cancel (matched : Matched mark mark' s u) :
    Matched mark mark' s.cancel u.cancel := by
  obtain ⟨low, low', tasks⟩ := matched
  unfold Scene.cancel Scene.retimed
  dsimp only
  rw [tasks.isAlive]
  split
  next => exact .of low low' tasks
  next => exact .of low low' tasks

/-- A call that ends in the same way is followed by the same in both. -/
theorem Matched.endCall (matched : Matched mark mark' s u) (limit limit' : Limit) (e : CallEnd) :
    Matched mark mark' (s.endCall (pacing.limited limit) e)
      (u.endCall (pacing.limited limit') e) := by
  unfold Scene.endCall
  cases e.answer? with
  | none => exact matched.finish _ _
  | some a => exact matched.conclude limit limit' a

theorem cancel_clock (s : Scene σ) : s.cancel.clock = s.clock := by
  unfold Scene.cancel
  split <;> rfl

/-- It becomes as late in both. -/
theorem Matched.reach (matched : Matched mark mark' s u) {t t' : Timer} (due : t.due = t'.due) :
    Matched mark mark' { s with clock := s.clock.reach t }
      { u with clock := u.clock.reach t' } := by
  obtain ⟨low, low', tasks⟩ := matched
  unfold Clock.reach
  rw [← due]
  exact .of low low' tasks

/-- A timer that others set is set in both. -/
theorem Matched.timer (matched : Matched mark mark' s u) (span : Nat) :
    Matched mark mark' (s.timer span).2 (u.timer span).2 := by
  obtain ⟨low, low', tasks⟩ := matched
  refine .of (Nat.le_succ_of_le low) (Nat.le_succ_of_le low') (tasks.remark fun t t' abreast => ?_)
  exact ⟨abreast.due, Nat.lt_succ_of_lt abreast.set, Nat.lt_succ_of_lt abreast.set', abreast.order⟩

variable (service w) in
/-- Two invokers do the same but for their timers, or they have parted. -/
def Akin (mark mark' : Nat) (s u : Scene σ) : Prop := Matched mark mark' s u ∨ Parted service w s u

theorem Matched.now (matched : Matched mark mark' s u) : u.clock.now = s.clock.now := by
  obtain ⟨_⟩ := matched
  rfl

theorem Matched.state (matched : Matched mark mark' s u) : u.service = s.service := by
  obtain ⟨_⟩ := matched
  rfl

theorem Matched.told (matched : Matched mark mark' s u) :
    u.monitor = s.monitor ∧ u.log = s.log := by
  obtain ⟨_⟩ := matched
  exact ⟨rfl, rfl⟩

/-- Their invokers differ in nothing but the timers. -/
theorem Matched.invoker (matched : Matched mark mark' s u) : u.invoker.phase = s.invoker.phase ∧
    u.invoker.ticks = s.invoker.ticks ∧ u.invoker.interrupted = s.invoker.interrupted := by
  obtain ⟨_⟩ := matched
  exact ⟨rfl, rfl, rfl⟩

theorem Matched.tasks (matched : Matched mark mark' s u) :
    Task.Matched mark mark' s.clock.set u.clock.set s.invoker.task u.invoker.task := by
  obtain ⟨_, _, tasks⟩ := matched
  exact tasks

/-- A call is answered in both at the same time and in the same way. -/
theorem Matched.answer (matched : Matched mark mark' s u) (limit limit' : Limit) :
    Matched mark mark' (s.answer service (pacing.limited limit))
      (u.answer service (pacing.limited limit')) := by
  unfold Scene.answer
  rw [matched.state]
  exact (matched.withService _).conclude limit limit' _

/-- A call that is broken off because its invoker was cancelled is heard only without a limit. -/
theorem Matched.broken (matched : Matched mark mark' s u) (cancelled : s.invoker.phase = .cancelled)
    {w' : σ} (visits : service.Visits w w') (limit limit' : Limit) :
    Akin service w mark mark'
      (s.endCall (pacing.limited limit) (.broken true (service.interrupt w').1))
      (u.endCall (pacing.limited limit') (.broken false (service.interrupt w').1)) := by
  rw [endCall_of_untold _ _ rfl]
  cases heard : (CallEnd.broken false (service.interrupt w').1).outcome? with
  | none =>
    rw [endCall_of_untold _ _ heard]
    exact .inl (matched.finish _ _)
  | some outcome =>
    obtain ⟨phase, ticks, _⟩ := matched.invoker
    obtain ⟨monitor, log⟩ := matched.told
    obtain ⟨a, gave, told⟩ : ∃ a, (service.interrupt w').1 = some a ∧ a.outcome? = some outcome :=
      Option.bind_eq_some_iff.mp heard
    have cancelled' : u.invoker.phase = .cancelled := phase.trans cancelled
    have same : u.tellings = s.tellings := by
      unfold tellings
      rw [log]
    have tellings : (u.record outcome).tellings
        = s.tellings ++ [(u.clock.now, (s.invoker.ticks : Int), outcome)] := by
      rw [record_tellings, same, ticks]
    have recorded : (u.record outcome).monitor = (s.monitor.record s.invoker.ticks outcome).1 := by
      rw [record_monitor, monitor, ticks]
    rw [endCall_of_cancelled _ _ _ cancelled']
    unfold tell
    rw [heard]
    exact .inr ⟨matched.now, matched.state, ticks, cancelled, cancelled', rfl, rfl, w', a, outcome,
      u.clock.now, visits, gave, told, tellings, recorded⟩

/-- A call that is broken off under a limit is not heard, and without one it is: from then on the
scenes may part. -/
theorem Matched.breakOff (matched : Matched mark mark' s u)
    (cancelled : s.invoker.phase = .cancelled)
    (visits : service.Visits w s.service) (limit limit' : Limit) (t : Timer) :
    Akin service w mark mark' (s.breakOff service (pacing.limited limit) (some t))
      (u.breakOff service (pacing.limited limit') none) := by
  rw [breakOff_endCall, breakOff_endCall, matched.state]
  exact (matched.withService (service.interrupt s.service).2).broken cancelled visits limit limit'

/-- Both wait for the answer of a call that comes in time. -/
theorem Matched.await (matched : Matched mark mark' s u) (sound : s.invoker.Sound)
    (visits : service.Visits w s.service)
    (limit limit' : Limit) {t : Timer} (due : t.due = s.clock.now + span) {wait : Wait}
    (under : wait.Under span) :
    Akin service w mark mark' (s.await service (pacing.limited limit) (some t) wait)
      (u.await service (pacing.limited limit') none wait) := by
  unfold Scene.await
  cases wait with
  | none => exact .inl (matched.answer limit limit')
  | forever => cases under
  | span d =>
    dsimp only
    rw [matched.invoker.2.2]
    cases interrupted : s.invoker.interrupted with
    | true => exact (matched.timer d).breakOff (sound.cancelled interrupted) visits limit limit' t
    | false =>
      obtain ⟨low, low', _⟩ := matched
      refine .inl (.of (Nat.le_succ_of_le low) (Nat.le_succ_of_le low')
        (.calls ⟨rfl, ?_, ?_, ?_⟩ ?_))
      · exact Nat.lt_succ_self _
      · exact Nat.lt_succ_self _
      · exact iff_of_false (Nat.not_lt_of_le low) (Nat.not_lt_of_le low')
      · rw [due]
        exact Nat.add_lt_add_left under _

/-- Both begin a call. Only the first one sets a timer for its limit. -/
theorem Matched.begin (matched : Matched mark mark' s u) (running : s.invoker.Running)
    (swift : service.Swift w span)
    (visits : service.Visits w s.service) : Akin service w mark mark'
      ((s.become (.calling none none)).beginCall service (pacing.limited (.within span)))
      ((u.become (.calling none none)).beginCall service (pacing.limited .none)) := by
  rw [beginCall_called service _ s (fun _ => Limit.noConfusion),
    beginCall_called service _ u (fun _ => Limit.noConfusion), matched.state]
  have ticked : Matched mark mark' (s.tick.arm (pacing.limited (.within span))).2 u.tick := by
    obtain ⟨low, low', _⟩ := matched
    exact .of (Nat.le_succ_of_le low) low' .enters
  have called : Matched mark mark' (s.called service (pacing.limited (.within span)))
      (u.called service (pacing.limited .none)) := by
    have entered := ticked.withService (service.enter s.service).2
    unfold Scene.called
    rw [matched.state]
    split
    next => exact entered.cancel
    next => exact entered
  have due : (⟨s.clock.now + span, s.clock.set⟩ : Timer).due
      = (s.called service (pacing.limited (.within span))).clock.now + span := by
    rcases s.called_cases service (pacing.limited (.within span)) with ⟨same, _⟩ | ⟨same, _⟩
    · rw [same]
      rfl
    · rw [same, cancel_clock]
      rfl
  exact called.await (called_sound service _ running)
    (by rw [called_service]; exact .enter visits) _ _ due
    (swift _ visits)

/-- Let go on, both loops do the same, or they part. -/
theorem Matched.settle (matched : Matched mark mark' s u) (sound : s.invoker.Sound)
    (swift : service.Swift w span)
    (visits : service.Visits w s.service) : Akin service w mark mark'
      (s.settle service (pacing.limited (.within span)))
        (u.settle service (pacing.limited .none)) := by
  have tasks := matched.tasks
  unfold Scene.settle
  rw [matched.invoker.2.2]
  generalize task : s.invoker.task = x, task' : u.invoker.task = y at tasks
  cases interrupted : s.invoker.interrupted with
  | true =>
    have cancelled := sound.cancelled interrupted
    cases tasks with
    | absent | ended => exact .inl matched
    | scheduled | rests => exact .inl (matched.finish _ _)
    | calls => exact matched.breakOff cancelled visits _ _ _
    | enters =>
      simp only [if_true, breakOff_endCall, matched.state]
      exact .inl ((matched.withService (service.interrupt s.service).2).endCall _ _ _)
  | false =>
    cases tasks with
    | scheduled => exact matched.begin (sound.running (by rw [task]; rfl) interrupted) swift visits
    | absent | ended | enters | calls | rests => exact .inl matched

/-- Both loops wait for timers that are due at once, and when these fire they do the same, or they
part. -/
theorem Matched.fire (matched : Matched mark mark' s u) (sound : s.invoker.Sound) (still : s.Still)
    (swift : service.Swift w span) (visits : service.Visits w s.service) {t t' : Timer}
    (next : s.invoker.task.next? = some t) (next' : u.invoker.task.next? = some t') :
    Akin service w mark mark' (s.fire service (pacing.limited (.within span)) t)
      (u.fire service (pacing.limited .none) t') := by
  have tasks := matched.tasks
  unfold Scene.fire
  generalize task : s.invoker.task = x, task' : u.invoker.task = y at tasks next next'
  cases tasks with
  | absent | scheduled | enters | ended => cases next
  | @rests wake wake' abreast =>
    cases next
    cases next'
    have alive : s.invoker.task.isAlive = true := by
      rw [task]
      rfl
    simp only [task, task']
    exact (matched.reach abreast.due).begin (sound.running alive still.calm) swift visits
  | @calls limit wake wake' abreast early =>
    have before : wake.Before limit := .inl early
    have first : t = wake := by
      simp only [Task.next?, before, if_true, Option.some.injEq] at next
      exact next.symm
    have unlimited : some limit ≠ some wake := by
      rintro ⟨⟩
      exact Nat.lt_irrefl _ early
    cases next'
    subst first
    simp only [task, task', if_neg unlimited]
    exact .inl ((matched.reach abreast.due).answer _ _)

/-- Time makes no difference to invokers that have parted. -/
theorem Parted.reclock (parted : Parted service w s u) {clock clock' : Clock}
    (now : clock'.now = clock.now) :
    Parted service w { s with clock } { u with clock := clock' } :=
  { parted with now }

variable (service w) in
/-- Two invokers that are asked the same. -/
structure Pair (mark mark' : Nat) (s u : Scene σ) : Prop where
  visits : service.Visits w s.service
  sound : s.invoker.Sound
  akin : Akin service w mark mark' s u

/-- Both wait for timers that are due at once, or neither of them waits for one. -/
theorem Pair.next (pair : Pair service w mark mark' s u) :
    (s.invoker.task.next? = none ∧ u.invoker.task.next? = none) ∨
    ∃ t t', s.invoker.task.next? = some t ∧ u.invoker.task.next? = some t' ∧ t.due = t'.due ∧
      (t.serial < mark ↔ t'.serial < mark') := by
  rcases pair.akin with matched | parted
  · rcases matched.tasks.next with none | ⟨t, t', next, next', abreast⟩
    · exact .inl none
    · exact .inr ⟨t, t', next, next', abreast.due, abreast.order⟩
  · exact .inl ⟨Task.next?_of_ended parted.ended, Task.next?_of_ended parted.ended'⟩

/-- Two loops that go side by side may be reached by the same moment. -/
theorem Pair.reach (pair : Pair service w mark mark' s u) {t t' : Timer} (due : t.due = t'.due) :
    Pair service w mark mark' { s with clock := s.clock.reach t }
      { u with clock := u.clock.reach t' } where
  visits := pair.visits
  sound := pair.sound
  akin := pair.akin.imp (Matched.reach · due) (Parted.reclock · due.symm)

/-- A mark is as good as no mark. -/
theorem Pair.unmark (pair : Pair service w mark mark' s u) : Pair service w 0 0 s u where
  visits := pair.visits
  sound := pair.sound
  akin := by
    refine pair.akin.imp (fun matched => ?_) id
    obtain ⟨_, _, tasks⟩ := matched
    refine .of (Nat.zero_le _) (Nat.zero_le _) (tasks.remark fun t t' abreast => ?_)
    exact ⟨abreast.due, abreast.set, abreast.set',
      iff_of_false (Nat.not_lt_zero _) (Nat.not_lt_zero _)⟩

/-- A timer that someone sets is a mark: all timers of the loops were set before it. -/
theorem Pair.timer (pair : Pair service w mark mark' s u) (span : Nat) :
    Pair service w (s.timer span).1.serial (u.timer span).1.serial (s.timer span).2
      (u.timer span).2 where
  visits := pair.visits
  sound := pair.sound
  akin := by
    refine pair.akin.imp (fun matched => ?_) fun parted => parted.reclock parted.now
    obtain ⟨_, _, tasks⟩ := matched
    refine .of (Nat.le_succ _) (Nat.le_succ _) (tasks.remark fun t t' abreast => ?_)
    exact ⟨abreast.due, Nat.lt_succ_of_lt abreast.set, Nat.lt_succ_of_lt abreast.set',
      iff_of_true abreast.set abreast.set'⟩

variable (pacing) (swift : service.Swift w span)

include swift

/-- They may be let go on side by side. -/
theorem Pair.settle (pair : Pair service w mark mark' s u) : Pair service w mark mark'
    (s.settle service (pacing.limited (.within span)))
      (u.settle service (pacing.limited .none)) where
  visits := (settle_goes service _ pair.sound).visits pair.visits
  sound := (settle_goes service _ pair.sound).sound pair.sound
  akin := by
    rcases pair.akin with matched | parted
    · exact matched.settle pair.sound swift pair.visits
    · rw [settle_of_ended parted.ended, settle_of_ended parted.ended']
      exact .inr parted

/-- Their timers fire side by side. -/
theorem Pair.fire (pair : Pair service w mark mark' s u) (still : s.Still) {t t' : Timer}
    (next : s.invoker.task.next? = some t) (next' : u.invoker.task.next? = some t') :
    Pair service w mark mark'
      (s.fire service (pacing.limited (.within span)) t)
        (u.fire service (pacing.limited .none) t') where
  visits := (fire_goes service _ pair.sound still next).visits pair.visits
  sound := (fire_goes service _ pair.sound still next).sound pair.sound
  akin := by
    rcases pair.akin with matched | parted
    · exact matched.fire pair.sound still swift pair.visits next next'
    · rw [Task.next?_of_ended parted.ended] at next
      cases next

/-- All that can be seen of two invokers is the same. -/
structure Agree (s u : Scene σ) : Prop where
  now : u.clock.now = s.clock.now
  state : u.service = s.service
  phase : u.invoker.phase = s.invoker.phase
  ticks : u.invoker.ticks = s.invoker.ticks
  monitor : u.monitor = s.monitor
  log : u.log = s.log

variable (service w) in
/-- All that can be seen of two invokers is the same, or they have parted. -/
def Together (s u : Scene σ) : Prop := Agree s u ∨ Parted service w s u

omit swift in

/-- What goes side by side agrees as long as no cancelled call has answered. -/
theorem Pair.together (pair : Pair service w mark mark' s u) : Together service w s u := by
  refine pair.akin.imp (fun matched => ?_) id
  obtain ⟨_⟩ := matched
  exact ⟨rfl, rfl, rfl, rfl, rfl, rfl⟩

/-- Until the timer of someone else fires, which was set at the same time, the invokers stay
together or part. -/
theorem Pair.advance {goal goal' : Timer} (due : goal.due = goal'.due) (fuel : Nat) {s u : Scene σ}
    (pair : Pair service w goal.serial goal'.serial s u) (still : s.Still) :
    List.Forall₂ (Together service w)
      (s.advancing service (pacing.limited (.within span)) goal fuel)
      (u.advancing service (pacing.limited .none) goal' fuel) ∧
    Pair service w goal.serial goal'.serial
      (s.advance service (pacing.limited (.within span)) goal fuel)
      (u.advance service (pacing.limited .none) goal' fuel) := by
  have reaches {s u : Scene σ} (pair : Pair service w goal.serial goal'.serial s u) :
      List.Forall₂ (Together service w) [{ s with clock := s.clock.reach goal }]
        [{ u with clock := u.clock.reach goal' }] ∧
      Pair service w goal.serial goal'.serial { s with clock := s.clock.reach goal }
        { u with clock := u.clock.reach goal' } :=
    ⟨.cons (pair.reach due).together .nil, pair.reach due⟩
  induction fuel generalizing s u with
  | zero => exact reaches pair
  | succ fuel ih =>
    unfold advancing Scene.advance
    rcases pair.next with ⟨none, none'⟩ | ⟨t, t', next, next', same, order⟩
    · rw [none, none']
      exact reaches pair
    · have before : t'.Before goal' ↔ t.Before goal := by
        unfold Timer.Before
        rw [due, same, order]
      rw [next, next']
      simp only [before]
      split
      next =>
        have fired := pair.fire pacing swift still next next'
        obtain ⟨rest, last⟩ :=
          ih fired ((fire_goes service _ pair.sound still next).still pair.sound)
        exact ⟨.cons fired.together rest, last⟩
      next => exact reaches pair

/-- The same while nobody else waits for a timer. -/
theorem Pair.drain (fuel : Nat) {s u : Scene σ} (pair : Pair service w mark mark' s u)
    (still : s.Still) :
    List.Forall₂ (Together service w) (s.draining service (pacing.limited (.within span)) fuel)
      (u.draining service (pacing.limited .none) fuel) ∧
    Pair service w mark mark' (s.drain service (pacing.limited (.within span)) fuel)
      (u.drain service (pacing.limited .none) fuel) := by
  induction fuel generalizing s u with
  | zero => exact ⟨.nil, pair⟩
  | succ fuel ih =>
    unfold draining Scene.drain
    rcases pair.next with ⟨none, none'⟩ | ⟨t, t', next, next', _⟩
    · rw [none, none']
      exact ⟨.nil, pair⟩
    · rw [next, next']
      have fired := pair.fire pacing swift still next next'
      obtain ⟨rest, last⟩ := ih fired ((fire_goes service _ pair.sound still next).still pair.sound)
      exact ⟨.cons fired.together rest, last⟩

/-- One may wait for their ends. -/
theorem Pair.waitClosed (fuel : Nat) (pair : Pair service w mark mark' s u) :
    List.Forall₂ (Together service w) (s.winding service (pacing.limited (.within span)) fuel)
      (u.winding service (pacing.limited .none) fuel) ∧
    Pair service w mark mark' (s.waitClosed service (pacing.limited (.within span)) fuel).2
      (u.waitClosed service (pacing.limited .none) fuel).2 := by
  have alive : u.invoker.task.isAlive = s.invoker.task.isAlive := by
    rcases pair.akin with matched | parted
    · exact matched.tasks.isAlive
    · exact parted.ended'.trans parted.ended.symm
  have settled := pair.settle pacing swift
  have still := (settle_goes service (pacing.limited (.within span)) pair.sound).still pair.sound
  obtain ⟨rest, last⟩ := settled.drain pacing swift fuel still
  unfold winding Scene.waitClosed
  rw [alive]
  split
  next => exact ⟨.cons settled.together rest, last⟩
  next => exact ⟨.nil, pair⟩

/-- One may sleep beside them. -/
theorem Pair.sleep (duration : Nat) (pair : Pair service w mark mark' s u) :
    List.Forall₂ (Together service w)
      (s.serving service (pacing.limited (.within span)) (.sleep duration))
      (u.serving service (pacing.limited .none) (.sleep duration)) ∧
    Pair service w 0 0 (s.sleep service (pacing.limited (.within span)) duration)
      (u.sleep service (pacing.limited .none) duration) := by
  have timed := pair.timer duration
  have settled := timed.settle pacing swift
  have still := (settle_goes service (pacing.limited (.within span)) timed.sound).still timed.sound
  have due : (s.timer duration).1.due = (u.timer duration).1.due := by
    have now : u.clock.now = s.clock.now := pair.together.elim Agree.now Parted.now
    exact congrArg (· + duration) now.symm
  obtain ⟨rest, last⟩ := settled.advance pacing swift due (2 * duration + 3) still
  exact ⟨.cons timed.together (.cons settled.together rest), last.unmark⟩

omit swift in

/-- Both may be cancelled, which is where they can part. -/
theorem Pair.cancel (pair : Pair service w mark mark' s u) :
    Pair service w mark mark' s.cancel u.cancel where
  visits := by
    rw [cancel_service]
    exact pair.visits
  sound := cancel_sound pair.sound
  akin := by
    rcases pair.akin with matched | parted
    · exact .inl matched.cancel
    · rw [cancel_of_cancelled parted.cancelled, cancel_of_cancelled parted.cancelled']
      exact .inr parted

omit swift in
/-- Only two that have the same before them can be started. -/
theorem Pair.start (pair : Pair service w mark mark' s u) : Pair service w mark mark'
    (s.serve service (pacing.limited (.within span)) .start)
      (u.serve service (pacing.limited .none) .start) := by
  have phase : u.invoker.phase = s.invoker.phase := pair.together.elim Agree.phase fun parted =>
    parted.cancelled'.trans parted.cancelled.symm
  unfold Scene.serve Scene.start
  rw [phase]
  by_cases idle : s.invoker.phase = .idle
  · have begins : Move service (pacing.limited (.within span)) s none
      (s.begun (pacing.limited (.within span))) :=
      .start (start_eq_ok_iff.mpr ⟨idle, rfl⟩)
    simp only [if_pos idle]
    refine ⟨pair.visits, begins.sound pair.sound, ?_⟩
    rcases pair.akin with ⟨low, low', _⟩ | parted
    · exact .inl (.of low low' .scheduled)
    · cases parted.cancelled.symm.trans idle
  · simp only [if_neg idle]
    exact pair

/-- Whatever is asked of both, they stay together or part. -/
theorem Pair.serve (r : Request) (pair : Pair service w 0 0 s u) :
    List.Forall₂ (Together service w) (s.serving service (pacing.limited (.within span)) r)
      (u.serving service (pacing.limited .none) r) ∧
    Pair service w 0 0 (s.serve service (pacing.limited (.within span)) r)
      (u.serve service (pacing.limited .none) r) := by
  cases r with
  | start => exact ⟨.cons (pair.start pacing).together .nil, pair.start pacing⟩
  | cancel => exact ⟨.cons pair.cancel.together .nil, pair.cancel⟩
  | sleep duration => exact pair.sleep pacing swift duration
  | waitClosed fuel => exact pair.waitClosed pacing swift fuel
  | close =>
    obtain ⟨rest, last⟩ := pair.cancel.waitClosed pacing swift 0
    exact ⟨.cons pair.cancel.together rest, last⟩

/-- So they go side by side through any requests, by induction on these. -/
theorem Pair.serveAll (requests : List Request) {s u : Scene σ} (pair : Pair service w 0 0 s u) :
    List.Forall₂ (Together service w) (s.trail service (pacing.limited (.within span)) requests)
      (u.trail service (pacing.limited .none) requests) := by
  induction requests generalizing s u with
  | nil => exact .nil
  | cons r requests ih =>
    obtain ⟨first, served⟩ := pair.serve pacing swift r
    exact List.rel_append first (ih served)

end

/-- A service with its calls counted comes to the states of the service itself. -/
theorem visits_of_watched {service : Service σ} {w w' : Watched σ}
    (visits : service.watched.Visits w w') :
    service.Visits w.state w'.state := by
  induction visits with
  | refl => exact .refl
  | enter _ ih => exact .enter ih
  | finish _ ih => exact .finish ih
  | interrupt _ ih => exact .interrupt ih

/-- Where two trails agree on the service, calls were entered at the same moments. -/
theorem entries_congr {s u : Scene (Watched σ)} {path path' : List (Scene (Watched σ))}
    (same : List.Forall₂ (fun a b => b.clock.now = a.clock.now ∧ b.service = a.service) path path')
    (state : u.service = s.service) : u.entries path' = s.entries path := by
  induction same generalizing s u with
  | nil => rfl
  | cons first _ ih =>
    obtain ⟨now, next⟩ := first
    unfold entries
    rw [now, next, state, ih next]

/-- Take a service whose calls are all over before the time is up that a limit would give them.
Whatever is asked of an invoker, from the beginning on it calls the service at the same moments with
the limit as without, and all that can be seen of it is the same at every moment, unless a call that
was broken off with the invoker's cancellation has answered. That answer is heard without a limit
only, and the invoker does nothing after it. -/
theorem limit_unseen {service : Service σ} {span : Nat} {s : Scene (Watched σ)}
    (swift : service.Swift s.service.state span) (fresh : s.invoker = .fresh) (pacing : Pacing)
    (requests : List Request) :
    let limited := s.trail service.watched (pacing.limited (.within span)) requests
    let unlimited := s.trail service.watched (pacing.limited .none) requests
    List.Forall₂ (Together service.watched s.service) limited unlimited ∧
      s.entries limited = s.entries unlimited ∧
      (service.Yields s.service.state → List.Forall₂ Agree limited unlimited) := by
  have swift' : service.watched.Swift s.service span :=
    fun w' visits => swift w'.state (visits_of_watched visits)
  have matched : Matched 0 0 s (s.retimed s.clock.set s.invoker.task) := by
    refine .of (Nat.zero_le _) (Nat.zero_le _) ?_
    rw [fresh]
    exact .absent
  have pair : Pair service.watched s.service 0 0 s s := by
    refine ⟨.refl, ?_, .inl matched⟩
    rw [fresh]
    exact Invoker.fresh_sound
  have together := pair.serveAll pacing swift' requests
  refine ⟨together, ?_, fun yields => together.imp fun l u => ?_⟩
  · refine (entries_congr (together.imp fun l u seen => ?_) rfl).symm
    exact seen.elim (fun agree => ⟨agree.now, agree.state⟩) fun parted => ⟨parted.now, parted.state⟩
  · rintro (agree | parted)
    · exact agree
    · obtain ⟨w', a, outcome, _, visits, gave, told, _⟩ := parted.heard
      have silent := yields w'.state a (visits_of_watched visits) gave
      rw [told] at silent
      cases silent

end Scene

namespace Cast

/-- All cues of a cast are like this. -/
structure Cues (p : Cue → Prop) (c : Cast) : Prop where
  upcoming : ∀ cue ∈ c.upcoming, p cue
  standing : p c.standing
  current : p c.current

/-- A cast keeps its cues. -/
theorem Cues.visits {p : Cue → Prop} {c c' : Cast} (cues : Cues p c)
    (visits : service.Visits c c') : Cues p c' := by
  have delivers {c : Cast} (cues : Cues p c) (delivery : Delivery) :
    Cues p (c.deliver delivery).2 := by
    cases delivery <;> exact ⟨cues.upcoming, cues.standing, cues.current⟩
  induction visits with
  | refl => exact cues
  | @enter c' _ ih =>
    refine ⟨fun cue mem => ih.upcoming cue (List.mem_of_mem_tail mem), ih.standing, ?_⟩
    show p (c'.upcoming.headD c'.standing)
    cases same : c'.upcoming with
    | nil => exact ih.standing
    | cons cue rest => exact ih.upcoming cue (by rw [same]; exact List.mem_cons_self)
  | @finish c' _ ih => exact delivers ih c'.current.delivery
  | @interrupt c' _ ih =>
    show Cues p c'.interrupt.2
    unfold interrupt
    split
    next delivery _ => exact delivers ih delivery
    next => exact ⟨ih.upcoming, ih.standing, ih.current⟩

/-- A cast is swift if its cues are. -/
theorem Cues.swift {span : Nat} {c : Cast}
    (cues : Cues (fun cue => cue.opening.wait.Under span) c) :
    service.Swift c span :=
  fun _ visits => (cues.visits (.enter visits)).current

/-- A cast of which no cue has an answer for a call that is broken off yields. -/
theorem Cues.yields {c : Cast} (cues : Cues (fun cue => cue.onInterrupt = none) c) :
    service.Yields c := by
  intro c' a visits gave
  have none := (cues.visits visits).current
  have silent : (service.interrupt c').1 = Option.none := by
    show c'.interrupt.1 = Option.none
    unfold interrupt
    rw [none]
  rw [silent] at gave
  cases gave

end Cast

namespace Scene

/-- One call answers at once, one fails after a while, and one cancels the invoker that made it and
waits. -/
def polite : Cast :=
  .start [⟨⟨false, .none⟩, .next, none⟩, ⟨⟨false, .span 300000⟩, .fault Limit.exceeded, none⟩]
    ⟨⟨true, .span 200000⟩, .next, none⟩ 0

/-- The third call is the last one, with a limit as without. -/
theorem polite_unseen :
    let s : Scene (Watched Cast) := .opening ⟨polite, 0, 0⟩ (.start none)
    let requests := [.start, .sleep 2000000, .close]
    Cast.service.Swift polite 1000000 ∧
    List.Forall₂ Agree (s.trail Cast.service.watched (leisurely.limited (.within 1000000)) requests)
      (s.trail Cast.service.watched (leisurely.limited .none) requests) ∧
    s.entries (s.trail Cast.service.watched (leisurely.limited (.within 1000000)) requests)
      = [0, 500000, 1300000] := by
  intro s requests
  have swift : Cast.service.Swift polite 1000000 :=
    Cast.Cues.swift ⟨by decide, by decide, by decide⟩
  have yields : Cast.service.Yields polite := Cast.Cues.yields ⟨by decide, by decide, by decide⟩
  obtain ⟨_, entries, agree⟩ := limit_unseen (s := s) swift rfl leisurely requests
  refine ⟨swift, agree yields, ?_⟩
  rw [entries]
  decide +kernel

/-- The second call waits, and it answers when it is broken off. -/
def outspoken : Cast :=
  .start [⟨⟨false, .none⟩, .next, none⟩] ⟨⟨false, .span 300000⟩, .next, some (.value (some 55))⟩ 0

/-- An answer to a cancellation tells the two apart, although the time of no call is ever up. -/
theorem outspoken_heard :
    let s : Scene (Watched Cast) := .opening ⟨outspoken, 0, 0⟩ (.start none)
    let requests := [.start, .sleep 600000, .cancel, .sleep 0]
    Cast.service.Swift outspoken 1000000 ∧
    ¬ List.Forall₂ Agree
      (s.trail Cast.service.watched (leisurely.limited (.within 1000000)) requests)
      (s.trail Cast.service.watched (leisurely.limited .none) requests) := by
  intro s requests
  refine ⟨Cast.Cues.swift ⟨by decide, by decide, by decide⟩, fun agree => ?_⟩
  have last := agree.get (i := 8) (by decide +kernel) (by decide +kernel)
  have same := congrArg Monitor.invocations last.monitor
  revert same
  decide +kernel

end Scene

end Drill
