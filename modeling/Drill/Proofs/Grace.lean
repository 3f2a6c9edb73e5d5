import Drill.Http.Management
import Drill.Proofs.Rounding
import Drill.Proofs.Toggling
import Mathlib.Algebra.Order.Round

/-!
# What is left of a grace period

A grace period goes from the settings to a node in two steps. A run stretches it, turns it into
seconds and back, and cuts off the fraction of a millisecond (`Settings.allowance`); a controller
rounds the milliseconds up to whole seconds. So the first step may lose a millisecond, and the
second one loses nothing.

Main statements: `allowance_cut` and `graceSeconds_up` say how far each step is from the exact
numbers, `Reached.graced`, a run gives every node that it stops the milliseconds of the first step,
and `grace_conduct`, both steps together.
-/

namespace Drill

open Number (Double Magnitude Rounds Within roundoff smallestNormal smallestNormal_le)

/-- How many milliseconds a node is given to stop. -/
def Settings.allowance (s : Settings) : Except Fault Int :=
  (s.seconds s.grace).bind Run.Progress.graceMillis

/-- A number of milliseconds times a factor, rounded four times and cut down to a whole number. -/
structure CutDown (count : Nat) (factor : ℚ) (allowed : Int) : Prop where
  nonneg : 0 ≤ allowed
  above : count * factor * (1 - roundoff) ^ 4 - 1 < allowed
  below : allowed ≤ count * factor * (1 + roundoff) ^ 4
  /-- A whole millisecond is not lost altogether. -/
  positive : count < 2 ^ 53 → 1 ≤ count * factor → 1 ≤ allowed
  /-- Whole seconds lose nothing. -/
  seconds : count < 2 ^ 53 → ∀ n : Nat, 1000 * n < 2 ^ 53 → count * factor = 1000 * n →
    allowed = 1000 * n

/-- A number of milliseconds in seconds, rounded once and then up to a whole number. -/
structure RoundedUp (millis : Nat) (seconds : Int) : Prop where
  positive : 1 ≤ seconds
  near : ∃ quotient : ℚ, Within 1 (millis / 1000) quotient ∧ seconds = ⌈quotient⌉
  exact : millis ≤ 1000 * 2 ^ 44 → seconds = ⌈(millis / 1000 : ℚ)⌉

/-! ## From the settings to milliseconds -/

theorem thousand : ∃ m, Double.ofInt 1000 = .finite false m ∧ m.value = 1000 := by
  obtain ⟨m, is, rounds⟩ := Double.ofInt_rounds (n := 1000) (by decide +kernel)
  exact ⟨m, is, rounds.whole (by decide)⟩

/-- A millisecond survives the way to seconds and back. -/
theorem millisecond : ∃ t w : Magnitude, Rounds (1 / 1000) t ∧ Rounds (t.value * 1000) w ∧
    w.value = 1 := by
  obtain ⟨d, isThousand, value⟩ := thousand
  obtain ⟨one, isOne, rounds⟩ := Double.ofInt_rounds (n := 1) (by decide +kernel)
  have unit : one.value = 1 := by
    rw [rounds.whole (by decide), Nat.cast_one]
  have back : Double.ofInt 1 / .ofInt 1000 * .ofInt 1000 = .ofInt 1 := by decide +kernel
  have finite : (Double.ofInt 1 / .ofInt 1000).isFinite = true := by decide +kernel
  change Double.ofInt 1 = _ at isOne
  rw [isOne, isThousand] at finite back
  obtain ⟨t, isQuotient, rounds'⟩ := Double.div_rounds (by rw [value]; norm_num) finite
  rw [isQuotient] at back
  obtain ⟨w, isProduct, rounds''⟩ := Double.mul_rounds (a := t) (b := d) (by rw [back]; rfl)
  rw [isProduct] at back
  cases back
  rw [unit, value] at rounds'
  rw [value] at rounds''
  exact ⟨t, one, rounds', rounds'', unit⟩

/-- The bits of a number are left alone until it is known which one it is. -/
theorem graceMillis_of_whole {seconds millis : Double} {n : Int}
    (is : seconds * .ofInt 1000 = millis)
    (whole : millis.truncate? = some n) : Run.Progress.graceMillis seconds = .ok n := by
  unfold Run.Progress.graceMillis
  rw [is, whole]

namespace Settings

variable {s : Settings}

theorem seconds_of_whole {m : Millis} {x : Double} (is : Double.ofInt? m.count = some x) :
    s.seconds m = .ok (s.stretch x) := by
  unfold seconds stretchInt
  rw [is]
  rfl

theorem allowance_of_seconds {seconds : Double} (is : s.seconds s.grace = .ok seconds) :
    s.allowance = Run.Progress.graceMillis seconds := by
  unfold allowance
  rw [is]
  rfl

/-- The milliseconds that a node is given, rounding by rounding. -/
theorem allowance_rounds
    (finite : (s.stretch (.ofInt s.grace.count) * .ofInt 1000).isFinite = true) :
    ∃ factor a b c d : Magnitude, s.factor.value = .finite false factor ∧ 0 < factor.value ∧
      Rounds s.grace.count a ∧ Rounds (a.value * factor.value) b ∧ Rounds (b.value / 1000) c ∧
      Rounds (c.value * 1000) d ∧ s.allowance = .ok ⌊d.value⌋ := by
  obtain ⟨k, isThousand, value⟩ := thousand
  -- If the last product is finite, so are all numbers on the way to it.
  obtain ⟨stretched, _⟩ := Double.isFinite_of_mul finite
  have stretched' := stretched
  unfold stretch at stretched'
  rw [isThousand] at stretched'
  have product := Double.isFinite_of_div stretched'
  obtain ⟨counted, factored⟩ := Double.isFinite_of_mul product
  obtain ⟨factor, isFactor, positive⟩ := Double.finite_of_isPositive s.factor.positive factored
  obtain ⟨a, isCount, roundsCount⟩ := Double.ofInt_rounds counted
  rw [isCount, isFactor] at product stretched'
  obtain ⟨b, isProduct, roundsProduct⟩ := Double.mul_rounds product
  rw [isProduct] at stretched'
  obtain ⟨c, isQuotient, roundsQuotient⟩ := Double.div_rounds (by rw [value]; norm_num) stretched'
  have isStretched : s.stretch (.ofInt s.grace.count) = .finite false c := by
    unfold stretch
    rw [isCount, isFactor, isProduct, isThousand, isQuotient]
  rw [isStretched, isThousand] at finite
  obtain ⟨d, isLast, roundsLast⟩ := Double.mul_rounds finite
  rw [value] at roundsQuotient roundsLast
  refine ⟨factor, a, b, c, d, isFactor, positive, roundsCount, roundsProduct, roundsQuotient,
    roundsLast, ?_⟩
  rw [allowance_of_seconds (seconds_of_whole (Double.ofInt?_finite isCount)),
    ← isCount, isStretched]
  refine graceMillis_of_whole ?_ (Double.truncate?_finite d)
  rw [isThousand, isLast]

section

variable {count : Nat} {factor : ℚ} {a b c d : Magnitude} (some : 0 < count) (positive : 0 < factor)
  (roundsCount : Rounds count a) (roundsProduct : Rounds (a.value * factor) b)
  (roundsQuotient : Rounds (b.value / 1000) c) (roundsLast : Rounds (c.value * 1000) d)

include some roundsCount in
theorem count_within : Within 1 count a.value := by
  refine (Within.refl (count : ℚ)).rounds roundsCount ?_
  have one : (1 : ℚ) ≤ count := Nat.one_le_cast.mpr some
  exact smallestNormal_le.trans (le_trans (by norm_num) one)

include some positive roundsCount roundsProduct roundsQuotient roundsLast

/-- Where half a millisecond or more is left, every number on the way is a normal one. -/
theorem last_within (large : 1 / 2 ≤ count * factor) : Within 4 (count * factor) d.value := by
  have nonneg : 0 ≤ count * factor := le_trans (by norm_num) large
  have scaled := (count_within some roundsCount).scale positive.le
  have half := scaled.half_le (by decide) nonneg
  have product := scaled.rounds roundsProduct (smallestNormal_le.trans (by linarith))
  have half' := product.half_le (by decide) nonneg
  have quotient := (product.scale (c := 1 / 1000) (by norm_num)).rounds (m := c)
    (by rw [mul_one_div]; exact roundsQuotient) (smallestNormal_le.trans (by linarith))
  have half'' := quotient.half_le (by decide) (by linarith)
  have last := (quotient.scale (c := 1000) (by norm_num)).rounds roundsLast
    (smallestNormal_le.trans (by linarith))
  rw [mul_assoc (_ * factor), one_div, inv_mul_cancel₀ (by norm_num), mul_one] at last
  exact last

/-- Less than half a millisecond does not become a whole one. -/
theorem last_lt_one (small : count * factor < 1 / 2) : d.value < 1 := by
  have scaled := (count_within some roundsCount).scale positive.le
  have product : a.value * factor < 6 / 10 := by
    refine lt_of_le_of_lt scaled.2 ?_
    calc count * factor * (1 + roundoff) ^ 1
        < 1 / 2 * (1 + roundoff) ^ 1 := mul_lt_mul_of_pos_right small (by norm_num [roundoff])
      _ ≤ 6 / 10 := by norm_num [roundoff]
  have near := abs_le.mp (roundsProduct.near (k := 0) (by linarith))
  have near' := abs_le.mp (roundsQuotient.near (k := 0) (by linarith [near.2]))
  have near'' := abs_le.mp (roundsLast.near (k := 0) (by linarith [near.2, near'.2]))
  linarith [near.2, near'.2, near''.2]

omit some positive in
/-- A whole millisecond is still one after the roundings. -/
theorem one_le_last (short : count < 2 ^ 53) (one : 1 ≤ count * factor) : 1 ≤ d.value := by
  obtain ⟨t, w, rounds, rounds', unit⟩ := millisecond
  obtain ⟨e, _, roundsOne⟩ := Double.ofInt_rounds (n := 1) (by decide +kernel)
  have isOne := roundsOne.whole (by decide)
  rw [← roundsCount.whole short] at one
  have product : 1 ≤ b.value := by
    have le := roundsOne.mono roundsProduct (by rw [Nat.cast_one]; exact one)
    rw [isOne, Nat.cast_one] at le
    exact le
  have quotient := rounds.mono roundsQuotient (by linarith)
  have last := rounds'.mono roundsLast (by linarith)
  rw [unit] at last
  exact last

omit some positive in
/-- Whole seconds are not rounded at all. -/
theorem last_of_seconds {n : Nat} (short : count < 2 ^ 53) (small : 1000 * n < 2 ^ 53)
    (exact : count * factor = 1000 * n) : d.value = (1000 * n : Nat) := by
  rw [← roundsCount.whole short] at exact
  have product : b.value = (1000 * n : Nat) := by
    rw [exact] at roundsProduct
    exact Rounds.whole (by exact_mod_cast roundsProduct) small
  have quotient : c.value = n := by
    have same : b.value / 1000 = n := by
      rw [product, Nat.cast_mul, Nat.cast_ofNat]
      linarith
    rw [same] at roundsQuotient
    exact roundsQuotient.whole (by omega)
  rw [quotient] at roundsLast
  have same : (n * 1000 : ℚ) = (1000 * n : Nat) := by
    push_cast
    ring
  rw [same] at roundsLast
  exact roundsLast.whole small

/-- Cut down, the last of the numbers is what a node is given. -/
theorem cutDown : CutDown count factor ⌊d.value⌋ := by
  have nonneg : 0 ≤ count * factor := mul_nonneg (Nat.cast_nonneg _) positive.le
  have lost := Int.sub_one_lt_floor d.value
  have left := Int.floor_le d.value
  -- Below half a millisecond an error may be as large as the number, so there only the bounds are
  -- shown, and without the rounding.
  refine ⟨Int.floor_nonneg.mpr d.value_nonneg, ?above, ?below, ?whole, ?seconds⟩
  case above =>
    by_cases large : 1 / 2 ≤ count * factor
    · have within :=
        last_within some positive roundsCount roundsProduct roundsQuotient roundsLast large
      linarith [within.1]
    · have less : count * factor * (1 - roundoff) ^ 4 ≤ count * factor :=
        mul_le_of_le_one_right nonneg (by norm_num [roundoff])
      have floor : (0 : ℚ) ≤ ⌊d.value⌋ := Int.cast_nonneg (Int.floor_nonneg.mpr d.value_nonneg)
      linarith
  case below =>
    by_cases large : 1 / 2 ≤ count * factor
    · have within :=
        last_within some positive roundsCount roundsProduct roundsQuotient roundsLast large
      exact left.trans within.2
    · have less := last_lt_one some positive roundsCount roundsProduct roundsQuotient roundsLast
        (not_le.mp large)
      have none : ⌊d.value⌋ = 0 := Int.floor_eq_zero_iff.mpr ⟨d.value_nonneg, less⟩
      rw [none, Int.cast_zero]
      exact mul_nonneg nonneg (by norm_num [roundoff])
  case whole =>
    intro short one
    have last := one_le_last roundsCount roundsProduct roundsQuotient roundsLast short one
    exact Int.le_floor.mpr (by exact_mod_cast last)
  case seconds =>
    intro short n small exact
    have last :=
      last_of_seconds roundsCount roundsProduct roundsQuotient roundsLast short small exact
    rw [last, Int.floor_natCast]
    norm_num

end

/-- What a node is given is the stretched grace period but for the roundings and the fraction. -/
theorem allowance_cut (finite : (s.stretch (.ofInt s.grace.count) * .ofInt 1000).isFinite = true) :
    ∃ factor allowed, s.factor.value = .finite false factor ∧ s.allowance = .ok allowed ∧
      CutDown s.grace.count factor.value allowed := by
  obtain ⟨factor, a, b, c, d, isFactor, positive, count, product, quotient, last, ok⟩ :=
    allowance_rounds finite
  exact ⟨factor, _, isFactor, ok, cutDown s.grace.positive positive count product quotient last⟩

end Settings

/-! ## From milliseconds to the request -/

namespace Http

namespace NodeController

variable {millis : Nat}

theorem graceSeconds_of_ceil {n : Int} {quotient : Double} (some : 0 < millis)
    (is : Double.ofRatio false millis 1000 = quotient) (whole : quotient.ceil? = .some n) :
    graceSeconds millis = .ok n := by
  have positive : (0 : Int) < millis := Int.natCast_pos.mpr some
  unfold graceSeconds
  rw [if_pos positive, Int.natAbs_natCast, is, whole]

section

variable {quotient : Magnitude} (some : 0 < millis) (rounds : Rounds (millis / 1000) quotient)

include some rounds

theorem seconds_within : Within 1 (millis / 1000) quotient.value := by
  have one : (1 : ℚ) ≤ millis := Nat.one_le_cast.mpr some
  exact (Within.refl (millis / 1000 : ℚ)).rounds rounds (smallestNormal_le.trans (by linarith))

omit some in
/-- Up to `2 ^ 44` seconds a thousandth of a second is not rounded away. -/
theorem ceil_seconds (most : millis ≤ 1000 * 2 ^ 44) :
    ⌈quotient.value⌉ = ⌈(millis / 1000 : ℚ)⌉ := by
  have parts : (millis : ℚ) = 1000 * (millis / 1000 : Nat) + (millis % 1000 : Nat) := by
    exact_mod_cast (Nat.div_add_mod millis 1000).symm
  have rest := Nat.mod_lt millis (show 0 < 1000 by decide)
  generalize millis / 1000 = whole at parts
  generalize millis % 1000 = part at parts rest
  -- A whole number of seconds is met exactly; any other one lies far enough between two to stay
  -- there.
  rcases Nat.eq_zero_or_pos part with none | some
  · have seconds : (millis / 1000 : ℚ) = whole := by
      rw [parts, none, Nat.cast_zero]
      ring
    rw [seconds] at rounds ⊢
    have small : whole < 2 ^ 53 := by
      have cast : (millis : ℚ) ≤ (1000 * 2 ^ 44 : Nat) := Nat.cast_le.mpr most
      have bound : (whole : ℚ) < (2 ^ 53 : Nat) := by
        push_cast at cast ⊢
        linarith
      exact Nat.cast_lt.mp bound
    rw [rounds.whole small]
  · have low : (1 : ℚ) ≤ part := Nat.one_le_cast.mpr some
    have high : (part : ℚ) ≤ 999 := by exact_mod_cast Nat.le_of_lt_succ rest
    have cast : (millis : ℚ) ≤ (1000 * 2 ^ 44 : Nat) := Nat.cast_le.mpr most
    push_cast at cast
    have below : (millis / 1000 : ℚ) < 2 ^ 44 := by
      have less : (whole : ℚ) < (2 ^ 44 : Nat) := by
        push_cast
        linarith
      have whole' : (whole + 1 : ℚ) ≤ (2 ^ 44 : Nat) := by exact_mod_cast Nat.cast_lt.mp less
      push_cast at whole'
      linarith
    -- Rounding moves it by less than a thousandth.
    have near := abs_le.mp (rounds.near below)
    have next : ⌈(millis / 1000 : ℚ)⌉ = whole + 1 := by
      rw [Int.ceil_eq_iff]
      push_cast
      constructor <;> linarith
    rw [next, Int.ceil_eq_iff]
    push_cast
    constructor <;> linarith [near.1, near.2]

end

/-- The seconds of a stop are its milliseconds rounded up, but for a rounding that matters late
only. -/
theorem graceSeconds_up (some : 0 < millis) (finite : (Double.ofInt millis).isFinite = true) :
    ∃ seconds, graceSeconds millis = .ok seconds ∧ RoundedUp millis seconds := by
  obtain ⟨quotient, is, rounds⟩ :=
    Double.ofRatio_rounds (show 0 < 1000 by decide) (Double.isFinite_ofRatio (by decide) finite)
  refine ⟨_, graceSeconds_of_ceil some is (Double.ceil?_finite quotient), ?_⟩
  have within := seconds_within some rounds
  refine ⟨Int.one_le_ceil_iff.mpr ?_, ⟨_, within, rfl⟩, ceil_seconds rounds⟩
  have one : (1 : ℚ) ≤ millis := Nat.one_le_cast.mpr some
  have half := within.half_le (by decide) (by linarith)
  linarith

/-- A stop hands its library a request that names the seconds that the node is given. -/
theorem stop_hands {L : Library} (c : NodeController L) (id : String) {millis seconds : Int}
    (wire : L.Wire) (ok : graceSeconds millis = .ok seconds) :
    c.stop id millis wire = c.execute id .stop (c.stopRequest id seconds) wire ∧
      (c.stopRequest id seconds).body.bind (·.member? "timeout") = some (.int seconds) := by
  refine ⟨?_, rfl⟩
  unfold stop
  rw [ok]

end NodeController

end Http

/-! ## What a run gives its nodes -/

namespace Run

open Plan (Early)

/-- A run has stopped nodes with this many milliseconds only, and will go on so. -/
structure Graced (c : Cluster) (allowed : Int) (m : Moment) : Prop where
  given : ∃ n, m.progress.scene.service.gracePeriods = c.gracePeriods ++ List.replicate n allowed
  next : ∀ pacing jobs, m.stance.Has pacing jobs → ∀ id grace, .stop id grace ∈ jobs →
    grace = allowed

namespace Graced

variable {c : Cluster} {allowed : Int} {m m' : Moment}

/-- Calls give no grace period. -/
theorem of_calls (graced : Graced c allowed m)
    (frame : m.progress.scene.service.OnlyCalls m'.progress.scene.service)
    (next : ∀ pacing jobs, m'.stance.Has pacing jobs → ∀ id grace, .stop id grace ∈ jobs →
      grace = allowed) :
    Graced c allowed m' := by
  obtain ⟨n, given⟩ := graced.given
  refine ⟨⟨n, ?_⟩, next⟩
  rw [frame.gracePeriods]
  exact given

end Graced

namespace Plan

variable {plan : Plan} {scene : Scene Cluster} {allowed : Int} {m m' : Moment}

/-- A stop is announced with the milliseconds of the settings. -/
theorem announceStop_allowance {p p' : Progress} {id : String} {grace : Int}
    (announced : p.announceStop plan.settings plan.source id = (.ok grace, p')) :
    plan.settings.allowance = .ok grace := by
  unfold Progress.announceStop at announced
  cases label : plan.source.label id with
  | error fault =>
    rw [label] at announced
    cases announced
  | ok label' =>
    rw [label] at announced
    cases seconds : plan.settings.seconds plan.settings.grace with
    | error fault =>
      rw [seconds] at announced
      cases announced
    | ok seconds' =>
      rw [Settings.allowance_of_seconds seconds]
      rw [seconds] at announced
      cases millis : Progress.graceMillis seconds' with
      | error fault =>
        simp only [Progress.lift_ok, Stage.next_ok, millis, Progress.lift_error,
          Stage.next_error] at announced
        cases announced
      | ok grace' =>
        simp only [Progress.lift_ok, Stage.next_ok, millis] at announced
        cases announced
        rfl

theorem announced_of_next {pacing pacing' : Pacing} {p : Progress} {ends : List TickEnd}
    {id id' : String}
    {grace : Int} {rest rest' : List Job}
    (next : plan.Next ⟨p, .doing pacing (.step (.stop id) :: rest), ends⟩ m')
    (has : m'.stance.Has pacing' (.stop id' grace :: rest')) :
    plan.settings.allowance = .ok grace := by
  have is : m' = plan.work ⟨p, .doing pacing (.step (.stop id) :: rest), ends⟩ pacing rest
    (.step (.stop id)) :=
    (Option.some.inj next).symm
  rw [is] at has
  unfold work at has
  dsimp only at has
  cases announced : p.announceStop plan.settings plan.source id with
  | mk result p' =>
    rw [announced] at has
    cases result with
    | error raised => cases has
    | ok grace' =>
      have has' : (Moment.delay ⟨p', .doing pacing (.step (.stop id) :: rest), ends⟩ pacing
          p'.scene.service.trouble.stopDelay (.stop id grace' :: rest)).stance.Has pacing
          (.stop id grace' :: rest) := by
        unfold Moment.delay
        split
        next => exact .waiting _ _
        next => exact .doing
      have same := has.unique has'
      cases same
      exact announceStop_allowance announced

/-- A stop that is to come was to come before, or is announced just now. -/
theorem stop_of_next {pacing pacing' : Pacing} {jobs jobs' : List Job}
    (running : m.progress.scene.invoker.Running) (has : m.stance.Has pacing jobs)
    (next : plan.Next m m')
    (has' : m'.stance.Has pacing' jobs') {id : String} {grace : Int}
    (mem : .stop id grace ∈ jobs') :
    .stop id grace ∈ jobs ∨ plan.settings.allowance = .ok grace := by
  obtain ⟨p, stance, ends⟩ := m
  cases next_works pacing running has next with
  | acts stance acts =>
    cases acts with
    | passed | stopped | started =>
      have same := has'.unique .doing
      rw [same] at mem
      exact .inl (List.mem_cons_of_mem _ mem)
    | done | unfeasible | violated | stopRefused | startRefused => cases has'
  | drift busy effectless stance drift =>
    have same := has'.unique stance
    rw [same] at mem
    cases effectless with
    | same => exact .inl mem
    | stabilise | wait => exact .inl (List.mem_cons_of_mem _ mem)
    | start id' rest =>
      rcases List.mem_cons.mp mem with other | mem
      · cases other
      · exact .inl (List.mem_cons_of_mem _ mem)
    | stop id' grace' rest =>
      rcases List.mem_cons.mp mem with announced | mem
      · cases announced
        cases has with
        | doing => exact .inr (announced_of_next next stance)
        | waiting goal fuel =>
          -- A wait ends with the jobs that it began with.
          rcases next_waiting rfl next with ⟨rfl, _⟩ | ⟨_, _, _, _, _, rfl⟩
          · cases stance.unique .doing
          · cases stance.unique (.waiting _ _)
      · exact .inl (List.mem_cons_of_mem _ mem)

/-- A request to a node gives the milliseconds that it names. -/
theorem graced_acts {pacing : Pacing} {jobs : List Job} (graced : Graced scene.service allowed m)
    (stance : m.stance = .doing pacing jobs) (acts : Acts plan pacing m jobs m')
    (next : ∀ pacing jobs, m'.stance.Has pacing jobs → ∀ id grace, .stop id grace ∈ jobs →
      grace = allowed) :
    Graced scene.service allowed m' := by
  have has := Stance.has_of_doing stance
  obtain ⟨n, given⟩ := graced.given
  have stopped {id : String} {grace : Int} {rest : List Job}
    {result : Except Fault Unit} {c : Cluster}
      (asks : jobs = .stop id grace :: rest)
        (done : m.progress.scene.service.stop id grace = (result, c)) :
      ∃ n, c.gracePeriods = scene.service.gracePeriods ++ List.replicate n allowed := by
    have same : grace = allowed := graced.next pacing jobs has id grace (asks ▸ List.mem_cons_self)
    rcases Cluster.stop_gracePeriods done with before | more
    · exact ⟨n, before.trans given⟩
    · refine ⟨n + 1, ?_⟩
      rw [more, given, same, List.append_assoc, List.replicate_succ']
  have started {id : String} {result : Except Fault Unit} {c : Cluster}
      (done : m.progress.scene.service.start id = (result, c)) :
      ∃ n, c.gracePeriods = scene.service.gracePeriods ++ List.replicate n allowed :=
    ⟨n, (Cluster.start_gracePeriods done).trans given⟩
  cases acts with
  | stopped honored => exact ⟨stopped rfl honored, next⟩
  | stopRefused refused => exact ⟨stopped rfl refused, next⟩
  | started honored => exact ⟨started honored, next⟩
  | startRefused refused => exact ⟨started refused, next⟩
  | done => exact ⟨⟨n, given⟩, next⟩
  | passed calm | unfeasible _ calm | violated calm => exact ⟨⟨n, calm.service ▸ given⟩, next⟩

/-- All along a run gives its nodes the milliseconds of the settings. -/
theorem Reached.graced (ok : plan.settings.allowance = .ok allowed)
    (reached : plan.Reached scene m) :
    Graced scene.service allowed m := by
  refine Reached.induct_next (I := Graced scene.service allowed) ?early ?works ?quits
    ?releases reached
  case early =>
    intro m _ early
    refine ⟨⟨0, ?_⟩, ?_⟩
    · rw [early.frame.1.gracePeriods, List.replicate_zero, List.append_nil]
    · -- At the last of the early moments no stop was announced yet.
      intro pacing jobs has id grace mem
      obtain ⟨steps, _, _, _, _, stance, _⟩ := early.late has.isLate
      rw [stance] at has
      rw [has.unique .doing] at mem
      simp [Plan.jobs] at mem
  case works =>
    intro m m' pacing jobs _ graced running has next works
    have later : ∀ pacing' jobs', m'.stance.Has pacing' jobs' →
        ∀ id grace, .stop id grace ∈ jobs' → grace = allowed := by
      intro pacing' jobs' has' id grace mem
      rcases stop_of_next running has next has' mem with before | announced
      · exact graced.next pacing jobs has id grace before
      · exact Except.ok.inj (announced.symm.trans ok)
    cases works with
    | acts stance acts => exact graced_acts graced stance acts later
    | drift busy effectless stance drift => exact graced.of_calls drift.onlyCalls later
  case quits =>
    intro m m' pacing result _ graced _ _ quits
    refine graced.of_calls quits.onlyCalls fun pacing jobs has => absurd has ?_
    exact Stance.idle (by rw [quits.stance]; rfl) pacing jobs
  case releases =>
    intro m result _ graced _
    have released := released m.progress
    exact graced.of_calls released.onlyCalls fun pacing jobs has =>
      absurd has (Stance.idle rfl pacing jobs)

/-- If the stretched grace period is a finite number, a run gives it to every node that it stops,
but for the roundings and the fraction of a millisecond; and a controller names it in whole seconds,
rounded up, in the request that it hands to its library for a stop, whatever library that is. -/
theorem grace_conduct (plan : Plan) (scene : Scene Cluster)
    (finite :
      (plan.settings.stretch (.ofInt plan.settings.grace.count) * .ofInt 1000).isFinite = true) :
    (∃ factor allowed, plan.settings.factor.value = .finite false factor ∧
      plan.settings.allowance = .ok allowed ∧
      CutDown plan.settings.grace.count factor.value allowed ∧
      (∀ m pacing id grace rest, plan.Reached scene m →
        m.stance = .doing pacing (.stop id grace :: rest) →
        grace = allowed) ∧
      ∃ n, (plan.conduct scene).2.scene.service.gracePeriods
        = scene.service.gracePeriods ++ List.replicate n allowed) ∧
    ∀ (library : Http.Library) (controller : Http.NodeController library) (id : String)
      (millis : Nat) (wire : library.Wire), 0 < millis → (Double.ofInt millis).isFinite = true →
      ∃ seconds, Http.NodeController.graceSeconds millis = .ok seconds ∧
        RoundedUp millis seconds ∧
        controller.stop id millis wire
          = controller.execute id .stop (controller.stopRequest id seconds) wire ∧
        (controller.stopRequest id seconds).body.bind (·.member? "timeout")
          = some (.int seconds) := by
  constructor
  · obtain ⟨factor, allowed, isFactor, ok, cut⟩ := Settings.allowance_cut finite
    refine ⟨factor, allowed, isFactor, ok, cut, ?_, ?_⟩
    · intro m pacing id grace rest reached stance
      have graced : Graced scene.service allowed m := reached.graced ok
      exact graced.next pacing _ (Stance.has_of_doing stance) id grace List.mem_cons_self
    · obtain ⟨m, _, reached, _, calm⟩ := plan.conduct_calm scene
      have graced : Graced scene.service allowed m := reached.graced ok
      rw [calm.service]
      exact graced.given
  -- The library only hands the request on, so it is left open which one it is.
  · intro library controller id millis wire some counted
    obtain ⟨seconds, ok, up⟩ := Http.NodeController.graceSeconds_up some counted
    exact ⟨seconds, ok, up, controller.stop_hands id wire ok⟩

/-- A controller of the nodes of a server of the web. -/
def overseer : Http.ManagementClient :=
  .of "http://localhost" [] "primary" none (.ofInt 60) 0

/-- What the server of the web is asked for says what it was handed. -/
theorem overseer_sends (request : Http.Post) (same : request.address = overseer.address)
    (replies : List Http.Reply) : ∃ sent ∈ (Http.web.post overseer.session request replies).2.1,
      sent.body = request.body := by
  have place : Http.Url.of overseer.address
      = .ok ⟨"http", "localhost", "/management", none, none⟩ := by
    show Http.Url.of (Http.dropSlashes "http://localhost" ++ "/management") = _
    rfl
  exact Http.WebSession.post_sends (same ▸ place) rfl replies

/-- A brisk run gives its nodes ten milliseconds, which a controller makes a second in what it
sends. -/
theorem brisk_gives_grace :
    (brisk.settings.stretch (.ofInt brisk.settings.grace.count) * .ofInt 1000).isFinite = true ∧
    (brisk.conduct (.opening calm (.start none))).2.scene.service.gracePeriods
      = List.replicate 4 10 ∧
    (Double.ofInt 10).isFinite = true ∧ RoundedUp 10 1 ∧
    ∃ sent ∈ (overseer.stop "node-1" 10 []).2.1,
      sent.body.bind (·.member? "timeout") = some (.int 1) := by
  have finite :
    (brisk.settings.stretch (.ofInt brisk.settings.grace.count) * .ofInt 1000).isFinite = true := by
    decide +kernel
  have ten : brisk.settings.allowance.toOption = some 10 := by decide +kernel
  have four : (brisk.conduct (.opening calm (.start none))).2.scene.service.gracePeriods.length =
    4 := by
    decide +kernel
  have counted : (Double.ofInt 10).isFinite = true := by decide +kernel
  have one : (Http.NodeController.graceSeconds 10).toOption = some 1 := by decide +kernel
  obtain ⟨⟨_, allowed, _, ok, _, _, n, given⟩, up⟩ :=
    grace_conduct brisk (.opening calm (.start none)) finite
  obtain ⟨seconds, ok', rounded, handed, named⟩ :=
    up Http.web overseer "node-1" 10 [] (by decide) counted
  rw [ok] at ten
  cases ten
  have one' : some seconds = some 1 := by
    rw [← one]
    exact (congrArg Except.toOption ok').symm
  cases one'
  rw [given, List.length_append, List.length_replicate] at four
  have many : n = 4 := (Nat.zero_add n).symm.trans four
  rw [many] at given
  obtain ⟨sent, mem, body⟩ := overseer_sends (overseer.stopRequest "node-1" 1) rfl []
  have sent' : sent ∈ (overseer.stop "node-1" 10 []).2.1 := by
    rw [show overseer.stop "node-1" 10 [] = _ from handed]
    exact mem
  exact ⟨finite, given, counted, rounded, sent, sent', by rw [body, named]⟩

/-- A brisk plan that gives its nodes a second and a millisecond, and stretches nothing. -/
def punctual : Plan :=
  { brisk with settings := { brisk.settings with
      grace := ⟨1001, Nat.succ_pos 1000⟩
      factor := Settings.default.factor } }

/-- The millisecond is lost on the way to seconds and back, although all numbers are finite. -/
theorem punctual_loses :
    (punctual.settings.stretch (.ofInt punctual.settings.grace.count) * .ofInt 1000).isFinite
      = true ∧
    punctual.settings.grace.count = 1001 ∧ punctual.settings.factor.value = .ofInt 1 ∧
    (punctual.conduct (.opening calm (.start none))).2.scene.service.gracePeriods
      = List.replicate 4 1000 := by
  decide +kernel

end Plan

end Run

end Drill
