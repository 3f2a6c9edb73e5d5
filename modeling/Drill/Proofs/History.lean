import Drill.Monitor
import Mathlib.Data.List.Basic

/-!
# What a monitor makes of its history

A monitor is asked to take a baseline, to record what became of a call, or to judge
(`Monitor.Request`), in any order. What it then knows can be read off its history without going
through it step by step: the numbers that it learned of (`readings`), in which a value that does not
follow the number before it is a break (`breaks`), and the faults that it was told (`faults`).
`Monitor.after` is the monitor at the end of a history and `Monitor.logged` what it logs on the way.

Main statements: `after_eq` and `logged_warnings`, which say this of any monitor and any history,
`breaks_eq_nil_iff`, values have no break exactly if they count up from the baseline,
`history_reckoned` for a monitor from its start on, and `verdict_reckoned`, a checkpoint fails
exactly after a failure, always for the first one.
-/

namespace Drill

/-- A number that a monitor learns of. -/
inductive Reading where
  /-- A baseline that it is given. -/
  | seed (number : Int)
  /-- The answer of a call. -/
  | value (number : Int)
deriving DecidableEq

namespace Reading

/-- The number itself. -/
def number : Reading → Int
  | seed n => n
  | value n => n

/-- The number, if it is the answer of a call. -/
def value? : Reading → Option Int
  | seed _ => none
  | value n => some n

/-- The number that a value should have been, and the value, if it is not one more than the number
before it. -/
def break? : Option Int → Reading → Option (Int × Int)
  | some last, value n => if last = n - 1 then none else some (last + 1, n)
  | some _, seed _ => none
  | none, _ => none

end Reading

/-- The last of some numbers, the baseline that was there before them included. -/
def latest (baseline : Option Int) (readings : List Reading) : Option Int :=
  (baseline.toList ++ readings.map Reading.number).getLast?

/-- The breaks in a row of numbers, in order: each number is held against the last one before it. -/
def breaks (baseline : Option Int) (readings : List Reading) : List (Int × Int) :=
  (List.range readings.length).filterMap fun i =>
    readings[i]?.bind (Reading.break? (latest baseline (readings.take i)))

section

variable {baseline : Option Int} {readings : List Reading}

theorem latest_nil : latest baseline [] = baseline := by
  unfold latest
  cases baseline <;> rfl

theorem latest_cons (r : Reading) :
    latest baseline (r :: readings) = latest (some r.number) readings := by
  unfold latest
  rw [List.map_cons, List.getLast?_append_cons]
  rfl

/-- Whether the first number is a break is up to the baseline, and then it is the baseline
itself. -/
theorem breaks_cons (r : Reading) : breaks baseline (r :: readings)
    = (Reading.break? baseline r).toList ++ breaks (some r.number) readings := by
  have later (i : Nat) : latest baseline (r :: readings.take i) = latest (some r.number)
    (readings.take i) :=
    latest_cons r
  unfold breaks
  rw [List.length_cons, List.range_succ_eq_map, List.filterMap_cons, List.filterMap_map]
  simp only [List.getElem?_cons_zero, Option.bind_some, List.take_zero, latest_nil,
    Function.comp_def, List.getElem?_cons_succ, List.take_succ_cons, later]
  cases Reading.break? baseline r <;> rfl

/-- A number that may be missing leaves the baseline as it is when it is. -/
theorem latest_toList_append (r? : Option Reading) :
    latest baseline (r?.toList ++ readings) = latest ((r?.map Reading.number).or baseline)
      readings := by
  cases r? with
  | none => rfl
  | some r => exact latest_cons r

theorem breaks_toList_append (r? : Option Reading) : breaks baseline (r?.toList ++ readings)
    = (r?.bind (Reading.break? baseline)).toList
      ++ breaks ((r?.map Reading.number).or baseline) readings := by
  cases r? with
  | none => rfl
  | some r => exact breaks_cons r

/-- Answers have no break exactly if they count up from the baseline. -/
theorem breaks_eq_nil_iff {b : Int} (answers : ∀ r ∈ readings, r.value?.isSome) :
    breaks (some b) readings = [] ↔ readings.filterMap Reading.value?
      = (List.range (readings.filterMap Reading.value?).length).map fun i : Nat => b + 1 + i := by
  induction readings generalizing b with
  | nil => exact ⟨fun _ => rfl, fun _ => rfl⟩
  | cons r rest ih =>
    have answered := answers r List.mem_cons_self
    have others := ih (b := r.number) fun other mem => answers other (List.mem_cons_of_mem r mem)
    cases r with
    | seed n => exact absurd answered (by simp [Reading.value?])
    | value n =>
      rw [breaks_cons, List.append_eq_nil_iff, Option.toList_eq_nil_iff, others]
      simp only [Reading.break?, Reading.number, Reading.value?, List.filterMap_cons,
        List.length_cons, List.range_succ_eq_map, List.map_cons, List.map_map, List.cons.injEq,
        Function.comp_def]
      by_cases next : n = b + 1
      · -- Seen from the first answer, every later one is one place nearer.
        have place (i : Nat) : b + 1 + (i.succ : Int) = n + 1 + i := by omega
        have follows : b = n - 1 := by omega
        simp only [place, if_pos follows, true_and]
        simp [next]
      · have apart : b ≠ n - 1 := by omega
        simp [apart, next]

end

namespace Monitor

/-- What one can ask of a monitor. -/
inductive Request where
  | seed (value : Int)
  /-- To record what became of a call: a value alone or a fault alone. Anything else is refused. -/
  | record (sequence : Int) (value? : Option Int) (fault? : Option Fault)
  | checkpoint (label : String)
deriving DecidableEq

namespace Request

/-- The outcome that a request records. -/
def outcome? : Request → Option Outcome
  | record _ (some v) none => some (.value v)
  | record _ none (some fault) => some (.failure fault)
  | record _ (some _) (some _) | record _ none none => none
  | seed _ | checkpoint _ => none

/-- The number that a request brings. -/
def reading? : Request → Option Reading
  | record _ (some v) none => some (.value v)
  | seed v => some (.seed v)
  | record _ (some _) (some _) | record _ none _ | checkpoint _ => none

/-- The fault that a request records. -/
def fault? : Request → Option Fault
  | record _ none (some fault) => some fault
  | record _ none none | record _ (some _) _ | seed _ | checkpoint _ => none

end Request

/-- What a request comes to: whether it is granted, the monitor after it, and what is logged. -/
structure Reply where
  verdict : Except Fault Unit
  monitor : Monitor
  events : List Log.Event
deriving DecidableEq

/-- What a monitor is asked is done, or refused. -/
def serve (m : Monitor) : Request → Reply
  | .seed v => ⟨.ok (), (m.seed v).1, (m.seed v).2⟩
  | .record sequence value? fault? =>
    match Outcome.of value? fault? with
    | .ok outcome => ⟨.ok (), (m.record sequence outcome).1, (m.record sequence outcome).2⟩
    | .error fault => ⟨.error fault, m, []⟩
  | .checkpoint label => ⟨(m.checkpoint label).1, m, (m.checkpoint label).2⟩

/-- The monitor after some requests. -/
def after (m : Monitor) (history : List Request) : Monitor :=
  history.foldl (fun m r => (m.serve r).monitor) m

/-- What is logged during some requests. -/
def logged : Monitor → List Request → List Log.Event
  | _, [] => []
  | m, r :: rest => (m.serve r).events ++ logged (m.serve r).monitor rest

/-- The numbers that a history brings. -/
def readings (history : List Request) : List Reading := history.filterMap Request.reading?

/-- The outcomes that a history records. -/
def outcomes (history : List Request) : List Outcome := history.filterMap Request.outcome?

/-- The faults that a history records. -/
def faults (history : List Request) : List Fault := history.filterMap Request.fault?

section

variable (r : Request) (history : List Request)

theorem readings_cons : readings (r :: history) = r.reading?.toList ++ readings history := by
  simp only [readings, List.filterMap_eq_flatMap_toList, List.flatMap_cons]

theorem outcomes_cons : outcomes (r :: history) = r.outcome?.toList ++ outcomes history := by
  simp only [outcomes, List.filterMap_eq_flatMap_toList, List.flatMap_cons]

theorem faults_cons : faults (r :: history) = r.fault?.toList ++ faults history := by
  simp only [faults, List.filterMap_eq_flatMap_toList, List.flatMap_cons]

/-- Every outcome is a value, which is one of the numbers, or a fault. -/
theorem length_outcomes : (outcomes history).length
    = ((readings history).filterMap Reading.value?).length + (faults history).length := by
  induction history with
  | nil => rfl
  | cons r rest ih =>
    rw [outcomes_cons, readings_cons, faults_cons, List.filterMap_append]
    simp only [List.length_append, ih]
    rcases r with v | ⟨sequence, _ | v, _ | fault⟩ | label <;>
      simp [Request.outcome?, Request.reading?, Request.fault?, Reading.value?] <;> omega

end

variable (m : Monitor)

/-- A request is refused exactly if it is to record both a value and a fault or neither, and then
nothing changes. -/
theorem serve_record (sequence : Int) (value? : Option Int) (fault? : Option Fault) :
    if value?.isSome = fault?.isSome then
      m.serve (.record sequence value? fault?) = ⟨.error Outcome.ambiguous, m, []⟩
    else (m.serve (.record sequence value? fault?)).verdict = .ok () := by
  rcases value? with _ | v <;> rcases fault? with _ | fault <;> rfl

/-- A value is the next baseline, and it is counted as a break if it is one. -/
theorem recordValue_monitor (sequence v : Int) : (m.recordValue sequence v).1 =
    { m with
      expected := some v
      invocations := m.invocations + 1
      resyncs := m.resyncs + (Reading.break? m.expected (.value v)).toList.length } := by
  unfold recordValue
  cases m.expected with
  | none => rfl
  | some last =>
    by_cases next : v = last + 1
    · simp [Reading.break?, next]
    · have apart : last ≠ v - 1 := by omega
      simp [Reading.break?, next, apart]

/-- A value is warned of exactly if it is a break. -/
theorem recordValue_warnings (sequence v : Int) :
    (m.recordValue sequence v).2.filter (fun e => e.level = .warning)
      = ((Reading.break? m.expected (.value v)).map fun (due, v) =>
        Log.Event.resynced due v).toList := by
  unfold recordValue
  cases m.expected with
  | none => rfl
  | some last =>
    by_cases next : v = last + 1
    · simp [Reading.break?, next, Log.Event.level]
    · have apart : last ≠ v - 1 := by omega
      simp [Reading.break?, next, apart, Log.Event.level]

/-- A fault is kept if it is the first one. -/
theorem recordFailure_monitor (sequence : Int) (fault : Fault) :
    (m.recordFailure sequence fault).1 =
    { m with
      invocations := m.invocations + 1
      failures := m.failures + 1
      firstFailure := m.firstFailure.or (some fault) } := by
  unfold recordFailure
  cases m.firstFailure <;> rfl

/-- What a request makes of what the monitor knows. -/
theorem serve_monitor (r : Request) : (m.serve r).monitor =
    { expected := (r.reading?.map Reading.number).or m.expected
      invocations := m.invocations + r.outcome?.toList.length
      failures := m.failures + r.fault?.toList.length
      resyncs := m.resyncs + (r.reading?.bind (Reading.break? m.expected)).toList.length
      firstFailure := m.firstFailure.or r.fault? } := by
  rcases r with v | ⟨sequence, _ | v, _ | fault⟩ | label
  · -- A baseline is never a break.
    have whole : Reading.break? m.expected (.seed v) = none := by cases m.expected <;> rfl
    simp [serve, seed, Request.reading?, Request.outcome?, Request.fault?, Reading.number, whole]
  · simp [serve, Outcome.of, Request.reading?, Request.outcome?, Request.fault?]
  · show (m.recordFailure sequence fault).1 = _
    rw [recordFailure_monitor]
    simp [Request.reading?, Request.outcome?, Request.fault?]
  · show (m.recordValue sequence v).1 = _
    rw [recordValue_monitor]
    simp [Request.reading?, Request.outcome?, Request.fault?, Reading.number]
  · simp [serve, Outcome.of, Request.reading?, Request.outcome?, Request.fault?]
  · simp [serve, Request.reading?, Request.outcome?, Request.fault?]

/-- What a request is warned of: its number, if it is a break. -/
theorem serve_warnings (r : Request) : (m.serve r).events.filter (fun e => e.level = .warning)
    = ((r.reading?.bind (Reading.break? m.expected)).map fun (due, v) =>
      Log.Event.resynced due v).toList := by
  rcases r with v | ⟨sequence, _ | v, _ | fault⟩ | label
  · have whole : Reading.break? m.expected (.seed v) = none := by cases m.expected <;> rfl
    simp [serve, seed, Request.reading?, whole, Log.Event.level]
  · rfl
  · show (m.recordFailure sequence fault).2.filter (fun e => e.level = .warning) = []
    unfold recordFailure
    cases m.firstFailure <;> rfl
  · exact recordValue_warnings m sequence v
  · rfl
  · show (m.checkpoint label).2.filter (fun e => e.level = .warning) = []
    unfold checkpoint
    cases m.firstFailure <;> rfl

/-- What a monitor knows after a history, seen from what it knew before. -/
theorem after_eq (history : List Request) : m.after history =
    { expected := latest m.expected (readings history)
      invocations := m.invocations + (outcomes history).length
      failures := m.failures + (faults history).length
      resyncs := m.resyncs + (breaks m.expected (readings history)).length
      firstFailure := m.firstFailure.or (faults history).head? } := by
  induction history generalizing m with
  | nil =>
    show m = _
    simp [readings, outcomes, faults, breaks, latest_nil]
  | cons r rest ih =>
    show (m.serve r).monitor.after rest = _
    rw [ih, serve_monitor, readings_cons, outcomes_cons, faults_cons, latest_toList_append,
      breaks_toList_append]
    simp only [List.length_append, List.head?_append, Option.or_assoc, Nat.add_assoc]
    cases r.fault? <;> rfl

/-- A history is warned of its breaks, in order, and of nothing else. -/
theorem logged_warnings (history : List Request) :
    (m.logged history).filter (fun e => e.level = .warning)
      = (breaks m.expected (readings history)).map fun (due, v) => .resynced due v := by
  induction history generalizing m with
  | nil => rfl
  | cons r rest ih =>
    show ((m.serve r).events ++ (m.serve r).monitor.logged rest).filter
      (fun e => e.level = .warning) = _
    rw [List.filter_append, serve_warnings, ih, serve_monitor, readings_cons, breaks_toList_append,
      List.map_append, Option.toList_map]

theorem after_append (earlier later : List Request) :
    m.after (earlier ++ later) = (m.after earlier).after later := List.foldl_append

variable {m}

/-- Without a new baseline, every number is the answer of a call. -/
theorem answers_of_unseeded {history : List Request} (unseeded : ∀ v, .seed v ∉ history) :
    ∀ r ∈ readings history, r.value?.isSome := by
  intro r mem
  obtain ⟨request, asked, brings⟩ := List.mem_filterMap.mp mem
  rcases request with v | ⟨sequence, _ | v, _ | fault⟩ | label
  · exact absurd asked (unseeded v)
  · cases brings
  · cases brings
  · cases brings
    rfl
  · cases brings
  · cases brings

/-- From a baseline on, nothing is counted as a break exactly if the values count up from it. -/
theorem resyncs_after_iff {b : Int} {later : List Request} (known : m.expected = some b)
    (unseeded : ∀ v, .seed v ∉ later) :
    (m.after later).resyncs = m.resyncs ↔ (readings later).filterMap Reading.value?
      = (List.range ((readings later).filterMap Reading.value?).length).map fun i : Nat =>
      b + 1 + i := by
  rw [← breaks_eq_nil_iff (answers_of_unseeded unseeded), after_eq, known,
    ← List.length_eq_zero_iff]
  show m.resyncs + _ = m.resyncs ↔ _
  omega

/-- A monitor that has a baseline from the start, or none, after some requests. -/
def told (initial : Option Int) (history : List Request) : Monitor := (start initial).after history

theorem told_eq (initial : Option Int) (history : List Request) : told initial history =
    { expected := latest initial (readings history)
      invocations := (outcomes history).length
      failures := (faults history).length
      resyncs := (breaks initial (readings history)).length
      firstFailure := (faults history).head? } := by
  unfold told
  rw [after_eq]
  simp [start]

/-- A checkpoint fails exactly if a fault was recorded, for the first one. -/
theorem verdict_told (initial : Option Int) (history : List Request) (label : String) :
    ((told initial history).serve (.checkpoint label)).verdict = match (faults history).head? with
      | none => .ok ()
      | some first => .error (.violation label first (outcomes history).length) := by
  show ((told initial history).checkpoint label).1 = _
  unfold checkpoint
  rw [told_eq]
  cases (faults history).head? <;> rfl

/-- What a monitor knows is told by its history. Of the numbers it keeps the last one, and it counts
those values that are not one more than the number before them, and warns of each of these once; it
counts outcomes and faults, and keeps the first fault. What is refused leaves it alone. How numbers
and faults are mixed does not matter, and from a baseline on no value is a break exactly if they
count up from it. -/
theorem history_reckoned (initial : Option Int) (history : List Request) :
    told initial history =
        { expected := latest initial (readings history)
          invocations := (outcomes history).length
          failures := (faults history).length
          resyncs := (breaks initial (readings history)).length
          firstFailure := (faults history).head? } ∧
      ((start initial).logged history).filter (fun e => e.level = .warning)
        = (breaks initial (readings history)).map (fun (due, v) => .resynced due v) ∧
      (∀ sequence value? fault?, if value?.isSome = fault?.isSome then
          (told initial history).serve (.record sequence value? fault?)
            = ⟨.error Outcome.ambiguous, told initial history, []⟩
        else ((told initial history).serve (.record sequence value? fault?)).verdict = .ok ()) ∧
      (∀ other, readings other = readings history → faults other = faults history →
        told initial other = told initial history) ∧
      ∀ b later, (told initial history).expected = some b → (told initial history).resyncs = 0 →
        (∀ v, .seed v ∉ later) →
        ((told initial (history ++ later)).resyncs = 0 ↔ (readings later).filterMap Reading.value?
          = (List.range ((readings later).filterMap Reading.value?).length).map fun i : Nat =>
          b + 1 + i) := by
  refine ⟨told_eq initial history, logged_warnings (start initial) history,
    serve_record (told initial history), ?_, ?_⟩
  · intro other numbers failed
    rw [told_eq, told_eq, length_outcomes, length_outcomes, numbers, failed]
  · intro b later known none unseeded
    have counted := resyncs_after_iff known unseeded
    rw [none] at counted
    unfold told at counted ⊢
    rw [after_append]
    exact counted

/-- A baseline, a value, a request that is refused, and a failure. -/
def begun : List Request :=
  [.seed 10, .record 1 (some 11) none, .record 2 (some 5) (some (.plain .value "both")),
    .record 2 none (some (.plain .runtime "down"))]

/-- The same news in another order: the failure comes first. -/
def shuffled : List Request :=
  [.record 1 none (some (.plain .runtime "down")), .checkpoint "too early", .seed 10,
    .record 2 (some 11) none]

/-- Two values with a failure between them, the second one out of step. -/
def resumed : List Request :=
  [.record 3 (some 12) none, .record 4 none (some (.plain .runtime "down again")),
    .record 5 (some 14) none]

theorem resumed_reckoned :
    readings shuffled = readings begun ∧ faults shuffled = faults begun ∧
    told none shuffled = told none begun ∧
    (told none begun).expected = some 11 ∧ (told none begun).resyncs = 0 ∧
    (∀ v, .seed v ∉ resumed) ∧
    (told none (begun ++ resumed)).resyncs ≠ 0 := by
  obtain ⟨_, _, _, mixed, counted⟩ := history_reckoned none begun
  have unseeded : ∀ v, .seed v ∉ resumed := by
    intro v mem
    simp [resumed] at mem
  refine ⟨rfl, rfl, mixed shuffled rfl rfl, rfl, rfl, unseeded, ?_⟩
  intro none
  have steps := (counted 11 resumed rfl rfl unseeded).mp none
  exact absurd steps (by decide)

/-- A checkpoint passes exactly if no failure was recorded before it. Otherwise it raises a
violation that has its label, the first failure of all and the number of outcomes so far. It leaves
the monitor as it is, and after the first that failed every later one fails, for the same failure,
whatever else the monitor is told. -/
theorem verdict_reckoned (initial : Option Int) (history : List Request) (label : String) :
    (((told initial history).serve (.checkpoint label)).verdict = .ok () ↔ faults history = []) ∧
      (∀ first, (faults history).head? = some first →
        ((told initial history).serve (.checkpoint label)).verdict
          = .error (.violation label first (outcomes history).length)) ∧
      ((told initial history).serve (.checkpoint label)).monitor = told initial history ∧
      ∀ fault, ((told initial history).serve (.checkpoint label)).verdict = .error fault →
        ∃ first, fault = .violation label first (outcomes history).length ∧
          ∀ later label', ((told initial (history ++ .checkpoint label :: later)).serve
              (.checkpoint label')).verdict
            = .error (.violation label' first
              (outcomes (history ++ .checkpoint label :: later)).length) := by
  rw [verdict_told]
  refine ⟨?_, ?_, rfl, ?_⟩
  · cases failed : faults history <;> simp
  · intro first latched
    rw [latched]
  · intro fault raised
    cases latched : (faults history).head? with
    | none =>
      rw [latched] at raised
      cases raised
    | some first =>
      rw [latched] at raised
      cases raised
      refine ⟨first, rfl, ?_⟩
      intro later label'
      -- What was recorded first stays first.
      have kept : (faults (history ++ .checkpoint label :: later)).head? = some first := by
        unfold faults at latched ⊢
        rw [List.filterMap_append, List.head?_append, latched]
        rfl
      rw [verdict_told, kept]

theorem begun_verdict :
    ((told none begun).serve (.checkpoint "now")).verdict
      = .error (.violation "now" (.plain .runtime "down") 2) ∧
    ((told none (begun ++ .checkpoint "now" :: resumed)).serve (.checkpoint "later")).verdict
      = .error (.violation "later" (.plain .runtime "down") 5) := by
  obtain ⟨_, fails, _, latched⟩ := verdict_reckoned none begun "now"
  have failed := fails (.plain .runtime "down") rfl
  obtain ⟨first, same, kept⟩ := latched _ failed
  cases same
  exact ⟨failed, kept resumed "later"⟩

end Monitor

end Drill
