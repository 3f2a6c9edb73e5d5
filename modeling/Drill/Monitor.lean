import Drill.Log.Event

/-!
# The consistency monitor

The running verdict (`ConsistencyMonitor`): which counter value is expected next, how many calls
were made, how many failed, and the first failure. A value that is not the expected one is no
failure; the monitor takes it as the new baseline. The first failure is kept for good. Main
statements: `record_firstFailure`, the first failure is latched, and `record_resyncs`, a value that
does not follow the last one is a new baseline.
-/

namespace Drill

/-- What became of one call (`InvocationOutcome`): a value or a fault. -/
inductive Outcome where
  | value (v : Int)
  | failure (fault : Fault)
deriving DecidableEq

namespace Outcome

/-- An outcome needs exactly one of the two (`InvocationOutcome.__post_init__`). -/
def ambiguous : Fault := .plain .value "Outcome needs exactly one of value or error"

/-- The outcome with the given value or the given fault. -/
def of : Option Int → Option Fault → Except Fault Outcome
  | some v, none => .ok (value v)
  | none, some fault => .ok (failure fault)
  | _, _ => .error ambiguous

/-- Did the call answer with a value? (`InvocationOutcome.ok`) -/
def isValue : Outcome → Bool
  | value _ => true
  | failure _ => false

end Outcome

/-- What the monitor knows (`ConsistencyMonitor`). -/
structure Monitor where
  /-- The last value, from which the next one follows. -/
  expected : Option Int
  invocations : Nat
  failures : Nat
  resyncs : Nat
  firstFailure : Option Fault
deriving DecidableEq

namespace Monitor

/-- A monitor before the first call. -/
def start (expected : Option Int) : Monitor := ⟨expected, 0, 0, 0, none⟩

/-- Sets the baseline (`seed`). -/
def seed (m : Monitor) (value : Int) : Monitor × List Log.Event :=
  ({ m with expected := some value }, [.seeded value])

/-- Takes in a value (`record_value`). -/
def recordValue (m : Monitor) (sequence value : Int) : Monitor × List Log.Event :=
  let counted := { m with invocations := m.invocations + 1, expected := some value }
  match m.expected with
  | none => (counted, [.received sequence value])
  | some last =>
    if value = last + 1 then (counted, [.received sequence value])
    else ({ counted with resyncs := m.resyncs + 1 },
      [.received sequence value, .resynced (last + 1) value])

/-- Takes in a failure (`record_failure`). -/
def recordFailure (m : Monitor) (sequence : Int) (fault : Fault) : Monitor × List Log.Event :=
  let counted := { m with invocations := m.invocations + 1, failures := m.failures + 1 }
  match m.firstFailure with
  | none => ({ counted with firstFailure := some fault }, [.latched sequence fault])
  | some _ => (counted, [.failedAgain sequence fault])

/-- Takes in what became of a call (`record_outcome`). -/
def record (m : Monitor) (sequence : Int) : Outcome → Monitor × List Log.Event
  | .value v => m.recordValue sequence v
  | .failure fault => m.recordFailure sequence fault

/-- The verdict at a checkpoint (`assert_no_failure`): a violation if a failure is latched. -/
def checkpoint (m : Monitor) (label : String) : Except Fault Unit × List Log.Event :=
  match m.firstFailure with
  | some first => (.error (.violation label first m.invocations), [.checkpointFailed label first])
  | none => (.ok (), [.checkpointPassed label m.invocations])

/-- The first failure stays what it is; before it, the outcome decides. -/
theorem record_firstFailure (m : Monitor) (sequence : Int) (outcome : Outcome) :
    (m.record sequence outcome).1.firstFailure
      = match outcome with
        | .value _ => m.firstFailure
        | .failure fault => some (m.firstFailure.getD fault) := by
  cases outcome with
  | value v =>
    cases h : m.expected with
    | none => simp [record, recordValue, h]
    | some last => by_cases e : v = last + 1 <;> simp [record, recordValue, h, e]
  | failure fault => cases h : m.firstFailure <;> simp [record, recordFailure, h]

/-- Every outcome counts. -/
theorem record_invocations (m : Monitor) (sequence : Int) (outcome : Outcome) :
    (m.record sequence outcome).1.invocations = m.invocations + 1 := by
  cases outcome with
  | value v =>
    cases h : m.expected with
    | none => simp [record, recordValue, h]
    | some last => by_cases e : v = last + 1 <;> simp [record, recordValue, h, e]
  | failure fault => cases h : m.firstFailure <;> simp [record, recordFailure, h]

/-- Every failure counts. -/
theorem record_failures (m : Monitor) (sequence : Int) (outcome : Outcome) :
    (m.record sequence outcome).1.failures = m.failures + if outcome.isValue then 0 else 1 := by
  cases outcome with
  | value v =>
    cases h : m.expected with
    | none => simp [record, recordValue, h, Outcome.isValue]
    | some last => by_cases e : v = last + 1 <;> simp [record, recordValue, h, e, Outcome.isValue]
  | failure fault => cases h : m.firstFailure <;> simp [record, recordFailure, h, Outcome.isValue]

/-- After a value the next number is expected, and a failure changes no expectation. -/
theorem record_expected (m : Monitor) (sequence : Int) (outcome : Outcome) :
    (m.record sequence outcome).1.expected
      = match outcome with
        | .value v => some v
        | .failure _ => m.expected := by
  cases outcome with
  | value v =>
    cases h : m.expected with
    | none => simp [record, recordValue, h]
    | some last => by_cases e : v = last + 1 <;> simp [record, recordValue, h, e]
  | failure fault => cases h : m.firstFailure <;> simp [record, recordFailure, h]

/-- A value is a new baseline exactly when it does not follow the last one. -/
theorem record_resyncs {m : Monitor} {last : Int} (known : m.expected = some last) (sequence : Int)
    (outcome : Outcome) :
    (m.record sequence outcome).1.resyncs
      = match outcome with
        | .value v => m.resyncs + if v = last + 1 then 0 else 1
        | .failure _ => m.resyncs := by
  cases outcome with
  | value v => by_cases e : v = last + 1 <;> simp [record, recordValue, known, e]
  | failure fault => cases h : m.firstFailure <;> simp [record, recordFailure, h]

end Monitor

end Drill
