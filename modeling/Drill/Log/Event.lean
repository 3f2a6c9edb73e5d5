import Drill.Log.Level
import Drill.Number.Decimal
import Drill.Script

/-!
# What is logged

Every message is an `Event`, which keeps what it is about; its level, its source and its text follow
from it. `Entry` is an event at a moment, and `heard` what a threshold leaves of a log.
-/

namespace Drill.Log

/-- Something worth a line in the log. -/
inductive Event where
  /-- The first answer sets what is expected next. -/
  | seeded (value : Int)
  | received (sequence value : Int)
  /-- An answer is not the expected one. -/
  | resynced (expected value : Int)
  /-- The first failure is kept. -/
  | latched (sequence : Int) (fault : Fault)
  /-- A later failure is counted only. -/
  | failedAgain (sequence : Int) (fault : Fault)
  | checkpointFailed (label : String) (fault : Fault)
  | checkpointPassed (label : String) (invocations : Nat)
  | invokerStarted (period : Number.Double)
  | invokerCancelled (ticks : Nat)
  | runStarted (implementation settings : String)
  | waitingForClusters
  | warmUpFailed (fault : Fault)
  | waiting (seconds : Number.Double) (kind : WaitKind)
  | shutdown (label id : String)
  | startup (label id : String)
  | releaseFailed (fault : Fault)
  | runPassed (runId : String) (invocations resyncs : Nat)
  | counterServiceAt (url : String)
deriving DecidableEq

namespace Event

/-- How grave an event is. -/
def level : Event → Level
  | seeded _ | received _ _ | failedAgain _ _ | waiting _ _ => .debug
  | resynced _ _ | releaseFailed _ => .warning
  | latched _ _ | checkpointFailed _ _ | warmUpFailed _ => .error
  | checkpointPassed _ _ | invokerStarted _ | invokerCancelled _ | runStarted _ _
  | waitingForClusters | shutdown _ _ | startup _ _ | runPassed _ _ _ | counterServiceAt _ => .info

/-- The name of the logger that an event is written to. -/
def source : Event → String
  | seeded _ | received _ _ | resynced _ _ | latched _ _ | failedAgain _ _ | checkpointFailed _ _
  | checkpointPassed _ _ => "failover_harness.monitor"
  | invokerStarted _ | invokerCancelled _ => "failover_harness.driver"
  | counterServiceAt _ => "failover_harness.clients.http_service"
  | _ => "failover_harness.orchestrator"

/-- The message. -/
def text : Event → String
  | seeded value => s!"First invocation: serial = {value}"
  | received sequence value =>
    s!"Client invocation #{sequence} on service, received serial #{value}."
  | resynced expected value =>
    s!"Expected ({expected}) and received serial ({value}) numbers do not match! Resetting."
  | latched sequence fault =>
    s!"Client invocation #{sequence} failed, latching first failure: {fault.text}"
  | failedAgain sequence fault => s!"Client invocation #{sequence} failed: {fault.text}"
  | checkpointFailed label fault => s!"Checkpoint failed {label}: {fault.text}"
  | checkpointPassed label invocations => s!"Checkpoint passed {label} ({invocations} invocations)"
  | invokerStarted period => s!"Invocation driver started (period {period.fixed 3}s)"
  | invokerCancelled ticks => s!"Invocation driver cancelled after {ticks} invocations"
  | runStarted implementation settings =>
    s!"Starting failover run for {implementation} with {settings}"
  | waitingForClusters => "Waiting for clusters to form."
  | warmUpFailed fault => s!"First invocation failed: {fault.text}"
  | waiting seconds kind => s!"Waiting {seconds.fixed 3}s ({kind.name})"
  | shutdown label id => s!"------ Shutdown {label} ({id}) -----"
  | startup label id => s!"------ Startup {label} ({id}) -----"
  | releaseFailed fault => s!"Error releasing service handle: {fault.text}"
  | runPassed runId invocations resyncs =>
    s!"Failover run {runId} passed: {invocations} invocations, {resyncs} resynchronizations"
  | counterServiceAt url => s!"Using counter service at {url}"

/-- The fault whose trace goes with an event: the first failure's, where it is latched. -/
def traced? : Event → Option Fault
  | latched _ fault => some fault
  | _ => none

/-- Is the event part of a run? The last one comes after the run has let go of its id. -/
def isInsideRun : Event → Bool
  | runPassed _ _ _ => false
  | _ => true

end Event

/-- An event at a moment, in microseconds. -/
structure Entry where
  moment : Nat
  event : Event
deriving DecidableEq

/-- The entries from a rank on, oldest first, of a log that has the newest first. -/
def heard (threshold : Nat) (log : List Entry) : List Entry :=
  log.reverse.filter fun e => threshold ≤ e.event.level.rank

end Drill.Log
