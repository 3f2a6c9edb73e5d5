import Drill.Assoc
import Drill.Clock
import Drill.Invoker.Service
import Drill.Topology.Shelf

/-!
# A cluster to rehearse on

A cluster without servers (`FakeCluster`): a topology, a counter that every call moves on by one,
and faults to order. A call fails while a whole sub-cluster is down, or while a node is down without
which the service cannot do; otherwise it answers the counter (`Cluster.answer`). The cluster also
carries out stops and starts of nodes, keeps a log of them, and hands out the handles through which
it is called. `Cluster.service` is what an invoker makes of it.
-/

namespace Drill

/-- A handle through which the service is called (`FakeCounterService`). -/
structure Handle where
  implementation : String
  closes : Nat
  active : Nat
  mostActive : Nat
deriving DecidableEq

/-- Faults and delays to order (`fail_call`, `jump_on_call`, `fail_stop` and the like). -/
structure Trouble where
  /-- What the numbered calls fail with. -/
  calls : Assoc Int Fault
  /-- How far the counter jumps at the numbered calls. -/
  jumps : Assoc Int Int
  /-- How long calls wait, and how long the numbered ones do. -/
  delay : Option Nat
  delays : Assoc Int (Option Nat)
  /-- Nodes without which the service cannot do. -/
  critical : List String
  /-- Nodes that do not shut down, and nodes that do not start. -/
  stubborn : List String
  dead : List String
  stopDelay : Option Nat
  startDelay : Option Nat
  stops : Assoc String Fault
  starts : Assoc String Fault
  acquisition : Option Fault
  release : Option Fault

/-- A cluster (`FakeCluster`). -/
structure Cluster where
  topology : Topology
  serial : Int
  /-- How many calls were answered, with a value or a fault. -/
  calls : Nat
  trouble : Trouble
  /-- The handles, oldest first. -/
  handles : List Handle
  /-- The requests to nodes, oldest first. -/
  requests : List (Operation × String)
  /-- The grace periods of the stops, in milliseconds, oldest first. -/
  gracePeriods : List Int
  /-- The most nodes that a stop left down in one sub-cluster. -/
  mostStopped : Nat

namespace Cluster

/-- The default fault of a numbered call. -/
def injected (number : Int) : Fault := .invocation s!"injected failure on call #{number}" none

/-- The critical nodes that are down, in alphabetical order. -/
def missing (c : Cluster) : List String :=
  (c.topology.stopped.filter (· ∈ c.trouble.critical)).mergeSort (· ≤ ·)

/-- Answers a call (`FakeCluster.invoke`). -/
def answer (c : Cluster) : Answer × Cluster :=
  let number : Int := c.calls + 1
  let counted := { c with calls := c.calls + 1 }
  match c.trouble.calls.get? number with
  | some fault => (.fault fault, counted)
  | none =>
    if !c.topology.isReachable then
      (.fault (.invocation "No running member in a sub-cluster" none), counted)
    else if c.missing ≠ [] then
      (.fault (.invocation ("Session lost with " ++ ", ".intercalate c.missing) none), counted)
    else
      let value := c.serial + (c.trouble.jumps.get? number).getD 0
      (.value (some value), { counted with serial := value + 1 })

/-- Changes the handle that was handed out last, the only one that is still in use. -/
def updateHandle (c : Cluster) (change : Handle → Handle) : Cluster :=
  match c.handles.getLast? with
  | some handle => { c with handles := c.handles.dropLast ++ [change handle] }
  | none => c

/-- How long the next call waits. -/
def nextDelay (c : Cluster) : Option Nat :=
  (c.trouble.delays.get? (c.calls + 1)).getD c.trouble.delay

/-- A call begins. -/
def enter (c : Cluster) : Opening × Cluster :=
  (⟨false, match c.nextDelay with | some span => .span span | none => .none⟩,
    c.updateHandle fun h =>
      { h with active := h.active + 1, mostActive := max h.mostActive (h.active + 1) })

/-- A call is over. -/
def leave (c : Cluster) : Cluster := c.updateHandle fun h => { h with active := h.active - 1 }

/-- The cluster as a service; calls that are broken off give in. -/
def service : Service Cluster where
  enter := enter
  finish c :=
    let (a, c) := c.answer
    (a, c.leave)
  interrupt c := (none, c.leave)

/-- Hands out a handle, unless a fault was ordered (`FakeCluster.factory`). -/
def acquire (c : Cluster) (implementation : String) : Except Fault Unit × Cluster :=
  match c.trouble.acquisition with
  | some fault => (.error fault, c)
  | none => (.ok (), { c with handles := c.handles ++ [⟨implementation, 0, 0, 0⟩] })

/-- Takes a handle back (`FakeCounterService.close`). -/
def release (c : Cluster) : Except Fault Unit × Cluster :=
  let c := c.updateHandle fun h => { h with closes := h.closes + 1 }
  match c.trouble.release with
  | some fault => (.error fault, c)
  | none => (.ok (), c)

/-- Changes the state of a node, if there is such a node. -/
def mark (c : Cluster) (id : String) (state : NodeState) : Except Fault Unit × Cluster :=
  match c.topology.marked id state with
  | .ok topology => (.ok (), { c with topology })
  | .error fault => (.error fault, c)

/-- Stops a node, which may take a grace period of some milliseconds (`FakeCluster.stop`). -/
def stop (c : Cluster) (id : String) (grace : Int) : Except Fault Unit × Cluster :=
  match c.trouble.stops.get? id with
  | some fault => (.error (fault.during id .stop), c)
  | none =>
    let c := { c with
      requests := c.requests ++ [(.stop, id)], gracePeriods := c.gracePeriods ++ [grace] }
    if id ∈ c.trouble.stubborn then
      (.error (.plain .runtime s!"{id} did not shut down within {grace}ms"), c)
    else
      match c.mark id .stopped with
      | (.ok (), c) => (.ok (), { c with mostStopped := max c.mostStopped c.topology.mostStopped })
      | refused => refused

/-- Starts a node (`FakeCluster.start`). -/
def start (c : Cluster) (id : String) : Except Fault Unit × Cluster :=
  match c.trouble.starts.get? id with
  | some fault => (.error (fault.during id .start), c)
  | none =>
    let c := { c with requests := c.requests ++ [(.start, id)] }
    if id ∈ c.trouble.dead then
      (.error (.control s!"{id} refused to start" id Operation.start.name), c)
    else c.mark id .running

/-- Lets a node start again. -/
def allowStart (c : Cluster) (id : String) : Cluster :=
  { c with trouble := { c.trouble with dead := c.trouble.dead.filter (· ≠ id) } }

/-- Lets one of the calls to come fail; the next one is the first. -/
def failCall (c : Cluster) (ahead : Int) : Cluster :=
  let number := c.calls + ahead
  { c with trouble := { c.trouble with calls := c.trouble.calls.put number (injected number) } }

end Cluster

end Drill
