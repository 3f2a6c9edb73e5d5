import Drill.Log.Loggers
import Drill.Run.Conduct
import Drill.Topology.Shape

/-!
# Sessions

Several runs against one cluster, with changes to the cluster and to the topology between them. The
clock goes on from run to run, and so does the cluster; the monitor and the run's own view of the
topology start anew with every run. A session may have been given no topology: then its runs use one
of their own, which changes to the source do not reach.
-/

namespace Drill.Run

/-- A session (one `FailoverOrchestrator` with its cluster). -/
structure Session where
  settings : Settings
  implementation : String
  runId : String
  /-- The topology that the session was given, or would have been. -/
  source : Topology
  /-- Was the session given its topology? -/
  given : Bool
  scene : Scene Cluster
  /-- The nodes' states in the view of the last run. -/
  live : Topology
  /-- The waits of the last action, newest first. -/
  naps : List Nap

/-- Something to do in a session. -/
inductive Action where
  | run
  | buildScript
  /-- Changes a node of the cluster. -/
  | markCluster (id : String) (state : NodeState)
  /-- Changes a node of the topology that the session was given. -/
  | markSource (id : String) (state : NodeState)
  | allowStart (id : String)
  | failCall (ahead : Int)
  | sleep (span : Nat)

/-- What an action comes to. -/
inductive Result where
  | report (r : Report)
  | steps (count : Nat)
  | done
deriving DecidableEq

namespace Session

/-- The topology that scripts are made for. -/
def ownTopology (s : Session) : Topology := if s.given then s.source else Topology.twoByTwo

/-- What a run of the session runs. -/
def plan (s : Session) : Plan := ⟨s.settings, s.implementation, s.ownTopology, s.runId⟩

/-- A session before its first action, with a cluster of the same topology. -/
def start (settings : Settings) (implementation runId : String) (source : Topology)
    (given : Bool) (trouble : Trouble) (serial : Int) : Session where
  settings := settings
  implementation := implementation
  runId := runId
  source := source
  given := given
  scene := .opening ⟨source, serial, 0, trouble, [], [], [], 0⟩ (.start none)
  live := if given then source else Topology.twoByTwo
  naps := []

/-- The session with a changed cluster. -/
def withCluster (s : Session) (cluster : Cluster) : Session :=
  { s with scene := { s.scene with service := cluster } }

/-- Does something; the log and the waits are those of this action. -/
def perform (s : Session) (action : Action) : Except Raised Result × Session :=
  let s := { s with scene := { s.scene with log := [] }, naps := [] }
  match action with
  | .run =>
    let (result, p) := s.plan.conduct s.scene
    (result.map .report, { s with scene := p.scene, live := p.live, naps := p.naps })
  | .buildScript => ((s.plan.script.map fun steps => .steps steps.length).mapError .plain, s)
  | .markCluster id state =>
    let (result, cluster) := s.scene.service.mark id state
    ((result.map fun _ => .done).mapError .plain, s.withCluster cluster)
  | .markSource id state =>
    match s.source.marked id state with
    | .ok source => (.ok .done, { s with source })
    | .error fault => (.error (.plain fault), s)
  | .allowStart id => (.ok .done, s.withCluster (s.scene.service.allowStart id))
  | .failCall ahead => (.ok .done, s.withCluster (s.scene.service.failCall ahead))
  | .sleep span =>
    let p := (Progress.fresh s.scene s.live).elapse span
    (.ok .done, { s with scene := { s.scene with clock := p.scene.clock } })

/-- The loggers that the session's settings ask for. -/
def loggers (s : Session) : Log.Loggers :=
  Log.Loggers.initial.setUp s.settings.logLevel.name (if s.settings.jsonLogs then .members
    else .columns)

/-- The lines that the last action wrote, each up to its first line break. -/
def lines (s : Session) (time : String) : List String :=
  s.scene.log.reverse.filterMap fun e =>
    (s.loggers.writeEvent time s.runId e.event).map Log.firstLine

end Session

end Drill.Run
