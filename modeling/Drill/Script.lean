import Drill.Number.Double
import Drill.Text.Quoted
import Drill.Topology.Shelf

/-!
# Scripts

A script is the list of steps that a drill carries out: stop a node, start it again, wait, check.
`Script.build` takes every node of a topology down and up again, one at a time; `Script.check`
replays a script on a topology and finds the first step that may not be taken (`Flaw`). No step of a
script that passes takes the last running member of a sub-cluster down.
-/

namespace Drill

/-- What a wait is for (`WaitKind`). -/
inductive WaitKind where
  | stability
  | outage
  | convergence
deriving DecidableEq

namespace WaitKind

/-- The word for a kind of wait. -/
def name : WaitKind → String
  | stability => "stability"
  | outage => "outage"
  | convergence => "convergence"

/-- The kind of wait of a word. -/
def ofName (name : String) : Except Fault WaitKind :=
  match [stability, outage, convergence].find? (·.name = name) with
  | some kind => .ok kind
  | none => .error (.plain .value (Text.quoted name ++ " is not a valid WaitKind"))

end WaitKind

/-- One step of a script (`StopNode`, `StartNode`, `Wait`, `Checkpoint`). -/
inductive Step where
  | stop (id : String)
  | start (id : String)
  | wait (kind : WaitKind) (seconds : Number.Double)
  | checkpoint (label : String)
deriving DecidableEq

namespace Script

/-- How long a script waits, and whether it checks during every outage. -/
structure Pace where
  outage : Number.Double
  restart : Number.Double
  strict : Bool

/-- The label of the checkpoint before the first step (`BASELINE_LABEL`). -/
def baseline : String := "at the beginning of the test"

/-- The label of the checkpoint while a node is down. -/
def downLabel (node : String) : String := s!"after {node} was shut down"

/-- The label of the checkpoint when a node is up again. -/
def upLabel (node : String) : String := s!"after {node} was brought back up"

/-- The steps for one node, given its label; the check during the outage is made if `checked` (the
body of the loop of `build_toggle_script`). -/
def toggle (pace : Pace) (id label : String) (checked : Bool) : List Step :=
  [.stop id, .wait .outage pace.outage] ++
    (if checked then [.checkpoint (downLabel label)] else []) ++
    [.start id, .wait .convergence pace.restart, .checkpoint (upLabel label)]

/-- The steps for one sub-cluster. Unless checking is strict, only the outage of its first member is
checked at once; a failure in another one stays latched and is found when the node is up again. -/
def toggleAll (pace : Pace) (c : SubCluster) : List Step :=
  c.ids.zipIdx.flatMap fun (id, index) =>
    toggle pace id s!"{c.name}-node{index}" (pace.strict || index = 0)

/-- The steps that take every node down and up again, in order (`build_toggle_script`). -/
def build (t : Topology) (pace : Pace) : List Step := t.subClusters.flatMap (toggleAll pace)

/-- Why a script may not be carried out (the causes of a `ScriptError`). Positions count from
zero. -/
inductive Flaw where
  | unknownNode (position : Nat) (id : String)
  | alreadyStopped (position : Nat) (id : String)
  | alreadyRunning (position : Nat) (id : String)
  | lastRunning (position : Nat) (id subCluster : String)
  | negativeWait (position : Nat) (kind : WaitKind)
  /-- The script ends with nodes that are down. -/
  | leftStopped (ids : List String)
deriving DecidableEq

namespace Flaw

/-- The sentence for a flaw. -/
def text : Flaw → String
  | unknownNode position id => s!"Step {position}: unknown node {id}"
  | alreadyStopped position id => s!"Step {position}: {id} is already stopped"
  | alreadyRunning position id => s!"Step {position}: {id} is already running"
  | lastRunning position id subCluster =>
    s!"Step {position}: stopping {id} leaves {subCluster} with no running member"
  | negativeWait position kind => s!"Step {position}: negative {kind.name} wait"
  | leftStopped ids => "Script ends with nodes still stopped: " ++ ", ".intercalate ids

/-- The fault that a flaw raises. -/
def fault (flaw : Flaw) : Fault := .script flaw.text

end Flaw

/-- Is another member of the node's sub-cluster running? -/
def hasRunningSibling (t : Topology) (id : String) : Bool :=
  ((t.siblings? id).getD []).any fun s => (t.node? s).any (·.state = .running)

/-- The topology after one step, or what is wrong with the step (one round of the loop of
`validate_script`). -/
def replay (position : Nat) (t : Topology) : Step → Except Flaw Topology
  | .stop id =>
    match t.node? id with
    | none => .error (.unknownNode position id)
    | some node =>
      if node.state = .stopped then .error (.alreadyStopped position id)
      else if hasRunningSibling t id then .ok (t.mark id .stopped)
      else .error (.lastRunning position id node.subCluster)
  | .start id =>
    match t.node? id with
    | none => .error (.unknownNode position id)
    | some node =>
      if node.state = .running then .error (.alreadyRunning position id)
      else .ok (t.mark id .running)
  | .wait kind seconds =>
      if seconds.isBelowZero then .error (.negativeWait position kind) else .ok t
  | .checkpoint _ => .ok t

/-- The topology after the steps from a position on, or the first flaw (the loop of
`validate_script`). -/
def replayFrom : Nat → Topology → List Step → Except Flaw Topology
  | _, t, [] => .ok t
  | position, t, step :: rest =>
    match replay position t step with
    | .ok t' => replayFrom (position + 1) t' rest
    | .error flaw => .error flaw

/-- Accepts a script whose steps may all be taken and that leaves every node running
(`validate_script`). -/
def check (t : Topology) (steps : List Step) : Except Flaw Unit :=
  match replayFrom 0 t steps with
  | .error flaw => .error flaw
  | .ok after => if after.stopped = [] then .ok () else .error (.leftStopped after.stopped)

/-- A script is replayed part by part, and the positions are counted on. -/
theorem replayFrom_append (position : Nat) (t : Topology) (first second : List Step) :
    replayFrom position t (first ++ second)
      = match replayFrom position t first with
        | .ok t' => replayFrom (position + first.length) t' second
        | .error flaw => .error flaw := by
  induction first generalizing position t with
  | nil => rfl
  | cons step rest ih =>
    simp only [List.cons_append, replayFrom, List.length_cons]
    cases replay position t step with
    | error flaw => rfl
    | ok t' => simp [ih, Nat.add_assoc, Nat.add_comm 1]

end Script

end Drill
