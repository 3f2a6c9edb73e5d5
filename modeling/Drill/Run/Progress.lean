import Drill.Cluster
import Drill.Invoker.Control
import Drill.Settings.Pace

/-!
# The progress of a run

What a run has done so far: the scene it works in, the topology as it believes it to be, and what
goes into its report. `Stage` is what one part of a run comes to, a result or the fault that ends
the run, and `Stage.next` goes on from a result only. `Progress.execute` carries out one step of a
script. The parts are the private methods of a `FailoverOrchestrator`, cut where they wait.
-/

namespace Drill

open Number (Double)

namespace Run

/-- A wait of the script: when it began, how many seconds it was for, and how many calls were
recorded. -/
structure Nap where
  moment : Nat
  seconds : Double
  invocations : Nat
deriving DecidableEq

/-- How far a run has come. -/
structure Progress where
  scene : Scene Cluster
  /-- The states of the nodes, as far as the run knows. -/
  live : Topology
  /-- The waits so far, newest first. -/
  naps : List Nap
  /-- The labels of the checkpoints passed, oldest first. -/
  checkpoints : List String
  /-- The nodes that were stopped, oldest first. -/
  toggled : List String

/-- What a part of a run comes to. -/
abbrev Stage (α : Type) := Except Raised α × Progress

/-- Goes on from a result; a fault ends the run. -/
def Stage.next {α β : Type} (s : Stage α) (f : α → Progress → Stage β) : Stage β :=
  match s with
  | (.ok a, p) => f a p
  | (.error raised, p) => (.error raised, p)

/-- After a result the next part follows. -/
@[simp] theorem Stage.next_ok {α β : Type} (a : α) (p : Progress) (f : α → Progress → Stage β) :
    Stage.next (.ok a, p) f = f a p := rfl

/-- After a fault no part follows. -/
@[simp] theorem Stage.next_error {α β : Type} (r : Raised) (p : Progress)
    (f : α → Progress → Stage β) : Stage.next (.error r, p) f = (.error r, p) := rfl

namespace Progress

/-- A computed value, or the fault of computing it. -/
def lift {α : Type} (p : Progress) (value : Except Fault α) : Stage α :=
  (value.mapError .plain, p)

@[simp] theorem lift_ok {α : Type} (p : Progress) (a : α) : p.lift (.ok a) = (.ok a, p) := rfl

@[simp] theorem lift_error {α : Type} (p : Progress) (fault : Fault) :
    p.lift (.error fault : Except Fault α) = (.error (.plain fault), p) := rfl

/-- Logs an event. -/
def note (p : Progress) (e : Log.Event) : Progress := { p with scene := p.scene.note [e] }

/-- Notes down a wait that begins now. -/
def noteNap (p : Progress) (seconds : Double) : Progress :=
  { p with naps := ⟨p.scene.clock.now, seconds, p.scene.monitor.invocations⟩ :: p.naps }

/-- Changes the cluster. -/
def onCluster (p : Progress) (f : Cluster → Except Fault Unit × Cluster) :
    Except Fault Unit × Progress :=
  let (result, cluster) := f p.scene.service
  (result, { p with scene := { p.scene with service := cluster } })

/-- Lets time pass while there is no invoker. -/
def elapse (p : Progress) (span : Nat) : Progress :=
  let (t, scene) := p.scene.timer span
  { p with scene := { scene with clock := scene.clock.reach t } }

/-- Waits while there is no invoker. -/
def waitAlone (p : Progress) (seconds : Double) : Stage Unit :=
  let p := p.noteNap seconds
  match Pause.of seconds with
  | .ok .passing => (.ok (), p)
  | .ok (.timed span) => (.ok (), p.elapse span)
  | .error fault => (.error (.plain fault), p)

variable (pacing : Pacing)

/-- Lets time pass while the invoker works. -/
def sleep (p : Progress) (span : Nat) : Progress :=
  { p with scene := p.scene.sleep Cluster.service pacing span }

/-- Waits while the invoker works. -/
def wait (p : Progress) (seconds : Double) : Stage Unit :=
  let p := p.noteNap seconds
  match Pause.of seconds with
  | .ok pause => (.ok (), { p with scene := p.scene.pause Cluster.service pacing pause })
  | .error fault => (.error (.plain fault), p)

/-- Asks the monitor; a label that passes goes into the report (`_checkpoint`). -/
def checkpoint (p : Progress) (label : String) : Stage Unit :=
  match p.scene.checkpoint label with
  | (.ok (), scene) => (.ok (), { p with scene, checkpoints := p.checkpoints ++ [label] })
  | (.error fault, scene) => (.error (.plain fault), { p with scene })

/-- The grace period of some seconds, in whole milliseconds. -/
def graceMillis (seconds : Double) : Except Fault Int :=
  match (seconds * .ofInt 1000).truncate? with
  | some n => .ok n
  | none => .error .infiniteSpan

/-- A request that a node did not carry out. Whatever went wrong, the run ends with a fault of
control. -/
def refusal (doing id : String) (operation : Operation) : Fault → Raised
  | .control text node op => .plain (.control text node op)
  | fault => .of (.control s!"{doing} {id} failed: {fault.text}" id operation.name) fault

/-- Passes the time that a request takes, if it takes any. -/
def delay (p : Progress) : Option Nat → Progress
  | some span => p.sleep pacing span
  | none => p

/-- Announces the stop of a node, and works out how many milliseconds it may take. -/
def announceStop (p : Progress) (settings : Settings) (source : Topology)
    (id : String) : Stage Int :=
  (p.lift (source.label id)).next fun label p =>
  (p.lift (settings.seconds settings.grace)).next fun seconds p =>
  (p.lift (graceMillis seconds)).next fun grace p =>
  (.ok grace, p.note (.shutdown label id))

/-- Has a node stopped, and remembers it as stopped. -/
def askStop (p : Progress) (id : String) (grace : Int) : Stage Unit :=
  match p.onCluster (·.stop id grace) with
  | (.ok (), p) =>
    (.ok (), { p with live := p.live.mark id .stopped, toggled := p.toggled ++ [id] })
  | (.error fault, p) => (.error (refusal "Stopping" id .stop fault), p)

/-- Stops a node and remembers it as stopped (`_stop`). -/
def stop (p : Progress) (settings : Settings) (source : Topology) (id : String) : Stage Unit :=
  (p.announceStop settings source id).next fun grace p =>
  (p.delay pacing p.scene.service.trouble.stopDelay).askStop id grace

/-- Announces the start of a node. -/
def announceStart (p : Progress) (source : Topology) (id : String) : Stage Unit :=
  (p.lift (source.label id)).next fun label p => (.ok (), p.note (.startup label id))

/-- Has a node started, and remembers it as running. -/
def askStart (p : Progress) (id : String) : Stage Unit :=
  match p.onCluster (·.start id) with
  | (.ok (), p) => (.ok (), { p with live := p.live.mark id .running })
  | (.error fault, p) => (.error (refusal "Starting" id .start fault), p)

/-- Starts a node and remembers it as running (`_start`). -/
def start (p : Progress) (source : Topology) (id : String) : Stage Unit :=
  (p.announceStart source id).next fun _ p =>
  (p.delay pacing p.scene.service.trouble.startDelay).askStart id

/-- Carries out one step of a script (`_execute`). -/
def execute (p : Progress) (settings : Settings) (source : Topology) : Step → Stage Unit
  | .stop id => p.stop pacing settings source id
  | .start id => p.start pacing source id
  | .wait kind seconds => (p.note (.waiting seconds kind)).wait pacing seconds
  | .checkpoint label => p.checkpoint label

/-- Carries out steps in order, up to the first that fails (the loop over the script in `run`). -/
def executeAll (p : Progress) (settings : Settings) (source : Topology) : List Step → Stage Unit
  | [] => (.ok (), p)
  | step :: rest =>
    (p.execute pacing settings source step).next fun _ p => p.executeAll settings source rest

end Progress

end Run

end Drill
