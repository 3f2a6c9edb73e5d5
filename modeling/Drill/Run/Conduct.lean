import Drill.Run.Progress
import Drill.Settings.Overview

/-!
# Conducting a run

A run checks its script, acquires the service, lets the clusters form, makes a first call, starts
the invoker, and carries out the script with checkpoints. `conduct` is the whole of it
(`FailoverOrchestrator.run`). However it ends, the invoker is cancelled and then the service is
released (the callbacks of the `AsyncExitStack`); a fault of the release is logged and changes
nothing.
-/

namespace Drill.Run

open Number (Double)

/-- What is to be run (the arguments of `FailoverOrchestrator`). -/
structure Plan where
  settings : Settings
  implementation : String
  /-- The topology that the script is made for. -/
  source : Topology
  /-- The name of the run. -/
  runId : String

/-- What a run that passed has to say (`HarnessReport`). -/
structure Report where
  implementation : String
  invocations : Nat
  failures : Nat
  resyncs : Nat
  checkpoints : List String
  toggled : List String
deriving DecidableEq

/-- A run that has done nothing yet, in the scene of an earlier one. -/
def Progress.fresh (scene : Scene Cluster) (live : Topology) : Progress where
  scene := { scene with monitor := .start none, invoker := .fresh }
  live := live
  naps := []
  checkpoints := []
  toggled := []

namespace Plan

variable (plan : Plan)

/-- The script of the plan, if it may be carried out (`build_script`, `validate_script`). -/
def script : Except Fault (List Step) := do
  let steps ← plan.settings.script plan.source
  match Script.check plan.source steps with
  | .ok () => return steps
  | .error flaw => throw flaw.fault

/-- Gets hold of the service (`_acquire_service`). -/
def acquire (p : Progress) : Stage Unit :=
  match p.onCluster (·.acquire plan.implementation) with
  | (.ok (), p) => (.ok (), p)
  | (.error (.acquisition text), p) => (.error (.plain (.acquisition text)), p)
  | (.error fault, p) =>
    (.error (.of (.acquisition
      s!"Could not acquire service for {plan.implementation}: {fault.text}") fault), p)

/-- Lets go of the service (`_release_service`). -/
def release (p : Progress) : Progress :=
  match p.onCluster (·.release) with
  | (.ok (), p) => p
  | (.error fault, p) => p.note (.releaseFailed fault)

/-- The label of the first call's verdict. -/
def warmUpLabel : String := "on the first invocation"

/-- Enters the first call, and says how long it waits, if it does. -/
def ring (p : Progress) : Option Nat × Progress :=
  let (opened, cluster) := Cluster.service.enter p.scene.service
  let p := { p with scene := { p.scene with service := cluster } }
  match opened.wait with
  | .span span => (some span, p)
  | .none | .forever => (none, p)

/-- Takes the answer of the first call, which sets what the monitor expects. -/
def hear (p : Progress) : Stage Unit :=
  let (a, cluster) := Cluster.service.finish p.scene.service
  let p := { p with scene := { p.scene with service := cluster } }
  match a with
  | .value (some v) =>
    let (monitor, events) := p.scene.monitor.seed v
    (.ok (), { p with scene := { p.scene with monitor }.note events })
  | .fault fault =>
    (.error (.of (.violation warmUpLabel fault 0) fault), p.note (.warmUpFailed fault))
  | .value none | .cancelled => (.error (.plain Outcome.ambiguous), p)

/-- The first call (`_warm_up`). Nothing bounds its time. -/
def warmUp (p : Progress) : Stage Unit :=
  match ring p with
  | (some span, p) => hear (p.elapse span)
  | (none, p) => hear p

/-- How fast the invoker goes under the plan's settings (the arguments of `InvocationDriver`). -/
def pacing : Except Fault Pacing := do
  Pacing.of (← plan.settings.seconds plan.settings.period) (← plan.settings.limitSeconds)

/-- What happens while the invoker works (the inner part of `run`). -/
def exercise (pacing : Pacing) (steps : List Step) (p : Progress) : Stage Unit :=
  (p.lift (plan.settings.seconds plan.settings.stability)).next fun seconds p =>
  (p.wait pacing seconds).next fun _ p =>
  (p.checkpoint Script.baseline).next fun _ p =>
  p.executeAll pacing plan.settings plan.source steps

/-- Cancels the invoker and waits for its end. A fault that ended the loop counts before all
others. -/
def quit (pacing : Pacing) (s : Stage Unit) : Stage Unit :=
  let (result, p) := s
  match p.scene.close Cluster.service pacing with
  | (.ok (), scene) => (result, { p with scene })
  | (.error fault, scene) => (.error (.plain fault), { p with scene })

/-- Lets the clusters form. -/
def gather (p : Progress) : Stage Unit :=
  let p := p.note .waitingForClusters
  (p.lift (plan.settings.seconds plan.settings.formation)).next fun seconds p => p.waitAlone seconds

/-- Makes the invoker and starts it. -/
def launch (p : Progress) : Stage Pacing :=
  (p.lift plan.pacing).next fun pacing p =>
  match p.scene.start pacing with
  | .ok scene => (.ok pacing, { p with scene })
  | .error fault => (.error (.plain fault), p)

/-- What happens while the service is held. -/
def drill (steps : List Step) (p : Progress) : Stage Unit :=
  (plan.gather p).next fun _ p =>
  (warmUp p).next fun _ p =>
  (plan.launch p).next fun pacing p =>
  quit pacing (plan.exercise pacing steps p)

/-- Runs up to the end of the run's name: everything but the last line of the log. -/
def perform (p : Progress) : Stage Unit :=
  let p := p.note (.runStarted plan.implementation plan.settings.banner)
  (p.lift plan.script).next fun steps p =>
  (plan.acquire p).next fun _ p =>
  let (result, p) := plan.drill steps p
  (result, release p)

/-- The report of a run. -/
def report (p : Progress) : Report where
  implementation := plan.implementation
  invocations := p.scene.monitor.invocations
  failures := p.scene.monitor.failures
  resyncs := p.scene.monitor.resyncs
  checkpoints := p.checkpoints
  toggled := p.toggled

/-- Runs the plan in a scene (`FailoverOrchestrator.run`). -/
def conduct (scene : Scene Cluster) : Stage Report :=
  (plan.perform (.fresh scene plan.source)).next fun _ p =>
    let m := p.scene.monitor
    (.ok (plan.report p), p.note (.runPassed plan.runId m.invocations m.resyncs))

end Plan

end Drill.Run
