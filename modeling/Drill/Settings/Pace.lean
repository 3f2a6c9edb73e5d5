import Drill.Script
import Drill.Settings.Basic

/-!
# The script of some settings

`Settings.pace` is how long a script waits under the settings, and `Settings.script` the script for
a topology.
-/

namespace Drill.Settings

/-- How long scripts wait, if the durations have lengths in seconds (the arguments of
`build_toggle_script`). -/
def pace (s : Settings) : Except Fault Script.Pace := do
  return ⟨← s.seconds s.outage, ← s.restartSeconds, s.strict⟩

/-- The script that takes every node of a topology down and up again
(`FailoverOrchestrator.build_script`). -/
def script (s : Settings) (t : Topology) : Except Fault (List Step) := do
  return Script.build t (← s.pace)

end Drill.Settings
