import Drill.Proofs.Nodes
import Drill.Run.Conduct

/-!
# What a built script is made of

A built script is the same few steps for every node in turn. Main statements: `build_filterMap`,
whatever is picked from these steps is picked node by node in the order of the nodes, with
`requests_build` and `stops_build` as its cases, `mem_build`, and `build_getLast?`, the last step is
a checkpoint. The script of a plan is a built one that passes the check (`script_ok`), and it waits
as the settings say (`pace_ok`).
-/

namespace Drill

namespace Step

/-- The request to a node that a step makes. -/
def request? : Step → Option (Operation × String)
  | stop id => some (.stop, id)
  | start id => some (.start, id)
  | wait _ _ | checkpoint _ => none

/-- The node that a step stops. -/
def stop? : Step → Option String
  | stop id => some id
  | start _ | wait _ _ | checkpoint _ => none

/-- The label of a checkpoint. -/
def label? : Step → Option String
  | checkpoint label => some label
  | stop _ | start _ | wait _ _ => none

end Step

namespace Script

section

variable {β : Type} {pick : Step → Option β} (each : String → List β)

/-- What is picked from the steps for a sub-cluster, if the same is picked from the steps for a node
in any place. -/
theorem toggleAll_filterMap
    (toggles : ∀ pace id label checked, (toggle pace id label checked).filterMap pick = each id)
    (pace : Pace) (c : SubCluster) : (toggleAll pace c).filterMap pick = c.ids.flatMap each := by
  -- The place of a node is in its label only, and nothing picked depends on labels.
  have first : c.ids.zipIdx.map Prod.fst = c.ids := List.zipIdx_map_fst 0 c.ids
  unfold toggleAll
  rw [List.filterMap_flatMap]
  simp only [toggles]
  conv => rhs; rw [← first, List.flatMap_map]

theorem build_filterMap
    (toggles : ∀ pace id label checked, (toggle pace id label checked).filterMap pick = each id)
    (t : Topology) (pace : Pace) : (build t pace).filterMap pick = t.ids.flatMap each := by
  unfold build Topology.ids
  rw [List.filterMap_flatMap]
  simp only [toggleAll_filterMap each toggles]
  simp [Topology.subClusters]

end

/-- The requests that take these nodes down and up again, one after the other. -/
def rota (ids : List String) : List (Operation × String) :=
  ids.flatMap fun id => [(.stop, id), (.start, id)]

/-- Every node is stopped and started again before the next one is stopped. -/
theorem requests_build (t : Topology) (pace : Pace) :
    (build t pace).filterMap Step.request? = rota t.ids := by
  refine build_filterMap _ (fun pace id label checked => ?_) t pace
  cases checked <;> rfl

/-- Every node is stopped once. -/
theorem stops_build (t : Topology) (pace : Pace) : (build t pace).filterMap Step.stop? = t.ids := by
  have singles : t.ids.flatMap (fun id => [id]) = t.ids := List.flatMap_singleton' t.ids
  rw [build_filterMap (fun id => [id]) (fun pace id label checked => ?_) t pace, singles]
  cases checked <;> rfl

/-- Every step is one of the steps for some node. -/
theorem mem_build {t : Topology} {pace : Pace} {step : Step} (mem : step ∈ build t pace) :
    ∃ id ∈ t.ids, ∃ label checked, step ∈ toggle pace id label checked := by
  obtain ⟨c, hc, mem⟩ := List.mem_flatMap.mp mem
  obtain ⟨⟨id, index⟩, hid, mem⟩ := List.mem_flatMap.mp mem
  have known : id ∈ c.ids := List.fst_mem_of_mem_zipIdx hid
  refine ⟨id, ?_, _, _, mem⟩
  unfold Topology.subClusters at hc
  unfold Topology.ids
  rcases List.mem_cons.mp hc with rfl | hc
  · exact List.mem_append_left _ known
  · rw [List.mem_singleton.mp hc] at known
    exact List.mem_append_right _ known

/-- A step for a node concerns the node, or it is a wait of the pace, or a checkpoint. -/
theorem mem_toggle {pace : Pace} {id label : String} {checked : Bool} {step : Step}
    (mem : step ∈ toggle pace id label checked) :
    step = .stop id ∨ step = .start id ∨ step = .wait .outage pace.outage ∨
      step = .wait .convergence pace.restart ∨ ∃ label, step = .checkpoint label := by
  unfold toggle at mem
  cases checked <;> grind

/-- The first checkpoint has a label of its own. -/
theorem baseline_not_mem_build (t : Topology) (pace : Pace) :
    .checkpoint baseline ∉ build t pace := by
  intro mem
  obtain ⟨id, _, label, checked, toggled⟩ := mem_build mem
  -- The other labels begin with another word.
  have other (rest : String) : "after " ++ rest ≠ baseline := by
    intro same
    have letters := congrArg String.toList same
    rw [String.toList_append] at letters
    cases letters
  have down : downLabel label ≠ baseline := by
    have apart := other (label ++ " was shut down")
    rw [← String.append_assoc] at apart
    exact apart
  have up : upLabel label ≠ baseline := by
    have apart := other (label ++ " was brought back up")
    rw [← String.append_assoc] at apart
    exact apart
  unfold toggle at toggled
  cases checked <;> grind

/-- The steps for a sub-cluster with a member end in a checkpoint. -/
theorem toggleAll_getLast? (pace : Pace) {c : SubCluster} (members : c.ids ≠ []) :
    ∃ label, (toggleAll pace c).getLast? = some (.checkpoint label) := by
  have indexed : c.ids.zipIdx ≠ [] := by simpa using members
  obtain ⟨before, ⟨id, index⟩, split⟩ : ∃ before last, c.ids.zipIdx = before ++ [last] :=
    ⟨_, _, (List.dropLast_concat_getLast indexed).symm⟩
  have toggled (label : String) (checked : Bool) :
      (toggle pace id label checked).getLast? = some (.checkpoint (upLabel label)) := by
    cases checked <;> rfl
  refine ⟨upLabel s!"{c.name}-node{index}", ?_⟩
  unfold toggleAll
  rw [split, List.flatMap_append, List.flatMap_singleton, List.getLast?_append, toggled]
  rfl

/-- The last step is a checkpoint. -/
theorem build_getLast? (t : Topology) (pace : Pace) :
    ∃ label, (build t pace).getLast? = some (.checkpoint label) := by
  obtain ⟨label, last⟩ := toggleAll_getLast? pace t.second_nonempty
  refine ⟨label, ?_⟩
  simp [build, Topology.subClusters, last]

end Script

/-- Scripts wait as the settings say. -/
theorem Settings.pace_ok {s : Settings} {pace : Script.Pace} (paced : s.pace = .ok pace) :
    s.seconds s.outage = .ok pace.outage ∧
      s.seconds (s.restart.getD s.stability) = .ok pace.restart ∧ pace.strict = s.strict := by
  unfold Settings.pace Settings.restartSeconds at paced
  cases outage : s.seconds s.outage with
  | error fault =>
    rw [outage] at paced
    cases paced
  | ok seconds =>
    rw [outage] at paced
    cases restart : s.seconds (s.restart.getD s.stability) with
    | error fault =>
      rw [restart] at paced
      cases paced
    | ok seconds' =>
      rw [restart] at paced
      cases paced
      exact ⟨rfl, rfl, rfl⟩

/-- How long scripts wait is unknown only where one of their waits has no length. -/
theorem Settings.pace_error {s : Settings} {fault : Fault} (unpaced : s.pace = .error fault) :
    s.seconds s.outage = .error fault ∨ s.seconds (s.restart.getD s.stability) = .error fault := by
  unfold Settings.pace Settings.restartSeconds at unpaced
  cases outage : s.seconds s.outage with
  | error fault' =>
    rw [outage] at unpaced
    cases unpaced
    exact .inl rfl
  | ok seconds =>
    rw [outage] at unpaced
    cases restart : s.seconds (s.restart.getD s.stability) with
    | error fault' =>
      rw [restart] at unpaced
      cases unpaced
      exact .inr rfl
    | ok seconds' =>
      rw [restart] at unpaced
      cases unpaced

/-- The script of a plan is built for its topology and was checked. -/
theorem Run.Plan.script_ok {plan : Run.Plan} {steps : List Step} (ok : plan.script = .ok steps) :
    ∃ pace, plan.settings.pace = .ok pace ∧ steps = Script.build plan.source pace ∧
      Script.check plan.source steps = .ok () := by
  unfold Run.Plan.script Settings.script at ok
  cases paced : plan.settings.pace with
  | error fault =>
    rw [paced] at ok
    cases ok
  | ok pace =>
    rw [paced] at ok
    cases checked : Script.check plan.source (Script.build plan.source pace) with
    | error flaw =>
      simp only [bind, Except.bind, pure, Except.pure, checked] at ok
      cases ok
    | ok _ =>
      simp only [bind, Except.bind, pure, Except.pure, checked] at ok
      cases ok
      exact ⟨pace, rfl, rfl, checked⟩

end Drill
