import Drill.Proofs.Legal

/-!
# What an accepted script keeps up

The check asks of every stop that another member of the sub-cluster runs, so a sub-cluster with a
running member always keeps one. It asks nothing of the topology before the first step: a
sub-cluster all of whose nodes are down at first is unavailable until the script starts one of them,
and other nodes may be stopped meanwhile.

Main statements: `hasUp_carry`, what a step makes of a sub-cluster that runs or does not,
`hasUp_led`, what all steps make of it, and `availability_kept`, an accepted script that finds every
sub-cluster available leaves it so at every moment. It need not find it so (`darkened_accepted`).
-/

namespace Drill

namespace Topology

/-- A sub-cluster has a running member. -/
def HasUp (t : Topology) (name : String) : Prop :=
  ∃ n ∈ t.nodes, n.subCluster = name ∧ n.state = .running

variable {t : Topology} {c : SubCluster}

theorem hasUp_iff (row : c ∈ t.subClusters) : t.HasUp c.name ↔ c.isReachable = true := by
  unfold SubCluster.isReachable
  rw [List.any_eq_true]
  constructor
  · rintro ⟨n, mem, same, running⟩
    obtain ⟨c', row', m, member, rfl⟩ := mem_nodes.mp mem
    cases eq_of_name row' row same
    exact ⟨m, member, by simpa using running⟩
  · rintro ⟨m, member, running⟩
    exact ⟨_, mem_nodes.mpr ⟨c, row, m, member, rfl⟩, rfl, by simpa using running⟩

/-- Something is true of the id of a node of a sub-cluster exactly if it is true of one of the ids
listed there. -/
theorem exists_member_iff (row : c ∈ t.subClusters) (P : String → Prop) :
    (∃ n ∈ t.nodes, n.subCluster = c.name ∧ P n.id) ↔ ∃ id ∈ c.ids, P id := by
  constructor
  · rintro ⟨n, mem, same, holds⟩
    exact ⟨n.id, (subCluster_eq_iff mem row).mp same, holds⟩
  · rintro ⟨id, listed, holds⟩
    obtain ⟨m, member, rfl⟩ := List.mem_map.mp listed
    exact ⟨_, mem_nodes.mpr ⟨c, row, m, member, rfl⟩, rfl, holds⟩

/-- The names of the sub-clusters, in order. -/
def names (t : Topology) : List String := t.subClusters.map (·.name)

theorem isReachable_iff : t.isReachable = true ↔ ∀ name ∈ t.names, t.HasUp name := by
  unfold isReachable names
  rw [List.all_eq_true, List.forall_mem_map]
  constructor
  · intro up c row
    exact (hasUp_iff row).mpr (up c row)
  · intro up c row
    exact (hasUp_iff row).mp (up c row)

theorem names_led (t : Topology) (steps : List Step) : (Script.led t steps).names = t.names := by
  induction steps generalizing t with
  | nil => rfl
  | cons step rest ih =>
    have same : (step.carry t).names = t.names := by cases step <;> rfl
    exact (ih (step.carry t)).trans same

end Topology

namespace Script

variable {t : Topology} {step : Step} {steps before : List Step} {name : String}

/-- A step that fits leaves a sub-cluster a running member exactly if there was one, or if it starts
one. -/
theorem hasUp_carry (fits : step.Fits t) : (step.carry t).HasUp name ↔
    t.HasUp name ∨ ∃ n ∈ t.nodes, n.subCluster = name ∧ step = .start n.id := by
  have mapped : (step.carry t).HasUp name ↔
      ∃ n ∈ t.nodes, n.subCluster = name ∧ (n.after [step]).state = .running := by
    show (∃ n ∈ (led t [step]).nodes, n.subCluster = name ∧ n.state = .running) ↔ _
    exact Topology.exists_node_led
  rw [mapped]
  constructor
  · rintro ⟨n, mem, same, running⟩
    rw [Node.state_after_singleton] at running
    cases asks : step.requestTo? n.id with
    | none =>
      rw [asks] at running
      exact .inl ⟨n, mem, same, running⟩
    | some request =>
      rcases Step.requestTo?_eq_some.mp asks with ⟨rfl, rfl⟩ | ⟨rfl, rfl⟩
      · rw [asks] at running
        cases running
      · exact .inr ⟨n, mem, same, rfl⟩
  · rintro (⟨n, mem, rfl, running⟩ | ⟨n, mem, rfl, rfl⟩)
    · cases asks : step.requestTo? n.id with
      | none =>
        refine ⟨n, mem, rfl, ?_⟩
        rw [Node.state_after_singleton, asks]
        exact running
      | some request =>
        rcases Step.requestTo?_eq_some.mp asks with ⟨rfl, rfl⟩ | ⟨rfl, rfl⟩
        · -- The node itself is stopped, and the member that backs it is not.
          obtain ⟨n', mem', same, _, other, known, beside, apart, on⟩ := fits
          refine ⟨other, known, ?_, ?_⟩
          · rw [beside, Topology.eq_of_id mem' mem same]
          · rw [Node.state_after_singleton]
            simpa [Step.requestTo?, apart] using on
        · refine ⟨n, mem, rfl, ?_⟩
          rw [Node.state_after_singleton, asks]
          rfl
    · refine ⟨n, mem, rfl, ?_⟩
      rw [Node.state_after_singleton]
      simp [Step.requestTo?, Operation.leaves]

/-- Steps that may be taken leave a sub-cluster a running member exactly if there was one, or if
they start one. -/
theorem hasUp_led (playable : Playable t steps) : (led t steps).HasUp name ↔
    t.HasUp name ∨ ∃ n ∈ t.nodes, n.subCluster = name ∧ .start n.id ∈ steps := by
  induction steps using List.reverseRecOn with
  | nil => simp [led]
  | append_singleton steps step ih =>
    obtain ⟨earlier, fits⟩ := playable_append_singleton.mp playable
    have on : led t (steps ++ [step]) = step.carry (led t steps) := List.foldl_concat ..
    have members : (∃ n ∈ (led t steps).nodes, n.subCluster = name ∧ step = .start n.id) ↔
        ∃ n ∈ t.nodes, n.subCluster = name ∧ step = .start n.id :=
      Topology.exists_node_led
    rw [on, hasUp_carry fits, ih earlier, members, or_assoc, ← exists_or]
    refine or_congr_right (exists_congr fun n => ?_)
    rw [← and_or_left, ← and_or_left, List.mem_append, List.mem_singleton]
    exact and_congr_right fun _ => and_congr_right fun _ => or_congr_right eq_comm

theorem isReachable_led (playable : Playable t steps) : (led t steps).isReachable = true ↔
    ∀ c ∈ t.subClusters, c.isReachable = true ∨ ∃ id ∈ c.ids, .start id ∈ steps := by
  rw [Topology.isReachable_iff, Topology.names_led, Topology.names, List.forall_mem_map]
  refine forall₂_congr fun c row => ?_
  rw [hasUp_led playable, Topology.hasUp_iff row]
  exact or_congr_right (Topology.exists_member_iff row fun id => .start id ∈ steps)

/-- An accepted script finds every sub-cluster available at every moment exactly if it finds them so
at first. At any moment those are available that were so at first or of which a member was started
meanwhile, and in the end all are. -/
theorem availability_kept (accepted : check t steps = .ok ()) :
    (t.isReachable = true ↔
      ∀ before, before <+: steps → ∃ t', replayFrom 0 t before = .ok t' ∧ t'.isReachable = true) ∧
    (∀ before, before <+: steps → ∃ t', replayFrom 0 t before = .ok t' ∧
      (t'.isReachable = true ↔
        ∀ c ∈ t.subClusters, c.isReachable = true ∨ ∃ id ∈ c.ids, .start id ∈ before)) ∧
    ∃ t', replayFrom 0 t steps = .ok t' ∧ t'.isReachable = true := by
  obtain ⟨last, taken, up⟩ := check_eq_ok_iff.mp accepted
  obtain ⟨playable, rfl⟩ := replayFrom_eq_ok_iff.mp taken
  have moments (before : List Step) (reached : before <+: steps) :
      ∃ t', replayFrom 0 t before = .ok t' ∧ (t'.isReachable = true ↔
        ∀ c ∈ t.subClusters, c.isReachable = true ∨ ∃ id ∈ c.ids, .start id ∈ before) := by
    obtain ⟨later, rfl⟩ := reached
    exact ⟨led t before, replayFrom_eq_ok_iff.mpr ⟨playable.left, rfl⟩,
      isReachable_led playable.left⟩
  refine ⟨⟨?_, ?_⟩, moments, led t steps, taken, Topology.isReachable_of_up up⟩
  · intro reachable before reached
    obtain ⟨t', comes, available⟩ := moments before reached
    rw [Topology.isReachable, List.all_eq_true] at reachable
    exact ⟨t', comes, available.mpr fun c row => .inl (reachable c row)⟩
  · intro always
    obtain ⟨t', comes, reachable⟩ := always [] List.nil_prefix
    cases comes
    exact reachable

/-- Nodes of which one sub-cluster's are all down. -/
def darkened : Topology := (Topology.twoByTwo.mark "node-1" .stopped).mark "node-2" .stopped

/-- A node of the other sub-cluster is taken down and up again before the nodes that are down are
started. -/
def detour : List Step := [.stop "node-3", .start "node-3", .start "node-1", .start "node-2"]

/-- Everything is available from the third step on. -/
theorem detour_available : check darkened detour = .ok () ∧ detour.take 3 <+: detour ∧
    ∃ t', replayFrom 0 darkened (detour.take 3) = .ok t' ∧ t'.isReachable = true := by
  have accepted : check darkened detour = .ok () := by decide
  have reached : detour.take 3 <+: detour := by decide
  obtain ⟨t', comes, available⟩ := (availability_kept accepted).2.1 (detour.take 3) reached
  exact ⟨accepted, reached, t', comes, available.mpr (by decide)⟩

/-- Nobody objects to a script that comes upon a sub-cluster without a running member, and stops a
node of the other one while it is so. -/
theorem darkened_accepted : check darkened detour = .ok () ∧ darkened.isReachable = false ∧
    detour.take 1 <+: detour ∧
    ∃ t', replayFrom 0 darkened (detour.take 1) = .ok t' ∧ t'.isReachable = false := by
  have accepted : check darkened detour = .ok () := by decide
  have unavailable : darkened.isReachable = false := by decide
  have reached : detour.take 1 <+: detour := by decide
  exact ⟨accepted, unavailable, reached, darkened.mark "node-3" .stopped, by decide, by decide⟩

end Script

end Drill
