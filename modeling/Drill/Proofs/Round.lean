import Drill.Proofs.Legal
import Drill.Proofs.Outcome
import Drill.Proofs.Replay

/-!
# The round of a built script

A built script goes the round of the nodes: it takes them down and up again one after the other, and
checks before it takes the next one down. Whoever follows it meets one node that is down at most,
and the topology of the beginning in the end. Only a node that is stuck breaks the round off: one
that is down already, or that no other member of its sub-cluster could stand in for.

Main statements: `replay_reached`, what a part of the round leads to, `checkpoint_follows`, a wait
is followed by a checkpoint before anything is stopped, and `round_or_stuck`, a built script passes
the check and goes the round, or the check names the stop of the first node that is stuck.
-/

namespace Drill.Script

/-- A node that cannot be stopped: it is stopped already, or no other member of its sub-cluster
runs. -/
def Stuck (t : Topology) (n : Node) : Prop :=
  n.state = .stopped ∨
    ¬∃ other ∈ t.nodes, other.subCluster = n.subCluster ∧ other.id ≠ n.id ∧ other.state = .running

/-- Steps that take every node of a topology down and up again. -/
structure Round (t : Topology) (steps : List Step) : Prop where
  /-- Each node is stopped and started once, in order, before the next one is stopped. -/
  requests : steps.filterMap Step.request? = t.ids.flatMap fun id => [(.stop, id), (.start, id)]
  single : ∀ before, before <+: steps → ∃ t', replayFrom 0 t before = .ok t' ∧ t'.stopped.length ≤ 1
  /-- After a wait nothing is stopped before the next checkpoint. -/
  checked : ∀ before kind seconds after, steps = before ++ .wait kind seconds :: after →
    ∃ middle label rest, after = middle ++ .checkpoint label :: rest ∧ ∀ id, .stop id ∉ middle
  restored : replayFrom 0 t steps = .ok t

variable {t : Topology} {pace : Pace} {vs : List Visit} {before after : List Step}

/-- The beginning of two rows lies within the first one, or goes on in the second one. -/
theorem prefix_append_cases {first second : List Step} (reached : before <+: first ++ second) :
    before <+: first ∨ ∃ later, before = first ++ later ∧ later <+: second := by
  rcases List.prefix_or_prefix_of_prefix reached (List.prefix_append first second) with
    within | ⟨later, rfl⟩
  · exact .inl within
  · exact .inr ⟨later, rfl, (List.prefix_append_right_inj first).mp reached⟩

theorem replayFrom_idle {steps : List Step} (idle : ∀ step ∈ steps, step.isIdle = true)
    (position : Nat) :
    replayFrom position t steps = .ok t := by
  have none : (steps.filter fun step => !step.isIdle) = [] := by
    rw [List.filter_eq_nil_iff]
    intro step mem
    simp [idle step mem]
  rw [replayFrom_filter position, none]
  rfl

/-- A visit is a stop and a start, each with idle steps after it. -/
theorem Visit.steps_eq (forward : pace.Forward) (v : Visit) : ∃ down up,
    v.steps pace = .stop v.id :: (down ++ .start v.id :: up) ∧
      (∀ step ∈ down, step.isIdle = true) ∧ ∀ step ∈ up, step.isIdle = true := by
  have outage : (Step.wait .outage pace.outage).isIdle = true := by
    simp [Step.isIdle, forward.outage]
  have restart : (Step.wait .convergence pace.restart).isIdle = true := by
    simp [Step.isIdle, forward.restart]
  refine ⟨.wait .outage pace.outage ::
      (if pace.strict || v.first then [.checkpoint (downLabel v.label)] else []),
    [.wait .convergence pace.restart, .checkpoint (upLabel v.label)], rfl, ?_, ?_⟩
  · intro step mem
    rcases List.mem_cons.mp mem with rfl | mem
    · exact outage
    · split at mem
      next =>
        rw [List.mem_singleton.mp mem]
        rfl
      next => exact absurd mem List.not_mem_nil
  · intro step mem
    rcases List.mem_cons.mp mem with rfl | mem
    · exact restart
    · rw [List.mem_singleton.mp mem]
      rfl

/-- In the middle of a visit its node is down, or it is not yet or no longer. -/
theorem replay_visit_reached (forward : pace.Forward) {v : Visit} (clear : hitch? t v.id = none)
    (reached : before <+: v.steps pace) (position : Nat) :
    ∃ t', replayFrom position t before = .ok t' ∧ (t' = t ∨ t' = t.mark v.id .stopped) := by
  obtain ⟨down, up, steps, idle, idle'⟩ := v.steps_eq forward
  rw [steps] at reached
  rcases List.prefix_cons_iff.mp reached with rfl | ⟨taken, rfl, within⟩
  · exact ⟨t, rfl, .inl rfl⟩
  have stops : replay position t (.stop v.id) = .ok (t.mark v.id .stopped) := by
    rw [replay_stop, clear]
  simp only [replayFrom, stops]
  rcases prefix_append_cases within with waiting | ⟨later, rfl, further⟩
  · refine ⟨t.mark v.id .stopped, replayFrom_idle ?_ _, .inr rfl⟩
    intro step mem
    exact idle step (waiting.subset mem)
  · rw [replayFrom_append, replayFrom_idle idle]
    rcases List.prefix_cons_iff.mp further with rfl | ⟨last, rfl, final⟩
    · exact ⟨t.mark v.id .stopped, rfl, .inr rfl⟩
    · simp only [replayFrom, replay_start clear]
      refine ⟨t, replayFrom_idle ?_ _, .inl rfl⟩
      intro step mem
      exact idle' step (final.subset mem)

/-- In the middle of visits one node is down at most. -/
theorem replay_reached (forward : pace.Forward) (clear : ∀ v ∈ vs, hitch? t v.id = none)
    (reached : before <+: vs.flatMap (Visit.steps pace)) (position : Nat) :
    ∃ t', replayFrom position t before = .ok t' ∧
      (t' = t ∨ ∃ v ∈ vs, t' = t.mark v.id .stopped) := by
  induction vs generalizing before position with
  | nil =>
    rw [List.flatMap_nil, List.prefix_nil] at reached
    rw [reached]
    exact ⟨t, rfl, .inl rfl⟩
  | cons v vs ih =>
    have clear' (u : Visit) (mem : u ∈ vs) : hitch? t u.id = none :=
      clear u (List.mem_cons_of_mem v mem)
    rw [List.flatMap_cons] at reached
    rcases prefix_append_cases reached with within | ⟨later, rfl, further⟩
    · obtain ⟨t', comes, state⟩ :=
        replay_visit_reached forward (clear v List.mem_cons_self) within position
      exact ⟨t', comes, state.imp_right fun same => ⟨v, List.mem_cons_self, same⟩⟩
    · rw [replayFrom_append, replay_visit forward (clear v List.mem_cons_self)]
      obtain ⟨t', comes, state⟩ := ih clear' further _
      exact ⟨t', comes, state.imp_right fun ⟨u, mem, same⟩ => ⟨u, List.mem_cons_of_mem v mem, same⟩⟩

/-- A visit begins with its stop and ends with a checkpoint. -/
theorem Visit.steps_ends (pace : Pace) (v : Visit) : ∃ middle,
    v.steps pace = .stop v.id :: (middle ++ [.checkpoint (upLabel v.label)]) ∧
    ∀ id, .stop id ∉ middle := by
  refine ⟨.wait .outage pace.outage ::
    ((if pace.strict || v.first then [.checkpoint (downLabel v.label)] else []) ++
      [.start v.id, .wait .convergence pace.restart]), ?_, ?_⟩
  · unfold Visit.steps toggle
    simp
  · intro id mem
    split at mem <;> simp at mem

/-- A wait is followed by a checkpoint before anything is stopped. -/
theorem checkpoint_follows {kind : WaitKind} {seconds : Number.Double}
    (split : vs.flatMap (Visit.steps pace) = before ++ .wait kind seconds :: after) :
    ∃ middle label rest, after = middle ++ .checkpoint label :: rest ∧ ∀ id, .stop id ∉ middle := by
  induction vs generalizing before with
  | nil => simp at split
  | cons v vs ih =>
    rw [List.flatMap_cons] at split
    rcases List.append_eq_append_iff.mp split with ⟨earlier, _, later⟩ | ⟨part, whole, rest⟩
    · exact ih later
    rcases List.append_eq_cons_iff.mp rest.symm with ⟨_, later⟩ | ⟨part', rfl, rfl⟩
    · have begins : vs.flatMap (Visit.steps pace) = [] ++ .wait kind seconds :: after := later
      exact ih begins
    -- The wait is one of this visit, so the checkpoint at its end is yet to come.
    obtain ⟨middle, steps, quiet⟩ := v.steps_ends pace
    rw [steps] at whole
    rcases List.cons_eq_append_iff.mp whole with ⟨_, first⟩ | ⟨taken, rfl, ends⟩
    · cases first
    rcases List.eq_nil_or_concat' part' with rfl | ⟨idle, last, rfl⟩
    · have last := (List.append_inj' ends rfl).2
      cases last
    · rw [← List.cons_append, ← List.append_assoc] at ends
      obtain ⟨same, final⟩ := List.append_inj' ends rfl
      cases final
      refine ⟨idle, upLabel v.label, vs.flatMap (Visit.steps pace), by simp, ?_⟩
      intro id mem
      apply quiet id
      rw [same]
      exact List.mem_append_right _ (List.mem_cons_of_mem _ mem)

/-- The script of a topology whose nodes may all be stopped goes the round. -/
theorem round_of_clear (forward : pace.Forward) (clear : ∀ v ∈ visits t, hitch? t v.id = none) :
    Round t (build t pace) where
  requests := requests_build t pace
  single before reached := by
    rw [build_eq_visits] at reached
    obtain ⟨t', comes, rfl | ⟨v, visited, rfl⟩⟩ := replay_reached forward clear reached 0
    · refine ⟨t', comes, ?_⟩
      rw [stopped_of_clear clear]
      exact Nat.zero_le 1
    · refine ⟨_, comes, ?_⟩
      rw [Topology.stopped_mark (stopped_of_clear clear) (visit_known visited)]
      exact Nat.le_refl 1
  checked before kind seconds after split := by
    rw [build_eq_visits] at split
    exact checkpoint_follows split
  restored := by
    rw [build_eq_visits]
    exact replay_visits forward clear 0

/-- A node may be stopped unless it is stuck. -/
theorem hitch?_eq_none_iff {n : Node} (mem : n ∈ t.nodes) : hitch? t n.id = none ↔ ¬Stuck t n := by
  have found : t.node? n.id = some n := Topology.node?_eq_some.mpr ⟨mem, rfl⟩
  unfold hitch? Stuck
  rw [found, ← hasRunningSibling_iff mem]
  by_cases stopped : n.state = .stopped
  · simp [stopped]
  · by_cases backed : hasRunningSibling t n.id = true <;> simp [stopped, backed]

/-- What the check says of a node that is stuck. -/
theorem hitch?_text {n : Node} (mem : n ∈ t.nodes) {flaw : Nat → Flaw}
    (hitch : hitch? t n.id = some flaw)
    (position : Nat) : (flaw position).text =
      if n.state = .stopped then s!"Step {position}: {n.id} is already stopped"
      else s!"Step {position}: stopping {n.id} leaves {n.subCluster} with no running member" := by
  have found : t.node? n.id = some n := Topology.node?_eq_some.mpr ⟨mem, rfl⟩
  unfold hitch? at hitch
  rw [found] at hitch
  by_cases stopped : n.state = .stopped
  · simp only [stopped, if_true] at hitch ⊢
    cases hitch
    rfl
  · simp only [stopped, if_false] at hitch ⊢
    split at hitch
    next => cases hitch
    next =>
      cases hitch
      rfl

/-- The visits and the nodes are in the same order. -/
theorem nodes_of_visits {earlier later : List Visit} {v : Visit}
    (split : visits t = earlier ++ v :: later) :
    ∃ before n after, t.nodes = before ++ n :: after ∧ n.id = v.id ∧
      ∀ m ∈ before, ∃ u ∈ earlier, u.id = m.id := by
  have ids : t.nodes.map (·.id) = earlier.map Visit.id ++ v.id :: later.map Visit.id := by
    rw [Topology.ids_nodes, ← ids_visits, split, List.map_append, List.map_cons]
  obtain ⟨before, rest, nodes, same, rest_ids⟩ := List.map_eq_append_iff.mp ids
  obtain ⟨n, after, rfl, named, _⟩ := List.map_eq_cons_iff.mp rest_ids
  refine ⟨before, n, after, nodes, named, ?_⟩
  intro m mem
  have known : m.id ∈ earlier.map Visit.id := by
    rw [← same]
    exact List.mem_map_of_mem mem
  exact List.mem_map.mp known

/-- A node is stopped at one position. -/
theorem stop_position {position i : Nat} {id : String}
    (stop : (build t pace)[position]? = some (.stop id))
    (again : (build t pace)[i]? = some (.stop id)) : i = position := by
  have once : ((build t pace).filterMap Step.stop?).Nodup := by
    rw [stops_build]
    exact t.nodup
  have apart := List.pairwise_filterMap.mp once
  rw [List.pairwise_iff_getElem] at apart
  obtain ⟨bound, here⟩ := List.getElem?_eq_some_iff.mp stop
  obtain ⟨bound', there⟩ := List.getElem?_eq_some_iff.mp again
  by_contra differ
  rcases Nat.lt_or_gt_of_ne differ with sooner | later
  · exact apart i position bound' bound sooner id (by rw [there]; rfl) id (by rw [here]; rfl) rfl
  · exact apart position i bound bound' later id (by rw [here]; rfl) id (by rw [there]; rfl) rfl

/-- Every sub-cluster has as many members as the first one. -/
theorem two_le_members_iff : (∀ c ∈ t.subClusters, 2 ≤ c.members.length) ↔
    2 ≤ t.first.ids.length := by
  have first : t.first.ids.length = t.first.members.length := List.length_map _
  have second : t.second.ids.length = t.second.members.length := List.length_map _
  have sizes := t.same_size
  constructor
  · intro two
    rw [first]
    exact two t.first List.mem_cons_self
  · intro two c mem
    unfold Topology.subClusters at mem
    rcases List.mem_cons.mp mem with rfl | mem
    · omega
    · cases List.mem_singleton.mp mem
      omega

/-- When the windows have lengths that are not negative, the check accepts a built script exactly if
all nodes run and every sub-cluster has two members at least, and the script then goes the round;
any other one breaks off at the stop of the first node that is down already or that no other member
could stand in for, and the error names the position of this stop. -/
theorem round_or_stuck (t : Topology) (s : Settings) {outage restart : Number.Double}
    (outage_eq : s.seconds s.outage = .ok outage) (restart_eq : s.restartSeconds = .ok restart)
    (outage_forward : outage.isBelowZero = false) (restart_forward : restart.isBelowZero = false) :
    ∃ steps, s.script t = .ok steps ∧
      (check t steps = .ok () ↔
        (∀ n ∈ t.nodes, n.state = .running) ∧ ∀ c ∈ t.subClusters, 2 ≤ c.members.length) ∧
      (check t steps = .ok () → Round t steps) ∧
      (check t steps ≠ .ok () → ∃ before n after position, t.nodes = before ++ n :: after ∧
        (∀ m ∈ before, ¬Stuck t m) ∧ Stuck t n ∧
        (∀ i : Nat, steps[i]? = some (.stop n.id) ↔ i = position) ∧
        (check t steps).mapError Flaw.fault = .error (.script (
          if n.state = .stopped then s!"Step {position}: {n.id} is already stopped"
          else
            s!"Step {position}: stopping {n.id} leaves {n.subCluster} with no running member"))) := by
  have built : s.script t = .ok (build t ⟨outage, restart, s.strict⟩) := by
    unfold Settings.script Settings.pace
    rw [outage_eq, restart_eq]
    rfl
  have forward : Pace.Forward ⟨outage, restart, s.strict⟩ := ⟨outage_forward, restart_forward⟩
  have accepts := check_build_iff (t := t) forward
  refine ⟨_, built, ?_, ?_, ?_⟩
  · rw [accepts, Topology.stopped_eq_nil_iff, two_le_members_iff]
  · intro accepted
    obtain ⟨up, two⟩ := accepts.mp accepted
    apply round_of_clear forward
    intro v mem
    exact clear_of_up up two (visit_known mem)
  · intro refused
    -- Of the visits, the first one with a hitch is where the check stops.
    rcases visits_cases t with clear | ⟨earlier, v, later, flaw, split, clear, hitch⟩
    · exact absurd (check_of_clear forward clear) refused
    obtain ⟨position, stop, finds⟩ := check_of_hitch forward split clear hitch
    obtain ⟨before, n, after, nodes, named, sooner⟩ := nodes_of_visits split
    have mem : n ∈ t.nodes := by
      rw [nodes]
      exact List.mem_append_right _ List.mem_cons_self
    rw [← named] at stop hitch
    refine ⟨before, n, after, position, nodes, ?_, ?_, ?_, ?_⟩
    · intro m earlier_mem
      obtain ⟨u, visited, same⟩ := sooner m earlier_mem
      have mem' : m ∈ t.nodes := by
        rw [nodes]
        exact List.mem_append_left _ earlier_mem
      rw [← hitch?_eq_none_iff mem', ← same]
      exact clear u visited
    · by_contra free
      rw [(hitch?_eq_none_iff mem).mpr free] at hitch
      cases hitch
    -- A node is visited once, so its stop has one place only.
    · intro i
      constructor
      · intro again
        exact stop_position stop again
      · rintro rfl
        exact stop
    · rw [finds, ← hitch?_text mem hitch]
      rfl

/-- The script of the brisk settings goes the round of four nodes that run; the round of `lopsided`,
whose third node is down, breaks off. -/
theorem brisk_round :
    (∃ steps, Run.Plan.brisk.settings.script Topology.twoByTwo = .ok steps ∧
      check Topology.twoByTwo steps = .ok () ∧ Round Topology.twoByTwo steps) ∧
    ∃ steps n, ∃ position : Nat, Run.Plan.brisk.settings.script lopsided = .ok steps ∧
      Stuck lopsided n ∧ steps[position]? = some (.stop n.id) ∧
      (check lopsided steps).mapError Flaw.fault = .error (.script (
        if n.state = .stopped then s!"Step {position}: {n.id} is already stopped"
        else
          s!"Step {position}: stopping {n.id} leaves {n.subCluster} with no running member")) := by
  obtain ⟨outage, _, outage_eq, outage_positive, _⟩ := Run.Plan.brisk_countable.outage
  obtain ⟨restart, _, restart_eq, restart_positive, _⟩ := Run.Plan.brisk_countable.restart
  have outage_forward := Number.Double.isBelowZero_of_isPositive outage_positive
  have restart_forward := Number.Double.isBelowZero_of_isPositive restart_positive
  obtain ⟨steps, built, accepts, rounds, _⟩ :=
    round_or_stuck Topology.twoByTwo Run.Plan.brisk.settings outage_eq restart_eq outage_forward
      restart_forward
  obtain ⟨steps', built', accepts', _, breaks⟩ :=
    round_or_stuck lopsided Run.Plan.brisk.settings outage_eq restart_eq outage_forward
      restart_forward
  refine ⟨⟨steps, built, ?_⟩, ?_⟩
  · have accepted := accepts.mpr (by decide)
    exact ⟨accepted, rounds accepted⟩
  · have refused : check lopsided steps' ≠ .ok () := by
      intro accepted
      have running := (accepts'.mp accepted).1 ⟨"node-3", "clusterB", .stopped⟩ (by decide)
      cases running
    obtain ⟨_, n, _, position, _, _, stuck, stop, error⟩ := breaks refused
    exact ⟨steps', n, position, built', stuck, (stop position).mpr rfl, error⟩

end Drill.Script
