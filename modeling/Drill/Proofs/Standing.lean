import Drill.Proofs.Nodes

/-!
# Where the nodes stand during a script

A node stands as the last request to it left it (`NodeState.after`), and as it stood before the
script if there was none. `Script.led` is the topology to which steps lead if nobody objects to
them, and `Step.Fits` says of a step that nobody does: a node that is stopped runs, and so does
another member of its sub-cluster, a node that is started does not run, and a wait is not negative.

Main statements: `nodes_led`, the topology that steps lead to has every node where it stands after
the requests to it, and `replay_cases`, a replay takes a step that fits and names the position of
one that does not.
-/

namespace Drill

/-- The state in which a request leaves a node. -/
def Operation.leaves : Operation → NodeState
  | stop => .stopped
  | start => .running

/-- The request that a node in a state can take. -/
def NodeState.turn : NodeState → Operation
  | running => .stop
  | stopped => .start

/-- The state of a node after some requests: the last one counts. -/
def NodeState.after (state : NodeState) (requests : List Operation) : NodeState :=
  (requests.getLast?.map Operation.leaves).getD state

theorem NodeState.after_append (state : NodeState) (first second : List Operation) :
    state.after (first ++ second) = (state.after first).after second := by
  unfold after
  rw [List.getLast?_append]
  cases second.getLast? <;> rfl

/-- The request that a step makes to a node. -/
def Step.requestTo? (id : String) : Step → Option Operation
  | stop other => if id = other then some .stop else none
  | start other => if id = other then some .start else none
  | wait _ _ | checkpoint _ => none

/-- The requests of a script to a node, in order. -/
def Script.requestsTo (id : String) (steps : List Step) : List Operation :=
  steps.filterMap (Step.requestTo? id)

/-- The node after some steps. -/
def Node.after (steps : List Step) (n : Node) : Node :=
  { n with state := n.state.after (Script.requestsTo n.id steps) }

theorem Node.after_append (first second : List Step) (n : Node) :
    n.after (first ++ second) = (n.after first).after second := by
  simp [after, Script.requestsTo, List.filterMap_append, NodeState.after_append]

/-- A step leaves a node as the request to it does, if it makes one. -/
theorem Node.state_after_singleton (step : Step) (n : Node) :
    (n.after [step]).state = ((step.requestTo? n.id).map Operation.leaves).getD n.state := by
  unfold after Script.requestsTo NodeState.after
  cases asks : step.requestTo? n.id <;> simp [asks]

/-- The topology after a step that nobody objects to. -/
def Step.carry (t : Topology) : Step → Topology
  | stop id => t.mark id .stopped
  | start id => t.mark id .running
  | wait _ _ | checkpoint _ => t

/-- The topology after some steps that nobody objects to. -/
def Script.led (t : Topology) (steps : List Step) : Topology := steps.foldl Step.carry t

/-- A step may be taken. -/
def Step.Fits (t : Topology) : Step → Prop
  | stop id => ∃ n ∈ t.nodes, n.id = id ∧ n.state = .running ∧
      ∃ other ∈ t.nodes, other.subCluster = n.subCluster ∧ other.id ≠ id ∧ other.state = .running
  | start id => ∃ n ∈ t.nodes, n.id = id ∧ n.state = .stopped
  | wait _ seconds => seconds.isBelowZero = false
  | checkpoint _ => True

namespace Topology

variable {t : Topology} {n n' : Node} {c c' : SubCluster} {id : String}

/-- An id belongs to one node. -/
theorem eq_of_id (mem : n ∈ t.nodes) (mem' : n' ∈ t.nodes) (same : n.id = n'.id) : n = n' := by
  have found := node?_eq_some.mpr ⟨mem, same⟩
  rw [node?_eq_some.mpr ⟨mem', rfl⟩] at found
  exact (Option.some.inj found).symm

/-- What is true of a node with some id is true of the node with this id. -/
theorem exists_of_id {P : Node → Prop} (mem : n ∈ t.nodes) :
    (∃ n' ∈ t.nodes, n'.id = n.id ∧ P n') ↔ P n := by
  constructor
  · rintro ⟨n', mem', same, holds⟩
    rw [← eq_of_id mem' mem same]
    exact holds
  · intro holds
    exact ⟨n, mem, rfl, holds⟩

/-- A name belongs to one sub-cluster. -/
theorem eq_of_name (mem : c ∈ t.subClusters) (mem' : c' ∈ t.subClusters) (same : c.name = c'.name) :
    c = c' := by
  have differ := t.names_ne
  simp only [subClusters, List.mem_cons, List.not_mem_nil, or_false] at mem mem'
  rcases mem with rfl | rfl <;> rcases mem' with rfl | rfl
  · rfl
  · exact absurd same differ
  · exact absurd same.symm differ
  · rfl

/-- A node belongs to one sub-cluster, and this is its home. -/
theorem homeOf?_eq_some : t.homeOf? id = some c ↔ c ∈ t.subClusters ∧ id ∈ c.ids := by
  constructor
  · intro found
    exact ⟨List.mem_of_find?_eq_some found, by simpa using List.find?_some found⟩
  · rintro ⟨mem, member⟩
    have apart := (List.nodup_append.mp t.nodup).2.2
    simp only [subClusters, List.mem_cons, List.not_mem_nil, or_false] at mem
    unfold homeOf? subClusters
    rcases mem with rfl | rfl
    · rw [List.find?_cons_of_pos (by simpa using member)]
    · have elsewhere : id ∉ t.first.ids := fun other => apart id other id member rfl
      rw [List.find?_cons_of_neg (by simpa using elsewhere),
        List.find?_cons_of_pos (by simpa using member)]

/-- A sub-cluster lists nobody twice. -/
theorem nodup_ids (mem : c ∈ t.subClusters) : c.ids.Nodup := by
  have nodup := List.nodup_append.mp t.nodup
  simp only [subClusters, List.mem_cons, List.not_mem_nil, or_false] at mem
  rcases mem with rfl | rfl
  · exact nodup.1
  · exact nodup.2.1

/-- The label of a node tells its sub-cluster and its place there. -/
theorem label_eq_ok_iff {label : String} :
    t.label id = .ok label ↔ ∃ c ∈ t.subClusters, id ∈ c.ids ∧
    label = s!"{c.name}-node{c.ids.idxOf id}" := by
  unfold Topology.label label?
  constructor
  · intro labelled
    cases home : t.homeOf? id with
    | none =>
      rw [home] at labelled
      cases labelled
    | some c =>
      rw [home] at labelled
      obtain ⟨row, member⟩ := homeOf?_eq_some.mp home
      exact ⟨c, row, member, (Except.ok.inj labelled).symm⟩
  · rintro ⟨c, row, member, rfl⟩
    rw [homeOf?_eq_some.mpr ⟨row, member⟩]
    rfl

/-- A node is of a sub-cluster exactly if it is one of its members. -/
theorem subCluster_eq_iff (mem : n ∈ t.nodes) (row : c ∈ t.subClusters) :
    n.subCluster = c.name ↔ n.id ∈ c.ids := by
  obtain ⟨c', row', m, member, rfl⟩ := mem_nodes.mp mem
  have own : m.id ∈ c'.ids := List.mem_map_of_mem member
  constructor
  · intro same
    rw [← eq_of_name row' row same]
    exact own
  · intro listed
    have home := homeOf?_eq_some.mpr ⟨row, listed⟩
    rw [homeOf?_eq_some.mpr ⟨row', own⟩] at home
    exact congrArg SubCluster.name (Option.some.inj home)

/-- An id is known exactly if it belongs to a node. -/
theorem mem_ids : id ∈ t.ids ↔ ∃ n ∈ t.nodes, n.id = id := by
  rw [← ids_nodes, List.mem_map]

/-- A step changes the state of the node that it makes a request to. -/
theorem nodes_carry (t : Topology) (step : Step) :
    (step.carry t).nodes = t.nodes.map (Node.after [step]) := by
  have marked (id : String) (request : Operation)
      (asks : ∀ other, step.requestTo? other = if other = id then some request else none) :
      (t.mark id request.leaves).nodes = t.nodes.map (Node.after [step]) := by
    rw [nodes_mark]
    refine List.map_congr_left fun n _ => ?_
    by_cases named : n.id = id <;>
      simp [Node.after, Script.requestsTo, asks, named, NodeState.after]
  cases step with
  | stop id => exact marked id .stop fun _ => rfl
  | start id => exact marked id .start fun _ => rfl
  | wait kind seconds => exact (List.map_id t.nodes).symm
  | checkpoint label => exact (List.map_id t.nodes).symm

/-- Steps leave every node where it stands after the requests to it. -/
theorem nodes_led (t : Topology) (steps : List Step) :
    (Script.led t steps).nodes = t.nodes.map (Node.after steps) := by
  induction steps generalizing t with
  | nil => exact (List.map_id t.nodes).symm
  | cons step rest ih =>
    show (Script.led (step.carry t) rest).nodes = _
    rw [ih, nodes_carry, List.map_map]
    refine List.map_congr_left fun n _ => ?_
    exact (Node.after_append [step] rest n).symm

/-- The nodes that steps lead to are those of before, after the requests to them. -/
theorem exists_node_led {steps : List Step} {P : Node → Prop} :
    (∃ n ∈ (Script.led t steps).nodes, P n) ↔ ∃ n ∈ t.nodes, P (n.after steps) := by
  rw [nodes_led]
  constructor
  · rintro ⟨_, listed, holds⟩
    obtain ⟨n, mem, rfl⟩ := List.mem_map.mp listed
    exact ⟨n, mem, holds⟩
  · rintro ⟨n, mem, holds⟩
    exact ⟨n.after steps, List.mem_map_of_mem mem, holds⟩

/-- The stopped nodes, by their ids. -/
theorem stopped_eq (t : Topology) :
    t.stopped = (t.nodes.filter (·.state = .stopped)).map (·.id) := by
  simp [stopped, nodes, subClusters, SubCluster.inState, List.filter_map, Function.comp_def]

end Topology

namespace Script

/-- The position that a flaw names. -/
def Flaw.position? : Flaw → Option Nat
  | unknownNode position _ | alreadyStopped position _ | alreadyRunning position _
  | lastRunning position _ _ | negativeWait position _ => some position
  | leftStopped _ => none

variable {t t' : Topology} {position : Nat} {step : Step} {flaw : Flaw}

/-- The sentence for a flaw begins with the position that it names. -/
theorem Flaw.text_of_position (named : flaw.position? = some position) :
    ∃ what : String, flaw.text = s!"Step {position}: {what}" := by
  -- Where a word follows the colon at once, it is cut off first.
  have cut (word rest : String) (whole : String) (same : whole = ": " ++ word) :
      "Step " ++ toString position ++ whole ++ rest = s!"Step {position}: {word ++ rest}" := by
    show _ = "Step " ++ toString position ++ ": " ++ (word ++ rest)
    rw [same]
    simp only [String.append_assoc]
  cases flaw with
  | unknownNode _ id =>
    cases named
    exact ⟨_, cut "unknown node " id ": unknown node " (by decide)⟩
  | alreadyStopped _ id =>
    cases named
    refine ⟨id ++ " is already stopped", ?_⟩
    show "Step " ++ toString position ++ ": " ++ id ++ " is already stopped"
      = "Step " ++ toString position ++ ": " ++ (id ++ " is already stopped")
    rw [String.append_assoc]
  | alreadyRunning _ id =>
    cases named
    refine ⟨id ++ " is already running", ?_⟩
    show "Step " ++ toString position ++ ": " ++ id ++ " is already running"
      = "Step " ++ toString position ++ ": " ++ (id ++ " is already running")
    rw [String.append_assoc]
  | lastRunning _ id name =>
    cases named
    refine ⟨_, Eq.trans ?_ (cut "stopping " (id ++ " leaves " ++ name ++ " with no running member")
      ": stopping " (by decide))⟩
    show "Step " ++ toString position ++ ": stopping " ++ id ++ " leaves " ++ name ++
      " with no running member" = _
    simp only [String.append_assoc]
  | negativeWait _ kind =>
    cases named
    refine ⟨_, Eq.trans ?_ (cut "negative " (kind.name ++ " wait") ": negative " (by decide))⟩
    show "Step " ++ toString position ++ ": negative " ++ kind.name ++ " wait" = _
    simp only [String.append_assoc]
  | leftStopped ids => cases named

/-- Another member runs exactly if one of the nodes of the sub-cluster is another one and runs. -/
theorem hasRunningSibling_iff {n : Node} (mem : n ∈ t.nodes) : hasRunningSibling t n.id = true ↔
    ∃ other ∈ t.nodes, other.subCluster = n.subCluster ∧ other.id ≠ n.id ∧
      other.state = .running := by
  obtain ⟨c, row, m, member, rfl⟩ := Topology.mem_nodes.mp mem
  have home : t.homeOf? m.id = some c :=
    Topology.homeOf?_eq_some.mpr ⟨row, List.mem_map_of_mem member⟩
  unfold hasRunningSibling Topology.siblings?
  rw [home, List.any_eq_true]
  simp only [Option.map_some, Option.getD_some, List.mem_filter, decide_eq_true_eq,
    Option.any_eq_true]
  constructor
  · rintro ⟨id, ⟨listed, apart⟩, other, found, running⟩
    obtain ⟨known, rfl⟩ := Topology.node?_eq_some.mp found
    exact ⟨other, known, (Topology.subCluster_eq_iff known row).mpr listed, apart, running⟩
  · rintro ⟨other, known, same, apart, running⟩
    exact ⟨other.id, ⟨(Topology.subCluster_eq_iff known row).mp same, apart⟩, other,
      Topology.node?_eq_some.mpr ⟨known, rfl⟩, running⟩

/-- A step that fits is taken, and one that does not is refused at its position. -/
theorem replay_cases (position : Nat) (t : Topology) (step : Step) :
    step.Fits t ∧ replay position t step = .ok (step.carry t) ∨
      ¬step.Fits t ∧ ∃ flaw : Flaw, replay position t step = .error flaw ∧
      flaw.position? = some position := by
  -- An unknown id fits nowhere, whatever is asked of its node.
  have unknown {id : String} (found : t.node? id = none) {P : Node → Prop} :
      ¬∃ n ∈ t.nodes, n.id = id ∧ P n := by
    rintro ⟨n, mem, named, _⟩
    rw [Topology.node?_eq_some.mpr ⟨mem, named⟩] at found
    cases found
  cases step with
  | stop id =>
    cases found : t.node? id with
    | none => exact .inr ⟨unknown found, .unknownNode position id, by simp [replay, found], rfl⟩
    | some n =>
      obtain ⟨mem, rfl⟩ := Topology.node?_eq_some.mp found
      -- A node is known by its id, so what is asked of some node of the id is asked of this one.
      have fits : (Step.stop n.id).Fits t ↔
        n.state = .running ∧ hasRunningSibling t n.id = true := by
        rw [hasRunningSibling_iff mem]
        exact Topology.exists_of_id mem
      rw [fits]
      cases state : n.state with
      | stopped =>
        refine .inr ⟨fun may => ?_, .alreadyStopped position n.id, by
          simp [replay, found, state], rfl⟩
        exact NodeState.noConfusion may.1
      | running =>
        by_cases sibling : hasRunningSibling t n.id = true
        · exact .inl ⟨⟨rfl, sibling⟩, by simp [replay, found, state, sibling, Step.carry]⟩
        · exact .inr ⟨fun may => sibling may.2, .lastRunning position n.id n.subCluster,
            by simp [replay, found, state, sibling], rfl⟩
  | start id =>
    cases found : t.node? id with
    | none => exact .inr ⟨unknown found, .unknownNode position id, by simp [replay, found], rfl⟩
    | some n =>
      obtain ⟨mem, rfl⟩ := Topology.node?_eq_some.mp found
      have fits : (Step.start n.id).Fits t ↔ n.state = .stopped := Topology.exists_of_id mem
      rw [fits]
      cases state : n.state with
      | stopped => exact .inl ⟨rfl, by simp [replay, found, state, Step.carry]⟩
      | running =>
        exact .inr ⟨NodeState.noConfusion, .alreadyRunning position n.id, by
          simp [replay, found, state], rfl⟩
  | wait kind seconds =>
    cases below : seconds.isBelowZero with
    | false => exact .inl ⟨below, by simp [replay, below, Step.carry]⟩
    | true =>
      refine .inr ⟨fun forward => ?_, .negativeWait position kind, by simp [replay, below], rfl⟩
      exact absurd (below.symm.trans forward) Bool.noConfusion
  | checkpoint label => exact .inl ⟨trivial, rfl⟩

end Script

end Drill
