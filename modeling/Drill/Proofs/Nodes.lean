import Drill.Script
import Drill.Topology.Shape
import Drill.Topology.Shelf
import Mathlib.Data.List.Nodup

/-!
# Nodes that are down

What `mark` does to a topology whose nodes all run. Main statements: `eq_of_shape`, a shape has one
such topology, `stopped_mark` and `mark_mark`, a stop leaves one node down and a start undoes it,
`isReachable_mark`, a sub-cluster with another member bears a stop, and `two_le_of_check`, the check
of a built script asks for such members.
-/

namespace Drill

namespace Member

variable (id : String) (state : NodeState) (m : Member)

@[simp] theorem id_mark : (m.mark id state).id = m.id := by
  unfold mark
  split <;> rfl

/-- A mark changes the state of its own node only. -/
theorem state_mark : (m.mark id state).state = if m.id = id then state else m.state := by
  unfold mark
  split <;> rfl

end Member

namespace SubCluster

variable {c : SubCluster} {id : String}

theorem inState_stopped_eq_nil : c.inState .stopped = [] ↔ ∀ m ∈ c.members, m.state = .running := by
  unfold inState
  rw [List.map_eq_nil_iff, List.filter_eq_nil_iff]
  constructor
  · intro none m mem
    have h := none m mem
    cases state : m.state with
    | running => rfl
    | stopped => simp [state] at h
  · intro up m mem
    simp [up m mem]

/-- A row without stopped nodes is its row of running nodes. -/
theorem eq_running (up : c.inState .stopped = []) : c = .running c.name c.ids := by
  have members : c.members = c.ids.map fun id => ⟨id, .running⟩ := by
    unfold SubCluster.ids
    rw [List.map_map]
    refine (List.map_id _).symm.trans (List.map_congr_left fun m mem => ?_)
    have state := inState_stopped_eq_nil.mp up m mem
    obtain ⟨id, _⟩ := m
    cases state
    rfl
  unfold running
  rw [← members]

/-- Of nodes that all run, a stop takes down the named one. -/
theorem inState_mark (up : c.inState .stopped = []) :
    (c.mark id .stopped).inState .stopped = c.ids.filter (· = id) := by
  have running := inState_stopped_eq_nil.mp up
  unfold inState mark ids
  rw [List.filter_map, List.map_map, List.filter_map]
  -- Among running nodes, to be stopped after the mark is to have been named by it.
  have same : c.members.filter ((fun m => decide (m.state = .stopped)) ∘ Member.mark id .stopped)
      = c.members.filter ((fun other => decide (other = id)) ∘ fun m => m.id) := by
    refine List.filter_congr fun m mem => ?_
    have state := running m mem
    by_cases h : m.id = id <;> simp [Member.state_mark, h, state]
  rw [same]
  exact List.map_congr_left fun m _ => Member.id_mark id .stopped m

/-- A start undoes the stop of a node that ran. -/
theorem mark_mark (running : ∀ m ∈ c.members, m.id = id → m.state = .running) :
    (c.mark id .stopped).mark id .running = c := by
  have members :
    (c.members.map (Member.mark id .stopped)).map (Member.mark id .running) = c.members := by
    rw [List.map_map]
    refine (List.map_congr_left fun m mem => ?_).trans (List.map_id _)
    have state := running m mem
    obtain ⟨other, _⟩ := m
    by_cases h : other = id
    · cases state h
      simp [Member.mark, h]
    · simp [Member.mark, h]
  unfold mark
  rw [members]

/-- Of two members at least, one is another one. -/
theorem exists_other (nodup : c.ids.Nodup) (two : 2 ≤ c.ids.length) :
    ∃ other ∈ c.ids, other ≠ id := by
  obtain ⟨a, b, rest, ids⟩ : ∃ a b rest, c.ids = a :: b :: rest := by
    match ids : c.ids with
    | a :: b :: rest => exact ⟨a, b, rest, rfl⟩
    | [] | [_] => simp [ids] at two
  rw [ids] at nodup ⊢
  have differ : a ≠ b := fun same => (List.nodup_cons.mp nodup).1 (by simp [same])
  by_cases same : a = id
  · exact ⟨b, by simp, fun h => differ (same.trans h.symm)⟩
  · exact ⟨a, by simp, same⟩

/-- With another running member, a sub-cluster bears a stop. -/
theorem isReachable_mark (up : c.inState .stopped = []) (nodup : c.ids.Nodup)
    (two : 2 ≤ c.ids.length) :
    (c.mark id .stopped).isReachable = true := by
  have running := inState_stopped_eq_nil.mp up
  obtain ⟨other, mem, ne⟩ : ∃ other ∈ c.ids, other ≠ id := exists_other nodup two
  obtain ⟨m, member, rfl⟩ := List.mem_map.mp mem
  unfold isReachable
  rw [List.any_eq_true]
  refine ⟨m.mark id .stopped, List.mem_map_of_mem member, ?_⟩
  rw [Member.state_mark, if_neg ne, running m member]
  rfl

/-- A sub-cluster with all members up can be reached. -/
theorem isReachable_of_up (up : c.inState .stopped = []) (members : c.ids ≠ []) :
    c.isReachable = true := by
  have running := inState_stopped_eq_nil.mp up
  obtain ⟨id, mem⟩ := List.exists_mem_of_ne_nil _ members
  obtain ⟨m, member, _⟩ := List.mem_map.mp mem
  unfold isReachable
  rw [List.any_eq_true]
  exact ⟨m, member, by rw [running m member]; rfl⟩

end SubCluster

namespace Topology

variable {t t' : Topology} {id : String}

theorem second_nonempty (t : Topology) : t.second.ids ≠ [] := by
  intro none
  have sizes := t.same_size
  rw [none] at sizes
  exact t.first_nonempty (List.length_eq_zero_iff.mp sizes)

theorem stopped_eq_nil : t.stopped = [] ↔
    t.first.inState .stopped = [] ∧ t.second.inState .stopped = [] := by
  simp [stopped, subClusters]

/-- A shape has one topology whose nodes all run. -/
theorem eq_of_shape (same : t.shape = t'.shape) (up : t.stopped = [])
    (up' : t'.stopped = []) : t = t' := by
  obtain ⟨first, second⟩ := stopped_eq_nil.mp up
  obtain ⟨first', second'⟩ := stopped_eq_nil.mp up'
  simp only [shape, subClusters, List.map_cons, List.map_nil, List.cons.injEq, Prod.mk.injEq,
    and_true] at same
  obtain ⟨⟨firstName, firstIds⟩, secondName, secondIds⟩ := same
  have firsts : t.first = t'.first := by
    rw [SubCluster.eq_running first, SubCluster.eq_running first', firstName, firstIds]
  have seconds : t.second = t'.second := by
    rw [SubCluster.eq_running second, SubCluster.eq_running second', secondName, secondIds]
  cases t
  cases t'
  cases firsts
  cases seconds
  rfl

/-- Of nodes that all run, a stop takes down the named one. -/
theorem stopped_mark (up : t.stopped = []) (known : id ∈ t.ids) :
    (t.mark id .stopped).stopped = [id] := by
  obtain ⟨first, second⟩ := stopped_eq_nil.mp up
  have once : t.ids.count id = 1 := t.nodup.count.trans (if_pos known)
  have picked : (t.mark id .stopped).stopped = t.ids.filter (· = id) := by
    simp only [stopped, subClusters, mark, List.flatMap_cons, List.flatMap_nil, List.append_nil,
      SubCluster.inState_mark first, SubCluster.inState_mark second]
    exact (List.filter_append _ _).symm
  rw [picked, List.filter_eq, once]
  rfl

/-- Every node of a topology has a home. -/
theorem exists_home (known : id ∈ t.ids) : ∃ c, t.homeOf? id = some c := by
  rw [← Option.isSome_iff_exists]
  unfold homeOf? subClusters
  rw [List.find?_isSome]
  rcases List.mem_append.mp known with h | h
  · exact ⟨t.first, List.mem_cons_self, by simpa using h⟩
  · exact ⟨t.second, List.mem_cons_of_mem _ List.mem_cons_self, by simpa using h⟩

/-- Every node of a topology has a label. -/
theorem exists_label (known : id ∈ t.ids) : ∃ label, t.label id = .ok label := by
  obtain ⟨c, found⟩ := exists_home known
  unfold label label?
  rw [found]
  exact ⟨_, rfl⟩

/-- The nodes are the members of the two sub-clusters. -/
theorem mem_nodes {n : Node} :
    n ∈ t.nodes ↔ ∃ c ∈ t.subClusters, ∃ m ∈ c.members, ⟨m.id, c.name, m.state⟩ = n := by
  simp [nodes, List.mem_flatMap]

/-- Nodes and ids are listed in the same order. -/
theorem ids_nodes (t : Topology) : t.nodes.map (·.id) = t.ids := by
  simp [nodes, subClusters, ids, SubCluster.ids, Function.comp_def]

/-- An id leads to the one node that has it. -/
theorem node?_eq_some {n : Node} : t.node? id = some n ↔ n ∈ t.nodes ∧ n.id = id := by
  constructor
  · intro found
    exact ⟨List.mem_of_find?_eq_some found, by simpa using List.find?_some found⟩
  · rintro ⟨mem, rfl⟩
    obtain ⟨other, found⟩ : ∃ other, t.node? n.id = some other := by
      rw [← Option.isSome_iff_exists]
      unfold node?
      rw [List.find?_isSome]
      exact ⟨n, mem, by simp⟩
    have same : other.id = n.id := by simpa using List.find?_some found
    have nodup : (t.nodes.map (·.id)).Nodup := by
      rw [ids_nodes]
      exact t.nodup
    rw [found, List.inj_on_of_nodup_map nodup (List.mem_of_find?_eq_some found) mem same]

/-- A start undoes the stop of a node that ran. -/
theorem mark_mark_of_running (running : ∀ n ∈ t.nodes, n.id = id → n.state = .running) :
    (t.mark id .stopped).mark id .running = t := by
  have members (c : SubCluster) (mem : c ∈ t.subClusters) :
      ∀ m ∈ c.members, m.id = id → m.state = .running :=
    fun m member named => running _ (mem_nodes.mpr ⟨c, mem, m, member, rfl⟩) named
  have first := SubCluster.mark_mark (members t.first List.mem_cons_self)
  have second := SubCluster.mark_mark (members t.second (List.mem_cons_of_mem _ List.mem_cons_self))
  cases t
  simp only [mark, first, second]

/-- Nobody is down exactly if every node runs. -/
theorem stopped_eq_nil_iff : t.stopped = [] ↔ ∀ n ∈ t.nodes, n.state = .running := by
  rw [stopped_eq_nil, SubCluster.inState_stopped_eq_nil, SubCluster.inState_stopped_eq_nil]
  constructor
  · rintro ⟨first, second⟩ n mem
    obtain ⟨c, row, m, member, rfl⟩ := mem_nodes.mp mem
    unfold subClusters at row
    rcases List.mem_cons.mp row with rfl | row
    · exact first m member
    · cases List.mem_singleton.mp row
      exact second m member
  · intro running
    exact ⟨fun m member => running _ (mem_nodes.mpr ⟨_, List.mem_cons_self, m, member, rfl⟩),
      fun m member =>
        running _ (mem_nodes.mpr ⟨_, List.mem_cons_of_mem _ List.mem_cons_self, m, member, rfl⟩)⟩

/-- A start undoes a stop. -/
theorem mark_mark (up : t.stopped = []) : (t.mark id .stopped).mark id .running = t :=
  mark_mark_of_running fun n mem _ => stopped_eq_nil_iff.mp up n mem

/-- If both are as large as they must be, the second sub-cluster has two members as well. -/
theorem two_le_second (two : 2 ≤ t.first.ids.length) : 2 ≤ t.second.ids.length := by
  rw [← t.same_size]
  exact two

/-- With another member in every sub-cluster, a topology bears a stop. -/
theorem isReachable_mark (up : t.stopped = []) (two : 2 ≤ t.first.ids.length) :
    (t.mark id .stopped).isReachable = true := by
  obtain ⟨first, second⟩ := stopped_eq_nil.mp up
  have nodup := List.nodup_append.mp t.nodup
  simp [isReachable, subClusters, mark, SubCluster.isReachable_mark first nodup.1 two,
    SubCluster.isReachable_mark second nodup.2.1 (two_le_second two)]

/-- So can a cluster all of whose nodes are up. -/
theorem isReachable_of_up (up : t.stopped = []) : t.isReachable = true := by
  obtain ⟨first, second⟩ := stopped_eq_nil.mp up
  simp [isReachable, subClusters, SubCluster.isReachable_of_up first t.first_nonempty,
    SubCluster.isReachable_of_up second t.second_nonempty]

end Topology

namespace Script

/-- A script that passes the check leaves every sub-cluster another member. -/
theorem two_le_of_check {t : Topology} {pace : Pace} (checked : check t (build t pace) = .ok ()) :
    2 ≤ t.first.ids.length := by
  -- The only member of a sub-cluster is the first node to be stopped, and it has no sibling.
  match ids : t.first.ids with
  | [] => exact absurd ids t.first_nonempty
  | _ :: _ :: _ => simp
  | [id] =>
    have begins : ∃ rest, build t pace = .stop id :: rest := by
      unfold build Topology.subClusters toggleAll
      rw [List.flatMap_cons, ids]
      exact ⟨_, rfl⟩
    obtain ⟨rest, begins⟩ := begins
    have lonely : hasRunningSibling t id = false := by
      have home : t.homeOf? id = some t.first := by
        unfold Topology.homeOf? Topology.subClusters
        rw [List.find?_cons_of_pos (by simp [ids])]
      unfold hasRunningSibling Topology.siblings?
      rw [home, Option.map_some, ids]
      simp
    have fails : ∃ flaw, replay 0 t (.stop id) = .error flaw := by
      cases node : t.node? id with
      | none => exact ⟨.unknownNode 0 id, by simp [replay, node]⟩
      | some n =>
        by_cases stopped : n.state = .stopped
        · exact ⟨.alreadyStopped 0 id, by simp [replay, node, stopped]⟩
        · exact ⟨.lastRunning 0 id n.subCluster, by simp [replay, node, stopped, lonely]⟩
    obtain ⟨flaw, fails⟩ := fails
    unfold check at checked
    rw [begins, replayFrom, fails] at checked
    cases checked

end Script

end Drill
