import Drill.Fault

/-!
# Topologies

A cluster under test (`ClusterTopology`): two named sub-clusters of equal size whose nodes are
running or stopped. The type carries what holds of every topology (two different names, equal and
positive sizes, no node twice); `mark` changes the state of one node and nothing else. Main
statements: `ids_mark`, `shape_mark` and `nodes_mark`, which say exactly what a mark does.
-/

namespace Drill

/-- Is a node running? (`NodeState`) -/
inductive NodeState where
  | running
  | stopped
deriving DecidableEq

/-- The word for a node's state. -/
def NodeState.name : NodeState → String
  | running => "RUNNING"
  | stopped => "STOPPED"

/-- A node of a sub-cluster. -/
structure Member where
  id : String
  state : NodeState
deriving DecidableEq

/-- The member with its state changed if it is the named one. -/
def Member.mark (id : String) (state : NodeState) (m : Member) : Member :=
  if m.id = id then { m with state } else m

/-- A named row of nodes. -/
structure SubCluster where
  name : String
  members : List Member
deriving DecidableEq

namespace SubCluster

/-- The nodes' ids. -/
def ids (c : SubCluster) : List String := c.members.map (·.id)

/-- The ids of the members in a state. -/
def inState (c : SubCluster) (state : NodeState) : List String :=
  (c.members.filter (·.state = state)).map (·.id)

/-- Is a member running? -/
def isReachable (c : SubCluster) : Bool := c.members.any (·.state = .running)

/-- The sub-cluster with the state of one member changed. -/
def mark (id : String) (state : NodeState) (c : SubCluster) : SubCluster :=
  { c with members := c.members.map (Member.mark id state) }

@[simp] theorem name_mark (id : String) (state : NodeState) (c : SubCluster) :
    (c.mark id state).name = c.name := rfl

@[simp] theorem ids_mark (id : String) (state : NodeState) (c : SubCluster) :
    (c.mark id state).ids = c.ids := by
  simp only [ids, mark, List.map_map]
  refine List.map_congr_left fun m _ => ?_
  by_cases h : m.id = id <;> simp [Member.mark, h]

end SubCluster

/-- A node and the sub-cluster that it belongs to (`ClusterNode`). -/
structure Node where
  id : String
  subCluster : String
  state : NodeState
deriving DecidableEq

/-- Two sub-clusters of equal size, in order (`ClusterTopology`). -/
structure Topology where
  first : SubCluster
  second : SubCluster
  names_ne : first.name ≠ second.name
  same_size : first.ids.length = second.ids.length
  first_nonempty : first.ids ≠ []
  nodup : (first.ids ++ second.ids).Nodup
deriving DecidableEq

namespace Topology

/-- Both sub-clusters, in order. -/
def subClusters (t : Topology) : List SubCluster := [t.first, t.second]

/-- All ids, sub-cluster by sub-cluster (the keys of the register of nodes). -/
def ids (t : Topology) : List String := t.first.ids ++ t.second.ids

/-- All nodes, sub-cluster by sub-cluster (`ClusterTopology.nodes`). -/
def nodes (t : Topology) : List Node :=
  t.subClusters.flatMap fun c => c.members.map fun m => ⟨m.id, c.name, m.state⟩

/-- The sub-cluster of a name. -/
def named? (t : Topology) (name : String) : Option SubCluster :=
  t.subClusters.find? (·.name = name)

/-- The sub-cluster that a node belongs to (`sub_cluster_of`). -/
def homeOf? (t : Topology) (id : String) : Option SubCluster :=
  t.subClusters.find? fun c => id ∈ c.ids

/-- The node of an id. -/
def node? (t : Topology) (id : String) : Option Node := t.nodes.find? (·.id = id)

/-- The other members of a node's sub-cluster (`siblings`). -/
def siblings? (t : Topology) (id : String) : Option (List String) :=
  (t.homeOf? id).map fun c => c.ids.filter (· ≠ id)

/-- A node by its sub-cluster and its place there, such as `clusterA-node0` (`label`). -/
def label? (t : Topology) (id : String) : Option String :=
  (t.homeOf? id).map fun c => s!"{c.name}-node{c.ids.idxOf id}"

/-- The ids of the stopped nodes (`stopped_nodes`). -/
def stopped (t : Topology) : List String := t.subClusters.flatMap (·.inState .stopped)

/-- Has every sub-cluster a running member? (`is_reachable`) -/
def isReachable (t : Topology) : Bool := t.subClusters.all (·.isReachable)

/-- The most nodes that are stopped in one sub-cluster. -/
def mostStopped (t : Topology) : Nat :=
  t.subClusters.foldl (fun most c => max most (c.inState .stopped).length) 0

/-- The topology with the state of one node changed; the same topology if there is no such node
(`mark_stopped`, `mark_running`). -/
def mark (t : Topology) (id : String) (state : NodeState) : Topology where
  first := t.first.mark id state
  second := t.second.mark id state
  names_ne := t.names_ne
  same_size := by simpa using t.same_size
  first_nonempty := by simpa using t.first_nonempty
  nodup := by simpa using t.nodup

/-- The names and the members' ids. -/
def shape (t : Topology) : List (String × List String) :=
  t.subClusters.map fun c => (c.name, c.ids)

/-- No node gets another id. -/
@[simp] theorem ids_mark (t : Topology) (id : String) (state : NodeState) :
    (t.mark id state).ids = t.ids := by
  simp [ids, mark]

@[simp] theorem shape_mark (t : Topology) (id : String) (state : NodeState) :
    (t.mark id state).shape = t.shape := by
  simp [shape, subClusters, mark]

/-- Exactly the nodes of the id get the state. -/
theorem nodes_mark (t : Topology) (id : String) (state : NodeState) :
    (t.mark id state).nodes = t.nodes.map fun n => if n.id = id then { n with state } else n := by
  have members (c : SubCluster) :
      (c.mark id state).members.map (fun m => (⟨m.id, c.name, m.state⟩ : Node))
        = (c.members.map fun m => (⟨m.id, c.name, m.state⟩ : Node)).map
            fun n => if n.id = id then { n with state } else n := by
    simp only [SubCluster.mark, List.map_map]
    refine List.map_congr_left fun m _ => ?_
    by_cases h : m.id = id <;> simp [Member.mark, h]
  simp only [nodes, subClusters, mark, List.flatMap_cons, List.flatMap_nil, List.append_nil,
    List.map_append, SubCluster.name_mark, members]

end Topology

end Drill
