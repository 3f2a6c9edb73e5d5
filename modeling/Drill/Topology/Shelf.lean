import Drill.Topology.Basic

/-!
# Asking and copying topologies

`Topology.node` and its neighbours answer questions about a node and refuse unknown ones. A `Shelf`
holds copies of one topology, of which one is in use; marking a node changes the copy in use only
(`get?_mark_of_ne`).
-/

namespace Drill

namespace Topology

/-- There is no node of this id. -/
def unknownNode (id : String) : Fault := .plain .key s!"Unknown node: {id}"

/-- There is no sub-cluster of this name. -/
def unknownName (name : String) : Fault := .plain .key name

/-- The node of an id (`ClusterTopology.node`). -/
def node (t : Topology) (id : String) : Except Fault Node :=
  match t.node? id with
  | some n => .ok n
  | none => .error (unknownNode id)

/-- The name of a node's sub-cluster (`sub_cluster_of`). -/
def subClusterOf (t : Topology) (id : String) : Except Fault String :=
  (t.node id).map (·.subCluster)

/-- The other members of a node's sub-cluster (`siblings`). -/
def siblings (t : Topology) (id : String) : Except Fault (List String) :=
  match t.siblings? id with
  | some ids => .ok ids
  | none => .error (unknownNode id)

/-- A node by its sub-cluster and its place there (`label`). -/
def label (t : Topology) (id : String) : Except Fault String :=
  match t.label? id with
  | some text => .ok text
  | none => .error (unknownNode id)

/-- The running members of a sub-cluster (`running_nodes`). -/
def runningIn (t : Topology) (name : String) : Except Fault (List String) :=
  match t.named? name with
  | some c => .ok (c.inState .running)
  | none => .error (unknownName name)

/-- The topology with the state of a known node changed (`mark_stopped`, `mark_running`). -/
def marked (t : Topology) (id : String) (state : NodeState) : Except Fault Topology :=
  if id ∈ t.ids then .ok (t.mark id state) else .error (unknownNode id)

/-- The topology with several known nodes stopped. -/
def withStopped (t : Topology) (ids : List String) : Except Fault Topology :=
  ids.foldlM (fun t id => t.marked id .stopped) t

end Topology

/-- Copies of a topology, oldest first, and the position of the one in use. -/
structure Shelf where
  copies : List Topology
  inUse : Nat
  inUse_lt : inUse < copies.length

namespace Shelf

/-- A shelf with one topology. -/
def single (t : Topology) : Shelf := ⟨[t], 0, by simp⟩

/-- The copy in use. -/
def current (s : Shelf) : Topology := s.copies.get ⟨s.inUse, s.inUse_lt⟩

/-- The shelf with one more copy of the topology in use, at the end (`copy_fresh`). -/
def copy (s : Shelf) : Shelf :=
  ⟨s.copies ++ [s.current], s.inUse, by have := s.inUse_lt; simp; omega⟩

/-- The shelf with another copy in use; the same shelf if there is no such copy. -/
def use (s : Shelf) (position : Nat) : Shelf :=
  if h : position < s.copies.length then ⟨s.copies, position, h⟩ else s

/-- The shelf with the state of a known node changed in the copy in use. -/
def mark (s : Shelf) (id : String) (state : NodeState) : Except Fault Shelf :=
  (s.current.marked id state).map fun t =>
    ⟨s.copies.set s.inUse t, s.inUse, by simpa using s.inUse_lt⟩

/-- The copies that are not in use stay as they are. -/
theorem get?_mark_of_ne {s s' : Shelf} {id : String} {state : NodeState} {position : Nat}
    (h : s.mark id state = .ok s') (ne : position ≠ s.inUse) :
    s'.copies[position]? = s.copies[position]? := by
  unfold mark at h
  cases hm : s.current.marked id state with
  | error e => rw [hm] at h; cases h
  | ok t =>
    rw [hm] at h
    cases h
    simp [List.getElem?_set_ne (Ne.symm ne)]

end Shelf

end Drill
