import Drill.Assoc
import Drill.Complaint
import Drill.Json.Value
import Drill.Topology.Basic

/-!
# Shapes of topologies

A shape is an ordered map from names to lists of ids. `Topology.ofShape` makes the topology of a
shape, all nodes running, or says what is wrong (`ShapeFault`); `Shape.read` finds the shape in a
JSON value. Main statement: `shape_of_ofShape`, a topology has the shape it was made of.
-/

namespace Drill

/-- Sub-cluster names with the ids of their members. -/
abbrev Shape := Assoc String (List String)

/-- Why a shape has no topology (`validate_shape`). -/
inductive ShapeFault where
  | notTwo (count : Nat)
  | uneven
  | repeated (id : String)
deriving DecidableEq

/-- The sentence for a fault of a shape. -/
def ShapeFault.text : ShapeFault → String
  | notTwo count => s!"Topology needs exactly 2 sub-clusters, got {count}"
  | uneven => "Sub-clusters must be non-empty and of equal size"
  | repeated id => s!"Node {id} appears more than once"

/-- The first entry that equals an earlier one. -/
def firstRepeat? (ids : List String) : Option String :=
  go [] ids
where
  /-- The first entry among `rest` that equals an earlier one or one that was seen. -/
  go (seen : List String) : List String → Option String
    | [] => none
    | id :: rest => if id ∈ seen then some id else go (id :: seen) rest

/-- The ids that were seen are kept along, so nothing in the rest may be one of them. -/
theorem firstRepeat?_go_eq_none {seen ids : List String} :
    firstRepeat?.go seen ids = none ↔ ids.Nodup ∧ ∀ id ∈ ids, id ∉ seen := by
  induction ids generalizing seen with
  | nil => simp [firstRepeat?.go]
  | cons id rest ih =>
    by_cases h : id ∈ seen
    · simp [firstRepeat?.go, h]
    · simp only [firstRepeat?.go, h, if_false, ih, List.nodup_cons, List.mem_cons, not_or]
      grind

/-- No id is found twice exactly if all of them differ. -/
theorem firstRepeat?_eq_none {ids : List String} : firstRepeat? ids = none ↔ ids.Nodup := by
  simp [firstRepeat?, firstRepeat?_go_eq_none]

/-- A sub-cluster of running nodes. -/
def SubCluster.running (name : String) (ids : List String) : SubCluster :=
  ⟨name, ids.map fun id => ⟨id, .running⟩⟩

@[simp] theorem SubCluster.ids_running (name : String) (ids : List String) :
    (SubCluster.running name ids).ids = ids := by
  simp [SubCluster.running, SubCluster.ids, Function.comp_def]

namespace Topology

/-- The topology of a shape, all nodes running (`validate_shape`, `model_post_init`). -/
def ofShape (shape : Shape) : Except ShapeFault Topology :=
  match shape with
  | [(a, as), (b, bs)] =>
    if names : a = b then .error (.notTwo 1)
    else if sizes : as.length = bs.length ∧ as ≠ [] then
      match repeated : firstRepeat? (as ++ bs) with
      | some id => .error (.repeated id)
      | none =>
        .ok {
          first := .running a as
          second := .running b bs
          names_ne := names
          same_size := by simpa using sizes.1
          first_nonempty := by simpa using sizes.2
          nodup := by simpa using firstRepeat?_eq_none.mp repeated }
    else .error .uneven
  | other => .error (.notTwo other.length)

/-- What is built from a shape has that shape. -/
theorem shape_of_ofShape {shape : Shape} {t : Topology} (h : ofShape shape = .ok t) :
    t.shape = shape := by
  unfold ofShape at h
  split at h
  · split at h
    · cases h
    · split at h
      · split at h
        · cases h
        · cases h
          simp only [Topology.shape, subClusters, List.map_cons, List.map_nil,
            SubCluster.ids_running]
          rfl
      · cases h
  · cases h

/-- Two sub-clusters of two nodes each (`two_by_two`). -/
def twoByTwo : Topology where
  first := .running "clusterA" ["node-1", "node-2"]
  second := .running "clusterB" ["node-3", "node-4"]
  names_ne := by decide
  same_size := rfl
  first_nonempty := by decide
  nodup := by decide

end Topology

namespace Shape

/-- The field that holds the shape. -/
def field : Place := .name "sub_clusters"

/-- The text of a value that has to be one. -/
def readText (place : List Place) : Json.Value → Checked String
  | .string s => .ok s
  | _ => .error [⟨.notText, place⟩]

/-- The ids in a value that has to be a list of texts. -/
def readMembers (name : String) : Json.Value → Checked (String × List String)
  | .array items =>
    (Checked.gather (items.zipIdx.map fun (item, i) =>
      readText [field, .name name, .index i] item)).map
      fun ids => (name, ids)
  | _ => .error [⟨.notList, [field, .name name]⟩]

/-- The entries of a value that has to be a map, or a list of pairs that stands for one. -/
def entries? : Json.Value → Option (List (String × Json.Value))
  | .object members => some members
  | .array pairs => pairs.mapM fun
    | .array [.string name, members] => some (name, members)
    | _ => none
  | _ => none

/-- The shape in a value. -/
def read (value : Json.Value) : Checked Shape :=
  match entries? value with
  | some entries =>
      Checked.gather ((Assoc.ofPairs entries).map fun (name, members) => readMembers name members)
  | none => .error [⟨.notMap, [field]⟩]

end Shape

/-- The topology that a value describes, or all complaints about it. -/
def Topology.read (value : Json.Value) : Checked Topology := do
  match Topology.ofShape (← Shape.read value) with
  | .ok t => .ok t
  | .error fault => .error [⟨.refused fault.text, [Shape.field]⟩]

end Drill
