import Drill.Proofs.Standing
import Drill.Topology.Shape

/-!
# What a topology keeps of its shape

A topology is made of a shape once, and from then on only the states of its nodes change. So
whatever is asked of it can be answered from the shape and the list of the stopped nodes, however
often nodes were marked and the topology was copied, and the nodes by their ids are those of a flat
register that is filled from the shape and marked along.

Main statements: `ofShape_ok_iff`, which shapes have a topology, `keeps_shape`, what a topology
answers, `register_ofShape` and `register_mark`, the register is filled and marked along,
`rebuild_eq`, a copy is what the shape and the states make, and `shape_kept`, all of this for every
copy on a shelf after any requests.
-/

namespace Drill

/-- The ids that a shape lists, list by list. -/
def Shape.ids (shape : Shape) : List String := shape.flatMap (·.2)

/-- Two names, with equally many ids each, at least one, and no id twice. -/
structure Shape.Proper (shape : Shape) : Prop where
  two : shape.length = 2
  names : shape.keys.Nodup
  even : ∀ e ∈ shape, ∀ e' ∈ shape, e.2.length = e'.2.length
  members : ∀ e ∈ shape, e.2 ≠ []
  once : shape.ids.Nodup

namespace Topology

variable {t : Topology} {c : SubCluster} {n : Node} {id : String} {shape : Shape}

/-- A shape lists each sub-cluster with its ids. -/
theorem mem_shape {e : String × List String} : e ∈ t.shape ↔
    ∃ c ∈ t.subClusters, (c.name, c.ids) = e :=
  List.mem_map

theorem ids_shape (t : Topology) : Shape.ids t.shape = t.ids := by
  simp [Shape.ids, shape, subClusters, ids]

/-- Every topology has a proper shape. -/
theorem proper_shape (t : Topology) : Shape.Proper t.shape where
  two := rfl
  names := by
    have differ := t.names_ne
    simp [shape, subClusters, Assoc.keys, differ]
  even := by
    have sizes := t.same_size
    simp [shape, subClusters, sizes]
  members := by
    intro e mem
    obtain ⟨c, row, rfl⟩ := mem_shape.mp mem
    simp only [subClusters, List.mem_cons, List.not_mem_nil, or_false] at row
    rcases row with rfl | rfl
    · exact t.first_nonempty
    · exact t.second_nonempty
  once := by
    rw [ids_shape]
    exact t.nodup

/-- A shape has a topology exactly if it is a proper one. -/
theorem ofShape_ok_iff : (∃ t, ofShape shape = .ok t) ↔ shape.Proper := by
  constructor
  · rintro ⟨t, made⟩
    rw [← shape_of_ofShape made]
    exact t.proper_shape
  · intro proper
    obtain ⟨⟨a, as⟩, ⟨b, bs⟩, rfl⟩ : ∃ e e', shape = [e, e'] := List.length_eq_two.mp proper.two
    have differ : a ≠ b := by
      have names := proper.names
      simpa [Assoc.keys] using names
    have sizes : as.length = bs.length :=
      proper.even (a, as) List.mem_cons_self (b, bs) (List.mem_cons_of_mem _ List.mem_cons_self)
    have members : as ≠ [] := proper.members (a, as) List.mem_cons_self
    have once : (as ++ bs).Nodup := by
      have once := proper.once
      simpa [Shape.ids] using once
    unfold ofShape
    dsimp only
    split
    next same => exact absurd same differ
    next =>
      split
      next =>
        split
        next id repeated =>
          rw [firstRepeat?_eq_none.mpr once] at repeated
          cases repeated
        next => exact ⟨_, rfl⟩
      next uneven => exact absurd ⟨sizes, members⟩ uneven

/-- A topology of this shape answers from the shape and the list of its stopped nodes. -/
structure Keeps (t : Topology) (shape : Shape) : Prop where
  /-- Every id is listed once, in order of declaration, with the name of the list that it is
  from. -/
  nodes : t.nodes.map (fun n => (n.id, n.subCluster)) = shape.flatMap fun e =>
    e.2.map fun id => (id, e.1)
  once : (t.nodes.map (·.id)).Nodup
  /-- No other list has the id. -/
  home : ∀ n ∈ t.nodes, ∀ e ∈ shape, n.id ∈ e.2 ↔ e.1 = n.subCluster
  node : ∀ n ∈ t.nodes, t.node n.id = .ok n
  siblings : ∀ e ∈ shape, ∀ id ∈ e.2, t.siblings id = .ok (e.2.filter (· ≠ id))
  label : ∀ e ∈ shape, ∀ (i : Nat) id, e.2[i]? = some id → t.label id = .ok s!"{e.1}-node{i}"
  /-- The stopped nodes are those in that state, in order. -/
  stopped : t.stopped = (t.nodes.filter (·.state = .stopped)).map (·.id)
  /-- The members that are not stopped are the running ones, and those of the stopped nodes that are
  members are the others, both in order. -/
  running : ∀ e ∈ shape, t.runningIn e.1 = .ok (e.2.filter (· ∉ t.stopped)) ∧
    t.stopped.filter (· ∈ e.2) = e.2.filter (· ∈ t.stopped)
  reachable : t.isReachable = true ↔ ∀ e ∈ shape, ¬e.2 ⊆ t.stopped
  /-- Nobody knows an id that is not listed. -/
  unknown : ∀ id ∉ shape.ids, t.node id = .error (unknownNode id) ∧
    t.siblings id = .error (unknownNode id) ∧ t.label id = .error (unknownNode id)

/-- A node is among the stopped ones exactly if it is stopped. -/
theorem mem_stopped_iff (mem : n ∈ t.nodes) : n.id ∈ t.stopped ↔ n.state = .stopped := by
  rw [stopped_eq, List.mem_map]
  simp only [List.mem_filter, decide_eq_true_eq]
  constructor
  · rintro ⟨n', ⟨mem', stopped⟩, same⟩
    rw [← eq_of_id mem' mem same]
    exact stopped
  · intro stopped
    exact ⟨n, ⟨mem, stopped⟩, rfl⟩

/-- A member is stopped if its id is among the stopped ones. -/
theorem member_stopped_iff (row : c ∈ t.subClusters) {m : Member} (member : m ∈ c.members) :
    m.id ∈ t.stopped ↔ m.state = .stopped :=
  mem_stopped_iff (mem_nodes.mpr ⟨c, row, m, member, rfl⟩)

/-- The members in a state are those of the ids listed that are among the stopped nodes, or are
not. -/
theorem inState_stopped (row : c ∈ t.subClusters) :
    c.inState .stopped = c.ids.filter (· ∈ t.stopped) := by
  unfold SubCluster.inState SubCluster.ids
  rw [List.filter_map]
  refine congrArg (List.map _) (List.filter_congr fun m member => ?_)
  simp [member_stopped_iff row member]

/-- The members that run are those whose ids are not among the stopped ones. -/
theorem inState_running (row : c ∈ t.subClusters) :
    c.inState .running = c.ids.filter (· ∉ t.stopped) := by
  unfold SubCluster.inState SubCluster.ids
  rw [List.filter_map]
  refine congrArg (List.map _) (List.filter_congr fun m member => ?_)
  cases state : m.state <;> simp [member_stopped_iff row member, state]

/-- Of the stopped nodes, those listed by a sub-cluster are its stopped members. -/
theorem filter_stopped (row : c ∈ t.subClusters) :
    t.stopped.filter (· ∈ c.ids) = c.inState .stopped := by
  have own {c : SubCluster} : (c.inState .stopped).filter (· ∈ c.ids) = c.inState .stopped := by
    rw [List.filter_eq_self]
    intro id mem
    obtain ⟨m, member, rfl⟩ := List.mem_map.mp mem
    have listed : m.id ∈ c.ids := List.mem_map_of_mem (List.mem_filter.mp member).1
    simpa using listed
  have other {c c' : SubCluster} (apart : ∀ id ∈ c.ids, id ∉ c'.ids) :
      (c.inState .stopped).filter (· ∈ c'.ids) = [] := by
    rw [List.filter_eq_nil_iff]
    intro id mem
    obtain ⟨m, member, rfl⟩ := List.mem_map.mp mem
    simpa using apart m.id (List.mem_map_of_mem (List.mem_filter.mp member).1)
  have apart := (List.nodup_append.mp t.nodup).2.2
  have parts : t.stopped = t.first.inState .stopped ++ t.second.inState .stopped := by
    simp [stopped, subClusters]
  simp only [subClusters, List.mem_cons, List.not_mem_nil, or_false] at row
  rw [parts, List.filter_append]
  rcases row with rfl | rfl
  · rw [own, other fun id mem mem' => apart id mem' id mem rfl, List.append_nil]
  · rw [own, other fun id mem mem' => apart id mem id mem' rfl, List.nil_append]

/-- A sub-cluster is found under its name. -/
theorem named?_eq_some (row : c ∈ t.subClusters) : t.named? c.name = some c := by
  cases found : t.named? c.name with
  | none =>
    have unlike := List.find?_eq_none.mp found c row
    simp at unlike
  | some c' =>
    have same : c'.name = c.name := by simpa using List.find?_some found
    rw [eq_of_name (List.mem_of_find?_eq_some found) row same]

/-- A sub-cluster is reachable exactly if not all that it lists is stopped. -/
theorem isReachable_iff_not_subset (row : c ∈ t.subClusters) : c.isReachable = true ↔
    ¬c.ids ⊆ t.stopped := by
  unfold SubCluster.isReachable
  rw [List.any_eq_true]
  constructor
  · rintro ⟨m, member, running⟩ within
    have stopped := (member_stopped_iff row member).mp (within (List.mem_map_of_mem member))
    rw [stopped] at running
    cases running
  · intro outside
    by_contra none
    apply outside
    intro id mem
    obtain ⟨m, member, rfl⟩ := List.mem_map.mp mem
    rw [member_stopped_iff row member]
    cases state : m.state with
    | stopped => rfl
    | running => exact absurd ⟨m, member, by simp [state]⟩ none

/-- What is asked of a topology is answered from its shape and the list of its stopped nodes. -/
theorem keeps_shape (t : Topology) : t.Keeps t.shape where
  nodes := by simp [Topology.nodes, shape, subClusters, SubCluster.ids, Function.comp_def]
  once := by
    rw [ids_nodes]
    exact t.nodup
  home := by
    intro n mem e listed
    obtain ⟨c, row, rfl⟩ := mem_shape.mp listed
    rw [← subCluster_eq_iff mem row]
    exact eq_comm
  node := by
    intro n mem
    unfold Topology.node
    rw [node?_eq_some.mpr ⟨mem, rfl⟩]
  siblings := by
    intro e listed id mem
    -- Each property is stated for the rows of the shape and proved for the sub-clusters they came
    -- from.
    obtain ⟨c, row, rfl⟩ := mem_shape.mp listed
    unfold Topology.siblings siblings?
    rw [homeOf?_eq_some.mpr ⟨row, mem⟩]
    rfl
  label := by
    intro e listed i id place
    obtain ⟨c, row, rfl⟩ := mem_shape.mp listed
    obtain ⟨bound, rfl⟩ := List.getElem?_eq_some_iff.mp place
    refine label_eq_ok_iff.mpr ⟨c, row, List.getElem_mem bound, ?_⟩
    rw [(nodup_ids row).idxOf_getElem i bound]
  stopped := stopped_eq t
  running := by
    intro e listed
    obtain ⟨c, row, rfl⟩ := mem_shape.mp listed
    constructor
    · unfold runningIn
      rw [named?_eq_some row, ← inState_running row]
    · exact (filter_stopped row).trans (inState_stopped row)
  reachable := by
    unfold isReachable
    rw [List.all_eq_true]
    constructor
    · intro up e listed
      obtain ⟨c, row, rfl⟩ := mem_shape.mp listed
      exact (isReachable_iff_not_subset row).mp (up c row)
    · intro up c row
      exact (isReachable_iff_not_subset row).mpr (up _ (mem_shape.mpr ⟨c, row, rfl⟩))
  unknown := by
    intro id unlisted
    rw [ids_shape] at unlisted
    -- A node or a home for the id would put it on the list.
    have unfound : t.node? id = none := by
      cases found : t.node? id with
      | none => rfl
      | some n =>
        obtain ⟨mem, named⟩ := node?_eq_some.mp found
        exact absurd (mem_ids.mpr ⟨n, mem, named⟩) unlisted
    have homeless : t.homeOf? id = none := by
      cases found : t.homeOf? id with
      | none => rfl
      | some c =>
        obtain ⟨row, mem⟩ := homeOf?_eq_some.mp found
        obtain ⟨m, member, rfl⟩ := List.mem_map.mp mem
        exact absurd (mem_ids.mpr ⟨_, mem_nodes.mpr ⟨c, row, m, member, rfl⟩, rfl⟩) unlisted
    unfold Topology.node Topology.siblings Topology.label siblings? label?
    rw [unfound, homeless]
    exact ⟨rfl, rfl, rfl⟩

/-- Topologies of one shape with the same nodes are the same. -/
theorem eq_of_nodes {t t' : Topology} (same : t.shape = t'.shape)
    (nodes : t.nodes = t'.nodes) : t = t' := by
  have members (t : Topology) :
      t.nodes.map (fun n => (⟨n.id, n.state⟩ : Member)) = t.first.members ++ t.second.members := by
    simp [Topology.nodes, subClusters, Function.comp_def]
  have names : t.first.name = t'.first.name ∧ t.second.name = t'.second.name ∧
    t.first.ids = t'.first.ids := by
    simp only [shape, subClusters, List.map_cons, List.map_nil, List.cons.injEq,
      Prod.mk.injEq] at same
    exact ⟨same.1.1, same.2.1.1, same.1.2⟩
  have sizes : t.first.members.length = t'.first.members.length := by
    have sizes := congrArg List.length names.2.2
    simpa [SubCluster.ids] using sizes
  have rows : t.first.members ++ t.second.members = t'.first.members ++ t'.second.members := by
    rw [← members, ← members, nodes]
  obtain ⟨first, second⟩ := List.append_inj rows sizes
  obtain ⟨⟨_, _⟩, ⟨_, _⟩, _, _, _, _⟩ := t
  obtain ⟨⟨_, _⟩, ⟨_, _⟩, _, _, _, _⟩ := t'
  cases names.1
  cases names.2.1
  cases first
  cases second
  rfl

/-- The node after some others were looked through for its state. -/
def restate (ns : List Node) (n : Node) : Node :=
  ns.foldl (fun n m => if n.id = m.id then { n with state := m.state } else n) n

/-- A node keeps its state if no state is given for it. -/
theorem restate_of_unlisted {ns : List Node} (unlisted : ∀ m ∈ ns, n.id ≠ m.id) :
    restate ns n = n := by
  induction ns with
  | nil => rfl
  | cons m rest ih =>
    have skipped : restate (m :: rest) n = restate rest n := by
      unfold restate
      rw [List.foldl_cons, if_neg (unlisted m List.mem_cons_self)]
    rw [skipped]
    exact ih fun m' mem => unlisted m' (List.mem_cons_of_mem m mem)

/-- A node takes its state from the one that has its id. -/
theorem restate_of_mem {ns : List Node} {m : Node} (once : (ns.map (·.id)).Nodup) (mem : m ∈ ns)
    (named : n.id = m.id) : restate ns n = { n with state := m.state } := by
  induction ns with
  | nil => cases mem
  | cons k rest ih =>
    obtain ⟨apart, once⟩ := List.nodup_cons.mp once
    rcases List.mem_cons.mp mem with rfl | mem
    · have taken : restate (m :: rest) n = restate rest { n with state := m.state } := by
        unfold restate
        rw [List.foldl_cons, if_pos named]
      rw [taken]
      apply restate_of_unlisted
      intro other listed same
      exact apart (List.mem_map.mpr ⟨other, listed, same.symm.trans named⟩)
    · have skipped : restate (k :: rest) n = restate rest n := by
        unfold restate
        rw [List.foldl_cons, if_neg]
        intro same
        exact apart (List.mem_map.mpr ⟨m, mem, named.symm.trans same⟩)
      rw [skipped]
      exact ih once mem

/-- To mark node by node gives each node its last state. -/
theorem nodes_marks (ns : List Node) (t : Topology) :
    (ns.foldl (fun c m => c.mark m.id m.state) t).nodes = t.nodes.map (restate ns) := by
  induction ns generalizing t with
  | nil => exact (List.map_id t.nodes).symm
  | cons m rest ih =>
    rw [List.foldl_cons, ih, nodes_mark, List.map_map]
    rfl

/-- It leaves the shape as it is. -/
theorem shape_marks (ns : List Node) (t : Topology) :
    (ns.foldl (fun c m => c.mark m.id m.state) t).shape = t.shape := by
  induction ns generalizing t with
  | nil => rfl
  | cons m rest ih => rw [List.foldl_cons, ih, shape_mark]

/-- The shape and the states make the topology: a new one of its shape, marked node by node, is the
same. -/
theorem rebuild_eq {fresh : Topology} (same : fresh.shape = t.shape) :
    t.nodes.foldl (fun c n => c.mark n.id n.state) fresh = t := by
  refine eq_of_nodes ((shape_marks _ fresh).trans same) ?_
  rw [nodes_marks]
  have pairs : fresh.nodes.map (fun n => (n.id, n.subCluster)) = t.nodes.map fun n =>
    (n.id, n.subCluster) := by
    rw [t.keeps_shape.nodes, ← same, fresh.keeps_shape.nodes]
  have sizes : fresh.nodes.length = t.nodes.length := by
    have sizes := congrArg List.length pairs
    simpa using sizes
  refine List.ext_getElem (by rw [List.length_map, sizes]) fun i bound bound' => ?_
  rw [List.length_map] at bound
  have pair := List.getElem_of_eq pairs (i := i) (by rw [List.length_map]; exact bound)
  simp only [List.getElem_map, Prod.mk.injEq] at pair ⊢
  rw [restate_of_mem t.keeps_shape.once (List.getElem_mem bound') pair.1]
  generalize fresh.nodes[i] = n' at pair
  generalize t.nodes[i] = n at pair
  obtain ⟨_, _, _⟩ := n
  cases pair.1
  cases pair.2
  rfl

end Topology

/-- Nodes by their ids. -/
abbrev Register := Assoc String Node

namespace Register

/-- The register that a shape is entered into, list by list, all nodes running. -/
def ofShape (shape : Shape) : Register :=
  Assoc.ofPairs (shape.flatMap fun e => e.2.map fun id => (id, ⟨id, e.1, .running⟩))

/-- The register with the state of a known node changed. -/
def mark (r : Register) (id : String) (state : NodeState) : Register :=
  match r.get? id with
  | some n => r.put id { n with state }
  | none => r

end Register

namespace Assoc

variable {α β : Type} [DecidableEq α]

theorem put_of_not_mem {entries : Assoc α β} {key : α} (new : key ∉ entries.keys) (value : β) :
    entries.put key value = entries ++ [(key, value)] := by
  induction entries with
  | nil => rfl
  | cons e rest ih =>
    have apart : e.1 ≠ key := fun same => new (List.mem_map.mpr ⟨e, List.mem_cons_self, same⟩)
    have later : key ∉ keys rest := fun mem => new (List.mem_cons_of_mem _ mem)
    rw [put, if_neg apart, ih later]
    rfl

/-- Entries with keys of their own are put one after the other. -/
theorem foldl_put {entries pairs : Assoc α β} (once : (keys (entries ++ pairs)).Nodup) :
    pairs.foldl (fun entries e => put entries e.1 e.2) entries = entries ++ pairs := by
  induction pairs generalizing entries with
  | nil => exact (List.append_nil entries).symm
  | cons e rest ih =>
    rw [List.append_cons] at once ⊢
    have new : e.1 ∉ keys entries := by
      unfold keys at once
      rw [List.map_append, List.map_append] at once
      have apart := (List.nodup_append.mp (List.nodup_append.mp once).1).2.2
      intro mem
      exact apart e.1 mem e.1 List.mem_cons_self rfl
    rw [List.foldl_cons, put_of_not_mem new, ih once]

/-- Pairs with different keys are entered as they come. -/
theorem ofPairs_eq {pairs : Assoc α β} (once : pairs.keys.Nodup) : ofPairs pairs = pairs := by
  have all : (keys ([] ++ pairs)).Nodup := once
  exact foldl_put all

/-- A key that is put again takes the new value in its place. -/
theorem put_eq_map {entries : Assoc α β} {key : α} (once : entries.keys.Nodup)
    (known : key ∈ entries.keys)
    (value : β) : entries.put key value = entries.map fun e =>
    if e.1 = key then (key, value) else e := by
  induction entries with
  | nil => cases known
  | cons e rest ih =>
    obtain ⟨apart, once⟩ := List.nodup_cons.mp once
    rw [List.map_cons, put]
    by_cases same : e.1 = key
    · subst same
      rw [if_pos rfl, if_pos rfl]
      refine congrArg _ ((List.map_id rest).symm.trans (List.map_congr_left fun e' mem => ?_))
      have other : e'.1 ≠ e.1 := fun same => apart (List.mem_map.mpr ⟨e', mem, same⟩)
      rw [if_neg other, id]
    · rw [if_neg same, if_neg same]
      rcases List.mem_cons.mp known with first | later
      · exact absurd first.symm same
      · rw [ih once later]

end Assoc

namespace Topology

variable {t : Topology} {id : String} {shape : Shape}

/-- The nodes by their ids. -/
def register (t : Topology) : Register := t.nodes.map fun n => (n.id, n)

/-- The register knows exactly the nodes, each by its id. -/
theorem get?_register (t : Topology) (id : String) : t.register.get? id = t.node? id := by
  unfold register node?
  induction t.nodes with
  | nil => rfl
  | cons n rest ih =>
    rw [List.map_cons, Assoc.get?, List.find?_cons, ih]
    by_cases named : n.id = id <;> simp [named]

theorem keys_register (t : Topology) : t.register.keys = t.ids := by
  unfold register Assoc.keys
  rw [List.map_map, ← ids_nodes]
  rfl

/-- No id is in it twice. -/
theorem nodup_register (t : Topology) : t.register.keys.Nodup := by
  rw [keys_register]
  exact t.nodup

/-- The nodes of a new topology all run. -/
theorem nodes_ofShape (made : ofShape shape = .ok t) :
    t.nodes = shape.flatMap fun e => e.2.map fun id => ⟨id, e.1, .running⟩ := by
  unfold ofShape at made
  split at made
  next =>
    split at made
    next => cases made
    next =>
      split at made
      next =>
        split at made
        next => cases made
        next =>
          cases made
          simp [nodes, subClusters, SubCluster.running, Function.comp_def]
      next => cases made
  next => cases made

/-- The register of a new topology is the one that its shape is entered into. -/
theorem register_ofShape (made : ofShape shape = .ok t) : t.register = Register.ofShape shape := by
  have pairs : t.register = shape.flatMap fun e => e.2.map fun id => (id, ⟨id, e.1, .running⟩) := by
    unfold register
    rw [nodes_ofShape made, List.map_flatMap]
    simp only [List.map_map, Function.comp_def]
  unfold Register.ofShape
  rw [← pairs, Assoc.ofPairs_eq t.nodup_register]

/-- A mark of a node is one in the register. -/
theorem register_mark (t : Topology) (id : String) (state : NodeState) :
    (t.mark id state).register = t.register.mark id state := by
  -- Both sides are the list of nodes with one entry changed, or with none.
  have unmarked : (t.mark id state).register
      = t.nodes.map fun n => (n.id, if n.id = id then { n with state } else n) := by
    unfold register
    rw [nodes_mark, List.map_map]
    refine List.map_congr_left fun n _ => ?_
    by_cases named : n.id = id <;> simp [named]
  rw [unmarked]
  unfold Register.mark
  rw [get?_register]
  cases found : t.node? id with
  | none =>
    refine List.map_congr_left fun n mem => ?_
    have other : n.id ≠ id := by
      intro named
      rw [node?_eq_some.mpr ⟨mem, named⟩] at found
      cases found
    rw [if_neg other]
  | some n =>
    obtain ⟨mem, rfl⟩ := node?_eq_some.mp found
    have known : n.id ∈ t.register.keys := by
      rw [keys_register, mem_ids]
      exact ⟨n, mem, rfl⟩
    dsimp only
    rw [Assoc.put_eq_map t.nodup_register known]
    unfold register
    rw [List.map_map]
    refine List.map_congr_left fun n' mem' => ?_
    by_cases named : n'.id = n.id
    · cases eq_of_id mem' mem named
      simp
    · simp [named]

/-- The shape and the states make the register, too. -/
theorem register_marks {fresh : Topology} (same : fresh.shape = t.shape) :
    t.nodes.foldl (fun r n => r.mark n.id n.state) fresh.register = t.register := by
  have along (ns : List Node) (c : Topology) : ns.foldl (fun r n => r.mark n.id n.state) c.register
      = (ns.foldl (fun c n => c.mark n.id n.state) c).register := by
    induction ns generalizing c with
    | nil => rfl
    | cons n rest ih => rw [List.foldl_cons, List.foldl_cons, ← register_mark, ih]
  rw [along, rebuild_eq same]

end Topology

namespace Shelf

/-- A request that may change a shelf. -/
inductive Request where
  | mark (id : String) (state : NodeState)
  | copy
  | use (position : Nat)

/-- The shelf after a request; one that fails leaves it as it was. -/
def serve (s : Shelf) : Request → Shelf
  | .mark id state => (s.mark id state).toOption.getD s
  | .copy => s.copy
  | .use position => s.use position

/-- The shelf after some requests. -/
def serveAll (s : Shelf) (requests : List Request) : Shelf := requests.foldl serve s

/-- Between two shelves the node was brought into the state, in the copy in use, and nothing else
was changed. -/
structure Marks (s : Shelf) (id : String) (state : NodeState) (s' : Shelf) : Prop where
  inUse : s'.inUse = s.inUse
  length : s'.copies.length = s.copies.length
  others : ∀ position ≠ s.inUse, s'.copies[position]? = s.copies[position]?
  nodes : s'.current.nodes = s.current.nodes.map fun n => if n.id = id then { n with state } else n
  register : s'.current.register = s.current.register.mark id state

variable {s : Shelf} {id : String} {shape : Shape}

theorem current_mem (s : Shelf) : s.current ∈ s.copies := List.get_mem _ _

/-- To mark a known node changes the copy in use and no other one. -/
theorem mark_of_known (known : id ∈ s.current.ids) (state : NodeState) :
    ∃ s', s.mark id state = .ok s' ∧ s'.copies = s.copies.set s.inUse (s.current.mark id state) ∧
      s'.current = s.current.mark id state ∧ s'.inUse = s.inUse := by
  have marked : s.current.marked id state = .ok (s.current.mark id state) := if_pos known
  unfold mark
  rw [marked]
  refine ⟨_, rfl, rfl, ?_, rfl⟩
  unfold current
  exact List.getElem_set_self _

theorem serve_of_ok {s' : Shelf} {state : NodeState} (marked : s.mark id state = .ok s') :
    s.serve (.mark id state) = s' := by
  show (s.mark id state).toOption.getD s = s'
  rw [marked]
  rfl

/-- To mark an unknown one is refused. -/
theorem mark_of_unknown (unknown : id ∉ s.current.ids) (state : NodeState) :
    s.mark id state = .error (Topology.unknownNode id) := by
  have marked : s.current.marked id state = .error (Topology.unknownNode id) := if_neg unknown
  unfold mark
  rw [marked]
  rfl

/-- A refused request changes nothing. -/
theorem serve_of_unknown (unknown : id ∉ s.current.ids) (state : NodeState) :
    s.serve (.mark id state) = s := by
  show (s.mark id state).toOption.getD s = s
  rw [mark_of_unknown unknown]
  rfl

/-- A known node is marked in the copy in use, and nowhere else. -/
theorem marks_of_known (known : id ∈ s.current.ids) (state : NodeState) :
    ∃ s', s.mark id state = .ok s' ∧ s.serve (.mark id state) = s' ∧ s.Marks id state s' := by
  obtain ⟨s', marked, copies, current, inUse⟩ := mark_of_known known state
  refine ⟨s', marked, serve_of_ok marked, inUse, ?_, ?_, ?_, ?_⟩
  · rw [copies, List.length_set]
  · intro position other
    exact get?_mark_of_ne marked other
  · rw [current, Topology.nodes_mark]
  · rw [current, Topology.register_mark]

/-- A request leaves a shelf of topologies of one shape. -/
theorem serve_shape (kept : ∀ c ∈ s.copies, c.shape = shape) (request : Request) :
    ∀ c ∈ (s.serve request).copies, c.shape = shape := by
  have own := kept s.current s.current_mem
  cases request with
  | mark id state =>
    by_cases known : id ∈ s.current.ids
    · obtain ⟨s', marked, copies, _, _⟩ := mark_of_known known state
      rw [serve_of_ok marked]
      intro c mem
      rw [copies] at mem
      rcases List.mem_or_eq_of_mem_set mem with mem | rfl
      · exact kept c mem
      · rw [Topology.shape_mark, own]
    · rw [serve_of_unknown known]
      exact kept
  | copy =>
    intro c mem
    rcases List.mem_append.mp mem with mem | mem
    · exact kept c mem
    · rw [List.mem_singleton.mp mem, own]
  | use position =>
    show ∀ c ∈ (s.use position).copies, c.shape = shape
    unfold use
    split
    next => exact kept
    next => exact kept

/-- All requests leave a shelf of topologies of one shape. -/
theorem serveAll_shape (kept : ∀ c ∈ s.copies, c.shape = shape) (requests : List Request) :
    ∀ c ∈ (s.serveAll requests).copies, c.shape = shape := by
  induction requests generalizing s with
  | nil => exact kept
  | cons request rest ih => exact ih (serve_shape kept request)

/-- A shape has a topology exactly if it is a proper one: two names with equally many ids, at least
one, and none twice. All nodes run at first. Whatever is then marked, copied and used, each copy
answers from the shape and its stopped nodes, and its nodes by their ids are those of a register
that the shape is entered into and that is marked node by node. A mark of a listed id changes the
state of this node in the copy in use and nothing else, and one of another id raises a fault and
changes nothing. -/
theorem shape_kept (shape : Shape) :
    ((∃ t, Topology.ofShape shape = .ok t) ↔ shape.Proper) ∧
    ∀ t, Topology.ofShape shape = .ok t →
      (∀ n ∈ t.nodes, n.state = .running) ∧ t.register = Register.ofShape shape ∧
      ∀ requests : List Request, ∃ s, (single t).serveAll requests = s ∧
        (∀ c ∈ s.copies, c.Keeps shape ∧
          c.nodes.foldl (fun r n => r.mark n.id n.state) (Register.ofShape shape) = c.register) ∧
        (∀ id ∈ shape.ids, ∀ state, ∃ s', s.mark id state = .ok s' ∧ s.serve (.mark id state) = s' ∧
          s.Marks id state s') ∧
        ∀ id ∉ shape.ids, ∀ state,
          s.mark id state = .error (.plain .key s!"Unknown node: {id}") ∧
          s.serve (.mark id state) = s := by
  refine ⟨Topology.ofShape_ok_iff, ?_⟩
  intro t made
  have own : t.shape = shape := Topology.shape_of_ofShape made
  have entered := Topology.register_ofShape made
  refine ⟨?_, entered, ?_⟩
  · intro n mem
    rw [Topology.nodes_ofShape made] at mem
    obtain ⟨e, _, mem⟩ := List.mem_flatMap.mp mem
    obtain ⟨id, _, rfl⟩ := List.mem_map.mp mem
    rfl
  · intro requests
    -- All copies have the shape at first, and no request changes it.
    have first : ∀ c ∈ (single t).copies, c.shape = shape := by
      intro c mem
      rw [List.mem_singleton.mp mem, own]
    have kept := serveAll_shape first requests
    generalize (single t).serveAll requests = s at kept
    have ids : s.current.ids = shape.ids := by
      rw [← kept s.current s.current_mem, Topology.ids_shape]
    refine ⟨s, rfl, ?_, ?_, ?_⟩
    · intro c mem
      constructor
      · rw [← kept c mem]
        exact c.keeps_shape
      · rw [← entered]
        exact Topology.register_marks (own.trans (kept c mem).symm)
    · intro id listed state
      rw [← ids] at listed
      exact marks_of_known listed state
    · intro id unlisted state
      rw [← ids] at unlisted
      exact ⟨mark_of_unknown unlisted state, serve_of_unknown unlisted state⟩

/-- The third node is stopped, and started again in a copy in which the first one is stopped. -/
def parting : List Request :=
  [.mark "node-3" .stopped, .copy, .use 1, .mark "node-3" .running, .mark "node-1" .stopped]

theorem parting_kept :
    Topology.ofShape Topology.twoByTwo.shape = .ok Topology.twoByTwo ∧
    ∃ s, (single Topology.twoByTwo).serveAll parting = s ∧
      s.copies.map Topology.stopped = [["node-3"], ["node-1"]] ∧
      (∀ c ∈ s.copies, c.Keeps Topology.twoByTwo.shape) ∧
      (∃ s', s.serve (.mark "node-2" .stopped) = s' ∧ s.Marks "node-2" .stopped s') ∧
      s.mark "node-9" .stopped = .error (.plain .key "Unknown node: node-9") := by
  have made : Topology.ofShape Topology.twoByTwo.shape = .ok Topology.twoByTwo := rfl
  obtain ⟨s, same, kept, marks, refuses⟩ :=
    ((shape_kept Topology.twoByTwo.shape).2 Topology.twoByTwo made).2.2 parting
  have stopped : ((single Topology.twoByTwo).serveAll parting).copies.map Topology.stopped
      = [["node-3"], ["node-1"]] := by
    decide
  rw [same] at stopped
  obtain ⟨s', _, served, changes⟩ := marks "node-2" (by decide) .stopped
  exact ⟨made, s, same, stopped, fun c mem => (kept c mem).1, ⟨s', served, changes⟩,
    (refuses "node-9" (by decide) .stopped).1⟩

end Shelf

end Drill
