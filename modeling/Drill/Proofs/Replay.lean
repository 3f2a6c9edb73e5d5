import Drill.Proofs.Scripted

/-!
# What the check finds in a built script

A built script is a row of visits (`Script.visits`): it takes a node down, and up again before the
next one (`Visit.steps`). A visit leaves the nodes as they were, so whether a node may be stopped
can be read off the topology before the first step (`hitch?`): the check stops at the first node
that may not, and says so at the position of its stop. How often a script checks in between has no
part in this, but for the position.

Main statements: `build_eq_visits`, `replay_visits` and `replay_visits_error`, the visits before the
first hitch change nothing and the hitch is what the check finds, and `check_build_iff`, the script
that is built for a topology passes exactly if all nodes run and every sub-cluster has two members
at least.
-/

namespace Drill.Script

/-- Why a node may not be stopped now, at some position of a script. -/
def hitch? (t : Topology) (id : String) : Option (Nat → Flaw) :=
  match t.node? id with
  | none => some (.unknownNode · id)
  | some node =>
    if node.state = .stopped then some (.alreadyStopped · id)
    else if hasRunningSibling t id then none
    else some (.lastRunning · id node.subCluster)

theorem replay_stop (position : Nat) (t : Topology) (id : String) :
    replay position t (.stop id) = match hitch? t id with
      | none => .ok (t.mark id .stopped)
      | some flaw => .error (flaw position) := by
  simp only [replay, hitch?]
  cases t.node? id with
  | none => rfl
  | some node =>
    by_cases stopped : node.state = .stopped
    · simp only [stopped, if_true]
    · cases hasRunningSibling t id <;> simp [stopped]

/-- A node that may be stopped is a running one. -/
theorem running_of_hitch {t : Topology} {id : String} (clear : hitch? t id = none) :
    ∃ n, t.node? id = some n ∧ n.state = .running := by
  unfold hitch? at clear
  cases found : t.node? id with
  | none =>
    rw [found] at clear
    cases clear
  | some n =>
    refine ⟨n, rfl, ?_⟩
    cases state : n.state with
    | running => rfl
    | stopped => simp [found, state] at clear

/-- A node that was just stopped may be started, and is then what it was. -/
theorem replay_start {t : Topology} {id : String} (clear : hitch? t id = none) (position : Nat) :
    replay position (t.mark id .stopped) (.start id) = .ok t := by
  obtain ⟨n, found, running⟩ := running_of_hitch clear
  have known := Topology.node?_eq_some.mp found
  have only (other : Node) (mem : other ∈ t.nodes) (named : other.id = id) :
    other.state = .running := by
    have same := Topology.node?_eq_some.mpr ⟨mem, named⟩
    rw [found] at same
    cases same
    exact running
  have marked : (t.mark id .stopped).node? id = some { n with state := .stopped } := by
    rw [Topology.node?_eq_some, Topology.nodes_mark]
    refine ⟨List.mem_map.mpr ⟨n, known.1, ?_⟩, known.2⟩
    rw [if_pos known.2]
  simp only [replay, marked]
  exact congrArg Except.ok (Topology.mark_mark_of_running only)

/-- A node that a script takes down and up again, and whether this is always checked at once. -/
structure Visit where
  id : String
  label : String
  first : Bool

/-- The visits of a script, one for each node. -/
def visits (t : Topology) : List Visit :=
  t.subClusters.flatMap fun c =>
    c.ids.zipIdx.map fun (id, index) => ⟨id, s!"{c.name}-node{index}", index = 0⟩

/-- The steps of a visit. -/
def Visit.steps (pace : Pace) (v : Visit) : List Step :=
  toggle pace v.id v.label (pace.strict || v.first)

theorem Visit.steps_begin (pace : Pace) (v : Visit) :
    ∃ rest, v.steps pace = .stop v.id :: rest := by
  unfold Visit.steps toggle
  exact ⟨_, rfl⟩

theorem build_eq_visits (t : Topology) (pace : Pace) :
    build t pace = (visits t).flatMap (Visit.steps pace) := by
  simp only [build, visits, List.flatMap_assoc, List.flatMap_map]
  rfl

/-- Every node is visited once, in order. -/
theorem ids_visits (t : Topology) : (visits t).map Visit.id = t.ids := by
  have ids (c : SubCluster) : c.ids.zipIdx.map Prod.fst = c.ids := List.zipIdx_map_fst 0 c.ids
  simp [visits, Topology.subClusters, Topology.ids, Function.comp_def, ids]

theorem visit_known {t : Topology} {v : Visit} (mem : v ∈ visits t) : v.id ∈ t.ids := by
  rw [← ids_visits]
  exact List.mem_map_of_mem mem

/-- No wait of the pace is a negative one. -/
structure Pace.Forward (pace : Pace) : Prop where
  outage : pace.outage.isBelowZero = false
  restart : pace.restart.isBelowZero = false

variable {t : Topology} {pace : Pace}

/-- A visit of a node that may be stopped changes nothing. -/
theorem replay_visit (forward : pace.Forward) {v : Visit} (clear : hitch? t v.id = none)
    (position : Nat) : replayFrom position t (v.steps pace) = .ok t := by
  have wait (position : Nat) (t : Topology) (kind : WaitKind) {seconds : Number.Double}
      (forward : seconds.isBelowZero = false) : replay position t (.wait kind seconds) = .ok t := by
    simp [replay, forward]
  have checkpoint (position : Nat) (t : Topology) (label : String) :
      replay position t (.checkpoint label) = .ok t := rfl
  unfold Visit.steps toggle
  cases pace.strict || v.first <;>
    simp [replayFrom, replay_stop, clear, replay_start clear, wait, checkpoint, forward.outage,
      forward.restart]

/-- Visits of nodes that may be stopped change nothing. -/
theorem replay_visits (forward : pace.Forward) {vs : List Visit}
    (clear : ∀ v ∈ vs, hitch? t v.id = none) (position : Nat) :
    replayFrom position t (vs.flatMap (Visit.steps pace)) = .ok t := by
  induction vs generalizing position with
  | nil => rfl
  | cons v vs ih =>
    rw [List.flatMap_cons, replayFrom_append, replay_visit forward (clear v List.mem_cons_self)]
    exact ih (fun u mem => clear u (List.mem_cons_of_mem v mem)) _

/-- The first node that may not be stopped is what a replay finds. -/
theorem replay_visits_error (forward : pace.Forward) {before after : List Visit} {v : Visit}
    {flaw : Nat → Flaw} (clear : ∀ u ∈ before, hitch? t u.id = none)
    (hitch : hitch? t v.id = some flaw)
    (position : Nat) :
    replayFrom position t ((before ++ v :: after).flatMap (Visit.steps pace))
      = .error (flaw (position + (before.flatMap (Visit.steps pace)).length)) := by
  obtain ⟨rest, begins⟩ := v.steps_begin pace
  rw [List.flatMap_append, replayFrom_append, replay_visits forward clear,
    List.flatMap_cons, begins]
  simp [replayFrom, replay_stop, hitch]

/-- Either every node may be stopped, or there is a first one that may not. -/
theorem visits_cases (t : Topology) :
    (∀ v ∈ visits t, hitch? t v.id = none) ∨
      ∃ before v after flaw, visits t = before ++ v :: after ∧
        (∀ u ∈ before, hitch? t u.id = none) ∧
        hitch? t v.id = some flaw := by
  cases found : (visits t).find? fun v => (hitch? t v.id).isSome with
  | none =>
    refine .inl fun v mem => ?_
    simpa using List.find?_eq_none.mp found v mem
  | some v =>
    obtain ⟨hitch, before, after, split, clear⟩ := List.find?_eq_some_iff_append.mp found
    obtain ⟨flaw, hitch⟩ := Option.isSome_iff_exists.mp hitch
    exact .inr ⟨before, v, after, flaw, split, fun u mem => by simpa using clear u mem, hitch⟩

/-- Where every node may be stopped, all nodes run. -/
theorem stopped_of_clear (clear : ∀ v ∈ visits t, hitch? t v.id = none) : t.stopped = [] := by
  rw [Topology.stopped_eq_nil_iff]
  intro n mem
  have known : n.id ∈ (visits t).map Visit.id := by
    rw [ids_visits, ← Topology.ids_nodes]
    exact List.mem_map_of_mem mem
  obtain ⟨v, visited, named⟩ := List.mem_map.mp known
  obtain ⟨n', found, running⟩ := running_of_hitch (clear v visited)
  rw [Topology.node?_eq_some.mpr ⟨mem, named.symm⟩] at found
  cases found
  exact running

/-- Where all nodes run and none is alone, every node may be stopped. -/
theorem clear_of_up (up : t.stopped = []) (two : 2 ≤ t.first.ids.length) {id : String}
    (known : id ∈ t.ids) : hitch? t id = none := by
  have running := Topology.stopped_eq_nil_iff.mp up
  have find (other : String) (mem : other ∈ t.ids) : ∃ n, t.node? other = some n ∧
    n.state = .running := by
    rw [← Topology.ids_nodes] at mem
    obtain ⟨n, mem, named⟩ := List.mem_map.mp mem
    exact ⟨n, Topology.node?_eq_some.mpr ⟨mem, named⟩, running n mem⟩
  have sibling : hasRunningSibling t id = true := by
    obtain ⟨c, home, row⟩ : ∃ c, t.homeOf? id = some c ∧ c ∈ t.subClusters := by
      obtain ⟨c, found⟩ := Topology.exists_home known
      exact ⟨c, found, List.mem_of_find?_eq_some found⟩
    have nodup := List.nodup_append.mp t.nodup
    -- A sub-cluster has two members, so besides this one there is another one, and that runs.
    obtain ⟨other, mem, ne⟩ : ∃ other ∈ c.ids, other ≠ id := by
      unfold Topology.subClusters at row
      rcases List.mem_cons.mp row with rfl | row
      · exact SubCluster.exists_other nodup.1 two
      · cases List.mem_singleton.mp row
        exact SubCluster.exists_other nodup.2.1 (Topology.two_le_second two)
    have member : other ∈ t.ids := by
      unfold Topology.subClusters at row
      rcases List.mem_cons.mp row with rfl | row
      · exact List.mem_append_left _ mem
      · cases List.mem_singleton.mp row
        exact List.mem_append_right _ mem
    obtain ⟨n, found, running⟩ := find other member
    unfold hasRunningSibling Topology.siblings?
    rw [home]
    refine List.any_eq_true.mpr ⟨other, List.mem_filter.mpr ⟨mem, by simpa using ne⟩, ?_⟩
    simp [found, running]
  obtain ⟨n, found, running⟩ := find id known
  unfold hitch?
  simp [found, running, sibling]

/-- The script that is built for a topology passes if every node may be stopped. -/
theorem check_of_clear (forward : pace.Forward) (clear : ∀ v ∈ visits t, hitch? t v.id = none) :
    check t (build t pace) = .ok () := by
  unfold check
  rw [build_eq_visits, replay_visits forward clear]
  simp [stopped_of_clear clear]

/-- Otherwise the check finds the first node that may not, at the position of its stop. -/
theorem check_of_hitch (forward : pace.Forward) {before after : List Visit} {v : Visit}
    {flaw : Nat → Flaw} (split : visits t = before ++ v :: after)
    (clear : ∀ u ∈ before, hitch? t u.id = none) (hitch : hitch? t v.id = some flaw) :
    ∃ position, (build t pace)[position]? = some (.stop v.id) ∧
      check t (build t pace) = .error (flaw position) := by
  refine ⟨(before.flatMap (Visit.steps pace)).length, ?_, ?_⟩
  · obtain ⟨rest, begins⟩ := v.steps_begin pace
    rw [build_eq_visits, split, List.flatMap_append, List.flatMap_cons, begins]
    simp
  · unfold check
    rw [build_eq_visits, split, replay_visits_error forward clear hitch]
    simp

/-- The script that is built for a topology passes exactly if all nodes run and none is alone. -/
theorem check_build_iff (forward : pace.Forward) :
    check t (build t pace) = .ok () ↔ t.stopped = [] ∧ 2 ≤ t.first.ids.length := by
  constructor
  · intro checked
    refine ⟨?_, two_le_of_check checked⟩
    rcases visits_cases t with clear | ⟨before, v, after, flaw, split, clear, hitch⟩
    · exact stopped_of_clear clear
    · obtain ⟨position, _, flawed⟩ := check_of_hitch forward split clear hitch
      rw [flawed] at checked
      cases checked
  · rintro ⟨up, two⟩
    exact check_of_clear forward fun v mem => clear_of_up up two (visit_known mem)

end Drill.Script
