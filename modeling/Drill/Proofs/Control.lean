import Drill.Cluster

/-!
# What a request to a node does to a cluster

A request is kept off by an ordered fault, or it is noted down and then refused, or it is noted down
and honored. Main statements: `stop_cases` and `start_cases`, what is left of them where the outcome
is known (`stop_ok`, `stop_error` and the same for starts), `stop_frame` and `start_frame`, a
request reaches nothing but the nodes and the notes, and `stop_recast` and `start_recast`, it meets
the trouble of its own kind only.
-/

namespace Drill.Cluster

/-- The cluster when one more request was noted down, with the grace period of a stop. -/
def asked (c : Cluster) (operation : Operation) (id : String) (gracePeriods : List Int) : Cluster :=
  { c with
    requests := c.requests ++ [(operation, id)]
    gracePeriods := c.gracePeriods ++ gracePeriods }

/-- Would a request that is noted down be honored, if there is such a node? -/
def honors (c : Cluster) : Operation → String → Prop
  | .stop, id => id ∉ c.trouble.stubborn
  | .start, id => id ∉ c.trouble.dead

instance (c : Cluster) (operation : Operation) (id : String) :
    Decidable (c.honors operation id) := by
  cases operation <;> unfold honors <;> infer_instance

/-- The fault of a request names the node and the operation, if it is one of control. -/
theorem during_during (fault : Fault) (id : String) (operation : Operation) :
    (fault.during id operation).during id operation = fault.during id operation := by
  cases fault <;> rfl

/-- A stop is kept off, noted down and refused, or noted down and honored. -/
theorem stop_cases (c : Cluster) (id : String) (grace : Int) :
    (∃ fault, fault.during id .stop = fault ∧ c.stop id grace = (.error fault, c)) ∨
    (∃ fault, fault.during id .stop = fault ∧ ¬ (c.honors .stop id ∧ id ∈ c.topology.ids) ∧
      c.stop id grace = (.error fault, c.asked .stop id [grace])) ∨
    (c.honors .stop id ∧ id ∈ c.topology.ids ∧
      ∃ most, c.stop id grace = (.ok (), { c.asked .stop id [grace] with
        topology := c.topology.mark id .stopped, mostStopped := most })) := by
  unfold stop
  cases c.trouble.stops.get? id with
  | some fault => exact .inl ⟨_, during_during fault id .stop, rfl⟩
  | none =>
    by_cases stubborn : id ∈ c.trouble.stubborn
    · refine .inr (.inl ⟨.plain .runtime s!"{id} did not shut down within {grace}ms", rfl,
        fun ⟨honors, _⟩ => honors stubborn, ?_⟩)
      simp only [stubborn, if_true]
      rfl
    · by_cases known : id ∈ c.topology.ids
      · refine .inr (.inr ⟨stubborn, known, ?_⟩)
        simp only [stubborn, if_false, mark, Topology.marked, known, if_true]
        exact ⟨_, rfl⟩
      · refine .inr (.inl ⟨Topology.unknownNode id, rfl, fun ⟨_, h⟩ => known h, ?_⟩)
        simp only [stubborn, if_false, mark, Topology.marked, known]
        rfl

/-- A start is kept off, noted down and refused, or noted down and honored. -/
theorem start_cases (c : Cluster) (id : String) :
    (∃ fault, fault.during id .start = fault ∧ c.start id = (.error fault, c)) ∨
    (∃ fault, fault.during id .start = fault ∧ ¬ (c.honors .start id ∧ id ∈ c.topology.ids) ∧
      c.start id = (.error fault, c.asked .start id [])) ∨
    (c.honors .start id ∧ id ∈ c.topology.ids ∧
      c.start id =
      (.ok (), { c.asked .start id [] with topology := c.topology.mark id .running })) := by
  unfold start
  cases c.trouble.starts.get? id with
  | some fault => exact .inl ⟨_, during_during fault id .start, rfl⟩
  | none =>
    by_cases dead : id ∈ c.trouble.dead
    · refine .inr (.inl ⟨.control s!"{id} refused to start" id Operation.start.name, rfl,
        fun ⟨honors, _⟩ => honors dead, ?_⟩)
      simp [dead, asked]
    · by_cases known : id ∈ c.topology.ids
      · refine .inr (.inr ⟨dead, known, ?_⟩)
        simp [dead, mark, Topology.marked, known, asked]
      · refine .inr (.inl ⟨Topology.unknownNode id, rfl, fun ⟨_, h⟩ => known h, ?_⟩)
        simp [dead, mark, Topology.marked, known, asked]

section

variable {c c' : Cluster} {id : String} {grace : Int} {fault : Fault} {result : Except Fault Unit}

/-- A stop that is honored is noted down and takes its node down. -/
theorem stop_ok (honored : c.stop id grace = (.ok (), c')) :
    c.honors .stop id ∧ id ∈ c.topology.ids ∧ ∃ most, c' = { c.asked .stop id [grace] with
      topology := c.topology.mark id .stopped, mostStopped := most } := by
  rcases c.stop_cases id grace with ⟨_, _, h⟩ | ⟨_, _, _, h⟩ | ⟨honors, known, most, h⟩
  all_goals
    rw [h] at honored
    cases honored
  exact ⟨honors, known, most, rfl⟩

/-- A start that is honored is noted down and brings its node up. -/
theorem start_ok (honored : c.start id = (.ok (), c')) :
    c.honors .start id ∧ id ∈ c.topology.ids ∧
      c' = { c.asked .start id [] with topology := c.topology.mark id .running } := by
  rcases c.start_cases id with ⟨_, _, h⟩ | ⟨_, _, _, h⟩ | ⟨honors, known, h⟩
  all_goals
    rw [h] at honored
    cases honored
  exact ⟨honors, known, rfl⟩

/-- A stop that fails is kept off or noted down, and its fault names the node and the operation if
it is one of control. -/
theorem stop_error (refused : c.stop id grace = (.error fault, c')) :
    fault.during id .stop = fault ∧ (c' = c ∨
      ¬ (c.honors .stop id ∧ id ∈ c.topology.ids) ∧ c' = c.asked .stop id [grace]) := by
  rcases c.stop_cases id grace with ⟨_, named, h⟩ | ⟨_, named, dishonored, h⟩ | ⟨_, _, _, h⟩
  all_goals
    rw [h] at refused
    cases refused
  · exact ⟨named, .inl rfl⟩
  · exact ⟨named, .inr ⟨dishonored, rfl⟩⟩

/-- A start that fails is kept off or noted down, and its fault names the node and the operation if
it is one of control. -/
theorem start_error (refused : c.start id = (.error fault, c')) :
    fault.during id .start = fault ∧ (c' = c ∨
      ¬ (c.honors .start id ∧ id ∈ c.topology.ids) ∧ c' = c.asked .start id []) := by
  rcases c.start_cases id with ⟨_, named, h⟩ | ⟨_, named, dishonored, h⟩ | ⟨_, _, h⟩
  all_goals
    rw [h] at refused
    cases refused
  · exact ⟨named, .inl rfl⟩
  · exact ⟨named, .inr ⟨dishonored, rfl⟩⟩

/-- A stop that is not kept off gives its grace period. -/
theorem stop_gracePeriods (asked : c.stop id grace = (result, c')) :
    c'.gracePeriods = c.gracePeriods ∨ c'.gracePeriods = c.gracePeriods ++ [grace] := by
  cases result with
  | ok _ =>
    obtain ⟨_, _, _, rfl⟩ := stop_ok asked
    exact .inr rfl
  | error fault =>
    obtain ⟨_, rfl | ⟨_, rfl⟩⟩ := stop_error asked
    · exact .inl rfl
    · exact .inr rfl

/-- A start gives no grace period. -/
theorem start_gracePeriods (asked : c.start id = (result, c')) :
    c'.gracePeriods = c.gracePeriods := by
  cases result with
  | ok _ =>
    obtain ⟨_, _, rfl⟩ := start_ok asked
    exact List.append_nil _
  | error fault =>
    obtain ⟨_, rfl | ⟨_, rfl⟩⟩ := start_error asked
    · rfl
    · exact List.append_nil _

end

/-- Nothing but nodes and notes of requests lies between two states of a cluster. -/
def OnlyControl (c c' : Cluster) : Prop := ∃ topology requests gracePeriods mostStopped,
  c' = { c with topology, requests, gracePeriods, mostStopped }

theorem OnlyControl.refl (c : Cluster) : c.OnlyControl c := ⟨_, _, _, _, rfl⟩

theorem stop_frame {c c' : Cluster} {id : String} {grace : Int} {result : Except Fault Unit}
    (h : c.stop id grace = (result, c')) : c.OnlyControl c' := by
  rcases c.stop_cases id grace with ⟨_, _, h'⟩ | ⟨_, _, _, h'⟩ | ⟨_, _, _, h'⟩
  all_goals
    rw [h'] at h
    cases h
    exact ⟨_, _, _, _, rfl⟩

theorem start_frame {c c' : Cluster} {id : String} {result : Except Fault Unit}
    (h : c.start id = (result, c')) : c.OnlyControl c' := by
  rcases c.start_cases id with ⟨_, _, h'⟩ | ⟨_, _, _, h'⟩ | ⟨_, _, h'⟩
  all_goals
    rw [h'] at h
    cases h
    exact ⟨_, _, _, _, rfl⟩

/-- The cluster with another counter and other trouble ahead. -/
def recast (serial : Int → Int) (trouble : Trouble → Trouble) (c : Cluster) : Cluster :=
  { c with serial := serial c.serial, trouble := trouble c.trouble }

section

variable {serial : Int → Int} {trouble : Trouble → Trouble} (c : Cluster)

/-- Whoever asks for the service meets the trouble of acquisition only. -/
theorem acquire_recast (acquisition : ∀ t, (trouble t).acquisition = t.acquisition)
    (implementation : String) :
    (c.recast serial trouble).acquire implementation
      = ((c.acquire implementation).1, (c.acquire implementation).2.recast serial trouble) := by
  unfold acquire recast
  dsimp only
  rw [acquisition]
  cases c.trouble.acquisition <;> rfl

/-- A stop meets the trouble of stops only. -/
theorem stop_recast (stops : ∀ t, (trouble t).stops = t.stops)
    (stubborn : ∀ t, (trouble t).stubborn = t.stubborn) (id : String) (grace : Int) :
    (c.recast serial trouble).stop id grace
      = ((c.stop id grace).1, (c.stop id grace).2.recast serial trouble) := by
  unfold stop mark recast
  dsimp only
  rw [stops, stubborn]
  cases c.trouble.stops.get? id with
  | some fault => rfl
  | none =>
    by_cases stays : id ∈ c.trouble.stubborn
    · simp only [stays, if_true]
    · simp only [stays, if_false]
      cases c.topology.marked id .stopped <;> rfl

/-- A start meets the trouble of starts only. -/
theorem start_recast (starts : ∀ t, (trouble t).starts = t.starts)
    (dead : ∀ t, (trouble t).dead = t.dead) (id : String) :
    (c.recast serial trouble).start id =
    ((c.start id).1, (c.start id).2.recast serial trouble) := by
  unfold start mark recast
  dsimp only
  rw [starts, dead]
  cases c.trouble.starts.get? id with
  | some fault => rfl
  | none =>
    by_cases stays : id ∈ c.trouble.dead
    · simp only [stays, if_true]
    · simp only [stays, if_false]
      cases c.topology.marked id .running <;> rfl

end

end Drill.Cluster
