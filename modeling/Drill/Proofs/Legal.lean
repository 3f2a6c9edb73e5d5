import Drill.Proofs.Standing
import Mathlib.Data.List.Chain

/-!
# Which scripts the check accepts

What makes a script legal can be said of each node for itself (`Script.Legal`): the requests to it
alternate and leave it running, and whenever it is stopped another member of its sub-cluster runs.
Besides, requests go to known nodes, and no wait is negative. All of this but the last word on each
node holds of a part of a script from its beginning if it holds of the whole (`Playable`), so a
script that breaks it has a first step that does.

Main statements: `playable_append_singleton`, a playable script may go on with the steps that fit
where it leads, `replayFrom_cases`, a replay takes playable scripts to their end and stops at the
first step that breaks another one, and `legal_accepted`, the check accepts exactly the legal
scripts.
-/

namespace Drill

/-- The requests to a node alternate: a stop is the first if the node runs, and a start if it does
not. -/
structure NodeState.TakesTurns (state : NodeState) (requests : List Operation) : Prop where
  first : ∀ request, requests.head? = some request → request = state.turn
  alternate : requests.IsChain (· ≠ ·)

/-- Among two requests, one that differs from another is its turn after it. -/
theorem Operation.ne_iff {last next : Operation} : last ≠ next ↔ next = last.leaves.turn := by
  cases last <;> cases next <;> decide

theorem NodeState.turn_eq_stop {state : NodeState} : state.turn = .stop ↔ state = .running := by
  cases state <;> decide

theorem NodeState.turn_eq_start {state : NodeState} : state.turn = .start ↔ state = .stopped := by
  cases state <;> decide

/-- The steps that make a request to a node. -/
theorem Step.requestTo?_eq_some {step : Step} {id : String} {request : Operation} :
    step.requestTo? id = some request ↔
      step = .stop id ∧ request = .stop ∨ step = .start id ∧ request = .start := by
  cases step <;> simp [requestTo?, eq_comm]

/-- A row of requests goes on with the one that the node can take then. -/
theorem NodeState.takesTurns_append_singleton {state : NodeState} {requests : List Operation}
    {next : Operation} : state.TakesTurns (requests ++ [next]) ↔
      state.TakesTurns requests ∧ next = (state.after requests).turn := by
  rcases List.eq_nil_or_concat' requests with rfl | ⟨front, last, rfl⟩
  · constructor
    · intro turns
      exact ⟨⟨nofun, .nil⟩, turns.first next rfl⟩
    · rintro ⟨_, own⟩
      exact ⟨fun request first => by cases first; exact own, .singleton next⟩
  · have leaves : state.after (front ++ [last]) = last.leaves := by
      unfold after
      rw [List.getLast?_concat]
      rfl
    have heads : (front ++ [last] ++ [next]).head? = (front ++ [last]).head? := by
      cases front <;> rfl
    rw [leaves, ← Operation.ne_iff]
    constructor
    · rintro ⟨first, alternate⟩
      rw [heads] at first
      rw [List.isChain_append] at alternate
      exact ⟨⟨first, alternate.1⟩, alternate.2.2 last (by simp) next rfl⟩
    · rintro ⟨⟨first, alternate⟩, differ⟩
      refine ⟨by rw [heads]; exact first, List.isChain_append.mpr ⟨alternate, .singleton next, ?_⟩⟩
      intro x final y only
      cases only
      rw [List.getLast?_concat] at final
      cases final
      exact differ

namespace Script

/-- The steps may be taken one after the other. -/
structure Playable (t : Topology) (steps : List Step) : Prop where
  known : ∀ id, .stop id ∈ steps ∨ .start id ∈ steps → id ∈ t.ids
  turns : ∀ n ∈ t.nodes, n.state.TakesTurns (requestsTo n.id steps)
  /-- Whenever a node is stopped, another member of its sub-cluster runs after the steps before. -/
  backed : ∀ n ∈ t.nodes, ∀ before after, steps = before ++ .stop n.id :: after →
    ∃ other ∈ t.nodes, other.subCluster = n.subCluster ∧ other.id ≠ n.id ∧
      (other.after before).state = .running
  forward : ∀ kind seconds, .wait kind seconds ∈ steps → seconds.isBelowZero = false

/-- The steps may be taken one after the other, and they leave every node running. -/
structure Legal (t : Topology) (steps : List Step) : Prop extends Playable t steps where
  restored : ∀ n ∈ t.nodes, (n.after steps).state = .running

variable {t t' : Topology} {steps : List Step} {step : Step} {position : Nat} {flaw : Flaw}

theorem requestsTo_append_singleton (id : String) :
    requestsTo id (steps ++ [step]) = requestsTo id steps ++ (step.requestTo? id).toList := by
  unfold requestsTo
  rw [List.filterMap_append, List.filterMap_eq_flatMap_toList _ [step], List.flatMap_singleton]

theorem playable_nil : Playable t [] where
  known := by simp
  turns := fun _ _ => ⟨nofun, .nil⟩
  backed := by simp
  forward := by simp

/-- The steps up to some point may be taken if all of them may be. -/
theorem Playable.left {later : List Step} (playable : Playable t (steps ++ later)) :
    Playable t steps where
  known id mem :=
    playable.known id (mem.imp (List.mem_append_left later) (List.mem_append_left later))
  turns n mem := by
    obtain ⟨first, alternate⟩ := playable.turns n mem
    unfold requestsTo at first alternate ⊢
    rw [List.filterMap_append] at first alternate
    refine ⟨fun request begins => first request ?_, alternate.left_of_append⟩
    rw [List.head?_append, begins]
    rfl
  backed n mem before after split := by
    refine playable.backed n mem before (after ++ later) ?_
    rw [split, List.append_assoc, List.cons_append]
  forward kind seconds mem := playable.forward kind seconds (List.mem_append_left later mem)

/-- What may be taken after some steps goes by where these leave the nodes. -/
theorem fits_led_stop {id : String} : (Step.stop id).Fits (led t steps) ↔
    ∃ n ∈ t.nodes, n.id = id ∧ (n.after steps).state = .running ∧
      ∃ other ∈ t.nodes, other.subCluster = n.subCluster ∧ other.id ≠ id ∧
        (other.after steps).state = .running := by
  simp [Step.Fits, Topology.nodes_led, Node.after]

theorem fits_led_start {id : String} : (Step.start id).Fits (led t steps) ↔
    ∃ n ∈ t.nodes, n.id = id ∧ (n.after steps).state = .stopped := by
  simp [Step.Fits, Topology.nodes_led, Node.after]

/-- A step that fits makes a request that its node can take. -/
theorem turn_of_fits (fits : step.Fits (led t steps)) {n : Node} (mem : n ∈ t.nodes)
    {request : Operation}
    (asks : step.requestTo? n.id = some request) : request = (n.after steps).state.turn := by
  rcases Step.requestTo?_eq_some.mp asks with ⟨rfl, rfl⟩ | ⟨rfl, rfl⟩
  · obtain ⟨n', mem', same, running, _⟩ := fits_led_stop.mp fits
    rw [← Topology.eq_of_id mem' mem same]
    exact (NodeState.turn_eq_stop.mpr running).symm
  · obtain ⟨n', mem', same, stopped⟩ := fits_led_start.mp fits
    rw [← Topology.eq_of_id mem' mem same]
    exact (NodeState.turn_eq_start.mpr stopped).symm

/-- A script may go on with the steps that fit where it leads. -/
theorem playable_append_singleton :
    Playable t (steps ++ [step]) ↔ Playable t steps ∧ step.Fits (led t steps) := by
  constructor
  · intro playable
    have own {n : Node} (mem : n ∈ t.nodes) {request : Operation}
        (asks : step.requestTo? n.id = some request) : request = (n.after steps).state.turn := by
      have turns := playable.turns n mem
      rw [requestsTo_append_singleton, asks] at turns
      exact (NodeState.takesTurns_append_singleton.mp turns).2
    refine ⟨playable.left, ?_⟩
    cases step with
    | stop id =>
      obtain ⟨n, mem, rfl⟩ := Topology.mem_ids.mp (playable.known id (.inl (by simp)))
      have turn := own mem (Step.requestTo?_eq_some.mpr (.inl ⟨rfl, rfl⟩))
      exact fits_led_stop.mpr ⟨n, mem, rfl, NodeState.turn_eq_stop.mp turn.symm,
        playable.backed n mem steps [] rfl⟩
    | start id =>
      obtain ⟨n, mem, rfl⟩ := Topology.mem_ids.mp (playable.known id (.inr (by simp)))
      have turn := own mem (Step.requestTo?_eq_some.mpr (.inr ⟨rfl, rfl⟩))
      exact fits_led_start.mpr ⟨n, mem, rfl, NodeState.turn_eq_start.mp turn.symm⟩
    | wait kind seconds => exact playable.forward kind seconds (by simp)
    | checkpoint label => trivial
  · rintro ⟨playable, fits⟩
    refine ⟨?_, ?_, ?_, ?_⟩
    · intro id asked
      simp only [List.mem_append, List.mem_singleton] at asked
      rcases asked with (earlier | rfl) | (earlier | rfl)
      · exact playable.known id (.inl earlier)
      · obtain ⟨n, mem, named, _⟩ := fits_led_stop.mp fits
        exact Topology.mem_ids.mpr ⟨n, mem, named⟩
      · exact playable.known id (.inr earlier)
      · obtain ⟨n, mem, named, _⟩ := fits_led_start.mp fits
        exact Topology.mem_ids.mpr ⟨n, mem, named⟩
    · intro n mem
      rw [requestsTo_append_singleton]
      cases asks : step.requestTo? n.id with
      | none =>
        rw [Option.toList_none, List.append_nil]
        exact playable.turns n mem
      | some request =>
        exact NodeState.takesTurns_append_singleton.mpr
          ⟨playable.turns n mem, turn_of_fits fits mem asks⟩
    · intro n mem before after split
      rcases List.eq_nil_or_concat' after with rfl | ⟨front, last, rfl⟩
      · -- The stop is the new step.
        obtain ⟨rfl, only⟩ := List.append_inj' split rfl
        cases only
        obtain ⟨n', mem', same, _, backed⟩ := fits_led_stop.mp fits
        rw [Topology.eq_of_id mem' mem same] at backed
        exact backed
      · rw [← List.cons_append, ← List.append_assoc] at split
        exact playable.backed n mem before front (List.append_inj' split rfl).1
    · intro kind seconds waits
      rw [List.mem_append, List.mem_singleton] at waits
      rcases waits with earlier | rfl
      · exact playable.forward kind seconds earlier
      · exact fits

/-- A replay takes a playable script to its end, and stops at the first step that makes another one
unplayable. -/
theorem replayFrom_cases (position : Nat) (t : Topology) (steps : List Step) :
    Playable t steps ∧ replayFrom position t steps = .ok (led t steps) ∨
      ∃ before step after, ∃ flaw : Flaw, steps = before ++ step :: after ∧ Playable t before ∧
        ¬Playable t (before ++ [step]) ∧ replayFrom position t steps = .error flaw ∧
        flaw.position? = some (position + before.length) := by
  induction steps using List.reverseRecOn with
  | nil => exact .inl ⟨playable_nil, rfl⟩
  | append_singleton steps step ih =>
    rw [replayFrom_append]
    rcases ih with ⟨playable, taken⟩ |
      ⟨before, bad, after, flaw, split, playable, unplayable, refused, named⟩
    · have on : led t (steps ++ [step]) = step.carry (led t steps) := List.foldl_concat ..
      rw [taken, on]
      rcases replay_cases (position + steps.length) (led t steps) step with
        ⟨fits, next⟩ | ⟨unfit, flaw, refused, named⟩
      · refine .inl ⟨playable_append_singleton.mpr ⟨playable, fits⟩, ?_⟩
        simp only [replayFrom, next]
      · refine .inr ⟨steps, step, [], flaw, rfl, playable, ?_, ?_, named⟩
        · exact fun further => unfit (playable_append_singleton.mp further).2
        · simp only [replayFrom, refused]
    · refine .inr ⟨before, bad, after ++ [step], flaw, ?_, playable, unplayable, ?_, named⟩
      · rw [split, List.append_assoc, List.cons_append]
      · rw [refused]

/-- A replay takes exactly the playable scripts to their end. -/
theorem replayFrom_eq_ok_iff :
    replayFrom position t steps = .ok t' ↔ Playable t steps ∧ t' = led t steps := by
  rcases replayFrom_cases position t steps with
    ⟨playable, taken⟩ | ⟨before, bad, after, flaw, rfl, _, unplayable, refused, _⟩
  · rw [taken, Except.ok.injEq]
    exact ⟨fun same => ⟨playable, same.symm⟩, fun same => same.2.symm⟩
  · rw [refused]
    refine ⟨nofun, fun may => absurd ?_ unplayable⟩
    have whole : Playable t (before ++ [bad] ++ after) := by
      rw [List.append_assoc, List.singleton_append]
      exact may.1
    exact whole.left

/-- The check accepts what a replay takes to an end with no node stopped. -/
theorem check_eq_ok_iff : check t steps = .ok () ↔ ∃ t', replayFrom 0 t steps = .ok t' ∧
    t'.stopped = [] := by
  unfold check
  cases replayFrom 0 t steps with
  | error flaw => simp
  | ok after => by_cases up : after.stopped = [] <;> simp [up]

/-- Nobody is left stopped exactly if every node is left running. -/
theorem stopped_led_eq_nil : (led t steps).stopped = [] ↔
    ∀ n ∈ t.nodes, (n.after steps).state = .running := by
  rw [Topology.stopped_eq_nil_iff, Topology.nodes_led]
  exact List.forall_mem_map

theorem check_eq_ok_iff_legal : check t steps = .ok () ↔ Legal t steps := by
  rw [check_eq_ok_iff]
  constructor
  · rintro ⟨t', taken, up⟩
    obtain ⟨playable, rfl⟩ := replayFrom_eq_ok_iff.mp taken
    exact ⟨playable, stopped_led_eq_nil.mp up⟩
  · intro legal
    exact ⟨led t steps, replayFrom_eq_ok_iff.mpr ⟨legal.toPlayable, rfl⟩,
      stopped_led_eq_nil.mpr legal.restored⟩

end Script

/-- A step that a replay passes over: a checkpoint, or a wait that is not negative. -/
def Step.isIdle : Step → Bool
  | stop _ | start _ => false
  | wait _ seconds => !seconds.isBelowZero
  | checkpoint _ => true

namespace Script

variable {t t' : Topology} {steps : List Step} {step : Step} {position : Nat}

theorem replayFrom_cons_eq_ok_iff : replayFrom position t (step :: steps) = .ok t' ↔
    step.Fits t ∧ replayFrom (position + 1) (step.carry t) steps = .ok t' := by
  rw [replayFrom]
  rcases replay_cases position t step with ⟨fits, taken⟩ | ⟨unfit, flaw, refused, _⟩
  · simp [taken, fits]
  · simp [refused, unfit]

/-- Idle steps make no difference to where a replay comes to. -/
theorem replayFrom_filter (position' : Nat) : replayFrom position t steps = .ok t' ↔
    replayFrom position' t (steps.filter fun step => !step.isIdle) = .ok t' := by
  induction steps generalizing t position position' with
  | nil => exact .rfl
  | cons step rest ih =>
    rw [replayFrom_cons_eq_ok_iff]
    by_cases idle : step.isIdle = true
    · have passes : step.Fits t ∧ step.carry t = t := by
        cases step with
        | stop id => cases idle
        | start id => cases idle
        | wait kind seconds =>
          have forward : seconds.isBelowZero = false := by simpa [Step.isIdle] using idle
          exact ⟨forward, rfl⟩
        | checkpoint label => exact ⟨trivial, rfl⟩
      rw [List.filter_cons_of_neg (by simp [idle]), passes.2, ih position']
      exact and_iff_right passes.1
    · rw [List.filter_cons_of_pos (by simp [idle]), replayFrom_cons_eq_ok_iff, ih (position' + 1)]

/-- Idle steps make no difference to the check. -/
theorem check_filter (steps : List Step) :
    check t steps = .ok () ↔ check t (steps.filter fun step => !step.isIdle) = .ok () := by
  rw [check_eq_ok_iff, check_eq_ok_iff]
  exact exists_congr fun t' => and_congr_left fun _ => replayFrom_filter 0

/-- The check accepts exactly the legal scripts. For a script that is not even playable it raises an
error that names the position of the first step that makes it so, and for any other one an error
that names the nodes that are left stopped. Idle steps make no difference to what is accepted. -/
theorem legal_accepted (t : Topology) (steps : List Step) :
    (check t steps = .ok () ↔ Legal t steps) ∧
      (¬Playable t steps → ∃ before step after, ∃ what : String, steps = before ++ step :: after ∧
        Playable t before ∧ ¬Playable t (before ++ [step]) ∧
        (check t steps).mapError Flaw.fault = .error (.script s!"Step {before.length}: {what}")) ∧
      (Playable t steps → ¬Legal t steps → (check t steps).mapError Flaw.fault
        = .error (.script ("Script ends with nodes still stopped: " ++ ", ".intercalate
          ((t.nodes.filter fun n => (n.after steps).state = .stopped).map (·.id))))) ∧
      ∀ other : List Step,
        other.filter (fun step => !step.isIdle) = steps.filter (fun step => !step.isIdle) →
        (check t other = .ok () ↔ check t steps = .ok ()) := by
  refine ⟨check_eq_ok_iff_legal, ?_, ?_, ?_⟩
  · intro unplayable
    rcases replayFrom_cases 0 t steps with
      ⟨playable, _⟩ | ⟨before, step, after, flaw, split, playable, first, refused, named⟩
    · exact absurd playable unplayable
    · rw [Nat.zero_add] at named
      obtain ⟨what, text⟩ := Flaw.text_of_position named
      refine ⟨before, step, after, what, split, playable, first, ?_⟩
      rw [check, refused, ← text]
      rfl
  · intro playable illegal
    -- What remains is what the check looks at last: the nodes that the script leaves down.
    have taken : replayFrom 0 t steps = .ok (led t steps) :=
      replayFrom_eq_ok_iff.mpr ⟨playable, rfl⟩
    have left : (led t steps).stopped ≠ [] := fun up => illegal ⟨playable, stopped_led_eq_nil.mp up⟩
    have ids : (led t steps).stopped
        = (t.nodes.filter fun n => (n.after steps).state = .stopped).map (·.id) := by
      rw [Topology.stopped_eq, Topology.nodes_led, List.filter_map, List.map_map]
      rfl
    rw [check, taken, ← ids]
    show (if _ then _ else _ : Except Flaw Unit).mapError Flaw.fault = _
    rw [if_neg left]
    rfl
  · intro other same
    rw [check_filter, same, ← check_filter]

/-- Nodes of which the third one is down. -/
def lopsided : Topology := Topology.twoByTwo.mark "node-3" .stopped

/-- Both members of a sub-cluster are stopped, one after the other. -/
def greedy : List Step :=
  [.start "node-3", .stop "node-1", .wait .outage .one, .checkpoint "one down", .stop "node-2",
    .start "node-2", .start "node-1"]

/-- The node that is down at first is the only one that is down in the end. -/
def careless : List Step := [.stop "node-1", .start "node-1"]

/-- The same requests with a wait and a checkpoint between them. -/
def patient : List Step :=
  [.stop "node-1", .wait .outage .half, .checkpoint "one down", .start "node-1",
    .checkpoint "all up"]

theorem greedy_refused :
    (¬Playable lopsided greedy ∧ ∃ before step after, ∃ what : String,
      greedy = before ++ step :: after ∧
      Playable lopsided before ∧ ¬Playable lopsided (before ++ [step]) ∧
      (check lopsided greedy).mapError Flaw.fault
        = .error (.script s!"Step {before.length}: {what}")) ∧
    (Playable lopsided careless ∧ ¬Legal lopsided careless ∧
      (check lopsided careless).mapError Flaw.fault
        = .error (.script "Script ends with nodes still stopped: node-3")) ∧
    (check lopsided patient = .ok () ↔ check lopsided careless = .ok ()) := by
  have unplayable : ¬Playable lopsided greedy := by
    intro playable
    have backed := playable.backed ⟨"node-2", "clusterA", .running⟩ (by decide)
      [.start "node-3", .stop "node-1", .wait .outage .one, .checkpoint "one down"] _ rfl
    exact absurd backed (by decide)
  have taken : replayFrom 0 lopsided careless = .ok (led lopsided careless) := rfl
  have playable : Playable lopsided careless := (replayFrom_eq_ok_iff.mp taken).1
  have illegal : ¬Legal lopsided careless := by
    intro legal
    exact absurd (legal.restored ⟨"node-3", "clusterB", .stopped⟩ (by decide)) (by decide)
  obtain ⟨_, fails, _, _⟩ := legal_accepted lopsided greedy
  obtain ⟨_, _, left, idle⟩ := legal_accepted lopsided careless
  exact ⟨⟨unplayable, fails unplayable⟩, ⟨playable, illegal, left playable illegal⟩,
    idle patient (by decide)⟩

end Script

end Drill
