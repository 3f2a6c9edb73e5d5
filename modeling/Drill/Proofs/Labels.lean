import Drill.Proofs.Announced
import Drill.Proofs.Replay
import Drill.Proofs.Standing
import Drill.Proofs.Tally

/-!
# What a label says

The label of a node is the name of its sub-cluster and its place there. Whatever the name is, the
place can be read off the end of the label, since no place begins with anything but a digit and the
last thing before it is none; and what is left of it is the name. The label of a checkpoint adds
whether the node has just gone down or come back, so a violation says at which node and in which of
its two phases it was found.

Main statements: `numbered_inj`, a name and a number can be read off a label, `labels_nodup`, no two
checkpoints have one label, `checkpoint_follows_request`, the phase is that of the last request,
`next_violation`, the moments at which a violation comes up, and `label_identifies`, all of it
together.
-/

namespace Drill

/-- Two phases of a script for each node: it has just gone down, or it has just come back. -/
inductive Script.Phase where
  | down
  | up
deriving DecidableEq

namespace Script.Phase

/-- The label of the checkpoint in a phase of a node. -/
def label : Phase → String → String
  | down => downLabel
  | up => upLabel

/-- The request that a phase begins with. -/
def operation : Phase → Operation
  | down => .stop
  | up => .start

end Script.Phase

/-- The label of the checkpoint in a phase of a node, by the node's id. -/
def Topology.phaseLabel (t : Topology) (id : String) (phase : Script.Phase) : Except Fault String :=
  (t.label id).map phase.label

/-- What comes before a row of digits can be read off, if its last character is no digit. -/
theorem digits_inj {before before' digits digits' : List Char} {c c' : Char}
    (row : ∀ d ∈ digits, d.isDigit = true) (row' : ∀ d ∈ digits', d.isDigit = true)
    (mark : c.isDigit = false) (mark' : c'.isDigit = false)
    (same : before ++ c :: digits = before' ++ c' :: digits') :
    before = before' ∧ digits = digits' := by
  -- If one beginning were longer, a mark would be among the digits of the other row.
  rcases List.append_eq_append_iff.mp same with ⟨more, split, rest⟩ | ⟨more, split, rest⟩
  · rcases List.cons_eq_append_iff.mp rest with ⟨rfl, rest⟩ | ⟨more, rfl, within⟩
    · rw [List.append_nil] at split
      cases rest
      exact ⟨split.symm, rfl⟩
    · have mem : c' ∈ digits := by
        rw [within]
        exact List.mem_append_right _ List.mem_cons_self
      exact absurd (row c' mem) (by simp [mark'])
  · rcases List.cons_eq_append_iff.mp rest with ⟨rfl, rest⟩ | ⟨more, rfl, within⟩
    · rw [List.append_nil] at split
      cases rest
      exact ⟨split, rfl⟩
    · have mem : c ∈ digits' := by
        rw [within]
        exact List.mem_append_right _ List.mem_cons_self
      exact absurd (row' c mem) (by simp [mark])

/-- A name and a number can be read off a label. -/
theorem numbered_inj {name other : String} {i j : Nat}
    (same : s!"{name}-node{i}" = s!"{other}-node{j}") :
    name = other ∧ i = j := by
  have row (n : Nat) : ∀ d ∈ Nat.toDigits 10 n, d.isDigit = true := by
    intro d mem
    exact Nat.isDigit_of_mem_toDigits (by decide) (by decide) mem
  have letters (name : String) (n : Nat) : (s!"{name}-node{n}").toList
      = (name.toList ++ ['-', 'n', 'o', 'd']) ++ 'e' :: Nat.toDigits 10 n := by
    show (name ++ "-node" ++ n.repr).toList = _
    rw [String.toList_append, String.toList_append, Nat.toList_repr]
    show name.toList ++ ['-', 'n', 'o', 'd', 'e'] ++ _ = _
    simp only [List.append_assoc, List.cons_append, List.nil_append]
  have same := congrArg String.toList same
  rw [letters, letters] at same
  obtain ⟨names, numbers⟩ := digits_inj (row i) (row j) (by decide) (by decide) same
  refine ⟨String.toList_inj.mp (List.append_cancel_right names), ?_⟩
  have read := congrArg (Nat.ofDigitChars 10 · 0) numbers
  simpa only [Nat.ofDigitChars_ten_toDigits] using read

namespace Topology

variable {t : Topology} {id id' label : String}

/-- No two nodes have one label. -/
theorem label_inj (labelled : t.label id = .ok label) (labelled' : t.label id' = .ok label) :
    id = id' := by
  obtain ⟨c, row, member, rfl⟩ := label_eq_ok_iff.mp labelled
  obtain ⟨c', row', member', same⟩ := label_eq_ok_iff.mp labelled'
  obtain ⟨names, places⟩ := numbered_inj same
  cases eq_of_name row row' names
  exact (List.idxOf_inj member).mp places

end Topology

namespace Script

variable {t : Topology} {pace : Pace} {phase phase' : Phase} {name name' : String}

/-- A phase and a node can be read off the label of a checkpoint. -/
theorem Phase.label_inj (same : phase.label name = phase'.label name') :
    phase = phase' ∧ name = name' := by
  have down (name : String) : (downLabel name).toList.getLast? = some 'n' := by
    show ("after " ++ name ++ " was shut down").toList.getLast? = _
    rw [String.toList_append, List.getLast?_append]
    rfl
  have up (name : String) : (upLabel name).toList.getLast? = some 'p' := by
    show ("after " ++ name ++ " was brought back up").toList.getLast? = _
    rw [String.toList_append, List.getLast?_append]
    rfl
  have ends := congrArg (fun label => label.toList.getLast?) same
  cases phase with
  | down =>
    cases phase' with
    | down =>
      exact ⟨rfl, (String.append_right_inj "after ").mp ((String.append_left_inj _).mp same)⟩
    | up =>
      have ends := (down name).symm.trans (ends.trans (up name'))
      cases ends
  | up =>
    cases phase' with
    | down =>
      have ends := (up name).symm.trans (ends.trans (down name'))
      cases ends
    | up => exact ⟨rfl, (String.append_right_inj "after ").mp ((String.append_left_inj _).mp same)⟩

/-- The labels of checkpoints begin alike. -/
theorem Phase.label_begins (phase : Phase) (name : String) :
    ∃ rest, (phase.label name).toList = 'a' :: 'f' :: rest := by
  have after (rest : String) : ∃ letters, ("after " ++ rest).toList = 'a' :: 'f' :: letters := by
    rw [String.toList_append]
    exact ⟨_, rfl⟩
  cases phase with
  | down =>
    show ∃ rest, ("after " ++ name ++ " was shut down").toList = _
    rw [String.append_assoc]
    exact after _
  | up =>
    show ∃ rest, ("after " ++ name ++ " was brought back up").toList = _
    rw [String.append_assoc]
    exact after _

theorem Phase.label_ne_baseline (phase : Phase) (name : String) : phase.label name ≠ baseline := by
  intro same
  obtain ⟨rest, begins⟩ := phase.label_begins name
  rw [same] at begins
  cases begins

theorem Phase.label_ne_warmUpLabel (phase : Phase) (name : String) :
    phase.label name ≠ Run.Plan.warmUpLabel := by
  intro same
  obtain ⟨rest, begins⟩ := phase.label_begins name
  rw [same] at begins
  cases begins

/-- What is called the label of a visit is the label of its node. -/
theorem Visit.labelled {v : Visit} (visited : v ∈ visits t) : t.label v.id = .ok v.label := by
  obtain ⟨c, row, mem⟩ := List.mem_flatMap.mp visited
  obtain ⟨⟨id, index⟩, place, rfl⟩ := List.mem_map.mp mem
  obtain ⟨bound, rfl⟩ := List.getElem?_eq_some_iff.mp (List.mk_mem_zipIdx_iff_getElem?.mp place)
  refine Topology.label_eq_ok_iff.mpr ⟨c, row, List.getElem_mem bound, ?_⟩
  rw [(Topology.nodup_ids row).idxOf_getElem index bound]

/-- The labels of the checkpoints of a visit. -/
theorem Visit.labels (pace : Pace) (v : Visit) : (v.steps pace).filterMap Step.label?
    = (if pace.strict || v.first then [Phase.down] else []).map (·.label v.label) ++
    [Phase.up.label v.label] := by
  unfold Visit.steps toggle
  cases pace.strict || v.first <;> rfl

/-- The checkpoints of a visit are labelled with its node. -/
theorem Visit.mem_labels {v : Visit} {label : String}
    (mem : label ∈ (v.steps pace).filterMap Step.label?) :
    ∃ phase : Phase, label = phase.label v.label := by
  rw [Visit.labels] at mem
  rcases List.mem_append.mp mem with mem | mem
  · obtain ⟨phase, _, rfl⟩ := List.mem_map.mp mem
    exact ⟨phase, rfl⟩
  · exact ⟨.up, List.mem_singleton.mp mem⟩

theorem Visit.labels_nodup (pace : Pace) (v : Visit) :
    ((v.steps pace).filterMap Step.label?).Nodup := by
  have differ : Phase.down.label v.label ≠ Phase.up.label v.label := by
    intro same
    cases (Phase.label_inj same).1
  rw [Visit.labels]
  split
  next => simp [differ]
  next => simp

/-- No two checkpoints of a built script have one label. -/
theorem labels_nodup (t : Topology) (pace : Pace) :
    ((build t pace).filterMap Step.label?).Nodup := by
  rw [build_eq_visits, List.filterMap_flatMap, List.nodup_flatMap]
  refine ⟨fun v _ => v.labels_nodup pace, ?_⟩
  have once : ((visits t).map Visit.id).Nodup := by
    rw [ids_visits]
    exact t.nodup
  refine once.of_map.pairwise_of_forall_ne ?_
  intro v visited u visited' differ label mem mem'
  apply differ
  obtain ⟨phase, rfl⟩ := Visit.mem_labels mem
  obtain ⟨phase', same⟩ := Visit.mem_labels mem'
  have named := Visit.labelled visited
  rw [(Phase.label_inj same).2] at named
  exact List.inj_on_of_nodup_map once visited visited'
    (Topology.label_inj named (Visit.labelled visited'))

/-- In a visit, a checkpoint is labelled with the phase that the last request began. -/
theorem Visit.checkpoint_follows_request {v : Visit} {before after : List Step} {label : String}
    (split : v.steps pace = before ++ .checkpoint label :: after) :
    ∃ phase : Phase, label = phase.label v.label ∧
      (before.filterMap Step.request?).getLast? = some (phase.operation, v.id) := by
  unfold Visit.steps toggle at split
  cases checked : pace.strict || v.first with
  | false =>
    rw [checked] at split
    simp [List.cons_eq_append_iff] at split
    obtain ⟨rfl, rfl, -⟩ := split
    exact ⟨.up, rfl, rfl⟩
  | true =>
    rw [checked] at split
    simp [List.cons_eq_append_iff] at split
    obtain ⟨_, rfl, ⟨rfl, rfl, -⟩ | ⟨rfl, rfl, -⟩⟩ := split
    · exact ⟨.down, rfl, rfl⟩
    · exact ⟨.up, rfl, rfl⟩

/-- A checkpoint is labelled with the node of the last request and the phase that it began. -/
theorem checkpoint_follows_request {vs : List Visit} {before after : List Step} {label : String}
    (split : vs.flatMap (Visit.steps pace) = before ++ .checkpoint label :: after) :
    ∃ v ∈ vs, ∃ phase : Phase, label = phase.label v.label ∧
      (before.filterMap Step.request?).getLast? = some (phase.operation, v.id) := by
  induction vs generalizing before with
  | nil => simp at split
  | cons v vs ih =>
    rw [List.flatMap_cons] at split
    rcases List.append_eq_append_iff.mp split with ⟨earlier, rfl, later⟩ | ⟨part, whole, rest⟩
    · obtain ⟨u, mem, phase, same, last⟩ := ih later
      refine ⟨u, List.mem_cons_of_mem v mem, phase, same, ?_⟩
      rw [List.filterMap_append, List.getLast?_append, last]
      rfl
    rcases List.append_eq_cons_iff.mp rest.symm with ⟨_, later⟩ | ⟨part, rfl, _⟩
    · -- Visits do not begin with a checkpoint.
      have begins : vs.flatMap (Visit.steps pace) = [] ++ .checkpoint label :: after := later
      obtain ⟨_, _, _, _, last⟩ := ih begins
      cases last
    · obtain ⟨phase, same, last⟩ := Visit.checkpoint_follows_request whole
      exact ⟨v, List.mem_cons_self, phase, same, last⟩

/-- A label that belongs to a phase of a node belongs to no other one. -/
theorem phaseLabel_eq_iff {id : String} (labelled : t.label id = .ok name) (id' : String) :
    t.phaseLabel id' phase' = .ok (phase.label name) ↔ id' = id ∧ phase' = phase := by
  unfold Topology.phaseLabel
  constructor
  · intro same
    cases labelled' : t.label id' with
    | error fault =>
      rw [labelled'] at same
      cases same
    | ok other =>
      rw [labelled'] at same
      obtain ⟨rfl, rfl⟩ := Phase.label_inj (Except.ok.inj same)
      exact ⟨Topology.label_inj labelled' labelled, rfl⟩
  · rintro ⟨rfl, rfl⟩
    rw [labelled]
    rfl

/-- The script of some settings is a built one. -/
theorem build_of_script {s : Settings} {steps : List Step} (script : s.script t = .ok steps) :
    ∃ pace, steps = build t pace := by
  unfold Settings.script at script
  cases paced : s.pace with
  | error fault =>
    rw [paced] at script
    cases script
  | ok pace =>
    rw [paced] at script
    exact ⟨pace, (Except.ok.inj script).symm⟩

/-- Every label of a built script belongs to a visit and a phase of it. -/
theorem visit_of_mem_labels {label : String} (mem : label ∈ (build t pace).filterMap Step.label?) :
    ∃ v ∈ visits t, ∃ phase : Phase, label = phase.label v.label := by
  rw [build_eq_visits, List.filterMap_flatMap] at mem
  obtain ⟨v, visited, mem⟩ := List.mem_flatMap.mp mem
  exact ⟨v, visited, Visit.mem_labels mem⟩

end Script

/-- The fault is a violation that was found at the checkpoint with this label. -/
def Raised.Violates (raised : Raised) (label : String) : Prop :=
  ∃ first count, raised.fault = .violation label first count

theorem Raised.Violates.announced {raised : Raised} {label : String}
    (violates : raised.Violates label) :
    raised.Announced := by
  obtain ⟨first, count, violation⟩ := violates
  show raised.fault.kind ∈ Kind.announced
  rw [violation]
  exact (by decide : Kind.violation ∈ Kind.announced)

namespace Run

variable {plan : Plan} {scene : Scene Cluster} {m m' : Moment} {raised : Raised} {label : String}

/-- A violation comes up in the first call or at the checkpoint that it names. -/
theorem next_violation (reached : plan.Reached scene m) (next : plan.Next m m')
    (raises : m'.stance.raised? = some raised) (violates : raised.Violates label) :
    m.stance.raised? = some raised ∨ label = Plan.warmUpLabel ∨
      ∃ pacing rest, m.stance = .doing pacing (.step (.checkpoint label) :: rest) := by
  have announced := violates.announced
  obtain ⟨first, count, violation⟩ := violates
  rcases next_origin reached next raises with same | origin
  · exact .inl same
  cases origin with
  | snag snag => exact absurd announced (snag.unfit reached).unannounced
  | warmUp fault =>
    cases violation
    exact .inr (.inl rfl)
  | violated _ _ stance =>
    cases violation
    exact .inr (.inr ⟨_, _, stance⟩)
  | flaw => cases violation
  | unavailable fault | refused _ _ _ fault => cases fault <;> cases violation

/-- A violation names the first call or a checkpoint of the run. -/
theorem Plan.Reached.violates (reached : plan.Reached scene m)
    (raises : m.stance.raised? = some raised)
    (violates : raised.Violates label) : label = Plan.warmUpLabel ∨
      ∃ steps, plan.script = .ok steps ∧
        label ∈ Script.baseline :: steps.filterMap Step.label? := by
  induction reached with
  | refl => cases raises
  | @tail b c leads next ih =>
    have reached : plan.Reached scene b := leads
    rcases next_violation reached next raises violates with before | first | ⟨pacing, rest, stance⟩
    · exact ih before
    · exact .inl first
    · have has := Stance.has_of_doing stance
      obtain ⟨steps, _, ready, _⟩ := reached.ready has.isLate
      refine .inr ⟨steps, ready.script, ?_⟩
      rw [← ((reached.ledgered ready.script).working _ _ has).checkpoints]
      exact List.mem_append_right _ List.mem_cons_self

/-- Every node has a label, and no two have the same. In the script of any settings no two
checkpoints have the same label, and none has that of the first call or of the beginning; each
belongs to one node and one phase of it, and is that of the last request before the checkpoint. A
run that ends with a violation found it in the first call, at the beginning, or at the checkpoint of
the one node and phase that the label belongs to. -/
theorem label_identifies (t : Topology) :
    (∀ id ∈ t.ids, ∃ label, t.label id = .ok label) ∧
    (∀ id id' label, t.label id = .ok label → t.label id' = .ok label → id = id') ∧
    (∀ (s : Settings) steps, s.script t = .ok steps →
      (Plan.warmUpLabel :: Script.baseline :: steps.filterMap Step.label?).Nodup ∧
      ∀ before label after, steps = before ++ .checkpoint label :: after →
        ∃ id, ∃ phase : Script.Phase,
          (before.filterMap Step.request?).getLast? = some (phase.operation, id) ∧
          ∀ id' phase', t.phaseLabel id' phase' = .ok label ↔ id' = id ∧ phase' = phase) ∧
    ∀ (plan : Plan) scene raised label first count, plan.source = t →
      (plan.conduct scene).1 = .error raised → raised.fault = .violation label first count →
      label = Plan.warmUpLabel ∨ label = Script.baseline ∨
        (label ≠ Plan.warmUpLabel ∧ label ≠ Script.baseline ∧
          ∃ id, ∃ phase : Script.Phase, id ∈ t.ids ∧
            ∀ id' phase', t.phaseLabel id' phase' = .ok label ↔ id' = id ∧ phase' = phase) := by
  refine ⟨fun id known => Topology.exists_label known,
    fun id id' label => Topology.label_inj, ?_, ?_⟩
  · intro s steps script
    obtain ⟨pace, rfl⟩ := Script.build_of_script script
    constructor
    · rw [List.nodup_cons, List.nodup_cons]
      refine ⟨?_, ?_, Script.labels_nodup t pace⟩
      -- The first two labels are texts of their own, which no phase of a node has.
      · intro mem
        rcases List.mem_cons.mp mem with same | mem
        · exact absurd same (by decide)
        · obtain ⟨v, _, phase, same⟩ := Script.visit_of_mem_labels mem
          exact phase.label_ne_warmUpLabel v.label same.symm
      · intro mem
        obtain ⟨v, _, phase, same⟩ := Script.visit_of_mem_labels mem
        exact phase.label_ne_baseline v.label same.symm
    · intro before label after split
      rw [Script.build_eq_visits] at split
      obtain ⟨v, visited, phase, rfl, last⟩ := Script.checkpoint_follows_request split
      exact ⟨v.id, phase, last, fun id' phase' =>
        Script.phaseLabel_eq_iff (Script.Visit.labelled visited) id'⟩
  · rintro plan scene raised label first count rfl ends violation
    -- A violation ends the run, so it comes up at the last moment.
    obtain ⟨last, reached, ⟨raised', finished, conducts⟩ | ⟨_, conducts⟩⟩ :=
      plan.leads_conduct scene
    case inr =>
      rw [conducts] at ends
      cases ends
    rw [conducts] at ends
    cases ends
    have raises : last.stance.raised? = some raised := by
      rw [finished]
      rfl
    -- It comes from the warm-up, from the baseline or from a checkpoint of a visit.
    rcases reached.violates raises ⟨first, count, violation⟩ with warmUp | ⟨steps, script, mem⟩
    · exact .inl warmUp
    rcases List.mem_cons.mp mem with beginning | mem
    · exact .inr (.inl beginning)
    obtain ⟨pace, _, rfl, _⟩ := Plan.script_ok script
    obtain ⟨v, visited, phase, rfl⟩ := Script.visit_of_mem_labels mem
    exact .inr (.inr ⟨phase.label_ne_warmUpLabel _, phase.label_ne_baseline _, v.id, phase,
      Script.visit_known visited,
      fun id' phase' => Script.phaseLabel_eq_iff (Script.Visit.labelled visited) id'⟩)

/-- The violation of a cluster whose third call fails was found while the first node was down. -/
theorem frail_identified :
    (Plan.brisk.conduct (.opening Plan.frail (.start none))).1
      = .error (.plain (.violation "after clusterA-node0 was shut down" (Cluster.injected 3) 2)) ∧
    (∀ id phase, Topology.twoByTwo.phaseLabel id phase = .ok "after clusterA-node0 was shut down" ↔
      id = "node-1" ∧ phase = .down) ∧
    ∃ steps, Plan.brisk.settings.script Topology.twoByTwo = .ok steps ∧
      (Plan.warmUpLabel :: Script.baseline :: steps.filterMap Step.label?).Nodup := by
  have fails : (Plan.brisk.conduct (.opening Plan.frail (.start none))).1
      = .error (.plain
        (.violation "after clusterA-node0 was shut down" (Cluster.injected 3) 2)) := by
    decide +kernel
  obtain ⟨outage, restart, _, _, paced⟩ := Plan.exists_pace Plan.brisk_countable
  have script : Plan.brisk.settings.script Topology.twoByTwo
      = .ok (Script.build Topology.twoByTwo ⟨outage, restart, Plan.brisk.settings.strict⟩) := by
    unfold Settings.script
    rw [paced]
    rfl
  obtain ⟨_, _, scripts, runs⟩ := label_identifies Topology.twoByTwo
  refine ⟨fails, ?_, _, script, (scripts _ _ script).1⟩
  rcases runs Plan.brisk _ _ _ _ _ rfl fails rfl with first | beginning | ⟨_, _, id, phase, _, only⟩
  · exact absurd first (by decide)
  · exact absurd beginning (by decide)
  · have down :
      Topology.twoByTwo.phaseLabel "node-1" .down = .ok "after clusterA-node0 was shut down" := by
      decide +kernel
    obtain ⟨rfl, rfl⟩ := (only _ _).mp down
    exact only

end Run

end Drill
