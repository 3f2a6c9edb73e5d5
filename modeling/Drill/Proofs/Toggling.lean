import Drill.Proofs.Control
import Drill.Proofs.Onset
import Drill.Proofs.Scripted

/-!
# Who is down during a run

A run takes one node after the other down and up again, and whatever goes wrong, it goes no further
than this. `Standing` compares the requests so far, the requests to come and the nodes: either every
node that was stopped was started again, or the one that was stopped last is the next to be started.
A request that is honored leads from one case to the other.

While the invoker works, all requests so far were honored (`Rounds`): one that is refused is the
last one, and changes no node (`Rounds.refuse`). So the requests alone say who is down
(`Cluster.leftDown`), also after the run has ended. Main statement: `toggles_conduct`, at most one
node is down at any moment, the run knows which one, and its requests are the first ones of the
rota.
-/

namespace Drill

/-- The topology with these nodes down. -/
def Topology.without (t : Topology) (ids : List String) : Topology :=
  ids.foldl (fun t id => t.mark id .stopped) t

namespace Cluster

variable {c c' : Cluster}

/-- The nodes that these requests leave down: the last one, if the last request that was honored
stops it. -/
def leftDown (c : Cluster) (asked : List (Operation × String)) : List String :=
  match (asked.filter fun request => c.honors request.1 request.2).getLast? with
  | some (.stop, id) => [id]
  | some (.start, _) | none => []

/-- What is honored depends on the faults that were ordered. -/
theorem honors_congr (trouble : c'.trouble = c.trouble) (operation : Operation) (id : String) :
    c'.honors operation id ↔ c.honors operation id := by
  unfold honors
  rw [trouble]

/-- A request that is refused leaves down what was down. -/
theorem leftDown_refused {asked : List (Operation × String)} {request : Operation × String}
    (refused : ¬ c.honors request.1 request.2) :
    c.leftDown (asked ++ [request]) = c.leftDown asked := by
  unfold leftDown
  rw [List.filter_append, List.filter_cons_of_neg (by simpa using refused), List.filter_nil,
    List.append_nil]

/-- When all requests were honored, only the last one matters. -/
theorem leftDown_honored {asked : List (Operation × String)}
    (honored : ∀ request ∈ asked, c.honors request.1 request.2) :
    c.leftDown asked = match asked.getLast? with
      | some (.stop, id) => [id]
      | some (.start, _) | none => [] := by
  unfold leftDown
  rw [List.filter_eq_self.mpr (by simpa using honored)]

/-- A node that is left down was stopped. -/
theorem leftDown_subset {asked : List (Operation × String)} {id : String}
    (mem : id ∈ c.leftDown asked) :
    (.stop, id) ∈ asked := by
  unfold leftDown at mem
  split at mem
  next id' last =>
    cases List.mem_singleton.mp mem
    exact (List.mem_filter.mp (List.mem_of_getLast? last)).1
  next => cases mem
  next => cases mem

end Cluster

namespace Run

open Script (rota)

theorem rota_cons (id : String) (ids : List String) :
    rota (id :: ids) = (.stop, id) :: (.start, id) :: rota ids := rfl

theorem rota_append (ids ids' : List String) : rota (ids ++ ids') = rota ids ++ rota ids' :=
  List.flatMap_append

/-- The node of a request of the rota is one of its nodes. -/
theorem mem_of_mem_rota {ids : List String} {request : Operation × String}
    (mem : request ∈ rota ids) :
    request.2 ∈ ids := by
  obtain ⟨id, known, mem⟩ := List.mem_flatMap.mp mem
  simp only [List.mem_cons, List.not_mem_nil, or_false] at mem
  rcases mem with rfl | rfl
  · exact known
  · exact known

/-- After the rota of some nodes the last request, if there is one, is a start. -/
theorem rota_getLast? (ids : List String) : ∀ id, (rota ids).getLast? ≠ some (.stop, id) := by
  intro id last
  rcases List.eq_nil_or_concat ids with rfl | ⟨before, final, rfl⟩
  · cases last
  · rw [List.concat_eq_append, rota_append, List.getLast?_append] at last
    cases last

/-- The requests so far, those to come and the topology now, for a topology whose nodes all ran. -/
inductive Standing (t : Topology) :
    List (Operation × String) → List (Operation × String) → Topology → Prop where
  /-- All nodes run. -/
  | up (before after : List String) (ids : t.ids = before ++ after) :
      Standing t (rota before) (rota after) t
  /-- One node is down. -/
  | down (before : List String) (id : String) (after : List String)
      (ids : t.ids = before ++ id :: after) :
      Standing t (rota before ++ [(.stop, id)]) ((.start, id) :: rota after) (t.mark id .stopped)

namespace Standing

variable {t now : Topology} {asked todo : List (Operation × String)} {id : String}

/-- What was asked and what is still to be asked make up the rota. -/
theorem whole (standing : Standing t asked todo now) : asked ++ todo = rota t.ids := by
  cases standing with
  | up before after ids => rw [ids, rota_append]
  | down before id after ids =>
    rw [ids, rota_append, rota_cons, List.append_assoc]
    rfl

theorem ids_eq (standing : Standing t asked todo now) : now.ids = t.ids := by
  cases standing with
  | up => rfl
  | down before id after ids => exact Topology.ids_mark t id .stopped

/-- After a stop of the rota its node is the one that is down. -/
theorem stop (standing : Standing t asked ((.stop, id) :: todo) now) :
    Standing t (asked ++ [(.stop, id)]) todo (now.mark id .stopped) := by
  -- While a node is down, the next request is its start.
  generalize all : (Operation.stop, id) :: todo = todo' at standing
  cases standing with
  | down before other after ids => cases all
  | up before after ids =>
    cases after with
    | nil => cases all
    | cons other after =>
      cases all
      exact .down before id after ids

/-- After the start that follows, all nodes are up again. -/
theorem start (up : t.stopped = []) (standing : Standing t asked ((.start, id) :: todo) now) :
    Standing t (asked ++ [(.start, id)]) todo (now.mark id .running) := by
  -- While all nodes run, the next request is a stop.
  generalize all : (Operation.start, id) :: todo = todo' at standing
  cases standing with
  | up before after ids => cases after <;> cases all
  | down before other after ids =>
    cases all
    have ids' : t.ids = (before ++ [id]) ++ after := by
      rw [ids, List.append_assoc]
      rfl
    have asked' : rota before ++ [(.stop, id)] ++ [(.start, id)] = rota (before ++ [id]) := by
      rw [rota_append, List.append_assoc]
      rfl
    rw [asked', Topology.mark_mark up]
    exact .up (before ++ [id]) after ids'

/-- As long as all requests were honored, they say who is down. -/
theorem now_eq {c : Cluster} (honored : ∀ request ∈ asked, c.honors request.1 request.2)
    (standing : Standing t asked todo now) : now = t.without (c.leftDown asked) := by
  rw [Cluster.leftDown_honored honored]
  cases standing with
  | down before id after ids =>
    rw [List.getLast?_concat]
    rfl
  | up before after ids =>
    have last := rota_getLast? before
    split
    next id h => exact absurd h (last id)
    next => rfl
    next => rfl

end Standing

/-- The request that a job makes. -/
def Job.request? : Job → Option (Operation × String)
  | .step s => s.request?
  | .stop id _ => some (.stop, id)
  | .start id => some (.start, id)
  | .stabilise => none

/-- Jobs without an effect make no requests. -/
theorem Effectless.requests {jobs jobs' : List Job} (effectless : Effectless jobs jobs') :
    jobs'.filterMap Job.request? = jobs.filterMap Job.request? := by
  cases effectless <;> rfl

/-- The cluster after these requests of a run that began with another cluster, all of whose nodes
ran. -/
structure Asked (t : Topology) (c : Cluster) (service : Cluster)
    (asked : List (Operation × String)) :
    Prop where
  trouble : service.trouble = c.trouble
  requests : service.requests = c.requests ++ asked
  ordered : asked <+: rota t.ids
  topology : service.topology = t.without (c.leftDown asked)
  /-- Nothing is asked of nodes without siblings. -/
  two : asked = [] ∨ 2 ≤ t.first.ids.length

/-- The requests so far, those that the jobs will make and the nodes, while all requests were
honored. -/
structure Rounds (t : Topology) (c : Cluster) (service : Cluster) (jobs : List Job)
    (asked : List (Operation × String)) : Prop where
  trouble : service.trouble = c.trouble
  requests : service.requests = c.requests ++ asked
  honored : ∀ request ∈ asked, c.honors request.1 request.2
  standing : Standing t asked (jobs.filterMap Job.request?) service.topology
  two : 2 ≤ t.first.ids.length

namespace Asked

variable {t : Topology} {c service service' : Cluster} {asked : List (Operation × String)}

/-- Calls are no requests. -/
theorem calls (known : Asked t c service asked) (frame : service.OnlyCalls service') :
    Asked t c service' asked := by
  obtain ⟨_, _, _, rfl⟩ := frame
  exact { known with }

/-- Who is down is no secret. -/
theorem stopped (up : t.stopped = []) (known : Asked t c service asked) :
    service.topology.stopped = c.leftDown asked := by
  rw [known.topology]
  have among (id : String) (mem : id ∈ c.leftDown asked) : id ∈ t.ids :=
    mem_of_mem_rota (known.ordered.subset (Cluster.leftDown_subset mem))
  unfold Cluster.leftDown at among ⊢
  split
  next id _ =>
    rename_i last
    rw [last] at among
    exact Topology.stopped_mark up (among id List.mem_cons_self)
  next => exact up
  next => exact up

/-- So there is at most one node down at a time. -/
theorem length_le_one : (c.leftDown asked).length ≤ 1 := by
  unfold Cluster.leftDown
  split <;> simp

/-- And with one node down every sub-cluster still has another one. -/
theorem reachable (up : t.stopped = []) (known : Asked t c service asked) :
    service.topology.isReachable = true := by
  rw [known.topology]
  rcases known.two with none | two
  · rw [none]
    exact Topology.isReachable_of_up up
  · unfold Cluster.leftDown
    split
    next => exact Topology.isReachable_mark up two
    next => exact Topology.isReachable_of_up up
    next => exact Topology.isReachable_of_up up

end Asked

namespace Rounds

variable {t : Topology} {c service service' : Cluster} {jobs : List Job} {id : String}
  {asked : List (Operation × String)}

theorem calls (rounds : Rounds t c service jobs asked) (frame : service.OnlyCalls service') :
    Rounds t c service' jobs asked := by
  obtain ⟨_, _, _, rfl⟩ := frame
  exact { rounds with }

/-- The jobs that are left matter through their requests only. -/
theorem effectless {jobs' : List Job} (rounds : Rounds t c service jobs asked)
    (requests : jobs'.filterMap Job.request? = jobs.filterMap Job.request?) :
    Rounds t c service jobs' asked :=
  { rounds with standing := requests ▸ rounds.standing }

theorem toAsked (rounds : Rounds t c service jobs asked) : Asked t c service asked where
  trouble := rounds.trouble
  requests := rounds.requests
  ordered := ⟨_, rounds.standing.whole⟩
  topology := rounds.standing.now_eq rounds.honored
  two := .inr rounds.two

/-- A request that comes next is the next one of the rota. -/
theorem next {request : Operation × String} {rest : List Job} {job : Job}
    (rounds : Rounds t c service (job :: rest) asked) (asks : job.request? = some request) :
    asked ++ [request] <+: rota t.ids := by
  refine ⟨rest.filterMap Job.request?, ?_⟩
  rw [List.append_assoc, ← rounds.standing.whole, List.filterMap_cons_some asks]
  rfl

/-- A request that is noted down but refused ends the round. -/
theorem refuse {job : Job} {rest : List Job} {operation : Operation} {gracePeriods : List Int}
    (rounds : Rounds t c service (job :: rest) asked) (asks : job.request? = some (operation, id))
    (refused : ¬ (service.honors operation id ∧ id ∈ service.topology.ids)) :
    Asked t c (service.asked operation id gracePeriods) (asked ++ [(operation, id)]) := by
  -- The rota has known nodes only, so it was not for the node that the request was refused.
  have ordered := rounds.next asks
  have known : id ∈ service.topology.ids := by
    rw [rounds.standing.ids_eq]
    exact mem_of_mem_rota (ordered.subset (List.mem_append_right _ List.mem_cons_self))
  have dishonored : ¬ c.honors operation id := by
    rw [← Cluster.honors_congr rounds.trouble]
    exact fun honors => refused ⟨honors, known⟩
  constructor
  · exact rounds.trouble
  · show service.requests ++ [(operation, id)] = _
    rw [rounds.requests, List.append_assoc]
  · exact ordered
  · rw [Cluster.leftDown_refused dishonored]
    exact rounds.toAsked.topology
  · exact .inr rounds.two

/-- A request that fails changes no node. -/
theorem refused {job : Job} {rest : List Job} {operation : Operation} {gracePeriods : List Int}
    (rounds : Rounds t c service (job :: rest) asked) (asks : job.request? = some (operation, id))
    (outcome : service' = service ∨ ¬ (service.honors operation id ∧ id ∈ service.topology.ids) ∧
      service' = service.asked operation id gracePeriods) :
    (∃ asked, Asked t c service' asked) ∧ service'.topology = service.topology := by
  rcases outcome with rfl | ⟨dishonored, rfl⟩
  · exact ⟨⟨asked, rounds.toAsked⟩, rfl⟩
  · exact ⟨⟨_, rounds.refuse asks dishonored⟩, rfl⟩

variable {rest : List Job} {grace : Int}

/-- A request that is honored joins the others. -/
theorem honor {jobs : List Job} {operation : Operation} (rounds : Rounds t c service jobs asked)
    (honors : service.honors operation id) (trouble : service'.trouble = service.trouble)
    (requests : service'.requests = service.requests ++ [(operation, id)])
    (standing : Standing t (asked ++ [(operation, id)]) (rest.filterMap Job.request?)
      service'.topology) :
    Rounds t c service' rest (asked ++ [(operation, id)]) := by
  refine ⟨trouble.trans rounds.trouble, ?_, ?_, standing, rounds.two⟩
  · rw [requests, rounds.requests, List.append_assoc]
  · intro request mem
    rcases List.mem_append.mp mem with mem | mem
    · exact rounds.honored request mem
    · rw [List.mem_singleton.mp mem]
      exact (Cluster.honors_congr rounds.trouble _ _).mp honors

/-- A stop that is honored takes its node down. -/
theorem stop (rounds : Rounds t c service (.stop id grace :: rest) asked)
    (honored : service.stop id grace = (.ok (), service')) :
    Rounds t c service' rest (asked ++ [(.stop, id)]) ∧
      service'.topology = service.topology.mark id .stopped := by
  obtain ⟨honors, _, _, rfl⟩ := Cluster.stop_ok honored
  exact ⟨rounds.honor honors rfl rfl rounds.standing.stop, rfl⟩

/-- A start that is honored brings its node back up. -/
theorem start (up : t.stopped = []) (rounds : Rounds t c service (.start id :: rest) asked)
    (honored : service.start id = (.ok (), service')) :
    Rounds t c service' rest (asked ++ [(.start, id)]) ∧
      service'.topology = service.topology.mark id .running := by
  obtain ⟨honors, _, rfl⟩ := Cluster.start_ok honored
  exact ⟨rounds.honor honors rfl rfl (rounds.standing.start up), rfl⟩

end Rounds

/-- A run knows who is down, and while the invoker works, all its requests were honored. -/
structure Toggled (t : Topology) (c : Cluster) (m : Moment) : Prop where
  live : m.progress.live = m.progress.scene.service.topology
  known : ∃ asked, Asked t c m.progress.scene.service asked
  working : ∀ pacing jobs, m.stance.Has pacing jobs →
    ∃ asked, Rounds t c m.progress.scene.service jobs asked

namespace Toggled

variable {plan : Plan} {t : Topology} {c : Cluster} {m m' : Moment} {pacing : Pacing}
    {jobs : List Job}

/-- While jobs are left, they are the rest of the rota. -/
theorem of_has (has : m.stance.Has pacing jobs)
    (live : m.progress.live = m.progress.scene.service.topology)
    {asked : List (Operation × String)} (rounds : Rounds t c m.progress.scene.service jobs asked) :
    Toggled t c m := by
  refine ⟨live, ⟨asked, rounds.toAsked⟩, fun pacing' jobs' has' => ?_⟩
  have same := has.unique has'
  subst same
  exact ⟨asked, rounds⟩

/-- While there is nothing to do, only what was asked matters. -/
theorem of_idle (idle : ∀ pacing jobs, ¬ m.stance.Has pacing jobs)
    (live : m.progress.live = m.progress.scene.service.topology)
    (known : ∃ asked, Asked t c m.progress.scene.service asked) : Toggled t c m :=
  ⟨live, known, fun pacing jobs has => absurd has (idle pacing jobs)⟩

/-- Time that passes changes no node. -/
theorem drift (toggled : Toggled t c m) (has : m.stance.Has pacing jobs) {jobs' : List Job}
    (effectless : Effectless jobs jobs') (has' : m'.stance.Has pacing jobs')
    (drift : Drift pacing m m') :
    Toggled t c m' := by
  obtain ⟨asked, rounds⟩ := toggled.working pacing jobs has
  refine of_has has' ?_ ((rounds.effectless effectless.requests).calls drift.onlyCalls)
  rw [drift.live, drift.onlyCalls.topology]
  exact toggled.live

/-- Jobs change the nodes as they say. -/
theorem acts (up : t.stopped = []) (toggled : Toggled t c m)
    (stance : m.stance = .doing pacing jobs)
    (acts : Acts plan pacing m jobs m') : Toggled t c m' := by
  obtain ⟨asked, rounds⟩ := toggled.working pacing jobs (Stance.has_of_doing stance)
  have live := toggled.live
  have still {p : Progress} (calm : m.progress.Calm p) : p.live = p.scene.service.topology := by
    rw [calm.live, calm.service]
    exact live
  cases acts with
  | @passed label rest p calm pure =>
    have rest : Rounds t c m.progress.scene.service rest asked := rounds.effectless rfl
    rw [← calm.service] at rest
    have live' : p.live = p.scene.service.topology := still calm
    exact of_has .doing live' rest
  | stopped honored =>
    obtain ⟨rounds, topology⟩ := rounds.stop honored
    refine of_has .doing ?_ rounds
    dsimp only
    rw [topology, live]
  | started honored =>
    obtain ⟨rounds, topology⟩ := rounds.start up honored
    refine of_has .doing ?_ rounds
    dsimp only
    rw [topology, live]
  | done => exact of_idle (Stance.idle rfl) live ⟨asked, rounds.toAsked⟩
  | unfeasible unfeasible calm =>
    rw [← calm.service] at rounds
    exact of_idle (Stance.idle rfl) (still calm) ⟨asked, rounds.toAsked⟩
  | violated calm failed =>
    rw [← calm.service] at rounds
    exact of_idle (Stance.idle rfl) (still calm) ⟨asked, rounds.toAsked⟩
  | stopRefused refused =>
    obtain ⟨known, topology⟩ := rounds.refused rfl (Cluster.stop_error refused).2
    exact of_idle (Stance.idle rfl) (live.trans topology.symm) known
  | startRefused refused =>
    obtain ⟨known, topology⟩ := rounds.refused rfl (Cluster.start_error refused).2
    exact of_idle (Stance.idle rfl) (live.trans topology.symm) known

/-- Calls change no node. -/
theorem of_calls (toggled : Toggled t c m) (live : m'.progress.live = m.progress.live)
    (frame : m.progress.scene.service.OnlyCalls m'.progress.scene.service)
    (idle : ∀ pacing jobs, ¬ m'.stance.Has pacing jobs) : Toggled t c m' := by
  obtain ⟨asked, known⟩ := toggled.known
  refine of_idle idle ?_ ⟨asked, known.calls frame⟩
  rw [live, frame.topology]
  exact toggled.live

end Toggled

/-- The script's jobs make the requests of the rota. -/
theorem requests_jobs {plan : Plan} {steps : List Step} (script : plan.script = .ok steps) :
    (Plan.jobs steps).filterMap Job.request? = rota plan.source.ids := by
  obtain ⟨pace, _, rfl, _⟩ := Plan.script_ok script
  have picked : (Plan.jobs (Script.build plan.source pace)).filterMap Job.request?
      = (Script.build plan.source pace).filterMap Step.request? := by
    unfold Plan.jobs
    rw [List.filterMap_cons_none rfl, List.filterMap_cons_none rfl, List.filterMap_map]
    rfl
  rw [picked, Script.requests_build]

namespace Plan

variable {plan : Plan} {scene : Scene Cluster} {m : Moment}

/-- What happens early is calls at most. -/
theorem Early.frame (early : plan.Early scene m) :
    scene.service.OnlyCalls m.progress.scene.service ∧ m.progress.live = plan.source := by
  have held : scene.service.OnlyCalls (plan.held scene) := ⟨_, _, _, rfl⟩
  have entered := held.trans (Cluster.onlyCalls_entered _)
  have answered := entered.trans (Cluster.onlyCalls_answered _)
  cases early with
  | checking _ still | flawed _ _ still | acquiring _ _ still | unavailable _ _ _ _ still =>
    exact ⟨still.service ▸ .refl _, still.live⟩
  | gathering _ _ still | ungathered _ _ _ still => exact ⟨still.service ▸ held, still.live⟩
  | hearing _ _ still => exact ⟨still.service ▸ entered, still.live⟩
  | unheard _ _ _ _ _ still | launching _ _ _ still | unlaunched _ _ _ _ still
  | launched _ _ _ _ still => exact ⟨still.service ▸ answered, still.live⟩

/-- Before the invoker works, nothing was asked. -/
theorem Early.toggled (same : plan.source = scene.service.topology) (early : plan.Early scene m) :
    Toggled plan.source scene.service m := by
  obtain ⟨frame, live⟩ := early.frame
  have live' : m.progress.live = m.progress.scene.service.topology := by
    rw [live, frame.topology]
    exact same
  have nothing : Asked plan.source scene.service scene.service [] :=
    ⟨rfl, (List.append_nil _).symm, List.nil_prefix, same.symm, .inl rfl⟩
  -- At the last of the early moments the work begins, with all of the rota to come.
  by_cases late : m.stance.isLate = true
  · obtain ⟨steps, _, _, ready, _, stance, _⟩ := early.late late
    obtain ⟨pace, _, built, checked⟩ := script_ok ready.script
    rw [built] at checked
    have first : Rounds plan.source scene.service scene.service (jobs steps) [] := by
      refine ⟨rfl, (List.append_nil _).symm, ?_, ?_, Script.two_le_of_check checked⟩
      · intro request mem
        cases mem
      · rw [requests_jobs ready.script, ← same]
        exact .up [] plan.source.ids rfl
    exact .of_has (Stance.has_of_doing stance) live' (first.calls frame)
  · exact .of_idle (fun pacing jobs has => late has.isLate) live' ⟨[], nothing.calls frame⟩

/-- Every moment that a run comes to keeps to the rota. -/
theorem Reached.toggled (same : plan.source = scene.service.topology)
    (up : plan.source.stopped = [])
    (reached : plan.Reached scene m) : Toggled plan.source scene.service m := by
  refine Reached.induct (I := Toggled plan.source scene.service) ?early ?works ?quits
    ?releases reached
  case early => exact fun m _ early => early.toggled same
  case works =>
    intro m m' pacing jobs _ toggled _ has works
    cases works with
    | drift _ effectless has' drift => exact toggled.drift has effectless has' drift
    | acts stance acts => exact toggled.acts up stance acts
  case quits =>
    intro m m' pacing result _ toggled _ _ quits
    exact toggled.of_calls quits.live quits.onlyCalls (Stance.idle (by rw [quits.stance]; rfl))
  case releases =>
    intro m result _ toggled _
    have released := released m.progress
    exact toggled.of_calls released.live released.onlyCalls (Stance.idle rfl)

end Plan

/-- What a run has done to the nodes of a cluster when it made these requests. -/
structure Orderly (plan : Plan) (c : Cluster) (p : Progress)
    (asked : List (Operation × String)) : Prop where
  requests : p.scene.service.requests = c.requests ++ asked
  /-- The requests are the first ones of the rota. -/
  ordered : asked <+: rota plan.source.ids
  /-- Nobody is down but the node of the last request that was honored, if this was a stop. -/
  stopped : p.scene.service.topology.stopped = c.leftDown asked
  single : p.scene.service.topology.stopped.length ≤ 1
  reachable : p.scene.service.topology.isReachable = true
  /-- The run knows all this. -/
  live : p.live = p.scene.service.topology

/-- What happens between two requests changes none of this. -/
theorem Orderly.calm {plan : Plan} {c : Cluster} {p p' : Progress}
    {asked : List (Operation × String)}
    (orderly : Orderly plan c p asked) (calm : p.Calm p') : Orderly plan c p' asked := by
  obtain ⟨requests, ordered, stopped, single, reachable, live⟩ := orderly
  rw [← calm.service] at requests stopped single reachable
  rw [← calm.service, ← calm.live] at live
  exact ⟨requests, ordered, stopped, single, reachable, live⟩

/-- What keeps to the rota is orderly. -/
theorem Toggled.orderly {plan : Plan} {c : Cluster} {m : Moment} (up : plan.source.stopped = [])
    (toggled : Toggled plan.source c m) : ∃ asked, Orderly plan c m.progress asked := by
  obtain ⟨asked, known⟩ := toggled.known
  have stopped := known.stopped up
  exact ⟨asked, known.requests, known.ordered, stopped, stopped ▸ Asked.length_le_one,
    known.reachable up, toggled.live⟩

namespace Plan

/-- When all nodes run at first, and a run and its cluster agree on them, then all along and at the
end at most one node is down, the run knows which one, and its requests are the first ones of the
rota. So is the request that it is about to make. A topology without siblings is not touched. -/
theorem toggles_conduct (plan : Plan) (scene : Scene Cluster)
    (same : plan.source.shape = scene.service.topology.shape) (up : plan.source.stopped = [])
    (up' : scene.service.topology.stopped = []) :
    (∀ m, plan.Reached scene m → ∃ asked, Orderly plan scene.service m.progress asked ∧
      ∀ pacing job rest request, m.stance = .doing pacing (job :: rest) →
        job.request? = some request → asked ++ [request] <+: rota plan.source.ids) ∧
    (∃ asked, Orderly plan scene.service (plan.conduct scene).2 asked) ∧
    ∀ c ∈ plan.source.subClusters, c.ids.length < 2 →
      (∃ fault, plan.script = .error fault) ∧
        (plan.conduct scene).2.scene.service = scene.service := by
  have agree := Topology.eq_of_shape same up up'
  refine ⟨?_, ?_, ?_⟩
  · intro m reached
    have toggled := reached.toggled agree up
    obtain ⟨asked, orderly⟩ := toggled.orderly up
    refine ⟨asked, orderly, ?_⟩
    intro pacing job rest request stance asks
    -- The notes of the cluster leave no doubt about which requests these are.
    obtain ⟨asked', rounds⟩ := toggled.working pacing (job :: rest) (Stance.has_of_doing stance)
    have same' : asked = asked' :=
      List.append_cancel_left (orderly.requests.symm.trans rounds.requests)
    rw [same']
    exact rounds.next asks
  · obtain ⟨m, _, reached, _, calm⟩ := plan.conduct_calm scene
    obtain ⟨asked, orderly⟩ := (reached.toggled agree up).orderly up
    refine ⟨asked, orderly.calm calm⟩
  · intro c mem lonely
    cases script : plan.script with
    | error fault => exact ⟨⟨fault, rfl⟩, conduct_of_script_error script scene⟩
    | ok steps =>
      obtain ⟨pace, _, built, checked⟩ := script_ok script
      rw [built] at checked
      have two := Script.two_le_of_check checked
      have two' := Topology.two_le_second two
      unfold Topology.subClusters at mem
      rcases List.mem_cons.mp mem with rfl | mem
      · omega
      · rw [List.mem_singleton.mp mem] at lonely
        omega

/-- A calm cluster, but for a node that does not start again. -/
def lame : Cluster := { calm with trouble.dead := ["node-1"] }

/-- A node that does not start again is the one that is left down. -/
theorem lame_toggles :
    brisk.source.shape = lame.topology.shape ∧ brisk.source.stopped = [] ∧
    lame.topology.stopped = [] ∧
    ∃ asked, Orderly brisk lame (brisk.conduct (.opening lame (.start none))).2 asked ∧
      asked = [(.stop, "node-1"), (.start, "node-1")] ∧ lame.leftDown asked = ["node-1"] := by
  have requests : (brisk.conduct (.opening lame (.start none))).2.scene.service.requests
      = [(.stop, "node-1"), (.start, "node-1")] := by
    decide +kernel
  have up : Topology.twoByTwo.stopped = [] := by decide
  obtain ⟨asked, orderly⟩ := (toggles_conduct brisk (.opening lame (.start none)) rfl up up).2.1
  have known : asked = [(.stop, "node-1"), (.start, "node-1")] :=
    orderly.requests.symm.trans requests
  refine ⟨rfl, up, up, asked, orderly, known, ?_⟩
  rw [known]
  decide

end Plan

end Run

end Drill
