import SeamlessSwarm.Cluster

/-! What the swarm's results go back to: a completed task to an execution, an execution to
an accepted request and to a node that had registered for it, and what the medium tool
prints to the answer of a model. -/
namespace SeamlessSwarm
open Trace

/-- An execution of a task that was asked for under this id, of a frame that a pass had
pushed for it. -/
structure Cluster.Performed (s : Cluster) (id : String) (ran : Ran) : Prop where
  logged : ran ∈ s.executed
  ticket : ran.push.ticket.taskId = id
  started : ran.push.ticket ∈ s.fleet.hub.started
  sent : ran.push ∈ s.fleet.hub.pushed ∧ ran.push.sent = true
  definition : ∃ job, s.Asked id job ∧ ran.definition = job.definition id ran.push.ticket.nodeId

/-- The node was in the registry at the start or registered in one of the steps. -/
def Known (registry : EphemeralRegistry) (steps : List ClusterStep) (node : NodeProfile) : Prop :=
  node ∈ registry.listNodes ∨ .fleet (.hub (.call (.registerNode node))) ∈ steps

/-- An accepted request with this id whose requirements the node carries. -/
def Cluster.Suits (s : Cluster) (id : String) (node : NodeProfile) : Prop :=
  ∃ a ∈ s.accepted, a.taskId = id ∧ nodeMatchesCapabilities node a.req.requiredCapabilities = true

/-- Nodes are listed only if they are known, and tickets name nodes that were listed and
suit a request. -/
structure Cluster.Placed (known : NodeProfile → Prop) (s : Cluster) : Prop where
  registered : ∀ n ∈ s.fleet.hub.scheduler.registry.listNodes, known n
  listed : ∀ (i now : Nat) nodes, s.fleet.hub.passes[i]? = some (.listed now nodes) →
    ∀ n ∈ nodes, known n
  started : ∀ t ∈ s.fleet.hub.started, ∃ n, known n ∧ n.nodeId = t.nodeId ∧ s.Suits t.taskId n

/-- An execution traced back: to a request with a key whose job it carries, where only the
workers' own checkpoint may stand for its payload, and only if a stateful request had the
same id; and to the node that the frame names, which had registered and suits a request. -/
structure Cluster.Traced (s : Cluster) (known : NodeProfile → Prop) (ran : Ran) : Prop where
  request : ∃ a ∈ s.accepted, a.taskId = ran.definition.taskId ∧ a.req.accessKey.isEmpty = false ∧
    (ran.definition = a.req.job.definition a.taskId ran.definition.moduleTarget ∨
      (ran.definition = { a.req.job.definition a.taskId ran.definition.moduleTarget with
          payload := [88, 99, 111, 222] } ∧
        ∃ b ∈ s.accepted, b.taskId = ran.definition.taskId ∧
          submittedType b.req.category = .statefulLongRunning))
  node : ∃ n, known n ∧ n.nodeId = ran.definition.moduleTarget ∧ s.Suits ran.definition.taskId n
  pushed : ran.push ∈ s.fleet.hub.pushed ∧ ran.push.sent = true ∧
    ran.push.ticket ∈ s.fleet.hub.started

section Run
variable (prost : Prost) (medium : MediumProst) (registry : EphemeralRegistry) (progressPub : Bool)

theorem cluster_traceable (steps : List ClusterStep) :
    Hub.Traceable prost (cluster prost medium registry progressPub steps).fleet.hub := by
  have initial : Hub.Traceable prost (Cluster.start registry progressPub).fleet.hub :=
    ⟨List.Subperm.refl [], by nofun⟩
  refine run_invariant (I := fun s : Cluster => Hub.Traceable prost s.fleet.hub) ?_ initial steps
  intro s a inv
  have kept (h : HubStep) : Hub.Traceable prost (s.fleet.hub.step prost h) :=
    Hub.traceable_step inv h
  have stepped := cluster_stepped prost medium s a
  generalize s.step prost medium a = t at stepped ⊢
  cases stepped with
  | idle _ _ fleet _ _ => rwa [fleet]
  | accepted uuid msg req _ => exact kept (.call (req.job.submit (mediumTaskId uuid)))
  | hub h _ => exact kept h
  | executed k env push definition _ _ _ => exact inv
  | delivered k report _ =>
    obtain ⟨pushed, passes, started, _⟩ := receive_keeps prost
      { s.fleet with reports := s.fleet.reports.eraseIdx k } (progressFrame prost report.message)
    constructor
    · rw [Hub.issued, pushed, passes, started]
      exact inv.fed
    · rw [pushed]
      exact inv.framed
  | progressFailed | lost k => exact inv

variable {steps : List ClusterStep}

theorem reported_performed (fits : (cluster prost medium registry progressPub steps).Fits prost)
    {ran : Ran} (logged : ran ∈ (cluster prost medium registry progressPub steps).executed)
    {report : TaskProgress} (inReports : report ∈ (executeTask ran.env ran.definition).reports) :
    (cluster prost medium registry progressPub steps).Performed report.taskId ran := by
  have inv := cluster_accounted prost medium registry progressPub steps fits
  obtain ⟨job, asked, same⟩ := inv.definition fits.frames logged
  obtain ⟨pushed, sent, _⟩ := inv.executed ran logged
  have named : ran.push.ticket.taskId = report.taskId := by
    rw [(execution_report inReports).named, same]
    rfl
  refine ⟨logged, named, ?_, ⟨pushed, sent⟩, job, ?_, ?_⟩
  · exact (cluster_traceable prost medium registry progressPub steps).started pushed
  · rwa [← named]
  · rwa [← named]

/-- In every run, a task is completed only after a worker has executed a frame pushed for
it and its execution has completed. -/
theorem completed_tasks_were_executed (steps : List ClusterStep)
    (fits : (cluster prost medium registry progressPub steps).Fits prost) (id : String)
    (task : Task)
    (found : (cluster prost medium registry progressPub steps).fleet.hub.scheduler.tasks.get id =
      some task) (completed : task.state.Completed) :
    ∃ ran, (cluster prost medium registry progressPub steps).Performed id ran ∧
      Completes ran.env ran.definition := by
  have inv := cluster_accounted prost medium registry progressPub steps fits
  obtain ⟨report, ⟨ran, logged, inReports⟩, rfl, finished⟩ := inv.completed id task found completed
  exact ⟨ran, reported_performed prost medium registry progressPub fits logged inReports,
    (execution_report inReports).completed finished⟩

/-! Where executions were placed. -/

theorem call_listNodes (s : ProfileScheduler) (c : SchedulerCall) {n : NodeProfile}
    (member : n ∈ (s.call c).registry.listNodes) :
    n ∈ s.registry.listNodes ∨ c = .registerNode n := by
  cases c with
  | registerNode profile =>
    rcases (Keyed.Table.mem_insert _ _ _).mp member with rfl | ⟨old, _⟩
    · exact Or.inr rfl
    · exact Or.inl old
  | unregisterNode nodeId => exact Or.inl ((Keyed.Table.mem_remove _ _ _).mp member).1
  | evictOfflineNodes now threshold => exact Or.inl (List.mem_filter.mp member).1
  | rehash nodes tasks => exact Or.inl ((s.registry.reorder_perm nodes).mem_iff.mp member)
  | _ => exact Or.inl member

theorem step_listNodes (hub : Hub) (h : HubStep) {n : NodeProfile}
    (member : n ∈ (hub.step prost h).scheduler.registry.listNodes) :
    n ∈ hub.scheduler.registry.listNodes ∨ h = .call (.registerNode n) := by
  have stepped := hub_stepped prost hub h
  generalize hub.step prost h = after at stepped member
  cases stepped with
  | called c _ =>
    rcases call_listNodes hub.scheduler c member with old | rfl
    · exact Or.inl old
    · exact Or.inr rfl
  | _ => exact Or.inl member

theorem Cluster.Asked.suits {s : Cluster} {id : String} {job : Job} (asked : s.Asked id job)
    {n : NodeProfile} (fits : nodeMatchesCapabilities n job.requiredCapabilities = true) :
    s.Suits id n := by
  rcases asked with ⟨a, member, named, rfl⟩ | ⟨⟨_, ⟨a, member, named, rfl⟩, rfl⟩, _⟩
  · exact ⟨a, member, named, fits⟩
  · exact ⟨a, member, named, fits⟩

theorem Cluster.Suits.mono {s t : Cluster} {id : String} {n : NodeProfile} (suits : s.Suits id n)
    (more : ∀ a ∈ s.accepted, a ∈ t.accepted) : t.Suits id n := by
  obtain ⟨a, member, rest⟩ := suits
  exact ⟨a, more a member, rest⟩

theorem newStarts_suit {s : Cluster} {known : NodeProfile → Prop} (inv : s.Placed known)
    (account : s.Accounted prost) {h : HubStep} {t : Ticket} (new : t ∈ s.fleet.hub.newStarts h) :
    ∃ n, known n ∧ n.nodeId = t.nodeId ∧ s.Suits t.taskId n := by
  unfold Hub.newStarts at new
  split at new
  next i =>
    split at new
    next now nodes here =>
      obtain ⟨d, dispatched, rfl⟩ := List.mem_map.mp new
      obtain ⟨task, n, found, _, member, named, fits, _⟩ := ticket_placed dispatched
      exact ⟨n, inv.listed i now nodes here n member, named,
        (account.stored _ task found).suits fits⟩
    next => cases new
  next => cases new

theorem Cluster.Placed.hub_step {s : Cluster} {known : NodeProfile → Prop} (inv : s.Placed known)
    (account : s.Accounted prost) {h : HubStep}
    (registers : ∀ n, h = .call (.registerNode n) → known n)
    {accepted : List Accepted} (more : ∀ a ∈ s.accepted, a ∈ accepted) :
    Cluster.Placed known { s with
      fleet := { s.fleet with hub := s.fleet.hub.step prost h }, accepted := accepted } := by
  constructor
  · intro n member
    rcases step_listNodes prost s.fleet.hub h member with old | same
    · exact inv.registered n old
    · exact registers n same
  · intro i now nodes here
    rcases listed_step prost here with old | ⟨_, rfl⟩
    · exact inv.listed i now nodes old
    · exact inv.registered
  · intro t member
    have logged : t ∈ (s.fleet.hub.step prost h).started := member
    rw [(hub_stepped prost s.fleet.hub h).logs.1] at logged
    rcases List.mem_append.mp logged with old | new
    · obtain ⟨n, there, named, suits⟩ := inv.started t old
      exact ⟨n, there, named, suits.mono more⟩
    · obtain ⟨n, there, named, suits⟩ := newStarts_suit prost inv account new
      exact ⟨n, there, named, suits.mono more⟩

theorem cluster_grows {before steps : List ClusterStep} (inside : before <+: steps) :
    (cluster prost medium registry progressPub before).Grows
      (cluster prost medium registry progressPub steps) := by
  obtain ⟨after, rfl⟩ := inside
  induction after using List.reverseRecOn with
  | nil =>
    rw [List.append_nil]
    exact .refl _
  | append_singleton after a ih =>
    rw [← List.append_assoc, cluster_snoc]
    exact ih.trans (cluster_stepped prost medium _ a).grows

theorem cluster_placed (steps : List ClusterStep)
    (fits : (cluster prost medium registry progressPub steps).Fits prost) :
    (cluster prost medium registry progressPub steps).Placed (Known registry steps) := by
  suffices run : ∀ before, before <+: steps →
      (cluster prost medium registry progressPub before).Placed (Known registry steps) from
    run steps List.prefix_rfl
  intro before
  induction before using List.reverseRecOn with
  | nil =>
    intro _
    exact ⟨fun n member => Or.inl member, nofun, nofun⟩
  | append_singleton before a ih =>
    intro inside
    have earlier : before <+: steps := (List.prefix_append before [a]).trans inside
    have inv := ih earlier
    have account := cluster_accounted prost medium registry progressPub before
      (fits.before (cluster_grows prost medium registry progressPub earlier))
    have taken : a ∈ steps := inside.mem (by simp)
    rw [cluster_snoc]
    have stepped := cluster_stepped prost medium
      (cluster prost medium registry progressPub before) a
    generalize cluster prost medium registry progressPub before = s at inv account stepped ⊢
    generalize s.step prost medium a = t at stepped ⊢
    cases stepped with
    | idle _ _ fleet accepted _ =>
      refine ⟨by rw [fleet]; exact inv.registered, by rw [fleet]; exact inv.listed, ?_⟩
      rw [fleet]
      intro t' member
      obtain ⟨n, there, named, suits⟩ := inv.started t' member
      exact ⟨n, there, named, suits.mono (by rw [accepted]; exact fun _ member => member)⟩
    | accepted uuid msg req _ =>
      refine inv.hub_step prost account ?_ fun _ member => List.mem_append_left _ member
      intro n same
      cases HubStep.call.inj same
    | hub h _ =>
      refine inv.hub_step prost account ?_ fun _ member => member
      rintro n rfl
      exact Or.inr taken
    | executed k env push definition _ _ _ => exact ⟨inv.registered, inv.listed, inv.started⟩
    | delivered k report _ =>
      obtain ⟨_, passes, started, _⟩ := receive_keeps prost
        { s.fleet with reports := s.fleet.reports.eraseIdx k } (progressFrame prost report.message)
      refine ⟨?_, ?_, ?_⟩
      · rw [receive_registry]
        exact inv.registered
      · rw [passes]
        exact inv.listed
      · rw [started]
        exact inv.started
    | progressFailed | lost k => exact ⟨inv.registered, inv.listed, inv.started⟩

theorem accepted_keyed (steps : List ClusterStep) :
    ∀ a ∈ (cluster prost medium registry progressPub steps).accepted,
      a.taskId = mediumTaskId a.uuid ∧ a.req.accessKey.isEmpty = false := by
  refine run_invariant (I := fun s : Cluster => ∀ a ∈ s.accepted,
    a.taskId = mediumTaskId a.uuid ∧ a.req.accessKey.isEmpty = false) ?_ (by rintro _ ⟨⟩) steps
  intro s a inv
  have stepped := cluster_stepped prost medium s a
  generalize s.step prost medium a = t at stepped ⊢
  cases stepped with
  | idle _ _ _ accepted _ => rwa [accepted]
  | accepted uuid msg req keyed =>
    intro b member
    rcases List.mem_append.mp member with old | new
    · exact inv b old
    · rw [List.mem_singleton.mp new]
      exact ⟨rfl, keyed⟩
  | _ => exact inv

/-- In every run, whatever is executed was asked for by an accepted request and placed on a
node that had registered. -/
theorem executions_traced (steps : List ClusterStep)
    (fits : (cluster prost medium registry progressPub steps).Fits prost) :
    ∀ ran ∈ (cluster prost medium registry progressPub steps).executed,
      (cluster prost medium registry progressPub steps).Traced (Known registry steps) ran := by
  intro ran logged
  have inv := cluster_accounted prost medium registry progressPub steps fits
  have keyed := accepted_keyed prost medium registry progressPub steps
  obtain ⟨job, asked, same⟩ := inv.definition fits.frames logged
  obtain ⟨pushed, sent, _⟩ := inv.executed ran logged
  have started := (cluster_traceable prost medium registry progressPub steps).started pushed
  obtain ⟨n, there, named, suits⟩ :=
    (cluster_placed prost medium registry progressPub steps fits).started _ started
  have id : ran.definition.taskId = ran.push.ticket.taskId := by
    rw [same]
    rfl
  have target : ran.definition.moduleTarget = ran.push.ticket.nodeId := by
    rw [same]
    rfl
  refine ⟨?_, ⟨n, there, named.trans target.symm, id ▸ suits⟩, pushed, sent, started⟩
  rw [id, target]
  rcases asked with ⟨a, member, rightId, rfl⟩ |
    ⟨⟨_, ⟨a, member, rightId, rfl⟩, rfl⟩, _, ⟨b, other, otherId, rfl⟩, stateful⟩
  · exact ⟨a, member, rightId, (keyed a member).2, Or.inl (by rw [rightId]; exact same)⟩
  · refine ⟨a, member, rightId, (keyed a member).2, Or.inr ⟨?_, b, other, otherId, stateful⟩⟩
    rw [rightId]
    exact same

end Run

theorem completed_question_was_executed :
    ∃ ran, (cluster topology mediumTopology .new true answeredSteps).Performed
      (mediumTaskId askUuid) ran ∧
      Completes ran.env ran.definition :=
  completed_tasks_were_executed topology mediumTopology .new true answeredSteps answeredSteps_fit
    (mediumTaskId askUuid) { questionTask with state := .completed [] }
    (by rw [answeredSteps_eq]; rfl) trivial

theorem question_execution_traced :
    (cluster topology mediumTopology .new true answeredSteps).Traced (Known .new answeredSteps)
      questionRan :=
  executions_traced topology mediumTopology .new true answeredSteps answeredSteps_fit questionRan
    (by rw [answeredSteps_eq]; exact List.mem_singleton_self questionRan)

end SeamlessSwarm
