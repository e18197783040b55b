import SeamlessSwarm.Provenance

/-! A turn of the task sender loop, and what becomes of the tasks that it starts, whatever
happens in between, as long as no node fails and no report is lost. -/
namespace SeamlessSwarm
open Trace

/-- A turn of `run_task_sender_loop`: no pass without a node or without a pending task. -/
def senderTurn (socket : PushSocket) (hub : Hub) (now : Nat) : List HubStep :=
  if hub.scheduler.registry.listNodes.isEmpty then []
  else
    let pendingCount := (hub.scheduler.listTasks.filter fun task => task.state = .pending).length
    if pendingCount > 0 then soloPass socket hub now
      (hub.scheduler.dispatchPendingTasks now).2.length
    else []

/-! The turns in which the loop does not dispatch. -/

theorem dispatchLoop_idle {nodes : List NodeProfile} {tasks : List Task}
    (idle : ∀ task ∈ tasks, ¬ Dispatchable nodes task) (now idx : Nat) :
    dispatchLoop nodes now idx tasks = (tasks, []) := by
  induction tasks generalizing idx with
  | nil => rfl
  | cons task rest ih =>
    obtain ⟨stays, others⟩ := List.forall_mem_cons.mp idle
    have tail := ih others
    by_cases pending : task.state = .pending
    · have unable : capable nodes task = [] := by
        rw [capable, List.filter_eq_nil_iff]
        exact fun n member fits => stays ⟨pending, n, member, fits⟩
      simp only [dispatchLoop, pending, if_true, unable, dite_true, tail idx]
    · simp only [dispatchLoop, pending, if_false, tail idx]

theorem dispatchNow_idle (prost : Prost) (socket : PushSocket) {s : ProfileScheduler} (now : Nat)
    (idle : ∀ task ∈ s.tasks.rows, ¬ Dispatchable s.registry.listNodes task) :
    dispatchNow prost socket s now = (s, []) := by
  have stays : dispatchWith s.registry.listNodes s.tasks now = (s.tasks, []) := by
    unfold dispatchWith
    split
    · rfl
    · simp only [dispatchLoop_idle idle]
      rfl
  simp only [dispatchNow, ProfileScheduler.dispatchPendingTasks, stays, sendAll]

/-- The guards of the loop only save passes that would do nothing. -/
theorem sender_turn_is_dispatchNow (prost : Prost) (socket : PushSocket) (hub : Hub) (now : Nat) :
    ∃ new, (run (Hub.step prost) hub (senderTurn socket hub now)).pushed = hub.pushed ++ new ∧
      (run (Hub.step prost) hub (senderTurn socket hub now)).scheduler =
        (dispatchNow prost socket hub.scheduler now).1 ∧
      new.map Push.attempt = (dispatchNow prost socket hub.scheduler now).2 := by
  unfold senderTurn
  split
  next alone =>
    have none_ : hub.scheduler.registry.listNodes = [] := List.isEmpty_iff.mp alone
    have idle := dispatchNow_idle prost socket now (s := hub.scheduler) (by
      rintro task _ ⟨_, n, member, _⟩
      rw [none_] at member
      cases member)
    rw [idle]
    exact ⟨[], (List.append_nil _).symm, rfl, rfl⟩
  · dsimp only
    split
    · exact solo_pass_is_dispatchNow prost socket hub now
    next quiet =>
      have idle := dispatchNow_idle prost socket now (s := hub.scheduler) (by
        rintro task member ⟨pending, _⟩
        have counted : task ∈ hub.scheduler.listTasks.filter fun task => task.state = .pending :=
          List.mem_filter.mpr ⟨member, decide_eq_true pending⟩
        exact quiet (List.length_pos_of_mem counted))
      rw [idle]
      exact ⟨[], (List.append_nil _).symm, rfl, rfl⟩

/-! What keeps a task on its way. -/

/-- Nothing is lost, no node is reported as failed, the progress receiver goes on, and the
id is not given out again. -/
def Calm (id : String) : ClusterStep → Prop
  | .receive uuid _ => mediumTaskId uuid ≠ id
  | .progressFailed => False
  | .fleet (.lose _) => False
  | .fleet (.hub (.call (.handleNodeFailure _))) => False
  | _ => True

/-- The task is stored, and completed unless a report of its completion is on its way. -/
def Cluster.Owed (s : Cluster) (id : String) : Prop :=
  ∃ task, s.fleet.hub.scheduler.tasks.get id = some task ∧
    (task.state = .completed [] ∨ ∃ report ∈ s.fleet.reports,
      report.message.taskId = id ∧ report.message.status = TaskStatus.completed.toI32)

section Steps
variable {prost : Prost} {s : Cluster}

theorem receiving_step (medium : MediumProst) {a : ClusterStep} (inv : s.Accounted prost)
    (fits : s.Fits prost) (receiving : s.fleet.receiving = true) (goesOn : a ≠ .progressFailed) :
    (s.step prost medium a).fleet.receiving = true := by
  have stepped := cluster_stepped prost medium s a
  generalize s.step prost medium a = t at stepped ⊢
  cases stepped with
  | idle _ _ fleet _ _ =>
    rw [fleet]
    exact receiving
  | progressFailed => exact absurd rfl goesOn
  | delivered k report here =>
    have small := fits.reported (inv.reported report (List.mem_of_getElem? here))
    rw [receive_report (by exact receiving) (small report.message List.mem_cons_self)]
    exact receiving
  | _ => exact receiving

theorem call_row {c : SchedulerCall} (quiet : reserved (.hub (.call c)) = false)
    (calm : ∀ nodeId, c ≠ .handleNodeFailure nodeId) {p : ProfileScheduler} {id : String}
    {task : Task}
    (found : p.tasks.get id = some task) (noPass : ∀ time, c ≠ .dispatchPendingTasks time) :
    (p.call c).tasks.get id = some task := by
  cases c with
  | submitTask taskId kind payload limit caps => cases quiet
  | updateTaskProgress taskId result => cases quiet
  | handleNodeFailure nodeId => exact absurd rfl (calm nodeId)
  | dispatchPendingTasks time => exact absurd rfl (noPass time)
  | rehash nodes tasks => exact (rehash_get p nodes tasks id).trans found
  | _ => exact found

theorem calm_hub_row {h : HubStep} (quiet : reserved (.hub h) = false)
    (calm : ∀ nodeId, h ≠ .call (.handleNodeFailure nodeId)) {hub : Hub} {id : String} {task : Task}
    (found : hub.scheduler.tasks.get id = some task) :
    ∃ after, (hub.step prost h).scheduler.tasks.get id = some after ∧
      (task.state = .completed [] → after.state = .completed []) := by
  cases (hub_stepped prost hub h).moves with
  | called c noPass called _ _ =>
    rw [called]
    exact ⟨task, call_row quiet (fun nodeId same => calm nodeId (congrArg _ same)) found noPass,
      fun done => done⟩
  | assigned i now nodes tasks _ _ =>
    rw [tasks]
    rcases dispatchWith_row found now with same | ⟨pending, node, running⟩
    · exact ⟨task, same, fun done => done⟩
    · refine ⟨_, running, fun done => ?_⟩
      rw [done] at pending
      cases pending
  | moved _ scheduler _ _ =>
    rw [scheduler]
    exact ⟨task, found, fun done => done⟩

theorem delivered_row {f : Fleet} (receiving : f.receiving = true) {report : TaskProgress}
    (fits : ReportsFit prost [report]) {id : String} {task : Task}
    (found : f.hub.scheduler.tasks.get id = some task) (k : Nat) :
    (Fleet.receive prost { f with reports := f.reports.eraseIdx k }
      (progressFrame prost report)).hub.scheduler.tasks.get id = some (task.changedBy report) := by
  have effect := receive_effect prost (f := { f with reports := f.reports.eraseIdx k }) receiving
    (progressFrame prost report) id
  rw [effect, readReport_frame prost report (fits _ List.mem_cons_self), found]
  rfl

theorem changedBy_completed {task : Task} {report : TaskProgress}
    (done : task.state = .completed []) :
    (task.changedBy report).state = .completed [] := by
  rcases changedBy_cases task report with same | ⟨_, _, same⟩ | ⟨_, _, same⟩
  · rw [same, done]
  · rw [same]
  · rw [same]
    exact done

theorem calm_row {id : String} (medium : MediumProst) {a : ClusterStep} (inv : s.Accounted prost)
    (fits : s.Fits prost) (receiving : s.fleet.receiving = true) (calm : Calm id a) {task : Task}
    (found : s.fleet.hub.scheduler.tasks.get id = some task) :
    ∃ after, (s.step prost medium a).fleet.hub.scheduler.tasks.get id = some after ∧
      (task.state = .completed [] → after.state = .completed []) := by
  have stepped := cluster_stepped prost medium s a
  generalize s.step prost medium a = t at stepped ⊢
  cases stepped with
  | idle _ _ fleet _ _ =>
    rw [fleet]
    exact ⟨task, found, fun done => done⟩
  | accepted uuid msg req _ =>
    have row : (s.fleet.hub.step prost
        (.call (req.job.submit (mediumTaskId uuid)))).scheduler.tasks.get id =
        _ := submit_get s.fleet.hub.scheduler _ _ _ _ _ id
    exact ⟨task, row.trans ((if_neg (Ne.symm calm)).trans found), fun done => done⟩
  | hub h quiet =>
    refine calm_hub_row quiet ?_ found
    rintro nodeId rfl
    exact calm
  | delivered k report here =>
    have small := fits.reported (inv.reported report (List.mem_of_getElem? here))
    exact ⟨_, delivered_row receiving small found k, changedBy_completed⟩
  | _ => exact ⟨task, found, fun done => done⟩

theorem owed_step {id : String} (medium : MediumProst) (a : ClusterStep) (inv : s.Accounted prost)
    (fits : s.Fits prost) (receiving : s.fleet.receiving = true) (owed : s.Owed id)
    (calm : Calm id a) :
    (s.step prost medium a).Owed id := by
  obtain ⟨task, found, owes⟩ := owed
  obtain ⟨after, later, kept⟩ := calm_row medium inv fits receiving calm found
  refine ⟨after, later, ?_⟩
  rcases owes with done | ⟨other, member, named, completed⟩
  · exact Or.inl (kept done)
  have stepped := cluster_stepped prost medium s a
  generalize s.step prost medium a = t at stepped later ⊢
  cases stepped with
  | idle _ _ fleet _ _ =>
    rw [fleet]
    exact Or.inr ⟨other, member, named, completed⟩
  | executed k env push definition _ _ _ =>
    exact Or.inr ⟨other, List.mem_append_left _ member, named, completed⟩
  | delivered k report here =>
    have small := fits.reported (inv.reported report (List.mem_of_getElem? here))
    obtain ⟨j, there⟩ := List.mem_iff_getElem?.mp member
    by_cases same : j = k
    · subst same
      cases here.symm.trans there
      cases later.symm.trans (delivered_row receiving small found j)
      have own : task.taskId = other.message.taskId :=
        (Keyed.Table.key_of_get found).trans named.symm
      left
      simp only [Task.changedBy, own, ne_eq, not_true_eq_false, if_false, completed, if_true]
    · right
      rw [(receive_keeps prost { s.fleet with reports := s.fleet.reports.eraseIdx k } _).2.2.2]
      exact ⟨other, List.mem_eraseIdx_iff_getElem?.mpr ⟨j, same, there⟩, named, completed⟩
  | lost k => exact absurd calm not_false
  | _ => exact Or.inr ⟨other, member, named, completed⟩

theorem execute_step (medium : MediumProst) {k : Nat} {push : Push} (env : WorkerEnv)
    {definition : TaskDefinition} (there : s.fleet.hub.pushed[k]? = some push)
    (sent : push.sent = true)
    (read : receiveTask prost push.frame = .accept definition) :
    s.step prost medium (.fleet (.execute k env)) = { s with
      fleet := { s.fleet with
        reports := s.fleet.reports ++ (executeTask env definition).reports.map (⟨push.ticket, ·⟩) }
      executed := s.executed ++ [⟨push, env, definition⟩] } := by
  simp only [Cluster.step, reserved, Bool.false_eq_true, if_false, Fleet.step, there,
    Fleet.reportsOf, sent,
    if_true, read, Fleet.runs]

theorem pushed_extends (medium : MediumProst) (s : Cluster) (a : ClusterStep) :
    s.fleet.hub.pushed <+: (s.step prost medium a).fleet.hub.pushed := by
  have stepped := cluster_stepped prost medium s a
  generalize s.step prost medium a = t at stepped ⊢
  cases stepped with
  | idle _ _ fleet _ _ => exact ⟨[], by rw [List.append_nil, fleet]⟩
  | hub h _ =>
    rw [show (s.fleet.hub.step prost h).pushed = _ from (hub_stepped prost s.fleet.hub h).logs.2]
    exact List.prefix_append _ _
  | delivered k report here =>
    have pushed := (receive_keeps prost { s.fleet with reports := s.fleet.reports.eraseIdx k }
      (progressFrame prost report.message)).1
    exact ⟨[], by rw [List.append_nil, pushed]⟩
  | _ => exact List.prefix_refl _

end Steps

section Run
variable {prost : Prost} {medium : MediumProst} {registry : EphemeralRegistry} {progressPub : Bool}
  {steps work : List ClusterStep} {id : String}

theorem cluster_append (steps more : List ClusterStep) :
    cluster prost medium registry progressPub (steps ++ more) =
      run (Cluster.step prost medium) (cluster prost medium registry progressPub steps) more :=
  run_append _ steps more

theorem fits_before {more : List ClusterStep}
    (fits : (cluster prost medium registry progressPub (steps ++ more)).Fits prost) :
    (cluster prost medium registry progressPub steps).Fits prost :=
  fits.before (cluster_grows prost medium registry progressPub (List.prefix_append steps more))

theorem still_receiving
    (fits : (cluster prost medium registry progressPub (steps ++ work)).Fits prost)
    (goesOn : .progressFailed ∉ work)
    (running : (cluster prost medium registry progressPub steps).fleet.receiving = true) :
    (cluster prost medium registry progressPub (steps ++ work)).fleet.receiving = true := by
  induction work using List.reverseRecOn with
  | nil => rwa [List.append_nil]
  | append_singleton work a ih =>
    rw [← List.append_assoc] at fits ⊢
    have before := fits_before fits
    have receiving := ih before fun member => goesOn (List.mem_append_left _ member)
    rw [cluster_snoc]
    refine receiving_step medium (cluster_accounted prost medium registry progressPub _ before)
      before receiving ?_
    rintro rfl
    exact goesOn (List.mem_append_right _ List.mem_cons_self)

/-- Reports of workers never end the receiver: it goes on until it fails. -/
theorem receives_until_failure
    (fits : (cluster prost medium registry progressPub steps).Fits prost)
    (goesOn : .progressFailed ∉ steps) :
    (cluster prost medium registry progressPub steps).fleet.receiving = true :=
  @still_receiving _ _ _ _ [] steps fits goesOn rfl

theorem calm_goes_on (calm : ∀ a ∈ work, Calm id a) : .progressFailed ∉ work :=
  fun member => calm _ member

theorem calm_run {I : Cluster → Prop}
    (kept : ∀ (s : Cluster) a, s.Accounted prost → s.Fits prost → s.fleet.receiving = true →
      Calm id a → I s → I (s.step prost medium a))
    (fits : (cluster prost medium registry progressPub (steps ++ work)).Fits prost)
    (running : (cluster prost medium registry progressPub steps).fleet.receiving = true)
    (calm : ∀ a ∈ work, Calm id a) (initial : I (cluster prost medium registry progressPub steps)) :
    I (cluster prost medium registry progressPub (steps ++ work)) := by
  induction work using List.reverseRecOn with
  | nil => rwa [List.append_nil]
  | append_singleton work a ih =>
    have earlier (b : ClusterStep) (member : b ∈ work) : Calm id b :=
      calm b (List.mem_append_left _ member)
    rw [← List.append_assoc] at fits ⊢
    have before := fits_before fits
    rw [cluster_snoc]
    exact kept _ a (cluster_accounted prost medium registry progressPub _ before) before
      (still_receiving before (calm_goes_on earlier) running) (calm a (by simp)) (ih before earlier)

/-- Once a stored task's frame is executed where it completes, and its reports have
arrived, the task is completed. -/
theorem executed_push_completes
    (fits : (cluster prost medium registry progressPub (steps ++ work)).Fits prost)
    (receives : (cluster prost medium registry progressPub steps).fleet.receiving = true)
    (calm : ∀ a ∈ work, Calm id a) {task : Task}
    (stored : (cluster prost medium registry progressPub steps).fleet.hub.scheduler.tasks.get
      id = some task)
    {k : Nat} {push : Push}
    (pushed : (cluster prost medium registry progressPub steps).fleet.hub.pushed[k]? = some push)
    (sent : push.sent = true) {definition : TaskDefinition}
    (read : receiveTask prost push.frame = .accept definition) (named : definition.taskId = id)
    {env : WorkerEnv} (executed : .fleet (.execute k env) ∈ work)
    (completes : Completes env definition)
    (arrived : ∀ report ∈ (cluster prost medium registry progressPub (steps ++ work)).fleet.reports,
      report.message.taskId ≠ id) :
    ∃ done, (cluster prost medium registry progressPub
      (steps ++ work)).fleet.hub.scheduler.tasks.get id =
      some done ∧ done.state = .completed [] := by
  obtain ⟨first, rest, rfl⟩ := List.append_of_mem executed
  have whole : steps ++ (first ++ .fleet (.execute k env) :: rest) =
      steps ++ first ++ [.fleet (.execute k env)] ++ rest := by simp
  rw [whole] at fits arrived ⊢
  have atEnd := fits_before fits
  have atStart := fits_before atEnd
  have present : ∃ task, (cluster prost medium registry progressPub
      (steps ++ first)).fleet.hub.scheduler.tasks.get id = some task := by
    refine calm_run (I := fun s => ∃ task, s.fleet.hub.scheduler.tasks.get id = some task) ?_
      atStart
      receives (fun a member => calm a (List.mem_append_left _ member)) ⟨task, stored⟩
    intro s a inv fits receiving quiet ⟨task, found⟩
    obtain ⟨after, later, _⟩ := calm_row medium inv fits receiving quiet found
    exact ⟨after, later⟩
  have there : (cluster prost medium registry progressPub (steps ++ first)).fleet.hub.pushed[k]? =
      some push := by
    refine calm_run (I := fun s => s.fleet.hub.pushed[k]? = some push) ?_ atStart receives
      (fun a member => calm a (List.mem_append_left _ member)) pushed
    intro s a _ _ _ _ before
    obtain ⟨inside, same⟩ := List.getElem?_eq_some_iff.mp before
    rw [← same]
    exact List.prefix_iff_getElem?.mp (pushed_extends medium s a) k inside
  obtain ⟨row, found⟩ := present
  have owed : (cluster prost medium registry progressPub
      (steps ++ first ++ [.fleet (.execute k env)])).Owed id := by
    obtain ⟨running, last, split, _, own, status⟩ := executeTask_completes completes
    rw [cluster_snoc, execute_step medium env there sent read]
    refine ⟨row, found, Or.inr ⟨⟨push.ticket, last⟩, List.mem_append_right _ ?_,
      own.trans named, status⟩⟩
    refine List.mem_map.mpr ⟨last, ?_, rfl⟩
    rw [split]
    exact List.mem_append_right _ List.mem_cons_self
  have first_calm (a : ClusterStep) (member : a ∈ first) : Calm id a :=
    calm a (List.mem_append_left _ member)
  have stillRunning : (cluster prost medium registry progressPub
      (steps ++ first ++ [.fleet (.execute k env)])).fleet.receiving = true := by
    rw [cluster_snoc]
    exact receiving_step medium (cluster_accounted prost medium registry progressPub _ atStart)
      atStart
      (still_receiving atStart (calm_goes_on first_calm) receives) nofun
  obtain ⟨done, later, settled⟩ := calm_run (fun s a inv fits receiving quiet owed =>
    owed_step medium a inv fits receiving owed quiet) fits stillRunning
    (fun a member => calm a (List.mem_append_right _ (List.mem_cons_of_mem _ member))) owed
  refine ⟨done, later, settled.resolve_right ?_⟩
  rintro ⟨report, member, own, _⟩
  exact arrived report member own

end Run

/-! The turn inside the swarm. -/

def hubSteps (steps : List HubStep) : List ClusterStep := steps.map fun h => .fleet (.hub h)

theorem run_hubSteps (prost : Prost) (medium : MediumProst) {steps : List HubStep} (s : Cluster)
    (quiet : ∀ h ∈ steps, reserved (.hub h) = false) :
    run (Cluster.step prost medium) s (hubSteps steps) =
      { s with fleet := { s.fleet with hub := run (Hub.step prost) s.fleet.hub steps } } := by
  induction steps generalizing s with
  | nil => rfl
  | cons h rest ih =>
    obtain ⟨head, tail⟩ := List.forall_mem_cons.mp quiet
    have first : s.step prost medium (.fleet (.hub h)) =
        { s with fleet := { s.fleet with hub := s.fleet.hub.step prost h } } := by
      simp only [Cluster.step, head, Bool.false_eq_true, if_false, Fleet.step, Fleet.runs,
        List.append_nil]
    rw [hubSteps, List.map_cons, run_cons, first]
    exact ih _ tail

theorem sends_quiet (socket : PushSocket) (pass attempt n : Nat) :
    ∀ h ∈ sends socket pass attempt n, reserved (.hub h) = false := by
  induction n generalizing attempt with
  | zero => exact List.forall_mem_nil _
  | succ n ih =>
    exact List.forall_mem_cons.mpr ⟨rfl, List.forall_mem_cons.mpr ⟨rfl, ih (attempt + 1)⟩⟩

theorem senderTurn_quiet (socket : PushSocket) (hub : Hub) (now : Nat) :
    ∀ h ∈ senderTurn socket hub now, reserved (.hub h) = false := by
  unfold senderTurn
  split
  · exact List.forall_mem_nil _
  · dsimp only
    split
    · rw [soloPass]
      exact List.forall_mem_cons.mpr ⟨rfl, List.forall_mem_cons.mpr ⟨rfl,
        List.forall_mem_cons.mpr ⟨rfl, sends_quiet socket _ 0 _⟩⟩⟩
    · exact List.forall_mem_nil _

/-- What the turn pushes: frames of tasks that were waiting, for nodes that were listed. -/
structure Turned (prost : Prost) (socket : PushSocket) (s t : Cluster) (new : List Push) :
    Prop where
  pushed : t.fleet.hub.pushed = s.fleet.hub.pushed ++ new
  same : t.executed = s.executed ∧ t.fleet.reports = s.fleet.reports
  receiving : t.fleet.receiving = s.fleet.receiving
  frames : ∀ p ∈ new, ∃ id task node, s.fleet.hub.scheduler.tasks.get id = some task ∧
    node ∈ s.fleet.hub.scheduler.registry.listNodes ∧ p.frame = taskFrame prost task id node.nodeId
  waiting : ∀ id task, s.fleet.hub.scheduler.tasks.get id = some task →
    Dispatchable s.fleet.hub.scheduler.registry.listNodes task →
    (∃ running, t.fleet.hub.scheduler.tasks.get id = some running) ∧
      ∃ k p, new[k]? = some p ∧ p.ticket.taskId = id ∧ p.sent = socket.accepts k ∧
        ∃ node ∈ s.fleet.hub.scheduler.registry.listNodes,
          p.frame = taskFrame prost task id node.nodeId

theorem sender_turned (prost : Prost) (medium : MediumProst) (socket : PushSocket) (s : Cluster)
    (now : Nat) :
    ∃ new, Turned prost socket s (run (Cluster.step prost medium) s
      (hubSteps (senderTurn socket s.fleet.hub now))) new := by
  obtain ⟨new, pushed, scheduler, attempts⟩ :=
    sender_turn_is_dispatchNow prost socket s.fleet.hub now
  rw [run_hubSteps prost medium s (senderTurn_quiet socket s.fleet.hub now)]
  have attempt (k : Nat) := dispatchNow_attempt prost socket s.fleet.hub.scheduler now k
  refine ⟨new, pushed, ⟨rfl, rfl⟩, rfl, ?_, ?_⟩
  · intro p member
    obtain ⟨k, here⟩ := List.mem_iff_getElem?.mp member
    have tried : (dispatchNow prost socket s.fleet.hub.scheduler now).2[k]? = some p.attempt := by
      rw [← attempts, List.getElem?_map, here]
      rfl
    obtain ⟨id, node, task, ticket, later, same⟩ := (attempt k p.attempt).mp tried
    obtain ⟨old, n, found, _, listed, rfl, _, placed⟩ := ticket_placed (List.mem_of_getElem? ticket)
    cases later.symm.trans placed
    exact ⟨id, old, n, found, listed, congrArg PushAttempt.frame same⟩
  · intro id task found able
    have fate := dispatchWith_fate s.fleet.hub.scheduler.registry.listNodes
      s.fleet.hub.scheduler.tasks now id
    rw [found] at fate
    cases fate with
    | kept _ unable _ _ => exact absurd able unable
    | placed _ node _ inside _ later listed =>
      obtain ⟨k, ticket⟩ := List.mem_iff_getElem?.mp listed
      have tried := (attempt k _).mpr ⟨id, node.nodeId, _, ticket, later, rfl⟩
      rw [← attempts, List.getElem?_map] at tried
      obtain ⟨p, here, same⟩ := Option.map_eq_some_iff.mp tried
      refine ⟨⟨_, (congrArg (fun p => p.tasks.get id) scheduler).trans later⟩, k, p, here, ?_⟩
      exact ⟨congrArg PushAttempt.taskId same, congrArg PushAttempt.sent same, node, inside,
        congrArg PushAttempt.frame same⟩

section Waiting
variable (prost : Prost) (medium : MediumProst) (registry : EphemeralRegistry) (progressPub : Bool)

def withTurn (steps : List ClusterStep) (socket : PushSocket) (now : Nat) : List ClusterStep :=
  steps ++ hubSteps (senderTurn socket (cluster prost medium registry progressPub steps).fleet.hub
    now)

theorem cluster_turned (steps : List ClusterStep) (socket : PushSocket) (now : Nat) :
    ∃ new, Turned prost socket (cluster prost medium registry progressPub steps)
      (cluster prost medium registry progressPub
        (withTurn prost medium registry progressPub steps socket now))
      new := by
  rw [withTurn, cluster_append]
  exact sender_turned prost medium socket _ now

/-- Every frame pushed for the task from number `base` on was taken by the socket and is
executed in this work where it completes. -/
def FrameServed (s : Cluster) (base : Nat) (id : String) (work : List ClusterStep) : Prop :=
  ∀ k push, base ≤ k → s.fleet.hub.pushed[k]? = some push → push.ticket.taskId = id →
    push.sent = true ∧ ∃ env, .fleet (.execute k env) ∈ work ∧
      ∀ definition, receiveTask prost push.frame = .accept definition → Completes env definition

/-- From any state of the swarm in which reports are received, a waiting task that some node
can take is completed by a turn of the sender loop and any calm work that serves it. -/
theorem waiting_tasks_complete (steps work : List ClusterStep) (socket : PushSocket) (now : Nat)
    (id : String) (task : Task) :
    let turn := withTurn prost medium registry progressPub steps socket now
    let s := cluster prost medium registry progressPub steps
    let turned := cluster prost medium registry progressPub turn
    let last := cluster prost medium registry progressPub (turn ++ work)
    s.fleet.receiving = true → s.fleet.hub.scheduler.tasks.get id = some task →
    Dispatchable s.fleet.hub.scheduler.registry.listNodes task → last.Fits prost →
    (∀ a ∈ work, Calm id a) → FrameServed prost turned s.fleet.hub.pushed.length id work →
    (∀ report ∈ last.fleet.reports, report.message.taskId ≠ id) →
    ∃ done, last.fleet.hub.scheduler.tasks.get id = some done ∧ done.state = .completed [] := by
  intro turn s turned last receives waiting able fits calm served arrived
  obtain ⟨new, turns⟩ := cluster_turned prost medium registry progressPub steps socket now
  obtain ⟨⟨running, stored⟩, k, p, here, named, _, node, _, framed⟩ :=
    turns.waiting id task waiting able
  have there : turned.fleet.hub.pushed[s.fleet.hub.pushed.length + k]? = some p := by
    have pushed : turned.fleet.hub.pushed = s.fleet.hub.pushed ++ new := turns.pushed
    rw [pushed, List.getElem?_append_right (Nat.le_add_right _ _), Nat.add_sub_cancel_left]
    exact here
  have small := (fits_before fits).frames p (List.mem_of_getElem? there)
  have read : receiveTask prost p.frame = .accept (taskDef task id node.nodeId) := by
    rw [framed] at small ⊢
    exact receiveTask_frame prost task id node.nodeId small
  obtain ⟨sent, env, executed, completes⟩ := served _ p (Nat.le_add_right _ _) there named
  have receiving : turned.fleet.receiving = true := turns.receiving.trans receives
  exact executed_push_completes fits receiving calm stored there sent read rfl executed
    (completes _ read) arrived

/-! Delivering everything that is in flight. -/

theorem drain (s : Cluster) :
    ∃ t, run (Cluster.step prost medium) s
        (List.replicate s.fleet.reports.length (.fleet (.deliver 0))) = t ∧ t.fleet.reports = [] ∧
      t.fleet.hub.pushed = s.fleet.hub.pushed ∧ t.executed = s.executed := by
  generalize length : s.fleet.reports.length = n
  induction n generalizing s with
  | zero => exact ⟨s, rfl, List.length_eq_zero_iff.mp length, rfl, rfl⟩
  | succ n ih =>
    obtain ⟨report, rest, split⟩ := List.exists_cons_of_length_eq_add_one length
    obtain ⟨pushed, _, _, reports⟩ := receive_keeps prost { s.fleet with reports := rest }
      (progressFrame prost report.message)
    have step : s.step prost medium (.fleet (.deliver 0)) = { s with
        fleet := Fleet.receive prost { s.fleet with reports := rest }
          (progressFrame prost report.message) } := by
      simp only [Cluster.step, reserved, Bool.false_eq_true, if_false, Fleet.step, split,
        List.getElem?_cons_zero, List.eraseIdx_cons_zero, Fleet.runs, List.append_nil]
    have shorter : (s.step prost medium (.fleet (.deliver 0))).fleet.reports.length = n := by
      rw [step, reports]
      rw [split, List.length_cons] at length
      exact Nat.succ.inj length
    obtain ⟨t, same, empty, pushes, executed⟩ := ih _ shorter
    refine ⟨t, same, empty, pushes.trans ?_, executed.trans ?_⟩
    · rw [step, pushed]
    · rw [step]

/-- No state in which reports are received is a dead end for a waiting task that some node
can take: if its execution would complete somewhere, then the run can go on so that it is
completed. -/
theorem waiting_tasks_can_complete (steps : List ClusterStep) (id : String) (task : Task)
    (env : WorkerEnv) :
    let s := cluster prost medium registry progressPub steps
    s.fleet.receiving = true → s.Fits prost → s.fleet.hub.scheduler.tasks.get id = some task →
    Dispatchable s.fleet.hub.scheduler.registry.listNodes task →
    (∀ id task, s.fleet.hub.scheduler.tasks.get id = some task →
      ∀ node ∈ s.fleet.hub.scheduler.registry.listNodes,
        (taskFrame prost task id node.nodeId).length < 4294967301) →
    (∀ node, Completes env (taskDef task id node)) →
    (∀ node, ReportsFit prost (executeTask env (taskDef task id node)).reports) →
    ∃ more done,
      (cluster prost medium registry progressPub (steps ++ more)).fleet.hub.scheduler.tasks.get id =
        some done ∧ done.state = .completed [] := by
  intro s receives fits waiting able frames completes reports
  obtain ⟨new, turned⟩ := cluster_turned prost medium registry progressPub steps
    (some fun _ => true) 0
  generalize reached : withTurn prost medium registry progressPub steps (some fun _ => true) 0 = all
    at turned
  obtain ⟨⟨running, stored⟩, k, p, here, named, sent, node, listed, framed⟩ :=
    turned.waiting id task waiting able
  have there : (cluster prost medium registry progressPub all).fleet.hub.pushed[
      s.fleet.hub.pushed.length + k]? = some p := by
    rw [turned.pushed, List.getElem?_append_right (Nat.le_add_right _ _), Nat.add_sub_cancel_left]
    exact here
  have read : receiveTask prost p.frame = .accept (taskDef task id node.nodeId) := by
    rw [framed]
    exact receiveTask_frame prost task id node.nodeId (frames id task waiting node listed)
  generalize index : s.fleet.hub.pushed.length + k = i at there
  have executed := execute_step medium env there sent read
  rw [← cluster_snoc] at executed
  obtain ⟨last, drained, empty, pushed, ran⟩ := drain prost medium
    (cluster prost medium registry progressPub (all ++ [.fleet (.execute i env)]))
  generalize deliveries : List.replicate _ _ = rest at drained
  have ended : cluster prost medium registry progressPub
      (all ++ (.fleet (.execute i env) :: rest)) = last := by
    rw [← drained, List.append_cons, cluster_append]
  have atEnd : (cluster prost medium registry progressPub
      (all ++ (.fleet (.execute i env) :: rest))).Fits prost := by
    rw [ended]
    constructor
    · intro q member
      rw [pushed, executed] at member
      have logged : q ∈ (cluster prost medium registry progressPub all).fleet.hub.pushed := member
      rw [turned.pushed] at logged
      rcases List.mem_append.mp logged with old | fresh
      · exact fits.frames q old
      · obtain ⟨other, row, n, found, there', same⟩ := turned.frames q fresh
        rw [same]
        exact frames other row found n there'
    · intro r member
      rw [ran, executed] at member
      rcases List.mem_append.mp member with old | fresh
      · rw [turned.same.1] at old
        exact fits.reports r old
      · rw [List.mem_singleton.mp fresh]
        exact reports node.nodeId
  have calm : ∀ a ∈ ClusterStep.fleet (.execute i env) :: rest, Calm id a := by
    refine List.forall_mem_cons.mpr ⟨trivial, ?_⟩
    rw [← deliveries]
    intro a member
    rw [List.eq_of_mem_replicate member]
    trivial
  refine ⟨hubSteps (senderTurn (some fun _ => true) s.fleet.hub 0) ++
    (.fleet (.execute i env) :: rest), ?_⟩
  rw [← List.append_assoc]
  rw [withTurn] at reached
  rw [reached]
  refine executed_push_completes atEnd (turned.receiving.trans receives) calm stored there sent read
    rfl List.mem_cons_self (completes node.nodeId) ?_
  intro report member
  rw [ended, empty] at member
  cases member

end Waiting

section Example

private def questionWork : List ClusterStep :=
  [.fleet (.execute 0 answeringEnv), .fleet (.deliver 0), .fleet (.deliver 0)]

private def waitingQuestion : Task := { questionTask with state := .pending }

private theorem question_turn :
    withTurn topology mediumTopology .new true askedSteps (some fun _ => true) 1 = askedSteps ++
      servedSteps := by
  rw [withTurn, askedSteps_eq]
  rfl

private theorem question_run :
    withTurn topology mediumTopology .new true askedSteps (some fun _ => true) 1 ++ questionWork =
      answeredSteps := by
  rw [question_turn]
  rfl

private theorem question_waits :
    (cluster topology mediumTopology .new true askedSteps).fleet.hub.scheduler.tasks.get
      (mediumTaskId askUuid) = some waitingQuestion := by
  rw [askedSteps_eq]
  rfl

private theorem question_received :
    (cluster topology mediumTopology .new true askedSteps).fleet.receiving = true := by
  rw [askedSteps_eq]
  rfl

private theorem question_able : Dispatchable
    (cluster topology mediumTopology .new true askedSteps).fleet.hub.scheduler.registry.listNodes
      waitingQuestion := by
  rw [askedSteps_eq]
  exact ⟨rfl, modelNode, List.mem_cons_self, rfl⟩

private theorem question_prompt : Text.fromUtf8Lossy (Hex.stringBytes "hi") = "hi" :=
  Text.fromUtf8Lossy_stringBytes "hi"

private theorem question_cut : promptCut "hi" = true := by decide +kernel

private theorem question_completes (node : String) :
    Completes answeringEnv (taskDef waitingQuestion (mediumTaskId askUuid) node) := by
  have plain : Text.isBlank "hi" = false := rfl
  refine ⟨rfl, fun _ => ?_⟩
  simp only [OllamaCompletes, taskDef, waitingQuestion, questionTask, question_prompt]
  exact ⟨plain, fun _ => question_cut, _, rfl⟩

private theorem question_reports (node : String) :
    (executeTask answeringEnv (taskDef waitingQuestion (mediumTaskId askUuid) node)).reports =
      [runningReport, answerReport] := by
  have plain : Text.isBlank "hi" = false := rfl
  have able : allCapable answeringEnv (taskDef waitingQuestion (mediumTaskId askUuid) node) =
      true := rfl
  have answer : answeringEnv.runOllama "hi" = .response "ok" := rfl
  simp only [executeTask, able, Bool.not_true, Bool.false_eq_true, if_false]
  change (executeOllamaTask answeringEnv
    (taskDef waitingQuestion (mediumTaskId askUuid) node)).reports = _
  simp only [executeOllamaTask, taskDef, waitingQuestion, questionTask, question_prompt, plain,
    question_cut,
    Bool.not_true, Bool.and_false, Bool.false_eq_true, if_false, answer]
  rfl

private theorem question_frame :
    (taskFrame topology waitingQuestion (mediumTaskId askUuid) "n").length < 4294967301 := by
  decide +kernel

theorem waiting_question_completes :
    ∃ done, (cluster topology mediumTopology .new true answeredSteps).fleet.hub.scheduler.tasks.get
      (mediumTaskId askUuid) = some done ∧ done.state = .completed [] := by
  rw [← question_run]
  refine waiting_tasks_complete topology mediumTopology .new true askedSteps questionWork
    (some fun _ => true) 1
    (mediumTaskId askUuid) waitingQuestion question_received question_waits
    question_able ?_ ?_ ?_ ?_
  · rw [question_run]
    exact answeredSteps_fit
  · intro a member
    simp only [questionWork, List.mem_cons, List.not_mem_nil, or_false] at member
    rcases member with rfl | rfl | rfl <;> trivial
  · intro k push _ there _
    rw [question_turn, servedSteps_eq] at there
    obtain ⟨rfl, rfl⟩ : k = 0 ∧ questionPush = push := by
      cases k with
      | zero => exact ⟨rfl, Option.some.inj there⟩
      | succ k => cases there
    refine ⟨rfl, answeringEnv, List.mem_cons_self, ?_⟩
    intro definition read
    rw [questionPush] at read
    have received := receiveTask_frame topology questionTask (mediumTaskId askUuid) "n"
      question_frame
    cases received.symm.trans read
    exact question_completes "n"
  · rw [question_run, answeredSteps_eq]
    exact List.forall_mem_nil _

theorem waiting_question_can_complete :
    ∃ more done, (cluster topology mediumTopology .new true
      (askedSteps ++ more)).fleet.hub.scheduler.tasks.get
      (mediumTaskId askUuid) = some done ∧ done.state = .completed [] := by
  refine waiting_tasks_can_complete topology mediumTopology .new true askedSteps
    (mediumTaskId askUuid)
    waitingQuestion answeringEnv question_received ?_ question_waits question_able ?_
    question_completes ?_
  · have whole : answeredSteps = askedSteps ++ (servedSteps ++ questionWork) := by
      rw [← question_run, question_turn, List.append_assoc]
    have fits := answeredSteps_fit
    rw [whole] at fits
    exact fits_before fits
  · rw [askedSteps_eq]
    intro id task found node listed
    have row : task ∈ [waitingQuestion] := Keyed.Table.mem_of_get found
    cases List.mem_singleton.mp row
    cases (Keyed.Table.key_of_get found : waitingQuestion.taskId = id)
    rw [List.mem_singleton.mp listed]
    exact question_frame
  · intro node
    rw [question_reports]
    exact List.forall_mem_cons.mpr
      ⟨question_reports_fit.1, List.forall_mem_singleton.mpr question_reports_fit.2⟩

end Example

end SeamlessSwarm
