import SeamlessSwarm.Inference
import SeamlessSwarm.Reports
import SeamlessSwarm.Submissions

/-! The whole swarm: the medium server in front of the hub, the dispatch passes, the
workers, and their reports on the way back. Tasks come from accepted requests only and
results from reports only; everything else may happen at any time and in any order. -/
namespace SeamlessSwarm
open Trace

/-- An execution, kept in a log that is not in the code: the push that a worker was
handed, the worker's environment, and the definition that it read. -/
structure Ran where
  push : Push
  env : WorkerEnv
  definition : TaskDefinition

structure Cluster where
  fleet : Fleet
  receiving : Bool
  accepted : List Accepted
  executed : List Ran

/-- `failed` and `progressFailed` end the medium server and the progress receiver: an error
of the socket, or a frame from elsewhere that breaks them. -/
inductive ClusterStep where
  | receive (uuid : UuidV4) (msg : Bytes)
  | failed
  | progressFailed
  | fleet (a : FleetStep)

/-- The calls of the medium server and of the progress receiver, which nobody else makes. -/
def reserved : FleetStep → Bool
  | .hub (.call (.submitTask ..)) => true
  | .hub (.call (.updateTaskProgress ..)) => true
  | _ => false

def Fleet.runs (prost : Prost) (f : Fleet) : FleetStep → List Ran
  | .execute k env =>
    match f.hub.pushed[k]? with
    | some push =>
      if push.sent then
        match receiveTask prost push.frame with
        | .accept definition => [⟨push, env, definition⟩]
        | _ => []
      else []
    | none => []
  | _ => []

namespace Cluster
variable (prost : Prost) (medium : MediumProst)

def start (registry : EphemeralRegistry) (progressPub : Bool) : Cluster :=
  ⟨Fleet.start registry progressPub, true, [], []⟩

def step (s : Cluster) : ClusterStep → Cluster
  | .receive uuid msg =>
    if s.receiving then
      match mediumAnswer medium s.fleet.hub.scheduler.registry uuid msg with
      | none => { s with receiving := false }
      | some (.accepted taskId req _) =>
        { s with
          fleet := s.fleet.step prost (.hub (.call (req.job.submit taskId)))
          accepted := s.accepted ++ [⟨uuid, taskId, req⟩] }
      | some _ => s
    else s
  | .failed => { s with receiving := false }
  | .progressFailed => { s with fleet := { s.fleet with receiving := false } }
  | .fleet a =>
    if reserved a then s
    else { s with fleet := s.fleet.step prost a, executed := s.executed ++ s.fleet.runs prost a }

def Requested (s : Cluster) (id : String) (job : Job) : Prop :=
  ∃ a ∈ s.accepted, a.taskId = id ∧ a.req.job = job

/-- The job of a request, or that job with the one checkpoint that workers write, if a
stateful job was requested under the same id. -/
def Asked (s : Cluster) (id : String) (job : Job) : Prop :=
  s.Requested id job ∨
    (∃ first, s.Requested id first ∧ job = { first with payload := [88, 99, 111, 222] }) ∧
      ∃ other, s.Requested id other ∧ other.taskType = .statefulLongRunning

/-- All frames and all reports so far fit the length word of a frame. -/
structure Fits (s : Cluster) : Prop where
  frames : ∀ p ∈ s.fleet.hub.pushed, p.frame.length < 4294967301
  reports : ∀ ran ∈ s.executed, ReportsFit prost (executeTask ran.env ran.definition).reports

def Reported (s : Cluster) (report : TaskProgress) : Prop :=
  ∃ ran ∈ s.executed, report ∈ (executeTask ran.env ran.definition).reports

/-- Where everything in the swarm comes from: what is stored, held by a pass and pushed was
asked for, what was executed was pushed, and what is on its way back, was broadcast or has
completed a task was reported by an execution. -/
structure Accounted (s : Cluster) : Prop where
  stored : ∀ id task, s.fleet.hub.scheduler.tasks.get id = some task → s.Asked id task.job
  held : ∀ (i : Nat) ticket task queue,
    s.fleet.hub.passes[i]? = some (.loaded ticket task queue) → s.Asked ticket.taskId task.job
  pushed : ∀ p ∈ s.fleet.hub.pushed, ∃ task, s.Asked p.ticket.taskId task.job ∧
    p.frame = taskFrame prost task p.ticket.taskId p.ticket.nodeId
  executed : ∀ ran ∈ s.executed, ran.push ∈ s.fleet.hub.pushed ∧ ran.push.sent = true ∧
    receiveTask prost ran.push.frame = .accept ran.definition
  reported : ∀ r ∈ s.fleet.reports, s.Reported r.message
  published : ∀ msg ∈ s.fleet.published, ∃ report, s.Reported report ∧
    msg = progressFrame prost report
  completed : ∀ id task, s.fleet.hub.scheduler.tasks.get id = some task → task.state.Completed →
    ∃ report, s.Reported report ∧ report.taskId = id ∧ report.status = TaskStatus.completed.toI32

end Cluster

/-! What one step can do. -/

inductive Cluster.Stepped (prost : Prost) (s : Cluster) : ClusterStep → Cluster → Prop where
  | idle (a : ClusterStep) (after : Cluster) : after.fleet = s.fleet → after.accepted = s.accepted →
      after.executed = s.executed → Stepped prost s a after
  | accepted (uuid : UuidV4) (msg : Bytes) (req : TaskSubmitRequest) :
    req.accessKey.isEmpty = false →
      Stepped prost s (.receive uuid msg)
        { s with
          fleet := { s.fleet with
            hub := s.fleet.hub.step prost (.call (req.job.submit (mediumTaskId uuid))) }
          accepted := s.accepted ++ [⟨uuid, mediumTaskId uuid, req⟩] }
  | progressFailed : Stepped prost s .progressFailed
      { s with fleet := { s.fleet with receiving := false } }
  | hub (h : HubStep) : reserved (.hub h) = false →
      Stepped prost s (.fleet (.hub h))
        { s with fleet := { s.fleet with hub := s.fleet.hub.step prost h } }
  | executed (k : Nat) (env : WorkerEnv) (push : Push) (definition : TaskDefinition) :
      push ∈ s.fleet.hub.pushed → push.sent = true →
        receiveTask prost push.frame = .accept definition →
      Stepped prost s (.fleet (.execute k env))
        { s with
          fleet := { s.fleet with
            reports := s.fleet.reports ++
              (executeTask env definition).reports.map (⟨push.ticket, ·⟩) }
          executed := s.executed ++ [⟨push, env, definition⟩] }
  | delivered (k : Nat) (report : Report) : s.fleet.reports[k]? = some report →
      Stepped prost s (.fleet (.deliver k))
        { s with
          fleet := Fleet.receive prost { s.fleet with reports := s.fleet.reports.eraseIdx k }
            (progressFrame prost report.message) }
  | lost (k : Nat) :
      Stepped prost s (.fleet (.lose k))
        { s with fleet := { s.fleet with reports := s.fleet.reports.eraseIdx k } }

theorem cluster_stepped (prost : Prost) (medium : MediumProst) (s : Cluster) (a : ClusterStep) :
    s.Stepped prost a (s.step prost medium a) := by
  cases a with
  | receive uuid msg =>
    unfold Cluster.step
    dsimp only
    split
    · split
      · exact .idle _ _ rfl rfl rfl
      next taskId req response answered =>
        obtain ⟨rfl, _, keyed⟩ := mediumAnswer_accepted answered
        exact .accepted uuid msg req keyed
      · exact .idle _ _ rfl rfl rfl
    · exact .idle _ _ rfl rfl rfl
  | failed => exact .idle _ _ rfl rfl rfl
  | progressFailed => exact .progressFailed
  | fleet a =>
    cases quiet : reserved a with
    | true =>
      simp only [Cluster.step, quiet, if_true]
      exact .idle _ _ rfl rfl rfl
    | false =>
      simp only [Cluster.step, quiet, Bool.false_eq_true, if_false]
      cases a with
      | hub h =>
        simp only [Fleet.runs, List.append_nil]
        exact .hub h quiet
      | execute k env =>
        cases here : s.fleet.hub.pushed[k]? with
        | none =>
          simp only [Fleet.step, Fleet.runs, here, List.append_nil]
          exact .idle _ _ rfl rfl rfl
        | some push =>
          have pushed := List.mem_of_getElem? here
          simp only [Fleet.step, Fleet.runs, here, Fleet.reportsOf]
          cases sent : push.sent with
          | false =>
            simp only [Bool.false_eq_true, if_false, List.append_nil]
            exact .idle _ _ rfl rfl rfl
          | true =>
            cases read : receiveTask prost push.frame with
            | accept definition => exact .executed k env push definition pushed sent read
            | reject =>
              simp only [if_true, List.append_nil]
              exact .idle _ _ rfl rfl rfl
            | panic =>
              simp only [if_true, List.append_nil]
              exact .idle _ _ rfl rfl rfl
      | deliver k =>
        simp only [Fleet.runs, List.append_nil]
        cases here : s.fleet.reports[k]? with
        | none =>
          simp only [Fleet.step, here]
          exact .idle _ _ rfl rfl rfl
        | some report =>
          simp only [Fleet.step, here]
          exact .delivered k report here
      | lose k =>
        simp only [Fleet.runs, List.append_nil]
        exact .lost k

/-! Rows under the steps that neither submit nor report. -/

theorem nodeFailure_completed {task : Task} {nodeId : String}
    (completed : (task.nodeFailure nodeId).state.Completed) : task.state.Completed := by
  rcases task.nodeFailure_cases nodeId with ⟨same, _⟩ | ⟨_, _, ⟨_, _, after⟩ | ⟨_, after⟩⟩
  · rwa [same] at completed
  · rw [after] at completed
    cases completed
  · rw [after] at completed
    cases completed

theorem quiet_call {s : ProfileScheduler} {c : SchedulerCall}
    (quiet : reserved (.hub (.call c)) = false)
    (noPass : ∀ time, c ≠ .dispatchPendingTasks time) {id : String} {task : Task}
    (later : (s.call c).tasks.get id = some task) :
    ∃ old, s.tasks.get id = some old ∧ task.job = old.job ∧
      (task.state.Completed → old.state.Completed) := by
  cases c with
  | submitTask taskId kind payload limit caps => cases quiet
  | updateTaskProgress taskId result => cases quiet
  | handleNodeFailure nodeId =>
    rw [failure_get] at later
    obtain ⟨old, found, rfl⟩ := Option.map_eq_some_iff.mp later
    exact ⟨old, found, nodeFailure_job nodeId old, nodeFailure_completed⟩
  | dispatchPendingTasks time => exact absurd rfl (noPass time)
  | rehash nodes tasks => exact ⟨task, (rehash_get s nodes tasks id).symm.trans later, rfl,
    fun done => done⟩
  | _ => exact ⟨task, later, rfl, fun done => done⟩

theorem quiet_row (prost : Prost) {hub : Hub} {h : HubStep} (quiet : reserved (.hub h) = false)
    {id : String} {task : Task} (later : (hub.step prost h).scheduler.tasks.get id = some task) :
    ∃ old, hub.scheduler.tasks.get id = some old ∧ task.job = old.job ∧
      (task.state.Completed → old.state.Completed) := by
  cases (hub_stepped prost hub h).moves with
  | called c noPass called _ _ =>
    rw [called] at later
    exact quiet_call quiet noPass later
  | assigned i now nodes tasks _ _ =>
    rw [tasks] at later
    cases found : hub.scheduler.tasks.get id with
    | none =>
      rw [dispatchWith_absent found] at later
      cases later
    | some old =>
      rcases dispatchWith_row found now with same | ⟨_, node, running⟩
      · cases same.symm.trans later
        exact ⟨task, rfl, rfl, fun done => done⟩
      · cases running.symm.trans later
        exact ⟨old, rfl, rfl, nofun⟩
  | moved _ scheduler _ _ =>
    rw [scheduler] at later
    exact ⟨task, later, rfl, fun done => done⟩

/-! What has been accounted for stays so. -/

section Mono
variable {prost : Prost} {s t : Cluster}

theorem Cluster.Requested.mono {id : String} {job : Job} (requested : s.Requested id job)
    (more : ∀ a ∈ s.accepted, a ∈ t.accepted) : t.Requested id job := by
  obtain ⟨a, member, same⟩ := requested
  exact ⟨a, more a member, same⟩

theorem Cluster.Asked.mono {id : String} {job : Job} (asked : s.Asked id job)
    (more : ∀ a ∈ s.accepted, a ∈ t.accepted) : t.Asked id job := by
  rcases asked with requested | ⟨⟨first, requested, same⟩, other, also', stateful⟩
  · exact Or.inl (requested.mono more)
  · exact Or.inr ⟨⟨first, requested.mono more, same⟩, other, also'.mono more, stateful⟩

theorem Cluster.Reported.mono {report : TaskProgress} (reported : s.Reported report)
    (more : ∀ ran ∈ s.executed, ran ∈ t.executed) : t.Reported report := by
  obtain ⟨ran, member, inReports⟩ := reported
  exact ⟨ran, more ran member, inReports⟩

theorem Cluster.Asked.stateful {id : String} {job : Job} (asked : s.Asked id job)
    (stateful : job.taskType = .statefulLongRunning) :
    ∃ other, s.Requested id other ∧ other.taskType = .statefulLongRunning := by
  rcases asked with requested | ⟨_, other⟩
  · exact ⟨job, requested, stateful⟩
  · exact other

theorem Cluster.Asked.checkpointed {id : String} {job : Job} (asked : s.Asked id job)
    (other : ∃ other, s.Requested id other ∧ other.taskType = .statefulLongRunning) :
    s.Asked id { job with payload := [88, 99, 111, 222] } := by
  rcases asked with requested | ⟨⟨first, requested, rfl⟩, _⟩
  · exact Or.inr ⟨⟨job, requested, rfl⟩, other⟩
  · exact Or.inr ⟨⟨first, requested, rfl⟩, other⟩

end Mono

theorem takeIn_keeps (hub : ProgressHub) (msg : Bytes) (report : TaskProgress) :
    (hub.takeIn msg report).published = (hub.broadcast msg).published ∧
      (hub.takeIn msg report).scheduler.registry = hub.scheduler.registry := by
  unfold ProgressHub.takeIn ProgressHub.updateTaskProgress ProgressHub.broadcast
  constructor
  · split <;> rfl
  · split <;> split <;> rfl

theorem mem_broadcast (hub : ProgressHub) (msg sent : Bytes) :
    sent ∈ (hub.broadcast msg).published ↔ sent ∈ hub.published ∨ hub.progressPub = true ∧
      sent = msg := by
  unfold ProgressHub.broadcast
  split
  next on => simp [on]
  next off => simp [off]

/-- What the progress receiver does: it ignores a message or breaks, or takes in a report. -/
inductive Fleet.Received (f : Fleet) (msg : Bytes) : Fleet → Prop where
  | nothing (receiving : Bool) : Received f msg { f with receiving := receiving }
  | taken (out : ProgressHub) (report : TaskProgress) :
      out = (⟨f.hub.scheduler, f.progressPub, f.published⟩ : ProgressHub).takeIn msg report →
      Received f msg { f with hub := { f.hub with scheduler := out.scheduler }, published :=
        out.published }

theorem fleet_received (prost : Prost) (f : Fleet) (msg : Bytes) :
    f.Received msg (f.receive prost msg) := by
  unfold Fleet.receive
  split
  · split
    next out received =>
      cases read : (readProgress msg).decoded prost.taskProgress with
      | panic => simp [receiveProgress, read] at received
      | reject =>
        simp only [receiveProgress, read, Option.some.injEq] at received
        subst received
        exact .nothing f.receiving
      | accept report =>
        rw [receiveProgress_of_read read] at received
        exact .taken out report (Option.some.inj received).symm
    · exact .nothing false
  · exact .nothing f.receiving

theorem receive_published (prost : Prost) (f : Fleet) (msg : Bytes) :
    ∀ sent ∈ (f.receive prost msg).published, sent ∈ f.published ∨ sent = msg := by
  intro sent member
  have received := fleet_received prost f msg
  generalize f.receive prost msg = after at received member
  cases received with
  | nothing => exact Or.inl member
  | taken out report same =>
    rw [same, (takeIn_keeps _ msg report).1, mem_broadcast] at member
    exact member.imp_right And.right

theorem receive_broadcasts (prost : Prost) (f : Fleet) (msg : Bytes) :
    ∀ sent ∈ f.published, sent ∈ (f.receive prost msg).published := by
  intro sent member
  have received := fleet_received prost f msg
  generalize f.receive prost msg = after at received ⊢
  cases received with
  | nothing => exact member
  | taken out report same =>
    rw [same, (takeIn_keeps _ msg report).1, mem_broadcast]
    exact Or.inl member

theorem receive_registry (prost : Prost) (f : Fleet) (msg : Bytes) :
    (f.receive prost msg).hub.scheduler.registry = f.hub.scheduler.registry := by
  have received := fleet_received prost f msg
  generalize f.receive prost msg = after at received ⊢
  cases received with
  | nothing => rfl
  | taken out report same =>
    rw [same]
    exact (takeIn_keeps _ msg report).2

theorem received_row {prost : Prost} {f : Fleet} {report : TaskProgress}
    (fits : ReportsFit prost [report])
    {id : String} {task : Task}
    (later : (f.receive prost (progressFrame prost report)).hub.scheduler.tasks.get id =
      some task) :
    ∃ old, f.hub.scheduler.tasks.get id = some old ∧
      (task = old ∨ task = old.changedBy report) := by
  cases receiving : f.receiving with
  | false =>
    have same : f.receive prost (progressFrame prost report) = f := by
      simp only [Fleet.receive, receiving, Bool.false_eq_true, if_false]
    rw [same] at later
    exact ⟨task, later, Or.inl rfl⟩
  | true =>
    rw [receive_effect prost receiving, readReport_frame prost report
      (fits _ List.mem_cons_self)] at later
    obtain ⟨old, found, same⟩ := Option.map_eq_some_iff.mp later
    exact ⟨old, found, Or.inr same.symm⟩

theorem changedBy_cases (task : Task) (report : TaskProgress) :
    task.changedBy report = task ∨
    (task.taskId = report.taskId ∧ report.status = TaskStatus.completed.toI32 ∧
      task.changedBy report = { task with state := .completed [] }) ∨
    (task.taskId = report.taskId ∧ report.checkpointData ≠ [] ∧
      task.changedBy report = { task with payload := report.checkpointData }) := by
  unfold Task.changedBy
  split
  · exact Or.inl rfl
  next named =>
    have own : task.taskId = report.taskId := by simpa using named
    split
    next completed => exact Or.inr (Or.inl ⟨own, completed, rfl⟩)
    next =>
      split
      next saved => exact Or.inr (Or.inr ⟨own, saved, rfl⟩)
      next => exact Or.inl rfl

namespace Cluster
variable {prost : Prost} {s : Cluster}

theorem Accounted.definition (inv : s.Accounted prost)
    (frames : ∀ p ∈ s.fleet.hub.pushed, p.frame.length < 4294967301) {ran : Ran}
    (member : ran ∈ s.executed) : ∃ job, s.Asked ran.push.ticket.taskId job ∧
      ran.definition = job.definition ran.push.ticket.taskId ran.push.ticket.nodeId := by
  obtain ⟨pushed, _, read⟩ := inv.executed ran member
  obtain ⟨task, asked, framed⟩ := inv.pushed ran.push pushed
  have fits := frames ran.push pushed
  rw [framed] at fits read
  have received := receiveTask_frame prost task ran.push.ticket.taskId ran.push.ticket.nodeId fits
  rw [received] at read
  exact ⟨task.job, asked, (Read.accept.inj read).symm⟩

/-- A checkpoint in a report is the one that workers write, for a stateful job. -/
theorem Accounted.checkpoint (inv : s.Accounted prost)
    (frames : ∀ p ∈ s.fleet.hub.pushed, p.frame.length < 4294967301) {report : TaskProgress}
    (reported : s.Reported report) (saved : report.checkpointData ≠ []) :
    report.checkpointData = [88, 99, 111, 222] ∧
      ∃ other, s.Requested report.taskId other ∧ other.taskType = .statefulLongRunning := by
  obtain ⟨ran, member, inReports⟩ := reported
  have law := execution_report inReports
  obtain ⟨job, asked, same⟩ := inv.definition frames member
  obtain ⟨_, _, category, written⟩ := law.checkpoint saved
  have stateful : job.taskType = .statefulLongRunning := by
    rw [same] at category
    cases kind : job.taskType with
    | statefulLongRunning => rfl
    | statelessIdempotent =>
      simp only [Job.definition, kind] at category
      exact absurd category (by decide)
    | interactiveLowLatency =>
      simp only [Job.definition, kind] at category
      exact absurd category (by decide)
  refine ⟨written, ?_⟩
  rw [law.named, same]
  exact asked.stateful stateful

structure Grows (s t : Cluster) : Prop where
  accepted : ∀ a ∈ s.accepted, a ∈ t.accepted
  executed : ∀ ran ∈ s.executed, ran ∈ t.executed
  pushed : ∀ p ∈ s.fleet.hub.pushed, p ∈ t.fleet.hub.pushed

theorem Grows.refl (s : Cluster) : s.Grows s :=
  ⟨fun _ member => member, fun _ member => member, fun _ member => member⟩

theorem Grows.trans {s t u : Cluster} (first : s.Grows t) (second : t.Grows u) : s.Grows u :=
  ⟨fun a member => second.accepted a (first.accepted a member),
    fun ran member => second.executed ran (first.executed ran member),
    fun p member => second.pushed p (first.pushed p member)⟩

theorem Stepped.grows {a : ClusterStep} {t : Cluster} (stepped : s.Stepped prost a t) :
    s.Grows t := by
  cases stepped with
  | idle _ _ fleet accepted executed =>
    constructor
    · rw [accepted]
      exact fun _ member => member
    · rw [executed]
      exact fun _ member => member
    · rw [fleet]
      exact fun _ member => member
  | accepted uuid msg req _ =>
    exact ⟨fun _ member => List.mem_append_left _ member, fun _ member => member,
      fun _ => pushed_mono _⟩
  | hub h _ => exact ⟨fun _ member => member, fun _ member => member, fun _ => pushed_mono h⟩
  | executed k env push definition _ _ _ =>
    exact ⟨fun _ member => member, fun _ member => List.mem_append_left _ member,
      fun _ member => member⟩
  | delivered k report here =>
    refine ⟨fun _ member => member, fun _ member => member, fun p member => ?_⟩
    rw [(receive_keeps prost { s.fleet with reports := s.fleet.reports.eraseIdx k } _).1]
    exact member
  | progressFailed | lost k =>
    exact ⟨fun _ member => member, fun _ member => member, fun _ member => member⟩

theorem Fits.before {t : Cluster} (grows : s.Grows t) (fits : t.Fits prost) : s.Fits prost :=
  ⟨fun p member => fits.frames p (grows.pushed p member),
    fun ran member => fits.reports ran (grows.executed ran member)⟩

theorem Fits.reported (fits : s.Fits prost) {report : TaskProgress} (reported : s.Reported report) :
    ReportsFit prost [report] := by
  obtain ⟨ran, member, inReports⟩ := reported
  intro r same
  rw [List.mem_singleton.mp same]
  exact fits.reports ran member report inReports

/-- A step of the hub that leaves the rows as `rows` says keeps the account. -/
theorem Accounted.hub_step (inv : s.Accounted prost) {h : HubStep} {accepted : List Accepted}
    (more : ∀ a ∈ s.accepted, a ∈ accepted)
    (rows : ∀ id task, (s.fleet.hub.step prost h).scheduler.tasks.get id = some task →
      (∃ a ∈ accepted, a.taskId = id ∧ a.req.job = task.job ∧ ¬ task.state.Completed) ∨
        ∃ old, s.fleet.hub.scheduler.tasks.get id = some old ∧ task.job = old.job ∧
          (task.state.Completed → old.state.Completed)) :
    Accounted prost { s with
      fleet := { s.fleet with hub := s.fleet.hub.step prost h }, accepted := accepted } := by
  constructor
  · intro id task later
    rcases rows id task later with ⟨a, member, named, same, _⟩ | ⟨old, found, same, _⟩
    · exact Or.inl ⟨a, member, named, same⟩
    · rw [same]
      exact (inv.stored id old found).mono more
  · intro i ticket task queue here
    rcases loaded_step prost here with old | ⟨_, _, stored⟩
    · exact (inv.held i ticket task queue old).mono more
    · exact (inv.stored ticket.taskId task stored).mono more
  · intro p member
    have logged : p ∈ (s.fleet.hub.step prost h).pushed := member
    rw [(hub_stepped prost s.fleet.hub h).logs.2] at logged
    rcases List.mem_append.mp logged with old | new
    · obtain ⟨task, asked, framed⟩ := inv.pushed p old
      exact ⟨task, asked.mono more, framed⟩
    · unfold Hub.newPushes at new
      split at new
      · split at new
        next ticket task queue here =>
          rw [List.mem_singleton.mp new]
          exact ⟨task, (inv.held _ ticket task queue here).mono more, rfl⟩
        next => cases new
      · cases new
  · intro ran member
    obtain ⟨pushed, rest⟩ := inv.executed ran member
    exact ⟨pushed_mono h pushed, rest⟩
  · exact inv.reported
  · exact inv.published
  · intro id task later completed
    rcases rows id task later with ⟨a, _, _, _, fresh⟩ | ⟨old, found, _, kept⟩
    · exact absurd completed fresh
    · exact inv.completed id old found (kept completed)

theorem Accounted.execute (inv : s.Accounted prost) {push : Push} {env : WorkerEnv}
    {definition : TaskDefinition} (pushed : push ∈ s.fleet.hub.pushed) (sent : push.sent = true)
    (read : receiveTask prost push.frame = .accept definition) :
    Accounted prost { s with
      fleet := { s.fleet with
        reports := s.fleet.reports ++ (executeTask env definition).reports.map (⟨push.ticket, ·⟩) }
      executed := s.executed ++ [⟨push, env, definition⟩] } := by
  have more : ∀ ran ∈ s.executed, ran ∈ s.executed ++ [⟨push, env, definition⟩] :=
    fun _ member => List.mem_append_left _ member
  refine ⟨inv.stored, inv.held, inv.pushed, ?_, ?_, ?_, ?_⟩
  · intro ran member
    rcases List.mem_append.mp member with old | new
    · exact inv.executed ran old
    · rw [List.mem_singleton.mp new]
      exact ⟨pushed, sent, read⟩
  · intro r member
    rcases List.mem_append.mp member with old | new
    · exact (inv.reported r old).mono more
    · obtain ⟨message, inReports, rfl⟩ := List.mem_map.mp new
      exact ⟨_, List.mem_append_right _ List.mem_cons_self, inReports⟩
  · intro msg member
    obtain ⟨report, reported, same⟩ := inv.published msg member
    exact ⟨report, reported.mono more, same⟩
  · intro id task later completed
    obtain ⟨report, reported, same⟩ := inv.completed id task later completed
    exact ⟨report, reported.mono more, same⟩

theorem Accounted.deliver (inv : s.Accounted prost) (fits : s.Fits prost) {k : Nat}
    {report : Report}
    (here : s.fleet.reports[k]? = some report) :
    Accounted prost { s with
      fleet := Fleet.receive prost { s.fleet with reports := s.fleet.reports.eraseIdx k }
        (progressFrame prost report.message) } := by
  have reported := inv.reported report (List.mem_of_getElem? here)
  have small := fits.reported reported
  obtain ⟨pushed, passes, _, reports⟩ := receive_keeps prost
    { s.fleet with reports := s.fleet.reports.eraseIdx k } (progressFrame prost report.message)
  constructor
  · intro id task later
    obtain ⟨old, found, rfl | rfl⟩ := received_row small later
    · exact inv.stored id task found
    · have key : old.taskId = id := Keyed.Table.key_of_get found
      have asked : s.Asked id old.job := inv.stored id old found
      rcases changedBy_cases old report.message with same | ⟨_, _, same⟩ | ⟨named, saved, same⟩
      · rw [same]
        exact asked
      · rw [same]
        exact asked
      · obtain ⟨written, other⟩ := inv.checkpoint fits.frames reported saved
        rw [← named, key] at other
        rw [same, written]
        exact asked.checkpointed other
  · intro i ticket task queue there
    rw [passes] at there
    exact inv.held i ticket task queue there
  · intro p member
    rw [pushed] at member
    exact inv.pushed p member
  · intro ran member
    rw [pushed]
    exact inv.executed ran member
  · intro r member
    rw [reports] at member
    exact inv.reported r (List.mem_of_mem_eraseIdx member)
  · intro msg member
    rcases receive_published prost _ _ msg member with old | rfl
    · exact inv.published msg old
    · exact ⟨report.message, reported, rfl⟩
  · intro id task later completed
    obtain ⟨old, found, rfl | rfl⟩ := received_row small later
    · exact inv.completed id task found completed
    · have key : old.taskId = id := Keyed.Table.key_of_get found
      rcases changedBy_cases old report.message with same | ⟨named, finished, _⟩ | ⟨_, _, same⟩
      · rw [same] at completed
        exact inv.completed id old found completed
      · exact ⟨report.message, reported, named.symm.trans key, finished⟩
      · rw [same] at completed
        exact inv.completed id old found completed

theorem accounted_step (medium : MediumProst) (a : ClusterStep) (inv : s.Accounted prost)
    (fits : s.Fits prost) : (s.step prost medium a).Accounted prost := by
  have stepped := cluster_stepped prost medium s a
  generalize s.step prost medium a = t at stepped ⊢
  cases stepped with
  | idle _ _ fleet accepted executed =>
    obtain ⟨fleet', receiving, accepted', executed'⟩ := t
    cases fleet
    cases accepted
    cases executed
    exact ⟨inv.stored, inv.held, inv.pushed, inv.executed, inv.reported, inv.published,
      inv.completed⟩
  | accepted uuid msg req _ =>
    refine inv.hub_step (fun _ member => List.mem_append_left _ member) ?_
    intro id task later
    have row : (s.fleet.hub.step prost
        (.call (req.job.submit (mediumTaskId uuid)))).scheduler.tasks.get id = _ :=
      submit_get s.fleet.hub.scheduler _ _ _ _ _ id
    rw [row] at later
    split at later
    next own =>
      cases later
      refine Or.inl ⟨_, List.mem_append_right _ List.mem_cons_self, own.symm, rfl, ?_⟩
      intro completed
      cases completed
    next => exact Or.inr ⟨task, later, rfl, fun done => done⟩
  | progressFailed =>
    exact ⟨inv.stored, inv.held, inv.pushed, inv.executed, inv.reported, inv.published,
      inv.completed⟩
  | hub h quiet =>
    exact inv.hub_step (fun _ member => member)
      fun id task later => Or.inr (quiet_row prost quiet later)
  | executed k env push definition pushed sent read => exact inv.execute pushed sent read
  | delivered k report here => exact inv.deliver fits here
  | lost k =>
    refine ⟨inv.stored, inv.held, inv.pushed, inv.executed, ?_, inv.published, inv.completed⟩
    intro r member
    exact inv.reported r (List.mem_of_mem_eraseIdx member)

end Cluster

section Run
variable (prost : Prost) (medium : MediumProst) (registry : EphemeralRegistry) (progressPub : Bool)

def cluster (steps : List ClusterStep) : Cluster :=
  run (Cluster.step prost medium) (Cluster.start registry progressPub) steps

theorem cluster_accounted (steps : List ClusterStep)
    (fits : (cluster prost medium registry progressPub steps).Fits prost) :
    (cluster prost medium registry progressPub steps).Accounted prost := by
  induction steps using List.reverseRecOn with
  | nil => exact ⟨nofun, nofun, nofun, nofun, nofun, nofun, nofun⟩
  | append_singleton steps a ih =>
    have last : cluster prost medium registry progressPub (steps ++ [a]) =
        (cluster prost medium registry progressPub steps).step prost medium a :=
          run_append _ steps [a]
    rw [last] at fits ⊢
    have before := fits.before (cluster_stepped prost medium _ a).grows
    exact Cluster.accounted_step medium a (ih before) before

end Run

theorem cluster_snoc (prost : Prost) (medium : MediumProst) (registry : EphemeralRegistry)
    (progressPub : Bool) (steps : List ClusterStep) (a : ClusterStep) :
    cluster prost medium registry progressPub (steps ++ [a]) =
      (cluster prost medium registry progressPub steps).step prost medium a :=
  run_append _ steps [a]

theorem receive_report {prost : Prost} {f : Fleet} (receiving : f.receiving = true)
    {report : TaskProgress}
    (fits : (prost.taskProgress.encode report).length < 4294967296) :
    f.receive prost (progressFrame prost report) =
      let out : ProgressHub := (⟨f.hub.scheduler, f.progressPub, f.published⟩ : ProgressHub).takeIn
        (progressFrame prost report) report
      { f with hub := { f.hub with scheduler := out.scheduler }, published := out.published } := by
  simp only [Fleet.receive, receiving, if_true, receiveProgress_frame prost _ report fits]

/-! One run from a question to its answer. -/
section Example

def askUuid : UuidV4 where
  bytes := [171, 205, 239, 4, 0, 0, 64, 0, 128, 0, 0, 0, 0, 0, 0, 0]
  length := rfl
  version := rfl
  variant := rfl

def question : TaskSubmitRequest :=
  ⟨"key", "ollama-inference-abcdef", 0, ["ollama_execution"], Hex.stringBytes "hi"⟩

def answeringEnv : WorkerEnv :=
  OllamaCli.workerEnv ⟨none, fun _ _ => .ended ⟨true, "", [111, 107], []⟩⟩ true
    (fun _ _ => true) true

def modelNode : NodeProfile :=
  ⟨"n", "linux", [⟨"creative_capability_ollama", "string", "ollama_execution"⟩], 0, ""⟩

def askedSteps : List ClusterStep :=
  [.fleet (.hub (.call (.registerNode modelNode))),
    .receive askUuid (frame 12 (mediumTopology.taskSubmitRequest.encode question))]

def servedSteps : List ClusterStep :=
  [.fleet (.hub (.enter 1)), .fleet (.hub (.listNodes 0)), .fleet (.hub (.assign 0)),
    .fleet (.hub (.load 0)), .fleet (.hub (.push 0 true))]

def questionTask : Task :=
  ⟨mediumTaskId askUuid, .statelessIdempotent, Hex.stringBytes "hi", 3, .running "n" 1, 0,
    ["ollama_execution"]⟩

def questionTicket : Ticket := ⟨mediumTaskId askUuid, "n", 0⟩

def questionPush : Push :=
  ⟨questionTicket, taskFrame topology questionTask (mediumTaskId askUuid) "n", true⟩

def questionRan : Ran :=
  ⟨questionPush, answeringEnv, taskDef questionTask (mediumTaskId askUuid) "n"⟩

theorem ten_ne : (0x41200000 : UInt32) ≠ 2147483648 := by
  decide

theorem hundred_ne : (0x42C80000 : UInt32) ≠ 2147483648 := by
  decide

def runningReport : TaskProgress :=
  sendProgress (mediumTaskId askUuid) .running (F32.ofBits 0x41200000 ten_ne) [] "" ""

def answerReport : TaskProgress :=
  sendProgress (mediumTaskId askUuid) .completed (F32.ofBits 0x42C80000 hundred_ne) [] "" "ok"

def answeredSteps : List ClusterStep :=
  askedSteps ++ servedSteps ++ [.fleet (.execute 0 answeringEnv)] ++ [.fleet (.deliver 0)] ++
    [.fleet (.deliver 0)]

theorem askedSteps_eq : cluster topology mediumTopology .new true askedSteps =
    { Cluster.start .new true with
      fleet := ((Fleet.start .new true).step topology (.hub (.call (.registerNode modelNode)))).step
        topology (.hub (.call (question.job.submit (mediumTaskId askUuid))))
      accepted := [⟨askUuid, mediumTaskId askUuid, question⟩] } := by
  have fits : (mediumTopology.taskSubmitRequest.encode question).length < 4294967296 := by
    decide +kernel
  have answered (registry : EphemeralRegistry) :=
    submission_accepted mediumTopology registry askUuid question fits rfl
  simp only [cluster, askedSteps, run_cons, run_nil, Cluster.step, Cluster.start,
    reserved, answered]
  rfl

theorem servedSteps_eq : cluster topology mediumTopology .new true (askedSteps ++ servedSteps) =
    { Cluster.start .new true with
      fleet := { Fleet.start .new true with
        hub := ⟨⟨EphemeralRegistry.new.registerNode modelNode,
          Keyed.Table.empty.insert questionTask⟩,
          [.sending []], [questionTicket], [questionPush]⟩ }
      accepted := [⟨askUuid, mediumTaskId askUuid, question⟩] } := by
  have first := askedSteps_eq
  rw [cluster] at first
  rw [cluster, run_append, first]
  rfl

theorem executedSteps_eq : cluster topology mediumTopology .new true
      (askedSteps ++ servedSteps ++ [.fleet (.execute 0 answeringEnv)]) =
    { Cluster.start .new true with
      fleet := { (cluster topology mediumTopology .new true (askedSteps ++ servedSteps)).fleet with
        reports := [⟨questionTicket, runningReport⟩, ⟨questionTicket, answerReport⟩] }
      accepted := [⟨askUuid, mediumTaskId askUuid, question⟩]
      executed := [questionRan] } := by
  have fits : (taskFrame topology questionTask (mediumTaskId askUuid) "n").length < 4294967301 := by
    decide +kernel
  have read := receiveTask_frame topology questionTask (mediumTaskId askUuid) "n" fits
  rw [cluster_snoc, servedSteps_eq]
  simp only [Cluster.step, reserved, Fleet.step, Fleet.runs, List.getElem?_cons_zero,
    Fleet.reportsOf,
    questionPush, read, if_true, Bool.false_eq_true, if_false]
  rfl

theorem question_reports_fit : (topology.taskProgress.encode runningReport).length < 4294967296 ∧
    (topology.taskProgress.encode answerReport).length < 4294967296 := by
  constructor <;> decide +kernel

theorem answeredSteps_eq : cluster topology mediumTopology .new true answeredSteps =
    { Cluster.start .new true with
      fleet := { Fleet.start .new true with
        hub := ⟨⟨EphemeralRegistry.new.registerNode modelNode,
            Keyed.Table.empty.insert { questionTask with state := .completed [] }⟩,
          [.sending []], [questionTicket], [questionPush]⟩
        published := [progressFrame topology runningReport, progressFrame topology answerReport] }
      accepted := [⟨askUuid, mediumTaskId askUuid, question⟩]
      executed := [questionRan] } := by
  rw [answeredSteps, cluster_snoc, cluster_snoc, executedSteps_eq, servedSteps_eq]
  simp only [Cluster.step, reserved, Bool.false_eq_true, if_false, Fleet.step,
    List.getElem?_cons_zero]
  rw [receive_report rfl question_reports_fit.1]
  simp only [List.eraseIdx_cons_zero, List.getElem?_cons_zero]
  rw [receive_report rfl question_reports_fit.2]
  rfl

theorem answeredSteps_fit : (cluster topology mediumTopology .new true answeredSteps).Fits
    topology := by
  rw [answeredSteps_eq]
  constructor
  · intro p member
    rw [List.mem_singleton.mp member]
    decide +kernel
  · intro ran member
    rw [List.mem_singleton.mp member]
    exact List.forall_mem_cons.mpr ⟨question_reports_fit.1,
      List.forall_mem_singleton.mpr question_reports_fit.2⟩

end Example

end SeamlessSwarm
