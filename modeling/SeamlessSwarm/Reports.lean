import SeamlessSwarm.Delivery
import SeamlessSwarm.Progress

/-! Reports in flight. Workers execute the frames that the hub has pushed, and
their reports reach the hub late, in any order or never. A report names its task
only; the ticket it was sent for is kept beside it and not seen by the hub. -/
namespace SeamlessSwarm
open Trace

structure Report where
  ticket : Ticket
  message : TaskProgress
  deriving DecidableEq

/-- The hub, the reports in flight, and the state of the progress receiver. -/
structure Fleet where
  hub : Hub
  reports : List Report
  progressPub : Bool
  published : List Bytes
  receiving : Bool
  deriving DecidableEq

inductive FleetStep where
  | hub (s : HubStep)
  | execute (push : Nat) (env : WorkerEnv)
  | deliver (report : Nat)
  | lose (report : Nat)

namespace Fleet

def start (registry : EphemeralRegistry) (progressPub : Bool) : Fleet :=
  ⟨Hub.start registry, [], progressPub, [], true⟩

/-- The receiver's turn on a message; after a panic it does not take another. -/
def receive (prost : Prost) (f : Fleet) (msg : Bytes) : Fleet :=
  if f.receiving then
    match receiveProgress prost ⟨f.hub.scheduler, f.progressPub, f.published⟩ msg with
    | some out =>
      { f with hub := { f.hub with scheduler := out.scheduler }, published := out.published }
    | none => { f with receiving := false }
  else f

def reportsOf (prost : Prost) (push : Push) (env : WorkerEnv) : List Report :=
  if push.sent then
    match receiveTask prost push.frame with
    | .accept task => (executeTask env task).reports.map (⟨push.ticket, ·⟩)
    | _ => []
  else []

def step (prost : Prost) (f : Fleet) : FleetStep → Fleet
  | .hub s => { f with hub := f.hub.step prost s }
  | .execute k env =>
    match f.hub.pushed[k]? with
    | some push => { f with reports := f.reports ++ reportsOf prost push env }
    | none => f
  | .deliver k =>
    match f.reports[k]? with
    | some report =>
      { f with reports := f.reports.eraseIdx k }.receive prost (progressFrame prost report.message)
    | none => f
  | .lose k => { f with reports := f.reports.eraseIdx k }

/-- A report for an earlier assignment: its task has started again since. -/
def Stale (f : Fleet) (report : Report) : Prop :=
  ∃ t ∈ f.hub.started, t.taskId = report.ticket.taskId ∧ report.ticket.retry < t.retry

end Fleet

section Law
variable (prost : Prost) (registry : EphemeralRegistry) (progressPub : Bool)

def fleet (steps : List FleetStep) : Fleet :=
  run (Fleet.step prost) (Fleet.start registry progressPub) steps

/-- No stale report of the run changes the state or the payload of its task. -/
def StaleReportsHarmless (steps : List FleetStep) : Prop :=
  ∀ before k after, steps = before ++ .deliver k :: after →
    ∀ report, (fleet prost registry progressPub before).reports[k]? = some report →
      (fleet prost registry progressPub before).Stale report →
      ∀ task, (fleet prost registry progressPub before).hub.scheduler.tasks.get
        report.ticket.taskId =
        some task →
      ∃ task', (fleet prost registry progressPub (before ++ [.deliver k])).hub.scheduler.tasks.get
          report.ticket.taskId = some task' ∧
        task'.state = task.state ∧ task'.payload = task.payload

end Law

def Task.changedBy (task : Task) (report : TaskProgress) : Task :=
  if task.taskId ≠ report.taskId then task
  else if report.status = TaskStatus.completed.toI32 then { task with state := .completed [] }
  else if report.checkpointData ≠ [] then { task with payload := report.checkpointData }
  else task

theorem readAs_some (task : Task) (report : TaskProgress) :
    task.readAs (some report) = task.changedBy report := by
  unfold Task.readAs Task.changedBy
  by_cases named : task.taskId = report.taskId
  · by_cases completed : report.status = TaskStatus.completed.toI32
    · simp [named, completed, Task.reported, progressResult, Task.update]
    · by_cases bare : report.checkpointData = []
      · simp [named, completed, bare, Task.reported, progressResult]
      · simp [named, completed, bare, Task.reported, progressResult, Task.update]
  · simp [named]

/-- A report comes from a worker that was handed the frame of its ticket. -/
def Sent (prost : Prost) (hub : Hub) (report : Report) : Prop :=
  ∃ push ∈ hub.pushed, push.ticket = report.ticket ∧ push.sent = true ∧ ∃ env task,
    receiveTask prost push.frame = .accept task ∧ report.message ∈ (executeTask env task).reports ∧
    report.message.taskId = task.taskId ∧
    (push.frame.length < 4294967301 → task.taskId = report.ticket.taskId)

/-- The report and the task frames of the run fit the length word of a frame. -/
structure Fleet.Fitting (prost : Prost) (f : Fleet) (report : Report) : Prop where
  report : ReportsFit prost [report.message]
  frames : ∀ push ∈ f.hub.pushed, push.frame.length < 4294967301

/-- A stale report ends the present run of its task only by a completion, and moves its
checkpoint only by checkpoint bytes of its own. All else stays. -/
structure StaleTakenIn (prost : Prost) (before after : Fleet) (report : Report) : Prop where
  assigned : report.ticket ∈ before.hub.started
  sent : Sent prost before.hub report
  others : before.Fitting prost report → ∀ id, id ≠ report.ticket.taskId →
    after.hub.scheduler.tasks.get id = before.hub.scheduler.tasks.get id
  harmless : before.Fitting prost report → report.message.status ≠ TaskStatus.completed.toI32 →
    report.message.checkpointData = [] → ∀ id,
    after.hub.scheduler.tasks.get id = before.hub.scheduler.tasks.get id
  ends : before.Fitting prost report → before.receiving = true →
    report.message.status = TaskStatus.completed.toI32 → ∀ task, task.state.Running →
    before.hub.scheduler.tasks.get report.ticket.taskId = some task →
    after.hub.scheduler.tasks.get report.ticket.taskId = some { task with state := .completed [] }
  moves : before.Fitting prost report → before.receiving = true →
    report.message.status ≠ TaskStatus.completed.toI32 → report.message.checkpointData ≠ [] →
    ∀ task, task.state.Running →
    before.hub.scheduler.tasks.get report.ticket.taskId = some task →
    after.hub.scheduler.tasks.get report.ticket.taskId =
      some { task with payload := report.message.checkpointData }

def StaleReportsBounded (prost : Prost) (registry : EphemeralRegistry) (progressPub : Bool)
    (steps : List FleetStep) : Prop :=
  ∀ before k after, steps = before ++ .deliver k :: after →
    ∀ report, (fleet prost registry progressPub before).reports[k]? = some report →
      (fleet prost registry progressPub before).Stale report →
      StaleTakenIn prost (fleet prost registry progressPub before)
        (fleet prost registry progressPub (before ++ [.deliver k])) report

/-! Where the reports in flight come from. -/

theorem mem_reportsOf {prost : Prost} {hub : Hub} {push : Push} {env : WorkerEnv} {report : Report}
    (pushed : push ∈ hub.pushed)
    (framed : ∃ task, push.frame = taskFrame prost task push.ticket.taskId push.ticket.nodeId)
    (member : report ∈ Fleet.reportsOf prost push env) : Sent prost hub report := by
  unfold Fleet.reportsOf at member
  split at member
  next sent =>
    split at member
    next task read =>
      obtain ⟨message, inReports, rfl⟩ := List.mem_map.mp member
      refine ⟨push, pushed, rfl, sent, env, task, read, inReports, executeTask_names inReports, ?_⟩
      intro fits
      obtain ⟨source, same⟩ := framed
      rw [same] at fits read
      cases (receiveTask_frame prost source _ _ fits).symm.trans read
      rfl
    next => cases member
  next => cases member

theorem Sent.mono {prost : Prost} {hub hub' : Hub} {report : Report}
    (more : ∀ p ∈ hub.pushed, p ∈ hub'.pushed) (sent : Sent prost hub report) :
    Sent prost hub' report := by
  obtain ⟨push, member, rest⟩ := sent
  exact ⟨push, more push member, rest⟩

structure FleetTraceable (prost : Prost) (f : Fleet) : Prop where
  hub : Hub.Traceable prost f.hub
  sent : ∀ r ∈ f.reports, Sent prost f.hub r

theorem receive_keeps (prost : Prost) (f : Fleet) (msg : Bytes) :
    (f.receive prost msg).hub.pushed = f.hub.pushed ∧ (f.receive prost msg).hub.passes =
    f.hub.passes ∧
      (f.receive prost msg).hub.started = f.hub.started ∧ (f.receive prost msg).reports =
        f.reports := by
  unfold Fleet.receive
  split
  · split <;> exact ⟨rfl, rfl, rfl, rfl⟩
  · exact ⟨rfl, rfl, rfl, rfl⟩

theorem fleetTraceable_step (prost : Prost) (f : Fleet) (a : FleetStep)
    (inv : FleetTraceable prost f) : FleetTraceable prost (f.step prost a) := by
  cases a with
  | hub s =>
    exact ⟨Hub.traceable_step inv.hub s, fun r member => (inv.sent r member).mono fun _ =>
      pushed_mono s⟩
  | execute k env =>
    cases here : f.hub.pushed[k]? with
    | none => simpa only [Fleet.step, here] using inv
    | some push =>
      have member := List.mem_of_getElem? here
      simp only [Fleet.step, here]
      refine ⟨inv.hub, fun r inReports => ?_⟩
      rcases List.mem_append.mp inReports with old | new
      · exact inv.sent r old
      · exact mem_reportsOf member (inv.hub.framed push member) new
  | deliver k =>
    cases here : f.reports[k]? with
    | none => simpa only [Fleet.step, here] using inv
    | some report =>
      simp only [Fleet.step, here]
      obtain ⟨pushed, passes, started, reports⟩ := receive_keeps prost
        { f with reports := f.reports.eraseIdx k } (progressFrame prost report.message)
      refine ⟨⟨?_, ?_⟩, ?_⟩
      · rw [Hub.issued, pushed, passes, started]
        exact inv.hub.fed
      · rw [pushed]
        exact inv.hub.framed
      · intro r member
        rw [reports] at member
        have old := inv.sent r (List.mem_of_mem_eraseIdx member)
        exact old.mono fun p inPushed => by rw [pushed]; exact inPushed
  | lose k => exact ⟨inv.hub, fun r member => inv.sent r (List.mem_of_mem_eraseIdx member)⟩

theorem fleetTraceable_run (prost : Prost) (registry : EphemeralRegistry) (progressPub : Bool)
    (steps : List FleetStep) : FleetTraceable prost (fleet prost registry progressPub steps) := by
  have initial : FleetTraceable prost (Fleet.start registry progressPub) :=
    ⟨⟨List.Subperm.refl [], by nofun⟩, by nofun⟩
  exact run_invariant (fleetTraceable_step prost) initial steps

theorem receiveProgress_none {prost : Prost} {hub : ProgressHub} {msg : Bytes}
    (panics : receiveProgress prost hub msg = none) : readReport prost msg = none := by
  cases read : (readProgress msg).decoded prost.taskProgress with
  | panic => simp only [readReport, read]
  | reject => simp only [readReport, read]
  | accept report =>
    rw [receiveProgress_of_read read] at panics
    cases panics

theorem receive_effect (prost : Prost) {f : Fleet} (receiving : f.receiving = true) (msg : Bytes)
    (id : String) :
    (f.receive prost msg).hub.scheduler.tasks.get id =
      (f.hub.scheduler.tasks.get id).map fun task =>
        match readReport prost msg with
        | some read => task.changedBy read
        | none => task := by
  cases received : receiveProgress prost ⟨f.hub.scheduler, f.progressPub, f.published⟩ msg with
  | none =>
    have unread := receiveProgress_none received
    simp [Fleet.receive, receiving, received, unread]
  | some out =>
    have rows := receiveProgress_get received id
    simp only [Fleet.receive, receiving, if_true, received, rows]
    cases readReport prost msg with
    | none => rfl
    | some read => simp only [readAs_some]

section Delivered
variable (prost : Prost) (registry : EphemeralRegistry) (progressPub : Bool)
  {steps : List FleetStep}
  {k : Nat} {report : Report}

theorem deliver_eq (here : (fleet prost registry progressPub steps).reports[k]? = some report) :
    fleet prost registry progressPub (steps ++ [.deliver k]) =
      { fleet prost registry progressPub steps with
        reports := (fleet prost registry progressPub steps).reports.eraseIdx k }.receive prost
          (progressFrame prost report.message) := by
  have one : fleet prost registry progressPub (steps ++ [.deliver k]) =
      (fleet prost registry progressPub steps).step prost (.deliver k) := run_append _ steps [_]
  rw [one]
  simp only [Fleet.step, here]

theorem deliver_get (here : (fleet prost registry progressPub steps).reports[k]? = some report)
    (receiving : (fleet prost registry progressPub steps).receiving = true) (id : String) :
    (fleet prost registry progressPub (steps ++ [.deliver k])).hub.scheduler.tasks.get id =
      ((fleet prost registry progressPub steps).hub.scheduler.tasks.get id).map fun task =>
        match readReport prost (progressFrame prost report.message) with
        | some read => task.changedBy read
        | none => task := by
  rw [deliver_eq prost registry progressPub here, receive_effect prost (by exact receiving)]

theorem deliver_stopped (here : (fleet prost registry progressPub steps).reports[k]? = some report)
    (stopped : (fleet prost registry progressPub steps).receiving = false) :
    (fleet prost registry progressPub (steps ++ [.deliver k])).hub =
      (fleet prost registry progressPub steps).hub := by
  rw [deliver_eq prost registry progressPub here]
  simp [Fleet.receive, stopped]

theorem deliver_unchanged
    (here : (fleet prost registry progressPub steps).reports[k]? = some report)
    (fits : ReportsFit prost [report.message]) {id : String}
    (alone : ∀ task : Task, task.taskId = id → task.changedBy report.message = task) :
    (fleet prost registry progressPub (steps ++ [.deliver k])).hub.scheduler.tasks.get id =
      (fleet prost registry progressPub steps).hub.scheduler.tasks.get id := by
  cases receiving : (fleet prost registry progressPub steps).receiving with
  | false => rw [deliver_stopped prost registry progressPub here receiving]
  | true =>
    rw [deliver_get prost registry progressPub here receiving,
      readReport_frame prost report.message (fits _ List.mem_cons_self)]
    cases found : (fleet prost registry progressPub steps).hub.scheduler.tasks.get id with
    | none => rfl
    | some task =>
      have same := alone task (Keyed.Table.key_of_get found)
      simp only [Option.map_some, same]

theorem deliver_own (here : (fleet prost registry progressPub steps).reports[k]? = some report)
    (fits : (fleet prost registry progressPub steps).Fitting prost report)
    (receiving : (fleet prost registry progressPub steps).receiving = true) {id : String}
    {task : Task}
    (found : (fleet prost registry progressPub steps).hub.scheduler.tasks.get id = some task) :
    (fleet prost registry progressPub (steps ++ [.deliver k])).hub.scheduler.tasks.get id =
      some (task.changedBy report.message) := by
  rw [deliver_get prost registry progressPub here receiving,
    readReport_frame prost report.message (fits.report _ List.mem_cons_self), found]
  rfl

theorem Sent.names {hub : Hub} (sent : Sent prost hub report)
    (frames : ∀ push ∈ hub.pushed, push.frame.length < 4294967301) :
    report.message.taskId = report.ticket.taskId := by
  obtain ⟨push, member, _, _, _, task, _, _, named, ticket⟩ := sent
  exact named.trans (ticket (frames push member))

theorem delivered_taken_in
    (here : (fleet prost registry progressPub steps).reports[k]? = some report) :
    StaleTakenIn prost (fleet prost registry progressPub steps)
      (fleet prost registry progressPub (steps ++ [.deliver k])) report := by
  have trace := fleetTraceable_run prost registry progressPub steps
  have sent := trace.sent report (List.mem_of_getElem? here)
  refine ⟨?_, sent, ?_, ?_, ?_, ?_⟩
  · obtain ⟨push, member, ticket, _⟩ := sent
    rw [← ticket]
    exact trace.hub.started member
  · intro fits id other
    apply deliver_unchanged prost registry progressPub here fits.report
    intro task key
    have foreign : task.taskId ≠ report.message.taskId := by
      rw [key, sent.names prost fits.frames]
      exact other
    exact if_pos foreign
  · intro fits unfinished bare id
    apply deliver_unchanged prost registry progressPub here fits.report
    intro task _
    simp [Task.changedBy, unfinished, bare]
  · intro fits receiving completed task _ found
    have own := Keyed.Table.key_of_get found
    rw [deliver_own prost registry progressPub here fits receiving found]
    simp [Task.changedBy, own, sent.names prost fits.frames, completed]
  · intro fits receiving unfinished filled task _ found
    have own := Keyed.Table.key_of_get found
    rw [deliver_own prost registry progressPub here fits receiving found]
    simp [Task.changedBy, own, sent.names prost fits.frames, unfinished, filled]

/-- In every run, what reports of earlier assignments can do to tasks that run again,
and what they cannot do. -/
theorem stale_reports_bounded (steps : List FleetStep) :
    StaleReportsBounded prost registry progressPub steps := by
  rintro before k after rfl report here _
  exact delivered_taken_in prost registry progressPub here

end Delivered

section Example

private def dispatchedToA : List FleetStep :=
  [.hub (.call (.registerNode ⟨"a", "linux", [], 0, ""⟩)),
    .hub (.call (.submitTask "t" .statefulLongRunning [1] 3 [])),
    .hub (.enter 1), .hub (.listNodes 0), .hub (.assign 0), .hub (.load 0), .hub (.push 0 true)]

private def lateEnv : WorkerEnv := ⟨fun _ _ => true, true, fun _ => .panicked⟩

private def movedToB : List FleetStep :=
  [.hub (.call (.handleNodeFailure "a")), .hub (.call (.unregisterNode "a")),
    .hub (.call (.registerNode ⟨"b", "linux", [], 0, ""⟩)),
    .hub (.enter 2), .hub (.listNodes 1), .hub (.assign 1)]

private def taskOnA : Task := ⟨"t", .statefulLongRunning, [1], 3, .running "a" 1, 0, []⟩

private def lateRun : List FleetStep := dispatchedToA ++ .execute 0 lateEnv :: movedToB

private theorem third_ne : (0x42053333 : UInt32) ≠ 2147483648 := by decide

private def lateReport : Report :=
  ⟨⟨"t", "a", 0⟩, sendProgress "t" .running (F32.ofBits 0x42053333 third_ne)
    [88, 99, 111, 222] "" ""⟩

private theorem lateRun_eq :
    fleet topology .new true lateRun = run (Fleet.step topology)
      { fleet topology .new true dispatchedToA with
        reports := (executeTask lateEnv (taskDef taskOnA "t" "a")).reports.map
          (⟨⟨"t", "a", 0⟩, ·⟩) }
      movedToB := by
  have fits : (taskFrame topology taskOnA "t" "a").length < 4294967301 := by decide +kernel
  have read := receiveTask_frame topology taskOnA "t" "a" fits
  have pushed : (fleet topology .new true dispatchedToA).hub.pushed[0]? =
      some ⟨⟨"t", "a", 0⟩, taskFrame topology taskOnA "t" "a", true⟩ := rfl
  have executed : (fleet topology .new true dispatchedToA).step topology (.execute 0 lateEnv) =
      { fleet topology .new true dispatchedToA with
        reports := (executeTask lateEnv (taskDef taskOnA "t" "a")).reports.map
          (⟨⟨"t", "a", 0⟩, ·⟩) } := by
    simp only [Fleet.step, pushed, Fleet.reportsOf, if_true, read]
    rfl
  rw [fleet, lateRun, run_append, run_cons, ← executed]
  rfl

private theorem lateReport_here : (fleet topology .new true lateRun).reports[0]? =
    some lateReport := by
  rw [lateRun_eq]
  rfl

private theorem lateReport_stale : (fleet topology .new true lateRun).Stale lateReport := by
  refine ⟨⟨"t", "b", 1⟩, ?_, rfl, by decide⟩
  rw [lateRun_eq]
  exact List.mem_cons_of_mem _ List.mem_cons_self

theorem late_report_taken_in :
    StaleTakenIn topology (fleet topology .new true lateRun)
      (fleet topology .new true (lateRun ++ [.deliver 0])) lateReport :=
  stale_reports_bounded topology .new true (lateRun ++ [.deliver 0]) lateRun 0 [] rfl lateReport
    lateReport_here lateReport_stale

/-- The late checkpoint of the first node replaces the payload of the second run. -/
theorem stale_checkpoint_replaces_payload :
    ¬ StaleReportsHarmless topology .new true (lateRun ++ [.deliver 0]) := by
  intro harmless
  have receiving : (fleet topology .new true lateRun).receiving = true := by
    rw [lateRun_eq]
    rfl
  have row : (fleet topology .new true lateRun).hub.scheduler.tasks.get "t" =
      some ⟨"t", .statefulLongRunning, [1], 3, .running "b" 2, 1, []⟩ := by
    rw [lateRun_eq]
    rfl
  obtain ⟨after, later, _, payload⟩ :=
    harmless lateRun 0 [] rfl lateReport lateReport_here lateReport_stale _ row
  have fits : (topology.taskProgress.encode lateReport.message).length < 4294967296 := by
    decide +kernel
  have effect := deliver_get topology .new true lateReport_here receiving "t"
  rw [readReport_frame topology lateReport.message fits, row] at effect
  cases later.symm.trans effect
  cases payload

end Example

end SeamlessSwarm
