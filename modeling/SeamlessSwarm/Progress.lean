import SeamlessSwarm.Scheduler
import SeamlessSwarm.Topology
import SeamlessSwarm.Worker

/-! Progress reports on their way from a worker: the hub's receiver, which turns
them into scheduler calls, and the medium tool, which prints them. -/
namespace SeamlessSwarm

structure ProgressHub where
  scheduler : ProfileScheduler
  progressPub : Bool
  published : List Bytes

def ProgressHub.broadcast (hub : ProgressHub) (msg : Bytes) : ProgressHub :=
  if hub.progressPub then { hub with published := hub.published ++ [msg] } else hub

def ProgressHub.updateTaskProgress (hub : ProgressHub) (taskId : String)
    (result : ExecutionResult) :
    ProgressHub :=
  { hub with scheduler :=
      { hub.scheduler with tasks :=
        SeamlessSwarm.updateTaskProgress hub.scheduler.tasks taskId result } }

/-- The result that a report stands for. A failure without a checkpoint has none. -/
def progressResult (progress : TaskProgress) : Option ExecutionResult :=
  if progress.status = TaskStatus.completed.toI32 then some .success
  else if progress.checkpointData ≠ [] then some (.checkpointSaved progress.checkpointData)
  else none

/-- One turn of `run_progress_receiver_server`; `none` is a panic. -/
def receiveProgress (prost : Prost) (hub : ProgressHub) (msg : Bytes) : Option ProgressHub :=
  match (readProgress msg).decoded prost.taskProgress with
  | .panic => none
  | .reject => some hub
  | .accept progress =>
    match progressResult progress with
    | none => some (hub.broadcast msg)
    | some result => some ((hub.broadcast msg).updateTaskProgress progress.taskId result)

def receiveAll (prost : Prost) (hub : ProgressHub) (msgs : List Bytes) : Option ProgressHub :=
  msgs.foldlM (receiveProgress prost) hub

/-! The medium tool. -/

inductive SubEvent where
  | message (msg : Bytes)
  | timedOut
  | error (reason : String)
  deriving DecidableEq, Repr

inductive Notice where
  | progress (taskId status : String) (percentage : F32)
  | completed (resultText : String)
  | failed (errorMessage : String)
  | socketError (reason : String)
  | gaveUpWaiting
  deriving DecidableEq

def statusStr (status : Int32) : String :=
  if status = 0 then "Pending"
  else if status = 1 then "Running"
  else if status = 2 then "Completed"
  else if status = 3 then "Failed"
  else "Unknown"

def readWatched (msg : Bytes) : Option Bytes :=
  match header msg with
  | none => none
  | some (len, msgType, body) =>
    if msgType ≠ 7 then none else if body.length < len then none else some (body.take len)

/-- `watch_progress` over what its socket yields before the deadline. `moved` is
the test that the percentage is more than 0.1 away from the last one printed. -/
def watchProgress (prost : Prost) (moved : F32 → F32 → Bool) (taskId : String) :
    F32 → List SubEvent → List Notice
  | _, [] => [.gaveUpWaiting]
  | lastPct, .timedOut :: rest => watchProgress prost moved taskId lastPct rest
  | _, .error reason :: _ => [.socketError reason]
  | lastPct, .message msg :: rest =>
    match (readWatched msg).bind prost.taskProgress.decode with
    | none => watchProgress prost moved taskId lastPct rest
    | some progress =>
      if progress.taskId ≠ taskId then watchProgress prost moved taskId lastPct rest
      else
        let shown := moved progress.progressPercentage lastPct || progress.status != 1
        let line := if shown then
            [.progress taskId (statusStr progress.status) progress.progressPercentage] else []
        let lastPct := if shown then progress.progressPercentage else lastPct
        if progress.status = 2 then line ++ [.completed progress.resultText]
        else if progress.status = 3 then line ++ [.failed progress.errorMessage]
        else line ++ watchProgress prost moved taskId lastPct rest

/-- The start value of the percentage, -1.0. -/
def noPct : F32 := F32.ofBits 0xBF800000

def watchFrames (prost : Prost) (moved : F32 → F32 → Bool) (taskId : String) (msgs : List Bytes) :
    List Notice :=
  watchProgress prost moved taskId noPct (msgs.map .message)

def Task.GivenBack (task after : Task) : Prop :=
  (∃ reason, after.state = .failed reason) ∨
    (after.state = .pending ∧ after.currentRetry = task.currentRetry + 1)

/-- The scheduler's verdict on the task after the reports of one execution: it is
not running, follows the last report, and is the verdict the medium tool prints. -/
structure Verdict (task after : Task) (reports : List TaskProgress) (printed : List Notice) :
    Prop where
  ended : ¬ after.state.Running
  completed : ∀ last ∈ reports.getLast?, last.status = TaskStatus.completed.toI32 →
    after.state.Completed
  failed : ∀ last ∈ reports.getLast?, last.status = TaskStatus.failed.toI32 → task.GivenBack after
  printsCompleted : (∃ text, .completed text ∈ printed) ↔ after.state.Completed
  printsFailed : (∃ reason, .failed reason ∈ printed) ↔ task.GivenBack after

def Settles (prost : Prost) (moved : F32 → F32 → Bool) (env : WorkerEnv)
    (definition : TaskDefinition) (hub : ProgressHub) (task : Task) : Prop :=
  ∃ hub' after,
    receiveAll prost hub ((executeTask env definition).reports.map (progressFrame prost)) =
      some hub' ∧
    hub'.scheduler.tasks.get definition.taskId = some after ∧
    Verdict task after (executeTask env definition).reports
      (watchFrames prost moved definition.taskId
        ((executeTask env definition).reports.map (progressFrame prost)))

def ReportsFit (prost : Prost) (reports : List TaskProgress) : Prop :=
  ∀ r ∈ reports, (prost.taskProgress.encode r).length < 4294967296

/-! A report that fits its frame is read back as it was sent. -/

def ProgressHub.takeIn (hub : ProgressHub) (msg : Bytes) (report : TaskProgress) : ProgressHub :=
  match progressResult report with
  | none => hub.broadcast msg
  | some result => (hub.broadcast msg).updateTaskProgress report.taskId result

theorem receiveProgress_of_read {prost : Prost} {msg : Bytes} {report : TaskProgress}
    (read : (readProgress msg).decoded prost.taskProgress = .accept report) (hub : ProgressHub) :
    receiveProgress prost hub msg = some (hub.takeIn msg report) := by
  simp only [receiveProgress, read, ProgressHub.takeIn]
  cases progressResult report <;> rfl

theorem receiveProgress_frame (prost : Prost) (hub : ProgressHub) (report : TaskProgress)
    (fits : (prost.taskProgress.encode report).length < 4294967296) :
    receiveProgress prost hub (progressFrame prost report) =
      some (hub.takeIn (progressFrame prost report) report) :=
  receiveProgress_of_read (decoded_frame prost.taskProgress 7 report fits) hub

theorem readWatched_frame (prost : Prost) (report : TaskProgress)
    (fits : (prost.taskProgress.encode report).length < 4294967296) :
    (readWatched (progressFrame prost report)).bind prost.taskProgress.decode = some report := by
  have parts : header (progressFrame prost report) =
      some ((prost.taskProgress.encode report).length, 7, prost.taskProgress.encode report) := by
    rw [progressFrame, header_frame, Nat.mod_eq_of_lt fits]
  simp [readWatched, parts, prost.taskProgress.decode_encode report fits]

/-! What the reports do to the task they name. -/

def Task.reported (task : Task) (report : TaskProgress) : Task :=
  match progressResult report with
  | none => task
  | some result => task.update result

@[simp] theorem broadcast_scheduler (hub : ProgressHub) (msg : Bytes) :
    (hub.broadcast msg).scheduler = hub.scheduler := by
  unfold ProgressHub.broadcast
  split <;> rfl

theorem takeIn_get (hub : ProgressHub) (msg : Bytes) (report : TaskProgress) (id : String) :
    (hub.takeIn msg report).scheduler.tasks.get id =
      if id = report.taskId then (hub.scheduler.tasks.get id).map (·.reported report)
      else hub.scheduler.tasks.get id := by
  unfold ProgressHub.takeIn Task.reported
  cases progressResult report with
  | none => simp
  | some result =>
    have row := updateTaskProgress_get hub.scheduler.tasks report.taskId result id
    simpa [ProgressHub.updateTaskProgress] using row

theorem reported_state (task : Task) (report : TaskProgress) :
    (task.reported report).state =
      if report.status = TaskStatus.completed.toI32 then .completed [] else task.state := by
  by_cases completed : report.status = TaskStatus.completed.toI32
  · simp [Task.reported, progressResult, completed, Task.update]
  · by_cases bare : report.checkpointData = []
    · simp [Task.reported, progressResult, completed, bare]
    · simp [Task.reported, progressResult, completed, bare, Task.update]

theorem receiveAll_reports (prost : Prost) {reports : List TaskProgress}
    (fit : ReportsFit prost reports)
    {id : String} (named : ∀ r ∈ reports, r.taskId = id) {hub : ProgressHub} {task : Task}
    (found : hub.scheduler.tasks.get id = some task) :
    ∃ hub', receiveAll prost hub (reports.map (progressFrame prost)) = some hub' ∧
      hub'.scheduler.tasks.get id = some (reports.foldl Task.reported task) := by
  induction reports generalizing hub task with
  | nil => exact ⟨hub, rfl, found⟩
  | cons r rest ih =>
    have head := receiveProgress_frame prost hub r (fit r List.mem_cons_self)
    have row : (hub.takeIn (progressFrame prost r) r).scheduler.tasks.get id =
        some (task.reported r) := by
      rw [takeIn_get, if_pos (named r List.mem_cons_self).symm, found]
      rfl
    obtain ⟨hub', tail, last⟩ := ih (fun q member => fit q (List.mem_cons_of_mem r member))
      (fun q member => named q (List.mem_cons_of_mem r member)) row
    refine ⟨hub', ?_, last⟩
    rw [List.map_cons, receiveAll, List.foldlM_cons, head]
    exact tail

def readReport (prost : Prost) (msg : Bytes) : Option TaskProgress :=
  match (readProgress msg).decoded prost.taskProgress with
  | .accept report => some report
  | _ => none

def Task.readAs (task : Task) (read : Option TaskProgress) : Task :=
  match read with
  | some report => if task.taskId = report.taskId then task.reported report else task
  | none => task

theorem readReport_of_read {prost : Prost} {msg : Bytes} {report : TaskProgress}
    (read : (readProgress msg).decoded prost.taskProgress = .accept report) :
    readReport prost msg = some report := by
  simp only [readReport, read]

theorem readReport_frame (prost : Prost) (report : TaskProgress)
    (fits : (prost.taskProgress.encode report).length < 4294967296) :
    readReport prost (progressFrame prost report) = some report :=
  readReport_of_read (decoded_frame prost.taskProgress 7 report fits)

theorem receiveProgress_get {prost : Prost} {hub hub' : ProgressHub} {msg : Bytes}
    (received : receiveProgress prost hub msg = some hub') (id : String) :
    hub'.scheduler.tasks.get id =
      (hub.scheduler.tasks.get id).map (·.readAs (readReport prost msg)) := by
  cases read : (readProgress msg).decoded prost.taskProgress with
  | panic => simp [receiveProgress, read] at received
  | reject =>
    have same : hub = hub' := by simpa [receiveProgress, read] using received
    have unread : readReport prost msg = none := by simp only [readReport, read]
    rw [← same, unread]
    exact Option.map_id'.symm
  | accept report =>
    have found := readReport_of_read read
    rw [receiveProgress_of_read read] at received
    cases received
    rw [takeIn_get, found]
    cases row : hub.scheduler.tasks.get id with
    | none => simp
    | some task =>
      have key : task.taskId = id := Keyed.Table.key_of_get row
      by_cases named : id = report.taskId
      · simp [Task.readAs, key, named]
      · simp [Task.readAs, key, named]

theorem receiveProgress_state {prost : Prost} {hub hub' : ProgressHub} {msg : Bytes}
    (received : receiveProgress prost hub msg = some hub') {id : String} {task : Task}
    (found : hub.scheduler.tasks.get id = some task) :
    ∃ after, hub'.scheduler.tasks.get id = some after ∧
      (after.state = task.state ∨ after.state = .completed []) := by
  refine ⟨task.readAs (readReport prost msg), by rw [receiveProgress_get received, found]; rfl, ?_⟩
  unfold Task.readAs
  split
  · split
    · rw [reported_state]
      split
      · exact Or.inr rfl
      · exact Or.inl rfl
    · exact Or.inl rfl
  · exact Or.inl rfl

theorem receiveAll_state {prost : Prost} {hub hub' : ProgressHub} {msgs : List Bytes}
    (received : receiveAll prost hub msgs = some hub') {id : String} {task : Task}
    (found : hub.scheduler.tasks.get id = some task) :
    ∃ after, hub'.scheduler.tasks.get id = some after ∧
      (after.state = task.state ∨ after.state = .completed []) := by
  induction msgs generalizing hub task with
  | nil =>
    cases received
    exact ⟨task, found, Or.inl rfl⟩
  | cons msg rest ih =>
    rw [receiveAll, List.foldlM_cons] at received
    obtain ⟨middle, first, others⟩ := Option.bind_eq_some_iff.mp received
    obtain ⟨row, there, one⟩ := receiveProgress_state first found
    obtain ⟨after, last, two⟩ := ih others there
    refine ⟨after, last, ?_⟩
    rcases two with same | completed
    · rw [same]
      exact one
    · exact Or.inr completed

/-! What the medium tool prints for the reports of one task. -/

section Watch
variable (prost : Prost) (moved : F32 → F32 → Bool) {id : String}

theorem watch_report {report : TaskProgress} (named : report.taskId = id)
    (fits : (prost.taskProgress.encode report).length < 4294967296) (lastPct : F32)
    (rest : List SubEvent) :
    ∃ lines pct, (∀ n ∈ lines, ∃ task status percentage, n = .progress task status percentage) ∧
      watchProgress prost moved id lastPct (.message (progressFrame prost report) :: rest) =
        lines ++
        if report.status = 2 then [.completed report.resultText]
        else if report.status = 3 then [.failed report.errorMessage]
        else watchProgress prost moved id pct rest := by
  have read := readWatched_frame prost report fits
  have shown : watchProgress prost moved id lastPct
      (.message (progressFrame prost report) :: rest) =
      let shown := moved report.progressPercentage lastPct || report.status != 1
      let line := if shown then
          [.progress id (statusStr report.status) report.progressPercentage] else []
      let pct := if shown then report.progressPercentage else lastPct
      line ++ if report.status = 2 then [.completed report.resultText]
        else if report.status = 3 then [.failed report.errorMessage]
        else watchProgress prost moved id pct rest := by
    rw [watchProgress, read]
    simp only [named, ne_eq, not_true_eq_false, if_false]
    split
    · rfl
    · split <;> rfl
  refine ⟨_, _, ?_, shown⟩
  intro n member
  split at member
  · exact ⟨_, _, _, List.mem_singleton.mp member⟩
  · cases member

theorem watch_running {running : List TaskProgress} (fit : ReportsFit prost running)
    (reports : ∀ r ∈ running, r.taskId = id ∧ r.status = TaskStatus.running.toI32) (lastPct : F32)
    (rest : List SubEvent) :
    ∃ lines pct, (∀ n ∈ lines, ∃ task status percentage, n = .progress task status percentage) ∧
      watchProgress prost moved id lastPct
        ((running.map (progressFrame prost)).map .message ++ rest) =
          lines ++ watchProgress prost moved id pct rest := by
  induction running generalizing lastPct with
  | nil => exact ⟨[], lastPct, nofun, rfl⟩
  | cons r others ih =>
    obtain ⟨named, status⟩ := reports r List.mem_cons_self
    obtain ⟨line, pct, quiet, head⟩ :=
      watch_report prost moved named (fit r List.mem_cons_self) lastPct
      ((others.map (progressFrame prost)).map .message ++ rest)
    obtain ⟨lines, pct', quiet', tail⟩ := ih (fun q member => fit q (List.mem_cons_of_mem r member))
      (fun q member => reports q (List.mem_cons_of_mem r member)) pct
    refine ⟨line ++ lines, pct', ?_, ?_⟩
    · intro n member
      rcases List.mem_append.mp member with first | later
      · exact quiet n first
      · exact quiet' n later
    · have two : r.status ≠ 2 := by rw [status]; decide
      have three : r.status ≠ 3 := by rw [status]; decide
      rw [if_neg two, if_neg three, tail] at head
      rw [List.append_assoc]
      exact head

end Watch

/-! The verdict on an execution. -/

theorem not_givenBack_of_completed {task after : Task} (completed : after.state = .completed []) :
    ¬ task.GivenBack after := by
  unfold Task.GivenBack
  rw [completed]
  rintro (⟨reason, failed⟩ | ⟨pending, _⟩)
  · cases failed
  · cases pending

theorem completion_settles (prost : Prost) (moved : F32 → F32 → Bool) {env : WorkerEnv}
    {definition : TaskDefinition} {hub : ProgressHub} {task : Task}
    (found : hub.scheduler.tasks.get definition.taskId = some task)
    (ends : EndsWith definition .completed (executeTask env definition).reports)
    (fit : ReportsFit prost (executeTask env definition).reports) :
    Settles prost moved env definition hub task := by
  obtain ⟨running, last, split, quiet, named, status⟩ := ends
  unfold Settles
  rw [split] at fit ⊢
  have lastFits := fit last (by simp)
  have allNamed : ∀ r ∈ running ++ [last], r.taskId = definition.taskId := by
    intro r member
    rcases List.mem_append.mp member with inRunning | isLast
    · exact (quiet r inRunning).1
    · rw [List.mem_singleton.mp isLast, named]
  obtain ⟨hub', received, row⟩ := receiveAll_reports prost fit allNamed found
  have state : ((running ++ [last]).foldl Task.reported task).state = .completed [] := by
    rw [List.foldl_append]
    exact (reported_state _ last).trans (if_pos status)
  obtain ⟨lines, pct, progress, first⟩ := watch_running prost moved
    (fun r member => fit r (List.mem_append_left _ member)) quiet noPct
    [.message (progressFrame prost last)]
  obtain ⟨line, _, progress', second⟩ := watch_report prost moved named lastFits pct []
  have two : last.status = 2 := status
  rw [second, if_pos two] at first
  have printed : watchFrames prost moved definition.taskId
      ((running ++ [last]).map (progressFrame prost)) =
      lines ++ (line ++ [.completed last.resultText]) := by
    rw [← first, watchFrames, List.map_append, List.map_append]
    rfl
  have noFailure : ∀ reason, Notice.failed reason ∉ lines ++
      (line ++ [.completed last.resultText]) := by
    intro reason member
    rcases List.mem_append.mp member with early | late
    · obtain ⟨_, _, _, other⟩ := progress _ early
      cases other
    · rcases List.mem_append.mp late with line' | end'
      · obtain ⟨_, _, _, other⟩ := progress' _ line'
        cases other
      · cases List.mem_singleton.mp end'
  refine ⟨hub', _, received, row, ?_⟩
  rw [printed]
  have completed : ((running ++ [last]).foldl Task.reported task).state.Completed := by
    rw [state]
    trivial
  constructor
  · rw [state]
    exact id
  · exact fun _ _ _ => completed
  · intro r member failed
    rw [List.getLast?_concat] at member
    cases member
    rw [status] at failed
    cases failed
  · exact iff_of_true ⟨last.resultText, by simp⟩ completed
  · refine iff_of_false ?_ (not_givenBack_of_completed state)
    rintro ⟨reason, member⟩
    exact noFailure reason member

theorem completes_of_settles (prost : Prost) (moved : F32 → F32 → Bool) (env : WorkerEnv)
    {definition : TaskDefinition} {hub : ProgressHub} {task : Task}
    (found : hub.scheduler.tasks.get definition.taskId = some task) (running : task.state.Running)
    (settles : Settles prost moved env definition hub task) : Completes env definition := by
  by_contra fails
  obtain ⟨hub', after, received, row, verdict⟩ := settles
  obtain ⟨after', row', state⟩ := receiveAll_state received found
  cases row.symm.trans row'
  have completed : after.state = .completed [] := by
    rcases state with same | completed
    · rw [← same] at running
      exact absurd running verdict.ended
    · exact completed
  rcases executeTask_fails fails with silent | ⟨reports, last, split, _, _, status⟩
  · rw [silent] at received
    cases received
    cases found.symm.trans row
    exact verdict.ended running
  · have final : last ∈ (executeTask env definition).reports.getLast? := by
      rw [split, List.getLast?_concat]
      rfl
    exact not_givenBack_of_completed completed (verdict.failed last final status)

/-- The hub settles a running task exactly when the execution ends with a report
of completion. Reports too long for their frames are read back as something else. -/
theorem task_settles_iff_execution_completes (prost : Prost) (moved : F32 → F32 → Bool)
    (env : WorkerEnv) (definition : TaskDefinition) (hub : ProgressHub) (task : Task)
    (found : hub.scheduler.tasks.get definition.taskId = some task) (running : task.state.Running) :
    (ReportsFit prost (executeTask env definition).reports →
      (Settles prost moved env definition hub task ↔ Completes env definition)) ∧
    (Settles prost moved env definition hub task → Completes env definition) := by
  have only := completes_of_settles prost moved env found running
  refine ⟨fun fit => ⟨only, fun completes => ?_⟩, only⟩
  exact completion_settles prost moved found (executeTask_completes completes) fit

section Example

private def render : TaskDefinition :=
  ⟨"t", 1, "n", [7], 3, 10000, ["blender_execution"]⟩

private def rendering : Task :=
  ⟨"t", .statefulLongRunning, [7], 3, .running "n" 0, 0, ["blender_execution"]⟩

private def renderHub : ProgressHub := ⟨⟨.new, Keyed.Table.empty.insert rendering⟩, true, []⟩

private def renderEnv (present : Bool) : WorkerEnv := ⟨fun _ _ => present, true, fun _ => .panicked⟩

theorem task_settles_iff_execution_completes_render :
    Settles topology (fun a b => a.val != b.val) (renderEnv true) render renderHub rendering :=
  ((task_settles_iff_execution_completes topology _ (renderEnv true) render renderHub rendering rfl
    trivial).1 (by unfold ReportsFit; decide +kernel)).mpr ⟨by decide, by simp [render]⟩

/-- A worker without the capability reports a failure, and the task stays running. -/
theorem failed_report_leaves_task_running :
    ¬ Settles topology (fun a b => a.val != b.val) (renderEnv false) render renderHub
      rendering := by
  intro settles
  have running : rendering.state.Running := trivial
  have completes := completes_of_settles topology _ (renderEnv false) rfl running settles
  exact absurd completes.1 (by decide)

end Example

end SeamlessSwarm
