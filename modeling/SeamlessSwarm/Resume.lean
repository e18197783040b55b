import Mathlib.Data.List.Induction
import SeamlessSwarm.Passes
import SeamlessSwarm.Worker

/-! What the frames of a task carry. A pass reads its task long before it pushes
the frame, so each push is traced back to that read, and the task that was read to
its submission and the checkpoints saved in between. -/
namespace SeamlessSwarm
open Trace

/-- The part of a task that its frames carry. -/
structure Job where
  taskType : TaskType
  payload : Bytes
  maxRetries : Nat
  requiredCapabilities : List String
  deriving DecidableEq

def Task.job (task : Task) : Job :=
  ⟨task.taskType, task.payload, task.maxRetries, task.requiredCapabilities⟩

def Job.definition (job : Job) (taskId nodeId : String) : TaskDefinition where
  taskId := taskId
  category := job.taskType.toCategory.toI32
  moduleTarget := nodeId
  payload := job.payload
  maxRetries := UInt32.ofNat job.maxRetries
  timeoutMs := 10000
  requiredCapabilities := job.requiredCapabilities

def Job.submit (job : Job) (taskId : String) : SchedulerCall :=
  .submitTask taskId job.taskType job.payload job.maxRetries job.requiredCapabilities

/-- The job after checkpoints: the last one is its payload. -/
def Job.resumed (job : Job) (saved : List Bytes) : Job :=
  { job with payload := saved.getLast?.getD job.payload }

def savedBy (taskId : String) : SchedulerCall → List Bytes
  | .updateTaskProgress id (.checkpointSaved bytes) => if id = taskId then [bytes] else []
  | _ => []

def checkpoints (taskId : String) (steps : List HubStep) : List Bytes :=
  steps.flatMap fun
    | .call c => savedBy taskId c
    | _ => []

section Law
variable (prost : Prost) (registry : EphemeralRegistry)

/-- Pass `i` reads the task of its next ticket after these steps. -/
structure ReadsAt (i : Nat) (ticket : Ticket) (task : Task) (queue : List Ticket)
    (steps : List HubStep) : Prop where
  waiting : (hubAfter prost registry steps).passes[i]? = some (.sending (ticket :: queue))
  stored : (hubAfter prost registry steps).scheduler.tasks.get ticket.taskId = some task

/-- A push of the run: what the hub read for it after `read`, and that the pass
kept what it read until it pushed. -/
def PushOf (steps : List HubStep) (push : Push) (task : Task) (read : List HubStep) : Prop :=
  ∃ i queue held rest, steps = read ++ .load i :: held ++ .push i push.sent :: rest ∧
    ReadsAt prost registry i push.ticket task queue read ∧
    (∀ part, part <+: held →
      (hubAfter prost registry (read ++ .load i :: part)).passes[i]? =
        some (.loaded push.ticket task queue)) ∧
    push.frame = taskFrame prost task push.ticket.taskId push.ticket.nodeId

end Law

/-! Jobs under one step. -/

@[simp] theorem resumed_nil (job : Job) : job.resumed [] = job := rfl

theorem resumed_append (job : Job) (first later : List Bytes) :
    job.resumed (first ++ later) = (job.resumed first).resumed later := by
  simp only [Job.resumed, List.getLast?_append]
  cases later.getLast? <;> rfl

theorem taskDef_job (task : Task) (taskId nodeId : String) :
    taskDef task taskId nodeId = task.job.definition taskId nodeId := rfl

theorem update_job (task : Task) (taskId : String) (result : ExecutionResult) :
    (task.update result).job = task.job.resumed
    (savedBy taskId (.updateTaskProgress taskId result)) := by
  cases result with
  | checkpointSaved bytes => simp [Task.job, Task.update, savedBy, Job.resumed]
  | retryNeeded reason =>
    unfold Task.update
    dsimp only
    split <;> rfl
  | _ => rfl

theorem nodeFailure_job (nodeId : String) (task : Task) : (task.nodeFailure nodeId).job =
    task.job := by
  rcases task.nodeFailure_cases nodeId with ⟨same, _⟩ | ⟨_, _, ⟨_, _, after⟩ | ⟨_, after⟩⟩
  · rw [same]
  · rw [after]
    rfl
  · rw [after]
    rfl

theorem call_job (s : ProfileScheduler) (c : SchedulerCall) {id : String} {task : Task}
    (found : s.tasks.get id = some task) (other : id ∉ submitted [c]) :
    ∃ after, (s.call c).tasks.get id = some after ∧ after.job = task.job.resumed
      (savedBy id c) := by
  cases c with
  | submitTask taskId kind payload limit caps =>
    have named : id ≠ taskId := by simpa [submitted] using other
    exact ⟨task, by rw [submit_get, if_neg named, found], rfl⟩
  | updateTaskProgress taskId result =>
    rw [update_get, found]
    by_cases named : id = taskId
    · subst named
      exact ⟨_, if_pos rfl, update_job task id result⟩
    · refine ⟨task, if_neg named, ?_⟩
      cases result with
      | checkpointSaved bytes => simp [savedBy, Ne.symm named]
      | _ => rfl
  | handleNodeFailure nodeId =>
    rw [failure_get, found]
    exact ⟨_, rfl, nodeFailure_job nodeId task⟩
  | dispatchPendingTasks now =>
    rcases dispatchWith_row found now with later | ⟨_, node, later⟩
    · exact ⟨task, later, rfl⟩
    · exact ⟨_, later, rfl⟩
  | rehash nodes tasks => exact ⟨task, (rehash_get s nodes tasks id).trans found, rfl⟩
  | _ => exact ⟨task, found, rfl⟩

theorem checkpoints_append (id : String) (first later : List HubStep) :
    checkpoints id (first ++ later) = checkpoints id first ++ checkpoints id later :=
  List.flatMap_append

theorem job_step (prost : Prost) (hub : Hub) (s : HubStep) {id : String} {task : Task}
    (found : hub.scheduler.tasks.get id = some task) (silent : submission id s = none) :
    ∃ after, (hub.step prost s).scheduler.tasks.get id = some after ∧
      after.job = task.job.resumed (checkpoints id [s]) := by
  have ofPass (noCall : ∀ c, s ≠ .call c) (quiet : checkpoints id [s] = []) :
      ∃ after, (hub.step prost s).scheduler.tasks.get id = some after ∧
        after.job = task.job.resumed (checkpoints id [s]) := by
    rw [quiet]
    cases (hub_stepped prost hub s).moves with
    | called c _ _ _ _ => exact absurd rfl (noCall c)
    | moved _ scheduler _ _ => exact ⟨task, by rw [scheduler, found], rfl⟩
    | assigned i now nodes tasks _ _ =>
      rw [tasks]
      rcases retriesOf_assign id hub.scheduler.tasks nodes now with
        ⟨_, same⟩ | ⟨row, node, there, _, later, _⟩
      · exact ⟨task, same.trans found, rfl⟩
      · cases found.symm.trans there
        exact ⟨_, later, rfl⟩
  cases s with
  | call c =>
    have saved : checkpoints id [.call c] = savedBy id c := List.append_nil _
    rw [saved]
    cases c with
    | dispatchPendingTasks now => exact ⟨task, found, rfl⟩
    | _ => exact call_job hub.scheduler _ found (submission_call_none silent)
  | _ => exact ofPass nofun rfl

theorem job_run (prost : Prost) {hub : Hub} {steps : List HubStep} {id : String} {task : Task}
    (found : hub.scheduler.tasks.get id = some task) (silent : submissions id steps = []) :
    ∃ after, (run (Hub.step prost) hub steps).scheduler.tasks.get id = some after ∧
      after.job = task.job.resumed (checkpoints id steps) := by
  induction steps generalizing hub task with
  | nil => exact ⟨task, found, rfl⟩
  | cons s rest ih =>
    obtain ⟨head, tail⟩ : submission id s = none ∧ submissions id rest = [] := by
      simpa [submissions] using silent
    obtain ⟨middle, there, one⟩ := job_step prost hub s found head
    obtain ⟨after, last, two⟩ := ih there tail
    refine ⟨after, last, ?_⟩
    have split : checkpoints id (s :: rest) = checkpoints id [s] ++ checkpoints id rest :=
      checkpoints_append id [s] rest
    rw [two, one, split, resumed_append]

/-! Pushes and the reads they come from. -/

section Reads
variable (prost : Prost) (registry : EphemeralRegistry)

theorem loaded_history {steps : List HubStep} {i : Nat} {ticket : Ticket} {task : Task}
    {queue : List Ticket}
    (here : (hubAfter prost registry steps).passes[i]? = some (.loaded ticket task queue)) :
    ∃ read held, steps = read ++ .load i :: held ∧ ReadsAt prost registry i ticket task queue read ∧
      ∀ part, part <+: held → (hubAfter prost registry (read ++ .load i :: part)).passes[i]? =
        some (.loaded ticket task queue) := by
  induction steps using List.reverseRecOn with
  | nil => cases here
  | append_singleton steps s ih =>
    have now := here
    rw [hubAfter_snoc] at here
    rcases loaded_step prost here with old | ⟨rfl, waiting, stored⟩
    · obtain ⟨read, held, split, reads, kept⟩ := ih old
      refine ⟨read, held ++ [s], by simp [split], reads, ?_⟩
      intro part inside
      rcases List.prefix_concat_iff.mp inside with whole | before
      · rw [whole]
        simpa [split] using now
      · exact kept part before
    · refine ⟨steps, [], rfl, ⟨waiting, stored⟩, ?_⟩
      intro part inside
      rw [List.prefix_nil.mp inside]
      exact now

theorem pushed_history {steps : List HubStep} {push : Push}
    (pushed : push ∈ (hubAfter prost registry steps).pushed) :
    ∃ task read, PushOf prost registry steps push task read := by
  have grows (hub : Hub) (s : HubStep) :
      (hub.step prost s).pushed = hub.pushed ++ hub.newPushes prost s :=
    (hub_stepped prost hub s).logs.2
  rcases logged_at Hub.pushed (Hub.newPushes prost) grows pushed with
    initial | ⟨before, s, rest, split, added⟩
  · cases initial
  · have added' : push ∈ (hubAfter prost registry before).newPushes prost s := added
    cases s with
    | push i sent =>
      cases here : (hubAfter prost registry before).passes[i]? with
      | none => simp [Hub.newPushes, here] at added'
      | some pass =>
        cases pass with
        | loaded ticket task queue =>
          simp only [Hub.newPushes, here, List.mem_singleton] at added'
          obtain ⟨read, held, earlier, reads, kept⟩ := loaded_history prost registry here
          subst added'
          exact ⟨task, read, i, queue, held, rest, by rw [split, earlier], reads, kept, rfl⟩
        | _ => simp [Hub.newPushes, here] at added'
    | _ => cases added'

end Reads

theorem unsubmitted_absent (prost : Prost) (registry : EphemeralRegistry) {id : String}
    {steps : List HubStep} (silent : submissions id steps = []) :
    (hubAfter prost registry steps).scheduler.tasks.get id = none := by
  induction steps using List.reverseRecOn with
  | nil => rfl
  | append_singleton steps s ih =>
    obtain ⟨early, last⟩ : submissions id steps = [] ∧ submission id s = none := by
      simpa [submissions, List.filterMap_append] using silent
    rw [hubAfter_snoc]
    exact step_get_none prost last (ih early)

/-- The frame carries the task as it was submitted, with the last checkpoint that
was saved before the hub read the task for this push. -/
structure CarriesJob (prost : Prost) (id : String) (job : Job) (push : Push) (saved : List Bytes) :
    Prop where
  frame : push.frame =
    SeamlessSwarm.frame 6
      (prost.taskDefinition.encode ((job.resumed saved).definition id push.ticket.nodeId))
  limit : job.maxRetries < 4294967296 →
    ((job.resumed saved).definition id push.ticket.nodeId).maxRetries.toNat = job.maxRetries
  received : push.frame.length < 4294967301 →
    receiveTask prost push.frame = .accept ((job.resumed saved).definition id push.ticket.nodeId)

/-- In every run that submits a task once, each frame pushed for it was read after
the submission and carries the job with the checkpoints saved up to that read. -/
theorem pushed_frames_resume (prost : Prost) (registry : EphemeralRegistry)
    (id : String) (job : Job)
    (before after : List HubStep) (first : submissions id before = [])
    (once : submissions id after = [])
    (push : Push)
    (pushed : push ∈ (hubAfter prost registry (before ++ .call (job.submit id) :: after)).pushed)
    (named : push.ticket.taskId = id) :
    ∃ task since, PushOf prost registry (before ++ .call (job.submit id) :: after) push task
        (before ++ .call (job.submit id) :: since) ∧
      CarriesJob prost id job push (checkpoints id since) := by
  obtain ⟨task, read, i, queue, held, rest, split, reads, kept, frame⟩ :=
    pushed_history prost registry pushed
  have stored := reads.stored
  rw [named] at stored
  have whole : before ++ .call (job.submit id) :: after = (before ++ [.call (job.submit id)]) ++
      after := by
    simp
  have inRead : read <+: before ++ .call (job.submit id) :: after :=
    ⟨.load i :: held ++ .push i push.sent :: rest, by rw [split]; simp⟩
  -- the task is not there before its submission
  obtain ⟨since, later⟩ : ∃ since, read = (before ++ [.call (job.submit id)]) ++ since := by
    have first' : before ++ [.call (job.submit id)] <+: before ++ .call (job.submit id) :: after :=
      ⟨after, whole.symm⟩
    rcases List.prefix_or_prefix_of_prefix inRead first' with short | long
    · rcases List.prefix_concat_iff.mp short with same | early
      · exact ⟨[], by rw [same, List.append_nil]⟩
      · have silent : submissions id read = [] :=
          List.sublist_nil.mp (first ▸ (early.sublist.filterMap (submission id)))
        rw [unsubmitted_absent prost registry silent] at stored
        cases stored
    · obtain ⟨since, same⟩ := long
      exact ⟨since, same.symm⟩
  have silent : submissions id since = [] := by
    rw [whole, later, List.append_assoc] at inRead
    rw [List.append_assoc, List.prefix_append_right_inj, List.prefix_append_right_inj] at inRead
    exact List.sublist_nil.mp (once ▸ (inRead.sublist.filterMap (submission id)))
  have readEq : read = before ++ .call (job.submit id) :: since := by simp [later]
  have submitted : (hubAfter prost registry (before ++ [.call (job.submit id)])).scheduler.tasks.get
      id =
      some ((Task.new id job.taskType job.payload job.maxRetries).withCapabilities
        job.requiredCapabilities) := by
    rw [hubAfter_snoc]
    exact (submit_get _ id _ _ _ _ id).trans (if_pos rfl)
  obtain ⟨row, there, carried⟩ := job_run prost submitted silent
  rw [later, hubAfter_append, there] at stored
  cases stored
  have carries : push.frame = SeamlessSwarm.frame 6 (prost.taskDefinition.encode
      ((job.resumed (checkpoints id since)).definition id push.ticket.nodeId)) := by
    rw [frame, taskFrame, taskDef_job, carried, named]
    rfl
  refine ⟨task, since, ⟨i, queue, held, rest, ?_, ?_, ?_, frame⟩, carries, ?_, ?_⟩
  · rw [← readEq]
    exact split
  · rw [← readEq]
    exact reads
  · rw [← readEq]
    exact kept
  · intro small
    exact UInt32.toNat_ofNat_of_lt' small
  · intro fits
    rw [carries] at fits ⊢
    exact receiveTask_definition prost _ fits

section Example

private def renderJob : Job := ⟨.statefulLongRunning, [1], 3, []⟩

/-- The first node saves a checkpoint and is lost, and the second push is late: the
last checkpoint comes after the assignment and before the read. -/
private def resumed : List HubStep :=
  [.enter 1, .listNodes 0, .assign 0, .load 0, .push 0 true,
    .call (.updateTaskProgress "t" (.checkpointSaved [2])), .call (.handleNodeFailure "n"),
    .enter 2, .listNodes 1, .assign 1, .call (.updateTaskProgress "t" (.checkpointSaved [3, 4])),
      .load 1,
    .call (.updateTaskProgress "t" (.checkpointSaved [5])), .push 1 true]

private def resumedTask : Task :=
  ⟨"t", .statefulLongRunning, [3, 4], 3, .running "n" 2, 1, []⟩

private def resumedPush : Push :=
  ⟨⟨"t", "n", 1⟩, taskFrame topology resumedTask "t" "n", true⟩

theorem pushed_frames_resume_late :
    ∃ task since, PushOf topology .new ([.call (.registerNode ⟨"n", "linux", [], 0, ""⟩)] ++
          .call (renderJob.submit "t") :: resumed) resumedPush task
        ([.call (.registerNode ⟨"n", "linux", [], 0, ""⟩)] ++ .call
          (renderJob.submit "t") :: since) ∧
      CarriesJob topology "t" renderJob resumedPush (checkpoints "t" since) :=
  pushed_frames_resume topology .new "t" renderJob [.call (.registerNode ⟨"n", "linux", [], 0, ""⟩)]
    resumed rfl rfl resumedPush (List.mem_cons_of_mem _ List.mem_cons_self) rfl

end Example

end SeamlessSwarm
