import SeamlessSwarm.Lifecycle
import SeamlessSwarm.Progress

/-! Interactive tasks over whole runs. Nothing in `update_task_progress` spares
them a retry: that none of them is retried depends on where the results come from,
and a result may be passed on long after it was made. -/
namespace SeamlessSwarm
open Trace

def scheduleTask (registry : EphemeralRegistry) (task : Task) (nodeId : String) : ExecutionResult :=
  match registry.getNode nodeId with
  | none =>
    match task.taskType with
    | .statelessIdempotent => .retryNeeded "Node not registered, needs reallocation"
    | .statefulLongRunning => .retryNeeded "Node lost, scheduling from last checkpoint"
    | .interactiveLowLatency => .immediateFailure "Interactive node departed. Dropping execution."
  | some node =>
    match task.taskType with
    | .statelessIdempotent =>
      if node.lastSeen < 1000 then
        .retryNeeded "Node communication laggy. Retrying on another node."
      else .success
    | .statefulLongRunning => .checkpointSaved [1, 2, 3, 4]
    | .interactiveLowLatency =>
      if node.lastSeen < 500 then
        .immediateFailure "Latency threshold violated. Immediate host fallback."
      else .success

/-- The scheduler, the results that `schedule_task` has returned so far, each with
the task it was called for, and the tasks dispatched so far. -/
structure Scheduling where
  scheduler : ProfileScheduler
  returned : List (String × ExecutionResult)
  dispatched : List String
  deriving DecidableEq

inductive SchedulingStep where
  | call (c : SchedulerCall)
  | scheduleTask (taskId nodeId : String)
  deriving DecidableEq

namespace Scheduling

def start (registry : EphemeralRegistry) : Scheduling := ⟨.new registry, [], []⟩

def step (s : Scheduling) : SchedulingStep → Scheduling
  | .call c =>
    { s with
      scheduler := s.scheduler.call c
      dispatched := s.dispatched ++ (s.scheduler.dispatches c).map Prod.fst }
  | .scheduleTask taskId nodeId =>
    match s.scheduler.getTask taskId with
    | some task =>
      { s with returned :=
          s.returned ++ [(taskId, SeamlessSwarm.scheduleTask s.scheduler.registry task nodeId)] }
    | none => s

end Scheduling

def schedulerCalls : List SchedulingStep → List SchedulerCall :=
  List.filterMap fun
    | .call c => some c
    | .scheduleTask _ _ => none

/-- A result passed to `update_task_progress` is one that `schedule_task` returned
for the stored task before, or what the progress receiver makes of a report. -/
def Sourced (s : Scheduling) : SchedulingStep → Prop
  | .call (.updateTaskProgress taskId result) => (taskId, result) ∈ s.returned ∨
      ∃ progress : TaskProgress, progress.taskId = taskId ∧ progressResult progress = some result
  | _ => True

/-- The task was not retried, was dispatched at most once, and does not wait again. -/
structure NeverRetried (task : Task) (dispatched : List String) : Prop where
  retry : task.currentRetry = 0
  once : dispatched.count task.taskId ≤ 1
  gone : task.taskId ∈ dispatched → task.state ≠ .pending

def ExecutionResult.Final : ExecutionResult → Prop
  | .success => True
  | .immediateFailure _ => True
  | _ => False

/-- What a run keeps about one task id: before it is stored, nothing happens to it,
and once it is stored as an interactive task, all its results are final. -/
def Unretried (id : String) (dispatched : List String)
    (returned : List (String × ExecutionResult)) :
    Option Task → Prop
  | none => id ∉ dispatched ∧ ∀ result, (id, result) ∉ returned
  | some task => task.taskType = .interactiveLowLatency →
    NeverRetried task dispatched ∧ ∀ result, (id, result) ∈ returned → result.Final

/-- The results that leave an interactive task unretried. -/
def ExecutionResult.Unretrying : ExecutionResult → Prop
  | .retryNeeded _ => False
  | _ => True

theorem scheduleTask_final (registry : EphemeralRegistry) {task : Task} (nodeId : String)
    (interactive : task.taskType = .interactiveLowLatency) :
    (scheduleTask registry task nodeId).Final := by
  unfold scheduleTask
  rw [interactive]
  cases registry.getNode nodeId with
  | none => trivial
  | some node =>
    by_cases laggy : node.lastSeen < 500 <;> simp [laggy, ExecutionResult.Final]

theorem progressResult_unretrying {progress : TaskProgress} {result : ExecutionResult}
    (derived : progressResult progress = some result) : result.Unretrying := by
  unfold progressResult at derived
  split at derived
  · cases derived
    trivial
  · split at derived
    · cases derived
      trivial
    · cases derived

theorem ExecutionResult.Final.unretrying {result : ExecutionResult} (final : result.Final) :
    result.Unretrying := by
  cases result with
  | retryNeeded reason => cases final
  | _ => trivial

/-! What each call makes of a row. -/

theorem update_type (task : Task) (result : ExecutionResult) :
    (task.update result).taskType = task.taskType := by
  cases result with
  | retryNeeded reason =>
    unfold Task.update
    dsimp only
    split <;> rfl
  | _ => rfl

theorem nodeFailure_type (task : Task) (nodeId : String) :
    (task.nodeFailure nodeId).taskType = task.taskType := by
  rcases task.nodeFailure_cases nodeId with ⟨same, _⟩ | ⟨_, _, ⟨_, _, after⟩ | ⟨_, after⟩⟩
  · rw [same]
  · rw [after]
  · rw [after]

theorem NeverRetried.update {task : Task} {dispatched : List String} {result : ExecutionResult}
    (kept : NeverRetried task dispatched) (unretrying : result.Unretrying) :
    NeverRetried (task.update result) dispatched := by
  cases result with
  | retryNeeded reason => cases unretrying
  | success => exact ⟨kept.retry, kept.once, fun _ => nofun⟩
  | checkpointSaved bytes => exact ⟨kept.retry, kept.once, kept.gone⟩
  | immediateFailure reason => exact ⟨kept.retry, kept.once, fun _ => nofun⟩

theorem NeverRetried.nodeFailure {task : Task} {dispatched : List String}
    (kept : NeverRetried task dispatched) (interactive : task.taskType = .interactiveLowLatency)
    (nodeId : String) : NeverRetried (task.nodeFailure nodeId) dispatched := by
  rcases task.nodeFailure_cases nodeId with ⟨same, _⟩ | ⟨_, _, ⟨other, _, _⟩ | ⟨reason, after⟩⟩
  · rw [same]
    exact kept
  · exact absurd interactive other
  · rw [after]
    exact ⟨kept.retry, kept.once, fun _ => nofun⟩

theorem NeverRetried.skipped {task : Task} {dispatched new : List String}
    (kept : NeverRetried task dispatched) (skipped : task.taskId ∉ new) :
    NeverRetried task (dispatched ++ new) := by
  refine ⟨kept.retry, ?_, ?_⟩
  · rw [List.count_append, List.count_eq_zero_of_not_mem skipped]
    exact kept.once
  · intro member
    rcases List.mem_append.mp member with before | now
    · exact kept.gone before
    · exact absurd now skipped

theorem NeverRetried.placed {task : Task} {dispatched new : List String}
    (kept : NeverRetried task dispatched) (pending : task.state = .pending) (distinct : new.Nodup)
    (node : String) (now : Nat) :
    NeverRetried { task with state := .running node now } (dispatched ++ new) := by
  have fresh : task.taskId ∉ dispatched := fun before => kept.gone before pending
  refine ⟨kept.retry, ?_, fun _ => nofun⟩
  rw [List.count_append, List.count_eq_zero_of_not_mem fresh, Nat.zero_add]
  exact List.nodup_iff_count_le_one.mp distinct _

/-! The invariant along a run. -/

def Scheduling.Keeps (id : String) (s : Scheduling) : Prop :=
  Unretried id s.dispatched s.returned (s.scheduler.tasks.get id)

section Step
variable {id : String} {s : Scheduling}

/-- A call that dispatches nothing and changes the row, if at all, to one that is
of the same type and as little retried as before. -/
theorem keeps_of_row {c : SchedulerCall} (kept : s.Keeps id) (quiet : s.scheduler.dispatches c = [])
    {f : Task → Task} (row : (s.scheduler.call c).tasks.get id = (s.scheduler.tasks.get id).map f)
    (type : ∀ task, (f task).taskType = task.taskType)
    (never : ∀ task, s.scheduler.tasks.get id = some task → task.taskType = .interactiveLowLatency →
      NeverRetried task s.dispatched → NeverRetried (f task) s.dispatched) :
    (s.step (.call c)).Keeps id := by
  unfold Scheduling.Keeps at kept ⊢
  simp only [Scheduling.step, quiet, List.map_nil, List.append_nil, row]
  cases found : s.scheduler.tasks.get id with
  | none =>
    rw [found] at kept
    exact kept
  | some task =>
    rw [found] at kept
    intro interactive
    rw [type] at interactive
    obtain ⟨before, final⟩ := kept interactive
    exact ⟨never task found interactive before, final⟩

theorem keeps_unchanged {c : SchedulerCall} (kept : s.Keeps id)
    (quiet : s.scheduler.dispatches c = [])
    (row : (s.scheduler.call c).tasks.get id = s.scheduler.tasks.get id) :
    (s.step (.call c)).Keeps id := by
  apply keeps_of_row kept quiet (f := fun task => task) (by rw [row, Option.map_id'])
  · exact fun _ => rfl
  · exact fun _ _ _ never => never

theorem keeps_dispatch (kept : s.Keeps id) (now : Nat) :
    (s.step (.call (.dispatchPendingTasks now))).Keeps id := by
  have fate := dispatchWith_fate s.scheduler.registry.listNodes s.scheduler.tasks now id
  have distinct := dispatchWith_tickets_nodup s.scheduler.registry.listNodes s.scheduler.tasks now
  unfold Scheduling.Keeps at kept ⊢
  show Unretried id (s.dispatched ++ _) s.returned
    ((dispatchWith s.scheduler.registry.listNodes s.scheduler.tasks now).1.get id)
  have named : ∀ task, s.scheduler.tasks.get id = some task → task.taskId = id :=
    fun task found => Keyed.Table.key_of_get found
  generalize s.scheduler.tasks.get id = row at kept fate named
  cases fate with
  | absent gone unlisted =>
    rw [gone]
    refine ⟨fun member => ?_, kept.2⟩
    exact (List.mem_append.mp member).elim kept.1 unlisted
  | kept task _ later unlisted =>
    rw [later]
    intro interactive
    obtain ⟨never, final⟩ := kept interactive
    rw [← named task rfl] at unlisted
    exact ⟨never.skipped unlisted, final⟩
  | placed task node pending _ _ later _ =>
    rw [later]
    intro interactive
    obtain ⟨never, final⟩ := kept interactive
    exact ⟨never.placed pending distinct node.nodeId now, final⟩

theorem keeps_submit (kept : s.Keeps id) {taskId : String} {kind : TaskType} {payload : Bytes}
    {limit : Nat} {caps : List String} (fresh : s.scheduler.tasks.get taskId = none) :
    (s.step (.call (.submitTask taskId kind payload limit caps))).Keeps id := by
  by_cases named : id = taskId
  · subst named
    unfold Scheduling.Keeps at kept ⊢
    rw [fresh] at kept
    obtain ⟨undispatched, unreturned⟩ := kept
    simp only [Scheduling.step, ProfileScheduler.dispatches, List.map_nil,
      List.append_nil, submit_get,
      if_true]
    intro _
    refine ⟨⟨rfl, ?_, fun member => absurd member undispatched⟩, ?_⟩
    · exact Nat.le_trans (Nat.le_of_eq (List.count_eq_zero_of_not_mem undispatched)) (Nat.zero_le 1)
    · exact fun result member => absurd member (unreturned result)
  · exact keeps_unchanged kept rfl (by rw [submit_get, if_neg named])

theorem keeps_update (kept : s.Keeps id) {taskId : String} {result : ExecutionResult}
    (sourced : Sourced s (.call (.updateTaskProgress taskId result))) :
    (s.step (.call (.updateTaskProgress taskId result))).Keeps id := by
  by_cases named : id = taskId
  · subst named
    apply keeps_of_row kept rfl (f := (·.update result)) (by rw [update_get, if_pos rfl])
    · exact fun task => update_type task result
    · intro task found interactive never
      apply never.update
      rcases sourced with returned | ⟨progress, _, derived⟩
      · have stored : Unretried id s.dispatched s.returned (some task) := found ▸ kept
        exact ((stored interactive).2 result returned).unretrying
      · exact progressResult_unretrying derived
  · exact keeps_unchanged kept rfl (by rw [update_get, if_neg named])

theorem keeps_scheduleTask (kept : s.Keeps id) (taskId nodeId : String) :
    (s.step (.scheduleTask taskId nodeId)).Keeps id := by
  simp only [Scheduling.step, ProfileScheduler.getTask]
  cases asked : s.scheduler.tasks.get taskId with
  | none => exact kept
  | some task =>
    unfold Scheduling.Keeps at kept ⊢
    by_cases named : id = taskId
    · subst named
      rw [asked] at kept
      simp only [asked]
      intro interactive
      obtain ⟨never, final⟩ := kept interactive
      refine ⟨never, fun result member => ?_⟩
      rcases List.mem_append.mp member with before | now
      · exact final result before
      · cases List.mem_singleton.mp now
        exact scheduleTask_final _ nodeId interactive
    · have other : ∀ result, (id, result) ∈ s.returned ++
          [(taskId, scheduleTask s.scheduler.registry task nodeId)] →
            (id, result) ∈ s.returned := by
        intro result member
        rcases List.mem_append.mp member with before | now
        · exact before
        · exact absurd (congrArg Prod.fst (List.mem_singleton.mp now)) named
      dsimp only
      generalize s.scheduler.tasks.get id = row at kept
      cases row with
      | none => exact ⟨kept.1, fun result member => kept.2 result (other result member)⟩
      | some stored =>
        intro interactive
        obtain ⟨never, final⟩ := kept interactive
        exact ⟨never, fun result member => final result (other result member)⟩

def FreshStep (s : Scheduling) : SchedulingStep → Prop
  | .call c => FreshCall s.scheduler c
  | .scheduleTask _ _ => True

theorem keeps_step (kept : s.Keeps id) {a : SchedulingStep} (fresh : FreshStep s a)
    (sourced : Sourced s a) : (s.step a).Keeps id := by
  cases a with
  | scheduleTask taskId nodeId => exact keeps_scheduleTask kept taskId nodeId
  | call c =>
    cases c with
    | submitTask taskId kind payload limit caps => exact keeps_submit kept fresh
    | updateTaskProgress taskId result => exact keeps_update kept sourced
    | handleNodeFailure nodeId =>
      apply keeps_of_row kept rfl (failure_get s.scheduler nodeId id)
      · exact fun task => nodeFailure_type task nodeId
      · exact fun task _ interactive never => never.nodeFailure interactive nodeId
    | dispatchPendingTasks now => exact keeps_dispatch kept now
    | rehash nodes tasks => exact keeps_unchanged kept rfl (rehash_get s.scheduler nodes tasks id)
    | _ => exact keeps_unchanged kept rfl rfl

end Step

theorem scheduler_run (s : Scheduling) (steps : List SchedulingStep) :
    (run Scheduling.step s steps).scheduler =
      run ProfileScheduler.call s.scheduler (schedulerCalls steps) := by
  induction steps generalizing s with
  | nil => rfl
  | cons a rest ih =>
    rw [run_cons, ih]
    cases a with
    | call c => rfl
    | scheduleTask taskId nodeId =>
      have same : (s.step (.scheduleTask taskId nodeId)).scheduler = s.scheduler := by
        unfold Scheduling.step
        dsimp only
        split <;> rfl
      rw [same]
      rfl

theorem freshSteps_along (registry : EphemeralRegistry) {steps : List SchedulingStep}
    (distinct : (submitted (schedulerCalls steps)).Nodup) :
    Along Scheduling.step FreshStep (Scheduling.start registry) steps := by
  have along : Along ProfileScheduler.call FreshCall (ProfileScheduler.new registry)
      (schedulerCalls steps) := fresh_along distinct fun _ _ => rfl
  apply (along_iff_split _ _).mpr
  intro before a after split
  cases a with
  | scheduleTask taskId nodeId => trivial
  | call c =>
    have calls : schedulerCalls steps = schedulerCalls before ++ c :: schedulerCalls after := by
      rw [split]
      simp only [schedulerCalls, List.filterMap_append, List.filterMap_cons]
    have fresh := (along_iff_split _ _).mp along _ c _ calls
    rwa [FreshStep, scheduler_run]

/-- An interactive task is never retried, is dispatched at most once and never
waits again, whatever is done between, as long as its results are sourced. -/
theorem interactive_never_retried (registry : EphemeralRegistry) (steps : List SchedulingStep)
    (once : (submitted (schedulerCalls steps)).Nodup)
    (sourced : Along Scheduling.step Sourced (Scheduling.start registry) steps) :
    ∀ before after, steps = before ++ after → ∀ id task,
      (run Scheduling.step (Scheduling.start registry) before).scheduler.tasks.get id = some task →
      task.taskType = .interactiveLowLatency →
      NeverRetried task (run Scheduling.step (Scheduling.start registry) before).dispatched := by
  intro before after split id task found interactive
  have conditions := along_and (freshSteps_along registry once) sourced
  rw [split, along_append] at conditions
  have initial : (Scheduling.start registry).Keeps id := ⟨nofun, nofun⟩
  have kept : (run Scheduling.step (Scheduling.start registry) before).Keeps id := by
    apply run_invariant_along _ initial conditions.1
    exact fun s a inv condition => keeps_step inv condition.1 condition.2
  unfold Scheduling.Keeps at kept
  rw [found] at kept
  exact (kept interactive).1

/-- A result that was returned while the node was gone arrives after the dispatch. -/
theorem late_failure_is_not_a_retry :
    NeverRetried ⟨"t", .interactiveLowLatency, [], 3,
      .failed "Interactive node departed. Dropping execution.", 0, []⟩ ["t"] := by
  apply interactive_never_retried .new
    [.call (.submitTask "t" .interactiveLowLatency [] 3 []), .scheduleTask "t" "n",
      .call (.registerNode ⟨"n", "linux", [], 1200, ""⟩), .call (.dispatchPendingTasks 7),
      .call (.updateTaskProgress "t"
        (.immediateFailure "Interactive node departed. Dropping execution."))]
    (by decide) _ _ [] (List.append_nil _).symm "t" _ rfl rfl
  refine ⟨trivial, trivial, trivial, trivial, ?_, trivial⟩
  exact Or.inl (by decide)

end SeamlessSwarm
