import SeamlessSwarm.Interactive

/-! Recovery from a lost node. The retry rules are written twice: inline in
`handle_node_failure`, and as the results of `schedule_task` together with what
`update_task_progress` makes of them. -/
namespace SeamlessSwarm
open Trace

def Task.runningOn (nodeId : String) (task : Task) : Bool :=
  match task.state with
  | .running node _ => node == nodeId
  | _ => false

def Task.unreasoned (task : Task) : Task :=
  match task.state with
  | .failed _ => { task with state := .failed "" }
  | _ => task

/-- The second path, taken once for each of the given tasks. -/
def rescheduleEach (registry : EphemeralRegistry) (nodeId : String) (tasks : TaskTable)
    (running : List Task) : TaskTable :=
  run (fun tasks task => updateTaskProgress tasks task.taskId (scheduleTask registry task nodeId))
    tasks running

/-- What a departure of `a` means for the tasks, whatever their iteration orders:
`a` is left by all its tasks and by no others, and neither a second notice nor the
order of two notices makes a difference. -/
structure DepartureLaws (tasks : TaskTable) (a b : String) : Prop where
  left : ∀ rows id task since, (handleNodeFailure (tasks.reorder rows) a).get id = some task →
    task.state ≠ .running a since
  bystanders : ∀ rows id task, tasks.get id = some task → (∀ since, task.state ≠ .running a since) →
    (handleNodeFailure (tasks.reorder rows) a).get id = some task
  members : ∀ rows id, (handleNodeFailure (tasks.reorder rows) a).get id = none ↔
    tasks.get id = none
  again : ∀ rows rows' id,
    (handleNodeFailure ((handleNodeFailure (tasks.reorder rows) a).reorder rows') a).get id =
      (handleNodeFailure (tasks.reorder rows) a).get id
  exchange : ∀ first second first' second' id,
    (handleNodeFailure ((handleNodeFailure (tasks.reorder first) a).reorder second) b).get id =
      (handleNodeFailure ((handleNodeFailure (tasks.reorder first') b).reorder second') a).get id

/-! One task. -/

theorem runningOn_iff {nodeId : String} {task : Task} :
    task.runningOn nodeId = true ↔ ∃ since, task.state = .running nodeId since := by
  unfold Task.runningOn
  cases task.state with
  | running node since => simp
  | _ => simp

theorem runningOn_eq_false_iff {nodeId : String} {task : Task} :
    task.runningOn nodeId = false ↔ ∀ since, task.state ≠ .running nodeId since := by
  rw [← Bool.not_eq_true, runningOn_iff, not_exists]

theorem nodeFailure_elsewhere {nodeId : String} {task : Task}
    (elsewhere : task.runningOn nodeId = false) :
    task.nodeFailure nodeId = task := by
  rcases task.nodeFailure_cases nodeId with ⟨same, _⟩ | ⟨since, running, _⟩
  · exact same
  · exact absurd running (runningOn_eq_false_iff.mp elsewhere since)

theorem nodeFailure_moved {nodeId : String} {task : Task} (running : task.runningOn nodeId = true)
    (node : String) : (task.nodeFailure nodeId).runningOn node = false := by
  obtain ⟨since, here⟩ := runningOn_iff.mp running
  rcases task.nodeFailure_cases nodeId with ⟨_, elsewhere⟩ | ⟨_, _, ⟨_, _, retried⟩ | ⟨_, failed⟩⟩
  · exact absurd here (elsewhere since)
  · rw [retried]
    rfl
  · rw [failed]
    rfl

theorem nodeFailure_leaves (nodeId : String) (task : Task) :
    (task.nodeFailure nodeId).runningOn nodeId = false := by
  cases running : task.runningOn nodeId with
  | true => exact nodeFailure_moved running nodeId
  | false =>
    rw [nodeFailure_elsewhere running]
    exact running

theorem nodeFailure_again (nodeId : String) (task : Task) :
    (task.nodeFailure nodeId).nodeFailure nodeId = task.nodeFailure nodeId :=
  nodeFailure_elsewhere (nodeFailure_leaves nodeId task)

theorem nodeFailure_comm (a b : String) (task : Task) :
    (task.nodeFailure a).nodeFailure b = (task.nodeFailure b).nodeFailure a := by
  cases onA : task.runningOn a with
  | false =>
    have still : (task.nodeFailure b).runningOn a = false := by
      cases onB : task.runningOn b with
      | true => exact nodeFailure_moved onB a
      | false =>
        rw [nodeFailure_elsewhere onB]
        exact onA
    rw [nodeFailure_elsewhere onA, nodeFailure_elsewhere still]
  | true =>
    cases onB : task.runningOn b with
    | false => rw [nodeFailure_elsewhere onB, nodeFailure_elsewhere (nodeFailure_moved onA b)]
    | true =>
      obtain ⟨since, here⟩ := runningOn_iff.mp onA
      obtain ⟨since', here'⟩ := runningOn_iff.mp onB
      rw [here] at here'
      cases here'
      rfl

/-- Departure notices are complete, spare the other tasks, and may be repeated and
exchanged. -/
theorem departure_laws (tasks : TaskTable) (a b : String) : DepartureLaws tasks a b := by
  constructor
  · intro rows id task since found running
    rw [handleNodeFailure_get, Keyed.Table.get_reorder] at found
    obtain ⟨before, _, rfl⟩ := Option.map_eq_some_iff.mp found
    exact runningOn_eq_false_iff.mp (nodeFailure_leaves a before) since running
  · intro rows id task found elsewhere
    rw [handleNodeFailure_get, Keyed.Table.get_reorder, found, Option.map_some,
      nodeFailure_elsewhere (runningOn_eq_false_iff.mpr elsewhere)]
  · intro rows id
    rw [handleNodeFailure_get, Keyed.Table.get_reorder, Option.map_eq_none_iff]
  · intro rows rows' id
    simp only [handleNodeFailure_get, Keyed.Table.get_reorder, Option.map_map]
    congr 1
    funext task
    exact nodeFailure_again a task
  · intro first second first' second' id
    simp only [handleNodeFailure_get, Keyed.Table.get_reorder, Option.map_map]
    congr 1
    funext task
    exact nodeFailure_comm a b task

/-! The two paths on one task, and then on all tasks of the node. -/

theorem update_scheduled {registry : EphemeralRegistry} {nodeId : String} {task : Task}
    (gone : registry.getNode nodeId = none) (running : task.runningOn nodeId = true) :
    (task.update (scheduleTask registry task nodeId)).unreasoned =
    (task.nodeFailure nodeId).unreasoned := by
  obtain ⟨since, here⟩ := runningOn_iff.mp running
  have room : task.currentRetry < task.maxRetries ∨ ¬ task.currentRetry < task.maxRetries := em _
  simp only [scheduleTask, gone, Task.nodeFailure, here, if_true]
  cases kind : task.taskType with
  | statelessIdempotent =>
    rcases room with room | full
    · simp [Task.update, Task.retryOrFail, room, Task.unreasoned]
    · simp [Task.update, Task.retryOrFail, full, Task.unreasoned]
  | statefulLongRunning =>
    rcases room with room | full
    · simp [Task.update, Task.retryOrFail, room, Task.unreasoned]
    · simp [Task.update, Task.retryOrFail, full, Task.unreasoned]
  | interactiveLowLatency => simp [Task.update, Task.unreasoned, kind]

theorem rescheduleEach_get (registry : EphemeralRegistry) (nodeId : String) {running : List Task}
    (distinct : (running.map Task.taskId).Nodup) (tasks : TaskTable) (id : String) :
    (rescheduleEach registry nodeId tasks running).get id = (tasks.get id).map fun stored =>
      match running.find? fun task => task.taskId = id with
      | some task => stored.update (scheduleTask registry task nodeId)
      | none => stored := by
  induction running generalizing tasks with
  | nil => simp [rescheduleEach]
  | cons task rest ih =>
    obtain ⟨fresh, others⟩ := List.nodup_cons.mp distinct
    have step := ih others
      (updateTaskProgress tasks task.taskId (scheduleTask registry task nodeId))
    unfold rescheduleEach at step ⊢
    rw [run_cons, step, updateTaskProgress_get]
    by_cases named : id = task.taskId
    · subst named
      have unlisted : (rest.find? fun other => other.taskId = task.taskId) = none := by
        apply List.find?_eq_none.mpr
        intro other member same
        exact fresh (List.mem_map.mpr ⟨other, member, of_decide_eq_true same⟩)
      simp only [if_true, unlisted, Option.map_map, List.find?_cons, decide_true]
      rfl
    · have other : ¬ task.taskId = id := fun same => named same.symm
      simp [named, other]

/-- For a node that is not registered both paths leave the same tasks, up to the
texts of failures and whatever order the second one goes in. -/
theorem recovery_paths_agree (s : ProfileScheduler) (nodeId : String)
    (gone : s.registry.getNode nodeId = none) {running : List Task}
    (order : running.Perm (s.tasks.rows.filter (·.runningOn nodeId))) (id : String) :
    ((rescheduleEach s.registry nodeId s.tasks running).get id).map Task.unreasoned =
      ((handleNodeFailure s.tasks nodeId).get id).map Task.unreasoned := by
  have distinct : (running.map Task.taskId).Nodup := by
    apply ((order.map Task.taskId).nodup_iff).mpr
    exact s.tasks.nodup.sublist (List.filter_sublist.map _)
  rw [rescheduleEach_get s.registry nodeId distinct, handleNodeFailure_get]
  cases found : s.tasks.get id with
  | none => rfl
  | some stored =>
    simp only [Option.map_some, Option.some.injEq]
    cases listed : running.find? fun task => task.taskId = id with
    | some task =>
      have named : task.taskId = id := by simpa using List.find?_some listed
      obtain ⟨member, here⟩ :=
        List.mem_filter.mp (order.mem_iff.mp (List.mem_of_find?_eq_some listed))
      have same := (s.tasks.get_eq_some_iff id task).mpr ⟨member, named⟩
      rw [found] at same
      cases same
      exact update_scheduled gone here
    | none =>
      have elsewhere : stored.runningOn nodeId = false := by
        apply Bool.eq_false_iff.mpr
        intro here
        have member := order.mem_iff.mpr (List.mem_filter.mpr ⟨s.tasks.mem_of_get found, here⟩)
        have unnamed := List.find?_eq_none.mp listed stored member
        exact unnamed (decide_eq_true (Keyed.Table.key_of_get found))
      simp only [nodeFailure_elsewhere elsewhere]

section Example

private def lost (id : String) (kind : TaskType) (retry : Nat) : Task :=
  ⟨id, kind, [7], 1, .running "n" 40, retry, []⟩

private def abandoned : ProfileScheduler where
  registry := .new
  tasks := ⟨[lost "a" .statelessIdempotent 0, lost "b" .interactiveLowLatency 0,
    ⟨"c", .statelessIdempotent, [], 1, .running "m" 41, 0, []⟩, lost "d" .statefulLongRunning 1],
    by decide⟩

theorem abandoned_paths_agree :
    ((rescheduleEach .new "n" abandoned.tasks [lost "d" .statefulLongRunning 1,
        lost "a" .statelessIdempotent 0, lost "b" .interactiveLowLatency 0]).get "d").map
          Task.unreasoned =
      ((handleNodeFailure abandoned.tasks "n").get "d").map Task.unreasoned := by
  apply recovery_paths_agree abandoned "n" rfl
  decide

end Example

end SeamlessSwarm
