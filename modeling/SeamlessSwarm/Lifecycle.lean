import SeamlessSwarm.Lib.Trace
import SeamlessSwarm.Scheduler

/-! Task lifecycles over whole runs of scheduler calls, with any registry
changes and any iteration orders of the two maps in between. -/
namespace SeamlessSwarm
open Trace

inductive SchedulerCall where
  | submitTask (taskId : String) (taskType : TaskType) (payload : Bytes) (maxRetries : Nat)
      (requiredCapabilities : List String)
  | updateTaskProgress (taskId : String) (result : ExecutionResult)
  | handleNodeFailure (nodeId : String)
  | dispatchPendingTasks (currentTime : Nat)
  | registerNode (profile : NodeProfile)
  | unregisterNode (nodeId : String)
  | evictOfflineNodes (currentTime timeoutThreshold : Nat)
  | rehash (nodes : List NodeProfile) (tasks : List Task)
  deriving DecidableEq

/-- One call. Tasks are submitted as `Task::new` makes them, with capabilities. -/
def ProfileScheduler.call (s : ProfileScheduler) : SchedulerCall → ProfileScheduler
  | .submitTask taskId taskType payload maxRetries caps =>
    s.submitTask ((Task.new taskId taskType payload maxRetries).withCapabilities caps)
  | .updateTaskProgress taskId result =>
    { s with tasks := SeamlessSwarm.updateTaskProgress s.tasks taskId result }
  | .handleNodeFailure nodeId => { s with tasks := SeamlessSwarm.handleNodeFailure s.tasks nodeId }
  | .dispatchPendingTasks currentTime => (s.dispatchPendingTasks currentTime).1
  | .registerNode profile => { s with registry := s.registry.registerNode profile }
  | .unregisterNode nodeId => { s with registry := s.registry.unregisterNode nodeId }
  | .evictOfflineNodes now threshold =>
    { s with registry := s.registry.evictOfflineNodes now threshold }
  | .rehash nodes tasks => ⟨s.registry.reorder nodes, s.tasks.reorder tasks⟩

def ProfileScheduler.dispatches (s : ProfileScheduler) : SchedulerCall → List (String × String)
  | .dispatchPendingTasks currentTime => (s.dispatchPendingTasks currentTime).2
  | _ => []

/- What a finished task must keep. -/
def Task.SameOutcome (task after : Task) : Prop :=
  after.state = task.state ∧ after.currentRetry = task.currentRetry ∧ after.payload = task.payload

/-- The lifecycle law of a run: `enters` is about each call of it, `final` about
any two points of it. -/
structure LifecycleLaw (s : ProfileScheduler) (calls : List SchedulerCall) : Prop where
  enters : ∀ before c rest, calls = before ++ c :: rest → ∀ id task after,
    (run ProfileScheduler.call s before).tasks.get id = some task →
    (run ProfileScheduler.call s (before ++ [c])).tasks.get id = some after →
    after.state.Completed → ¬ task.state.Completed → task.state.Running
  final : ∀ before middle rest, calls = before ++ middle ++ rest → ∀ id task,
    (run ProfileScheduler.call s before).tasks.get id = some task → task.state.Terminal →
    ∃ after, (run ProfileScheduler.call s (before ++ middle)).tasks.get id = some after ∧
      task.SameOutcome after

/-- The results that a task may be given in its present state without breaking
the law: any while it runs, anything but success while it waits, and when it is
finished only those that repeat what it already holds. -/
def Task.Accepts (task : Task) (result : ExecutionResult) : Prop :=
  match task.state with
  | .running _ _ => True
  | .pending => result ≠ .success
  | .completed bytes => (result = .success ∧ bytes = []) ∨ result = .checkpointSaved task.payload
  | .failed reason => result = .checkpointSaved task.payload ∨ result = .immediateFailure reason ∨
      ∃ cause, result = .retryNeeded cause ∧ ¬ task.currentRetry < task.maxRetries ∧
        reason = "Max retries exceeded: " ++ cause

def Admissible (s : ProfileScheduler) : SchedulerCall → Prop
  | .updateTaskProgress taskId result => ∀ task, s.tasks.get taskId = some task →
    task.Accepts result
  | _ => True

/- The law for one row and for one call. -/
def LawfulRow (task after : Task) : Prop :=
  (after.state.Completed → ¬ task.state.Completed → task.state.Running) ∧
  (task.state.Terminal → task.SameOutcome after)

def LawfulCall (s : ProfileScheduler) (c : SchedulerCall) : Prop :=
  ∀ id task, s.tasks.get id = some task →
    ∃ after, (s.call c).tasks.get id = some after ∧ LawfulRow task after

def FreshCall (s : ProfileScheduler) : SchedulerCall → Prop
  | .submitTask taskId _ _ _ _ => s.tasks.get taskId = none
  | _ => True

def submitted : List SchedulerCall → List String :=
  List.filterMap fun
    | .submitTask taskId _ _ _ _ => some taskId
    | _ => none

/-! Rows under one call. -/

theorem submit_get (s : ProfileScheduler) (taskId : String) (kind : TaskType) (payload : Bytes)
    (limit : Nat) (caps : List String) (id : String) :
    (s.call (.submitTask taskId kind payload limit caps)).tasks.get id =
      if id = taskId then some ((Task.new taskId kind payload limit).withCapabilities caps)
      else s.tasks.get id :=
  s.tasks.get_insert _ id

theorem update_get (s : ProfileScheduler) (taskId : String) (result : ExecutionResult)
    (id : String) :
    (s.call (.updateTaskProgress taskId result)).tasks.get id =
      if id = taskId then (s.tasks.get id).map (·.update result) else s.tasks.get id :=
  updateTaskProgress_get s.tasks taskId result id

theorem failure_get (s : ProfileScheduler) (nodeId id : String) :
    (s.call (.handleNodeFailure nodeId)).tasks.get id =
      (s.tasks.get id).map (·.nodeFailure nodeId) :=
  handleNodeFailure_get s.tasks nodeId id

theorem rehash_get (s : ProfileScheduler) (nodes : List NodeProfile) (tasks : List Task)
    (id : String) : (s.call (.rehash nodes tasks)).tasks.get id = s.tasks.get id :=
  s.tasks.get_reorder tasks id

theorem LawfulRow.refl (task : Task) : LawfulRow task task :=
  ⟨fun completed fresh => absurd completed fresh, fun _ => ⟨rfl, rfl, rfl⟩⟩

theorem lawfulRow_of_running {task after : Task} {node : String} {since : Nat}
    (running : task.state = .running node since) : LawfulRow task after := by
  constructor
  · intro _ _
    rw [running]
    trivial
  · intro terminal
    rw [running] at terminal
    cases terminal

theorem lawfulRow_of_pending {task after : Task} (pending : task.state = .pending)
    (open' : ¬ after.state.Completed) : LawfulRow task after := by
  constructor
  · exact fun completed _ => absurd completed open'
  · intro terminal
    rw [pending] at terminal
    cases terminal

theorem update_lawful_iff (task : Task) (result : ExecutionResult) :
    LawfulRow task (task.update result) ↔ task.Accepts result := by
  unfold Task.Accepts
  cases present : task.state with
  | running node since => exact ⟨fun _ => trivial, fun _ => lawfulRow_of_running present⟩
  | pending =>
    cases result with
    | retryNeeded cause =>
      by_cases room : task.currentRetry < task.maxRetries <;>
        simp [LawfulRow, Task.update, present, room]
    | _ => simp [LawfulRow, Task.update, present]
  | completed bytes =>
    cases result with
    | success => simp [LawfulRow, Task.SameOutcome, Task.update, present, eq_comm]
    | retryNeeded cause =>
      by_cases room : task.currentRetry < task.maxRetries <;>
        simp [LawfulRow, Task.SameOutcome, Task.update, present, room]
    | _ => simp [LawfulRow, Task.SameOutcome, Task.update, present]
  | failed reason =>
    cases result with
    | retryNeeded cause =>
      by_cases room : task.currentRetry < task.maxRetries
      · simp [LawfulRow, Task.SameOutcome, Task.update, present, room]
      · have least : task.maxRetries ≤ task.currentRetry := Nat.le_of_not_lt room
        simp [LawfulRow, Task.SameOutcome, Task.update, present, room, eq_comm]
    | _ => simp [LawfulRow, Task.SameOutcome, Task.update, present]

theorem nodeFailure_lawful (nodeId : String) (task : Task) :
    LawfulRow task (task.nodeFailure nodeId) := by
  rcases task.nodeFailure_cases nodeId with ⟨same, _⟩ | ⟨since, running, _⟩
  · rw [same]
    exact LawfulRow.refl task
  · exact lawfulRow_of_running running

theorem lawfulCall_of_unchanged {s : ProfileScheduler} {c : SchedulerCall}
    (same : ∀ id, (s.call c).tasks.get id = s.tasks.get id) : LawfulCall s c :=
  fun id task found => ⟨task, (same id).trans found, LawfulRow.refl task⟩

theorem lawfulCall_iff (s : ProfileScheduler) (c : SchedulerCall) (fresh : FreshCall s c) :
    LawfulCall s c ↔ Admissible s c := by
  cases c with
  | submitTask taskId kind payload limit caps =>
    refine iff_of_true ?_ trivial
    intro id task found
    have other : id ≠ taskId := by
      rintro rfl
      rw [show s.tasks.get id = none from fresh] at found
      cases found
    exact ⟨task, by rw [submit_get, if_neg other, found], LawfulRow.refl task⟩
  | updateTaskProgress taskId result =>
    constructor
    · intro lawful task found
      obtain ⟨after, later, row⟩ := lawful taskId task found
      rw [update_get, if_pos rfl, found] at later
      cases later
      exact (update_lawful_iff task result).mp row
    · intro accepted id task found
      by_cases named : id = taskId
      · subst named
        exact ⟨task.update result, by rw [update_get, if_pos rfl, found]; rfl,
          (update_lawful_iff task result).mpr (accepted task found)⟩
      · exact ⟨task, by rw [update_get, if_neg named, found], LawfulRow.refl task⟩
  | handleNodeFailure nodeId =>
    refine iff_of_true ?_ trivial
    intro id task found
    exact ⟨task.nodeFailure nodeId, by rw [failure_get, found]; rfl, nodeFailure_lawful nodeId task⟩
  | dispatchPendingTasks now =>
    refine iff_of_true ?_ trivial
    intro id task found
    rcases dispatchWith_row found now with later | ⟨pending, node, later⟩
    · exact ⟨task, later, LawfulRow.refl task⟩
    · exact ⟨_, later, lawfulRow_of_pending pending nofun⟩
  | rehash nodes tasks =>
    exact iff_of_true (lawfulCall_of_unchanged (rehash_get s nodes tasks)) trivial
  | _ => exact iff_of_true (lawfulCall_of_unchanged fun _ => rfl) trivial

theorem call_keeps_row (s : ProfileScheduler) (c : SchedulerCall) {id : String} {task : Task}
    (found : s.tasks.get id = some task) : ∃ after, (s.call c).tasks.get id = some after := by
  cases c with
  | submitTask taskId kind payload limit caps =>
    by_cases named : id = taskId
    · exact ⟨_, by rw [submit_get, if_pos named]⟩
    · exact ⟨task, by rw [submit_get, if_neg named, found]⟩
  | updateTaskProgress taskId result =>
    by_cases named : id = taskId
    · exact ⟨_, by rw [update_get, if_pos named, found]; rfl⟩
    · exact ⟨task, by rw [update_get, if_neg named, found]⟩
  | handleNodeFailure nodeId => exact ⟨_, by rw [failure_get, found]; rfl⟩
  | dispatchPendingTasks now =>
    rcases dispatchWith_row found now with later | ⟨_, node, later⟩
    · exact ⟨task, later⟩
    · exact ⟨_, later⟩
  | rehash nodes tasks => exact ⟨task, (rehash_get s nodes tasks id).trans found⟩
  | _ => exact ⟨task, found⟩

theorem call_get_none (s : ProfileScheduler) (c : SchedulerCall) {id : String}
    (other : id ∉ submitted [c]) (absent : s.tasks.get id = none) :
    (s.call c).tasks.get id = none := by
  cases c with
  | submitTask taskId kind payload limit caps =>
    have named : id ≠ taskId := by simpa [submitted] using other
    rw [submit_get, if_neg named, absent]
  | updateTaskProgress taskId result => rw [update_get, absent]; split <;> rfl
  | handleNodeFailure nodeId => rw [failure_get, absent]; rfl
  | dispatchPendingTasks now => exact dispatchWith_absent absent now
  | rehash nodes tasks => exact (rehash_get s nodes tasks id).trans absent
  | _ => exact absent

theorem submitted_cons (c : SchedulerCall) (rest : List SchedulerCall) :
    submitted (c :: rest) = submitted [c] ++ submitted rest := by
  simp only [submitted, ← List.filterMap_append, List.singleton_append]

theorem fresh_along {s : ProfileScheduler} {calls : List SchedulerCall}
    (distinct : (submitted calls).Nodup) (new : ∀ id ∈ submitted calls, s.tasks.get id = none) :
    Along ProfileScheduler.call FreshCall s calls := by
  induction calls generalizing s with
  | nil => trivial
  | cons c rest ih =>
    rw [submitted_cons] at distinct new
    have parts := List.nodup_append.mp distinct
    constructor
    · cases c with
      | submitTask taskId kind payload limit caps =>
        exact new taskId (List.mem_append_left _ (by simp [submitted]))
      | _ => trivial
    · apply ih parts.2.1
      intro id member
      apply call_get_none s c
      · exact fun here => parts.2.2 id here id member rfl
      · exact new id (List.mem_append_right _ member)

def KeepsOutcomes (s t : ProfileScheduler) : Prop :=
  ∀ id task, s.tasks.get id = some task → task.state.Terminal →
    ∃ after, t.tasks.get id = some after ∧ task.SameOutcome after

theorem KeepsOutcomes.trans {s t u : ProfileScheduler} (first : KeepsOutcomes s t)
    (second : KeepsOutcomes t u) : KeepsOutcomes s u := by
  intro id task found terminal
  obtain ⟨middle, later, same⟩ := first id task found terminal
  obtain ⟨after, last, again⟩ := second id middle later (by rw [same.1]; exact terminal)
  exact ⟨after, last, again.1.trans same.1, again.2.1.trans same.2.1, again.2.2.trans same.2.2⟩

theorem lifecycleLaw_iff_along (s : ProfileScheduler) (calls : List SchedulerCall) :
    LifecycleLaw s calls ↔ Along ProfileScheduler.call LawfulCall s calls := by
  constructor
  · intro law
    apply (along_iff_split s calls).mpr
    intro before c rest split id task found
    obtain ⟨after, later⟩ := call_keeps_row _ c found
    have later' : (run ProfileScheduler.call s (before ++ [c])).tasks.get id = some after := by
      rwa [run_append]
    refine ⟨after, later, law.enters before c rest split id task after found later', ?_⟩
    intro terminal
    obtain ⟨last, there, same⟩ := law.final before [c] rest (by simp [split]) id task found terminal
    rw [later'] at there
    cases there
    exact same
  · intro along
    constructor
    · intro before c rest split id task after found later
      obtain ⟨row, there, lawful⟩ :=
        (along_iff_split s calls).mp along before c rest split id task found
      rw [run_append] at later
      cases later.symm.trans there
      exact lawful.1
    · intro before middle rest split
      rw [split, List.append_assoc, along_append, along_append] at along
      have kept := run_relation_along KeepsOutcomes
        (fun _ _ task found _ => ⟨task, found, rfl, rfl, rfl⟩) KeepsOutcomes.trans
        (fun s c lawful id task found terminal => by
          obtain ⟨after, later, row⟩ := lawful id task found
          exact ⟨after, later, row.2 terminal⟩) along.2.1
      rw [run_append]
      exact kept

/-- A run of the scheduler keeps the lifecycle law exactly when every result
handed to `update_task_progress` is one that the task accepts in its state then. -/
theorem lifecycle_law_iff_admissible (registry : EphemeralRegistry) (calls : List SchedulerCall)
    (distinct : (submitted calls).Nodup) :
    LifecycleLaw (ProfileScheduler.new registry) calls ↔
      Along ProfileScheduler.call Admissible (ProfileScheduler.new registry) calls := by
  rw [lifecycleLaw_iff_along]
  exact along_congr lawfulCall_iff (fresh_along distinct fun _ _ => rfl)

/-- A dispatched task that completes, and a success that is reported again. -/
theorem repeated_success_keeps_the_lifecycle :
    LifecycleLaw (ProfileScheduler.new .new)
      [.registerNode ⟨"n", "linux", [], 0, ""⟩, .submitTask "t" .statefulLongRunning [1] 2 [],
        .dispatchPendingTasks 7, .updateTaskProgress "t" (.checkpointSaved [2]),
        .updateTaskProgress "t" .success, .updateTaskProgress "t" .success,
          .handleNodeFailure "n"] := by
  apply (lifecycle_law_iff_admissible .new _ (by decide)).mpr
  refine ⟨trivial, trivial, trivial, ?_, ?_, ?_, trivial, trivial⟩
  · intro task found
    cases found
    exact trivial
  · intro task found
    cases found
    exact trivial
  · intro task found
    cases found
    exact Or.inl ⟨rfl, rfl⟩

/-- A success reported for a queued task completes it, and a retry then
queues the completed task again. -/
theorem late_results_break_the_lifecycle :
    ¬ LifecycleLaw (ProfileScheduler.new .new)
      [.submitTask "t" .statelessIdempotent [] 1 [], .updateTaskProgress "t" .success,
        .updateTaskProgress "t" (.retryNeeded "late")] := by
  intro law
  have queued := law.enters [.submitTask "t" .statelessIdempotent [] 1 []]
    (.updateTaskProgress "t" .success) [.updateTaskProgress "t" (.retryNeeded "late")] rfl
    "t" _ _ rfl rfl trivial nofun
  cases queued

end SeamlessSwarm
