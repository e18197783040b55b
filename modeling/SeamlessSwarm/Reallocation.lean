import SeamlessSwarm.Lifecycle
import SeamlessSwarm.Turns

/-! Where a retried task goes. A pass picks the node of a task by its turn alone:
the node that the task has just failed on is not remembered. -/
namespace SeamlessSwarm
open Trace

/-- The call sends a task back to the queue that was running on `n`. -/
structure Requeues (s : ProfileScheduler) (c : SchedulerCall) (id n : String) : Prop where
  cause : c = .handleNodeFailure n ∨ ∃ reason, c = .updateTaskProgress id (.retryNeeded reason)
  ran : ∃ task since, s.tasks.get id = some task ∧ task.state = .running n since
  waits : ∃ task, (s.call c).tasks.get id = some task ∧ task.state = .pending

/- The call leaves the task in the queue: it is neither submitted anew nor dispatched. -/
def Undispatched (id : String) (s : ProfileScheduler) (c : SchedulerCall) : Prop :=
  id ∉ submitted [c] ∧ id ∉ (s.dispatches c).map Prod.fst

/-- A pass at time `now` in state `here` of the run is the first one that can place
a task again after it was sent back from `n`. -/
def RetryPass (s : ProfileScheduler) (calls : List SchedulerCall) (id n : String) (now : Nat)
    (here : ProfileScheduler) : Prop :=
  ∃ before c middle after, calls = before ++ c :: (middle ++ .dispatchPendingTasks now :: after) ∧
    Requeues (run ProfileScheduler.call s before) c id n ∧
    Along ProfileScheduler.call (Undispatched id)
      (run ProfileScheduler.call s (before ++ [c])) middle ∧
    here = run ProfileScheduler.call s (before ++ c :: middle)

def AnotherNode (s : ProfileScheduler) (n : String) (task : Task) : Prop :=
  ∃ other ∈ s.registry.listNodes, other.nodeId ≠ n ∧
    nodeMatchesCapabilities other task.requiredCapabilities = true

def RetriesElsewhere (s : ProfileScheduler) (calls : List SchedulerCall) : Prop :=
  ∀ id n now here, RetryPass s calls id n now here → ∀ task, here.tasks.get id = some task →
    AnotherNode here n task → ∀ node, (id, node) ∈ (here.dispatchPendingTasks now).2 → node ≠ n

/-- The number of tasks that the pass places before the retried one is not, modulo
the number of nodes capable of it, the place of `n` among these nodes. -/
def TurnsElsewhere (s : ProfileScheduler) (calls : List SchedulerCall) : Prop :=
  ∀ id n now here, RetryPass s calls id n now here →
    ∀ before task after, here.tasks.rows = before ++ task :: after → task.taskId = id →
    task.state = .pending → AnotherNode here n task →
    ∀ i profile, (capable here.registry.listNodes task)[i]? = some profile → profile.nodeId = n →
    placedBefore here.registry.listNodes before % (capable here.registry.listNodes task).length ≠ i

theorem dispatch_turn (s : ProfileScheduler) (now : Nat) (id node : String) :
    (id, node) ∈ (s.dispatchPendingTasks now).2 ↔
      ∃ before task after profile, s.tasks.rows = before ++ task :: after ∧ task.taskId = id ∧
        task.state = .pending ∧
        (capable s.registry.listNodes task)[placedBefore s.registry.listNodes before %
          (capable s.registry.listNodes task).length]? = some profile ∧ profile.nodeId = node :=
  mem_dispatches_iff s.registry.listNodes s.tasks now id node

/-- In a run every retried task goes to another node than the one it failed on,
if one can take it, exactly when its turn never falls on that node again. -/
theorem retries_elsewhere_iff_turns_elsewhere (s : ProfileScheduler) (calls : List SchedulerCall) :
    RetriesElsewhere s calls ↔ TurnsElsewhere s calls := by
  constructor
  · intro law id n now here pass before task after split named pending another i profile
      place same turn
    subst turn
    have stored : here.tasks.get id = some task :=
      (here.tasks.get_eq_some_iff id task).mpr ⟨by rw [split]; simp, named⟩
    have dispatched : (id, n) ∈ (here.dispatchPendingTasks now).2 :=
      (dispatch_turn here now id n).mpr ⟨before, task, after, profile, split, named, pending,
        place, same⟩
    exact law id n now here pass task stored another n dispatched rfl
  · intro turns id n now here pass task stored another node dispatched same
    subst same
    obtain ⟨before, row, after, profile, split, named, pending, place, target⟩ :=
      (dispatch_turn here now id node).mp dispatched
    have found : here.tasks.get id = some row :=
      (here.tasks.get_eq_some_iff id row).mpr ⟨by rw [split]; simp, named⟩
    cases stored.symm.trans found
    exact turns id node now here pass before task after split named pending another _ profile place
      target rfl

section Example

private def peers : EphemeralRegistry :=
  (EphemeralRegistry.new.registerNode ⟨"a", "linux", [], 0, ""⟩).registerNode
    ⟨"b", "linux", [], 0, ""⟩

private def laggyRun : List SchedulerCall :=
  [.submitTask "t" .statelessIdempotent [] 3 [], .dispatchPendingTasks 7,
    .updateTaskProgress "t" (.retryNeeded "Node communication laggy. Retrying on another node.")]

/-- Each pass gives its first task to the first node, so also the retry. -/
theorem retry_returns_to_its_node :
    ¬ RetriesElsewhere (ProfileScheduler.new peers) (laggyRun ++ [.dispatchPendingTasks 8]) := by
  intro law
  have pass : RetryPass (ProfileScheduler.new peers)
      (laggyRun ++ [.dispatchPendingTasks 8]) "t" "b" 8
      (run ProfileScheduler.call (ProfileScheduler.new peers) laggyRun) := by
    refine ⟨laggyRun.take 2, _, [], [], rfl, ⟨Or.inr ⟨_, rfl⟩, ⟨_, 7, rfl, rfl⟩, ⟨_, rfl, rfl⟩⟩,
      trivial, rfl⟩
  apply law "t" "b" 8 _ pass _ rfl _ "b" (by decide) rfl
  exact ⟨⟨"a", "linux", [], 0, ""⟩, by decide, by decide, by decide⟩

end Example

end SeamlessSwarm
