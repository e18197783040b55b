import SeamlessSwarm.Interactive
import SeamlessSwarm.Placement
import SeamlessSwarm.Turns

/-! Placement against the scheduling policy. A pass looks at the capabilities of a
node alone, and `schedule_task` at when it was last seen. -/
namespace SeamlessSwarm

def PolicyAccepts (registry : EphemeralRegistry) (task : Task) (nodeId : String) : Prop :=
  scheduleTask registry task nodeId = .success ∨
    ∃ checkpoint, scheduleTask registry task nodeId = .checkpointSaved checkpoint

/-- Whatever the iteration orders, the policy accepts each placement of the next pass. -/
def PlacementsAccepted (s : ProfileScheduler) : Prop :=
  ∀ nodes tasks now id node, (id, node) ∈ (s.passIn nodes tasks now).2 →
    ∀ task, s.tasks.get id = some task → PolicyAccepts s.registry task node

/-- The least `last_seen` with which a node is not too laggy for a task. -/
def leastSeen : TaskType → Nat
  | .statelessIdempotent => 1000
  | .statefulLongRunning => 0
  | .interactiveLowLatency => 500

def ServersSeen (s : ProfileScheduler) : Prop :=
  ∀ id task, s.tasks.get id = some task → task.state = .pending →
    ∀ n ∈ s.registry.listNodes, Carries n task → leastSeen task.taskType ≤ n.lastSeen

theorem policyAccepts_iff {registry : EphemeralRegistry} {task : Task} {n : NodeProfile}
    (registered : n ∈ registry.listNodes) :
    PolicyAccepts registry task n.nodeId ↔ leastSeen task.taskType ≤ n.lastSeen := by
  have found : registry.getNode n.nodeId = some n := (registry.mem_iff_get n).mp registered
  simp only [PolicyAccepts, scheduleTask, found]
  cases task.taskType with
  | statelessIdempotent =>
    by_cases laggy : n.lastSeen < 1000
    · simp [leastSeen, laggy]
    · simp [leastSeen, laggy, Nat.le_of_not_lt laggy]
  | statefulLongRunning => simp [leastSeen]
  | interactiveLowLatency =>
    by_cases laggy : n.lastSeen < 500
    · simp [leastSeen, laggy]
    · simp [leastSeen, laggy, Nat.le_of_not_lt laggy]

theorem placed_first {s : ProfileScheduler} {id : String} {task : Task} {n : NodeProfile}
    (found : s.tasks.get id = some task) (pending : task.state = .pending)
    (registered : n ∈ s.registry.rows) (carries : Carries n task) (now : Nat) :
    (id, n.nodeId) ∈
      (s.passIn (n :: s.registry.rows.erase n) (task :: s.tasks.rows.erase task) now).2 := by
  have nodes := s.registry.reorder_rows (List.perm_cons_erase registered).symm
  have tasks := s.tasks.reorder_rows (List.perm_cons_erase (s.tasks.mem_of_get found)).symm
  have first : capable (n :: s.registry.rows.erase n) task =
      n :: capable (s.registry.rows.erase n) task := by
    simp [capable, matches_iff_carries.mpr carries]
  have falls : turnNode (n :: s.registry.rows.erase n) (task, 0) = some n := by
    rw [turnNode, first]
    simp [Rotation.turn]
  rw [← nodes] at falls
  apply (mem_dispatches_iff _ _ now id n.nodeId).mpr
  exact ⟨[], task, _, n, tasks, Keyed.Table.key_of_get found, pending, falls, rfl⟩

/-- Every placement is accepted by the policy exactly when every node that can serve
a pending task was seen late enough for its type. -/
theorem placements_accepted_iff_servers_seen (s : ProfileScheduler) :
    PlacementsAccepted s ↔ ServersSeen s := by
  constructor
  · intro accepted id task found pending n registered carries
    have placement := accepted _ _ 0 id n.nodeId (placed_first found pending registered carries 0)
    exact (policyAccepts_iff registered).mp (placement task found)
  · intro seen nodes tasks now id node placement task found
    obtain ⟨_, n, same, pending, member, named, fits, _⟩ := ticket_placed placement
    rw [rehash_get, found] at same
    cases same
    have registered := (s.registry.reorder_perm nodes).mem_iff.mp member
    rw [← named]
    apply (policyAccepts_iff registered).mpr
    exact seen id task found pending n registered (matches_iff_carries.mp fits)

section Example

private def laggyNode : NodeProfile := ⟨"studio-node-2", "linux", [], 300, ""⟩

private def laggySwarm : ProfileScheduler :=
  (ProfileScheduler.new (EphemeralRegistry.new.registerNode laggyNode)).submitTask
    (Task.new "stateless-01" .statelessIdempotent [1, 2, 3] 3)

/-- A stateless task goes to a node last seen at 300, where the policy has it retried. -/
theorem laggy_node_is_given_a_task : ¬ PlacementsAccepted laggySwarm := by
  intro accepted
  have placement := accepted [] [] 7 "stateless-01" "studio-node-2" (by decide)
    (Task.new "stateless-01" .statelessIdempotent [1, 2, 3] 3) (by decide)
  rcases placement with success | ⟨checkpoint, saved⟩
  · revert success
    decide
  · cases saved

end Example

end SeamlessSwarm
