import SeamlessSwarm.Lifecycle

/-! Evictions and the tasks of the evicted nodes. The registry drops a node by its
last heartbeat alone, and the scheduler that shares it is told nothing. -/
namespace SeamlessSwarm
open Trace

/-- What recovery asks of one call: a node that an eviction removes has no running
task left, and each task that ran there went through its recovery. -/
structure EvictionRecovers (s : ProfileScheduler) (c : SchedulerCall) : Prop where
  idle : ∀ now threshold, c = .evictOfflineNodes now threshold → ∀ node profile,
    s.registry.get node = some profile → (s.call c).registry.get node = none →
    ∀ id task since, (s.call c).tasks.get id = some task → task.state ≠ .running node since
  recovered : ∀ now threshold, c = .evictOfflineNodes now threshold → ∀ node profile,
    s.registry.get node = some profile → (s.call c).registry.get node = none →
    ∀ id task since, s.tasks.get id = some task → task.state = .running node since →
    (s.call c).tasks.get id = some (task.nodeFailure node)

def EvictionsRecover (s : ProfileScheduler) (calls : List SchedulerCall) : Prop :=
  ∀ before c after, calls = before ++ c :: after →
    EvictionRecovers (run ProfileScheduler.call s before) c

/-- Every registered node that a task is running on was seen less than the threshold ago. -/
def BusyNodesSeen (s : ProfileScheduler) : SchedulerCall → Prop
  | .evictOfflineNodes now threshold => ∀ id task node since profile,
    s.tasks.get id = some task → task.state = .running node since →
    s.registry.get node = some profile → now < profile.lastSeen + threshold
  | _ => True

theorem evict_registry (s : ProfileScheduler) (now threshold : Nat) (node : String) :
    (s.call (.evictOfflineNodes now threshold)).registry.get node =
      (s.registry.get node).filter fun profile => decide (now < profile.lastSeen + threshold) :=
  evictOfflineNodes_get s.registry now threshold node

theorem evict_tasks (s : ProfileScheduler) (now threshold : Nat) :
    (s.call (.evictOfflineNodes now threshold)).tasks = s.tasks := rfl

theorem evicted_iff {s : ProfileScheduler} {node : String} {profile : NodeProfile}
    (registered : s.registry.get node = some profile) (now threshold : Nat) :
    (s.call (.evictOfflineNodes now threshold)).registry.get node = none ↔
      ¬ now < profile.lastSeen + threshold := by
  rw [evict_registry, registered]
  by_cases recent : now < profile.lastSeen + threshold
  · simp [recent]
  · simp [recent, Nat.le_of_not_lt recent]

theorem evictionRecovers_iff (s : ProfileScheduler) (c : SchedulerCall) :
    EvictionRecovers s c ↔ BusyNodesSeen s c := by
  cases c with
  | evictOfflineNodes now threshold =>
    constructor
    · intro law id task node since profile found running registered
      by_contra late
      have gone := (evicted_iff registered now threshold).mpr late
      exact law.idle now threshold rfl node profile registered gone id task since found running
    · intro seen
      have unused : ∀ node profile, s.registry.get node = some profile →
          (s.call (.evictOfflineNodes now threshold)).registry.get node = none →
          ∀ id task since, s.tasks.get id = some task → task.state ≠ .running node since := by
        intro node profile registered gone id task since found running
        have late := (evicted_iff registered now threshold).mp gone
        exact late (seen id task node since profile found running registered)
      constructor
      · intro _ _ _ node profile registered gone id task since found
        rw [evict_tasks] at found
        exact unused node profile registered gone id task since found
      · intro _ _ _ node profile registered gone id task since found running
        exact absurd running (unused node profile registered gone id task since found)
  | _ => exact iff_of_true ⟨nofun, nofun⟩ trivial

/-- The evictions of a run leave no task on a removed node exactly when none of
them comes while a task runs on a node not seen within the threshold. -/
theorem evictions_recover_iff_busy_nodes_seen (s : ProfileScheduler) (calls : List SchedulerCall) :
    EvictionsRecover s calls ↔ Along ProfileScheduler.call BusyNodesSeen s calls := by
  rw [along_iff_split]
  constructor
  · intro law before c after split
    exact (evictionRecovers_iff _ c).mp (law before c after split)
  · intro seen before c after split
    exact (evictionRecovers_iff _ c).mpr (seen before c after split)

theorem evicted_node_keeps_its_task :
    ¬ EvictionsRecover (ProfileScheduler.new .new)
      [.registerNode ⟨"n", "linux", [], 10, ""⟩, .submitTask "t" .statelessIdempotent [] 3 [],
        .dispatchPendingTasks 11, .evictOfflineNodes 15 5] := by
  intro law
  have eviction := law [.registerNode ⟨"n", "linux", [], 10, ""⟩,
    .submitTask "t" .statelessIdempotent [] 3 [], .dispatchPendingTasks 11]
    (.evictOfflineNodes 15 5) [] rfl
  exact eviction.idle 15 5 rfl "n" ⟨"n", "linux", [], 10, ""⟩ rfl rfl "t" _ 11 rfl rfl

end SeamlessSwarm
