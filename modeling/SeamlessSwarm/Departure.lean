import SeamlessSwarm.Passes

/-! Dispatch passes and the cleanup after a node that departs. A pass reads the
node list and assigns under different locks, so the cleanup can fall between the two
and the pass then places tasks on a node that is gone. -/
namespace SeamlessSwarm
open Trace

/-- A run in which `n` departs: it is unregistered, then its tasks are given back,
and it does not register again. -/
structure Departure (n : String) where
  before : List HubStep
  between : List HubStep
  rest : List HubStep
  away : ∀ profile, .call (.registerNode profile) ∈ between ++ rest → profile.nodeId ≠ n

namespace Departure
variable {n : String}

def unregistered (d : Departure n) : List HubStep := d.before ++ [.call (.unregisterNode n)]

def cleaned (d : Departure n) : List HubStep :=
  d.unregistered ++ d.between ++ [.call (.handleNodeFailure n)]

def steps (d : Departure n) : List HubStep := d.cleaned ++ d.rest

end Departure

/-- The call of `dispatch_pending_tasks` in this pass has returned. -/
def Pass.Returned : Pass → Prop
  | .entered _ | .listed _ _ => False
  | _ => True

def NoneOn (n : String) (tasks : TaskTable) : Prop :=
  ∀ id task, tasks.get id = some task → ∀ since, task.state ≠ .running n since

section Law
variable (prost : Prost) (registry : EphemeralRegistry) {n : String}

/-- Once all passes have assigned, no task runs on the departed node. -/
def NoneStranded (d : Departure n) : Prop :=
  (∀ pass ∈ (hubAfter prost registry d.steps).passes, pass.Returned) →
    NoneOn n (hubAfter prost registry d.steps).scheduler.tasks

end Law

/-- A pass that had listed `n` when it left does not assign while a task waits
that `n` could take. -/
def NotOvertaken (n : String) (left hub : Hub) (s : HubStep) : Prop :=
  ∀ i now nodes, s = .assign i → left.passes[i]? = some (.listed now nodes) →
    hub.passes[i]? = some (.listed now nodes) →
    ∀ node ∈ nodes, node.nodeId = n → ∀ task ∈ hub.scheduler.tasks.rows, ¬ Dispatchable [node] task

/-- For some iteration orders of the listed nodes and of the tasks, this step
leaves a task running on `n`. -/
def Strands (n : String) (hub : Hub) (s : HubStep) : Prop :=
  ∃ i now nodes, s = .assign i ∧ hub.passes[i]? = some (.listed now nodes) ∧
    ∃ nodes' rows, nodes'.Perm nodes ∧ rows.Perm hub.scheduler.tasks.rows ∧
      ¬ NoneOn n (dispatchWith nodes' (hub.scheduler.tasks.reorder rows) now).1

/-! Calls and assignments that put nothing on a node. -/

theorem update_running {task : Task} {result : ExecutionResult} {n : String} {since : Nat}
    (running : (task.update result).state = .running n since) : task.state = .running n since := by
  cases result with
  | success => cases running
  | checkpointSaved bytes => exact running
  | immediateFailure reason => cases running
  | retryNeeded reason =>
    unfold Task.update at running
    dsimp only at running
    split at running <;> cases running

theorem nodeFailure_running {task : Task} {nodeId n : String} {since : Nat}
    (running : (task.nodeFailure nodeId).state = .running n since) :
    task.state = .running n since ∧ nodeId ≠ n := by
  rcases task.nodeFailure_cases nodeId with ⟨same, elsewhere⟩ | ⟨_, _, ⟨_, _, after⟩ | ⟨_, after⟩⟩
  · rw [same] at running
    exact ⟨running, fun named => elsewhere since (named ▸ running)⟩
  · rw [after] at running
    cases running
  · rw [after] at running
    cases running

theorem noneOn_call {s : ProfileScheduler} {c : SchedulerCall} {n : String}
    (noPass : ∀ time, c ≠ .dispatchPendingTasks time) (clear : NoneOn n s.tasks) :
    NoneOn n (s.call c).tasks := by
  intro id task found since running
  cases c with
  | submitTask taskId kind payload limit caps =>
    rw [submit_get] at found
    split at found
    · cases found
      cases running
    · exact clear id task found since running
  | updateTaskProgress taskId result =>
    rw [update_get] at found
    split at found
    · obtain ⟨old, there, rfl⟩ := Option.map_eq_some_iff.mp found
      exact clear id old there since (update_running running)
    · exact clear id task found since running
  | handleNodeFailure nodeId =>
    rw [failure_get] at found
    obtain ⟨old, there, rfl⟩ := Option.map_eq_some_iff.mp found
    exact clear id old there since (nodeFailure_running running).1
  | dispatchPendingTasks time => exact noPass time rfl
  | rehash nodes tasks =>
    exact clear id task ((rehash_get s nodes tasks id).symm.trans found) since running
  | _ => exact clear id task found since running

theorem noneOn_cleanup (s : ProfileScheduler) (n : String) :
    NoneOn n (s.call (.handleNodeFailure n)).tasks := by
  intro id task found since running
  rw [failure_get] at found
  obtain ⟨old, _, rfl⟩ := Option.map_eq_some_iff.mp found
  exact (nodeFailure_running running).2 rfl

theorem noneOn_assign {nodes : List NodeProfile} {tasks : TaskTable} {now : Nat} {n : String}
    (clear : NoneOn n tasks)
    (unable : ∀ node ∈ nodes, node.nodeId = n → ∀ task ∈ tasks.rows, ¬ Dispatchable [node] task) :
    NoneOn n (dispatchWith nodes tasks now).1 := by
  intro id task found since running
  have fate := dispatchWith_fate nodes tasks now id
  generalize before : tasks.get id = row at fate
  cases fate with
  | absent later _ => cases found.symm.trans later
  | kept _ _ later _ =>
    cases found.symm.trans later
    exact clear id task before since running
  | placed old node pending member fits later _ =>
    cases found.symm.trans later
    cases running
    exact unable node member rfl old (Keyed.Table.mem_of_get before)
      ⟨pending, node, List.mem_singleton_self node, fits⟩

theorem strands_first {nodes : List NodeProfile} {tasks : TaskTable} {node : NodeProfile}
    {task : Task}
    (now : Nat) (listed : node ∈ nodes) (stored : task ∈ tasks.rows)
    (able : Dispatchable [node] task) :
    ∃ nodes' rows, nodes'.Perm nodes ∧ rows.Perm tasks.rows ∧
      ¬ NoneOn node.nodeId (dispatchWith nodes' (tasks.reorder rows) now).1 := by
  have nodesPerm := (List.perm_cons_erase listed).symm
  have rowsPerm := (List.perm_cons_erase stored).symm
  refine ⟨node :: nodes.erase node, task :: tasks.rows.erase task, nodesPerm, rowsPerm, ?_⟩
  obtain ⟨pending, other, single, fits⟩ := able
  cases List.mem_singleton.mp single
  intro clear
  have order : (tasks.reorder (task :: tasks.rows.erase task)).rows = task ::
      tasks.rows.erase task := by
    simp only [Keyed.Table.reorder, rowsPerm, dif_pos]
  have head : capable (node :: nodes.erase node) task = node :: capable
      (nodes.erase node) task := by
    simp only [capable, List.filter_cons, fits, if_true]
  have placed : { task with state := .running node.nodeId now } ∈
      (dispatchWith (node :: nodes.erase node) (tasks.reorder (task :: tasks.rows.erase task))
        now).1.rows := by
    simp [dispatchWith, Keyed.Table.withRows, order, dispatchLoop, pending, head]
  exact clear task.taskId _ ((Keyed.Table.get_eq_some_iff _ _ _).mpr ⟨placed, rfl⟩) now rfl

/-! After the node left, only the passes that had listed it can still place tasks on it. -/

def StaysAway (n : String) (_ : Hub) (s : HubStep) : Prop :=
  ∀ profile, s = .call (.registerNode profile) → profile.nodeId ≠ n

theorem registry_call {s : ProfileScheduler} {c : SchedulerCall} {n : String}
    (away : ∀ profile, c = .registerNode profile → profile.nodeId ≠ n)
    (gone : s.registry.get n = none) : (s.call c).registry.get n = none := by
  cases c with
  | registerNode profile =>
    have other : n ≠ profile.nodeId := fun same => away profile rfl same.symm
    exact (s.registry.get_insert_ne profile other).trans gone
  | unregisterNode nodeId =>
    refine (s.registry.get_retain _ n).trans ?_
    rw [gone, Option.filter_none]
  | evictOfflineNodes now threshold =>
    refine (s.registry.get_retain _ n).trans ?_
    rw [gone, Option.filter_none]
  | rehash nodes tasks => exact (s.registry.get_reorder nodes n).trans gone
  | _ => exact gone

theorem registry_step (prost : Prost) {hub : Hub} {s : HubStep} {n : String}
    (away : StaysAway n hub s) (gone : hub.scheduler.registry.get n = none) :
    (hub.step prost s).scheduler.registry.get n = none := by
  have stepped := hub_stepped prost hub s
  generalize hub.step prost s = hub' at stepped
  cases stepped with
  | called c _ => exact registry_call (fun profile same => away profile (by rw [same])) gone
  | _ => exact gone

/-- The node is gone, and each pass that still lists it did so before it left. -/
structure Gone (n : String) (left hub : Hub) : Prop where
  absent : hub.scheduler.registry.get n = none
  listed : ∀ (i now : Nat) (nodes : List NodeProfile), hub.passes[i]? = some (.listed now nodes) →
    (∃ node ∈ nodes, node.nodeId = n) → left.passes[i]? = some (.listed now nodes)

theorem gone_step (prost : Prost) {n : String} {left hub : Hub} {s : HubStep}
    (gone : Gone n left hub) (away : StaysAway n hub s) : Gone n left (hub.step prost s) := by
  refine ⟨registry_step prost away gone.absent, ?_⟩
  intro i now nodes here lists
  rcases listed_step prost here with old | ⟨_, same⟩
  · exact gone.listed i now nodes old lists
  · obtain ⟨node, member, rfl⟩ := lists
    rw [same] at member
    have row := (hub.scheduler.registry.mem_iff_get node).mp member
    cases row.symm.trans gone.absent

structure Cleared (n : String) (left hub : Hub) : Prop where
  gone : Gone n left hub
  clear : NoneOn n hub.scheduler.tasks

theorem cleared_step (prost : Prost) {n : String} {left : Hub} (hub : Hub) (s : HubStep)
    (inv : Cleared n left hub) (step : NotOvertaken n left hub s ∧ StaysAway n hub s) :
    Cleared n left (hub.step prost s) := by
  refine ⟨gone_step prost inv.gone step.2, ?_⟩
  have stepped := hub_stepped prost hub s
  generalize hub.step prost s = hub' at stepped
  cases stepped with
  | called c noPass => exact noneOn_call noPass inv.clear
  | assigned i now nodes here =>
    apply noneOn_assign inv.clear
    intro node member named
    have listed := inv.gone.listed i now nodes here ⟨node, member, named⟩
    exact step.1 i now nodes rfl listed here node member named
  | _ => exact inv.clear

section Law
variable (prost : Prost) (registry : EphemeralRegistry) {n : String}

theorem cleared_cleaned (d : Departure n) :
    Cleared n (hubAfter prost registry d.before) (hubAfter prost registry d.cleaned) := by
  have left : Gone n (hubAfter prost registry d.before)
      (hubAfter prost registry d.unregistered) := by
    rw [Departure.unregistered, hubAfter_snoc]
    exact ⟨Keyed.Table.get_remove_self _ n, fun i now nodes here _ => here⟩
  have away : Along (Hub.step prost) (StaysAway n) (hubAfter prost registry d.unregistered)
      d.between :=
    along_of_mem fun s member _ profile same =>
      d.away profile (List.mem_append_left _ (same ▸ member))
  have ready := run_invariant_along (fun _ _ => gone_step prost) left away
  rw [← hubAfter_append] at ready
  rw [Departure.cleaned, hubAfter_snoc]
  exact ⟨gone_step prost ready nofun, noneOn_cleanup _ n⟩

/-- If no pass that had listed the departed node assigns after the cleanup while a
task waits that the node could take, no task runs on the node in any later state. Any
other assignment of such a pass strands a task there for some iteration orders. -/
theorem none_stranded_unless_overtaken (d : Departure n) :
    (Along (Hub.step prost) (NotOvertaken n (hubAfter prost registry d.before))
        (hubAfter prost registry d.cleaned) d.rest →
      NoneStranded prost registry d ∧
        ∀ part, part <+: d.rest →
          NoneOn n (hubAfter prost registry (d.cleaned ++ part)).scheduler.tasks) ∧
    ∀ hub s, ¬ NotOvertaken n (hubAfter prost registry d.before) hub s → Strands n hub s := by
  refine ⟨fun inTime => ?_, ?_⟩
  · have away : Along (Hub.step prost) (StaysAway n) (hubAfter prost registry d.cleaned) d.rest :=
      along_of_mem fun s member _ profile same =>
        d.away profile (List.mem_append_right _ (same ▸ member))
    have every : ∀ part, part <+: d.rest →
        NoneOn n (hubAfter prost registry (d.cleaned ++ part)).scheduler.tasks := by
      rintro part ⟨later, split⟩
      have along := along_and inTime away
      rw [← split, along_append] at along
      have kept := run_invariant_along (cleared_step prost)
        (cleared_cleaned prost registry d) along.1
      rw [hubAfter_append]
      exact kept.clear
    exact ⟨fun _ => every d.rest (List.prefix_refl _), every⟩
  · intro hub s overtaken
    simp only [NotOvertaken, not_forall, not_not] at overtaken
    obtain ⟨i, now, nodes, assign, _, here, node, listed, rfl, task, stored, able⟩ := overtaken
    exact ⟨i, now, nodes, assign, here, strands_first now listed stored able⟩

end Law

section Example

/-- The pass reads the node list while `n` is there, the cleanup runs, and the
pass assigns. -/
private def overtaken : Departure "n" where
  before := [.call (.registerNode ⟨"n", "linux", [], 0, ""⟩),
    .call (.submitTask "t" .statelessIdempotent [] 3 []), .enter 1, .listNodes 0]
  between := []
  rest := [.assign 0]
  away := by simp

theorem overtaken_pass_strands_task : ¬ NoneStranded topology .new overtaken := by
  intro law
  have returned : ∀ pass ∈ (hubAfter topology .new overtaken.steps).passes, pass.Returned := by
    intro pass member
    cases List.mem_singleton.mp member
    trivial
  exact law returned "t" _ rfl 1 rfl

private def inTime : Departure "n" :=
  { overtaken with
    between := [.assign 0]
    rest := [.enter 2, .listNodes 1, .assign 1]
    away := by simp }

theorem none_stranded_in_time :
    NoneStranded topology .new inTime ∧ ∀ part, part <+: inTime.rest →
      NoneOn "n" (hubAfter topology .new (inTime.cleaned ++ part)).scheduler.tasks := by
  refine (none_stranded_unless_overtaken topology .new inTime).1 ⟨nofun, nofun, ?_, trivial⟩
  intro i now nodes assign listed
  cases assign
  cases listed

end Example

end SeamlessSwarm
