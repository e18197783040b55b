import SeamlessSwarm.Lifecycle

/-! What one dispatch pass does to the whole task map, whatever the iteration
orders of tasks and nodes. -/
namespace SeamlessSwarm

/-- A node carries, as the value of some capability, every string that a task requires. -/
def Carries (node : NodeProfile) (task : Task) : Prop :=
  ∀ req ∈ task.requiredCapabilities, ∃ c ∈ node.capabilities, c.value = req

/-- The pass with other iteration orders of both maps. -/
def ProfileScheduler.passIn (s : ProfileScheduler) (nodes : List NodeProfile) (tasks : List Task)
    (now : Nat) : ProfileScheduler × List (String × String) :=
  (s.call (.rehash nodes tasks)).dispatchPendingTasks now

/-- The tasks of a pass: a pending one that a registered node can serve runs on such
a node from now on, every other one stays as it is, and the list names the first. -/
structure PassCorrect (s : ProfileScheduler) (nodes : List NodeProfile) (tasks : List Task)
    (now : Nat) : Prop where
  placed : ∀ id task, s.tasks.get id = some task → task.state = .pending →
    (∃ n ∈ s.registry.listNodes, Carries n task) →
    ∃ n ∈ s.registry.listNodes, Carries n task ∧
      (s.passIn nodes tasks now).1.tasks.get id = some { task with state := .running n.nodeId now }
  untouched : ∀ id task, s.tasks.get id = some task →
    (task.state = .pending → ¬ ∃ n ∈ s.registry.listNodes, Carries n task) →
    (s.passIn nodes tasks now).1.tasks.get id = some task
  members : ∀ id, (s.passIn nodes tasks now).1.tasks.get id = none ↔ s.tasks.get id = none
  registry : ∀ id, (s.passIn nodes tasks now).1.registry.get id = s.registry.get id
  listed : ∀ id node, (id, node) ∈ (s.passIn nodes tasks now).2 ↔
    ∃ task, s.tasks.get id = some task ∧ task.taskId = id ∧ task.state = .pending ∧
      (s.passIn nodes tasks now).1.tasks.get id = some { task with state := .running node now }
  once : ((s.passIn nodes tasks now).2.map Prod.fst).Nodup

def ProfileScheduler.dispatchedIn (s : ProfileScheduler) (nodes : List NodeProfile)
    (tasks : List Task)
    (now : Nat) : List String :=
  (s.passIn nodes tasks now).2.map Prod.fst

/-- Which tasks a pass dispatches depends on no order, only grows with the nodes,
and leaves nothing for a second pass. -/
structure DispatchLaws (s : ProfileScheduler) : Prop where
  correct : ∀ nodes tasks now, PassCorrect s nodes tasks now
  unordered : ∀ nodes tasks nodes' tasks' now id,
    id ∈ s.dispatchedIn nodes tasks now ↔ id ∈ s.dispatchedIn nodes' tasks' now
  grows : ∀ more : EphemeralRegistry, (∀ n ∈ s.registry.listNodes, n ∈ more.listNodes) →
    ∀ nodes tasks nodes' tasks' now id, id ∈ s.dispatchedIn nodes tasks now →
      id ∈ ({ s with registry := more } : ProfileScheduler).dispatchedIn nodes' tasks' now
  settled : ∀ nodes tasks nodes' tasks' now later,
    ((s.passIn nodes tasks now).1.passIn nodes' tasks' later).2 = []

theorem matches_iff_carries {node : NodeProfile} {task : Task} :
    nodeMatchesCapabilities node task.requiredCapabilities = true ↔ Carries node task := by
  simp only [nodeMatchesCapabilities_iff, Carries, List.mem_map]

theorem dispatchable_iff {nodes : List NodeProfile} {task : Task} : Dispatchable nodes task ↔
    task.state = .pending ∧ ∃ n ∈ nodes, Carries n task := by
  simp only [Dispatchable, matches_iff_carries]

/-! One pass over given nodes. -/

section Pass
variable (nodes : List NodeProfile) (tasks : TaskTable) (now : Nat)

theorem dispatched_iff (id : String) : id ∈ (dispatchWith nodes tasks now).2.map Prod.fst ↔
    ∃ task, tasks.get id = some task ∧ Dispatchable nodes task := by
  have fate := dispatchWith_fate nodes tasks now id
  generalize tasks.get id = row at fate ⊢
  cases fate with
  | absent _ unlisted => exact iff_of_false unlisted nofun
  | kept task unable _ unlisted =>
    refine iff_of_false unlisted ?_
    rintro ⟨_, same, able⟩
    cases same
    exact unable able
  | placed task node pending member fits _ listed =>
    exact iff_of_true (List.mem_map_of_mem listed) ⟨task, rfl, pending, node, member, fits⟩

theorem undispatchable_after {id : String} {task : Task}
    (found : (dispatchWith nodes tasks now).1.get id = some task) : ¬ Dispatchable nodes task := by
  have fate := dispatchWith_fate nodes tasks now id
  generalize tasks.get id = row at fate
  cases fate with
  | absent missing _ =>
    rw [missing] at found
    cases found
  | kept task' unable later _ =>
    rw [later] at found
    cases found
    exact unable
  | placed task' node _ _ _ later _ =>
    rw [later] at found
    cases found
    exact fun able => nomatch able.1

end Pass

/-! A pass in any iteration order. -/

section Order
variable (s : ProfileScheduler) (nodes : List NodeProfile) (tasks : List Task) (now : Nat)

theorem served_reorder (task : Task) : (∃ n ∈ (s.registry.reorder nodes).rows, Carries n task) ↔
    ∃ n ∈ s.registry.listNodes, Carries n task := by
  have same (n : NodeProfile) : n ∈ (s.registry.reorder nodes).rows ↔ n ∈ s.registry.listNodes :=
    (s.registry.reorder_perm nodes).mem_iff
  simp only [same]

theorem passIn_fate (id : String) : DispatchFate (s.registry.reorder nodes).rows now
    ((s.passIn nodes tasks now).1.tasks, (s.passIn nodes tasks now).2) id (s.tasks.get id) := by
  have fate := dispatchWith_fate (s.registry.reorder nodes).rows (s.tasks.reorder tasks) now id
  rwa [Keyed.Table.get_reorder] at fate

theorem passIn_once : (s.dispatchedIn nodes tasks now).Nodup :=
  dispatchWith_tickets_nodup _ _ now

theorem dispatchedIn_iff (id : String) : id ∈ s.dispatchedIn nodes tasks now ↔
    ∃ task, s.tasks.get id = some task ∧ task.state = .pending ∧
      ∃ n ∈ s.registry.listNodes, Carries n task := by
  have listed := dispatched_iff (s.registry.reorder nodes).rows (s.tasks.reorder tasks) now id
  simp only [Keyed.Table.get_reorder, dispatchable_iff, served_reorder] at listed
  exact listed

theorem pass_correct : PassCorrect s nodes tasks now := by
  constructor
  · intro id task found pending served
    have fate := passIn_fate s nodes tasks now id
    rw [found] at fate
    cases fate with
    | kept _ unable _ _ =>
      have able := (served_reorder s nodes task).mpr served
      exact absurd (dispatchable_iff.mpr ⟨pending, able⟩) unable
    | placed _ node _ member fits later _ =>
      have registered := (s.registry.reorder_perm nodes).mem_iff.mp member
      exact ⟨node, registered, matches_iff_carries.mp fits, later⟩
  · intro id task found waits
    have fate := passIn_fate s nodes tasks now id
    rw [found] at fate
    cases fate with
    | kept _ _ later _ => exact later
    | placed _ node pending member fits _ _ =>
      have able : ∃ n ∈ (s.registry.reorder nodes).rows, Carries n task :=
        ⟨node, member, matches_iff_carries.mp fits⟩
      exact absurd ((served_reorder s nodes task).mp able) (waits pending)
  · intro id
    have fate := passIn_fate s nodes tasks now id
    generalize s.tasks.get id = row at fate ⊢
    cases fate with
    | absent missing _ => exact iff_of_true missing rfl
    | kept _ _ later _ => simp [later]
    | placed _ _ _ _ _ later _ => simp [later]
  · exact s.registry.get_reorder nodes
  · intro id node
    constructor
    · intro listed
      obtain ⟨task, n, found, pending, _, _, _, later⟩ := ticket_placed listed
      rw [rehash_get] at found
      exact ⟨task, found, Keyed.Table.key_of_get found, pending, later⟩
    · rintro ⟨task, found, _, pending, later⟩
      have fate := passIn_fate s nodes tasks now id
      rw [found] at fate
      cases fate with
      | kept _ _ same _ =>
        rw [later] at same
        have state := congrArg Task.state (Option.some.inj same)
        rw [pending] at state
        cases state
      | placed _ n _ _ _ same listed =>
        rw [later] at same
        have state := congrArg Task.state (Option.some.inj same)
        cases state
        exact listed
  · exact passIn_once s nodes tasks now

end Order

/-- A pass over any task map and registry, in any iteration order, moves exactly the
pending tasks that some registered node can serve, and reports just these. -/
theorem dispatch_laws (s : ProfileScheduler) : DispatchLaws s := by
  constructor
  · exact pass_correct s
  · intro nodes tasks nodes' tasks' now id
    rw [dispatchedIn_iff, dispatchedIn_iff]
  · intro more kept nodes tasks nodes' tasks' now id listed
    obtain ⟨task, found, pending, n, member, carries⟩ :=
      (dispatchedIn_iff s nodes tasks now id).mp listed
    exact (dispatchedIn_iff _ nodes' tasks' now id).mpr
      ⟨task, found, pending, n, kept n member, carries⟩
  · intro nodes tasks nodes' tasks' now later
    apply List.eq_nil_iff_forall_not_mem.mpr
    rintro ⟨id, node⟩ listed
    have again : id ∈ ((s.passIn nodes tasks now).1).dispatchedIn nodes' tasks' later :=
      List.mem_map_of_mem listed
    obtain ⟨task, found, pending, served⟩ := (dispatchedIn_iff _ nodes' tasks' later id).mp again
    exact undispatchable_after _ _ now found (dispatchable_iff.mpr ⟨pending, served⟩)

end SeamlessSwarm
