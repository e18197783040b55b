import Mathlib.Data.Finset.Card
import SeamlessSwarm.Lifecycle
import SeamlessSwarm.Turns

/-! How evenly runs of submissions and passes load the nodes. The turns start at
zero in every pass and go on through tasks of all capability classes. -/
namespace SeamlessSwarm
open Trace

/-- The registry stays as it is; the task map may take any iteration order. -/
inductive LoadStep where
  | submitTask (taskId : String) (taskType : TaskType) (payload : Bytes) (maxRetries : Nat)
      (requiredCapabilities : List String)
  | dispatchPendingTasks (currentTime : Nat)
  | rehashTasks (tasks : List Task)
  deriving DecidableEq

def ProfileScheduler.loadStep (s : ProfileScheduler) : LoadStep → ProfileScheduler
  | .submitTask taskId taskType payload maxRetries caps =>
    s.submitTask ((Task.new taskId taskType payload maxRetries).withCapabilities caps)
  | .dispatchPendingTasks currentTime => (s.dispatchPendingTasks currentTime).1
  | .rehashTasks tasks => { s with tasks := s.tasks.reorder tasks }

def capableSet (nodes : List NodeProfile) (task : Task) : Finset String :=
  ((capable nodes task).map NodeProfile.nodeId).toFinset

/-- The dispatches of a step: the capable set of the task, and the node it goes to. -/
def loads (s : ProfileScheduler) : LoadStep → List (Finset String × String)
  | .dispatchPendingTasks currentTime =>
    (s.dispatchPendingTasks currentTime).2.filterMap fun d =>
      (s.tasks.get d.1).map fun task => (capableSet s.registry.listNodes task, d.2)
  | _ => []

/-- The turns of a step, each with the capable set of the task that takes it. -/
def loadTurns (s : ProfileScheduler) : LoadStep → List (Finset String × Nat)
  | .dispatchPendingTasks _ =>
    (turns s.registry.listNodes 0 s.tasks.rows).map fun t =>
      (capableSet s.registry.listNodes t.1, t.2)
  | _ => []

section Run
variable (registry : EphemeralRegistry) (steps : List LoadStep)

/-- How many tasks that exactly the nodes of `C` can take went to one node. -/
def loadOf (C : Finset String) (node : String) : Nat :=
  (trail ProfileScheduler.loadStep loads (ProfileScheduler.new registry) steps).countP fun d =>
    d.1 = C ∧ d.2 = node

/-- How many turns of such tasks leave one residue modulo the size of `C`. -/
def turnsLeaving (C : Finset String) (r : Nat) : Nat :=
  (trail ProfileScheduler.loadStep loadTurns (ProfileScheduler.new registry) steps).countP fun t =>
    t.1 = C ∧ t.2 % C.card = r

def Balanced : Prop :=
  ∀ C : Finset String, ∀ n ∈ C, ∀ m ∈ C, loadOf registry steps C n ≤ loadOf registry steps C m + 1

def TurnsEven : Prop :=
  ∀ C : Finset String, ∀ i < C.card, ∀ j < C.card,
    turnsLeaving registry steps C i ≤ turnsLeaving registry steps C j + 1

end Run

/-! The nodes of one capable set, in the order of the registry. -/

def membersOf (nodes : List NodeProfile) (C : Finset String) : List String :=
  (nodes.map NodeProfile.nodeId).filter fun id => id ∈ C

theorem membersOf_nodup {nodes : List NodeProfile} (distinct : (nodes.map NodeProfile.nodeId).Nodup)
    (C : Finset String) : (membersOf nodes C).Nodup :=
  distinct.filter _

theorem mem_capableSet {nodes : List NodeProfile} (distinct : (nodes.map NodeProfile.nodeId).Nodup)
    {node : NodeProfile} (listed : node ∈ nodes) (task : Task) :
    node.nodeId ∈ capableSet nodes task ↔
      nodeMatchesCapabilities node task.requiredCapabilities = true := by
  simp only [capableSet, List.mem_toFinset, List.mem_map, mem_capable]
  constructor
  · rintro ⟨other, ⟨member, fits⟩, named⟩
    rwa [← List.inj_on_of_nodup_map distinct member listed named]
  · exact fun fits => ⟨node, ⟨listed, fits⟩, rfl⟩

theorem capable_ids {nodes : List NodeProfile} (distinct : (nodes.map NodeProfile.nodeId).Nodup)
    (task : Task) :
    (capable nodes task).map NodeProfile.nodeId = membersOf nodes (capableSet nodes task) := by
  unfold membersOf capable
  rw [List.filter_map]
  congr 1
  apply List.filter_congr
  intro node listed
  rw [Bool.eq_iff_iff, Function.comp_apply, decide_eq_true_iff]
  exact (mem_capableSet distinct listed task).symm

theorem capableSet_card {nodes : List NodeProfile} (distinct : (nodes.map NodeProfile.nodeId).Nodup)
    (task : Task) : (membersOf nodes (capableSet nodes task)).length =
    (capableSet nodes task).card := by
  rw [← capable_ids distinct, capableSet, List.toFinset_card_of_nodup]
  rw [capable_ids distinct]
  exact membersOf_nodup distinct _

theorem mem_membersOf {nodes : List NodeProfile} (distinct : (nodes.map NodeProfile.nodeId).Nodup)
    {task : Task} {id : String} (member : id ∈ capableSet nodes task) :
    id ∈ membersOf nodes (capableSet nodes task) := by
  rw [← capable_ids distinct]
  exact List.mem_toFinset.mp member

/-! From the turns to the loads. -/

theorem loadStep_nodes (s : ProfileScheduler) (a : LoadStep) :
    (s.loadStep a).registry = s.registry := by
  cases a <;> rfl

theorem loads_of_turns (s : ProfileScheduler) (a : LoadStep) :
    loads s a = (loadTurns s a).filterMap fun t =>
      (Rotation.turn (membersOf s.registry.listNodes t.1) t.2).map fun node => (t.1, node) := by
  cases a with
  | dispatchPendingTasks now =>
    have distinct : (s.registry.listNodes.map NodeProfile.nodeId).Nodup := s.registry.nodup
    simp only [loads, loadTurns, ProfileScheduler.dispatchPendingTasks, dispatchWith_turns,
      List.filterMap_map, List.filterMap_filterMap]
    apply List.filterMap_congr
    rintro ⟨task, k⟩ listed
    obtain ⟨before, after, split, _⟩ := (mem_turns _).mp listed
    have stored : s.tasks.get task.taskId = some task :=
      (s.tasks.get_eq_some_iff _ task).mpr ⟨by rw [split]; simp, rfl⟩
    simp only [Function.comp_apply, ← capable_ids distinct, Rotation.turn_map, turnNode]
    cases Rotation.turn (capable s.registry.listNodes task) k with
    | none => rfl
    | some node => simp [stored]
  | _ => rfl

section Run
variable (registry : EphemeralRegistry) (steps : List LoadStep)

theorem loads_trail :
    trail ProfileScheduler.loadStep loads (ProfileScheduler.new registry) steps =
      (trail ProfileScheduler.loadStep loadTurns (ProfileScheduler.new registry) steps).filterMap
        fun t => (Rotation.turn (membersOf registry.listNodes t.1) t.2).map fun node =>
          (t.1, node) := by
  have fixed : ∀ (s : ProfileScheduler) a, s.registry = registry →
      (s.loadStep a).registry = registry :=
    fun s a same => (loadStep_nodes s a).trans same
  apply trail_filterMap fixed _ rfl
  intro s a same
  rw [loads_of_turns, same]

theorem turns_of_tasks :
    ∀ t ∈ trail ProfileScheduler.loadStep loadTurns (ProfileScheduler.new registry) steps,
      ∃ task, t.1 = capableSet registry.listNodes task := by
  have fixed : ∀ (s : ProfileScheduler) a, s.registry = registry →
      (s.loadStep a).registry = registry :=
    fun s a same => (loadStep_nodes s a).trans same
  refine trail_forall (P := fun t : Finset String × Nat => ∃ task,
    t.1 = capableSet registry.listNodes task)
    fixed ?_ rfl steps
  rintro s a same t member
  cases a with
  | dispatchPendingTasks now =>
    obtain ⟨turn, _, rfl⟩ := List.mem_map.mp member
    exact ⟨turn.1, by rw [same]⟩
  | _ => cases member

theorem loadOf_eq {C : Finset String} {i : Nat}
    (inside : i < (membersOf registry.listNodes C).length)
    (full : (membersOf registry.listNodes C).length = C.card) :
    loadOf registry steps C (membersOf registry.listNodes C)[i] = turnsLeaving registry
      steps C i := by
  have distinct : (membersOf registry.listNodes C).Nodup := membersOf_nodup registry.nodup C
  unfold loadOf turnsLeaving
  rw [loads_trail, List.countP_filterMap]
  apply List.countP_congr
  rintro ⟨D, k⟩ _
  have residue := Rotation.turn_eq_getElem_iff distinct inside k
  rw [full] at residue
  by_cases same : D = C
  · subst same
    cases falls : Rotation.turn (membersOf registry.listNodes D) k with
    | none =>
      rw [falls] at residue
      simpa [falls] using residue
    | some node =>
      rw [falls] at residue
      simpa [falls] using residue
  · cases Rotation.turn (membersOf registry.listNodes D) k <;> simp [same]

theorem unused_set {C : Finset String}
    (unused : ∀ task, capableSet registry.listNodes task ≠ C) (node : String) (r : Nat) :
    loadOf registry steps C node = 0 ∧ turnsLeaving registry steps C r = 0 := by
  have other : ∀ t ∈ trail ProfileScheduler.loadStep loadTurns
      (ProfileScheduler.new registry) steps,
      t.1 ≠ C := by
    intro t member
    obtain ⟨task, class'⟩ := turns_of_tasks registry steps t member
    rw [class']
    exact unused task
  constructor
  · unfold loadOf
    rw [loads_trail, List.countP_eq_zero]
    intro d member
    obtain ⟨t, listed, made⟩ := List.mem_filterMap.mp member
    obtain ⟨node', _, rfl⟩ := Option.map_eq_some_iff.mp made
    simp [other t listed]
  · unfold turnsLeaving
    rw [List.countP_eq_zero]
    intro t member
    simp [other t member]

end Run

theorem even_class_iff (registry : EphemeralRegistry) (steps : List LoadStep) (C : Finset String) :
    (∀ n ∈ C, ∀ m ∈ C, loadOf registry steps C n ≤ loadOf registry steps C m + 1) ↔
      ∀ i < C.card, ∀ j < C.card,
        turnsLeaving registry steps C i ≤ turnsLeaving registry steps C j + 1 := by
  have distinct : (registry.listNodes.map NodeProfile.nodeId).Nodup := registry.nodup
  by_cases used : ∃ task, capableSet registry.listNodes task = C
  · obtain ⟨task, rfl⟩ := used
    have full := capableSet_card distinct task
    constructor
    · intro balanced i first j second
      rw [← full] at first second
      rw [← loadOf_eq registry steps first full, ← loadOf_eq registry steps second full]
      have member {k : Nat} (inside : k < (membersOf registry.listNodes
          (capableSet registry.listNodes task)).length) :
          (membersOf registry.listNodes (capableSet registry.listNodes task))[k] ∈
            capableSet registry.listNodes task :=
        of_decide_eq_true (List.mem_filter.mp (List.getElem_mem inside)).2
      exact balanced _ (member first) _ (member second)
    · intro even n left m right
      obtain ⟨i, first, rfl⟩ := List.mem_iff_getElem.mp (mem_membersOf distinct left)
      obtain ⟨j, second, rfl⟩ := List.mem_iff_getElem.mp (mem_membersOf distinct right)
      rw [loadOf_eq registry steps first full, loadOf_eq registry steps second full]
      rw [full] at first second
      exact even i first j second
  · have unused : ∀ task, capableSet registry.listNodes task ≠ C :=
      fun task same => used ⟨task, same⟩
    have idle := fun node => (unused_set registry steps unused node 0).1
    have still := fun r => (unused_set registry steps unused "" r).2
    simp only [idle, still, Nat.zero_le, implies_true]

/-- The loads of a run are balanced exactly when, for every capable set, the turns
of its tasks leave all residues modulo its size equally often, up to one. -/
theorem balanced_iff_turns_even (registry : EphemeralRegistry) (steps : List LoadStep) :
    Balanced registry steps ↔ TurnsEven registry steps :=
  forall_congr' (even_class_iff registry steps)

/-- The turns of one pass are even as a whole, whatever the tasks and their order. -/
theorem pass_even (nodes : List NodeProfile) (tasks : List Task) {c i j : Nat} (first : i < c)
    (second : j < c) : (turns nodes 0 tasks).countP (fun t => t.2 % c = i) ≤
      (turns nodes 0 tasks).countP (fun t => t.2 % c = j) + 1 := by
  have numbers := turns_numbers nodes 0 tasks
  rw [← List.range_eq_range'] at numbers
  have spread := Rotation.consecutive_even c (turns nodes 0 tasks).length first second
  rw [← numbers, List.countP_map, List.countP_map] at spread
  exact spread

theorem uniform_pass_even {nodes : List NodeProfile} {tasks : List Task} {D : Finset String}
    (uniform : ∀ t ∈ turns nodes 0 tasks, capableSet nodes t.1 = D) (C : Finset String) {i j : Nat}
    (first : i < C.card) (second : j < C.card) :
    ((turns nodes 0 tasks).map fun t => (capableSet nodes t.1, t.2)).countP
        (fun t => t.1 = C ∧ t.2 % C.card = i) ≤
      ((turns nodes 0 tasks).map fun t => (capableSet nodes t.1, t.2)).countP
        (fun t => t.1 = C ∧ t.2 % C.card = j) + 1 := by
  have counted (r : Nat) : ((turns nodes 0 tasks).map fun t => (capableSet nodes t.1, t.2)).countP
        (fun t => t.1 = C ∧ t.2 % C.card = r) =
      if D = C then (turns nodes 0 tasks).countP fun t => t.2 % C.card = r else 0 := by
    rw [List.countP_map]
    by_cases same : D = C
    · rw [if_pos same]
      apply List.countP_congr
      intro t listed
      simp [uniform t listed, same]
    · rw [if_neg same, List.countP_eq_zero]
      intro t listed
      simp [uniform t listed, same]
  rw [counted, counted]
  split
  · exact pass_even nodes tasks first second
  · exact Nat.zero_le _

def LoadStep.Submits (caps : List String) (a : LoadStep) : Prop :=
  ∃ taskId kind payload limit, a = .submitTask taskId kind payload limit caps

theorem submissions_silent {caps : List String} {submissions : List LoadStep}
    (alike : ∀ a ∈ submissions, a.Submits caps) (s : ProfileScheduler) :
    trail ProfileScheduler.loadStep loadTurns s submissions = [] := by
  induction submissions generalizing s with
  | nil => rfl
  | cons a rest ih =>
    obtain ⟨taskId, kind, payload, limit, rfl⟩ := alike a List.mem_cons_self
    exact ih (fun b member => alike b (List.mem_cons_of_mem _ member)) _

theorem submitted_requirements {caps : List String} {submissions : List LoadStep}
    (alike : ∀ a ∈ submissions, a.Submits caps) (registry : EphemeralRegistry) :
    ∀ task ∈ (run ProfileScheduler.loadStep (.new registry) submissions).tasks.rows,
      task.requiredCapabilities = caps := by
  have along : Along ProfileScheduler.loadStep (fun _ a => a.Submits caps) (.new registry)
      submissions := along_of_mem fun a member _ => alike a member
  refine run_invariant_along (I := fun s => ∀ task ∈ s.tasks.rows, task.requiredCapabilities = caps)
    ?_ (by rintro _ ⟨⟩) along
  rintro s _ kept ⟨taskId, kind, payload, limit, rfl⟩ task member
  rcases List.mem_cons.mp member with rfl | old
  · rfl
  · exact kept task (List.mem_of_mem_filter old)

/-- So one pass over tasks with the same requirements balances them. -/
theorem one_pass_balanced (registry : EphemeralRegistry) {submissions : List LoadStep}
    {caps : List String} (now : Nat) (alike : ∀ a ∈ submissions, a.Submits caps) :
    Balanced registry (submissions ++ [.dispatchPendingTasks now]) := by
  intro C
  apply (even_class_iff registry _ C).mpr
  intro i first j second
  have requires := submitted_requirements alike registry
  unfold turnsLeaving
  rw [trail_append, submissions_silent alike, List.nil_append]
  simp only [trail, loadTurns, List.append_nil]
  generalize run ProfileScheduler.loadStep (.new registry) submissions = s at requires
  apply uniform_pass_even _ C first second
  · exact capableSet s.registry.listNodes
      ((Task.new "" .statelessIdempotent [] 0).withCapabilities caps)
  · rintro ⟨task, k⟩ listed
    obtain ⟨before, after, split, _⟩ := (mem_turns _).mp listed
    have member : task ∈ s.tasks.rows := by simp [split]
    unfold capableSet capable
    rw [requires task member]
    rfl

section Example

private def twoNodes : EphemeralRegistry :=
  (EphemeralRegistry.new.registerNode ⟨"a", "linux", [], 0, ""⟩).registerNode
    ⟨"b", "linux", [], 0, ""⟩

/-- The medium server runs a pass after each submission: every pass starts again
with the first node. -/
theorem single_passes_are_not_balanced :
    ¬ Balanced twoNodes [.submitTask "s" .statelessIdempotent [] 3 [], .dispatchPendingTasks 7,
      .submitTask "t" .statelessIdempotent [] 3 [], .dispatchPendingTasks 8] := by
  intro balanced
  have loads := balanced {"a", "b"} "b" (by decide) "a" (by decide)
  revert loads
  decide +kernel

end Example

end SeamlessSwarm
