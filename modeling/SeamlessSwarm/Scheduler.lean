import SeamlessSwarm.Registry

/-! The task scheduler: its tasks, the four calls that change them, and what
each call does to one task. The node list of a dispatch pass is read before the
task map is locked, so `dispatchWith` takes it as an argument. -/
namespace SeamlessSwarm

inductive TaskType where
  | statelessIdempotent
  | statefulLongRunning
  | interactiveLowLatency
  deriving DecidableEq, Repr

inductive TaskState where
  | pending
  | running (nodeId : String) (startedAt : Nat)
  | completed (result : Bytes)
  | failed (reason : String)
  deriving DecidableEq, Repr

def TaskState.Completed : TaskState → Prop
  | .completed _ => True
  | _ => False

def TaskState.Running : TaskState → Prop
  | .running _ _ => True
  | _ => False

def TaskState.Terminal : TaskState → Prop
  | .completed _ | .failed _ => True
  | _ => False

attribute [simp] TaskState.Completed TaskState.Running TaskState.Terminal

structure Task where
  taskId : String
  taskType : TaskType
  payload : Bytes
  maxRetries : Nat
  state : TaskState
  currentRetry : Nat
  requiredCapabilities : List String
  deriving DecidableEq, Repr

inductive ExecutionResult where
  | success
  | retryNeeded (reason : String)
  | checkpointSaved (checkpoint : Bytes)
  | immediateFailure (reason : String)
  deriving DecidableEq, Repr

abbrev TaskTable := Keyed.Table Task.taskId

namespace Task

def new (taskId : String) (taskType : TaskType) (payload : Bytes) (maxRetries : Nat) : Task where
  taskId := taskId
  taskType := taskType
  payload := payload
  maxRetries := maxRetries
  state := .pending
  currentRetry := 0
  requiredCapabilities := []

def withCapabilities (task : Task) (caps : List String) : Task :=
  { task with requiredCapabilities := caps }

/-- The body of `update_task_progress`. It does not look at the present state. -/
def update (task : Task) : ExecutionResult → Task
  | .success => { task with state := .completed [] }
  | .checkpointSaved checkpoint => { task with payload := checkpoint }
  | .retryNeeded reason =>
    if task.currentRetry < task.maxRetries then
      { task with currentRetry := task.currentRetry + 1, state := .pending }
    else { task with state := .failed ("Max retries exceeded: " ++ reason) }
  | .immediateFailure reason => { task with state := .failed reason }

def retryOrFail (task : Task) (reason : String) : Task :=
  if task.currentRetry < task.maxRetries then
    { task with currentRetry := task.currentRetry + 1, state := .pending }
  else { task with state := .failed reason }

def nodeFailure (nodeId : String) (task : Task) : Task :=
  match task.state with
  | .running runningNode _ =>
    if runningNode = nodeId then
      match task.taskType with
      | .statelessIdempotent =>
        task.retryOrFail "Stateless task failed: node lost and max retries exceeded"
      | .statefulLongRunning =>
        task.retryOrFail "Stateful task failed: node lost and max retries exceeded"
      | .interactiveLowLatency =>
        { task with state := .failed "Interactive node departed. Dropping execution." }
    else task
  | _ => task

end Task

def nodeMatchesCapabilities (node : NodeProfile) (required : List String) : Bool :=
  if required.isEmpty then true
  else
    let values := node.capabilities.map Capability.value
    required.all (values.contains ·)

theorem nodeMatchesCapabilities_iff {node : NodeProfile} {required : List String} :
    nodeMatchesCapabilities node required = true ↔
      ∀ req ∈ required, req ∈ node.capabilities.map Capability.value := by
  cases required with
  | nil => simp [nodeMatchesCapabilities]
  | cons req rest => simp [nodeMatchesCapabilities]

def capable (nodes : List NodeProfile) (task : Task) : List NodeProfile :=
  nodes.filter (nodeMatchesCapabilities · task.requiredCapabilities)

/-- One pass over the task map, in its iteration order. `nodeIdx` counts the
tasks assigned so far and walks each task's own list of capable nodes. -/
def dispatchLoop (nodes : List NodeProfile) (currentTime : Nat) :
    Nat → List Task → List Task × List (String × String)
  | _, [] => ([], [])
  | nodeIdx, task :: rest =>
    if task.state = .pending then
      if h : capable nodes task = [] then
        let tail := dispatchLoop nodes currentTime nodeIdx rest
        (task :: tail.1, tail.2)
      else
        let targetNode := (capable nodes task).get
          ⟨nodeIdx % (capable nodes task).length, Nat.mod_lt _ (List.length_pos_iff.mpr h)⟩
        let tail := dispatchLoop nodes currentTime (nodeIdx + 1) rest
        ({ task with state := .running targetNode.nodeId currentTime } :: tail.1,
          (task.taskId, targetNode.nodeId) :: tail.2)
    else
      let tail := dispatchLoop nodes currentTime nodeIdx rest
      (task :: tail.1, tail.2)

structure ProfileScheduler where
  registry : EphemeralRegistry
  tasks : TaskTable
  deriving DecidableEq

/- Tasks that a pass over these nodes can place. -/
def Dispatchable (nodes : List NodeProfile) (task : Task) : Prop :=
  task.state = .pending ∧ ∃ n ∈ nodes, nodeMatchesCapabilities n task.requiredCapabilities = true

instance (nodes : List NodeProfile) (task : Task) : Decidable (Dispatchable nodes task) :=
  inferInstanceAs (Decidable (_ ∧ _))

/-! A pass read as a list of decisions: each task with the node chosen for it. -/

def chosen (nodes : List NodeProfile) (nodeIdx : Nat) (task : Task) : Option NodeProfile :=
  if task.state = .pending then (capable nodes task)[nodeIdx % (capable nodes task).length]?
  else none

def assignments (nodes : List NodeProfile) : Nat → List Task → List (Task × Option NodeProfile)
  | _, [] => []
  | nodeIdx, task :: rest =>
    match chosen nodes nodeIdx task with
    | some node => (task, some node) :: assignments nodes (nodeIdx + 1) rest
    | none => (task, none) :: assignments nodes nodeIdx rest

def place (currentTime : Nat) (decision : Task × Option NodeProfile) : Task :=
  match decision.2 with
  | some node => { decision.1 with state := .running node.nodeId currentTime }
  | none => decision.1

def ticket (decision : Task × Option NodeProfile) : Option (String × String) :=
  decision.2.map fun node => (decision.1.taskId, node.nodeId)

@[simp] theorem place_taskId (now : Nat) (decision : Task × Option NodeProfile) :
    (place now decision).taskId = decision.1.taskId := by
  obtain ⟨task, node⟩ := decision
  cases node <;> rfl

/-- A decision is sound: a node is chosen exactly for the tasks that some node can take. -/
def SoundDecision (nodes : List NodeProfile) (decision : Task × Option NodeProfile) : Prop :=
  match decision.2 with
  | some node => decision.1.state = .pending ∧ node ∈ nodes ∧
      nodeMatchesCapabilities node decision.1.requiredCapabilities = true
  | none => ¬ Dispatchable nodes decision.1

section Loop
variable (nodes : List NodeProfile)

theorem mem_capable {node : NodeProfile} {task : Task} : node ∈ capable nodes task ↔
    node ∈ nodes ∧ nodeMatchesCapabilities node task.requiredCapabilities = true :=
  List.mem_filter

theorem chosen_sound (idx : Nat) (task : Task) :
    SoundDecision nodes (task, chosen nodes idx task) := by
  unfold chosen
  by_cases pending : task.state = .pending
  · rw [if_pos pending]
    cases index : (capable nodes task)[idx % (capable nodes task).length]? with
    | some node =>
      exact ⟨pending, (mem_capable nodes).mp (List.mem_of_getElem? index)⟩
    | none =>
      rintro ⟨_, n, member, fits⟩
      have inside := List.length_pos_of_mem ((mem_capable nodes).mpr ⟨member, fits⟩)
      have outside := List.getElem?_eq_none_iff.mp index
      exact absurd (Nat.mod_lt idx inside) (Nat.not_lt_of_le outside)
  · rw [if_neg pending]
    exact fun able => pending able.1

/-- The loop as decisions that are made first and carried out afterwards. -/
theorem dispatchLoop_eq (now idx : Nat) (tasks : List Task) :
    dispatchLoop nodes now idx tasks =
      ((assignments nodes idx tasks).map (place now),
        (assignments nodes idx tasks).filterMap ticket) := by
  induction tasks generalizing idx with
  | nil => rfl
  | cons task rest ih =>
    by_cases pending : task.state = .pending
    · by_cases unable : capable nodes task = []
      · have stays : chosen nodes idx task = none := by simp [chosen, unable]
        simp only [dispatchLoop, assignments, pending, if_true, unable, dite_true, stays, ih idx]
        rfl
      · have moves : chosen nodes idx task = some ((capable nodes task).get
            ⟨idx % (capable nodes task).length, Nat.mod_lt _ (List.length_pos_iff.mpr unable)⟩) :=
              by
          rw [chosen, if_pos pending]
          exact List.getElem?_eq_getElem _
        simp only [dispatchLoop, assignments, pending, if_true, unable, dite_false, moves,
          ih (idx + 1)]
        rfl
    · have stays : chosen nodes idx task = none := by simp [chosen, pending]
      simp only [dispatchLoop, assignments, pending, if_false, stays, ih idx]
      rfl

theorem dispatchLoop_rows (now idx : Nat) (tasks : List Task) :
    (dispatchLoop nodes now idx tasks).1 = (assignments nodes idx tasks).map (place now) :=
  congrArg Prod.fst (dispatchLoop_eq nodes now idx tasks)

theorem dispatchLoop_tickets (now idx : Nat) (tasks : List Task) :
    (dispatchLoop nodes now idx tasks).2 = (assignments nodes idx tasks).filterMap ticket :=
  congrArg Prod.snd (dispatchLoop_eq nodes now idx tasks)

theorem assignments_tasks (idx : Nat) (tasks : List Task) :
    (assignments nodes idx tasks).map Prod.fst = tasks := by
  induction tasks generalizing idx with
  | nil => rfl
  | cons task rest ih =>
    unfold assignments
    split <;> simp only [List.map_cons, ih]

theorem assignments_sound (idx : Nat) (tasks : List Task) :
    ∀ decision ∈ assignments nodes idx tasks, SoundDecision nodes decision := by
  induction tasks generalizing idx with
  | nil => simp [assignments]
  | cons task rest ih =>
    have head := chosen_sound nodes idx task
    unfold assignments
    cases choice : chosen nodes idx task with
    | some node =>
      rw [choice] at head
      exact List.forall_mem_cons.mpr ⟨head, ih (idx + 1)⟩
    | none =>
      rw [choice] at head
      exact List.forall_mem_cons.mpr ⟨head, ih idx⟩

theorem ticket_ids (decisions : List (Task × Option NodeProfile)) :
    ((decisions.filterMap ticket).map Prod.fst).Sublist (decisions.map fun d => d.1.taskId) := by
  induction decisions with
  | nil => exact List.Sublist.refl _
  | cons decision rest ih =>
    obtain ⟨task, node⟩ := decision
    cases node with
    | none => exact ih.cons _
    | some node => exact ih.cons_cons _

theorem tickets_length {decisions : List (Task × Option NodeProfile)}
    (sound : ∀ decision ∈ decisions, SoundDecision nodes decision) :
    (decisions.filterMap ticket).length =
      (decisions.map Prod.fst).countP fun task => decide (Dispatchable nodes task) := by
  induction decisions with
  | nil => rfl
  | cons decision rest ih =>
    obtain ⟨verdict, others⟩ := List.forall_mem_cons.mp sound
    have tail := ih others
    obtain ⟨task, choice⟩ := decision
    cases choice with
    | none =>
      have unable : ¬ Dispatchable nodes task := verdict
      simp only [List.filterMap_cons, ticket, Option.map_none, List.map_cons,
        List.countP_cons, unable,
        decide_false, Bool.false_eq_true, if_false, Nat.add_zero]
      exact tail
    | some node =>
      have able : Dispatchable nodes task := ⟨verdict.1, node, verdict.2⟩
      simp only [List.filterMap_cons, ticket, Option.map_some, List.map_cons,
        List.countP_cons, able,
        decide_true, if_true, List.length_cons]
      exact congrArg (· + 1) tail

end Loop

theorem dispatchLoop_keys (nodes : List NodeProfile) (now idx : Nat) (tasks : List Task) :
    (dispatchLoop nodes now idx tasks).1.map Task.taskId = tasks.map Task.taskId := by
  conv_rhs => rw [← assignments_tasks nodes idx tasks]
  simp [dispatchLoop_rows]

namespace ProfileScheduler

def new (registry : EphemeralRegistry) : ProfileScheduler := ⟨registry, Keyed.Table.empty⟩

def submitTask (s : ProfileScheduler) (task : Task) : ProfileScheduler :=
  { s with tasks := s.tasks.insert task }

def getTask (s : ProfileScheduler) (taskId : String) : Option Task := s.tasks.get taskId

def listTasks (s : ProfileScheduler) : List Task := s.tasks.rows

end ProfileScheduler

theorem Task.update_taskId (result : ExecutionResult) (task : Task) :
    (task.update result).taskId = task.taskId := by
  cases result with
  | retryNeeded reason =>
    unfold Task.update
    dsimp only
    split <;> rfl
  | _ => rfl

theorem Task.retryOrFail_taskId (task : Task) (reason : String) :
    (task.retryOrFail reason).taskId = task.taskId := by
  unfold Task.retryOrFail
  split <;> rfl

theorem Task.nodeFailure_taskId (nodeId : String) (task : Task) :
    (task.nodeFailure nodeId).taskId = task.taskId := by
  unfold Task.nodeFailure
  split
  · split
    · split
      · exact task.retryOrFail_taskId _
      · exact task.retryOrFail_taskId _
      · rfl
    · rfl
  · rfl

def updateTaskProgress (tasks : TaskTable) (taskId : String) (result : ExecutionResult) :
    TaskTable :=
  tasks.modify taskId (·.update result) (Task.update_taskId result)

def handleNodeFailure (tasks : TaskTable) (nodeId : String) : TaskTable :=
  tasks.mapRows (·.nodeFailure nodeId) (Task.nodeFailure_taskId nodeId)

/-- The locked half of `dispatch_pending_tasks`, over the nodes read before. -/
def dispatchWith (nodes : List NodeProfile) (tasks : TaskTable) (currentTime : Nat) :
    TaskTable × List (String × String) :=
  if nodes.isEmpty then (tasks, [])
  else
    (tasks.withRows (dispatchLoop nodes currentTime 0 tasks.rows).1
        (dispatchLoop_keys nodes currentTime 0 tasks.rows),
      (dispatchLoop nodes currentTime 0 tasks.rows).2)

/-! What each call does to the row under one task id. -/

theorem updateTaskProgress_get (tasks : TaskTable) (taskId : String) (result : ExecutionResult)
    (id : String) : (updateTaskProgress tasks taskId result).get id =
      if id = taskId then (tasks.get id).map (·.update result) else tasks.get id :=
  tasks.get_modify taskId _ _ id

theorem handleNodeFailure_get (tasks : TaskTable) (nodeId id : String) :
    (handleNodeFailure tasks nodeId).get id = (tasks.get id).map (·.nodeFailure nodeId) :=
  tasks.get_mapRows _ _ id

/-- A node failure leaves a task alone, sends it back to the queue with one more
retry, or fails it; the last two only when it was running on that node. -/
theorem Task.nodeFailure_cases (nodeId : String) (task : Task) :
    (task.nodeFailure nodeId = task ∧ ∀ at', task.state ≠ .running nodeId at') ∨
    (∃ at', task.state = .running nodeId at' ∧
      ((task.taskType ≠ .interactiveLowLatency ∧ task.currentRetry < task.maxRetries ∧
          task.nodeFailure nodeId =
            { task with currentRetry := task.currentRetry + 1, state := .pending }) ∨
        ∃ reason, task.nodeFailure nodeId = { task with state := .failed reason })) := by
  unfold Task.nodeFailure
  cases running : task.state with
  | running node since =>
    by_cases same : node = nodeId
    · subst same
      right
      refine ⟨since, rfl, ?_⟩
      cases kind : task.taskType with
      | interactiveLowLatency => exact Or.inr ⟨_, by simp; rfl⟩
      | statelessIdempotent =>
        by_cases room : task.currentRetry < task.maxRetries
        · exact Or.inl ⟨nofun, room, by simp [Task.retryOrFail, room, kind]⟩
        · exact Or.inr ⟨_, by simp [Task.retryOrFail, room, kind]; rfl⟩
      | statefulLongRunning =>
        by_cases room : task.currentRetry < task.maxRetries
        · exact Or.inl ⟨nofun, room, by simp [Task.retryOrFail, room, kind]⟩
        · exact Or.inr ⟨_, by simp [Task.retryOrFail, room, kind]; rfl⟩
    · exact Or.inl ⟨by simp [same], by simp [same]⟩
  | _ => exact Or.inl ⟨rfl, nofun⟩

inductive DispatchFate (nodes : List NodeProfile) (now : Nat)
    (out : TaskTable × List (String × String)) (id : String) : Option Task → Prop where
  | absent : out.1.get id = none → id ∉ out.2.map Prod.fst → DispatchFate nodes now out id none
  | kept (task : Task) : ¬ Dispatchable nodes task → out.1.get id = some task →
      id ∉ out.2.map Prod.fst → DispatchFate nodes now out id (some task)
  | placed (task : Task) (node : NodeProfile) : task.state = .pending → node ∈ nodes →
      nodeMatchesCapabilities node task.requiredCapabilities = true →
      out.1.get id = some { task with state := .running node.nodeId now } →
      (id, node.nodeId) ∈ out.2 → DispatchFate nodes now out id (some task)

theorem dispatchWith_tickets_nodup (nodes : List NodeProfile) (tasks : TaskTable) (now : Nat) :
    ((dispatchWith nodes tasks now).2.map Prod.fst).Nodup := by
  unfold dispatchWith
  split
  · exact List.nodup_nil
  · simp only [dispatchLoop_tickets]
    apply List.Nodup.sublist (ticket_ids _)
    have rows := assignments_tasks nodes 0 tasks.rows
    have keys := tasks.nodup
    rw [← rows, List.map_map] at keys
    exact keys

theorem dispatchWith_tickets_length (nodes : List NodeProfile) (tasks : TaskTable) (now : Nat) :
    (dispatchWith nodes tasks now).2.length =
      tasks.rows.countP fun task => decide (Dispatchable nodes task) := by
  unfold dispatchWith
  split
  · rename_i empty
    have no_nodes : nodes = [] := List.isEmpty_iff.mp empty
    simp [Dispatchable, no_nodes]
  · simp only [dispatchLoop_tickets]
    rw [tickets_length nodes (assignments_sound nodes 0 tasks.rows), assignments_tasks]

theorem mem_tickets {decisions : List (Task × Option NodeProfile)} {id node : String} :
    (id, node) ∈ decisions.filterMap ticket ↔
      ∃ task n, (task, some n) ∈ decisions ∧ task.taskId = id ∧ n.nodeId = node := by
  simp only [List.mem_filterMap, ticket, Option.map_eq_some_iff, Prod.mk.injEq]
  constructor
  · rintro ⟨⟨task, _⟩, member, n, rfl, rfl, rfl⟩
    exact ⟨task, n, member, rfl, rfl⟩
  · rintro ⟨task, n, member, rfl, rfl⟩
    exact ⟨_, member, n, rfl, rfl, rfl⟩

theorem decisions_fate {nodes : List NodeProfile} {tasks : TaskTable}
    (after : TaskTable) {now : Nat}
    {decisions : List (Task × Option NodeProfile)}
    (sound : ∀ decision ∈ decisions, SoundDecision nodes decision)
    (before : decisions.map Prod.fst = tasks.rows) (rows : after.rows = decisions.map (place now))
    (id : String) : DispatchFate nodes now (after, decisions.filterMap ticket) id
    (tasks.get id) := by
  have keys : (decisions.map fun d => d.1.taskId).Nodup := by
    have nodup := tasks.nodup
    rwa [← before, List.map_map] at nodup
  cases found : tasks.get id with
  | none =>
    have absent : ∀ decision ∈ decisions, decision.1.taskId ≠ id := by
      intro decision member named
      have inRows : decision.1 ∈ tasks.rows := before ▸ List.mem_map_of_mem member
      rw [(tasks.get_eq_some_iff id decision.1).mpr ⟨inRows, named⟩] at found
      cases found
    refine .absent ?_ ?_
    · cases later : after.get id with
      | none => rfl
      | some task =>
        obtain ⟨inRows, named⟩ := (after.get_eq_some_iff id task).mp later
        rw [rows] at inRows
        obtain ⟨decision, member, rfl⟩ := List.mem_map.mp inRows
        exact absurd ((place_taskId now decision).symm.trans named) (absent decision member)
    · intro listed
      obtain ⟨⟨_, node⟩, member, rfl⟩ := List.mem_map.mp listed
      obtain ⟨task, n, decided, named, _⟩ := mem_tickets.mp member
      exact absent _ decided named
  | some task =>
    obtain ⟨inRows, named⟩ := (tasks.get_eq_some_iff id task).mp found
    rw [← before] at inRows
    obtain ⟨⟨task, choice⟩, member, rfl⟩ := List.mem_map.mp inRows
    have later : after.get id = some (place now (task, choice)) := by
      refine (after.get_eq_some_iff id _).mpr ⟨?_, (place_taskId now _).trans named⟩
      rw [rows]
      exact List.mem_map_of_mem member
    have verdict := sound _ member
    cases choice with
    | none =>
      apply DispatchFate.kept task verdict later
      intro listed
      obtain ⟨⟨_, node⟩, inTickets, rfl⟩ := List.mem_map.mp listed
      obtain ⟨other, n, decided, same, _⟩ := mem_tickets.mp inTickets
      have clash := List.inj_on_of_nodup_map keys member decided (named.trans same.symm)
      cases congrArg Prod.snd clash
    | some node =>
      exact .placed task node verdict.1 verdict.2.1 verdict.2.2 later
        (mem_tickets.mpr ⟨task, node, member, named, rfl⟩)

theorem dispatchWith_fate (nodes : List NodeProfile) (tasks : TaskTable) (now : Nat) (id : String) :
    DispatchFate nodes now (dispatchWith nodes tasks now) id (tasks.get id) := by
  unfold dispatchWith
  by_cases empty : nodes.isEmpty = true
  · rw [if_pos empty]
    have no_nodes : nodes = [] := List.isEmpty_iff.mp empty
    cases found : tasks.get id with
    | none => exact .absent found (by simp)
    | some task => exact .kept task (by simp [Dispatchable, no_nodes]) found (by simp)
  · rw [if_neg empty]
    have decided := decisions_fate (tasks.withRows _ (dispatchLoop_keys nodes now 0 tasks.rows))
      (assignments_sound nodes 0 tasks.rows) (assignments_tasks nodes 0 tasks.rows)
      (dispatchLoop_rows nodes now 0 tasks.rows) id
    rwa [← dispatchLoop_tickets nodes now] at decided

theorem dispatchWith_row {nodes : List NodeProfile} {tasks : TaskTable} {id : String} {task : Task}
    (found : tasks.get id = some task) (now : Nat) :
    (dispatchWith nodes tasks now).1.get id = some task ∨ task.state = .pending ∧ ∃ node,
      (dispatchWith nodes tasks now).1.get id = some { task with state := .running node now } := by
  have fate := dispatchWith_fate nodes tasks now id
  rw [found] at fate
  cases fate with
  | kept _ _ later _ => exact Or.inl later
  | placed _ node pending _ _ later _ => exact Or.inr ⟨pending, node.nodeId, later⟩

theorem dispatchWith_absent {nodes : List NodeProfile} {tasks : TaskTable} {id : String}
    (absent : tasks.get id = none) (now : Nat) :
    (dispatchWith nodes tasks now).1.get id = none := by
  have fate := dispatchWith_fate nodes tasks now id
  rw [absent] at fate
  cases fate with
  | absent later _ => exact later

theorem ticket_placed {nodes : List NodeProfile} {tasks : TaskTable} {now : Nat} {id node : String}
    (listed : (id, node) ∈ (dispatchWith nodes tasks now).2) :
    ∃ task n, tasks.get id = some task ∧ task.state = .pending ∧ n ∈ nodes ∧ n.nodeId = node ∧
      nodeMatchesCapabilities n task.requiredCapabilities = true ∧
      (dispatchWith nodes tasks now).1.get id = some { task with state := .running node now } := by
  have named : id ∈ (dispatchWith nodes tasks now).2.map Prod.fst := List.mem_map_of_mem listed
  have fate := dispatchWith_fate nodes tasks now id
  generalize tasks.get id = row at fate ⊢
  cases fate with
  | absent _ unlisted => exact absurd named unlisted
  | kept _ _ _ unlisted => exact absurd named unlisted
  | placed task n pending member fits later also =>
    have same := List.inj_on_of_nodup_map (dispatchWith_tickets_nodup nodes tasks now)
      listed also rfl
    have node_eq : node = n.nodeId := congrArg Prod.snd same
    subst node_eq
    exact ⟨task, n, rfl, pending, member, rfl, fits, later⟩

namespace ProfileScheduler

def dispatchPendingTasks (s : ProfileScheduler) (currentTime : Nat) :
    ProfileScheduler × List (String × String) :=
  let out := dispatchWith s.registry.listNodes s.tasks currentTime
  ({ s with tasks := out.1 }, out.2)

end ProfileScheduler
end SeamlessSwarm
