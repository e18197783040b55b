import SeamlessSwarm.Frames
import SeamlessSwarm.Scheduler
import SeamlessSwarm.Topology

/-! The hub's dispatch pass: the scheduler moves the whole batch to running, and
then one frame is pushed for each task of it. -/
namespace SeamlessSwarm

def TaskType.toCategory : TaskType → TaskCategory
  | .statelessIdempotent => .statelessIdempotent
  | .statefulLongRunning => .statefulLongRunning
  | .interactiveLowLatency => .interactiveLowLatency

/-- The message of `push_task_frame`; the retry limit is cast to 32 bits. -/
def taskDef (task : Task) (taskId nodeId : String) : TaskDefinition where
  taskId := taskId
  category := task.taskType.toCategory.toI32
  moduleTarget := nodeId
  payload := task.payload
  maxRetries := UInt32.ofNat task.maxRetries
  timeoutMs := 10000
  requiredCapabilities := task.requiredCapabilities

def taskFrame (prost : Prost) (task : Task) (taskId nodeId : String) : Bytes :=
  frame 6 (prost.taskDefinition.encode (taskDef task taskId nodeId))

structure PushAttempt where
  taskId : String
  nodeId : String
  frame : Bytes
  sent : Bool
  deriving DecidableEq

/-- The shared push socket: absent, or the outcome of each send, by its number. -/
abbrev PushSocket := Option (Nat → Bool)

def PushSocket.accepts (socket : PushSocket) (attempt : Nat) : Bool :=
  match socket with
  | none => false
  | some outcome => outcome attempt

def pushTaskFrame (prost : Prost) (socket : PushSocket) (attempt : Nat) (task : Task)
    (taskId nodeId : String) : PushAttempt :=
  ⟨taskId, nodeId, taskFrame prost task taskId nodeId, socket.accepts attempt⟩

/-- The loop over the dispatches. Each task is read again from the scheduler. -/
def sendAll (prost : Prost) (socket : PushSocket) (tasks : TaskTable) :
    Nat → List (String × String) → List PushAttempt
  | _, [] => []
  | attempt, (taskId, nodeId) :: rest =>
    match tasks.get taskId with
    | none => sendAll prost socket tasks attempt rest
    | some task =>
      pushTaskFrame prost socket attempt task taskId nodeId ::
        sendAll prost socket tasks (attempt + 1) rest

/-- `dispatch_now` with the time it reads. A failed push is only logged. -/
def dispatchNow (prost : Prost) (socket : PushSocket) (s : ProfileScheduler) (currentTime : Nat) :
    ProfileScheduler × List PushAttempt :=
  let out := s.dispatchPendingTasks currentTime
  (out.1, sendAll prost socket out.1.tasks 0 out.2)

/-- Every task that the pass moved to running was handed to the socket, and every
task that could not be handed over is pending again. -/
structure HandedOver (prost : Prost) (before after : ProfileScheduler)
    (attempts : List PushAttempt) :
    Prop where
  accepted : ∀ id task task' node since, before.tasks.get id = some task → ¬ task.state.Running →
    after.tasks.get id = some task' → task'.state = .running node since →
    (⟨id, node, taskFrame prost task' id node, true⟩ : PushAttempt) ∈ attempts
  requeued : ∀ a ∈ attempts, a.sent = false →
    ∃ task', after.tasks.get a.taskId = some task' ∧ task'.state = .pending

theorem sendAll_getElem? (prost : Prost) (socket : PushSocket) (tasks : TaskTable) (attempt : Nat)
    {tickets : List (String × String)} (stored : ∀ t ∈ tickets, ∃ task, tasks.get t.1 = some task)
    (k : Nat) :
    (sendAll prost socket tasks attempt tickets)[k]? = tickets[k]?.bind fun t =>
      (tasks.get t.1).map fun task => pushTaskFrame prost socket (attempt + k) task t.1 t.2 := by
  induction tickets generalizing attempt k with
  | nil => rfl
  | cons t rest ih =>
    obtain ⟨id, node⟩ := t
    obtain ⟨task, found⟩ := stored (id, node) List.mem_cons_self
    have others : ∀ t ∈ rest, ∃ task, tasks.get t.1 = some task :=
      fun t member => stored t (List.mem_cons_of_mem _ member)
    have found' : tasks.get id = some task := found
    cases k with
    | zero => simp [sendAll, found']
    | succ k =>
      have tail := ih (attempt + 1) others k
      rw [Nat.add_assoc, Nat.add_comm 1 k] at tail
      simpa [sendAll, found'] using tail

section Pass
variable (prost : Prost) (socket : PushSocket) (s : ProfileScheduler) (now : Nat)

theorem dispatchNow_stored : ∀ t ∈ (s.dispatchPendingTasks now).2,
    ∃ task, (s.dispatchPendingTasks now).1.tasks.get t.1 = some task := by
  intro t member
  obtain ⟨id, node⟩ := t
  obtain ⟨_, _, _, _, _, _, _, later⟩ := ticket_placed member
  exact ⟨_, later⟩

theorem dispatchNow_attempt (k : Nat) (a : PushAttempt) :
    (dispatchNow prost socket s now).2[k]? = some a ↔
      ∃ id node task, (s.dispatchPendingTasks now).2[k]? = some (id, node) ∧
        (s.dispatchPendingTasks now).1.tasks.get id = some task ∧
        a = pushTaskFrame prost socket k task id node := by
  have here := sendAll_getElem? prost socket (s.dispatchPendingTasks now).1.tasks 0
    (dispatchNow_stored s now) k
  rw [Nat.zero_add] at here
  have same : (dispatchNow prost socket s now).2[k]? = _ := here
  rw [same]
  simp only [Option.bind_eq_some_iff, Option.map_eq_some_iff, Prod.exists]
  constructor
  · rintro ⟨id, node, ticket, task, found, rfl⟩
    exact ⟨id, node, task, ticket, found, rfl⟩
  · rintro ⟨id, node, task, ticket, found, rfl⟩
    exact ⟨id, node, ticket, task, found, rfl⟩

theorem dispatchNow_tickets_length :
    (s.dispatchPendingTasks now).2.length =
      s.tasks.rows.countP fun task => decide (Dispatchable s.registry.listNodes task) :=
  dispatchWith_tickets_length s.registry.listNodes s.tasks now

theorem dispatchNow_started {id node : String} {task task' : Task} {since : Nat}
    (found : s.tasks.get id = some task) (waiting : ¬ task.state.Running)
    (later : (dispatchNow prost socket s now).1.tasks.get id = some task')
    (running : task'.state = .running node since) :
    (id, node) ∈ (s.dispatchPendingTasks now).2 := by
  have fate := dispatchWith_fate s.registry.listNodes s.tasks now id
  rw [found] at fate
  cases fate with
  | kept _ _ after _ =>
    cases later.symm.trans after
    rw [running] at waiting
    exact absurd trivial waiting
  | placed _ n _ _ _ after listed =>
    cases later.symm.trans after
    cases running
    exact listed

end Pass

/-- A pass hands over what it starts exactly when the socket accepts as many
pushes as there are waiting tasks that some node can take. -/
theorem handed_over_iff_pushes_accepted (prost : Prost) (socket : PushSocket) (s : ProfileScheduler)
    (now : Nat) :
    HandedOver prost s (dispatchNow prost socket s now).1 (dispatchNow prost socket s now).2 ↔
      ∀ k < s.tasks.rows.countP fun task => decide (Dispatchable s.registry.listNodes task),
        socket.accepts k = true := by
  rw [← dispatchNow_tickets_length s now]
  constructor
  · intro handed k inside
    have ticket := List.getElem?_eq_getElem inside
    have member := List.getElem_mem inside
    obtain ⟨row, n, _, _, _, _, _, later⟩ := ticket_placed member
    have attempt := (dispatchNow_attempt prost socket s now k _).mpr ⟨_, _, _, ticket, later, rfl⟩
    cases sent : socket.accepts k with
    | true => rfl
    | false =>
      obtain ⟨task', found, pending⟩ := handed.requeued _ (List.mem_of_getElem? attempt) sent
      cases later.symm.trans found
      cases pending
  · intro accepts
    constructor
    · intro id task task' node since found waiting later running
      have listed := dispatchNow_started prost socket s now found waiting later running
      obtain ⟨k, inside, ticket⟩ := List.mem_iff_getElem.mp listed
      have entry : (s.dispatchPendingTasks now).2[k]? = some (id, node) := by
        rw [List.getElem?_eq_getElem inside, ticket]
      have attempt := (dispatchNow_attempt prost socket s now k _).mpr
        ⟨id, node, task', entry, later, rfl⟩
      have sent := accepts k inside
      rw [pushTaskFrame, sent] at attempt
      exact List.mem_of_getElem? attempt
    · intro a member unsent
      obtain ⟨k, position⟩ := List.mem_iff_getElem?.mp member
      obtain ⟨id, node, task, entry, _, rfl⟩ :=
        (dispatchNow_attempt prost socket s now k a).mp position
      obtain ⟨inside, _⟩ := List.getElem?_eq_some_iff.mp entry
      rw [pushTaskFrame, accepts k inside] at unsent
      cases unsent

section Example

private def worker : NodeProfile := ⟨"n", "linux", [], 0, ""⟩

private def oneTask : ProfileScheduler :=
  (ProfileScheduler.new (EphemeralRegistry.new.registerNode worker)).submitTask
    (Task.new "t" .statelessIdempotent [] 3)

theorem absent_socket_strands_task :
    ¬ HandedOver topology oneTask (dispatchNow topology none oneTask 7).1
      (dispatchNow topology none oneTask 7).2 := by
  intro handed
  have attempt : (dispatchNow topology none oneTask 7).2[0]? = some
      (pushTaskFrame topology none 0 ⟨"t", .statelessIdempotent, [], 3, .running "n" 7, 0,
        []⟩ "t" "n") :=
    rfl
  obtain ⟨task', found, pending⟩ := handed.requeued _ (List.mem_of_getElem? attempt) rfl
  cases found
  cases pending

end Example

end SeamlessSwarm
