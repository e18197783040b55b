import Mathlib.Data.List.Perm.Subperm
import SeamlessSwarm.Dispatch
import SeamlessSwarm.Lifecycle

/-! Dispatch passes that run at the same time. A pass reads the node list, then
holds the task map while it assigns, and afterwards loads and pushes one task
after the other; between any two of these steps other passes and all other calls
may run. The tickets of the assignments are numbered by the retry counter, which
is not in the code: it tells the waiting times of one task apart. -/
namespace SeamlessSwarm
open Trace

/-- A transition of a task from pending to running. -/
structure Ticket where
  taskId : String
  nodeId : String
  retry : Nat
  deriving DecidableEq

inductive Pass where
  | entered (currentTime : Nat)
  | listed (currentTime : Nat) (nodes : List NodeProfile)
  | sending (queue : List Ticket)
  | loaded (ticket : Ticket) (task : Task) (queue : List Ticket)
  deriving DecidableEq

def Pass.tickets : Pass → List Ticket
  | sending queue => queue
  | loaded ticket _ queue => ticket :: queue
  | _ => []

structure Push where
  ticket : Ticket
  frame : Bytes
  sent : Bool
  deriving DecidableEq

/-- The hub, with all transitions and all push attempts so far. -/
structure Hub where
  scheduler : ProfileScheduler
  passes : List Pass
  started : List Ticket
  pushed : List Push
  deriving DecidableEq

inductive HubStep where
  | call (c : SchedulerCall)
  | enter (currentTime : Nat)
  | listNodes (pass : Nat)
  | assign (pass : Nat)
  | load (pass : Nat)
  | push (pass : Nat) (sent : Bool)
  deriving DecidableEq

def tickets (tasks : TaskTable) (dispatches : List (String × String)) : List Ticket :=
  dispatches.map fun d => ⟨d.1, d.2, ((tasks.get d.1).map Task.currentRetry).getD 0⟩

def retriesOf (taskId : String) (ts : List Ticket) : List Nat :=
  (ts.filter fun t => t.taskId = taskId).map Ticket.retry

namespace Hub

def start (registry : EphemeralRegistry) : Hub := ⟨.new registry, [], [], []⟩

def setPass (hub : Hub) (i : Nat) (pass : Pass) : Hub :=
  { hub with passes := hub.passes.set i pass }

/-- One step. The scheduler's dispatch call is made by the passes only. -/
def step (prost : Prost) (hub : Hub) : HubStep → Hub
  | .call (.dispatchPendingTasks _) => hub
  | .call c => { hub with scheduler := hub.scheduler.call c }
  | .enter currentTime => { hub with passes := hub.passes ++ [.entered currentTime] }
  | .listNodes i =>
    match hub.passes[i]? with
    | some (.entered currentTime) =>
      hub.setPass i (.listed currentTime hub.scheduler.registry.listNodes)
    | _ => hub
  | .assign i =>
    match hub.passes[i]? with
    | some (.listed currentTime nodes) =>
      let out := dispatchWith nodes hub.scheduler.tasks currentTime
      let new := tickets hub.scheduler.tasks out.2
      { hub.setPass i (.sending new) with
        scheduler := { hub.scheduler with tasks := out.1 }
        started := hub.started ++ new }
    | _ => hub
  | .load i =>
    match hub.passes[i]? with
    | some (.sending (ticket :: queue)) =>
      match hub.scheduler.tasks.get ticket.taskId with
      | some task => hub.setPass i (.loaded ticket task queue)
      | none => hub.setPass i (.sending queue)
    | _ => hub
  | .push i sent =>
    match hub.passes[i]? with
    | some (.loaded ticket task queue) =>
      { hub.setPass i (.sending queue) with
        pushed := hub.pushed ++
          [⟨ticket, taskFrame prost task ticket.taskId ticket.nodeId, sent⟩] }
    | _ => hub

def issued (hub : Hub) : List Ticket :=
  hub.pushed.map Push.ticket ++ hub.passes.flatMap Pass.tickets

def pushes (hub : Hub) (taskId : String) : Nat :=
  hub.pushed.countP fun p => p.ticket.taskId = taskId

def starts (hub : Hub) (taskId : String) : List Nat := retriesOf taskId hub.started

end Hub

structure BoundedDispatch (taskId : String) (limit : Nat) (hub : Hub) : Prop where
  retries : ∀ task, hub.scheduler.tasks.get taskId = some task →
    task.maxRetries = limit ∧ task.currentRetry ≤ limit
  pushes : ∀ task, hub.scheduler.tasks.get taskId = some task →
    hub.pushes taskId ≤ task.currentRetry + 1
  total : hub.pushes taskId ≤ limit + 1
  fromTransition : ∀ p ∈ hub.pushed, p.ticket ∈ hub.started
  atMostOnce : ∀ t, t.taskId = taskId → (hub.pushed.map Push.ticket).count t ≤ 1
  instances : (hub.starts taskId).Nodup

def submission (taskId : String) : HubStep → Option Nat
  | .call (.submitTask id _ _ limit _) => if id = taskId then some limit else none
  | _ => none

def submissions (taskId : String) (steps : List HubStep) : List Nat :=
  steps.filterMap (submission taskId)

/-! What a call does to a row, as far as dispatching depends on it: the counter
stays and the task does not go back to the queue, or it is raised below its limit. -/

def Task.Advance (task after : Task) : Prop :=
  after.maxRetries = task.maxRetries ∧
  ((after.currentRetry = task.currentRetry ∧ (after.state = .pending → task.state = .pending)) ∨
    (after.currentRetry = task.currentRetry + 1 ∧ task.currentRetry < task.maxRetries))

theorem Task.Advance.refl (task : Task) : task.Advance task := ⟨rfl, Or.inl ⟨rfl, id⟩⟩

theorem update_advance (task : Task) (result : ExecutionResult) :
    task.Advance (task.update result) := by
  cases result with
  | success => exact ⟨rfl, Or.inl ⟨rfl, nofun⟩⟩
  | checkpointSaved bytes => exact ⟨rfl, Or.inl ⟨rfl, id⟩⟩
  | immediateFailure reason => exact ⟨rfl, Or.inl ⟨rfl, nofun⟩⟩
  | retryNeeded reason =>
    unfold Task.update
    dsimp only
    split
    next room => exact ⟨rfl, Or.inr ⟨rfl, room⟩⟩
    next => exact ⟨rfl, Or.inl ⟨rfl, nofun⟩⟩

theorem nodeFailure_advance (nodeId : String) (task : Task) :
    task.Advance (task.nodeFailure nodeId) := by
  rcases task.nodeFailure_cases nodeId with ⟨same, _⟩ | ⟨_, _, ⟨_, room, after⟩ | ⟨reason, after⟩⟩
  · rw [same]
    exact .refl task
  · rw [after]
    exact ⟨rfl, Or.inr ⟨rfl, room⟩⟩
  · rw [after]
    exact ⟨rfl, Or.inl ⟨rfl, nofun⟩⟩

theorem call_advance (s : ProfileScheduler) (c : SchedulerCall) {id : String} {task : Task}
    (found : s.tasks.get id = some task) (other : id ∉ submitted [c])
    (noPass : ∀ time, c ≠ .dispatchPendingTasks time) :
    ∃ after, (s.call c).tasks.get id = some after ∧ task.Advance after := by
  cases c with
  | submitTask taskId kind payload limit caps =>
    have named : id ≠ taskId := by simpa [submitted] using other
    exact ⟨task, by rw [submit_get, if_neg named, found], .refl task⟩
  | updateTaskProgress taskId result =>
    rw [update_get, found]
    split
    · exact ⟨_, rfl, update_advance task result⟩
    · exact ⟨task, rfl, .refl task⟩
  | handleNodeFailure nodeId =>
    rw [failure_get, found]
    exact ⟨_, rfl, nodeFailure_advance nodeId task⟩
  | dispatchPendingTasks time => exact absurd rfl (noPass time)
  | rehash nodes tasks => exact ⟨task, (rehash_get s nodes tasks id).trans found, .refl task⟩
  | _ => exact ⟨task, found, .refl task⟩

/-! What a step of the hub can do, and what it adds to the two logs. -/

def Hub.newStarts (hub : Hub) : HubStep → List Ticket
  | .assign i =>
    match hub.passes[i]? with
    | some (.listed currentTime nodes) =>
      tickets hub.scheduler.tasks (dispatchWith nodes hub.scheduler.tasks currentTime).2
    | _ => []
  | _ => []

def Hub.newPushes (prost : Prost) (hub : Hub) : HubStep → List Push
  | .push i sent =>
    match hub.passes[i]? with
    | some (.loaded ticket task _) =>
      [⟨ticket, taskFrame prost task ticket.taskId ticket.nodeId, sent⟩]
    | _ => []
  | _ => []

inductive Hub.Stepped (prost : Prost) (hub : Hub) : HubStep → Hub → Prop where
  | called (c : SchedulerCall) : (∀ time, c ≠ .dispatchPendingTasks time) →
      Stepped prost hub (.call c) { hub with scheduler := hub.scheduler.call c }
  | entered (now : Nat) :
      Stepped prost hub (.enter now) { hub with passes := hub.passes ++ [.entered now] }
  | listed (i now : Nat) : hub.passes[i]? = some (.entered now) →
      Stepped prost hub (.listNodes i)
        (hub.setPass i (.listed now hub.scheduler.registry.listNodes))
  | assigned (i now : Nat) (nodes : List NodeProfile) : hub.passes[i]? = some (.listed now nodes) →
      Stepped prost hub (.assign i)
        { hub.setPass i (.sending (hub.newStarts (.assign i))) with
          scheduler := { hub.scheduler with tasks :=
            (dispatchWith nodes hub.scheduler.tasks now).1 }
          started := hub.started ++ hub.newStarts (.assign i) }
  | loaded (i : Nat) (ticket : Ticket) (task : Task) (queue : List Ticket) :
      hub.passes[i]? = some (.sending (ticket :: queue)) →
      hub.scheduler.tasks.get ticket.taskId = some task →
      Stepped prost hub (.load i) (hub.setPass i (.loaded ticket task queue))
  | dropped (i : Nat) (ticket : Ticket) (queue : List Ticket) :
      hub.passes[i]? = some (.sending (ticket :: queue)) →
      hub.scheduler.tasks.get ticket.taskId = none →
      Stepped prost hub (.load i) (hub.setPass i (.sending queue))
  | pushed (i : Nat) (sent : Bool) (ticket : Ticket) (task : Task) (queue : List Ticket) :
      hub.passes[i]? = some (.loaded ticket task queue) →
      Stepped prost hub (.push i sent)
        { hub.setPass i (.sending queue) with
          pushed := hub.pushed ++ hub.newPushes prost (.push i sent) }
  | idle (s : HubStep) : hub.newStarts s = [] → hub.newPushes prost s = [] → Stepped prost hub s hub

theorem hub_stepped (prost : Prost) (hub : Hub) (s : HubStep) :
    Hub.Stepped prost hub s (hub.step prost s) := by
  cases s with
  | call c =>
    cases c with
    | dispatchPendingTasks time => exact .idle _ rfl rfl
    | _ => exact .called _ nofun
  | enter now => exact .entered now
  | listNodes i =>
    cases here : hub.passes[i]? with
    | none => simpa only [Hub.step, here] using .idle _ rfl rfl
    | some pass =>
      cases pass with
      | entered now => simpa only [Hub.step, here] using .listed i now here
      | _ => simpa only [Hub.step, here] using .idle _ rfl rfl
  | assign i =>
    have idle (quiet : hub.newStarts (.assign i) = []) : Hub.Stepped prost hub (.assign i) hub :=
      .idle _ quiet rfl
    cases here : hub.passes[i]? with
    | none => simpa only [Hub.step, here] using idle (by simp only [Hub.newStarts, here])
    | some pass =>
      cases pass with
      | listed now nodes =>
        have assigned : Hub.Stepped prost hub (.assign i) _ := .assigned i now nodes here
        simpa only [Hub.step, Hub.newStarts, here] using assigned
      | _ => simpa only [Hub.step, here] using idle (by simp only [Hub.newStarts, here])
  | load i =>
    cases here : hub.passes[i]? with
    | none => simpa only [Hub.step, here] using .idle _ rfl rfl
    | some pass =>
      cases pass with
      | sending queue =>
        cases queue with
        | nil => simpa only [Hub.step, here] using .idle _ rfl rfl
        | cons ticket queue =>
          cases stored : hub.scheduler.tasks.get ticket.taskId with
          | some task =>
            simpa only [Hub.step, here, stored] using .loaded i ticket task queue here stored
          | none => simpa only [Hub.step, here, stored] using .dropped i ticket queue here stored
      | _ => simpa only [Hub.step, here] using .idle _ rfl rfl
  | push i sent =>
    have idle (quiet : hub.newPushes prost (.push i sent) = []) :
        Hub.Stepped prost hub (.push i sent) hub := .idle _ rfl quiet
    cases here : hub.passes[i]? with
    | none => simpa only [Hub.step, here] using idle (by simp only [Hub.newPushes, here])
    | some pass =>
      cases pass with
      | loaded ticket task queue =>
        have pushed : Hub.Stepped prost hub (.push i sent) _ :=
          .pushed i sent ticket task queue here
        simpa only [Hub.step, Hub.newPushes, here] using pushed
      | _ => simpa only [Hub.step, here] using idle (by simp only [Hub.newPushes, here])

theorem Hub.Stepped.logs {prost : Prost} {hub hub' : Hub} {s : HubStep}
    (stepped : Hub.Stepped prost hub s hub') :
    hub'.started = hub.started ++ hub.newStarts s ∧
      hub'.pushed = hub.pushed ++ hub.newPushes prost s := by
  have quiet (hub' : Hub) (started : hub'.started = hub.started)
      (pushed : hub'.pushed = hub.pushed) :
      hub'.started = hub.started ++ [] ∧ hub'.pushed = hub.pushed ++ [] := by
    rw [started, pushed, List.append_nil, List.append_nil]
    exact ⟨rfl, rfl⟩
  cases stepped with
  | called c _ => exact quiet _ rfl rfl
  | entered now => exact quiet _ rfl rfl
  | listed i now _ => exact quiet _ rfl rfl
  | loaded i ticket task queue _ _ => exact quiet _ rfl rfl
  | dropped i ticket queue _ _ => exact quiet _ rfl rfl
  | assigned i now nodes _ => exact ⟨rfl, (List.append_nil _).symm⟩
  | pushed i sent ticket task queue _ => exact ⟨(List.append_nil _).symm, rfl⟩
  | idle s starts pushes =>
    rw [starts, pushes]
    exact quiet hub rfl rfl

/-! The passes after a step. -/

theorem setPass_getElem? {hub : Hub} {i j : Nat} {next pass : Pass}
    (here : (hub.setPass j next).passes[i]? = some pass) :
    hub.passes[i]? = some pass ∨ (i = j ∧ next = pass) := by
  by_cases same : j = i
  · subst same
    have inside : j < hub.passes.length := by
      obtain ⟨inside, _⟩ := List.getElem?_eq_some_iff.mp here
      simpa [Hub.setPass] using inside
    refine Or.inr ⟨rfl, ?_⟩
    simpa [Hub.setPass, inside] using here
  · left
    simpa [Hub.setPass, List.getElem?_set_ne same] using here

/-- How a step makes a pass what it is after the step. -/
inductive Hub.Became (hub : Hub) : HubStep → Nat → Pass → Prop where
  | entered (now : Nat) : Became hub (.enter now) hub.passes.length (.entered now)
  | listed (i now : Nat) : hub.passes[i]? = some (.entered now) →
      Became hub (.listNodes i) i (.listed now hub.scheduler.registry.listNodes)
  | assigned (i now : Nat) (nodes : List NodeProfile) : hub.passes[i]? = some (.listed now nodes) →
      Became hub (.assign i) i (.sending (hub.newStarts (.assign i)))
  | loaded (i : Nat) (ticket : Ticket) (task : Task) (queue : List Ticket) :
      hub.passes[i]? = some (.sending (ticket :: queue)) →
      hub.scheduler.tasks.get ticket.taskId = some task →
      Became hub (.load i) i (.loaded ticket task queue)
  | dropped (i : Nat) (ticket : Ticket) (queue : List Ticket) :
      hub.passes[i]? = some (.sending (ticket :: queue)) → Became hub (.load i) i (.sending queue)
  | pushed (i : Nat) (sent : Bool) (ticket : Ticket) (task : Task) (queue : List Ticket) :
      hub.passes[i]? = some (.loaded ticket task queue) →
      Became hub (.push i sent) i (.sending queue)

theorem Hub.Stepped.pass {prost : Prost} {hub hub' : Hub} {s : HubStep}
    (stepped : Hub.Stepped prost hub s hub') {i : Nat} {pass : Pass}
    (here : hub'.passes[i]? = some pass) : hub.passes[i]? = some pass ∨ hub.Became s i pass := by
  have changed {j : Nat} {next : Pass} (became : hub.Became s j next)
      (there : (hub.setPass j next).passes[i]? = some pass) :
      hub.passes[i]? = some pass ∨ hub.Became s i pass := by
    rcases setPass_getElem? there with old | ⟨rfl, rfl⟩
    · exact Or.inl old
    · exact Or.inr became
  cases stepped with
  | called c _ => exact Or.inl here
  | idle s _ _ => exact Or.inl here
  | entered now =>
    rcases Nat.lt_or_ge i hub.passes.length with inside | outside
    · exact Or.inl ((List.getElem?_append_left inside).symm.trans here)
    · have last := (List.getElem?_append_right outside).symm.trans here
      obtain ⟨position, same⟩ := List.getElem?_eq_some_iff.mp last
      obtain rfl : i = hub.passes.length := by
        simp only [List.length_singleton] at position
        omega
      simp only [Nat.sub_self, List.getElem_singleton] at same
      subst same
      exact Or.inr (.entered now)
  | listed j now before => exact changed (.listed j now before) here
  | assigned j now nodes before => exact changed (.assigned j now nodes before) here
  | loaded j ticket task queue before stored =>
    exact changed (.loaded j ticket task queue before stored) here
  | dropped j ticket queue before _ => exact changed (.dropped j ticket queue before) here
  | pushed j sent ticket task queue before =>
    exact changed (.pushed j sent ticket task queue before) here

theorem listed_step (prost : Prost) {hub : Hub} {s : HubStep} {i now : Nat}
    {nodes : List NodeProfile}
    (here : (hub.step prost s).passes[i]? = some (.listed now nodes)) :
    hub.passes[i]? = some (.listed now nodes) ∨
      (s = .listNodes i ∧ nodes = hub.scheduler.registry.listNodes) := by
  rcases (hub_stepped prost hub s).pass here with old | became
  · exact Or.inl old
  · cases became with
    | listed _ _ _ => exact Or.inr ⟨rfl, rfl⟩

theorem loaded_step (prost : Prost) {hub : Hub} {s : HubStep} {i : Nat} {ticket : Ticket}
    {task : Task}
    {queue : List Ticket}
    (here : (hub.step prost s).passes[i]? = some (.loaded ticket task queue)) :
    hub.passes[i]? = some (.loaded ticket task queue) ∨
      (s = .load i ∧ hub.passes[i]? = some (.sending (ticket :: queue)) ∧
        hub.scheduler.tasks.get ticket.taskId = some task) := by
  rcases (hub_stepped prost hub s).pass here with old | became
  · exact Or.inl old
  · cases became with
    | loaded _ _ _ _ waiting stored => exact Or.inr ⟨rfl, waiting, stored⟩

/-! The same steps as far as tickets go: a call, an assignment that starts tasks,
or a move of tickets that have been issued before. -/

inductive Moves (hub hub' : Hub) : HubStep → Prop where
  | called (c : SchedulerCall) : (∀ time, c ≠ .dispatchPendingTasks time) →
      hub'.scheduler = hub.scheduler.call c → hub'.started = hub.started →
      hub'.issued = hub.issued → Moves hub hub' (.call c)
  | assigned (i currentTime : Nat) (nodes : List NodeProfile) :
      hub'.scheduler.tasks = (dispatchWith nodes hub.scheduler.tasks currentTime).1 →
      hub'.started = hub.started ++
        tickets hub.scheduler.tasks (dispatchWith nodes hub.scheduler.tasks currentTime).2 →
      hub'.issued.Perm (hub.issued ++
        tickets hub.scheduler.tasks (dispatchWith nodes hub.scheduler.tasks currentTime).2) →
      Moves hub hub' (.assign i)
  | moved (s : HubStep) : hub'.scheduler = hub.scheduler → hub'.started = hub.started →
      hub'.issued.Subperm hub.issued → Moves hub hub' s

theorem issued_setPass {hub : Hub} {i : Nat} {pass : Pass} (here : hub.passes[i]? = some pass)
    (next : Pass) : ∃ others : List Ticket, hub.issued.Perm (pass.tickets ++ others) ∧
      (hub.setPass i next).issued.Perm (next.tickets ++ others) := by
  obtain ⟨inside, at'⟩ := List.getElem?_eq_some_iff.mp here
  refine ⟨(hub.passes.eraseIdx i).flatMap Pass.tickets ++ hub.pushed.map Push.ticket, ?_, ?_⟩
  · have moved := (List.getElem_cons_eraseIdx_perm inside).symm.flatMap_right Pass.tickets
    rw [at', List.flatMap_cons] at moved
    rw [← List.append_assoc]
    exact List.perm_append_comm.trans (moved.append_right _)
  · have moved := (List.set_perm_cons_eraseIdx inside next).flatMap_right Pass.tickets
    rw [List.flatMap_cons] at moved
    rw [← List.append_assoc]
    exact List.perm_append_comm.trans (moved.append_right _)

theorem issued_setPass_subperm {hub : Hub} {i : Nat} {pass next : Pass}
    (here : hub.passes[i]? = some pass) (fewer : next.tickets.Sublist pass.tickets) :
    (hub.setPass i next).issued.Subperm hub.issued := by
  obtain ⟨others, before, after⟩ := issued_setPass here next
  exact (after.subperm.trans (fewer.append_right others).subperm).trans before.symm.subperm

theorem Hub.Stepped.moves {prost : Prost} {hub hub' : Hub} {s : HubStep}
    (stepped : Hub.Stepped prost hub s hub') : Moves hub hub' s := by
  cases stepped with
  | called c noPass => exact .called c noPass rfl rfl rfl
  | idle s _ _ => exact .moved s rfl rfl (List.Subperm.refl _)
  | entered now =>
    have same : ({ hub with passes := hub.passes ++ [.entered now] } : Hub).issued =
      hub.issued := by
      simp [Hub.issued, Pass.tickets]
    exact .moved _ rfl rfl (same ▸ List.Subperm.refl _)
  | listed i now here => exact .moved _ rfl rfl (issued_setPass_subperm here (List.Sublist.refl []))
  | loaded i ticket task queue here _ =>
    exact .moved _ rfl rfl (issued_setPass_subperm here (List.Sublist.refl (ticket :: queue)))
  | dropped i ticket queue here _ =>
    exact .moved _ rfl rfl (issued_setPass_subperm here (List.sublist_cons_self ticket queue))
  | assigned i now nodes here =>
    have new : hub.newStarts (.assign i) =
        tickets hub.scheduler.tasks (dispatchWith nodes hub.scheduler.tasks now).2 := by
      simp only [Hub.newStarts, here]
    rw [new]
    apply Moves.assigned i now nodes rfl rfl
    obtain ⟨others, before, after⟩ := issued_setPass here
      (.sending (tickets hub.scheduler.tasks (dispatchWith nodes hub.scheduler.tasks now).2))
    exact after.trans (List.perm_append_comm.trans (before.symm.append_right _))
  | pushed i sent ticket task queue here =>
    have new : hub.newPushes prost (.push i sent) =
        [⟨ticket, taskFrame prost task ticket.taskId ticket.nodeId, sent⟩] := by
      simp only [Hub.newPushes, here]
    rw [new]
    refine .moved _ rfl rfl ?_
    obtain ⟨others, before, after⟩ := issued_setPass here (.sending queue)
    -- the ticket goes from the pass to the pushes
    have moved : ((hub.setPass i (.sending queue)).issued ++ [ticket]).Perm hub.issued := by
      refine (after.append_right _).trans (List.Perm.trans ?_ before.symm)
      exact List.perm_append_singleton _ _
    refine List.Perm.subperm (List.Perm.trans ?_ moved)
    simp only [Hub.issued, Hub.setPass, List.map_append, List.map_cons, List.map_nil,
      List.append_assoc]
    exact List.perm_append_comm.append_left _

theorem fed_step (prost : Prost) (hub : Hub) (s : HubStep) (fed : hub.issued.Subperm hub.started) :
    (hub.step prost s).issued.Subperm (hub.step prost s).started := by
  cases (hub_stepped prost hub s).moves with
  | called c _ _ started issued =>
    rw [started, issued]
    exact fed
  | assigned i now nodes _ started issued =>
    rw [started]
    exact issued.subperm.trans (fed.append (List.Subperm.refl _))
  | moved _ _ started issued =>
    rw [started]
    exact issued.trans fed

theorem fed_run (prost : Prost) (registry : EphemeralRegistry) (steps : List HubStep) :
    (run (Hub.step prost) (Hub.start registry) steps).issued.Subperm
      (run (Hub.step prost) (Hub.start registry) steps).started := by
  have initial : (Hub.start registry).issued.Subperm (Hub.start registry).started :=
    List.Subperm.refl []
  exact run_invariant (fed_step prost) initial steps

/-! The invariant for a task id. -/

/-- The task has started at most once at each value of its retry counter so far. -/
structure DispatchInvariant (id : String) (limit : Nat) (hub : Hub) : Prop where
  instances : (hub.starts id).Nodup
  absent : hub.scheduler.tasks.get id = none → hub.starts id = []
  row : ∀ task, hub.scheduler.tasks.get id = some task →
    task.maxRetries = limit ∧ task.currentRetry ≤ limit ∧
    ∀ retry ∈ hub.starts id, retry ≤ task.currentRetry ∧
      (task.state = .pending → retry < task.currentRetry)

/-- A submission of the task finds its id free and carries the limit. -/
def SubmitsOnce (id : String) (limit : Nat) (hub : Hub) (s : HubStep) : Prop :=
  ∀ l, submission id s = some l → hub.scheduler.tasks.get id = none ∧ l = limit

theorem submission_call_none {id : String} {c : SchedulerCall}
    (silent : submission id (.call c) = none) : id ∉ submitted [c] := by
  cases c with
  | submitTask taskId kind payload l caps =>
    have other : taskId ≠ id := by simpa [submission] using silent
    simpa [submitted] using other.symm
  | _ => simp [submitted]

theorem filter_listed_once {dispatches : List (String × String)} {id node : String}
    (distinct : (dispatches.map Prod.fst).Nodup) (listed : (id, node) ∈ dispatches) :
    dispatches.filter (fun d => d.1 = id) = [(id, node)] := by
  induction dispatches with
  | nil => cases listed
  | cons d rest ih =>
    obtain ⟨fresh, others⟩ := List.nodup_cons.mp distinct
    rcases List.mem_cons.mp listed with same | later
    · subst same
      have no_more : rest.filter (fun d => d.1 = id) = [] := by
        apply List.filter_eq_nil_iff.mpr
        intro e member same
        have key : e.1 = id := by simpa using same
        exact fresh (List.mem_map.mpr ⟨e, member, key⟩)
      simp [no_more]
    · have other : d.1 ≠ id := by
        intro same
        exact fresh (List.mem_map.mpr ⟨(id, node), later, same.symm⟩)
      simp [other, ih others later]

theorem retriesOf_tickets (id : String) (tasks : TaskTable) (dispatches : List (String × String)) :
    retriesOf id (tickets tasks dispatches) = (dispatches.filter fun d => d.1 = id).map fun d =>
      ((tasks.get d.1).map Task.currentRetry).getD 0 := by
  simp only [retriesOf, tickets, List.filter_map, List.map_map]
  rfl

theorem retriesOf_assign (id : String) (tasks : TaskTable) (nodes : List NodeProfile) (now : Nat) :
    (retriesOf id (tickets tasks (dispatchWith nodes tasks now).2) = [] ∧
      (dispatchWith nodes tasks now).1.get id = tasks.get id) ∨
    ∃ task node, tasks.get id = some task ∧ task.state = .pending ∧
      (dispatchWith nodes tasks now).1.get id = some { task with state := .running node now } ∧
      retriesOf id (tickets tasks (dispatchWith nodes tasks now).2) = [task.currentRetry] := by
  have unlisted (h : id ∉ (dispatchWith nodes tasks now).2.map Prod.fst) :
      retriesOf id (tickets tasks (dispatchWith nodes tasks now).2) = [] := by
    rw [retriesOf_tickets, List.map_eq_nil_iff, List.filter_eq_nil_iff]
    intro d member same
    exact h (List.mem_map.mpr ⟨d, member, by simpa using same⟩)
  have fate := dispatchWith_fate nodes tasks now id
  generalize found : tasks.get id = row at fate
  cases fate with
  | absent later outside => exact Or.inl ⟨unlisted outside, later⟩
  | kept _ _ later outside => exact Or.inl ⟨unlisted outside, later⟩
  | placed task node pending _ _ later listed =>
    refine Or.inr ⟨task, node.nodeId, rfl, pending, later, ?_⟩
    rw [retriesOf_tickets, filter_listed_once (dispatchWith_tickets_nodup nodes tasks now) listed]
    simp [found]

theorem invariant_call {id : String} {limit : Nat} {hub hub' : Hub} {c : SchedulerCall}
    (inv : DispatchInvariant id limit hub) (fresh : SubmitsOnce id limit hub (.call c))
    (noPass : ∀ time, c ≠ .dispatchPendingTasks time)
    (called : hub'.scheduler = hub.scheduler.call c)
    (started : hub'.started = hub.started) : DispatchInvariant id limit hub' := by
  have starts : hub'.starts id = hub.starts id := by rw [Hub.starts, started, Hub.starts]
  constructor
  · rw [starts]
    exact inv.instances
  · intro gone
    rw [starts]
    cases found : hub.scheduler.tasks.get id with
    | none => exact inv.absent found
    | some task =>
      obtain ⟨after, later⟩ := call_keeps_row hub.scheduler c found
      rw [called, later] at gone
      cases gone
  · intro after later
    rw [called] at later
    rw [starts]
    cases found : hub.scheduler.tasks.get id with
    | none =>
      have unstarted := inv.absent found
      cases submits : submission id (.call c) with
      | none =>
        rw [call_get_none hub.scheduler c (submission_call_none submits) found] at later
        cases later
      | some l =>
        obtain ⟨_, same⟩ := fresh l submits
        cases c with
        | submitTask taskId kind payload l' caps =>
          obtain ⟨named, rfl⟩ : taskId = id ∧ l' = l := by simpa [submission] using submits
          rw [submit_get, if_pos named.symm] at later
          cases later
          exact ⟨same, Nat.zero_le _, by simp [unstarted]⟩
        | _ => cases submits
    | some task =>
      have other : submission id (.call c) = none := by
        cases submits : submission id (.call c) with
        | none => rfl
        | some l =>
          rw [(fresh l submits).1] at found
          cases found
      obtain ⟨row, there, most, advance⟩ := call_advance hub.scheduler c found
        (submission_call_none other) noPass
      cases later.symm.trans there
      obtain ⟨same, room, bound⟩ := inv.row task found
      rcases advance with ⟨counter, queue⟩ | ⟨counter, below⟩
      · refine ⟨most.trans same, by omega, fun retry member => ?_⟩
        obtain ⟨le, lt⟩ := bound retry member
        rw [counter]
        exact ⟨le, fun pending => lt (queue pending)⟩
      · refine ⟨most.trans same, by omega, fun retry member => ?_⟩
        obtain ⟨le, _⟩ := bound retry member
        omega

theorem invariant_assign {id : String} {limit : Nat} {hub hub' : Hub} {nodes : List NodeProfile}
    {now : Nat} (inv : DispatchInvariant id limit hub)
    (tasks : hub'.scheduler.tasks = (dispatchWith nodes hub.scheduler.tasks now).1)
    (started : hub'.started =
      hub.started ++ tickets hub.scheduler.tasks (dispatchWith nodes hub.scheduler.tasks now).2) :
    DispatchInvariant id limit hub' := by
  have starts : hub'.starts id = hub.starts id ++
      retriesOf id (tickets hub.scheduler.tasks (dispatchWith nodes hub.scheduler.tasks now).2) :=
        by
    simp only [Hub.starts, retriesOf, started, List.filter_append, List.map_append]
  rcases retriesOf_assign id hub.scheduler.tasks nodes now with
    ⟨unstarted, same⟩ | ⟨task, node, found, pending, later, one⟩
  · rw [unstarted, List.append_nil] at starts
    refine ⟨by rw [starts]; exact inv.instances, ?_, ?_⟩
    · rw [tasks, same, starts]
      exact inv.absent
    · rw [tasks, same, starts]
      exact inv.row
  · obtain ⟨limits, room, bound⟩ := inv.row task found
    rw [one] at starts
    refine ⟨?_, ?_, ?_⟩
    · -- all earlier starts were at a smaller counter
      rw [starts, List.nodup_append]
      refine ⟨inv.instances, List.nodup_singleton _, ?_⟩
      intro earlier member now' last
      rw [List.mem_singleton.mp last]
      have lt := (bound earlier member).2 pending
      omega
    · intro gone
      rw [tasks, later] at gone
      cases gone
    · intro after there
      rw [tasks, later] at there
      cases there
      refine ⟨limits, room, fun retry member => ⟨?_, nofun⟩⟩
      rw [starts] at member
      rcases List.mem_append.mp member with earlier | last
      · exact (bound retry earlier).1
      · exact Nat.le_of_eq (List.mem_singleton.mp last)

theorem invariant_step (prost : Prost) {id : String} {limit : Nat} (hub : Hub) (s : HubStep)
    (inv : DispatchInvariant id limit hub) (fresh : SubmitsOnce id limit hub s) :
    DispatchInvariant id limit (hub.step prost s) := by
  cases (hub_stepped prost hub s).moves with
  | called c noPass called started _ => exact invariant_call inv fresh noPass called started
  | assigned i now nodes tasks started _ => exact invariant_assign inv tasks started
  | moved _ scheduler started _ =>
    refine ⟨?_, ?_, ?_⟩
    · rw [Hub.starts, started]
      exact inv.instances
    · rw [scheduler, Hub.starts, started]
      exact inv.absent
    · rw [scheduler, Hub.starts, started]
      exact inv.row

theorem invariant_start (registry : EphemeralRegistry) (id : String) (limit : Nat) :
    DispatchInvariant id limit (Hub.start registry) :=
  ⟨List.nodup_nil, fun _ => rfl, nofun⟩

theorem nodup_length_le {l : List Nat} {n : Nat} (distinct : l.Nodup) (bound : ∀ r ∈ l, r ≤ n) :
    l.length ≤ n + 1 := by
  have inside : l ⊆ List.range (n + 1) := by
    intro r member
    have le := bound r member
    exact List.mem_range.mpr (by omega)
  have shorter := (List.subperm_of_subset distinct inside).length_le
  rwa [List.length_range] at shorter

theorem bounded_of_invariant {id : String} {limit : Nat} {hub : Hub}
    (fed : hub.issued.Subperm hub.started) (inv : DispatchInvariant id limit hub) :
    BoundedDispatch id limit hub := by
  have pushed : (hub.pushed.map Push.ticket).Subperm hub.started := by
    have first : (hub.pushed.map Push.ticket).Subperm hub.issued :=
      (List.sublist_append_left _ _).subperm
    exact first.trans fed
  have fewer : hub.pushes id ≤ (hub.starts id).length := by
    have counted := pushed.countP_le fun t => t.taskId = id
    rw [List.countP_map] at counted
    rw [Hub.starts, retriesOf, List.length_map, ← List.countP_eq_length_filter]
    exact counted
  have perRow : ∀ task, hub.scheduler.tasks.get id = some task →
      hub.pushes id ≤ task.currentRetry + 1 := by
    intro task found
    obtain ⟨_, _, bound⟩ := inv.row task found
    have length := nodup_length_le inv.instances fun retry member => (bound retry member).1
    omega
  refine ⟨?_, perRow, ?_, ?_, ?_, inv.instances⟩
  · intro task found
    obtain ⟨same, room, _⟩ := inv.row task found
    exact ⟨same, room⟩
  · cases found : hub.scheduler.tasks.get id with
    | none =>
      rw [inv.absent found] at fewer
      exact Nat.le_trans fewer (Nat.zero_le _)
    | some task =>
      have most := perRow task found
      have room := (inv.row task found).2.1
      omega
  · intro p member
    exact pushed.subset (List.mem_map_of_mem member)
  · intro t named
    have counted := pushed.count_le t
    have once : hub.started.count t ≤ 1 := by
      have most := List.nodup_iff_count_le_one.mp inv.instances t.retry
      have inTask : (hub.started.filter fun t => t.taskId = id).count t = hub.started.count t :=
        List.count_filter (by simpa using named)
      have fewer : (hub.started.filter fun t => t.taskId = id).count t ≤
          (hub.starts id).count t.retry := List.count_le_count_map
      omega
    omega

theorem step_get_none (prost : Prost) {id : String} {hub : Hub} {s : HubStep}
    (silent : submission id s = none) (absent : hub.scheduler.tasks.get id = none) :
    (hub.step prost s).scheduler.tasks.get id = none := by
  cases (hub_stepped prost hub s).moves with
  | called c _ called _ _ =>
    rw [called]
    exact call_get_none hub.scheduler c (submission_call_none silent) absent
  | assigned i now nodes tasks _ _ =>
    rw [tasks]
    rcases retriesOf_assign id hub.scheduler.tasks nodes now with ⟨_, same⟩ | ⟨task, _, found, _⟩
    · rw [same, absent]
    · rw [absent] at found
      cases found
  | moved _ scheduler _ _ => rw [scheduler, absent]

theorem submitsOnce_of_none (prost : Prost) {id : String} {limit : Nat} {hub : Hub}
    {steps : List HubStep} (silent : submissions id steps = []) :
    Along (Hub.step prost) (SubmitsOnce id limit) hub steps := by
  induction steps generalizing hub with
  | nil => trivial
  | cons s rest ih =>
    obtain ⟨head, tail⟩ : submission id s = none ∧ submissions id rest = [] := by
      simpa [submissions] using silent
    refine ⟨fun l submits => ?_, ih tail⟩
    rw [head] at submits
    cases submits

theorem submitsOnce_along (prost : Prost) {id : String} {limit : Nat} {hub : Hub}
    {steps : List HubStep} (once : submissions id steps = [limit])
    (absent : hub.scheduler.tasks.get id = none) :
    Along (Hub.step prost) (SubmitsOnce id limit) hub steps := by
  induction steps generalizing hub with
  | nil => cases once
  | cons s rest ih =>
    cases head : submission id s with
    | none =>
      have tail : submissions id rest = [limit] := by simpa [submissions, head] using once
      refine ⟨fun l submits => ?_, ih tail (step_get_none prost head absent)⟩
      rw [head] at submits
      cases submits
    | some l =>
      obtain ⟨same, tail⟩ : l = limit ∧ submissions id rest = [] := by
        simpa [submissions, head] using once
      refine ⟨fun l' submits => ?_, submitsOnce_of_none prost tail⟩
      rw [head] at submits
      cases submits
      exact ⟨absent, same⟩

/-- In every state of every run that submits the task once, its retries and the
pushes for it are bounded by its limit, and no transition is pushed twice. -/
theorem dispatch_bounded (prost : Prost) (registry : EphemeralRegistry) (id : String) (limit : Nat)
    (steps : List HubStep) (once : submissions id steps = [limit]) (before after : List HubStep)
    (split : steps = before ++ after) :
    BoundedDispatch id limit (run (Hub.step prost) (Hub.start registry) before) := by
  have along : Along (Hub.step prost) (SubmitsOnce id limit) (Hub.start registry) steps :=
    submitsOnce_along prost once rfl
  rw [split, along_append] at along
  exact bounded_of_invariant (fed_run prost registry before)
    (run_invariant_along (invariant_step prost) (invariant_start registry id limit) along.1)

/-- Two passes that both list the nodes before either assigns, and a late retry. -/
def overlappingPasses : List HubStep :=
  [.call (.registerNode ⟨"n", "linux", [], 0, ""⟩),
    .call (.submitTask "t" .statelessIdempotent [] 3 []),
    .enter 1, .enter 1, .listNodes 0, .listNodes 1, .assign 0, .assign 1, .load 0, .push 0 true,
    .call (.updateTaskProgress "t" (.retryNeeded "late")), .load 1]

theorem dispatch_bounded_overlapping :
    BoundedDispatch "t" 3 (run (Hub.step topology) (Hub.start .new) overlappingPasses) :=
  dispatch_bounded topology .new "t" 3 overlappingPasses rfl overlappingPasses []
    (List.append_nil _).symm

section History
variable (prost : Prost) (registry : EphemeralRegistry)

def hubAfter (steps : List HubStep) : Hub := run (Hub.step prost) (Hub.start registry) steps

theorem hubAfter_append (xs ys : List HubStep) :
    hubAfter prost registry (xs ++ ys) = run (Hub.step prost) (hubAfter prost registry xs) ys :=
  run_append _ xs ys

theorem hubAfter_snoc (xs : List HubStep) (s : HubStep) :
    hubAfter prost registry (xs ++ [s]) = (hubAfter prost registry xs).step prost s :=
  hubAfter_append prost registry xs [s]

end History

/-! A pass that runs alone is `dispatch_now`. -/

def Push.attempt (p : Push) : PushAttempt := ⟨p.ticket.taskId, p.ticket.nodeId, p.frame, p.sent⟩

def sends (socket : PushSocket) (pass : Nat) : Nat → Nat → List HubStep
  | _, 0 => []
  | attempt, n + 1 =>
    .load pass :: .push pass (socket.accepts attempt) :: sends socket pass (attempt + 1) n

/-- The steps of one pass, the last of a hub, with the sends for `n` tickets. -/
def soloPass (socket : PushSocket) (hub : Hub) (currentTime n : Nat) : List HubStep :=
  .enter currentTime :: .listNodes hub.passes.length :: .assign hub.passes.length ::
    sends socket hub.passes.length 0 n

theorem run_sends (prost : Prost) (socket : PushSocket) (attempt : Nat) {i : Nat} {hub : Hub}
    {queue : List Ticket} (here : hub.passes[i]? = some (.sending queue))
    (stored : ∀ t ∈ queue, ∃ task, hub.scheduler.tasks.get t.taskId = some task) :
    ∃ new, (run (Hub.step prost) hub (sends socket i attempt queue.length)).pushed =
      hub.pushed ++ new ∧
      (run (Hub.step prost) hub (sends socket i attempt queue.length)).scheduler = hub.scheduler ∧
      new.map Push.attempt =
        sendAll prost socket hub.scheduler.tasks attempt
          (queue.map fun t => (t.taskId, t.nodeId)) := by
  induction queue generalizing hub attempt with
  | nil => exact ⟨[], (List.append_nil _).symm, rfl, rfl⟩
  | cons t rest ih =>
    obtain ⟨task, found⟩ := stored t List.mem_cons_self
    obtain ⟨inside, _⟩ := List.getElem?_eq_some_iff.mp here
    let push : Push := ⟨t, taskFrame prost task t.taskId t.nodeId, socket.accepts attempt⟩
    have loaded : hub.step prost (.load i) = hub.setPass i (.loaded t task rest) := by
      simp only [Hub.step, here, found]
    have inPass : (hub.setPass i (.loaded t task rest)).passes[i]? = some
        (.loaded t task rest) := by
      simp [Hub.setPass, inside]
    let next : Hub :=
      { hub.setPass i (.sending rest) with pushed := hub.pushed ++ [push] }
    have pushed : (hub.setPass i (.loaded t task rest)).step prost
        (.push i (socket.accepts attempt)) =
        next := by
      simp only [Hub.step, inPass]
      simp [next, push, Hub.setPass]
    have ready : next.passes[i]? = some (.sending rest) := by simp [next, Hub.setPass, inside]
    obtain ⟨new, pushes, scheduler, attempts⟩ :=
      ih (attempt + 1) ready fun u member => stored u (List.mem_cons_of_mem t member)
    refine ⟨push :: new, ?_, ?_, ?_⟩
    · rw [List.length_cons, sends, run_cons, run_cons, loaded, pushed, pushes]
      simp [next]
    · rw [List.length_cons, sends, run_cons, run_cons, loaded, pushed, scheduler]
      rfl
    · have tail : new.map Push.attempt = sendAll prost socket hub.scheduler.tasks (attempt + 1)
          (rest.map fun t => (t.taskId, t.nodeId)) := attempts
      simp only [List.map_cons, tail, sendAll, found]
      rfl

theorem solo_pass_is_dispatchNow (prost : Prost) (socket : PushSocket) (hub : Hub) (now : Nat) :
    ∃ new, (run (Hub.step prost) hub (soloPass socket hub now
        (hub.scheduler.dispatchPendingTasks now).2.length)).pushed = hub.pushed ++ new ∧
      (run (Hub.step prost) hub (soloPass socket hub now
        (hub.scheduler.dispatchPendingTasks now).2.length)).scheduler =
          (dispatchNow prost socket hub.scheduler now).1 ∧
      new.map Push.attempt = (dispatchNow prost socket hub.scheduler now).2 := by
  let dispatches := (hub.scheduler.dispatchPendingTasks now).2
  let queue := tickets hub.scheduler.tasks dispatches
  let assigned : Hub :=
    { scheduler := (hub.scheduler.dispatchPendingTasks now).1
      passes := hub.passes ++ [.sending queue]
      started := hub.started ++ queue
      pushed := hub.pushed }
  have reached : (((hub.step prost (.enter now)).step prost (.listNodes hub.passes.length)).step
      prost
      (.assign hub.passes.length)) = assigned := by
    simp [Hub.step, Hub.setPass, assigned, queue, dispatches, ProfileScheduler.dispatchPendingTasks]
  have here : assigned.passes[hub.passes.length]? = some (.sending queue) := by simp [assigned]
  have stored : ∀ t ∈ queue, ∃ task, assigned.scheduler.tasks.get t.taskId = some task := by
    intro t member
    obtain ⟨d, listed, rfl⟩ := List.mem_map.mp member
    exact dispatchNow_stored hub.scheduler now d listed
  have length : queue.length = dispatches.length := List.length_map _
  have back : queue.map (fun t => (t.taskId, t.nodeId)) = dispatches := by
    simp [queue, tickets, Function.comp_def]
  obtain ⟨new, pushes, scheduler, attempts⟩ := run_sends prost socket 0 here stored
  rw [length] at pushes scheduler
  rw [back] at attempts
  refine ⟨new, ?_, ?_, attempts⟩
  · rw [soloPass, run_cons, run_cons, run_cons, reached]
    exact pushes
  · rw [soloPass, run_cons, run_cons, run_cons, reached]
    exact scheduler

end SeamlessSwarm
