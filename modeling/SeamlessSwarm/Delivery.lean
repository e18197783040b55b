import Mathlib.Data.List.Induction
import SeamlessSwarm.Passes
import SeamlessSwarm.Worker

/-! From the push socket to the workers. The socket hands each frame to one
connected worker, whichever it likes, and a worker executes what it is handed. -/
namespace SeamlessSwarm
open Trace

/-- The hub, the workers connected to its push socket by their node ids, the
frames that the socket holds, and all executions so far. -/
structure Swarm where
  hub : Hub
  connected : List String
  inFlight : List Push
  executed : List (String × TaskDefinition)

inductive SwarmStep where
  | hub (s : HubStep)
  | connect (worker : String)
  | disconnect (worker : String)
  | deliver (frame : Nat) (worker : String)
  deriving DecidableEq

def executes (prost : Prost) (handed : Push × String) : List (String × TaskDefinition) :=
  match receiveTask prost handed.1.frame with
  | .accept task => [(handed.2, task)]
  | _ => []

namespace Swarm

def start (registry : EphemeralRegistry) : Swarm := ⟨Hub.start registry, [], [], []⟩

def handed (s : Swarm) : SwarmStep → Option (Push × String)
  | .deliver k worker => if worker ∈ s.connected then s.inFlight[k]?.map (·, worker) else none
  | _ => none

def executions (prost : Prost) (s : Swarm) (a : SwarmStep) : List (String × TaskDefinition) :=
  match s.handed a with
  | some handed => executes prost handed
  | none => []

def step (prost : Prost) (s : Swarm) (a : SwarmStep) : Swarm :=
  match a with
  | .hub h =>
    let hub := s.hub.step prost h
    { s with
      hub := hub
      inFlight := s.inFlight ++ (hub.pushed.drop s.hub.pushed.length).filter Push.sent }
  | .connect worker => { s with connected := worker :: s.connected }
  | .disconnect worker => { s with connected := s.connected.filter (· ≠ worker) }
  | .deliver k worker =>
    match s.handed (.deliver k worker) with
    | some handed =>
      { s with inFlight := s.inFlight.eraseIdx k, executed := s.executed ++ executes prost handed }
    | none => s

end Swarm

section Law
variable (prost : Prost) (registry : EphemeralRegistry)

def swarm (steps : List SwarmStep) : Swarm := run (Swarm.step prost) (Swarm.start registry) steps

/-- Some pass of the run moved the task from pending to running on this node, which
was registered, with the capabilities it requires, when that pass listed the nodes. -/
def ChosenIn (steps : List SwarmStep) (taskId worker : String) : Prop :=
  ∃ xs i zs task since, steps = xs ++ .hub (.assign i) :: zs ∧
    (swarm prost registry xs).hub.scheduler.tasks.get taskId = some task ∧ task.state = .pending ∧
    (swarm prost registry (xs ++ [.hub (.assign i)])).hub.scheduler.tasks.get taskId =
      some { task with state := .running worker since } ∧
    ∃ us vs node, xs = us ++ .hub (.listNodes i) :: vs ∧
      node ∈ (swarm prost registry us).hub.scheduler.registry.listNodes ∧ node.nodeId = worker ∧
      nodeMatchesCapabilities node task.requiredCapabilities = true

/-- Every execution of the run is one for the node that the scheduler chose. -/
def ExecutesWhereChosen (steps : List SwarmStep) : Prop :=
  ∀ before a after, steps = before ++ a :: after →
    ∀ worker task, (worker, task) ∈ (swarm prost registry before).executions prost a →
      task.moduleTarget = worker ∧ ChosenIn prost registry before task.taskId worker

/-- A delivery hands a frame to the worker that the frame names. -/
def HandsToTarget (s : Swarm) (a : SwarmStep) : Prop :=
  ∀ push worker, s.handed a = some (push, worker) →
    ∀ task, receiveTask prost push.frame = .accept task → task.moduleTarget = worker

def FramesFit (s : Swarm) (a : SwarmStep) : Prop :=
  ∀ push worker, s.handed a = some (push, worker) → push.frame.length < 4294967301

end Law

/-! What the hub's pushes are: each is for one of its tickets and carries its task. -/

structure Hub.Traceable (prost : Prost) (hub : Hub) : Prop where
  fed : hub.issued.Subperm hub.started
  framed : ∀ p ∈ hub.pushed, ∃ task, p.frame = taskFrame prost task p.ticket.taskId p.ticket.nodeId

theorem Hub.Traceable.started {prost : Prost} {hub : Hub} (inv : Hub.Traceable prost hub) {p : Push}
    (pushed : p ∈ hub.pushed) : p.ticket ∈ hub.started :=
  inv.fed.subset (List.mem_append_left _ (List.mem_map_of_mem pushed))

theorem newPushes_frame {prost : Prost} {hub : Hub} {s : HubStep} {p : Push}
    (member : p ∈ hub.newPushes prost s) :
    ∃ task, p.frame = taskFrame prost task p.ticket.taskId p.ticket.nodeId := by
  unfold Hub.newPushes at member
  split at member
  · split at member
    next ticket task _ _ =>
      rw [List.mem_singleton.mp member]
      exact ⟨task, rfl⟩
    next => cases member
  · cases member

theorem Hub.traceable_step {prost : Prost} {hub : Hub} (inv : Hub.Traceable prost hub)
    (s : HubStep) :
    Hub.Traceable prost (hub.step prost s) := by
  refine ⟨fed_step prost hub s inv.fed, ?_⟩
  intro p member
  rw [(hub_stepped prost hub s).logs.2] at member
  rcases List.mem_append.mp member with old | new
  · exact inv.framed p old
  · exact newPushes_frame new

theorem pushed_mono {prost : Prost} {hub : Hub} {p : Push} (s : HubStep) (member : p ∈ hub.pushed) :
    p ∈ (hub.step prost s).pushed := by
  rw [(hub_stepped prost hub s).logs.2]
  exact List.mem_append_left _ member

/-! The history of a run: what a pass has listed, and where the frames in flight come from. -/

section History
variable (prost : Prost) (registry : EphemeralRegistry)

theorem swarm_append (xs ys : List SwarmStep) :
    swarm prost registry (xs ++ ys) = run (Swarm.step prost) (swarm prost registry xs) ys :=
  run_append _ xs ys

theorem listed_history {steps : List SwarmStep} {i now : Nat} {nodes : List NodeProfile}
    (here : (swarm prost registry steps).hub.passes[i]? = some (.listed now nodes)) :
    ∃ us vs, steps = us ++ .hub (.listNodes i) :: vs ∧
      nodes = (swarm prost registry us).hub.scheduler.registry.listNodes := by
  induction steps using List.reverseRecOn with
  | nil => simp [swarm, Swarm.start, Hub.start] at here
  | append_singleton xs a ih =>
    have earlier (h : (swarm prost registry xs).hub.passes[i]? = some (.listed now nodes)) :
        ∃ us vs, xs ++ [a] = us ++ .hub (.listNodes i) :: vs ∧
          nodes = (swarm prost registry us).hub.scheduler.registry.listNodes := by
      obtain ⟨us, vs, split, same⟩ := ih h
      exact ⟨us, vs ++ [a], by simp [split], same⟩
    rw [swarm_append, run_cons, run_nil] at here
    cases a with
    | hub s =>
      rcases listed_step prost here with old | ⟨rfl, same⟩
      · exact earlier old
      · exact ⟨xs, [], rfl, same⟩
    | connect worker => exact earlier here
    | disconnect worker => exact earlier here
    | deliver k worker =>
      apply earlier
      unfold Swarm.step at here
      dsimp only at here
      split at here <;> exact here

end History

structure Traceable (prost : Prost) (s : Swarm) : Prop where
  hub : Hub.Traceable prost s.hub
  held : ∀ p ∈ s.inFlight, p ∈ s.hub.pushed

theorem traceable_step (prost : Prost) (s : Swarm) (a : SwarmStep) (inv : Traceable prost s) :
    Traceable prost (s.step prost a) := by
  cases a with
  | hub h =>
    refine ⟨Hub.traceable_step inv.hub h, fun p member => ?_⟩
    rcases List.mem_append.mp member with old | new
    · exact pushed_mono h (inv.held p old)
    · exact List.mem_of_mem_drop (List.mem_filter.mp new).1
  | connect worker => exact ⟨inv.hub, inv.held⟩
  | disconnect worker => exact ⟨inv.hub, inv.held⟩
  | deliver k worker =>
    unfold Swarm.step
    dsimp only
    split
    · exact ⟨inv.hub, fun p member => inv.held p (List.mem_of_mem_eraseIdx member)⟩
    · exact inv

theorem traceable_run (prost : Prost) (registry : EphemeralRegistry) (steps : List SwarmStep) :
    Traceable prost (swarm prost registry steps) := by
  have initial : Traceable prost (Swarm.start registry) :=
    ⟨⟨List.Subperm.refl [], by nofun⟩, by nofun⟩
  exact run_invariant (traceable_step prost) initial steps

theorem chosenIn_of_started (prost : Prost) (registry : EphemeralRegistry) {steps : List SwarmStep}
    {t : Ticket} (started : t ∈ (swarm prost registry steps).hub.started) :
    ChosenIn prost registry steps t.taskId t.nodeId := by
  let new (s : Swarm) : SwarmStep → List Ticket
    | .hub h => s.hub.newStarts h
    | _ => []
  have grows : ∀ s a, (Swarm.step prost s a).hub.started = s.hub.started ++ new s a := by
    intro s a
    cases a with
    | hub h => exact ((hub_stepped prost s.hub h).logs).1
    | connect worker => exact (List.append_nil _).symm
    | disconnect worker => exact (List.append_nil _).symm
    | deliver k worker =>
      unfold Swarm.step
      dsimp only
      split <;> exact (List.append_nil _).symm
  rcases logged_at (fun s => s.hub.started) new grows started with initial | ⟨xs, a, zs,
    split, added⟩
  · cases initial
  · cases a with
    | hub h =>
      cases h with
      | assign i =>
        have added' : t ∈ (swarm prost registry xs).hub.newStarts (.assign i) := added
        cases here : (swarm prost registry xs).hub.passes[i]? with
        | none => simp [Hub.newStarts, here] at added'
        | some pass =>
          cases pass with
          | listed now nodes =>
            simp only [Hub.newStarts, here] at added'
            obtain ⟨d, listed, rfl⟩ := List.mem_map.mp added'
            obtain ⟨task, node, found, pending, member, named, fits, later⟩ := ticket_placed listed
            obtain ⟨us, vs, earlier, same⟩ := listed_history prost registry here
            refine ⟨xs, i, zs, task, now, split, found, pending, ?_, us, vs, node, earlier, ?_,
              named, fits⟩
            · rw [swarm_append, run_cons, run_nil]
              simp only [Swarm.step, Hub.step, here]
              exact later
            · rw [← same]
              exact member
          | _ => simp [Hub.newStarts, here] at added'
      | _ => cases added
    | _ => cases added

theorem receiveTask_frame (prost : Prost) (task : Task) (id node : String)
    (fits : (taskFrame prost task id node).length < 4294967301) :
    receiveTask prost (taskFrame prost task id node) = .accept (taskDef task id node) :=
  receiveTask_definition prost (taskDef task id node) fits

theorem handed_inFlight {s : Swarm} {a : SwarmStep} {p : Push} {worker : String}
    (handed : s.handed a = some (p, worker)) : p ∈ s.inFlight := by
  cases a with
  | deliver k w =>
    simp only [Swarm.handed] at handed
    split at handed
    · obtain ⟨q, here, same⟩ := Option.map_eq_some_iff.mp handed
      cases same
      exact List.mem_of_getElem? here
    · cases handed
  | _ => cases handed

theorem executions_iff {prost : Prost} {s : Swarm} {a : SwarmStep} {worker : String}
    {task : TaskDefinition} : (worker, task) ∈ s.executions prost a ↔
      ∃ p, s.handed a = some (p, worker) ∧ receiveTask prost p.frame = .accept task := by
  unfold Swarm.executions
  cases handed : s.handed a with
  | none => simp
  | some pair =>
    obtain ⟨p, w⟩ := pair
    simp only [executes, Option.some.injEq, Prod.mk.injEq]
    cases read : receiveTask prost p.frame with
    | accept task' =>
      constructor
      · intro member
        cases List.mem_singleton.mp member
        exact ⟨p, ⟨rfl, rfl⟩, read⟩
      · rintro ⟨q, ⟨rfl, rfl⟩, same⟩
        cases read.symm.trans same
        exact List.mem_singleton_self _
    | _ =>
      constructor
      · intro member
        cases member
      · rintro ⟨q, ⟨rfl, rfl⟩, same⟩
        cases read.symm.trans same

/-- A run executes tasks only where they were assigned exactly when each delivery
hands its frame to the worker that the frame names. -/
theorem executes_where_chosen_iff_handed_to_target (prost : Prost) (registry : EphemeralRegistry)
    (steps : List SwarmStep) :
    (Along (Swarm.step prost) FramesFit (Swarm.start registry) steps →
      (ExecutesWhereChosen prost registry steps ↔
        Along (Swarm.step prost) (HandsToTarget prost) (Swarm.start registry) steps)) ∧
    (ExecutesWhereChosen prost registry steps →
      Along (Swarm.step prost) (HandsToTarget prost) (Swarm.start registry) steps) := by
  have only : ExecutesWhereChosen prost registry steps →
      Along (Swarm.step prost) (HandsToTarget prost) (Swarm.start registry) steps := by
    intro chosen
    apply (along_iff_split _ _).mpr
    intro before a after split p worker handed task read
    exact (chosen before a after split worker task (executions_iff.mpr ⟨p, handed, read⟩)).1
  refine ⟨fun fit => ⟨only, fun hands => ?_⟩, only⟩
  intro before a after split worker task executed
  obtain ⟨p, handed, read⟩ := executions_iff.mp executed
  have fits := (along_iff_split _ _).mp fit before a after split p worker handed
  have target := (along_iff_split _ _).mp hands before a after split p worker handed task read
  have trace := traceable_run prost registry before
  have pushed := trace.held p (handed_inFlight handed)
  obtain ⟨source, framed⟩ := trace.hub.framed p pushed
  rw [framed] at fits read
  cases (receiveTask_frame prost source _ _ fits).symm.trans read
  have chosen := chosenIn_of_started prost registry (trace.hub.started pushed)
  rw [← target]
  exact ⟨rfl, chosen⟩

section Example

private def renderPushed : List SwarmStep :=
  [.connect "a", .connect "b",
    .hub (.call (.registerNode ⟨"a", "linux", [⟨"cap", "string", "blender"⟩], 0, ""⟩)),
    .hub (.call (.registerNode ⟨"b", "linux", [], 0, ""⟩)),
    .hub (.call (.submitTask "t" .statelessIdempotent [] 3 ["blender"])),
    .hub (.enter 1), .hub (.listNodes 0), .hub (.assign 0), .hub (.load 0), .hub (.push 0 true)]

private def rendered : Task := ⟨"t", .statelessIdempotent, [], 3, .running "a" 1, 0, ["blender"]⟩

private def renderPush : Push := ⟨⟨"t", "a", 0⟩, taskFrame topology rendered "t" "a", true⟩

private theorem handed_render (worker : String) (member : worker ∈ ["b", "a"]) :
    (swarm topology .new renderPushed).handed (.deliver 0 worker) = some (renderPush, worker) :=
  if_pos member

private theorem render_fits : (taskFrame topology rendered "t" "a").length < 4294967301 := by
  decide +kernel

private theorem read_render : receiveTask topology renderPush.frame = .accept
    (taskDef rendered "t" "a") :=
  receiveTask_frame topology rendered "t" "a" render_fits

/-- Nothing is handed to a worker up to the push, so a condition on what is handed holds. -/
private theorem along_renderPushed {Q : Swarm → SwarmStep → Push → String → Prop} :
    Along (Swarm.step topology)
      (fun s a => ∀ push worker, s.handed a = some (push, worker) → Q s a push worker)
      (Swarm.start .new) renderPushed := by
  have still : ∀ a ∈ renderPushed, ∀ s : Swarm,
      s.handed a = none := by simp [renderPushed, Swarm.handed]
  apply along_of_mem
  intro a member s push worker handed
  rw [still a member s] at handed
  cases handed

theorem executes_where_chosen_render :
    ExecutesWhereChosen topology .new (renderPushed ++ [.deliver 0 "a"]) := by
  refine ((executes_where_chosen_iff_handed_to_target topology .new _).1 ?_).mpr ?_
  · refine (along_append _ _ _).mpr ⟨along_renderPushed, ?_, trivial⟩
    intro push worker handed
    cases (handed_render "a" (by decide)).symm.trans handed
    exact render_fits
  · refine (along_append _ _ _).mpr ⟨along_renderPushed, ?_, trivial⟩
    intro push worker handed task read
    cases (handed_render "a" (by decide)).symm.trans handed
    cases read_render.symm.trans read
    rfl

/-- Handed to the other worker, it is executed there all the same. -/
theorem misdelivered_task_is_executed :
    ¬ ExecutesWhereChosen topology .new (renderPushed ++ [.deliver 0 "b"]) := by
  intro chosen
  have executed := executions_iff.mpr ⟨renderPush, handed_render "b" (by decide), read_render⟩
  have target := (chosen renderPushed (.deliver 0 "b") [] rfl _ _ executed).1
  have other : "a" ≠ "b" := by decide
  exact other target

end Example

end SeamlessSwarm
