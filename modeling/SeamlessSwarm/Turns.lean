import SeamlessSwarm.Lib.Rotation
import SeamlessSwarm.Scheduler

/-! The turns of a dispatch pass. The tasks that a pass places are numbered in the
order it meets them, and the number alone decides which of its capable nodes a
task goes to. -/
namespace SeamlessSwarm

/-- The tasks that a pass places, each with its turn. -/
def turns (nodes : List NodeProfile) : Nat → List Task → List (Task × Nat)
  | _, [] => []
  | nodeIdx, task :: rest =>
    if Dispatchable nodes task then (task, nodeIdx) :: turns nodes (nodeIdx + 1) rest
    else turns nodes nodeIdx rest

/- How many tasks a pass places before it comes to the next one. -/
def placedBefore (nodes : List NodeProfile) (before : List Task) : Nat :=
  before.countP fun task => decide (Dispatchable nodes task)

def turnNode (nodes : List NodeProfile) (t : Task × Nat) : Option NodeProfile :=
  Rotation.turn (capable nodes t.1) t.2

section Pass
variable (nodes : List NodeProfile)

theorem chosen_of_dispatchable {task : Task} (able : Dispatchable nodes task) (idx : Nat) :
    chosen nodes idx task = turnNode nodes (task, idx) :=
  if_pos able.1

theorem chosen_none {task : Task} (unable : ¬ Dispatchable nodes task) (idx : Nat) :
    chosen nodes idx task = none := by
  have sound := chosen_sound nodes idx task
  cases choice : chosen nodes idx task with
  | none => rfl
  | some node =>
    rw [choice] at sound
    exact absurd ⟨sound.1, node, sound.2⟩ unable

theorem turnNode_ne_none {task : Task} (able : Dispatchable nodes task) (idx : Nat) :
    turnNode nodes (task, idx) ≠ none := by
  obtain ⟨_, node, member, fits⟩ := able
  intro none
  have nobody := (Rotation.turn_eq_none_iff _ _).mp none
  exact List.ne_nil_of_mem ((mem_capable nodes).mpr ⟨member, fits⟩) nobody

theorem tickets_turns (idx : Nat) (tasks : List Task) :
    (assignments nodes idx tasks).filterMap ticket = (turns nodes idx tasks).filterMap fun t =>
      (turnNode nodes t).map fun node => (t.1.taskId, node.nodeId) := by
  induction tasks generalizing idx with
  | nil => rfl
  | cons task rest ih =>
    by_cases able : Dispatchable nodes task
    · have choice := chosen_of_dispatchable nodes able idx
      obtain ⟨node, falls⟩ := Option.ne_none_iff_exists'.mp (turnNode_ne_none nodes able idx)
      rw [falls] at choice
      simp only [assignments, choice, turns, able, if_true, List.filterMap_cons, falls, ticket,
        Option.map_some, ih]
    · have choice := chosen_none nodes able idx
      simp only [assignments, choice, turns, able, if_false, List.filterMap_cons, ticket,
        Option.map_none, ih]

theorem dispatchWith_turns (tasks : TaskTable) (now : Nat) :
    (dispatchWith nodes tasks now).2 = (turns nodes 0 tasks.rows).filterMap fun t =>
      (turnNode nodes t).map fun node => (t.1.taskId, node.nodeId) := by
  unfold dispatchWith
  split
  · rename_i empty
    have no_nodes : nodes = [] := List.isEmpty_iff.mp empty
    have nobody : ∀ t : Task × Nat, turnNode nodes t = none := by
      intro t
      rw [no_nodes]
      rfl
    simp only [nobody, Option.map_none, List.filterMap_none]
  · rw [dispatchLoop_tickets, tickets_turns]

theorem mem_turns {idx : Nat} {tasks : List Task} {task : Task} {k : Nat} :
    (task, k) ∈ turns nodes idx tasks ↔ ∃ before after, tasks = before ++ task :: after ∧
      Dispatchable nodes task ∧ k = idx + placedBefore nodes before := by
  induction tasks generalizing idx with
  | nil =>
    constructor
    · nofun
    · rintro ⟨before, after, split, _⟩
      cases before <;> cases split
  | cons head rest ih =>
    constructor
    · intro member
      by_cases able : Dispatchable nodes head
      · simp only [turns, able, if_true, List.mem_cons] at member
        rcases member with first | later
        · cases first
          exact ⟨[], rest, rfl, able, rfl⟩
        · obtain ⟨before, after, split, fits, rfl⟩ := ih.mp later
          refine ⟨head :: before, after, by rw [split]; rfl, fits, ?_⟩
          simp only [placedBefore, List.countP_cons, able, decide_true, if_true]
          omega
      · simp only [turns, able, if_false] at member
        obtain ⟨before, after, split, fits, rfl⟩ := ih.mp member
        refine ⟨head :: before, after, by rw [split]; rfl, fits, ?_⟩
        simp [placedBefore, able]
    · rintro ⟨before, after, split, fits, rfl⟩
      cases before with
      | nil =>
        cases split
        simp [turns, fits, placedBefore]
      | cons first before =>
        cases split
        by_cases able : Dispatchable nodes head
        · simp only [turns, able, if_true, List.mem_cons]
          right
          apply ih.mpr
          refine ⟨before, after, rfl, fits, ?_⟩
          simp only [placedBefore, List.countP_cons, able, decide_true, if_true]
          omega
        · simp only [turns, able, if_false]
          apply ih.mpr
          exact ⟨before, after, rfl, fits, by simp [placedBefore, able]⟩

theorem mem_dispatches_iff (tasks : TaskTable) (now : Nat) (id node : String) :
    (id, node) ∈ (dispatchWith nodes tasks now).2 ↔
      ∃ before task after profile, tasks.rows = before ++ task :: after ∧ task.taskId = id ∧
        task.state = .pending ∧ turnNode nodes (task, placedBefore nodes before) = some profile ∧
        profile.nodeId = node := by
  rw [dispatchWith_turns]
  simp only [List.mem_filterMap, Option.map_eq_some_iff, Prod.mk.injEq]
  constructor
  · rintro ⟨⟨task, k⟩, listed, profile, falls, named, target⟩
    obtain ⟨before, after, split, able, rfl⟩ := (mem_turns nodes).mp listed
    rw [Nat.zero_add] at falls
    exact ⟨before, task, after, profile, split, named, able.1, falls, target⟩
  · rintro ⟨before, task, after, profile, split, named, pending, falls, target⟩
    obtain ⟨member, fits⟩ := (mem_capable nodes).mp (Rotation.mem_of_turn falls)
    refine ⟨(task, placedBefore nodes before), ?_, profile, falls, named, target⟩
    apply (mem_turns nodes).mpr
    exact ⟨before, after, split, ⟨pending, profile, member, fits⟩, (Nat.zero_add _).symm⟩

theorem turns_numbers (idx : Nat) (tasks : List Task) :
    (turns nodes idx tasks).map Prod.snd = List.range' idx (turns nodes idx tasks).length := by
  induction tasks generalizing idx with
  | nil => rfl
  | cons task rest ih =>
    by_cases able : Dispatchable nodes task
    · simp only [turns, able, if_true, List.map_cons, List.length_cons, List.range'_succ, ih]
    · simp only [turns, able, if_false, ih]

end Pass
end SeamlessSwarm
