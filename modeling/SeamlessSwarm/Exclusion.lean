import SeamlessSwarm.RoleLoop

/-! Whether the two roles of a node exclude each other. Nothing that a role starts
is stopped when it ends: the hub of a term goes on beside the next leader, and the
node cannot lead again. -/
namespace SeamlessSwarm
open Trace

structure Exclusive (s : Node) : Prop where
  serving : s.servers ≠ [] → s.election.iAmLeader = true
  pulling : s.pulls.length ≤ 1
  ended : s.role = .disconnected ∨ s.role = .steppedDown →
    (∀ server, (s.term, server) ∉ s.servers) ∧ s.term ∉ s.pulls
  rebinds : s.role = .startingHub → s.servers = []

def RolesExclusive (myId : String) (actions : List TimedAction) : Prop :=
  ∀ before after, actions = before ++ after → Exclusive (node myId before)

/-- The action does not bind the hub's ports, and if it makes a follower return, the
follower's pull loop is over. -/
structure LeavesNothing (s : Node) (a : TimedAction) : Prop where
  hub : s.role = .startingHub → a.action = .startHub true → s.bound = true
  pull : ∀ rows leaderId leaderTcpBase, s.role = .following leaderId leaderTcpBase →
    a.action = .checkHealth rows → (s.election.rehash rows).currentLeader a.time = none →
    s.term ∉ s.pulls

theorem step_iAmLeader (s : ElectionState) (c : TimedCall) :
    (s.step c).iAmLeader =
      match c.call with
      | .setIAmLeader isLeader => isLeader
      | _ => s.iAmLeader := by
  obtain ⟨time, call⟩ := c
  cases call with
  | observePeer nodeId =>
    simp only [ElectionState.step, ElectionState.observePeer]
    split <;> rfl
  | observeLeader nodeId leaderTcpBase =>
    simp only [ElectionState.step, ElectionState.observeLeader]
    split <;> rfl
  | clearLeaderFlags => rfl
  | setIAmLeader isLeader => rfl

theorem announced_iAmLeader (s : ElectionState) (time : Nat) (announcement : Announcement) :
    (s.step ⟨time, announcement.toCall⟩).iAmLeader = s.iAmLeader := by
  rw [step_iAmLeader]
  cases announcement <;> rfl

/-! The flag is set in the monitor loop only. -/

def FlagWhileLeading (s : Node) : Prop := s.election.iAmLeader = true → s.role = .leading

theorem flag_step (s : Node) (a : TimedAction) (inv : FlagWhileLeading s) :
    FlagWhileLeading (s.step a) := by
  obtain ⟨time, action⟩ := a
  have stepped := node_stepped s ⟨time, action⟩
  generalize s.step ⟨time, action⟩ = next at stepped
  intro flag
  cases stepped
  case idle | serves | pullEnds | serverEnds => exact inv flag
  case hears announcement => exact inv ((announced_iAmLeader _ _ _).symm.trans flag)
  case leads => rfl
  case stepsDown => cases (step_iAmLeader _ _).symm.trans flag
  case clears here =>
    have leading := inv ((step_iAmLeader _ _).symm.trans flag)
    cases here.symm.trans leading
  all_goals
    have leading := inv flag
    simp_all

theorem flag_run (myId : String) (actions : List TimedAction) :
    FlagWhileLeading (node myId actions) :=
  run_invariant flag_step (fun flag => by cases flag) actions

/-! The hub of a term. -/

theorem bound_iff (s : Node) : s.bound = true ↔ ∃ term, (term, HubServer.taskPush) ∈ s.servers := by
  simp [Node.bound]

theorem bound_serverEnds {s : Node} {term : Nat} {server : HubServer} (other : server ≠ .taskPush)
    (bound : s.bound = true) :
    { s with servers := s.servers.erase (term, server) : Node }.bound = true := by
  obtain ⟨first, serving⟩ := (bound_iff s).mp bound
  have kept : (first, HubServer.taskPush) ≠ (term, server) :=
    fun same => other (Prod.mk.inj same).2.symm
  exact (bound_iff _).mpr ⟨first, (List.mem_erase_of_ne kept).mpr serving⟩

/-- Once its sockets are bound, a hub is there until the process ends. -/
def HubOpen (s : Node) : Prop := s.bound = true ∨ s.role = .panicked

theorem hub_open_step (s : Node) (a : TimedAction) (inv : HubOpen s) : HubOpen (s.step a) := by
  obtain ⟨time, action⟩ := a
  have stepped := node_stepped s ⟨time, action⟩
  generalize s.step ⟨time, action⟩ = next at stepped
  rcases inv with bound | panicked
  · cases stepped with
    | binds _ unbound => cases bound.symm.trans unbound
    | panics => exact Or.inr rfl
    | serverEnds term server other => exact Or.inl (bound_serverEnds other bound)
    | _ => exact Or.inl bound
  · cases stepped
    case idle | hears | serves | pullEnds | serverEnds => exact Or.inr panicked
    case panics => exact Or.inr rfl
    all_goals simp_all

theorem hub_outlives_role (s : Node) (bound : s.bound = true) (actions : List TimedAction) :
    HubOpen (run Node.step s actions) :=
  run_invariant hub_open_step (Or.inl bound) actions

/-- The hub is up from its start until after the step-down. -/
def HubUp (s : Node) : Prop :=
  s.role = .hubStarted ∨ s.role = .leading ∨ s.role = .steppedDown → s.bound = true

theorem hub_up_step (s : Node) (a : TimedAction) (inv : HubUp s) : HubUp (s.step a) := by
  obtain ⟨time, action⟩ := a
  have stepped := node_stepped s ⟨time, action⟩
  generalize s.step ⟨time, action⟩ = next at stepped
  intro office
  cases stepped
  case idle | hears | serves | pullEnds => exact inv office
  case serverEnds term server other => exact bound_serverEnds other (inv office)
  case binds => simp [bound_iff, HubServer.all]
  case leads here => exact inv (Or.inl here)
  case stepsDown here => exact inv (Or.inr (Or.inl here))
  all_goals simp at office

theorem stepped_down_serves (myId : String) (actions : List TimedAction)
    (here : (node myId actions).role = .steppedDown) :
    (node myId actions).bound = true ∧ (node myId actions).election.iAmLeader = false := by
  constructor
  · exact run_invariant hub_up_step (by simp [HubUp, Node.start]) actions (Or.inr (Or.inr here))
  · rw [Bool.eq_false_iff]
    intro flag
    cases here.symm.trans (flag_run myId actions flag)

theorem second_term_panics (s : Node) (bound : s.bound = true) (here : s.role = .startingHub)
    (time : Nat) (free : Bool) : (s.step ⟨time, .startHub free⟩).role = .panicked := by
  simp [Node.step, here, Node.startServers, bound]

/-! Nodes that never lead. -/

structure OnlyFollows (s : Node) : Prop where
  servers : s.servers = []
  loopbacks : s.loopbacks = []
  role : s.role ≠ .hubStarted ∧ s.role ≠ .leading
  pulls : s.pulls = [] ∨
    s.pulls = [s.term] ∧ ∃ leaderId leaderTcpBase, s.role = .following leaderId leaderTcpBase

theorem OnlyFollows.start (myId : String) : OnlyFollows (Node.start myId) where
  servers := rfl
  loopbacks := rfl
  role := by simp [Node.start]
  pulls := Or.inl rfl

theorem OnlyFollows.idle {s : Node} (inv : OnlyFollows s)
    (other : ∀ leaderId leaderTcpBase, s.role ≠ .following leaderId leaderTcpBase) :
    s.pulls = [] := by
  rcases inv.pulls with none | ⟨_, leaderId, leaderTcpBase, here⟩
  · exact none
  · exact absurd here (other leaderId leaderTcpBase)

theorem OnlyFollows.exclusive {s : Node} (inv : OnlyFollows s) : Exclusive s where
  serving := fun some => absurd inv.servers some
  pulling := by rcases inv.pulls with none | ⟨one, _⟩ <;> simp [*]
  ended := by
    intro returned
    have none := inv.idle fun _ _ here => by
      rw [here] at returned
      rcases returned with other | other <;> cases other
    simp [inv.servers, none]
  rebinds := fun _ => inv.servers

theorem only_follows_step (s : Node) (a : TimedAction) (inv : OnlyFollows s)
    (leaves : LeavesNothing s a) :
    OnlyFollows (s.step a) := by
  obtain ⟨time, action⟩ := a
  have stepped := node_stepped s ⟨time, action⟩
  generalize s.step ⟨time, action⟩ = next at stepped
  have idle (role : Role) (here : s.role = role)
      (other : ∀ leaderId leaderTcpBase, role ≠ .following leaderId leaderTcpBase) : s.pulls = [] :=
    inv.idle fun leaderId leaderTcpBase following =>
      other leaderId leaderTcpBase (here.symm.trans following)
  cases stepped with
  | idle => exact inv
  | hears => exact ⟨inv.servers, inv.loopbacks, inv.role, inv.pulls⟩
  | joins _ _ _ here =>
    exact ⟨inv.servers, inv.loopbacks, ⟨nofun, nofun⟩, Or.inl (idle _ here nofun)⟩
  | misses _ here => exact ⟨inv.servers, inv.loopbacks, ⟨nofun, nofun⟩, Or.inl (idle _ here nofun)⟩
  | stands here => exact ⟨inv.servers, inv.loopbacks, ⟨nofun, nofun⟩, Or.inl (idle _ here nofun)⟩
  | waits here => exact ⟨inv.servers, inv.loopbacks, ⟨nofun, nofun⟩, Or.inl (idle _ here nofun)⟩
  | connects leaderId leaderTcpBase here =>
    have none := idle _ here nofun
    exact ⟨inv.servers, inv.loopbacks, ⟨nofun, nofun⟩,
      Or.inr ⟨by simp [none], leaderId, leaderTcpBase, rfl⟩⟩
  | refused _ _ here =>
    exact ⟨inv.servers, inv.loopbacks, ⟨nofun, nofun⟩, Or.inl (idle _ here nofun)⟩
  | loses rows leaderId leaderTcpBase here offline =>
    have stopped := leaves.pull rows leaderId leaderTcpBase here rfl offline
    refine ⟨inv.servers, inv.loopbacks, ⟨nofun, nofun⟩, Or.inl ?_⟩
    rcases inv.pulls with none | ⟨one, _⟩
    · exact none
    · rw [one] at stopped
      exact absurd (List.mem_singleton_self _) stopped
  | binds here unbound => cases unbound.symm.trans (leaves.hub here rfl)
  | panics => exact ⟨rfl, rfl, ⟨nofun, nofun⟩, Or.inl rfl⟩
  | leads here => exact absurd here inv.role.1
  | serves term ok waiting =>
    rw [inv.loopbacks] at waiting
    cases waiting
  | stepsDown here => exact absurd here inv.role.2
  | clears here => exact ⟨inv.servers, inv.loopbacks, ⟨nofun, nofun⟩, Or.inl (idle _ here nofun)⟩
  | resumes here => exact ⟨inv.servers, inv.loopbacks, ⟨nofun, nofun⟩, Or.inl (idle _ here nofun)⟩
  | pullEnds term =>
    refine ⟨inv.servers, inv.loopbacks, inv.role, ?_⟩
    rcases inv.pulls with none | ⟨one, following⟩
    · exact Or.inl (by simp [none])
    · by_cases own : term = s.term
      · exact Or.inl (by simp [one, own])
      · exact Or.inr ⟨by simp [one, own], following⟩
  | serverEnds => exact ⟨by simp [inv.servers], inv.loopbacks, inv.role, inv.pulls⟩

theorem leaves_nothing_of_exclusive {s : Node} {a : TimedAction} (inv : FlagWhileLeading s)
    (next : Exclusive (s.step a)) : LeavesNothing s a := by
  obtain ⟨time, action⟩ := a
  constructor
  · intro starting starts
    cases starts
    by_contra free
    have bound : s.bound = false := Bool.eq_false_iff.mpr free
    have flag : s.election.iAmLeader = true := by
      have serving := next.serving
      simp only [Node.step, starting, Node.startServers, bound, Bool.not_false, Bool.and_self,
        if_true] at serving
      exact serving (by simp [HubServer.all])
    cases starting.symm.trans (inv flag)
  · intro rows leaderId leaderTcpBase following checks offline pulling
    cases checks
    have left : s.step ⟨time, .checkHealth rows⟩ = { s with role := .disconnected } := by
      simp only [Node.step, following, offline]
    rw [left] at next
    exact (next.ended (Or.inl rfl)).2 pulling

/-- The roles of a node are exclusive in exactly the runs in which it never starts its
hub and each pull loop is over when its follower returns. -/
theorem roles_exclusive_iff_leaves_nothing (myId : String) (actions : List TimedAction) :
    RolesExclusive myId actions ↔ Along Node.step LeavesNothing (Node.start myId) actions := by
  constructor
  · intro law
    rw [along_iff_split]
    intro before a after split
    have next := law (before ++ [a]) after (by rw [split]; simp)
    rw [node_snoc] at next
    exact leaves_nothing_of_exclusive (flag_run myId before) next
  · intro leaves before after split
    rw [split, along_append] at leaves
    exact (run_invariant_along only_follows_step (OnlyFollows.start myId) leaves.1).exclusive

section Example

/-- The node leads alone for a while, then hears one with a smaller id. -/
private def supersededRun : List TimedAction :=
  [⟨5000000000, .evaluate []⟩, ⟨5000000000, .decide⟩, ⟨5000000000, .startHub true⟩,
    ⟨5000000000, .announce⟩, ⟨6000000000, .loopbackConnected 1 true⟩,
    ⟨7000000000, .hear (.peer "a")⟩, ⟨8000000000, .monitor⟩]

theorem hub_outlives_step_down : ¬ RolesExclusive "b" supersededRun := by
  intro law
  have ended := (law supersededRun [] (List.append_nil _).symm).ended (Or.inr (by decide +kernel))
  exact ended.2 (by decide +kernel)

end Example

end SeamlessSwarm
