import SeamlessSwarm.RoleLoop

/-! Which leader a follower stays with. Its health check asks whether any leader is
known, and not whether the one that it is connected to is. -/
namespace SeamlessSwarm
open Trace

structure NodeRun where
  actions : List TimedAction
  ordered : actions.Pairwise fun earlier later => earlier.time ≤ later.time

/-- The leader has claimed to lead, under this address, less than ten seconds ago. -/
def ClaimedWithin (calls : List TimedCall) (leaderId leaderTcpBase : String) (now : Nat) : Prop :=
  ∃ t, (t, leaderTcpBase) ∈ claims leaderId calls ∧ now - t < peerTimeout

/-- Whenever a follower finds itself healthy, the leader that it is connected to is
known live. -/
def Attached (myId : String) (r : NodeRun) : Prop :=
  ∀ before now rows after leaderId leaderTcpBase,
    r.actions = before ++ ⟨now, .checkHealth rows⟩ :: after →
    (node myId before).role = .following leaderId leaderTcpBase →
    ((node myId before).step ⟨now, .checkHealth rows⟩).role = .following leaderId leaderTcpBase →
    ClaimedWithin (node myId before).calls leaderId leaderTcpBase now

/-- At a health check after the last claim of the follower's leader has run out, no
node is still heard that has claimed to lead since the flags were cleared. -/
def NoneClaimsAfter (myId : String) (r : NodeRun) : Prop :=
  ∀ before now rows after leaderId leaderTcpBase,
    r.actions = before ++ ⟨now, .checkHealth rows⟩ :: after →
    (node myId before).role = .following leaderId leaderTcpBase →
    (∀ t, (t, leaderTcpBase) ∈ claims leaderId (node myId before).calls → peerTimeout ≤ now - t) →
    ∀ other, other ≠ myId → claims other (sinceClear (node myId before).calls) ≠ [] →
      ∀ t ∈ heard other (node myId before).calls, peerTimeout ≤ now - t

/-! The election state of a node and its history. -/

theorem calls_step (s : Node) (a : TimedAction) :
    (s.step a).election = s.election ∧ (s.step a).calls = s.calls ∨
      ∃ call, (s.step a).election = s.election.step ⟨a.time, call⟩ ∧
        (s.step a).calls = s.calls ++ [⟨a.time, call⟩] := by
  obtain ⟨time, action⟩ := a
  have stepped := node_stepped s ⟨time, action⟩
  generalize s.step ⟨time, action⟩ = next at stepped
  cases stepped with
  | hears announcement => exact Or.inr ⟨announcement.toCall, rfl, rfl⟩
  | leads => exact Or.inr ⟨.setIAmLeader true, rfl, rfl⟩
  | stepsDown => exact Or.inr ⟨.setIAmLeader false, rfl, rfl⟩
  | clears => exact Or.inr ⟨.clearLeaderFlags, rfl, rfl⟩
  | _ => exact Or.inl ⟨rfl, rfl⟩

theorem node_election (myId : String) (actions : List TimedAction) :
    (node myId actions).election = election myId (node myId actions).calls := by
  induction actions using List.reverseRecOn with
  | nil => rfl
  | append_singleton actions a ih =>
    rw [node_snoc]
    rcases calls_step (node myId actions) a with ⟨same, calls⟩ | ⟨call, stepped, calls⟩
    · rw [same, calls, ih]
    · rw [stepped, calls, election_snoc, ← ih]

theorem calls_ordered (myId : String) {actions : List TimedAction}
    (ordered : actions.Pairwise fun earlier later => earlier.time ≤ later.time) :
    ((node myId actions).calls.Pairwise fun earlier later => earlier.time ≤ later.time) ∧
      ∀ c ∈ (node myId actions).calls, ∃ a ∈ actions, c.time = a.time := by
  induction actions using List.reverseRecOn with
  | nil => exact ⟨.nil, nofun⟩
  | append_singleton actions a ih =>
    obtain ⟨first, _, last⟩ := List.pairwise_append.mp ordered
    obtain ⟨sorted, timed⟩ := ih first
    have earlier : ∀ c ∈ (node myId actions).calls, ∃ b ∈ actions ++ [a], c.time = b.time := by
      intro c member
      obtain ⟨b, listed, same⟩ := timed c member
      exact ⟨b, List.mem_append_left _ listed, same⟩
    rw [node_snoc]
    rcases calls_step (node myId actions) a with ⟨_, calls⟩ | ⟨call, _, calls⟩
    · rw [calls]
      exact ⟨sorted, earlier⟩
    · rw [calls]
      constructor
      · refine List.pairwise_append.mpr ⟨sorted, List.pairwise_singleton _ _, ?_⟩
        intro c member d final
        obtain ⟨b, listed, same⟩ := timed c member
        rw [List.mem_singleton.mp final, same]
        exact last b listed a (List.mem_singleton_self a)
      · intro c member
        rcases List.mem_append.mp member with old | new
        · exact earlier c old
        · rw [List.mem_singleton.mp new]
          exact ⟨a, by simp, rfl⟩

theorem stays_iff (myId : String) (r : NodeRun) {before after : List TimedAction} {now : Nat}
    {rows : List PeerInfo} {leaderId leaderTcpBase : String}
    (split : r.actions = before ++ ⟨now, .checkHealth rows⟩ :: after)
    (following : (node myId before).role = .following leaderId leaderTcpBase) :
    ((node myId before).step ⟨now, .checkHealth rows⟩).role = .following leaderId leaderTcpBase ↔
      ∃ other, other ≠ myId ∧ claims other (sinceClear (node myId before).calls) ≠ [] ∧
        ∃ t ∈ heard other (node myId before).calls, now - t < peerTimeout := by
  have ordered := r.ordered
  rw [split] at ordered
  have reports := reports_iff myId ⟨_, (calls_ordered myId (List.pairwise_append.mp ordered).1).1⟩
    now rows
  rw [← reports, ← node_election]
  simp only [Node.step, following]
  cases found : ((node myId before).election.rehash rows).currentLeader now with
  | some leader => simp [following]
  | none => simp

/-- A follower stays with live leaders only, in exactly the runs in which nobody that
has claimed to lead is still heard once its own leader's claims have run out. -/
theorem attached_iff_none_claims_after (myId : String) (r : NodeRun) :
    Attached myId r ↔ NoneClaimsAfter myId r := by
  constructor
  · intro attached before now rows after leaderId leaderTcpBase split following lapsed other foreign
      claimed t member
    by_contra fresh
    have stays := (stays_iff myId r split following).mpr
      ⟨other, foreign, claimed, t, member, Nat.lt_of_not_le fresh⟩
    obtain ⟨seen, claim, recent⟩ :=
      attached before now rows after leaderId leaderTcpBase split following stays
    have old := lapsed seen claim
    omega
  · intro silent before now rows after leaderId leaderTcpBase split following stays
    obtain ⟨other, foreign, claimed, t, member, fresh⟩ :=
      (stays_iff myId r split following).mp stays
    by_contra lapsed
    have old := silent before now rows after leaderId leaderTcpBase split following
      (fun seen claim => Nat.le_of_not_lt fun recent => lapsed ⟨seen, claim, recent⟩)
      other foreign claimed t member
    omega

section Example

private def handover : NodeRun where
  actions :=
    [⟨0, .hear (.leader "l" "10.0.0.1")⟩, ⟨5000000000, .evaluate []⟩, ⟨5000000000, .connected true⟩,
      ⟨9000000000, .hear (.leader "m" "10.0.0.2")⟩, ⟨11000000000, .checkHealth []⟩]
  ordered := by simp

theorem follower_stays_with_vanished_leader : ¬ Attached "n" handover := by
  intro attached
  obtain ⟨t, claim, recent⟩ := attached (handover.actions.take 4) 11000000000 []
    [] "l" "10.0.0.1" rfl
    rfl rfl
  have only : t = 0 := by
    have claims : claims "l" (node "n" (handover.actions.take 4)).calls = [(0, "10.0.0.1")] := rfl
    simpa [claims] using claim
  subst only
  exact absurd recent (by decide)

end Example

end SeamlessSwarm
