import Mathlib.Data.Finset.Max
import Mathlib.Data.String.Basic
import SeamlessSwarm.Election

/-! Who should lead: the rule that the smallest live id leads, and the agreement
of all nodes on it when each of them hears every other one and nobody else. -/
namespace SeamlessSwarm
open Trace

/-- Ids are compared by code points, which is also the order of their UTF-8 bytes. -/
def ElectionState.iShouldBeLeader (s : ElectionState) (now : Nat) : Bool :=
  (s.peers.rows.filter fun peer => peer.live now).all fun peer => decide (s.myId ≤ peer.nodeId)

def HeardWithin (h : History) (id : String) (now : Nat) : Prop :=
  ∃ t ∈ heard id h.calls, now - t < peerTimeout

/-- Each node of the set hears every other node of it, and none outside. -/
structure HearEachOther (ids : Finset String) (views : String → History) (now : Nat) : Prop where
  others : ∀ a ∈ ids, ∀ b ∈ ids, b ≠ a → HeardWithin (views a) b now
  only : ∀ a ∈ ids, ∀ b, b ∉ ids → ¬ HeardWithin (views a) b now

def answers (views : String → History) (orders : String → List PeerInfo) (now : Nat) (a : String) :
    Bool :=
  ((election a (views a).calls).rehash (orders a)).iShouldBeLeader now

theorem iShouldBeLeader_iff (s : ElectionState) (now : Nat) :
    s.iShouldBeLeader now = true ↔
      ∀ id peer, s.peers.get id = some peer → peer.live now = true → s.myId ≤ id := by
  simp only [ElectionState.iShouldBeLeader, List.all_eq_true, List.mem_filter, decide_eq_true_eq]
  constructor
  · intro smallest id peer found live
    have named := Keyed.Table.key_of_get found
    rw [← named]
    exact smallest peer ⟨Keyed.Table.mem_of_get found, live⟩
  · rintro smallest peer ⟨row, live⟩
    exact smallest peer.nodeId peer ((s.peers.mem_iff_get peer).mp row) live

theorem live_iff_heard {myId id : String} (other : id ≠ myId) (h : History) (now : Nat) :
    (∃ peer, (election myId h.calls).peers.get id = some peer ∧ peer.live now = true) ↔
      HeardWithin h id now := by
  rw [election_kept other, HeardWithin, heard_recent_iff]
  constructor
  · rintro ⟨peer, kept, live⟩
    obtain ⟨seen, last, same⟩ := Option.map_eq_some_iff.mp kept
    cases same
    exact ⟨seen, last, of_decide_eq_true live⟩
  · rintro ⟨seen, last, live⟩
    exact ⟨_, by rw [keptPeer, last]; rfl, decide_eq_true live⟩

theorem answers_iff (views : String → History) (orders : String → List PeerInfo) (now : Nat)
    (a : String) :
    answers views orders now a = true ↔ ∀ b, b ≠ a → HeardWithin (views a) b now → a ≤ b := by
  have rows (id : String) := (election a (views a).calls).peers.get_reorder (orders a) id
  have own : ((election a (views a).calls).rehash (orders a)).myId = a := election_myId a _
  rw [answers, iShouldBeLeader_iff, own]
  constructor
  · intro smallest b other recent
    obtain ⟨peer, found, live⟩ := (live_iff_heard other (views a) now).mpr recent
    exact smallest b peer ((rows b).trans found) live
  · intro smallest b peer found live
    have row := (rows b).symm.trans found
    have other : b ≠ a := by
      rintro rfl
      rw [election_own_absent] at row
      cases row
    exact smallest b other ((live_iff_heard other (views a) now).mp ⟨peer, row, live⟩)

/-- In a set of nodes that hear each other and nobody else, the node with the
smallest id, and no other, answers that it should lead. -/
theorem smallest_node_should_lead (ids : Finset String) (nonempty : ids.Nonempty)
    (views : String → History) (orders : String → List PeerInfo) (now : Nat)
    (hear : HearEachOther ids views now) :
    ∃ leader ∈ ids, (∀ a ∈ ids, leader ≤ a) ∧ answers views orders now leader = true ∧
      ∀ a ∈ ids, a ≠ leader → answers views orders now a = false := by
  have member := ids.min'_mem nonempty
  have least : ∀ a ∈ ids, ids.min' nonempty ≤ a := fun a inside => ids.min'_le a inside
  refine ⟨ids.min' nonempty, member, least, ?_, ?_⟩
  · apply (answers_iff views orders now _).mpr
    intro b _ recent
    by_contra larger
    have outside : b ∉ ids := fun inside => larger (least b inside)
    exact hear.only _ member b outside recent
  · intro a inside other
    apply Bool.eq_false_iff.mpr
    intro leads
    have recent := hear.others a inside _ member (Ne.symm other)
    have below := (answers_iff views orders now a).mp leads _ (Ne.symm other) recent
    exact other (le_antisymm below (least a inside))

section Example

private def heardAt (calls : List TimedCall)
    (ordered : calls.Pairwise fun earlier later => earlier.time ≤ later.time := by decide) :
    History :=
  ⟨calls, ordered⟩

/-- Three nodes at twelve seconds: each hears the two others, some twice, some by a
claim, and itself; a fourth one was heard too long ago. -/
private def threeViews (a : String) : History :=
  if a = "n-1" then
    heardAt [⟨0, .observeLeader "n-0" "10.0.0.9"⟩, ⟨3000000000, .observePeer "n-2"⟩,
      ⟨4000000000, .observePeer "n-1"⟩, ⟨5000000000, .observePeer "n-3"⟩]
  else if a = "n-2" then
    heardAt [⟨2000000000, .observePeer "n-0"⟩, ⟨4000000000, .observeLeader "n-1" "10.0.0.1"⟩,
      ⟨4000000000, .observePeer "n-3"⟩, ⟨11000000000, .observePeer "n-3"⟩]
  else
    heardAt [⟨4000000000, .observePeer "n-1"⟩, ⟨6000000000, .observeLeader "n-2" "10.0.0.2"⟩]

private theorem three_hear : HearEachOther {"n-1", "n-2", "n-3"} threeViews 12000000000 := by
  constructor
  · simp only [Finset.mem_insert, Finset.mem_singleton, HeardWithin]
    rintro a (rfl | rfl | rfl) b (rfl | rfl | rfl) other <;>
      first | exact absurd rfl other | simp [threeViews, heardAt, heard, TimedCall.heardFrom, peerTimeout]
  · simp only [Finset.mem_insert, Finset.mem_singleton, HeardWithin, not_or]
    rintro a (rfl | rfl | rfl) b ⟨first, second, third⟩ ⟨t, member, fresh⟩ <;>
      simp only [threeViews, heardAt, heard, TimedCall.heardFrom, peerTimeout] at member fresh <;> grind

theorem smallest_of_three_should_lead :
    ∃ leader ∈ ({"n-1", "n-2", "n-3"} : Finset String),
      (∀ a ∈ ({"n-1", "n-2", "n-3"} : Finset String), leader ≤ a) ∧
      answers threeViews (fun _ => []) 12000000000 leader = true ∧
      ∀ a ∈ ({"n-1", "n-2", "n-3"} : Finset String), a ≠ leader →
        answers threeViews (fun _ => []) 12000000000 a = false :=
  smallest_node_should_lead {"n-1", "n-2", "n-3"} ⟨"n-1", by simp⟩ threeViews (fun _ => [])
    12000000000 three_hear

end Example

end SeamlessSwarm
