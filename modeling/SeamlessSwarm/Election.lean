import Mathlib.Data.List.Induction
import SeamlessSwarm.Lib.Trace
import SeamlessSwarm.Lib.Table

/-! Leader election over announcements: what a node keeps about its peers, and
which of them it reports as the leader at a later time. -/
namespace SeamlessSwarm
open Trace

/-- Ten seconds; all times are in nanoseconds. -/
def peerTimeout : Nat := 10000000000

structure PeerInfo where
  nodeId : String
  lastSeen : Nat
  isLeader : Bool
  leaderTcpBase : Option String
  deriving DecidableEq

structure ElectionState where
  myId : String
  peers : Keyed.Table PeerInfo.nodeId
  iAmLeader : Bool
  deriving DecidableEq

def PeerInfo.live (peer : PeerInfo) (now : Nat) : Bool := now - peer.lastSeen < peerTimeout

namespace ElectionState

def new (myId : String) : ElectionState := ⟨myId, Keyed.Table.empty, false⟩

def entry (s : ElectionState) (nodeId : String) (now : Nat) : PeerInfo :=
  (s.peers.get nodeId).getD ⟨nodeId, now, false, none⟩

def observePeer (s : ElectionState) (nodeId : String) (now : Nat) : ElectionState :=
  if nodeId = s.myId then s
  else { s with peers := s.peers.insert { s.entry nodeId now with lastSeen := now } }

def observeLeader (s : ElectionState) (nodeId leaderTcpBase : String) (now : Nat) : ElectionState :=
  if nodeId = s.myId then s
  else
    { s with
      peers := s.peers.insert
        { s.entry nodeId now with
          lastSeen := now, isLeader := true, leaderTcpBase := some leaderTcpBase } }

def clearLeaderFlags (s : ElectionState) : ElectionState :=
  { s with peers := s.peers.mapRows (fun peer => { peer with isLeader := false }) fun _ => rfl }

/-- The first live leader in the iteration order of the peers. -/
def currentLeader (s : ElectionState) (now : Nat) : Option (String × String) :=
  ((s.peers.rows.filter fun peer => peer.isLeader && peer.live now).filterMap fun peer =>
    peer.leaderTcpBase.map fun base => (peer.nodeId, base)).head?

def setIAmLeader (s : ElectionState) (isLeader : Bool) : ElectionState :=
  { s with iAmLeader := isLeader }

def rehash (s : ElectionState) (rows : List PeerInfo) : ElectionState :=
  { s with peers := s.peers.reorder rows }

end ElectionState

inductive ElectionCall where
  | observePeer (nodeId : String)
  | observeLeader (nodeId leaderTcpBase : String)
  | clearLeaderFlags
  | setIAmLeader (isLeader : Bool)
  deriving DecidableEq

structure TimedCall where
  time : Nat
  call : ElectionCall
  deriving DecidableEq

def ElectionState.step (s : ElectionState) (c : TimedCall) : ElectionState :=
  match c.call with
  | .observePeer nodeId => s.observePeer nodeId c.time
  | .observeLeader nodeId leaderTcpBase => s.observeLeader nodeId leaderTcpBase c.time
  | .clearLeaderFlags => s.clearLeaderFlags
  | .setIAmLeader isLeader => s.setIAmLeader isLeader

def election (myId : String) (calls : List TimedCall) : ElectionState :=
  run ElectionState.step (ElectionState.new myId) calls

structure History where
  calls : List TimedCall
  ordered : calls.Pairwise fun earlier later => earlier.time ≤ later.time

/-! The same history as seen from one peer: when it was heard at all, and when
and with which address it claimed to lead. -/

def TimedCall.heardFrom (id : String) (c : TimedCall) : Option Nat :=
  match c.call with
  | .observePeer nodeId => if nodeId = id then some c.time else none
  | .observeLeader nodeId _ => if nodeId = id then some c.time else none
  | _ => none

def TimedCall.claimFrom (id : String) (c : TimedCall) : Option (Nat × String) :=
  match c.call with
  | .observeLeader nodeId leaderTcpBase =>
    if nodeId = id then some (c.time, leaderTcpBase) else none
  | _ => none

def heard (id : String) (calls : List TimedCall) : List Nat := calls.filterMap (·.heardFrom id)

def claims (id : String) (calls : List TimedCall) : List (Nat × String) :=
  calls.filterMap (·.claimFrom id)

def sinceClear (calls : List TimedCall) : List TimedCall :=
  run (fun kept c => if c.call = .clearLeaderFlags then [] else kept ++ [c]) [] calls

/-- What a node keeps about a peer, from the history of that peer alone: the last
announcement of any kind decides when it was seen. -/
def keptPeer (id : String) (calls : List TimedCall) : Option PeerInfo :=
  (heard id calls).getLast?.map fun t =>
    ⟨id, t, (claims id (sinceClear calls)).getLast?.isSome, (claims id calls).getLast?.map Prod.snd⟩

/-- Whatever the iteration order, a reported leader has claimed to lead, with the
reported address, less than ten seconds ago and after the last clear. -/
def LeaderClaimed (myId : String) (h : History) (now : Nat) : Prop :=
  ∀ rows id addr, ((election myId h.calls).rehash rows).currentLeader now = some (id, addr) →
    ∃ t, (t, addr) ∈ claims id (sinceClear h.calls) ∧ now - t < peerTimeout

/-- A peer that has claimed to lead since the last clear and is still heard has
claimed so less than ten seconds ago. -/
def ClaimsRenewed (myId : String) (h : History) (now : Nat) : Prop :=
  ∀ id, id ≠ myId → claims id (sinceClear h.calls) ≠ [] →
    (∃ t ∈ heard id h.calls, now - t < peerTimeout) →
    ∃ claim ∈ claims id (sinceClear h.calls), now - claim.1 < peerTimeout

/-! One call and the history it extends. -/

@[simp] theorem heard_snoc (id : String) (calls : List TimedCall) (c : TimedCall) :
    heard id (calls ++ [c]) = heard id calls ++ (c.heardFrom id).toList := by
  unfold heard
  cases added : c.heardFrom id <;> simp [added]

@[simp] theorem claims_snoc (id : String) (calls : List TimedCall) (c : TimedCall) :
    claims id (calls ++ [c]) = claims id calls ++ (c.claimFrom id).toList := by
  unfold claims
  cases added : c.claimFrom id <;> simp [added]

theorem sinceClear_snoc (calls : List TimedCall) (c : TimedCall) :
    sinceClear (calls ++ [c]) =
      if c.call = .clearLeaderFlags then [] else sinceClear calls ++ [c] :=
  run_append _ calls [c]

theorem sinceClear_suffix (calls : List TimedCall) : sinceClear calls <:+ calls := by
  induction calls using List.reverseRecOn with
  | nil => exact List.suffix_refl _
  | append_singleton calls c ih =>
    rw [sinceClear_snoc]
    split
    · exact List.nil_suffix
    · obtain ⟨before, same⟩ := ih
      exact ⟨before, by rw [← List.append_assoc, same]⟩

theorem claimFrom_none {id : String} {c : TimedCall} (quiet : c.heardFrom id = none) :
    c.claimFrom id = none := by
  unfold TimedCall.heardFrom at quiet
  unfold TimedCall.claimFrom
  split at quiet <;> simp_all

theorem claims_empty_of_unheard {id : String} {calls : List TimedCall}
    (unheard : heard id calls = []) :
    claims id calls = [] ∧ claims id (sinceClear calls) = [] := by
  have silent : claims id calls = [] :=
    List.filterMap_eq_nil_iff.mpr fun c member =>
      claimFrom_none (List.filterMap_eq_nil_iff.mp unheard c member)
  have part := (sinceClear_suffix calls).sublist.filterMap (·.claimFrom id)
  exact ⟨silent, List.sublist_nil.mp (silent ▸ part)⟩

theorem keptPeer_quiet {id : String} (calls : List TimedCall) {c : TimedCall}
    (quiet : c.heardFrom id = none) (keeps : c.call ≠ .clearLeaderFlags) :
    keptPeer id (calls ++ [c]) = keptPeer id calls := by
  simp [keptPeer, sinceClear_snoc, quiet, claimFrom_none quiet, keeps]

/-! What the node keeps is what the history of each peer says. -/

theorem step_myId (s : ElectionState) (c : TimedCall) : (s.step c).myId = s.myId := by
  unfold ElectionState.step ElectionState.observePeer ElectionState.observeLeader
  split
  · split <;> rfl
  · split <;> rfl
  · rfl
  · rfl

theorem election_myId (myId : String) (calls : List TimedCall) :
    (election myId calls).myId = myId :=
  run_invariant (fun s c same => (step_myId s c).trans same) rfl calls

theorem election_snoc (myId : String) (calls : List TimedCall) (c : TimedCall) :
    election myId (calls ++ [c]) = (election myId calls).step c :=
  run_append _ calls [c]

theorem entry_nodeId (s : ElectionState) (nodeId : String) (now : Nat) :
    (s.entry nodeId now).nodeId = nodeId := by
  unfold ElectionState.entry
  cases found : s.peers.get nodeId with
  | none => rfl
  | some peer => exact Keyed.Table.key_of_get found

theorem observed_get (s : ElectionState) {nodeId : String} {peer : PeerInfo}
    (named : peer.nodeId = nodeId) (id : String) :
    (if nodeId = s.myId then s else { s with peers := s.peers.insert peer }).peers.get id =
      if id = nodeId ∧ id ≠ s.myId then some peer else s.peers.get id := by
  by_cases own : nodeId = s.myId
  · rw [if_pos own]
    refine (if_neg ?_).symm
    rintro ⟨rfl, other⟩
    exact other own
  · rw [if_neg own, Keyed.Table.get_insert, named]
    refine if_congr ?_ rfl rfl
    constructor
    · rintro rfl
      exact ⟨rfl, own⟩
    · exact And.left

theorem observePeer_get (s : ElectionState) (nodeId : String) (now : Nat) (id : String) :
    (s.observePeer nodeId now).peers.get id =
      if id = nodeId ∧ id ≠ s.myId then some { s.entry id now with lastSeen := now }
      else s.peers.get id := by
  have named : PeerInfo.nodeId { s.entry nodeId now with lastSeen := now } = nodeId :=
    entry_nodeId s nodeId now
  refine (observed_get s named id).trans ?_
  split
  next heard => rw [heard.1]
  next => rfl

theorem observeLeader_get (s : ElectionState) (nodeId leaderTcpBase : String) (now : Nat)
    (id : String) :
    (s.observeLeader nodeId leaderTcpBase now).peers.get id =
      if id = nodeId ∧ id ≠ s.myId then some ⟨id, now, true, some leaderTcpBase⟩
      else s.peers.get id := by
  have named : PeerInfo.nodeId { s.entry nodeId now with
      lastSeen := now, isLeader := true, leaderTcpBase := some leaderTcpBase } = nodeId :=
    entry_nodeId s nodeId now
  refine (observed_get s named id).trans ?_
  split
  next heard => simp only [heard.1, entry_nodeId]
  next => rfl

theorem clearLeaderFlags_get (s : ElectionState) (id : String) :
    s.clearLeaderFlags.peers.get id =
      (s.peers.get id).map fun peer => { peer with isLeader := false } :=
  s.peers.get_mapRows (fun peer => { peer with isLeader := false }) (fun _ => rfl) id

theorem entry_of_kept {s : ElectionState} {id : String} {calls : List TimedCall}
    (kept : s.peers.get id = keptPeer id calls) (now : Nat) :
    s.entry id now =
      ⟨id, (heard id calls).getLast?.getD now, (claims id (sinceClear calls)).getLast?.isSome,
        (claims id calls).getLast?.map Prod.snd⟩ := by
  unfold ElectionState.entry
  rw [kept]
  cases last : (heard id calls).getLast? with
  | some t => simp [keptPeer, last]
  | none =>
    obtain ⟨silent, recent⟩ := claims_empty_of_unheard (List.getLast?_eq_none_iff.mp last)
    simp [keptPeer, last, silent, recent]

theorem kept_step {s : ElectionState} {id : String} {calls : List TimedCall} (other : id ≠ s.myId)
    (kept : s.peers.get id = keptPeer id calls) (c : TimedCall) :
    (s.step c).peers.get id = keptPeer id (calls ++ [c]) := by
  obtain ⟨time, call⟩ := c
  cases call with
  | observePeer nodeId =>
    refine (observePeer_get s nodeId time id).trans ?_
    by_cases same : id = nodeId
    · subst same
      simp [other, entry_of_kept kept, keptPeer, sinceClear_snoc, TimedCall.heardFrom,
        TimedCall.claimFrom]
    · have quiet : TimedCall.heardFrom id ⟨time, .observePeer nodeId⟩ = none :=
        if_neg (Ne.symm same)
      rw [keptPeer_quiet calls quiet (by simp), if_neg fun both => same both.1]
      exact kept
  | observeLeader nodeId leaderTcpBase =>
    refine (observeLeader_get s nodeId leaderTcpBase time id).trans ?_
    by_cases same : id = nodeId
    · subst same
      simp [other, keptPeer, sinceClear_snoc, TimedCall.heardFrom, TimedCall.claimFrom]
    · have quiet : TimedCall.heardFrom id ⟨time, .observeLeader nodeId leaderTcpBase⟩ = none :=
        if_neg (Ne.symm same)
      rw [keptPeer_quiet calls quiet (by simp), if_neg fun both => same both.1]
      exact kept
  | clearLeaderFlags =>
    refine (clearLeaderFlags_get s id).trans ?_
    rw [kept, keptPeer, keptPeer, sinceClear_snoc, heard_snoc, claims_snoc]
    simp [TimedCall.heardFrom, TimedCall.claimFrom, claims, Function.comp_def]
  | setIAmLeader isLeader =>
    have quiet : TimedCall.heardFrom id ⟨time, .setIAmLeader isLeader⟩ = none := rfl
    rw [keptPeer_quiet calls quiet (by simp)]
    exact kept

theorem election_kept {myId id : String} (other : id ≠ myId) (calls : List TimedCall) :
    (election myId calls).peers.get id = keptPeer id calls := by
  induction calls using List.reverseRecOn with
  | nil => rfl
  | append_singleton calls c ih =>
    rw [election_snoc]
    exact kept_step (by rw [election_myId]; exact other) ih c

theorem election_own_absent (myId : String) (calls : List TimedCall) :
    (election myId calls).peers.get myId = none := by
  induction calls using List.reverseRecOn with
  | nil => rfl
  | append_singleton calls c ih =>
    have own := election_myId myId calls
    rw [election_snoc]
    obtain ⟨time, call⟩ := c
    cases call with
    | observePeer nodeId =>
      refine (observePeer_get _ nodeId time myId).trans ?_
      rw [if_neg fun both => both.2 own.symm, ih]
    | observeLeader nodeId leaderTcpBase =>
      refine (observeLeader_get _ nodeId leaderTcpBase time myId).trans ?_
      rw [if_neg fun both => both.2 own.symm, ih]
    | clearLeaderFlags =>
      refine (clearLeaderFlags_get _ myId).trans ?_
      rw [ih, Option.map_none]
    | setIAmLeader isLeader => exact ih

/-! The reported leader. -/

theorem currentLeader_candidate {s : ElectionState} {now : Nat} {id addr : String}
    (reported : s.currentLeader now = some (id, addr)) :
    ∃ peer, s.peers.get id = some peer ∧ peer.isLeader = true ∧ peer.live now = true ∧
      peer.leaderTcpBase = some addr := by
  have member := List.mem_of_mem_head? reported
  obtain ⟨peer, kept, base⟩ := List.mem_filterMap.mp member
  obtain ⟨addr', found, same⟩ := Option.map_eq_some_iff.mp base
  cases same
  obtain ⟨row, passes⟩ := List.mem_filter.mp kept
  obtain ⟨leads, live⟩ := Bool.and_eq_true_iff.mp passes
  exact ⟨peer, (s.peers.mem_iff_get peer).mp row, leads, live, found⟩

theorem currentLeader_ne_none {s : ElectionState} {now : Nat} {id addr : String} {peer : PeerInfo}
    (found : s.peers.get id = some peer) (leads : peer.isLeader = true)
    (live : peer.live now = true)
    (base : peer.leaderTcpBase = some addr) : s.currentLeader now ≠ none := by
  have passes : peer ∈ s.peers.rows.filter fun peer => peer.isLeader && peer.live now :=
    List.mem_filter.mpr ⟨Keyed.Table.mem_of_get found, Bool.and_eq_true_iff.mpr ⟨leads, live⟩⟩
  intro none
  have listed := List.filterMap_eq_nil_iff.mp (List.head?_eq_none_iff.mp none) peer passes
  rw [base] at listed
  cases listed

theorem currentLeader_of_candidate {s : ElectionState} {now : Nat} {id addr : String}
    {peer : PeerInfo} (found : s.peers.get id = some peer) (leads : peer.isLeader = true)
    (live : peer.live now = true) (base : peer.leaderTcpBase = some addr) :
    ∃ rows, (s.rehash rows).currentLeader now = some (id, addr) := by
  have row := Keyed.Table.mem_of_get found
  have order : (peer :: s.peers.rows.erase peer).Perm s.peers.rows :=
    (List.perm_cons_erase row).symm
  refine ⟨peer :: s.peers.rows.erase peer, ?_⟩
  simp only [ElectionState.rehash, Keyed.Table.reorder, order, dif_pos, ElectionState.currentLeader,
    List.filter_cons, leads, live, Bool.and_self, if_true, List.filterMap_cons, base,
      Option.map_some,
    List.head?_cons, Keyed.Table.key_of_get found]

/-! Ages of announcements in a history ordered by time. -/

theorem le_of_getLast? {β : Type*} {time : β → Nat} {l : List β} {last : β}
    (ordered : l.Pairwise fun a b => time a ≤ time b) (ends : l.getLast? = some last)
    {x : β} (member : x ∈ l) : time x ≤ time last := by
  obtain ⟨before, rfl⟩ := List.getLast?_eq_some_iff.mp ends
  rcases List.mem_append.mp member with early | final
  · exact (List.pairwise_append.mp ordered).2.2 x early last (List.mem_singleton_self last)
  · cases List.mem_singleton.mp final
    exact Nat.le_refl _

theorem time_of_heard {id : String} {c : TimedCall} {t : Nat} (heard : c.heardFrom id = some t) :
    t = c.time := by
  unfold TimedCall.heardFrom at heard
  split at heard <;> simp_all

theorem time_of_claim {id : String} {c : TimedCall} {claim : Nat × String}
    (claimed : c.claimFrom id = some claim) : claim.1 = c.time := by
  unfold TimedCall.claimFrom at claimed
  split at claimed <;> grind

theorem heard_ordered (id : String) (h : History) :
    (heard id h.calls).Pairwise fun a b => a ≤ b := by
  apply h.ordered.filterMap
  intro c d before a first b second
  rw [time_of_heard first, time_of_heard second]
  exact before

theorem claims_ordered (id : String) (h : History) :
    (claims id (sinceClear h.calls)).Pairwise fun a b => a.1 ≤ b.1 := by
  apply (h.ordered.sublist (sinceClear_suffix h.calls).sublist).filterMap
  intro c d before a first b second
  rw [time_of_claim first, time_of_claim second]
  exact before

theorem heard_recent_iff (id : String) (h : History) (now : Nat) :
    (∃ t ∈ heard id h.calls, now - t < peerTimeout) ↔
      ∃ seen, (heard id h.calls).getLast? = some seen ∧ now - seen < peerTimeout := by
  constructor
  · rintro ⟨t, member, fresh⟩
    obtain ⟨seen, last⟩ : ∃ seen, (heard id h.calls).getLast? = some seen :=
      ⟨_, List.getLast?_eq_some_getLast (List.ne_nil_of_mem member)⟩
    have later : t ≤ seen := le_of_getLast? (heard_ordered id h) last member
    exact ⟨seen, last, by omega⟩
  · rintro ⟨seen, last, fresh⟩
    exact ⟨seen, List.mem_of_getLast? last, fresh⟩

theorem claims_last {id : String} {calls : List TimedCall} {claim : Nat × String}
    (ends : (claims id (sinceClear calls)).getLast? = some claim) :
    (claims id calls).getLast? = some claim := by
  obtain ⟨before, split⟩ := sinceClear_suffix calls
  have joined : claims id calls = claims id before ++ claims id (sinceClear calls) := by
    rw [claims, claims, claims, ← List.filterMap_append, split]
  rw [joined, List.getLast?_append, ends, Option.some_or]

/-- A reported leader is a peer with a claim since the last clear, under the address
of the last one, that was heard less than ten seconds ago. -/
theorem reported_iff (myId : String) (calls : List TimedCall) (now : Nat) (id addr : String) :
    (∃ rows, ((election myId calls).rehash rows).currentLeader now = some (id, addr)) ↔
      id ≠ myId ∧
        (∃ claimed, (claims id (sinceClear calls)).getLast? = some (claimed, addr)) ∧
        ∃ seen, (heard id calls).getLast? = some seen ∧ now - seen < peerTimeout := by
  constructor
  · rintro ⟨rows, reported⟩
    obtain ⟨peer, found, leads, live, base⟩ := currentLeader_candidate reported
    have row : (election myId calls).peers.get id = some peer :=
      ((election myId calls).peers.get_reorder rows id).symm.trans found
    have other : id ≠ myId := by
      rintro rfl
      rw [election_own_absent] at row
      cases row
    rw [election_kept other] at row
    obtain ⟨seen, last, same⟩ := Option.map_eq_some_iff.mp row
    cases same
    obtain ⟨⟨claimed, addr'⟩, ends⟩ := Option.isSome_iff_exists.mp leads
    rw [claims_last ends] at base
    cases base
    exact ⟨other, ⟨claimed, ends⟩, seen, last, of_decide_eq_true live⟩
  · rintro ⟨other, ⟨claimed, ends⟩, seen, last, live⟩
    have row : (election myId calls).peers.get id = some ⟨id, seen, true, some addr⟩ := by
      rw [election_kept other, keptPeer, last, ends, claims_last ends]
      rfl
    exact currentLeader_of_candidate row rfl (decide_eq_true live) rfl

theorem reported_in_some_order {myId id : String} {h : History} {now : Nat} (other : id ≠ myId)
    (claimed : claims id (sinceClear h.calls) ≠ [])
    (recently : ∃ t ∈ heard id h.calls, now - t < peerTimeout) :
    ∃ rows addr, ((election myId h.calls).rehash rows).currentLeader now = some (id, addr) := by
  have ends := List.getLast?_eq_some_getLast claimed
  have recent := (heard_recent_iff id h now).mp recently
  obtain ⟨rows, reported⟩ := (reported_iff myId h.calls now id _).mpr ⟨other, ⟨_, ends⟩, recent⟩
  exact ⟨rows, _, reported⟩

theorem reports_iff (myId : String) (h : History) (now : Nat) (rows : List PeerInfo) :
    ((election myId h.calls).rehash rows).currentLeader now ≠ none ↔
      ∃ id, id ≠ myId ∧ claims id (sinceClear h.calls) ≠ [] ∧
        ∃ t ∈ heard id h.calls, now - t < peerTimeout := by
  constructor
  · intro some
    obtain ⟨⟨id, addr⟩, reported⟩ := Option.ne_none_iff_exists'.mp some
    obtain ⟨other, ⟨claimed, ends⟩, recent⟩ :=
      (reported_iff myId h.calls now id addr).mp ⟨rows, reported⟩
    exact ⟨id, other, List.ne_nil_of_mem (List.mem_of_getLast? ends),
      (heard_recent_iff id h now).mpr recent⟩
  · rintro ⟨id, other, claimed, recently⟩
    obtain ⟨rows', addr, reported⟩ := reported_in_some_order other claimed recently
    obtain ⟨peer, found, leads, live, base⟩ := currentLeader_candidate reported
    have same := ((election myId h.calls).peers.get_reorder rows id).trans
      ((election myId h.calls).peers.get_reorder rows' id).symm
    exact currentLeader_ne_none (same.trans found) leads live base

/-- The reported leader has claimed to lead less than ten seconds ago exactly when
no peer is still heard whose claims have gone silent. -/
theorem leader_claimed_iff_claims_renewed (myId : String) (h : History) (now : Nat) :
    LeaderClaimed myId h now ↔ ClaimsRenewed myId h now := by
  constructor
  · intro law id other claimed recently
    obtain ⟨rows, addr, reported⟩ := reported_in_some_order other claimed recently
    obtain ⟨renewed, claim, recent⟩ := law rows id addr reported
    exact ⟨(renewed, addr), claim, recent⟩
  · intro renewed rows id addr reported
    obtain ⟨other, ⟨lastClaim, ends⟩, seen, last, fresh⟩ :=
      (reported_iff myId h.calls now id addr).mp ⟨rows, reported⟩
    have final := List.mem_of_getLast? ends
    obtain ⟨claim, member, recent⟩ :=
      renewed id other (List.ne_nil_of_mem final) ⟨seen, List.mem_of_getLast? last, fresh⟩
    have later : claim.1 ≤ lastClaim := le_of_getLast? (claims_ordered id h) ends member
    exact ⟨lastClaim, final, by omega⟩

/-- A leader that has stepped down and goes on as a peer: its one claim is twelve
seconds old, its last announcement three. -/
private def steppedDown : History where
  calls := [⟨0, .observeLeader "a" "10.0.0.1"⟩, ⟨9000000000, .observePeer "a"⟩]
  ordered := by decide

theorem stepped_down_leader_is_reported : ¬ LeaderClaimed "b" steppedDown 12000000000 := by
  intro law
  obtain ⟨t, claim, recent⟩ := law [] "a" "10.0.0.1" rfl
  have only : t = 0 := by simpa [steppedDown, sinceClear, claims, TimedCall.claimFrom] using claim
  subst only
  exact absurd recent (by decide)

end SeamlessSwarm
