import SeamlessSwarm.Announcements
import SeamlessSwarm.Attachment
import SeamlessSwarm.Exclusion
import SeamlessSwarm.Lib.Broadcast

/-! All nodes of a local network, each in its role loop, and their announcements as
datagrams that may be lost, be late or come again. -/
namespace SeamlessSwarm
open Trace Broadcast

/-- The id of a node, with announcements that others read as they were meant. -/
structure NodeId where
  text : String
  named : NodeName text
  peerFits : (Announcement.peer text).datagram.length ≤ 512
  leaderFits : ∀ localIp, (Announcement.leader text (announcedIp localIp)).datagram.length ≤ 512
  deriving DecidableEq

theorem announcedIp_length (localIp : Option Ipv4Addr) : (announcedIp localIp).length ≤ 15 := by
  obtain ⟨ip, text⟩ := announcedIp_text localIp
  have number (n : UInt8) : n.toNat.repr.length ≤ 3 := by
    have small := n.toNat_lt
    exact (Nat.length_repr_le_iff (by omega)).mpr (by omega)
  have dot : ".".length = 1 := by decide
  have a := number ip.a
  have b := number ip.b
  have c := number ip.c
  have d := number ip.d
  rw [text, Ipv4Addr.text]
  simp only [String.length_append, dot]
  omega

/-- A proper name of at most 64 characters is such an id. -/
def NodeId.short (text : String) (named : NodeName text) (short : text.length ≤ 64) : NodeId where
  text := text
  named := named
  peerFits := by
    have bytes := Hex.stringBytes_length_le (Announcement.peer text).message
    have start : "SEAMLESS-SWARM:PEER:".length = 20 := by decide
    rw [Announcement.message_peer, String.length_append, start] at bytes
    exact bytes.trans (by omega)
  leaderFits localIp := by
    have bytes := Hex.stringBytes_length_le (Announcement.leader text (announcedIp localIp)).message
    have start : "SEAMLESS-SWARM:LEADER:".length = 22 := by decide
    have colon : ":".length = 1 := by decide
    have ip := announcedIp_length localIp
    rw [Announcement.message_leader, String.length_append, String.length_append,
      String.length_append,
      start, colon] at bytes
    exact bytes.trans (by omega)

/-- The nodes act by themselves, except that they hear only what was sent. -/
def neighbours : System NodeId Node TimedAction (Option Ipv4Addr) Bytes Nat where
  act _ s a :=
    match a.action with
    | .hear _ => s
    | _ => s.step a
  emits n s localIp := broadcastRound s.election n.text localIp
  hear _ s datagram time :=
    match receiveDatagram datagram with
    | some announcement => s.step ⟨time, .hear announcement⟩
    | none => s

abbrev Neighbourhood := State NodeId Node Bytes

abbrev NeighbourStep := Step NodeId TimedAction (Option Ipv4Addr) Nat

def neighbourhood (steps : List NeighbourStep) : Neighbourhood :=
  run neighbours.step ⟨fun n => Node.start n.text, []⟩ steps

def Role.leader : Role → Option (String × String)
  | connecting leaderId leaderTcpBase => some (leaderId, leaderTcpBase)
  | following leaderId leaderTcpBase => some (leaderId, leaderTcpBase)
  | _ => none

/-- From its decision to lead until it steps down. -/
def Role.Standing : Role → Prop
  | startingHub => True
  | hubStarted => True
  | leading => True
  | _ => False

/-! What the announcements of a node are read as. -/

theorem receive_round {n : NodeId} {s : ElectionState} {localIp : Option Ipv4Addr}
    {datagram : Bytes}
    (sent : datagram ∈ broadcastRound s n.text localIp) {a : Announcement}
    (received : receiveDatagram datagram = some a) :
    a.nodeId = n.text ∧ ∀ id base, a = .leader id base → s.iAmLeader = true ∧
      base = announcedIp localIp := by
  rcases List.mem_cons.mp sent with rfl | more
  · cases (receive_peer n.named n.peerFits).symm.trans received
    exact ⟨rfl, nofun⟩
  · split at more
    next leads =>
      rw [List.mem_singleton.mp more, receive_leader n.named localIp
        (n.leaderFits localIp)] at received
      cases received
      refine ⟨rfl, ?_⟩
      rintro id base ⟨⟩
      exact ⟨leads, rfl⟩
    next => cases more

/-! One step of one node. -/

theorem step_observed (s : Node) (a : TimedAction) {c : TimedCall} (member : c ∈ (s.step a).calls)
    {id base : String} (claim : c.call = .observeLeader id base) :
    c ∈ s.calls ∨ a.action = .hear (.leader id base) := by
  obtain ⟨time, action⟩ := a
  have stepped := node_stepped s ⟨time, action⟩
  generalize s.step ⟨time, action⟩ = next at stepped member
  cases stepped with
  | hears announcement =>
    rcases List.mem_append.mp member with old | new
    · exact Or.inl old
    · rw [List.mem_singleton.mp new] at claim
      cases announcement with
      | peer nodeId => cases claim
      | leader nodeId leaderTcpBase =>
        cases claim
        exact Or.inr rfl
  | leads | stepsDown | clears =>
    rcases List.mem_append.mp member with old | new
    · exact Or.inl old
    · rw [List.mem_singleton.mp new] at claim
      cases claim
  | _ => exact Or.inl member

theorem step_leader (s : Node) (a : TimedAction) {id base : String}
    (led : (s.step a).role.leader = some (id, base)) :
    s.role.leader = some (id, base) ∨ s.role = .evaluating ∧ ∃ rows,
      (s.election.rehash rows).currentLeader a.time = some (id, base) := by
  obtain ⟨time, action⟩ := a
  have stepped := node_stepped s ⟨time, action⟩
  generalize moved : s.step ⟨time, action⟩ = next at stepped led
  cases stepped with
  | idle | hears | serves | pullEnds | serverEnds => exact Or.inl led
  | connects leaderId leaderTcpBase here =>
    rw [here]
    exact Or.inl led
  | joins rows leaderId leaderTcpBase here =>
    right
    refine ⟨here, rows, ?_⟩
    simp only [Node.step, here] at moved
    split at moved
    next reportedId reportedBase found =>
      cases led
      have role := congrArg Node.role moved
      cases role
      exact found
    next =>
      have role := congrArg Node.role moved
      cases role
  | _ => cases led

/-- The peer is kept as a leader, with an address. -/
def ElectionState.Flags (s : ElectionState) (id : String) : Prop :=
  ∃ peer, s.peers.get id = some peer ∧ peer.isLeader = true ∧ peer.leaderTcpBase ≠ none

theorem flags_announced {s : ElectionState} {id : String} (flagged : s.Flags id) (time : Nat)
    (announcement : Announcement) : (s.step ⟨time, announcement.toCall⟩).Flags id := by
  obtain ⟨peer, found, leads, base⟩ := flagged
  cases announcement with
  | peer nodeId =>
    have row := observePeer_get s nodeId time id
    split at row
    · have entry : s.entry id time = peer := by rw [ElectionState.entry, found, Option.getD_some]
      rw [entry] at row
      exact ⟨_, row, leads, base⟩
    · exact ⟨peer, row.trans found, leads, base⟩
  | leader nodeId leaderTcpBase =>
    have row := observeLeader_get s nodeId leaderTcpBase time id
    split at row
    · exact ⟨_, row, rfl, Option.some_ne_none leaderTcpBase⟩
    · exact ⟨peer, row.trans found, leads, base⟩

theorem step_flags (s : Node) (a : TimedAction) {id : String} (led : s.role ≠ .disconnected)
    (flagged : s.election.Flags id) : (s.step a).election.Flags id := by
  obtain ⟨time, action⟩ := a
  have stepped := node_stepped s ⟨time, action⟩
  generalize s.step ⟨time, action⟩ = next at stepped
  cases stepped with
  | hears announcement => exact flags_announced flagged time announcement
  | clears here => exact absurd here led
  | _ => exact flagged

theorem step_known (s : Node) (a : TimedAction) {id : String} {peer : PeerInfo}
    (known : (s.step a).election.peers.get id = some peer) :
    (∃ old, s.election.peers.get id = some old) ∨
      ∃ announcement, a.action = .hear announcement ∧ announcement.nodeId = id := by
  obtain ⟨time, action⟩ := a
  have stepped := node_stepped s ⟨time, action⟩
  generalize s.step ⟨time, action⟩ = next at stepped known
  cases stepped with
  | hears announcement =>
    cases announcement with
    | peer nodeId =>
      have row := observePeer_get s.election nodeId time id
      split at row
      next heard => exact Or.inr ⟨_, rfl, heard.1.symm⟩
      next => exact Or.inl ⟨peer, row.symm.trans known⟩
    | leader nodeId leaderTcpBase =>
      have row := observeLeader_get s.election nodeId leaderTcpBase time id
      split at row
      next heard => exact Or.inr ⟨_, rfl, heard.1.symm⟩
      next => exact Or.inl ⟨peer, row.symm.trans known⟩
  | clears here =>
    have row := clearLeaderFlags_get s.election id
    obtain ⟨old, found, _⟩ := Option.map_eq_some_iff.mp (row.symm.trans known)
    exact Or.inl ⟨old, found⟩
  | _ => exact Or.inl ⟨peer, known⟩

theorem reported_claimed {myId : String} {calls : List TimedCall} {rows : List PeerInfo} {now : Nat}
    {id base : String} (reported : ((election myId calls).rehash rows).currentLeader now = some
      (id, base)) :
    id ≠ myId ∧ (∃ c ∈ calls, c.call = .observeLeader id base) ∧
      (election myId calls).Flags id := by
  obtain ⟨peer, found, leads, _, address⟩ := currentLeader_candidate reported
  have kept : (election myId calls).peers.get id = some peer :=
    ((election myId calls).peers.get_reorder rows id).symm.trans found
  have other : id ≠ myId := by
    rintro rfl
    rw [election_own_absent] at kept
    cases kept
  refine ⟨other, ?_, peer, kept, leads, by rw [address]; exact Option.some_ne_none base⟩
  rw [election_kept other] at kept
  obtain ⟨seen, _, rfl⟩ := Option.map_eq_some_iff.mp kept
  obtain ⟨⟨t, claimed⟩, last, same⟩ := Option.map_eq_some_iff.mp address
  obtain ⟨c, member, claim⟩ := List.mem_filterMap.mp (List.mem_of_getLast? last)
  refine ⟨c, member, ?_⟩
  unfold TimedCall.claimFrom at claim
  split at claim
  next nodeId leaderTcpBase called =>
    split at claim
    next named =>
      cases claim
      cases same
      rw [called, named]
    next => cases claim
  next => cases claim

/-! Where everything that a node knows comes from. -/

/-- What a node has heard was sent, and the leader that it has was claimed in a datagram. -/
structure Node.Sourced (n : NodeId) (sent : Bytes → Prop) (s : Node) : Prop where
  own : s.election = SeamlessSwarm.election n.text s.calls
  flag : FlagWhileLeading s
  up : HubUp s
  claims : ∀ c ∈ s.calls, ∀ id base, c.call = .observeLeader id base →
    ∃ datagram, sent datagram ∧ receiveDatagram datagram = some (.leader id base)
  peers : ∀ id peer, s.election.peers.get id = some peer →
    ∃ datagram a, sent datagram ∧ receiveDatagram datagram = some a ∧ a.nodeId = id
  led : ∀ id base, s.role.leader = some (id, base) → id ≠ n.text ∧ s.election.Flags id ∧
    ∃ datagram, sent datagram ∧ receiveDatagram datagram = some (.leader id base)

theorem Node.Sourced.start (n : NodeId) (sent : Bytes → Prop) :
    (Node.start n.text).Sourced n sent :=
  ⟨rfl, nofun, by simp [HubUp, Node.start], nofun, nofun, nofun⟩

theorem Node.Sourced.step {n : NodeId} {sent : Bytes → Prop} {s : Node} (inv : s.Sourced n sent)
    (a : TimedAction) (heard : ∀ announcement, a.action = .hear announcement →
      ∃ datagram, sent datagram ∧ receiveDatagram datagram = some announcement) :
    (s.step a).Sourced n sent := by
  have own : (s.step a).election = SeamlessSwarm.election n.text (s.step a).calls := by
    rcases calls_step s a with ⟨same, calls⟩ | ⟨call, stepped, calls⟩
    · rw [same, calls, inv.own]
    · rw [stepped, calls, election_snoc, inv.own]
  constructor
  · exact own
  · exact flag_step s a inv.flag
  · exact hub_up_step s a inv.up
  · intro c member id base claim
    rcases step_observed s a member claim with old | new
    · exact inv.claims c old id base claim
    · exact heard _ new
  · intro id peer known
    rcases step_known s a known with ⟨old, found⟩ | ⟨announcement, new, named⟩
    · exact inv.peers id old found
    · obtain ⟨datagram, inAir, received⟩ := heard _ new
      exact ⟨datagram, announcement, inAir, received, named⟩
  · intro id base led
    rcases step_leader s a led with old | ⟨here, rows, reported⟩
    · obtain ⟨other, flagged, source⟩ := inv.led id base old
      refine ⟨other, step_flags s a ?_ flagged, source⟩
      intro disconnected
      rw [disconnected] at old
      cases old
    · rw [inv.own] at reported
      obtain ⟨other, ⟨c, member, claim⟩, flagged⟩ := reported_claimed reported
      rw [← inv.own] at flagged
      refine ⟨other, step_flags s a ?_ flagged, inv.claims c member id base claim⟩
      rw [here]
      nofun

def sourcedLaw : Law neighbours where
  node sent n s := s.Sourced n sent
  message _ := True
  allowed _ _ _ := True
  mono := by
    intro sent sent' n s more inv
    refine ⟨inv.own, inv.flag, inv.up, ?_, ?_, ?_⟩
    · intro c member id base claim
      obtain ⟨datagram, inAir, received⟩ := inv.claims c member id base claim
      exact ⟨datagram, more datagram inAir, received⟩
    · intro id peer known
      obtain ⟨datagram, a, inAir, received⟩ := inv.peers id peer known
      exact ⟨datagram, a, more datagram inAir, received⟩
    · intro id base led
      obtain ⟨other, flagged, datagram, inAir, received⟩ := inv.led id base led
      exact ⟨other, flagged, datagram, more datagram inAir, received⟩
  acts := by
    intro sent n s a inv _
    dsimp only [neighbours]
    split
    · exact inv
    next silent =>
      refine inv.step a ?_
      intro announcement hears
      exact absurd hears (silent announcement)
  emits _ _ _ := trivial
  hears := by
    intro sent n s datagram inv inAir _ time
    dsimp only [neighbours]
    split
    next announcement received =>
      refine inv.step ⟨time, .hear announcement⟩ ?_
      rintro _ ⟨⟩
      exact ⟨datagram, inAir, received⟩
    · exact inv

theorem neighbourhood_sourced (steps : List NeighbourStep) (n : NodeId) :
    ((neighbourhood steps).nodes n).Sourced n (· ∈ (neighbourhood steps).air) := by
  have initial : sourcedLaw.Holds ⟨fun n => Node.start n.text, []⟩ :=
    ⟨fun n => Node.Sourced.start n _, nofun⟩
  exact (initial.always (fun _ _ _ => trivial) steps).nodes n

/-- At some moment of the run the node led, with its hub bound, and announced this address. -/
def Led (steps : List NeighbourStep) (m : NodeId) (leaderTcpBase : String) : Prop :=
  ∃ before localIp after, steps = before ++ .emit m localIp :: after ∧
    leaderTcpBase = announcedIp localIp ∧
    ((neighbourhood before).nodes m).role = .leading ∧ ((neighbourhood before).nodes m).bound = true

theorem datagram_source {steps : List NeighbourStep} {datagram : Bytes}
    (member : datagram ∈ (neighbourhood steps).air) {a : Announcement}
    (received : receiveDatagram datagram = some a) :
    ∃ m localIp, .emit m localIp ∈ steps ∧ a.nodeId = m.text ∧
      ∀ id base, a = .leader id base → Led steps m base := by
  obtain ⟨before, m, localIp, after, rfl, sent⟩ := neighbours.sent_by rfl member
  obtain ⟨named, leads⟩ := receive_round sent received
  refine ⟨m, localIp, by simp, named, ?_⟩
  intro id base claim
  obtain ⟨flag, address⟩ := leads id base claim
  have inv := neighbourhood_sourced before m
  have leading := inv.flag flag
  exact ⟨before, localIp, after, rfl, address, leading, inv.up (Or.inr (Or.inl leading))⟩

theorem claim_led {steps : List NeighbourStep} {datagram : Bytes}
    (inAir : datagram ∈ (neighbourhood steps).air)
    {id base : String} (received : receiveDatagram datagram = some (.leader id base)) :
    ∃ m : NodeId, m.text = id ∧ Led steps m base := by
  obtain ⟨m, localIp, _, named, leads⟩ := datagram_source inAir received
  exact ⟨m, named.symm, leads id base rfl⟩

/-- Whatever is lost, late or repeated, a node follows only another node that has led, at
an address which that node has announced while its hub was up. -/
theorem followed_leaders_led (steps : List NeighbourStep) (n : NodeId) (id base : String)
    (led : ((neighbourhood steps).nodes n).role.leader = some (id, base)) :
    ∃ m : NodeId, m.text = id ∧ m ≠ n ∧ Led steps m base := by
  obtain ⟨other, _, datagram, inAir, received⟩ := (neighbourhood_sourced steps n).led id base led
  obtain ⟨m, named, leads⟩ := claim_led inAir received
  refine ⟨m, named, ?_, leads⟩
  rintro rfl
  exact other named.symm

section Example

private theorem letter_named {text : String} {c : Char} (letter : text.toList = [c])
    (plain : c ≠ ':')
    (visible : Text.isWhitespace c = false) : NodeName text where
  filled := by
    rintro rfl
    cases letter
  plain := by
    rw [letter, List.mem_singleton]
    exact plain.symm
  left := Text.not_whitespace_at (by rw [letter, List.head?_cons]) visible
  right := Text.not_whitespace_at (by rw [letter, List.getLast?_singleton]) visible

private def nodeA : NodeId :=
  .short "a" (letter_named (by decide : _ = ['a']) (by decide) (by decide)) (by decide)

private def nodeB : NodeId :=
  .short "b" (letter_named (by decide : _ = ['b']) (by decide) (by decide)) (by decide)

private def risingSteps (n : NodeId) : List NeighbourStep :=
  [.act n ⟨1, .evaluate []⟩, .act n ⟨1, .decide⟩, .act n ⟨1, .startHub true⟩, .act n ⟨2, .announce⟩,
    .emit n none]

private def lateSteps : List NeighbourStep :=
  risingSteps nodeB ++
    [.deliver nodeA 1 3, .act nodeA ⟨4, .evaluate []⟩, .act nodeA ⟨5, .connected true⟩]

theorem late_node_follows : ∃ m : NodeId, m.text = "b" ∧ m ≠ nodeA ∧ Led lateSteps m "127.0.0.1" :=
  followed_leaders_led lateSteps nodeA "b" "127.0.0.1" (by decide +kernel)

end Example

/-! Nodes that know of a smaller one. -/

theorem standing_step {s : Node} {a : TimedAction} (calm : ¬ s.role.Standing)
    (informed : a.action = .decide → s.role = .unled → s.election.iShouldBeLeader a.time = false) :
    ¬ (s.step a).role.Standing ∧ (s.servers = [] → (s.step a).servers = []) := by
  obtain ⟨time, action⟩ := a
  have stepped := node_stepped s ⟨time, action⟩
  generalize moved : s.step ⟨time, action⟩ = next at stepped
  cases stepped with
  | idle | hears | serves | pullEnds => exact ⟨calm, fun empty => empty⟩
  | serverEnds term server other =>
    refine ⟨calm, fun empty => ?_⟩
    rw [empty]
    rfl
  | stands here =>
    simp only [Node.step, here, informed rfl here, Bool.false_eq_true, if_false] at moved
    cases congrArg Node.role moved
  | binds here _ =>
    rw [here] at calm
    exact absurd trivial calm
  | leads here =>
    rw [here] at calm
    exact absurd trivial calm
  | panics => exact ⟨id, fun _ => rfl⟩
  | _ => exact ⟨id, fun empty => empty⟩

theorem smaller_blocks {s : Node} {id : String} {peer : PeerInfo} {now : Nat}
    (known : s.election.peers.get id = some peer) (live : peer.live now = true)
    (smaller : id < s.election.myId) : s.election.iShouldBeLeader now = false := by
  rw [Bool.eq_false_iff]
  intro should
  exact absurd ((iShouldBeLeader_iff s.election now).mp should id peer known live)
    (not_le.mpr smaller)

section Smallest
variable (m : NodeId)

/-- A node that decides whether to lead is the smallest one, or has heard it lately. -/
def Informed (n : NodeId) (s : Node) (a : TimedAction) : Prop :=
  n ≠ m → a.action = .decide → s.role = .unled → m.text < n.text ∧
    ∃ peer, s.election.peers.get m.text = some peer ∧ peer.live a.time = true

/-- Every decision in the second part of a run is informed. -/
def AllInformed (steps more : List NeighbourStep) : Prop :=
  ∀ before n a after, more = before ++ .act n a :: after →
    Informed m n ((neighbourhood (steps ++ before)).nodes n) a

/-- No node but one is about to lead, or leads, and no hub runs elsewhere. -/
structure Defers (n : NodeId) (s : Node) : Prop where
  myId : s.election.myId = n.text
  role : n ≠ m → ¬ s.role.Standing
  servers : n ≠ m → s.servers = []

theorem election_step_myId (s : Node) (a : TimedAction) :
    (s.step a).election.myId = s.election.myId := by
  rcases calls_step s a with ⟨same, _⟩ | ⟨call, same, _⟩
  · rw [same]
  · rw [same, step_myId]

variable {m} in
theorem Informed.deferred {n : NodeId} {s : Node} {a : TimedAction} (informed : Informed m n s a)
    (myId : s.election.myId = n.text) (other : n ≠ m) (decides : a.action = .decide)
    (unled : s.role = .unled) : s.election.iShouldBeLeader a.time = false := by
  obtain ⟨smaller, peer, known, live⟩ := informed other decides unled
  rw [← myId] at smaller
  exact smaller_blocks known live smaller

theorem Defers.step {n : NodeId} {s : Node} (inv : Defers m n s) {a : TimedAction}
    (informed : Informed m n s a) :
    Defers m n (s.step a) := by
  have stays (other : n ≠ m) := standing_step (inv.role other) (informed.deferred inv.myId other)
  refine ⟨(election_step_myId s a).trans inv.myId, fun other => (stays other).1, fun other => ?_⟩
  exact (stays other).2 (inv.servers other)

def calmLaw : Law neighbours where
  node _ n s := Defers m n s
  message _ := True
  allowed n s a := Informed m n s a
  mono _ inv := inv
  acts := by
    intro sent n s a inv informed
    dsimp only [neighbours]
    split
    · exact inv
    · exact inv.step m informed
  emits _ _ _ := trivial
  hears := by
    intro sent n s datagram inv _ _ time
    dsimp only [neighbours]
    split
    · exact inv.step m (fun _ decides => nomatch decides)
    · exact inv

theorem neighbourhood_append (steps more : List NeighbourStep) :
    neighbourhood (steps ++ more) = run neighbours.step (neighbourhood steps) more :=
  run_append _ steps more

theorem neighbourhood_along_iff {L : Law neighbours} (steps more : List NeighbourStep) :
    Along neighbours.step L.Admits (neighbourhood steps) more ↔ ∀ before n a after,
      more = before ++ .act n a :: after →
        L.allowed n ((neighbourhood (steps ++ before)).nodes n) a := by
  rw [along_iff_split]
  constructor
  · intro along before n a after split
    rw [neighbourhood_append]
    exact along before (.act n a) after split
  · intro allowed before a after split
    rw [← neighbourhood_append]
    cases a with
    | act n action => exact allowed before n action after split
    | emit n localIp => trivial
    | deliver n message time => trivial

theorem neighbourhood_defers {steps : List NeighbourStep} (informed : AllInformed m [] steps) :
    ∀ n, Defers m n ((neighbourhood steps).nodes n) := by
  have initial : (calmLaw m).Holds (neighbourhood []) :=
    ⟨fun n => ⟨rfl, fun _ => id, fun _ => rfl⟩, fun _ _ => trivial⟩
  exact (initial.along ((neighbourhood_along_iff [] steps).mpr informed)).nodes

variable {m} in
theorem AllInformed.before {before after : List NeighbourStep}
    (informed : AllInformed m [] (before ++ after)) :
    AllInformed m [] before := by
  intro start n a rest inside
  exact informed start n a (rest ++ after) (by rw [inside]; simp)

variable {m} in
theorem informed_led {steps : List NeighbourStep} (informed : AllInformed m [] steps) {n : NodeId}
    {base : String} (led : Led steps n base) : n = m := by
  by_contra other
  obtain ⟨before, localIp, after, rfl, _, leading, _⟩ := led
  exact (neighbourhood_defers m informed.before n).role other (by rw [leading]; trivial)

/-- If every other node that decides has heard the smallest one lately, then in every state
of the run no hub runs elsewhere, nobody else announces itself as the leader, and whoever
follows does so after the smallest node led. -/
theorem swarm_agrees_on_smallest (steps : List NeighbourStep) (informed : AllInformed m [] steps) :
    (∀ n, n ≠ m → ((neighbourhood steps).nodes n).servers = [] ∧
      ((neighbourhood steps).nodes n).election.iAmLeader = false) ∧
    ∀ n id base, ((neighbourhood steps).nodes n).role.leader = some (id, base) →
      n ≠ m ∧ id = m.text ∧ Led steps m base := by
  constructor
  · intro n other
    have calm := neighbourhood_defers m informed n
    refine ⟨calm.servers other, ?_⟩
    rw [Bool.eq_false_iff]
    intro flag
    have leading := (neighbourhood_sourced steps n).flag flag
    exact calm.role other (by rw [leading]; trivial)
  · intro n id base led
    obtain ⟨different, _, datagram, inAir, received⟩ :=
      (neighbourhood_sourced steps n).led id base led
    obtain ⟨k, rfl, leads⟩ := claim_led inAir received
    cases informed_led informed leads
    refine ⟨?_, rfl, leads⟩
    rintro rfl
    exact different rfl

section Example

private def agreedSteps : List NeighbourStep :=
  risingSteps nodeA ++
    [.deliver nodeB 0 3, .act nodeB ⟨4, .evaluate []⟩, .act nodeB ⟨4, .decide⟩, .deliver nodeB 1 5,
      .act nodeB ⟨6, .evaluate []⟩, .act nodeB ⟨7, .connected true⟩]

private theorem agreed_informed : AllInformed nodeA [] agreedSteps := by
  have own (s : Node) (a : TimedAction) : Informed nodeA nodeA s a := fun other => absurd rfl other
  have along : Along neighbours.step (calmLaw nodeA).Admits (neighbourhood []) agreedSteps := by
    refine ⟨own _ _, own _ _, own _ _, own _ _, trivial, trivial, ?_, ?_, trivial, ?_, ?_, trivial⟩
    · exact fun _ decides => nomatch decides
    · intro _ _ _
      exact ⟨by decide +kernel, ⟨"a", 3, false, none⟩, by decide +kernel, by decide +kernel⟩
    · exact fun _ decides => nomatch decides
    · exact fun _ decides => nomatch decides
  exact (neighbourhood_along_iff [] agreedSteps).mp along

theorem agreed_on_smallest :
    (∀ n, n ≠ nodeA → ((neighbourhood agreedSteps).nodes n).servers = [] ∧
      ((neighbourhood agreedSteps).nodes n).election.iAmLeader = false) ∧
    ∀ n id base, ((neighbourhood agreedSteps).nodes n).role.leader = some (id, base) →
      n ≠ nodeA ∧ id = nodeA.text ∧ Led agreedSteps nodeA base :=
  swarm_agrees_on_smallest nodeA agreedSteps agreed_informed

example : ((neighbourhood agreedSteps).nodes nodeB).role = .following "a" "127.0.0.1" := by
  decide +kernel

end Example

/-! The smallest node. -/

theorem leading_step {s : Node} {a : TimedAction} (leading : s.role = .leading)
    (first : a.action = .monitor → s.election.iShouldBeLeader a.time = true) :
    (s.step a).role = .leading := by
  obtain ⟨time, action⟩ := a
  have stepped := node_stepped s ⟨time, action⟩
  generalize moved : s.step ⟨time, action⟩ = next at stepped
  cases stepped with
  | idle | hears | serves | pullEnds | serverEnds => exact leading
  | stepsDown here =>
    simp only [Node.step, here, first rfl, if_true] at moved
    rw [moved] at here
    cases here
  | joins _ _ _ here | misses _ here | connects _ _ here | refused _ _ here | loses _ _ _ here _ =>
    cases here.symm.trans leading
  | stands here | waits here | binds here _ | panics _ here | leads here | clears here | resumes here =>
    cases here.symm.trans leading

def leadingLaw : Law neighbours where
  node _ n s := n = m → s.role = .leading
  message _ := True
  allowed n s a := n = m → a.action = .monitor → s.election.iShouldBeLeader a.time = true
  mono _ inv := inv
  acts := by
    intro sent n s a inv first own
    dsimp only [neighbours]
    split
    · exact inv own
    · exact leading_step (inv own) (first own)
  emits _ _ _ := trivial
  hears := by
    intro sent n s datagram inv _ _ time own
    dsimp only [neighbours]
    split
    · exact leading_step (inv own) (fun monitors => nomatch monitors)
    · exact inv own

variable {m} in
theorem smallest_should_lead {steps : List NeighbourStep}
    (smallest : ∀ n localIp, .emit n localIp ∈ steps → m.text ≤ n.text) (time : Nat) :
    ((neighbourhood steps).nodes m).election.iShouldBeLeader time = true := by
  have inv := neighbourhood_sourced steps m
  apply (iShouldBeLeader_iff _ time).mpr
  intro id peer known _
  obtain ⟨datagram, announcement, inAir, received, rfl⟩ := inv.peers id peer known
  obtain ⟨k, localIp, emitted, named, _⟩ := datagram_source inAir received
  rw [inv.own, election_myId, named]
  exact smallest k localIp emitted

/-- Once it leads, a node leads for good if no node with a smaller id ever announces itself. -/
theorem smallest_leader_stays (steps more : List NeighbourStep)
    (smallest : ∀ n localIp, .emit n localIp ∈ steps ++ more → m.text ≤ n.text)
    (leads : ((neighbourhood steps).nodes m).role = .leading) :
    ((neighbourhood (steps ++ more)).nodes m).role = .leading ∧
      ((neighbourhood (steps ++ more)).nodes m).bound = true := by
  have first : Along neighbours.step (leadingLaw m).Admits (neighbourhood steps) more := by
    apply (neighbourhood_along_iff steps more).mpr
    rintro before n action after split rfl _
    apply smallest_should_lead
    intro k localIp emitted
    apply smallest k localIp
    rw [split, ← List.append_assoc]
    exact List.mem_append_left _ emitted
  have initial : (leadingLaw m).Holds (neighbourhood steps) :=
    ⟨fun n own => own ▸ leads, fun _ _ => trivial⟩
  have leading : ((neighbourhood (steps ++ more)).nodes m).role = .leading := by
    rw [neighbourhood_append]
    exact (initial.along first).nodes m rfl
  exact ⟨leading, (neighbourhood_sourced (steps ++ more) m).up (Or.inr (Or.inl leading))⟩

section Example

private def heardSteps : List NeighbourStep :=
  [.emit nodeB none, .deliver nodeA 2 8, .act nodeA ⟨9, .monitor⟩]

private theorem agreed_smallest (n : NodeId) (localIp : Option Ipv4Addr)
    (member : .emit n localIp ∈ agreedSteps ++ heardSteps) : nodeA.text ≤ n.text := by
  simp only [agreedSteps, risingSteps, heardSteps, List.cons_append, List.nil_append, List.mem_cons,
    reduceCtorEq, Step.emit.injEq, false_or, or_false, List.not_mem_nil] at member
  rcases member with ⟨rfl, _⟩ | ⟨rfl, _⟩ <;> decide +kernel

theorem smaller_node_stays :
    ((neighbourhood (agreedSteps ++ heardSteps)).nodes nodeA).role = .leading ∧
      ((neighbourhood (agreedSteps ++ heardSteps)).nodes nodeA).bound = true :=
  smallest_leader_stays nodeA agreedSteps heardSteps agreed_smallest (by decide +kernel)

end Example

/-! How the smallest node comes to lead. -/

def Role.stage : Role → Option Nat
  | evaluating => some 0
  | unled => some 1
  | startingHub => some 2
  | hubStarted => some 3
  | leading => some 4
  | _ => none

theorem stage_inj {first second : Role} {k : Nat} (one : first.stage = some k)
    (two : second.stage = some k) :
    first = second := by
  cases first <;> cases one <;> cases second <;> cases two <;> rfl

theorem stage_top {role : Role} {k : Nat} (top : 4 ≤ k) (here : role.stage = some k) :
    role = .leading := by
  cases role <;> cases here <;> first | rfl | omega

def climb (rows : List PeerInfo) : List NodeAction :=
  [.evaluate rows, .decide, .startHub true, .announce]

/-- The node has come so far, and had no hub before it starts one. -/
def Risen (k : Nat) (s : Node) : Prop :=
  ∃ stage, k ≤ stage ∧ s.role.stage = some stage ∧ (stage ≤ 2 → s.servers = [])

/-- The node finds no leader and no smaller node, and gets the ports of its hub. -/
structure Unopposed (s : Node) (a : TimedAction) : Prop where
  should : s.election.iShouldBeLeader a.time = true
  alone : ∀ rows, a.action = .evaluate rows → (s.election.rehash rows).currentLeader a.time = none
  free : a.action ≠ .startHub false

theorem evaluate_unopposed {s : Node} {rows : List PeerInfo} {time : Nat}
    (here : s.role = .evaluating)
    (alone : (s.election.rehash rows).currentLeader time = none) :
    s.step ⟨time, .evaluate rows⟩ = { s with role := .unled } := by
  simp only [Node.step, here, alone]

theorem decide_unopposed {s : Node} {time : Nat} (here : s.role = .unled)
    (should : s.election.iShouldBeLeader time = true) :
    s.step ⟨time, .decide⟩ = { s with role := .startingHub, term := s.term + 1 } := by
  simp only [Node.step, here, should, if_true]

theorem startHub_unopposed {s : Node} (time : Nat) (here : s.role = .startingHub)
    (empty : s.servers = []) :
    (s.step ⟨time, .startHub true⟩).role = .hubStarted := by
  simp [Node.step, here, Node.startServers, Node.bound, empty]

theorem risen_step {k : Nat} {s : Node} {a : TimedAction} (risen : Risen k s)
    (free : Unopposed s a) :
    Risen k (s.step a) := by
  obtain ⟨stage, far, staged, closed⟩ := risen
  obtain ⟨time, action⟩ := a
  have stepped := node_stepped s ⟨time, action⟩
  generalize moved : s.step ⟨time, action⟩ = next at stepped
  cases stepped with
  | idle | hears | serves | pullEnds => exact ⟨stage, far, staged, closed⟩
  | serverEnds term server other =>
    refine ⟨stage, far, staged, fun early => ?_⟩
    rw [closed early]
    rfl
  | joins rows leaderId leaderTcpBase here =>
    rw [evaluate_unopposed here (free.alone rows rfl)] at moved
    cases congrArg Node.role moved
  | misses rows here =>
    rw [here] at staged
    cases staged
    exact ⟨1, by omega, rfl, fun _ => closed (by omega)⟩
  | stands here =>
    rw [here] at staged
    cases staged
    exact ⟨2, by omega, rfl, fun _ => closed (by omega)⟩
  | waits here =>
    rw [decide_unopposed here free.should] at moved
    cases congrArg Node.role moved
  | binds here unbound =>
    rw [here] at staged
    cases staged
    exact ⟨3, by omega, rfl, fun early => absurd early (by omega)⟩
  | panics granted here =>
    cases granted with
    | false => exact absurd rfl free.free
    | true =>
      rw [here] at staged
      cases staged
      have started := startHub_unopposed time here (closed le_rfl)
      rw [moved] at started
      cases started
  | leads here =>
    rw [here] at staged
    cases staged
    exact ⟨4, by omega, rfl, fun early => absurd early (by omega)⟩
  | stepsDown here =>
    simp only [Node.step, here, free.should, if_true] at moved
    rw [moved] at here
    cases here
  | connects _ _ here | refused _ _ here | loses _ _ _ here _ =>
    rw [here] at staged
    cases staged
  | clears here | resumes here =>
    rw [here] at staged
    cases staged

theorem risen_climbs {k : Nat} {s : Node} {a : TimedAction} {rows : List PeerInfo}
    (risen : Risen k s)
    (free : Unopposed s a) (next : (climb rows)[k]? = some a.action) :
    Risen (k + 1) (s.step a) := by
  obtain ⟨stage, far, staged, closed⟩ := risen
  rcases far.lt_or_eq with further | rfl
  · exact risen_step ⟨stage, further, staged, closed⟩ free
  obtain ⟨time, action⟩ := a
  rcases k with _ | _ | _ | _ | k
  · obtain rfl : .evaluate rows = action := Option.some.inj next
    have here : s.role = .evaluating := stage_inj staged rfl
    rw [evaluate_unopposed here (free.alone rows rfl)]
    exact ⟨1, le_rfl, rfl, fun _ => closed (by omega)⟩
  · obtain rfl : .decide = action := Option.some.inj next
    have here : s.role = .unled := stage_inj staged rfl
    rw [decide_unopposed here free.should]
    exact ⟨2, le_rfl, rfl, fun _ => closed (by omega)⟩
  · obtain rfl : .startHub true = action := Option.some.inj next
    have started := startHub_unopposed time (stage_inj staged rfl) (closed le_rfl)
    exact ⟨3, le_rfl, by rw [started]; rfl, fun early => absurd early (by omega)⟩
  · obtain rfl : .announce = action := Option.some.inj next
    have here : s.role = .hubStarted := stage_inj staged rfl
    refine ⟨4, le_rfl, ?_, fun early => absurd early (by omega)⟩
    simp only [Node.step, here, Role.stage]
  · cases next

def actionsOf (n : NodeId) (steps : List NeighbourStep) : List NodeAction :=
  steps.filterMap fun
    | .act k a => if k = n then some a.action else none
    | _ => none

theorem risen_own {k : Nat} {n : NodeId} {s : Node} {a : TimedAction} (risen : Risen k s)
    (free : Unopposed s a) : Risen k (neighbours.act n s a) := by
  dsimp only [neighbours]
  split
  · exact risen
  · exact risen_step risen free

theorem risen_own_climbs {k : Nat} {n : NodeId} {s : Node} {a : TimedAction} {rows : List PeerInfo}
    (risen : Risen k s) (free : Unopposed s a) (next : (climb rows)[k]? = some a.action) :
    Risen (k + 1) (neighbours.act n s a) := by
  dsimp only [neighbours]
  split
  next announcement hears =>
    have member := List.mem_of_getElem? next
    rw [hears] at member
    simp [climb] at member
  next => exact risen_climbs risen free next

theorem risen_hear {k : Nat} {n : NodeId} {s : Node} {datagram : Bytes} {time : Nat}
    (risen : Risen k s) :
    Risen k (neighbours.hear n s datagram time) := by
  dsimp only [neighbours]
  split
  · exact risen
  · exact risen

theorem risen_run {s : Neighbourhood} {k : Nat} {rows : List PeerInfo} {steps : List NeighbourStep}
    (risen : Risen k (s.nodes m))
    (free : Along neighbours.step (fun s step => ∀ a, step = .act m a → Unopposed (s.nodes m) a) s
      steps)
    (turns : ((climb rows).drop k).Sublist (actionsOf m steps)) :
    Risen 4 ((run neighbours.step s steps).nodes m) := by
  induction steps generalizing s k with
  | nil =>
    obtain ⟨stage, far, rest⟩ := risen
    have done := List.drop_eq_nil_iff.mp (List.sublist_nil.mp turns)
    exact ⟨stage, done.trans far, rest⟩
  | cons step rest ih =>
    obtain ⟨first, later⟩ := free
    rw [run_cons]
    by_cases own : step.node = some m
    · cases step with
      | act n a =>
        cases own
        have moved : (neighbours.step s (.act m a)).nodes m = neighbours.act m (s.nodes m) a :=
          Function.update_self m _ s.nodes
        have listed : actionsOf m (.act m a :: rest) = a.action :: actionsOf m rest := by
          simp [actionsOf]
        rw [listed] at turns
        rcases List.sublist_cons_iff.mp turns with skipped | ⟨more, same, taken⟩
        · refine ih ?_ later skipped
          rw [moved]
          exact risen_own risen (first a rfl)
        · have next : (climb rows)[k]? = some a.action := by
            rw [← List.head?_drop, same, List.head?_cons]
          refine ih (k := k + 1) ?_ later ?_
          · rw [moved]
            exact risen_own_climbs risen (first a rfl) next
          · rw [← List.tail_drop, same, List.tail_cons]
            exact taken
      | emit n localIp => cases own
      | deliver n message time =>
        cases own
        refine ih ?_ later turns
        unfold System.step
        dsimp only
        split
        · dsimp only
          rw [Function.update_self]
          exact risen_hear risen
        · exact risen
    · refine ih (k := k) ?_ later ?_
      · rw [neighbours.step_frame s own]
        exact risen
      · cases step with
        | act n a =>
          have other : n ≠ m := fun same => own (congrArg some same)
          simpa [actionsOf, other] using turns
        | emit n localIp => exact turns
        | deliver n message time => exact turns

/-- If no smaller node announces itself, every other node that decides has heard this one
lately, its ports are free and it takes its four turns, whatever else happens in between,
then it leads at the end of the run. -/
theorem informed_swarm_forms (steps : List NeighbourStep) (informed : AllInformed m [] steps)
    (smallest : ∀ n localIp, .emit n localIp ∈ steps → m.text ≤ n.text)
    (free : ∀ time, .act m ⟨time, .startHub false⟩ ∉ steps) (rows : List PeerInfo)
    (turns : (climb rows).Sublist (actionsOf m steps)) :
    ((neighbourhood steps).nodes m).role = .leading ∧
    ((neighbourhood steps).nodes m).bound = true := by
  have along : Along neighbours.step (fun s step => ∀ a, step = .act m a → Unopposed (s.nodes m) a)
      (neighbourhood []) steps := by
    rw [along_iff_split]
    rintro before _ after rfl a rfl
    have inv := neighbourhood_sourced before m
    refine ⟨smallest_should_lead ?_ a.time, ?_, ?_⟩
    · intro n localIp emitted
      exact smallest n localIp (List.mem_append_left _ emitted)
    · intro rows _
      by_contra led
      obtain ⟨⟨id, base⟩, reported⟩ := Option.ne_none_iff_exists'.mp led
      have source := inv.own ▸ reported
      obtain ⟨other, ⟨c, member, claim⟩, _⟩ := reported_claimed source
      obtain ⟨datagram, inAir, received⟩ := inv.claims c member id base claim
      obtain ⟨k, named, leads⟩ := claim_led inAir received
      rw [informed_led informed.before leads] at named
      exact other named.symm
    · intro refused
      obtain ⟨time, action⟩ := a
      cases refused
      exact free time (List.mem_append_right _ List.mem_cons_self)
  have initial : Risen 0 ((neighbourhood []).nodes m) := ⟨0, le_rfl, rfl, fun _ => rfl⟩
  obtain ⟨stage, far, staged, _⟩ := risen_run m initial along turns
  have leading := stage_top far staged
  exact ⟨leading, (neighbourhood_sourced steps m).up (Or.inr (Or.inl leading))⟩

section Example

theorem agreed_swarm_forms :
    ((neighbourhood agreedSteps).nodes nodeA).role = .leading ∧
      ((neighbourhood agreedSteps).nodes nodeA).bound = true := by
  refine informed_swarm_forms nodeA agreedSteps agreed_informed ?_ ?_ [] ?_
  · intro n localIp emitted
    exact agreed_smallest n localIp (List.mem_append_left _ emitted)
  · simp [agreedSteps, risingSteps]
  · decide +kernel

end Example

/-! A handover that never ends. -/

/-- At each of its health checks the node has heard this one lately. -/
def HearsOn (id : String) (steps more : List NeighbourStep) : Prop :=
  ∀ before time rows after, more = before ++ .act m ⟨time, .checkHealth rows⟩ :: after →
    ∃ peer, ((neighbourhood (steps ++ before)).nodes m).election.peers.get id = some peer ∧
      peer.live time = true

theorem following_step {s : Node} {a : TimedAction} {id base : String}
    (following : s.role = .following id base)
    (flagged : s.election.Flags id) (heard : ∀ rows, a.action = .checkHealth rows →
      ∃ peer, s.election.peers.get id = some peer ∧ peer.live a.time = true) :
    (s.step a).role = .following id base := by
  obtain ⟨time, action⟩ := a
  have stepped := node_stepped s ⟨time, action⟩
  generalize s.step ⟨time, action⟩ = next at stepped
  cases stepped with
  | idle | hears | serves | pullEnds | serverEnds => exact following
  | loses rows _ _ _ offline =>
    obtain ⟨peer, known, live⟩ := heard rows rfl
    obtain ⟨flag, found, leads, address⟩ := flagged
    cases known.symm.trans found
    obtain ⟨addr, given⟩ := Option.ne_none_iff_exists'.mp address
    have row := (s.election.peers.get_reorder rows id).trans found
    exact absurd offline (currentLeader_ne_none row leads live given)
  | joins _ _ _ here | misses _ here | connects _ _ here | refused _ _ here =>
    cases here.symm.trans following
  | stands here | waits here | binds here _ | panics _ here | leads here | stepsDown here | clears here
  | resumes here =>
    cases here.symm.trans following

/-- The smallest node follows this one, and no other node is about to lead. -/
structure Waits (id base : String) (n : NodeId) (s : Node) : Prop where
  myId : s.election.myId = n.text
  role : ¬ s.role.Standing
  follows : n = m → s.role = .following id base ∧ s.election.Flags id

def HearsLeader (id : String) (n : NodeId) (s : Node) (a : TimedAction) : Prop :=
  n = m → ∀ rows, a.action = .checkHealth rows →
    ∃ peer, s.election.peers.get id = some peer ∧ peer.live a.time = true

theorem Waits.step {id base : String} {n : NodeId} {s : Node} (inv : Waits m id base n s)
    {a : TimedAction}
    (informed : Informed m n s a) (hears : HearsLeader m id n s a) :
    Waits m id base n (s.step a) := by
  have myId := (election_step_myId s a).trans inv.myId
  by_cases own : n = m
  · obtain ⟨following, flagged⟩ := inv.follows own
    have stays := following_step following flagged (hears own)
    refine ⟨myId, ?_, fun _ => ⟨stays, step_flags s a ?_ flagged⟩⟩
    · rw [stays]
      exact not_false
    · rw [following]
      nofun
  · exact ⟨myId, (standing_step inv.role (informed.deferred inv.myId own)).1, fun same =>
      absurd same own⟩

def handoverLaw (id base : String) : Law neighbours where
  node _ n s := Waits m id base n s
  message _ := True
  allowed n s a := Informed m n s a ∧ HearsLeader m id n s a
  mono _ inv := inv
  acts := by
    intro sent n s a inv allowed
    dsimp only [neighbours]
    split
    · exact inv
    · exact inv.step m allowed.1 allowed.2
  emits _ _ _ := trivial
  hears := by
    intro sent n s datagram inv _ _ time
    dsimp only [neighbours]
    split
    · exact inv.step m (fun _ decides => nomatch decides) (fun _ _ checks => nomatch checks)
    · exact inv

/-- While the smallest node follows another one and hears it, and the others hear the
smallest node, no node leads ever again. -/
theorem handover_never_completes (steps more : List NeighbourStep) (id base : String)
    (follows : ((neighbourhood steps).nodes m).role = .following id base)
    (nobody : ∀ n, ¬ ((neighbourhood steps).nodes n).role.Standing)
    (informed : AllInformed m steps more) (hears : HearsOn m id steps more) :
    ((neighbourhood (steps ++ more)).nodes m).role = .following id base ∧
      ∀ n, ¬ ((neighbourhood (steps ++ more)).nodes n).role.Standing ∧
        ((neighbourhood (steps ++ more)).nodes n).election.iAmLeader = false := by
  have initial : (handoverLaw m id base).Holds (neighbourhood steps) := by
    refine ⟨fun n => ⟨?_, nobody n, ?_⟩, fun _ _ => trivial⟩
    · rw [(neighbourhood_sourced steps n).own, election_myId]
    · rintro rfl
      exact ⟨follows, ((neighbourhood_sourced steps n).led id base (by rw [follows]; rfl)).2.1⟩
  have along : Along neighbours.step (handoverLaw m id base).Admits (neighbourhood steps) more := by
    apply (neighbourhood_along_iff steps more).mpr
    intro before n a after split
    refine ⟨informed before n a after split, ?_⟩
    rintro rfl rows checks
    obtain ⟨time, action⟩ := a
    cases checks
    exact hears before time rows after split
  have last := initial.along along
  rw [← neighbourhood_append] at last
  refine ⟨((last.nodes m).follows rfl).1, fun n => ⟨(last.nodes n).role, ?_⟩⟩
  rw [Bool.eq_false_iff]
  intro flag
  have leading := (neighbourhood_sourced (steps ++ more) n).flag flag
  exact (last.nodes n).role (by rw [leading]; trivial)

section Example

private def yieldedSteps : List NeighbourStep :=
  lateSteps ++ [.emit nodeA none, .deliver nodeB 2 6, .act nodeB ⟨7, .monitor⟩]

private def leaderlessSteps : List NeighbourStep :=
  [.emit nodeB none, .deliver nodeA 3 8, .act nodeA ⟨9, .checkHealth []⟩, .act nodeB ⟨9, .resume⟩,
    .act nodeB ⟨9, .evaluate []⟩, .act nodeB ⟨9, .decide⟩]

private theorem nobody_stands (n : NodeId) :
    ¬ ((neighbourhood yieldedSteps).nodes n).role.Standing := by
  by_cases a : n = nodeA
  · have role : ((neighbourhood yieldedSteps).nodes nodeA).role = .following "b" "127.0.0.1" := by
      decide +kernel
    rw [a, role]
    exact not_false
  by_cases b : n = nodeB
  · have role : ((neighbourhood yieldedSteps).nodes nodeB).role = .steppedDown := by decide +kernel
    rw [b, role]
    exact not_false
  have still : (neighbourhood yieldedSteps).nodes n = Node.start n.text := by
    have others : ∀ step ∈ yieldedSteps, step.node ∈ [none, some nodeA, some nodeB] := by
      decide +kernel
    apply neighbours.run_frame
    intro step member own
    have known := others step member
    rw [own] at known
    simp [a, b] at known
  rw [still]
  exact not_false

private theorem leaderless_informed : AllInformed nodeA yieldedSteps leaderlessSteps := by
  have along : Along neighbours.step (calmLaw nodeA).Admits (neighbourhood yieldedSteps)
      leaderlessSteps := by
    refine ⟨trivial, trivial, fun other => absurd rfl other, ?_, ?_, ?_, trivial⟩
    · exact fun _ decides => nomatch decides
    · exact fun _ decides => nomatch decides
    · intro _ _ _
      exact ⟨by decide +kernel, ⟨"a", 6, false, none⟩, by decide +kernel, by decide +kernel⟩
  exact (neighbourhood_along_iff yieldedSteps leaderlessSteps).mp along

private theorem leaderless_heard : HearsOn nodeA "b" yieldedSteps leaderlessSteps := by
  have along : Along neighbours.step
      (fun s step => ∀ time rows, step = .act nodeA ⟨time, .checkHealth rows⟩ →
      ∃ peer, (s.nodes nodeA).election.peers.get "b" = some peer ∧ peer.live time = true)
      (neighbourhood yieldedSteps) leaderlessSteps := by
    refine ⟨?_, ?_, ?_, ?_, ?_, ?_, trivial⟩
    · exact fun _ _ checks => nomatch checks
    · exact fun _ _ checks => nomatch checks
    · rintro _ _ ⟨⟩
      exact ⟨⟨"b", 8, true, some "127.0.0.1"⟩, by decide +kernel, by decide +kernel⟩
    · exact fun _ _ checks => absurd checks (by simp)
    · exact fun _ _ checks => absurd checks (by simp)
    · exact fun _ _ checks => absurd checks (by simp)
  intro before time rows after split
  rw [neighbourhood_append]
  exact (along_iff_split _ _).mp along before _ after split time rows rfl

theorem smaller_follower_keeps_the_swarm_leaderless :
    ((neighbourhood (yieldedSteps ++ leaderlessSteps)).nodes nodeA).role = .following "b"
    "127.0.0.1" ∧
      ∀ n, ¬ ((neighbourhood (yieldedSteps ++ leaderlessSteps)).nodes n).role.Standing ∧
        ((neighbourhood (yieldedSteps ++ leaderlessSteps)).nodes n).election.iAmLeader = false :=
  handover_never_completes nodeA yieldedSteps leaderlessSteps "b" "127.0.0.1" (by decide +kernel)
    nobody_stands leaderless_informed leaderless_heard

end Example

end Smallest

end SeamlessSwarm
