import SeamlessSwarm.Lib.Text
import SeamlessSwarm.RoleLoop

/-! Announcements as datagrams. The broadcaster formats them, and the listener reads
what its buffer holds of a datagram and picks fields by position. -/
namespace SeamlessSwarm
open Trace

namespace Announcement

def nodeId : Announcement → String
  | peer nodeId => nodeId
  | leader nodeId _ => nodeId

def kind : Announcement → String
  | peer _ => "PEER"
  | leader _ _ => "LEADER"

def fields : Announcement → List String
  | peer nodeId => [nodeId]
  | leader nodeId leaderTcpBase => [nodeId, leaderTcpBase]

/-- As the broadcaster formats it. -/
def message : Announcement → String
  | peer nodeId => "SEAMLESS-SWARM:PEER:" ++ nodeId
  | leader nodeId leaderTcpBase => "SEAMLESS-SWARM:LEADER:" ++ nodeId ++ ":" ++ leaderTcpBase

def datagram (a : Announcement) : Bytes := Hex.stringBytes a.message

theorem message_peer (nodeId : String) : (peer nodeId).message = "SEAMLESS-SWARM:PEER:" ++ nodeId :=
  rfl

theorem message_leader (nodeId leaderTcpBase : String) : (leader nodeId leaderTcpBase).message =
    "SEAMLESS-SWARM:LEADER:" ++ nodeId ++ ":" ++ leaderTcpBase := rfl

end Announcement

def parseMdnsAnnouncement (text : String) : Option Announcement :=
  match Text.split ':' (Text.trim text) with
  | tag :: kind :: nodeId :: rest =>
    if tag ≠ "SEAMLESS-SWARM" then none
    else if kind = "PEER" then some (.peer nodeId)
    else if kind = "LEADER" then rest.head?.map (.leader nodeId)
    else none
  | _ => none

/-- The buffer takes 512 bytes, and the rest of a datagram is lost. -/
def receiveDatagram (datagram : Bytes) : Option Announcement :=
  (Text.fromUtf8 (datagram.take 512)).bind parseMdnsAnnouncement

def ElectionState.hear (s : ElectionState) (datagram : Bytes) (now : Nat) : ElectionState :=
  match receiveDatagram datagram with
  | some announcement => s.step ⟨now, announcement.toCall⟩
  | none => s

structure Ipv4Addr where
  a : UInt8
  b : UInt8
  c : UInt8
  d : UInt8
  deriving DecidableEq

def Ipv4Addr.text (ip : Ipv4Addr) : String :=
  ip.a.toNat.repr ++ "." ++ ip.b.toNat.repr ++ "." ++ ip.c.toNat.repr ++ "." ++ ip.d.toNat.repr

/-- The address in a leader's announcement, with the one it takes when it knows none. -/
def announcedIp (localIp : Option Ipv4Addr) : String :=
  (localIp.map Ipv4Addr.text).getD "127.0.0.1"

def broadcastRound (s : ElectionState) (nodeId : String) (localIp : Option Ipv4Addr) : List Bytes :=
  (Announcement.peer nodeId).datagram ::
    if s.iAmLeader then [(Announcement.leader nodeId (announcedIp localIp)).datagram] else []

/-- The datagram is one announcement, with fields that are there and hold no colon,
and white space around it. -/
def IsAnnouncement (datagram : Bytes) : Prop :=
  ∃ text, Text.fromUtf8 datagram = some text ∧ ∃ a : Announcement, Text.trim text = a.message ∧
    ∀ field ∈ a.fields, field ≠ "" ∧ ':' ∉ field.toList

/-- The listener passes the datagram by unless it is an announcement. -/
def HeardExactly (datagram : Bytes) : Prop :=
  ¬ IsAnnouncement datagram → ∀ (s : ElectionState) now, s.hear datagram now = s

/-- What the buffer holds has the fields of an announcement, but one of them is empty
or more of them follow, or the buffer does not hold all of the datagram. -/
def Misread (datagram : Bytes) : Prop :=
  ∃ text, Text.fromUtf8 (datagram.take 512) = some text ∧ ∃ (a : Announcement) (rest : List String),
    Text.split ':' (Text.trim text) = "SEAMLESS-SWARM" :: a.kind :: (a.fields ++ rest) ∧
    if datagram.length ≤ 512 then "" ∈ a.fields ∨ rest ≠ [] else ¬ IsAnnouncement datagram

/-- A node id as the round trip needs it. -/
structure NodeName (nodeId : String) : Prop where
  filled : nodeId ≠ ""
  plain : ':' ∉ nodeId.toList
  left : ∀ c ∈ nodeId.toList.head?, Text.isWhitespace c = false
  right : ∀ c ∈ nodeId.toList.getLast?, Text.isWhitespace c = false

/-- Hearing what a node broadcasts is observing it as a peer and as a leader, and
the node itself stays as it is. -/
structure AnnouncementRoundTrip (nodeId : String) (localIp : Option Ipv4Addr) : Prop where
  peer : (Announcement.peer nodeId).datagram.length ≤ 512 → ∀ (r : ElectionState) now,
    r.hear (Announcement.peer nodeId).datagram now = r.observePeer nodeId now
  leader : (Announcement.leader nodeId (announcedIp localIp)).datagram.length ≤ 512 →
    ∀ (r : ElectionState) now,
      r.hear (Announcement.leader nodeId (announcedIp localIp)).datagram now =
      r.observeLeader nodeId (announcedIp localIp) now
  round : ∀ s : ElectionState, (∀ d ∈ broadcastRound s nodeId localIp, d.length ≤ 512) →
    ∀ (r : ElectionState) now, run (fun r d => r.hear d now) r (broadcastRound s nodeId localIp) =
      if s.iAmLeader then (r.observePeer nodeId now).observeLeader nodeId (announcedIp localIp) now
      else r.observePeer nodeId now
  own : ∀ s : ElectionState, s.myId = nodeId → ∀ d ∈ broadcastRound s nodeId localIp,
    d.length ≤ 512 →
    ∀ now, s.hear d now = s

/-! Parsing. -/

theorem parse_eq_some_iff (text : String) (a : Announcement) :
    parseMdnsAnnouncement text = some a ↔ ∃ rest,
      Text.split ':' (Text.trim text) = "SEAMLESS-SWARM" :: a.kind :: (a.fields ++ rest) := by
  unfold parseMdnsAnnouncement
  generalize Text.split ':' (Text.trim text) = parts
  constructor
  · intro parsed
    split at parsed
    next tag kind nodeId rest =>
      by_cases tagged : tag = "SEAMLESS-SWARM"
      · rw [if_neg (not_not_intro tagged)] at parsed
        by_cases isPeer : kind = "PEER"
        · rw [if_pos isPeer] at parsed
          cases parsed
          exact ⟨rest, by rw [tagged, isPeer]; rfl⟩
        · rw [if_neg isPeer] at parsed
          by_cases isLeader : kind = "LEADER"
          · rw [if_pos isLeader] at parsed
            obtain ⟨leaderTcpBase, first, rfl⟩ := Option.map_eq_some_iff.mp parsed
            obtain ⟨more, rfl⟩ := List.head?_eq_some_iff.mp first
            exact ⟨more, by rw [tagged, isLeader]; rfl⟩
          · rw [if_neg isLeader] at parsed
            cases parsed
      · rw [if_pos tagged] at parsed
        cases parsed
    next => cases parsed
  · rintro ⟨rest, rfl⟩
    cases a with
    | peer nodeId => simp [Announcement.kind, Announcement.fields]
    | leader nodeId leaderTcpBase => simp [Announcement.kind, Announcement.fields]

theorem message_eq (a : Announcement) :
    (String.singleton ':').intercalate ("SEAMLESS-SWARM" :: a.kind :: a.fields) = a.message := by
  cases a with
  | peer nodeId =>
    have head : "SEAMLESS-SWARM:PEER:" =
        "SEAMLESS-SWARM" ++ (String.singleton ':' ++ ("PEER" ++ String.singleton ':')) := by decide
    rw [Announcement.message_peer, Announcement.kind, Announcement.fields, head,
      String.intercalate_cons_cons, String.intercalate_cons_cons, String.intercalate_singleton]
    simp only [String.append_assoc]
  | leader nodeId leaderTcpBase =>
    have head : "SEAMLESS-SWARM:LEADER:" =
        "SEAMLESS-SWARM" ++ (String.singleton ':' ++ ("LEADER" ++ String.singleton ':')) := by
          decide
    have colon : ":" = String.singleton ':' := by decide
    rw [Announcement.message_leader, Announcement.kind, Announcement.fields, head, colon,
      String.intercalate_cons_cons, String.intercalate_cons_cons,
      String.intercalate_cons_cons, String.intercalate_singleton]
    simp only [String.append_assoc]

theorem split_message_iff (text : String) (a : Announcement) :
    Text.split ':' text = "SEAMLESS-SWARM" :: a.kind :: a.fields ↔
      text = a.message ∧ ∀ field ∈ a.fields, ':' ∉ field.toList := by
  have kind : ':' ∉ a.kind.toList := by
    cases a with
    | peer nodeId => exact (by decide : ':' ∉ "PEER".toList)
    | leader nodeId leaderTcpBase => exact (by decide : ':' ∉ "LEADER".toList)
  rw [Text.split_eq_iff, message_eq, eq_comm (a := text), and_comm (a := a.message = text)]
  simp [kind]

theorem fields_inj {a b : Announcement} {rest : List String}
    (same : a.kind :: (a.fields ++ rest) = b.kind :: b.fields) : a = b ∧ rest = [] := by
  cases a <;> cases b <;> simp_all [Announcement.kind, Announcement.fields]

theorem receiveDatagram_eq_some_iff (datagram : Bytes) (a : Announcement) :
    receiveDatagram datagram = some a ↔ ∃ text rest, Text.fromUtf8 (datagram.take 512) = some text ∧
      Text.split ':' (Text.trim text) = "SEAMLESS-SWARM" :: a.kind :: (a.fields ++ rest) := by
  simp only [receiveDatagram, Option.bind_eq_some_iff, parse_eq_some_iff, exists_and_left]

theorem isAnnouncement_iff (datagram : Bytes) :
    IsAnnouncement datagram ↔ ∃ text, Text.fromUtf8 datagram = some text ∧ ∃ a : Announcement,
      Text.split ':' (Text.trim text) = "SEAMLESS-SWARM" :: a.kind :: a.fields ∧ "" ∉ a.fields := by
  have filled (a : Announcement) : "" ∉ a.fields ↔ ∀ field ∈ a.fields, field ≠ "" :=
    List.forall_mem_ne'.symm
  simp only [IsAnnouncement, split_message_iff, filled, and_assoc, forall_and, and_comm]

/-! A message is read as it was formatted. -/

theorem trim_message (a : Announcement)
    (right : ∀ c ∈ a.message.toList.getLast?, Text.isWhitespace c = false) :
    Text.trim a.message = a.message := by
  have first : a.message.toList.head? = some 'S' := by
    cases a with
    | peer nodeId =>
      have tag : "SEAMLESS-SWARM:PEER:".toList.head? = some 'S' := by decide
      rw [Announcement.message_peer, String.toList_append, List.head?_append, tag, Option.some_or]
    | leader nodeId leaderTcpBase =>
      have tag : "SEAMLESS-SWARM:LEADER:".toList.head? = some 'S' := by decide
      rw [Announcement.message_leader, String.append_assoc, String.append_assoc,
        String.toList_append,
        List.head?_append, tag, Option.some_or]
  exact Text.trim_eq_self (Text.not_whitespace_at first (by decide)) right

theorem receive_message {a : Announcement} (plain : ∀ field ∈ a.fields, ':' ∉ field.toList)
    (right : ∀ c ∈ a.message.toList.getLast?, Text.isWhitespace c = false)
    (fits : a.datagram.length ≤ 512) : receiveDatagram a.datagram = some a := by
  apply (receiveDatagram_eq_some_iff _ a).mpr
  refine ⟨a.message, [], ?_, ?_⟩
  · rw [List.take_of_length_le fits]
    exact (Text.fromUtf8_eq_some_iff _ _).mpr rfl
  · rw [trim_message a right, List.append_nil]
    exact (split_message_iff _ a).mpr ⟨rfl, plain⟩

theorem isAnnouncement_message {a : Announcement} (plain : ∀ field ∈ a.fields, ':' ∉ field.toList)
    (right : ∀ c ∈ a.message.toList.getLast?, Text.isWhitespace c = false) :
    IsAnnouncement a.datagram ↔ "" ∉ a.fields := by
  have decoded : Text.fromUtf8 a.datagram = some a.message :=
    (Text.fromUtf8_eq_some_iff _ _).mpr rfl
  have parts := (split_message_iff a.message a).mpr ⟨rfl, plain⟩
  rw [← trim_message a right] at parts
  rw [isAnnouncement_iff]
  constructor
  · rintro ⟨text, same, b, split, filled⟩
    rw [decoded] at same
    cases same
    rw [parts, List.cons_inj_right, ← List.append_nil a.fields] at split
    obtain ⟨rfl, _⟩ := fields_inj split
    exact filled
  · intro filled
    exact ⟨a.message, decoded, a, parts, filled⟩

theorem nameless_right :
    ∀ c ∈ (Announcement.peer "").message.toList.getLast?, Text.isWhitespace c = false :=
  Text.not_whitespace_at (by decide : _ = some ':') (by decide)

theorem receive_nameless : receiveDatagram (Announcement.peer "").datagram = some (.peer "") :=
  receive_message (by simp [Announcement.fields]) nameless_right (by decide)

/-! Hearing. -/

theorem hear_some {datagram : Bytes} {a : Announcement}
    (received : receiveDatagram datagram = some a)
    (s : ElectionState) (now : Nat) : s.hear datagram now = s.step ⟨now, a.toCall⟩ := by
  rw [ElectionState.hear, received]

theorem announced_live (a : Announcement) {s : ElectionState} (other : a.nodeId ≠ s.myId)
    (now : Nat) :
    ∃ peer, (s.step ⟨now, a.toCall⟩).peers.get a.nodeId = some peer ∧ peer.live now = true := by
  cases a with
  | peer nodeId =>
    refine ⟨_, (observePeer_get s nodeId now nodeId).trans (if_pos ⟨rfl, other⟩), ?_⟩
    simp [PeerInfo.live, peerTimeout]
  | leader nodeId leaderTcpBase =>
    refine ⟨_, (observeLeader_get s nodeId leaderTcpBase now nodeId).trans (if_pos ⟨rfl, other⟩),
      ?_⟩
    simp [PeerInfo.live, peerTimeout]

theorem hear_unchanged_iff (datagram : Bytes) :
    (∀ (s : ElectionState) now, s.hear datagram now = s) ↔ receiveDatagram datagram = none := by
  constructor
  · intro unchanged
    cases received : receiveDatagram datagram with
    | none => rfl
    | some a =>
      have other : ∃ myId, a.nodeId ≠ myId := by
        by_cases blank : a.nodeId = ""
        · exact ⟨"n", by simp [blank]⟩
        · exact ⟨"", blank⟩
      obtain ⟨myId, other⟩ := other
      obtain ⟨peer, kept, _⟩ := announced_live a (s := .new myId) other 0
      rw [← hear_some received, unchanged] at kept
      cases kept
  · intro ignored s now
    rw [ElectionState.hear, ignored]

theorem smaller_id_blocks (a : Announcement) {s : ElectionState} (smaller : a.nodeId < s.myId)
    (now : Nat) :
    (s.step ⟨now, a.toCall⟩).iShouldBeLeader now = false := by
  obtain ⟨peer, kept, live⟩ := announced_live a smaller.ne now
  apply Bool.eq_false_iff.mpr
  intro should
  have least := (iShouldBeLeader_iff _ now).mp should a.nodeId peer kept live
  rw [step_myId] at least
  exact absurd least (not_le_of_gt smaller)

theorem received_of_misread {datagram : Bytes} (misread : Misread datagram) :
    ∃ a, receiveDatagram datagram = some a := by
  obtain ⟨text, decoded, a, rest, parts, _⟩ := misread
  exact ⟨a, (receiveDatagram_eq_some_iff datagram a).mpr ⟨text, rest, decoded, parts⟩⟩

/-- A datagram that is not an announcement and is received as one has a fault in the
part that is read, or is longer than that part. -/
theorem misread_of_received {datagram : Bytes} {a : Announcement}
    (other : ¬ IsAnnouncement datagram)
    (received : receiveDatagram datagram = some a) : Misread datagram := by
  obtain ⟨text, rest, decoded, parts⟩ := (receiveDatagram_eq_some_iff datagram a).mp received
  refine ⟨text, decoded, a, rest, parts, ?_⟩
  split
  next short =>
    by_contra faultless
    obtain ⟨filled, more⟩ := not_or.mp faultless
    have last := not_not.mp more
    subst last
    rw [List.take_of_length_le short] at decoded
    rw [List.append_nil] at parts
    exact other ((isAnnouncement_iff datagram).mpr ⟨text, decoded, a, parts, filled⟩)
  next => exact other

theorem announcement_not_misread {datagram : Bytes} (announced : IsAnnouncement datagram) :
    ¬ Misread datagram := by
  rintro ⟨text, decoded, a, rest, parts, bad⟩
  split at bad
  next short =>
    obtain ⟨text', decoded', b, parts', filled⟩ := (isAnnouncement_iff datagram).mp announced
    rw [List.take_of_length_le short, decoded'] at decoded
    cases decoded
    rw [parts', List.cons_inj_right] at parts
    obtain ⟨rfl, rfl⟩ := fields_inj parts.symm
    rcases bad with blank | more
    · exact filled blank
    · exact more rfl
  next => exact bad announced

/-- The listener takes nothing but announcements exactly for the datagrams that
it does not misread. -/
theorem heard_exactly_iff_not_misread (datagram : Bytes) :
    HeardExactly datagram ↔ ¬ Misread datagram := by
  rw [HeardExactly, hear_unchanged_iff]
  constructor
  · intro law misread
    obtain ⟨a, received⟩ := received_of_misread misread
    have other : ¬ IsAnnouncement datagram :=
      fun announced => announcement_not_misread announced misread
    rw [law other] at received
    cases received
  · intro understood other
    apply Option.eq_none_iff_forall_ne_some.mpr
    intro a received
    exact understood (misread_of_received other received)

/-- A datagram that stops after its second colon is taken for a peer with an empty id. -/
theorem nameless_peer_is_heard : ¬ HeardExactly (Announcement.peer "").datagram := by
  intro exactly
  have other : ¬ IsAnnouncement (Announcement.peer "").datagram := by
    rw [isAnnouncement_message (by simp [Announcement.fields]) nameless_right]
    simp [Announcement.fields]
  have received := receive_nameless
  rw [(hear_unchanged_iff _).mp (exactly other)] at received
  cases received

theorem nameless_peer_blocks (s : ElectionState) (named : s.myId ≠ "") (now : Nat) :
    (s.hear (Announcement.peer "").datagram now).iShouldBeLeader now = false := by
  have longer : ([] : List Char) < s.myId.toList := by
    cases chars : s.myId.toList with
    | nil => exact absurd (String.toList_eq_nil_iff.mp chars) named
    | cons c rest => exact List.nil_lt_cons c rest
  have smaller : (Announcement.peer "").nodeId < s.myId := String.lt_iff_toList_lt.mpr longer
  rw [hear_some receive_nameless]
  exact smaller_id_blocks _ smaller now

/-! The round trip. -/

theorem ipv4_plain (ip : Ipv4Addr) : ':' ∉ ip.text.toList := by
  have number (n : Nat) : ':' ∉ n.repr.toList := by
    intro member
    exact absurd (Text.isDigit_of_mem_repr n ':' member) (by decide)
  have dot : ':' ∉ ".".toList := by decide
  simp only [Ipv4Addr.text, String.toList_append, List.mem_append, number, dot, or_false,
    not_false_eq_true]

theorem ipv4_right (ip : Ipv4Addr) (start : String) :
    ∀ c ∈ (start ++ ip.text).toList.getLast?, Text.isWhitespace c = false := by
  intro c last
  rw [Ipv4Addr.text, ← String.append_assoc, String.toList_append] at last
  exact Text.isWhitespace_of_isDigit (Text.isDigit_of_getLast?_repr _ _ c last)

theorem announcedIp_text (localIp : Option Ipv4Addr) : ∃ ip : Ipv4Addr,
    announcedIp localIp = ip.text := by
  cases localIp with
  | none => exact ⟨⟨127, 0, 0, 1⟩, by decide⟩
  | some ip => exact ⟨ip, rfl⟩

theorem peer_right {nodeId : String} (named : NodeName nodeId) :
    ∀ c ∈ (Announcement.peer nodeId).message.toList.getLast?, Text.isWhitespace c = false := by
  intro c last
  have filled : nodeId.toList ≠ [] := fun empty => named.filled (String.toList_eq_nil_iff.mp empty)
  rw [Announcement.message_peer, String.toList_append, List.getLast?_append,
    List.getLast?_eq_some_getLast filled, Option.some_or,
      ← List.getLast?_eq_some_getLast filled] at last
  exact named.right c last

theorem receive_peer {nodeId : String} (named : NodeName nodeId)
    (fits : (Announcement.peer nodeId).datagram.length ≤ 512) :
    receiveDatagram (Announcement.peer nodeId).datagram = some (.peer nodeId) := by
  apply receive_message _ (peer_right named) fits
  simpa [Announcement.fields] using named.plain

theorem receive_leader {nodeId : String} (named : NodeName nodeId) (localIp : Option Ipv4Addr)
    (fits : (Announcement.leader nodeId (announcedIp localIp)).datagram.length ≤ 512) :
    receiveDatagram (Announcement.leader nodeId (announcedIp localIp)).datagram =
      some (.leader nodeId (announcedIp localIp)) := by
  obtain ⟨ip, text⟩ := announcedIp_text localIp
  rw [text] at fits ⊢
  apply receive_message _ _ fits
  · simpa [Announcement.fields] using ⟨named.plain, ipv4_plain ip⟩
  · exact ipv4_right ip _

/-- What a node with a proper name broadcasts is what others observe of it. -/
theorem announcement_round_trip {nodeId : String} (named : NodeName nodeId)
    (localIp : Option Ipv4Addr) : AnnouncementRoundTrip nodeId localIp := by
  have peer (fits : (Announcement.peer nodeId).datagram.length ≤ 512) (r : ElectionState)
      (now : Nat) :
      r.hear (Announcement.peer nodeId).datagram now = r.observePeer nodeId now :=
    hear_some (receive_peer named fits) r now
  have leader (fits : (Announcement.leader nodeId (announcedIp localIp)).datagram.length ≤ 512)
      (r : ElectionState) (now : Nat) :
      r.hear (Announcement.leader nodeId (announcedIp localIp)).datagram now =
        r.observeLeader nodeId (announcedIp localIp) now :=
    hear_some (receive_leader named localIp fits) r now
  refine ⟨peer, leader, ?_, ?_⟩
  · intro s fit r now
    have first := peer (fit _ List.mem_cons_self) r now
    cases leads : s.iAmLeader with
    | false => simpa [broadcastRound, leads] using first
    | true =>
      have second := leader (fit _ (by simp [broadcastRound, leads]))
      simp only [broadcastRound, leads, if_true, run_cons, run_nil, first, second]
  · rintro s rfl d member fits now
    rcases List.mem_cons.mp member with rfl | more
    · rw [peer fits, ElectionState.observePeer, if_pos rfl]
    · cases leads : s.iAmLeader with
      | false => simp [leads] at more
      | true =>
        simp only [leads, if_true, List.mem_singleton] at more
        subst more
        rw [leader fits, ElectionState.observeLeader, if_pos rfl]

theorem swarm_node_round_trips : AnnouncementRoundTrip "node-7" (some ⟨192, 168, 0, 12⟩) ∧
    AnnouncementRoundTrip "node-7" none := by
  have left : "node-7".toList.head? = some 'n' := by decide
  have right : "node-7".toList.getLast? = some '7' := by decide
  have named : NodeName "node-7" := ⟨by decide, by decide, Text.not_whitespace_at left (by decide),
    Text.not_whitespace_at right (by decide)⟩
  exact ⟨announcement_round_trip named _, announcement_round_trip named _⟩

end SeamlessSwarm
