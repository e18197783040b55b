import SeamlessSwarm.Admission

/-! The two receivers of capability profiles, which were written apart: the older
one of `NngServer`, with the numbering of its own message types, and the
heartbeat receiver of the hub. -/
namespace SeamlessSwarm

inductive MessageType where
  | handshakeChallenge
  | handshakeResponse
  | handshakeResult
  | capabilityProfile
  | taskDefinition
  | taskProgress
  deriving DecidableEq, Repr

def MessageType.toU8 : MessageType → UInt8
  | .handshakeChallenge => 1
  | .handshakeResponse => 2
  | .handshakeResult => 3
  | .capabilityProfile => 4
  | .taskDefinition => 5
  | .taskProgress => 6

section Receivers
variable (prost : Prost) (formatDouble : UInt64 → String)

def nngServerProfile (now : Nat) (profile : CapabilityProfile) : NodeProfile where
  nodeId := profile.nodeId
  osPlatform := profile.osPlatform
  capabilities := profile.capabilities.map fun c =>
    ⟨c.resourceName, c.valueType, resourceText formatDouble c.resourceValue⟩
  lastSeen := now
  publicKey := ""

/-- One message in the loop of `NngServer::start`, at the time it reads. -/
def nngServerReceive (now : Nat) (msg : Bytes) : Read NodeProfile :=
  match nngServerRead msg with
  | none => .reject
  | some (msgTypeRaw, payload) =>
    if msgTypeRaw = MessageType.capabilityProfile.toU8 then
      match prost.capabilityProfile.decode payload with
      | some profile => .accept (nngServerProfile formatDouble now profile)
      | none => .reject
    else .reject

/-- One message in the loop of `run_heartbeat_server`. -/
def heartbeatReceive (msg : Bytes) : Read NodeProfile :=
  match readProfile prost msg with
  | .panic => .panic
  | .reject => .reject
  | .accept profile => .accept (heartbeatProfile formatDouble profile)

/-- The profile push of `run_demo_lifecycle`. -/
def profileFrame (profile : CapabilityProfile) : Bytes :=
  frame 5 (prost.capabilityProfile.encode profile)

/-- Both ignore the message, or both register the same node. -/
def ReceiversAgree (now : Nat) (msg : Bytes) : Prop :=
  (nngServerReceive prost formatDouble now msg = .reject ∧
    heartbeatReceive prost formatDouble msg = .reject) ∨
  ∃ node, nngServerReceive prost formatDouble now msg = .accept node ∧
    heartbeatReceive prost formatDouble msg = .accept node

/-- The message has a header of type 4 or 5, and what follows decodes or, under
type 5, is shorter than declared. -/
def ProfileLike (msg : Bytes) : Prop :=
  ∃ len msgType body, header msg = some (len, msgType, body) ∧
    ((msgType = 5 ∧ body.length < len) ∨
      ((msgType = 4 ∨ msgType = 5) ∧ len ≤ body.length ∧
        ∃ profile, prost.capabilityProfile.decode (body.take len) = some profile))

end Receivers

section Agreement
variable (prost : Prost) (formatDouble : UInt64 → String)

theorem heartbeat_registry (crypto : Crypto) (s : Admission) (client : String) (msg : Bytes)
    (receiving : s.receiving = true) :
    (s.step crypto prost formatDouble (.heartbeat client msg)).registry =
      match heartbeatReceive prost formatDouble msg with
      | .accept node => s.registry.registerNode node
      | _ => s.registry := by
  unfold heartbeatReceive
  cases read : readProfile prost msg <;> simp [Admission.step, receiving, read]

theorem nngServerReceive_eq (now : Nat) {msg body : Bytes} {len : Nat} {msgType : UInt8}
    (parts : header msg = some (len, msgType, body)) :
    nngServerReceive prost formatDouble now msg =
      if msgType = 4 ∧ len ≤ body.length then
        match prost.capabilityProfile.decode (body.take len) with
        | some profile => .accept (nngServerProfile formatDouble now profile)
        | none => .reject
      else .reject := by
  unfold nngServerReceive nngServerRead
  rw [parts]
  by_cases short : body.length < len
  · simp [short, Nat.not_le.mpr short]
  · by_cases type : msgType = 4 <;> simp [short, Nat.le_of_not_lt short, type, MessageType.toU8]

theorem heartbeatReceive_eq {msg body : Bytes} {len : Nat} {msgType : UInt8}
    (parts : header msg = some (len, msgType, body)) :
    heartbeatReceive prost formatDouble msg =
      if msgType = 5 then
        if body.length < len then .panic
        else
          match prost.capabilityProfile.decode (body.take len) with
          | some profile => .accept (heartbeatProfile formatDouble profile)
          | none => .reject
      else .reject := by
  unfold heartbeatReceive readProfile readHeartbeat
  rw [readExpecting_eq, parts]
  by_cases type : msgType = 5
  · by_cases short : body.length < len
    · simp [type, short, Read.decoded]
    · simp only [type, short, if_true, if_false, Read.decoded]
      cases prost.capabilityProfile.decode (body.take len) <;> rfl
  · simp [type, Read.decoded]

theorem profileLike_iff {msg body : Bytes} {len : Nat} {msgType : UInt8}
    (parts : header msg = some (len, msgType, body)) :
    ProfileLike prost msg ↔ (msgType = 5 ∧ body.length < len) ∨
      ((msgType = 4 ∨ msgType = 5) ∧ len ≤ body.length ∧
        ∃ profile, prost.capabilityProfile.decode (body.take len) = some profile) := by
  constructor
  · rintro ⟨_, _, _, found, likely⟩
    rw [parts] at found
    cases found
    exact likely
  · exact fun likely => ⟨len, msgType, body, parts, likely⟩

theorem agree_of_header (now : Nat) {msg body : Bytes} {len : Nat} {msgType : UInt8}
    (parts : header msg = some (len, msgType, body)) :
    ReceiversAgree prost formatDouble now msg ↔ ¬ ProfileLike prost msg := by
  rw [profileLike_iff prost parts, ReceiversAgree, nngServerReceive_eq prost formatDouble now parts,
    heartbeatReceive_eq prost formatDouble parts]
  by_cases old : msgType = 4
  · subst old
    by_cases enough : len ≤ body.length
    · cases decoded : prost.capabilityProfile.decode (body.take len) <;> simp [enough]
    · simp [enough]
  · by_cases new : msgType = 5
    · subst new
      by_cases short : body.length < len
      · simp [short]
      · have enough : len ≤ body.length := Nat.le_of_not_lt short
        cases decoded : prost.capabilityProfile.decode (body.take len) <;> simp [short, enough]
    · simp [old, new]

/-- The receivers agree on a message exactly when neither of them takes a profile
from it or breaks off over it. -/
theorem receivers_agree_iff_not_profile_like (now : Nat) (msg : Bytes) :
    ReceiversAgree prost formatDouble now msg ↔ ¬ ProfileLike prost msg := by
  cases parts : header msg with
  | none =>
    have ignored : nngServerReceive prost formatDouble now msg = .reject := by
      simp [nngServerReceive, nngServerRead, parts]
    have ignored' : heartbeatReceive prost formatDouble msg = .reject := by
      simp [heartbeatReceive, readProfile, readHeartbeat, readExpecting_eq, parts, Read.decoded]
    refine iff_of_true (Or.inl ⟨ignored, ignored'⟩) ?_
    rintro ⟨len, msgType, body, found, _⟩
    rw [parts] at found
    cases found
  | some fields => exact agree_of_header prost formatDouble now parts

theorem profileFrame_not_agreed (now : Nat) (profile : CapabilityProfile)
    (fits : (prost.capabilityProfile.encode profile).length < 4294967296) :
    ¬ ReceiversAgree prost formatDouble now (profileFrame prost profile) := by
  unfold profileFrame
  rw [agree_of_header prost formatDouble now (header_frame 5 _), Classical.not_not]
  refine ⟨_, 5, _, header_frame 5 _, Or.inr ⟨Or.inr rfl, ?_, profile, ?_⟩⟩
  · exact Nat.mod_le _ _
  · rw [Nat.mod_eq_of_lt fits, List.take_length, prost.capabilityProfile.decode_encode profile fits]

end Agreement

theorem agent_frame_is_not_agreed :
    ¬ ReceiversAgree topology toString 1700000000
      (profileFrame topology ⟨"worker", "linux", [], 1700000000⟩) := by
  apply profileFrame_not_agreed
  decide +kernel

end SeamlessSwarm
