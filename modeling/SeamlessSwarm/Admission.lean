import SeamlessSwarm.Handshake

/-! Who gets into the registry. The authentication server and the heartbeat
receiver of one hub share nothing: the first writes no registry entry, and the
second writes one for every profile that it can decode. -/
namespace SeamlessSwarm
open Trace

/-- Both servers, the registry, and the authenticated results sent so far, as
the client that got the result and the node id in its response. -/
structure Admission where
  auth : AuthServer
  registry : EphemeralRegistry
  receiving : Bool
  admitted : List (String × String)
  deriving DecidableEq

inductive AdmissionEvent where
  | auth (event : AuthEvent)
  | heartbeat (client : String) (msg : Bytes)
  | heartbeatTimedOut
  | heartbeatFailed
  deriving DecidableEq

section Server
variable (crypto : Crypto) (prost : Prost) (formatDouble : UInt64 → String)

/-- The text of a resource value; doubles are printed by the given function. -/
def resourceText : Option ResourceValue → String
  | some (.boolVal b) => if b then "true" else "false"
  | some (.intVal i) => toString i.toInt
  | some (.doubleVal bits) => formatDouble bits
  | some (.stringVal s) => s
  | none => ""

def heartbeatProfile (profile : CapabilityProfile) : NodeProfile where
  nodeId := profile.nodeId
  osPlatform := profile.osPlatform
  capabilities := profile.capabilities.map fun cap =>
    ⟨cap.resourceName, cap.valueType, resourceText formatDouble cap.resourceValue⟩
  lastSeen := 1200
  publicKey := ""

def readProfile (msg : Bytes) : Read CapabilityProfile :=
  (readHeartbeat msg).decoded prost.capabilityProfile

namespace Admission

def start (leader : NodeProfile) : Admission :=
  ⟨AuthServer.start, EphemeralRegistry.new.registerNode leader, true, []⟩

def admits (s : Admission) (event : AuthEvent) : List (String × String) :=
  match s.auth.completes crypto prost event with
  | some x =>
    match x.response.identity with
    | some identity => if x.sent &&
      x.result.authenticated then [(x.client, identity.nodeUuid)] else []
    | none => []
  | none => []

def step (s : Admission) : AdmissionEvent → Admission
  | .auth event =>
    { s with
      auth := s.auth.step crypto prost event
      admitted := s.admitted ++ s.admits crypto prost event }
  | .heartbeat _ msg =>
    if s.receiving then
      match readProfile prost msg with
      | .panic => { s with receiving := false }
      | .reject => s
      | .accept profile =>
        { s with registry := s.registry.registerNode (heartbeatProfile formatDouble profile) }
    else s
  | .heartbeatTimedOut => s
  | .heartbeatFailed => { s with receiving := false }

end Admission

def admission (leader : NodeProfile) (events : List AdmissionEvent) : Admission :=
  run (Admission.step crypto prost formatDouble) (Admission.start leader) events

/-- Only authenticated nodes are in the registry, and a heartbeat changes the entries
of those node ids only that its client was authenticated for. -/
structure AuthenticatedFirst (leader : NodeProfile) (events : List AdmissionEvent) : Prop where
  entries : ∀ before after, events = before ++ after → ∀ id profile,
    (admission crypto prost formatDouble leader before).registry.get id = some profile →
    id = leader.nodeId ∨
      ∃ client, (client, id) ∈ (admission crypto prost formatDouble leader before).admitted
  heartbeats : ∀ before client msg after, events = before ++ .heartbeat client msg :: after → ∀ id,
    (client, id) ∉ (admission crypto prost formatDouble leader before).admitted →
    (admission crypto prost formatDouble leader (before ++ [.heartbeat client msg])).registry.get
    id =
      (admission crypto prost formatDouble leader before).registry.get id

/-- A heartbeat that is taken in comes from a client authenticated for its node
id, or repeats the entry that is there. -/
def FromAuthenticated (s : Admission) (event : AdmissionEvent) : Prop :=
  ∀ client msg profile, event = .heartbeat client msg → s.receiving = true →
    readProfile prost msg = .accept profile →
    (client, profile.nodeId) ∈ s.admitted ∨
      s.registry.get profile.nodeId = some (heartbeatProfile formatDouble profile)

end Server

section Step
variable (crypto : Crypto) (prost : Prost) (formatDouble : UInt64 → String)

theorem heartbeat_get (s : Admission) (client : String) (msg : Bytes) (id : String) :
    (s.step crypto prost formatDouble (.heartbeat client msg)).registry.get id = s.registry.get id ∨
      ∃ profile, s.receiving = true ∧ readProfile prost msg = .accept profile ∧
        id = profile.nodeId ∧
        (s.step crypto prost formatDouble (.heartbeat client msg)).registry.get id =
          some (heartbeatProfile formatDouble profile) := by
  cases receiving : s.receiving with
  | false => exact Or.inl (by simp [Admission.step, receiving])
  | true =>
    cases read : readProfile prost msg with
    | panic => exact Or.inl (by simp [Admission.step, receiving, read])
    | reject => exact Or.inl (by simp [Admission.step, receiving, read])
    | accept profile =>
      have row := s.registry.get_insert (heartbeatProfile formatDouble profile) id
      have next : (s.step crypto prost formatDouble (.heartbeat client msg)).registry =
          s.registry.insert (heartbeatProfile formatDouble profile) := by
        simp [Admission.step, receiving, read, EphemeralRegistry.registerNode]
      rw [next, row]
      by_cases named : id = profile.nodeId
      · exact Or.inr ⟨profile, rfl, rfl, named, if_pos named⟩
      · exact Or.inl (if_neg named)

theorem heartbeat_step_iff (s : Admission) (client : String) (msg : Bytes) :
    (∀ id, (client, id) ∉ s.admitted →
      (s.step crypto prost formatDouble (.heartbeat client msg)).registry.get id =
        s.registry.get id) ↔
      FromAuthenticated prost formatDouble s (.heartbeat client msg) := by
  constructor
  · intro unchanged c m profile same receiving read
    cases same
    by_cases admitted : (client, profile.nodeId) ∈ s.admitted
    · exact Or.inl admitted
    · right
      rw [← unchanged profile.nodeId admitted]
      simp only [Admission.step, receiving, if_true, read]
      exact s.registry.get_insert_self (heartbeatProfile formatDouble profile)
  · intro source id foreign
    rcases heartbeat_get crypto prost formatDouble s client msg id with
      same | ⟨profile, receiving, read, named, row⟩
    · exact same
    · rcases source client msg profile rfl receiving read with admitted | repeated
      · rw [named] at foreign
        exact absurd admitted foreign
      · rw [row, named, repeated]

def EntriesAdmitted (leader : NodeProfile) (s : Admission) : Prop :=
  ∀ id profile, s.registry.get id = some profile →
    id = leader.nodeId ∨ ∃ client, (client, id) ∈ s.admitted

theorem entries_step (leader : NodeProfile) (s : Admission) (event : AdmissionEvent)
    (inv : EntriesAdmitted leader s) (source : FromAuthenticated prost formatDouble s event) :
    EntriesAdmitted leader (s.step crypto prost formatDouble event) := by
  intro id profile found
  cases event with
  | auth event =>
    rcases inv id profile found with own | ⟨client, admitted⟩
    · exact Or.inl own
    · exact Or.inr ⟨client, List.mem_append_left _ admitted⟩
  | heartbeat client msg =>
    have kept : (s.step crypto prost formatDouble (.heartbeat client msg)).admitted =
        s.admitted := by
      unfold Admission.step
      dsimp only
      split
      · split <;> rfl
      · rfl
    rw [kept]
    rcases heartbeat_get crypto prost formatDouble s client msg id with
      same | ⟨sent, receiving, read, named, row⟩
    · exact inv id profile (same.symm.trans found)
    · rcases source client msg sent rfl receiving read with admitted | repeated
      · exact Or.inr ⟨client, by rw [named]; exact admitted⟩
      · exact inv id _ (by rw [named]; exact repeated)
  | heartbeatTimedOut => exact inv id profile found
  | heartbeatFailed => exact inv id profile found

/-- A run authenticates before it registers exactly when every heartbeat that is
taken in comes from a client authenticated for its node id or repeats the entry. -/
theorem authenticated_first_iff_heartbeats_authenticated (leader : NodeProfile)
    (events : List AdmissionEvent) :
    AuthenticatedFirst crypto prost formatDouble leader events ↔
      Along (Admission.step crypto prost formatDouble) (FromAuthenticated prost formatDouble)
        (Admission.start leader) events := by
  have after (before : List AdmissionEvent) (event : AdmissionEvent) :
      admission crypto prost formatDouble leader (before ++ [event]) =
        (admission crypto prost formatDouble leader before).step crypto prost formatDouble event :=
    run_append _ before [event]
  constructor
  · intro law
    apply (along_iff_split _ _).mpr
    intro before event rest split client msg profile same
    subst same
    have unchanged := law.heartbeats before client msg rest split
    rw [after] at unchanged
    exact (heartbeat_step_iff crypto prost formatDouble _ client msg).mp unchanged client
      msg profile rfl
  · intro along
    constructor
    · intro before rest split
      rw [split, along_append] at along
      have initial : EntriesAdmitted leader (Admission.start leader) := by
        intro id profile found
        left
        by_contra other
        have row := (EphemeralRegistry.new).get_insert_ne leader other
        exact absurd (found.symm.trans row) nofun
      exact run_invariant_along (entries_step crypto prost formatDouble leader) initial along.1
    · intro before client msg rest split
      rw [after]
      exact (heartbeat_step_iff crypto prost formatDouble _ client msg).mpr
        ((along_iff_split _ _).mp along before _ rest split)

end Step

section Example

private def intruder : CapabilityProfile := ⟨"intruder", "linux", [], 0⟩

private def leaderNode : NodeProfile := ⟨"leader", "linux", [], 0, ""⟩

/-- One heartbeat without any handshake is enough to be registered. -/
theorem intruder_is_registered :
    ¬ AuthenticatedFirst pointCrypto topology toString leaderNode
      [.heartbeat "c" (frame 5 (topology.capabilityProfile.encode intruder))] := by
  intro law
  have fits : (topology.capabilityProfile.encode intruder).length < 4294967296 := by decide +kernel
  have read := decoded_frame topology.capabilityProfile 5 intruder fits
  have unchanged := (heartbeat_step_iff pointCrypto topology toString _ "c" _).mp
    (law.heartbeats [] "c" _ [] rfl)
  rcases unchanged "c" _ intruder rfl rfl read with admitted | repeated
  · cases admitted
  · cases repeated

end Example

end SeamlessSwarm
