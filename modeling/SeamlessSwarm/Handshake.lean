import SeamlessSwarm.Frames
import SeamlessSwarm.Lib.Trace
import SeamlessSwarm.Registry
import SeamlessSwarm.Topology

/-! The hub's authentication server, message by message. An exchange is a Join,
answered with a challenge, and the next message, answered with a result when it is
a response. The server does not look at which client a message comes from. -/
namespace SeamlessSwarm
open Trace

inductive AuthPhase where
  | awaitJoin
  /- `began` is the trusted list at the Join. The code keeps the token only. -/
  | awaitResponse (token : Bytes) (began : List String)
  | stopped
  deriving DecidableEq

structure AuthServer where
  trusted : List String
  phase : AuthPhase
  deriving DecidableEq

structure AuthEnv where
  token : Bytes
  timestamp : UInt64
  session : String
  sends : Bool
  deriving DecidableEq

inductive AuthEvent where
  | message (client : String) (msg : Bytes) (env : AuthEnv)
  | timedOut
  | failed
  deriving DecidableEq

/-- An exchange that has been decided; `sent` is whether the result went out. -/
structure Exchange where
  client : String
  token : Bytes
  began : List String
  response : HandshakeResponse
  result : HandshakeResult
  sent : Bool
  deriving DecidableEq

def challengeFrame (prost : Prost) (env : AuthEnv) : Bytes :=
  frame 2 (prost.handshakeChallenge.encode ⟨env.token, env.timestamp⟩)

def resultFrame (prost : Prost) (result : HandshakeResult) : Bytes :=
  frame 4 (prost.handshakeResult.encode result)

/-- The first message of an exchange: the type byte is all that is checked. -/
def isJoin (msg : Bytes) : Bool :=
  match header msg with
  | some (_, msgType, _) => msgType = 1
  | none => false

/-- The trusted list after a key was presented, before its signature is checked. -/
def authorize (crypto : Crypto) (trusted : List String) (identity : HardwareIdentity) :
    List String :=
  let derivedThumbprint := crypto.thumbprint identity.ecdsaPublicKey
  if derivedThumbprint ∈ trusted then trusted else trusted ++ [derivedThumbprint]

def verifies (crypto : Crypto) (token signature : Bytes) (identity : HardwareIdentity) : Bool :=
  crypto.verifyChallengeResponse (Hex.encode identity.ecdsaPublicKey) token (Hex.encode signature)

def resultOf (authenticated : Bool) (session verifiedNodeId failReason : String) :
    HandshakeResult where
  authenticated := authenticated
  sessionToken := if authenticated then session else ""
  message :=
    if authenticated then "Welcome " ++ verifiedNodeId ++ ", swarm authentication granted!"
    else "Authentication failed: " ++ failReason

def decideResponse (crypto : Crypto) (trusted : List String) (token : Bytes)
    (response : HandshakeResponse) (session : String) : List String × HandshakeResult :=
  match response.identity with
  | some identity =>
    (authorize crypto trusted identity,
      resultOf (verifies crypto token response.signature identity) session identity.nodeUuid
        "ECDSA verification failed")
  | none => (trusted, resultOf false session "" "Missing identity block")

def readResponse (prost : Prost) (msg : Bytes) : Read HandshakeResponse :=
  (readAuthResponse msg).decoded prost.handshakeResponse

namespace AuthServer
variable (crypto : Crypto) (prost : Prost)

def start : AuthServer := ⟨[], .awaitJoin⟩

/-- The server as it begins to listen, with the thumbprints that it was given. -/
def listen (trusted : List String) : AuthServer := ⟨trusted, .awaitJoin⟩

def completes (s : AuthServer) : AuthEvent → Option Exchange
  | .message client msg env =>
    match s.phase with
    | .awaitResponse token began =>
      match readResponse prost msg with
      | .accept response =>
        some ⟨client, token, began, response,
          (decideResponse crypto s.trusted token response env.session).2, env.sends⟩
      | _ => none
    | _ => none
  | _ => none

def reply (s : AuthServer) (event : AuthEvent) : Option Bytes :=
  match s.phase, event with
  | .awaitJoin, .message _ msg env =>
    if isJoin msg && env.sends then some (challengeFrame prost env) else none
  | _, _ =>
    match s.completes crypto prost event with
    | some x => if x.sent then some (resultFrame prost x.result) else none
    | none => none

/-- One turn of `run_auth_server`. Errors of the second receive and of the sends
end the server; a panic ends it too. -/
def step (s : AuthServer) (event : AuthEvent) : AuthServer :=
  match s.phase, event with
  | .stopped, _ => s
  | .awaitJoin, .timedOut => s
  | .awaitJoin, .failed => { s with phase := .stopped }
  | .awaitJoin, .message _ msg env =>
    if isJoin msg then
      { s with phase := if env.sends then .awaitResponse env.token s.trusted else .stopped }
    else s
  | .awaitResponse _ _, .timedOut => { s with phase := .stopped }
  | .awaitResponse _ _, .failed => { s with phase := .stopped }
  | .awaitResponse token _, .message _ msg env =>
    match readResponse prost msg with
    | .panic => { s with phase := .stopped }
    | .reject => { s with phase := .awaitJoin }
    | .accept response =>
      ⟨(decideResponse crypto s.trusted token response env.session).1,
        if env.sends then .awaitJoin else .stopped⟩

end AuthServer

def authServer (crypto : Crypto) (prost : Prost) (trusted : List String) (events : List AuthEvent) :
    AuthServer :=
  run (AuthServer.step crypto prost) (.listen trusted) events

/-- The hub's decision on an exchange is the decision of the registry's own
admission with the trusted list of the time when the exchange began. -/
structure GateAgrees (crypto : Crypto) (x : Exchange) : Prop where
  trusted : x.result.authenticated = true → ∃ identity, x.response.identity = some identity ∧
    crypto.thumbprint identity.ecdsaPublicKey ∈ x.began
  agrees : ∀ identity, x.response.identity = some identity →
    ∀ (registry : EphemeralRegistry) (profile : NodeProfile),
      profile.publicKey = Hex.encode identity.ecdsaPublicKey →
      (x.result.authenticated = true ↔ ∃ after, registry.authenticateAndRegisterNode crypto profile
        x.token (Hex.encode x.response.signature) x.began = .ok after)

section Gate
variable (crypto : Crypto) (prost : Prost)

def TrustGate (events : List AuthEvent) : Prop :=
  ∀ before event after, events = before ++ event :: after →
    ∀ x, (run (AuthServer.step crypto prost) AuthServer.start before).completes crypto prost event =
      some x → GateAgrees crypto x

/-- A response with a valid signature presents a key that the server trusts already. -/
def PresentsTrusted (s : AuthServer) (event : AuthEvent) : Prop :=
  ∀ client msg env token began response identity, event = .message client msg env →
    s.phase = .awaitResponse token began → readResponse prost msg = .accept response →
    response.identity = some identity → verifies crypto token response.signature identity = true →
    crypto.thumbprint identity.ecdsaPublicKey ∈ s.trusted

end Gate

theorem verifies_raw {crypto : Crypto} {identity : HardwareIdentity} {signature : Bytes}
    {key : crypto.VerifyingKey} {raw : crypto.Signature}
    (parsed : crypto.fromSec1Bytes identity.ecdsaPublicKey = some key)
    (notDer : crypto.fromDer signature = none) (sliced : crypto.fromSlice signature = some raw)
    (token : Bytes) : verifies crypto token signature identity = crypto.verify key token raw := by
  simp only [verifies, Crypto.verifyChallengeResponse, Hex.decode_encode, parsed, notDer, sliced]

theorem verifies_unread {crypto : Crypto} {signature : Bytes}
    (notDer : crypto.fromDer signature = none)
    (unread : crypto.fromSlice signature = none) (token : Bytes) (identity : HardwareIdentity) :
    verifies crypto token signature identity = false := by
  simp only [verifies, Crypto.verifyChallengeResponse, Hex.decode_encode, notDer, unread]
  split <;> rfl

@[simp] theorem resultOf_authenticated (authenticated : Bool) (session node reason : String) :
    (resultOf authenticated session node reason).authenticated = authenticated := rfl

theorem decideResponse_authenticated (crypto : Crypto) (trusted : List String) (token : Bytes)
    (response : HandshakeResponse) (session : String) :
    (decideResponse crypto trusted token response session).2.authenticated = true ↔
      ∃ identity, response.identity = some identity ∧
        verifies crypto token response.signature identity = true := by
  unfold decideResponse
  cases response.identity with
  | none => simp
  | some identity => simp

theorem gateAgrees_iff (crypto : Crypto) {x : Exchange}
    (decided : ∃ trusted session,
      x.result = (decideResponse crypto trusted x.token x.response session).2) :
    GateAgrees crypto x ↔ ∀ identity, x.response.identity = some identity →
      verifies crypto x.token x.response.signature identity = true →
        crypto.thumbprint identity.ecdsaPublicKey ∈ x.began := by
  obtain ⟨trusted, session, result⟩ := decided
  have accepted : x.result.authenticated = true ↔ ∃ identity, x.response.identity = some identity ∧
      verifies crypto x.token x.response.signature identity = true := by
    rw [result]
    exact decideResponse_authenticated crypto trusted x.token x.response session
  constructor
  · intro gate identity presented verified
    obtain ⟨other, same, known⟩ := gate.trusted (accepted.mpr ⟨identity, presented, verified⟩)
    cases presented.symm.trans same
    exact known
  · intro known
    constructor
    · intro authenticated
      obtain ⟨identity, presented, verified⟩ := accepted.mp authenticated
      exact ⟨identity, presented, known identity presented verified⟩
    · intro identity presented registry profile key
      rw [authenticateAndRegisterNode_isOk crypto registry profile identity.ecdsaPublicKey x.token
        (Hex.encode x.response.signature) x.began key, accepted]
      constructor
      · rintro ⟨other, same, verified⟩
        cases presented.symm.trans same
        rw [key]
        exact ⟨known identity presented verified, verified⟩
      · rintro ⟨_, verified⟩
        rw [key] at verified
        exact ⟨identity, presented, verified⟩

def BeganTrusted (s : AuthServer) : Prop :=
  ∀ token began, s.phase = .awaitResponse token began → began = s.trusted

theorem completes_iff {crypto : Crypto} {prost : Prost} {s : AuthServer} {event : AuthEvent}
    {x : Exchange} : s.completes crypto prost event = some x ↔
      ∃ client msg env token began response, event = .message client msg env ∧
        s.phase = .awaitResponse token began ∧ readResponse prost msg = .accept response ∧
        x = ⟨client, token, began, response,
          (decideResponse crypto s.trusted token response env.session).2, env.sends⟩ := by
  constructor
  · intro completed
    unfold AuthServer.completes at completed
    split at completed
    next client msg env =>
      split at completed
      next token began phase =>
        split at completed
        next response read =>
          cases completed
          exact ⟨client, msg, env, token, began, response, rfl, phase, read, rfl⟩
        next => cases completed
      next => cases completed
    next => cases completed
  · rintro ⟨client, msg, env, token, began, response, rfl, phase, read, rfl⟩
    simp only [AuthServer.completes, phase, read]

section Turn
variable (crypto : Crypto) (prost : Prost) (s : AuthServer) {msg : Bytes} {env : AuthEnv}

theorem challenge_turn (client : String) (waiting : s.phase = .awaitJoin)
    (joined : isJoin msg = true)
    (sends : env.sends = true) :
    s.step crypto prost (.message client msg env) =
        { s with phase := .awaitResponse env.token s.trusted } ∧
      s.reply crypto prost (.message client msg env) = some (challengeFrame prost env) := by
  constructor
  · simp only [AuthServer.step, waiting, joined, sends, if_true]
  · simp only [AuthServer.reply, waiting, joined, sends, Bool.and_true, if_true]

theorem decide_turn (client : String) {token : Bytes} {began : List String}
    {response : HandshakeResponse} (waiting : s.phase = .awaitResponse token began)
    (read : readResponse prost msg = .accept response) (sends : env.sends = true) :
    s.step crypto prost (.message client msg env) =
        ⟨(decideResponse crypto s.trusted token response env.session).1, .awaitJoin⟩ ∧
      s.reply crypto prost (.message client msg env) = some (resultFrame prost
        (decideResponse crypto s.trusted token response env.session).2) := by
  constructor
  · simp only [AuthServer.step, waiting, read, sends, if_true]
  · simp only [AuthServer.reply, AuthServer.completes, waiting, read, sends, if_true]

end Turn

/-- The exits of one turn of the loop, each with the state that it leaves. -/
inductive AuthServer.Turned (crypto : Crypto) (prost : Prost) (s : AuthServer) :
    AuthEvent → AuthServer → Prop where
  | ended (event : AuthEvent) (stopped : s.phase = .stopped) : Turned crypto prost s event s
  | waits (joining : s.phase = .awaitJoin) : Turned crypto prost s .timedOut s
  | ignores (client : String) (msg : Bytes) (env : AuthEnv) (joining : s.phase = .awaitJoin)
      (other : isJoin msg = false) : Turned crypto prost s (.message client msg env) s
  | challenges (client : String) (msg : Bytes) (env : AuthEnv) (joining : s.phase = .awaitJoin)
      (joined : isJoin msg = true) (sends : env.sends = true) :
      Turned crypto prost s (.message client msg env)
        { s with phase := .awaitResponse env.token s.trusted }
  | unsent (client : String) (msg : Bytes) (env : AuthEnv) (joining : s.phase = .awaitJoin)
      (joined : isJoin msg = true) (sends : env.sends = false) :
      Turned crypto prost s (.message client msg env) { s with phase := .stopped }
  | discards (client : String) (msg : Bytes) (env : AuthEnv) (token : Bytes) (began : List String)
      (waiting : s.phase = .awaitResponse token began) (read : readResponse prost msg = .reject) :
      Turned crypto prost s (.message client msg env) { s with phase := .awaitJoin }
  | decides (client : String) (msg : Bytes) (env : AuthEnv) (token : Bytes) (began : List String)
      (response : HandshakeResponse) (waiting : s.phase = .awaitResponse token began)
      (read : readResponse prost msg = .accept response) :
      Turned crypto prost s (.message client msg env)
        ⟨(decideResponse crypto s.trusted token response env.session).1,
          if env.sends then .awaitJoin else .stopped⟩
  | panics (client : String) (msg : Bytes) (env : AuthEnv) (token : Bytes) (began : List String)
      (waiting : s.phase = .awaitResponse token began) (read : readResponse prost msg = .panic) :
      Turned crypto prost s (.message client msg env) { s with phase := .stopped }
  | silent (token : Bytes) (began : List String) (waiting : s.phase = .awaitResponse token began) :
      Turned crypto prost s .timedOut { s with phase := .stopped }
  | fails (running : s.phase ≠ .stopped) : Turned crypto prost s .failed
    { s with phase := .stopped }

theorem auth_turned (crypto : Crypto) (prost : Prost) (s : AuthServer) (event : AuthEvent) :
    s.Turned crypto prost event (s.step crypto prost event) := by
  obtain ⟨trusted, phase⟩ := s
  cases phase with
  | stopped => exact .ended event rfl
  | awaitJoin =>
    cases event with
    | timedOut => exact .waits rfl
    | failed => exact .fails nofun
    | message client msg env =>
      cases joined : isJoin msg with
      | false =>
        simp only [AuthServer.step, joined, Bool.false_eq_true, if_false]
        exact .ignores client msg env rfl joined
      | true =>
        cases sends : env.sends with
        | false =>
          simp only [AuthServer.step, joined, sends, if_true, Bool.false_eq_true, if_false]
          exact .unsent client msg env rfl joined sends
        | true =>
          simp only [AuthServer.step, joined, sends, if_true]
          exact .challenges client msg env rfl joined sends
  | awaitResponse token began =>
    cases event with
    | timedOut => exact .silent token began rfl
    | failed => exact .fails nofun
    | message client msg env =>
      cases read : readResponse prost msg with
      | panic =>
        simp only [AuthServer.step, read]
        exact .panics client msg env token began rfl read
      | reject =>
        simp only [AuthServer.step, read]
        exact .discards client msg env token began rfl read
      | accept response =>
        simp only [AuthServer.step, read]
        exact .decides client msg env token began response rfl read

theorem authServer_snoc (crypto : Crypto) (prost : Prost) (trusted : List String)
    (events : List AuthEvent) (event : AuthEvent) :
    authServer crypto prost trusted (events ++ [event]) =
      (authServer crypto prost trusted events).step crypto prost event :=
  run_append _ events [event]

theorem waiting_turn {crypto : Crypto} {prost : Prost} {s : AuthServer} {event : AuthEvent}
    {token : Bytes} {began : List String}
    (waiting : (s.step crypto prost event).phase = .awaitResponse token began) :
    ∃ client msg env, event = .message client msg env ∧ s.phase = .awaitJoin ∧ isJoin msg = true ∧
      env.sends = true ∧ token = env.token := by
  have turned := auth_turned crypto prost s event
  generalize s.step crypto prost event = next at turned waiting
  cases turned with
  | challenges client msg env joining joined sends =>
    cases waiting
    exact ⟨client, msg, env, rfl, joining, joined, sends, rfl⟩
  | ended _ stopped => cases stopped.symm.trans waiting
  | waits joining => cases joining.symm.trans waiting
  | ignores _ _ _ joining => cases joining.symm.trans waiting
  | decides client msg env => cases sends : env.sends <;> simp [sends] at waiting
  | _ => cases waiting

theorem joined_before {crypto : Crypto} {prost : Prost} {trusted : List String}
    {events : List AuthEvent} {token : Bytes} {began : List String}
    (waiting : (authServer crypto prost trusted events).phase = .awaitResponse token began) :
    ∃ before client msg env, events = before ++ [.message client msg env] ∧
      (authServer crypto prost trusted before).phase = .awaitJoin ∧ isJoin msg = true ∧
      env.sends = true ∧ token = env.token := by
  rcases List.eq_nil_or_concat events with rfl | ⟨before, event, rfl⟩
  · cases waiting
  · rw [List.concat_eq_append, authServer_snoc] at waiting
    obtain ⟨client, msg, env, rfl, joined⟩ := waiting_turn waiting
    exact ⟨before, client, msg, env, List.concat_eq_append, joined⟩

theorem began_step (crypto : Crypto) (prost : Prost) (s : AuthServer) (event : AuthEvent)
    (began : BeganTrusted s) : BeganTrusted (s.step crypto prost event) := by
  generalize next : s.step crypto prost event = s'
  have turned := auth_turned crypto prost s event
  rw [next] at turned
  intro token list waiting
  cases turned with
  | ended _ _ => exact began token list waiting
  | waits _ => exact began token list waiting
  | ignores => exact began token list waiting
  | challenges => cases waiting; rfl
  | decides client msg env => cases sends : env.sends <;> simp [sends] at waiting
  | _ => cases waiting

theorem began_run (crypto : Crypto) (prost : Prost) (events : List AuthEvent) :
    BeganTrusted (run (AuthServer.step crypto prost) AuthServer.start events) := by
  have initial : BeganTrusted AuthServer.start := by
    intro token began waiting
    cases waiting
  exact run_invariant (began_step crypto prost) initial events

theorem gate_step_iff (crypto : Crypto) (prost : Prost) {s : AuthServer} (event : AuthEvent)
    (began : BeganTrusted s) :
    (∀ x, s.completes crypto prost event = some x → GateAgrees crypto x) ↔
      PresentsTrusted crypto prost s event := by
  constructor
  · intro gate client msg env token list response identity event' phase read presented verified
    have agrees := gate _
      ((@completes_iff crypto _ _ _ _).mpr
        ⟨client, msg, env, token, list, response, event', phase, read, rfl⟩)
    have known := (gateAgrees_iff crypto ⟨_, _, rfl⟩).mp agrees identity presented verified
    rwa [← began token list phase]
  · intro known x completed
    obtain ⟨client, msg, env, token, list, response, event', phase, read, rfl⟩ :=
      completes_iff.mp completed
    apply (gateAgrees_iff crypto ⟨_, _, rfl⟩).mpr
    intro identity presented verified
    have trusted := known client msg env token list response identity event' phase read
      presented verified
    rwa [← began token list phase] at trusted

/-- A run keeps the trust gate exactly when each response in it whose signature
verifies presents a key that was trusted before. -/
theorem trust_gate_iff_keys_trusted (crypto : Crypto) (prost : Prost) (events : List AuthEvent) :
    TrustGate crypto prost events ↔
      Along (AuthServer.step crypto prost) (PresentsTrusted crypto prost) AuthServer.start
        events := by
  rw [along_iff_split]
  constructor
  · intro gate before event after split
    exact (gate_step_iff crypto prost event (began_run crypto prost before)).mp
      (gate before event after split)
  · intro known before event after split
    exact (gate_step_iff crypto prost event (began_run crypto prost before)).mpr
      (known before event after split)

section Example

/-- The public key of the private key 1, in compressed form. -/
def pointKey : Bytes :=
  [3, 107, 23, 209, 242, 225, 44, 66, 71, 248, 188, 230, 229, 99, 164, 64, 242, 119, 3, 125,
    129, 45, 235,
    51, 160, 244, 161, 57, 69, 216, 152, 194, 150]

def pointThumbprint : Bytes :=
  [91, 175, 248, 157, 231, 222, 92, 29, 123, 97, 147, 161, 86, 124, 238, 235, 57, 124, 189, 168,
    143, 3, 247,
    37, 200, 222, 50, 133, 145, 191, 193, 148]

def zeroToken : Bytes := List.replicate 32 0

/-- Its signature of the zero token, made with the nonce 1. -/
def pointSignature : Bytes :=
  [107, 23, 209, 242, 225, 44, 66, 71, 248, 188, 230, 229, 99, 164, 64, 242, 119, 3, 125, 129,
    45, 235, 51,
    160, 244, 161, 57, 69, 216, 152, 194, 150, 46, 127, 179, 94, 38, 113, 0, 65, 154, 179, 87,
      143, 13, 188,
    48, 237, 61, 76, 104, 167, 10, 74, 55, 48, 110, 238, 56, 96, 22, 107, 57, 150]

def pointCrypto : Crypto where
  sha256 bytes := if bytes = pointKey then pointThumbprint else []
  VerifyingKey := Bytes
  Signature := Bytes
  fromSec1Bytes bytes := if bytes = pointKey then some bytes else none
  fromDer _ := none
  fromSlice bytes := if bytes = pointSignature then some bytes else none
  verify key message signature := key = pointKey && message = zeroToken && signature =
    pointSignature

private def zeroEnv : AuthEnv := ⟨zeroToken, 0, "s", true⟩

private def strangerResponse : HandshakeResponse :=
  ⟨pointSignature, some ⟨"n", pointKey, pointThumbprint⟩⟩

private def strangerJoins : List AuthEvent :=
  [.message "c" (frame 1 [110]) zeroEnv,
    .message "c" (frame 3 (topology.handshakeResponse.encode strangerResponse)) zeroEnv]

private theorem stranger_verifies :
    verifies pointCrypto zeroToken pointSignature ⟨"n", pointKey, pointThumbprint⟩ = true := by
  have parsed : pointCrypto.fromSec1Bytes pointKey = some pointKey := by simp [pointCrypto]
  have sliced : pointCrypto.fromSlice pointSignature = some pointSignature := by simp [pointCrypto]
  exact (verifies_raw parsed rfl sliced zeroToken).trans (by simp [pointCrypto])

/-- The stranger is authenticated although its key was not in the trusted list. -/
theorem stranger_passes_gate : ¬ TrustGate pointCrypto topology strangerJoins := by
  intro gate
  have fits : (topology.handshakeResponse.encode strangerResponse).length < 4294967296 := by
    decide +kernel
  have read := decoded_frame topology.handshakeResponse 3 strangerResponse fits
  have joined : (run (AuthServer.step pointCrypto topology) AuthServer.start
      [.message "c" (frame 1 [110]) zeroEnv]).phase = .awaitResponse zeroToken [] := rfl
  have presents := (gate_step_iff pointCrypto topology _ (began_run pointCrypto topology _)).mp
    (gate [.message "c" (frame 1 [110]) zeroEnv] _ [] rfl)
  have known := presents "c" _ zeroEnv zeroToken [] strangerResponse _ rfl joined read rfl
    stranger_verifies
  cases known

end Example

end SeamlessSwarm
