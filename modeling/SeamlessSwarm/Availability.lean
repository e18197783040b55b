import Mathlib.Data.List.Induction
import SeamlessSwarm.Handshake

/-! Whether the authentication server stays up as long as its socket works,
whatever its clients send and whenever they fall silent. -/
namespace SeamlessSwarm
open Trace

/-- A client that follows the handshake. What it sends fits the length word. -/
structure Client (prost : Prost) where
  nodeId : String
  publicKey : Bytes
  thumbprint : Bytes
  signChallenge : Bytes → Bytes
  fits : ∀ token, (prost.handshakeResponse.encode
    ⟨signChallenge token, some ⟨nodeId, publicKey, thumbprint⟩⟩).length < 4294967296

namespace Client
variable {prost : Prost} (client : Client prost)

def identity : HardwareIdentity := ⟨client.nodeId, client.publicKey, client.thumbprint⟩

def joinFrame : Bytes := frame 1 (Hex.stringBytes client.nodeId)

def response (token : Bytes) : HandshakeResponse :=
  ⟨client.signChallenge token, some client.identity⟩

def responseFrame (token : Bytes) : Bytes :=
  frame 3 (prost.handshakeResponse.encode (client.response token))

end Client

/-- A run on a healthy socket: receives fail by their timeout only, and every
message can be answered. -/
structure HealthyRun where
  events : List AuthEvent
  receives : AuthEvent.failed ∉ events
  sends : ∀ client msg env, AuthEvent.message client msg env ∈ events → env.sends = true

section Law
variable (crypto : Crypto) (prost : Prost)

/-- A client alone gets its challenge, then the result on its signature, and
leaves the server waiting for the next one. -/
structure Served (s : AuthServer) (client : Client prost) (name : String) (join answer : AuthEnv) :
    Prop where
  challenged : s.reply crypto prost (.message name client.joinFrame join) =
    some (challengeFrame prost join)
  judged : (s.step crypto prost (.message name client.joinFrame join)).reply crypto prost
      (.message name (client.responseFrame join.token) answer) =
    some (resultFrame prost (resultOf
      (verifies crypto join.token (client.signChallenge join.token) client.identity)
      answer.session client.nodeId "ECDSA verification failed"))
  ready : ((s.step crypto prost (.message name client.joinFrame join)).step crypto prost
      (.message name (client.responseFrame join.token) answer)).phase = .awaitJoin

structure Available (trusted : List String) (r : HealthyRun) : Prop where
  up : ∀ before after, r.events = before ++ after →
    (authServer crypto prost trusted before).phase ≠ .stopped
  back : ∀ before event after, r.events = before ++ event :: after → ∀ token began,
    (authServer crypto prost trusted before).phase = .awaitResponse token began →
    (authServer crypto prost trusted (before ++ [event])).phase = .awaitJoin
  served : ∀ before after, r.events = before ++ after →
    (authServer crypto prost trusted before).phase = .awaitJoin →
    ∀ (client : Client prost) (name : String) (join answer : AuthEnv),
      join.sends = true → answer.sends = true →
      Served crypto prost (authServer crypto prost trusted before) client name join answer

/-- While the server waits for a response, it hears nothing for the receive timeout
or gets a response that declares more payload than it carries. -/
def BreaksOff (s : AuthServer) (event : AuthEvent) : Prop :=
  (∃ token began, s.phase = .awaitResponse token began) ∧
    (event = .timedOut ∨
      ∃ client msg env, event = .message client msg env ∧ Overdeclared .authResponse msg)

end Law

theorem isJoin_joinFrame {prost : Prost} (client : Client prost) :
    isJoin client.joinFrame = true := by
  simp [isJoin, Client.joinFrame, header_frame]

theorem readResponse_panic_iff (prost : Prost) (msg : Bytes) :
    readResponse prost msg = .panic ↔ Overdeclared .authResponse msg := by
  rw [← read_panic_iff]
  show (readAuthResponse msg).decoded prost.handshakeResponse = .panic ↔
    readAuthResponse msg = .panic
  cases readAuthResponse msg with
  | panic => simp [Read.decoded]
  | reject => simp [Read.decoded]
  | accept payload => cases decoded : prost.handshakeResponse.decode payload.2 <;>
      simp [Read.decoded, decoded]

theorem readResponse_responseFrame {prost : Prost} (client : Client prost) (token : Bytes) :
    readResponse prost (client.responseFrame token) = .accept (client.response token) := by
  unfold readResponse readAuthResponse Client.responseFrame
  exact decoded_frame prost.handshakeResponse 3 (client.response token) (client.fits token)

section Run
variable (crypto : Crypto) (prost : Prost)

theorem served_of_awaitJoin {s : AuthServer} (waiting : s.phase = .awaitJoin)
    (client : Client prost)
    (name : String) (join answer : AuthEnv) (joins : join.sends = true)
    (answers : answer.sends = true) : Served crypto prost s client name join answer := by
  obtain ⟨joined, challenged⟩ :=
    challenge_turn crypto prost s name waiting (isJoin_joinFrame client) joins
  obtain ⟨decided, judged⟩ :=
    decide_turn crypto prost ⟨s.trusted, .awaitResponse join.token s.trusted⟩ name rfl
      (readResponse_responseFrame client join.token) answers
  constructor
  · exact challenged
  · rw [joined]
    exact judged
  · rw [joined, decided]

theorem stopped_step_iff (s : AuthServer) {event : AuthEvent} (received : event ≠ .failed)
    (sends : ∀ client msg env, event = .message client msg env → env.sends = true) :
    (s.step crypto prost event).phase = .stopped ↔ s.phase = .stopped ∨ BreaksOff s event := by
  have turned := auth_turned crypto prost s event
  generalize s.step crypto prost event = next at turned
  cases turned with
  | ended _ stopped => simp [stopped]
  | waits joining => simp [joining, BreaksOff]
  | ignores client msg env joining other => simp [joining, BreaksOff]
  | challenges client msg env joining => simp [joining, BreaksOff]
  | unsent client msg env joining joined unsent =>
    have sent := sends client msg env rfl
    rw [unsent] at sent
    cases sent
  | discards client msg env token began waiting read =>
    have honest : ¬ Overdeclared .authResponse msg := by
      rw [← readResponse_panic_iff prost, read]
      nofun
    simp [waiting, BreaksOff, honest]
  | decides client msg env token began response waiting read =>
    have honest : ¬ Overdeclared .authResponse msg := by
      rw [← readResponse_panic_iff prost, read]
      nofun
    simp [waiting, BreaksOff, honest, sends client msg env rfl]
  | panics client msg env token began waiting read =>
    have overdeclared := (readResponse_panic_iff prost msg).mp read
    simp [waiting, BreaksOff, overdeclared]
  | silent token began waiting => simp [waiting, BreaksOff]
  | fails => exact absurd rfl received

theorem exchange_ends (s : AuthServer) (event : AuthEvent) {token : Bytes} {began : List String}
    (waiting : s.phase = .awaitResponse token began) :
    (s.step crypto prost event).phase = .awaitJoin ∨ (s.step crypto prost event).phase =
    .stopped := by
  have turned := auth_turned crypto prost s event
  generalize s.step crypto prost event = next at turned
  cases turned with
  | ended _ stopped => exact Or.inr stopped
  | waits joining => exact Or.inl joining
  | ignores _ _ _ joining => exact Or.inl joining
  | challenges _ _ _ joining =>
    rw [waiting] at joining
    cases joining
  | discards => exact Or.inl rfl
  | decides client msg env => cases env.sends <;> simp
  | _ => exact Or.inr rfl

theorem stopped_snoc_iff (trusted : List String) (r : HealthyRun) {before after : List AuthEvent}
    {event : AuthEvent} (split : r.events = before ++ event :: after) :
    (authServer crypto prost trusted (before ++ [event])).phase = .stopped ↔
      (authServer crypto prost trusted before).phase = .stopped ∨
        BreaksOff (authServer crypto prost trusted before) event := by
  have member : event ∈ r.events := by simp [split]
  rw [authServer_snoc]
  exact stopped_step_iff crypto prost _ (fun failed => r.receives (failed ▸ member))
    (fun client msg env same => r.sends client msg env (same ▸ member))

theorem stays_up (trusted : List String) (r : HealthyRun)
    (none : ∀ before event after, r.events = before ++ event :: after →
      ¬ BreaksOff (authServer crypto prost trusted before) event)
    (before after : List AuthEvent) (split : r.events = before ++ after) :
    (authServer crypto prost trusted before).phase ≠ .stopped := by
  induction before using List.reverseRecOn generalizing after with
  | nil => nofun
  | append_singleton before event ih =>
    rw [List.append_assoc] at split
    intro stopped
    rcases (stopped_snoc_iff crypto prost trusted r split).mp stopped with earlier | breaks
    · exact ih _ split earlier
    · exact none before event after split breaks

/-- A server on a healthy socket stays available exactly when, in every exchange, the
message after the challenge comes in time and does not overstate its length. -/
theorem auth_available_iff_none_breaks_off (trusted : List String) (r : HealthyRun) :
    Available crypto prost trusted r ↔
      Along (AuthServer.step crypto prost) (fun s event => ¬ BreaksOff s event) (.listen trusted)
        r.events := by
  have joined {before after : List AuthEvent} {event : AuthEvent}
      (split : r.events = before ++ event :: after) : r.events = before ++ [event] ++ after := by
    rw [split, List.append_assoc, List.singleton_append]
  constructor
  · intro available
    rw [along_iff_split]
    intro before event after split breaks
    exact available.up _ after (joined split)
      ((stopped_snoc_iff crypto prost trusted r split).mpr (Or.inr breaks))
  · intro along
    have up := stays_up crypto prost trusted r ((along_iff_split _ _).mp along)
    refine ⟨up, ?_, ?_⟩
    · intro before event after split token began waiting
      have next := up _ after (joined split)
      rw [authServer_snoc] at next ⊢
      exact (exchange_ends crypto prost _ event waiting).resolve_right next
    · intro before after split waiting client name join answer joins answers
      exact served_of_awaitJoin crypto prost waiting client name join answer joins answers

end Run

section Example

private def silentRun : HealthyRun where
  events := [.message "c" (frame 1 [110]) ⟨zeroToken, 0, "s", true⟩, .timedOut]
  receives := by simp
  sends := by
    intro client msg env member
    simp only [List.mem_cons, List.not_mem_nil, or_false, reduceCtorEq,
      AuthEvent.message.injEq] at member
    rw [member.2.2]

theorem silent_client_ends_server : ¬ Available pointCrypto topology [] silentRun := by
  intro available
  exact available.up silentRun.events [] rfl rfl

end Example

end SeamlessSwarm
