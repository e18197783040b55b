import SeamlessSwarm.Availability

/-! Several clients at the one reply socket of the authentication server. Each of
them follows the handshake; the order in which their messages arrive is free. -/
namespace SeamlessSwarm
open Trace

/-- What the server has at a Join. Its challenge fits the length word. -/
structure Draw (prost : Prost) where
  env : AuthEnv
  fits : (prost.handshakeChallenge.encode ⟨env.token, env.timestamp⟩).length < 4294967296

inductive JoinEvent (prost : Prost) where
  | join (name : String) (draw : Draw prost)
  | response (name : String) (env : AuthEnv)
  | timedOut

/-- The server, the client that its last challenge went to, and the token that
each client has received and not answered yet. -/
structure Joining where
  server : AuthServer
  challenged : Option String
  holds : String → Option Bytes

section Clients
variable (crypto : Crypto) {prost : Prost} (clients : String → Client prost)

def readToken (prost : Prost) (msg : Bytes) : Option Bytes :=
  match (readChallenge msg).decoded prost.handshakeChallenge with
  | .accept challenge => some challenge.highEntropyToken
  | _ => none

def joinMessage (name : String) (env : AuthEnv) : AuthEvent :=
  .message name (clients name).joinFrame env

def responseMessage (name : String) (token : Bytes) (env : AuthEnv) : AuthEvent :=
  .message name ((clients name).responseFrame token) env

namespace Joining

/-- A message is taken by the server at once, and its reply goes to its client. -/
def step (s : Joining) : JoinEvent prost → Joining
  | .join name draw =>
    let reply := s.server.reply crypto prost (joinMessage clients name draw.env)
    { server := s.server.step crypto prost (joinMessage clients name draw.env)
      challenged := if reply.isSome then some name else s.challenged
      holds := Function.update s.holds name (reply.bind (readToken prost)) }
  | .response name env =>
    match s.holds name with
    | some token =>
      { s with
        server := s.server.step crypto prost (responseMessage clients name token env)
        holds := Function.update s.holds name none }
    | none => s
  | .timedOut => { s with server := s.server.step crypto prost .timedOut }

end Joining

def joining (trusted : List String) (events : List (JoinEvent prost)) : Joining :=
  run (Joining.step crypto clients) ⟨.listen trusted, none, fun _ => none⟩ events

/-- A run in which clients respond only while they hold a challenge. -/
structure JoiningRun (trusted : List String) where
  events : List (JoinEvent prost)
  responds : ∀ before name env after, events = before ++ .response name env :: after →
    ∃ token, (joining crypto clients trusted before).holds name = some token

variable {crypto clients} {trusted : List String}

/-- Every response that the server takes is judged by the challenge that its client
received, and that the server sent to this client last of all. -/
def JudgedByOwnChallenge (r : JoiningRun crypto clients trusted) : Prop :=
  ∀ before name env after token, r.events = before ++ .response name env :: after →
    (joining crypto clients trusted before).holds name = some token →
    (joining crypto clients trusted before).server.phase ≠ .stopped →
    (joining crypto clients trusted before).challenged = some name ∧
    ∃ x, (joining crypto clients trusted before).server.completes crypto prost
      (responseMessage clients name token env) = some x ∧ x.token = token

/-- Every response that the server takes comes right after the Join of its client. -/
def RightAfterJoin (r : JoiningRun crypto clients trusted) : Prop :=
  ∀ before name env after, r.events = before ++ .response name env :: after →
    (joining crypto clients trusted before).server.phase ≠ .stopped →
    ∃ past draw, before = past ++ [.join name draw]

end Clients

theorem readToken_eq {prost : Prost} {msg : Bytes} {challenge : HandshakeChallenge}
    (read : (readChallenge msg).decoded prost.handshakeChallenge = .accept challenge) :
    readToken prost msg = some challenge.highEntropyToken := by
  simp only [readToken, read]

theorem readToken_challengeFrame {prost : Prost} (draw : Draw prost) :
    readToken prost (challengeFrame prost draw.env) = some draw.env.token := by
  have read : (readChallenge (challengeFrame prost draw.env)).decoded prost.handshakeChallenge =
      .accept ⟨draw.env.token, draw.env.timestamp⟩ := by
    unfold readChallenge challengeFrame
    exact decoded_frame prost.handshakeChallenge 2 ⟨draw.env.token, draw.env.timestamp⟩ draw.fits
  exact readToken_eq read

theorem isJoin_responseFrame {prost : Prost} (client : Client prost) (token : Bytes) :
    isJoin (client.responseFrame token) = false := by
  simp [isJoin, Client.responseFrame, header_frame]

theorem readResponse_joinFrame {prost : Prost} (client : Client prost) :
    readResponse prost client.joinFrame = .reject := by
  have read : readAuthResponse client.joinFrame = .reject := by
    rw [readAuthResponse, readExpecting_eq, Client.joinFrame, header_frame]
    simp
  simp only [readResponse, read, Read.decoded]

section Run
variable {crypto : Crypto} {prost : Prost} {clients : String → Client prost} {trusted : List String}

theorem joining_snoc (events : List (JoinEvent prost)) (event : JoinEvent prost) :
    joining crypto clients trusted (events ++ [event]) =
      (joining crypto clients trusted events).step crypto clients event :=
  run_append _ events [event]

theorem join_replied {s : AuthServer} {name : String} {draw : Draw prost} {token : Bytes}
    (received : (s.reply crypto prost (joinMessage clients name draw.env)).bind (readToken prost) =
      some token) : s.phase = .awaitJoin ∧ draw.env.sends = true ∧ token = draw.env.token := by
  have silent : s.completes crypto prost (joinMessage clients name draw.env) = none := by
    rw [Option.eq_none_iff_forall_ne_some]
    intro x completed
    obtain ⟨_, _, _, _, _, _, same, _, read, _⟩ := completes_iff.mp completed
    cases same
    cases (readResponse_joinFrame (clients name)).symm.trans read
  cases phase : s.phase with
  | awaitJoin =>
    cases sends : draw.env.sends with
    | true =>
      have replied := (challenge_turn crypto prost s name phase
        (isJoin_joinFrame (clients name)) sends).2
      rw [joinMessage, replied, Option.bind_some, readToken_challengeFrame] at received
      exact ⟨rfl, rfl, (Option.some.inj received).symm⟩
    | false => simp [AuthServer.reply, joinMessage, phase, sends] at received
  | awaitResponse token began => simp [AuthServer.reply, phase, silent] at received
  | stopped => simp [AuthServer.reply, phase, silent] at received

theorem waiting_after_join (r : JoiningRun crypto clients trusted)
    {before after : List (JoinEvent prost)} (split : r.events = before ++ after) {token : Bytes}
    {began : List String}
    (waiting : (joining crypto clients trusted before).server.phase = .awaitResponse token began) :
    ∃ past name draw, before = past ++ [.join name draw] ∧
      (joining crypto clients trusted before).challenged = some name := by
  rcases List.eq_nil_or_concat before with rfl | ⟨past, event, rfl⟩
  · cases waiting
  · rw [List.concat_eq_append] at split waiting ⊢
    rw [joining_snoc] at waiting ⊢
    cases event with
    | join name draw =>
      obtain ⟨_, _, _, same, free, joined, sends, _⟩ := waiting_turn waiting
      cases same
      have replied := (challenge_turn crypto prost _ name free
        (isJoin_joinFrame (clients name)) sends).2
      refine ⟨past, name, draw, rfl, ?_⟩
      simp only [Joining.step, joinMessage, replied, Option.isSome_some, if_true]
    | response name env =>
      obtain ⟨held, holds⟩ := r.responds past name env after (by rw [split]; simp)
      simp only [Joining.step, holds] at waiting
      obtain ⟨_, _, _, same, _, joined, _, _⟩ := waiting_turn waiting
      cases same
      cases (isJoin_responseFrame (clients name) held).symm.trans joined
    | timedOut =>
      obtain ⟨_, _, _, same, _⟩ := waiting_turn waiting
      cases same

theorem right_after_join_of_judged (r : JoiningRun crypto clients trusted)
    (judged : JudgedByOwnChallenge r) : RightAfterJoin r := by
  intro before name env after split running
  obtain ⟨held, holds⟩ := r.responds before name env after split
  obtain ⟨own, x, completed, _⟩ := judged before name env after held split holds running
  obtain ⟨_, _, _, token, began, _, _, waiting, _, _⟩ := completes_iff.mp completed
  obtain ⟨past, last, draw, joined, challenged⟩ := waiting_after_join r split waiting
  cases own.symm.trans challenged
  exact ⟨past, draw, joined⟩

/-- Every response is judged by its client's own challenge in exactly the runs in
which no other message comes between a client's Join and its response. -/
theorem judged_iff_right_after_join (r : JoiningRun crypto clients trusted) :
    JudgedByOwnChallenge r ↔ RightAfterJoin r := by
  constructor
  · exact right_after_join_of_judged r
  · intro right before name env after token split holds running
    obtain ⟨past, draw, rfl⟩ := right before name env after split running
    rw [joining_snoc] at holds ⊢
    have received : ((joining crypto clients trusted past).server.reply crypto prost
        (joinMessage clients name draw.env)).bind (readToken prost) = some token := by
      simpa [Joining.step] using holds
    obtain ⟨free, sends, rfl⟩ := join_replied received
    obtain ⟨waiting, replied⟩ :=
      challenge_turn crypto prost _ name free (isJoin_joinFrame (clients name)) sends
    constructor
    · simp only [Joining.step, joinMessage, replied, Option.isSome_some, if_true]
    · have phase : ((joining crypto clients trusted past).step crypto clients
          (.join name draw)).server.phase =
            .awaitResponse draw.env.token (joining crypto clients trusted past).server.trusted := by
        simp only [Joining.step, joinMessage, waiting]
      exact ⟨_, completes_iff.mpr ⟨name, _, env, draw.env.token, _, _, rfl, phase,
        readResponse_responseFrame (clients name) draw.env.token, rfl⟩, rfl⟩

end Run

section Example

private def leftClient : Client topology where
  nodeId := "left"
  publicKey := pointKey
  thumbprint := pointThumbprint
  signChallenge := fun _ => pointSignature
  fits := fun _ => by decide +kernel

private def rightClient : Client topology where
  nodeId := "right"
  publicKey := []
  thumbprint := []
  signChallenge := fun _ => []
  fits := fun _ => by decide +kernel

private def twoClients (name : String) : Client topology :=
  if name = "l" then leftClient else rightClient

private def zeroDraw : Draw topology where
  env := ⟨zeroToken, 0, "s", true⟩
  fits := by decide +kernel

private theorem left_challenged :
    joining pointCrypto twoClients [] [.join "l" zeroDraw] =
      ⟨⟨[], .awaitResponse zeroToken []⟩, some "l",
        Function.update (fun _ => none) "l" (some zeroToken)⟩ := by
  obtain ⟨waiting, replied⟩ := challenge_turn pointCrypto topology (.listen []) "l" rfl
    (isJoin_joinFrame (twoClients "l")) (rfl : zeroDraw.env.sends = true)
  simp only [joining, run_cons, run_nil, Joining.step, joinMessage, waiting, replied,
    Option.isSome_some, if_true, Option.bind_some, readToken_challengeFrame]
  rfl

private theorem right_discarded :
    (joining pointCrypto twoClients [] [.join "l" zeroDraw, .join "r" zeroDraw]).server.phase =
      .awaitJoin ∧
    (joining pointCrypto twoClients [] [.join "l" zeroDraw, .join "r" zeroDraw]).holds "l" =
      some zeroToken := by
  have second := @joining_snoc pointCrypto topology twoClients [] [.join "l" zeroDraw]
    (.join "r" zeroDraw)
  rw [List.singleton_append, left_challenged] at second
  rw [second]
  constructor
  · simp only [Joining.step, joinMessage, AuthServer.step, readResponse_joinFrame]
  · simp [Joining.step]

private def overlappingRun : JoiningRun pointCrypto twoClients [] where
  events := [.join "l" zeroDraw, .join "r" zeroDraw, .response "l" zeroDraw.env]
  responds := by
    intro before name env after split
    obtain ⟨rfl, rfl⟩ : before = [.join "l" zeroDraw, .join "r" zeroDraw] ∧ name = "l" := by
      rcases before with _ | ⟨_, _ | ⟨_, _ | ⟨_, _⟩⟩⟩ <;> simp at split
      obtain ⟨rfl, rfl, ⟨rfl, rfl⟩, rfl⟩ := split
      exact ⟨rfl, rfl⟩
    exact ⟨zeroToken, right_discarded.2⟩

theorem overlapping_response_is_discarded : ¬ JudgedByOwnChallenge overlappingRun := by
  intro judged
  obtain ⟨past, draw, joined⟩ := right_after_join_of_judged overlappingRun judged
    [.join "l" zeroDraw, .join "r" zeroDraw] "l" zeroDraw.env [] rfl
    (by rw [right_discarded.1]; nofun)
  rcases past with _ | ⟨_, _ | ⟨_, _⟩⟩ <;> simp at joined

end Example

end SeamlessSwarm
