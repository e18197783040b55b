import SeamlessSwarm.Lib.Requests
import SeamlessSwarm.Attempt
import SeamlessSwarm.Joining

/-! Any number of workers and of strangers at the authentication server. Workers follow the
handshake, strangers send what they like; messages may be lost, be late or come again, and
the server may hear nothing or fail. -/
namespace SeamlessSwarm
open Trace Requests

/-- The server, and its decisions so far in a log that is not in the code. -/
structure AuthHub where
  hub : AuthServer
  decided : List Exchange

def AuthHub.take (crypto : Crypto) (prost : Prost) (s : AuthHub) (event : AuthEvent) : AuthHub :=
  ⟨s.hub.step crypto prost event, s.decided ++ (s.hub.completes crypto prost event).toList⟩

def WorkerInput.isLocal : WorkerInput → Bool
  | .exchanged _ => false
  | _ => true

section Service
variable (crypto : Crypto) {prost : Prost} (describe : Bytes → String)
  (clients : Nat → Client prost)
  (capabilities : Nat → List DeviceCapability)

/-- A stranger's message, a timeout or a failure is whatever else the server hears of. -/
def authService : Service Worker WorkerInput AuthHub AuthEnv AuthEvent Bytes Bytes where
  request n w := w.request (clients n)
  act n w input := w.step describe (clients n) (capabilities n) input
  isLocal _ input := input.isLocal
  serve s n env query :=
    let event := AuthEvent.message (clients n).nodeId query env
    (s.take crypto prost event, s.hub.reply crypto prost event)
  other s event := s.take crypto prost event
  refused e := .exchanged (.sendFailed e)
  lost e := .exchanged (.received (.error e))
  answered answer := .exchanged (.received (.ok answer))

def handshakes (trusted : List String) (steps : List (Step WorkerInput AuthEnv AuthEvent)) :
    State Worker AuthHub Bytes Bytes :=
  run (authService crypto describe clients capabilities).step
    (Service.start .start ⟨.listen trusted, []⟩) steps

end Service

def refusal : String := "Authentication failed: " ++ "ECDSA verification failed"

/-- What the hub decided of a worker's response: the signature over the token that the
worker has, verified against the token that the hub waits with. -/
structure Decided (crypto : Crypto) {prost : Prost} (client : Client prost) (trusted : List String)
    (x : Exchange) (token : Bytes) : Prop where
  response : x.response = client.response token
  authenticated : x.result.authenticated =
    verifies crypto x.token (client.signChallenge token) client.identity
  message : x.result.authenticated = false → x.result.message = refusal
  trusted : crypto.thumbprint client.publicKey ∈ trusted

def AuthHub.Answers (crypto : Crypto) {prost : Prost} (clients : Nat → Client prost) (s : AuthHub)
    (query answer : Bytes) : Prop :=
  (∃ n env, query = (clients n).joinFrame ∧ answer = challengeFrame prost env) ∨
    ∃ n token x, query = (clients n).responseFrame token ∧ x ∈ s.decided ∧
      Decided crypto (clients n) s.hub.trusted x token ∧ answer = resultFrame prost x.result

/-- A worker does not break, its attempts fail for a cause of the network or for its
signature, it answers the last challenge that it has taken, and its session is a decision of
the hub on this answer. -/
structure Worker.Trusts (crypto : Crypto) {prost : Prost} (cause : String → Prop)
    (client : Client prost)
    (s : AuthHub) (w : Worker) : Prop where
  alive : w.phase ≠ .panicked
  errors : ∀ e ∈ w.errors, cause e ∨ e = "Auth failed: " ++ refusal
  answering : ∀ token, w.phase = .answering token → w.challenges.getLast? = some token
  admitted : ∀ session, w.phase.session = some session → ∃ x ∈ s.decided, ∃ token,
    w.challenges.getLast? = some token ∧ Decided crypto client s.hub.trusted x token ∧
      x.result.authenticated = true ∧
      x.result.sessionToken = session

structure AuthHub.After (s t : AuthHub) : Prop where
  decided : ∀ x ∈ s.decided, x ∈ t.decided
  trusted : ∀ thumbprint ∈ s.hub.trusted, thumbprint ∈ t.hub.trusted

/-! What an input does that is not a reply. -/

def WorkerInput.error : WorkerInput → Option String
  | .dialed e => e
  | .exchanged (.sendFailed e) => some e
  | .exchanged (.received (.error e)) => some e
  | _ => none

def WorkerInput.IsReply (input : WorkerInput) : Prop :=
  ∃ reply, input = .exchanged (.received (.ok reply))

inductive Worker.Stepped (w : Worker) (input : WorkerInput) : Worker → Prop where
  | moves (after : Worker) : (∀ session, after.phase.session = some session →
      w.phase.session = some session) → (after.phase = .panicked → w.phase = .panicked) →
      (∀ token, after.phase = .answering token → w.phase = .answering token) →
      after.errors = w.errors → after.challenges = w.challenges → Stepped w input after
  | fails (e : String) : input.error = some e → Stepped w input (w.failAttempt e)

theorem worker_stepped {prost : Prost} (describe : Bytes → String) (client : Client prost)
    (capabilities : List DeviceCapability) (w : Worker) {input : WorkerInput}
    (silent : ¬ input.IsReply) :
    w.Stepped input (w.step describe client capabilities input) := by
  unfold Worker.step
  split
  · exact .fails _ rfl
  · exact .moves _ nofun nofun nofun rfl rfl
  next result phase =>
    match result with
    | .sendFailed e => exact .fails e rfl
    | .received (.error e) => exact .fails e rfl
    | .received (.ok reply) => exact absurd ⟨reply, rfl⟩ silent
  next token result phase =>
    match result with
    | .sendFailed e => exact .fails e rfl
    | .received (.error e) => exact .fails e rfl
    | .received (.ok reply) => exact absurd ⟨reply, rfl⟩ silent
  · exact .moves _ nofun nofun nofun rfl rfl
  · exact .moves _ nofun nofun nofun rfl rfl
  next phase =>
    refine .moves _ ?_ nofun nofun rfl rfl
    intro session same
    rw [phase]
    exact same
  · exact .moves _ nofun nofun nofun rfl rfl
  next phase =>
    refine .moves _ ?_ nofun nofun rfl rfl
    intro session same
    rw [phase]
    exact same
  · exact .moves w (fun _ same => same) (fun same => same) (fun _ same => same) rfl rfl

theorem asking_worker_waits {prost : Prost} {describe : Bytes → String} {client : Client prost}
    {capabilities : List DeviceCapability} {w : Worker} {input : WorkerInput}
    (asking : w.request client ≠ none) (isLocal : input.isLocal = true) :
    w.step describe client capabilities input = w := by
  obtain ⟨phase, errors, profiles, challenges⟩ := w
  cases phase with
  | joining | answering token =>
    cases input with
    | exchanged result => cases isLocal
    | _ => rfl
  | _ => exact absurd rfl asking

/-! What the server makes of the frames of a worker. -/

section Server
variable {crypto : Crypto} {prost : Prost} {s : AuthServer} (client : Client prost)

theorem join_reply {name : String} {env : AuthEnv} {answer : Bytes}
    (replied : s.reply crypto prost (.message name client.joinFrame env) = some answer) :
    answer = challengeFrame prost env := by
  have silent : s.completes crypto prost (.message name client.joinFrame env) = none := by
    rw [Option.eq_none_iff_forall_ne_some]
    intro x completed
    obtain ⟨_, _, _, _, _, _, same, _, read, _⟩ := completes_iff.mp completed
    cases same
    cases (readResponse_joinFrame client).symm.trans read
  cases phase : s.phase with
  | awaitJoin =>
    simp only [AuthServer.reply, phase] at replied
    split at replied
    · exact (Option.some.inj replied).symm
    · cases replied
  | awaitResponse token began => simp [AuthServer.reply, phase, silent] at replied
  | stopped => simp [AuthServer.reply, phase, silent] at replied

theorem authorize_trusts (trusted : List String) (identity : HardwareIdentity) :
    crypto.thumbprint identity.ecdsaPublicKey ∈ authorize crypto trusted identity ∧
      ∀ t ∈ trusted, t ∈ authorize crypto trusted identity := by
  unfold authorize
  dsimp only
  split
  next known => exact ⟨known, fun _ member => member⟩
  · exact ⟨List.mem_append_right _ List.mem_cons_self, fun _ member =>
      List.mem_append_left _ member⟩

theorem step_trusts (crypto : Crypto) (prost : Prost) (s : AuthServer) (event : AuthEvent) :
    ∀ t ∈ s.trusted, t ∈ (s.step crypto prost event).trusted := by
  have turned := auth_turned crypto prost s event
  generalize s.step crypto prost event = after at turned ⊢
  intro t member
  cases turned with
  | decides client msg env token began response waiting read =>
    dsimp only [decideResponse]
    split
    next identity _ => exact (authorize_trusts s.trusted identity).2 t member
    · exact member
  | _ => exact member

theorem resultOf_refused {authenticated : Bool} {session node reason : String}
    (refused : (resultOf authenticated session node reason).authenticated = false) :
    (resultOf authenticated session node reason).message = "Authentication failed: " ++ reason := by
  rw [resultOf_authenticated] at refused
  rw [refused]
  rfl

theorem response_reply {name : String} {msg : Bytes} {env : AuthEnv} {token answer : Bytes}
    (other : isJoin msg = false) (read : readResponse prost msg = .accept (client.response token))
    (replied : s.reply crypto prost (.message name msg env) = some answer) :
    ∃ x, s.completes crypto prost (.message name msg env) = some x ∧
      Decided crypto client (s.step crypto prost (.message name msg env)).trusted x token ∧
        answer = resultFrame prost x.result := by
  cases phase : s.phase with
  | awaitJoin =>
    simp only [AuthServer.reply, phase, other, Bool.false_and, Bool.false_eq_true,
      if_false] at replied
    cases replied
  | stopped => simp [AuthServer.reply, phase, AuthServer.completes] at replied
  | awaitResponse held began =>
    simp only [AuthServer.reply, phase, AuthServer.completes, read] at replied
    split at replied
    · refine ⟨_, completes_iff.mpr ⟨name, msg, env, held, began, _, rfl, phase, read, rfl⟩, ?_,
        (Option.some.inj replied).symm⟩
      constructor
      · rfl
      · rfl
      · exact resultOf_refused
      · simp only [AuthServer.step, phase, read]
        exact (authorize_trusts s.trusted client.identity).1
    · cases replied

theorem Decided.mono {trusted trusted' : List String} {x : Exchange} {token : Bytes}
    (decided : Decided crypto client trusted x token) (more : ∀ t ∈ trusted, t ∈ trusted') :
    Decided crypto client trusted' x token :=
  ⟨decided.response, decided.authenticated, decided.message, more _ decided.trusted⟩

end Server

theorem authHub_after (crypto : Crypto) (prost : Prost) (s : AuthHub) (event : AuthEvent) :
    s.After (s.take crypto prost event) :=
  ⟨fun _ member => List.mem_append_left _ member, step_trusts crypto prost s.hub event⟩

section Trust
variable {crypto : Crypto} {prost : Prost} {clients : Nat → Client prost} {s : AuthHub}

theorem AuthHub.Answers.later {t : AuthHub} {query answer : Bytes}
    (answers : s.Answers crypto clients query answer) (after : s.After t) :
    t.Answers crypto clients query answer := by
  rcases answers with challenge | ⟨n, token, x, asked, member, decided, same⟩
  · exact Or.inl challenge
  · exact Or.inr ⟨n, token, x, asked, after.decided x member, decided.mono _ after.trusted, same⟩

variable {describe : Bytes → String} {capabilities : List DeviceCapability} {cause : String → Prop}
  {client : Client prost} {w : Worker}

theorem Worker.Trusts.later {t : AuthHub} (inv : w.Trusts crypto cause client s)
    (after : s.After t) :
    w.Trusts crypto cause client t := by
  refine ⟨inv.alive, inv.errors, inv.answering, ?_⟩
  intro session same
  obtain ⟨x, member, token, last, decided, rest⟩ := inv.admitted session same
  exact ⟨x, after.decided x member, token, last, decided.mono client after.trusted, rest⟩

theorem Worker.Trusts.failed (inv : w.Trusts crypto cause client s) {e : String}
    (known : cause e ∨ e = "Auth failed: " ++ refusal) :
    (w.failAttempt e).Trusts crypto cause client s := by
  refine ⟨nofun, ?_, nofun, nofun⟩
  intro e' member
  rcases List.mem_append.mp member with old | new
  · exact inv.errors e' old
  · rw [List.mem_singleton.mp new]
    exact known

theorem Worker.Trusts.silent (inv : w.Trusts crypto cause client s) {input : WorkerInput}
    (silent : ¬ input.IsReply) (fine : ∀ e, input.error = some e → cause e) :
    (w.step describe client capabilities input).Trusts crypto cause client s := by
  have stepped := worker_stepped describe client capabilities w silent
  generalize w.step describe client capabilities input = after at stepped ⊢
  cases stepped with
  | moves _ session panicked answering errors challenges =>
    refine ⟨fun broken => inv.alive (panicked broken), ?_, ?_, ?_⟩
    · rw [errors]
      exact inv.errors
    · rw [challenges]
      exact fun token same => inv.answering token (answering token same)
    · rw [challenges]
      exact fun _ same => inv.admitted _ (session _ same)
  | fails e given => exact inv.failed (Or.inl (fine e given))

theorem response_eq {other : Client prost} {token token' : Bytes}
    (same : client.responseFrame token = other.responseFrame token') :
    client.response token = other.response token' := by
  have read := congrArg (readResponse prost) same
  rw [readResponse_responseFrame, readResponse_responseFrame] at read
  exact Read.accept.inj read

theorem join_ne_response {other : Client prost} {token : Bytes} :
    client.joinFrame ≠ other.responseFrame token := by
  intro same
  have joined := isJoin_joinFrame client
  rw [same, isJoin_responseFrame] at joined
  cases joined

theorem Decided.same {other : Client prost} {trusted : List String} {x : Exchange}
    {token token' : Bytes}
    (decided : Decided crypto other trusted x token')
    (same : client.response token = other.response token') :
    Decided crypto client trusted x token := by
  have signature : client.signChallenge token = other.signChallenge token' :=
    congrArg HandshakeResponse.signature same
  have identity : client.identity = other.identity :=
    Option.some.inj (congrArg HandshakeResponse.identity same)
  have key : client.publicKey = other.publicKey := congrArg HardwareIdentity.ecdsaPublicKey identity
  constructor
  · rw [same]
    exact decided.response
  · rw [signature, identity]
    exact decided.authenticated
  · exact decided.message
  · rw [key]
    exact decided.trusted

theorem Worker.Trusts.answered (inv : w.Trusts crypto cause client s) {query answer : Bytes}
    (asking : w.request client = some query) (answers : s.Answers crypto clients query answer)
    (short : answer.length < 4294967301) :
    (w.step describe client capabilities (.exchanged (.received (.ok answer)))).Trusts crypto cause
    client s := by
  cases phase : w.phase with
  | joining =>
    have asked : client.joinFrame = query := by
      rw [Worker.request, phase] at asking
      exact Option.some.inj asking
    rcases answers with ⟨m, env, _, same⟩ | ⟨m, token, x, other, _⟩
    · have taken : takeChallenge prost describe answer = some (.ok ⟨env.token, env.timestamp⟩) := by
        rw [same, challengeFrame] at short ⊢
        exact takeReply_frame _ _ _ describe _ (payload_fits short)
      rw [joining_answered describe client capabilities w phase taken]
      refine ⟨nofun, inv.errors, ?_, nofun⟩
      rintro token ⟨⟩
      exact List.getLast?_concat
    · exact absurd (asked.trans other) join_ne_response
  | answering token =>
    have asked : client.responseFrame token = query := by
      rw [Worker.request, phase] at asking
      exact Option.some.inj asking
    rcases answers with ⟨m, env, other, _⟩ | ⟨m, token', x, other, member, decided, same⟩
    · exact absurd (asked.trans other).symm join_ne_response
    · have taken : takeResult prost describe answer = some (.ok x.result) := by
        rw [same, resultFrame] at short ⊢
        exact takeReply_frame _ _ _ describe _ (payload_fits short)
      have mine : Decided crypto client s.hub.trusted x token :=
        decided.same (response_eq (asked.trans other))
      rw [answering_answered describe client capabilities w phase taken]
      cases authenticated : x.result.authenticated with
      | false =>
        rw [mine.message authenticated]
        exact inv.failed (Or.inr rfl)
      | true =>
        refine ⟨nofun, inv.errors, nofun, ?_⟩
        rintro session ⟨⟩
        exact ⟨x, member, token, inv.answering token phase, mine, authenticated, rfl⟩
  | _ =>
    rw [Worker.request, phase] at asking
    cases asking

end Trust

section Contract
variable (crypto : Crypto) {prost : Prost} (describe : Bytes → String)
  (clients : Nat → Client prost)
  (capabilities : Nat → List DeviceCapability)

/-- What the workers and the server keep to, whatever strangers send. -/
def authContract (cause : String → Prop) :
    Contract (authService crypto describe clients capabilities) where
  later _ _ := True
  after := AuthHub.After
  client s n w := w.Trusts crypto cause (clients n) s
  joint _ _ := True
  made n _ query := query = (clients n).joinFrame ∨ ∃ token, query = (clients n).responseFrame token
  answers s query answer := s.Answers crypto clients query answer
  small _ := True
  short answer := answer.length < 4294967301
  fine input := ∀ e, input.error = some e → cause e
  calm _ := True
  later_refl _ := trivial
  act_later _ _ _ := trivial
  serve_after s n env query := authHub_after crypto prost s (.message (clients n).nodeId query env)
  other_after s event := authHub_after crypto prost s event
  made_later _ _ _ _ _ made := made
  joint_later _ _ _ _ _ := trivial
  client_after _ _ _ _ after inv := inv.later after
  answers_after _ _ _ _ after answers := answers.later after
  request_made _ n w query _ asking := by
    obtain ⟨phase, errors, profiles, challenges⟩ := w
    cases phase with
    | joining => exact Or.inl (Option.some.inj asking).symm
    | answering token => exact Or.inr ⟨token, (Option.some.inj asking).symm⟩
    | _ => cases asking
  request_waits _ n _ _ asking isLocal :=
    congrArg (Worker.request (clients n)) (asking_worker_waits asking isLocal)
  client_local _ _ _ _ inv isLocal fine := by
    refine inv.silent ?_ fine
    rintro ⟨reply, rfl⟩
    cases isLocal
  client_refused _ _ _ _ inv fine := inv.silent nofun fine
  client_lost _ _ _ _ inv fine := inv.silent nofun fine
  client_answered _ _ _ _ _ inv asking _ answers short := inv.answered asking answers short
  serve_answers s n _ env _ answer _ made _ replied := by
    rcases made with rfl | ⟨token, rfl⟩
    · exact Or.inl ⟨n, env, rfl, join_reply (clients n) replied⟩
    · obtain ⟨x, completed, decided, same⟩ :=
        response_reply (clients n) (isJoin_responseFrame (clients n) token)
        (readResponse_responseFrame (clients n) token) replied
      refine Or.inr ⟨n, token, x, rfl, List.mem_append_right _ ?_, decided, same⟩
      exact Option.mem_toList.mpr completed
  joint_serve _ _ _ _ _ _ _ _ _ := trivial
  joint_other _ _ _ _ _ := trivial

/-- A signature of this client verifies over no other token than the one it was made for. -/
def SignsOnce (client : Client prost) : Prop :=
  ∀ token token', verifies crypto token' (client.signChallenge token) client.identity = true →
    token' = token

def Blamed (steps : List (Step WorkerInput AuthEnv AuthEvent)) (e : String) : Prop :=
  ∃ n, (∃ input, .input n input ∈ steps ∧ input.error = some e) ∨ .refuse n e ∈ steps ∨
    .giveUp n e ∈ steps

/-- What is true of a worker: it has not broken, its attempts failed by the network or by its
signature, and if it has a session, then the hub trusts its key and has verified its
signature of the last token that it was challenged with, over this very token if its
signatures bind tokens. -/
structure Admitted (client : Client prost) (steps : List (Step WorkerInput AuthEnv AuthEvent))
    (s : AuthHub)
    (w : Worker) : Prop where
  alive : w.phase ≠ .panicked
  errors : ∀ e ∈ w.errors, Blamed steps e ∨ e = "Auth failed: " ++ refusal
  verified : ∀ session, w.phase.session = some session → ∃ x ∈ s.decided, ∃ token,
    w.challenges.getLast? = some token ∧ x.response = client.response token ∧
      x.result.authenticated = true ∧ x.result.sessionToken = session ∧
      verifies crypto x.token (client.signChallenge token) client.identity = true ∧
      (SignsOnce crypto client → x.token = token)
  trusted : w.phase.session ≠ none → crypto.thumbprint client.publicKey ∈ s.hub.trusted

/-- In every run of any number of workers and strangers, whatever is lost, late or repeated,
a worker goes on after the handshake only if the hub has verified its signature. -/
theorem workers_are_admitted (trusted : List String)
    (steps : List (Step WorkerInput AuthEnv AuthEvent))
    (fits : ∀ p ∈ (handshakes crypto describe clients capabilities trusted steps).net.replies,
      p.2.length < 4294967301) (n : Nat) :
    Admitted crypto (clients n) steps
      (handshakes crypto describe clients capabilities trusted steps).server
      ((handshakes crypto describe clients capabilities trusted steps).clients n) := by
  have initial : (authContract crypto describe clients capabilities (Blamed steps)).Holds
      (Service.start .start ⟨.listen trusted, []⟩) :=
    ⟨fun _ => ⟨nofun, nofun, nofun, nofun⟩, trivial, nofun, .idle⟩
  have run := initial.run ⟨fun _ _ => trivial, fits⟩ (by
    intro a member
    cases a with
    | input n input => exact fun e given => ⟨n, Or.inl ⟨input, member, given⟩⟩
    | refuse n e =>
      rintro e' ⟨⟩
      exact ⟨n, Or.inr (Or.inl member)⟩
    | giveUp n e =>
      rintro e' ⟨⟩
      exact ⟨n, Or.inr (Or.inr member)⟩
    | _ => trivial)
  have inv := run.clients n
  refine ⟨inv.alive, inv.errors, ?_, ?_⟩
  · intro session same
    obtain ⟨x, member, token, last, decided, authenticated, given⟩ := inv.admitted session same
    have verified := decided.authenticated.symm.trans authenticated
    exact ⟨x, member, token, last, decided.response, authenticated, given, verified,
      fun binds => binds token x.token verified⟩
  · intro some
    obtain ⟨session, same⟩ := Option.ne_none_iff_exists'.mp some
    obtain ⟨x, _, token, _, decided, _⟩ := inv.admitted session same
    exact decided.trusted

variable {clients}

def attemptSteps (s : State Worker AuthHub Bytes Bytes) (n : Nat) (join answer : AuthEnv) :
    List (Step WorkerInput AuthEnv AuthEvent) :=
  .input n (.dialed none) ::
    ([.send n, .serve s.net.sent.length join, .arrive s.net.replies.length] ++
      [.send n, .serve (s.net.sent.length + 1) answer, .arrive (s.net.replies.length + 1)])

/-- From any state in which the hub waits for a Join, an attempt in which nothing comes in
between leaves it waiting for the next one, and succeeds if the signature verifies. -/
theorem undisturbed_attempt_is_decided (s : State Worker AuthHub Bytes Bytes) (n : Nat)
    (dialing : (s.clients n).phase = .dialing) (free : s.net.waiting n = none)
    (idle : s.server.hub.phase = .awaitJoin) (join answer : AuthEnv) (joins : join.sends = true)
    (answers : answer.sends = true) (challenged : (challengeFrame prost join).length < 4294967301)
    (judged : (resultFrame prost (resultOf
      (verifies crypto join.token ((clients n).signChallenge join.token) (clients n).identity)
      answer.session (clients n).nodeId "ECDSA verification failed")).length < 4294967301) :
    let after := run (authService crypto describe clients capabilities).step s
      (attemptSteps s n join answer)
    after.server.hub.phase = .awaitJoin ∧ after.net.waiting n = none ∧
      after.clients n =
        if verifies crypto join.token ((clients n).signChallenge join.token) (clients n).identity then
          ((s.clients n).note join.token).goTo (.profiling answer.session)
        else ((s.clients n).note join.token).failAttempt ("Auth failed: " ++ refusal) := by
  obtain ⟨challenges, challenge⟩ := challenge_turn crypto prost s.server.hub (clients n).nodeId idle
    (isJoin_joinFrame (clients n)) joins
  have joining : (((authService crypto describe clients capabilities).feed s n
      (.dialed none)).clients n) =
      (s.clients n).goTo .joining := by
    rw [Service.feed_self]
    simp only [authService, Worker.step, dialing]
  have dialed : (authService crypto describe clients capabilities).step s
      (.input n (.dialed none)) =
      (authService crypto describe clients capabilities).feed s n (.dialed none) := rfl
  have first : Service.Exchanged _ _ (run _ _ [Step.send n, .serve s.net.sent.length join,
      .arrive s.net.replies.length]) n join _ _ :=
    @Service.undisturbed _ _ _ _ _ _ _ (authService crypto describe clients capabilities)
      ((authService crypto describe clients capabilities).feed s n (.dialed none)) n
        (clients n).joinFrame
      (challengeFrame prost join) join free (by rw [joining]; rfl) challenge
  rw [attemptSteps, run_cons, dialed, run_append]
  generalize run _ ((authService crypto describe clients capabilities).feed s n (.dialed none)) _ =
    mid at first ⊢
  have taken : takeChallenge prost describe (challengeFrame prost join) =
      some (.ok ⟨join.token, join.timestamp⟩) := by
    rw [challengeFrame] at challenged ⊢
    exact takeReply_frame _ _ _ describe _ (payload_fits challenged)
  have answering : mid.clients n =
      ((s.clients n).note join.token).goTo (.answering join.token) := by
    rw [first.client, joining]
    exact joining_answered describe (clients n) (capabilities n)
      ((s.clients n).goTo .joining) rfl taken
  have waiting : mid.server.hub =
      { s.server.hub with phase := .awaitResponse join.token s.server.hub.trusted } := by
    rw [first.server]
    exact challenges
  obtain ⟨decides, decision⟩ := decide_turn crypto prost mid.server.hub (clients n).nodeId
    (congrArg AuthServer.phase waiting) (readResponse_responseFrame (clients n) join.token) answers
  have second := @Service.undisturbed _ _ _ _ _ _ _
    (authService crypto describe clients capabilities) mid n
    ((clients n).responseFrame join.token) _ answer first.free (by rw [answering]; rfl) decision
  have sent : mid.net.sent.length = s.net.sent.length + 1 := first.sent
  have replies : mid.net.replies.length = s.net.replies.length + 1 := first.replies
  rw [← sent, ← replies]
  generalize run _ mid _ = last at second ⊢
  refine ⟨?_, second.free, ?_⟩
  · rw [second.server]
    exact congrArg AuthServer.phase decides
  · have result : takeResult prost describe (resultFrame prost (resultOf
        (verifies crypto join.token ((clients n).signChallenge join.token) (clients n).identity)
        answer.session (clients n).nodeId "ECDSA verification failed")) = some (.ok (resultOf
        (verifies crypto join.token ((clients n).signChallenge join.token) (clients n).identity)
        answer.session (clients n).nodeId "ECDSA verification failed")) := by
      rw [resultFrame] at judged ⊢
      exact takeReply_frame _ _ _ describe _ (payload_fits judged)
    rw [second.client, answering]
    refine (answering_answered describe (clients n) (capabilities n)
      (((s.clients n).note join.token).goTo (.answering join.token)) rfl result).trans ?_
    cases verifies crypto join.token ((clients n).signChallenge join.token)
      (clients n).identity <;> rfl

end Contract

section Example

private def pointClient : Client topology where
  nodeId := "point"
  publicKey := pointKey
  thumbprint := pointThumbprint
  signChallenge := fun _ => pointSignature
  fits := fun _ => by decide +kernel

private def pointEnv : AuthEnv := ⟨zeroToken, 0, "s", true⟩

private def pointRun : List (Step WorkerInput AuthEnv AuthEvent) :=
  attemptSteps (Service.start .start ⟨.listen [], []⟩) 0 pointEnv pointEnv

private def pointHandshakes : State Worker AuthHub Bytes Bytes :=
  handshakes pointCrypto (fun _ => "") (fun _ => pointClient) (fun _ => []) [] pointRun

private theorem point_handshakes : (pointHandshakes.clients 0).phase.session = some "s" ∧
    ∀ p ∈ pointHandshakes.net.replies, p.2.length < 4294967301 := by
  decide +kernel

private theorem point_verifies :
    verifies pointCrypto pointEnv.token (pointClient.signChallenge pointEnv.token)
      pointClient.identity = true := by
  decide +kernel

theorem new_worker_is_admitted :
    (pointHandshakes.clients 0).phase.session = some "s" ∧
      Admitted pointCrypto pointClient pointRun pointHandshakes.server
        (pointHandshakes.clients 0) := by
  obtain ⟨session, fits⟩ := point_handshakes
  refine ⟨session, ?_⟩
  rw [pointHandshakes] at fits ⊢
  exact workers_are_admitted pointCrypto (fun _ => "") (fun _ => pointClient) (fun _ => [])
    [] pointRun fits 0

theorem new_worker_is_decided :
    pointHandshakes.clients 0 = (Worker.start.note zeroToken).goTo (.profiling "s") := by
  have challenged : (challengeFrame topology pointEnv).length < 4294967301 := by decide +kernel
  have judged : (resultFrame topology (resultOf
      (verifies pointCrypto pointEnv.token (pointClient.signChallenge pointEnv.token)
        pointClient.identity)
      pointEnv.session pointClient.nodeId "ECDSA verification failed")).length < 4294967301 := by
    rw [point_verifies]
    decide +kernel
  have decided := @undisturbed_attempt_is_decided pointCrypto topology (fun _ => "")
    (fun _ => pointClient)
    (fun _ => []) (Service.start .start ⟨.listen [], []⟩) 0 rfl rfl rfl pointEnv pointEnv rfl
    rfl challenged
    judged
  rw [pointHandshakes, handshakes, pointRun]
  exact decided.2.2.trans (if_pos point_verifies)

end Example

end SeamlessSwarm
