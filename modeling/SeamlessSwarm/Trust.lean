import Mathlib.Data.List.Induction
import SeamlessSwarm.Handshake

/-! What an exchange proves about a client: which thumbprints the authentication
server comes to trust, and over which token an accepted signature was made. -/
namespace SeamlessSwarm
open Trace

/-- The exchange ended with an authenticated result that went out. -/
def Exchange.Granted (x : Exchange) : Prop := x.sent = true ∧ x.result.authenticated = true

def AuthServer.draws (s : AuthServer) : AuthEvent → List Bytes
  | .message _ msg env =>
    match s.phase with
    | .awaitJoin => if isJoin msg then [env.token] else []
    | _ => []
  | _ => []

section Law
variable (crypto : Crypto) (prost : Prost) (trusted : List String)

def drawn (events : List AuthEvent) : List Bytes :=
  trail (AuthServer.step crypto prost) AuthServer.draws (.listen trusted) events

/-- The exchange carries a key with this thumbprint and its signature of the
exchange's token. -/
def Exchange.Proves (x : Exchange) (thumbprint : String) : Prop :=
  ∃ identity, x.response.identity = some identity ∧
    crypto.thumbprint identity.ecdsaPublicKey = thumbprint ∧
    verifies crypto x.token x.response.signature identity = true

/-- A stretch of the run without a granted exchange leaves the trusted list as it
is, and every thumbprint that was added was proved over a token of the run. -/
structure NoTrace (events : List AuthEvent) : Prop where
  clean : ∀ before during after, events = before ++ during ++ after →
    (∀ past event rest x, during = past ++ event :: rest →
      (authServer crypto prost trusted (before ++ past)).completes crypto prost event = some x →
      ¬ x.Granted) →
    (authServer crypto prost trusted (before ++ during)).trusted =
      (authServer crypto prost trusted before).trusted
  earned : ∀ before after, events = before ++ after →
    ∀ t ∈ (authServer crypto prost trusted before).trusted, t ∉ trusted →
      ∃ past event rest x, before = past ++ event :: rest ∧
        (authServer crypto prost trusted past).completes crypto prost event = some x ∧
        x.token ∈ drawn crypto prost trusted before ∧ x.Proves crypto t

/-- A response with a key that is not trusted yet verifies, and its result goes out. -/
def NewKeysVerify (s : AuthServer) (event : AuthEvent) : Prop :=
  ∀ client msg env token began response identity, event = .message client msg env →
    s.phase = .awaitResponse token began → readResponse prost msg = .accept response →
    response.identity = some identity → crypto.thumbprint identity.ecdsaPublicKey ∉ s.trusted →
    verifies crypto token response.signature identity = true ∧ env.sends = true

/-- A signature verifies for at most one token. -/
def BindsToken : Prop :=
  ∀ signature identity identity' token token', verifies crypto token signature identity = true →
    verifies crypto token' signature identity' = true → token = token'

/-- An exchange is granted for a signature of its own token only, drawn at the Join
right before. So with distinct tokens no signature is accepted twice. -/
structure NoReplay (events : List AuthEvent) : Prop where
  replies : ∀ before event after bytes, events = before ++ event :: after →
    (authServer crypto prost trusted before).reply crypto prost event = some bytes →
    (∃ client msg env, event = .message client msg env ∧ isJoin msg = true ∧
      bytes = challengeFrame prost env) ∨
    ∃ x, (authServer crypto prost trusted before).completes crypto prost event = some x ∧
      x.sent = true ∧ bytes = resultFrame prost x.result
  own : ∀ before event after x, events = before ++ event :: after →
    (authServer crypto prost trusted before).completes crypto prost event = some x → x.Granted →
    ∃ past client msg env identity, before = past ++ [.message client msg env] ∧
      (authServer crypto prost trusted past).phase = .awaitJoin ∧ isJoin msg = true ∧
      x.response.identity = some identity ∧
      verifies crypto env.token x.response.signature identity = true
  once : (drawn crypto prost trusted events).Nodup → BindsToken crypto →
    ∀ before event after x before' event' after' x',
      events = before ++ event :: after → events = before' ++ event' :: after' →
      (authServer crypto prost trusted before).completes crypto prost event = some x →
      (authServer crypto prost trusted before').completes crypto prost event' = some x' →
      x.Granted → x'.Granted → x.response.signature = x'.response.signature → before = before'

end Law

section Run
variable {crypto : Crypto} {prost : Prost} {trusted : List String}

theorem new_key_added {s : AuthServer} {msg : Bytes} {token : Bytes} {began : List String}
    {response : HandshakeResponse} {identity : HardwareIdentity} (client : String) (env : AuthEnv)
    (waiting : s.phase = .awaitResponse token began)
    (read : readResponse prost msg = .accept response)
    (presented : response.identity = some identity)
    (new : crypto.thumbprint identity.ecdsaPublicKey ∉ s.trusted) :
    (s.step crypto prost (.message client msg env)).trusted =
      s.trusted ++ [crypto.thumbprint identity.ecdsaPublicKey] := by
  simp only [AuthServer.step, waiting, read, decideResponse, presented, authorize, new, if_false]

theorem trusted_turn (s : AuthServer) (event : AuthEvent) :
    (s.step crypto prost event).trusted = s.trusted ∨
      ∃ client msg env token began response identity, event = .message client msg env ∧
        s.phase = .awaitResponse token began ∧ readResponse prost msg = .accept response ∧
        response.identity = some identity ∧
        crypto.thumbprint identity.ecdsaPublicKey ∉ s.trusted ∧
        (s.step crypto prost event).trusted =
          s.trusted ++ [crypto.thumbprint identity.ecdsaPublicKey] := by
  have turned := auth_turned crypto prost s event
  generalize s.step crypto prost event = next at turned
  cases turned with
  | decides client msg env token began response waiting read =>
    cases presented : response.identity with
    | none => simp [decideResponse, presented]
    | some identity =>
      by_cases known : crypto.thumbprint identity.ecdsaPublicKey ∈ s.trusted
      · simp [decideResponse, presented, authorize, known]
      · exact Or.inr ⟨client, msg, env, token, began, response, identity, rfl, waiting,
          read, presented,
          known, by simp [decideResponse, presented, authorize, known]⟩
  | _ => exact Or.inl rfl

theorem completed_own {before : List AuthEvent} {event : AuthEvent} {x : Exchange}
    (completed : (authServer crypto prost trusted before).completes crypto prost event = some x) :
    ∃ past client msg env, before = past ++ [.message client msg env] ∧
      (authServer crypto prost trusted past).phase = .awaitJoin ∧ isJoin msg = true ∧
      x.token = env.token ∧
      (x.result.authenticated = true ↔ ∃ identity, x.response.identity = some identity ∧
        verifies crypto x.token x.response.signature identity = true) := by
  obtain ⟨client', msg', env', token, began, response, rfl, waiting, read, rfl⟩ :=
    completes_iff.mp completed
  obtain ⟨past, client, msg, env, split, joining, joined, sends, own⟩ := joined_before waiting
  exact ⟨past, client, msg, env, split, joining, joined, own,
    decideResponse_authenticated crypto _ token response env'.session⟩

theorem draws_join {past : List AuthEvent} {msg : Bytes} (client : String) (env : AuthEnv)
    (joining : (authServer crypto prost trusted past).phase = .awaitJoin)
    (joined : isJoin msg = true) :
    env.token ∈ (authServer crypto prost trusted past).draws (.message client msg env) := by
  simp [AuthServer.draws, joining, joined]

theorem token_drawn {before : List AuthEvent} {event : AuthEvent} {x : Exchange}
    (completed : (authServer crypto prost trusted before).completes crypto prost event = some x) :
    x.token ∈ drawn crypto prost trusted before := by
  obtain ⟨past, client, msg, env, rfl, joining, joined, own, _⟩ := completed_own completed
  rw [own]
  exact mem_trail (draws_join client env joining joined)

variable (crypto prost trusted)

theorem clean_of_new_keys_verify {events : List AuthEvent}
    (verify : Along (AuthServer.step crypto prost) (NewKeysVerify crypto prost)
      (.listen trusted) events)
    (before during after : List AuthEvent) (split : events = before ++ during ++ after)
    (ungranted : ∀ past event rest x, during = past ++ event :: rest →
      (authServer crypto prost trusted (before ++ past)).completes crypto prost event = some x →
      ¬ x.Granted) :
    (authServer crypto prost trusted (before ++ during)).trusted =
      (authServer crypto prost trusted before).trusted := by
  induction during using List.reverseRecOn generalizing after with
  | nil => rw [List.append_nil]
  | append_singleton during event ih =>
    have earlier := ih (event :: after) (by rw [split]; simp) fun past e rest x inside =>
      ungranted past e (rest ++ [event]) x (by rw [inside]; simp)
    rw [← List.append_assoc, authServer_snoc]
    rcases trusted_turn (authServer crypto prost trusted (before ++ during)) event with
      same | ⟨client, msg, env, token, began, response, identity, rfl, waiting, read,
        presented, new, _⟩
    · exact same.trans earlier
    · obtain ⟨verified, sends⟩ := (along_iff_split _ _).mp verify (before ++ during) _ after
        (by rw [split]; simp) client msg env token began response identity rfl waiting read
          presented new
      refine absurd ⟨sends, ?_⟩ (ungranted during _ [] _ rfl
        (completes_iff.mpr ⟨client, msg, env, token, began, response, rfl, waiting, read, rfl⟩))
      exact (decideResponse_authenticated crypto _ token response env.session).mpr
        ⟨identity, presented, verified⟩

theorem earned_of_new_keys_verify {events : List AuthEvent}
    (verify : Along (AuthServer.step crypto prost) (NewKeysVerify crypto prost)
      (.listen trusted) events)
    (before after : List AuthEvent) (split : events = before ++ after) (t : String)
    (member : t ∈ (authServer crypto prost trusted before).trusted) (new : t ∉ trusted) :
    ∃ past event rest x, before = past ++ event :: rest ∧
      (authServer crypto prost trusted past).completes crypto prost event = some x ∧
      x.token ∈ drawn crypto prost trusted before ∧ x.Proves crypto t := by
  induction before using List.reverseRecOn generalizing after with
  | nil => exact absurd member new
  | append_singleton before event ih =>
    have kept {x : Exchange} (early : x.token ∈ drawn crypto prost trusted before) :
        x.token ∈ drawn crypto prost trusted (before ++ [event]) := by
      rw [drawn, trail_append]
      exact List.mem_append_left _ early
    have extend (early : t ∈ (authServer crypto prost trusted before).trusted) :
        ∃ past e rest x, before ++ [event] = past ++ e :: rest ∧
          (authServer crypto prost trusted past).completes crypto prost e = some x ∧
          x.token ∈ drawn crypto prost trusted (before ++ [event]) ∧ x.Proves crypto t := by
      obtain ⟨past, e, rest, x, inside, completed, token, proved⟩ :=
        ih (event :: after) (by rw [split]; simp) early
      exact ⟨past, e, rest ++ [event], x, by rw [inside]; simp, completed, kept token, proved⟩
    rw [authServer_snoc] at member
    rcases trusted_turn (authServer crypto prost trusted before) event with
      same | ⟨client, msg, env, token, began, response, identity, rfl, waiting, read,
        presented, unknown,
        added⟩
    · exact extend (same ▸ member)
    · rw [added] at member
      rcases List.mem_append.mp member with early | own
      · exact extend early
      · have completed := (@completes_iff crypto _ _ _ _).mpr
          ⟨client, msg, env, token, began, response, rfl, waiting, read, rfl⟩
        obtain ⟨verified, _⟩ := (along_iff_split _ _).mp verify before _ after (by rw [split]; simp)
          client msg env token began response identity rfl waiting read presented unknown
        exact ⟨before, _, [], _, rfl, completed, kept (token_drawn completed), identity, presented,
          (List.mem_singleton.mp own).symm, verified⟩

theorem new_keys_verify_of_no_trace {events : List AuthEvent}
    (law : NoTrace crypto prost trusted events) :
    Along (AuthServer.step crypto prost) (NewKeysVerify crypto prost) (.listen trusted) events := by
  rw [along_iff_split]
  intro before event after split client msg env token began response identity same waiting read
    presented new
  subst same
  by_contra failed
  have ungranted : ∀ past e rest x, [AuthEvent.message client msg env] = past ++ e :: rest →
      (authServer crypto prost trusted (before ++ past)).completes crypto prost e = some x →
      ¬ x.Granted := by
    intro past e rest x inside completed granted
    obtain ⟨rfl, rfl, rfl⟩ : past = [] ∧ e = .message client msg env ∧ rest = [] := by
      cases past with
      | nil => simpa [eq_comm] using inside
      | cons => simp at inside
    rw [List.append_nil] at completed
    obtain ⟨_, _, _, _, _, _, same, waiting', read', rfl⟩ := completes_iff.mp completed
    cases same
    cases waiting.symm.trans waiting'
    cases read.symm.trans read'
    obtain ⟨other, presented', verified⟩ :=
      (decideResponse_authenticated crypto _ token response env.session).mp granted.2
    cases presented.symm.trans presented'
    exact failed ⟨verified, granted.1⟩
  have clean := law.clean before [.message client msg env] after (by rw [split]; simp) ungranted
  have added := new_key_added client env waiting read presented new
  rw [authServer_snoc, authServer, added] at clean
  exact absurd clean (by simp)

/-- Failed handshakes leave no trace in exactly the runs in which every response with
a new key verifies and gets its result. -/
theorem no_trace_iff_new_keys_verify (events : List AuthEvent) :
    NoTrace crypto prost trusted events ↔
      Along (AuthServer.step crypto prost) (NewKeysVerify crypto prost)
        (.listen trusted) events := by
  constructor
  · exact new_keys_verify_of_no_trace crypto prost trusted
  · intro verify
    exact ⟨clean_of_new_keys_verify crypto prost trusted verify,
      earned_of_new_keys_verify crypto prost trusted verify⟩

section Example

private def unsignedResponse : HandshakeResponse := ⟨[], some ⟨"n", pointKey, pointThumbprint⟩⟩

private def unsignedEnv : AuthEnv := ⟨zeroToken, 0, "s", true⟩

/-- A key that has signed nothing is trusted after its failed handshake. -/
theorem failed_handshake_is_trusted :
    ¬ NoTrace pointCrypto topology [] [.message "c" (frame 1 [110]) unsignedEnv,
      .message "c" (frame 3 (topology.handshakeResponse.encode unsignedResponse)) unsignedEnv] := by
  intro law
  have fits : (topology.handshakeResponse.encode unsignedResponse).length < 4294967296 := by
    decide +kernel
  have read := decoded_frame topology.handshakeResponse 3 unsignedResponse fits
  have verify := (new_keys_verify_of_no_trace pointCrypto topology [] law).2.1
  have verified := (verify "c" _ unsignedEnv zeroToken [] unsignedResponse _ rfl rfl read
    rfl nofun).1
  have unread : pointCrypto.fromSlice [] = none := by simp [pointCrypto, pointSignature]
  cases (verifies_unread rfl unread zeroToken _).symm.trans verified

end Example

theorem reply_cases {s : AuthServer} {event : AuthEvent} {bytes : Bytes}
    (replied : s.reply crypto prost event = some bytes) :
    (∃ client msg env, event = .message client msg env ∧ isJoin msg = true ∧
      bytes = challengeFrame prost env) ∨
    ∃ x, s.completes crypto prost event = some x ∧ x.sent = true ∧
      bytes = resultFrame prost x.result := by
  unfold AuthServer.reply at replied
  split at replied
  next client msg env joining =>
    split at replied
    next sent =>
      cases replied
      exact Or.inl ⟨client, msg, env, rfl, (Bool.and_eq_true_iff.mp sent).1, rfl⟩
    next => cases replied
  next =>
    split at replied
    next x completed =>
      split at replied
      next sent =>
        cases replied
        exact Or.inr ⟨x, completed, sent, rfl⟩
      next => cases replied
    next => cases replied

theorem granted_own {before : List AuthEvent} {event : AuthEvent} {x : Exchange}
    (completed : (authServer crypto prost trusted before).completes crypto prost event = some x)
    (granted : x.Granted) :
    ∃ past client msg env identity, before = past ++ [.message client msg env] ∧
      (authServer crypto prost trusted past).phase = .awaitJoin ∧ isJoin msg = true ∧
      x.response.identity = some identity ∧
      verifies crypto env.token x.response.signature identity = true := by
  obtain ⟨past, client, msg, env, split, joining, joined, own, accepted⟩ := completed_own completed
  obtain ⟨identity, presented, verified⟩ := accepted.mp granted.2
  exact ⟨past, client, msg, env, identity, split, joining, joined, presented, own ▸ verified⟩

/-- Whatever the clients send, record and resend, every granted exchange is for a
signature of its own token. -/
theorem granted_exchanges_not_replayed (events : List AuthEvent) :
    NoReplay crypto prost trusted events := by
  constructor
  · intro before event after bytes split replied
    exact reply_cases crypto prost replied
  · intro before event after x split completed granted
    exact granted_own crypto prost trusted completed granted
  · intro distinct binds before event after x before' event' after' x' split split'
      completed completed'
      granted granted' same
    obtain ⟨past, client, msg, env, identity, rfl, joining, joined, _, verified⟩ :=
      granted_own crypto prost trusted completed granted
    obtain ⟨past', client', msg', env', identity', rfl, joining', joined', _, verified'⟩ :=
      granted_own crypto prost trusted completed' granted'
    have token : env.token = env'.token := binds _ _ _ _ _ verified (same ▸ verified')
    rw [split, List.append_assoc] at distinct
    rw [split, List.append_assoc, List.append_assoc] at split'
    have here := draws_join client env joining joined
    have there := draws_join client' env' joining' joined'
    rw [← token] at there
    have position := position_of_nodup distinct split' here there
    rw [position] at split' ⊢
    obtain ⟨join, _⟩ := List.cons.inj (List.append_cancel_left split')
    rw [join]

end Run

section Example

private def onesToken : Bytes := List.replicate 32 1

/-- The signature of the other token, made with the nonce 2. -/
private def onesSignature : Bytes :=
  [124, 242, 123, 24, 141, 3, 79, 126, 138, 82, 56, 3, 4, 181, 26, 195, 192, 137, 105, 226,
    119, 242, 27, 53, 166, 11, 72, 252, 71, 102, 153, 120, 8, 32, 11, 49, 40, 28, 84, 67, 132,
    82, 32, 182, 5, 27, 236, 223, 7, 111, 102, 233, 156, 161, 216, 33, 185, 236, 175, 235, 79,
    227, 42, 35]

private def twoTokens : Crypto where
  sha256 := pointCrypto.sha256
  VerifyingKey := Bytes
  Signature := Bytes
  fromSec1Bytes bytes := if bytes = pointKey then some bytes else none
  fromDer _ := none
  fromSlice bytes := if bytes = pointSignature ∨ bytes = onesSignature then some bytes else none
  verify key message signature := decide (key = pointKey ∧
    ((message = zeroToken ∧ signature = pointSignature) ∨
      (message = onesToken ∧ signature = onesSignature)))

private theorem twoTokens_verifies {signature token : Bytes} {identity : HardwareIdentity}
    (verified : verifies twoTokens token signature identity = true) :
    (token = zeroToken ∧ signature = pointSignature) ∨
      (token = onesToken ∧ signature = onesSignature) := by
  have verify (key : Bytes) (raw : Bytes) (accepted : twoTokens.verify key token raw = true) :
      (token = zeroToken ∧ raw = pointSignature) ∨ (token = onesToken ∧ raw = onesSignature) :=
    (of_decide_eq_true accepted).2
  have sliced (raw : Bytes) (read : twoTokens.fromSlice signature = some raw) :
      raw = signature := by
    simp only [twoTokens] at read
    split at read
    · exact (Option.some.inj read).symm
    · cases read
  cases parsed : twoTokens.fromSec1Bytes identity.ecdsaPublicKey with
  | none =>
    simp only [verifies, Crypto.verifyChallengeResponse, Hex.decode_encode, parsed] at verified
    cases verified
  | some key =>
    cases read : twoTokens.fromSlice signature with
    | none =>
      cases (verifies_unread rfl read token identity).symm.trans verified
    | some raw =>
      have same := sliced raw read
      rw [verifies_raw parsed rfl read token] at verified
      rw [← same]
      exact verify key raw verified

private theorem twoTokens_bind : BindsToken twoTokens := by
  intro signature identity identity' token token' verified verified'
  rcases twoTokens_verifies verified with ⟨rfl, rfl⟩ | ⟨rfl, rfl⟩
  · rcases twoTokens_verifies verified' with ⟨rfl, _⟩ | ⟨_, other⟩
    · rfl
    · exact absurd other (by decide)
  · rcases twoTokens_verifies verified' with ⟨_, other⟩ | ⟨rfl, _⟩
    · exact absurd other (by decide)
    · rfl

private def joinOver (token : Bytes) : AuthEvent :=
  .message "c" (frame 1 [110]) ⟨token, 0, "s", true⟩

private def answerWith (signature : Bytes) : AuthEvent :=
  .message "c" (frame 3 (topology.handshakeResponse.encode
    ⟨signature, some ⟨"n", pointKey, pointThumbprint⟩⟩)) ⟨zeroToken, 0, "s", true⟩

private def twoExchanges : List AuthEvent :=
  [joinOver zeroToken, answerWith pointSignature, joinOver onesToken, answerWith onesSignature]

private def grants (before : List AuthEvent) (event : AuthEvent) : Bool :=
  ((authServer twoTokens topology [] before).completes twoTokens topology event).any fun x =>
    x.sent && x.result.authenticated

private theorem granted_of_grants {before : List AuthEvent} {event : AuthEvent}
    (grant : grants before event = true) :
    ∃ x, (authServer twoTokens topology [] before).completes twoTokens topology event = some x ∧
      x.Granted := by
  obtain ⟨x, completed, granted⟩ := (Option.any_eq_true _ _).mp grant
  exact ⟨x, completed, Bool.and_eq_true_iff.mp granted⟩

/-- Both exchanges are granted, for two signatures. -/
theorem two_exchanges_not_replayed :
    (drawn twoTokens topology [] twoExchanges).Nodup ∧ BindsToken twoTokens ∧ ∃ x x',
      (authServer twoTokens topology [] (twoExchanges.take 1)).completes twoTokens topology
        (answerWith pointSignature) = some x ∧
      (authServer twoTokens topology [] (twoExchanges.take 3)).completes twoTokens topology
        (answerWith onesSignature) = some x' ∧
      x.Granted ∧ x'.Granted ∧ x.response.signature ≠ x'.response.signature := by
  have distinct : (drawn twoTokens topology [] twoExchanges).Nodup := by decide +kernel
  obtain ⟨x, completed, granted⟩ := granted_of_grants
    (by decide +kernel : grants (twoExchanges.take 1) (answerWith pointSignature) = true)
  obtain ⟨x', completed', granted'⟩ := granted_of_grants
    (by decide +kernel : grants (twoExchanges.take 3) (answerWith onesSignature) = true)
  refine ⟨distinct, twoTokens_bind, x, x', completed, completed', granted, granted', ?_⟩
  intro same
  have replayed := (granted_exchanges_not_replayed twoTokens topology [] twoExchanges).once distinct
    twoTokens_bind _ _ _ x _ _ _ x' rfl rfl completed completed' granted granted' same
  cases replayed

end Example

end SeamlessSwarm
