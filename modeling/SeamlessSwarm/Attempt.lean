import SeamlessSwarm.Availability
import SeamlessSwarm.Receivers
import SeamlessSwarm.Session

/-! A worker's way into the swarm, socket by socket: handshake attempts until one succeeds,
then the profile, then the task socket. How long it sleeps between attempts is left out. -/
namespace SeamlessSwarm
open Trace

/-- How far `run_demo_lifecycle` is; `session` is the token it was given. -/
inductive WorkerPhase where
  | dialing
  | joining
  | answering (token : Bytes)
  | backingOff
  | profiling (session : String)
  | pulling (session : String)
  | serving (session : String)
  | returned (e : String)
  | panicked
  deriving DecidableEq

inductive WorkerInput where
  | dialed (error : Option String)
  | exchanged (result : Exchanged)
  | woke
  | pushed (error : Option String) (osPlatform : String) (now : UInt64)

/-- `errors` are those of the failed attempts, `profiles` the frames that were pushed;
`challenges` are the tokens of the challenges, which the code does not keep. -/
structure Worker where
  phase : WorkerPhase
  errors : List String
  profiles : List Bytes
  challenges : List Bytes
  deriving DecidableEq

/-- A reply is decoded after its length, its type and the slice, which may panic. -/
def takeReply {M : Type} (expected : UInt8) (short wrong undecoded : String)
    (describe : Bytes → String)
    (codec : Proto3.Codec M) (reply : Bytes) : Option (Except String M) :=
  match header reply with
  | none => some (.error short)
  | some (len, msgType, body) =>
    if msgType ≠ expected then some (.error (wrong ++ toString msgType.toNat))
    else if body.length < len then none
    else
      match codec.decode (body.take len) with
      | none => some (.error (undecoded ++ describe (body.take len)))
      | some message => some (.ok message)

section Attempt
variable (prost : Prost) (describe : Bytes → String)

def takeChallenge : Bytes → Option (Except String HandshakeChallenge) :=
  takeReply 2 "Invalid frame" "Expected challenge (2), got " "Decode challenge: " describe
    prost.handshakeChallenge

def takeResult : Bytes → Option (Except String HandshakeResult) :=
  takeReply 4 "Invalid result frame" "Expected result (4), got " "Decode result: " describe
    prost.handshakeResult

namespace Worker

def start : Worker := ⟨.dialing, [], [], []⟩

def goTo (w : Worker) (phase : WorkerPhase) : Worker := { w with phase := phase }

/-- The attempt has returned an error; the worker sleeps before the next one. -/
def failAttempt (w : Worker) (e : String) : Worker :=
  { w with phase := .backingOff, errors := w.errors ++ [e] }

def note (w : Worker) (token : Bytes) : Worker := { w with challenges := w.challenges ++ [token] }

def challenged (w : Worker) : Exchanged → Worker
  | .sendFailed e => w.failAttempt e
  | .received (.error e) => w.failAttempt e
  | .received (.ok reply) =>
    match takeChallenge prost describe reply with
    | none => w.goTo .panicked
    | some (.error e) => w.failAttempt e
    | some (.ok challenge) =>
      (w.note challenge.highEntropyToken).goTo (.answering challenge.highEntropyToken)

def judged (w : Worker) : Exchanged → Worker
  | .sendFailed e => w.failAttempt e
  | .received (.error e) => w.failAttempt e
  | .received (.ok reply) =>
    match takeResult prost describe reply with
    | none => w.goTo .panicked
    | some (.error e) => w.failAttempt e
    | some (.ok result) =>
      if !result.authenticated then w.failAttempt ("Auth failed: " ++ result.message)
      else w.goTo (.profiling result.sessionToken)

variable {prost} (client : Client prost) (capabilities : List DeviceCapability)

def step (w : Worker) (input : WorkerInput) : Worker :=
  match w.phase, input with
  | .dialing, .dialed (some e) => w.failAttempt e
  | .dialing, .dialed none => w.goTo .joining
  | .joining, .exchanged result => w.challenged prost describe result
  | .answering _, .exchanged result => w.judged prost describe result
  | .backingOff, .woke => w.goTo .dialing
  | .profiling _, .pushed (some e) _ _ => w.goTo (.returned e)
  | .profiling session, .pushed none osPlatform now =>
    { w.goTo (.pulling session) with
      profiles := w.profiles ++ [profileFrame prost ⟨client.nodeId, osPlatform, capabilities, now⟩]
        }
  | .pulling _, .dialed (some e) => w.goTo (.returned e)
  | .pulling session, .dialed none => w.goTo (.serving session)
  | _, _ => w

def request (w : Worker) : Option Bytes :=
  match w.phase with
  | .joining => some client.joinFrame
  | .answering token => some (client.responseFrame token)
  | _ => none

end Worker
end Attempt

def WorkerPhase.session : WorkerPhase → Option String
  | profiling session | pulling session | serving session => some session
  | _ => none

theorem takeReply_frame {M : Type} {expected : UInt8} (short wrong undecoded : String)
    (describe : Bytes → String) (codec : Proto3.Codec M) {message : M}
    (fits : (codec.encode message).length < 4294967296) :
    takeReply expected short wrong undecoded describe codec
      (frame expected (codec.encode message)) =
      some (.ok message) := by
  have decoded := codec.decode_encode message fits
  simp only [takeReply, header_frame, Nat.mod_eq_of_lt fits, ne_eq, not_true_eq_false, if_false,
    Nat.lt_irrefl, List.take_length, decoded]

section Taken
variable {prost : Prost} (describe : Bytes → String) (client : Client prost)
  (capabilities : List DeviceCapability) (w : Worker) {reply : Bytes}

theorem joining_answered (joining : w.phase = .joining) {challenge : HandshakeChallenge}
    (taken : takeChallenge prost describe reply = some (.ok challenge)) :
    w.step describe client capabilities (.exchanged (.received (.ok reply))) =
      (w.note challenge.highEntropyToken).goTo (.answering challenge.highEntropyToken) := by
  simp only [Worker.step, joining, Worker.challenged, taken]

theorem answering_answered {token : Bytes} (answering : w.phase = .answering token)
    {result : HandshakeResult} (taken : takeResult prost describe reply = some (.ok result)) :
    w.step describe client capabilities (.exchanged (.received (.ok reply))) =
      if result.authenticated then w.goTo (.profiling result.sessionToken)
      else w.failAttempt ("Auth failed: " ++ result.message) := by
  simp only [Worker.step, answering, Worker.judged, taken]
  cases result.authenticated <;> rfl

end Taken

end SeamlessSwarm
