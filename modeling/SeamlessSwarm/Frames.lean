import SeamlessSwarm.Messages

/-! The frame format and its readers. A frame is a big-endian 32-bit payload
length, a message type byte and the payload. The hub and the worker slice the
payload off without looking at the length of the message; an out-of-range slice
panics. The medium tool and the older receiver compare the two lengths first. -/
namespace SeamlessSwarm
open BigEndian

inductive Read (α : Type) where
  | panic
  | reject
  | accept (a : α)
  deriving DecidableEq, Repr

def frame (msgType : UInt8) (payload : Bytes) : Bytes :=
  toBeBytes payload.length ++ msgType :: payload

/-- Declared length, type byte and what follows; `none` below five bytes. -/
def header : Bytes → Option (Nat × UInt8 × Bytes)
  | a :: b :: c :: d :: msgType :: body => some (fromBeBytes a b c d, msgType, body)
  | _ => none

/-- `&slice[5..5 + len]`, where `body` is the message from its fifth byte on. -/
def slicePayload (body : Bytes) (len : Nat) : Read Bytes :=
  if body.length < len then .panic else .accept (body.take len)

/-- The readers of the hub and the worker: only the type byte is checked. -/
def readExpecting (msgType : UInt8) (msg : Bytes) : Read (UInt8 × Bytes) :=
  match header msg with
  | none => .reject
  | some (len, found, body) =>
    if found ≠ msgType then .reject
    else match slicePayload body len with
      | .accept payload => .accept (found, payload)
      | .reject => .reject
      | .panic => .panic

def readAuthResponse (msg : Bytes) : Read (UInt8 × Bytes) := readExpecting 3 msg

def readHeartbeat (msg : Bytes) : Read (UInt8 × Bytes) := readExpecting 5 msg

def readProgress (msg : Bytes) : Read (UInt8 × Bytes) := readExpecting 7 msg

def readChallenge (msg : Bytes) : Read (UInt8 × Bytes) := readExpecting 2 msg

def readHandshakeResult (msg : Bytes) : Read (UInt8 × Bytes) := readExpecting 4 msg

def readTask (msg : Bytes) : Read (UInt8 × Bytes) := readExpecting 6 msg

/-- The medium server slices in two branches, status requests and submissions;
every other message gets the empty acknowledgement. -/
def readMedium (msg : Bytes) : Read (UInt8 × Bytes) :=
  match header msg with
  | none => .reject
  | some (_, 10, _) => readExpecting 10 msg
  | some (_, 12, _) => readExpecting 12 msg
  | some _ => .reject

def recvFramed (msg : Bytes) : Except String (UInt8 × Bytes) :=
  match header msg with
  | none => .error "Frame too short"
  | some (len, msgType, body) =>
    if body.length < len then .error "Truncated frame" else .ok (msgType, body.take len)

/-- The length-checked reader of `NngServer::start`, which only logs what it refuses. -/
def nngServerRead (msg : Bytes) : Option (UInt8 × Bytes) :=
  match header msg with
  | none => none
  | some (payloadLen, msgTypeRaw, body) =>
    if body.length < payloadLen then none else some (msgTypeRaw, body.take payloadLen)

inductive CheckedReader where
  | recvFramed
  | nngServer
  deriving DecidableEq, Repr

def CheckedReader.read : CheckedReader → Bytes → Option (UInt8 × Bytes)
  | recvFramed, msg => (SeamlessSwarm.recvFramed msg).toOption
  | nngServer, msg => nngServerRead msg

inductive FrameReader where
  | authResponse
  | heartbeat
  | medium
  | progress
  | challenge
  | handshakeResult
  | task
  deriving DecidableEq, Repr

namespace FrameReader

def read : FrameReader → Bytes → Read (UInt8 × Bytes)
  | authResponse => readAuthResponse
  | heartbeat => readHeartbeat
  | medium => readMedium
  | progress => readProgress
  | challenge => readChallenge
  | handshakeResult => readHandshakeResult
  | task => readTask

def types : FrameReader → List UInt8
  | authResponse => [3]
  | heartbeat => [5]
  | medium => [10, 12]
  | progress => [7]
  | challenge => [2]
  | handshakeResult => [4]
  | task => [6]

/-- One turn of the loop around a reader: a rejected message leaves the state,
an accepted one is processed, a panic ends the loop. -/
def turn (r : FrameReader) {σ : Type} (process : σ → UInt8 × Bytes → σ) (s : σ) (msg : Bytes) :
    Option σ :=
  match r.read msg with
  | .panic => none
  | .reject => some s
  | .accept payload => some (process s payload)

def checkedTurn (r : FrameReader) (checked : CheckedReader) {σ : Type}
    (process : σ → UInt8 × Bytes → σ) (s : σ) (msg : Bytes) : Option σ :=
  match checked.read msg with
  | none => some s
  | some (msgType, payload) =>
    if msgType ∈ r.types then some (process s (msgType, payload)) else some s

end FrameReader

/-- A reader is safe on a message: it does not index past the end, what it
accepts is the declared payload and is all there, and its loop behaves like the
loop of the length-checked readers, whatever the state is and is used for. -/
structure ReadsSafely (r : FrameReader) (msg : Bytes) : Prop where
  inBounds : r.read msg ≠ .panic
  exact : ∀ msgType payload, r.read msg = .accept (msgType, payload) →
    ∃ body, header msg = some (payload.length, msgType, body) ∧ payload <+: body
  agrees : ∀ (checked : CheckedReader) (σ : Type) (process : σ → UInt8 × Bytes → σ) (s : σ),
    r.turn process s msg = r.checkedTurn checked process s msg

/-- A message of a type the reader decodes that declares more than it carries. -/
def Overdeclared (r : FrameReader) (msg : Bytes) : Prop :=
  ∃ len msgType body, header msg = some (len, msgType, body) ∧ msgType ∈ r.types ∧ body.length < len

theorem readExpecting_eq (expected : UInt8) (msg : Bytes) :
    readExpecting expected msg =
      match header msg with
      | none => .reject
      | some (len, msgType, body) =>
        if msgType = expected then
          if body.length < len then .panic else .accept (msgType, body.take len)
        else .reject := by
  unfold readExpecting slicePayload
  cases header msg with
  | none => rfl
  | some parts =>
    obtain ⟨len, msgType, body⟩ := parts
    by_cases known : msgType = expected
    · by_cases short : body.length < len <;> simp [known, short]
    · simp [known]

theorem read_eq (r : FrameReader) (msg : Bytes) :
    r.read msg =
      match header msg with
      | none => .reject
      | some (len, msgType, body) =>
        if msgType ∈ r.types then
          if body.length < len then .panic else .accept (msgType, body.take len)
        else .reject := by
  cases r with
  | medium =>
    simp only [FrameReader.read, readMedium, readExpecting_eq, FrameReader.types]
    cases header msg with
    | none => rfl
    | some parts =>
      obtain ⟨len, msgType, body⟩ := parts
      by_cases status : msgType = 10
      · simp [status]
      · by_cases submit : msgType = 12
        · simp [submit]
        · simp [status, submit]
  | _ =>
    simp only [FrameReader.read, readAuthResponse, readHeartbeat, readProgress, readChallenge,
      readHandshakeResult, readTask, readExpecting_eq, FrameReader.types, List.mem_singleton]

theorem read_panic_iff (r : FrameReader) (msg : Bytes) : r.read msg = .panic ↔
    Overdeclared r msg := by
  rw [read_eq]
  constructor
  · intro panicked
    split at panicked
    next => cases panicked
    next len msgType body parts =>
      split at panicked
      next known =>
        split at panicked
        next short => exact ⟨len, msgType, body, parts, known, short⟩
        next => cases panicked
      next => cases panicked
  · rintro ⟨len, msgType, body, parts, known, short⟩
    simp only [parts, known, short, if_true]

theorem checked_read_eq (checked : CheckedReader) (msg : Bytes) :
    checked.read msg =
      match header msg with
      | none => none
      | some (len, msgType, body) =>
        if body.length < len then none else some (msgType, body.take len) := by
  cases checked with
  | recvFramed =>
    simp only [CheckedReader.read, recvFramed]
    cases header msg with
    | none => rfl
    | some parts =>
      obtain ⟨len, msgType, body⟩ := parts
      by_cases short : body.length < len
      · simp [short]
        rfl
      · simp [short]
        rfl
  | nngServer => rfl

theorem checkedTurn_eq (r : FrameReader) (checked : CheckedReader) {σ : Type}
    (process : σ → UInt8 × Bytes → σ) (s : σ) (msg : Bytes) :
    r.checkedTurn checked process s msg =
      match header msg with
      | none => some s
      | some (len, msgType, body) =>
        if msgType ∈ r.types ∧ ¬ body.length < len then some (process s (msgType, body.take len))
        else some s := by
  unfold FrameReader.checkedTurn
  rw [checked_read_eq]
  cases header msg with
  | none => rfl
  | some parts =>
    obtain ⟨len, msgType, body⟩ := parts
    by_cases short : body.length < len
    · simp [short]
    · by_cases known : msgType ∈ r.types <;> simp [short, known]

/-- Every reader is safe on exactly the messages that do not declare, under a
type it decodes, more payload than they carry. -/
theorem reads_safely_iff_not_overdeclared (r : FrameReader) (msg : Bytes) :
    ReadsSafely r msg ↔ ¬ Overdeclared r msg := by
  constructor
  · intro safe overdeclared
    exact safe.inBounds ((read_panic_iff r msg).mpr overdeclared)
  · intro honest
    have fits : ∀ len msgType body, header msg = some (len, msgType, body) → msgType ∈ r.types →
        ¬ body.length < len :=
      fun len msgType body parts known short => honest ⟨len, msgType, body, parts, known, short⟩
    constructor
    · exact fun panicked => honest ((read_panic_iff r msg).mp panicked)
    · intro msgType payload accepted
      rw [read_eq] at accepted
      cases parts : header msg with
      | none => rw [parts] at accepted; cases accepted
      | some fields =>
        obtain ⟨len, found, body⟩ := fields
        rw [parts] at accepted
        by_cases known : found ∈ r.types
        · have enough := fits len found body parts known
          simp only [known, enough, if_true, if_false] at accepted
          cases accepted
          have length : (body.take len).length = len := by
            rw [List.length_take]
            omega
          exact ⟨body, by rw [length], List.take_prefix len body⟩
        · simp [known] at accepted
    · intro checked σ process s
      rw [checkedTurn_eq, FrameReader.turn, read_eq]
      cases parts : header msg with
      | none => rfl
      | some fields =>
        obtain ⟨len, msgType, body⟩ := fields
        by_cases known : msgType ∈ r.types
        · simp [known, fits len msgType body parts known]
        · simp [known]

theorem overdeclared_heartbeat_panics : ¬ ReadsSafely .heartbeat [0, 0, 0, 1, 5] := by
  intro safe
  exact safe.inBounds (by decide)

theorem header_frame_append (msgType : UInt8) (body rest : Bytes) :
    header (frame msgType body ++ rest) =
      some (body.length % 4294967296, msgType, body ++ rest) := by
  simp only [frame, toBeBytes, List.cons_append, List.nil_append, header, fromBeBytes_toBeBytes]

theorem header_frame (msgType : UInt8) (payload : Bytes) :
    header (frame msgType payload) = some (payload.length % 4294967296, msgType, payload) := by
  have whole := header_frame_append msgType payload []
  rwa [List.append_nil, List.append_nil] at whole

theorem frame_eq {msgType msgType' : UInt8} {payload payload' : Bytes}
    (same : frame msgType payload = frame msgType' payload') : msgType = msgType' ∧
    payload = payload' := by
  have read := congrArg header same
  rw [header_frame, header_frame] at read
  exact ⟨(Prod.mk.inj (Prod.mk.inj (Option.some.inj read)).2).1,
    (Prod.mk.inj (Prod.mk.inj (Option.some.inj read)).2).2⟩

theorem payload_fits {msgType : UInt8} {payload : Bytes}
    (fits : (frame msgType payload).length < 4294967301) :
    payload.length < 4294967296 := by
  simp only [frame, List.length_append, List.length_cons, BigEndian.toBeBytes,
    List.length_nil] at fits
  omega

theorem readExpecting_frame (msgType : UInt8) (payload : Bytes)
    (fits : payload.length < 4294967296) :
    readExpecting msgType (frame msgType payload) = .accept (msgType, payload) := by
  rw [readExpecting_eq, header_frame, Nat.mod_eq_of_lt fits]
  simp

/-- What the loop around a reader goes on with. A payload that does not decode is
logged or answered and then dropped. -/
def Read.decoded {M : Type} (codec : Proto3.Codec M) : Read (UInt8 × Bytes) → Read M
  | .panic => .panic
  | .reject => .reject
  | .accept (_, payload) =>
    match codec.decode payload with
    | some message => .accept message
    | none => .reject

theorem decoded_frame {M : Type} (codec : Proto3.Codec M) (msgType : UInt8) (message : M)
    (fits : (codec.encode message).length < 4294967296) :
    (readExpecting msgType (frame msgType (codec.encode message))).decoded codec =
    .accept message := by
  rw [readExpecting_frame msgType _ fits]
  simp only [Read.decoded, codec.decode_encode message fits]

end SeamlessSwarm
