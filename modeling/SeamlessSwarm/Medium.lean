import Mathlib.Data.List.Dedup
import SeamlessSwarm.Dispatch
import SeamlessSwarm.Resume

/-! The medium server: status requests and task submissions, both guarded by an
access key that must only not be empty. -/
namespace SeamlessSwarm
open Proto3 Trace

structure SwarmStatusRequest where
  accessKey : String
  deriving DecidableEq, Inhabited

structure SwarmStatusResponse where
  authorized : Bool
  nodeCount : Int32
  availableCapabilities : List String
  message : String
  deriving DecidableEq

structure TaskSubmitRequest where
  accessKey : String
  taskName : String
  category : Int32
  requiredCapabilities : List String
  payload : Bytes
  deriving DecidableEq

structure TaskSubmitResponse where
  accepted : Bool
  taskId : String
  message : String
  deriving DecidableEq

def swarmStatusRequest : Codec SwarmStatusRequest :=
  .ofColumns
    (fun m => [(1, Kind.string.emit m.accessKey)])
    (fun fields => do
      let accessKey ← Kind.string.read (column 1 fields)
      pure ⟨accessKey⟩)
    (fun m => by simp)
    (fun m small => by
      simp only [List.forall_mem_cons] at small
      obtain ⟨key, _⟩ := small
      simp [Kind.read_emit _ _ key])

def swarmStatusResponse : Codec SwarmStatusResponse :=
  .ofColumns
    (fun m => [(1, Kind.bool.emit m.authorized), (2, Kind.int32.emit m.nodeCount),
      (3, Kind.strings.emit m.availableCapabilities), (4, Kind.string.emit m.message)])
    (fun fields => do
      let authorized ← Kind.bool.read (column 1 fields)
      let nodeCount ← Kind.int32.read (column 2 fields)
      let availableCapabilities ← Kind.strings.read (column 3 fields)
      let message ← Kind.string.read (column 4 fields)
      pure ⟨authorized, nodeCount, availableCapabilities, message⟩)
    (fun m => by simp)
    (fun m small => by
      simp only [List.forall_mem_cons] at small
      obtain ⟨authorized, count, capabilities, message, _⟩ := small
      simp [Kind.read_emit _ _ authorized, Kind.read_emit _ _ count,
        Kind.read_emit _ _ capabilities,
        Kind.read_emit _ _ message])

def taskSubmitRequest : Codec TaskSubmitRequest :=
  .ofColumns
    (fun m => [(1, Kind.string.emit m.accessKey), (2, Kind.string.emit m.taskName),
      (3, Kind.int32.emit m.category), (4, Kind.strings.emit m.requiredCapabilities),
      (5, Kind.bytes.emit m.payload)])
    (fun fields => do
      let accessKey ← Kind.string.read (column 1 fields)
      let taskName ← Kind.string.read (column 2 fields)
      let category ← Kind.int32.read (column 3 fields)
      let requiredCapabilities ← Kind.strings.read (column 4 fields)
      let payload ← Kind.bytes.read (column 5 fields)
      pure ⟨accessKey, taskName, category, requiredCapabilities, payload⟩)
    (fun m => by simp)
    (fun m small => by
      simp only [List.forall_mem_cons] at small
      obtain ⟨key, name, category, required, payload, _⟩ := small
      simp [Kind.read_emit _ _ key, Kind.read_emit _ _ name, Kind.read_emit _ _ category,
        Kind.read_emit _ _ required, Kind.read_emit _ _ payload])

def taskSubmitResponse : Codec TaskSubmitResponse :=
  .ofColumns
    (fun m => [(1, Kind.bool.emit m.accepted), (2, Kind.string.emit m.taskId),
      (3, Kind.string.emit m.message)])
    (fun fields => do
      let accepted ← Kind.bool.read (column 1 fields)
      let taskId ← Kind.string.read (column 2 fields)
      let message ← Kind.string.read (column 3 fields)
      pure ⟨accepted, taskId, message⟩)
    (fun m => by simp)
    (fun m small => by
      simp only [List.forall_mem_cons] at small
      obtain ⟨accepted, id, message, _⟩ := small
      simp [Kind.read_emit _ _ accepted, Kind.read_emit _ _ id, Kind.read_emit _ _ message])

/-- The generated codecs of the medium interface. -/
structure MediumProst where
  swarmStatusRequest : Codec SwarmStatusRequest
  swarmStatusResponse : Codec SwarmStatusResponse
  taskSubmitRequest : Codec TaskSubmitRequest
  taskSubmitResponse : Codec TaskSubmitResponse

def mediumTopology : MediumProst where
  swarmStatusRequest := swarmStatusRequest
  swarmStatusResponse := swarmStatusResponse
  taskSubmitRequest := taskSubmitRequest
  taskSubmitResponse := taskSubmitResponse

/-- A random UUID: 122 bits are free, four name the version and two the variant. -/
structure UuidV4 where
  bytes : Bytes
  length : bytes.length = 16
  version : bytes[6].toNat / 16 = 4
  variant : bytes[8].toNat / 64 = 2
  deriving DecidableEq

def UuidV4.text (uuid : UuidV4) : Bytes :=
  Hex.encodeBytes (uuid.bytes.take 4) ++ 45 :: Hex.encodeBytes ((uuid.bytes.drop 4).take 2) ++
    45 :: Hex.encodeBytes ((uuid.bytes.drop 6).take 2) ++
    45 :: Hex.encodeBytes ((uuid.bytes.drop 8).take 2) ++ 45 :: Hex.encodeBytes (uuid.bytes.drop 10)

/-- The task id keeps the first eight characters. -/
def mediumTaskId (uuid : UuidV4) : String := "medium-" ++ Hex.asciiString (uuid.text.take 8)

def submittedType (category : Int32) : TaskType :=
  if category = 1 then .statefulLongRunning
  else if category = 2 then .interactiveLowLatency
  else .statelessIdempotent

def submittedTask (taskId : String) (req : TaskSubmitRequest) : Task :=
  (Task.new taskId (submittedType req.category) req.payload 3).withCapabilities
    req.requiredCapabilities

/-- The names of all capabilities of all nodes, each once and in order. -/
def availableCapabilities (registry : EphemeralRegistry) : List String :=
  (registry.listNodes.flatMap fun n => n.capabilities.map Capability.name).dedup.mergeSort
    fun a b => decide (a ≤ b)

def statusResponse (registry : EphemeralRegistry) (req : SwarmStatusRequest) :
    SwarmStatusResponse :=
  let authorized := !req.accessKey.isEmpty
  { authorized := authorized
    nodeCount := Int32.ofNat registry.listNodes.length
    availableCapabilities := availableCapabilities registry
    message := if authorized then "Access granted" else "Invalid access key" }

inductive MediumAnswer where
  | acknowledged
  | status (response : SwarmStatusResponse)
  | refused (response : TaskSubmitResponse)
  | accepted (taskId : String) (req : TaskSubmitRequest) (response : TaskSubmitResponse)
  deriving DecidableEq

section Server
variable (prost : Prost) (medium : MediumProst)

/-- What one message is answered with; `none` is a panic. -/
def mediumAnswer (registry : EphemeralRegistry) (uuid : UuidV4) (msg : Bytes) :
    Option MediumAnswer :=
  match readMedium msg with
  | .panic => none
  | .reject => some .acknowledged
  | .accept (msgType, payload) =>
    if msgType = 10 then
      match medium.swarmStatusRequest.decode payload with
      | none => some .acknowledged
      | some req => some (.status (statusResponse registry req))
    else
      match medium.taskSubmitRequest.decode payload with
      | none => some .acknowledged
      | some req =>
        if req.accessKey.isEmpty then some (.refused ⟨false, "", "Invalid access key"⟩)
        else
          let taskId := mediumTaskId uuid
          some (.accepted taskId req ⟨true, taskId, "Task queued for dispatch to swarm"⟩)

def MediumAnswer.reply : MediumAnswer → Bytes
  | acknowledged => [0, 0, 0, 0, 0]
  | status response => frame 11 (medium.swarmStatusResponse.encode response)
  | refused response => frame 13 (medium.taskSubmitResponse.encode response)
  | accepted _ _ response => frame 13 (medium.taskSubmitResponse.encode response)

/-- One turn of `run_medium_server`: the scheduler after it, the pushes and the reply. -/
def mediumTurn (socket : PushSocket) (s : ProfileScheduler) (uuid : UuidV4) (currentTime : Nat)
    (msg : Bytes) : Option (ProfileScheduler × List PushAttempt × Bytes) :=
  (mediumAnswer medium s.registry uuid msg).map fun answer =>
    match answer with
    | .accepted taskId req _ =>
      let out := dispatchNow prost socket (s.submitTask (submittedTask taskId req)) currentTime
      (out.1, out.2, answer.reply medium)
    | _ => (s, [], answer.reply medium)

end Server

theorem mediumAnswer_submission (medium : MediumProst) (registry : EphemeralRegistry)
    (uuid : UuidV4)
    {msg payload : Bytes} {req : TaskSubmitRequest} (read : readMedium msg = .accept (12, payload))
    (decoded : medium.taskSubmitRequest.decode payload = some req)
    (keyed : req.accessKey.isEmpty = false) :
    mediumAnswer medium registry uuid msg = some (.accepted (mediumTaskId uuid) req
      ⟨true, mediumTaskId uuid, "Task queued for dispatch to swarm"⟩) := by
  have other : (12 : UInt8) ≠ 10 := by decide
  simp only [mediumAnswer, read, other, if_false, decoded, keyed, Bool.false_eq_true]

theorem readMedium_frame {msgType : UInt8} (known : msgType ∈ FrameReader.medium.types)
    (payload : Bytes)
    (fits : payload.length < 4294967296) :
    readMedium (frame msgType payload) = .accept (msgType, payload) := by
  have read := read_eq .medium (frame msgType payload)
  rw [header_frame, Nat.mod_eq_of_lt fits] at read
  simpa only [FrameReader.read, known, if_true, Nat.lt_irrefl, if_false,
    List.take_length] using read

theorem submission_accepted (medium : MediumProst) (registry : EphemeralRegistry) (uuid : UuidV4)
    (req : TaskSubmitRequest) (fits : (medium.taskSubmitRequest.encode req).length < 4294967296)
    (keyed : req.accessKey.isEmpty = false) :
    mediumAnswer medium registry uuid (frame 12 (medium.taskSubmitRequest.encode req)) =
      some (.accepted (mediumTaskId uuid) req
        ⟨true, mediumTaskId uuid, "Task queued for dispatch to swarm"⟩) :=
  mediumAnswer_submission medium registry uuid (readMedium_frame (by decide) _ fits)
    (medium.taskSubmitRequest.decode_encode req fits) keyed

/-! Runs of the medium server among the other users of the scheduler. The pass
after a submission is a call of its own, since other calls may come in between. -/

structure Accepted where
  uuid : UuidV4
  taskId : String
  req : TaskSubmitRequest
  deriving DecidableEq

structure MediumHub where
  scheduler : ProfileScheduler
  receiving : Bool
  accepted : List Accepted
  deriving DecidableEq

inductive MediumEvent where
  | receive (uuid : UuidV4) (msg : Bytes)
  | timedOut
  | failed
  | call (c : SchedulerCall)
  deriving DecidableEq

namespace MediumHub
variable (medium : MediumProst)

def start (registry : EphemeralRegistry) : MediumHub := ⟨.new registry, true, []⟩

/-- Tasks are submitted by the medium server only. -/
def step (s : MediumHub) : MediumEvent → MediumHub
  | .receive uuid msg =>
    if s.receiving then
      match mediumAnswer medium s.scheduler.registry uuid msg with
      | none => { s with receiving := false }
      | some (.accepted taskId req _) =>
        { s with
          scheduler := s.scheduler.submitTask (submittedTask taskId req)
          accepted := s.accepted ++ [⟨uuid, taskId, req⟩] }
      | some _ => s
    else s
  | .timedOut => s
  | .failed => { s with receiving := false }
  | .call (.submitTask ..) => s
  | .call c => { s with scheduler := s.scheduler.call c }

end MediumHub

/-- The events of a turn: the message and, if it was accepted, a pass. -/
def turnEvents (uuid : UuidV4) (now : Nat) (msg : Bytes) : MediumAnswer → List MediumEvent
  | .accepted _ _ _ => [.receive uuid msg, .call (.dispatchPendingTasks now)]
  | _ => [.receive uuid msg]

theorem mediumTurn_run (prost : Prost) (medium : MediumProst) (socket : PushSocket) (s : MediumHub)
    (receiving : s.receiving = true) (uuid : UuidV4) (now : Nat) (msg : Bytes)
    {answer : MediumAnswer}
    (answered : mediumAnswer medium s.scheduler.registry uuid msg = some answer) :
    (mediumTurn prost medium socket s.scheduler uuid now msg).map Prod.fst =
      some (run (MediumHub.step medium) s (turnEvents uuid now msg answer)).scheduler := by
  unfold mediumTurn
  rw [answered]
  cases answer with
  | accepted taskId req response =>
    simp only [turnEvents, run_cons, run_nil, MediumHub.step, receiving, if_true, answered]
    rfl
  | _ => simp only [turnEvents, run_cons, run_nil, MediumHub.step, receiving, if_true, answered,
      Option.map_some]

end SeamlessSwarm
