import SeamlessSwarm.Lib.Proto3

/-! The messages of `topology.proto` as the generated code holds them, and the
encoders and decoders generated for them, which are parameters of the model. -/
namespace SeamlessSwarm

/-- A binary32 by its bits. Encoding drops a zero whatever its sign, so the
negative zero is left out. -/
abbrev F32 := { bits : UInt32 // bits ≠ 2147483648 }

def F32.ofBits (bits : UInt32) (h : bits ≠ 2147483648 := by decide) : F32 := ⟨bits, h⟩

theorem F32.zero_ne : (0 : UInt32) ≠ 2147483648 := by decide

instance : Inhabited F32 := ⟨F32.ofBits 0 F32.zero_ne⟩

inductive TaskCategory where
  | statelessIdempotent
  | statefulLongRunning
  | interactiveLowLatency
  deriving DecidableEq, Repr

def TaskCategory.toI32 : TaskCategory → Int32
  | .statelessIdempotent => 0
  | .statefulLongRunning => 1
  | .interactiveLowLatency => 2

inductive TaskStatus where
  | pending
  | running
  | completed
  | failed
  deriving DecidableEq, Repr

def TaskStatus.toI32 : TaskStatus → Int32
  | .pending => 0
  | .running => 1
  | .completed => 2
  | .failed => 3

structure HardwareIdentity where
  nodeUuid : String
  ecdsaPublicKey : Bytes
  staticThumbprint : Bytes
  deriving DecidableEq, Inhabited

structure HandshakeChallenge where
  highEntropyToken : Bytes
  timestamp : UInt64
  deriving DecidableEq, Inhabited

structure HandshakeResponse where
  signature : Bytes
  identity : Option HardwareIdentity
  deriving DecidableEq, Inhabited

structure HandshakeResult where
  authenticated : Bool
  sessionToken : String
  message : String
  deriving DecidableEq, Inhabited

inductive ResourceValue where
  | intVal (i : Int64)
  | doubleVal (bits : UInt64)
  | stringVal (s : String)
  | boolVal (b : Bool)
  deriving DecidableEq

structure DeviceCapability where
  resourceName : String
  valueType : String
  resourceValue : Option ResourceValue
  deriving DecidableEq, Inhabited

structure CapabilityProfile where
  nodeId : String
  osPlatform : String
  capabilities : List DeviceCapability
  updatedTimestamp : UInt64
  deriving DecidableEq, Inhabited

structure TaskDefinition where
  taskId : String
  category : Int32
  moduleTarget : String
  payload : Bytes
  maxRetries : UInt32
  timeoutMs : UInt32
  requiredCapabilities : List String
  deriving DecidableEq, Inhabited

structure TaskProgress where
  taskId : String
  status : Int32
  progressPercentage : F32
  checkpointData : Bytes
  errorMessage : String
  resultText : String
  deriving DecidableEq, Inhabited

structure Prost where
  handshakeChallenge : Proto3.Codec HandshakeChallenge
  handshakeResponse : Proto3.Codec HandshakeResponse
  handshakeResult : Proto3.Codec HandshakeResult
  capabilityProfile : Proto3.Codec CapabilityProfile
  taskDefinition : Proto3.Codec TaskDefinition
  taskProgress : Proto3.Codec TaskProgress

end SeamlessSwarm
