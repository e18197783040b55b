import SeamlessSwarm.Messages

/-! The fields of each message of `topology.proto` and the proto3 codecs made
of them. They read well-formed frames as the generated code does; groups among the
unknown fields and message fields that are split in two are not read as it reads them. -/
namespace SeamlessSwarm
open Proto3

/-- A float is left out at zero of either sign. -/
def floatKind : Kind F32 :=
  .scalar (F32.ofBits 0 F32.zero_ne) (fun v => .fixed32 v.val)
    (fun
      | .fixed32 bits => some
        (if h : bits ≠ 2147483648 then ⟨bits, h⟩ else F32.ofBits 0 F32.zero_ne)
      | _ => none)
    fun v => by simp [v.property]

def hardwareIdentity : Codec HardwareIdentity :=
  .ofColumns
    (fun m => [(1, Kind.string.emit m.nodeUuid), (2, Kind.bytes.emit m.ecdsaPublicKey),
      (3, Kind.bytes.emit m.staticThumbprint)])
    (fun fields => do
      let nodeUuid ← Kind.string.read (column 1 fields)
      let ecdsaPublicKey ← Kind.bytes.read (column 2 fields)
      let staticThumbprint ← Kind.bytes.read (column 3 fields)
      pure ⟨nodeUuid, ecdsaPublicKey, staticThumbprint⟩)
    (fun m => by simp)
    (fun m small => by
      simp only [List.forall_mem_cons] at small
      obtain ⟨uuid, key, thumbprint, _⟩ := small
      simp [Kind.read_emit _ _ uuid, Kind.read_emit _ _ key, Kind.read_emit _ _ thumbprint])

def handshakeChallenge : Codec HandshakeChallenge :=
  .ofColumns
    (fun m => [(1, Kind.bytes.emit m.highEntropyToken), (2, Kind.uint64.emit m.timestamp)])
    (fun fields => do
      let highEntropyToken ← Kind.bytes.read (column 1 fields)
      let timestamp ← Kind.uint64.read (column 2 fields)
      pure ⟨highEntropyToken, timestamp⟩)
    (fun m => by simp)
    (fun m small => by
      simp only [List.forall_mem_cons] at small
      obtain ⟨token, timestamp, _⟩ := small
      simp [Kind.read_emit _ _ token, Kind.read_emit _ _ timestamp])

def handshakeResponse : Codec HandshakeResponse :=
  .ofColumns
    (fun m => [(1, Kind.bytes.emit m.signature),
      (2, (Kind.message hardwareIdentity).emit m.identity)])
    (fun fields => do
      let signature ← Kind.bytes.read (column 1 fields)
      let identity ← (Kind.message hardwareIdentity).read (column 2 fields)
      pure ⟨signature, identity⟩)
    (fun m => by simp)
    (fun m small => by
      simp only [List.forall_mem_cons] at small
      obtain ⟨signature, identity, _⟩ := small
      simp [Kind.read_emit _ _ signature, Kind.read_emit _ _ identity])

def handshakeResult : Codec HandshakeResult :=
  .ofColumns
    (fun m => [(1, Kind.bool.emit m.authenticated), (2, Kind.string.emit m.sessionToken),
      (3, Kind.string.emit m.message)])
    (fun fields => do
      let authenticated ← Kind.bool.read (column 1 fields)
      let sessionToken ← Kind.string.read (column 2 fields)
      let message ← Kind.string.read (column 3 fields)
      pure ⟨authenticated, sessionToken, message⟩)
    (fun m => by simp)
    (fun m small => by
      simp only [List.forall_mem_cons] at small
      obtain ⟨authenticated, token, message, _⟩ := small
      simp [Kind.read_emit _ _ authenticated, Kind.read_emit _ _ token, Kind.read_emit _ _ message])

/-! The value of a device capability is a choice of four fields. The one that is
set is written even at its default, and the last one read counts. -/

def ResourceValue.column (number : Nat) (value : Option ResourceValue) : List WireValue :=
  match number, value with
  | 3, some (.intVal i) => [.varint i.toUInt64]
  | 4, some (.doubleVal bits) => [.fixed64 bits]
  | 5, some (.stringVal s) => [writeString s]
  | 6, some (.boolVal b) => [.varint (if b then 1 else 0)]
  | _, _ => []

def ResourceValue.merge (value : Option ResourceValue) : Field → Option (Option ResourceValue)
  | (3, .varint n) => some (some (.intVal n.toInt64))
  | (4, .fixed64 bits) => some (some (.doubleVal bits))
  | (5, w) => (readString w).map fun s => some (.stringVal s)
  | (6, .varint n) => some (some (.boolVal (n != 0)))
  | (3, _) => none
  | (4, _) => none
  | (6, _) => none
  | _ => some value

theorem merge_skip {number : Nat} (other : number < 3) (values : List WireValue)
    (rest : List (Nat × List WireValue)) (value : Option ResourceValue) :
    (layout ((number, values) :: rest)).foldlM ResourceValue.merge value =
      (layout rest).foldlM ResourceValue.merge value := by
  have one (w : WireValue) : ResourceValue.merge value (number, w) = some value := by
    have three : number ≠ 3 := by omega
    have four : number ≠ 4 := by omega
    have five : number ≠ 5 := by omega
    have six : number ≠ 6 := by omega
    simp [ResourceValue.merge, three, four, five, six]
  induction values with
  | nil => rfl
  | cons w values ih =>
    simp only [layout, tagged, List.flatMap_cons, List.map_cons, List.cons_append, List.foldlM_cons,
      one] at ih ⊢
    exact ih

theorem merge_columns (value : Option ResourceValue) :
    (layout [(3, ResourceValue.column 3 value), (4, ResourceValue.column 4 value),
      (5, ResourceValue.column 5 value), (6, ResourceValue.column 6 value)]).foldlM
        ResourceValue.merge none = some value := by
  cases value with
  | none => rfl
  | some v =>
    cases v with
    | stringVal s =>
      simp [layout, tagged, ResourceValue.column, ResourceValue.merge, readString_writeString]
    | boolVal b => cases b <;> rfl
    | _ => simp [layout, tagged, ResourceValue.column, ResourceValue.merge]

def deviceCapability : Codec DeviceCapability :=
  .ofColumns
    (fun m => [(1, Kind.string.emit m.resourceName), (2, Kind.string.emit m.valueType),
      (3, ResourceValue.column 3 m.resourceValue), (4, ResourceValue.column 4 m.resourceValue),
      (5, ResourceValue.column 5 m.resourceValue), (6, ResourceValue.column 6 m.resourceValue)])
    (fun fields => do
      let resourceName ← Kind.string.read (column 1 fields)
      let valueType ← Kind.string.read (column 2 fields)
      let resourceValue ← fields.foldlM ResourceValue.merge none
      pure ⟨resourceName, valueType, resourceValue⟩)
    (fun m => by simp)
    (fun m small => by
      simp only [List.forall_mem_cons] at small
      obtain ⟨name, type, _⟩ := small
      rw [merge_skip (by decide), merge_skip (by decide), merge_columns]
      simp [Kind.read_emit _ _ name, Kind.read_emit _ _ type])

def capabilityProfile : Codec CapabilityProfile :=
  .ofColumns
    (fun m => [(1, Kind.string.emit m.nodeId), (2, Kind.string.emit m.osPlatform),
      (3, (Kind.messages deviceCapability).emit m.capabilities),
      (4, Kind.uint64.emit m.updatedTimestamp)])
    (fun fields => do
      let nodeId ← Kind.string.read (column 1 fields)
      let osPlatform ← Kind.string.read (column 2 fields)
      let capabilities ← (Kind.messages deviceCapability).read (column 3 fields)
      let updatedTimestamp ← Kind.uint64.read (column 4 fields)
      pure ⟨nodeId, osPlatform, capabilities, updatedTimestamp⟩)
    (fun m => by simp)
    (fun m small => by
      simp only [List.forall_mem_cons] at small
      obtain ⟨node, platform, capabilities, timestamp, _⟩ := small
      simp [Kind.read_emit _ _ node, Kind.read_emit _ _ platform, Kind.read_emit _ _ capabilities,
        Kind.read_emit _ _ timestamp])

def taskDefinition : Codec TaskDefinition :=
  .ofColumns
    (fun m => [(1, Kind.string.emit m.taskId), (2, Kind.int32.emit m.category),
      (3, Kind.string.emit m.moduleTarget), (4, Kind.bytes.emit m.payload),
      (5, Kind.uint32.emit m.maxRetries), (6, Kind.uint32.emit m.timeoutMs),
      (7, Kind.strings.emit m.requiredCapabilities)])
    (fun fields => do
      let taskId ← Kind.string.read (column 1 fields)
      let category ← Kind.int32.read (column 2 fields)
      let moduleTarget ← Kind.string.read (column 3 fields)
      let payload ← Kind.bytes.read (column 4 fields)
      let maxRetries ← Kind.uint32.read (column 5 fields)
      let timeoutMs ← Kind.uint32.read (column 6 fields)
      let requiredCapabilities ← Kind.strings.read (column 7 fields)
      pure ⟨taskId, category, moduleTarget, payload, maxRetries, timeoutMs, requiredCapabilities⟩)
    (fun m => by simp)
    (fun m small => by
      simp only [List.forall_mem_cons] at small
      obtain ⟨id, category, target, payload, retries, timeout, required, _⟩ := small
      simp [Kind.read_emit _ _ id, Kind.read_emit _ _ category, Kind.read_emit _ _ target,
        Kind.read_emit _ _ payload, Kind.read_emit _ _ retries, Kind.read_emit _ _ timeout,
        Kind.read_emit _ _ required])

def taskProgress : Codec TaskProgress :=
  .ofColumns
    (fun m => [(1, Kind.string.emit m.taskId), (2, Kind.int32.emit m.status),
      (3, floatKind.emit m.progressPercentage), (4, Kind.bytes.emit m.checkpointData),
      (5, Kind.string.emit m.errorMessage), (6, Kind.string.emit m.resultText)])
    (fun fields => do
      let taskId ← Kind.string.read (column 1 fields)
      let status ← Kind.int32.read (column 2 fields)
      let progressPercentage ← floatKind.read (column 3 fields)
      let checkpointData ← Kind.bytes.read (column 4 fields)
      let errorMessage ← Kind.string.read (column 5 fields)
      let resultText ← Kind.string.read (column 6 fields)
      pure ⟨taskId, status, progressPercentage, checkpointData, errorMessage, resultText⟩)
    (fun m => by simp)
    (fun m small => by
      simp only [List.forall_mem_cons] at small
      obtain ⟨id, status, percentage, checkpoint, error, result, _⟩ := small
      simp [Kind.read_emit _ _ id, Kind.read_emit _ _ status, Kind.read_emit _ _ percentage,
        Kind.read_emit _ _ checkpoint, Kind.read_emit _ _ error, Kind.read_emit _ _ result])

def topology : Prost where
  handshakeChallenge := handshakeChallenge
  handshakeResponse := handshakeResponse
  handshakeResult := handshakeResult
  capabilityProfile := capabilityProfile
  taskDefinition := taskDefinition
  taskProgress := taskProgress

end SeamlessSwarm
