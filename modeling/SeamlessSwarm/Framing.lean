import SeamlessSwarm.Frames

/-! The two length-checked parsers as the sources write them, with every index,
slice, conversion and sum that could panic, and the frames they are given. `none`
is a panic. -/
namespace SeamlessSwarm.Framing
open BigEndian

/-- `&bytes[start..stop]`. -/
def slice (bytes : Bytes) (start stop : Nat) : Option Bytes :=
  if start ≤ stop ∧ stop ≤ bytes.length then some ((bytes.take stop).drop start) else none

def usizeAdd (a b : Nat) : Option Nat :=
  if a + b < 18446744073709551616 then some (a + b) else none

/-- `let len_bytes: [u8; 4] = bytes.try_into().unwrap()`. -/
def lenBytes : Bytes → Option (UInt8 × UInt8 × UInt8 × UInt8)
  | [a, b, c, d] => some (a, b, c, d)
  | _ => none

/-- The frame that is handed to `socket.send`. -/
def sendFramed {M : Type} (codec : Proto3.Codec M) (msgType : UInt8) (msg : M) : Bytes :=
  let buf := codec.encode msg
  frame msgType buf

/-- `received` is what `socket.recv` returned. -/
def recvFramed (received : Except String Bytes) : Option (Except String (UInt8 × Bytes)) :=
  match received with
  | .error e => some (.error e)
  | .ok msg =>
    if msg.length < 5 then some (.error "Frame too short")
    else do
      let payloadLen := fromBeBytes (← msg[0]?) (← msg[1]?) (← msg[2]?) (← msg[3]?)
      let msgType ← msg[4]?
      let stop ← usizeAdd 5 payloadLen
      if msg.length < stop then some (.error "Truncated frame")
      else
        let payload ← slice msg 5 stop
        some (.ok (msgType, payload))

/-- The header checks of `NngServer::start`; `some none` goes on with the next message. -/
def nngServerChecks (bytes : Bytes) : Option (Option (UInt8 × Bytes)) :=
  if bytes.length < 5 then some none
  else do
    let (a, b, c, d) ← lenBytes (← slice bytes 0 4)
    let payloadLen := fromBeBytes a b c d
    let msgTypeRaw ← bytes[4]?
    let stop ← usizeAdd 5 payloadLen
    if bytes.length < stop then some none
    else
      let payloadBytes ← slice bytes 5 stop
      some (some (msgTypeRaw, payloadBytes))

/-- What the frame format promises: a frame is read back as it was built, an accepted
message starts with the frame of what was read, the two parsers accept the same
messages with the same contents, and neither panics on any message. -/
structure FrameCodec : Prop where
  decodes : ∀ msgType body, body.length < 4294967296 →
    recvFramed (.ok (frame msgType body)) = some (.ok (msgType, body))
  exchanged : ∀ (M : Type) (codec : Proto3.Codec M) msgType msg,
    (codec.encode msg).length < 4294967296 →
    recvFramed (.ok (sendFramed codec msgType msg)) = some (.ok (msgType, codec.encode msg))
  covers : ∀ msg msgType body, recvFramed (.ok msg) = some (.ok (msgType, body)) →
    frame msgType body <+: msg
  agrees : ∀ msg msgType body, nngServerChecks msg = some (some (msgType, body)) ↔
    recvFramed (.ok msg) = some (.ok (msgType, body))
  total : ∀ msg, recvFramed (.ok msg) ≠ none ∧ nngServerChecks msg ≠ none

theorem usizeAdd_header (a b c d : UInt8) :
    usizeAdd 5 (fromBeBytes a b c d) = some (5 + fromBeBytes a b c d) := by
  have word := fromBeBytes_lt a b c d
  apply if_pos
  omega

theorem bind_of_some {α β : Type} {x : Option α} {a : α} (h : x = some a) (k : α → Option β) :
    (x >>= k) = k a := by
  rw [h, Option.bind_eq_bind, Option.bind_some]

theorem header_cases (msg : Bytes) :
    msg.length < 5 ∧ header msg = none ∨
      ∃ a b c d msgType body, msg = a :: b :: c :: d :: msgType :: body := by
  match msg with
  | [] | [_] | [_, _] | [_, _, _] | [_, _, _, _] =>
    left
    exact ⟨by simp, rfl⟩
  | a :: b :: c :: d :: msgType :: body =>
    right
    exact ⟨a, b, c, d, msgType, body, rfl⟩

section Message
variable (a b c d msgType : UInt8) (body : Bytes)

theorem message_long : ¬ (a :: b :: c :: d :: msgType :: body).length < 5 := by
  simp only [List.length_cons]
  omega

theorem message_short_iff (len : Nat) :
    (a :: b :: c :: d :: msgType :: body).length < 5 + len ↔ body.length < len := by
  simp only [List.length_cons]
  omega

theorem slice_payload {len : Nat} (enough : ¬ body.length < len) :
    slice (a :: b :: c :: d :: msgType :: body) 5 (5 + len) = some (body.take len) := by
  have inBounds : 5 ≤ 5 + len ∧ 5 + len ≤ (a :: b :: c :: d :: msgType :: body).length := by
    simp only [List.length_cons]
    omega
  rw [slice, if_pos inBounds, Nat.add_comm 5 len]
  rfl

theorem checked_payload {β : Type} (len : Nat) (short : Option β) (k : Bytes → Option β) :
    (if (a :: b :: c :: d :: msgType :: body).length < 5 + len then short
      else slice (a :: b :: c :: d :: msgType :: body) 5 (5 + len) >>= k) =
      if body.length < len then short else k (body.take len) := by
  by_cases truncated : body.length < len
  · rw [if_pos ((message_short_iff a b c d msgType body len).mpr truncated), if_pos truncated]
  · rw [if_neg (mt (message_short_iff a b c d msgType body len).mp truncated), if_neg truncated,
      bind_of_some (slice_payload a b c d msgType body truncated)]

theorem slice_length : slice (a :: b :: c :: d :: msgType :: body) 0 4 = some [a, b, c, d] := by
  apply if_pos
  simp only [List.length_cons]
  omega

theorem message_starts (len : Nat) :
    [a, b, c, d] ++ msgType :: body.take len <+: a :: b :: c :: d :: msgType :: body := by
  refine ⟨body.drop len, ?_⟩
  simp only [List.cons_append, List.nil_append, List.take_append_drop]

end Message

theorem recvFramed_eq (msg : Bytes) :
    recvFramed (.ok msg) = some (SeamlessSwarm.recvFramed msg) := by
  rcases header_cases msg with ⟨short, none⟩ | ⟨a, b, c, d, msgType, body, rfl⟩
  · rw [recvFramed, if_pos short, SeamlessSwarm.recvFramed, none]
  · have first : (a :: b :: c :: d :: msgType :: body)[0]? = some a := rfl
    have second : (a :: b :: c :: d :: msgType :: body)[1]? = some b := rfl
    have third : (a :: b :: c :: d :: msgType :: body)[2]? = some c := rfl
    have fourth : (a :: b :: c :: d :: msgType :: body)[3]? = some d := rfl
    have fifth : (a :: b :: c :: d :: msgType :: body)[4]? = some msgType := rfl
    rw [recvFramed, if_neg (message_long a b c d msgType body), bind_of_some first,
      bind_of_some second, bind_of_some third, bind_of_some fourth, bind_of_some fifth,
      bind_of_some (usizeAdd_header a b c d), checked_payload, SeamlessSwarm.recvFramed, header]
    exact (apply_ite some _ _ _).symm

theorem nngServerChecks_eq (msg : Bytes) : nngServerChecks msg = some (nngServerRead msg) := by
  rcases header_cases msg with ⟨short, none⟩ | ⟨a, b, c, d, msgType, body, rfl⟩
  · rw [nngServerChecks, if_pos short, nngServerRead, none]
  · have length : lenBytes [a, b, c, d] = some (a, b, c, d) := rfl
    have fifth : (a :: b :: c :: d :: msgType :: body)[4]? = some msgType := rfl
    rw [nngServerChecks, if_neg (message_long a b c d msgType body),
      bind_of_some (slice_length a b c d msgType body), bind_of_some length]
    dsimp only
    rw [bind_of_some fifth, bind_of_some (usizeAdd_header a b c d), checked_payload, nngServerRead,
      header]
    exact (apply_ite some _ _ _).symm

theorem read_iff_starts (msg : Bytes) (msgType : UInt8) (body : Bytes) :
    nngServerRead msg = some (msgType, body) ↔
      body.length < 4294967296 ∧ frame msgType body <+: msg := by
  constructor
  · intro accepted
    rcases header_cases msg with ⟨_, none⟩ | ⟨a, b, c, d, msgType, rest, rfl⟩
    · rw [nngServerRead, none] at accepted
      cases accepted
    · simp only [nngServerRead, header] at accepted
      split at accepted
      next => cases accepted
      next enough =>
        cases accepted
        have length : (rest.take (fromBeBytes a b c d)).length = fromBeBytes a b c d := by
          rw [List.length_take]
          omega
        rw [length, frame, length, toBeBytes_fromBeBytes]
        exact ⟨fromBeBytes_lt a b c d, message_starts a b c d msgType rest (fromBeBytes a b c d)⟩
  · rintro ⟨fits, rest, rfl⟩
    have enough : ¬ (body ++ rest).length < body.length := by
      rw [List.length_append]
      omega
    simp only [nngServerRead, header_frame_append, Nat.mod_eq_of_lt fits, if_neg enough,
      List.take_left']

theorem recvFramed_ok_iff (msg : Bytes) (msgType : UInt8) (body : Bytes) :
    recvFramed (.ok msg) = some (.ok (msgType, body)) ↔ nngServerRead msg = some
      (msgType, body) := by
  have same : (SeamlessSwarm.recvFramed msg).toOption = nngServerRead msg := by
    rw [← CheckedReader.read, checked_read_eq, nngServerRead]
  rw [recvFramed_eq, ← same, Option.some.injEq]
  cases SeamlessSwarm.recvFramed msg with
  | error e => simp only [Except.toOption, reduceCtorEq]
  | ok parts => simp only [Except.ok.injEq, Except.toOption, Option.some.injEq]

theorem frame_codec : FrameCodec := by
  have decodes : ∀ msgType body, body.length < 4294967296 →
      recvFramed (.ok (frame msgType body)) = some (.ok (msgType, body)) := by
    intro msgType body fits
    rw [recvFramed_ok_iff, read_iff_starts]
    exact ⟨fits, List.prefix_rfl⟩
  constructor
  · exact decodes
  · intro M codec msgType msg fits
    exact decodes msgType (codec.encode msg) fits
  · intro msg msgType body accepted
    rw [recvFramed_ok_iff, read_iff_starts] at accepted
    exact accepted.2
  · intro msg msgType body
    rw [nngServerChecks_eq, recvFramed_ok_iff, Option.some.injEq]
  · intro msg
    rw [recvFramed_eq, nngServerChecks_eq]
    exact ⟨nofun, nofun⟩

end SeamlessSwarm.Framing
