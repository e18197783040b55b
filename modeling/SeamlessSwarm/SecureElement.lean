import SeamlessSwarm.Lib.Bytes
import SeamlessSwarm.Lib.Trace

/-! The simulated secure element: which signing key a node has after a start, and what
is in its key file then. The curve is a parameter. -/
namespace SeamlessSwarm
open Trace BigEndian

def FieldBytes : Type := { bytes : Bytes // bytes.length = 32 }

/-- `(&bytes[..]).into()`; a slice of another length panics. -/
def FieldBytes.ofSlice (bytes : Bytes) : Option FieldBytes :=
  if fits : bytes.length = 32 then some ⟨bytes, fits⟩ else none

/-- What the code relies on of `SigningKey`: a key can be drawn, and one that is
written to bytes is read back from them. -/
structure SigningKeys where
  Key : Type
  fromBytes : FieldBytes → Option Key
  toBytes : Key → FieldBytes
  random : Nonempty Key
  fromBytes_toBytes : ∀ k, fromBytes (toBytes k) = some k

inductive KeyFile where
  | absent
  | unreadable
  | holding (bytes : Bytes)

/-- What `fs::write` did. Its result is dropped; a failure can leave any file. -/
inductive WriteResult where
  | ok
  | err (left : KeyFile)

/-- What a start of the node meets: the key that `SigningKey::random` would draw, and
what a write would do. -/
structure Startup (keys : SigningKeys) where
  drawn : keys.Key
  write : WriteResult

structure SimulatedSecureElement (keys : SigningKeys) where
  signingKey : keys.Key

namespace SimulatedSecureElement
variable {keys : SigningKeys}

def generateAndSaveKey (s : Startup keys) : keys.Key × KeyFile :=
  let signingKey := s.drawn
  let bytes := keys.toBytes signingKey
  match s.write with
  | .ok => (signingKey, .holding bytes.val)
  | .err left => (signingKey, left)

/-- The element and the key file that is left; `none` is a panic. -/
def new (file : KeyFile) (s : Startup keys) : Option (SimulatedSecureElement keys × KeyFile) :=
  match file with
  | .holding bytes =>
    -- The length is checked by the conversion, before there is an error to fall back on.
    match FieldBytes.ofSlice bytes with
    | none => none
    | some array =>
      match keys.fromBytes array with
      | some k => some (⟨k⟩, file)
      | none => some (⟨(generateAndSaveKey s).1⟩, (generateAndSaveKey s).2)
  | .unreadable => some (⟨(generateAndSaveKey s).1⟩, (generateAndSaveKey s).2)
  | .absent => some (⟨(generateAndSaveKey s).1⟩, (generateAndSaveKey s).2)

def getPublicKey (toSec1Bytes : keys.Key → Bytes) (element : SimulatedSecureElement keys) : Bytes :=
  toSec1Bytes element.signingKey

def getStaticThumbprint (toSec1Bytes : keys.Key → Bytes) (sha256 : Bytes → Bytes)
    (element : SimulatedSecureElement keys) : Bytes :=
  sha256 (element.getPublicKey toSec1Bytes)

/-- The key file after a start; a panic comes before any write. -/
def restart (file : KeyFile) (s : Startup keys) : KeyFile :=
  match new file s with
  | some (_, after) => after
  | none => file

def returned (file : KeyFile) (starts : List (Startup keys)) :
    List (Option (SimulatedSecureElement keys)) :=
  trail restart (fun file s => [(new file s).map Prod.fst]) file starts

end SimulatedSecureElement

open SimulatedSecureElement

def KeyFile.stored (keys : SigningKeys) : KeyFile → Option keys.Key
  | .holding bytes => (FieldBytes.ofSlice bytes).bind keys.fromBytes
  | _ => none

/-- A node recovers its key from a key file: it starts with the key that is stored,
or else with the one it draws, and once a valid key is in the file every later start
has the same key, public key and thumbprint. -/
structure RecoversKey (keys : SigningKeys) (file : KeyFile) : Prop where
  usable : ∀ s : Startup keys, ∃ after, new file s = some (⟨(file.stored keys).getD s.drawn⟩, after)
  kept : ∀ (s : Startup keys) element after, new file s = some (element, after) →
    s.write = .ok ∨ file.stored keys ≠ none →
    ∀ later, returned after later = List.replicate later.length (some element)
  identity : ∀ (s : Startup keys) element after, new file s = some (element, after) →
    s.write = .ok ∨ file.stored keys ≠ none →
    ∀ (toSec1Bytes : keys.Key → Bytes) (sha256 : Bytes → Bytes) later,
      ∀ restarted ∈ returned after later, restarted.map (getPublicKey toSec1Bytes) =
        some (element.getPublicKey toSec1Bytes) ∧
      restarted.map (getStaticThumbprint toSec1Bytes sha256) =
        some (element.getStaticThumbprint toSec1Bytes sha256)

section Starts
variable {keys : SigningKeys}

theorem new_panics {bytes : Bytes} (misfit : bytes.length ≠ 32) (s : Startup keys) :
    new (.holding bytes) s = none := by
  have panics : FieldBytes.ofSlice bytes = none := dif_neg misfit
  simp only [new, panics]

theorem new_eq {file : KeyFile} (fits : ∀ bytes, file = .holding bytes → bytes.length = 32)
    (s : Startup keys) :
    new file s = match file.stored keys with
      | some k => some (⟨k⟩, file)
      | none => some (⟨s.drawn⟩, (generateAndSaveKey s).2) := by
  have drawn : (generateAndSaveKey s).1 = s.drawn := by
    unfold generateAndSaveKey
    cases s.write <;> rfl
  cases file with
  | absent => simp only [new, KeyFile.stored, drawn]
  | unreadable => simp only [new, KeyFile.stored, drawn]
  | holding bytes =>
    have array : FieldBytes.ofSlice bytes = some ⟨bytes, fits bytes rfl⟩ := dif_pos _
    have stored : (KeyFile.holding bytes).stored keys = keys.fromBytes ⟨bytes, fits bytes rfl⟩ := by
      rw [KeyFile.stored, array]
      rfl
    simp only [new, stored, array, drawn]

theorem fits_of_stored {file : KeyFile} {k : keys.Key} (stored : file.stored keys = some k) :
    ∀ bytes, file = .holding bytes → bytes.length = 32 := by
  rintro bytes rfl
  by_contra misfit
  have panics : FieldBytes.ofSlice bytes = none := dif_neg misfit
  rw [KeyFile.stored, panics] at stored
  cases stored

theorem stored_saved (s : Startup keys) (written : s.write = .ok) :
    (generateAndSaveKey s).2.stored keys = some s.drawn := by
  have array : FieldBytes.ofSlice (keys.toBytes s.drawn).val = some (keys.toBytes s.drawn) :=
    dif_pos (keys.toBytes s.drawn).property
  simp only [generateAndSaveKey, written, KeyFile.stored, array, Option.bind_some,
    keys.fromBytes_toBytes]

theorem returned_fixed {file : KeyFile} {element : Option (SimulatedSecureElement keys)}
    (fixed : ∀ s : Startup keys, restart file s = file ∧ (new file s).map Prod.fst = element)
    (later : List (Startup keys)) : returned file later = List.replicate later.length element := by
  unfold returned
  induction later with
  | nil => rfl
  | cons s rest ih =>
    obtain ⟨same, outcome⟩ := fixed s
    rw [trail, same, ih, outcome]
    rfl

theorem returned_stored {file : KeyFile} {k : keys.Key} (stored : file.stored keys = some k)
    (later : List (Startup keys)) :
    returned file later = List.replicate later.length (some ⟨k⟩) := by
  apply returned_fixed
  intro s
  have started : new file s = some (⟨k⟩, file) := by rw [new_eq (fits_of_stored stored), stored]
  simp only [restart, started, Option.map_some, and_self]

theorem returned_misfit {bytes : Bytes} (misfit : bytes.length ≠ 32)
    (later : List (Startup keys)) :
    returned (.holding bytes) later = List.replicate later.length none := by
  apply returned_fixed
  intro s
  simp only [restart, new_panics misfit, Option.map_none, and_self]

theorem cut_off_write_stops {s : Startup keys} {part : Bytes}
    (cutOff : s.write = .err (.holding part))
    (misfit : part.length ≠ 32) (later : List (Startup keys)) :
    (new .absent s).isSome ∧
      returned (restart .absent s) later = List.replicate later.length none := by
  have left : restart .absent s = .holding part := by
    simp only [restart, new, generateAndSaveKey, cutOff]
  exact ⟨rfl, by rw [left, returned_misfit misfit]⟩

theorem stored_after {file after : KeyFile} {s : Startup keys}
    {element : SimulatedSecureElement keys} (started : new file s = some (element, after))
    (valid : s.write = .ok ∨ file.stored keys ≠ none) :
    after.stored keys = some element.signingKey := by
  have fits : ∀ bytes, file = .holding bytes → bytes.length = 32 := by
    rintro bytes rfl
    by_contra misfit
    rw [new_panics misfit] at started
    cases started
  rw [new_eq fits] at started
  cases stored : file.stored keys with
  | some k =>
    rw [stored] at started
    cases started
    exact stored
  | none =>
    rw [stored] at started
    cases started
    rcases valid with written | impossible
    · exact stored_saved s written
    · exact absurd stored impossible

end Starts

theorem recovers_key_iff (keys : SigningKeys) (file : KeyFile) :
    RecoversKey keys file ↔ ∀ bytes, file = .holding bytes → bytes.length = 32 := by
  constructor
  · rintro law bytes rfl
    by_contra misfit
    obtain ⟨drawn⟩ := keys.random
    obtain ⟨after, started⟩ := law.usable ⟨drawn, .ok⟩
    rw [new_panics misfit] at started
    cases started
  · intro fits
    have kept : ∀ (s : Startup keys) element after, new file s = some (element, after) →
        s.write = .ok ∨ file.stored keys ≠ none →
        ∀ later, returned after later = List.replicate later.length (some element) := by
      intro s element after started valid later
      exact returned_stored (stored_after started valid) later
    constructor
    · intro s
      rw [new_eq fits]
      cases file.stored keys with
      | some k => exact ⟨file, rfl⟩
      | none => exact ⟨(generateAndSaveKey s).2, rfl⟩
    · exact kept
    · intro s element after started valid toSec1Bytes sha256 later restarted member
      rw [kept s element after started valid later] at member
      rw [List.eq_of_mem_replicate member]
      exact ⟨rfl, rfl⟩

/-! The scalars of P-256: the numbers from 1 to below the order of the curve, with the
highest byte first. -/

def p256Order : Nat := 0xFFFFFFFF00000000FFFFFFFFFFFFFFFFBCE6FAADA7179E84F3B9CAC2FC632551

def p256 : SigningKeys where
  Key := { n : Nat // 0 < n ∧ n < p256Order }
  fromBytes array :=
    if valid : 0 < numberOf array.val ∧ numberOf array.val < p256Order
    then some ⟨numberOf array.val, valid⟩
    else none
  toBytes k := ⟨bytesOf 32 k.val, bytesOf_length 32 k.val⟩
  random := ⟨⟨1, by decide⟩⟩
  fromBytes_toBytes := by
    rintro ⟨n, valid⟩
    have below : p256Order < 256 ^ 32 := by decide
    have same : numberOf (bytesOf 32 n) = n := numberOf_bytesOf 32 n (Nat.lt_trans valid.2 below)
    simp only [same, dif_pos valid]

theorem emptied_key_file_panics : ¬ RecoversKey p256 (.holding []) := by
  intro law
  obtain ⟨after, started⟩ := law.usable ⟨⟨1, by decide⟩, .ok⟩
  cases started

end SeamlessSwarm
