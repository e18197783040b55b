import Mathlib.Algebra.Group.Nat.Defs
import Mathlib.Data.List.Basic
import SeamlessSwarm.Lib.Bytes

/-! The proto3 wire format: variable-length integers, fields, and the kinds of
values that messages are made of. A message is written field by field, with
default values left out, and read by collecting the values of each field number. -/
namespace Proto3

/-! Integers of seven bits a byte, lowest first, in at most ten bytes. -/

def varintBytes : Nat → Nat → Bytes
  | 0, _ => []
  | budget + 1, n =>
    if n < 128 then [UInt8.ofNat n]
    else UInt8.ofNat (n % 128 + 128) :: varintBytes budget (n / 128)

def readVarintBytes : Nat → Bytes → Option (Nat × Bytes)
  | 0, _ => none
  | _, [] => none
  | budget + 1, b :: rest =>
    if b.toNat < 128 then some (b.toNat, rest)
    else
      match readVarintBytes budget rest with
      | some (m, after) => some (b.toNat - 128 + 128 * m, after)
      | none => none

def encodeVarint (n : UInt64) : Bytes := varintBytes 10 n.toNat

def readVarint (bytes : Bytes) : Option (UInt64 × Bytes) :=
  match readVarintBytes 10 bytes with
  | some (n, rest) => if n < 18446744073709551616 then some (UInt64.ofNat n, rest) else none
  | none => none

theorem readVarintBytes_varintBytes (budget n : Nat) (rest : Bytes)
    (fits : n < 128 ^ (budget + 1)) :
    readVarintBytes (budget + 1) (varintBytes (budget + 1) n ++ rest) = some (n, rest) := by
  induction budget generalizing n with
  | zero =>
    have last : n < 128 := by simpa using fits
    have byte : (UInt8.ofNat n).toNat = n := by rw [UInt8.toNat_ofNat']; omega
    simp only [varintBytes, last, if_true, List.singleton_append, readVarintBytes, byte]
  | succ budget ih =>
    by_cases last : n < 128
    · have byte : (UInt8.ofNat n).toNat = n := by rw [UInt8.toNat_ofNat']; omega
      rw [varintBytes]
      simp only [last, if_true, List.singleton_append, readVarintBytes, byte]
    · have byte : (UInt8.ofNat (n % 128 + 128)).toNat = n % 128 + 128 := by
        rw [UInt8.toNat_ofNat']
        omega
      have smaller : n / 128 < 128 ^ (budget + 1) := by
        rw [Nat.div_lt_iff_lt_mul (by decide), ← Nat.pow_succ]
        exact fits
      have more : ¬ n % 128 + 128 < 128 := by omega
      have split : n % 128 + 128 - 128 + 128 * (n / 128) = n := by omega
      rw [varintBytes, if_neg last, List.cons_append, readVarintBytes, byte, if_neg more,
        ih (n / 128) smaller]
      simp only [split]

theorem readVarint_encodeVarint (n : UInt64) (rest : Bytes) :
    readVarint (encodeVarint n ++ rest) = some (n, rest) := by
  have bound := n.toNat_lt
  have fits : n.toNat < 128 ^ (9 + 1) := by omega
  have small : n.toNat < 18446744073709551616 := by omega
  simp only [readVarint, encodeVarint, readVarintBytes_varintBytes 9 n.toNat rest fits,
    small, if_true,
    UInt64.ofNat_toNat]

theorem encodeVarint_pos (n : UInt64) : 0 < (encodeVarint n).length := by
  unfold encodeVarint varintBytes
  split <;> simp

/-! Little-endian words. -/

def leBytes : Nat → Nat → Bytes
  | 0, _ => []
  | k + 1, n => UInt8.ofNat n :: leBytes k (n / 256)

def leValue : Bytes → Nat
  | [] => 0
  | b :: rest => b.toNat + 256 * leValue rest

@[simp] theorem leBytes_length (k n : Nat) : (leBytes k n).length = k := by
  induction k generalizing n with
  | zero => rfl
  | succ k ih => simp only [leBytes, List.length_cons, ih]

theorem leValue_leBytes (k n : Nat) : leValue (leBytes k n) = n % 256 ^ k := by
  induction k generalizing n with
  | zero => simp [leBytes, leValue, Nat.mod_one]
  | succ k ih =>
    have byte : (UInt8.ofNat n).toNat = n % 256 := by rw [UInt8.toNat_ofNat']
    simp only [leBytes, leValue, ih, byte]
    rw [Nat.pow_succ', Nat.mod_mul]

/-! Fields. -/

inductive WireValue where
  | varint (n : UInt64)
  | fixed64 (n : UInt64)
  | bytes (b : Bytes)
  | fixed32 (n : UInt32)
  deriving DecidableEq, Repr

abbrev Field := Nat × WireValue

def WireValue.wireType : WireValue → Nat
  | varint _ => 0
  | fixed64 _ => 1
  | bytes _ => 2
  | fixed32 _ => 5

def WireValue.encode : WireValue → Bytes
  | varint n => encodeVarint n
  | fixed64 n => leBytes 8 n.toNat
  | bytes b => encodeVarint (UInt64.ofNat b.length) ++ b
  | fixed32 n => leBytes 4 n.toNat

/-- The value that a wire type announces. Groups, which proto3 does not write, are refused. -/
def WireValue.read (wireType : Nat) (input : Bytes) : Option (WireValue × Bytes) :=
  match wireType with
  | 0 => (readVarint input).map fun p => (varint p.1, p.2)
  | 1 => if input.length < 8 then none
    else some (fixed64 (UInt64.ofNat (leValue (input.take 8))), input.drop 8)
  | 2 => (readVarint input).bind fun p =>
    if p.2.length < p.1.toNat then none else some (bytes (p.2.take p.1.toNat), p.2.drop p.1.toNat)
  | 5 => if input.length < 4 then none
    else some (fixed32 (UInt32.ofNat (leValue (input.take 4))), input.drop 4)
  | _ => none

def encodeField (f : Field) : Bytes :=
  encodeVarint (UInt64.ofNat (f.1 * 8 + f.2.wireType)) ++ f.2.encode

def readField (input : Bytes) : Option (Field × Bytes) :=
  (readVarint input).bind fun p =>
    if p.1.toNat < 4294967296 ∧ 8 ≤ p.1.toNat then
      (WireValue.read (p.1.toNat % 8) p.2).map fun q => ((p.1.toNat / 8, q.1), q.2)
    else none

def encodeFields (fields : List Field) : Bytes := fields.flatMap encodeField

def readFields : Nat → Bytes → Option (List Field)
  | _, [] => some []
  | 0, _ => none
  | fuel + 1, input =>
    (readField input).bind fun p => (readFields fuel p.2).map (p.1 :: ·)

/-- Every field takes at least one byte, so the length is fuel enough. -/
def decodeFields (input : Bytes) : Option (List Field) := readFields input.length input

def WireValue.Small : WireValue → Prop
  | bytes b => b.length < 4294967296
  | _ => True

/- A field number that a key can hold. -/
def Numbered (f : Field) : Prop := 1 ≤ f.1 ∧ f.1 < 536870912

theorem WireValue.read_encode (v : WireValue) (small : v.Small) (rest : Bytes) :
    WireValue.read v.wireType (v.encode ++ rest) = some (v, rest) := by
  cases v with
  | varint n => simp [WireValue.read, wireType, encode, readVarint_encodeVarint]
  | fixed64 n =>
    have bound := n.toNat_lt
    have value : leValue (leBytes 8 n.toNat) = n.toNat := by rw [leValue_leBytes]; omega
    simp [WireValue.read, wireType, encode, value]
  | bytes b =>
    have length : (UInt64.ofNat b.length).toNat = b.length := by
      have bound : b.length < 4294967296 := small
      rw [UInt64.toNat_ofNat']
      omega
    simp [WireValue.read, wireType, encode, readVarint_encodeVarint, length]
  | fixed32 n =>
    have bound := n.toNat_lt
    have value : leValue (leBytes 4 n.toNat) = n.toNat := by rw [leValue_leBytes]; omega
    simp [WireValue.read, wireType, encode, value]

theorem WireValue.wireType_lt (v : WireValue) : v.wireType < 8 := by
  cases v <;> simp [wireType]

theorem readField_encodeField (f : Field) (numbered : Numbered f) (small : f.2.Small)
    (rest : Bytes) :
    readField (encodeField f ++ rest) = some (f, rest) := by
  obtain ⟨low, high⟩ := numbered
  have kind := f.2.wireType_lt
  have key : (UInt64.ofNat (f.1 * 8 + f.2.wireType)).toNat = f.1 * 8 + f.2.wireType := by
    rw [UInt64.toNat_ofNat']
    omega
  have inRange : f.1 * 8 + f.2.wireType < 4294967296 ∧ 8 ≤ f.1 * 8 + f.2.wireType := by omega
  have type : (f.1 * 8 + f.2.wireType) % 8 = f.2.wireType := by omega
  have number : (f.1 * 8 + f.2.wireType) / 8 = f.1 := by omega
  simp only [readField, encodeField, List.append_assoc, readVarint_encodeVarint,
    Option.bind_some, key,
    inRange, and_self, if_true, type, number, f.2.read_encode small, Option.map_some]

theorem encodeField_pos (f : Field) : 0 < (encodeField f).length := by
  have head := encodeVarint_pos (UInt64.ofNat (f.1 * 8 + f.2.wireType))
  rw [encodeField, List.length_append]
  omega

theorem readFields_encodeFields (fuel : Nat) (fields : List Field)
    (numbered : ∀ f ∈ fields, Numbered f) (small : ∀ f ∈ fields, f.2.Small)
    (enough : fields.length ≤ fuel) : readFields fuel (encodeFields fields) = some fields := by
  induction fields generalizing fuel with
  | nil => cases fuel <;> rfl
  | cons f rest ih =>
    cases fuel with
    | zero => cases enough
    | succ fuel =>
      have head := readField_encodeField f (numbered f List.mem_cons_self)
        (small f List.mem_cons_self) (encodeFields rest)
      have tail := ih fuel (fun g member => numbered g (List.mem_cons_of_mem f member))
        (fun g member => small g (List.mem_cons_of_mem f member)) (Nat.le_of_succ_le_succ enough)
      have unfolded : encodeFields (f :: rest) = encodeField f ++ encodeFields rest := rfl
      rw [unfolded]
      cases input : encodeField f ++ encodeFields rest with
      | nil =>
        have filled := encodeField_pos f
        rw [(List.append_eq_nil_iff.mp input).1] at filled
        cases filled
      | cons b bytes =>
        rw [input] at head
        simp only [readFields, head, Option.bind_some, tail, Option.map_some]

theorem encodeFields_length (fields : List Field) :
    fields.length ≤ (encodeFields fields).length := by
  induction fields with
  | nil => exact Nat.le_refl 0
  | cons f rest ih =>
    have head := encodeField_pos f
    simp only [encodeFields, List.flatMap_cons, List.length_append, List.length_cons] at ih ⊢
    omega

theorem decodeFields_encodeFields (fields : List Field) (numbered : ∀ f ∈ fields, Numbered f)
    (small : ∀ f ∈ fields, f.2.Small) : decodeFields (encodeFields fields) = some fields :=
  readFields_encodeFields _ fields numbered small (encodeFields_length fields)

theorem small_of_encoded (fields : List Field) (short : (encodeFields fields).length < 4294967296) :
    ∀ f ∈ fields, f.2.Small := by
  intro f member
  obtain ⟨before, after, rfl⟩ := List.append_of_mem member
  obtain ⟨number, value⟩ := f
  cases value with
  | bytes b =>
    simp only [encodeFields, List.flatMap_append, List.flatMap_cons, List.length_append,
      encodeField,
      WireValue.encode] at short
    unfold WireValue.Small
    omega
  | _ => trivial

/-! Messages. The values of one field number make a column, and a kind says how
the value of a field is written into its column and read from it. -/

def tagged (number : Nat) (values : List WireValue) : List Field := values.map fun v => (number, v)

def column (number : Nat) (fields : List Field) : List WireValue :=
  fields.filterMap fun f => if f.1 = number then some f.2 else none

@[simp] theorem column_append (number : Nat) (before after : List Field) :
    column number (before ++ after) = column number before ++ column number after :=
  List.filterMap_append

theorem column_tagged (number other : Nat) (values : List WireValue) :
    column number (tagged other values) = if other = number then values else [] := by
  by_cases same : other = number <;> simp [column, tagged, List.filterMap_map, same]

def layout (columns : List (Nat × List WireValue)) : List Field :=
  columns.flatMap fun c => tagged c.1 c.2

@[simp] theorem column_layout_nil (number : Nat) : column number (layout []) = [] := rfl

@[simp] theorem column_layout_cons (number other : Nat) (values : List WireValue)
    (rest : List (Nat × List WireValue)) :
    column number (layout ((other, values) :: rest)) =
      (if other = number then values else []) ++ column number (layout rest) := by
  simp only [layout, List.flatMap_cons, column_append, column_tagged]

theorem mem_layout (columns : List (Nat × List WireValue)) (f : Field) :
    f ∈ layout columns ↔ ∃ c ∈ columns, f.1 = c.1 ∧ f.2 ∈ c.2 := by
  simp only [layout, tagged, List.mem_flatMap, List.mem_map]
  constructor
  · rintro ⟨c, member, v, value, rfl⟩
    exact ⟨c, member, rfl, value⟩
  · rintro ⟨c, member, number, value⟩
    exact ⟨c, member, f.2, value, by rw [← number]⟩

theorem mapM_write {V : Type} {write : V → WireValue} {readOne : WireValue → Option V}
    (vs : List V) (back : ∀ v ∈ vs, readOne (write v) = some v) :
    (vs.map write).mapM readOne = some vs := by
  induction vs with
  | nil => rfl
  | cons v rest ih =>
    have tail := ih fun w member => back w (List.mem_cons_of_mem v member)
    simp [back v List.mem_cons_self, tail]

structure Kind (V : Type) where
  emit : V → List WireValue
  read : List WireValue → Option V
  read_emit : ∀ v, (∀ w ∈ emit v, w.Small) → read (emit v) = some v

namespace Kind

/-- A scalar is left out at its default, and its last occurrence counts. -/
def scalar {V : Type} [DecidableEq V] (initial : V) (write : V → WireValue)
    (readOne : WireValue → Option V) (back : ∀ v, readOne (write v) = some v) : Kind V where
  emit v := if v = initial then [] else [write v]
  read ws := ws.foldlM (fun _ w => readOne w) initial
  read_emit v _ := by
    by_cases skipped : v = initial
    · simp [skipped]
    · simp [skipped, back]

def repeated {V : Type} (write : V → WireValue) (readOne : WireValue → Option V)
    (back : ∀ v, readOne (write v) = some v) : Kind (List V) where
  emit vs := vs.map write
  read ws := ws.mapM readOne
  read_emit vs _ := mapM_write vs fun v _ => back v

end Kind

def writeString (s : String) : WireValue := .bytes s.toByteArray.data.toList

def readString : WireValue → Option String
  | .bytes b => String.fromUTF8? ⟨b.toArray⟩
  | _ => none

theorem readString_writeString (s : String) : readString (writeString s) = some s := by
  have same : (⟨s.toByteArray.data.toList.toArray⟩ : ByteArray) = s.toByteArray := by simp
  simp only [readString, writeString, same, String.fromUTF8?, String.isValidUTF8, dite_true]
  rfl

def readBytes : WireValue → Option Bytes
  | .bytes b => some b
  | _ => none

namespace Kind

def string : Kind String := scalar "" writeString readString readString_writeString

def strings : Kind (List String) := repeated writeString readString readString_writeString

def bytes : Kind Bytes := scalar [] .bytes readBytes fun _ => rfl

def uint64 : Kind UInt64 :=
  scalar 0 .varint (fun | .varint n => some n | _ => none) fun _ => rfl

def uint32 : Kind UInt32 :=
  scalar 0 (fun v => .varint v.toUInt64) (fun | .varint n => some n.toUInt32 | _ => none)
    fun v => by simp

theorem toInt32_signExtended (v : Int32) :
    (some v.toInt64.toUInt64.toUInt32.toInt32 : Option Int32) = some v := by
  congr 1
  apply Int32.toBitVec_inj.mp
  have low : (v.toBitVec.signExtend 64).setWidth 32 = v.toBitVec := by
    apply BitVec.eq_of_getLsbD_eq
    intro i inside
    have wide : i < 64 := by omega
    simp [BitVec.getElem_signExtend, inside, wide]
  simpa using low

/-- Also the kind of enumerations. Negative values are written with 64 bits. -/
def int32 : Kind Int32 :=
  scalar 0 (fun v => .varint v.toInt64.toUInt64)
    (fun | .varint n => some n.toUInt32.toInt32 | _ => none) toInt32_signExtended

def bool : Kind Bool :=
  scalar false (fun v => .varint (if v then 1 else 0))
    (fun | .varint n => some (n != 0) | _ => none) fun v => by cases v <;> rfl

end Kind

structure Codec (M : Type) where
  encode : M → Bytes
  decode : Bytes → Option M
  decode_encode : ∀ m, (encode m).length < 4294967296 → decode (encode m) = some m

def Codec.ofColumns {M : Type} (columns : M → List (Nat × List WireValue))
    (read : List Field → Option M)
    (numbered : ∀ m, ∀ c ∈ columns m, 1 ≤ c.1 ∧ c.1 < 536870912)
    (back : ∀ m, (∀ c ∈ columns m, ∀ v ∈ c.2, v.Small) → read (layout (columns m)) = some m) :
    Codec M where
  encode m := encodeFields (layout (columns m))
  decode input := (decodeFields input).bind read
  decode_encode m short := by
    have small := small_of_encoded _ short
    have keys : ∀ f ∈ layout (columns m), Numbered f := by
      intro f member
      obtain ⟨c, inColumns, number, _⟩ := (mem_layout _ f).mp member
      have range := numbered m c inColumns
      rwa [← number] at range
    rw [decodeFields_encodeFields _ keys small]
    apply back m
    intro c inColumns v value
    exact small (c.1, v) ((mem_layout _ _).mpr ⟨c, inColumns, rfl, value⟩)

namespace Kind

/-- An embedded message. Its occurrences are merged, that is read one after the other. -/
def message {M : Type} (codec : Codec M) : Kind (Option M) where
  emit
    | none => []
    | some m => [.bytes (codec.encode m)]
  read ws := (ws.mapM readBytes).bind fun parts =>
    if parts = [] then some none else (codec.decode parts.flatten).map some
  read_emit m small := by
    cases m with
    | none => rfl
    | some m =>
      have short : (codec.encode m).length < 4294967296 := small _ List.mem_cons_self
      simp [readBytes, codec.decode_encode m short]

def messages {M : Type} (codec : Codec M) : Kind (List M) where
  emit ms := ms.map fun m => .bytes (codec.encode m)
  read ws := ws.mapM fun w => (readBytes w).bind codec.decode
  read_emit ms small := mapM_write ms fun m member =>
    codec.decode_encode m (small _ (List.mem_map_of_mem member))

end Kind

end Proto3
