import Mathlib.Algebra.Group.Nat.Defs

/-! Byte strings: the big-endian 32-bit length word and hexadecimal text. -/

abbrev Bytes := List UInt8

namespace BigEndian

/-- The four bytes of a length cast to 32 bits; larger lengths lose their high part. -/
def toBeBytes (n : Nat) : Bytes :=
  [UInt8.ofNat (n / 16777216), UInt8.ofNat (n / 65536), UInt8.ofNat (n / 256), UInt8.ofNat n]

def fromBeBytes (a b c d : UInt8) : Nat :=
  a.toNat * 16777216 + b.toNat * 65536 + c.toNat * 256 + d.toNat

theorem fromBeBytes_toBeBytes (n : Nat) :
    fromBeBytes (UInt8.ofNat (n / 16777216)) (UInt8.ofNat (n / 65536)) (UInt8.ofNat (n / 256))
      (UInt8.ofNat n) = n % 4294967296 := by
  simp only [fromBeBytes, UInt8.toNat_ofNat']
  omega

theorem toBeBytes_fromBeBytes (a b c d : UInt8) : toBeBytes (fromBeBytes a b c d) =
    [a, b, c, d] := by
  have hb := b.toNat_lt
  have hc := c.toNat_lt
  have hd := d.toNat_lt
  have byte (x : UInt8) (n : Nat) (same : n % 256 = x.toNat) : UInt8.ofNat n = x := by
    apply UInt8.toNat.inj
    rw [UInt8.toNat_ofNat', same]
  simp only [toBeBytes, fromBeBytes, List.cons.injEq, and_true]
  refine ⟨byte a _ ?_, byte b _ ?_, byte c _ ?_, byte d _ ?_⟩
  · have ha := a.toNat_lt
    omega
  · omega
  · omega
  · omega

theorem fromBeBytes_lt (a b c d : UInt8) : fromBeBytes a b c d < 4294967296 := by
  have ha := a.toNat_lt
  have hb := b.toNat_lt
  have hc := c.toNat_lt
  have hd := d.toNat_lt
  simp only [fromBeBytes]
  omega

/-! Numbers of any width in bytes. -/

def bytesOf : Nat → Nat → Bytes
  | 0, _ => []
  | width + 1, n => bytesOf width (n / 256) ++ [UInt8.ofNat n]

def numberOf (bytes : Bytes) : Nat := bytes.foldl (fun n b => n * 256 + b.toNat) 0

@[simp] theorem bytesOf_length (width n : Nat) : (bytesOf width n).length = width := by
  induction width generalizing n with
  | zero => rfl
  | succ width ih => rw [bytesOf, List.length_append, ih, List.length_singleton]

theorem numberOf_concat (bytes : Bytes) (b : UInt8) :
    numberOf (bytes ++ [b]) = numberOf bytes * 256 + b.toNat := by
  rw [numberOf, List.foldl_append]
  rfl

theorem numberOf_bytesOf (width n : Nat) (fits : n < 256 ^ width) :
    numberOf (bytesOf width n) = n := by
  induction width generalizing n with
  | zero =>
    have zero : n = 0 := by simpa using fits
    rw [zero]
    rfl
  | succ width ih =>
    have higher : n / 256 < 256 ^ width := by
      apply Nat.div_lt_of_lt_mul
      rwa [Nat.mul_comm, ← Nat.pow_succ]
    rw [bytesOf, numberOf_concat, ih _ higher, UInt8.toNat_ofNat']
    omega

end BigEndian

/-! Lower-case encoding; decoding takes both cases and refuses odd lengths. -/
namespace Hex

inductive FromHexError where
  | oddLength
  | invalidHexCharacter (c : UInt8) (index : Nat)
  deriving DecidableEq, Repr

def hexDigit (n : Nat) : UInt8 := UInt8.ofNat (if n < 10 then 48 + n else 87 + n)

def hexValue (c : UInt8) : Option Nat :=
  if 48 ≤ c.toNat ∧ c.toNat ≤ 57 then some (c.toNat - 48)
  else if 97 ≤ c.toNat ∧ c.toNat ≤ 102 then some (c.toNat - 87)
  else if 65 ≤ c.toNat ∧ c.toNat ≤ 70 then some (c.toNat - 55)
  else none

def encodeBytes : Bytes → Bytes
  | [] => []
  | b :: rest => hexDigit (b.toNat / 16) :: hexDigit (b.toNat % 16) :: encodeBytes rest

def decodePairs (index : Nat) : Bytes → Except FromHexError Bytes
  | [] => .ok []
  | [_] => .error .oddLength
  | hi :: lo :: rest =>
    match hexValue hi, hexValue lo with
    | none, _ => .error (.invalidHexCharacter hi index)
    | some _, none => .error (.invalidHexCharacter lo (index + 1))
    | some h, some l =>
      match decodePairs (index + 2) rest with
      | .ok bytes => .ok (UInt8.ofNat (h * 16 + l) :: bytes)
      | .error e => .error e

/-- The length is checked before any character. -/
def decodeBytes (text : Bytes) : Except FromHexError Bytes :=
  if text.length % 2 ≠ 0 then .error .oddLength else decodePairs 0 text

theorem hexValue_hexDigit : ∀ n, n < 16 → hexValue (hexDigit n) = some n := by decide

theorem encodeBytes_length (bytes : Bytes) : (encodeBytes bytes).length = 2 * bytes.length := by
  induction bytes with
  | nil => rfl
  | cons b rest ih => simp only [encodeBytes, List.length_cons, ih]; omega

theorem decodePairs_encodeBytes (index : Nat) (bytes : Bytes) :
    decodePairs index (encodeBytes bytes) = .ok bytes := by
  induction bytes generalizing index with
  | nil => rfl
  | cons b rest ih =>
    have small := b.toNat_lt
    have high := hexValue_hexDigit (b.toNat / 16) (by omega)
    have low := hexValue_hexDigit (b.toNat % 16) (by omega)
    have back : UInt8.ofNat (b.toNat / 16 * 16 + b.toNat % 16) = b := by
      rw [Nat.div_add_mod', UInt8.ofNat_toNat]
    simp only [encodeBytes, decodePairs, high, low, ih, back]

theorem decodeBytes_encodeBytes (bytes : Bytes) : decodeBytes (encodeBytes bytes) = .ok bytes := by
  have even : (encodeBytes bytes).length % 2 = 0 := by rw [encodeBytes_length]; omega
  simp only [decodeBytes, even, ne_eq, not_true_eq_false, if_false, decodePairs_encodeBytes]

def asciiString (text : Bytes) : String := String.ofList (text.map fun b => Char.ofNat b.toNat)

def stringBytes (text : String) : Bytes := text.toList.flatMap String.utf8EncodeChar

theorem stringBytes_length_le (text : String) : (stringBytes text).length ≤ 4 * text.length := by
  rw [stringBytes, ← String.length_toList]
  induction text.toList with
  | nil => exact Nat.le_refl 0
  | cons c rest ih =>
    have one : (String.utf8EncodeChar c).length ≤ 4 := by
      rw [String.length_utf8EncodeChar]
      exact Char.utf8Size_le_four c
    rw [List.flatMap_cons, List.length_append, List.length_cons]
    omega

def encode (bytes : Bytes) : String := asciiString (encodeBytes bytes)

def decode (text : String) : Except FromHexError Bytes := decodeBytes (stringBytes text)

theorem hexDigit_ascii : ∀ n, n < 16 → (hexDigit n).toNat < 128 := by decide

theorem encodeBytes_ascii (bytes : Bytes) : ∀ c ∈ encodeBytes bytes, c.toNat < 128 := by
  induction bytes with
  | nil => simp [encodeBytes]
  | cons b rest ih =>
    have small := b.toNat_lt
    simp only [encodeBytes, List.mem_cons]
    rintro c (rfl | rfl | member)
    · exact hexDigit_ascii _ (by omega)
    · exact hexDigit_ascii _ (by omega)
    · exact ih c member

theorem utf8EncodeChar_ascii (b : UInt8) (ascii : b.toNat < 128) :
    String.utf8EncodeChar (Char.ofNat b.toNat) = [b] := by
  have valid : b.toNat.isValidChar := Or.inl (by omega)
  have value : (Char.ofNat b.toNat).val.toNat = b.toNat := by
    rw [Char.ofNat, dif_pos valid]
    rfl
  rw [String.utf8EncodeChar.eq_1, value, if_pos (by omega), UInt8.ofNat_toNat]

theorem stringBytes_asciiString (text : Bytes) (ascii : ∀ c ∈ text, c.toNat < 128) :
    stringBytes (asciiString text) = text := by
  simp only [stringBytes, asciiString, String.toList_ofList]
  induction text with
  | nil => rfl
  | cons b rest ih =>
    have head := utf8EncodeChar_ascii b (ascii b List.mem_cons_self)
    have tail := ih (fun c member => ascii c (List.mem_cons_of_mem b member))
    rw [List.map_cons, List.flatMap_cons, head, tail]
    rfl

@[simp] theorem decode_encode (bytes : Bytes) : decode (encode bytes) = .ok bytes := by
  rw [decode, encode, stringBytes_asciiString _ (encodeBytes_ascii bytes), decodeBytes_encodeBytes]

end Hex
