import SeamlessSwarm.Lib.Text

/-! Lossy decoding of well-formed UTF-8. Each character is read back from its own
encoding, whatever follows it, so that decoding the bytes of a text gives the text. -/
namespace Text

section Widths
variable {n : Nat} (rest : Bytes)

theorem toNat_byte {n : Nat} (small : n < 256) : (UInt8.ofNat n).toNat = n :=
  UInt8.toNat_ofNat_of_lt' small

theorem isContinuation_byte (n : Nat) : isContinuation (UInt8.ofNat (n % 64 + 128)) = true := by
  have value : (UInt8.ofNat (n % 64 + 128)).toNat = n % 64 + 128 := toNat_byte (by omega)
  rw [isContinuation, value, decide_eq_true_iff]
  omega

theorem nextChar_two (low : 128 ≤ n) (high : n < 2048) :
    nextChar (UInt8.ofNat (n / 64 % 32 + 192)) (UInt8.ofNat (n % 64 + 128) :: rest) =
      (Char.ofNat n, rest) := by
  have first : (UInt8.ofNat (n / 64 % 32 + 192)).toNat = n / 64 % 32 + 192 := toNat_byte (by omega)
  have second : (UInt8.ofNat (n % 64 + 128)).toNat = n % 64 + 128 := toNat_byte (by omega)
  have wide : ¬ n / 64 % 32 + 192 < 128 := by omega
  have width : charWidth (UInt8.ofNat (n / 64 % 32 + 192)) = some 2 := by
    rw [charWidth, first, if_pos (by omega)]
  have value : (n / 64 % 32 + 192) % 32 * 64 + (n % 64 + 128) % 64 = n := by omega
  simp only [nextChar, first, wide, if_false, width, isContinuation_byte, if_true, second, value]

theorem secondAllowed_three (low : 2048 ≤ n) (high : n < 65536) (scalar : n < 55296 ∨ 57344 ≤ n) :
    secondAllowed (UInt8.ofNat (n / 4096 % 16 + 224)) (UInt8.ofNat (n / 64 % 64 + 128)) = true := by
  have first : (UInt8.ofNat (n / 4096 % 16 + 224)).toNat = n / 4096 % 16 + 224 :=
    toNat_byte (by omega)
  have second : (UInt8.ofNat (n / 64 % 64 + 128)).toNat = n / 64 % 64 + 128 := toNat_byte (by omega)
  unfold secondAllowed
  rw [first]
  split
  next overlong => simp only [second, Bool.and_eq_true, decide_eq_true_iff]; omega
  next surrogate => simp only [second, Bool.and_eq_true, decide_eq_true_iff]; omega
  next => omega
  next => omega
  next => exact isContinuation_byte (n / 64)

theorem nextChar_three (low : 2048 ≤ n) (high : n < 65536) (scalar : n < 55296 ∨ 57344 ≤ n) :
    nextChar (UInt8.ofNat (n / 4096 % 16 + 224))
        (UInt8.ofNat (n / 64 % 64 + 128) :: UInt8.ofNat (n % 64 + 128) :: rest) =
      (Char.ofNat n, rest) := by
  have first : (UInt8.ofNat (n / 4096 % 16 + 224)).toNat = n / 4096 % 16 + 224 :=
    toNat_byte (by omega)
  have second : (UInt8.ofNat (n / 64 % 64 + 128)).toNat = n / 64 % 64 + 128 := toNat_byte (by omega)
  have third : (UInt8.ofNat (n % 64 + 128)).toNat = n % 64 + 128 := toNat_byte (by omega)
  have wide : ¬ n / 4096 % 16 + 224 < 128 := by omega
  have width : charWidth (UInt8.ofNat (n / 4096 % 16 + 224)) = some 3 := by
    rw [charWidth, first, if_neg (by omega), if_pos (by omega)]
  have value : (n / 4096 % 16 + 224) % 16 * 4096 + (n / 64 % 64 + 128) % 64 * 64 +
      (n % 64 + 128) % 64 = n := by omega
  simp only [nextChar, first, wide, if_false, width, secondAllowed_three low high scalar, if_true,
    isContinuation_byte, second, third, value]

theorem secondAllowed_four (low : 65536 ≤ n) (high : n < 1114112) :
    secondAllowed (UInt8.ofNat (n / 262144 % 8 + 240)) (UInt8.ofNat (n / 4096 % 64 + 128)) =
      true := by
  have first : (UInt8.ofNat (n / 262144 % 8 + 240)).toNat = n / 262144 % 8 + 240 :=
    toNat_byte (by omega)
  have second : (UInt8.ofNat (n / 4096 % 64 + 128)).toNat = n / 4096 % 64 + 128 :=
    toNat_byte (by omega)
  unfold secondAllowed
  rw [first]
  split
  next => omega
  next => omega
  next overlong => simp only [second, Bool.and_eq_true, decide_eq_true_iff]; omega
  next beyond => simp only [second, Bool.and_eq_true, decide_eq_true_iff]; omega
  next => exact isContinuation_byte (n / 4096)

theorem nextChar_four (low : 65536 ≤ n) (high : n < 1114112) :
    nextChar (UInt8.ofNat (n / 262144 % 8 + 240))
        (UInt8.ofNat (n / 4096 % 64 + 128) :: UInt8.ofNat (n / 64 % 64 + 128) ::
          UInt8.ofNat (n % 64 + 128) :: rest) =
      (Char.ofNat n, rest) := by
  have first : (UInt8.ofNat (n / 262144 % 8 + 240)).toNat = n / 262144 % 8 + 240 :=
    toNat_byte (by omega)
  have second : (UInt8.ofNat (n / 4096 % 64 + 128)).toNat = n / 4096 % 64 + 128 :=
    toNat_byte (by omega)
  have third : (UInt8.ofNat (n / 64 % 64 + 128)).toNat = n / 64 % 64 + 128 := toNat_byte (by omega)
  have fourth : (UInt8.ofNat (n % 64 + 128)).toNat = n % 64 + 128 := toNat_byte (by omega)
  have wide : ¬ n / 262144 % 8 + 240 < 128 := by omega
  have width : charWidth (UInt8.ofNat (n / 262144 % 8 + 240)) = some 4 := by
    rw [charWidth, first, if_neg (by omega), if_neg (by omega), if_pos (by omega)]
  have value : (n / 262144 % 8 + 240) % 8 * 262144 + (n / 4096 % 64 + 128) % 64 * 4096 +
      (n / 64 % 64 + 128) % 64 * 64 + (n % 64 + 128) % 64 = n := by omega
  simp only [nextChar, first, wide, if_false, width, secondAllowed_four low high, if_true,
    isContinuation_byte, second, third, fourth, value]

end Widths

theorem scalar_value (c : Char) : c.toNat < 55296 ∨ 57344 ≤ c.toNat ∧ c.toNat < 1114112 := by
  rcases c.valid with low | ⟨above, high⟩
  · exact Or.inl low
  · exact Or.inr ⟨above, high⟩

theorem nextChar_encoded (c : Char) (rest : Bytes) :
    ∃ b tail, String.utf8EncodeChar c ++ rest = b :: tail ∧ nextChar b tail = (c, rest) := by
  have scalar : c.val.toNat < 55296 ∨ 57344 ≤ c.val.toNat ∧ c.val.toNat < 1114112 := scalar_value c
  have back : (Char.ofNat c.val.toNat, rest) = (c, rest) := congrArg (·, rest) (Char.ofNat_toNat c)
  unfold String.utf8EncodeChar
  dsimp only
  split
  next one =>
    have value : (UInt8.ofNat c.val.toNat).toNat = c.val.toNat := toNat_byte (by omega)
    have ascii : c.val.toNat < 128 := by omega
    refine ⟨_, _, rfl, ?_⟩
    simp only [nextChar, value, ascii, if_true]
    exact back
  next more =>
    split
    next two => exact ⟨_, _, rfl, (nextChar_two rest (by omega) (by omega)).trans back⟩
    next more =>
      split
      next three =>
        have read := nextChar_three rest (n := c.val.toNat) (by omega) (by omega) (by omega)
        exact ⟨_, _, rfl, read.trans back⟩
      next four =>
        have read := nextChar_four rest (n := c.val.toNat) (by omega) (by omega)
        exact ⟨_, _, rfl, read.trans back⟩

theorem lossyChars_encoded (chars : List Char) (fuel : Nat) (enough : chars.length ≤ fuel) :
    lossyChars fuel (chars.flatMap String.utf8EncodeChar) = chars := by
  induction chars generalizing fuel with
  | nil => cases fuel <;> rfl
  | cons c rest ih =>
    cases fuel with
    | zero => cases enough
    | succ fuel =>
      obtain ⟨b, tail, split, read⟩ := nextChar_encoded c (rest.flatMap String.utf8EncodeChar)
      rw [List.flatMap_cons, split, lossyChars, read, ih fuel (Nat.le_of_succ_le_succ enough)]

theorem length_le_encoded (chars : List Char) :
    chars.length ≤ (chars.flatMap String.utf8EncodeChar).length := by
  induction chars with
  | nil => exact Nat.le_refl 0
  | cons c rest ih =>
    have filled : 0 < (String.utf8EncodeChar c).length :=
      List.length_pos_iff.mpr String.utf8EncodeChar_ne_nil
    rw [List.flatMap_cons, List.length_append, List.length_cons]
    omega

theorem fromUtf8Lossy_stringBytes (text : String) :
    fromUtf8Lossy (Hex.stringBytes text) = text := by
  have chars := lossyChars_encoded text.toList _ (length_le_encoded text.toList)
  rw [fromUtf8Lossy, Hex.stringBytes, chars, String.ofList_toList]

end Text
