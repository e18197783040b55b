import Mathlib.Data.List.DropRight
import Mathlib.Data.String.Basic
import SeamlessSwarm.Lib.Bytes

/-! Text: lossy UTF-8 decoding with one replacement character for each maximal
invalid piece and strict decoding, white space, character boundaries, and pieces
of strings. -/
namespace Text

def isContinuation (b : UInt8) : Bool := b.toNat / 64 = 2

def charWidth (b : UInt8) : Option Nat :=
  if 194 ≤ b.toNat ∧ b.toNat ≤ 223 then some 2
  else if 224 ≤ b.toNat ∧ b.toNat ≤ 239 then some 3
  else if 240 ≤ b.toNat ∧ b.toNat ≤ 244 then some 4
  else none

/-- The second bytes that a leading byte of three or four allows: overlong forms,
surrogates and values past the last character are refused here. -/
def secondAllowed (lead second : UInt8) : Bool :=
  match lead.toNat with
  | 224 => 160 ≤ second.toNat && second.toNat ≤ 191
  | 237 => 128 ≤ second.toNat && second.toNat ≤ 159
  | 240 => 144 ≤ second.toNat && second.toNat ≤ 191
  | 244 => 128 ≤ second.toNat && second.toNat ≤ 143
  | _ => isContinuation second

def replacement : Char := Char.ofNat 65533

/-- The character that starts with `b`, or the replacement of the invalid piece
that starts there, and the bytes after it. -/
def nextChar (b : UInt8) (rest : Bytes) : Char × Bytes :=
  if b.toNat < 128 then (Char.ofNat b.toNat, rest)
  else
    match charWidth b, rest with
    | some 2, c :: rest =>
      if isContinuation c then (Char.ofNat (b.toNat % 32 * 64 + c.toNat % 64), rest)
      else (replacement, c :: rest)
    | some 3, c :: rest =>
      if secondAllowed b c then
        match rest with
        | d :: rest =>
          if isContinuation d then
            (Char.ofNat (b.toNat % 16 * 4096 + c.toNat % 64 * 64 + d.toNat % 64), rest)
          else (replacement, d :: rest)
        | [] => (replacement, [])
      else (replacement, c :: rest)
    | some 4, c :: rest =>
      if secondAllowed b c then
        match rest with
        | d :: rest =>
          if isContinuation d then
            match rest with
            | e :: rest =>
              if isContinuation e then
                (Char.ofNat (b.toNat % 8 * 262144 + c.toNat % 64 * 4096 + d.toNat % 64 * 64 +
                  e.toNat % 64), rest)
              else (replacement, e :: rest)
            | [] => (replacement, [])
          else (replacement, d :: rest)
        | [] => (replacement, [])
      else (replacement, c :: rest)
    | _, rest => (replacement, rest)

def lossyChars : Nat → Bytes → List Char
  | _, [] => []
  | 0, _ => []
  | fuel + 1, b :: rest => (nextChar b rest).1 :: lossyChars fuel (nextChar b rest).2

/-- Every character takes at least one byte, so the length is fuel enough. -/
def fromUtf8Lossy (bytes : Bytes) : String := String.ofList (lossyChars bytes.length bytes)

/-- Strict decoding: bytes that are not UTF-8 give nothing. -/
def fromUtf8 (bytes : Bytes) : Option String := String.fromUTF8? bytes.toByteArray

def isWhitespace (c : Char) : Bool :=
  let n := c.toNat
  (9 ≤ n && n ≤ 13) || n = 32 || n = 133 || n = 160 || n = 5760 || (8192 ≤ n && n ≤ 8202) ||
    n = 8232 || n = 8233 || n = 8239 || n = 8287 || n = 12288

def isBlank (text : String) : Bool := text.toList.all isWhitespace

def trim (text : String) : String :=
  String.ofList ((text.toList.dropWhile isWhitespace).rdropWhile isWhitespace)

def boundaryAt : List Char → Nat → Bool
  | _, 0 => true
  | [], _ => false
  | c :: rest, n => c.utf8Size ≤ n && boundaryAt rest (n - c.utf8Size)

def isCharBoundary (text : String) (n : Nat) : Bool := boundaryAt text.toList n

def splitChars (sep : Char) : List Char → List (List Char)
  | [] => [[]]
  | c :: rest =>
    if c = sep then [] :: splitChars sep rest
    else
      match splitChars sep rest with
      | [] => [[c]]
      | word :: words => (c :: word) :: words

/-- The pieces of a string between its separators, empty ones included. -/
def split (sep : Char) (text : String) : List String :=
  (splitChars sep text.toList).map String.ofList

def replaceChar (old new : Char) (text : String) : String :=
  String.ofList (text.toList.map fun c => if c = old then new else c)

def stripPrefix (start text : String) : Option String :=
  if start.toList <+: text.toList then some (String.ofList (text.toList.drop start.toList.length))
  else none

def stripSuffix (ending text : String) : Option String :=
  if ending.toList <:+ text.toList then
    some (String.ofList (text.toList.take (text.toList.length - ending.toList.length)))
  else none

/-- The text before the first line feed, without a carriage return in front of it. -/
def firstLine (text : String) : String :=
  let line := text.toList.takeWhile (· ≠ '\n')
  if line.length < text.toList.length && line.getLast? == some '\r' then String.ofList line.dropLast
  else String.ofList line

theorem stripPrefix_append (start rest : String) : stripPrefix start (start ++ rest) =
    some rest := by
  unfold stripPrefix
  rw [String.toList_append, if_pos (List.prefix_append _ _), List.drop_left, String.ofList_toList]

theorem stripPrefix_of_heads {start text : String} {a b : Char}
    (first : start.toList.head? = some a)
    (other : text.toList.head? = some b) (differ : a ≠ b) : stripPrefix start text = none := by
  apply if_neg
  rintro ⟨rest, same⟩
  rw [← same, List.head?_append, first] at other
  exact differ (Option.some.inj other)

theorem stripSuffix_append (text ending : String) : stripSuffix ending (text ++ ending) =
    some text := by
  unfold stripSuffix
  rw [String.toList_append, if_pos (List.suffix_append _ _), List.length_append,
    Nat.add_sub_cancel, List.take_left, String.ofList_toList]

theorem append_right_cancel {text other ending : String} (same : text ++ ending = other ++ ending) :
    text = other := by
  have stripped := congrArg (stripSuffix ending) same
  rw [stripSuffix_append, stripSuffix_append] at stripped
  exact Option.some.inj stripped

theorem ne_append_of_getLast? {text ending : String} {c : Char}
    (last : ending.toList.getLast? = some c) (other : text.toList.getLast? ≠ some c)
    (start : String) :
    text ≠ start ++ ending := by
  rintro rfl
  apply other
  rw [String.toList_append, List.getLast?_append, last, Option.some_or]

theorem isDigit_of_mem_repr (n : Nat) : ∀ c ∈ n.repr.toList, c.isDigit = true := by
  intro c member
  rw [Nat.toList_repr] at member
  exact Nat.isDigit_of_mem_toDigits (by decide) (by decide) member

theorem isDigit_of_getLast?_repr (start : List Char) (n : Nat) :
    ∀ c ∈ (start ++ n.repr.toList).getLast?, c.isDigit = true := by
  intro c last
  have filled : n.repr.toList ≠ [] := by
    rw [Nat.toList_repr]
    exact List.length_pos_iff.mp Nat.length_toDigits_pos
  rw [List.getLast?_append, List.getLast?_eq_some_getLast filled, Option.some_or,
    ← List.getLast?_eq_some_getLast filled] at last
  exact isDigit_of_mem_repr n c (List.mem_of_getLast? last)

theorem isWhitespace_of_isDigit {c : Char} (digit : c.isDigit = true) : isWhitespace c = false := by
  have bounds : 48 ≤ c.toNat ∧ c.toNat ≤ 57 := by
    rw [Char.isDigit, Bool.and_eq_true, decide_eq_true_iff, decide_eq_true_iff] at digit
    exact ⟨UInt32.le_iff_toNat_le.mp digit.1, UInt32.le_iff_toNat_le.mp digit.2⟩
  unfold isWhitespace
  simp only [Bool.or_eq_false_iff, Bool.and_eq_false_iff, decide_eq_false_iff_not]
  omega

theorem getLast?_toString_int (i : Int) {c : Char} (letter : c.isDigit = false) :
    (toString i).toList.getLast? ≠ some c := by
  have ends (start : List Char) (n : Nat) : (start ++ n.repr.toList).getLast? ≠ some c := by
    intro last
    have digit := isDigit_of_getLast?_repr start n c last
    rw [letter] at digit
    cases digit
  cases i with
  | ofNat n => exact ends [] n
  | negSucc n =>
    have signed : (toString (Int.negSucc n)).toList = "-".toList ++ (n + 1).repr.toList :=
      String.toList_append
    rw [signed]
    exact ends _ _

theorem toByteArray_stringBytes (text : String) :
    (Hex.stringBytes text).toByteArray = text.toByteArray :=
  String.utf8Encode_toList

theorem fromUtf8_eq_some_iff (bytes : Bytes) (text : String) :
    fromUtf8 bytes = some text ↔ bytes = Hex.stringBytes text := by
  have coded : bytes = Hex.stringBytes text ↔ bytes.toByteArray = text.toByteArray := by
    rw [← toByteArray_stringBytes, List.toByteArray_inj]
  rw [coded, fromUtf8, String.fromUTF8?]
  split
  next valid =>
    rw [Option.some_inj, ← String.toByteArray_inj]
    rfl
  next invalid =>
    refine iff_of_false nofun ?_
    intro same
    exact invalid (same ▸ text.isValidUTF8)

theorem splitChars_eq_splitOn (sep : Char) (chars : List Char) :
    splitChars sep chars = chars.splitOn sep := by
  induction chars with
  | nil => rfl
  | cons c rest ih =>
    rw [splitChars, List.splitOn_cons_eq_if_modifyHead, ih]
    by_cases isSep : c = sep
    · simp [isSep]
    · simp only [isSep, if_false, beq_iff_eq]
      cases pieces : rest.splitOn sep with
      | nil => exact absurd pieces (List.splitOn_ne_nil sep rest)
      | cons word words => rfl

theorem sep_not_mem_piece (sep : Char) (chars : List Char) :
    ∀ word ∈ splitChars sep chars, sep ∉ word := by
  induction chars with
  | nil => simp [splitChars]
  | cons c rest ih =>
    rw [splitChars]
    by_cases isSep : c = sep
    · simpa [isSep] using ih
    · rw [if_neg isSep]
      split
      next => simpa using Ne.symm isSep
      next word words pieces =>
        rw [pieces] at ih
        intro piece member
        rcases List.mem_cons.mp member with rfl | later
        · simp only [List.mem_cons, not_or]
          exact ⟨Ne.symm isSep, ih word List.mem_cons_self⟩
        · exact ih piece (List.mem_cons_of_mem word later)

theorem split_eq_iff (sep : Char) (text : String) (pieces : List String) :
    split sep text = pieces ↔ pieces ≠ [] ∧ (∀ piece ∈ pieces, sep ∉ piece.toList) ∧
      (String.singleton sep).intercalate pieces = text := by
  have lists (words : List (List Char)) : (words.map String.ofList).map String.toList = words := by
    simp [Function.comp_def]
  constructor
  · rintro rfl
    refine ⟨?_, ?_, ?_⟩
    · simp [split, splitChars_eq_splitOn]
    · intro piece member
      obtain ⟨word, inside, rfl⟩ := List.mem_map.mp member
      rw [String.toList_ofList]
      exact sep_not_mem_piece sep text.toList word inside
    · rw [← String.toList_inj, String.toList_intercalate, String.toList_singleton, split, lists,
        splitChars_eq_splitOn, List.intercalate_splitOn]
  · rintro ⟨filled, plain, rfl⟩
    have words : ∀ word ∈ pieces.map String.toList, sep ∉ word := by
      simpa using plain
    rw [split, splitChars_eq_splitOn, String.toList_intercalate, String.toList_singleton,
      List.splitOn_intercalate sep words (by simpa using filled), List.map_map]
    simp [Function.comp_def]

theorem not_whitespace_at {atEnd : Option Char} {c : Char} (there : atEnd = some c)
    (visible : isWhitespace c = false) : ∀ d ∈ atEnd, isWhitespace d = false := by
  intro d member
  rw [there] at member
  cases member
  exact visible

theorem trim_eq_self {text : String} (left : ∀ c ∈ text.toList.head?, isWhitespace c = false)
    (right : ∀ c ∈ text.toList.getLast?, isWhitespace c = false) : trim text = text := by
  have start : text.toList.dropWhile isWhitespace = text.toList := by
    cases chars : text.toList with
    | nil => rfl
    | cons c rest =>
      have first := left c (by simp [chars])
      exact List.dropWhile_cons_of_neg (by simp [first])
  have final : text.toList.rdropWhile isWhitespace = text.toList := by
    apply List.rdropWhile_eq_self_iff.mpr
    intro filled
    simp [right _ (List.getLast?_eq_some_getLast filled)]
  rw [trim, start, final, String.ofList_toList]

theorem boundaryAt_iff (chars : List Char) (n : Nat) :
    boundaryAt chars n = true ↔ ∃ k, String.utf8Len (chars.take k) = n := by
  induction chars generalizing n with
  | nil =>
    cases n with
    | zero => exact iff_of_true rfl ⟨0, rfl⟩
    | succ n => simp [boundaryAt]
  | cons c rest ih =>
    cases n with
    | zero => exact iff_of_true rfl ⟨0, rfl⟩
    | succ n =>
      rw [boundaryAt, Bool.and_eq_true, decide_eq_true_iff, ih]
      · constructor
        · rintro ⟨fits, k, taken⟩
          refine ⟨k + 1, ?_⟩
          rw [List.take_succ_cons, String.utf8Len_cons]
          omega
        · rintro ⟨k, taken⟩
          cases k with
          | zero => cases taken
          | succ k =>
            rw [List.take_succ_cons, String.utf8Len_cons] at taken
            exact ⟨by omega, k, by omega⟩
      · exact nofun

theorem isCharBoundary_iff (text : String) (n : Nat) :
    isCharBoundary text n = true ↔ ∃ k, String.utf8Len (text.toList.take k) = n :=
  boundaryAt_iff text.toList n

theorem isCharBoundary_end (text : String) : isCharBoundary text text.utf8ByteSize = true := by
  apply (isCharBoundary_iff text _).mpr
  exact ⟨text.toList.length, by rw [List.take_length, String.utf8Len_toList]⟩

end Text
