import SeamlessSwarm.Lib.Text

/-! Lines and words of a text. A line ends at a line feed, with or without a carriage
return before it, and the last one need not be ended; words are what stands between
white space. -/
namespace Text

def withoutCr (line : List Char) : List Char :=
  if line.getLast? = some '\r' then line.dropLast else line

/-- The pieces between line feeds as lines: only the last piece has no line feed. -/
def endedLines : List (List Char) → List (List Char)
  | [] => []
  | [last] => if last = [] then [] else [last]
  | line :: rest => withoutCr line :: endedLines rest

def lines (text : String) : List String :=
  (endedLines (text.toList.splitOn '\n')).map String.ofList

def words (text : String) : List String :=
  ((text.toList.splitOnP isWhitespace).filter (· ≠ [])).map String.ofList

/-- The text of these lines, each ended by a line feed. -/
def unlines (rows : List String) : String :=
  String.ofList (rows.flatMap fun row => row.toList ++ ['\n'])

def Plain (row : String) : Prop := '\n' ∉ row.toList ∧ row.toList.getLast? ≠ some '\r'

instance (row : String) : Decidable (Plain row) := inferInstanceAs (Decidable (_ ∧ _))

theorem endedLines_cons (line : List Char) {rest : List (List Char)} (more : rest ≠ []) :
    endedLines (line :: rest) = withoutCr line :: endedLines rest := by
  cases rest with
  | nil => contradiction
  | cons next rest => rfl

theorem lines_cons {row : String} (plain : Plain row) (rest : List Char) :
    lines (String.ofList (row.toList ++ '\n' :: rest)) = row :: lines (String.ofList rest) := by
  have split := List.splitOn_append_cons_self_of_not_mem plain.1 rest
  have kept : withoutCr row.toList = row.toList := if_neg plain.2
  simp only [lines, String.toList_ofList, split, endedLines_cons _ (List.splitOn_ne_nil '\n' rest),
    kept, List.map_cons, String.ofList_toList]

theorem lines_unlines {rows : List String} (plain : ∀ row ∈ rows, Plain row) :
    lines (unlines rows) = rows := by
  induction rows with
  | nil => rfl
  | cons row rest ih =>
    obtain ⟨head, tail⟩ := List.forall_mem_cons.mp plain
    have first := lines_cons head (rest.flatMap fun row => row.toList ++ ['\n'])
    rw [unlines, List.flatMap_cons, List.append_assoc, List.singleton_append, first]
    exact congrArg (row :: ·) (ih tail)

theorem head_words {word : String} (filled : word.toList ≠ [])
    (solid : ∀ c ∈ word.toList, isWhitespace c = false) {rest : List Char}
    (apart : ∀ c ∈ rest.head?, isWhitespace c = true) :
    (words (String.ofList (word.toList ++ rest))).head? = some word := by
  have kept : decide (word.toList ≠ []) = true := decide_eq_true filled
  cases rest with
  | nil =>
    have whole := List.splitOnP_eq_singleton solid
    simp only [words, List.append_nil, whole, List.filter_cons, kept, if_true, List.map_cons,
      List.head?_cons, String.ofList_toList]
  | cons c rest =>
    have split := List.splitOnP_append_cons_of_forall_mem solid c (apart c rfl) rest
    simp only [words, String.toList_ofList, split, List.filter_cons, kept, if_true, List.map_cons,
      List.head?_cons, String.ofList_toList]

/-! Trimmed texts. -/

theorem trim_ends (text : String) :
    (∀ c ∈ (trim text).toList.head?, isWhitespace c = false) ∧
      ∀ c ∈ (trim text).toList.getLast?, isWhitespace c = false := by
  rw [trim, String.toList_ofList]
  generalize begun : text.toList.dropWhile isWhitespace = chars
  constructor
  · intro c first
    have inside : chars.rdropWhile isWhitespace <+: chars :=
      List.rdropWhile_prefix isWhitespace chars
    have begins : [c] <+: chars := (List.singleton_prefix_iff_head?_eq_some.mpr first).trans inside
    have visible := List.head?_dropWhile_not isWhitespace text.toList
    rw [begun, List.singleton_prefix_iff_head?_eq_some.mp begins] at visible
    exact visible
  · intro c last
    have filled : chars.rdropWhile isWhitespace ≠ [] := by
      rintro empty
      rw [empty] at last
      cases last
    have visible := List.rdropWhile_last_not isWhitespace chars filled
    rw [List.getLast?_eq_some_getLast filled] at last
    cases last
    exact Bool.eq_false_iff.mpr visible

theorem trim_trim (text : String) : trim (trim text) = trim text :=
  trim_eq_self (trim_ends text).1 (trim_ends text).2

end Text
