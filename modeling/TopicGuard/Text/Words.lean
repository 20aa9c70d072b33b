import TopicGuard.Text.Blank

/-!
# Words and fields

A line can be cut in two ways.  Its `words` are the maximal runs of visible
characters.  Its `fields`, at most a given number of them, are its first words
followed by one last field that keeps the blanks inside it, which is how a topic
that contains spaces is written on a line.
-/

namespace TopicGuard.Text

/-- The maximal runs of visible characters, in order. -/
def words (text : List Char) : List (List Char) :=
  (text.splitOnP isBlank).filter (fun word => !word.isEmpty)

/-- The fields of a text that neither starts nor ends with a blank. -/
def fieldsOfTrimmed : Nat → List Char → List (List Char)
  | 0, _ => []
  | _ + 1, [] => []
  | 1, text => [text]
  | limit + 2, text =>
      text.takeWhile isInk ::
        fieldsOfTrimmed (limit + 1) (trimStart (text.dropWhile isInk))

/-- At most `limit` fields of a line, the last of which keeps its inner blanks. -/
def fields (limit : Nat) (line : List Char) : List (List Char) :=
  fieldsOfTrimmed limit (trim line)

@[simp]
theorem words_nil : words [] = [] :=
  rfl

@[simp]
theorem fields_zero (line : List Char) : fields 0 line = [] := by
  simp [fields, fieldsOfTrimmed]

/-- No word is empty. -/
theorem ne_nil_of_mem_words {text word : List Char} (member : word ∈ words text) :
    word ≠ [] := by
  simp only [words, List.mem_filter] at member
  intro empty
  simp [empty] at member

end TopicGuard.Text
