import Mathlib.Data.List.DropRight
import Mathlib.Logic.Function.Iterate
import TopicGuard.Text.Words

/-!
# Words against fields

The two ways of cutting a line agree on where words begin and end.  The words of a
text are its first word and the words after it, and the fields of a line are its
first words followed by what is left of the line, trimmed.
-/

namespace TopicGuard.Text

/-- What follows the first word of a text. -/
def afterWord (text : List Char) : List Char :=
  (trimStart text).dropWhile isInk

/-! ## Words -/

/-- A blank at the start is in no word. -/
theorem words_cons_of_isBlank {c : Char} (blank : isBlank c = true) (rest : List Char) :
    words (c :: rest) = words rest := by
  simp [words, List.splitOnP_cons_eq_if_modifyHead, blank]

/-- A blank parts the words before it from those after it. -/
theorem words_append_cons_of_isBlank {c : Char} (blank : isBlank c = true)
    (first rest : List Char) :
    words (first ++ c :: rest) = words first ++ words rest := by
  simp [words, List.splitOnP_append_cons _ _ blank]

/-- What holds no blank is a word. -/
theorem words_of_forall_isInk {word : List Char} (nonempty : word ≠ [])
    (ink : ∀ c ∈ word, isInk c = true) : words word = [word] := by
  have visible : ∀ c ∈ word, isBlank c = false := by
    intro c member
    simpa using ink c member
  simp [words, List.splitOnP_eq_singleton visible, nonempty]

@[simp]
theorem words_trimStart (text : List Char) : words (trimStart text) = words text := by
  induction text with
  | nil => rfl
  | cons c rest ih =>
      by_cases blank : isBlank c = true
      · rw [words_cons_of_isBlank blank, ← ih, trimStart, List.dropWhile_cons_of_pos blank]
        rfl
      · rw [trimStart, List.dropWhile_cons_of_neg blank]

/-- What follows a word starts with a blank, unless it is empty. -/
theorem isBlank_of_afterWord_eq_cons {text rest : List Char} {c : Char}
    (after : afterWord text = c :: rest) : isBlank c = true := by
  have stopped := List.head?_dropWhile_not isInk (trimStart text)
  rw [← afterWord, after] at stopped
  simpa using stopped

/-- A text that is not blank starts with a word. -/
theorem takeWhile_isInk_ne_nil {text : List Char} (visible : trimStart text ≠ []) :
    (trimStart text).takeWhile isInk ≠ [] := by
  cases start_eq : trimStart text with
  | nil => exact absurd start_eq visible
  | cons c rest =>
      have stopped := List.head?_dropWhile_not isBlank text
      rw [← trimStart, start_eq] at stopped
      have ink : isBlank c = false := by simpa using stopped
      simp [ink]

/-- The words of a text are its first word and the words after it. -/
theorem words_eq_cons {text : List Char} (visible : trimStart text ≠ []) :
    words text = (trimStart text).takeWhile isInk :: words (afterWord text) := by
  have first_eq : words ((trimStart text).takeWhile isInk) =
      [(trimStart text).takeWhile isInk] :=
    words_of_forall_isInk (takeWhile_isInk_ne_nil visible)
      fun c member => List.mem_takeWhile_imp member
  have split_eq : trimStart text = (trimStart text).takeWhile isInk ++ afterWord text :=
    List.takeWhile_append_dropWhile.symm
  cases after : afterWord text with
  | nil =>
      rw [← words_trimStart, words_nil, ← first_eq]
      rw [after, List.append_nil] at split_eq
      rw [← split_eq]
  | cons c rest =>
      have blank := isBlank_of_afterWord_eq_cons after
      rw [after] at split_eq
      calc
        words text = words ((trimStart text).takeWhile isInk ++ c :: rest) := by
          rw [← split_eq, words_trimStart]
        _ = (trimStart text).takeWhile isInk :: words (c :: rest) := by
          rw [words_append_cons_of_isBlank blank, first_eq, words_cons_of_isBlank blank]
          rfl

/-- A text without words is blank. -/
theorem words_eq_nil_iff {text : List Char} : words text = [] ↔ trimStart text = [] := by
  constructor
  · intro none_found
    by_contra visible
    rw [words_eq_cons visible] at none_found
    contradiction
  · intro blank
    rw [← words_trimStart, blank, words_nil]

@[simp]
theorem words_afterWord (text : List Char) : words (afterWord text) = (words text).tail := by
  by_cases blank : trimStart text = []
  · rw [words_eq_nil_iff.mpr blank, afterWord, blank]
    rfl
  · rw [words_eq_cons blank, List.tail_cons]

/-- A word holds no blank. -/
theorem isInk_of_mem_of_mem_words {text word : List Char} {c : Char} (found : word ∈ words text)
    (member : c ∈ word) : isInk c = true := by
  induction words_eq : words text generalizing text with
  | nil =>
      rw [words_eq] at found
      contradiction
  | cons first others ih =>
      have visible : trimStart text ≠ [] := by
        intro blank
        rw [words_eq_nil_iff.mpr blank] at words_eq
        contradiction
      rw [words_eq_cons visible, List.mem_cons] at found
      rcases found with rfl | found
      · exact List.mem_takeWhile_imp member
      · refine ih found ?_
        rw [words_afterWord, words_eq, List.tail_cons]

theorem afterWord_cons_of_isBlank {c : Char} (blank : isBlank c = true) (rest : List Char) :
    afterWord (c :: rest) = afterWord rest := by
  rw [afterWord, trimStart, List.dropWhile_cons_of_pos blank]
  rfl

/-- What follows a word starts at the blank behind it. -/
theorem afterWord_append_cons {word : List Char} (is_word : words word = [word]) {c : Char}
    (blank : isBlank c = true) (rest : List Char) : afterWord (word ++ c :: rest) = c :: rest := by
  have found : word ∈ words word := by
    rw [is_word]
    exact List.mem_singleton_self word
  have ink : ∀ d ∈ word, isInk d = true := fun d => isInk_of_mem_of_mem_words found
  have start_eq : trimStart (word ++ c :: rest) = word ++ c :: rest := by
    cases word with
    | nil => exact absurd rfl (ne_nil_of_mem_words found)
    | cons first others =>
        have visible := ink first List.mem_cons_self
        rw [trimStart, List.cons_append, List.dropWhile_cons_of_neg (by simpa using visible)]
  rw [afterWord, start_eq, List.dropWhile_append_of_pos ink,
    List.dropWhile_cons_of_neg (by simpa using blank)]

/-- Whether a line says nothing is seen from its first word. -/
theorem isInert_iff_forall_head? {text : List Char} :
    isInert text = true ↔ ∀ word, (words text).head? = some word → word.head? = some '#' := by
  rw [isInert]
  cases start_eq : trimStart text with
  | nil => simp [words_eq_nil_iff.mpr start_eq]
  | cons c rest =>
      have visible : trimStart text ≠ [] := by
        rw [start_eq]
        exact List.cons_ne_nil c rest
      have ink := takeWhile_isInk_ne_nil visible
      rw [start_eq, List.takeWhile_cons] at ink
      have first : isInk c = true := by
        by_contra blank
        rw [if_neg blank] at ink
        contradiction
      rw [words_eq_cons visible, start_eq, List.takeWhile_cons, if_pos first]
      simp

/-- Whoever skips some words is left with the others. -/
theorem words_iterate_afterWord (count : Nat) (text : List Char) :
    words (afterWord^[count] text) = (words text).drop count := by
  induction count generalizing text with
  | zero => rfl
  | succ count ih =>
      rw [Function.iterate_succ_apply, ih, words_afterWord, List.drop_tail]

/-! ## Trimming -/

/-- Blanks are trimmed only behind the last word. -/
theorem trimEnd_append_of_forall_isInk {word : List Char} (ink : ∀ c ∈ word, isInk c = true)
    (rest : List Char) : trimEnd (word ++ rest) = word ++ trimEnd rest := by
  simp only [trimEnd, List.reverse_append, List.dropWhile_append]
  split
  · rename_i blank
    have word_eq : word.reverse.dropWhile isBlank = word.reverse := by
      refine List.dropWhile_eq_self_iff.mpr fun nonempty starts => ?_
      have member := List.mem_reverse.mp (List.getElem_mem nonempty)
      have visible := ink _ member
      rw [isInk_eq_not_isBlank, starts] at visible
      contradiction
    rw [List.isEmpty_iff.mp blank, word_eq]
    simp
  · simp

/-- Only blanks are trimmed to nothing. -/
theorem trimEnd_eq_nil_iff {text : List Char} : trimEnd text = [] ↔ trimStart text = [] := by
  simp [trimEnd, trimStart]

/-- A text is trimmed to nothing if it is blank. -/
theorem trim_eq_nil_iff {text : List Char} : trim text = [] ↔ trimStart text = [] := by
  rw [trim, trimEnd_eq_nil_iff, trimStart, trimStart, List.dropWhile_idempotent]

/-- Trimming keeps the first word and trims the end of what follows it. -/
theorem trim_eq_append (text : List Char) :
    trim text = (trimStart text).takeWhile isInk ++ trimEnd (afterWord text) := by
  have split_eq : trimStart text = (trimStart text).takeWhile isInk ++ afterWord text :=
    List.takeWhile_append_dropWhile.symm
  rw [trim]
  conv_lhs => rw [split_eq]
  exact trimEnd_append_of_forall_isInk (fun c member => List.mem_takeWhile_imp member) _

/-- Nothing in front of a visible character is trimmed at the end. -/
theorem trimEnd_append_of_visible {text : List Char} (visible : trimStart text ≠ [])
    (front : List Char) : trimEnd (front ++ text) = front ++ trimEnd text := by
  have stopped : ¬ (text.reverse.dropWhile isBlank).isEmpty = true := by
    simpa [trimStart] using visible
  simp [trimEnd, List.dropWhile_append, stopped]

/-- The two ends are trimmed in either order. -/
theorem trimStart_trimEnd (text : List Char) : trimStart (trimEnd text) = trim text := by
  induction text with
  | nil => rfl
  | cons c rest ih =>
      by_cases blank : isBlank c = true
      · by_cases rest_blank : trimStart rest = []
        · have all_blank : trimStart (c :: rest) = [] := by
            rw [trimStart, List.dropWhile_cons_of_pos blank]
            exact rest_blank
          rw [trimEnd_eq_nil_iff.mpr all_blank, trim_eq_nil_iff.mpr all_blank]
          rfl
        · have keeps : trimEnd (c :: rest) = c :: trimEnd rest :=
            trimEnd_append_of_visible rest_blank [c]
          rw [keeps, trimStart, List.dropWhile_cons_of_pos blank]
          rw [trim, trimStart, List.dropWhile_cons_of_pos blank]
          exact ih
      · have ink : ∀ d ∈ [c], isInk d = true := by simpa using blank
        have keeps := trimEnd_append_of_forall_isInk ink rest
        simp only [List.singleton_append] at keeps
        rw [trim, trimStart, trimStart, List.dropWhile_cons_of_neg blank, keeps,
          List.dropWhile_cons_of_neg blank]

/-- A text that neither starts nor ends with a blank. -/
structure Trimmed (text : List Char) : Prop where
  starts : ∀ c, text.head? = some c → isBlank c = false
  ends : ∀ c, text.getLast? = some c → isBlank c = false

/-- Trimming removes the blanks at either end. -/
theorem trimmed_trim (text : List Char) : Trimmed (trim text) where
  starts := by
    intro c starts
    have stopped := List.head?_dropWhile_not isBlank (trimEnd text)
    rw [← trimStart, trimStart_trimEnd, starts] at stopped
    simpa using stopped
  ends := by
    intro c ends
    have stopped := List.head?_dropWhile_not isBlank (trimStart text).reverse
    rw [trim, trimEnd, List.getLast?_reverse] at ends
    rw [ends] at stopped
    simpa using stopped

theorem trim_cons_of_isBlank {c : Char} (blank : isBlank c = true) (rest : List Char) :
    trim (c :: rest) = trim rest := by
  rw [trim, trimStart, List.dropWhile_cons_of_pos blank]
  rfl

/-- Where no blanks are at either end, trimming changes nothing. -/
theorem Trimmed.trim_eq {text : List Char} (trimmed : Trimmed text) : trim text = text := by
  have start_eq : ∀ {text : List Char}, (∀ c, text.head? = some c → isBlank c = false) →
      text.dropWhile isBlank = text := by
    intro text starts
    cases text with
    | nil => rfl
    | cons c rest => rw [List.dropWhile_cons_of_neg (by simp [starts c rfl])]
  have end_eq : text.reverse.dropWhile isBlank = text.reverse :=
    start_eq fun c starts => trimmed.ends c (by rwa [← List.head?_reverse])
  rw [trim, trimStart, start_eq trimmed.starts, trimEnd, end_eq, List.reverse_reverse]

/-- A digit is no blank. -/
theorem isInk_of_isDigit {c : Char} (digit : c.isDigit = true) : isInk c = true := by
  have bounds : 48 ≤ c.toNat ∧ c.toNat ≤ 57 := Char.isDigit_iff_toNat.mp digit
  simp only [isInk_eq_not_isBlank, isBlank, Bool.not_eq_true', Bool.or_eq_false_iff,
    Bool.and_eq_false_imp, decide_eq_true_eq, decide_eq_false_iff_not, beq_eq_false_iff_ne]
  omega

/-- Blanks around a text are trimmed away. -/
theorem trim_surrounded {before after : List Char}
    (blank : ∀ c ∈ before ++ after, isBlank c = true) (text : List Char) :
    trim (before ++ text ++ after) = trim text := by
  have before_blank : ∀ c ∈ before, isBlank c = true :=
    fun c member => blank c (List.mem_append_left _ member)
  have after_blank : ∀ c ∈ after.reverse, isBlank c = true :=
    fun c member => blank c (List.mem_append_right _ (List.mem_reverse.mp member))
  have end_eq : trimEnd (text ++ after) = trimEnd text := by
    rw [trimEnd, List.reverse_append, List.dropWhile_append_of_pos after_blank, trimEnd]
  rw [List.append_assoc, trim, trimStart, List.dropWhile_append_of_pos before_blank,
    ← trimStart, ← trim, ← trimStart_trimEnd, end_eq, trimStart_trimEnd]

theorem trim_subset (text : List Char) : trim text ⊆ text := by
  intro c member
  rw [trim, trimEnd, List.mem_reverse] at member
  exact List.dropWhile_subset _ (List.mem_reverse.mp (List.dropWhile_subset _ member))

theorem afterWord_subset (text : List Char) : afterWord text ⊆ text := fun _ member =>
  List.dropWhile_subset _ (List.dropWhile_subset _ member)

/-- What holds no blank at all has none at either end. -/
theorem trimmed_of_forall_isInk {text : List Char} (ink : ∀ c ∈ text, isInk c = true) :
    Trimmed text where
  starts c starts := by simpa using ink c (List.mem_of_head? starts)
  ends c ends := by simpa using ink c (List.mem_of_getLast? ends)

/-! ## Fields -/

/-- The only field of a line is the line without the blanks at its ends. -/
theorem fields_one (line : List Char) :
    fields 1 line = if (trim line).isEmpty then [] else [trim line] := by
  cases trimmed : trim line <;> simp [fields, fieldsOfTrimmed, trimmed]

theorem fields_one_eq_nil {line : List Char} (none_left : words line = []) :
    fields 1 line = [] := by
  have trimmed := trim_eq_nil_iff.mpr (words_eq_nil_iff.mp none_left)
  simp [fields_one, trimmed]

theorem fields_one_eq_singleton {line : List Char} (some_left : words line ≠ []) :
    fields 1 line = [trim line] := by
  have untrimmed : trim line ≠ [] := fun trimmed =>
    some_left (words_eq_nil_iff.mpr (trim_eq_nil_iff.mp trimmed))
  simp [fields_one, untrimmed]

private theorem isBlank_of_trimEnd_afterWord_eq_cons {line rest : List Char} {c : Char}
    (after : trimEnd (afterWord line) = c :: rest) : isBlank c = true := by
  obtain ⟨cut, cut_eq⟩ : trimEnd (afterWord line) <+: afterWord line :=
    List.rdropWhile_prefix isBlank (afterWord line)
  rw [after, List.cons_append] at cut_eq
  exact isBlank_of_afterWord_eq_cons cut_eq.symm

/-- A trimmed line starts with the first word of the line. -/
theorem takeWhile_isInk_trim (line : List Char) :
    (trim line).takeWhile isInk = (trimStart line).takeWhile isInk := by
  rw [trim_eq_append,
    List.takeWhile_append_of_pos fun c member => List.mem_takeWhile_imp member]
  cases after : trimEnd (afterWord line) with
  | nil => simp
  | cons c rest => simp [isBlank_of_trimEnd_afterWord_eq_cons after]

/-- What follows the first word of a trimmed line is trimmed at its end. -/
theorem dropWhile_isInk_trim (line : List Char) :
    (trim line).dropWhile isInk = trimEnd (afterWord line) := by
  rw [trim_eq_append,
    List.dropWhile_append_of_pos fun c member => List.mem_takeWhile_imp member]
  cases after : trimEnd (afterWord line) with
  | nil => rfl
  | cons c rest => simp [isBlank_of_trimEnd_afterWord_eq_cons after]

/-- The first field is the first word, and the others are fields of what follows. -/
theorem fields_succ_succ (limit : Nat) (line : List Char) :
    fields (limit + 2) line =
      (words line).take 1 ++ fields (limit + 1) (afterWord line) := by
  by_cases blank : trimStart line = []
  · have after : afterWord line = [] := by
      rw [afterWord, blank]
      rfl
    rw [words_eq_nil_iff.mpr blank, after, fields, trim_eq_nil_iff.mpr blank]
    rfl
  · have nonempty : trim line ≠ [] := fun trimmed => blank (trim_eq_nil_iff.mp trimmed)
    rw [words_eq_cons blank, fields, fieldsOfTrimmed, takeWhile_isInk_trim,
      dropWhile_isInk_trim, trimStart_trimEnd]
    · rfl
    · exact nonempty

/-- The fields of a line are its first words, and behind them what is left of the
line, trimmed. -/
theorem fields_eq_words_append (limit : Nat) (line : List Char) :
    fields (limit + 1) line =
      (words line).take limit ++ fields 1 (afterWord^[limit] line) := by
  induction limit generalizing line with
  | zero => rfl
  | succ limit ih =>
      rw [fields_succ_succ, ih, Function.iterate_succ_apply, words_afterWord,
        ← List.append_assoc]
      congr 1
      cases words line <;> simp

/-- The first field is the first word, unless it is to be the only field. -/
theorem head?_fields (limit : Nat) (line : List Char) :
    (fields (limit + 2) line).head? = (words line).head? := by
  rw [fields_eq_words_append]
  cases words_eq : words line with
  | nil =>
      have none_left : words (afterWord^[limit + 1] line) = [] := by
        rw [words_iterate_afterWord, words_eq, List.drop_nil]
      rw [fields_one_eq_nil none_left]
      rfl
  | cons word rest => rfl

/-- A line has as many fields as words, but no more than asked for. -/
theorem length_fields (limit : Nat) (line : List Char) :
    (fields (limit + 1) line).length = min (limit + 1) (words line).length := by
  have left_eq := words_iterate_afterWord limit line
  rw [fields_eq_words_append, List.length_append, List.length_take]
  rcases Nat.lt_or_ge limit (words line).length with more | few
  · have some_left : words (afterWord^[limit] line) ≠ [] := by
      rw [left_eq]
      exact fun none_left => Nat.not_le_of_lt more (List.drop_eq_nil_iff.mp none_left)
    rw [fields_one_eq_singleton some_left, List.length_singleton]
    omega
  · rw [List.drop_eq_nil_of_le few] at left_eq
    rw [fields_one_eq_nil left_eq, List.length_nil]
    omega

/-- The only field of a line with no more than one word is that word. -/
theorem fields_one_eq_words {line : List Char} (few : (words line).length ≤ 1) :
    fields 1 line = words line := by
  by_cases blank : trimStart line = []
  · have silent := words_eq_nil_iff.mpr blank
    rw [silent, fields_one_eq_nil silent]
  · rw [words_eq_cons blank, List.length_cons] at few
    have none_left : words (afterWord line) = [] := List.length_eq_zero_iff.mp (by omega)
    have some_left : words line ≠ [] := fun silent => blank (words_eq_nil_iff.mp silent)
    rw [fields_one_eq_singleton some_left, words_eq_cons blank, none_left, trim_eq_append,
      trimEnd_eq_nil_iff.mpr (words_eq_nil_iff.mp none_left), List.append_nil]

/-- A line with no more words than the fields asked for is cut into its words. -/
theorem fields_eq_words {limit : Nat} {line : List Char}
    (few : (words line).length ≤ limit + 1) : fields (limit + 1) line = words line := by
  have left_eq := words_iterate_afterWord limit line
  have few_left : (words (afterWord^[limit] line)).length ≤ 1 := by
    rw [left_eq, List.length_drop]
    omega
  rw [fields_eq_words_append, fields_one_eq_words few_left, left_eq, List.take_append_drop]

/-- No field is empty, and none starts or ends with a blank. -/
theorem trimmed_of_mem_fields {limit : Nat} {line field : List Char}
    (member : field ∈ fields limit line) : field ≠ [] ∧ Trimmed field := by
  cases limit with
  | zero => simp at member
  | succ limit =>
      rw [fields_eq_words_append, List.mem_append] at member
      rcases member with found | last
      · have found := List.mem_of_mem_take found
        have ink : ∀ c ∈ field, isInk c = true := fun c => isInk_of_mem_of_mem_words found
        exact ⟨ne_nil_of_mem_words found, trimmed_of_forall_isInk ink⟩
      · rw [fields_one] at last
        split at last
        · contradiction
        · rename_i nonempty
          obtain rfl := List.mem_singleton.mp last
          exact ⟨by simpa using nonempty, trimmed_trim _⟩

end TopicGuard.Text
