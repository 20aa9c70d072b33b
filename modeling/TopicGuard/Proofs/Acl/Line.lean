import TopicGuard.Acl.Line
import TopicGuard.Proofs.Words

/-!
# The grammar of ACL lines

Which lines name a user and which state a rule is said here in terms of the words
of the line alone, and reading a line is shown to follow it.  A rule line of two
words grants reading and writing to its second word; a longer one needs the word for a
level as its second word, and its pattern is all that follows, without the blanks at either
end.  Every other line that is not blank and no comment is malformed.
-/

namespace TopicGuard.Acl.Line

open Text (words afterWord trim fields isInert)

/-- The line names a user: its words are the keyword and the name. -/
def NamesUser (line : List Char) (name : String) : Prop :=
  isInert line = false ∧ words line = [userKeyword, name.toList]

/-- The words for the levels that a rule can grant. -/
def levelWords : List (List Char × Access) :=
  [("read".toList, .read), ("write".toList, .write), ("readwrite".toList, .readWrite),
    ("subscribe".toList, .subscribe)]

/-- The line states a rule behind a keyword. -/
def StatesRule (keyword line : List Char) (rule : Rule) : Prop :=
  isInert line = false ∧
    (words line = [keyword, rule.pattern.toList] ∧ rule.access = .readWrite ∨
      ∃ level third rest,
        words line = keyword :: level :: third :: rest ∧
          (level, rule.access) ∈ levelWords ∧
          rule.pattern.toList = trim (afterWord (afterWord line)))

/-- The line says something, but neither names a user nor states a rule: its first word
is no keyword, or a user line does not have one name, or a rule line has no pattern or
has something else where the level belongs. -/
def Misstated (line : List Char) : Prop :=
  isInert line = false ∧
    ((words line).head? ∉ [some userKeyword, some topicKeyword, some patternKeyword] ∨
      (words line).head? = some userKeyword ∧ (words line).length ≠ 2 ∨
      (words line).head? ∈ [some topicKeyword, some patternKeyword] ∧
        ((words line).length = 1 ∨
          ∃ keyword level third rest, words line = keyword :: level :: third :: rest ∧
            ∀ access, (level, access) ∉ levelWords))

theorem mem_levelWords_iff {word : List Char} {access : Access} :
    (word, access) ∈ levelWords ↔ access ≠ .none ∧ word = access.name.toList := by
  cases access <;> simp [levelWords, Access.name]

/-- Looking up a word finds the level that it is a word for. -/
theorem ofName?_eq_some_iff_mem_levelWords {word : List Char} {access : Access} :
    Access.ofName? word = some access ↔ (word, access) ∈ levelWords :=
  Access.ofName?_eq_some_iff.trans mem_levelWords_iff.symm

theorem ofName?_eq_none_iff {word : List Char} :
    Access.ofName? word = none ↔ ∀ access, (word, access) ∉ levelWords := by
  simp only [Option.eq_none_iff_forall_ne_some, ne_eq, ofName?_eq_some_iff_mem_levelWords]

/-- The keyword of a line is its first word. -/
theorem keyword_eq_headD_words (line : List Char) :
    Line.keyword line = (words line).headD [] := by
  rw [Line.keyword, List.headD_eq_head?_getD, List.headD_eq_head?_getD, Text.head?_fields]

/-- The third field is what follows two words, unless nothing does. -/
private theorem fields_three_eq (line : List Char) :
    fields 3 line = (words line).take 2 ++ fields 1 (afterWord (afterWord line)) :=
  Text.fields_eq_words_append 2 line

private theorem words_afterWord_afterWord (line : List Char) :
    words (afterWord (afterWord line)) = (words line).drop 2 :=
  Text.words_iterate_afterWord 2 line

/-- The rule of a line is read from its words. -/
theorem rule?_fields_three (line : List Char) :
    rule? (fields 3 line) =
      match words line with
      | [_, filter] => some ⟨String.ofList filter, .readWrite⟩
      | _ :: level :: _ :: _ =>
          (Access.ofName? level).map
            (⟨String.ofList (trim (afterWord (afterWord line))), ·⟩)
      | _ => none := by
  have left_eq := words_afterWord_afterWord line
  rw [fields_three_eq]
  match words_eq : words line with
  | [] | [_] | [_, _] =>
      rw [words_eq] at left_eq
      rw [Text.fields_one_eq_nil left_eq]
      rfl
  | first :: level :: third :: rest =>
      rw [words_eq] at left_eq
      rw [Text.fields_one_eq_singleton (by simp [left_eq])]
      rfl

/-- A line with a keyword states what its words say behind the keyword. -/
theorem statesRule_iff {keyword line : List Char} {rule : Rule} :
    StatesRule keyword line rule ↔
      isInert line = false ∧ (words line).head? = some keyword ∧
        rule? (fields 3 line) = some rule := by
  rw [StatesRule, rule?_fields_three, and_congr_right_iff]
  intro _
  obtain ⟨pattern, access⟩ := rule
  have ofList_eq : ∀ text : List Char, String.ofList text = pattern ↔ pattern.toList = text := by
    intro text
    rw [← String.toList_inj, String.toList_ofList, eq_comm]
  match words_eq : words line with
  | [] | [_] => simp
  | [first, filter] =>
      simp only [List.cons.injEq, and_true, List.head?_cons, Option.some.injEq,
        Rule.mk.injEq, ofList_eq]
      constructor
      · rintro (⟨⟨rfl, rfl⟩, rfl⟩ | ⟨level, third, rest, ⟨_, _, impossible⟩, _⟩)
        · exact ⟨rfl, rfl, rfl⟩
        · contradiction
      · rintro ⟨rfl, rfl, rfl⟩
        exact .inl ⟨⟨rfl, rfl⟩, rfl⟩
  | first :: level :: third :: rest =>
      simp only [List.cons.injEq, reduceCtorEq, and_false, false_and, false_or,
        List.head?_cons, Option.some.injEq, Option.map_eq_some_iff, Rule.mk.injEq, ofList_eq,
        ofName?_eq_some_iff_mem_levelWords]
      constructor
      · rintro ⟨_, _, _, ⟨rfl, rfl, rfl, rfl⟩, found, pattern_eq⟩
        exact ⟨rfl, access, found, pattern_eq, rfl⟩
      · rintro ⟨rfl, _, found, pattern_eq, rfl⟩
        exact ⟨level, third, rest, ⟨rfl, rfl, rfl, rfl⟩, found, pattern_eq⟩

/-- The name on a line is read from its words. -/
theorem namesUser_iff {line : List Char} {name : String} :
    NamesUser line name ↔
      isInert line = false ∧ (words line).head? = some userKeyword ∧
        userName? line = some name := by
  have ofList_eq : ∀ text : List Char, String.ofList text = name ↔ text = name.toList := by
    intro text
    rw [← String.toList_inj, String.toList_ofList]
  rw [NamesUser, userName?, and_congr_right_iff]
  intro _
  match words line with
  | [] | [_] | _ :: _ :: _ :: _ => simp
  | [first, second] => simp [ofList_eq]

private theorem head?_words_eq_some_iff {line keyword : List Char} (nonempty : keyword ≠ []) :
    (words line).head? = some keyword ↔ Line.keyword line = keyword := by
  rw [keyword_eq_headD_words]
  cases words line with
  | nil => simpa [eq_comm] using nonempty
  | cons word rest => simp

private theorem user_ne_topic : userKeyword ≠ topicKeyword := by decide

private theorem user_ne_pattern : userKeyword ≠ patternKeyword := by decide

private theorem topic_ne_pattern : topicKeyword ≠ patternKeyword := by decide

/-- What a line that is not blank and no comment is read as, by its keyword. -/
theorem read_cases {line : List Char} (visible : isInert line = false) :
    (Line.keyword line = userKeyword ∧
        read line = (userName? line).elim .malformed .user) ∨
      (Line.keyword line = topicKeyword ∧
        read line = (rule? (fields 3 line)).elim .malformed .topic) ∨
      (Line.keyword line = patternKeyword ∧
        read line = (rule? (fields 3 line)).elim .malformed .pattern) ∨
      ((Line.keyword line ≠ userKeyword ∧ Line.keyword line ≠ topicKeyword ∧
          Line.keyword line ≠ patternKeyword) ∧ read line = .malformed) := by
  rw [read, if_neg (by simp [visible])]
  by_cases user : Line.keyword line = userKeyword
  · exact .inl ⟨user, if_pos user⟩
  · rw [if_neg user]
    by_cases topic : Line.keyword line = topicKeyword
    · exact .inr (.inl ⟨topic, if_pos topic⟩)
    · rw [if_neg topic]
      by_cases pattern : Line.keyword line = patternKeyword
      · exact .inr (.inr (.inl ⟨pattern, if_pos pattern⟩))
      · exact .inr (.inr (.inr ⟨⟨user, topic, pattern⟩, if_neg pattern⟩))

private theorem elim_malformed_eq_iff {α : Type} {found : Option α} {said : α → Line}
    {line : Line} (sense : line ≠ .malformed) :
    found.elim .malformed said = line ↔ ∃ value, found = some value ∧ said value = line := by
  cases found with
  | none => simpa [eq_comm] using sense
  | some value => simp

/-- The lines that say nothing are the blank ones and the comments. -/
theorem read_eq_inert_iff {line : List Char} : read line = .inert ↔ isInert line = true := by
  by_cases visible : isInert line = false
  · rw [visible, iff_false_right Bool.false_ne_true]
    rcases read_cases visible with ⟨_, read_eq⟩ | ⟨_, read_eq⟩ | ⟨_, read_eq⟩ | ⟨_, read_eq⟩
    · rw [read_eq, elim_malformed_eq_iff (by simp)]
      simp
    · rw [read_eq, elim_malformed_eq_iff (by simp)]
      simp
    · rw [read_eq, elim_malformed_eq_iff (by simp)]
      simp
    · simp [read_eq]
  · simp [read, visible]

/-- Reading finds a user exactly where a line names one. -/
theorem read_eq_user_iff {line : List Char} {name : String} :
    read line = .user name ↔ NamesUser line name := by
  rw [namesUser_iff, head?_words_eq_some_iff (by decide)]
  by_cases visible : isInert line = false
  · rcases read_cases visible with ⟨kind, read_eq⟩ | ⟨kind, read_eq⟩ | ⟨kind, read_eq⟩ |
      ⟨⟨kind, _, _⟩, read_eq⟩
    · rw [read_eq, elim_malformed_eq_iff (by simp)]
      simp [visible, kind]
    · rw [read_eq, elim_malformed_eq_iff (by simp)]
      simp [kind, user_ne_topic.symm]
    · rw [read_eq, elim_malformed_eq_iff (by simp)]
      simp [kind, user_ne_pattern.symm]
    · simp [read_eq, kind]
  · simp [read, visible]

/-- Reading finds a topic rule exactly where a line states one. -/
theorem read_eq_topic_iff {line : List Char} {rule : Rule} :
    read line = .topic rule ↔ StatesRule topicKeyword line rule := by
  rw [statesRule_iff, head?_words_eq_some_iff (by decide)]
  by_cases visible : isInert line = false
  · rcases read_cases visible with ⟨kind, read_eq⟩ | ⟨kind, read_eq⟩ | ⟨kind, read_eq⟩ |
      ⟨⟨_, kind, _⟩, read_eq⟩
    · rw [read_eq, elim_malformed_eq_iff (by simp)]
      simp [kind, user_ne_topic]
    · rw [read_eq, elim_malformed_eq_iff (by simp)]
      simp [visible, kind]
    · rw [read_eq, elim_malformed_eq_iff (by simp)]
      simp [kind, topic_ne_pattern.symm]
    · simp [read_eq, kind]
  · simp [read, visible]

/-- Reading finds a pattern rule exactly where a line states one. -/
theorem read_eq_pattern_iff {line : List Char} {rule : Rule} :
    read line = .pattern rule ↔ StatesRule patternKeyword line rule := by
  rw [statesRule_iff, head?_words_eq_some_iff (by decide)]
  by_cases visible : isInert line = false
  · rcases read_cases visible with ⟨kind, read_eq⟩ | ⟨kind, read_eq⟩ | ⟨kind, read_eq⟩ |
      ⟨⟨_, _, kind⟩, read_eq⟩
    · rw [read_eq, elim_malformed_eq_iff (by simp)]
      simp [kind, user_ne_pattern]
    · rw [read_eq, elim_malformed_eq_iff (by simp)]
      simp [kind, topic_ne_pattern]
    · rw [read_eq, elim_malformed_eq_iff (by simp)]
      simp [visible, kind]
    · simp [read_eq, kind]
  · simp [read, visible]

/-- The name is missing from a user line that does not have two words. -/
theorem userName?_eq_none_iff {line : List Char} :
    userName? line = none ↔ (words line).length ≠ 2 := by
  rw [userName?]
  match words line with
  | [] | [_] | [_, _] | _ :: _ :: _ :: _ => simp

/-- The rule is missing from a line that has one word, or three or more without a level. -/
theorem rule?_eq_none_iff {line : List Char} (spoken : words line ≠ []) :
    rule? (fields 3 line) = none ↔
      (words line).length = 1 ∨
        ∃ keyword level third rest, words line = keyword :: level :: third :: rest ∧
          ∀ access, (level, access) ∉ levelWords := by
  rw [rule?_fields_three]
  match words_eq : words line with
  | [] => exact absurd words_eq spoken
  | [_] => simp
  | [_, _] => simp
  | first :: level :: third :: rest => simp [ofName?_eq_none_iff]

/-- Only what is neither blank nor a comment has to make sense, and it has a first word. -/
theorem words_ne_nil_of_visible {line : List Char} (visible : isInert line = false) :
    words line ≠ [] := by
  intro silent
  have blank := Text.words_eq_nil_iff.mp silent
  simp [isInert, blank] at visible

private theorem elim_malformed_eq_malformed_iff {α : Type} {found : Option α}
    {meaning : α → Line} (sense : ∀ value, meaning value ≠ .malformed) :
    found.elim .malformed meaning = .malformed ↔ found = none := by
  cases found with
  | none => simp
  | some value => simpa using sense value

/-- Reading makes nothing of a line exactly where it is misstated. -/
theorem read_eq_malformed_iff {line : List Char} : read line = .malformed ↔ Misstated line := by
  by_cases visible : isInert line = false
  · have spoken := words_ne_nil_of_visible visible
    rw [Misstated, and_iff_right visible, ← userName?_eq_none_iff, ← rule?_eq_none_iff spoken]
    simp only [List.mem_cons, List.not_mem_nil, or_false, not_or,
      head?_words_eq_some_iff (show userKeyword ≠ [] by decide),
      head?_words_eq_some_iff (show topicKeyword ≠ [] by decide),
      head?_words_eq_some_iff (show patternKeyword ≠ [] by decide)]
    rcases read_cases visible with ⟨kind, read_eq⟩ | ⟨kind, read_eq⟩ | ⟨kind, read_eq⟩ |
      ⟨⟨user, topic, pattern⟩, read_eq⟩
    · rw [read_eq, elim_malformed_eq_malformed_iff (by simp)]
      simp [kind, user_ne_topic, user_ne_pattern]
    · rw [read_eq, elim_malformed_eq_malformed_iff (by simp)]
      simp [kind, user_ne_topic.symm]
    · rw [read_eq, elim_malformed_eq_malformed_iff (by simp)]
      simp [kind, user_ne_pattern.symm]
    · simp [read_eq, user, topic, pattern]
  · simp [read, Misstated, visible]

end TopicGuard.Acl.Line
