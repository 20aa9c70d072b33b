import TopicGuard.Proofs.Accounting

/-!
# Rule sets as texts

A rule set can be written as the text of an ACL file exactly if its users and its patterns
fit the words and fields of a line: this is what every text that is read has as its rules,
and such rules are read back from the text that lists them, whatever the order of the users.
-/

namespace TopicGuard

open Text (isBlank isInk words afterWord trim isInert Trimmed)

/-! ## Well-formed rule sets -/

/-- The name of a user can be written as a word. -/
structure Nameable (name : String) : Prop where
  nonempty : name ≠ ""
  no_blank : ∀ c ∈ name.toList, isBlank c = false

/-- A rule can be written on a line. -/
structure Rule.Writable (rule : Rule) : Prop where
  access_ne_none : rule.access ≠ .none
  nonempty : rule.pattern ≠ ""
  trimmed : Trimmed rule.pattern.toList
  one_line : '\n' ∉ rule.pattern.toList

/-- Every user with an entry can be named and has some rule, and all rules can be written. -/
structure RuleSet.WellFormed (rules : RuleSet) : Prop where
  user : ∀ name owned, rules.user.get? name = some owned →
    Nameable name ∧ owned ≠ [] ∧ ∀ rule ∈ owned, rule.Writable
  common : ∀ rule ∈ rules.common, rule.Writable
  pattern : ∀ rule ∈ rules.pattern, rule.Writable

theorem Access.words_name (level : Access) : words level.name.toList = [level.name.toList] := by
  cases level <;> rfl

theorem Nameable.words_eq {name : String} (nameable : Nameable name) :
    words name.toList = [name.toList] := by
  refine Text.words_of_forall_isInk (by simpa using nameable.nonempty) fun c member => ?_
  simpa using nameable.no_blank c member

namespace Acl

/-! ## Lines that are read -/

namespace Line

/-- What a line says can be written again. -/
def Writable : Line → Prop
  | .user name => Nameable name
  | .topic rule => rule.Writable
  | .pattern rule => rule.Writable
  | .inert => False
  | .malformed => False

variable {line : List Char} {keyword : List Char} {name : String} {rule : Rule}

theorem NamesUser.nameable (named : NamesUser line name) : Nameable name := by
  have found : name.toList ∈ words line := by simp [named.2]
  constructor
  · simpa using Text.ne_nil_of_mem_words found
  · intro c member
    simpa using Text.isInk_of_mem_of_mem_words found member

/-- A pattern is a word, or the last field of its line. -/
theorem StatesRule.writable (stated : StatesRule keyword line rule) (one_line : '\n' ∉ line) :
    rule.Writable := by
  rcases stated with ⟨_, ⟨words_eq, access_eq⟩ | ⟨level, third, rest, words_eq, level_mem,
    pattern_eq⟩⟩
  · have found : rule.pattern.toList ∈ words line := by simp [words_eq]
    have ink : ∀ c ∈ rule.pattern.toList, isInk c = true := fun c =>
      Text.isInk_of_mem_of_mem_words found
    constructor
    · simp [access_eq]
    · simpa using Text.ne_nil_of_mem_words found
    · exact Text.trimmed_of_forall_isInk ink
    · intro member
      exact absurd (ink '\n' member) (by decide)
  · have left_eq : words (afterWord (afterWord line)) = third :: rest := by
      rw [Text.words_afterWord, Text.words_afterWord, words_eq]
      rfl
    constructor
    · exact (mem_levelWords_iff.mp level_mem).1
    · intro empty
      rw [empty] at pattern_eq
      have blank := Text.trim_eq_nil_iff.mp pattern_eq.symm
      rw [Text.words_eq_nil_iff.mpr blank] at left_eq
      contradiction
    · rw [pattern_eq]
      exact Text.trimmed_trim _
    · intro member
      rw [pattern_eq] at member
      exact one_line (Text.afterWord_subset _ (Text.afterWord_subset _ (Text.trim_subset _ member)))

/-- A line that names a user or states a rule can be written again. -/
theorem writable_read (one_line : '\n' ∉ line) (meant : (read line).isMeant = true) :
    (read line).Writable := by
  cases read_eq : read line with
  | user name => exact (read_eq_user_iff.mp read_eq).nameable
  | topic rule => exact (read_eq_topic_iff.mp read_eq).writable one_line
  | pattern rule => exact (read_eq_pattern_iff.mp read_eq).writable one_line
  | inert | malformed =>
      rw [read_eq] at meant
      contradiction

/-! ## Lines that are written -/

/-- The line that states a rule behind a keyword. -/
def writtenRule (keyword : List Char) (rule : Rule) : List Char :=
  keyword ++ ' ' :: (rule.access.name.toList ++ ' ' :: rule.pattern.toList)

/-- The line that says what a line says; what says nothing or cannot be understood is left
empty. -/
def written : Line → List Char
  | .user name => userKeyword ++ ' ' :: name.toList
  | .topic rule => writtenRule topicKeyword rule
  | .pattern rule => writtenRule patternKeyword rule
  | .inert => []
  | .malformed => []

theorem namesUser_written (nameable : Nameable name) :
    NamesUser (userKeyword ++ ' ' :: name.toList) name := by
  have words_eq : words (userKeyword ++ ' ' :: name.toList) = [userKeyword, name.toList] := by
    rw [Text.words_append_cons_of_isBlank (by decide), nameable.words_eq]
    rfl
  refine ⟨?_, words_eq⟩
  rw [Bool.eq_false_iff, ne_eq, Text.isInert_iff_forall_head?, words_eq]
  intro comment
  exact absurd (comment userKeyword rfl) (by decide)

theorem statesRule_writtenRule (is_word : words keyword = [keyword])
    (visible : keyword.head? ≠ some '#') (writable : rule.Writable) :
    StatesRule keyword (writtenRule keyword rule) rule := by
  have blank : isBlank ' ' = true := by decide
  have trim_eq := writable.trimmed.trim_eq
  have pattern_nonempty : words rule.pattern.toList ≠ [] := by
    intro silent
    rw [Text.words_eq_nil_iff, ← Text.trim_eq_nil_iff, trim_eq] at silent
    exact writable.nonempty (by simpa using silent)
  obtain ⟨third, rest, pattern_words⟩ := List.exists_cons_of_ne_nil pattern_nonempty
  have words_eq : words (writtenRule keyword rule) =
      keyword :: rule.access.name.toList :: third :: rest := by
    rw [writtenRule, Text.words_append_cons_of_isBlank blank,
      Text.words_append_cons_of_isBlank blank, is_word, rule.access.words_name, pattern_words]
    rfl
  constructor
  · rw [Bool.eq_false_iff, ne_eq, Text.isInert_iff_forall_head?, words_eq]
    intro comment
    exact visible (comment keyword rfl)
  · have level_mem : (rule.access.name.toList, rule.access) ∈ levelWords :=
      mem_levelWords_iff.mpr ⟨writable.access_ne_none, rfl⟩
    refine .inr ⟨_, third, rest, words_eq, level_mem, ?_⟩
    rw [writtenRule, Text.afterWord_append_cons is_word blank,
      Text.afterWord_cons_of_isBlank blank,
      Text.afterWord_append_cons rule.access.words_name blank, Text.trim_cons_of_isBlank blank,
      trim_eq]

theorem read_written {line : Line} (writable : line.Writable) : read line.written = line := by
  cases line with
  | user name => exact read_eq_user_iff.mpr (namesUser_written writable)
  | topic rule =>
      exact read_eq_topic_iff.mpr (statesRule_writtenRule rfl (by decide) writable)
  | pattern rule =>
      exact read_eq_pattern_iff.mpr (statesRule_writtenRule rfl (by decide) writable)
  | inert | malformed => contradiction

/-- No carriage return at the end of a line is taken for a part of its end. -/
private theorem getLast?_append_ne_return (front : List Char) {text : List Char}
    (nonempty : text ≠ []) (trimmed : Trimmed text) : (front ++ text).getLast? ≠ some '\r' := by
  rw [List.getLast?_append_of_ne_nil _ nonempty]
  intro ends
  exact absurd (trimmed.ends '\r' ends) (by decide)

private theorem writtenRule_one_line (free : '\n' ∉ keyword) (writable : rule.Writable) :
    '\n' ∉ writtenRule keyword rule ∧ (writtenRule keyword rule).getLast? ≠ some '\r' := by
  constructor
  · have level_free : '\n' ∉ rule.access.name.toList := by
      cases rule.access <;> decide
    simp [writtenRule, free, level_free, writable.one_line]
  · rw [writtenRule, ← List.cons_append, ← List.append_assoc, List.append_cons]
    exact getLast?_append_ne_return _ (by simpa using writable.nonempty) writable.trimmed

theorem written_one_line {line : Line} (writable : line.Writable) :
    '\n' ∉ line.written ∧ line.written.getLast? ≠ some '\r' := by
  cases line with
  | user name =>
      have nameable : Nameable name := writable
      constructor
      · intro member
        rcases List.mem_append.mp member with keyword_mem | name_mem
        · exact absurd keyword_mem (by decide)
        · have feed_mem := List.mem_of_ne_of_mem (by decide) name_mem
          exact absurd (nameable.no_blank '\n' feed_mem) (by decide)
      · rw [written, List.append_cons]
        refine getLast?_append_ne_return _ (by simpa using nameable.nonempty) ?_
        exact Text.trimmed_of_forall_isInk fun c member => by simpa using nameable.no_blank c member
  | topic rule => exact writtenRule_one_line (by decide) writable
  | pattern rule => exact writtenRule_one_line (by decide) writable
  | inert | malformed => contradiction

end Line

/-! ## Texts that are written -/

/-- The text with a line for each of some lines. -/
def File.textOf (lines : List Line) : String :=
  String.ofList (lines.flatMap (fun line => line.written ++ ['\n']))

/-- Lines that can be written are read back from their text. -/
theorem File.linesOf_textOf {lines : List Line} (writable : ∀ line ∈ lines, line.Writable) :
    linesOf (textOf lines) = lines := by
  have one_line := fun line member => Line.written_one_line (writable line member)
  rw [linesOf, textOf, String.toList_ofList, Text.lines_flatMap_append_newline one_line,
    List.map_map]
  exact (List.map_congr_left fun line member => Line.read_written (writable line member)).trans
    (List.map_id lines)

end Acl

namespace RuleSet

/-- The lines that list some rules: the common ones, the users in a given order with the
rules of each, and the pattern rules. -/
def lines (rules : RuleSet) (order : List (String × List Rule)) : List Acl.Line :=
  rules.common.map .topic ++
    order.flatMap (fun entry => .user entry.1 :: entry.2.map .topic) ++
    rules.pattern.map .pattern

/-- The text that lists some rules. -/
def text (rules : RuleSet) (order : List (String × List Rule)) : String :=
  Acl.File.textOf (rules.lines order)

variable {rules : RuleSet} {order : List (String × List Rule)}

private theorem filterMap_topic?_map (owned : List Rule) :
    (owned.map Acl.Line.topic).filterMap Acl.Line.topic? = owned := by
  rw [List.filterMap_map]
  exact List.filterMap_some

private theorem user?_eq_none_of_mem_map (said : Rule → Acl.Line)
    (unnamed : ∀ rule, (said rule).user? = none) (owned : List Rule) :
    ∀ line ∈ owned.map said, line.user? = none := by
  intro line member
  rcases List.mem_map.mp member with ⟨rule, _, rfl⟩
  exact unnamed rule

/-- The rules that are listed behind a user's name are that user's, and those before all
users are common. -/
theorem sectionRules_lines (rules : RuleSet) (order : List (String × List Rule))
    (owner : Option String) :
    Acl.sectionRules owner (rules.lines order) =
      (if none = owner then rules.common else []) ++
        (order.filter (some ·.1 = owner)).flatMap Prod.snd := by
  have no_topic : (rules.pattern.map Acl.Line.pattern).filterMap Acl.Line.topic? = [] := by
    simp [Acl.Line.topic?]
  rw [lines, Acl.sectionRules_append_of_no_user _ _
    (user?_eq_none_of_mem_map .pattern (fun _ => rfl) _), no_topic, ite_self, List.append_nil]
  -- From the last user on: its line opens the section that all lines behind it stand in.
  induction order using List.reverseRecOn with
  | nil =>
      rw [List.flatMap_nil, List.append_nil, List.filter_nil, List.flatMap_nil, List.append_nil]
      have listed := Acl.sectionRules_append_of_no_user owner []
        (user?_eq_none_of_mem_map .topic (fun _ => rfl) rules.common)
      rwa [filterMap_topic?_map] at listed
  | append_singleton order entry ih =>
      rw [List.flatMap_append, List.flatMap_singleton, ← List.append_assoc, List.append_cons,
        Acl.sectionRules_append_of_no_user _ _
          (user?_eq_none_of_mem_map .topic (fun _ => rfl) _),
        Acl.sectionRules_append_singleton, ih, Acl.openSection_append_singleton,
        filterMap_topic?_map, List.filter_append, List.flatMap_append]
      by_cases opened : some entry.1 = owner
      · subst opened
        simp [Acl.Line.user?, Acl.Line.topic?]
      · simp [opened, Acl.Line.user?, Acl.Line.topic?]

/-- In whatever order the users are listed, behind the name of each are its rules. -/
theorem sectionRules_lines_of_perm (perm : order.Perm rules.user.entries) (name : String) :
    Acl.sectionRules (some name) (rules.lines order) = (rules.user.get? name).getD [] := by
  have filter_eq := NameMap.filter_eq_of_perm perm name
  rw [sectionRules_lines, if_neg (by simp), List.nil_append]
  simp only [Option.some.injEq, filter_eq]
  cases rules.user.get? name <;> simp

theorem WellFormed.writable_of_mem_lines (well : rules.WellFormed)
    (perm : order.Perm rules.user.entries) {line : Acl.Line} (member : line ∈ rules.lines order) :
    line.Writable := by
  rcases List.mem_append.mp member with member | member
  · rcases List.mem_append.mp member with member | member
    · rcases List.mem_map.mp member with ⟨rule, rule_mem, rfl⟩
      exact well.common rule rule_mem
    · rcases List.mem_flatMap.mp member with ⟨⟨name, owned⟩, entry_mem, member⟩
      have found := NameMap.get?_eq_some_iff.mpr (perm.mem_iff.mp entry_mem)
      rcases well.user name owned found with ⟨nameable, _, writable⟩
      rcases List.mem_cons.mp member with rfl | member
      · exact nameable
      · rcases List.mem_map.mp member with ⟨rule, rule_mem, rfl⟩
        exact writable rule rule_mem
  · rcases List.mem_map.mp member with ⟨rule, rule_mem, rfl⟩
    exact well.pattern rule rule_mem

/-- Whoever has collected the lines that list some rules has these rules. -/
theorem WellFormed.eq_of_collects (well : rules.WellFormed)
    (perm : order.Perm rules.user.entries) {reader : Acl.Reader}
    (collected : reader.Collects (rules.lines order)) : reader.file.rules = rules := by
  have user_eq : reader.file.rules.user = rules.user := by
    apply NameMap.ext_get?
    intro name
    rw [collected.user_eq, sectionRules_lines_of_perm perm]
    cases found : rules.user.get? name with
    | none => rfl
    | some owned =>
        have nonempty := (well.user name owned found).2.1
        simp [nonempty]
  have common_eq : reader.file.rules.common = rules.common := by
    rw [collected.common_eq, sectionRules_lines]
    simp
  have pattern_eq : reader.file.rules.pattern = rules.pattern := by
    rw [collected.pattern_eq, lines]
    simp [List.filterMap_append, List.filterMap_flatMap, Acl.Line.pattern?, Function.comp_def]
  exact RuleSet.ext user_eq common_eq pattern_eq

/-- The users that are named where rules are listed are those with an entry. -/
theorem contains_of_user_mem_lines (perm : order.Perm rules.user.entries) {name : String}
    (member : .user name ∈ rules.lines order) : rules.user.contains name = true := by
  have entry_mem : name ∈ order.map Prod.fst := by
    simpa [lines] using member
  rw [NameMap.contains_iff_mem]
  exact (perm.map Prod.fst).mem_iff.mp entry_mem

end RuleSet

namespace Acl

variable {policy : UnknownUserPolicy} {isKnown : String → Bool} {text : String} {file : File}

/-- What a reader has collected is well-formed, if every line with a meaning can be
written. -/
theorem Reader.Collects.wellFormed {reader : Reader} {lines : List Line}
    (collected : reader.Collects lines)
    (writable : ∀ line ∈ lines, line.isMeant = true → line.Writable) :
    reader.file.rules.WellFormed := by
  have section_writable : ∀ owner, ∀ rule ∈ sectionRules owner lines, rule.Writable :=
    fun owner rule member => writable (.topic rule) (mem_sectionRules member).1 rfl
  constructor
  · intro name owned found
    rw [collected.user_eq] at found
    split at found
    · contradiction
    · rename_i nonempty
      cases Option.some.inj found
      have owned_nonempty : sectionRules (some name) lines ≠ [] := by simpa using nonempty
      rcases List.exists_mem_of_ne_nil _ owned_nonempty with ⟨rule, member⟩
      exact ⟨writable (.user name) ((mem_sectionRules member).2 name rfl) rfl, owned_nonempty,
        section_writable _⟩
  · rw [collected.common_eq]
    exact section_writable none
  · rw [collected.pattern_eq]
    intro rule member
    rcases List.mem_filterMap.mp member with ⟨line, line_mem, stated⟩
    cases line <;> simp [Line.pattern?] at stated
    rw [stated] at line_mem
    exact writable (.pattern rule) line_mem rfl

/-- A user with an entry is named by some line. -/
theorem Reader.Collects.user_mem {reader : Reader} {lines : List Line}
    (collected : reader.Collects lines) {name : String}
    (owns : reader.file.rules.user.contains name = true) : .user name ∈ lines := by
  rcases List.exists_mem_of_ne_nil _ (collected.contains_iff.mp owns) with ⟨rule, member⟩
  exact (mem_sectionRules member).2 name rfl

namespace File

theorem wellFormed_of_read (taken : read policy isKnown text = .ok file) :
    file.rules.WellFormed := by
  rcases exists_collects_of_read taken with ⟨last, rfl, collected⟩
  apply collected.wellFormed
  intro line member
  rcases List.mem_map.mp member with ⟨piece, piece_mem, rfl⟩
  exact Line.writable_read (Text.not_mem_of_mem_splitOn piece_mem)

/-- A strict reader knows the users whose rules it has read. -/
theorem isKnown_of_read (taken : read policy isKnown text = .ok file) (strict : policy = .strict)
    {name : String} (owns : file.rules.user.contains name = true) : isKnown name = true := by
  rcases exists_collects_linesOf taken with ⟨last, rfl, collected⟩
  exact exists_read_eq_ok_iff.mp ⟨_, taken⟩ strict name (collected.user_mem owns)

theorem read_text {rules : RuleSet} {order : List (String × List Rule)}
    (well : rules.WellFormed) (perm : order.Perm rules.user.entries)
    (known : policy = .strict → ∀ name, rules.user.contains name = true → isKnown name = true) :
    read policy isKnown (rules.text order) = .ok ⟨rules, rules.count, 0⟩ := by
  have writable : ∀ line ∈ rules.lines order, line.Writable := fun _ =>
    well.writable_of_mem_lines perm
  have lines_eq : linesOf (rules.text order) = rules.lines order := linesOf_textOf writable
  obtain ⟨file, taken⟩ : ∃ file, read policy isKnown (rules.text order) = .ok file := by
    rw [exists_read_eq_ok_iff, lines_eq]
    intro strict name member
    exact known strict name (RuleSet.contains_of_user_mem_lines perm member)
  have accepted_eq := accepted_eq_of_read taken
  rcases exists_collects_linesOf taken with ⟨last, rfl, collected⟩
  rw [lines_eq] at collected
  have rules_eq := well.eq_of_collects perm collected
  have malformed_eq : last.file.malformed = 0 := by
    rw [collected.malformed_eq, List.countP_eq_zero]
    intro line member
    have sense : line ≠ .malformed := by
      rintro rfl
      exact writable .malformed member
    simpa using sense
  rw [taken, ← malformed_eq, ← rules_eq, ← accepted_eq]

/-- The texts that are read have well-formed rules, and every well-formed rule set is read
back from the text that lists it, in whatever order it lists the users: with as many
accepted lines as there are rules and no malformed ones, whether the reader is permissive or
knows the users.  So listing what has been read and reading it again changes no rule. -/
theorem read_eq_wellFormed_rules :
    (∀ policy isKnown text file, read policy isKnown text = .ok file → file.rules.WellFormed) ∧
    (∀ rules : RuleSet, rules.WellFormed → ∀ order, order.Perm rules.user.entries →
      ∀ policy isKnown,
        (policy = .strict → ∀ name, rules.user.contains name = true → isKnown name = true) →
        read policy isKnown (rules.text order) = .ok ⟨rules, rules.count, 0⟩) ∧
    ∀ policy isKnown text file, read policy isKnown text = .ok file →
      ∀ order, order.Perm file.rules.user.entries →
        read policy isKnown (file.rules.text order) = .ok ⟨file.rules, file.rules.count, 0⟩ := by
  refine ⟨fun _ _ _ _ => wellFormed_of_read, ?_, ?_⟩
  · intro rules well order perm policy isKnown known
    exact read_text well perm known
  · intro policy isKnown text file taken order perm
    exact read_text (wellFormed_of_read taken) perm fun strict name =>
      isKnown_of_read taken strict

/-- A name may look like a comment and a pattern may hold blanks.  The users are listed in
an order that is not the one of their names. -/
theorem read_eq_rules_of_two_users :
    ∃ file order, read .strict (fun _ => true)
        "topic none\nuser u\n topic a \nbad\nuser #b\ntopic read x  y\n" = .ok file ∧
      file.rules.WellFormed ∧ order.Perm file.rules.user.entries ∧
      file.rules.text order =
        "topic readwrite none\nuser u\ntopic readwrite a\nuser #b\ntopic read x  y\n" ∧
      read .strict (fun _ => true)
        "topic readwrite none\nuser u\ntopic readwrite a\nuser #b\ntopic read x  y\n" =
          .ok ⟨file.rules, 3, 0⟩ ∧
      read .permissive (fun _ => false)
        "topic readwrite none\nuser u\ntopic readwrite a\nuser #b\ntopic read x  y\n" =
          .ok ⟨file.rules, 3, 0⟩ := by
  have taken : read .strict (fun _ => true)
      "topic none\nuser u\n topic a \nbad\nuser #b\ntopic read x  y\n" = .ok _ := rfl
  have well := read_eq_wellFormed_rules.1 _ _ _ _ taken
  have perm := List.Perm.swap ("#b", [(⟨"x  y", .read⟩ : Rule)])
    ("u", [(⟨"a", .readWrite⟩ : Rule)]) []
  have read_again := read_eq_wellFormed_rules.2.2 _ _ _ _ taken _ perm
  have read_permissive := read_eq_wellFormed_rules.2.1 _ well _ perm .permissive (fun _ => false)
    (by simp)
  exact ⟨_, _, taken, well, perm, rfl, read_again, read_permissive⟩

end File

end Acl

end TopicGuard
