import TopicGuard.Proofs.Acl.Sections
import TopicGuard.Proofs.Passwords
import TopicGuard.Proofs.Sources

/-!
# Kinds of lines

Each line of bytes of one of the two files is of exactly one kind.  A well-formed line
is of the kind that its text has in its file; any other line is a comment, or else it is
malformed.  The lines of a kind are counted by the reader of the text, except for the
malformed lines that are lost before it sees them.
-/

namespace TopicGuard

open Text (Bytes isInert)
open Text.Utf8 (encode WellFormed)

/-- What a line of one of the two files can be. -/
inductive LineKind where
  /-- The line is blank or a comment. -/
  | inert
  /-- The line gives a user a password. -/
  | entry
  /-- The line names a user, whose section it opens. -/
  | user
  /-- The line states a rule. -/
  | rule
  /-- The line cannot be understood. -/
  | malformed
  deriving DecidableEq

/-! ## Texts of lines -/

/-- What the text of a line is in a password file. -/
inductive Password.Line.OfKind (text : List Char) : LineKind → Prop
  | inert (silent : isInert text = true) : OfKind text .inert
  | entry {name stored : String} (given : Entry text name stored) : OfKind text .entry
  | malformed (misstated : Misstated text) : OfKind text .malformed

/-- What the text of a line is in an ACL file. -/
inductive Acl.Line.OfKind (text : List Char) : LineKind → Prop
  | inert (silent : isInert text = true) : OfKind text .inert
  | user {name : String} (named : NamesUser text name) : OfKind text .user
  | topic {rule : Rule} (stated : StatesRule topicKeyword text rule) : OfKind text .rule
  | pattern {rule : Rule} (stated : StatesRule patternKeyword text rule) : OfKind text .rule
  | malformed (misstated : Misstated text) : OfKind text .malformed

/-- The kind of a line that has been read. -/
def Password.Line.kind : Password.Line → LineKind
  | .inert => .inert
  | .user _ _ => .entry
  | .malformed => .malformed

/-- The kind of a line that has been read. -/
def Acl.Line.kind : Acl.Line → LineKind
  | .inert => .inert
  | .user _ => .user
  | .topic _ => .rule
  | .pattern _ => .rule
  | .malformed => .malformed

theorem Password.Line.kind_eq_inert_iff {line : Password.Line} :
    line.kind = .inert ↔ line = .inert := by
  cases line <;> simp [kind]

theorem Password.Line.kind_eq_malformed_iff {line : Password.Line} :
    line.kind = .malformed ↔ line = .malformed := by
  cases line <;> simp [kind]

theorem Acl.Line.kind_eq_inert_iff {line : Acl.Line} :
    line.kind = .inert ↔ line = .inert := by
  cases line <;> simp [kind]

theorem Acl.Line.kind_eq_malformed_iff {line : Acl.Line} :
    line.kind = .malformed ↔ line = .malformed := by
  cases line <;> simp [kind]

theorem Acl.Line.kind_eq_rule_iff {line : Acl.Line} :
    line.kind = .rule ↔ line.isRule = true := by
  cases line <;> simp [kind, isRule, topic?, pattern?]

theorem Password.Line.ofKind_iff (text : List Char) (kind : LineKind) :
    OfKind text kind ↔ (read text).kind = kind := by
  constructor
  · intro is_kind
    cases is_kind with
    | inert silent => rw [read_eq_inert_iff.mpr silent]; rfl
    | entry given => rw [read_eq_user_iff.mpr given]; rfl
    | malformed misstated => rw [read_eq_malformed_iff.mpr misstated]; rfl
  · rintro rfl
    cases read_eq : read text with
    | inert => exact .inert (read_eq_inert_iff.mp read_eq)
    | user name stored => exact .entry (read_eq_user_iff.mp read_eq)
    | malformed => exact .malformed (read_eq_malformed_iff.mp read_eq)

/-- What kind of line it is does not depend on the carriage return of the line's end. -/
theorem Password.Line.kind_read_dropReturn (line : List Char) :
    (read (Text.dropReturn '\r' line)).kind = (read line).kind := by
  rw [← ofKind_iff]
  cases read_eq : read line with
  | inert =>
      apply OfKind.inert
      rw [Text.isInert_dropReturn]
      exact read_eq_inert_iff.mp read_eq
  | user name stored =>
      rcases exists_entry_dropReturn_iff.mpr ⟨stored, read_eq_user_iff.mp read_eq⟩ with
        ⟨_, given⟩
      exact .entry given
  | malformed =>
      exact .malformed (misstated_dropReturn_iff.mpr (read_eq_malformed_iff.mp read_eq))

theorem Acl.Line.ofKind_iff (text : List Char) (kind : LineKind) :
    OfKind text kind ↔ (read text).kind = kind := by
  constructor
  · intro is_kind
    cases is_kind with
    | inert silent => rw [read_eq_inert_iff.mpr silent]; rfl
    | user named => rw [read_eq_user_iff.mpr named]; rfl
    | topic stated => rw [read_eq_topic_iff.mpr stated]; rfl
    | pattern stated => rw [read_eq_pattern_iff.mpr stated]; rfl
    | malformed misstated => rw [read_eq_malformed_iff.mpr misstated]; rfl
  · rintro rfl
    cases read_eq : read text with
    | inert => exact .inert (read_eq_inert_iff.mp read_eq)
    | user name => exact .user (read_eq_user_iff.mp read_eq)
    | topic rule => exact .topic (read_eq_topic_iff.mp read_eq)
    | pattern rule => exact .pattern (read_eq_pattern_iff.mp read_eq)
    | malformed => exact .malformed (read_eq_malformed_iff.mp read_eq)

namespace Source

/-! ## Lines of bytes -/

/-- What a line of bytes is in a file where texts of lines are of some kinds. -/
inductive OfKind (textOfKind : List Char → LineKind → Prop) (line : Bytes) : LineKind → Prop
  | written {text : List Char} {kind : LineKind} (encoded : encode text = line)
      (of_kind : textOfKind text kind) : OfKind textOfKind line kind
  | comment (ill : ¬ WellFormed line) (comment : Comment line) : OfKind textOfKind line .inert
  | lost (lost : Lost line) : OfKind textOfKind line .malformed

variable {textOfKind : List Char → LineKind → Prop} {kindOfText : List Char → LineKind}
  {line : Bytes} {kind : LineKind}

/-- A line has a text, or is a comment, or is lost. -/
theorem line_cases (line : Bytes) :
    (∃ text, encode text = line) ∨ (¬ WellFormed line ∧ Comment line) ∨ Lost line := by
  by_cases well : WellFormed line
  · exact .inl well
  · by_cases comment : Comment line
    · exact .inr (.inl ⟨well, comment⟩)
    · exact .inr (.inr ⟨well, comment⟩)

theorem ofKind_encode_iff {text : List Char} :
    OfKind textOfKind (encode text) kind ↔ textOfKind text kind := by
  constructor
  · intro is_kind
    cases is_kind with
    | written encoded of_kind => rwa [Text.Utf8.encode_injective encoded] at of_kind
    | comment ill => exact absurd ⟨text, rfl⟩ ill
    | lost lost => exact absurd ⟨text, rfl⟩ lost.1
  · exact .written rfl

theorem ofKind_iff_of_comment (ill : ¬ WellFormed line) (comment : Comment line) :
    OfKind textOfKind line kind ↔ kind = .inert := by
  constructor
  · intro is_kind
    cases is_kind with
    | written encoded => exact absurd ⟨_, encoded⟩ ill
    | comment => rfl
    | lost lost => exact absurd comment lost.2
  · rintro rfl
    exact .comment ill comment

theorem ofKind_iff_of_lost (lost : Lost line) :
    OfKind textOfKind line kind ↔ kind = .malformed := by
  constructor
  · intro is_kind
    cases is_kind with
    | written encoded => exact absurd ⟨_, encoded⟩ lost.1
    | comment _ comment => exact absurd comment lost.2
    | lost => rfl
  · rintro rfl
    exact .lost lost

/-! ## Computing kinds and counting lines -/

/-- How many lines of a file are of some kind. -/
def countOf (textOfKind : List Char → LineKind → Prop)
    [∀ line kind, Decidable (OfKind textOfKind line kind)] (bytes : Bytes) (kind : LineKind) :
    Nat :=
  (bytes.splitOn 0x0A).countP (OfKind textOfKind · kind)

/-- The kind of a line of bytes, where `kindOfText` is the kind of its text. -/
def kindOf (kindOfText : List Char → LineKind) (line : Bytes) : LineKind :=
  if Lost line then .malformed else kindOfText (lineText line)

theorem lineText_of_lost (lost : Lost line) : lineText line = [] :=
  lineText_eq_iff.mpr (.inr ⟨lost.1, rfl⟩)

section

variable (computed : ∀ text kind, textOfKind text kind ↔ kindOfText text = kind)
  (silent : kindOfText [] = .inert)
include computed silent

theorem ofKind_iff_kindOf : OfKind textOfKind line kind ↔ kindOf kindOfText line = kind := by
  rw [kindOf]
  rcases line_cases line with ⟨text, rfl⟩ | ⟨ill, comment⟩ | lost
  · have kept : ¬ Lost (encode text) := fun lost => lost.1 ⟨text, rfl⟩
    rw [ofKind_encode_iff, computed, if_neg kept, lineText_eq_iff.mpr (.inl rfl)]
  · have kept : ¬ Lost line := fun lost => lost.2 comment
    rw [ofKind_iff_of_comment ill comment, if_neg kept, lineText_eq_iff.mpr (.inr ⟨ill, rfl⟩),
      silent, eq_comm]
  · rw [ofKind_iff_of_lost lost, if_pos lost, eq_comm]

/-- Every line is of exactly one kind. -/
theorem existsUnique_ofKind (line : Bytes) : ∃! kind, OfKind textOfKind line kind := by
  simp only [ofKind_iff_kindOf computed silent, existsUnique_eq']

variable [∀ line kind, Decidable (OfKind textOfKind line kind)]

/-- The lines that say something are counted by the reader of the text. -/
theorem countOf_eq_countP (visible : kind ≠ .inert) (sensible : kind ≠ .malformed)
    (bytes : Bytes) :
    countOf textOfKind bytes kind =
      ((ofBytes bytes).text.toList.splitOn '\n').countP (kindOfText · = kind) := by
  rw [countOf, splitOn_text_ofBytes, List.countP_map]
  refine List.countP_congr fun line _ => ?_
  simp only [ofKind_iff_kindOf computed silent, Function.comp_apply, decide_eq_true_eq, kindOf]
  split
  · rename_i lost
    simp [lineText_of_lost lost, silent, visible.symm, sensible.symm]
  · rfl

/-- The malformed lines are those that the reader of the text finds, and the lost ones. -/
theorem countOf_malformed (bytes : Bytes) :
    countOf textOfKind bytes .malformed =
      ((ofBytes bytes).text.toList.splitOn '\n').countP (kindOfText · = .malformed) +
        lostCount bytes := by
  rw [countOf, List.countP_eq_countP_filter_add _ _ (Lost ·), List.countP_filter,
    List.countP_filter, splitOn_text_ofBytes, List.countP_map, lostCount, Nat.add_comm]
  congr 1
  · refine List.countP_congr fun line _ => ?_
    simp only [ofKind_iff_kindOf computed silent, kindOf]
    by_cases lost : Lost line
    · simp [lost, lineText_of_lost lost, silent]
    · simp [lost]
  · refine List.countP_congr fun line _ => ?_
    simp only [ofKind_iff_kindOf computed silent, kindOf]
    by_cases lost : Lost line <;> simp [lost]

end

end Source

/-! ## Lines of the two files -/

instance (line : Bytes) (kind : LineKind) :
    Decidable (Source.OfKind Password.Line.OfKind line kind) :=
  decidable_of_iff _ (Source.ofKind_iff_kindOf Password.Line.ofKind_iff rfl).symm

instance (line : Bytes) (kind : LineKind) :
    Decidable (Source.OfKind Acl.Line.OfKind line kind) :=
  decidable_of_iff _ (Source.ofKind_iff_kindOf Acl.Line.ofKind_iff rfl).symm

end TopicGuard
