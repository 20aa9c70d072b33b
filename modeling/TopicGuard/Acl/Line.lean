import TopicGuard.Rule
import TopicGuard.Text.Words

/-!
# Lines of an ACL file

Each line of an ACL file stands for itself: it says nothing, it names the user
whom the following topic rules belong to, it states a rule, or it is malformed.
A rule line is a keyword, an optional level and a pattern.  The pattern is the
last field of the line, so it may hold blanks; without a level the rule grants
reading and writing.
-/

namespace TopicGuard.Acl

/-- What a line of an ACL file says. -/
inductive Line where
  /-- The line is blank or a comment. -/
  | inert
  /-- The topic rules from here on belong to this user. -/
  | user (name : String)
  /-- A rule for the user named last, or for everyone. -/
  | topic (rule : Rule)
  /-- A rule for everyone, whoever was named before. -/
  | pattern (rule : Rule)
  /-- The line cannot be understood. -/
  | malformed
  deriving Repr, DecidableEq

namespace Line

/-- The word that starts a line naming a user. -/
def userKeyword : List Char := "user".toList

/-- The word that starts a topic rule. -/
def topicKeyword : List Char := "topic".toList

/-- The word that starts a pattern rule. -/
def patternKeyword : List Char := "pattern".toList

/-- The rule written by a keyword, an optional level and a pattern. -/
def rule? : List (List Char) → Option Rule
  | [_, filter] => some ⟨String.ofList filter, .readWrite⟩
  | [_, level, filter] => (Access.ofName? level).map (⟨String.ofList filter, ·⟩)
  | _ => none

/-- The user named by a line: its second word, if it has two. -/
def userName? (line : List Char) : Option String :=
  match Text.words line with
  | [_, name] => some (String.ofList name)
  | _ => none

/-- The word that says what kind of line this is. -/
def keyword (line : List Char) : List Char :=
  (Text.fields 2 line).headD []

/-- Read one line. -/
def read (line : List Char) : Line :=
  if Text.isInert line then .inert
  else if keyword line = userKeyword then (userName? line).elim .malformed .user
  else if keyword line = topicKeyword then
    (rule? (Text.fields 3 line)).elim .malformed .topic
  else if keyword line = patternKeyword then
    (rule? (Text.fields 3 line)).elim .malformed .pattern
  else .malformed

@[simp]
theorem read_nil : read [] = .inert :=
  rfl

end Line

end TopicGuard.Acl
