import TopicGuard.Access
import TopicGuard.Text.Numeral
import TopicGuard.Text.Words

/-!
# Queries

A query is one line of words.  The first word says what is asked, and each
question takes a fixed number of further words.  A blank line asks nothing.
-/

namespace TopicGuard

/-- The level that a query's word asks for: the word for a level that a rule can
grant, or a broker's code. -/
def Access.ofToken? (token : List Char) : Option Access :=
  Access.ofName? token <|> (Text.wordOfNumeral? token).bind fun code => ofCode? code.toInt

/-- A question to a session. -/
inductive Query where
  /-- May this user log in with this password? -/
  | auth (username password : String)
  /-- May this user on this client have access to this topic? -/
  | acl (username clientId topic access : String)
  /-- Is this user above the rules? -/
  | superuser (username : String)
  /-- Load the files again. -/
  | reload
  /-- The words ask nothing that is known. -/
  | unknown
  deriving Repr, DecidableEq

namespace Query

/-- The question that some words ask. -/
def ofWords? : List String → Option Query
  | [] => none
  | ["auth", username, password] => some (.auth username password)
  | ["acl", username, clientId, topic, access] =>
      some (.acl username clientId topic access)
  | ["superuser", username] => some (.superuser username)
  | ["reload"] => some .reload
  | _ => some .unknown

/-- The question that a line asks, unless it is blank. -/
def read? (line : List Char) : Option Query :=
  ofWords? ((Text.words line).map String.ofList)

/-- Whoever says some word asks something. -/
theorem ofWords?_eq_none_iff {words : List String} : ofWords? words = none ↔ words = [] := by
  constructor
  · intro unasked
    unfold ofWords? at unasked
    split at unasked
    · rfl
    all_goals contradiction
  · rintro rfl
    rfl

end Query

end TopicGuard
