/-!
# Records in text

Summaries show a value as a record: a name, and between braces the fields with
their names.  A sequence of values stands between brackets.
-/

namespace TopicGuard.Text

/-- Texts with a comma and a space between them. -/
def commaSeparated (items : List String) : String :=
  String.intercalate ", " items

/-- A record with named fields. -/
def record (name : String) (fields : List (String × String)) : String :=
  name ++ " \x7b " ++ commaSeparated (fields.map fun field => field.1 ++ ": " ++ field.2)
    ++ " \x7d"

/-- A sequence of values. -/
def sequence (items : List String) : String :=
  "[" ++ commaSeparated items ++ "]"

/-- Values under quoted names. -/
def mapping (entries : List (String × String)) : String :=
  "\x7b" ++ commaSeparated (entries.map fun entry => entry.1 ++ ": " ++ entry.2) ++ "\x7d"

end TopicGuard.Text
