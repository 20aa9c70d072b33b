import TopicGuard.NameMap
import TopicGuard.Text.Blank
import TopicGuard.Text.Lines
import TopicGuard.Text.Record

/-!
# Password files

Each line of a password file gives the stored password of one user: the name, a
colon, and the stored password, both taken as they are, blanks included.  A line
with no colon or with more than one is malformed; it is counted and passed over.
Of several lines for one user the last counts.
-/

namespace TopicGuard.Password

/-- What a password file says. -/
structure File where
  /-- The stored password of each user. -/
  users : NameMap String
  /-- How many lines are malformed. -/
  malformed : Nat
  deriving DecidableEq

/-- What a line of a password file says. -/
inductive Line where
  /-- The line is blank or a comment. -/
  | inert
  /-- A user and the stored password. -/
  | user (name stored : String)
  /-- The line cannot be understood. -/
  | malformed
  deriving Repr, DecidableEq

/-- Read one line. -/
def Line.read (line : List Char) : Line :=
  if Text.isInert line then .inert
  else
    match line.splitOn ':' with
    | [name, stored] => .user (String.ofList name) (String.ofList stored)
    | _ => .malformed

namespace File

/-- The file without lines. -/
def empty : File :=
  ⟨.empty, 0⟩

/-- The file with one more line. -/
def add (file : File) : Line → File
  | .inert => file
  | .user name stored => { file with users := file.users.insert name stored }
  | .malformed => { file with malformed := file.malformed + 1 }

/-- Read the text of a password file. -/
def read (text : String) : File :=
  ((Text.lines text.toList).map Line.read).foldl add empty

/-- A summary of a file, which shows no stored password. -/
def summary (file : File) : String :=
  Text.record "ParsedPasswords"
    [("users", toString file.users.size), ("malformed", toString file.malformed)]

end File

end TopicGuard.Password
