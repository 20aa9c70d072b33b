import TopicGuard.Store

/-!
# Failures

A command that fails reports the outermost error and, below it, what lies behind
it, from the outside in.  A single cause is indented; several are numbered from
zero.  The further lines of a cause are set below its first.
-/

namespace TopicGuard

/-- An error with its causes, from the outside in. -/
structure Failure where
  error : String
  causes : List String
  deriving Repr, DecidableEq

namespace Failure

/-- A text with `lead` before its first line and `below` before the others. -/
def indented (lead below : List Char) (text : List Char) : List Char :=
  lead ++ ('\n' :: below).intercalate (text.splitOn '\n')

/-- The mark before the cause with some number: the number, set to five places. -/
def numberLead (number : Nat) : List Char :=
  let digits := Nat.toDigits 10 number
  List.replicate (5 - digits.length) ' ' ++ digits ++ [':', ' ']

/-- Several causes, numbered from some number on. -/
def numberedCauses : Nat → List String → List Char
  | _, [] => []
  | number, cause :: rest =>
      '\n' :: (indented (numberLead number) (List.replicate 7 ' ') cause.toList
        ++ numberedCauses (number + 1) rest)

/-- The report of causes. -/
def causesText : List String → List Char
  | [] => []
  | [cause] =>
      '\n' :: indented (List.replicate 4 ' ') (List.replicate 4 ' ') cause.toList
  | causes => numberedCauses 0 causes

/-- The report of a failure. -/
def report (failure : Failure) : String :=
  "Error: " ++ failure.error ++
    (if failure.causes.isEmpty then ""
    else "\n\nCaused by:" ++ String.ofList (causesText failure.causes))

/-- The failure of a command that could not load its files. -/
def ofLoadError (error : LoadError) : Failure :=
  ⟨"Failed to load files", error.message :: error.cause?.toList⟩

end Failure

end TopicGuard
