import TopicGuard.Acl.Line
import TopicGuard.RuleSet
import TopicGuard.Text.Lines

/-!
# ACL files

An ACL file is read line by line.  A line that names a user opens that user's
section, and the topic rules of a section belong to its user; the topic rules
before the first section are common to everyone, and so are all pattern rules.
A malformed line is counted and otherwise passed over; in particular it neither
opens nor closes a section.  Only a strict reader fails, at the first line that
names a user without a password.
-/

namespace TopicGuard.Acl

/-- What becomes of a section whose user has no password. -/
inductive UnknownUserPolicy where
  /-- It is a section like any other. -/
  | permissive
  /-- The file is refused. -/
  | strict
  deriving Repr, DecidableEq, Inhabited

/-- A line that names a user without a password. -/
structure UnknownUser where
  /-- The number of the line, counted from one. -/
  line : Nat
  /-- The user it names. -/
  name : String
  deriving Repr, DecidableEq

/-- What an ACL file says. -/
structure File where
  /-- The rules of the file. -/
  rules : RuleSet
  /-- How many lines state a rule. -/
  accepted : Nat
  /-- How many lines are malformed. -/
  malformed : Nat
  deriving DecidableEq

/-- The state between two lines of a file. -/
structure Reader where
  /-- The user whose section is open. -/
  owner : Option String
  /-- What the lines so far say. -/
  file : File
  deriving DecidableEq

namespace Reader

/-- The state before the first line. -/
def start : Reader :=
  ⟨none, ⟨.empty, 0, 0⟩⟩

/-- The state after a topic rule. -/
def addTopic (reader : Reader) (rule : Rule) : Reader :=
  let rules := match reader.owner with
    | some name => reader.file.rules.addUserRule name rule
    | none => reader.file.rules.addCommonRule rule
  { reader with file := { reader.file with
      rules := rules, accepted := reader.file.accepted + 1 } }

/-- The state after a pattern rule. -/
def addPattern (reader : Reader) (rule : Rule) : Reader :=
  { reader with file := { reader.file with
      rules := reader.file.rules.addPatternRule rule
      accepted := reader.file.accepted + 1 } }

/-- The state after a malformed line. -/
def addMalformed (reader : Reader) : Reader :=
  { reader with file := { reader.file with malformed := reader.file.malformed + 1 } }

/-- The state after the line with some number. -/
def step (policy : UnknownUserPolicy) (isKnown : String → Bool) (number : Nat)
    (reader : Reader) : Line → Except UnknownUser Reader
  | .inert => .ok reader
  | .user name =>
      if policy = .strict ∧ isKnown name = false then .error ⟨number, name⟩
      else .ok { reader with owner := some name }
  | .topic rule => .ok (reader.addTopic rule)
  | .pattern rule => .ok (reader.addPattern rule)
  | .malformed => .ok reader.addMalformed

/-- The state after some lines, the first of which has the given number. -/
def run (policy : UnknownUserPolicy) (isKnown : String → Bool) (number : Nat)
    (reader : Reader) : List Line → Except UnknownUser Reader
  | [] => .ok reader
  | line :: rest =>
      match reader.step policy isKnown number line with
      | .error unknown => .error unknown
      | .ok next => next.run policy isKnown (number + 1) rest

@[simp]
theorem run_nil (policy : UnknownUserPolicy) (isKnown : String → Bool) (number : Nat)
    (reader : Reader) : reader.run policy isKnown number [] = .ok reader :=
  rfl

/-- Lines are read in order, and the numbers go on. -/
theorem run_append (policy : UnknownUserPolicy) (isKnown : String → Bool) (number : Nat)
    (reader : Reader) (first second : List Line) :
    reader.run policy isKnown number (first ++ second) =
      (reader.run policy isKnown number first).bind
        (fun next => next.run policy isKnown (number + first.length) second) := by
  induction first generalizing number reader with
  | nil => rfl
  | cons line rest ih =>
      simp only [List.cons_append, run, List.length_cons]
      cases reader.step policy isKnown number line with
      | error unknown => rfl
      | ok next =>
          simp only [ih]
          congr 1
          funext last
          congr 1
          omega

/-- A permissive reader takes every line. -/
theorem exists_step_permissive (isKnown : String → Bool) (number : Nat) (reader : Reader)
    (line : Line) :
    ∃ next, reader.step .permissive isKnown number line = .ok next := by
  cases line <;> simp [step]

end Reader

/-- Read the text of an ACL file.  `isKnown` says which users have a password; only
a strict reader asks. -/
def File.read (policy : UnknownUserPolicy) (isKnown : String → Bool) (text : String) :
    Except UnknownUser File :=
  (Reader.start.run policy isKnown 1 ((Text.lines text.toList).map Line.read)).map
    Reader.file

end TopicGuard.Acl
