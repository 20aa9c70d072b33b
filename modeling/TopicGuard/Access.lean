/-!
# Access levels

A rule grants a level of access and a request asks for one.  Brokers name the
levels by small codes and rule files name them by words.  Which rules grant a
request is a small table; only a request to subscribe depends on the policy in
force.
-/

namespace TopicGuard

/-- A level of access, granted by a rule or asked for by a request. -/
inductive Access where
  | none
  | read
  | write
  | readWrite
  | subscribe
  deriving Repr, DecidableEq, Inhabited

/-- Which rules grant a request to subscribe. -/
inductive SubscribePolicy where
  /-- Rules that grant reading do, unless their pattern is just `#`. -/
  | strict
  /-- Every matching rule does. -/
  | permissive
  deriving Repr, DecidableEq, Inhabited

namespace Access

/-- All levels, in the order of their codes. -/
def all : List Access :=
  [.none, .read, .write, .readWrite, .subscribe]

/-- The broker's code of a level. -/
def code : Access → Int
  | .none => 0
  | .read => 1
  | .write => 2
  | .readWrite => 3
  | .subscribe => 4

/-- The level with a broker's code. -/
def ofCode? (code : Int) : Option Access :=
  all.find? (fun level => level.code == code)

/-- The word for a level. -/
def name : Access → String
  | .none => "none"
  | .read => "read"
  | .write => "write"
  | .readWrite => "readwrite"
  | .subscribe => "subscribe"

/-- The level that a rule file's word grants.  A rule that grants nothing cannot
be written. -/
def ofName? (name : List Char) : Option Access :=
  [read, write, readWrite, subscribe].find? (fun level => level.name.toList == name)

/-- Whether a rule of level `rule` grants a request for `requested` on a topic
that it matches; `isBare` says that the rule's pattern is just `#`. -/
def grants (policy : SubscribePolicy) (isBare : Bool) (rule requested : Access) : Bool :=
  match requested, rule with
  | .none, _ => false
  | _, .none => false
  | .read, rule => rule == .read || rule == .readWrite
  | .write, rule => rule == .write || rule == .readWrite
  | .readWrite, rule => rule == .readWrite
  | .subscribe, .subscribe => true
  | .subscribe, rule =>
      match policy with
      | .permissive => true
      | .strict => !isBare && (rule == .read || rule == .readWrite)

@[simp]
theorem ofCode?_code (level : Access) : ofCode? level.code = some level := by
  cases level <;> rfl

/-- Each code belongs to one level. -/
theorem ofCode?_eq_some_iff {code : Int} {level : Access} :
    ofCode? code = some level ↔ level.code = code := by
  constructor
  · intro found
    simpa using List.find?_some found
  · rintro rfl
    exact ofCode?_code level

/-- A word stands for the level that has it as a name. -/
theorem ofName?_eq_some_iff {token : List Char} {level : Access} :
    ofName? token = some level ↔ level ≠ .none ∧ token = level.name.toList := by
  constructor
  · intro found
    have member := List.mem_of_find?_eq_some found
    have named := List.find?_some found
    refine ⟨?_, (by simpa using named : level.name.toList = token).symm⟩
    rintro rfl
    simp at member
  · rintro ⟨sense, rfl⟩
    cases level with
    | none => contradiction
    | read | write | readWrite | subscribe => rfl

/-- Asking for nothing is never granted. -/
@[simp]
theorem grants_none (policy : SubscribePolicy) (isBare : Bool) (rule : Access) :
    grants policy isBare rule .none = false := by
  cases rule <;> rfl

end Access

end TopicGuard
