import TopicGuard.RuleSet
import TopicGuard.Topic

/-!
# Decisions

A guard holds the rules in force and the policy for subscribing, or no rules at
all, and then everything is allowed.  It tries the rules of the requesting user
first, with their patterns as they are written, then the common rules and then
the pattern rules, both with the placeholders of their patterns replaced.  The
first rule that matches the topic and grants the access decides; a shared rule
that has no pattern for the request is passed over; and if no rule decides, the
request is denied.
-/

namespace TopicGuard

/-- A request for access. -/
structure Request where
  username : String
  clientId : String
  topic : String
  access : Access
  deriving Repr, DecidableEq

/-- The outcome of a request. -/
inductive Decision where
  /-- There are no rules, so everything is allowed. -/
  | unchecked
  /-- A rule of this partition with this pattern allows the request. -/
  | granted (origin : Origin) (pattern : String)
  /-- No rule allows the request. -/
  | denied
  deriving Repr, DecidableEq

namespace Decision

/-- Whether the request is allowed. -/
def isAllowed : Decision → Bool
  | .unchecked => true
  | .granted _ _ => true
  | .denied => false

/-- The partition of the rule that allows the request. -/
def origin? : Decision → Option Origin
  | .granted origin _ => some origin
  | _ => none

/-- The pattern of the rule that allows the request. -/
def pattern? : Decision → Option String
  | .granted _ pattern => some pattern
  | _ => none

/-- The reason for the outcome, in words. -/
def reason : Decision → String
  | .unchecked => "ACL disabled"
  | .granted origin pattern => "Allowed by " ++ origin.name ++ " rule: " ++ pattern
  | .denied => "No matching rule, default deny"

end Decision

/-- The rules in force. -/
structure Guard where
  /-- The rules, unless everything is allowed. -/
  rules : Option RuleSet
  /-- Which rules grant a request to subscribe. -/
  policy : SubscribePolicy
  deriving DecidableEq

namespace Guard

/-- The guard that allows everything. -/
def disabled : Guard :=
  ⟨none, .strict⟩

/-- The guard over a set of rules. -/
def ofRules (rules : RuleSet) (policy : SubscribePolicy) : Guard :=
  ⟨some rules, policy⟩

/-- Whether requests are checked at all. -/
def isEnabled (guard : Guard) : Bool :=
  guard.rules.isSome

/-- Whether a rule of some level with some pattern allows a request. -/
def allows (policy : SubscribePolicy) (request : Request) (pattern : String)
    (level : Access) : Bool :=
  Topic.covers pattern request.topic &&
    Access.grants policy (pattern == "#") level request.access

/-- The decision of the first rule of a partition that allows a request, given
each rule's pattern for the request. -/
def firstGrant (policy : SubscribePolicy) (request : Request) (origin : Origin)
    (patternOf : Rule → Option String) (rules : List Rule) : Option Decision :=
  rules.findSome? fun rule =>
    (patternOf rule).bind fun pattern =>
      if allows policy request pattern rule.access then some (.granted origin pattern)
      else none

/-- The decision of the first rule that allows a request. -/
def grantFrom (rules : RuleSet) (policy : SubscribePolicy) (request : Request) :
    Option Decision :=
  let filled := fun rule : Rule => rule.patternFor? request.clientId request.username
  firstGrant policy request .user (fun rule => some rule.pattern)
      (rules.rulesOf request.username)
    <|> firstGrant policy request .common filled rules.common
    <|> firstGrant policy request .pattern filled rules.pattern

/-- Decide a request. -/
def decision (guard : Guard) (request : Request) : Decision :=
  match guard.rules with
  | none => .unchecked
  | some rules =>
      if request.access = .none then .denied
      else (grantFrom rules guard.policy request).getD .denied

/-- A rule without a pattern for the request is passed over. -/
theorem firstGrant_cons_of_eq_none {policy : SubscribePolicy} {request : Request}
    {origin : Origin} {patternOf : Rule → Option String} {rule : Rule}
    (unfilled : patternOf rule = none) (rules : List Rule) :
    firstGrant policy request origin patternOf (rule :: rules) =
      firstGrant policy request origin patternOf rules := by
  simp [firstGrant, unfilled]

/-- Only a guard without rules leaves a request unchecked. -/
theorem isEnabled_eq_false_iff {guard : Guard} :
    guard.isEnabled = false ↔ guard.rules = none := by
  simp [isEnabled]

end Guard

end TopicGuard
