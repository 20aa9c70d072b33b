import TopicGuard.NameMap
import TopicGuard.Rule

/-!
# Rule sets

The rules of a file fall into three partitions: the rules of each user, the
common rules that hold for everyone, and the pattern rules, which also hold for
everyone.  Each partition keeps the order of the file.
-/

namespace TopicGuard

/-- The partition that a rule belongs to. -/
inductive Origin where
  /-- The rule was written for one user. -/
  | user
  /-- The rule was written before any user was named. -/
  | common
  /-- The rule was written as a pattern. -/
  | pattern
  deriving Repr, DecidableEq

/-- The word for a partition. -/
def Origin.name : Origin → String
  | .user => "user"
  | .common => "common"
  | .pattern => "pattern"

/-- The rules of one file. -/
@[ext]
structure RuleSet where
  /-- The rules of each user who has any. -/
  user : NameMap (List Rule)
  /-- The rules for everyone. -/
  common : List Rule
  /-- The rules for everyone that were written as patterns. -/
  pattern : List Rule
  deriving DecidableEq

namespace RuleSet

/-- No rules. -/
def empty : RuleSet :=
  ⟨.empty, [], []⟩

instance : Inhabited RuleSet :=
  ⟨empty⟩

/-- The rules of one user. -/
def rulesOf (rules : RuleSet) (name : String) : List Rule :=
  (rules.user.get? name).getD []

/-- The rule set with one more rule at the end of a user's rules. -/
def addUserRule (rules : RuleSet) (name : String) (rule : Rule) : RuleSet :=
  { rules with user := rules.user.alter name (fun old => old.getD [] ++ [rule]) }

/-- The rule set with one more common rule. -/
def addCommonRule (rules : RuleSet) (rule : Rule) : RuleSet :=
  { rules with common := rules.common ++ [rule] }

/-- The rule set with one more pattern rule. -/
def addPatternRule (rules : RuleSet) (rule : Rule) : RuleSet :=
  { rules with pattern := rules.pattern ++ [rule] }

/-- How many rules the users have together. -/
def userCount (rules : RuleSet) : Nat :=
  rules.user.entries.foldr (fun entry count => entry.2.length + count) 0

/-- How many rules there are. -/
def count (rules : RuleSet) : Nat :=
  rules.userCount + rules.common.length + rules.pattern.length

/-- Whether there are no rules. -/
def isEmpty (rules : RuleSet) : Bool :=
  rules.count == 0

end RuleSet

end TopicGuard
