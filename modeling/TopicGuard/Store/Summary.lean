import TopicGuard.Store
import TopicGuard.Text.Record

/-!
# Summaries of stores

A summary shows the rules and counts of a store, and of the users only how many
there are, so no stored password gets into it.
-/

namespace TopicGuard

open Text (record sequence mapping quote)

/-- The word for a level in a summary. -/
def Access.summary : Access → String
  | .none => "None"
  | .read => "Read"
  | .write => "Write"
  | .readWrite => "ReadWrite"
  | .subscribe => "Subscribe"

/-- The word for a policy in a summary. -/
def SubscribePolicy.summary : SubscribePolicy → String
  | .strict => "Strict"
  | .permissive => "Permissive"

/-- A summary of a rule. -/
def Rule.summary (rule : Rule) : String :=
  record "AclRule" [("topic", quote rule.pattern), ("access", rule.access.summary)]

/-- A summary of the rules of one partition. -/
def rulesSummary (rules : List Rule) : String :=
  sequence (rules.map Rule.summary)

/-- A summary of a rule set. -/
def RuleSet.summary (rules : RuleSet) : String :=
  record "RuleSet"
    [("user_rules", mapping (rules.user.entries.map fun entry =>
        (quote entry.1, rulesSummary entry.2))),
      ("pattern_rules", rulesSummary rules.pattern),
      ("common_rules", rulesSummary rules.common)]

/-- A summary of a guard. -/
def Guard.summary (guard : Guard) : String :=
  record "AclEvaluator"
    [("rules", match guard.rules with
        | none => "None"
        | some rules => "Some(" ++ rules.summary ++ ")"),
      ("subscribe_policy", guard.policy.summary), ("topic_matcher", "TopicMatcher")]

/-- A summary of the counts of a reading. -/
def Stats.summary (stats : Stats) : String :=
  record "LoadStats"
    [("users", toString stats.users), ("acl_rules", toString stats.aclRules),
      ("malformed_lines", toString stats.malformedLines)]

/-- A summary of a store. -/
def Store.summary (store : Store) : String :=
  record "Store"
    [("users", toString store.users.size), ("acl", store.acl.summary),
      ("stats", store.stats.summary)]

end TopicGuard
