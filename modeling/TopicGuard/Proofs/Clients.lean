import TopicGuard.Proofs.Candidates
import TopicGuard.Proofs.Filling

/-!
# What a client id can change

Requests that differ only in the client id are decided by the same rules in the same
order.  A rule that does not ask for the client id is the same candidate for all of
them, and a shared rule that asks for it is no candidate for an id with a wildcard.
So an id matters through the rules that ask for it and through no others, and an id
with a wildcard is allowed nothing that is not allowed to every id.
-/

namespace TopicGuard

/-! ## Rules that do not ask for the client id -/

namespace Rule

/-- The pattern of a rule for a request is the same for all client ids, unless the
rule asks for the id. -/
theorem patternFor?_eq_of_not_infix {rule : Rule}
    (unasked : ¬ ['%', 'c'] <:+: rule.pattern.toList) (first second username : String) :
    rule.patternFor? first username = rule.patternFor? second username := by
  have absent : Piece.client ∉ pieces rule.pattern.toList := by
    rwa [client_mem_pieces_iff]
  have same_value : ∀ piece ∈ pieces rule.pattern.toList,
      piece.value first.toList username.toList = piece.value second.toList username.toList := by
    intro piece found
    cases piece with
    | client => exact absurd found absent
    | plain c => rfl
    | user => rfl
  ext filled
  simp only [patternFor?_eq_some_iff, Admits, expand, absent, false_implies, true_and,
    List.flatMap_congr same_value]

/-- A rule that asks for the client id has no pattern for an id with a wildcard. -/
theorem patternFor?_eq_none_of_infix {rule : Rule} {clientId : String}
    (asked : ['%', 'c'] <:+: rule.pattern.toList)
    (wild : '+' ∈ clientId.toList ∨ '#' ∈ clientId.toList) (username : String) :
    rule.patternFor? clientId username = none :=
  patternFor?_eq_none_iff.mpr (.inl ⟨asked, wild⟩)

end Rule

/-! ## The rule that decides -/

/-- A rule and the partition that it is tried from. -/
structure Trial where
  /-- The partition of the rule. -/
  origin : Origin
  /-- The rule as it is written. -/
  rule : Rule
  deriving Repr, DecidableEq

namespace Trial

/-- The candidate that comes of trying a rule: only the rules of a user are taken as
they are written. -/
def candidate? (request : Request) (trial : Trial) : Option Candidate :=
  match trial.origin with
  | .user => some (Candidate.literal .user trial.rule)
  | origin => Candidate.filled? origin request trial.rule

/-- The candidate of a rule belongs to its partition and grants its level. -/
theorem eq_of_candidate? {request : Request} {trial : Trial} {candidate : Candidate}
    (comes : trial.candidate? request = some candidate) :
    candidate = ⟨trial.origin, candidate.pattern, trial.rule.access⟩ := by
  rcases trial with ⟨origin, rule⟩
  cases origin with
  | user =>
      cases comes
      rfl
  | common =>
      rcases Option.map_eq_some_iff.mp comes with ⟨pattern, _, rfl⟩
      rfl
  | pattern =>
      rcases Option.map_eq_some_iff.mp comes with ⟨pattern, _, rfl⟩
      rfl

theorem origin_candidate? {request : Request} {trial : Trial} {candidate : Candidate}
    (comes : trial.candidate? request = some candidate) : candidate.origin = trial.origin :=
  congrArg Candidate.origin (eq_of_candidate? comes)

theorem access_candidate? {request : Request} {trial : Trial} {candidate : Candidate}
    (comes : trial.candidate? request = some candidate) : candidate.access = trial.rule.access :=
  congrArg Candidate.access (eq_of_candidate? comes)

/-- The rule is taken as it is written or does not ask for the client id. -/
def IgnoresClient (trial : Trial) : Prop :=
  trial.origin = .user ∨ ¬ ['%', 'c'] <:+: trial.rule.pattern.toList

/-- Trying the rule gives a candidate that grants the request. -/
def Grants (policy : SubscribePolicy) (request : Request) (trial : Trial) : Prop :=
  ∃ candidate, trial.candidate? request = some candidate ∧ candidate.Grants policy request

instance (policy : SubscribePolicy) (request : Request) :
    DecidablePred (Grants policy request) := fun trial =>
  decidable_of_iff ((trial.candidate? request).any (·.Grants policy request) = true) <| by
    simp [Grants, Option.any_eq_true]

end Trial

/-- The rules that are tried for a user, in their order. -/
def RuleSet.trials (rules : RuleSet) (username : String) : List Trial :=
  (rules.rulesOf username).map (Trial.mk .user) ++ rules.common.map (Trial.mk .common) ++
    rules.pattern.map (Trial.mk .pattern)

/-- The first rule that grants a request. -/
def RuleSet.decidingTrial? (rules : RuleSet) (policy : SubscribePolicy) (request : Request) :
    Option Trial :=
  (rules.trials request.username).find? fun trial => trial.Grants policy request

namespace RuleSet

variable {rules : RuleSet} {policy : SubscribePolicy} {request : Request}

/-- The candidates for a request come of trying the rules for its user. -/
theorem candidates_eq_filterMap_trials (rules : RuleSet) (request : Request) :
    rules.candidates request =
      (rules.trials request.username).filterMap (Trial.candidate? request) := by
  simp only [candidates, trials, List.filterMap_append, List.filterMap_map]
  rw [← List.filterMap_eq_map]
  rfl

/-- The first candidate that grants a request comes of the rule that decides it. -/
theorem firstGranting?_eq_decidingTrial? :
    rules.firstGranting? policy request =
      (rules.decidingTrial? policy request).bind (Trial.candidate? request) := by
  rw [firstGranting?, candidates_eq_filterMap_trials, List.find?_filterMap, decidingTrial?]
  congr 2
  funext trial
  cases found : trial.candidate? request <;> simp [Trial.Grants, found]

/-- What decides is one of the rules that are tried, and it grants the request. -/
theorem grants_of_decidingTrial? {trial : Trial}
    (decides : rules.decidingTrial? policy request = some trial) :
    trial ∈ rules.trials request.username ∧ trial.Grants policy request :=
  ⟨List.mem_of_find?_eq_some decides, by simpa using List.find?_some decides⟩

end RuleSet

namespace Guard

/-- A guard with rules allows a request exactly if some rule that is tried grants it. -/
theorem isAllowed_iff_exists_trial {guard : Guard} {rules : RuleSet}
    (enabled : guard.rules = some rules) (request : Request) :
    (guard.decision request).isAllowed = true ↔
      ∃ trial ∈ rules.trials request.username, trial.Grants guard.policy request := by
  rw [isAllowed_iff_exists_grants enabled, RuleSet.candidates_eq_filterMap_trials]
  simp only [List.mem_filterMap]
  constructor
  · rintro ⟨candidate, ⟨trial, member, comes⟩, granted⟩
    exact ⟨trial, member, candidate, comes, granted⟩
  · rintro ⟨trial, member, candidate, comes, granted⟩
    exact ⟨candidate, ⟨trial, member, comes⟩, granted⟩

/-- A guard with rules allows a request exactly if some rule decides it. -/
theorem isAllowed_iff_decidingTrial? {guard : Guard} {rules : RuleSet}
    (enabled : guard.rules = some rules) (request : Request) :
    (guard.decision request).isAllowed = true ↔
      ∃ trial, rules.decidingTrial? guard.policy request = some trial := by
  rw [isAllowed_iff_exists_trial enabled, ← Option.isSome_iff_exists, RuleSet.decidingTrial?,
    List.find?_isSome]
  simp only [decide_eq_true_eq]

/-- The decision names the partition of the rule that decides, and its pattern for the
request. -/
theorem decision_of_decidingTrial? {guard : Guard} {rules : RuleSet}
    (enabled : guard.rules = some rules) {request : Request} {trial : Trial}
    (decides : rules.decidingTrial? guard.policy request = some trial) :
    ∃ candidate, trial.candidate? request = some candidate ∧
      guard.decision request = .granted trial.origin candidate.pattern := by
  rcases (RuleSet.grants_of_decidingTrial? decides).2 with ⟨candidate, comes, _⟩
  refine ⟨candidate, comes, ?_⟩
  rw [decision_eq_firstGranting? enabled, RuleSet.firstGranting?_eq_decidingTrial?, decides,
    Option.bind_some, comes, ← Trial.origin_candidate? comes]
  rfl

end Guard

/-! ## Another client id -/

/-- The request with another client id. -/
def Request.withClient (request : Request) (clientId : String) : Request :=
  { request with clientId := clientId }

namespace Trial

variable {trial : Trial} {policy : SubscribePolicy} {request : Request}

/-- A rule that does not ask for the client id gives the same candidate to every id. -/
theorem IgnoresClient.candidate?_withClient (ignores : trial.IgnoresClient)
    (request : Request) (clientId : String) :
    trial.candidate? (request.withClient clientId) = trial.candidate? request := by
  rcases trial with ⟨origin, rule⟩
  rcases ignores with is_user | unasked
  · subst is_user
    rfl
  · have same := Rule.patternFor?_eq_of_not_infix unasked clientId request.clientId
      request.username
    cases origin with
    | user => rfl
    | common => simp only [candidate?, Candidate.filled?, Request.withClient, same]
    | pattern => simp only [candidate?, Candidate.filled?, Request.withClient, same]

/-- What a rule grants to one client id it grants to all, if it does not ask for it. -/
theorem IgnoresClient.grants_withClient (ignores : trial.IgnoresClient)
    (granted : trial.Grants policy request) (clientId : String) :
    trial.Grants policy (request.withClient clientId) := by
  rcases granted with ⟨candidate, comes, matching, level⟩
  exact ⟨candidate, (ignores.candidate?_withClient request clientId).trans comes,
    matching, level⟩

/-- A rule that grants a request to a client id with a wildcard does not ask for the id. -/
theorem ignoresClient_of_grants (granted : trial.Grants policy request)
    (wild : '+' ∈ request.clientId.toList ∨ '#' ∈ request.clientId.toList) :
    trial.IgnoresClient := by
  rcases trial with ⟨origin, rule⟩
  rcases granted with ⟨candidate, comes, _⟩
  by_cases asked : ['%', 'c'] <:+: rule.pattern.toList
  · have without := Rule.patternFor?_eq_none_of_infix asked wild request.username
    cases origin with
    | user => exact .inl rfl
    | common => simp [candidate?, Candidate.filled?, without] at comes
    | pattern => simp [candidate?, Candidate.filled?, without] at comes
  · exact .inr asked

end Trial

namespace Guard

/-- What a rule that does not ask for the client id allows to one id, some rule allows
to every other. -/
theorem isAllowed_withClient_of_ignoresClient {guard : Guard} {rules : RuleSet}
    (enabled : guard.rules = some rules) {request : Request} {trial : Trial}
    (decides : rules.decidingTrial? guard.policy request = some trial)
    (ignores : trial.IgnoresClient) (clientId : String) :
    (guard.decision (request.withClient clientId)).isAllowed = true := by
  rcases RuleSet.grants_of_decidingTrial? decides with ⟨member, granted⟩
  exact (isAllowed_iff_exists_trial enabled _).mpr
    ⟨trial, member, ignores.grants_withClient granted clientId⟩

/-- If no shared rule asks for the client id, the candidates are the same for all ids. -/
theorem decision_withClient_of_unasked {guard : Guard} {rules : RuleSet}
    (enabled : guard.rules = some rules) (request : Request)
    (unasked : ∀ rule ∈ rules.common ++ rules.pattern, ¬ ['%', 'c'] <:+: rule.pattern.toList)
    (clientId : String) :
    guard.decision (request.withClient clientId) = guard.decision request := by
  have ignores : ∀ trial ∈ rules.trials request.username, trial.IgnoresClient := by
    intro trial member
    simp only [RuleSet.trials, List.mem_append, List.mem_map] at member
    rcases member with (⟨rule, _, rfl⟩ | ⟨rule, found, rfl⟩) | ⟨rule, found, rfl⟩
    · exact .inl rfl
    · exact .inr (unasked rule (List.mem_append_left _ found))
    · exact .inr (unasked rule (List.mem_append_right _ found))
  have same : rules.candidates (request.withClient clientId) = rules.candidates request := by
    rw [RuleSet.candidates_eq_filterMap_trials, RuleSet.candidates_eq_filterMap_trials]
    exact List.filterMap_congr fun trial member =>
      (ignores trial member).candidate?_withClient request clientId
  rw [decision_eq_firstGranting? enabled, decision_eq_firstGranting? enabled,
    RuleSet.firstGranting?, RuleSet.firstGranting?, same]
  rfl

/-- What is allowed to a client id with a wildcard is allowed by a rule that does not
ask for it. -/
theorem isAllowed_withClient_of_wildcard {guard : Guard} {rules : RuleSet}
    (enabled : guard.rules = some rules) {request : Request}
    (wild : '+' ∈ request.clientId.toList ∨ '#' ∈ request.clientId.toList)
    (allowed : (guard.decision request).isAllowed = true) (clientId : String) :
    (guard.decision (request.withClient clientId)).isAllowed = true := by
  rcases (isAllowed_iff_decidingTrial? enabled request).mp allowed with ⟨trial, decides⟩
  have granted := (RuleSet.grants_of_decidingTrial? decides).2
  exact isAllowed_withClient_of_ignoresClient enabled decides
    (Trial.ignoresClient_of_grants granted wild) clientId

/-- Of the requests that differ only in the client id, a guard with rules treats all
alike, unless a common rule or a pattern rule asks for the id.  What is allowed by a
rule that does not ask for the id, or to an id with a wildcard, is allowed to every
id. -/
theorem client_matters_only_to_rules_that_ask {guard : Guard} {rules : RuleSet}
    (enabled : guard.rules = some rules) (request : Request) :
    ((guard.decision request).isAllowed = true ↔
        ∃ trial, rules.decidingTrial? guard.policy request = some trial) ∧
      (∀ trial, rules.decidingTrial? guard.policy request = some trial →
        (∃ candidate, trial.candidate? request = some candidate ∧
            guard.decision request = .granted trial.origin candidate.pattern) ∧
          (trial.origin = .user ∨ ¬ ['%', 'c'] <:+: trial.rule.pattern.toList →
            ∀ clientId, (guard.decision (request.withClient clientId)).isAllowed = true)) ∧
      ((∀ rule ∈ rules.common ++ rules.pattern, ¬ ['%', 'c'] <:+: rule.pattern.toList) →
        ∀ clientId, guard.decision (request.withClient clientId) = guard.decision request) ∧
      ('+' ∈ request.clientId.toList ∨ '#' ∈ request.clientId.toList →
        (guard.decision request).isAllowed = true →
        ∀ clientId, (guard.decision (request.withClient clientId)).isAllowed = true) := by
  refine ⟨isAllowed_iff_decidingTrial? enabled request, ?_,
    decision_withClient_of_unasked enabled request, isAllowed_withClient_of_wildcard enabled⟩
  intro trial decides
  constructor
  · exact decision_of_decidingTrial? enabled decides
  · exact isAllowed_withClient_of_ignoresClient enabled decides

/-- A rule that asks for the client id is passed over for the id `#`; the rule after it
does not ask, so it allows the request to every id. -/
theorem wildcard_client_allowed_by_next_rule :
    (ofRules ((RuleSet.empty.addCommonRule ⟨"%c/x", .read⟩).addPatternRule ⟨"%u/x", .read⟩)
        .strict).rules =
      some ((RuleSet.empty.addCommonRule ⟨"%c/x", .read⟩).addPatternRule ⟨"%u/x", .read⟩) ∧
    ('+' ∈ "#".toList ∨ '#' ∈ "#".toList) ∧
    ((ofRules ((RuleSet.empty.addCommonRule ⟨"%c/x", .read⟩).addPatternRule ⟨"%u/x", .read⟩)
        .strict).decision ⟨"u", "#", "u/x", .read⟩).isAllowed = true ∧
    ∀ clientId : String,
      ((ofRules ((RuleSet.empty.addCommonRule ⟨"%c/x", .read⟩).addPatternRule ⟨"%u/x", .read⟩)
        .strict).decision ⟨"u", clientId, "u/x", .read⟩).isAllowed = true :=
  ⟨rfl, by decide, by decide,
    (client_matters_only_to_rules_that_ask rfl ⟨"u", "#", "u/x", .read⟩).2.2.2
      (by decide) (by decide)⟩

end Guard

end TopicGuard
