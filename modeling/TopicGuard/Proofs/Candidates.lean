import TopicGuard.Decision

/-!
# Candidates and the first one that grants

What a guard decides can be said without its three partitions.  Every rule that
has a pattern for a request is a candidate for it: first the rules of the
requesting user, with their patterns as they are written, then the common rules
and then the pattern rules, both with their placeholders replaced.  The decision
is that of the first candidate which matches the topic and grants the access.
-/

namespace TopicGuard

/-- A rule as one request meets it, with the pattern that it has for that request. -/
structure Candidate where
  /-- The partition of the rule. -/
  origin : Origin
  /-- The pattern of the rule for the request. -/
  pattern : String
  /-- The access that the rule grants. -/
  access : Access
  deriving Repr, DecidableEq

namespace Candidate

/-- The candidate of a rule whose pattern is taken as it is written. -/
def literal (origin : Origin) (rule : Rule) : Candidate :=
  ⟨origin, rule.pattern, rule.access⟩

/-- The candidate of a rule whose placeholders are replaced, if it has a pattern
for the request. -/
def filled? (origin : Origin) (request : Request) (rule : Rule) : Option Candidate :=
  (rule.patternFor? request.clientId request.username).map
    fun pattern => ⟨origin, pattern, rule.access⟩

/-- A candidate grants a request if its pattern matches the topic and its level
grants the access; a pattern is bare if it is just `#`. -/
def Grants (policy : SubscribePolicy) (request : Request) (candidate : Candidate) : Prop :=
  Topic.covers candidate.pattern request.topic = true ∧
    Access.grants policy (candidate.pattern == "#") candidate.access request.access = true

instance (policy : SubscribePolicy) (request : Request) :
    DecidablePred (Grants policy request) :=
  fun _ => inferInstanceAs (Decidable (_ ∧ _))

/-- The decision of a candidate that grants a request. -/
def decision (candidate : Candidate) : Decision :=
  .granted candidate.origin candidate.pattern

/-- Nobody grants access to nothing. -/
theorem not_grants_of_access_eq_none {policy : SubscribePolicy} {request : Request}
    (nothing : request.access = .none) (candidate : Candidate) :
    ¬ candidate.Grants policy request := by
  rintro ⟨_, granted⟩
  rw [nothing, Access.grants_none] at granted
  contradiction

end Candidate

/-- The candidates for a request, in the order in which they are tried. -/
def RuleSet.candidates (rules : RuleSet) (request : Request) : List Candidate :=
  (rules.rulesOf request.username).map (Candidate.literal .user) ++
    rules.common.filterMap (Candidate.filled? .common request) ++
    rules.pattern.filterMap (Candidate.filled? .pattern request)

/-- The first candidate for a request that grants it. -/
def RuleSet.firstGranting? (rules : RuleSet) (policy : SubscribePolicy)
    (request : Request) : Option Candidate :=
  (rules.candidates request).find? fun candidate => candidate.Grants policy request

namespace RuleSet

variable {rules : RuleSet} {policy : SubscribePolicy} {request : Request}

/-- The first granting candidate is one that grants, after others that do not. -/
theorem firstGranting?_eq_some_iff {first : Candidate} :
    rules.firstGranting? policy request = some first ↔
      first.Grants policy request ∧
        ∃ earlier later, rules.candidates request = earlier ++ first :: later ∧
          ∀ candidate ∈ earlier, ¬ candidate.Grants policy request := by
  simp [firstGranting?, List.find?_eq_some_iff_append]

/-- There is no first granting candidate if none grants. -/
theorem firstGranting?_eq_none_iff :
    rules.firstGranting? policy request = none ↔
      ∀ candidate ∈ rules.candidates request, ¬ candidate.Grants policy request := by
  simp [firstGranting?]

/-- Some candidate grants a request exactly if there is a first one. -/
theorem isSome_firstGranting?_iff :
    (rules.firstGranting? policy request).isSome = true ↔
      ∃ candidate ∈ rules.candidates request, candidate.Grants policy request := by
  simp [firstGranting?]

end RuleSet

namespace Guard

/-- The search through one partition is a search through its candidates. -/
theorem firstGrant_eq_find? (policy : SubscribePolicy) (request : Request) (origin : Origin)
    (patternOf : Rule → Option String) (rules : List Rule) :
    firstGrant policy request origin patternOf rules =
      ((rules.filterMap fun rule =>
          (patternOf rule).map fun pattern =>
            (⟨origin, pattern, rule.access⟩ : Candidate)).find?
        fun candidate => candidate.Grants policy request).map Candidate.decision := by
  induction rules with
  | nil => rfl
  | cons rule rest ih =>
      cases pattern_eq : patternOf rule with
      | none =>
          rw [firstGrant_cons_of_eq_none pattern_eq, ih]
          simp [pattern_eq]
      | some pattern =>
          simp only [firstGrant, List.findSome?_cons, pattern_eq, Option.bind_some,
            List.filterMap_cons, Option.map_some, List.find?_cons]
          by_cases granted :
              (⟨origin, pattern, rule.access⟩ : Candidate).Grants policy request
          · have allowed : allows policy request pattern rule.access = true := by
              simpa [allows, Candidate.Grants] using granted
            simp [granted, allowed, Candidate.decision]
          · have refused : ¬ allows policy request pattern rule.access = true := by
              simpa [allows, Candidate.Grants] using granted
            simp only [refused, granted, decide_false]
            exact ih

/-- The search through the three partitions is one search through all candidates. -/
theorem grantFrom_eq_firstGranting? (rules : RuleSet) (policy : SubscribePolicy)
    (request : Request) :
    grantFrom rules policy request =
      (rules.firstGranting? policy request).map Candidate.decision := by
  have literal_eq : ∀ userRules : List Rule,
      userRules.map (Candidate.literal .user) =
        userRules.filterMap fun rule =>
          (some rule.pattern).map fun pattern =>
            (⟨.user, pattern, rule.access⟩ : Candidate) := by
    intro userRules
    rw [← List.filterMap_eq_map]
    rfl
  simp only [grantFrom, firstGrant_eq_find?, RuleSet.firstGranting?, RuleSet.candidates,
    List.find?_append, Option.map_or, literal_eq, Option.or_assoc, Option.orElse_eq_orElse,
    Option.orElse_eq_or]
  rfl

/-- A guard with rules decides by the first candidate that grants the request. -/
theorem decision_eq_firstGranting? {guard : Guard} {rules : RuleSet}
    (enabled : guard.rules = some rules) (request : Request) :
    guard.decision request =
      ((rules.firstGranting? guard.policy request).map Candidate.decision).getD .denied := by
  simp only [decision, enabled]
  split
  · rename_i nothing
    have none_grants : rules.firstGranting? guard.policy request = none := by
      simp [RuleSet.firstGranting?, Candidate.not_grants_of_access_eq_none nothing]
    rw [none_grants]
    rfl
  · rw [grantFrom_eq_firstGranting?]

/-- A guard with rules allows what some candidate grants. -/
theorem isAllowed_iff_exists_grants {guard : Guard} {rules : RuleSet}
    (enabled : guard.rules = some rules) (request : Request) :
    (guard.decision request).isAllowed = true ↔
      ∃ candidate ∈ rules.candidates request, candidate.Grants guard.policy request := by
  rw [decision_eq_firstGranting? enabled, ← RuleSet.isSome_firstGranting?_iff]
  cases rules.firstGranting? guard.policy request with
  | none => simp [Decision.isAllowed]
  | some first => simp [Candidate.decision, Decision.isAllowed]

/-- Only a guard without rules allows a request without naming a rule. -/
theorem decision_eq_unchecked_iff (guard : Guard) (request : Request) :
    guard.decision request = .unchecked ↔ guard.isEnabled = false := by
  rw [isEnabled_eq_false_iff]
  cases rules_eq : guard.rules with
  | none => simp [decision, rules_eq]
  | some rules =>
      rw [decision_eq_firstGranting? rules_eq]
      cases rules.firstGranting? guard.policy request with
      | none => simp
      | some first => simp [Candidate.decision]

/-! ## The decision -/

/-- A guard with rules allows a request exactly if some candidate grants it.  The
first such candidate is the one that the decision names, in its parts and in its
words; without one the request is denied, and so is every request for nothing.
Only a guard without rules allows anything without naming a rule. -/
theorem decision_by_first_granting_candidate (guard : Guard) (request : Request) :
    (∀ rules, guard.rules = some rules → request.access ≠ .none →
      ((guard.decision request).isAllowed = true ↔
        ∃ candidate ∈ rules.candidates request, candidate.Grants guard.policy request) ∧
      (∀ earlier first later,
        rules.candidates request = earlier ++ first :: later →
        (∀ candidate ∈ earlier, ¬ candidate.Grants guard.policy request) →
        first.Grants guard.policy request →
        (guard.decision request).origin? = some first.origin ∧
          (guard.decision request).pattern? = some first.pattern ∧
          (guard.decision request).reason =
            "Allowed by " ++ first.origin.name ++ " rule: " ++ first.pattern) ∧
      ((∀ candidate ∈ rules.candidates request, ¬ candidate.Grants guard.policy request) →
        (guard.decision request).origin? = none ∧
          (guard.decision request).pattern? = none ∧
          (guard.decision request).reason = "No matching rule, default deny")) ∧
    (guard.isEnabled = true → request.access = .none →
      (guard.decision request).isAllowed = false ∧
        (guard.decision request).origin? = none ∧
        (guard.decision request).pattern? = none ∧
        (guard.decision request).reason = "No matching rule, default deny") ∧
    ((guard.decision request).isAllowed = true ∧
        (guard.decision request).origin? = none ∧
        (guard.decision request).pattern? = none ↔
      guard.isEnabled = false) := by
  refine ⟨?_, ?_, ?_⟩
  · intro rules enabled _
    refine ⟨isAllowed_iff_exists_grants enabled request, ?_, ?_⟩
    · intro earlier first later split skipped granted
      have found : rules.firstGranting? guard.policy request = some first :=
        RuleSet.firstGranting?_eq_some_iff.mpr ⟨granted, earlier, later, split, skipped⟩
      rw [decision_eq_firstGranting? enabled, found]
      exact ⟨rfl, rfl, rfl⟩
    · intro refused
      rw [decision_eq_firstGranting? enabled,
        RuleSet.firstGranting?_eq_none_iff.mpr refused]
      exact ⟨rfl, rfl, rfl⟩
  · intro enabled nothing
    obtain ⟨rules, rules_eq⟩ := Option.isSome_iff_exists.mp enabled
    have none_grants : rules.firstGranting? guard.policy request = none :=
      RuleSet.firstGranting?_eq_none_iff.mpr fun candidate _ =>
        Candidate.not_grants_of_access_eq_none nothing candidate
    rw [decision_eq_firstGranting? rules_eq, none_grants]
    exact ⟨rfl, rfl, rfl, rfl⟩
  · rw [← decision_eq_unchecked_iff guard request]
    cases guard.decision request <;>
      simp [Decision.isAllowed, Decision.origin?, Decision.pattern?]

/-- A user rule keeps its placeholder as it is written and a common rule of another
level is passed over, so it is the pattern rule that decides. -/
theorem decision_by_third_candidate :
    Access.read ≠ .none ∧
      (⟨.pattern, "a/c", .read⟩ : Candidate).Grants .strict ⟨"u", "c", "a/c", .read⟩ ∧
      ((Guard.ofRules
        (((RuleSet.empty.addUserRule "u" ⟨"a/%c", .read⟩).addCommonRule
          ⟨"a/c", .write⟩).addPatternRule ⟨"a/%c", .read⟩)
        .strict).decision ⟨"u", "c", "a/c", .read⟩).reason =
      "Allowed by pattern rule: a/c" :=
  ⟨by decide, by decide,
    (((decision_by_first_granting_candidate _ ⟨"u", "c", "a/c", .read⟩).1 _ rfl
      (by decide)).2.1 [⟨.user, "a/%c", .read⟩, ⟨.common, "a/c", .write⟩]
        ⟨.pattern, "a/c", .read⟩ [] (by decide) (by decide) (by decide)).2.2⟩

end Guard

end TopicGuard
