import TopicGuard.Proofs.Clients

/-!
# Verdicts across levels and policies

The candidates for a request do not depend on the access that it asks for, nor on the policy
for subscribing; only which of them grant it does.  So two verdicts on one topic are compared
candidate by candidate, through the table of levels: the policies differ for requests to
subscribe alone, where the permissive one grants more, and what the levels have in common is
common to the verdicts.
-/

namespace TopicGuard

/-! ## The table of levels -/

namespace Access

variable {policy : SubscribePolicy} {isBare : Bool} {rule requested : Access}

theorem grants_read_iff :
    grants policy isBare rule .read = true ↔ rule = .read ∨ rule = .readWrite := by
  cases rule <;> simp [grants]

theorem grants_write_iff :
    grants policy isBare rule .write = true ↔ rule = .write ∨ rule = .readWrite := by
  cases rule <;> simp [grants]

theorem grants_readWrite_iff :
    grants policy isBare rule .readWrite = true ↔ rule = .readWrite := by
  cases rule <;> simp [grants]

/-- The permissive policy lets every rule that grants anything grant a subscription. -/
theorem grants_subscribe_permissive_iff :
    grants .permissive isBare rule .subscribe = true ↔ rule ≠ .none := by
  cases rule <;> simp [grants]

/-- The strict policy asks for a subscribe rule, or for one that grants reading and whose
pattern is not bare. -/
theorem grants_subscribe_strict_iff :
    grants .strict isBare rule .subscribe = true ↔
      rule = .subscribe ∨ isBare = false ∧ (rule = .read ∨ rule = .readWrite) := by
  cases rule <;> simp [grants]

/-- The policy matters to requests to subscribe only. -/
theorem grants_congr_policy (others : requested ≠ .subscribe) (first second : SubscribePolicy) :
    grants first isBare rule requested = grants second isBare rule requested := by
  cases requested with
  | subscribe => contradiction
  | none => rfl
  | read => cases rule <;> rfl
  | write => cases rule <;> rfl
  | readWrite => cases rule <;> rfl

/-- What the strict policy grants the permissive one grants too. -/
theorem grants_permissive_of_strict (granted : grants .strict isBare rule requested = true) :
    grants .permissive isBare rule requested = true := by
  by_cases subscribes : requested = .subscribe
  · subst subscribes
    rw [grants_subscribe_permissive_iff]
    rintro rfl
    simp [grants] at granted
  · rwa [grants_congr_policy subscribes .permissive .strict]

end Access

/-! ## The subscribe policies -/

theorem Candidate.Grants.permissive {candidate : Candidate} {request : Request}
    (granted : candidate.Grants .strict request) : candidate.Grants .permissive request :=
  ⟨granted.1, Access.grants_permissive_of_strict granted.2⟩

namespace RuleSet

/-- The candidate at a place grants a request, and no candidate before it does. -/
structure DecidesAt (rules : RuleSet) (policy : SubscribePolicy) (request : Request)
    (place : Nat) (candidate : Candidate) : Prop where
  placed : (rules.candidates request)[place]? = some candidate
  grants : candidate.Grants policy request
  first : ∀ earlier ∈ (rules.candidates request).take place, ¬ earlier.Grants policy request

variable {rules : RuleSet} {policy : SubscribePolicy} {request : Request}

/-- The first candidate that grants a request has a place among the candidates. -/
theorem firstGranting?_eq_some_iff_decidesAt {candidate : Candidate} :
    rules.firstGranting? policy request = some candidate ↔
      ∃ place, rules.DecidesAt policy request place candidate := by
  rw [firstGranting?_eq_some_iff]
  constructor
  · rintro ⟨granted, earlier, later, split, skipped⟩
    refine ⟨earlier.length, ?_, granted, ?_⟩
    · simp [split]
    · simpa [split] using skipped
  · rintro ⟨place, placed, granted, skipped⟩
    obtain ⟨below, rfl⟩ := List.getElem?_eq_some_iff.mp placed
    refine ⟨granted, _, (rules.candidates request).drop (place + 1), ?_, skipped⟩
    rw [List.getElem_cons_drop, List.take_append_drop]

/-- If some candidate grants a request, one at its place or before it decides. -/
theorem exists_decidesAt_le {place : Nat} {candidate : Candidate}
    (placed : (rules.candidates request)[place]? = some candidate)
    (granted : candidate.Grants policy request) :
    ∃ earliest ≤ place, ∃ first, rules.DecidesAt policy request earliest first := by
  induction place using Nat.strong_induction_on generalizing candidate with
  | _ place ih =>
      by_cases skipped : ∀ earlier ∈ (rules.candidates request).take place,
          ¬ earlier.Grants policy request
      · exact ⟨place, Nat.le_refl place, candidate, placed, granted, skipped⟩
      · simp only [not_forall, not_not] at skipped
        obtain ⟨earlier, member, earlier_granted⟩ := skipped
        obtain ⟨before, below, rfl⟩ := List.mem_take_iff_getElem.mp member
        have before_lt : before < place := Nat.lt_of_lt_of_le below (Nat.min_le_left _ _)
        obtain ⟨earliest, earliest_le, first, decides⟩ :=
          ih before before_lt (List.getElem?_eq_getElem _) earlier_granted
        exact ⟨earliest, Nat.le_trans earliest_le (Nat.le_of_lt before_lt), first, decides⟩

end RuleSet

namespace Guard

variable {rules : RuleSet} {request : Request}

/-- What a candidate decides is the decision of the guard. -/
theorem decision_of_decidesAt {policy : SubscribePolicy} {place : Nat} {candidate : Candidate}
    (decides : rules.DecidesAt policy request place candidate) :
    (ofRules rules policy).decision request = candidate.decision := by
  have found : rules.firstGranting? policy request = some candidate :=
    RuleSet.firstGranting?_eq_some_iff_decidesAt.mpr ⟨place, decides⟩
  rw [decision_eq_firstGranting? rfl, ofRules, found]
  rfl

/-- A request is allowed exactly if some candidate decides it. -/
theorem isAllowed_iff_exists_decidesAt {policy : SubscribePolicy} :
    ((ofRules rules policy).decision request).isAllowed = true ↔
      ∃ place candidate, rules.DecidesAt policy request place candidate := by
  rw [isAllowed_iff_exists_grants rfl, ← RuleSet.isSome_firstGranting?_iff,
    Option.isSome_iff_exists]
  simp only [RuleSet.firstGranting?_eq_some_iff_decidesAt]
  exact exists_comm

/-- The two policies decide every request alike that is not one to subscribe. -/
theorem decision_permissive_eq_strict (others : request.access ≠ .subscribe) :
    (ofRules rules .permissive).decision request = (ofRules rules .strict).decision request := by
  have same : ∀ candidate : Candidate, decide (candidate.Grants .permissive request) =
      decide (candidate.Grants .strict request) := by
    intro candidate
    rw [decide_eq_decide, Candidate.Grants, Candidate.Grants,
      Access.grants_congr_policy others .permissive .strict]
  rw [decision_eq_firstGranting? rfl, decision_eq_firstGranting? rfl, RuleSet.firstGranting?,
    RuleSet.firstGranting?, ofRules, ofRules, funext same]

/-- Over the same rules the two policies for subscribing decide all other requests alike, in
every part of the decision.  A request to subscribe that the strict policy allows is allowed
by the permissive one, and by a candidate that stands at the same place or before. -/
theorem permissive_allows_no_later_than_strict (rules : RuleSet) (request : Request) :
    (request.access ≠ .subscribe →
      (ofRules rules .permissive).decision request =
        (ofRules rules .strict).decision request) ∧
    (((ofRules rules .strict).decision request).isAllowed = true →
      ((ofRules rules .permissive).decision request).isAllowed = true ∧
      ∃ earlier first later second, earlier ≤ later ∧
        rules.DecidesAt .permissive request earlier first ∧
        (ofRules rules .permissive).decision request = first.decision ∧
        rules.DecidesAt .strict request later second ∧
        (ofRules rules .strict).decision request = second.decision) := by
  refine ⟨decision_permissive_eq_strict, ?_⟩
  intro allowed
  obtain ⟨later, second, decides⟩ := isAllowed_iff_exists_decidesAt.mp allowed
  obtain ⟨earlier, earlier_le, first, decides_first⟩ :=
    RuleSet.exists_decidesAt_le decides.placed decides.grants.permissive
  refine ⟨isAllowed_iff_exists_decidesAt.mpr ⟨earlier, first, decides_first⟩,
    earlier, first, later, second, earlier_le, ?_⟩
  exact ⟨decides_first, decision_of_decidesAt decides_first, decides,
    decision_of_decidesAt decides⟩

/-- A common rule for writing stands before the pattern rule that the strict policy lets
grant the subscription, and the permissive policy lets it do so. -/
theorem permissive_allows_by_earlier_write_rule :
    ((ofRules ((RuleSet.empty.addCommonRule ⟨"a/#", .write⟩).addPatternRule ⟨"a/%u", .read⟩)
        .strict).decision ⟨"b", "c", "a/b", .subscribe⟩).isAllowed = true ∧
    ((ofRules ((RuleSet.empty.addCommonRule ⟨"a/#", .write⟩).addPatternRule ⟨"a/%u", .read⟩)
        .permissive).decision ⟨"b", "c", "a/b", .subscribe⟩).isAllowed = true ∧
    Access.read ≠ .subscribe ∧
    (ofRules ((RuleSet.empty.addCommonRule ⟨"a/#", .write⟩).addPatternRule ⟨"a/%u", .read⟩)
        .permissive).decision ⟨"b", "c", "a/b", .read⟩ =
      (ofRules ((RuleSet.empty.addCommonRule ⟨"a/#", .write⟩).addPatternRule ⟨"a/%u", .read⟩)
        .strict).decision ⟨"b", "c", "a/b", .read⟩ := by
  have allowed : ((ofRules ((RuleSet.empty.addCommonRule ⟨"a/#", .write⟩).addPatternRule
      ⟨"a/%u", .read⟩) .strict).decision ⟨"b", "c", "a/b", .subscribe⟩).isAllowed = true := by
    decide
  refine ⟨allowed, ?_, by decide, ?_⟩
  · exact ((permissive_allows_no_later_than_strict _ ⟨"b", "c", "a/b", .subscribe⟩).2 allowed).1
  · exact (permissive_allows_no_later_than_strict _ ⟨"b", "c", "a/b", .read⟩).1 (by decide)

end Guard

/-! ## The levels of one topic -/

/-- The request with another level of access. -/
def Request.withAccess (request : Request) (access : Access) : Request :=
  { request with access := access }

/-- A candidate matches a request if its pattern matches the topic, whatever it grants. -/
def Candidate.Matches (request : Request) (candidate : Candidate) : Prop :=
  Topic.covers candidate.pattern request.topic = true

namespace Guard

/-- Whether a guard allows a request with this level of access. -/
def Permits (guard : Guard) (request : Request) (access : Access) : Prop :=
  (guard.decision (request.withAccess access)).isAllowed = true

variable {guard : Guard} {rules : RuleSet} {request : Request}

/-- The candidates for a request are the same for all levels. -/
theorem permits_iff (enabled : guard.rules = some rules) (access : Access) :
    guard.Permits request access ↔
      ∃ candidate ∈ rules.candidates request, candidate.Matches request ∧
        Access.grants guard.policy (candidate.pattern == "#") candidate.access access = true :=
  isAllowed_iff_exists_grants enabled _

theorem permits_readWrite_iff (enabled : guard.rules = some rules) :
    guard.Permits request .readWrite ↔
      ∃ candidate ∈ rules.candidates request,
        candidate.Matches request ∧ candidate.access = .readWrite := by
  simp only [permits_iff enabled, Access.grants_readWrite_iff]

theorem permits_read_iff (enabled : guard.rules = some rules) :
    guard.Permits request .read ↔
      ∃ candidate ∈ rules.candidates request, candidate.Matches request ∧
        (candidate.access = .read ∨ candidate.access = .readWrite) := by
  simp only [permits_iff enabled, Access.grants_read_iff]

theorem permits_write_iff (enabled : guard.rules = some rules) :
    guard.Permits request .write ↔
      ∃ candidate ∈ rules.candidates request, candidate.Matches request ∧
        (candidate.access = .write ∨ candidate.access = .readWrite) := by
  simp only [permits_iff enabled, Access.grants_write_iff]

theorem permits_subscribe_permissive_iff (enabled : guard.rules = some rules)
    (permissive : guard.policy = .permissive) :
    guard.Permits request .subscribe ↔
      ∃ candidate ∈ rules.candidates request,
        candidate.Matches request ∧ candidate.access ≠ .none := by
  simp only [permits_iff enabled, permissive, Access.grants_subscribe_permissive_iff]

theorem permits_subscribe_strict_iff (enabled : guard.rules = some rules)
    (strict : guard.policy = .strict) :
    guard.Permits request .subscribe ↔
      ∃ candidate ∈ rules.candidates request, candidate.Matches request ∧
        (candidate.access = .subscribe ∨ candidate.pattern ≠ "#" ∧
          (candidate.access = .read ∨ candidate.access = .readWrite)) := by
  simp only [permits_iff enabled, strict, Access.grants_subscribe_strict_iff,
    beq_eq_false_iff_ne, ne_eq]

/-- Under the strict policy a bare pattern grants a subscription only by the rule's own
level. -/
theorem access_eq_subscribe_of_bare (enabled : guard.rules = some rules)
    (strict : guard.policy = .strict)
    (bare : (guard.decision (request.withAccess .subscribe)).pattern? = some "#") :
    ∃ trial,
      rules.decidingTrial? .strict (request.withAccess .subscribe) = some trial ∧
      guard.decision (request.withAccess .subscribe) = .granted trial.origin "#" ∧
      trial.rule.access = .subscribe := by
  have allowed : (guard.decision (request.withAccess .subscribe)).isAllowed = true := by
    cases decided : guard.decision (request.withAccess .subscribe) with
    | granted origin pattern => rfl
    | unchecked => simp [decided, Decision.pattern?] at bare
    | denied => simp [decided, Decision.pattern?] at bare
  obtain ⟨trial, decides⟩ := (isAllowed_iff_decidingTrial? enabled _).mp allowed
  obtain ⟨candidate, comes, decision_eq⟩ := decision_of_decidingTrial? enabled decides
  obtain ⟨_, comes_again, granted⟩ := (RuleSet.grants_of_decidingTrial? decides).2
  obtain rfl := Option.some.inj (comes.symm.trans comes_again)
  rw [decision_eq, Decision.pattern?, Option.some.injEq] at bare
  rw [strict] at decides granted
  rw [bare] at decision_eq
  refine ⟨trial, decides, decision_eq, ?_⟩
  rw [← Trial.access_candidate? comes]
  rcases Access.grants_subscribe_strict_iff.mp granted.2 with subscribes | ⟨not_bare, _⟩
  · exact subscribes
  · simp [bare] at not_bare

/-- A guard with rules permits a topic for reading and writing at once exactly if one
candidate does, and then for each of the two.  The permissive policy permits to subscribe
where any candidate that grants something matches, so whoever may read or write may
subscribe.  The strict policy permits to subscribe no one who may not read, unless a
subscribe rule matches; it lets readers subscribe, unless all rules that let them read are
bare; and a bare pattern that it allows a subscription by is that of a subscribe rule. -/
theorem permits_consistent_across_levels (enabled : guard.rules = some rules)
    (request : Request) :
    (guard.Permits request .readWrite →
      guard.Permits request .read ∧ guard.Permits request .write) ∧
    (guard.Permits request .readWrite ↔
      ∃ candidate ∈ rules.candidates request,
        candidate.Matches request ∧ candidate.access = .readWrite) ∧
    (guard.policy = .permissive →
      (guard.Permits request .subscribe ↔
        ∃ candidate ∈ rules.candidates request,
          candidate.Matches request ∧ candidate.access ≠ .none) ∧
      (guard.Permits request .read ∨ guard.Permits request .write →
        guard.Permits request .subscribe)) ∧
    (guard.policy = .strict →
      (guard.Permits request .subscribe →
        guard.Permits request .read ∨
          ∃ candidate ∈ rules.candidates request,
            candidate.Matches request ∧ candidate.access = .subscribe) ∧
      (∀ candidate ∈ rules.candidates request,
        candidate.Grants .strict (request.withAccess .read) → candidate.pattern ≠ "#" →
        guard.Permits request .subscribe) ∧
      ((guard.decision (request.withAccess .subscribe)).pattern? = some "#" →
        ∃ trial,
          rules.decidingTrial? .strict (request.withAccess .subscribe) = some trial ∧
          guard.decision (request.withAccess .subscribe) = .granted trial.origin "#" ∧
          trial.rule.access = .subscribe)) := by
  refine ⟨?_, permits_readWrite_iff enabled, ?_, ?_⟩
  · rw [permits_readWrite_iff enabled, permits_read_iff enabled, permits_write_iff enabled]
    rintro ⟨candidate, member, matching, level⟩
    exact ⟨⟨candidate, member, matching, .inr level⟩, ⟨candidate, member, matching, .inr level⟩⟩
  · intro permissive
    rw [permits_subscribe_permissive_iff enabled permissive, permits_read_iff enabled,
      permits_write_iff enabled]
    refine ⟨Iff.rfl, ?_⟩
    rintro (⟨candidate, member, matching, level⟩ | ⟨candidate, member, matching, level⟩)
    · exact ⟨candidate, member, matching, by rcases level with level | level <;> simp [level]⟩
    · exact ⟨candidate, member, matching, by rcases level with level | level <;> simp [level]⟩
  · intro strict
    rw [permits_subscribe_strict_iff enabled strict, permits_read_iff enabled]
    refine ⟨?_, ?_, access_eq_subscribe_of_bare enabled strict⟩
    · rintro ⟨candidate, member, matching, subscribes | ⟨_, reads⟩⟩
      · exact .inr ⟨candidate, member, matching, subscribes⟩
      · exact .inl ⟨candidate, member, matching, reads⟩
    · rintro candidate member ⟨matching, granted⟩ not_bare
      exact ⟨candidate, member, matching,
        .inr ⟨not_bare, Access.grants_read_iff.mp granted⟩⟩

/-- A bare rule for reading comes first and is passed over, so the strict policy permits the
subscription by the bare rule of level subscribe behind it; the permissive policy permits
whoever may write to subscribe. -/
theorem bare_subscription_by_subscribe_rule :
    ((ofRules ((RuleSet.empty.addUserRule "u" ⟨"#", .read⟩).addCommonRule ⟨"#", .subscribe⟩)
        .strict).decision ⟨"u", "c", "a/b", .subscribe⟩).pattern? = some "#" ∧
    (∃ trial,
      ((RuleSet.empty.addUserRule "u" ⟨"#", .read⟩).addCommonRule
        ⟨"#", .subscribe⟩).decidingTrial? .strict ⟨"u", "c", "a/b", .subscribe⟩ = some trial ∧
      (ofRules ((RuleSet.empty.addUserRule "u" ⟨"#", .read⟩).addCommonRule ⟨"#", .subscribe⟩)
        .strict).decision ⟨"u", "c", "a/b", .subscribe⟩ = .granted trial.origin "#" ∧
      trial.rule.access = .subscribe) ∧
    (ofRules (RuleSet.empty.addPatternRule ⟨"#", .write⟩)
        .permissive).Permits ⟨"u", "c", "a/b", .none⟩ .write ∧
    (ofRules (RuleSet.empty.addPatternRule ⟨"#", .write⟩)
        .permissive).Permits ⟨"u", "c", "a/b", .none⟩ .subscribe := by
  have bare : ((ofRules ((RuleSet.empty.addUserRule "u" ⟨"#", .read⟩).addCommonRule
      ⟨"#", .subscribe⟩) .strict).decision ⟨"u", "c", "a/b", .subscribe⟩).pattern? =
      some "#" := by decide
  have writes : (ofRules (RuleSet.empty.addPatternRule ⟨"#", .write⟩) .permissive).Permits
      ⟨"u", "c", "a/b", .none⟩ .write := by
    rw [Permits]
    decide
  refine ⟨bare, ?_, writes, ?_⟩
  · exact ((permits_consistent_across_levels rfl ⟨"u", "c", "a/b", .none⟩).2.2.2 rfl).2.2 bare
  · exact ((permits_consistent_across_levels rfl ⟨"u", "c", "a/b", .none⟩).2.2.1 rfl).2
      (.inr writes)

end Guard

end TopicGuard
