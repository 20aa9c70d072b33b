import TopicGuard.Proofs.Clients
import TopicGuard.Proofs.Identities

/-!
# Confinement by a placeholder level

A rule whose pattern has a placeholder for a level, after levels that are fixed, confines
whoever it is tried for: every topic that it matches holds the levels of the inserted value
at the place of the placeholder.  If all shared rules are anchored at one place by the
placeholder for the user name, a user without rules is confined to the topics that hold the
levels of the name there.
-/

namespace TopicGuard

namespace Rule

/-- The level at some place of a rule's pattern is this placeholder, and the levels before it
are fixed: they ask for no value, and none of them is `#`. -/
structure Anchored (rule : Rule) (place : Nat) (placeholder : Topic.Level) : Prop where
  placed : (Topic.levels rule.pattern.toList)[place]? = some placeholder
  fixed : ∀ level ∈ (Topic.levels rule.pattern.toList).take place,
    ¬ ['%', 'c'] <:+: level ∧ ¬ ['%', 'u'] <:+: level ∧ level ≠ Topic.allLevels

variable {rule : Rule} {place : Nat} {placeholder : Topic.Level}
  {clientId username filled topic : String}

/-! ## Fixed levels -/

/-- A level that asks for no value is its own filled form. -/
theorem fill_of_not_infix {level : Topic.Level} (no_client : ¬ ['%', 'c'] <:+: level)
    (no_user : ¬ ['%', 'u'] <:+: level) (clientId username : List Char) :
    fill clientId username level = some level := by
  apply fill_of_not_hasPlaceholder
  rw [Bool.eq_false_iff, ne_eq, hasPlaceholder_iff, client_mem_pieces_iff, user_mem_pieces_iff]
  exact not_or.mpr ⟨no_client, no_user⟩

/-- The placeholder parts the fixed levels from those after it. -/
theorem Anchored.levels_eq (anchored : rule.Anchored place placeholder) :
    Topic.levels rule.pattern.toList =
      (Topic.levels rule.pattern.toList).take place ++
        placeholder :: (Topic.levels rule.pattern.toList).drop (place + 1) := by
  obtain ⟨below, level_eq⟩ := List.getElem?_eq_some_iff.mp anchored.placed
  rw [← level_eq, List.getElem_cons_drop, List.take_append_drop]

theorem Anchored.length_take (anchored : rule.Anchored place placeholder) :
    ((Topic.levels rule.pattern.toList).take place).length = place := by
  obtain ⟨below, _⟩ := List.getElem?_eq_some_iff.mp anchored.placed
  exact List.length_take_of_le (Nat.le_of_lt below)

/-- Filling leaves a fixed level as it is, and it stays one level. -/
theorem Anchored.fill_eq (anchored : rule.Anchored place placeholder) {level : Topic.Level}
    (member : level ∈ (Topic.levels rule.pattern.toList).take place)
    (clientId username : List Char) :
    fill clientId username level = some level ∧ Topic.levels level = [level] := by
  obtain ⟨no_client, no_user, _⟩ := anchored.fixed level member
  constructor
  · exact fill_of_not_infix no_client no_user clientId username
  · exact Topic.levels_of_not_mem
      (Topic.slash_not_mem_of_mem_levels (List.mem_of_mem_take member))

theorem Anchored.staysClear (anchored : rule.Anchored place placeholder)
    (clientId username : String) :
    StaysClear clientId username ((Topic.levels rule.pattern.toList).take place) := by
  intro level member filled found
  obtain ⟨fill_eq, levels_eq⟩ := anchored.fill_eq member clientId.toList username.toList
  rw [fill_eq, Option.mem_some_iff] at found
  rw [← found, levels_eq, List.mem_singleton]
  exact (anchored.fixed level member).2.2.symm

/-- The inserted value begins at the place of its placeholder. -/
theorem Anchored.offset_eq (anchored : rule.Anchored place placeholder)
    (clientId username : List Char) :
    offset clientId username ((Topic.levels rule.pattern.toList).take place) = place := by
  have alone : ∀ level ∈ (Topic.levels rule.pattern.toList).take place,
      Topic.levels (expand clientId username level) = [level] := by
    intro level member
    obtain ⟨fill_eq, levels_eq⟩ := anchored.fill_eq member clientId username
    rw [(fill_eq_some_iff.mp fill_eq).2, levels_eq]
  rw [offset, List.flatMap_congr alone, List.flatMap_singleton', anchored.length_take]

/-! ## Confinement -/

/-- A topic that is matched by the filled pattern of an anchored rule holds the levels of the
inserted value at the rule's place. -/
theorem Anchored.prefix_drop_of_covers {piece : Piece} (anchored : rule.Anchored place placeholder)
    (asks : pieces placeholder = [piece]) (inserts : ∀ c, piece ≠ .plain c)
    (found : rule.patternFor? clientId username = some filled)
    (covered : Topic.covers filled topic = true) :
    Topic.levels (piece.value clientId.toList username.toList) <+:
      (Topic.levels topic.toList).drop place := by
  have held := levels_value_prefix_of_covers anchored.levels_eq asks inserts
    (anchored.staysClear clientId username) found covered
  rwa [anchored.offset_eq] at held

end Rule

namespace Guard

variable {guard : Guard} {rules : RuleSet} {request : Request}

/-- What is allowed to a user without rules is granted by a shared rule. -/
theorem exists_shared_of_isAllowed (enabled : guard.rules = some rules)
    (no_rules : rules.rulesOf request.username = [])
    (allowed : (guard.decision request).isAllowed = true) :
    ∃ rule ∈ rules.common ++ rules.pattern, ∃ filled,
      rule.patternFor? request.clientId request.username = some filled ∧
        Topic.covers filled request.topic = true := by
  rcases (isAllowed_iff_exists_trial enabled request).mp allowed with
    ⟨trial, member, candidate, comes, matching, _⟩
  rw [RuleSet.trials, no_rules, List.map_nil, List.nil_append, List.mem_append, List.mem_map,
    List.mem_map] at member
  rcases member with ⟨rule, rule_mem, rfl⟩ | ⟨rule, rule_mem, rfl⟩
  · rcases Option.map_eq_some_iff.mp comes with ⟨filled, found, rfl⟩
    exact ⟨rule, List.mem_append_left _ rule_mem, filled, found, matching⟩
  · rcases Option.map_eq_some_iff.mp comes with ⟨filled, found, rfl⟩
    exact ⟨rule, List.mem_append_right _ rule_mem, filled, found, matching⟩

/-- A topic that is matched by the filled pattern of a rule holds, at the place of a level that
is a placeholder by itself, the levels of the inserted value one by one, if the levels before
that place are fixed.  If all shared rules have the placeholder for the user name at one such
place, whatever is allowed to a user without rules names a topic that holds the levels of the
user's name there. -/
theorem confined_by_placeholder_level :
    (∀ (rule : Rule) (place : Nat) (clientId username filled topic : String),
      rule.patternFor? clientId username = some filled →
      Topic.covers filled topic = true →
      (rule.Anchored place ['%', 'u'] →
        Topic.levels username.toList <+: (Topic.levels topic.toList).drop place) ∧
      (rule.Anchored place ['%', 'c'] →
        Topic.levels clientId.toList <+: (Topic.levels topic.toList).drop place)) ∧
    ∀ (guard : Guard) (rules : RuleSet) (place : Nat) (request : Request),
      guard.rules = some rules →
      (∀ rule ∈ rules.common ++ rules.pattern, rule.Anchored place ['%', 'u']) →
      rules.rulesOf request.username = [] →
      (guard.decision request).isAllowed = true →
      Topic.levels request.username.toList <+:
        (Topic.levels request.topic.toList).drop place := by
  constructor
  · intro rule place clientId username filled topic found covered
    constructor
    · intro anchored
      exact anchored.prefix_drop_of_covers (Rule.pieces_user []) (by simp) found covered
    · intro anchored
      exact anchored.prefix_drop_of_covers (Rule.pieces_client []) (by simp) found covered
  · intro guard rules place request enabled anchored no_rules allowed
    rcases exists_shared_of_isAllowed enabled no_rules allowed with
      ⟨rule, member, filled, found, covered⟩
    exact (anchored rule member).prefix_drop_of_covers (Rule.pieces_user []) (by simp) found covered

/-- A name with a slash takes two levels behind the fixed one, and both are in the topic that
the user is allowed to read. -/
theorem confined_to_two_levels_of_name :
    (⟨"home/%u/#", .read⟩ : Rule).Anchored 1 ['%', 'u'] ∧
      ((ofRules (RuleSet.empty.addPatternRule ⟨"home/%u/#", .read⟩) .strict).decision
        ⟨"a/b", "c", "home/a/b/x", .read⟩).isAllowed = true ∧
      Topic.levels "a/b".toList <+: (Topic.levels "home/a/b/x".toList).drop 1 := by
  have anchored : ∀ rule ∈ [(⟨"home/%u/#", .read⟩ : Rule)], rule.Anchored 1 ['%', 'u'] :=
    List.forall_mem_singleton.mpr ⟨by decide, by decide⟩
  have allowed : ((ofRules (RuleSet.empty.addPatternRule ⟨"home/%u/#", .read⟩) .strict).decision
      ⟨"a/b", "c", "home/a/b/x", .read⟩).isAllowed = true := by decide
  refine ⟨anchored _ List.mem_cons_self, allowed, ?_⟩
  exact confined_by_placeholder_level.2 _ (RuleSet.empty.addPatternRule ⟨"home/%u/#", .read⟩) 1
    ⟨"a/b", "c", "home/a/b/x", .read⟩ rfl anchored rfl allowed

end Guard

end TopicGuard
