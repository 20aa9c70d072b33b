import Mathlib.Algebra.Order.BigOperators.Group.List
import Mathlib.Algebra.Order.Group.Nat
import TopicGuard.Proofs.Filling
import TopicGuard.Proofs.Matching

/-!
# Client ids under one rule

A rule with a level `%c` gives each client id its own topics, in that their levels hold
the id at the place of that level.  How far this tells ids apart depends on slashes.  Two
ids with as many levels never share a topic, and no two ids do if the rule's patterns
have no `#`.  But where a `#` follows the placeholder, the topics of an id may be among
those of the id that it continues: with `%c/#` the topics of `a/b` are all topics of `a`.
-/

namespace TopicGuard.Rule

/-- Filling these levels gives no level `#`. -/
def StaysClear (clientId username : String) (before : List Topic.Level) : Prop :=
  ∀ level ∈ before, ∀ filled ∈ fill clientId.toList username.toList level,
    Topic.allLevels ∉ Topic.levels filled

instance (clientId username : String) (before : List Topic.Level) :
    Decidable (StaysClear clientId username before) :=
  inferInstanceAs (Decidable (∀ level ∈ before, ∀ _ ∈ fill _ _ level, _))

/-- How many levels these levels are filled to. -/
def offset (clientId username : List Char) (before : List Topic.Level) : Nat :=
  (before.flatMap fun level => Topic.levels (expand clientId username level)).length

/-! ## The levels of an id -/

/-- A topic that is matched by the filled pattern of a rule holds the levels of an inserted
value where the levels before its placeholder end. -/
theorem levels_value_prefix_of_covers {rule : Rule} {clientId username filled topic : String}
    {placeholder : Topic.Level} {piece : Piece} {before after : List Topic.Level}
    (placed : Topic.levels rule.pattern.toList = before ++ placeholder :: after)
    (asks : pieces placeholder = [piece]) (inserts : ∀ c, piece ≠ .plain c)
    (clear : StaysClear clientId username before)
    (found : rule.patternFor? clientId username = some filled)
    (covered : Topic.covers filled topic = true) :
    Topic.levels (piece.value clientId.toList username.toList) <+:
      (Topic.levels topic.toList).drop
        (offset clientId.toList username.toList before) := by
  obtain ⟨admitted, filled_eq⟩ := patternFor?_eq_some_iff.mp found
  have admitted_level : ∀ level ∈ before ++ placeholder :: after,
      Admits clientId.toList username.toList level := by
    rw [← placed]
    exact fun level => admitted.level
  have free : hasWildcard (piece.value clientId.toList username.toList) = false :=
    (admitted_level placeholder (by simp)).hasWildcard_value (by simp [asks]) inserts
  have inserted : expand clientId.toList username.toList placeholder =
      piece.value clientId.toList username.toList := by
    simp [expand, asks]
  rw [Topic.covers_eq_levelsMatch, ← filled_eq, levels_expand, placed, List.flatMap_append,
    List.flatMap_cons, inserted] at covered
  apply Topic.prefix_drop_of_levelsMatch _ _ _ covered
  · rw [List.mem_flatMap]
    rintro ⟨level, member, found⟩
    have level_admitted := admitted_level level (List.mem_append_left _ member)
    exact clear level member _ (fill_eq_some_iff.mpr ⟨level_admitted, rfl⟩) found
  · exact not_mem_levels_of_hasWildcard_eq_false free (Or.inl rfl)
  · exact not_mem_levels_of_hasWildcard_eq_false free (Or.inr rfl)

/-- A topic that is matched by the pattern of a client id holds the levels of that id where
the levels before its placeholder end. -/
theorem levels_prefix_of_covers {rule : Rule} {clientId username filled topic : String}
    {before after : List Topic.Level}
    (placed : Topic.levels rule.pattern.toList = before ++ ['%', 'c'] :: after)
    (clear : StaysClear clientId username before)
    (found : rule.patternFor? clientId username = some filled)
    (covered : Topic.covers filled topic = true) :
    Topic.levels clientId.toList <+:
      (Topic.levels topic.toList).drop
        (offset clientId.toList username.toList before) :=
  levels_value_prefix_of_covers placed (pieces_client []) (by simp) clear found covered

/-! ## How many levels a filled text has -/

variable {first second username : List Char}

theorem count_value_le (le : first.count '/' ≤ second.count '/') (piece : Piece) :
    (piece.value first username).count '/' ≤ (piece.value second username).count '/' := by
  cases piece with
  | plain c => exact Nat.le_refl _
  | client => exact le
  | user => exact Nat.le_refl _

/-- An id with no more slashes fills a text to no more levels. -/
theorem length_levels_expand_le
    (le : (Topic.levels first).length ≤ (Topic.levels second).length) (text : List Char) :
    (Topic.levels (expand first username text)).length ≤
      (Topic.levels (expand second username text)).length := by
  simp only [Topic.length_levels, Nat.add_le_add_iff_right] at le ⊢
  rw [expand, expand, List.count_flatMap, List.count_flatMap]
  exact List.sum_le_sum fun piece _ => count_value_le le piece

/-- An id with fewer slashes fills a text that asks for it to fewer levels. -/
theorem length_levels_expand_lt
    (lt : (Topic.levels first).length < (Topic.levels second).length) {text : List Char}
    (asked : .client ∈ pieces text) :
    (Topic.levels (expand first username text)).length <
      (Topic.levels (expand second username text)).length := by
  simp only [Topic.length_levels, Nat.add_lt_add_iff_right] at lt ⊢
  rw [expand, expand, List.count_flatMap, List.count_flatMap]
  exact List.sum_lt_sum _ _ (fun piece _ => count_value_le (Nat.le_of_lt lt) piece)
    ⟨.client, asked, lt⟩

/-- Ids that fill each of some levels to as many levels fill them all to as many. -/
theorem offset_congr {before : List Topic.Level}
    (same : ∀ level ∈ before, (Topic.levels (expand first username level)).length =
      (Topic.levels (expand second username level)).length) :
    offset first username before = offset second username before := by
  rw [offset, offset, List.length_flatMap, List.length_flatMap]
  exact congrArg List.sum (List.map_congr_left same)

/-- A text that does not ask for the id is filled alike for all. -/
theorem expand_congr {text : List Char} (unasked : .client ∉ pieces text) :
    expand first username text = expand second username text := by
  rw [expand, expand]
  refine List.flatMap_congr fun piece member => ?_
  cases piece with
  | plain c => rfl
  | client => exact absurd member unasked
  | user => rfl

/-! ## Two ids -/

/-- A pattern without `#` has as many levels as the topics that it matches. -/
theorem length_levels_expand_eq {rule : Rule} {clientId username filled topic : String}
    (found : rule.patternFor? clientId username = some filled)
    (covered : Topic.covers filled topic = true)
    (absent : Topic.allLevels ∉ Topic.levels filled.toList) :
    (Topic.levels (expand clientId.toList username.toList rule.pattern.toList)).length =
      (Topic.levels topic.toList).length := by
  rw [Topic.covers_eq_levelsMatch, Topic.levelsMatch_iff_of_not_mem absent] at covered
  rw [(patternFor?_eq_some_iff.mp found).2, covered.1]

/-- Two ids whose patterns have no `#` and match one topic have as many levels. -/
theorem length_levels_eq_of_not_mem {rule : Rule}
    {first second username topic firstFilled secondFilled : String}
    (asked : .client ∈ pieces rule.pattern.toList)
    (firstFound : rule.patternFor? first username = some firstFilled)
    (secondFound : rule.patternFor? second username = some secondFilled)
    (firstCovers : Topic.covers firstFilled topic = true)
    (secondCovers : Topic.covers secondFilled topic = true)
    (firstAbsent : Topic.allLevels ∉ Topic.levels firstFilled.toList)
    (secondAbsent : Topic.allLevels ∉ Topic.levels secondFilled.toList) :
    (Topic.levels first.toList).length = (Topic.levels second.toList).length := by
  have filled_eq : (Topic.levels (expand first.toList username.toList
      rule.pattern.toList)).length = (Topic.levels (expand second.toList username.toList
      rule.pattern.toList)).length :=
    (length_levels_expand_eq firstFound firstCovers firstAbsent).trans
      (length_levels_expand_eq secondFound secondCovers secondAbsent).symm
  rcases Nat.lt_trichotomy (Topic.levels first.toList).length
    (Topic.levels second.toList).length with lt | length_eq | lt
  · exact absurd filled_eq (Nat.ne_of_lt (length_levels_expand_lt lt asked))
  · exact length_eq
  · exact absurd filled_eq.symm (Nat.ne_of_lt (length_levels_expand_lt lt asked))

/-- Two client ids that are granted one topic by a rule with a level `%c` are the same, if
no level before that one is filled to a `#` and either the ids have as many levels or
their patterns have no `#`.  If no level before it asks for the id, the levels of one id
start with those of the other. -/
theorem client_eq_of_common_topic (rule : Rule)
    (first second username topic firstFilled secondFilled : String)
    (before after : List Topic.Level)
    (placed : Topic.levels rule.pattern.toList = before ++ ['%', 'c'] :: after)
    (firstClear : StaysClear first username before)
    (secondClear : StaysClear second username before)
    (firstFound : rule.patternFor? first username = some firstFilled)
    (secondFound : rule.patternFor? second username = some secondFilled)
    (firstCovers : Topic.covers firstFilled topic = true)
    (secondCovers : Topic.covers secondFilled topic = true) :
    ((Topic.levels first.toList).length = (Topic.levels second.toList).length ∨
        Topic.allLevels ∉ Topic.levels firstFilled.toList ∧
          Topic.allLevels ∉ Topic.levels secondFilled.toList →
      first = second) ∧
    ((∀ level ∈ before, ¬ ['%', 'c'] <:+: level) →
      Topic.levels first.toList <+: Topic.levels second.toList ∨
        Topic.levels second.toList <+: Topic.levels first.toList) := by
  have firstPrefix := levels_prefix_of_covers placed firstClear firstFound firstCovers
  have secondPrefix := levels_prefix_of_covers placed secondClear secondFound secondCovers
  constructor
  · intro alike
    have length_eq : (Topic.levels first.toList).length =
        (Topic.levels second.toList).length := by
      rcases alike with length_eq | ⟨firstAbsent, secondAbsent⟩
      · exact length_eq
      · have level_mem : ['%', 'c'] ∈ Topic.levels rule.pattern.toList := by simp [placed]
        have asked : .client ∈ pieces rule.pattern.toList :=
          mem_pieces_of_mem_levels level_mem (by simp)
        exact length_levels_eq_of_not_mem asked firstFound secondFound firstCovers
          secondCovers firstAbsent secondAbsent
    -- Ids with as many levels stand at the same place of the topic.
    have offset_eq : offset first.toList username.toList before =
        offset second.toList username.toList before :=
      offset_congr fun level _ => Nat.le_antisymm
        (length_levels_expand_le (Nat.le_of_eq length_eq) level)
        (length_levels_expand_le (Nat.le_of_eq length_eq.symm) level)
    rw [offset_eq] at firstPrefix
    have levels_eq := (List.prefix_of_prefix_length_le firstPrefix secondPrefix
      (Nat.le_of_eq length_eq)).eq_of_length length_eq
    exact String.toList_inj.mp (Topic.eq_of_levels_eq levels_eq)
  · intro unasked
    have offset_eq : offset first.toList username.toList before =
        offset second.toList username.toList before := by
      refine offset_congr fun level member => ?_
      have filled_eq : expand first.toList username.toList level =
          expand second.toList username.toList level :=
        expand_congr fun found => unasked level member (client_mem_pieces_iff.mp found)
      rw [filled_eq]
    rw [offset_eq] at firstPrefix
    exact List.prefix_or_prefix_of_prefix firstPrefix secondPrefix

/-- A rule grants one topic to the ids `a` and `a/b`, whose levels start alike. -/
theorem levels_prefix_of_common_topic :
    (⟨"d/%u/%c/#", .read⟩ : Rule).patternFor? "a" "u" = some "d/u/a/#" ∧
      (⟨"d/%u/%c/#", .read⟩ : Rule).patternFor? "a/b" "u" = some "d/u/a/b/#" ∧
      Topic.covers "d/u/a/#" "d/u/a/b/x" = true ∧
      Topic.covers "d/u/a/b/#" "d/u/a/b/x" = true ∧
      (Topic.levels "a".toList <+: Topic.levels "a/b".toList ∨
        Topic.levels "a/b".toList <+: Topic.levels "a".toList) :=
  ⟨by decide, by decide, by decide, by decide,
    (client_eq_of_common_topic ⟨"d/%u/%c/#", .read⟩ "a" "a/b" "u" "d/u/a/b/x" "d/u/a/#"
      "d/u/a/b/#" [['d'], ['%', 'u']] [['#']] (by decide) (by decide) (by decide)
      (by decide) (by decide) (by decide) (by decide)).2 (by decide)⟩

/-- Being granted one topic does not make two client ids the same.  What follows a slash in
an id may also be matched by a `#` after the placeholder; and of ids with as many levels
one may be empty, which cuts the `#` of `#%c` free. -/
theorem nested_clients_share_topic :
    (¬ ∀ (rule : Rule) (first second username topic firstFilled secondFilled : String)
        (before after : List Topic.Level),
      Topic.levels rule.pattern.toList = before ++ ['%', 'c'] :: after →
      Topic.allLevels ∉ before →
      rule.patternFor? first username = some firstFilled →
      rule.patternFor? second username = some secondFilled →
      Topic.covers firstFilled topic = true →
      Topic.covers secondFilled topic = true →
      first = second) ∧
    (¬ ∀ (rule : Rule) (first second username topic firstFilled secondFilled : String)
        (before after : List Topic.Level),
      Topic.levels rule.pattern.toList = before ++ ['%', 'c'] :: after →
      Topic.allLevels ∉ before →
      (Topic.levels first.toList).length = (Topic.levels second.toList).length →
      rule.patternFor? first username = some firstFilled →
      rule.patternFor? second username = some secondFilled →
      Topic.covers firstFilled topic = true →
      Topic.covers secondFilled topic = true →
      first = second) := by
  constructor
  · intro separated
    have same := separated ⟨"%c/#", .read⟩ "a" "a/b" "u" "a/b/x" "a/#" "a/b/#" [] [['#']]
      (by decide) (by decide) (by decide) (by decide) (by decide) (by decide)
    exact absurd same (by decide)
  · intro separated
    have same := separated ⟨"#%c/%c", .read⟩ "a" "" "u" "#a/a" "#a/a" "#/"
      [['#', '%', 'c']] [] (by decide) (by decide) (by decide) (by decide) (by decide)
      (by decide) (by decide)
    exact absurd same (by decide)

end TopicGuard.Rule
