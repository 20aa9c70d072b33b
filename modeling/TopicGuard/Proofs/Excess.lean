import TopicGuard.Proofs.Levels
import TopicGuard.Proofs.Matching

/-!
# What a filter reaches beyond a pattern

A client may subscribe to a filter that a rule's pattern matches as if it were a
topic.  Matching is not yet containment: the filter may match topics that the pattern
does not.  It does so exactly if its first `#` stands where the pattern has no `#`,
neither there nor before, because the topic may then end at that place.  The one
exception comes from topics never being without levels: a filter that starts with
`#` stays within a pattern that starts with `+/#`.
-/

namespace TopicGuard.Topic

/-- A filter reaches beyond a pattern if it matches a topic that the pattern does not. -/
def ReachesBeyond (filter pattern : String) : Prop :=
  ∃ topic, covers filter topic = true ∧ covers pattern topic = false

/-! ## Places of acceptance -/

theorem AcceptsBelow.mono {small large : Nat} {patterns topics : List Level}
    (accepted : AcceptsBelow large patterns topics) (le : small ≤ large) :
    AcceptsBelow small patterns topics :=
  fun i below => accepted i (by omega)

/-- Levels accept themselves. -/
theorem acceptsBelow_take (bound : Nat) (levels : List Level) :
    AcceptsBelow bound levels (levels.take bound) := by
  intro i below pattern topic pattern_eq topic_eq
  rw [List.getElem?_take_of_lt below, pattern_eq] at topic_eq
  exact Or.inr (Option.some.inj topic_eq)

/-- What accepts a level that accepts another accepts that one too. -/
theorem Accepts.trans {pattern filter topic : Level} (first : Accepts pattern filter)
    (second : Accepts filter topic) : Accepts pattern topic := by
  rcases first with any | rfl
  · exact Or.inl any
  · exact second

theorem AcceptsBelow.trans {bound : Nat} {patterns filters topics : List Level}
    (first : AcceptsBelow bound patterns filters) (second : AcceptsBelow bound filters topics)
    (filter_le : bound ≤ filters.length) : AcceptsBelow bound patterns topics := by
  intro i below pattern topic pattern_eq topic_eq
  have filter_eq : filters[i]? = some filters[i] := List.getElem?_eq_getElem _
  exact (first i below _ _ pattern_eq filter_eq).trans
    (second i below _ _ filter_eq topic_eq)

/-- There is only one first `#`. -/
theorem FirstAllLevelsAt.le_of_getElem?_eq {levels : List Level} {i j : Nat}
    (first : FirstAllLevelsAt levels i) (found : levels[j]? = some allLevels) : i ≤ j := by
  by_contra before
  exact first.2 j (by omega) found

/-! ## Filters within a pattern -/

/-- What a filter matches is matched by a pattern that matches the filter, if the
pattern has a `#` where the filter has its first one or before. -/
theorem levelsMatch_of_levelsMatch {patterns filters topics : List Level}
    (granted : levelsMatch patterns filters = true)
    (matched : levelsMatch filters topics = true)
    (met : ∀ i, FirstAllLevelsAt filters i → ∃ j ≤ i, patterns[j]? = some allLevels) :
    levelsMatch patterns topics = true := by
  by_cases found : allLevels ∈ patterns
  · obtain ⟨k, first⟩ := exists_firstAllLevelsAt found
    obtain ⟨filter_le, accepted⟩ :=
      (levelsMatch_iff_of_firstAllLevelsAt first filters).mp granted
    rw [levelsMatch_iff_of_firstAllLevelsAt first]
    by_cases filter_found : allLevels ∈ filters
    · obtain ⟨i, filter_first⟩ := exists_firstAllLevelsAt filter_found
      obtain ⟨topic_le, filter_accepted⟩ :=
        (levelsMatch_iff_of_firstAllLevelsAt filter_first topics).mp matched
      obtain ⟨j, le, pattern_eq⟩ := met i filter_first
      -- The pattern stops counting levels before the filter does, or where it does.
      have k_le : k ≤ i := Nat.le_trans (first.le_of_getElem?_eq pattern_eq) le
      exact ⟨by omega, accepted.trans (filter_accepted.mono k_le) filter_le⟩
    · obtain ⟨length_eq, filter_accepted⟩ :=
        (levelsMatch_iff_of_not_mem filter_found topics).mp matched
      exact ⟨by omega, accepted.trans (filter_accepted.mono filter_le) filter_le⟩
  · have filter_absent : allLevels ∉ filters := by
      intro filter_found
      obtain ⟨i, filter_first⟩ := exists_firstAllLevelsAt filter_found
      obtain ⟨j, _, pattern_eq⟩ := met i filter_first
      exact found (List.mem_of_getElem? pattern_eq)
    obtain ⟨pattern_eq, accepted⟩ := (levelsMatch_iff_of_not_mem found filters).mp granted
    obtain ⟨filter_eq, filter_accepted⟩ :=
      (levelsMatch_iff_of_not_mem filter_absent topics).mp matched
    rw [levelsMatch_iff_of_not_mem found]
    refine ⟨by omega, accepted.trans ?_ (Nat.le_of_eq pattern_eq)⟩
    exact filter_accepted.mono (Nat.le_of_eq pattern_eq)

/-- A pattern that starts with `+/#` matches every topic. -/
theorem levelsMatch_of_any_allLevels {patterns topics : List Level}
    (any : patterns[0]? = some anyLevel) (all : patterns[1]? = some allLevels)
    (nonempty : topics ≠ []) : levelsMatch patterns topics = true := by
  have first : FirstAllLevelsAt patterns 1 := by
    refine ⟨all, fun j below found => ?_⟩
    have start : j = 0 := by omega
    rw [start, any] at found
    exact absurd found (by decide)
  rw [levelsMatch_iff_of_firstAllLevelsAt first]
  refine ⟨List.length_pos_iff.mpr nonempty, fun i below pattern topic pattern_eq _ => ?_⟩
  have start : i = 0 := by omega
  rw [start, any] at pattern_eq
  exact Or.inl (Option.some.inj pattern_eq).symm

/-- Where a pattern meets the first `#` of a filter that it matches without having met
one of its own, it has a `+`. -/
theorem getElem?_eq_anyLevel_of_unmet {patterns filters : List Level} {i : Nat}
    (granted : levelsMatch patterns filters = true) (first : FirstAllLevelsAt filters i)
    (unmet : ∀ j ≤ i, patterns[j]? ≠ some allLevels) : patterns[i]? = some anyLevel := by
  obtain ⟨filter_lt, _⟩ := List.getElem?_eq_some_iff.mp first.1
  have accepted : i < patterns.length ∧ AcceptsBelow (i + 1) patterns filters := by
    by_cases found : allLevels ∈ patterns
    · obtain ⟨k, pattern_first⟩ := exists_firstAllLevelsAt found
      have after : i < k := by
        by_contra before
        exact unmet k (by omega) pattern_first.1
      obtain ⟨pattern_lt, _⟩ := List.getElem?_eq_some_iff.mp pattern_first.1
      have below := ((levelsMatch_iff_of_firstAllLevelsAt pattern_first filters).mp granted).2
      exact ⟨by omega, below.mono after⟩
    · obtain ⟨length_eq, below⟩ := (levelsMatch_iff_of_not_mem found filters).mp granted
      exact ⟨by omega, below.mono (by omega)⟩
  obtain ⟨pattern_lt, below⟩ := accepted
  have pattern_eq : patterns[i]? = some patterns[i] := List.getElem?_eq_getElem pattern_lt
  rcases below i (by omega) _ _ pattern_eq first.1 with any | all
  · rw [pattern_eq, any]
  · exact absurd (all ▸ pattern_eq) (unmet i (Nat.le_refl i))

/-! ## Topics beyond a pattern -/

/-- A topic that ends before a pattern does, and before the first `#` of the pattern, is
not matched. -/
theorem levelsMatch_eq_false_of_length_lt {patterns topics : List Level}
    (shorter : topics.length < patterns.length)
    (unmet : ∀ j ≤ topics.length, patterns[j]? ≠ some allLevels) :
    levelsMatch patterns topics = false := by
  rw [Bool.eq_false_iff]
  intro matched
  by_cases found : allLevels ∈ patterns
  · obtain ⟨k, first⟩ := exists_firstAllLevelsAt found
    exact unmet k ((levelsMatch_iff_of_firstAllLevelsAt first topics).mp matched).1 first.1
  · have length_eq := ((levelsMatch_iff_of_not_mem found topics).mp matched).1
    omega

/-- A filter whose first `#` is unmet by the pattern matches a topic that the pattern does
not: the topic ends where the `#` stands, or has one level or two if it stands first. -/
theorem exists_levelsMatch_beyond {patterns filters : List Level} {i : Nat}
    (free : ∀ level ∈ filters, '/' ∉ level) (granted : levelsMatch patterns filters = true)
    (first : FirstAllLevelsAt filters i)
    (unmet : ∀ j ≤ i, patterns[j]? ≠ some allLevels)
    (other : ¬ (i = 0 ∧ patterns[1]? = some allLevels)) :
    ∃ topics : List Level, topics ≠ [] ∧ (∀ level ∈ topics, '/' ∉ level) ∧
      levelsMatch filters topics = true ∧ levelsMatch patterns topics = false := by
  have facing := getElem?_eq_anyLevel_of_unmet granted first unmet
  obtain ⟨pattern_lt, _⟩ := List.getElem?_eq_some_iff.mp facing
  obtain ⟨filter_lt, _⟩ := List.getElem?_eq_some_iff.mp first.1
  cases i with
  | succ i =>
      have length_eq : (filters.take (i + 1)).length = i + 1 :=
        List.length_take_of_le (Nat.le_of_lt filter_lt)
      refine ⟨filters.take (i + 1), ?_, ?_, ?_, ?_⟩
      · exact List.ne_nil_of_length_pos (by omega)
      · exact fun level member => free level (List.mem_of_mem_take member)
      · rw [levelsMatch_iff_of_firstAllLevelsAt first]
        exact ⟨Nat.le_of_eq length_eq.symm, acceptsBelow_take _ _⟩
      · exact levelsMatch_eq_false_of_length_lt (by omega) (by rwa [length_eq])
  | zero =>
      have all : ∀ topics, levelsMatch filters topics = true := fun topics =>
        (levelsMatch_iff_of_firstAllLevelsAt first topics).mpr
          ⟨Nat.zero_le _, fun j below => absurd below (Nat.not_lt_zero j)⟩
      -- A `#` in the first place matches every topic, but there is no topic of no levels.
      by_cases longer : 1 < patterns.length
      · refine ⟨[[]], by simp, by simp, all _, ?_⟩
        refine levelsMatch_eq_false_of_length_lt longer fun j le => ?_
        rcases Nat.le_one_iff_eq_zero_or_eq_one.mp le with rfl | rfl
        · exact unmet 0 (Nat.le_refl 0)
        · exact fun second => other ⟨rfl, second⟩
      · obtain ⟨only, rfl⟩ := List.length_eq_one_iff.mp (by omega : patterns.length = 1)
        have only_eq : only = anyLevel := by simpa using facing
        refine ⟨[[], []], by simp, by simp, all _, ?_⟩
        rw [only_eq]
        rfl

/-! ## Filters and patterns -/

theorem any_allLevels_prefix_iff {levels : List Level} :
    [anyLevel, allLevels] <+: levels ↔
      levels[0]? = some anyLevel ∧ levels[1]? = some allLevels := by
  rcases levels with _ | ⟨first, _ | ⟨second, rest⟩⟩
  · simp
  · simp
  · simp [List.cons_prefix_cons, eq_comm]

/-- A filter that a pattern matches reaches beyond it where its first `#` is unmet. -/
theorem reachesBeyond_iff_exists {pattern filter : String}
    (granted : covers pattern filter = true) :
    ReachesBeyond filter pattern ↔
      ∃ i, FirstAllLevelsAt (levels filter.toList) i ∧
        (∀ j ≤ i, (levels pattern.toList)[j]? ≠ some allLevels) ∧
        ¬ (i = 0 ∧ (levels pattern.toList)[1]? = some allLevels) := by
  rw [covers_eq_levelsMatch] at granted
  simp only [ReachesBeyond, covers_eq_levelsMatch]
  constructor
  · rintro ⟨topic, matched, missed⟩
    by_contra none_unmet
    rw [Bool.eq_false_iff] at missed
    apply missed
    apply levelsMatch_of_levelsMatch granted matched
    intro i first
    by_contra none_met
    have unmet : ∀ j ≤ i, (levels pattern.toList)[j]? ≠ some allLevels :=
      fun j le found => none_met ⟨j, le, found⟩
    by_cases excepted : i = 0 ∧ (levels pattern.toList)[1]? = some allLevels
    · obtain ⟨rfl, second⟩ := excepted
      have start := getElem?_eq_anyLevel_of_unmet granted first unmet
      exact missed (levelsMatch_of_any_allLevels start second (levels_ne_nil _))
    · exact none_unmet ⟨i, first, unmet, excepted⟩
  · rintro ⟨i, first, unmet, other⟩
    obtain ⟨topics, nonempty, free, matched, missed⟩ :=
      exists_levelsMatch_beyond (fun _ => slash_not_mem_of_mem_levels) granted first unmet other
    obtain ⟨topic, rfl⟩ := exists_levels_eq nonempty free
    exact ⟨topic, matched, missed⟩

/-- A filter that a pattern matches reaches beyond the pattern exactly if it has a `#`,
the pattern has none at the place of the first one or before, and it is not so that
the filter starts with it while the pattern has a `#` for its second level.  So a
filter without `#` stays within the pattern, and a filter whose first `#` faces a `+`
reaches beyond it unless the pattern starts with `+/#`. -/
theorem reachesBeyond_iff_first_allLevels_unmet (pattern filter : String)
    (granted : covers pattern filter = true) :
    (ReachesBeyond filter pattern ↔
      ∃ i, FirstAllLevelsAt (levels filter.toList) i ∧
        (∀ j ≤ i, (levels pattern.toList)[j]? ≠ some allLevels) ∧
        ¬ (i = 0 ∧ (levels pattern.toList)[1]? = some allLevels)) ∧
    (allLevels ∉ levels filter.toList →
      ∀ topic, covers filter topic = true → covers pattern topic = true) ∧
    (∀ i, FirstAllLevelsAt (levels filter.toList) i →
      (∀ j < i, (levels pattern.toList)[j]? ≠ some allLevels) →
      (levels pattern.toList)[i]? = some anyLevel →
      (ReachesBeyond filter pattern ↔ ¬ [anyLevel, allLevels] <+: levels pattern.toList)) := by
  refine ⟨reachesBeyond_iff_exists granted, ?_, ?_⟩
  · intro absent topic matched
    by_contra missed
    obtain ⟨i, first, _⟩ := (reachesBeyond_iff_exists granted).mp
      ⟨topic, matched, Bool.eq_false_iff.mpr missed⟩
    exact absent (List.mem_of_getElem? first.1)
  · intro i first before facing
    rw [reachesBeyond_iff_exists granted]
    constructor
    · rintro ⟨k, k_first, unmet, other⟩ starts
      have second := (any_allLevels_prefix_iff.mp starts).2
      have k_zero : k = 0 := by
        by_contra later
        exact unmet 1 (by omega) second
      exact other ⟨k_zero, second⟩
    · intro other
      refine ⟨i, first, fun j le found => ?_, ?_⟩
      · rcases Nat.lt_or_eq_of_le le with below | rfl
        · exact before j below found
        · rw [facing] at found
          exact absurd found (by decide)
      · rintro ⟨rfl, second⟩
        exact other (any_allLevels_prefix_iff.mpr ⟨facing, second⟩)

/-- The filter `a/#/c` also matches the topic `a`, which the pattern `a/+/c/#` that grants
it does not. -/
theorem reachesBeyond_parent_topic :
    covers "a/+/c/#" "a/#/c" = true ∧ ReachesBeyond "a/#/c" "a/+/c/#" :=
  ⟨by decide,
    (reachesBeyond_iff_first_allLevels_unmet "a/+/c/#" "a/#/c" (by decide)).1.mpr
      ⟨1, by decide, by decide, by decide⟩⟩

end TopicGuard.Topic
