import Mathlib.Data.List.Forall2
import TopicGuard.Topic

/-!
# Matching level by level

Whether a filter matches a topic can be said by places, without a scan.  Only the
levels of the filter before its first `#` count: each of them must be `+` or the
level at the same place of the topic.  Without a `#` both must also have as many
levels; with one, the topic only needs as many levels as stand before it.
-/

namespace TopicGuard.Topic

/-- A level of a filter accepts a level of a topic if it is `+` or the same. -/
def Accepts (pattern topic : Level) : Prop :=
  pattern = anyLevel ∨ pattern = topic

/-- At every place below a bound, the level of a filter accepts that of a topic. -/
def AcceptsBelow (bound : Nat) (patterns topics : List Level) : Prop :=
  ∀ i < bound, ∀ pattern topic,
    patterns[i]? = some pattern → topics[i]? = some topic → Accepts pattern topic

/-- The place of the first `#` among some levels. -/
def FirstAllLevelsAt (levels : List Level) (i : Nat) : Prop :=
  levels[i]? = some allLevels ∧ ∀ j < i, levels[j]? ≠ some allLevels

instance (levels : List Level) (i : Nat) : Decidable (FirstAllLevelsAt levels i) :=
  inferInstanceAs (Decidable (_ ∧ _))

/-! ## Places and pieces -/

/-- No `#` below a place is no `#` in the levels before it. -/
theorem not_mem_take_iff {levels : List Level} {bound : Nat} :
    allLevels ∉ levels.take bound ↔ ∀ i < bound, levels[i]? ≠ some allLevels := by
  simp only [List.mem_iff_getElem?, List.getElem?_take, not_exists]
  constructor
  · intro absent i below found
    exact absent i (by rw [if_pos below, found])
  · intro absent i found
    by_cases below : i < bound
    · exact absent i below (by rwa [if_pos below] at found)
    · rw [if_neg below] at found
      contradiction

/-- The first `#` parts the levels before it, which hold none, from those after it. -/
theorem firstAllLevelsAt_iff {levels : List Level} {i : Nat} :
    FirstAllLevelsAt levels i ↔
      ∃ front rest, levels = front ++ allLevels :: rest ∧ allLevels ∉ front ∧
        front.length = i := by
  constructor
  · rintro ⟨found, first⟩
    obtain ⟨below, level_eq⟩ := List.getElem?_eq_some_iff.mp found
    refine ⟨levels.take i, levels.drop (i + 1), ?_, not_mem_take_iff.mpr first, ?_⟩
    · rw [← level_eq, List.getElem_cons_drop, List.take_append_drop]
    · exact List.length_take_of_le (Nat.le_of_lt below)
  · rintro ⟨front, rest, rfl, absent, rfl⟩
    refine ⟨by simp, not_mem_take_iff.mp ?_⟩
    rwa [List.take_left]

/-- Levels that hold a `#` hold a first one. -/
theorem exists_firstAllLevelsAt {levels : List Level} (found : allLevels ∈ levels) :
    ∃ i, FirstAllLevelsAt levels i := by
  obtain ⟨front, rest, levels_eq, absent⟩ := List.eq_append_cons_of_mem found
  exact ⟨front.length, firstAllLevelsAt_iff.mpr ⟨front, rest, levels_eq, absent, rfl⟩⟩

/-- Acceptance below a bound that neither list falls short of is acceptance of one
list of levels by another. -/
theorem forall₂_take_iff {patterns topics : List Level} {bound : Nat}
    (pattern_le : bound ≤ patterns.length) (topic_le : bound ≤ topics.length) :
    List.Forall₂ Accepts (patterns.take bound) (topics.take bound) ↔
      AcceptsBelow bound patterns topics := by
  rw [List.forall₂_iff_get]
  simp only [List.length_take_of_le pattern_le, List.length_take_of_le topic_le, true_and,
    List.get_eq_getElem, List.getElem_take]
  constructor
  · intro accepted i below pattern topic pattern_eq topic_eq
    obtain ⟨_, rfl⟩ := List.getElem?_eq_some_iff.mp pattern_eq
    obtain ⟨_, rfl⟩ := List.getElem?_eq_some_iff.mp topic_eq
    exact accepted i below below
  · intro accepted i below _
    exact accepted i below _ _ (List.getElem?_eq_getElem _) (List.getElem?_eq_getElem _)

/-! ## The scan -/

/-- Levels before any `#` are matched one by one, and the levels after them match what
they leave of the topic. -/
theorem levelsMatch_append_iff {front : List Level} (absent : allLevels ∉ front)
    (rest topics : List Level) :
    levelsMatch (front ++ rest) topics = true ↔
      List.Forall₂ Accepts front (topics.take front.length) ∧
        levelsMatch rest (topics.drop front.length) = true := by
  induction front generalizing topics with
  | nil => simp
  | cons pattern front ih =>
      rw [List.mem_cons, not_or] at absent
      have pattern_ne : pattern ≠ allLevels := Ne.symm absent.1
      cases topics with
      | nil => simp [levelsMatch, pattern_ne]
      | cons topic topics =>
          simp [levelsMatch, pattern_ne, Accepts, ih absent.2, and_assoc]

/-- A topic has at least the levels that are matched one by one. -/
theorem length_le_of_forall₂_take {front topics : List Level}
    (accepted : List.Forall₂ Accepts front (topics.take front.length)) :
    front.length ≤ topics.length := by
  have length_eq := accepted.length_eq
  rw [List.length_take] at length_eq
  omega

/-- Levels without a `+` accept only themselves. -/
theorem eq_of_forall₂_accepts {value topics : List Level} (literal : anyLevel ∉ value)
    (accepted : List.Forall₂ Accepts value topics) : value = topics := by
  induction accepted with
  | nil => rfl
  | cons first rest ih =>
      rw [List.mem_cons, not_or] at literal
      rw [ih literal.2, first.resolve_left (Ne.symm literal.1)]

/-- Literal levels of a filter, before any `#`, are levels of the topic at their place. -/
theorem prefix_drop_of_levelsMatch {front value rest topics : List Level}
    (front_absent : allLevels ∉ front) (literal : anyLevel ∉ value)
    (absent : allLevels ∉ value)
    (matched : levelsMatch (front ++ (value ++ rest)) topics = true) :
    value <+: topics.drop front.length := by
  have later := ((levelsMatch_append_iff front_absent _ _).mp matched).2
  have accepted := ((levelsMatch_append_iff absent _ _).mp later).1
  have value_eq := eq_of_forall₂_accepts literal accepted
  rw [value_eq]
  exact List.take_prefix _ _

/-- Without a `#` every level counts. -/
theorem levelsMatch_iff_of_not_mem {patterns : List Level} (absent : allLevels ∉ patterns)
    (topics : List Level) :
    levelsMatch patterns topics = true ↔
      patterns.length = topics.length ∧ AcceptsBelow patterns.length patterns topics := by
  have split := levelsMatch_append_iff absent [] topics
  rw [List.append_nil] at split
  simp only [levelsMatch, List.isEmpty_iff, List.drop_eq_nil_iff] at split
  rw [split]
  constructor
  · rintro ⟨accepted, topic_le⟩
    have length_eq : patterns.length = topics.length :=
      Nat.le_antisymm (length_le_of_forall₂_take accepted) topic_le
    refine ⟨length_eq, (forall₂_take_iff (Nat.le_refl _) (Nat.le_of_eq length_eq)).mp ?_⟩
    rwa [List.take_length]
  · rintro ⟨length_eq, accepted⟩
    have accepted := (forall₂_take_iff (Nat.le_refl _) (Nat.le_of_eq length_eq)).mpr accepted
    rw [List.take_length] at accepted
    exact ⟨accepted, Nat.le_of_eq length_eq.symm⟩

/-- With a `#` only the levels before the first one count. -/
theorem levelsMatch_iff_of_firstAllLevelsAt {patterns : List Level} {i : Nat}
    (first : FirstAllLevelsAt patterns i) (topics : List Level) :
    levelsMatch patterns topics = true ↔
      i ≤ topics.length ∧ AcceptsBelow i patterns topics := by
  obtain ⟨front, rest, rfl, absent, rfl⟩ := firstAllLevelsAt_iff.mp first
  have pattern_le : front.length ≤ (front ++ allLevels :: rest).length := by simp
  rw [levelsMatch_append_iff absent, levelsMatch_allLevels, and_iff_left rfl]
  constructor
  · intro accepted
    have topic_le := length_le_of_forall₂_take accepted
    refine ⟨topic_le, (forall₂_take_iff pattern_le topic_le).mp ?_⟩
    rwa [List.take_left]
  · rintro ⟨topic_le, accepted⟩
    have accepted := (forall₂_take_iff pattern_le topic_le).mpr accepted
    rwa [List.take_left] at accepted

/-! ## Filters and topics -/

/-- Equal texts need no rule of their own: the scan finds that they match. -/
theorem covers_eq_levelsMatch (pattern topic : String) :
    covers pattern topic = levelsMatch (levels pattern.toList) (levels topic.toList) := by
  by_cases same : pattern = topic
  · simp [covers, same]
  · simp [covers, same]

/-- A filter matches a topic exactly if it has no `#`, they have as many levels, and
every level of the filter is `+` or the level of the topic at its place, or if this
holds of the levels before its first `#` and the topic does not end before that
place.  Comparing the texts first makes no difference. -/
theorem covers_iff_accepts_up_to_first_allLevels (pattern topic : String) :
    (covers pattern topic = true ↔
      (allLevels ∉ levels pattern.toList ∧
          (levels pattern.toList).length = (levels topic.toList).length ∧
          AcceptsBelow (levels pattern.toList).length (levels pattern.toList)
            (levels topic.toList)) ∨
        ∃ i, FirstAllLevelsAt (levels pattern.toList) i ∧
          i ≤ (levels topic.toList).length ∧
          AcceptsBelow i (levels pattern.toList) (levels topic.toList)) ∧
    covers pattern topic = levelsMatch (levels pattern.toList) (levels topic.toList) := by
  refine ⟨?_, covers_eq_levelsMatch pattern topic⟩
  rw [covers_eq_levelsMatch]
  constructor
  · intro matched
    by_cases found : allLevels ∈ levels pattern.toList
    · obtain ⟨i, first⟩ := exists_firstAllLevelsAt found
      exact Or.inr ⟨i, first, (levelsMatch_iff_of_firstAllLevelsAt first _).mp matched⟩
    · exact Or.inl ⟨found, (levelsMatch_iff_of_not_mem found _).mp matched⟩
  · rintro (⟨absent, accepted⟩ | ⟨i, first, accepted⟩)
    · exact (levelsMatch_iff_of_not_mem absent _).mpr accepted
    · exact (levelsMatch_iff_of_firstAllLevelsAt first _).mpr accepted

/-- A `#` in the middle matches the levels before it alone; a `+` at the end matches one level
and not two. -/
theorem covers_parent_topic_not_grandchild :
    covers "a/#/c" "a" = true ∧ covers "a/+" "a/b/c" = false := by
  constructor
  · have accepted : AcceptsBelow 1 (levels "a/#/c".toList) (levels "a".toList) := by
      intro i below pattern topic found topic_found
      obtain rfl := Nat.lt_one_iff.mp below
      cases found
      cases topic_found
      exact .inr rfl
    exact (covers_iff_accepts_up_to_first_allLevels _ _).1.mpr
      (.inr ⟨1, by decide, Nat.le_refl 1, accepted⟩)
  · rw [Bool.eq_false_iff, ne_eq, (covers_iff_accepts_up_to_first_allLevels _ _).1]
    rintro (⟨_, same_length, _⟩ | ⟨i, ⟨found, _⟩, _⟩)
    · contradiction
    · have member := List.mem_of_getElem? found
      contradiction

end TopicGuard.Topic
