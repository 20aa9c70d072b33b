/-!
# Topics and topic filters

A topic is a text whose levels are separated by slashes; empty levels count, so
even the empty topic has one level.  A filter has the same form.  Its level `+`
stands for any one level, and its level `#` stands for all the levels from there
on, wherever it appears and even if there are none.
-/

namespace TopicGuard.Topic

/-- One level of a topic or of a filter. -/
abbrev Level := List Char

/-- The level that stands for any one level. -/
def anyLevel : Level := ['+']

/-- The level that stands for all remaining levels. -/
def allLevels : Level := ['#']

/-- The levels of a topic or of a filter. -/
def levels (text : List Char) : List Level :=
  text.splitOn '/'

/-- Whether the levels of a filter match the levels of a topic. -/
def levelsMatch : List Level → List Level → Bool
  | [], topics => topics.isEmpty
  | pattern :: _, [] => pattern == allLevels
  | pattern :: patterns, topic :: topics =>
      pattern == allLevels ||
        (pattern == anyLevel || pattern == topic) && levelsMatch patterns topics

/-- Whether a filter matches a topic.  Equal texts match, whatever they hold. -/
def covers (pattern topic : String) : Bool :=
  pattern == topic || levelsMatch (levels pattern.toList) (levels topic.toList)

/-- Every text has a level. -/
theorem levels_ne_nil (text : List Char) : levels text ≠ [] :=
  List.splitOn_ne_nil '/' text

@[simp]
theorem levelsMatch_allLevels (patterns topics : List Level) :
    levelsMatch (allLevels :: patterns) topics = true := by
  cases topics <;> simp [levelsMatch]

/-- Levels match themselves. -/
@[simp]
theorem levelsMatch_self (levels : List Level) : levelsMatch levels levels = true := by
  induction levels with
  | nil => rfl
  | cons level levels ih => simp [levelsMatch, ih]

end TopicGuard.Topic
