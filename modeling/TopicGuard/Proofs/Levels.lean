import TopicGuard.Proofs.Lines
import TopicGuard.Topic

/-!
# Texts and their levels

A text is its levels with slashes between them, and any levels without slashes are
those of a text, as long as there is one.  So what holds of levels can be read back
as a fact about topics, and what a slash parts can be treated level by level.
-/

namespace TopicGuard.Topic

/-- No level holds a slash. -/
theorem slash_not_mem_of_mem_levels {text : List Char} {level : Level}
    (member : level ∈ levels text) : '/' ∉ level :=
  Text.not_mem_of_mem_splitOn member

/-- A text without slashes is its only level. -/
theorem levels_of_not_mem {text : List Char} (free : '/' ∉ text) : levels text = [text] :=
  List.splitOn_eq_singleton free

/-- A slash parts the levels before it from those after it. -/
@[simp]
theorem levels_append_slash (before after : List Char) :
    levels (before ++ '/' :: after) = levels before ++ levels after :=
  List.splitOn_append_cons_self before after

/-- Different texts have different levels. -/
theorem eq_of_levels_eq {first second : List Char} (same : levels first = levels second) :
    first = second :=
  calc
    first = ['/'].intercalate (levels first) := (List.intercalate_splitOn '/').symm
    _ = ['/'].intercalate (levels second) := by rw [same]
    _ = second := List.intercalate_splitOn '/'

/-- Any levels without slashes are those of a topic. -/
theorem exists_levels_eq {topics : List Level} (nonempty : topics ≠ [])
    (free : ∀ level ∈ topics, '/' ∉ level) :
    ∃ topic : String, levels topic.toList = topics :=
  ⟨String.ofList (['/'].intercalate topics), by
    rw [String.toList_ofList, levels, List.splitOn_intercalate '/' free nonempty]⟩

/-- What holds of every level, and of two texts with a slash between them if it holds of
both, holds of every text. -/
@[elab_as_elim]
theorem levels_induction {motive : List Char → Prop}
    (single : ∀ level, '/' ∉ level → motive level)
    (slash : ∀ level rest, '/' ∉ level → motive level → motive rest →
      motive (level ++ '/' :: rest))
    (text : List Char) : motive text := by
  induction text using Text.cut_induction '/' with
  | single level free => exact single level free
  | cut level rest free ih => exact slash level rest free (single level free) ih

/-- A level reaches from the start of its text or a slash to the next slash or the end. -/
theorem exists_eq_of_mem_levels {text : List Char} {level : Level}
    (member : level ∈ levels text) :
    ∃ before after, text = before ++ (level ++ after) ∧
      (before = [] ∨ before.getLast? = some '/') ∧ (after = [] ∨ after.head? = some '/') := by
  obtain ⟨index, found⟩ := List.getElem?_of_mem member
  obtain ⟨before, after, text_eq, starts, ends, _⟩ := Text.exists_eq_of_getElem?_splitOn found
  exact ⟨before, after, text_eq, starts, ends⟩

/-- The characters of a level are characters of its text. -/
theorem mem_of_mem_levels {text : List Char} {level : Level} {c : Char}
    (member : level ∈ levels text) (found : c ∈ level) : c ∈ text := by
  obtain ⟨before, after, rfl, _⟩ := exists_eq_of_mem_levels member
  exact List.mem_append_right _ (List.mem_append_left _ found)

/-- A text has one level more than slashes. -/
theorem length_levels (text : List Char) :
    (levels text).length = text.count '/' + 1 :=
  Text.length_splitOn '/' text

end TopicGuard.Topic
