import TopicGuard.Proofs.Filling

/-!
# Wildcards in filled patterns

Filling a pattern never takes a wildcard level away from it.  It brings none either, as
long as no level of the pattern holds a wildcard next to a placeholder, or else the
inserted values are neither empty nor start or end with a slash.  Without that a value
may cut a wildcard of the pattern free: `+%c` has no wildcard level, but filled with
the client id `/x` it is `+/x`, which has one.
-/

namespace TopicGuard.Topic

/-- Whether a level is a wildcard. -/
def isWildcard (level : Level) : Bool :=
  level == anyLevel || level == allLevels

/-- How many levels of a text are wildcards. -/
def wildcardCount (text : List Char) : Nat :=
  (levels text).countP isWildcard

theorem wildcardCount_append_slash (before after : List Char) :
    wildcardCount (before ++ '/' :: after) = wildcardCount before + wildcardCount after := by
  rw [wildcardCount, levels_append_slash, List.countP_append]
  rfl

end TopicGuard.Topic

namespace TopicGuard.Rule

variable {clientId username : List Char}

/-! ## Values that keep to their level -/

/-- A value keeps to its level if it is not empty and has no slash at an end. -/
structure Solid (value : List Char) : Prop where
  nonempty : value ≠ []
  head_ne : value.head? ≠ some '/'
  last_ne : value.getLast? ≠ some '/'

theorem Solid.append {first second : List Char} (left : Solid first) (right : Solid second) :
    Solid (first ++ second) where
  nonempty := by simp [left.nonempty]
  head_ne := by
    rw [List.head?_append_of_ne_nil _ left.nonempty]
    exact left.head_ne
  last_ne := by
    rw [List.getLast?_append_of_ne_nil _ right.nonempty]
    exact right.last_ne

/-- A character other than a slash keeps to its level. -/
theorem solid_singleton {c : Char} (slash_ne : c ≠ '/') : Solid [c] where
  nonempty := List.cons_ne_nil c []
  head_ne := by simpa using slash_ne
  last_ne := by simpa using slash_ne

/-- Pieces whose values keep to their level do so together. -/
theorem solid_flatMap {front : List Piece} (nonempty : front ≠ [])
    (solid : ∀ piece ∈ front, Solid (piece.value clientId username)) :
    Solid (front.flatMap (Piece.value clientId username)) := by
  induction front with
  | nil => contradiction
  | cons piece rest ih =>
      have first := solid piece List.mem_cons_self
      rw [List.flatMap_cons]
      cases rest with
      | nil => simpa using first
      | cons second others =>
          exact first.append (ih (List.cons_ne_nil _ _)
            fun piece member => solid piece (List.mem_cons_of_mem _ member))

/-! ## Where wildcards come from -/

/-- A character of the filled pattern is a character of the value of one piece. -/
theorem exists_piece_of_flatMap_eq {row : List Piece} {before after : List Char} {x : Char}
    (split : row.flatMap (Piece.value clientId username) = before ++ x :: after) :
    ∃ front piece back left right, row = front ++ piece :: back ∧
      piece.value clientId username = left ++ x :: right ∧
      before = front.flatMap (Piece.value clientId username) ++ left ∧
      after = right ++ back.flatMap (Piece.value clientId username) := by
  induction row generalizing before with
  | nil => simp at split
  | cons first rest ih =>
      rw [List.flatMap_cons, List.append_eq_append_iff] at split
      rcases split with ⟨middle, rfl, rest_eq⟩ | ⟨middle, value_eq, rest_eq⟩
      · obtain ⟨front, piece, back, left, right, rfl, value_eq, rfl, rfl⟩ := ih rest_eq
        exact ⟨first :: front, piece, back, left, right, rfl, value_eq, by simp, rfl⟩
      · -- The first piece ends before the character, or it holds it.
        cases middle with
        | nil =>
            have rest_split : rest.flatMap (Piece.value clientId username) = [] ++ x :: after :=
              rest_eq.symm
            obtain ⟨front, piece, back, left, right, rfl, piece_eq, nil_eq, rfl⟩ :=
              ih rest_split
            refine ⟨first :: front, piece, back, left, right, rfl, piece_eq, ?_, rfl⟩
            rw [List.flatMap_cons, List.append_assoc, ← nil_eq, value_eq, List.append_nil,
              List.append_nil]
        | cons y right =>
            rw [List.cons_append, List.cons.injEq] at rest_eq
            obtain ⟨rfl, rfl⟩ := rest_eq
            exact ⟨[], first, rest, before, right, rfl, value_eq, by simp, rfl⟩

/-- A wildcard in the value of an admitted piece is a wildcard of the pattern. -/
theorem eq_plain_of_value_eq {pattern left right : List Char} {piece : Piece} {x : Char}
    (admitted : Admits clientId username pattern) (member : piece ∈ pieces pattern)
    (wild : x = '+' ∨ x = '#')
    (value_eq : piece.value clientId username = left ++ x :: right) :
    piece = .plain x ∧ left = [] ∧ right = [] := by
  have x_mem : x ∈ piece.value clientId username := by
    rw [value_eq]
    simp
  cases piece with
  | plain c =>
      cases left with
      | nil =>
          obtain ⟨rfl, rfl⟩ : c = x ∧ [] = right := by simpa [Piece.value] using value_eq
          exact ⟨rfl, rfl, rfl⟩
      | cons d left => simp [Piece.value] at value_eq
  | client =>
      exact absurd x_mem (not_mem_of_hasWildcard_eq_false (admitted.1 member) wild)
  | user =>
      exact absurd x_mem (not_mem_of_hasWildcard_eq_false (admitted.2 member) wild)

/-- A wildcard among the levels that a level is filled to is a wildcard of that level, which
the values before and after it cut free. -/
theorem exists_pieces_of_isWildcard {level part : Topic.Level}
    (admitted : Admits clientId username level)
    (member : part ∈ Topic.levels (expand clientId username level))
    (wild : Topic.isWildcard part = true) :
    ∃ front x back, (x = '+' ∨ x = '#') ∧ pieces level = front ++ .plain x :: back ∧
      (front.flatMap (Piece.value clientId username) = [] ∨
        (front.flatMap (Piece.value clientId username)).getLast? = some '/') ∧
      (back.flatMap (Piece.value clientId username) = [] ∨
        (back.flatMap (Piece.value clientId username)).head? = some '/') := by
  obtain ⟨x, x_wild, rfl⟩ : ∃ x, (x = '+' ∨ x = '#') ∧ part = [x] := by
    simpa [Topic.isWildcard, Topic.anyLevel, Topic.allLevels] using wild
  obtain ⟨before, after, split, starts, ends⟩ := Topic.exists_eq_of_mem_levels member
  obtain ⟨front, piece, back, left, right, row_eq, value_eq, rfl, rfl⟩ :=
    exists_piece_of_flatMap_eq split
  have piece_mem : piece ∈ pieces level := by
    rw [row_eq]
    simp
  obtain ⟨rfl, rfl, rfl⟩ := eq_plain_of_value_eq admitted piece_mem x_wild value_eq
  rw [List.append_nil] at starts
  exact ⟨front, x, back, x_wild, row_eq, starts, ends⟩

/-- A level without wildcards is filled to levels that are none. -/
theorem isWildcard_eq_false_of_plain {level part : Topic.Level}
    (admitted : Admits clientId username level) (plain : hasWildcard level = false)
    (member : part ∈ Topic.levels (expand clientId username level)) :
    Topic.isWildcard part = false := by
  rw [Bool.eq_false_iff]
  intro wild
  obtain ⟨front, x, back, x_wild, row_eq, _⟩ :=
    exists_pieces_of_isWildcard admitted member wild
  have found : .plain x ∈ pieces level := by
    rw [row_eq]
    simp
  exact not_mem_of_hasWildcard_eq_false plain x_wild (mem_of_plain_mem_pieces found)

/-- A placeholder whose value keeps to its level leaves no wildcard of the level free. -/
theorem isWildcard_eq_false_of_solid {level part : Topic.Level} (free : '/' ∉ level)
    (admitted : Admits clientId username level) (template : hasPlaceholder level = true)
    (clientSolid : .client ∈ pieces level → Solid clientId)
    (userSolid : .user ∈ pieces level → Solid username)
    (member : part ∈ Topic.levels (expand clientId username level)) :
    Topic.isWildcard part = false := by
  rw [Bool.eq_false_iff]
  intro wild
  obtain ⟨front, x, back, _, row_eq, starts, ends⟩ :=
    exists_pieces_of_isWildcard admitted member wild
  have solid : ∀ piece ∈ pieces level, Solid (piece.value clientId username) := by
    intro piece piece_mem
    cases piece with
    | plain c =>
        apply solid_singleton
        rintro rfl
        exact free (mem_of_plain_mem_pieces piece_mem)
    | client => exact clientSolid piece_mem
    | user => exact userSolid piece_mem
  have front_nil : front = [] := by
    by_contra nonempty
    have kept := solid_flatMap nonempty fun piece piece_mem => solid piece (by
      rw [row_eq]
      exact List.mem_append_left _ piece_mem)
    exact starts.elim kept.nonempty kept.last_ne
  have back_nil : back = [] := by
    by_contra nonempty
    have kept := solid_flatMap nonempty fun piece piece_mem => solid piece (by
      rw [row_eq]
      exact List.mem_append_right _ (List.mem_cons_of_mem _ piece_mem))
    exact ends.elim kept.nonempty kept.head_ne
  rw [hasPlaceholder_iff, row_eq, front_nil, back_nil] at template
  simp at template

/-! ## Counting wildcards -/

/-- A level with a placeholder is no wildcard. -/
theorem isWildcard_eq_false_of_hasPlaceholder {level : Topic.Level}
    (template : hasPlaceholder level = true) : Topic.isWildcard level = false := by
  rw [Bool.eq_false_iff]
  intro wild
  have literal : level = Topic.anyLevel ∨ level = Topic.allLevels := by
    simpa [Topic.isWildcard] using wild
  rcases literal with rfl | rfl
  · exact absurd template (by decide)
  · exact absurd template (by decide)

theorem wildcardCount_eq_zero_of_hasPlaceholder {level : Topic.Level} (free : '/' ∉ level)
    (template : hasPlaceholder level = true) : Topic.wildcardCount level = 0 := by
  simp [Topic.wildcardCount, Topic.levels_of_not_mem free,
    isWildcard_eq_false_of_hasPlaceholder template]

/-- A level with a placeholder has no wildcard to lose, and any other stays as it is. -/
theorem wildcardCount_le_expand (pattern : List Char) :
    Topic.wildcardCount pattern ≤
      Topic.wildcardCount (expand clientId username pattern) := by
  induction pattern using Topic.levels_induction with
  | single level free =>
      by_cases template : hasPlaceholder level = true
      · rw [wildcardCount_eq_zero_of_hasPlaceholder free template]
        exact Nat.zero_le _
      · rw [expand_of_not_hasPlaceholder (Bool.eq_false_iff.mpr template)]
  | slash level rest free first second =>
      rw [expand_append_slash, Topic.wildcardCount_append_slash,
        Topic.wildcardCount_append_slash]
      exact Nat.add_le_add first second

/-- If no placeholder brings a wildcard about, there are as many as before. -/
theorem wildcardCount_expand_eq {pattern : List Char}
    (none_freed : ∀ level ∈ Topic.levels pattern, hasPlaceholder level = true →
      ∀ part ∈ Topic.levels (expand clientId username level), Topic.isWildcard part = false) :
    Topic.wildcardCount (expand clientId username pattern) =
      Topic.wildcardCount pattern := by
  induction pattern using Topic.levels_induction with
  | single level free =>
      by_cases template : hasPlaceholder level = true
      · rw [wildcardCount_eq_zero_of_hasPlaceholder free template, Topic.wildcardCount,
          List.countP_eq_zero]
        intro part part_mem
        have level_mem : level ∈ Topic.levels level := by
          simp [Topic.levels_of_not_mem free]
        simp [none_freed level level_mem template part part_mem]
      · rw [expand_of_not_hasPlaceholder (Bool.eq_false_iff.mpr template)]
  | slash level rest free first second =>
      rw [Topic.levels_append_slash] at none_freed
      rw [expand_append_slash, Topic.wildcardCount_append_slash,
        Topic.wildcardCount_append_slash,
        first fun level member => none_freed level (List.mem_append_left _ member),
        second fun level member => none_freed level (List.mem_append_right _ member)]

/-- A filled pattern has no fewer wildcard levels than the pattern.  It has as many if no
level of the pattern holds both a placeholder and a wildcard, and also if every value
that is inserted keeps to its level. -/
theorem wildcardCount_of_patternFor?_eq_some (rule : Rule)
    (clientId username filled : String)
    (found : rule.patternFor? clientId username = some filled) :
    Topic.wildcardCount rule.pattern.toList ≤ Topic.wildcardCount filled.toList ∧
    ((∀ level ∈ Topic.levels rule.pattern.toList,
        hasPlaceholder level = true → hasWildcard level = false) →
      Topic.wildcardCount filled.toList = Topic.wildcardCount rule.pattern.toList) ∧
    ((['%', 'c'] <:+: rule.pattern.toList → Solid clientId.toList) →
      (['%', 'u'] <:+: rule.pattern.toList → Solid username.toList) →
      Topic.wildcardCount filled.toList = Topic.wildcardCount rule.pattern.toList) := by
  obtain ⟨admitted, filled_eq⟩ := patternFor?_eq_some_iff.mp found
  rw [← filled_eq]
  refine ⟨?_, ?_, ?_⟩
  · exact wildcardCount_le_expand rule.pattern.toList
  · intro apart
    apply wildcardCount_expand_eq
    intro level member template part part_mem
    exact isWildcard_eq_false_of_plain (admitted.level member) (apart level member template)
      part_mem
  · intro clientSolid userSolid
    apply wildcardCount_expand_eq
    intro level member template part part_mem
    apply isWildcard_eq_false_of_solid (Topic.slash_not_mem_of_mem_levels member)
      (admitted.level member) template _ _ part_mem
    · intro piece_mem
      exact clientSolid (client_mem_pieces_iff.mp (mem_pieces_of_mem_levels member piece_mem))
    · intro piece_mem
      exact userSolid (user_mem_pieces_iff.mp (mem_pieces_of_mem_levels member piece_mem))

/-- A value with a slash inside makes two levels of one, but no wildcard of them. -/
theorem wildcardCount_of_inner_slash :
    (⟨"+/a%c+/#", .read⟩ : Rule).patternFor? "x/y" "u" = some "+/ax/y+/#" ∧
      Topic.wildcardCount "+/ax/y+/#".toList = Topic.wildcardCount "+/a%c+/#".toList :=
  ⟨by decide,
    (wildcardCount_of_patternFor?_eq_some ⟨"+/a%c+/#", .read⟩ "x/y" "u" "+/ax/y+/#"
      (by decide)).2.2 (fun _ => ⟨by decide, by decide, by decide⟩)
        (fun _ => ⟨by decide, by decide, by decide⟩)⟩

/-- A value that starts with a slash cuts the wildcard before its placeholder free, so
filling does not keep the number of wildcards of every pattern. -/
theorem wildcard_freed_by_leading_slash :
    ¬ ∀ (rule : Rule) (clientId username filled : String),
      rule.patternFor? clientId username = some filled →
        Topic.wildcardCount filled.toList = Topic.wildcardCount rule.pattern.toList := by
  intro kept
  have freed := kept ⟨"+%c", .read⟩ "/x" "u" "+/x" (by decide)
  exact absurd freed (by decide)

end TopicGuard.Rule
