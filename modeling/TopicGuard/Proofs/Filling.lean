import TopicGuard.Proofs.Levels
import TopicGuard.Rule

/-!
# Patterns and their pieces

A pattern is a row of pieces: characters that stand for themselves and placeholders.
Filling a pattern replaces each piece by its value, all at once, and only fails if a
placeholder that occurs asks for a value with a wildcard.  A slash is a piece of its
own, so a pattern is filled level by level; but a value may bring slashes of its own,
and then the level that asked for it becomes several.
-/

namespace TopicGuard.Rule

/-- A piece of a pattern. -/
inductive Piece where
  /-- A character that stands for itself. -/
  | plain (c : Char)
  /-- The placeholder for the client id. -/
  | client
  /-- The placeholder for the user name. -/
  | user
  deriving Repr, DecidableEq

/-- What a piece is replaced by. -/
def Piece.value (clientId username : List Char) : Piece → List Char
  | .plain c => [c]
  | .client => clientId
  | .user => username

/-- The pieces of a pattern. -/
def pieces : List Char → List Piece
  | '%' :: 'c' :: rest => .client :: pieces rest
  | '%' :: 'u' :: rest => .user :: pieces rest
  | c :: rest => .plain c :: pieces rest
  | [] => []

/-- A pattern with the values of its pieces in their place, whatever they hold. -/
def expand (clientId username pattern : List Char) : List Char :=
  (pieces pattern).flatMap (Piece.value clientId username)

/-- The values that a pattern asks for hold no wildcard. -/
def Admits (clientId username pattern : List Char) : Prop :=
  (.client ∈ pieces pattern → hasWildcard clientId = false) ∧
    (.user ∈ pieces pattern → hasWildcard username = false)

variable {clientId username : List Char}

/-! ## Pieces -/

@[simp]
theorem pieces_nil : pieces [] = [] :=
  rfl

@[simp]
theorem pieces_client (rest : List Char) :
    pieces ('%' :: 'c' :: rest) = .client :: pieces rest := by
  simp [pieces]

@[simp]
theorem pieces_user (rest : List Char) :
    pieces ('%' :: 'u' :: rest) = .user :: pieces rest := by
  simp [pieces]

/-- Where no placeholder starts, a character stands for itself. -/
theorem pieces_cons {c : Char} {rest : List Char}
    (no_client : ∀ after, c = '%' → rest = 'c' :: after → False)
    (no_user : ∀ after, c = '%' → rest = 'u' :: after → False) :
    pieces (c :: rest) = .plain c :: pieces rest := by
  rw [pieces]
  · exact no_client
  · exact no_user

/-- A slash after a text lets no placeholder start that does not start in the text. -/
theorem no_start_append_slash {c letter : Char} {rest : List Char} (slash_ne : '/' ≠ letter)
    (noStart : ∀ after, c = '%' → rest = letter :: after → False) (after : List Char) :
    ∀ next, c = '%' → rest ++ '/' :: after = letter :: next → False := by
  intro next c_eq rest_eq
  cases rest with
  | nil => exact slash_ne (List.cons.inj rest_eq).1
  | cons d others =>
      rw [List.cons_append, List.cons.injEq] at rest_eq
      exact noStart others c_eq (by rw [rest_eq.1])

/-- A slash is a piece of its own, and it starts no placeholder and ends none. -/
@[simp]
theorem pieces_append_slash (before after : List Char) :
    pieces (before ++ '/' :: after) = pieces before ++ .plain '/' :: pieces after := by
  fun_induction pieces before with
  | case1 rest ih => simp [ih]
  | case2 rest ih => simp [ih]
  | case3 c rest no_client no_user ih =>
      rw [List.cons_append, pieces_cons, ih, List.cons_append]
      · exact no_start_append_slash (by decide) no_client after
      · exact no_start_append_slash (by decide) no_user after
  | case4 => rw [List.nil_append, pieces_cons (by simp) (by simp), List.nil_append]

/-! ## Filling -/

/-- A pattern is filled with the values that its placeholders ask for, unless one of
them holds a wildcard. -/
theorem fill_eq_some_iff {pattern filled : List Char} :
    fill clientId username pattern = some filled ↔
      Admits clientId username pattern ∧ expand clientId username pattern = filled := by
  fun_induction pieces pattern generalizing filled with
  | case1 rest ih =>
      by_cases wild : hasWildcard clientId = true
      · simp [wild, Admits]
      · simp [wild, ih, Admits, expand, Piece.value, Option.map_eq_some_iff, and_assoc]
  | case2 rest ih =>
      by_cases wild : hasWildcard username = true
      · simp [wild, Admits]
      · simp [wild, ih, Admits, expand, Piece.value, Option.map_eq_some_iff, and_assoc]
  | case3 c rest no_client no_user ih =>
      rw [fill]
      · simp [ih, Admits, expand, pieces_cons no_client no_user, Piece.value,
          Option.map_eq_some_iff, and_assoc]
      · exact no_client
      · exact no_user
  | case4 => simp [Admits, expand]

/-- A pattern without placeholders is filled like any other: nothing changes in it. -/
theorem patternFor?_eq_some_iff {rule : Rule} {clientId username filled : String} :
    rule.patternFor? clientId username = some filled ↔
      Admits clientId.toList username.toList rule.pattern.toList ∧
        expand clientId.toList username.toList rule.pattern.toList = filled.toList := by
  rw [← fill_eq_some_iff]
  by_cases template : rule.isTemplate = true
  · rw [patternFor?, if_pos template, Option.map_eq_some_iff]
    constructor
    · rintro ⟨text, filled_eq, rfl⟩
      rw [filled_eq, String.toList_ofList]
    · intro filled_eq
      exact ⟨filled.toList, filled_eq, String.ofList_toList⟩
  · have plain : hasPlaceholder rule.pattern.toList = false := by
      simpa [isTemplate] using template
    rw [patternFor?, if_neg template, fill_of_not_hasPlaceholder _ _ plain, Option.some.injEq,
      Option.some.injEq, String.toList_inj]

/-- A value holds a wildcard if one of the two is a character of it. -/
theorem hasWildcard_iff {value : List Char} :
    hasWildcard value = true ↔ '+' ∈ value ∨ '#' ∈ value := by
  simp [hasWildcard, or_comm, and_or_left, exists_or]

/-- A value without wildcards has neither of them as a character. -/
theorem not_mem_of_hasWildcard_eq_false {value : List Char} {x : Char}
    (free : hasWildcard value = false) (wild : x = '+' ∨ x = '#') : x ∉ value := by
  intro member
  have literal : x ≠ '+' ∧ x ≠ '#' := by
    simpa using List.any_eq_false.mp free x member
  exact wild.elim literal.1 literal.2

/-- A value without wildcards has neither of them as a level. -/
theorem not_mem_levels_of_hasWildcard_eq_false {value : List Char} {x : Char}
    (free : hasWildcard value = false) (wild : x = '+' ∨ x = '#') :
    [x] ∉ Topic.levels value := fun member =>
  not_mem_of_hasWildcard_eq_false free wild
    (Topic.mem_of_mem_levels member (List.mem_singleton_self x))

/-! ## Level by level -/

@[simp]
theorem expand_append_slash (before after : List Char) :
    expand clientId username (before ++ '/' :: after) =
      expand clientId username before ++ '/' :: expand clientId username after := by
  simp [expand, Piece.value]

/-- The levels of a filled pattern are those that its levels are filled to. -/
theorem levels_expand (pattern : List Char) :
    Topic.levels (expand clientId username pattern) =
      (Topic.levels pattern).flatMap fun level =>
        Topic.levels (expand clientId username level) := by
  induction pattern using Topic.levels_induction with
  | single level free => simp [Topic.levels_of_not_mem free]
  | slash level rest free first second =>
      rw [expand_append_slash, Topic.levels_append_slash, Topic.levels_append_slash,
        List.flatMap_append, ← first, ← second]

/-- The pieces of a level are pieces of the pattern. -/
theorem mem_pieces_of_mem_levels {pattern : List Char} {level : Topic.Level} {piece : Piece}
    (member : level ∈ Topic.levels pattern) (found : piece ∈ pieces level) :
    piece ∈ pieces pattern := by
  induction pattern using Topic.levels_induction with
  | single only free =>
      rw [Topic.levels_of_not_mem free, List.mem_singleton] at member
      rwa [member] at found
  | slash level rest free first second =>
      rw [Topic.levels_append_slash, List.mem_append] at member
      rw [pieces_append_slash, List.mem_append, List.mem_cons]
      rcases member with member | member
      · exact Or.inl (first member)
      · exact Or.inr (Or.inr (second member))

/-- A pattern's values are admitted to each of its levels. -/
theorem Admits.level {pattern : List Char} {level : Topic.Level}
    (admitted : Admits clientId username pattern) (member : level ∈ Topic.levels pattern) :
    Admits clientId username level :=
  ⟨fun found => admitted.1 (mem_pieces_of_mem_levels member found),
    fun found => admitted.2 (mem_pieces_of_mem_levels member found)⟩

/-- A value that is admitted where it is asked for holds no wildcard. -/
theorem Admits.hasWildcard_value {pattern : List Char} {piece : Piece}
    (admitted : Admits clientId username pattern) (asked : piece ∈ pieces pattern)
    (inserts : ∀ c, piece ≠ .plain c) : hasWildcard (piece.value clientId username) = false := by
  cases piece with
  | plain c => exact absurd rfl (inserts c)
  | client => exact admitted.1 asked
  | user => exact admitted.2 asked

/-! ## Placeholders -/

/-- Where a placeholder does not start, it only occurs later. -/
theorem infix_cons_iff_of_no_start {c letter : Char} {rest : List Char}
    (noStart : ∀ after, c = '%' → rest = letter :: after → False) :
    ['%', letter] <:+: c :: rest ↔ ['%', letter] <:+: rest := by
  rw [List.infix_cons_iff, or_iff_right]
  rintro ⟨after, start_eq⟩
  rw [List.cons_append, List.cons_append, List.cons.injEq] at start_eq
  exact noStart after start_eq.1.symm start_eq.2.symm

/-- The client placeholder is a piece wherever it is written. -/
theorem client_mem_pieces_iff {pattern : List Char} :
    Piece.client ∈ pieces pattern ↔ ['%', 'c'] <:+: pattern := by
  fun_induction pieces pattern with
  | case1 rest ih => simp [List.infix_cons_iff]
  | case2 rest ih => simp [List.infix_cons_iff, ih]
  | case3 c rest no_client no_user ih => simp [infix_cons_iff_of_no_start no_client, ih]
  | case4 => simp

/-- The user placeholder is a piece wherever it is written. -/
theorem user_mem_pieces_iff {pattern : List Char} :
    Piece.user ∈ pieces pattern ↔ ['%', 'u'] <:+: pattern := by
  fun_induction pieces pattern with
  | case1 rest ih => simp [List.infix_cons_iff, ih]
  | case2 rest ih => simp [List.infix_cons_iff]
  | case3 c rest no_client no_user ih => simp [infix_cons_iff_of_no_start no_user, ih]
  | case4 => simp

/-- Only the pieces that stand for themselves stand in a pattern without placeholders. -/
theorem hasPlaceholder_iff {pattern : List Char} :
    hasPlaceholder pattern = true ↔
      Piece.client ∈ pieces pattern ∨ Piece.user ∈ pieces pattern := by
  fun_induction pieces pattern with
  | case1 rest ih => simp [hasPlaceholder]
  | case2 rest ih => simp [hasPlaceholder]
  | case3 c rest no_client no_user ih =>
      rw [hasPlaceholder]
      · simp [ih]
      · exact no_client
      · exact no_user
  | case4 => simp [hasPlaceholder]

/-- A character that is a piece is a character of the pattern. -/
theorem mem_of_plain_mem_pieces {pattern : List Char} {d : Char}
    (found : Piece.plain d ∈ pieces pattern) : d ∈ pattern := by
  fun_induction pieces pattern with
  | case1 rest ih => simp [ih (by simpa using found)]
  | case2 rest ih => simp [ih (by simpa using found)]
  | case3 c rest no_client no_user ih =>
      rw [List.mem_cons, Piece.plain.injEq] at found
      rcases found with rfl | found
      · exact List.mem_cons_self
      · exact List.mem_cons_of_mem _ (ih found)
  | case4 => simp at found

/-- Without placeholders nothing is replaced. -/
theorem expand_of_not_hasPlaceholder {pattern : List Char}
    (plain : hasPlaceholder pattern = false) : expand clientId username pattern = pattern := by
  have filled := fill_of_not_hasPlaceholder clientId username plain
  exact (fill_eq_some_iff.mp filled).2

/-- A rule has no pattern for a request exactly if a value that it asks for holds a
wildcard. -/
theorem patternFor?_eq_none_iff {rule : Rule} {clientId username : String} :
    rule.patternFor? clientId username = none ↔
      ['%', 'c'] <:+: rule.pattern.toList ∧ ('+' ∈ clientId.toList ∨ '#' ∈ clientId.toList) ∨
      ['%', 'u'] <:+: rule.pattern.toList ∧
        ('+' ∈ username.toList ∨ '#' ∈ username.toList) := by
  rw [← client_mem_pieces_iff, ← user_mem_pieces_iff, ← hasWildcard_iff, ← hasWildcard_iff]
  have filled_iff : (∃ filled, rule.patternFor? clientId username = some filled) ↔
      Admits clientId.toList username.toList rule.pattern.toList := by
    simp only [patternFor?_eq_some_iff, exists_and_left, and_iff_left_iff_imp]
    intro _
    exact ⟨String.ofList _, String.toList_ofList.symm⟩
  rw [Option.eq_none_iff_forall_ne_some, ← not_exists, filled_iff, Admits, not_and_or]
  simp

end TopicGuard.Rule
