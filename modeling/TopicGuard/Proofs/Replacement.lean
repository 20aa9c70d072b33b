import Mathlib.Data.Option.NAry
import TopicGuard.Proofs.Filling

/-!
# Replacing all placeholders at once

The scan that fills a pattern agrees with a reading of the pattern that knows no order.  A
pattern is split at its placeholders in one way only, and the filled pattern is that row of
pieces with a value in the place of each placeholder.  Nothing is split again after values
are put in, so a placeholder that a value brings, or that a value completes together with
its neighbours, stays as it is.
-/

namespace TopicGuard.Rule

/-- How a piece is written in a pattern. -/
def Piece.text : Piece → List Char
  | .plain c => [c]
  | .client => ['%', 'c']
  | .user => ['%', 'u']

/-- A row of pieces splits a pattern at its placeholders if the pieces, written one after
the other, are the pattern, and no placeholder is left among the plain characters. -/
structure SplitsInto (pattern : List Char) (row : List Piece) : Prop where
  written : row.flatMap Piece.text = pattern
  unspelled : ∀ letter, letter = 'c' ∨ letter = 'u' →
    ¬ [.plain '%', .plain letter] <:+: row

variable {clientId username : List Char}

/-! ## The pieces of a pattern -/

/-- The pieces of a pattern, written one after the other, are the pattern. -/
theorem flatMap_text_pieces (pattern : List Char) :
    (pieces pattern).flatMap Piece.text = pattern := by
  fun_induction pieces pattern with
  | case1 rest ih => simp [Piece.text, ih]
  | case2 rest ih => simp [Piece.text, ih]
  | case3 c rest no_client no_user ih => simp [Piece.text, ih]
  | case4 => rfl

/-- A plain character that is the first piece is the first character. -/
theorem eq_cons_of_pieces_eq_cons {pattern : List Char} {c : Char} {row : List Piece}
    (first : pieces pattern = .plain c :: row) : pattern = c :: row.flatMap Piece.text := by
  rw [← flatMap_text_pieces pattern, first]
  rfl

/-- No placeholder is left among the plain pieces of a pattern. -/
theorem not_infix_pieces {letter : Char} (starts : letter = 'c' ∨ letter = 'u')
    (pattern : List Char) : ¬ [.plain '%', .plain letter] <:+: pieces pattern := by
  fun_induction pieces pattern with
  | case1 rest ih => simpa [List.infix_cons_iff] using ih
  | case2 rest ih => simpa [List.infix_cons_iff] using ih
  | case3 c rest no_client no_user ih =>
      rw [List.infix_cons_iff, not_or]
      refine ⟨?_, ih⟩
      rintro ⟨row, spelled⟩
      rw [List.cons_append, List.cons_append, List.cons.injEq, Piece.plain.injEq] at spelled
      obtain ⟨percent, row_eq⟩ := spelled
      have rest_eq := eq_cons_of_pieces_eq_cons row_eq.symm
      rcases starts with rfl | rfl
      · exact no_client _ percent.symm rest_eq
      · exact no_user _ percent.symm rest_eq
  | case4 => simp

/-- A row that is written with another first character than a percent sign starts with it. -/
theorem exists_eq_plain_cons {row : List Piece} {c : Char} {rest : List Char}
    (plain : c ≠ '%') (written : row.flatMap Piece.text = c :: rest) :
    ∃ back, row = .plain c :: back := by
  cases row with
  | nil => simp at written
  | cons piece back =>
      rw [List.flatMap_cons] at written
      cases piece with
      | plain d =>
          obtain ⟨rfl, _⟩ := List.cons.inj written
          exact ⟨back, rfl⟩
      | client => exact absurd (List.cons.inj written).1.symm plain
      | user => exact absurd (List.cons.inj written).1.symm plain

/-- A row without a placeholder among its plain pieces is read back from what is written. -/
theorem pieces_flatMap_text {row : List Piece}
    (unspelled : ∀ letter, letter = 'c' ∨ letter = 'u' →
      ¬ [.plain '%', .plain letter] <:+: row) :
    pieces (row.flatMap Piece.text) = row := by
  induction row with
  | nil => rfl
  | cons piece back ih =>
      have later := ih fun letter starts spelled =>
        unspelled letter starts (List.infix_cons spelled)
      cases piece with
      | client => simp [Piece.text, later]
      | user => simp [Piece.text, later]
      | plain c =>
          have no_start : ∀ letter, letter = 'c' ∨ letter = 'u' → ∀ after, c = '%' →
              back.flatMap Piece.text = letter :: after → False := by
            intro letter starts after percent written
            have plain : letter ≠ '%' := by
              rcases starts with rfl | rfl <;> decide
            obtain ⟨others, rfl⟩ := exists_eq_plain_cons plain written
            rw [percent] at unspelled
            exact unspelled letter starts ⟨[], others, rfl⟩
          rw [List.flatMap_cons, Piece.text, List.singleton_append,
            pieces_cons (no_start 'c' (.inl rfl)) (no_start 'u' (.inr rfl)), later]

/-- A pattern is split at its placeholders into its pieces, and in no other way. -/
theorem splitsInto_iff {pattern : List Char} {row : List Piece} :
    SplitsInto pattern row ↔ row = pieces pattern := by
  constructor
  · intro splits
    rw [← splits.written, pieces_flatMap_text splits.unspelled]
  · rintro rfl
    exact ⟨flatMap_text_pieces pattern, fun _ starts => not_infix_pieces starts pattern⟩

/-! ## Filling -/

/-- The scan would also do for a pattern without placeholders. -/
theorem map_fill_eq_patternFor? (rule : Rule) (clientId username : String) :
    (fill clientId.toList username.toList rule.pattern.toList).map String.ofList =
      rule.patternFor? clientId username := by
  rw [patternFor?]
  split
  · rfl
  · rename_i plain
    rw [isTemplate, Bool.not_eq_true] at plain
    rw [fill_of_not_hasPlaceholder _ _ plain, Option.map_some, String.ofList_toList]

theorem admits_append_slash {before after : List Char} :
    Admits clientId username (before ++ '/' :: after) ↔
      Admits clientId username before ∧ Admits clientId username after := by
  simp only [Admits, pieces_append_slash, List.mem_append, List.mem_cons, reduceCtorEq,
    false_or, or_imp]
  exact and_and_and_comm

/-- Two patterns with a slash between them are filled one by one. -/
theorem fill_append_slash (before after : List Char) :
    fill clientId username (before ++ '/' :: after) =
      Option.map₂ (fun first second => first ++ '/' :: second)
        (fill clientId username before) (fill clientId username after) := by
  ext filled
  simp only [Option.map₂_eq_some_iff, Option.mem_def, fill_eq_some_iff, admits_append_slash,
    expand_append_slash]
  constructor
  · rintro ⟨⟨first, second⟩, filled_eq⟩
    exact ⟨_, _, ⟨first, rfl⟩, ⟨second, rfl⟩, filled_eq⟩
  · rintro ⟨_, _, ⟨first, rfl⟩, ⟨second, rfl⟩, filled_eq⟩
    exact ⟨⟨first, second⟩, filled_eq⟩

/-- Of two patterns with a slash between them each gives its own part of what a client gets,
and both have to be filled. -/
theorem patternFor?_append_slash (access : Access) (before after clientId username : String) :
    (⟨before ++ "/" ++ after, access⟩ : Rule).patternFor? clientId username =
      Option.map₂ (fun first second => first ++ "/" ++ second)
        ((⟨before, access⟩ : Rule).patternFor? clientId username)
        ((⟨after, access⟩ : Rule).patternFor? clientId username) := by
  have toList_eq : (before ++ "/" ++ after).toList = before.toList ++ '/' :: after.toList := by
    simp
  simp only [← map_fill_eq_patternFor?, toList_eq, fill_append_slash]
  cases fill clientId.toList username.toList before.toList with
  | none => rfl
  | some first =>
      cases fill clientId.toList username.toList after.toList with
      | none => rfl
      | some second =>
          have joined : String.ofList (first ++ '/' :: second) =
              String.ofList first ++ "/" ++ String.ofList second := by
            simp [← String.toList_inj]
          exact congrArg some joined

/-! ## Simultaneous replacement -/

/-- The pattern of a rule for a request is its row of pieces with every value in its place,
for the one row that splits the pattern at its placeholders; there is none exactly if a
placeholder that occurs asks for a value with a wildcard.  The scan gives the same for a
pattern without placeholders, and what a slash parts is filled apart. -/
theorem patternFor?_replaces_at_once (rule : Rule) (clientId username : String) :
    (∃! row, SplitsInto rule.pattern.toList row) ∧
    (rule.patternFor? clientId username = none ↔
      ['%', 'c'] <:+: rule.pattern.toList ∧ ('+' ∈ clientId.toList ∨ '#' ∈ clientId.toList) ∨
      ['%', 'u'] <:+: rule.pattern.toList ∧
        ('+' ∈ username.toList ∨ '#' ∈ username.toList)) ∧
    (∀ row filled, SplitsInto rule.pattern.toList row →
      rule.patternFor? clientId username = some filled →
      filled.toList = row.flatMap (Piece.value clientId.toList username.toList)) ∧
    (fill clientId.toList username.toList rule.pattern.toList).map String.ofList =
      rule.patternFor? clientId username ∧
    ∀ before after, rule.pattern = before ++ "/" ++ after →
      rule.patternFor? clientId username =
        Option.map₂ (fun first second => first ++ "/" ++ second)
          ((⟨before, rule.access⟩ : Rule).patternFor? clientId username)
          ((⟨after, rule.access⟩ : Rule).patternFor? clientId username) := by
  refine ⟨?_, patternFor?_eq_none_iff, ?_, map_fill_eq_patternFor? rule clientId username, ?_⟩
  · refine ⟨pieces rule.pattern.toList, splitsInto_iff.mpr rfl, ?_⟩
    intro row splits
    exact splitsInto_iff.mp splits
  · intro row filled splits found
    rw [splitsInto_iff.mp splits]
    exact (patternFor?_eq_some_iff.mp found).2.symm
  · intro before after pattern_eq
    rw [← patternFor?_append_slash, ← pattern_eq]

/-- The percent sign before the first placeholder stays, and so does the `%u` that the
client id brings, though the user name may not be inserted anywhere. -/
theorem patternFor?_keeps_inserted_placeholder :
    SplitsInto "%%c/%".toList [.plain '%', .client, .plain '/', .plain '%'] ∧
    (⟨"%%c/%", .read⟩ : Rule).patternFor? "%u" "#" = some "%%u/%" ∧
    "%%u/%".toList = ([.plain '%', .client, .plain '/', .plain '%'] : List Piece).flatMap
      (Piece.value "%u".toList "#".toList) := by
  have splits : SplitsInto "%%c/%".toList [.plain '%', .client, .plain '/', .plain '%'] :=
    splitsInto_iff.mpr (by decide)
  have found : (⟨"%%c/%", .read⟩ : Rule).patternFor? "%u" "#" = some "%%u/%" := by decide
  exact ⟨splits, found,
    (patternFor?_replaces_at_once ⟨"%%c/%", .read⟩ "%u" "#").2.2.1 _ _ splits found⟩

end TopicGuard.Rule
