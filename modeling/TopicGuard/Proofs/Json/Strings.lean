import Mathlib.Tactic.SplitIfs
import TopicGuard.Json.Token
import TopicGuard.Json.Write

/-!
# Strings of JSON

A string spells its pieces: a character that stands for itself, one behind a short escape,
or a sixteen-bit unit in hexadecimal digits of either case.  The pieces in turn denote a
text, where a character may be given as itself or in UTF-16, by one unit or by a pair.
Whatever the mixture is, the text is read back; a text that is written here is spelled and
denoted by one of them.
-/

namespace TopicGuard.Json

/-! ## Spellings -/

/-- The short escapes, each with the character that it stands for. -/
def shortEscapes : List (Char × Char) :=
  [('"', '"'), ('\\', '\\'), ('/', '/'), ('b', '\x08'), ('f', '\x0c'), ('n', '\n'),
    ('r', '\r'), ('t', '\t')]

/-- A character is the hexadecimal digit of a value, in either case. -/
def IsHexDigit (value : Nat) (c : Char) : Prop :=
  value < 16 ∧ (c = Nat.digitChar value ∨ c = (Nat.digitChar value).toUpper)

/-- A piece of a string is spelled by some characters. -/
inductive Piece.Spelled : Piece → List Char → Prop where
  | plain {c : Char} (visible : 0x20 ≤ c.toNat) (no_quote : c ≠ '"') (no_backslash : c ≠ '\\') :
      Spelled (.char c) [c]
  | short {letter c : Char} (member : (letter, c) ∈ shortEscapes) :
      Spelled (.char c) ['\\', letter]
  | unit {a b c d : Nat} {first second third fourth : Char} (first_eq : IsHexDigit a first)
      (second_eq : IsHexDigit b second) (third_eq : IsHexDigit c third)
      (fourth_eq : IsHexDigit d fourth) :
      Spelled (.unit (16 * (16 * (16 * a + b) + c) + d))
        ['\\', 'u', first, second, third, fourth]

/-- Pieces are spelled one after the other. -/
inductive Spelled : List Piece → List Char → Prop where
  | nil : Spelled [] []
  | cons {piece : Piece} {pieces : List Piece} {front rest : List Char}
      (first : piece.Spelled front) (others : Spelled pieces rest) :
      Spelled (piece :: pieces) (front ++ rest)

/-! ## Texts -/

/-- Pieces denote a text, character by character. -/
inductive Denotes : List Piece → List Char → Prop where
  | nil : Denotes [] []
  | char {pieces : List Piece} {text : List Char} (c : Char) (others : Denotes pieces text) :
      Denotes (.char c :: pieces) (c :: text)
  /-- A character below the surrogates or above them is one unit. -/
  | unit {pieces : List Piece} {text : List Char} (c : Char) (small : c.toNat < 0x10000)
      (others : Denotes pieces text) : Denotes (.unit c.toNat :: pieces) (c :: text)
  /-- A character that does not fit one unit is a pair of surrogates. -/
  | pair {pieces : List Piece} {text : List Char} (c : Char) (large : 0x10000 ≤ c.toNat)
      (others : Denotes pieces text) :
      Denotes (.unit (0xD800 + (c.toNat - 0x10000) / 0x400) ::
        .unit (0xDC00 + (c.toNat - 0x10000) % 0x400) :: pieces) (c :: text)

variable {pieces : List Piece} {text : List Char}

/-- No character is a surrogate. -/
theorem toNat_not_surrogate (c : Char) :
    c.toNat < 0xD800 ∨ 0xE000 ≤ c.toNat ∧ c.toNat < 0x110000 := by
  rcases c.valid with below | ⟨above, bound⟩
  · exact .inl below
  · exact .inr ⟨above, bound⟩

theorem textBefore_unit {c : Char} (small : c.toNat < 0x10000) (after : List Char)
    (more : List Piece) :
    textBefore none after (.unit c.toNat :: more) = textBefore none (c :: after) more := by
  have not_low : isLowUnit c.toNat = false := by
    simp only [isLowUnit, Bool.and_eq_false_iff, decide_eq_false_iff_not]
    have := toNat_not_surrogate c
    omega
  have not_high : isHighUnit c.toNat = false := by
    simp only [isHighUnit, Bool.and_eq_false_iff, decide_eq_false_iff_not]
    have := toNat_not_surrogate c
    omega
  simp only [textBefore, not_low, not_high, Bool.false_eq_true, if_false, Char.ofNat_toNat]

theorem textBefore_pair {c : Char} (large : 0x10000 ≤ c.toNat) (after : List Char)
    (more : List Piece) :
    textBefore none after (.unit (0xDC00 + (c.toNat - 0x10000) % 0x400) ::
        .unit (0xD800 + (c.toNat - 0x10000) / 0x400) :: more) =
      textBefore none (c :: after) more := by
  have bounds := toNat_not_surrogate c
  have low : isLowUnit (0xDC00 + (c.toNat - 0x10000) % 0x400) = true := by
    simp only [isLowUnit, Bool.and_eq_true, decide_eq_true_eq]
    omega
  have high : isHighUnit (0xD800 + (c.toNat - 0x10000) / 0x400) = true := by
    simp only [isHighUnit, Bool.and_eq_true, decide_eq_true_eq]
    omega
  have code_eq : 0x10000 + (0xD800 + (c.toNat - 0x10000) / 0x400 - 0xD800) * 0x400 +
      (0xDC00 + (c.toNat - 0x10000) % 0x400 - 0xDC00) = c.toNat := by
    omega
  simp only [textBefore, low, high, if_true, code_eq, Char.ofNat_toNat]

/-- The pieces of a text are put together from the last one on. -/
theorem textBefore_reverse_append (denotes : Denotes pieces text) (after : List Char)
    (more : List Piece) :
    textBefore none after (pieces.reverse ++ more) = textBefore none (text ++ after) more := by
  induction denotes generalizing more with
  | nil => rfl
  | char c others ih =>
      rw [List.reverse_cons, List.append_assoc, ih]
      rfl
  | unit c small others ih =>
      rw [List.reverse_cons, List.append_assoc, ih]
      exact textBefore_unit small _ more
  | pair c large others ih =>
      rw [List.reverse_cons, List.reverse_cons, List.append_assoc, List.append_assoc, ih]
      exact textBefore_pair large _ more

/-- A string has the text that its pieces denote. -/
theorem textOf?_of_denotes {text : String} (denotes : Denotes pieces text.toList) :
    textOf? pieces = some text := by
  have joined := textBefore_reverse_append denotes [] []
  rw [List.append_nil, List.append_nil] at joined
  rw [textOf?, joined]
  exact congrArg some (String.ofList_toList)

/-! ## Writing -/

/-- The piece that a character is written by. -/
def writtenPiece (c : Char) : Piece :=
  if 0x20 ≤ c.toNat ∨ c ∈ shortEscapes.map Prod.snd then .char c else .unit c.toNat

theorem writtenPiece_of_visible {c : Char} (visible : 0x20 ≤ c.toNat) :
    writtenPiece c = .char c :=
  if_pos (.inl visible)

theorem spelled_control {c : Char} (control : c.toNat < 0x20) :
    (Piece.unit c.toNat).Spelled
      ['\\', 'u', '0', '0', Nat.digitChar (c.toNat / 16), Nat.digitChar (c.toNat % 16)] := by
  have zero : IsHexDigit 0 '0' := ⟨by decide, .inl rfl⟩
  have spelled := Piece.Spelled.unit zero zero ⟨(by omega : c.toNat / 16 < 16), .inl rfl⟩
    ⟨(by omega : c.toNat % 16 < 16), .inl rfl⟩
  have code_eq : 16 * (16 * (16 * 0 + 0) + c.toNat / 16) + c.toNat % 16 = c.toNat := by
    omega
  rwa [code_eq] at spelled

theorem spelled_escape {letter c : Char} (member : (letter, c) ∈ shortEscapes) :
    (writtenPiece c).Spelled ['\\', letter] := by
  rw [writtenPiece, if_pos (.inr (List.mem_map_of_mem member))]
  exact .short member

/-- A character is written as its piece is spelled. -/
theorem spelled_escapedChar (c : Char) : (writtenPiece c).Spelled (escapedChar c) := by
  rw [escapedChar]
  split_ifs with quote backslash back page feed carriage tab control
  · rw [quote]
    exact spelled_escape (by decide)
  · rw [backslash]
    exact spelled_escape (by decide)
  · rw [back]
    exact spelled_escape (by decide)
  · rw [page]
    exact spelled_escape (by decide)
  · rw [feed]
    exact spelled_escape (by decide)
  · rw [carriage]
    exact spelled_escape (by decide)
  · rw [tab]
    exact spelled_escape (by decide)
  · have not_slash : c ≠ '/' := by
      rintro rfl
      contradiction
    have piece_eq : writtenPiece c = .unit c.toNat := by
      apply if_neg
      simp [shortEscapes, quote, backslash, not_slash, back, page, feed, carriage, tab, control]
    rw [piece_eq]
    exact spelled_control control
  · have visible : 0x20 ≤ c.toNat := Nat.le_of_not_lt control
    rw [writtenPiece_of_visible visible]
    exact .plain visible quote backslash

/-- A text is denoted by the pieces that it is written by. -/
theorem denotes_map_writtenPiece (text : List Char) :
    Denotes (text.map writtenPiece) text := by
  induction text with
  | nil => exact .nil
  | cons c rest ih =>
      rw [List.map_cons, writtenPiece]
      by_cases stands : 0x20 ≤ c.toNat ∨ c ∈ shortEscapes.map Prod.snd
      · rw [if_pos stands]
        exact .char c ih
      · rw [if_neg stands]
        exact .unit c (by omega) ih

theorem spelled_flatMap_escapedChar (text : List Char) :
    Spelled (text.map writtenPiece) (text.flatMap escapedChar) := by
  induction text with
  | nil => exact .nil
  | cons c rest ih =>
      rw [List.map_cons, List.flatMap_cons]
      exact .cons (spelled_escapedChar c) ih

end TopicGuard.Json
