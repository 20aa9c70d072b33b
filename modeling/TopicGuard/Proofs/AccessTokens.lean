import TopicGuard.Proofs.Numerals
import TopicGuard.Session.Query

/-!
# Access tokens

A query asks for a level of access by the level's word or by its code.  The words are four,
since nothing cannot be asked for by its word, and the codes are five.  A code may be written
with a sign and with zeros in front, but however long a numeral is, it never stands for a
code unless its value is that code.
-/

namespace TopicGuard.Access

variable {token : List Char} {level : Access}

/-- A code is a signed word. -/
theorem exists_int32_code (level : Access) : ∃ word : Int32, word.toInt = level.code := by
  cases level with
  | none => exact ⟨0, rfl⟩
  | read => exact ⟨1, rfl⟩
  | write => exact ⟨2, rfl⟩
  | readWrite => exact ⟨3, rfl⟩
  | subscribe => exact ⟨4, rfl⟩

/-- A numeral stands for the level whose code is its value. -/
theorem bind_ofCode?_eq_some_iff :
    ((Text.wordOfNumeral? token).bind fun code => ofCode? code.toInt) = some level ↔
      Text.SignedNumeral token level.code := by
  simp only [Option.bind_eq_some_iff, ofCode?_eq_some_iff, Text.wordOfNumeral?_eq_some_iff]
  constructor
  · rintro ⟨word, numeral, code_eq⟩
    rwa [code_eq]
  · intro numeral
    obtain ⟨word, word_eq⟩ := exists_int32_code level
    exact ⟨word, by rwa [word_eq], word_eq.symm⟩

/-- The name of a level has no digits. -/
theorem not_signedNumeral_name (level : Access) (number : Int) :
    ¬ Text.SignedNumeral level.name.toList number := by
  intro numeral
  obtain ⟨sign, digits, name_eq, _, nonempty, all_digits⟩ :=
    Text.exists_signedNumeral_iff.mp ⟨number, numeral⟩
  obtain ⟨c, member⟩ := List.exists_mem_of_ne_nil digits nonempty
  have letters : ∀ c ∈ level.name.toList, c.isDigit = false := by
    cases level <;> simp [Access.name]
  have letter : c.isDigit = false := letters c (name_eq ▸ List.mem_append_right sign member)
  rw [all_digits c member] at letter
  contradiction

theorem ofToken?_eq_some_iff :
    ofToken? token = some level ↔
      (level ≠ .none ∧ token = level.name.toList) ∨ Text.SignedNumeral token level.code := by
  rw [ofToken?, ← ofName?_eq_some_iff]
  cases named : ofName? token with
  | none => simp [← bind_ofCode?_eq_some_iff]
  | some other =>
      obtain ⟨_, rfl⟩ := ofName?_eq_some_iff.mp named
      simp [not_signedNumeral_name]

/-- A token asks for a level exactly if it is one of four words, each with its level, or a
numeral of one of five codes, each with its level.  Any run of digits behind an optional sign
is the numeral of one number, and if that number is none of the codes the token asks for
nothing, however long it is. -/
theorem ofToken?_by_word_or_code (token : List Char) :
    (∀ level, ofToken? token = some level ↔
      (token, level) ∈ [("read".toList, .read), ("write".toList, .write),
        ("readwrite".toList, .readWrite), ("subscribe".toList, .subscribe)] ∨
      ∃ code, Text.SignedNumeral token code ∧
        (code, level) ∈ [((0 : Int), Access.none), (1, .read), (2, .write), (3, .readWrite),
          (4, .subscribe)]) ∧
    (∀ sign digits, token = sign ++ digits → (sign = [] ∨ sign = ['+'] ∨ sign = ['-']) →
      digits ≠ [] → (∀ c ∈ digits, c.isDigit = true) →
      ∃! number, Text.SignedNumeral token number) ∧
    ∀ number, Text.SignedNumeral token number → ¬ (0 ≤ number ∧ number ≤ 4) →
      ofToken? token = .none := by
  refine ⟨?_, ?_, ?_⟩
  · intro level
    rw [ofToken?_eq_some_iff]
    cases level <;> simp [name, code]
  · intro sign digits token_eq sign_eq nonempty all_digits
    obtain ⟨number, numeral⟩ :=
      Text.exists_signedNumeral_iff.mpr ⟨sign, digits, token_eq, sign_eq, nonempty, all_digits⟩
    exact ⟨number, numeral, fun other written => written.unique numeral⟩
  · intro number numeral beyond
    rw [Option.eq_none_iff_forall_ne_some]
    intro level asked
    rcases ofToken?_eq_some_iff.mp asked with ⟨_, rfl⟩ | coded
    · exact not_signedNumeral_name level number numeral
    · obtain rfl := numeral.unique coded
      apply beyond
      cases level <;> simp [code]

/-- Numbers that differ from a code by a multiple of two to the thirty-second are no codes, and
a code may have a sign and zeros in front. -/
theorem ofToken?_of_long_numerals :
    ofToken? "4294967298".toList = .none ∧ ofToken? "-4294967292".toList = .none ∧
    ofToken? "+0004".toList = some .subscribe ∧
    ∃! number, Text.SignedNumeral "-00".toList number := by
  refine ⟨?_, ?_, ?_, ?_⟩
  · exact (ofToken?_by_word_or_code _).2.2 4294967298 (.unsigned 0 4294967298) (by decide)
  · exact (ofToken?_by_word_or_code _).2.2 (-4294967292) (.minus 0 4294967292) (by decide)
  · exact ((ofToken?_by_word_or_code _).1 .subscribe).mpr (.inr ⟨4, .plus 3 4, by decide⟩)
  · exact (ofToken?_by_word_or_code _).2.1 ['-'] ['0', '0'] rfl (by decide) (by decide) (by simp)

end TopicGuard.Access
