import Mathlib.Data.List.Induction
import TopicGuard.Text.Numeral

/-!
# Reading numerals back

A number is read back from its decimal digits, with any number of zeros in front of them,
and a number that fits a word is read back as that word.  Nothing else is read: every run
of digits is the numeral of its value behind some zeros.  A signed word is read digit by
digit, and no digit takes a number that fits out of its range only to bring it back, so
reading fails exactly if the whole number does not fit.
-/

namespace TopicGuard.Text

/-- A numeral with zeros in front. -/
def paddedNumeral (zeros value : Nat) : List Char :=
  List.replicate zeros '0' ++ numeral value

variable {text : List Char} {value : Nat}

theorem natural?_eq_some_iff :
    natural? text = some value ↔
      text ≠ [] ∧ (∀ c ∈ text, c.isDigit = true) ∧ digitsValue 0 text = value := by
  rw [natural?, Option.ite_none_right_eq_some, Option.some.injEq]
  simp [and_assoc]

theorem paddedNumeral_ne_nil (zeros value : Nat) : paddedNumeral zeros value ≠ [] :=
  List.append_ne_nil_of_right_ne_nil _ Nat.toDigits_ne_nil

theorem isDigit_of_mem_paddedNumeral {zeros : Nat} {c : Char}
    (member : c ∈ paddedNumeral zeros value) : c.isDigit = true := by
  rcases List.mem_append.mp member with zero | digit
  · rw [List.eq_of_mem_replicate zero]
    rfl
  · exact Nat.isDigit_of_mem_toDigits (by decide) (by decide) digit

/-- Zeros in front of digits do not change their value. -/
theorem digitsValue_replicate_zero_append (zeros : Nat) (digits : List Char) :
    digitsValue 0 (List.replicate zeros '0' ++ digits) = digitsValue 0 digits := by
  induction zeros with
  | zero => rfl
  | succ zeros ih => exact ih

theorem natural?_paddedNumeral (zeros value : Nat) :
    natural? (paddedNumeral zeros value) = some value := by
  apply natural?_eq_some_iff.mpr
  constructor
  · exact paddedNumeral_ne_nil zeros value
  constructor
  · intro c
    exact isDigit_of_mem_paddedNumeral
  · rw [paddedNumeral, digitsValue_replicate_zero_append]
    exact Nat.ofDigitChars_ten_toDigits

/-! ## Runs of digits as numerals -/

/-- A digit is the numeral of its value. -/
theorem numeral_digitValue {c : Char} (digit : c.isDigit = true) :
    digitValue c < 10 ∧ numeral (digitValue c) = [c] := by
  have bounds : 48 ≤ c.toNat ∧ c.toNat ≤ 57 := Char.isDigit_iff_toNat.mp digit
  have below : digitValue c < 10 := by
    change c.toNat - 48 < 10
    omega
  refine ⟨below, ?_⟩
  rw [numeral, Nat.toDigits_of_lt_base below, List.cons.injEq, ← Char.toNat_inj,
    Nat.toNat_digitChar_of_lt_ten below]
  refine ⟨?_, rfl⟩
  change 48 + (c.toNat - 48) = c.toNat
  omega

/-- One more digit makes a numeral of a numeral; behind zero it leaves the zero in front. -/
theorem exists_paddedNumeral_append_digit (zeros value : Nat) {c : Char}
    (digit : c.isDigit = true) :
    ∃ more, paddedNumeral zeros value ++ [c] =
      paddedNumeral more (10 * value + digitValue c) := by
  obtain ⟨below, digit_eq⟩ := numeral_digitValue digit
  rcases Nat.eq_zero_or_pos value with rfl | positive
  · refine ⟨zeros + 1, ?_⟩
    rw [Nat.mul_zero, Nat.zero_add, paddedNumeral, paddedNumeral, digit_eq,
      List.replicate_succ']
    rfl
  · refine ⟨zeros, ?_⟩
    rw [paddedNumeral, paddedNumeral, List.append_assoc, ← digit_eq, numeral, numeral, numeral,
      Nat.toDigits_append_toDigits (by decide) positive below]

/-- Every run of digits is the numeral of its value behind some zeros. -/
theorem exists_eq_paddedNumeral {digits : List Char} (nonempty : digits ≠ [])
    (all_digits : ∀ c ∈ digits, c.isDigit = true) :
    ∃ zeros, digits = paddedNumeral zeros (digitsValue 0 digits) := by
  induction digits using List.reverseRecOn with
  | nil => contradiction
  | append_singleton front last ih =>
      have last_digit : last.isDigit = true := all_digits last (by simp)
      have value_eq : digitsValue 0 (front ++ [last]) =
          10 * digitsValue 0 front + digitValue last := by
        simp [digitsValue]
      by_cases only : front = []
      · subst only
        have only_value : digitsValue 0 [last] = digitValue last := by simp [digitsValue]
        refine ⟨0, ?_⟩
        rw [List.nil_append, only_value]
        exact (numeral_digitValue last_digit).2.symm
      · obtain ⟨zeros, front_eq⟩ :=
          ih only fun c member => all_digits c (List.mem_append_left _ member)
        obtain ⟨more, appended⟩ :=
          exists_paddedNumeral_append_digit zeros (digitsValue 0 front) last_digit
        refine ⟨more, ?_⟩
        rw [value_eq, ← appended, ← front_eq]

/-- A number is written by its numerals and by nothing else. -/
theorem natural?_eq_some_iff_paddedNumeral :
    natural? text = some value ↔ ∃ zeros, text = paddedNumeral zeros value := by
  constructor
  · intro read
    obtain ⟨nonempty, all_digits, rfl⟩ := natural?_eq_some_iff.mp read
    exact exists_eq_paddedNumeral nonempty all_digits
  · rintro ⟨zeros, rfl⟩
    exact natural?_paddedNumeral zeros value

/-! ## Words -/

/-- Digits without a sign are read as they are where a plus sign may stand. -/
theorem unsigned?_of_natural? (read : natural? text = some value) :
    unsigned? text = some value := by
  rw [unsigned?.eq_def]
  split
  · have digits := (natural?_eq_some_iff.mp read).2.1
    have plus_digit := digits '+' List.mem_cons_self
    contradiction
  · exact read

/-- A plus sign may stand in front of a numeral, but only one. -/
theorem unsigned?_eq_some_iff :
    unsigned? text = some value ↔
      ∃ zeros, text = paddedNumeral zeros value ∨ text = '+' :: paddedNumeral zeros value := by
  constructor
  · intro read
    rw [unsigned?.eq_def] at read
    split at read
    · obtain ⟨zeros, rfl⟩ := natural?_eq_some_iff_paddedNumeral.mp read
      exact ⟨zeros, .inr rfl⟩
    · obtain ⟨zeros, rfl⟩ := natural?_eq_some_iff_paddedNumeral.mp read
      exact ⟨zeros, .inl rfl⟩
  · rintro ⟨zeros, rfl | rfl⟩
    · exact unsigned?_of_natural? (natural?_paddedNumeral zeros value)
    · exact natural?_paddedNumeral zeros value

/-- A word is written by its numerals, with or without a plus sign, and by nothing else. -/
theorem unsignedWord?_eq_some_iff {word : UInt32} :
    unsignedWord? text = some word ↔
      ∃ zeros, text = paddedNumeral zeros word.toNat ∨
        text = '+' :: paddedNumeral zeros word.toNat := by
  rw [← unsigned?_eq_some_iff, unsignedWord?, Option.bind_eq_some_iff]
  simp only [word?_eq_some_iff]
  exact exists_eq_right'

/-- A word is read back from its digits. -/
theorem unsignedWord?_paddedNumeral (zeros : Nat) (word : UInt32) :
    unsignedWord? (paddedNumeral zeros word.toNat) = some word :=
  unsignedWord?_eq_some_iff.mpr ⟨zeros, .inl rfl⟩

/-! ## Signed words -/

/-- A numeral behind an optional sign, with the number that it writes. -/
inductive SignedNumeral : List Char → Int → Prop
  | unsigned (zeros value : Nat) : SignedNumeral (paddedNumeral zeros value) value
  | plus (zeros value : Nat) : SignedNumeral ('+' :: paddedNumeral zeros value) value
  | minus (zeros value : Nat) : SignedNumeral ('-' :: paddedNumeral zeros value) (-value)

/-- A number with a sign. -/
def signedBy (isNegative : Bool) (value : Nat) : Int :=
  if isNegative then -value else value

@[simp]
theorem signedBy_true (value : Nat) : signedBy true value = -value :=
  rfl

@[simp]
theorem signedBy_false (value : Nat) : signedBy false value = value :=
  rfl

/-- Numbers that are not farther from zero than a word are words. -/
theorem exists_int32_of_le {isNegative : Bool} {smaller value : Nat} (bound : smaller ≤ value)
    {word : Int32} (word_eq : word.toInt = signedBy isNegative value) :
    ∃ other : Int32, other.toInt = signedBy isNegative smaller := by
  have low := word.le_toInt
  have high := word.toInt_lt
  have fits : -2 ^ 31 ≤ signedBy isNegative smaller ∧ signedBy isNegative smaller < 2 ^ 31 := by
    cases isNegative with
    | false =>
        rw [signedBy_false] at word_eq ⊢
        omega
    | true =>
        rw [signedBy_true] at word_eq ⊢
        omega
  exact ⟨.ofInt (signedBy isNegative smaller), Int32.toInt_ofInt_of_le fits.1 fits.2⟩

/-- A word takes in one more digit exactly if it can hold the number with that digit. -/
theorem appendDigit?_eq_some_iff {isNegative : Bool} {start : Nat} {word next : Int32} {c : Char}
    (word_eq : word.toInt = signedBy isNegative start) :
    appendDigit? isNegative word c = some next ↔
      c.isDigit = true ∧ next.toInt = signedBy isNegative (10 * start + digitValue c) := by
  have tens_eq : 10 * word.toInt = signedBy isNegative (10 * start) := by
    rw [word_eq]
    cases isNegative with
    | false => rfl
    | true =>
        rw [signedBy_true, signedBy_true]
        omega
  have sum_eq : (if isNegative then signedBy isNegative (10 * start) - digitValue c
      else signedBy isNegative (10 * start) + digitValue c) =
        signedBy isNegative (10 * start + digitValue c) := by
    cases isNegative with
    | false => simp
    | true =>
        simp only [if_true, signedBy_true]
        omega
  rw [appendDigit?, Option.ite_none_right_eq_some]
  refine and_congr_right fun _ => ?_
  simp only [Option.bind_eq_some_iff, int32?_eq_some_iff, tens_eq]
  constructor
  · rintro ⟨tens, tens_toInt, next_eq⟩
    rw [next_eq, tens_toInt, sum_eq]
  · intro next_eq
    obtain ⟨tens, tens_toInt⟩ := exists_int32_of_le (Nat.le_add_right _ _) next_eq
    refine ⟨tens, tens_toInt, ?_⟩
    rw [next_eq, tens_toInt, sum_eq]

/-- More digits never make a number smaller. -/
theorem le_digitsValue (start : Nat) (digits : List Char) : start ≤ digitsValue start digits := by
  induction digits generalizing start with
  | nil => exact Nat.le_refl start
  | cons c rest ih =>
      calc
        start ≤ 10 * start + digitValue c := by omega
        _ ≤ digitsValue start (c :: rest) := ih (10 * start + digitValue c)

/-- Digits are taken into a word one by one exactly if it can hold the number in the end. -/
theorem foldlM_appendDigit?_eq_some_iff {isNegative : Bool} {start : Nat} {word last : Int32}
    (word_eq : word.toInt = signedBy isNegative start) (digits : List Char) :
    digits.foldlM (appendDigit? isNegative) word = some last ↔
      (∀ c ∈ digits, c.isDigit = true) ∧
        last.toInt = signedBy isNegative (digitsValue start digits) := by
  induction digits generalizing start word with
  | nil =>
      simp only [List.foldlM_nil, List.not_mem_nil, false_implies, implies_true, true_and]
      change some word = some last ↔ last.toInt = signedBy isNegative start
      rw [← word_eq, Int32.toInt_inj, Option.some.injEq, eq_comm]
  | cons c rest ih =>
      rw [List.foldlM_cons, List.forall_mem_cons, and_assoc]
      change (appendDigit? isNegative word c).bind _ = some last ↔ _
      rw [Option.bind_eq_some_iff]
      constructor
      · rintro ⟨next, appended, read⟩
        obtain ⟨digit, next_eq⟩ := (appendDigit?_eq_some_iff word_eq).mp appended
        exact ⟨digit, (ih next_eq).mp read⟩
      · rintro ⟨digit, digits, last_eq⟩
        obtain ⟨next, next_eq⟩ := exists_int32_of_le (le_digitsValue _ rest) last_eq
        exact ⟨next, (appendDigit?_eq_some_iff word_eq).mpr ⟨digit, next_eq⟩,
          (ih next_eq).mpr ⟨digits, last_eq⟩⟩

theorem wordOfDigits?_eq_some_iff {isNegative : Bool} {digits : List Char} {word : Int32} :
    wordOfDigits? isNegative digits = some word ↔
      ∃ zeros value, digits = paddedNumeral zeros value ∧
        word.toInt = signedBy isNegative value := by
  have zero_eq : (0 : Int32).toInt = signedBy isNegative 0 := by cases isNegative <;> rfl
  rw [wordOfDigits?, Option.ite_none_left_eq_some, foldlM_appendDigit?_eq_some_iff zero_eq,
    List.isEmpty_iff]
  constructor
  · rintro ⟨nonempty, all_digits, word_eq⟩
    obtain ⟨zeros, digits_eq⟩ := exists_eq_paddedNumeral nonempty all_digits
    exact ⟨zeros, _, digits_eq, word_eq⟩
  · rintro ⟨zeros, value, rfl, word_eq⟩
    obtain ⟨nonempty, all_digits, value_eq⟩ :=
      natural?_eq_some_iff.mp (natural?_paddedNumeral zeros value)
    exact ⟨nonempty, all_digits, by rw [value_eq, word_eq]⟩

/-- A signed word is written by the numerals of its value and by nothing else. -/
theorem wordOfNumeral?_eq_some_iff {word : Int32} :
    wordOfNumeral? text = some word ↔ SignedNumeral text word.toInt := by
  constructor
  · intro read
    rw [wordOfNumeral?.eq_def] at read
    split at read
    · obtain ⟨zeros, value, rfl, word_eq⟩ := wordOfDigits?_eq_some_iff.mp read
      rw [word_eq]
      exact .minus zeros value
    · obtain ⟨zeros, value, rfl, word_eq⟩ := wordOfDigits?_eq_some_iff.mp read
      rw [word_eq]
      exact .plus zeros value
    · obtain ⟨zeros, value, rfl, word_eq⟩ := wordOfDigits?_eq_some_iff.mp read
      rw [word_eq]
      exact .unsigned zeros value
  · generalize toInt_eq : word.toInt = number
    rintro (⟨zeros, value⟩ | ⟨zeros, value⟩ | ⟨zeros, value⟩)
    · have read : wordOfDigits? false (paddedNumeral zeros value) = some word :=
        wordOfDigits?_eq_some_iff.mpr ⟨zeros, value, rfl, toInt_eq⟩
      rw [wordOfNumeral?.eq_def]
      split
      · rename_i digits text_eq
        have minus_digit : '-'.isDigit = true :=
          isDigit_of_mem_paddedNumeral (text_eq ▸ List.mem_cons_self)
        contradiction
      · rename_i digits text_eq
        have plus_digit : '+'.isDigit = true :=
          isDigit_of_mem_paddedNumeral (text_eq ▸ List.mem_cons_self)
        contradiction
      · exact read
    · exact wordOfDigits?_eq_some_iff.mpr ⟨zeros, value, rfl, toInt_eq⟩
    · exact wordOfDigits?_eq_some_iff.mpr ⟨zeros, value, rfl, toInt_eq⟩

/-- A numeral writes one number. -/
theorem SignedNumeral.unique {first second : Int} (written : SignedNumeral text first)
    (other : SignedNumeral text second) : first = second := by
  have read : ∀ {number : Int}, SignedNumeral text number → signed? text = some number := by
    rintro number (⟨zeros, value⟩ | ⟨zeros, value⟩ | ⟨zeros, value⟩)
    · have digits := natural?_paddedNumeral zeros value
      rw [signed?.eq_def]
      split
      · rename_i text_eq
        have minus_digit : '-'.isDigit = true :=
          isDigit_of_mem_paddedNumeral (text_eq ▸ List.mem_cons_self)
        contradiction
      · rename_i text_eq
        have plus_digit : '+'.isDigit = true :=
          isDigit_of_mem_paddedNumeral (text_eq ▸ List.mem_cons_self)
        contradiction
      · rw [digits]
        rfl
    · rw [signed?, natural?_paddedNumeral]
      rfl
    · rw [signed?, natural?_paddedNumeral]
      rfl
  exact Option.some.inj ((read written).symm.trans (read other))

/-- The signed numerals are the non-empty runs of digits behind an optional sign. -/
theorem exists_signedNumeral_iff :
    (∃ number, SignedNumeral text number) ↔
      ∃ sign digits, text = sign ++ digits ∧ (sign = [] ∨ sign = ['+'] ∨ sign = ['-']) ∧
        digits ≠ [] ∧ ∀ c ∈ digits, c.isDigit = true := by
  constructor
  · rintro ⟨number, ⟨zeros, value⟩ | ⟨zeros, value⟩ | ⟨zeros, value⟩⟩
    · exact ⟨[], _, rfl, .inl rfl, paddedNumeral_ne_nil zeros value,
        fun _ => isDigit_of_mem_paddedNumeral⟩
    · exact ⟨['+'], _, rfl, .inr (.inl rfl), paddedNumeral_ne_nil zeros value,
        fun _ => isDigit_of_mem_paddedNumeral⟩
    · exact ⟨['-'], _, rfl, .inr (.inr rfl), paddedNumeral_ne_nil zeros value,
        fun _ => isDigit_of_mem_paddedNumeral⟩
  · rintro ⟨sign, digits, rfl, sign_eq, nonempty, all_digits⟩
    obtain ⟨zeros, digits_eq⟩ := exists_eq_paddedNumeral nonempty all_digits
    rw [digits_eq]
    rcases sign_eq with rfl | rfl | rfl
    · exact ⟨_, .unsigned zeros _⟩
    · exact ⟨_, .plus zeros _⟩
    · exact ⟨_, .minus zeros _⟩

end TopicGuard.Text
