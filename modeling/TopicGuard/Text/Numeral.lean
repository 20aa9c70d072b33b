/-!
# Numerals

Decimal numbers as they are read from options, from the command line and from
queries: a run of ASCII digits of any length, leading zeros included, behind an
optional sign.  For options and the command line the value is found exactly and
only then compared with the range it has to lie in.  The numerals of queries are read
into a signed word, one digit after the other, and reading stops as soon as the word
is too small for its digits.  Either way a long numeral never wraps around.
-/

namespace TopicGuard.Text

/-- The value of a decimal digit. -/
def digitValue (c : Char) : Nat :=
  c.toNat - '0'.toNat

/-- The value of a run of digits that follow the digits of `start`. -/
def digitsValue (start : Nat) (digits : List Char) : Nat :=
  digits.foldl (fun value c => 10 * value + digitValue c) start

/-- The number written by a non-empty run of digits. -/
def natural? (text : List Char) : Option Nat :=
  if !text.isEmpty && text.all Char.isDigit then some (digitsValue 0 text) else none

/-- The number written by digits behind an optional plus sign. -/
def unsigned? : List Char → Option Nat
  | '+' :: digits => natural? digits
  | digits => natural? digits

/-- The number written by digits behind an optional sign. -/
def signed? : List Char → Option Int
  | '-' :: digits => (natural? digits).map (fun value => -(value : Int))
  | '+' :: digits => (natural? digits).map Int.ofNat
  | digits => (natural? digits).map Int.ofNat

/-- A number as an unsigned word, if it fits. -/
def word? (value : Nat) : Option UInt32 :=
  if fits : value < UInt32.size then some (UInt32.ofNatLT value fits) else none

/-- The unsigned word written by digits behind an optional plus sign. -/
def unsignedWord? (text : List Char) : Option UInt32 :=
  (unsigned? text).bind word?

/-- The unsigned word written by digits behind an optional sign.  With a minus
sign only zero is one. -/
def signedWord? (text : List Char) : Option UInt32 :=
  match signed? text with
  | some (.ofNat value) => word? value
  | _ => none

/-- A number as a signed word, if it fits. -/
def int32? (value : Int) : Option Int32 :=
  if fits : Int32.minValue.toInt ≤ value ∧ value ≤ Int32.maxValue.toInt then
    some (Int32.ofIntLE value fits.1 fits.2)
  else none

/-- A signed word with one more digit, counted away from zero, as long as it fits. -/
def appendDigit? (isNegative : Bool) (word : Int32) (c : Char) : Option Int32 :=
  if c.isDigit then
    (int32? (10 * word.toInt)).bind fun tens =>
      int32? (if isNegative then tens.toInt - digitValue c else tens.toInt + digitValue c)
  else none

/-- The signed word written by a non-empty run of digits. -/
def wordOfDigits? (isNegative : Bool) (digits : List Char) : Option Int32 :=
  if digits.isEmpty then none else digits.foldlM (appendDigit? isNegative) 0

/-- The signed word written by digits behind an optional sign. -/
def wordOfNumeral? : List Char → Option Int32
  | '-' :: digits => wordOfDigits? true digits
  | '+' :: digits => wordOfDigits? false digits
  | digits => wordOfDigits? false digits

/-- A number is a word exactly if it is the value of one. -/
theorem word?_eq_some_iff {value : Nat} {word : UInt32} :
    word? value = some word ↔ word.toNat = value := by
  unfold word?
  constructor
  · intro found
    split at found
    · cases found
      simp
    · cases found
  · rintro rfl
    simp [UInt32.toNat_lt_size]

/-- A number is a signed word exactly if it is the value of one. -/
theorem int32?_eq_some_iff {value : Int} {word : Int32} :
    int32? value = some word ↔ word.toInt = value := by
  unfold int32?
  constructor
  · intro found
    split at found
    · cases found
      exact Int32.toInt_ofIntLE
    · cases found
  · rintro rfl
    rw [dif_pos ⟨word.minValue_le_toInt, word.toInt_le⟩, Int32.ofIntLE_toInt]

/-- The decimal digits of a number, without leading zeros. -/
def numeral (value : Nat) : List Char :=
  Nat.toDigits 10 value

end TopicGuard.Text
