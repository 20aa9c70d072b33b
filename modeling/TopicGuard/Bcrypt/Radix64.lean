import TopicGuard.Text.Utf8

/-!
# Bytes as characters of six bits

Salts and digests are written with six bits to the character, three bytes to four
characters, and without padding.  The last character may have bits to spare; they
are zero, and a text in which they are not is refused, so that each string of
bytes has one written form.
-/

namespace TopicGuard.Bcrypt.Radix64

open TopicGuard.Text (Bytes)

/-- The sixty-four characters, in the order of their values. -/
def alphabet : List Char :=
  "./ABCDEFGHIJKLMNOPQRSTUVWXYZabcdefghijklmnopqrstuvwxyz0123456789".toList

/-- The character for six bits. -/
def char (value : Nat) : Char :=
  (alphabet[value]?).getD '.'

/-- The six bits of a character. -/
def value? (c : Char) : Option Nat :=
  alphabet.idxOf? c

/-- The characters of some bytes. -/
def encode : Bytes → List Char
  | [] => []
  | [a] => [char (a.toNat / 4), char (a.toNat % 4 * 16)]
  | [a, b] =>
      [char (a.toNat / 4), char (a.toNat % 4 * 16 + b.toNat / 16),
        char (b.toNat % 16 * 4)]
  | a :: b :: c :: rest =>
      char (a.toNat / 4) :: char (a.toNat % 4 * 16 + b.toNat / 16) ::
        char (b.toNat % 16 * 4 + c.toNat / 64) :: char (c.toNat % 64) :: encode rest

/-- The bytes of some six-bit values. -/
def decodeValues : List Nat → Option Bytes
  | [] => some []
  | [_] => none
  | [w, x] =>
      if x % 16 = 0 then some [(w * 4 + x / 16).toUInt8] else none
  | [w, x, y] =>
      if y % 4 = 0 then
        some [(w * 4 + x / 16).toUInt8, (x % 16 * 16 + y / 4).toUInt8]
      else none
  | w :: x :: y :: z :: rest =>
      (decodeValues rest).map fun bytes =>
        (w * 4 + x / 16).toUInt8 :: (x % 16 * 16 + y / 4).toUInt8 ::
          (y % 4 * 64 + z).toUInt8 :: bytes

/-- The bytes of some characters, if they are the written form of any. -/
def decode? (text : List Char) : Option Bytes :=
  (text.mapM value?).bind decodeValues

/-- The value of a character is found again from the character. -/
theorem value?_char {value : Nat} (small : value < 64) : value? (char value) = some value := by
  have all_small : ∀ v : Fin 64, value? (char v.val) = some v.val := by decide +kernel
  exact all_small ⟨value, small⟩

end TopicGuard.Bcrypt.Radix64
