/-!
# UTF-8

Bytes are read as text one byte at a time.  The reader stands either between two
characters or inside one; inside, it knows the bits seen so far, how many bytes
they came from, how many bytes are still owed and the range the next byte has to
lie in.  The range after the first byte is what rules out overlong forms,
surrogates and values above the last code point.

A reading that fails says how many bytes were well formed and how many bytes the
ill-formed sequence after them has; a sequence that is merely cut short by the
end of the bytes has no such length.
-/

namespace TopicGuard.Text

/-- A string of bytes. -/
abbrev Bytes := List UInt8

namespace Utf8

/-- A character of which some bytes have been read. -/
structure Pending where
  /-- The bits of the bytes read. -/
  value : Nat
  /-- How many bytes have been read. -/
  taken : Nat
  /-- How many bytes are still to come. -/
  owed : Nat
  /-- The least byte that may come next. -/
  low : UInt8
  /-- The greatest byte that may come next. -/
  high : UInt8
  deriving Repr, DecidableEq

/-- The character that a byte starts, if any character starts with it. -/
def start? (b : UInt8) : Option Pending :=
  if b < 0x80 then some ⟨b.toNat, 1, 0, 0x80, 0xBF⟩
  else if b < 0xC2 then none
  else if b < 0xE0 then some ⟨b.toNat % 0x20, 1, 1, 0x80, 0xBF⟩
  else if b = 0xE0 then some ⟨0, 1, 2, 0xA0, 0xBF⟩
  else if b = 0xED then some ⟨0xD, 1, 2, 0x80, 0x9F⟩
  else if b < 0xF0 then some ⟨b.toNat % 0x10, 1, 2, 0x80, 0xBF⟩
  else if b = 0xF0 then some ⟨0, 1, 3, 0x90, 0xBF⟩
  else if b < 0xF4 then some ⟨b.toNat % 0x08, 1, 3, 0x80, 0xBF⟩
  else if b = 0xF4 then some ⟨4, 1, 3, 0x80, 0x8F⟩
  else none

/-- The character with one more byte, if that byte may come next. -/
def Pending.push? (pending : Pending) (b : UInt8) : Option Pending :=
  if pending.low ≤ b ∧ b ≤ pending.high then
    some ⟨pending.value * 0x40 + b.toNat % 0x40, pending.taken + 1, pending.owed - 1,
      0x80, 0xBF⟩
  else none

/-- Why bytes are not UTF-8. -/
structure Fault where
  /-- How many bytes are well formed. -/
  validUpTo : Nat
  /-- The length of the ill-formed sequence, if it is not just cut short. -/
  length : Option Nat
  deriving Repr, DecidableEq

/-- What is wrong, in words. -/
def Fault.message (fault : Fault) : String :=
  match fault.length with
  | some length =>
      "invalid utf-8 sequence of " ++ toString length ++ " bytes from index "
        ++ toString fault.validUpTo
  | none => "incomplete utf-8 byte sequence from index " ++ toString fault.validUpTo

/-- Read the rest of some bytes.  The characters read so far are `done`, the last
one first, and they took `position` bytes; a character may be pending after them. -/
def decodeFrom (position : Nat) (done : List Char) :
    Option Pending → Bytes → Except Fault (List Char)
  | none, [] => .ok done.reverse
  | some _, [] => .error ⟨position, none⟩
  | pending?, b :: rest =>
      let next? := match pending? with
        | none => start? b
        | some pending => pending.push? b
      match next? with
      | none => .error ⟨position, some (pending?.elim 1 Pending.taken)⟩
      | some next =>
          if next.owed = 0 then
            decodeFrom (position + next.taken) (Char.ofNat next.value :: done) none rest
          else decodeFrom position done (some next) rest

/-- The characters of some bytes. -/
def decode (bytes : Bytes) : Except Fault (List Char) :=
  decodeFrom 0 [] none bytes

/-- The text of some bytes, if they are UTF-8. -/
def decode? (bytes : Bytes) : Option (List Char) :=
  (decode bytes).toOption

/-- The bytes of a text. -/
def encode (text : List Char) : Bytes :=
  text.flatMap String.utf8EncodeChar

@[simp]
theorem encode_nil : encode [] = [] :=
  rfl

@[simp]
theorem encode_append (first second : List Char) :
    encode (first ++ second) = encode first ++ encode second := by
  simp [encode]

end Utf8

end TopicGuard.Text
