/-!
# The binary digits of π

The cipher behind password hashes starts from the first 33344 binary digits of
π after the point, taken as 1042 words.  They are found in whole numbers, scaled
by a power of two with sixty-four bits to spare, from Machin's formula
`π = 16 arctan (1/5) - 4 arctan (1/239)`.  Every term of the two series is
rounded down, and there are far fewer than `2 ^ 40` of them, so the rounding
stays within the spare bits.
-/

namespace TopicGuard.Bcrypt

/-- How many words of digits are needed. -/
def piWordCount : Nat := 1042

/-- How many bits more than those words are carried along. -/
def spareBits : Nat := 64

/-- The scale that stands for one. -/
def unit : Nat :=
  1 <<< (32 * piWordCount + spareBits)

/-- The next `count` terms of a series for the arctangent of an inverse, as the
sum of the terms that are added and the sum of those that are taken away.  The
next term is `power / odd`, and each power is the one before divided by
`square`. -/
def arctanTerms (square : Nat) : Nat → Nat → Nat → Nat × Nat → Nat × Nat
  | 0, _, _, sums => sums
  | count + 1, power, odd, (added, taken) =>
      arctanTerms square count (power / square) (odd + 2) (taken, added + power / odd)

/-- The scaled arctangent of `1 / n`, from an even number of terms. -/
def arctanInverse (n pairs : Nat) : Nat :=
  let sums := arctanTerms (n * n) (2 * pairs) (unit / n) 1 (0, 0)
  sums.1 - sums.2

/-- The scaled fraction of π. -/
def piFraction : Nat :=
  16 * arctanInverse 5 3600 - 4 * arctanInverse 239 1100 - 3 * unit

/-- The words of the digits of π after the point. -/
def piWords : Vector UInt32 piWordCount :=
  let digits := piFraction >>> spareBits
  Vector.ofFn fun i => (digits >>> (32 * (piWordCount - 1 - i.val))).toUInt32

end TopicGuard.Bcrypt
