import TopicGuard.Bcrypt.PiWords

/-!
# The block cipher of password hashes

The cipher works on blocks of two words with a schedule of eighteen round keys
followed by four boxes of 256 words each, kept in one row.  A key is brought into
a schedule by mixing its words into the round keys and then replacing the whole
row, two words at a time, by the encryption of the block before, starting from
zero.  With a salt, the words of the salt are mixed into each block first.
-/

namespace TopicGuard.Bcrypt

/-- The round keys and boxes of the cipher. -/
abbrev Schedule := Vector UInt32 piWordCount

/-- A key, repeated or cut to one word for each round key. -/
abbrev Key := Vector UInt32 18

/-- A salt of four words. -/
abbrev SaltWords := Vector UInt32 4

namespace Schedule

/-- The schedule before any key. -/
def initial : Schedule := piWords

/-- The entry of one box for a byte. -/
@[inline]
def box (schedule : Schedule) (index : Fin 4) (byte : UInt8) : UInt32 :=
  schedule.get ⟨18 + 256 * index.val + byte.toNat, by
    have := byte.toNat_lt
    have := index.isLt
    simp only [piWordCount]
    omega⟩

/-- The round function, one byte for each box. -/
@[inline]
def mix (schedule : Schedule) (word : UInt32) : UInt32 :=
  ((schedule.box 0 (word >>> 24).toUInt8 + schedule.box 1 (word >>> 16).toUInt8)
    ^^^ schedule.box 2 (word >>> 8).toUInt8) + schedule.box 3 word.toUInt8

/-- The rounds from some round on, followed by the last two round keys. -/
def rounds (schedule : Schedule) (round : Nat) (left right : UInt32) : UInt32 × UInt32 :=
  if more : round < 16 then
    let key := schedule.get ⟨round, by simp only [piWordCount]; omega⟩
    let mixed := left ^^^ key
    schedule.rounds (round + 1) (right ^^^ schedule.mix mixed) mixed
  else
    (right ^^^ schedule.get ⟨17, by decide⟩, left ^^^ schedule.get ⟨16, by decide⟩)
termination_by 16 - round

/-- Encrypt a block. -/
def encrypt (schedule : Schedule) (left right : UInt32) : UInt32 × UInt32 :=
  schedule.rounds 0 left right

/-- Mix a key into the round keys. -/
def mixKey (schedule : Schedule) (key : Key) : Schedule :=
  Nat.fold 18 (fun i bound mixed =>
    have row_bound : i < piWordCount := by simp only [piWordCount]; omega
    mixed.set i (mixed.get ⟨i, row_bound⟩ ^^^ key.get ⟨i, bound⟩) row_bound) schedule

/-- Replace the words of a schedule from the block with some number on, when
`left` and `right` are the block before. -/
def replaceFrom (salt : SaltWords) (block : Nat) (left right : UInt32)
    (schedule : Schedule) : Schedule :=
  if more : block < 521 then
    have left_bound : 2 * block < piWordCount := by simp only [piWordCount]; omega
    have right_bound : 2 * block + 1 < piWordCount := by simp only [piWordCount]; omega
    let next := schedule.encrypt
      (left ^^^ salt.get (Fin.ofNat 4 (2 * block)))
      (right ^^^ salt.get (Fin.ofNat 4 (2 * block + 1)))
    replaceFrom salt (block + 1) next.1 next.2
      ((schedule.set (2 * block) next.1 left_bound).set (2 * block + 1) next.2 right_bound)
  else schedule
termination_by 521 - block

/-- Bring a key into a schedule, with a salt. -/
def expand (schedule : Schedule) (salt : SaltWords) (key : Key) : Schedule :=
  replaceFrom salt 0 0 0 (schedule.mixKey key)

end Schedule

/-- The salt that changes nothing. -/
def noSalt : SaltWords :=
  Vector.replicate 4 0

end TopicGuard.Bcrypt
