import TopicGuard.Bcrypt.Blowfish
import TopicGuard.Text.Utf8

/-!
# Password digests

The digest of a password starts from a schedule into which the password is
brought with the salt.  The password and the salt are then brought in by turns,
`2 ^ cost` times, and a fixed text is encrypted sixty-four times with the result.
The key is made of the bytes of the password and a zero byte, at most seventy-two
of them; of the encrypted text the last byte is left out.
-/

namespace TopicGuard.Bcrypt

open TopicGuard.Text (Bytes)

/-- The random bytes that make the digests of equal passwords differ. -/
abbrev Salt := Vector UInt8 16

/-- What is kept of a password. -/
abbrev Digest := Vector UInt8 23

/-- The word of four bytes, the first byte highest. -/
def wordOfBytes (a b c d : UInt8) : UInt32 :=
  a.toUInt32 <<< 24 ||| b.toUInt32 <<< 16 ||| c.toUInt32 <<< 8 ||| d.toUInt32

/-- The bytes of a key, at most as many as the cipher uses. -/
def keyBytes (password : String) : Bytes :=
  (Text.Utf8.encode password.toList ++ [0]).take 72

/-- The words of a key: its bytes, over and over. -/
def keyOfBytes (bytes : Array UInt8) : Key :=
  let byte := fun i : Nat => bytes[i % bytes.size]?.getD 0
  Vector.ofFn fun i =>
    wordOfBytes (byte (4 * i.val)) (byte (4 * i.val + 1)) (byte (4 * i.val + 2))
      (byte (4 * i.val + 3))

/-- The words of a salt. -/
def saltWords (salt : Salt) : SaltWords :=
  Vector.ofFn fun i =>
    have := i.isLt
    wordOfBytes salt[4 * i.val] salt[4 * i.val + 1] salt[4 * i.val + 2] salt[4 * i.val + 3]

/-- Bring two keys into a schedule by turns, `2 ^ cost` times. -/
def alternate (password salt : Key) : Nat → Schedule → Schedule
  | 0, schedule => schedule
  | count + 1, schedule =>
      alternate password salt count ((schedule.expand noSalt password).expand noSalt salt)

/-- The schedule of a password. -/
def schedule (cost : Nat) (salt : Salt) (key : Bytes) : Schedule :=
  let password := keyOfBytes key.toArray
  alternate password (keyOfBytes salt.toArray) (1 <<< cost)
    (Schedule.initial.expand (saltWords salt) password)

/-- Encrypt a block over and over. -/
def encryptTimes (schedule : Schedule) : Nat → UInt32 × UInt32 → UInt32 × UInt32
  | 0, block => block
  | count + 1, (left, right) => encryptTimes schedule count (schedule.encrypt left right)

/-- The text that is encrypted, in blocks of two words. -/
def plainBlocks : List (UInt32 × UInt32) :=
  [(0x4F727068, 0x65616E42), (0x65686F6C, 0x64657253), (0x63727944, 0x6F756274)]

/-- The bytes of a word, the highest first. -/
def bytesOfWord (word : UInt32) : Bytes :=
  [(word >>> 24).toUInt8, (word >>> 16).toUInt8, (word >>> 8).toUInt8, word.toUInt8]

/-- The digest of a password for some cost and salt. -/
def digest (cost : Nat) (salt : Salt) (password : String) : Digest :=
  let state := schedule cost salt (keyBytes password)
  let blocks := plainBlocks.map (encryptTimes state 64)
  let bytes := (blocks.flatMap fun block =>
    bytesOfWord block.1 ++ bytesOfWord block.2).toArray
  Vector.ofFn fun i => bytes[i.val]?.getD 0

end TopicGuard.Bcrypt
