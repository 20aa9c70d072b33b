import TopicGuard.Bcrypt.Digest
import TopicGuard.Bcrypt.Radix64
import TopicGuard.Text.Numeral

/-!
# Stored password hashes

A stored hash names its format and its cost and gives the salt and the digest,
`$2b$10$` and then twenty-two and thirty-one characters.  Reading one is lenient
about the dollar signs, of which any number may stand at either end or between
the parts, and about how the cost is written; the four known formats are treated
alike.  A password is accepted if its digest for the stored cost and salt is the
stored one, and never if the stored text cannot be read.
-/

namespace TopicGuard.Bcrypt

open TopicGuard.Text (Bytes)

/-- The least cost of a digest. -/
def minCost : Nat := 4

/-- The greatest cost of a digest. -/
def maxCost : Nat := 31

/-- A stored hash that can be checked. -/
structure Stored where
  cost : Nat
  salt : Salt
  digest : Digest
  deriving DecidableEq

/-- A cost that no digest can have. -/
structure CostError where
  cost : UInt32
  deriving Repr, DecidableEq

/-- What is wrong with a cost, in words. -/
def CostError.message (error : CostError) : String :=
  "Cost needs to be between 4 and 31, got " ++ toString error.cost.toNat

/-- A string of bytes of a known length. -/
def sized? (size : Nat) (bytes : Bytes) : Option (Vector UInt8 size) :=
  if sized : bytes.length = size then some ⟨bytes.toArray, by simpa using sized⟩ else none

namespace Stored

/-- The formats that can be checked. -/
def formats : List (List Char) :=
  ["2a".toList, "2b".toList, "2x".toList, "2y".toList]

/-- The format of new hashes. -/
def currentFormat : List Char := "2b".toList

/-- How many characters a written salt has. -/
def saltLength : Nat := 22

/-- How many characters a written digest has. -/
def digestLength : Nat := 31

/-- The cost written in a stored hash. -/
def cost? (text : List Char) : Option Nat :=
  (Text.unsignedWord? text).bind fun cost =>
    if minCost ≤ cost.toNat ∧ cost.toNat ≤ maxCost then some cost.toNat else none

/-- Read a stored hash. -/
def read? (text : String) : Option Stored :=
  match (text.toList.splitOn '$').filter (fun part => !part.isEmpty) with
  | [format, cost, body] => do
      guard (formats.contains format)
      guard (body.length = saltLength + digestLength)
      let cost ← cost? cost
      let salt ← (Radix64.decode? (body.take saltLength)).bind (sized? 16)
      let digest ← (Radix64.decode? (body.drop saltLength)).bind (sized? 23)
      pure ⟨cost, salt, digest⟩
  | _ => none

/-- A cost in two digits. -/
def costText (cost : Nat) : List Char :=
  let digits := Text.numeral cost
  if digits.length < 2 then '0' :: digits else digits

/-- Write a hash. -/
def write (stored : Stored) : String :=
  String.ofList <|
    '$' :: (currentFormat ++ '$' :: (costText stored.cost ++ '$' ::
      (Radix64.encode stored.salt.toList ++ Radix64.encode stored.digest.toList)))

/-- Whether a hash is the hash of a password. -/
def accepts (stored : Stored) (password : String) : Bool :=
  Bcrypt.digest stored.cost stored.salt password == stored.digest

end Stored

/-- Whether a stored text is the hash of a password. -/
def verify (password text : String) : Bool :=
  (Stored.read? text).any (·.accepts password)

/-- A new hash of a password. -/
def hash (salt : Salt) (cost : UInt32) (password : String) : Except CostError String :=
  if minCost ≤ cost.toNat ∧ cost.toNat ≤ maxCost then
    .ok (Stored.write ⟨cost.toNat, salt, digest cost.toNat salt password⟩)
  else .error ⟨cost⟩

end TopicGuard.Bcrypt
