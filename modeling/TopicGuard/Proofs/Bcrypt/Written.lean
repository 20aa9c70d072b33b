import TopicGuard.Bcrypt.Stored
import TopicGuard.Proofs.Bcrypt.Radix64
import TopicGuard.Proofs.Numerals

/-!
# Written password hashes

A hash that is written with a cost that a digest can have is read back as it was, whatever
its salt and its digest are.  Its text holds dollar signs, dots, slashes, letters and digits.
-/

namespace TopicGuard.Bcrypt

theorem sized?_toList {size : Nat} (bytes : Vector UInt8 size) :
    sized? size bytes.toList = some bytes := by
  rw [sized?, dif_pos bytes.length_toList]
  rfl

namespace Stored

variable {stored : Stored}

/-! ## The parts of a written hash -/

/-- The characters of the salt and of the digest. -/
def body (stored : Stored) : List Char :=
  Radix64.encode stored.salt.toList ++ Radix64.encode stored.digest.toList

theorem toList_write (stored : Stored) :
    (write stored).toList =
      '$' :: (currentFormat ++ '$' :: (costText stored.cost ++ '$' :: stored.body)) := by
  rw [write, String.toList_ofList, body]

theorem length_encode_salt (salt : Salt) : (Radix64.encode salt.toList).length = saltLength := by
  rw [Radix64.length_encode, salt.length_toList]
  rfl

theorem length_encode_digest (digest : Digest) :
    (Radix64.encode digest.toList).length = digestLength := by
  rw [Radix64.length_encode, digest.length_toList]
  rfl

theorem length_body (stored : Stored) : stored.body.length = saltLength + digestLength := by
  rw [body, List.length_append, length_encode_salt, length_encode_digest]

theorem mem_alphabet_of_mem_body {c : Char} (member : c ∈ stored.body) :
    c ∈ Radix64.alphabet := by
  rcases List.mem_append.mp member with of_salt | of_digest
  · exact Radix64.mem_alphabet_of_mem_encode of_salt
  · exact Radix64.mem_alphabet_of_mem_encode of_digest

/-! ## The cost -/

theorem costText_eq (cost : Nat) :
    costText cost = Text.paddedNumeral (2 - (Text.numeral cost).length) cost := by
  have nonempty : 0 < (Text.numeral cost).length := List.length_pos_iff.mpr Nat.toDigits_ne_nil
  simp only [costText, Text.paddedNumeral]
  split
  · have one_digit : (Text.numeral cost).length = 1 := by omega
    rw [one_digit]
    rfl
  · have digits : 2 - (Text.numeral cost).length = 0 := by omega
    rw [digits]
    rfl

theorem isDigit_of_mem_costText {cost : Nat} {c : Char} (member : c ∈ costText cost) :
    c.isDigit = true := by
  rw [costText_eq] at member
  exact Text.isDigit_of_mem_paddedNumeral member

theorem cost?_costText {cost : Nat} (least : minCost ≤ cost) (greatest : cost ≤ maxCost) :
    cost? (costText cost) = some cost := by
  have cost_lt : cost < UInt32.size := Nat.lt_of_le_of_lt greatest (by decide)
  have read := Text.unsignedWord?_paddedNumeral (2 - (Text.numeral cost).length) cost.toUInt32
  rw [Nat.toUInt32_eq, UInt32.toNat_ofNat_of_lt' cost_lt, ← costText_eq] at read
  rw [cost?, read, Option.bind_some, UInt32.toNat_ofNat_of_lt' cost_lt,
    if_pos ⟨least, greatest⟩]

/-! ## The text -/

theorem splitOn_write (stored : Stored) :
    (write stored).toList.splitOn '$' = [[], currentFormat, costText stored.cost, stored.body] := by
  have format_free : '$' ∉ currentFormat := by decide
  have cost_free : '$' ∉ costText stored.cost := by
    intro member
    have digit := isDigit_of_mem_costText member
    contradiction
  have body_free : '$' ∉ stored.body := by
    intro member
    have six_bits := mem_alphabet_of_mem_body member
    contradiction
  rw [toList_write, ← List.nil_append ('$' :: _),
    List.splitOn_append_cons_self_of_not_mem List.not_mem_nil,
    List.splitOn_append_cons_self_of_not_mem format_free,
    List.splitOn_append_cons_self_of_not_mem cost_free, List.splitOn_eq_singleton body_free]

/-- Of the pieces between dollar signs the first one is empty and the others are the parts. -/
theorem parts_write (stored : Stored) :
    ((write stored).toList.splitOn '$').filter (fun part => !part.isEmpty) =
      [currentFormat, costText stored.cost, stored.body] := by
  have format_visible : currentFormat ≠ [] := by decide
  have cost_visible : costText stored.cost ≠ [] := by
    rw [costText_eq]
    exact Text.paddedNumeral_ne_nil _ _
  have body_visible : stored.body ≠ [] := by
    apply List.ne_nil_of_length_pos
    rw [length_body]
    decide
  simp [splitOn_write, format_visible, cost_visible, body_visible]

theorem salt_of_body (stored : Stored) :
    (Radix64.decode? (stored.body.take saltLength)).bind (sized? 16) = some stored.salt := by
  rw [body, List.take_left' (length_encode_salt stored.salt), Radix64.decode?_encode]
  exact sized?_toList stored.salt

theorem digest_of_body (stored : Stored) :
    (Radix64.decode? (stored.body.drop saltLength)).bind (sized? 23) = some stored.digest := by
  rw [body, List.drop_left' (length_encode_salt stored.salt), Radix64.decode?_encode]
  exact sized?_toList stored.digest

theorem read?_of_parts {text : String} {format cost body : List Char}
    (parts : (text.toList.splitOn '$').filter (fun part => !part.isEmpty) = [format, cost, body]) :
    read? text = (do
      guard (formats.contains format)
      guard (body.length = saltLength + digestLength)
      let cost ← cost? cost
      let salt ← (Radix64.decode? (body.take saltLength)).bind (sized? 16)
      let digest ← (Radix64.decode? (body.drop saltLength)).bind (sized? 23)
      pure ⟨cost, salt, digest⟩) := by
  rw [read?, parts]

/-- A hash is read back from its text. -/
theorem read?_write (least : minCost ≤ stored.cost) (greatest : stored.cost ≤ maxCost) :
    read? (write stored) = some stored := by
  have known : formats.contains currentFormat = true := by decide
  have passes : ∀ {p : Prop} [Decidable p], p → (guard p : Option Unit) = some () :=
    fun holds => if_pos holds
  rw [read?_of_parts stored.parts_write, passes known, passes stored.length_body,
    cost?_costText least greatest, stored.salt_of_body, stored.digest_of_body]
  rfl

theorem isAlphanum_of_mem_alphabet {c : Char} (member : c ∈ Radix64.alphabet) :
    c = '.' ∨ c = '/' ∨ c.isAlphanum = true := by
  -- The test is run over the list, since a quantifier over characters is decided by trying all.
  have all_plain :
      Radix64.alphabet.all (fun c => c == '.' || c == '/' || c.isAlphanum) = true := by
    decide
  simpa [or_assoc] using List.all_eq_true.mp all_plain c member

/-- The text of a hash holds dollar signs, dots, slashes, letters and digits. -/
theorem isAlphanum_of_mem_write {c : Char} (member : c ∈ (write stored).toList) :
    c = '$' ∨ c = '.' ∨ c = '/' ∨ c.isAlphanum = true := by
  simp only [toList_write, List.mem_cons, List.mem_append] at member
  rcases member with dollar | format | dollar | cost | dollar | body
  · exact .inl dollar
  · have format_eq : currentFormat = ['2', 'b'] := rfl
    rw [format_eq, List.mem_cons, List.mem_singleton] at format
    rcases format with rfl | rfl <;> decide
  · exact .inl dollar
  · have digit := isDigit_of_mem_costText cost
    simp [Char.isAlphanum, digit]
  · exact .inl dollar
  · exact .inr (isAlphanum_of_mem_alphabet (mem_alphabet_of_mem_body body))

end Stored

end TopicGuard.Bcrypt
