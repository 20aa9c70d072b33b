import TopicGuard.Bcrypt.Radix64

/-!
# Reading bytes back from characters of six bits

Bytes are written by way of six-bit values, one to the character.  They are read back from
their characters, whether or not the last one has bits to spare.
-/

namespace TopicGuard.Bcrypt.Radix64

open TopicGuard.Text (Bytes)

/-- The six-bit values of some bytes. -/
def values : Bytes → List Nat
  | [] => []
  | [a] => [a.toNat / 4, a.toNat % 4 * 16]
  | [a, b] => [a.toNat / 4, (a.toNat % 4 * 16 + b.toNat / 16), b.toNat % 16 * 4]
  | a :: b :: c :: rest =>
      (a.toNat / 4) :: (a.toNat % 4 * 16 + b.toNat / 16) ::
        (b.toNat % 16 * 4 + c.toNat / 64) :: (c.toNat % 64) :: values rest

theorem encode_eq_map_values (bytes : Bytes) : encode bytes = (values bytes).map char := by
  induction bytes using values.induct with
  | case1 | case2 | case3 => rfl
  | case4 a b c rest ih => simp [encode, values, ih]

theorem length_values (bytes : Bytes) : (values bytes).length = (4 * bytes.length + 2) / 3 := by
  induction bytes using values.induct with
  | case1 | case2 | case3 => simp [values]
  | case4 a b c rest ih =>
      simp only [values, List.length_cons, ih]
      omega

theorem lt_of_mem_values {bytes : Bytes} {value : Nat} (member : value ∈ values bytes) :
    value < 64 := by
  induction bytes using values.induct with
  | case1 => contradiction
  | case2 a =>
      have a_lt := a.toNat_lt
      simp only [values, List.mem_cons, List.not_mem_nil, or_false] at member
      omega
  | case3 a b =>
      have a_lt := a.toNat_lt
      have b_lt := b.toNat_lt
      simp only [values, List.mem_cons, List.not_mem_nil, or_false] at member
      omega
  | case4 a b c rest ih =>
      have a_lt := a.toNat_lt
      have b_lt := b.toNat_lt
      have c_lt := c.toNat_lt
      simp only [values, List.mem_cons] at member
      rcases member with _ | _ | _ | _ | member
      case inr.inr.inr.inr => exact ih member
      all_goals omega

/-- Bytes are found again from their six-bit values. -/
theorem decodeValues_values (bytes : Bytes) : decodeValues (values bytes) = some bytes := by
  induction bytes using values.induct with
  | case1 => rfl
  | case2 a =>
      have spare : a.toNat % 4 * 16 % 16 = 0 := Nat.mul_mod_left ..
      have first : a.toNat / 4 * 4 + a.toNat % 4 * 16 / 16 = a.toNat := by omega
      simp only [values, decodeValues, spare, first, if_true, Nat.toUInt8_eq, UInt8.ofNat_toNat]
  | case3 a b =>
      have b_lt := b.toNat_lt
      have spare : b.toNat % 16 * 4 % 4 = 0 := Nat.mul_mod_left ..
      have first : a.toNat / 4 * 4 + (a.toNat % 4 * 16 + b.toNat / 16) / 16 = a.toNat := by
        omega
      have second : (a.toNat % 4 * 16 + b.toNat / 16) % 16 * 16 + b.toNat % 16 * 4 / 4 =
          b.toNat := by
        omega
      simp only [values, decodeValues, spare, first, second, if_true, Nat.toUInt8_eq,
        UInt8.ofNat_toNat]
  | case4 a b c rest ih =>
      have b_lt := b.toNat_lt
      have c_lt := c.toNat_lt
      have first : a.toNat / 4 * 4 + (a.toNat % 4 * 16 + b.toNat / 16) / 16 = a.toNat := by
        omega
      have second : (a.toNat % 4 * 16 + b.toNat / 16) % 16 * 16 +
          (b.toNat % 16 * 4 + c.toNat / 64) / 4 = b.toNat := by
        omega
      have third : (b.toNat % 16 * 4 + c.toNat / 64) % 4 * 64 + c.toNat % 64 = c.toNat := by
        omega
      simp only [values, decodeValues, ih, first, second, third, Option.map_some,
        Nat.toUInt8_eq, UInt8.ofNat_toNat]

theorem length_encode (bytes : Bytes) : (encode bytes).length = (4 * bytes.length + 2) / 3 := by
  rw [encode_eq_map_values, List.length_map, length_values]

theorem mem_alphabet_of_mem_encode {bytes : Bytes} {c : Char} (member : c ∈ encode bytes) :
    c ∈ alphabet := by
  rw [encode_eq_map_values, List.mem_map] at member
  rcases member with ⟨value, value_member, rfl⟩
  have value_lt : value < alphabet.length := lt_of_mem_values value_member
  rw [char, List.getElem?_eq_getElem value_lt]
  exact List.getElem_mem value_lt

/-- The values of characters are found one by one. -/
theorem mapM_value?_map_char {values : List Nat} (small : ∀ value ∈ values, value < 64) :
    (values.map char).mapM value? = some values := by
  induction values with
  | nil => rfl
  | cons value values ih =>
      rw [List.forall_mem_cons] at small
      rw [List.map_cons, List.mapM_cons, value?_char small.1, ih small.2]
      rfl

/-- Bytes are read back from their characters. -/
theorem decode?_encode (bytes : Bytes) : decode? (encode bytes) = some bytes := by
  rw [decode?, encode_eq_map_values, mapM_value?_map_char fun _ => lt_of_mem_values,
    Option.bind_some, decodeValues_values]

end TopicGuard.Bcrypt.Radix64
