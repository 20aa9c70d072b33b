import TopicGuard.Text.Utf8

/-!
# Reading back what was written as UTF-8

A text that is written as bytes is read back as itself, and an ASCII character is the
only one that is written with its byte.
-/

namespace TopicGuard.Text.Utf8

/-! ## One character -/

theorem start?_one : ∀ bits < 0x80,
    start? (UInt8.ofNat bits) = some ⟨bits, 1, 0, 0x80, 0xBF⟩ := by
  decide

theorem start?_two : ∀ bits < 0x20, 2 ≤ bits →
    start? (UInt8.ofNat (bits + 0xC0)) = some ⟨bits, 1, 1, 0x80, 0xBF⟩ := by
  decide

theorem start?_three : ∀ bits < 0x10,
    start? (UInt8.ofNat (bits + 0xE0)) =
      some ⟨bits, 1, 2, if bits = 0 then 0xA0 else 0x80,
        if bits = 0xD then 0x9F else 0xBF⟩ := by
  decide

theorem start?_four : ∀ bits < 5,
    start? (UInt8.ofNat (bits + 0xF0)) =
      some ⟨bits, 1, 3, if bits = 0 then 0x90 else 0x80,
        if bits = 4 then 0x8F else 0xBF⟩ := by
  decide

theorem push?_ofNat {pending : Pending} {bits : Nat} (bound : bits < 0x40)
    (low : pending.low.toNat ≤ bits + 0x80) (high : bits + 0x80 ≤ pending.high.toNat) :
    pending.push? (UInt8.ofNat (bits + 0x80)) =
      some ⟨pending.value * 0x40 + bits, pending.taken + 1, pending.owed - 1,
        0x80, 0xBF⟩ := by
  have toNat_eq : (UInt8.ofNat (bits + 0x80)).toNat = bits + 0x80 :=
    UInt8.toNat_ofNat_of_lt' (by simp only [UInt8.size]; omega)
  have bits_eq : (bits + 0x80) % 0x40 = bits := by omega
  rw [← toNat_eq, ← UInt8.le_iff_toNat_le] at low high
  rw [Pending.push?, if_pos ⟨low, high⟩, toNat_eq, bits_eq]

variable {position : Nat} {done : List Char} {pending next : Pending} {b : UInt8}

theorem decodeFrom_start (rest : Bytes) (started : start? b = some next)
    (owed : next.owed ≠ 0) :
    decodeFrom position done none (b :: rest) =
      decodeFrom position done (some next) rest := by
  rw [decodeFrom]
  simp only [started, if_neg owed]

theorem decodeFrom_push (rest : Bytes) (pushed : pending.push? b = some next)
    (owed : next.owed ≠ 0) :
    decodeFrom position done (some pending) (b :: rest) =
      decodeFrom position done (some next) rest := by
  rw [decodeFrom]
  simp only [pushed, if_neg owed]

theorem decodeFrom_finish (rest : Bytes) (pushed : pending.push? b = some next)
    (complete : next.owed = 0) :
    decodeFrom position done (some pending) (b :: rest) =
      decodeFrom (position + next.taken) (Char.ofNat next.value :: done) none rest := by
  rw [decodeFrom]
  simp only [pushed, if_pos complete]

theorem decodeFrom_two {value : Nat} (rest : Bytes) (low : 0x80 ≤ value)
    (high : value < 0x800) :
    decodeFrom position done none
        (UInt8.ofNat (value / 64 % 32 + 0xC0) :: UInt8.ofNat (value % 64 + 0x80) :: rest) =
      decodeFrom (position + 2) (Char.ofNat value :: done) none rest := by
  have started := start?_two (value / 64 % 32) (by omega) (by omega)
  have bits_eq : value / 64 % 32 * 64 + value % 64 = value := by omega
  rw [decodeFrom_start _ started (by simp),
    decodeFrom_finish _ (push?_ofNat (by omega) (by simp) (by simp; omega)) rfl]
  simp only [bits_eq]

/-- The first byte narrows the range of the second one where that rules out a shorter form
or a surrogate. -/
theorem decodeFrom_three {value : Nat} (rest : Bytes) (low : 0x800 ≤ value)
    (high : value < 0x10000) (valid : value < 0xD800 ∨ 0xDFFF < value) :
    decodeFrom position done none
        (UInt8.ofNat (value / 4096 % 16 + 0xE0) :: UInt8.ofNat (value / 64 % 64 + 0x80) ::
          UInt8.ofNat (value % 64 + 0x80) :: rest) =
      decodeFrom (position + 3) (Char.ofNat value :: done) none rest := by
  have started := start?_three (value / 4096 % 16) (by omega)
  have from_low : (if value / 4096 % 16 = 0 then (0xA0 : UInt8) else 0x80).toNat ≤
      value / 64 % 64 + 0x80 := by
    simp only [apply_ite UInt8.toNat, UInt8.reduceToNat]
    split <;> omega
  have to_high : value / 64 % 64 + 0x80 ≤
      (if value / 4096 % 16 = 0xD then (0x9F : UInt8) else 0xBF).toNat := by
    simp only [apply_ite UInt8.toNat, UInt8.reduceToNat]
    split <;> omega
  have bits_eq : (value / 4096 % 16 * 64 + value / 64 % 64) * 64 + value % 64 = value := by
    omega
  rw [decodeFrom_start _ started (by simp),
    decodeFrom_push _ (push?_ofNat (by omega) from_low to_high) (by simp),
    decodeFrom_finish _ (push?_ofNat (by omega) (by simp) (by simp; omega)) rfl]
  simp only [bits_eq]

/-- The first byte narrows the range of the second one where that rules out a shorter form
or a value that is too large. -/
theorem decodeFrom_four {value : Nat} (rest : Bytes) (low : 0x10000 ≤ value)
    (high : value < 0x110000) :
    decodeFrom position done none
        (UInt8.ofNat (value / 262144 % 8 + 0xF0) :: UInt8.ofNat (value / 4096 % 64 + 0x80) ::
          UInt8.ofNat (value / 64 % 64 + 0x80) :: UInt8.ofNat (value % 64 + 0x80) :: rest) =
      decodeFrom (position + 4) (Char.ofNat value :: done) none rest := by
  have started := start?_four (value / 262144 % 8) (by omega)
  have from_low : (if value / 262144 % 8 = 0 then (0x90 : UInt8) else 0x80).toNat ≤
      value / 4096 % 64 + 0x80 := by
    simp only [apply_ite UInt8.toNat, UInt8.reduceToNat]
    split <;> omega
  have to_high : value / 4096 % 64 + 0x80 ≤
      (if value / 262144 % 8 = 4 then (0x8F : UInt8) else 0xBF).toNat := by
    simp only [apply_ite UInt8.toNat, UInt8.reduceToNat]
    split <;> omega
  have bits_eq : ((value / 262144 % 8 * 64 + value / 4096 % 64) * 64 +
      value / 64 % 64) * 64 + value % 64 = value := by
    omega
  rw [decodeFrom_start _ started (by simp),
    decodeFrom_push _ (push?_ofNat (by omega) from_low to_high) (by simp),
    decodeFrom_push _ (push?_ofNat (by omega) (by simp) (by simp; omega)) (by simp),
    decodeFrom_finish _ (push?_ofNat (by omega) (by simp) (by simp; omega)) rfl]
  simp only [bits_eq]

/-- The bytes of a character are read as that character. -/
theorem decodeFrom_utf8EncodeChar (position : Nat) (done : List Char) (c : Char)
    (rest : Bytes) :
    ∃ next, decodeFrom position done none (String.utf8EncodeChar c ++ rest) =
      decodeFrom next (c :: done) none rest := by
  have valid : c.toNat < 0xD800 ∨ 0xDFFF < c.toNat ∧ c.toNat < 0x110000 := c.valid
  have value_eq : c.val.toNat = c.toNat := rfl
  rw [← Char.ofNat_toNat c]
  simp only [String.utf8EncodeChar, value_eq, Char.ofNat_toNat c]
  split
  · have started := start?_one c.toNat (by omega)
    refine ⟨position + 1, ?_⟩
    rw [List.singleton_append, decodeFrom]
    simp only [started, if_true, Char.ofNat_toNat]
  split
  · exact ⟨position + 2, (decodeFrom_two rest (by omega) (by omega)).trans (by simp)⟩
  split
  · exact ⟨position + 3,
      (decodeFrom_three rest (by omega) (by omega) (by omega)).trans (by simp)⟩
  · exact ⟨position + 4, (decodeFrom_four rest (by omega) (by omega)).trans (by simp)⟩

/-! ## A text -/

theorem decodeFrom_encode (position : Nat) (done text : List Char) :
    decodeFrom position done none (encode text) = .ok (done.reverse ++ text) := by
  induction text generalizing position done with
  | nil => simp [decodeFrom]
  | cons c rest ih =>
      rcases decodeFrom_utf8EncodeChar position done c (encode rest) with ⟨next, next_eq⟩
      have encode_eq : encode (c :: rest) = String.utf8EncodeChar c ++ encode rest :=
        List.flatMap_cons
      rw [encode_eq, next_eq, ih, List.reverse_cons, List.append_assoc]
      rfl

/-- A text is read back from its bytes. -/
@[simp]
theorem decode_encode (text : List Char) : decode (encode text) = .ok text :=
  decodeFrom_encode 0 [] text

/-! ## ASCII -/

theorem utf8EncodeChar_of_ascii {c : Char} (ascii : c.toNat < 0x80) :
    String.utf8EncodeChar c = [UInt8.ofNat c.toNat] := by
  have short : c.val.toNat ≤ 0x7F := Nat.le_of_lt_succ ascii
  simp only [String.utf8EncodeChar, if_pos short]
  rfl

/-- Every byte of a longer form has its highest bit set. -/
theorem le_toNat_of_mem_utf8EncodeChar {c : Char} {b : UInt8} (long : 0x80 ≤ c.toNat)
    (member : b ∈ String.utf8EncodeChar c) : 0x80 ≤ b.toNat := by
  have not_short : ¬ c.val.toNat ≤ 0x7F := Nat.not_le.mpr long
  simp only [String.utf8EncodeChar, if_neg not_short] at member
  split at member
  · simp only [List.mem_cons, List.not_mem_nil, or_false] at member
    rcases member with rfl | rfl <;> rw [UInt8.toNat_ofNat'] <;> omega
  split at member
  · simp only [List.mem_cons, List.not_mem_nil, or_false] at member
    rcases member with rfl | rfl | rfl <;> rw [UInt8.toNat_ofNat'] <;> omega
  · simp only [List.mem_cons, List.not_mem_nil, or_false] at member
    rcases member with rfl | rfl | rfl | rfl <;> rw [UInt8.toNat_ofNat'] <;> omega

/-- No other character is written with the byte of an ASCII character. -/
theorem mem_utf8EncodeChar_iff {c d : Char} (ascii : d.toNat < 0x80) :
    UInt8.ofNat d.toNat ∈ String.utf8EncodeChar c ↔ c = d := by
  have toNat_eq : ∀ n < 0x80, (UInt8.ofNat n).toNat = n := fun n bound =>
    UInt8.toNat_ofNat_of_lt' (by simp only [UInt8.size]; omega)
  constructor
  · intro member
    by_cases short : c.toNat < 0x80
    · rw [utf8EncodeChar_of_ascii short, List.mem_singleton, ← UInt8.toNat_inj,
        toNat_eq _ ascii, toNat_eq _ short] at member
      exact (Char.toNat_inj.mp member).symm
    · have large := le_toNat_of_mem_utf8EncodeChar (Nat.not_lt.mp short) member
      rw [toNat_eq _ ascii] at large
      omega
  · rintro rfl
    rw [utf8EncodeChar_of_ascii ascii, List.mem_singleton]

theorem mem_encode_iff {d : Char} (ascii : d.toNat < 0x80) {text : List Char} :
    UInt8.ofNat d.toNat ∈ encode text ↔ d ∈ text := by
  rw [encode, List.mem_flatMap]
  constructor
  · rintro ⟨c, member, byte⟩
    rwa [← (mem_utf8EncodeChar_iff ascii).mp byte]
  · intro member
    exact ⟨d, member, (mem_utf8EncodeChar_iff ascii).mpr rfl⟩

end TopicGuard.Text.Utf8
