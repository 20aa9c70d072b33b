import Mathlib.Data.Set.List
import TopicGuard.Proofs.Lines

/-!
# Well-formed bytes

Bytes are well formed if they are what some text is written as.  Reading accepts
exactly the well-formed bytes and gives back their only text.  The byte of a line
feed stands for nothing but a line feed, so bytes are well formed exactly if each
line of them is.
-/

namespace TopicGuard.Text.Utf8

/-- The bytes are those of a text. -/
def WellFormed (bytes : Bytes) : Prop :=
  ∃ text, encode text = bytes

variable {position : Nat} {done text : List Char} {pending : Pending} {b : UInt8}
  {bytes rest : Bytes}

/-! ## One byte -/

/-- A byte is its lower bits and the mark above them. -/
theorem eq_ofNat_add {bits mark : Nat} (value_eq : bits + mark = b.toNat) :
    b = UInt8.ofNat (bits + mark) := by
  rw [value_eq, UInt8.ofNat_toNat]

/-- No character starts with a continuation byte or with the first byte of a form that
is too long for what it holds. -/
theorem start?_low : ∀ bits < 0x42, start? (UInt8.ofNat (bits + 0x80)) = none := by
  decide

/-- No character starts with a byte that only a value beyond all characters has. -/
theorem start?_high : ∀ bits < 0xB, start? (UInt8.ofNat (bits + 0xF5)) = none := by
  decide

/-- What is pending needs one more byte, in its range. -/
theorem exists_push?_of_decodeFrom
    (read : decodeFrom position done (some pending) bytes = .ok text) :
    ∃ b rest next, bytes = b :: rest ∧ pending.push? b = some next := by
  cases bytes with
  | nil => simp [decodeFrom] at read
  | cons b rest =>
      cases pushed : pending.push? b with
      | none => simp [decodeFrom, pushed] at read
      | some next => exact ⟨b, rest, next, rfl, pushed⟩

theorem push?_eq_some_iff {next : Pending} :
    pending.push? b = some next ↔
      pending.low.toNat ≤ b.toNat ∧ b.toNat ≤ pending.high.toNat ∧
        next = ⟨pending.value * 0x40 + b.toNat % 0x40, pending.taken + 1, pending.owed - 1,
          0x80, 0xBF⟩ := by
  rw [Pending.push?, ← UInt8.le_iff_toNat_le, ← UInt8.le_iff_toNat_le]
  split
  · rename_i range
    simp [range, eq_comm]
  · rename_i range
    simp only [reduceCtorEq, false_iff]
    rintro ⟨low, high, _⟩
    exact range ⟨low, high⟩

/-- A character that owes one byte ends with it. -/
theorem exists_last_of_decodeFrom (owed : pending.owed = 1)
    (read : decodeFrom position done (some pending) bytes = .ok text) :
    ∃ b rest next, bytes = b :: rest ∧
      pending.low.toNat ≤ b.toNat ∧ b.toNat ≤ pending.high.toNat ∧
      decodeFrom next (Char.ofNat (pending.value * 0x40 + b.toNat % 0x40) :: done) none rest =
        .ok text := by
  rcases exists_push?_of_decodeFrom read with ⟨b, rest, next, rfl, pushed⟩
  rcases push?_eq_some_iff.mp pushed with ⟨low, high, rfl⟩
  rw [decodeFrom_finish rest pushed (by simp [owed])] at read
  exact ⟨b, rest, _, rfl, low, high, read⟩

/-- A character that owes more bytes goes on after the next one. -/
theorem exists_next_of_decodeFrom (owed : 1 < pending.owed)
    (read : decodeFrom position done (some pending) bytes = .ok text) :
    ∃ b rest, bytes = b :: rest ∧
      pending.low.toNat ≤ b.toNat ∧ b.toNat ≤ pending.high.toNat ∧
      decodeFrom position done
        (some ⟨pending.value * 0x40 + b.toNat % 0x40, pending.taken + 1, pending.owed - 1,
          0x80, 0xBF⟩) rest = .ok text := by
  rcases exists_push?_of_decodeFrom read with ⟨b, rest, next, rfl, pushed⟩
  rcases push?_eq_some_iff.mp pushed with ⟨low, high, rfl⟩
  rw [decodeFrom_push rest pushed (by simp; omega)] at read
  exact ⟨b, rest, rfl, low, high, read⟩

/-! ## One character -/

theorem toNat_ofNat_of_valid {value : Nat}
    (valid : value < 0xD800 ∨ 0xDFFF < value ∧ value < 0x110000) :
    (Char.ofNat value).val.toNat = value := by
  rw [Char.ofNat, dif_pos valid]
  rfl

theorem utf8EncodeChar_two {value : Nat} (low : 0x80 ≤ value) (high : value < 0x800) :
    String.utf8EncodeChar (Char.ofNat value) =
      [UInt8.ofNat (value / 64 % 32 + 0xC0), UInt8.ofNat (value % 64 + 0x80)] := by
  rw [String.utf8EncodeChar, toNat_ofNat_of_valid (by omega)]
  simp only [if_neg (show ¬ value ≤ 0x7F by omega), if_pos (show value ≤ 0x7FF by omega)]

theorem utf8EncodeChar_three {value : Nat} (low : 0x800 ≤ value) (high : value < 0x10000)
    (valid : value < 0xD800 ∨ 0xDFFF < value) :
    String.utf8EncodeChar (Char.ofNat value) =
      [UInt8.ofNat (value / 4096 % 16 + 0xE0), UInt8.ofNat (value / 64 % 64 + 0x80),
        UInt8.ofNat (value % 64 + 0x80)] := by
  rw [String.utf8EncodeChar, toNat_ofNat_of_valid (by omega)]
  simp only [if_neg (show ¬ value ≤ 0x7F by omega), if_neg (show ¬ value ≤ 0x7FF by omega),
    if_pos (show value ≤ 0xFFFF by omega)]

theorem utf8EncodeChar_four {value : Nat} (low : 0x10000 ≤ value) (high : value < 0x110000) :
    String.utf8EncodeChar (Char.ofNat value) =
      [UInt8.ofNat (value / 262144 % 8 + 0xF0), UInt8.ofNat (value / 4096 % 64 + 0x80),
        UInt8.ofNat (value / 64 % 64 + 0x80), UInt8.ofNat (value % 64 + 0x80)] := by
  rw [String.utf8EncodeChar, toNat_ofNat_of_valid (by omega)]
  simp only [if_neg (show ¬ value ≤ 0x7F by omega), if_neg (show ¬ value ≤ 0x7FF by omega),
    if_neg (show ¬ value ≤ 0xFFFF by omega)]

/-- A character was read from its bytes, which start the bytes that were read. -/
def ReadsChar (done : List Char) (bytes : Bytes) (text : List Char) : Prop :=
  ∃ c next rest, bytes = String.utf8EncodeChar c ++ rest ∧
    decodeFrom next (c :: done) none rest = .ok text

theorem readsChar_one (low : b.toNat < 0x80)
    (read : decodeFrom position done none (b :: rest) = .ok text) :
    ReadsChar done (b :: rest) text := by
  have started := start?_one b.toNat low
  rw [UInt8.ofNat_toNat] at started
  rw [decodeFrom] at read
  simp only [started, if_true] at read
  refine ⟨Char.ofNat b.toNat, _, rest, ?_, read⟩
  rw [String.utf8EncodeChar, toNat_ofNat_of_valid (by omega)]
  simp only [if_pos (show b.toNat ≤ 0x7F by omega), UInt8.ofNat_toNat, List.singleton_append]

theorem readsChar_two (low : 0xC2 ≤ b.toNat) (high : b.toNat < 0xE0)
    (read : decodeFrom position done none (b :: rest) = .ok text) :
    ReadsChar done (b :: rest) text := by
  have started := start?_two (b.toNat - 0xC0) (by omega) (by omega)
  rw [← eq_ofNat_add (b := b) (by omega)] at started
  rw [decodeFrom_start rest started (by simp)] at read
  rcases exists_last_of_decodeFrom rfl read with ⟨second, after, next, rfl, low₂, high₂, read⟩
  simp only [UInt8.reduceToNat] at low₂ high₂
  refine ⟨Char.ofNat ((b.toNat - 0xC0) * 0x40 + second.toNat % 0x40), next, after, ?_, read⟩
  rw [utf8EncodeChar_two (by omega) (by omega), ← eq_ofNat_add (b := b) (by omega),
    ← eq_ofNat_add (b := second) (by omega)]
  rfl

/-- The range of the second byte excludes shorter forms and surrogates. -/
theorem readsChar_three (low : 0xE0 ≤ b.toNat) (high : b.toNat < 0xF0)
    (read : decodeFrom position done none (b :: rest) = .ok text) :
    ReadsChar done (b :: rest) text := by
  have started := start?_three (b.toNat - 0xE0) (by omega)
  rw [← eq_ofNat_add (b := b) (by omega)] at started
  rw [decodeFrom_start rest started (by simp)] at read
  rcases exists_next_of_decodeFrom (by simp) read with ⟨second, after₂, rfl, low₂, high₂, read⟩
  rcases exists_last_of_decodeFrom rfl read with ⟨third, after, next, rfl, low₃, high₃, read⟩
  simp only [apply_ite UInt8.toNat, UInt8.reduceToNat] at low₂ high₂ low₃ high₃
  refine ⟨Char.ofNat (((b.toNat - 0xE0) * 0x40 + second.toNat % 0x40) * 0x40 +
    third.toNat % 0x40), next, after, ?_, read⟩
  split at low₂
  all_goals split at high₂
  all_goals
    rw [utf8EncodeChar_three (by omega) (by omega) (by omega),
      ← eq_ofNat_add (b := b) (by omega), ← eq_ofNat_add (b := second) (by omega),
      ← eq_ofNat_add (b := third) (by omega)]
    rfl

/-- The range of the second byte excludes shorter forms and values beyond all characters. -/
theorem readsChar_four (low : 0xF0 ≤ b.toNat) (high : b.toNat < 0xF5)
    (read : decodeFrom position done none (b :: rest) = .ok text) :
    ReadsChar done (b :: rest) text := by
  have started := start?_four (b.toNat - 0xF0) (by omega)
  rw [← eq_ofNat_add (b := b) (by omega)] at started
  rw [decodeFrom_start rest started (by simp)] at read
  rcases exists_next_of_decodeFrom (by simp) read with ⟨second, after₂, rfl, low₂, high₂, read⟩
  rcases exists_next_of_decodeFrom (by simp) read with ⟨third, after₃, rfl, low₃, high₃, read⟩
  rcases exists_last_of_decodeFrom rfl read with ⟨fourth, after, next, rfl, low₄, high₄, read⟩
  simp only [apply_ite UInt8.toNat, UInt8.reduceToNat] at low₂ high₂ low₃ high₃ low₄ high₄
  refine ⟨Char.ofNat ((((b.toNat - 0xF0) * 0x40 + second.toNat % 0x40) * 0x40 +
    third.toNat % 0x40) * 0x40 + fourth.toNat % 0x40), next, after, ?_, read⟩
  split at low₂
  all_goals split at high₂
  all_goals
    rw [utf8EncodeChar_four (by omega) (by omega), ← eq_ofNat_add (b := b) (by omega),
      ← eq_ofNat_add (b := second) (by omega), ← eq_ofNat_add (b := third) (by omega),
      ← eq_ofNat_add (b := fourth) (by omega)]
    rfl

theorem readsChar_of_decodeFrom
    (read : decodeFrom position done none (b :: rest) = .ok text) :
    ReadsChar done (b :: rest) text := by
  have refused : start? b = none → False := by
    intro unknown
    simp [decodeFrom, unknown] at read
  have bound := b.toNat_lt
  by_cases one : b.toNat < 0x80
  · exact readsChar_one one read
  by_cases continuation : b.toNat < 0xC2
  · have unknown := start?_low (b.toNat - 0x80) (by omega)
    rw [← eq_ofNat_add (b := b) (by omega)] at unknown
    exact absurd unknown refused
  by_cases two : b.toNat < 0xE0
  · exact readsChar_two (by omega) two read
  by_cases three : b.toNat < 0xF0
  · exact readsChar_three (by omega) three read
  by_cases four : b.toNat < 0xF5
  · exact readsChar_four (by omega) four read
  · have unknown := start?_high (b.toNat - 0xF5) (by omega)
    rw [← eq_ofNat_add (b := b) (by omega)] at unknown
    exact absurd unknown refused

/-! ## A text -/

/-- What is read was written, one character after the other. -/
theorem exists_encode_of_decodeFrom
    (read : decodeFrom position done none bytes = .ok text) :
    ∃ more, text = done.reverse ++ more ∧ encode more = bytes := by
  induction size_eq : bytes.length using Nat.strongRecOn generalizing position done bytes with
  | ind size ih =>
      cases bytes with
      | nil =>
          rw [decodeFrom] at read
          cases read
          exact ⟨[], by simp, rfl⟩
      | cons b rest =>
          rcases readsChar_of_decodeFrom read with ⟨c, next, after, bytes_eq, read_after⟩
          have shorter : after.length < size := by
            have nonempty := List.length_pos_iff.mpr (String.utf8EncodeChar_ne_nil (c := c))
            rw [← size_eq, bytes_eq, List.length_append]
            omega
          rcases ih after.length shorter read_after rfl with ⟨more, rfl, rfl⟩
          refine ⟨c :: more, by simp, ?_⟩
          rw [bytes_eq]
          rfl

/-- Reading finds the text whose bytes it is given. -/
theorem decode_eq_ok_iff : decode bytes = .ok text ↔ encode text = bytes := by
  constructor
  · intro read
    rcases exists_encode_of_decodeFrom read with ⟨more, rfl, written⟩
    exact written
  · rintro rfl
    exact decode_encode text

theorem decode?_eq_some_iff : decode? bytes = some text ↔ encode text = bytes := by
  rw [← decode_eq_ok_iff, decode?]
  cases decode bytes <;> simp [Except.toOption]

theorem decode?_eq_none_iff : decode? bytes = none ↔ ¬ WellFormed bytes := by
  simp only [WellFormed, Option.eq_none_iff_forall_ne_some, ne_eq, decode?_eq_some_iff,
    not_exists]

instance : DecidablePred WellFormed := fun bytes =>
  decidable_of_iff (decode? bytes ≠ none) <| by
    rw [ne_eq, decode?_eq_none_iff, not_not]

/-- Different texts have different bytes. -/
theorem encode_injective : Function.Injective encode := by
  intro first second same
  have read := decode_encode first
  rw [same, decode_encode] at read
  exact (Except.ok.inj read).symm

/-- A text in front of some bytes is read first. -/
theorem exists_decodeFrom_encode_append (position : Nat) (done text : List Char) (bytes : Bytes) :
    ∃ next, decodeFrom position done none (encode text ++ bytes) =
      decodeFrom next (text.reverse ++ done) none bytes := by
  induction text generalizing position done with
  | nil => exact ⟨position, rfl⟩
  | cons c rest ih =>
      obtain ⟨middle, first_eq⟩ := decodeFrom_utf8EncodeChar position done c (encode rest ++ bytes)
      obtain ⟨next, rest_eq⟩ := ih middle (c :: done)
      have encode_eq : encode (c :: rest) = String.utf8EncodeChar c ++ encode rest :=
        List.flatMap_cons
      refine ⟨next, ?_⟩
      rw [encode_eq, List.append_assoc, first_eq, rest_eq, List.reverse_cons, List.append_assoc]
      rfl

/-- A text in front of some bytes does not make them well formed or ill formed. -/
theorem wellFormed_encode_append_iff : WellFormed (encode text ++ bytes) ↔ WellFormed bytes := by
  constructor
  · rintro ⟨whole, written⟩
    have read := decode_eq_ok_iff.mpr written
    obtain ⟨next, read_eq⟩ := exists_decodeFrom_encode_append 0 [] text bytes
    rw [decode, read_eq] at read
    obtain ⟨more, _, more_written⟩ := exists_encode_of_decodeFrom read
    exact ⟨more, more_written⟩
  · rintro ⟨more, rfl⟩
    exact ⟨text ++ more, encode_append text more⟩

/-! ## Line by line -/

theorem feed_not_mem_of_encode {line : Bytes} (free : 0x0A ∉ line)
    (written : encode text = line) : '\n' ∉ text := by
  intro member
  apply free
  rw [← written]
  exact (mem_encode_iff (d := '\n') (by decide)).mpr member

/-- Bytes are well formed exactly if each of their lines is. -/
theorem wellFormed_iff_forall_mem_splitOn :
    WellFormed bytes ↔ ∀ line ∈ bytes.splitOn 0x0A, WellFormed line := by
  constructor
  · rintro ⟨text, rfl⟩ line member
    rw [splitOn_encode] at member
    rcases List.mem_map.mp member with ⟨piece, _, written⟩
    exact ⟨piece, written⟩
  · intro each
    have written : bytes.splitOn 0x0A ∈ Set.range (List.map encode) := by
      rw [Set.range_list_map]
      exact each
    rcases written with ⟨texts, texts_eq⟩
    refine ⟨['\n'].intercalate texts, ?_⟩
    rw [encode_intercalate, texts_eq]
    exact List.intercalate_splitOn 0x0A

end TopicGuard.Text.Utf8
