import TopicGuard.Proofs.Utf8
import TopicGuard.Proofs.Words
import TopicGuard.Text.Lines

/-!
# Lines of texts and of bytes

A text is cut into pieces, each of which starts and ends where the text does or at a cut.
Cutting the bytes of a text into lines is cutting the text into lines, because only a
line feed or a carriage return is written with the byte of one.  What does not depend on
the carriage return of a line's end can be read off the pieces between line feeds.
-/

namespace TopicGuard.Text

/-! ## Pieces between line feeds -/

section

variable {α : Type} [DecidableEq α] {feed : α} {text piece : List α}

/-- What holds of every text without a cut, and of a text with one if it holds of what
follows the first cut, holds of every text. -/
@[elab_as_elim]
theorem cut_induction (feed : α) {motive : List α → Prop}
    (single : ∀ piece, feed ∉ piece → motive piece)
    (cut : ∀ piece rest, feed ∉ piece → motive rest → motive (piece ++ feed :: rest))
    (text : List α) : motive text := by
  induction size_eq : text.length using Nat.strongRecOn generalizing text with
  | ind size ih =>
      by_cases found : feed ∈ text
      · obtain ⟨piece, rest, rfl, free⟩ := List.eq_append_cons_of_mem found
        have shorter : rest.length < size := by
          rw [← size_eq, List.length_append, List.length_cons]
          omega
        exact cut piece rest free (ih rest.length shorter rest rfl)
      · exact single text found

/-- No piece holds what the pieces were cut at. -/
theorem not_mem_of_mem_splitOn (member : piece ∈ text.splitOn feed) : feed ∉ piece := by
  induction text using cut_induction feed with
  | single only free =>
      rw [List.splitOn_eq_singleton free, List.mem_singleton] at member
      rwa [member]
  | cut first rest free ih =>
      rw [List.splitOn_append_cons_self_of_not_mem free, List.mem_cons] at member
      rcases member with rfl | member
      · exact free
      · exact ih member

/-- A text has one piece more than cuts. -/
theorem length_splitOn (feed : α) (text : List α) :
    (text.splitOn feed).length = text.count feed + 1 := by
  induction text using cut_induction feed with
  | single only free =>
      rw [List.splitOn_eq_singleton free, List.count_eq_zero_of_not_mem free,
        List.length_singleton]
  | cut first rest free ih =>
      rw [List.splitOn_append_cons_self_of_not_mem free, List.length_cons, ih,
        List.count_append, List.count_cons_self, List.count_eq_zero_of_not_mem free,
        Nat.zero_add]

/-- Two pieces are what one cut leaves. -/
theorem splitOn_eq_pair_iff {first second : List α} :
    text.splitOn feed = [first, second] ↔
      text = first ++ feed :: second ∧ feed ∉ first ∧ feed ∉ second := by
  constructor
  · intro pieces
    have joined : [feed].intercalate (text.splitOn feed) = text := List.intercalate_splitOn feed
    have free : ∀ piece ∈ text.splitOn feed, feed ∉ piece := fun _ => not_mem_of_mem_splitOn
    rw [pieces] at joined free
    exact ⟨by simp [← joined, List.intercalate], free first (by simp), free second (by simp)⟩
  · rintro ⟨rfl, first_free, second_free⟩
    rw [List.splitOn_append_cons_self_of_not_mem first_free, List.splitOn_eq_singleton second_free]

theorem count_eq_one_iff :
    text.count feed = 1 ↔
      ∃ first second, text = first ++ feed :: second ∧ feed ∉ first ∧ feed ∉ second := by
  simp only [← splitOn_eq_pair_iff]
  have length_eq := length_splitOn feed text
  constructor
  · intro once
    rw [once] at length_eq
    exact List.length_eq_two.mp length_eq
  · rintro ⟨first, second, pieces⟩
    rw [pieces] at length_eq
    exact (Nat.succ.inj length_eq).symm

/-- A piece reaches from the start of a text or a cut to the next cut or the end, and its
place is the number of cuts before it. -/
theorem exists_eq_of_getElem?_splitOn {index : Nat}
    (found : (text.splitOn feed)[index]? = some piece) :
    ∃ before after, text = before ++ (piece ++ after) ∧
      (before = [] ∨ before.getLast? = some feed) ∧ (after = [] ∨ after.head? = some feed) ∧
      before.count feed = index := by
  induction text using cut_induction feed generalizing index with
  | single only free =>
      rw [List.splitOn_eq_singleton free, List.getElem?_singleton] at found
      split at found
      · rename_i first
        cases found
        exact ⟨[], [], by simp, .inl rfl, .inl rfl, first.symm⟩
      · contradiction
  | cut first rest free ih =>
      rw [List.splitOn_append_cons_self_of_not_mem free] at found
      cases index with
      | zero =>
          cases found
          exact ⟨[], feed :: rest, rfl, .inl rfl, .inr rfl, rfl⟩
      | succ index =>
          obtain ⟨before, after, rfl, starts, ends, count_eq⟩ := ih found
          refine ⟨first ++ feed :: before, after, by simp, .inr ?_, ends, ?_⟩
          · rcases starts with rfl | starts
            · simp
            · simp [List.getLast?_cons, starts]
          · rw [List.count_append, List.count_cons_self, List.count_eq_zero_of_not_mem free,
              count_eq, Nat.zero_add]

/-- What ends with a cut has as many pieces before all others as it has cuts. -/
theorem exists_splitOn_append_eq {before : List α}
    (starts : before = [] ∨ before.getLast? = some feed) :
    ∃ pieces : List (List α), pieces.length = before.count feed ∧
      ∀ rest, (before ++ rest).splitOn feed = pieces ++ rest.splitOn feed := by
  rcases starts with rfl | ends
  · exact ⟨[], rfl, fun _ => rfl⟩
  · obtain ⟨front, rfl⟩ := List.getLast?_eq_some_iff.mp ends
    refine ⟨front.splitOn feed, ?_, ?_⟩
    · rw [length_splitOn, List.count_append, List.count_singleton_self]
    · intro rest
      rw [List.append_assoc, List.singleton_append, List.splitOn_append_cons_self]

/-- What nothing or a cut follows is cut off. -/
theorem getElem?_zero_splitOn_append {after : List α} (free : feed ∉ piece)
    (ends : after = [] ∨ after.head? = some feed) :
    ((piece ++ after).splitOn feed)[0]? = some piece := by
  rcases ends with rfl | ends
  · rw [List.append_nil, List.splitOn_eq_singleton free, List.getElem?_cons_zero]
  · obtain ⟨rest, rfl⟩ := List.head?_eq_some_iff.mp ends
    rw [List.splitOn_append_cons_self_of_not_mem free, List.getElem?_cons_zero]

/-- The pieces are what the cuts, the start and the end of a text delimit, in their order. -/
theorem getElem?_splitOn_iff {index : Nat} :
    (text.splitOn feed)[index]? = some piece ↔
      ∃ before after, text = before ++ (piece ++ after) ∧ feed ∉ piece ∧
        (before = [] ∨ before.getLast? = some feed) ∧ (after = [] ∨ after.head? = some feed) ∧
        before.count feed = index := by
  constructor
  · intro found
    have free := not_mem_of_mem_splitOn (List.mem_of_getElem? found)
    obtain ⟨before, after, text_eq, delimited⟩ := exists_eq_of_getElem?_splitOn found
    exact ⟨before, after, text_eq, free, delimited⟩
  · rintro ⟨before, after, rfl, free, starts, ends, rfl⟩
    obtain ⟨pieces, length_eq, pieces_eq⟩ := exists_splitOn_append_eq starts
    rw [pieces_eq, ← length_eq, List.getElem?_append_right (Nat.le_refl _), Nat.sub_self]
    exact getElem?_zero_splitOn_append free ends

end

theorem encode_intercalate (feed : List Char) (pieces : List (List Char)) :
    Utf8.encode (feed.intercalate pieces) =
      (Utf8.encode feed).intercalate (pieces.map Utf8.encode) := by
  induction pieces with
  | nil => rfl
  | cons first rest ih =>
      cases rest with
      | nil => simp
      | cons second others =>
          simp only [List.map_cons] at ih ⊢
          rw [List.intercalate_cons_cons, List.intercalate_cons_cons, Utf8.encode_append,
            Utf8.encode_append, ih]

/-- Bytes are cut where their text is cut. -/
theorem splitOn_encode (text : List Char) :
    (Utf8.encode text).splitOn 0x0A = (text.splitOn '\n').map Utf8.encode := by
  have feed_free : ∀ bytes ∈ (text.splitOn '\n').map Utf8.encode, (0x0A : UInt8) ∉ bytes := by
    intro bytes member
    rcases List.mem_map.mp member with ⟨piece, piece_mem, rfl⟩
    have char_free := not_mem_of_mem_splitOn piece_mem
    exact fun byte => char_free ((Utf8.mem_encode_iff (d := '\n') (by decide)).mp byte)
  have nonempty : (text.splitOn '\n').map Utf8.encode ≠ [] := by
    simp
  calc
    (Utf8.encode text).splitOn 0x0A =
        (Utf8.encode (['\n'].intercalate (text.splitOn '\n'))).splitOn 0x0A := by
      rw [List.intercalate_splitOn]
    _ = ([0x0A].intercalate ((text.splitOn '\n').map Utf8.encode)).splitOn 0x0A := by
      rw [encode_intercalate]
      rfl
    _ = (text.splitOn '\n').map Utf8.encode :=
      List.splitOn_intercalate 0x0A feed_free nonempty

/-! ## Line ends -/

theorem dropReturn_encode (line : List Char) :
    dropReturn 0x0D (Utf8.encode line) = Utf8.encode (dropReturn '\r' line) := by
  rcases List.eq_nil_or_concat' line with rfl | ⟨front, last, rfl⟩
  · rfl
  · by_cases returns : last = '\r'
    · subst returns
      rw [Utf8.encode_append, dropReturn_append_return]
      exact dropReturn_append_return _ _
    · have byte_free : (0x0D : UInt8) ∉ Utf8.encode [last] := fun byte =>
        returns (List.mem_singleton.mp
          ((Utf8.mem_encode_iff (d := '\r') (by decide)).mp byte)).symm
      have nonempty : Utf8.encode [last] ≠ [] := by
        simp [Utf8.encode, String.utf8EncodeChar_ne_nil]
      have ends : (Utf8.encode (front ++ [last])).getLast? ≠ some 0x0D := by
        intro last_eq
        rw [Utf8.encode_append, List.getLast?_append_of_ne_nil _ nonempty] at last_eq
        exact byte_free (List.mem_of_getLast? last_eq)
      rw [dropReturn, if_neg ends, dropReturn, if_neg (by simpa using returns)]

/-- A carriage return at the end of a line is in no word. -/
theorem words_dropReturn (line : List Char) : words (dropReturn '\r' line) = words line := by
  rcases List.eq_nil_or_concat' line with rfl | ⟨front, last, rfl⟩
  · rfl
  · by_cases returns : last = '\r'
    · have blank : isBlank '\r' = true := by decide
      rw [returns, dropReturn_append_return, words_append_cons_of_isBlank blank, words_nil,
        List.append_nil]
    · rw [dropReturn, if_neg (by simpa using returns)]

theorem trim_dropReturn (line : List Char) : trim (dropReturn '\r' line) = trim line := by
  rcases List.eq_nil_or_concat' line with rfl | ⟨front, last, rfl⟩
  · rfl
  · by_cases returns : last = '\r'
    · have blank : isBlank '\r' = true := by decide
      rw [returns, dropReturn_append_return, ← trimStart_trimEnd, ← trimStart_trimEnd]
      simp [trimEnd, blank]
    · rw [dropReturn, if_neg (by simpa using returns)]

/-- A carriage return at the end of a line does not make it say anything. -/
theorem isInert_dropReturn (line : List Char) :
    isInert (dropReturn '\r' line) = isInert line := by
  rw [Bool.eq_iff_iff, isInert_iff_forall_head?, isInert_iff_forall_head?, words_dropReturn]

/-! ## Lines -/

theorem closeLines_map_encode (pieces : List (List Char)) :
    closeLines 0x0D (pieces.map Utf8.encode) =
      (closeLines '\r' pieces).map Utf8.encode := by
  induction pieces with
  | nil => rfl
  | cons first rest ih =>
      cases rest with
      | nil =>
          cases first with
          | nil => rfl
          | cons c others =>
              simp [closeLines, Utf8.encode, String.utf8EncodeChar_ne_nil]
      | cons second others =>
          simp only [List.map_cons, closeLines, dropReturn_encode] at ih ⊢
          rw [ih]

/-- The lines of the bytes of a text are the bytes of its lines. -/
theorem byteLines_encode (text : List Char) :
    byteLines (Utf8.encode text) = (lines text).map Utf8.encode := by
  rw [byteLines, cutLines, splitOn_encode, closeLines_map_encode]
  rfl

/-- The pieces between line feeds, each but the last without the carriage return of its
end: the lines, and one more that is empty if the text ends with a line feed. -/
def openLines : List (List Char) → List (List Char)
  | [] => []
  | [last] => [last]
  | piece :: next :: rest => dropReturn '\r' piece :: openLines (next :: rest)

theorem openLines_cons (piece : List Char) (rest : List (List Char)) :
    openLines (piece :: rest) =
      (if rest = [] then piece else dropReturn '\r' piece) :: openLines rest := by
  cases rest <;> rfl

theorem openLines_splitOn (text : List Char) :
    openLines (text.splitOn '\n') = lines text ∨
      openLines (text.splitOn '\n') = lines text ++ [[]] := by
  have closed : ∀ pieces : List (List Char), pieces ≠ [] →
      openLines pieces = closeLines '\r' pieces ∨
        openLines pieces = closeLines '\r' pieces ++ [[]] := by
    intro pieces nonempty
    induction pieces with
    | nil => contradiction
    | cons first rest ih =>
        cases rest with
        | nil => cases first <;> simp [openLines, closeLines]
        | cons second others =>
            rw [openLines, closeLines]
            rcases ih (List.cons_ne_nil second others) with all | one_more
            · exact .inl (by rw [all])
            · exact .inr (by rw [one_more, List.cons_append])
  exact closed _ (List.splitOn_ne_nil '\n' text)

/-- What does not depend on carriage returns can be read off the pieces between line
feeds. -/
theorem map_openLines {β : Type} {meaning : List Char → β}
    (same : ∀ line, meaning (dropReturn '\r' line) = meaning line)
    (pieces : List (List Char)) : (openLines pieces).map meaning = pieces.map meaning := by
  induction pieces with
  | nil => rfl
  | cons piece rest ih =>
      rw [openLines_cons, List.map_cons, List.map_cons, ih]
      split
      · rfl
      · rw [same]

theorem map_splitOn_eq {β : Type} {meaning : List Char → β}
    (same : ∀ line, meaning (dropReturn '\r' line) = meaning line) (text : List Char) :
    (text.splitOn '\n').map meaning = (lines text).map meaning ∨
      (text.splitOn '\n').map meaning = (lines text).map meaning ++ [meaning []] := by
  rw [← map_openLines same]
  rcases openLines_splitOn text with all | one_more
  · exact .inl (by rw [all])
  · exact .inr (by rw [one_more, List.map_append, List.map_singleton])

/-- Pieces and lines are counted alike, if empty ones do not count. -/
theorem countP_splitOn_eq {counts : List Char → Bool}
    (same : ∀ line, counts (dropReturn '\r' line) = counts line) (empty : counts [] = false)
    (text : List Char) : (text.splitOn '\n').countP counts = (lines text).countP counts := by
  have as_map : ∀ pieces : List (List Char),
      pieces.countP counts = (pieces.map counts).count true := by
    intro pieces
    simp [List.count, List.countP_map, Function.comp_def]
  rw [as_map, as_map]
  rcases map_splitOn_eq same text with all | one_more
  · rw [all]
  · rw [one_more, empty, List.count_append]
    rfl

/-- With a line feed after it, a text has a line for each of its pieces. -/
theorem lines_append_feed (text : List Char) :
    lines (text ++ ['\n']) = (text.splitOn '\n').map (dropReturn '\r') := by
  have closed : ∀ pieces : List (List Char),
      closeLines '\r' (pieces ++ [[]]) = pieces.map (dropReturn '\r') := by
    intro pieces
    induction pieces with
    | nil => rfl
    | cons first rest ih =>
        rw [List.map_cons, ← ih]
        cases rest <;> rfl
  rw [lines, cutLines, List.splitOn_append_cons_self, List.splitOn_nil, closed]

/-- A text that ends with a line feed has its lines, whatever follows. -/
theorem lines_append {front : List Char} (ends : front = [] ∨ front.getLast? = some '\n')
    (rest : List Char) : lines (front ++ rest) = lines front ++ lines rest := by
  rcases ends with rfl | ends
  · rfl
  · obtain ⟨ended, rfl⟩ := List.getLast?_eq_some_iff.mp ends
    rw [List.append_assoc, List.singleton_append]
    induction ended using cut_induction '\n' with
    | single only free =>
        rw [lines_append_newline free, lines_append_newline free, lines_nil]
        rfl
    | cut first others free ih =>
        have step := ih (by simp)
        rw [List.append_assoc, List.cons_append, List.append_assoc, List.cons_append,
          lines_append_newline free, lines_append_newline free, step]
        rfl

/-- Lines that are written one after the other are read back, if they hold no line feeds and
no carriage return would be taken for a part of their ends. -/
theorem lines_flatMap_append_newline {α : Type} {written : α → List Char} {items : List α}
    (one_line : ∀ item ∈ items, '\n' ∉ written item ∧ (written item).getLast? ≠ some '\r') :
    lines (items.flatMap fun item => written item ++ ['\n']) = items.map written := by
  induction items with
  | nil => rfl
  | cons item others ih =>
      obtain ⟨⟨free, unreturned⟩, others_one_line⟩ := List.forall_mem_cons.mp one_line
      rw [List.flatMap_cons, List.append_assoc, List.singleton_append,
        lines_append_newline free, ih others_one_line, dropReturn, if_neg unreturned,
        List.map_cons]

end TopicGuard.Text
