/-!
# Lines

A text is cut into lines at each line feed.  One carriage return directly before
a line feed belongs to the line's end and is dropped; a carriage return at the
end of a text that has no final line feed stays.  A text that ends with a line
feed has no further empty line after it.  Bytes are cut into lines by the same
rule before they are read as characters.
-/

namespace TopicGuard.Text

/-! ## Cutting -/

section

variable {α : Type} [DecidableEq α]

/-- A line without the carriage return of its end. -/
def dropReturn (carriage : α) (line : List α) : List α :=
  if line.getLast? = some carriage then line.dropLast else line

/-- Close the pieces between line feeds into lines: every piece but the last one
was ended by a line feed, and an empty last piece is no line. -/
def closeLines (carriage : α) : List (List α) → List (List α)
  | [] => []
  | [last] => if last.isEmpty then [] else [last]
  | piece :: next :: rest =>
      dropReturn carriage piece :: closeLines carriage (next :: rest)

/-- Cut at each line feed, given what stands for a line feed and for a carriage
return. -/
def cutLines (feed carriage : α) (text : List α) : List (List α) :=
  closeLines carriage (text.splitOn feed)

@[simp]
theorem dropReturn_append_return (carriage : α) (line : List α) :
    dropReturn carriage (line ++ [carriage]) = line := by
  simp [dropReturn]

/-- Lines are cut off one at a time. -/
theorem cutLines_append_feed (carriage : α) {feed : α} {line : List α}
    (free : feed ∉ line) (rest : List α) :
    cutLines feed carriage (line ++ feed :: rest) =
      dropReturn carriage line :: cutLines feed carriage rest := by
  simp only [cutLines, List.splitOn_append_cons_self_of_not_mem free]
  cases pieces_eq : rest.splitOn feed with
  | nil => exact absurd pieces_eq (List.splitOn_ne_nil feed rest)
  | cons piece pieces => simp [closeLines]

/-- What holds no line feed is one line, unless it is empty. -/
theorem cutLines_of_not_mem (carriage : α) {feed : α} {text : List α}
    (free : feed ∉ text) (nonempty : text ≠ []) :
    cutLines feed carriage text = [text] := by
  cases text with
  | nil => exact absurd rfl nonempty
  | cons c rest => simp [cutLines, List.splitOn_eq_singleton free, closeLines]

end

/-! ## Lines of characters -/

/-- The lines of a text. -/
def lines (text : List Char) : List (List Char) :=
  cutLines '\n' '\r' text

@[simp]
theorem lines_nil : lines [] = [] :=
  rfl

/-- Lines are found one at a time. -/
theorem lines_append_newline {line : List Char} (free : '\n' ∉ line)
    (rest : List Char) :
    lines (line ++ '\n' :: rest) = dropReturn '\r' line :: lines rest :=
  cutLines_append_feed '\r' free rest

/-- A text without a line feed is its only line, unless it is empty. -/
theorem lines_of_not_mem {text : List Char} (free : '\n' ∉ text)
    (nonempty : text ≠ []) : lines text = [text] :=
  cutLines_of_not_mem '\r' free nonempty

/-! ## Lines of bytes -/

/-- The lines of some bytes. -/
def byteLines (bytes : List UInt8) : List (List UInt8) :=
  cutLines 0x0A 0x0D bytes

/-- Some bytes up to their last line feed, and those after it. -/
def splitAtLastFeed (bytes : List UInt8) : List UInt8 × List UInt8 :=
  let unended := (bytes.reverse.takeWhile (· != 0x0A)).reverse
  (bytes.take (bytes.length - unended.length), unended)

@[simp]
theorem byteLines_nil : byteLines [] = [] :=
  rfl

end TopicGuard.Text
