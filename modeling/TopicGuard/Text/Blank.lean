/-!
# Blank characters

The blanks of this library are the characters with the Unicode property
`White_Space`.  Every notion of a trimmed text, a word, a field or an empty line
is built on this one test, so that the readers agree on where words begin and
end.
-/

namespace TopicGuard.Text

/-- Whether a character has the Unicode property `White_Space`. -/
def isBlank (c : Char) : Bool :=
  let n := c.toNat
  (0x09 ≤ n && n ≤ 0x0D) || n == 0x20 || n == 0x85 || n == 0xA0 || n == 0x1680 ||
    (0x2000 ≤ n && n ≤ 0x200A) || n == 0x2028 || n == 0x2029 || n == 0x202F ||
    n == 0x205F || n == 0x3000

/-- The characters that may stand in a word. -/
def isInk (c : Char) : Bool :=
  !isBlank c

@[simp]
theorem isInk_eq_not_isBlank (c : Char) : isInk c = !isBlank c :=
  rfl

/-- A text without the blanks at its start. -/
def trimStart (text : List Char) : List Char :=
  text.dropWhile isBlank

/-- A text without the blanks at its end. -/
def trimEnd (text : List Char) : List Char :=
  (text.reverse.dropWhile isBlank).reverse

/-- A text without the blanks at either end. -/
def trim (text : List Char) : List Char :=
  trimEnd (trimStart text)

/-- Whether a line says nothing: it is blank, or its first visible character
starts a comment. -/
def isInert (line : List Char) : Bool :=
  match trimStart line with
  | [] => true
  | c :: _ => c == '#'

end TopicGuard.Text
