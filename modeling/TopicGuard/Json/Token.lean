/-!
# JSON tokens

A JSON text is cut into tokens one character at a time.  The scanner stands
between tokens or inside a string, an escape, a number or a word, so what it does
with a text is settled by where it stands, and a text may be scanned in parts.

A string token keeps its `\u` escapes as sixteen-bit units.  Only a string whose
text is asked for needs them to pair up into characters; any other string is a
string whatever units it holds.  A number token keeps its value only if it is
written with digits alone.
-/

namespace TopicGuard.Json

/-- A part of a string. -/
inductive Piece where
  /-- A character, as it is or behind a short escape. -/
  | char (c : Char)
  /-- A sixteen-bit unit, from four hexadecimal digits. -/
  | unit (code : Nat)
  deriving Repr, DecidableEq

/-- A token of JSON. -/
inductive Token where
  | openObject
  | closeObject
  | openList
  | closeList
  | colon
  | comma
  | text (pieces : List Piece)
  /-- A number, with its value if it is written with digits alone. -/
  | number (value : Option Nat)
  | bool (value : Bool)
  | null
  deriving Repr, DecidableEq

/-- Where the scanner stands in a number. -/
inductive NumberPart where
  | minus
  | zero
  | whole
  | point
  | fraction
  | exponent
  | exponentSign
  | exponentDigits
  deriving Repr, DecidableEq

/-- Where the scanner stands.  The pieces of a string and the letters of a word are
kept in reverse. -/
inductive Place where
  | between
  | string (pieces : List Piece)
  | escape (pieces : List Piece)
  | hex (pieces : List Piece) (digits code : Nat)
  | number (part : NumberPart) (value : Option Nat)
  | word (letters : List Char)
  deriving Repr, DecidableEq

/-- Whether a character may stand between tokens. -/
def isSpace (c : Char) : Bool :=
  c == ' ' || c == '\t' || c == '\n' || c == '\r'

/-- The value of a hexadecimal digit. -/
def hexValue? (c : Char) : Option Nat :=
  if c.isDigit then some (c.toNat - '0'.toNat)
  else if 'a' ≤ c ∧ c ≤ 'f' then some (c.toNat - 'a'.toNat + 10)
  else if 'A' ≤ c ∧ c ≤ 'F' then some (c.toNat - 'A'.toNat + 10)
  else none

/-- The character that a short escape stands for. -/
def shortEscape? : Char → Option Char
  | '"' => some '"'
  | '\\' => some '\\'
  | '/' => some '/'
  | 'b' => some '\x08'
  | 'f' => some '\x0c'
  | 'n' => some '\n'
  | 'r' => some '\r'
  | 't' => some '\t'
  | _ => none

/-- The token of a word. -/
def wordToken? (letters : List Char) : Option Token :=
  if letters = "true".toList then some (.bool true)
  else if letters = "false".toList then some (.bool false)
  else if letters = "null".toList then some .null
  else none

/-- The place after the first character of a token, and the token if that is all
of it. -/
def start? (c : Char) : Option (List Token × Place) :=
  match c with
  | '\x7b' => some ([.openObject], .between)
  | '\x7d' => some ([.closeObject], .between)
  | '[' => some ([.openList], .between)
  | ']' => some ([.closeList], .between)
  | ':' => some ([.colon], .between)
  | ',' => some ([.comma], .between)
  | '"' => some ([], .string [])
  | '-' => some ([], .number .minus none)
  | '0' => some ([], .number .zero (some 0))
  | c =>
      if c.isDigit then some ([], .number .whole (some (c.toNat - '0'.toNat)))
      else if c.isLower then some ([], .word [c])
      else if isSpace c then some ([], .between)
      else none

/-- Where a number goes on with a character, if it does. -/
def numberNext? (part : NumberPart) (c : Char) : Option NumberPart :=
  match part with
  | .minus => if c = '0' then some .zero else if c.isDigit then some .whole else none
  | .zero =>
      if c = '.' then some .point else if c = 'e' ∨ c = 'E' then some .exponent else none
  | .whole =>
      if c.isDigit then some .whole
      else if c = '.' then some .point
      else if c = 'e' ∨ c = 'E' then some .exponent
      else none
  | .point => if c.isDigit then some .fraction else none
  | .fraction =>
      if c.isDigit then some .fraction
      else if c = 'e' ∨ c = 'E' then some .exponent
      else none
  | .exponent =>
      if c = '+' ∨ c = '-' then some .exponentSign
      else if c.isDigit then some .exponentDigits
      else none
  | .exponentSign => if c.isDigit then some .exponentDigits else none
  | .exponentDigits => if c.isDigit then some .exponentDigits else none

/-- Whether a number may end here before a character.  A zero does not end before
another digit. -/
def numberEnds (part : NumberPart) (c : Option Char) : Bool :=
  match part with
  | .zero => !c.any Char.isDigit
  | .whole | .fraction | .exponentDigits => true
  | .minus | .point | .exponent | .exponentSign => false

/-- The value of a number with one more character. -/
def numberValue (part : NumberPart) (value : Option Nat) (c : Char) : Option Nat :=
  match part with
  | .whole => value.map (fun n => 10 * n + (c.toNat - '0'.toNat))
  | _ => none

/-- The tokens that end with a character, and the place after it. -/
def step (place : Place) (c : Char) : Option (List Token × Place) :=
  match place with
  | .between => start? c
  | .string pieces =>
      if c = '"' then some ([.text pieces.reverse], .between)
      else if c = '\\' then some ([], .escape pieces)
      else if c.toNat < 0x20 then none
      else some ([], .string (.char c :: pieces))
  | .escape pieces =>
      if c = 'u' then some ([], .hex pieces 4 0)
      else (shortEscape? c).map fun escaped => ([], .string (.char escaped :: pieces))
  | .hex pieces digits code =>
      (hexValue? c).map fun value =>
        if digits ≤ 1 then ([], .string (.unit (16 * code + value) :: pieces))
        else ([], .hex pieces (digits - 1) (16 * code + value))
  | .number part value =>
      match numberNext? part c with
      | some next => some ([], .number next (numberValue next value c))
      | none =>
          if numberEnds part (some c) then
            (start? c).map fun (tokens, next) => (.number value :: tokens, next)
          else none
  | .word letters =>
      if c.isLower then some ([], .word (c :: letters))
      else
        (wordToken? letters.reverse).bind fun token =>
          (start? c).map fun (tokens, next) => (token :: tokens, next)

/-- The tokens that end where the text ends. -/
def finish? : Place → Option (List Token)
  | .between => some []
  | .number part value => if numberEnds part none then some [.number value] else none
  | .word letters => (wordToken? letters.reverse).map ([·])
  | .string _ | .escape _ | .hex _ _ _ => none

/-- Scan a text from some place.  The tokens found so far are `done`, the last one
first. -/
def scanFrom (done : List Token) (place : Place) : List Char → Option (List Token)
  | [] => (finish? place).map (fun last => done.reverse ++ last)
  | c :: rest =>
      match step place c with
      | none => none
      | some (tokens, next) => scanFrom (tokens.reverse ++ done) next rest

/-- The tokens of a text, if it can be cut into tokens. -/
def scan? (text : List Char) : Option (List Token) :=
  scanFrom [] .between text

/-- Whether a unit is the first half of a pair. -/
def isHighUnit (code : Nat) : Bool :=
  0xD800 ≤ code && code < 0xDC00

/-- Whether a unit is the second half of a pair. -/
def isLowUnit (code : Nat) : Bool :=
  0xDC00 ≤ code && code < 0xE000

/-- Put the pieces of a string, given in reverse, before a text.  A second half
waits for the first half that has to stand before it. -/
def textBefore (low : Option Nat) (after : List Char) : List Piece → Option (List Char)
  | [] => if low.isNone then some after else none
  | .char c :: pieces => if low.isNone then textBefore none (c :: after) pieces else none
  | .unit code :: pieces =>
      match low with
      | some low =>
          if isHighUnit code then
            textBefore none
              (Char.ofNat (0x10000 + (code - 0xD800) * 0x400 + (low - 0xDC00)) :: after) pieces
          else none
      | none =>
          if isLowUnit code then textBefore (some code) after pieces
          else if isHighUnit code then none
          else textBefore none (Char.ofNat code :: after) pieces

/-- The text of a string, if its units pair up. -/
def textOf? (pieces : List Piece) : Option String :=
  (textBefore none [] pieces.reverse).map String.ofList

end TopicGuard.Json
