import TopicGuard.Text.Unprintable

/-!
# Quoted text

Names and values from outside are shown in messages between double quotes.  A
quote and a backslash take a backslash, the common controls have short escapes,
and every other character that cannot be seen on its own is written by its code
point, so a message is always one line.
-/

namespace TopicGuard.Text

/-- A code point in lower-case hexadecimal between braces. -/
def codePointEscape (c : Char) : List Char :=
  '\\' :: 'u' :: '\x7b' :: (Nat.toDigits 16 c.toNat ++ ['\x7d'])

/-- One character of a quoted text. -/
def quotedChar (c : Char) : List Char :=
  if c = '"' then ['\\', '"']
  else if c = '\\' then ['\\', '\\']
  else if c = '\t' then ['\\', 't']
  else if c = '\n' then ['\\', 'n']
  else if c = '\r' then ['\\', 'r']
  else if c = '\x00' then ['\\', '0']
  else if isUnprintable c then codePointEscape c
  else [c]

/-- A text between double quotes. -/
def quoted (text : List Char) : List Char :=
  '"' :: (text.flatMap quotedChar ++ ['"'])

/-- A string between double quotes. -/
def quote (text : String) : String :=
  String.ofList (quoted text.toList)

end TopicGuard.Text
