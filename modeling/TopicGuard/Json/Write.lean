/-!
# Writing JSON

A JSON text is written without white space.  In a string only what cannot stand for itself
is escaped: the quote, the backslash and the controls, of which some have a short escape.
-/

namespace TopicGuard.Json

/-- What a character is in a string. -/
def escapedChar (c : Char) : List Char :=
  if c = '"' then ['\\', '"']
  else if c = '\\' then ['\\', '\\']
  else if c = '\x08' then ['\\', 'b']
  else if c = '\x0c' then ['\\', 'f']
  else if c = '\n' then ['\\', 'n']
  else if c = '\r' then ['\\', 'r']
  else if c = '\t' then ['\\', 't']
  else if c.toNat < 0x20 then
    ['\\', 'u', '0', '0', Nat.digitChar (c.toNat / 16), Nat.digitChar (c.toNat % 16)]
  else [c]

/-- The string of a text. -/
def stringText (text : String) : List Char :=
  '"' :: (text.toList.flatMap escapedChar ++ ['"'])

/-- The object of some members, each with the text of its value. -/
def objectText (members : List (String × List Char)) : List Char :=
  '\x7b' :: ([','].intercalate
      (members.map fun member => stringText member.1 ++ ':' :: member.2) ++ ['\x7d'])

end TopicGuard.Json
