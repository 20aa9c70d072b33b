import TopicGuard.Text.Utf8

/-!
# Source files as text

A source file is read as bytes and turned into text one line at a time.  A line
that is not UTF-8 is read as an empty line, so all other lines keep their
numbers.  Such a line counts as malformed unless it is a comment: its first byte
that is no ASCII blank is a number sign.
-/

namespace TopicGuard

open Text (Bytes)

/-- The text of a source file. -/
structure Source where
  /-- The text, with empty lines for those that are not UTF-8. -/
  text : String
  /-- How many lines are neither UTF-8 nor a comment. -/
  undecodable : Nat
  deriving Repr, DecidableEq

namespace Source

/-- Whether a byte is an ASCII blank. -/
def isBlankByte (b : UInt8) : Bool :=
  b == 0x20 || b == 0x09 || b == 0x0A || b == 0x0C || b == 0x0D

/-- Whether a line of bytes is a comment. -/
def isComment (line : Bytes) : Bool :=
  line.find? (fun b => !isBlankByte b) == some 0x23

/-- The text of a line. -/
def lineText (line : Bytes) : List Char :=
  (Text.Utf8.decode? line).getD []

/-- Whether a line counts as malformed because of its bytes. -/
def isUndecodable (line : Bytes) : Bool :=
  (Text.Utf8.decode? line).isNone && !isComment line

/-- The text of the bytes of a source file. -/
def ofBytes (bytes : Bytes) : Source :=
  let lines := bytes.splitOn 0x0A
  { text := String.ofList (['\n'].intercalate (lines.map lineText))
    undecodable := lines.countP isUndecodable }

end Source

end TopicGuard
