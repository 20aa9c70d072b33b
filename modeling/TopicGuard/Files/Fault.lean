import TopicGuard.Text.Utf8

/-!
# Reading files

All that this library asks of a file system is the bytes under a path, or why
they cannot be had.
-/

namespace TopicGuard

/-- Why a file cannot be read. -/
inductive FileFault where
  /-- The path leads nowhere. -/
  | notFound
  /-- The path goes on after something that is no directory. -/
  | notDirectory
  /-- The path leads to a directory. -/
  | isDirectory
  /-- The path, or a name in it, is too long. -/
  | nameTooLong
  /-- The path holds a zero character. -/
  | zeroInPath
  /-- The system gives some other reason. -/
  | other (message : String)
  deriving Repr, DecidableEq

/-- Why a file cannot be read, in the words of the system. -/
def FileFault.message : FileFault → String
  | .notFound => "No such file or directory (os error 2)"
  | .notDirectory => "Not a directory (os error 20)"
  | .isDirectory => "Is a directory (os error 21)"
  | .nameTooLong => "File name too long (os error 36)"
  | .zeroInPath => "file name contained an unexpected NUL byte"
  | .other message => message

/-- What reading each path gives. -/
abbrev Files := String → Except FileFault Text.Bytes

end TopicGuard
