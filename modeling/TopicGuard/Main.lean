import TopicGuard.CommandLine.Run

/-!
# The program

The outer layer fetches what a command needs from the system, hands it to the
functions that say what the command does, and writes what they answer.  Nothing
is decided here.

This layer cannot receive the signals of the system: it installs no handler for a
hangup, which ends the program as it does by default.  What a session does after a
hangup is `Session.hangup`, and only the sessions of `Session.State.run` and
`Session.serveFrom` reach it.
-/

namespace TopicGuard.Program

open Text (Bytes)

/-- A fault of the file system, from the code and the words of the system. -/
def faultOfCode (code : UInt32) (details : String) : FileFault :=
  match code.toNat with
  | 2 => .notFound
  | 20 => .notDirectory
  | 21 => .isDirectory
  | 36 => .nameTooLong
  | code => .other (details ++ " (os error " ++ toString code ++ ")")

/-- A fault of the file system. -/
def faultOfError : IO.Error → FileFault
  | .noFileOrDirectory _ code details
  | .inappropriateType _ code details
  | .invalidArgument _ code details
  | .permissionDenied _ code details
  | .resourceExhausted _ code details
  | .noSuchThing _ code details
  | .interrupted _ code details
  | .otherError code details
  | .resourceBusy code details
  | .hardwareFault code details
  | .illegalOperation code details => faultOfCode code details
  | error => .other (toString error)

/-- Read a file. -/
def readFile (path : String) : IO (Except FileFault Bytes) := do
  if path.toList.contains '\x00' then return .error .zeroInPath
  try
    let handle ← IO.FS.Handle.mk path .read
    return .ok (← handle.readBinToEnd).toList
  catch error =>
    return .error (faultOfError error)

/-- What reading each of some paths gives now. -/
def readFiles (paths : List String) : IO Files := do
  let contents ← paths.mapM fun path => return (path, ← readFile path)
  return fun path => (contents.lookup path).getD (.error .notFound)

/-- The paths that a configuration names. -/
def pathsOf (config : Config) : List String :=
  config.passwordPath.toList ++ config.aclPath.toList

/-- What reading the files of a command gives now. -/
def readFilesOf (source : ConfigSource) : IO Files := do
  let configPaths := match source with
    | .file path => [path]
    | .paths _ _ => []
  let files ← readFiles configPaths
  match CommandLine.loadConfig files source with
  | .error _ => return files
  | .ok config =>
      let sources ← readFiles (pathsOf config)
      return fun path => if configPaths.contains path then files path else sources path

/-- Random bytes for a new hash. -/
def newSalt : IO Bcrypt.Salt := do
  let bytes ← IO.getRandomBytes 16
  return Vector.ofFn fun i => bytes.data[i.val]?.getD 0

/-- Write the end of a run. -/
def finish (outcome : Outcome) : IO UInt32 := do
  let output ← IO.getStdout
  output.putStr outcome.output
  output.flush
  match outcome.failure with
  | some failure => IO.eprintln failure.report
  | none => if outcome.exit == 2 then IO.eprint CommandLine.helpText
  return outcome.exit

/-- Answer some lines.  The backend after them is given, or how the run ends. -/
def answerLines (output : IO.FS.Stream) (backend : Backend) :
    List Bytes → IO (Except Outcome Backend)
  | [] => return .ok backend
  | bytes :: rest => do
      match Text.Utf8.decode bytes with
      | .error fault => return .error (CommandLine.fail "" ⟨fault.message, []⟩)
      | .ok line =>
          let files ← readFiles
            (if Query.read? line = some .reload then pathsOf backend.config else [])
          let (next, reply) := Session.answerLine files backend line
          if let some reply := reply then
            output.putStr (reply ++ "\n")
            output.flush
          answerLines output next rest

/-- Answer the lines that are still to come, after some bytes that no line feed has
ended yet. -/
partial def serve (input output : IO.FS.Stream) (backend : Backend) (waiting : Bytes) :
    IO UInt32 := do
  let bytes ← input.read 65536
  let (ended, left) := Text.splitAtLastFeed (waiting ++ bytes.toList)
  let atEnd := bytes.isEmpty
  match ← answerLines output backend (Text.byteLines (if atEnd then waiting else ended)) with
  | .error outcome => finish outcome
  | .ok next => if atEnd then finish (CommandLine.succeed "") else serve input output next left

end TopicGuard.Program

/-- Run the program with some arguments. -/
def main (arguments : List String) : IO UInt32 := do
  match TopicGuard.CommandLine.read arguments with
  | .ok (.serve source) =>
      let files ← TopicGuard.Program.readFilesOf source
      match TopicGuard.CommandLine.openBackend files source with
      | .error failure => TopicGuard.Program.finish (TopicGuard.CommandLine.fail "" failure)
      | .ok backend =>
          TopicGuard.Program.serve (← IO.getStdin) (← IO.getStdout) backend []
  | .ok (.check source) =>
      TopicGuard.Program.finish
        (TopicGuard.CommandLine.runCheck (← TopicGuard.Program.readFilesOf source) source)
  | .ok (.hash password cost) =>
      TopicGuard.Program.finish
        (TopicGuard.CommandLine.runHash (← TopicGuard.Program.newSalt) password cost)
  | .error reason => TopicGuard.Program.finish (TopicGuard.CommandLine.stop reason)
