import TopicGuard.CommandLine.Command
import TopicGuard.CommandLine.Failure
import TopicGuard.Config.Json
import TopicGuard.Session

/-!
# Running commands

What a command does is a function of its arguments, of the files it can read, of
its input and of the random bytes for a new hash.  A command that is carried out
ends with zero, one that fails with one, and a wrong command line ends with two
before anything is read.
-/

namespace TopicGuard

open Text (Bytes)

/-- What a run of the program leaves behind. -/
structure Outcome where
  /-- How the run ends. -/
  exit : UInt32
  /-- What it writes. -/
  output : String
  /-- What it reports, if it fails. -/
  failure : Option Failure
  deriving Repr, DecidableEq

namespace CommandLine

/-- The name and the version of the program. -/
def versionText : String :=
  "sentinel-mqtt-acl 0.1.0\n"

/-- How the program is used. -/
def helpText : String :=
  String.join <| List.map (· ++ "\n")
    ["Password and ACL file backend for MQTT brokers",
      "",
      "Usage: sentinel-mqtt-acl [--log-level <LEVEL>] [--json-logs] <COMMAND>",
      "",
      "Commands:",
      "  hash   --password <PASSWORD> [--cost <COST>]",
      "  check  --config <FILE> | --password-file <FILE> [--acl-file <FILE>]",
      "  serve  --config <FILE> | --password-file <FILE> [--acl-file <FILE>]",
      "  help   [COMMAND]"]

/-- The end of a run that succeeds. -/
def succeed (output : String) : Outcome :=
  ⟨0, output, none⟩

/-- The end of a run that fails after some output. -/
def fail (output : String) (failure : Failure) : Outcome :=
  ⟨1, output, some failure⟩

/-- The end of a run without a command. -/
def stop : Stop → Outcome
  | .usage => ⟨2, "", none⟩
  | .help => succeed helpText
  | .version => succeed versionText

/-- The configuration in a file. -/
def readConfig (files : Files) (path : String) : Except Failure Config :=
  let unreadable := fun message : String =>
    (⟨"Failed to read config file: " ++ path, [message]⟩ : Failure)
  match files path with
  | .error fault => .error (unreadable fault.message)
  | .ok bytes =>
      match Text.Utf8.decode? bytes with
      | none => .error (unreadable "stream did not contain valid UTF-8")
      | some text =>
          match Config.ofJsonText? (String.ofList text) with
          | none =>
              .error ⟨"Failed to parse config file: " ++ path, ["not a configuration"]⟩
          | some config => .ok config

/-- The configuration of a command, which has to be complete. -/
def loadConfig (files : Files) (source : ConfigSource) : Except Failure Config := do
  let config ← match source with
    | .file path => readConfig files path
    | .paths passwordPath aclPath => .ok (Config.forFiles passwordPath aclPath)
  if config.isComplete then return config
  else throw ⟨"Invalid configuration", [Config.incompleteMessage]⟩

/-- A line of a report. -/
def reportLine (label : String) (count : Nat) : String :=
  label ++ ": " ++ toString count ++ "\n"

/-- The report on what was read from the files. -/
def checkReport (store : Store) : String :=
  reportLine "users" store.stats.users ++
    (match store.rules with
    | none => "acl: disabled\n"
    | some rules =>
        reportLine "acl rules" store.stats.aclRules ++
          reportLine "  user rules" rules.userCount ++
          reportLine "  common rules" rules.common.length ++
          reportLine "  pattern rules" rules.pattern.length) ++
    reportLine "malformed lines" store.stats.malformedLines

/-- Print a new hash. -/
def runHash (salt : Bcrypt.Salt) (password : String) (cost : UInt32) : Outcome :=
  match Bcrypt.hash salt cost password with
  | .ok text => succeed (text ++ "\n")
  | .error error =>
      fail "" ⟨"Failed to hash password",
        ["password hashing failed: " ++ error.message, error.message]⟩

/-- Load the files once and report what was read. -/
def runCheck (files : Files) (source : ConfigSource) : Outcome :=
  match loadConfig files source with
  | .error failure => fail "" failure
  | .ok config =>
      match Store.load files config with
      | .error error => fail "" (.ofLoadError error)
      | .ok store => succeed (checkReport store)

/-- The backend that queries are answered from. -/
def openBackend (files : Files) (source : ConfigSource) : Except Failure Backend :=
  match loadConfig files source with
  | .error failure => .error failure
  | .ok config =>
      match Backend.load .bcrypt files config with
      | .error error => .error (.ofLoadError error)
      | .ok backend => .ok backend

/-- The end of a session. -/
def endSession (transcript : Session.Transcript) : Outcome :=
  match transcript.fault with
  | none => succeed transcript.output
  | some fault => fail transcript.output ⟨fault.message, []⟩

/-- Answer the queries of some input. -/
def runServe (files : Files) (source : ConfigSource) (input : Bytes) : Outcome :=
  match openBackend files source with
  | .error failure => fail "" failure
  | .ok backend => endSession (Session.serve files backend input)

/-- Answer queries beside a file tree that changes. -/
def runSession (tree : FileTree) (source : ConfigSource) (steps : List Session.Step) :
    Outcome :=
  match openBackend tree.read source with
  | .error failure => fail "" failure
  | .ok backend =>
      endSession (Session.serveFrom [] backend (Session.events tree steps))

/-- Run the program. -/
def run (files : Files) (input : Bytes) (salt : Bcrypt.Salt) (arguments : List String) :
    Outcome :=
  match read arguments with
  | .error reason => stop reason
  | .ok (.hash password cost) => runHash salt password cost
  | .ok (.check source) => runCheck files source
  | .ok (.serve source) => runServe files source input

end CommandLine

end TopicGuard
