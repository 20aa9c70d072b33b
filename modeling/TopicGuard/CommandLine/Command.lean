import TopicGuard.CommandLine.Arguments
import TopicGuard.Text.Numeral

/-!
# Commands

The program hashes a password, checks two files, or serves queries over them.
The files are named by a configuration file or one by one, but not both.  The
options for logging are known at both levels of the command line; they change
nothing that the program answers.
-/

namespace TopicGuard

/-- Where a command finds its configuration. -/
inductive ConfigSource where
  /-- In this file. -/
  | file (path : String)
  /-- In the command line, as the paths of the two files. -/
  | paths (passwordPath aclPath : Option String)
  deriving Repr, DecidableEq

/-- What the program is to do. -/
inductive Command where
  /-- Print a new hash of a password. -/
  | hash (password : String) (cost : UInt32)
  /-- Load the files once and report what was read. -/
  | check (source : ConfigSource)
  /-- Answer queries. -/
  | serve (source : ConfigSource)
  deriving Repr, DecidableEq

namespace CommandLine

/-- Any text is a value. -/
def anyText (_ : String) : Bool :=
  true

/-- A path is not empty. -/
def isPath (value : String) : Bool :=
  value != ""

/-- A cost is a word. -/
def isCost (value : String) : Bool :=
  (Text.signedWord? value.toList).isSome

/-- The cost of a new hash, unless another one is asked for. -/
def defaultCost : UInt32 := 10

/-- The options for logging. -/
def loggingOptions : List OptionSpec :=
  [⟨"log-level", none, .value anyText⟩, ⟨"json-logs", none, .flag⟩]

/-- The option that asks for help. -/
def helpOption : OptionSpec :=
  ⟨"help", some 'h', .help⟩

/-- The options in front of the subcommand. -/
def topOptions : List OptionSpec :=
  [⟨"version", some 'V', .version⟩, helpOption] ++ loggingOptions

/-- The options of `hash`. -/
def hashOptions : List OptionSpec :=
  [⟨"password", some 'p', .value anyText⟩, ⟨"cost", some 'c', .value isCost⟩, helpOption]
    ++ loggingOptions

/-- The options of `check` and `serve`. -/
def sourceOptions : List OptionSpec :=
  [⟨"config", some 'c', .value isPath⟩, ⟨"password-file", none, .value isPath⟩,
    ⟨"acl-file", none, .value isPath⟩, helpOption] ++ loggingOptions

/-- The subcommands. -/
def subcommands : List String :=
  ["hash", "check", "serve", "help"]

/-- The command `hash` with its options. -/
def hashCommand (level : Level) : Except Stop Command :=
  match level.value? "password" with
  | none => .error .usage
  | some password =>
      let cost := (level.value? "cost").bind fun value => Text.signedWord? value.toList
      .ok (.hash password (cost.getD defaultCost))

/-- Where the options of a command say that its configuration is. -/
def configSource (level : Level) : Except Stop ConfigSource :=
  match level.value? "config" with
  | none => .ok (.paths (level.value? "password-file") (level.value? "acl-file"))
  | some path =>
      if level.isGiven "password-file" || level.isGiven "acl-file" then .error .usage
      else .ok (.file path)

/-- Read the arguments of a subcommand. -/
def readOptions (options : List OptionSpec) (arguments : List String) :
    Except Stop Level := do
  let (level, _) ← readLevel options [] Level.start arguments
  level.settle

/-- What is asked for by the name of a subcommand and the arguments after it. -/
def readSubcommand (name : String) (arguments : List String) : Except Stop Command :=
  match name with
  | "hash" => do hashCommand (← readOptions hashOptions arguments)
  | "check" => do return .check (← configSource (← readOptions sourceOptions arguments))
  | "serve" => do return .serve (← configSource (← readOptions sourceOptions arguments))
  | "help" =>
      match arguments with
      | [] => .error .help
      | [name] => if subcommands.contains name then .error .help else .error .usage
      | _ => .error .usage
  | _ => .error .usage

/-- The command that some arguments give. -/
def read (arguments : List String) : Except Stop Command := do
  let (level, levelEnd) ← readLevel topOptions subcommands Level.start arguments
  match levelEnd with
  | .finished => .error .usage
  | .subcommand name rest => do
      let command ← readSubcommand name rest
      let _ ← level.settle
      return command

end CommandLine

end TopicGuard
