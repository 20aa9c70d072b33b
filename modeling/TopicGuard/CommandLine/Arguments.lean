/-!
# Arguments of a command line

A command line is read from left to right against the options that a level of it
knows.  An option that takes a value has it attached (`--name=value`, `-nvalue`,
`-n=value`) or in the next argument, unless that argument looks like an option
itself.  No option is given twice at one level.  Asking for help or for the
version settles the matter at once, if nothing was wrong before.

A value in an argument of its own is taken in only when the next option is met or
the level ends.  So whatever a subcommand has to say comes before a complaint
about the last option in front of it.
-/

namespace TopicGuard.CommandLine

/-- What an option does. -/
inductive OptionKind where
  /-- It stands by itself. -/
  | flag
  /-- It takes a value, which has to pass a test. -/
  | value (accepts : String → Bool)
  /-- It asks for help. -/
  | help
  /-- It asks for the version. -/
  | version

/-- An option that a level of a command line knows. -/
structure OptionSpec where
  long : String
  short : Option Char
  kind : OptionKind

/-- Why a command line is not carried out. -/
inductive Stop where
  /-- It is wrong. -/
  | usage
  /-- It asks for help. -/
  | help
  /-- It asks for the version. -/
  | version
  deriving Repr, DecidableEq

/-- A value on its way to an option. -/
inductive Pending where
  | nothing
  /-- The value of this option has to come. -/
  | awaiting (option : OptionSpec)
  /-- The value of this option has come and is still to be taken in. -/
  | held (option : OptionSpec) (value : String)

/-- What has been read of a level. -/
structure Level where
  /-- The options given so far, with their values. -/
  given : List (String × String)
  /-- The value on its way. -/
  pending : Pending

namespace Level

/-- The level before its first argument. -/
def start : Level :=
  ⟨[], .nothing⟩

/-- The value given to an option. -/
def value? (level : Level) (long : String) : Option String :=
  level.given.lookup long

/-- Whether an option is given. -/
def isGiven (level : Level) (long : String) : Bool :=
  (level.value? long).isSome

/-- Take in a value for an option. -/
def give (level : Level) (option : OptionSpec) (value : String) : Except Stop Level :=
  if level.isGiven option.long then .error .usage
  else .ok ⟨(option.long, value) :: level.given, .nothing⟩

/-- Take in a value for an option if the option accepts it. -/
def giveTested (level : Level) (option : OptionSpec) (value : String) :
    Except Stop Level :=
  match option.kind with
  | .value accepts => if accepts value then level.give option value else .error .usage
  | _ => .error .usage

/-- Take in the value on its way. -/
def settle (level : Level) : Except Stop Level :=
  match level.pending with
  | .nothing => .ok level
  | .awaiting _ => .error .usage
  | .held option value => ({ level with pending := .nothing } : Level).giveTested option value

/-- Read an option that stands by itself. -/
def flag (level : Level) (option : OptionSpec) : Except Stop Level := do
  let level ← level.settle
  match option.kind with
  | .help => .error .help
  | .version => .error .version
  | .flag => level.give option ""
  | .value _ => .error .usage

/-- Read an option that takes a value, which may be attached. -/
def option (level : Level) (option : OptionSpec) (attached : Option String) :
    Except Stop Level := do
  let level ← level.settle
  match attached with
  | some value => level.giveTested option value
  | none => .ok { level with pending := .awaiting option }

end Level

/-- Whether an option takes a value. -/
def OptionSpec.takesValue (option : OptionSpec) : Bool :=
  match option.kind with
  | .value _ => true
  | _ => false

/-- The name and the attached value in a long option without its dashes. -/
def splitAttached (text : List Char) : String × Option String :=
  match text.dropWhile (· != '=') with
  | [] => (String.ofList text, none)
  | _ :: value => (String.ofList (text.takeWhile (· != '=')), some (String.ofList value))

/-- Read a long option, given without its dashes. -/
def readLong (options : List OptionSpec) (level : Level) (text : List Char) :
    Except Stop Level :=
  let (name, attached) := splitAttached text
  match options.find? (fun option => option.long == name) with
  | none => .error .usage
  | some option =>
      if option.takesValue then level.option option attached
      else if attached.isSome then .error .usage
      else level.flag option

/-- The value attached to a short option. -/
def attachedShort : List Char → Option String
  | [] => none
  | '=' :: value => some (String.ofList value)
  | value => some (String.ofList value)

/-- Read short options, given without their dash.  The first that takes a value
takes all the rest. -/
def readShort (options : List OptionSpec) (level : Level) : List Char → Except Stop Level
  | [] => .ok level
  | name :: rest =>
      match options.find? (fun option => option.short == some name) with
      | none => .error .usage
      | some option =>
          if option.takesValue then level.option option (attachedShort rest)
          else
            match level.flag option with
            | .error stop => .error stop
            | .ok level => readShort options level rest

/-- Where a level ends. -/
inductive LevelEnd where
  /-- At the end of the command line. -/
  | finished
  /-- At the name of a subcommand, with the arguments after it. -/
  | subcommand (name : String) (rest : List String)
  deriving Repr, DecidableEq

/-- Read an argument that is no option. -/
def readPlain (level : Level) (argument : String) : Except Stop Level :=
  match level.pending with
  | .awaiting option => .ok { level with pending := .held option argument }
  | _ => .error .usage

/-- Read an argument that is no subcommand.  After a bare pair of dashes nothing may
follow. -/
def readArgument (options : List OptionSpec) (level : Level) (argument : String)
    (isLast : Bool) : Except Stop Level :=
  match argument.toList with
  | ['-', '-'] => if isLast then .ok level else .error .usage
  | '-' :: '-' :: text => readLong options level text
  | '-' :: name :: text => readShort options level (name :: text)
  | _ => readPlain level argument

/-- Whether the value of an option has to come. -/
def Level.isAwaiting (level : Level) : Bool :=
  match level.pending with
  | .awaiting _ => true
  | _ => false

/-- Read the arguments of a level. -/
def readLevel (options : List OptionSpec) (subcommands : List String) (level : Level) :
    List String → Except Stop (Level × LevelEnd)
  | [] => .ok (level, .finished)
  | argument :: rest =>
      if !level.isAwaiting && subcommands.contains argument then
        .ok (level, .subcommand argument rest)
      else
        match readArgument options level argument rest.isEmpty with
        | .error stop => .error stop
        | .ok level => readLevel options subcommands level rest

end TopicGuard.CommandLine
