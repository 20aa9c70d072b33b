import TopicGuard.Config
import TopicGuard.Text.Blank
import TopicGuard.Text.Numeral
import TopicGuard.Text.Quoted

/-!
# Configuration from options

A broker hands its plugins options, which are texts under names.  Five of them
are settings of this library.  The two paths are taken as they are; of the other
three the blanks at both ends do not count.  Those three are read in a fixed
order, and the first that cannot be understood is reported as it was given; only
then is a missing password file.
-/

namespace TopicGuard

/-- Why options are no configuration. -/
inductive OptionError where
  /-- The value of this option cannot be understood. -/
  | invalidValue (key value : String)
  /-- No password file is named. -/
  | missingPasswordPath
  deriving Repr, DecidableEq

/-- What is wrong with options, in words. -/
def OptionError.message : OptionError → String
  | .invalidValue key value =>
      "invalid value " ++ Text.quote value ++ " for option " ++ key
  | .missingPasswordPath => Config.incompleteMessage

namespace Config

/-- The setting under a key, read from the value without its outer blanks. -/
def setting {α : Type} (options : NameMap String) (key : String) (initial : α)
    (read : List Char → Option α) : Except OptionError α :=
  match options.get? key with
  | none => .ok initial
  | some value =>
      match read (Text.trim value.toList) with
      | some setting => .ok setting
      | none => .error (.invalidValue key value)

/-- The configuration that options ask for. -/
def ofOptions (options : NameMap String) : Except OptionError Config := do
  let unknownUser ← setting options "files_unknown_acl_user" initial.unknownUser
    Acl.UnknownUserPolicy.ofName?
  let subscribe ← setting options "files_subscribe_policy" initial.subscribe
    SubscribePolicy.ofName?
  let hashCost ← setting options "files_hash_cost" initial.hashCost Text.unsignedWord?
  let config : Config :=
    ⟨options.get? "password_path", options.get? "acl_path", unknownUser, subscribe, hashCost⟩
  if config.isComplete then .ok config else .error .missingPasswordPath

end Config

end TopicGuard
