import TopicGuard.Access
import TopicGuard.Acl.File

/-!
# Configuration

A configuration names the two files, says how their doubtful cases are settled,
and gives the cost of new password hashes.  The password file has to be named;
without an ACL file every request is allowed.
-/

namespace TopicGuard

/-- The settings of a guard over files. -/
structure Config where
  /-- The password file. -/
  passwordPath : Option String
  /-- The ACL file. -/
  aclPath : Option String
  /-- What becomes of rules for a user without a password. -/
  unknownUser : Acl.UnknownUserPolicy
  /-- Which rules grant a request to subscribe. -/
  subscribe : SubscribePolicy
  /-- The cost of new password hashes. -/
  hashCost : UInt32
  deriving Repr, DecidableEq

/-- The policy with some name. -/
def Acl.UnknownUserPolicy.ofName? (name : List Char) : Option Acl.UnknownUserPolicy :=
  if name = "permissive".toList then some .permissive
  else if name = "strict".toList then some .strict
  else none

/-- The name of a policy. -/
def Acl.UnknownUserPolicy.name : Acl.UnknownUserPolicy → String
  | .permissive => "permissive"
  | .strict => "strict"

/-- The policy with some name. -/
def SubscribePolicy.ofName? (name : List Char) : Option SubscribePolicy :=
  if name = "strict".toList then some .strict
  else if name = "permissive".toList then some .permissive
  else none

/-- The name of a policy. -/
def SubscribePolicy.name : SubscribePolicy → String
  | .strict => "strict"
  | .permissive => "permissive"

namespace Config

/-- The cost of new password hashes, unless another one is asked for. -/
def defaultHashCost : UInt32 := 10

/-- The settings that hold unless others are given. -/
def initial : Config :=
  ⟨none, none, .permissive, .strict, defaultHashCost⟩

instance : Inhabited Config :=
  ⟨initial⟩

/-- The settings for two files. -/
def forFiles (passwordPath aclPath : Option String) : Config :=
  { initial with passwordPath := passwordPath, aclPath := aclPath }

/-- The password file, if it is named; the empty text names none. -/
def passwordFile? (config : Config) : Option String :=
  config.passwordPath.filter (fun path => path != "")

/-- Whether all that has to be given is given. -/
def isComplete (config : Config) : Bool :=
  config.passwordFile?.isSome

/-- What is wrong with a configuration that is not complete, in words. -/
def incompleteMessage : String :=
  "no password path given"

end Config

end TopicGuard
