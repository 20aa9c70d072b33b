import TopicGuard.Config
import TopicGuard.Decision
import TopicGuard.Files.Fault
import TopicGuard.Password.File
import TopicGuard.Password.Verifier
import TopicGuard.Store.Source
import TopicGuard.Text.Quoted

/-!
# Stores

A store is what one reading of the two files gives: the stored passwords, the
guard over the rules, and the counts of the reading.  It is built as a whole or
not at all.  The configuration is checked first, then the password file is read,
then the ACL file if one is named, and only then are the two texts understood.
-/

namespace TopicGuard

/-- The file that a reading error is about. -/
inductive SourceKind where
  | passwords
  | acl
  deriving Repr, DecidableEq

/-- The word for a file. -/
def SourceKind.name : SourceKind → String
  | .passwords => "passwords"
  | .acl => "acl"

/-- Why there is no store. -/
inductive LoadError where
  /-- The configuration names no password file. -/
  | missingPasswordPath
  /-- A file cannot be read. -/
  | unreadable (kind : SourceKind) (path : String) (fault : FileFault)
  /-- A strict reading found rules for a user without a password. -/
  | unknownAclUser (unknown : Acl.UnknownUser)
  deriving Repr, DecidableEq

namespace LoadError

/-- What went wrong, in words. -/
def message : LoadError → String
  | .missingPasswordPath => Config.incompleteMessage
  | .unreadable kind path fault =>
      "couldn't open " ++ kind.name ++ " file " ++ path ++ ": " ++ fault.message
  | .unknownAclUser unknown =>
      "acl line " ++ toString unknown.line ++ ": user " ++ Text.quote unknown.name
        ++ " is not in the password file"

/-- What lies behind the error, in words. -/
def cause? : LoadError → Option String
  | .unreadable _ _ fault => some fault.message
  | _ => none

end LoadError

/-- The counts of a reading. -/
structure Stats where
  /-- How many users have a password. -/
  users : Nat
  /-- How many lines state a rule. -/
  aclRules : Nat
  /-- How many lines of both files are malformed. -/
  malformedLines : Nat
  deriving Repr, DecidableEq

/-- The users and rules in force after a reading. -/
structure Store where
  /-- The stored password of each user. -/
  users : NameMap String
  /-- The rules. -/
  acl : Guard
  /-- The counts of the reading. -/
  stats : Stats
  deriving DecidableEq

namespace Store

/-- The store without users that allows everything. -/
def empty : Store :=
  ⟨.empty, .disabled, ⟨0, 0, 0⟩⟩

instance : Inhabited Store :=
  ⟨empty⟩

/-- The store of a password file and an ACL file that have been read. -/
def ofFiles (config : Config) (passwords : Password.File) : Option Acl.File → Store
  | none => ⟨passwords.users, .disabled, ⟨passwords.users.size, 0, passwords.malformed⟩⟩
  | some acl =>
      ⟨passwords.users, .ofRules acl.rules config.subscribe,
        ⟨passwords.users.size, acl.accepted, passwords.malformed + acl.malformed⟩⟩

/-- The store of two texts.  Without a text for the rules everything is allowed. -/
def ofTexts (config : Config) (passwords : String) (acl : Option String) :
    Except LoadError Store :=
  let passwords := Password.File.read passwords
  match acl with
  | none => .ok (ofFiles config passwords none)
  | some text =>
      match Acl.File.read config.unknownUser passwords.users.contains text with
      | .error unknown => .error (.unknownAclUser unknown)
      | .ok acl => .ok (ofFiles config passwords (some acl))

/-- The store with more malformed lines. -/
def addMalformed (store : Store) (count : Nat) : Store :=
  { store with stats := { store.stats with
      malformedLines := store.stats.malformedLines + count } }

/-- Read one of the two files. -/
def readSource (files : Files) (kind : SourceKind) (path : String) :
    Except LoadError Source :=
  match files path with
  | .ok bytes => .ok (Source.ofBytes bytes)
  | .error fault => .error (.unreadable kind path fault)

/-- Read the ACL file, if one is named. -/
def readAcl (files : Files) : Option String → Except LoadError (Option Source)
  | none => .ok none
  | some path => (readSource files .acl path).map some

/-- The store of the files that a configuration names. -/
def load (files : Files) (config : Config) : Except LoadError Store :=
  match config.passwordFile? with
  | none => .error .missingPasswordPath
  | some path => do
      let passwords ← readSource files .passwords path
      let acl ← readAcl files config.aclPath
      let store ← ofTexts config passwords.text (acl.map Source.text)
      pure (store.addMalformed (passwords.undecodable + (acl.map Source.undecodable).getD 0))

/-- The rules, if requests are checked at all. -/
def rules (store : Store) : Option RuleSet :=
  store.acl.rules

/-- Whether a user has a password. -/
def containsUser (store : Store) (name : String) : Bool :=
  store.users.contains name

/-- Whether a user has some password. -/
def authenticates (store : Store) (verifier : Password.Verifier)
    (username password : String) : Bool :=
  (store.users.get? username).any (verifier.accepts password ·)

end Store

end TopicGuard
