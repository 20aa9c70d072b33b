import TopicGuard.Store

/-!
# Backends

A backend answers a broker's questions from one store, and replaces that store
only by a newly loaded one.  A reload that fails gives no backend, so whoever
holds the old one goes on with the old store.
-/

namespace TopicGuard

/-- A store in use. -/
structure Backend where
  /-- What the store is loaded from. -/
  config : Config
  /-- How passwords are checked. -/
  verifier : Password.Verifier
  /-- The store that questions are answered from. -/
  store : Store

namespace Backend

/-- What backends over files are called. -/
def name : String := "files"

/-- The backend over a newly loaded store. -/
def load (verifier : Password.Verifier) (files : Files) (config : Config) :
    Except LoadError Backend :=
  (Store.load files config).map fun store => ⟨config, verifier, store⟩

/-- The backend with a newly loaded store. -/
def reload (backend : Backend) (files : Files) : Except LoadError Backend :=
  load backend.verifier files backend.config

/-- Whether a user has some password. -/
def authenticates (backend : Backend) (username password : String) : Bool :=
  backend.store.authenticates backend.verifier username password

/-- Decide a request. -/
def decision (backend : Backend) (request : Request) : Decision :=
  backend.store.acl.decision request

/-- Whether a request is allowed. -/
def authorizes (backend : Backend) (request : Request) : Bool :=
  (backend.decision request).isAllowed

/-- Whether a user is above the rules.  No user is. -/
def isSuperuser (_ : Backend) (_ : String) : Bool :=
  false

/-- A reload changes nothing but the store. -/
theorem reload_eq_ok_iff {backend next : Backend} {files : Files} :
    backend.reload files = .ok next ↔
      ∃ store, Store.load files backend.config = .ok store ∧
        next = { backend with store := store } := by
  unfold reload load
  cases Store.load files backend.config with
  | error error => simp [Except.map]
  | ok store => simp [Except.map, eq_comm]

end Backend

end TopicGuard
