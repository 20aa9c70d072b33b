import TopicGuard.Backend
import TopicGuard.Files.Tree

/-!
# Runs of a backend

A run of a backend is a sequence of steps over a file tree that changes beside
it.  Questions about the store may be asked of the store in use or of any one that
was remembered earlier; a remembered store is never touched again.
-/

namespace TopicGuard.Backend

/-- The store that a question is about. -/
inductive Subject where
  /-- The store in use. -/
  | current
  /-- The store that was remembered last. -/
  | remembered
  /-- The store that was remembered after so many others. -/
  | kept (number : Nat)
  deriving Repr, DecidableEq

/-- A step of a run. -/
inductive Step where
  /-- The file tree changes. -/
  | edit (edit : FileEdit)
  /-- Load the store again. -/
  | reload
  /-- Remember the store in use. -/
  | remember
  | authenticate (username password : String)
  | authorize (request : Request)
  | evaluate (subject : Subject) (request : Request)
  | superuser (username : String)
  | name
  | close
  | stats (subject : Subject)
  | rules (subject : Subject)
  | contains (subject : Subject) (username : String)
  | config
  deriving Repr, DecidableEq

/-- What a step answers. -/
inductive Reply where
  | done
  | failed (error : LoadError)
  | verdict (value : Bool)
  | name (name : String)
  | decision (decision : Decision)
  /-- Counts, and whether requests are checked at all. -/
  | stats (stats : Stats) (isChecked : Bool)
  | rules (rules : Option RuleSet)
  /-- Whether a user is known, and how many users there are. -/
  | users (isKnown : Bool) (count : Nat)
  | config (config : Config)
  deriving DecidableEq

/-- A backend with its file tree and the stores that were remembered, the first one
first. -/
structure State where
  backend : Backend
  tree : FileTree
  remembered : List Store

namespace State

/-- The state when a backend has just been loaded. -/
def start (verifier : Password.Verifier) (tree : FileTree) (config : Config) :
    Except LoadError State :=
  (Backend.load verifier tree.read config).map fun backend => ⟨backend, tree, []⟩

/-- The store that a question is about. -/
def subject (state : State) : Subject → Store
  | .current => state.backend.store
  | .remembered => state.remembered.getLast?.getD state.backend.store
  | .kept number => state.remembered[number]?.getD state.backend.store

/-- The answer about the counts of a store. -/
def statsReply (store : Store) : Reply :=
  .stats store.stats store.acl.isEnabled

/-- The state after a reload, and the answer. -/
def reload (state : State) : State × Reply :=
  match state.backend.reload state.tree.read with
  | .ok backend => ({ state with backend := backend }, statsReply backend.store)
  | .error error => (state, .failed error)

/-- The state after a step, and the answer. -/
def step (state : State) : Step → State × Reply
  | .edit edit => ({ state with tree := state.tree.edit edit }, .done)
  | .reload => state.reload
  | .remember => ({ state with remembered := state.remembered ++ [state.backend.store] }, .done)
  | .authenticate username password =>
      (state, .verdict (state.backend.authenticates username password))
  | .authorize request => (state, .verdict (state.backend.authorizes request))
  | .evaluate subject request =>
      (state, .decision ((state.subject subject).acl.decision request))
  | .superuser username => (state, .verdict (state.backend.isSuperuser username))
  | .name => (state, .name Backend.name)
  | .close => (state, .done)
  | .stats subject => (state, statsReply (state.subject subject))
  | .rules subject => (state, .rules (state.subject subject).rules)
  | .contains subject username =>
      let store := state.subject subject
      (state, .users (store.containsUser username) store.users.size)
  | .config => (state, .config state.backend.config)

/-- The state after some steps, and the answers. -/
def run (state : State) : List Step → State × List Reply
  | [] => (state, [])
  | step :: rest =>
      let (next, reply) := state.step step
      let (last, replies) := next.run rest
      (last, reply :: replies)

@[simp]
theorem run_nil (state : State) : state.run [] = (state, []) :=
  rfl

@[simp]
theorem run_cons (state : State) (step : Step) (rest : List Step) :
    state.run (step :: rest) =
      (((state.step step).1.run rest).1,
        (state.step step).2 :: ((state.step step).1.run rest).2) :=
  rfl

/-- A run goes on where the steps before left off. -/
theorem run_append (state : State) (first second : List Step) :
    state.run (first ++ second) =
      (((state.run first).1.run second).1,
        (state.run first).2 ++ ((state.run first).1.run second).2) := by
  induction first generalizing state with
  | nil => rfl
  | cons step rest ih => simp [ih]

end State

end TopicGuard.Backend
