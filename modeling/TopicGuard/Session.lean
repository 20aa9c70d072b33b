import TopicGuard.Backend
import TopicGuard.Files.Tree
import TopicGuard.Session.Query
import TopicGuard.Text.Lines

/-!
# Sessions

A session answers queries line by line from a backend, one line for each query.
A reload, asked for by a query or by a hangup, takes effect for all that follows
if it succeeds and for nothing if it fails; a hangup says nothing either way.
Input is bytes, cut into lines before they are read as text: a line that is not
UTF-8 ends the session.  The files may change at any time between two lines.
-/

namespace TopicGuard.Session

open Text (Bytes)

/-- The word for a verdict. -/
def verdict (isAllowed : Bool) : String :=
  if isAllowed then "allow" else "deny"

/-- The backend after a query, and the answer. -/
def answer (files : Files) (backend : Backend) : Query → Backend × String
  | .auth username password =>
      (backend, verdict (backend.authenticates username password))
  | .acl username clientId topic access =>
      match Access.ofToken? access.toList with
      | some level =>
          (backend, verdict (backend.authorizes ⟨username, clientId, topic, level⟩))
      | none => (backend, "error: unknown access " ++ access)
  | .superuser username => (backend, verdict (backend.isSuperuser username))
  | .reload =>
      match backend.reload files with
      | .ok next => (next, "ok")
      | .error error => (backend, "error: " ++ error.message)
  | .unknown => (backend, "error: unknown query")

/-- The backend after a line, and the answer if the line is not blank. -/
def answerLine (files : Files) (backend : Backend) (line : List Char) :
    Backend × Option String :=
  match Query.read? line with
  | none => (backend, none)
  | some query =>
      let (next, reply) := answer files backend query
      (next, some reply)

/-- The backend after a hangup. -/
def hangup (files : Files) (backend : Backend) : Backend :=
  match backend.reload files with
  | .ok next => next
  | .error _ => backend

/-! ## Input as bytes -/

/-- What a session says, and what ended it if that was not the end of its input. -/
structure Transcript where
  replies : List String
  fault : Option Text.Utf8.Fault
  deriving Repr, DecidableEq

/-- What reaches a session. -/
inductive Event where
  /-- A line of input, without its end. -/
  | line (bytes : Bytes)
  /-- The session is told to load its files again. -/
  | hangup
  deriving Repr, DecidableEq

/-- Answer what reaches a session, each event with the files as they are then.  The
replies so far are kept in reverse. -/
def serveFrom (done : List String) (backend : Backend) :
    List (Files × Event) → Transcript
  | [] => ⟨done.reverse, none⟩
  | (files, .hangup) :: rest => serveFrom done (hangup files backend) rest
  | (files, .line bytes) :: rest =>
      match Text.Utf8.decode bytes with
      | .error fault => ⟨done.reverse, some fault⟩
      | .ok line =>
          let (next, reply) := answerLine files backend line
          serveFrom (reply.toList ++ done) next rest

/-- Answer the lines of some input over files that stay as they are. -/
def serve (files : Files) (backend : Backend) (input : Bytes) : Transcript :=
  serveFrom [] backend ((Text.byteLines input).map fun line => (files, .line line))

/-- What a session writes. -/
def Transcript.output (transcript : Transcript) : String :=
  String.join (transcript.replies.map (· ++ "\n"))

/-! ## Sessions beside a file tree that changes -/

/-- What happens to a session. -/
inductive Step where
  /-- A text is sent, and a line feed after it. -/
  | send (text : String)
  /-- The session is told to load its files again. -/
  | hangup
  /-- The file tree changes. -/
  | edit (edit : FileEdit)
  deriving Repr, DecidableEq

/-- What reaches a session in some steps that begin with a file tree. -/
def events (tree : FileTree) : List Step → List (Files × Event)
  | [] => []
  | .send text :: rest =>
      (Text.byteLines (Text.Utf8.encode (text.toList ++ ['\n']))).map
          (fun line => (tree.read, .line line)) ++
        events tree rest
  | .hangup :: rest => (tree.read, .hangup) :: events tree rest
  | .edit edit :: rest => events (tree.edit edit) rest

/-- A session with its file tree. -/
structure State where
  backend : Backend
  tree : FileTree

namespace State

/-- The state after some lines, and the answers. -/
def answerLines (state : State) : List (List Char) → State × List String
  | [] => (state, [])
  | line :: rest =>
      let (backend, reply) := answerLine state.tree.read state.backend line
      let (last, replies) := answerLines { state with backend := backend } rest
      (last, reply.toList ++ replies)

/-- The state after a step, and the answers it brings. -/
def step (state : State) : Step → State × List String
  | .send text => state.answerLines (text.toList.splitOn '\n')
  | .hangup => ({ state with backend := hangup state.tree.read state.backend }, [])
  | .edit edit => ({ state with tree := state.tree.edit edit }, [])

/-- The state after some steps, and the answers to each. -/
def run (state : State) : List Step → State × List (List String)
  | [] => (state, [])
  | step :: rest =>
      let (next, replies) := state.step step
      let (last, others) := next.run rest
      (last, replies :: others)

@[simp]
theorem run_nil (state : State) : state.run [] = (state, []) :=
  rfl

@[simp]
theorem run_cons (state : State) (step : Step) (rest : List Step) :
    state.run (step :: rest) =
      (((state.step step).1.run rest).1,
        (state.step step).2 :: ((state.step step).1.run rest).2) :=
  rfl

/-- A run goes on where the steps before left off. -/
theorem run_append (state : State) (first second : List Step) :
    state.run (first ++ second) =
      (((state.run first).1.run second).1,
        (state.run first).2 ++ ((state.run first).1.run second).2) := by
  induction first generalizing state with
  | nil => rfl
  | cons step rest ih => simp [ih]

end State

end TopicGuard.Session
