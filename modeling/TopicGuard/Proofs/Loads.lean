import TopicGuard.Backend
import TopicGuard.Files.Tree
import TopicGuard.Proofs.Acl.Sections

/-!
# Loads

A load fails for the first of four reasons that applies.  Along a history in which
files change and loads are tried, the store in force is that of the latest load which
succeeded: it belongs to the files as they were then, and neither later changes of the
files nor loads that failed matter for it.  A backend that is reloaded along such a
history is over the store in force.
-/

namespace TopicGuard

/-! ## One load -/

namespace Store

variable {files : Files} {config : Config}

/-- The four reasons for which a load fails, in their order. -/
theorem load_eq_error_iff {error : LoadError} :
    load files config = .error error ↔
      (config.passwordFile? = none ∧ error = .missingPasswordPath) ∨
      (∃ path fault, config.passwordFile? = some path ∧ files path = .error fault ∧
        error = .unreadable .passwords path fault) ∨
      (∃ path bytes aclPath fault, config.passwordFile? = some path ∧
        files path = .ok bytes ∧ config.aclPath = some aclPath ∧
        files aclPath = .error fault ∧ error = .unreadable .acl aclPath fault) ∨
      (∃ path bytes aclPath aclBytes unknown, config.passwordFile? = some path ∧
        files path = .ok bytes ∧ config.aclPath = some aclPath ∧
        files aclPath = .ok aclBytes ∧
        Acl.File.read config.unknownUser
            (Password.File.read (Source.ofBytes bytes).text).users.contains
            (Source.ofBytes aclBytes).text = .error unknown ∧
        error = .unknownAclUser unknown) := by
  cases named : config.passwordFile? with
  | none => simp [load, named, eq_comm]
  | some path =>
      cases passwords : files path with
      | error fault =>
          simp [load, named, readSource, passwords, bind, Except.bind, eq_comm]
      | ok bytes =>
          cases acl_named : config.aclPath with
          | none =>
              simp [load, named, readSource, readAcl, passwords, acl_named, ofTexts, bind,
                Except.bind, pure, Except.pure]
          | some aclPath =>
              cases acl : files aclPath with
              | error fault =>
                  simp [load, named, readSource, readAcl, passwords, acl_named, acl, bind,
                    Except.bind, Except.map, eq_comm]
              | ok aclBytes =>
                  cases read_eq : Acl.File.read config.unknownUser
                    (Password.File.read (Source.ofBytes bytes).text).users.contains
                    (Source.ofBytes aclBytes).text with
                  | error unknown =>
                      simp [load, named, readSource, readAcl, passwords, acl_named, acl,
                        ofTexts, read_eq, bind, Except.bind, Except.map, eq_comm]
                  | ok file =>
                      simp [load, named, readSource, readAcl, passwords, acl_named, acl,
                        ofTexts, read_eq, bind, Except.bind, Except.map, pure, Except.pure]

/-- With a named password file, a load fails because one of the two files cannot be
read, or because a strict reading of the rules found a user without a password. -/
theorem load_error_cases {error : LoadError} (named : config.passwordFile? ≠ none)
    (failed : load files config = .error error) :
    (∃ path fault, files path = .error fault ∧ error = .unreadable .passwords path fault) ∨
      (∃ path fault, config.aclPath = some path ∧ files path = .error fault ∧
        error = .unreadable .acl path fault) ∨
      (config.unknownUser = .strict ∧ ∃ unknown, error = .unknownAclUser unknown) := by
  rcases load_eq_error_iff.mp failed with ⟨unnamed, _⟩ |
    ⟨path, fault, _, unreadable, rfl⟩ |
    ⟨_, _, path, fault, _, _, acl_named, unreadable, rfl⟩ |
    ⟨_, _, _, _, unknown, _, _, _, _, refused, rfl⟩
  · exact absurd unnamed named
  · exact .inl ⟨path, fault, unreadable, rfl⟩
  · exact .inr (.inl ⟨path, fault, acl_named, unreadable, rfl⟩)
  · right
    right
    apply And.intro _ ⟨unknown, rfl⟩
    cases policy : config.unknownUser with
    | strict => rfl
    | permissive =>
        rw [policy] at refused
        rcases Acl.File.exists_read_permissive _ _ with ⟨file, read_eq⟩
        rw [refused] at read_eq
        contradiction

/-- Only a configuration that names a password file loads. -/
theorem passwordFile?_ne_none_of_load {store : Store} (loaded : load files config = .ok store) :
    config.passwordFile? ≠ none := by
  intro unnamed
  rw [load, unnamed] at loaded
  contradiction

end Store

/-! ## Loads along a history -/

/-- What happens to the files of a program, or is done with them. -/
inductive FileEvent where
  /-- The file tree changes. -/
  | edit (change : FileEdit)
  /-- A load of the files is tried. -/
  | load
  deriving Repr, DecidableEq

/-- The change of the file tree. -/
def FileEvent.edit? : FileEvent → Option FileEdit
  | .edit change => some change
  | .load => none

namespace FileTree

/-- The tree after some events. -/
def after (tree : FileTree) (events : List FileEvent) : FileTree :=
  (events.filterMap FileEvent.edit?).foldl FileTree.edit tree

/-- The trees that loads were tried from, in order: the first tree, and for every later
load the tree that the events before it had left. -/
def loadTrees (tree : FileTree) (events : List FileEvent) : List FileTree :=
  tree :: events.zipIdx.filterMap fun (event, index) =>
    if event = .load then some (tree.after (events.take index)) else none

theorem after_append (tree : FileTree) (first second : List FileEvent) :
    tree.after (first ++ second) = (tree.after first).after second := by
  simp only [after, List.filterMap_append, List.foldl_append]

theorem loadTrees_append_singleton (tree : FileTree) (events : List FileEvent)
    (event : FileEvent) :
    tree.loadTrees (events ++ [event]) =
      tree.loadTrees events ++ if event = .load then [tree.after events] else [] := by
  have before : ∀ entry ∈ events.zipIdx,
      (if entry.1 = FileEvent.load then some (tree.after ((events ++ [event]).take entry.2))
        else none) =
      if entry.1 = FileEvent.load then some (tree.after (events.take entry.2)) else none := by
    rintro ⟨other, index⟩ member
    have bound : index < events.length := by
      simpa using (List.mem_zipIdx member).2.1
    rw [List.take_append_of_le_length (Nat.le_of_lt bound)]
  simp only [loadTrees, List.zipIdx_append, List.filterMap_append,
    List.filterMap_congr before, List.cons_append]
  by_cases loads : event = .load <;> simp [loads]

end FileTree

namespace Store

/-- The store of the latest load that succeeded. -/
def latest? (config : Config) (tree : FileTree) (events : List FileEvent) : Option Store :=
  (tree.loadTrees events).reverse.findSome? fun tree => (load tree.read config).toOption

theorem latest?_nil (config : Config) (tree : FileTree) :
    latest? config tree [] = (load tree.read config).toOption := by
  simp [latest?, FileTree.loadTrees]

/-- A change of the files does not matter for the latest load. -/
theorem latest?_append_edit (config : Config) (tree : FileTree) (events : List FileEvent)
    (change : FileEdit) :
    latest? config tree (events ++ [.edit change]) = latest? config tree events := by
  rw [latest?, FileTree.loadTrees_append_singleton, if_neg (by simp), List.append_nil]
  rfl

/-- A load that succeeds is the latest one, and a load that fails does not matter. -/
theorem latest?_append_load (config : Config) (tree : FileTree) (events : List FileEvent) :
    latest? config tree (events ++ [.load]) =
      (load (tree.after events).read config).toOption.or (latest? config tree events) := by
  rw [latest?, FileTree.loadTrees_append_singleton, if_pos rfl, List.reverse_append,
    List.findSome?_append]
  simp [latest?]

end Store

/-! ## A backend along a history -/

namespace Backend

theorem load_eq_ok_iff {verifier : Password.Verifier} {files : Files} {config : Config}
    {backend : Backend} :
    load verifier files config = .ok backend ↔
      ∃ store, Store.load files config = .ok store ∧ backend = ⟨config, verifier, store⟩ := by
  unfold load
  cases Store.load files config <;> simp [Except.map, eq_comm]

theorem reload_eq_error_iff {backend : Backend} {files : Files} {error : LoadError} :
    backend.reload files = .error error ↔ Store.load files backend.config = .error error := by
  unfold reload load
  cases Store.load files backend.config <;> simp [Except.map]

/-- A backend, and the tree beside it, are what some events have made of a backend that
was loaded from a first tree. -/
structure Follows (verifier : Password.Verifier) (config : Config) (tree : FileTree)
    (events : List FileEvent) (backend : Backend) (now : FileTree) : Prop where
  config_eq : backend.config = config
  verifier_eq : backend.verifier = verifier
  tree_eq : now = tree.after events
  store_eq : Store.latest? config tree events = some backend.store

variable {verifier : Password.Verifier} {config : Config} {tree now : FileTree}
  {events : List FileEvent} {backend next : Backend}

theorem follows_of_load (loaded : load verifier tree.read config = .ok backend) :
    Follows verifier config tree [] backend tree := by
  rcases load_eq_ok_iff.mp loaded with ⟨store, loads, rfl⟩
  constructor
  · rfl
  · rfl
  · rfl
  · rw [Store.latest?_nil, loads]
    rfl

namespace Follows

theorem edit (follows : Follows verifier config tree events backend now)
    (change : FileEdit) :
    Follows verifier config tree (events ++ [.edit change]) backend (now.edit change) := by
  constructor
  · exact follows.config_eq
  · exact follows.verifier_eq
  · rw [FileTree.after_append, ← follows.tree_eq]
    rfl
  · rw [Store.latest?_append_edit, follows.store_eq]

theorem tree_eq_load (follows : Follows verifier config tree events backend now) :
    now = tree.after (events ++ [.load]) := by
  rw [FileTree.after_append, ← follows.tree_eq]
  rfl

theorem reload_ok (follows : Follows verifier config tree events backend now)
    (reloaded : backend.reload now.read = .ok next) :
    Follows verifier config tree (events ++ [.load]) next now := by
  rcases reload_eq_ok_iff.mp reloaded with ⟨store, loads, rfl⟩
  rw [follows.config_eq] at loads
  constructor
  · exact follows.config_eq
  · exact follows.verifier_eq
  · exact follows.tree_eq_load
  · rw [Store.latest?_append_load, ← follows.tree_eq, loads]
    rfl

theorem reload_error (follows : Follows verifier config tree events backend now)
    {error : LoadError} (failed : backend.reload now.read = .error error) :
    Follows verifier config tree (events ++ [.load]) backend now := by
  have loads := reload_eq_error_iff.mp failed
  rw [follows.config_eq] at loads
  constructor
  · exact follows.config_eq
  · exact follows.verifier_eq
  · exact follows.tree_eq_load
  · rw [Store.latest?_append_load, ← follows.tree_eq, loads]
    exact follows.store_eq

end Follows

end Backend

end TopicGuard
