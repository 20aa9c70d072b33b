import TopicGuard.Proofs.Replies

/-!
# Sessions in step

Whoever sends lines to a session and reads lines from it knows which reply belongs to which
line as long as each line that is not blank brings exactly one line of output.  A session is
in step exactly if its input is UTF-8 line by line and no reload fails with a message of
several lines; what comes before the first line that is not UTF-8 is answered in any case.
-/

namespace TopicGuard

namespace Session

open CommandLine (endSession openBackend runServe runSession)
open Text (Bytes byteLines)
open Text.Utf8 (WellFormed encode)

/-- A run ends well after it has written one line for each line of its input that is not
blank. -/
structure InStep (outcome : Outcome) (lines : List Bytes) : Prop where
  exit_eq : outcome.exit = 0
  output_eq : ∃ said : List (List Char),
    said.length = (lines.countP fun line => !isBlankLine line) ∧
    (∀ reply ∈ said, '\n' ∉ reply) ∧
    outcome.output.toList = said.flatMap fun reply => reply ++ ['\n']

variable {files : Files} {backend : Backend} {events : List (Files × Event)}

/-! ## The end of a session -/

theorem exit_endSession_iff (backend : Backend) (events : List (Files × Event)) :
    (endSession (serveFrom [] backend events)).exit = 0 ↔
      ∀ line ∈ inputLines events, WellFormed line := by
  rw [← forall_fault?_eq_none_iff, ← List.findSome?_eq_none_iff, serveFrom_eq, endSession]
  cases events.findSome? fun event => event.2.fault? with
  | none => simp [CommandLine.succeed]
  | some fault => simp [CommandLine.fail]

theorem serveFrom_of_readable (backend : Backend)
    (readable : ∀ line ∈ inputLines events, WellFormed line) :
    serveFrom [] backend events = ⟨replies backend events, none⟩ := by
  have faultless := forall_fault?_eq_none_iff.mpr readable
  rw [serveFrom_eq, served_eq_self faultless, List.findSome?_eq_none_iff.mpr faultless]
  rfl

theorem toList_output_of_readable (backend : Backend)
    (readable : ∀ line ∈ inputLines events, WellFormed line) :
    (endSession (serveFrom [] backend events)).output.toList =
      ((replies backend events).map String.toList).flatMap fun reply => reply ++ ['\n'] := by
  rw [serveFrom_of_readable backend readable]
  simp only [endSession, CommandLine.succeed, Transcript.output, String.toList_join]
  rw [List.flatMap_map, List.flatMap_map]
  simp

/-! ## Lines of output -/

theorem length_le_count_feed (said : List (List Char)) :
    said.length ≤ (said.flatMap fun reply => reply ++ ['\n']).count '\n' := by
  induction said with
  | nil => exact Nat.zero_le _
  | cons reply rest ih =>
      rw [List.flatMap_cons, List.count_append, List.count_append, List.count_singleton_self,
        List.length_cons]
      omega

/-- Replies are as many lines as they are replies exactly if each of them is one line. -/
theorem count_feed_eq_length_iff (said : List (List Char)) :
    (said.flatMap fun reply => reply ++ ['\n']).count '\n' = said.length ↔
      ∀ reply ∈ said, '\n' ∉ reply := by
  induction said with
  | nil => simp
  | cons reply rest ih =>
      have enough := length_le_count_feed rest
      rw [List.flatMap_cons, List.count_append, List.count_append, List.count_singleton_self,
        List.length_cons, List.forall_mem_cons, ← ih, ← List.count_eq_zero]
      omega

theorem inStep_iff (backend : Backend) (events : List (Files × Event)) :
    InStep (endSession (serveFrom [] backend events)) (inputLines events) ↔
      (∀ line ∈ inputLines events, WellFormed line) ∧
        ∀ event ∈ events, ¬ event.2.SplitsReply backend.config event.1 := by
  have unsplit_iff : (∀ event ∈ events, ¬ event.2.SplitsReply backend.config event.1) ↔
      ∀ reply ∈ replies backend events, '\n' ∉ reply.toList := by
    have split_iff := not_congr (exists_feed_mem_replies_iff backend events)
    simpa using split_iff.symm
  rw [unsplit_iff]
  constructor
  · rintro ⟨ends_well, said, said_length, single, output_eq⟩
    have readable := (exit_endSession_iff backend events).mp ends_well
    have length_eq : ((replies backend events).map String.toList).length = said.length := by
      rw [List.length_map, length_replies backend (forall_fault?_eq_none_iff.mpr readable),
        said_length]
    have counted := (count_feed_eq_length_iff said).mpr single
    rw [← output_eq, toList_output_of_readable backend readable, ← length_eq,
      count_feed_eq_length_iff] at counted
    exact ⟨readable, by simpa using counted⟩
  · rintro ⟨readable, single⟩
    constructor
    · exact (exit_endSession_iff backend events).mpr readable
    · refine ⟨(replies backend events).map String.toList, ?_, ?_, ?_⟩
      · rw [List.length_map, length_replies backend (forall_fault?_eq_none_iff.mpr readable)]
      · simpa using single
      · exact toList_output_of_readable backend readable

/-! ## Sessions of the program -/

/-- Files that stay as they are have been loaded, so no reload fails. -/
theorem not_splitsReply_of_load {store : Store} {config : Config} {event : Event}
    (loaded : Store.load files config = .ok store) : ¬ event.SplitsReply config files := by
  cases event with
  | hangup => exact not_false
  | line bytes =>
      rintro ⟨text, kind, path, fault, _, _, failed, _⟩
      rw [loaded] at failed
      contradiction

/-- The files of a tree are unreadable for reasons of one line, so only a path can be told on
several lines. -/
theorem not_splitsReply_of_paths {config : Config} {event : Event} (tree : FileTree)
    (password_single : ∀ path, config.passwordFile? = some path → '\n' ∉ path.toList)
    (acl_single : ∀ path, config.aclPath = some path → '\n' ∉ path.toList) :
    ¬ event.SplitsReply config tree.read := by
  have reason_single : ∀ path fault, tree.read path = .error fault →
      '\n' ∉ fault.message.toList := by
    intro path fault unreadable feed
    obtain ⟨message, rfl, _⟩ := FileFault.feed_mem_message_iff.mp feed
    exact tree.read_ne_other path message unreadable
  cases event with
  | hangup => exact not_false
  | line bytes =>
      rintro ⟨text, kind, path, fault, _, _, failed, split⟩
      rcases Store.load_eq_error_iff.mp failed with ⟨_, impossible⟩ |
        ⟨_, _, named, unreadable, same⟩ | ⟨_, _, _, _, _, _, named, unreadable, same⟩ |
        ⟨_, _, _, _, _, _, _, _, _, _, impossible⟩
      · contradiction
      · cases same
        exact split.elim (password_single path named) (reason_single path fault unreadable)
      · cases same
        exact split.elim (acl_single path named) (reason_single path fault unreadable)
      · contradiction

theorem inStep_runServe_iff {source : ConfigSource}
    (opened : openBackend files source = .ok backend) (input : Bytes) :
    InStep (runServe files source input) (byteLines input) ↔
      ∀ line ∈ byteLines input, WellFormed line := by
  obtain ⟨store, loaded, _⟩ :=
    Backend.load_eq_ok_iff.mp (CommandLine.load_of_openBackend opened).2
  have lines_eq : inputLines ((byteLines input).map fun line => (files, .line line)) =
      byteLines input := by
    rw [inputLines, List.filterMap_map]
    exact List.filterMap_some
  have in_step_iff := inStep_iff backend ((byteLines input).map fun line => (files, .line line))
  rw [lines_eq] at in_step_iff
  simp only [runServe, opened, serve]
  rw [in_step_iff, and_iff_left]
  intro event member
  obtain ⟨line, _, rfl⟩ := List.mem_map.mp member
  exact not_splitsReply_of_load loaded

theorem inStep_iff_of_trees (of_trees : ∀ event ∈ events, ∃ tree : FileTree, event.1 = tree.read)
    (password_single : ∀ path, backend.config.passwordFile? = some path → '\n' ∉ path.toList)
    (acl_single : ∀ path, backend.config.aclPath = some path → '\n' ∉ path.toList) :
    InStep (endSession (serveFrom [] backend events)) (inputLines events) ↔
      ∀ line ∈ inputLines events, WellFormed line := by
  rw [inStep_iff, and_iff_left]
  intro event member
  obtain ⟨tree, files_eq⟩ := of_trees event member
  rw [files_eq]
  exact not_splitsReply_of_paths tree password_single acl_single

theorem replies_serveFrom_append (backend : Backend) {before : List (Files × Event)}
    (readable : ∀ line ∈ inputLines before, WellFormed line) (after : List (Files × Event)) :
    (serveFrom [] backend before).replies <+:
      (serveFrom [] backend (before ++ after)).replies := by
  obtain ⟨later, later_eq⟩ := exists_replies_append backend before (served after)
  rw [serveFrom_of_readable backend readable, serveFrom_eq,
    served_append (forall_fault?_eq_none_iff.mpr readable), later_eq]
  exact List.prefix_append _ _

/-- Nothing is answered after a line that cannot be read. -/
theorem replies_serveFrom_of_unreadable (backend : Backend) {before : List (Files × Event)}
    {bytes : Bytes} (readable : ∀ line ∈ inputLines before, WellFormed line)
    (unreadable : ¬ WellFormed bytes) (files : Files) (after : List (Files × Event)) :
    (serveFrom [] backend (before ++ (files, .line bytes) :: after)).replies =
      (serveFrom [] backend before).replies := by
  have faulty : (Event.line bytes).fault? ≠ none := by
    intro fault_eq
    exact unreadable (fault?_eq_none_iff.mp fault_eq bytes rfl)
  obtain ⟨fault, fault_eq⟩ := Option.ne_none_iff_exists'.mp faulty
  rw [serveFrom_of_readable backend readable, serveFrom_eq,
    served_append (forall_fault?_eq_none_iff.mpr readable), served_cons_of_fault fault_eq,
    List.append_nil]
  rfl

/-- A session is in step with its input exactly if every line is UTF-8 and no reload fails
because of a file whose path, or what the system says about it, has several lines.  Over files
that stay as they are no reload fails, and over a file tree that changes only the paths matter.
A session ends with zero exactly if every line is UTF-8, whatever loads fail.  The lines before
one that is not UTF-8 have one reply each, blank lines none, in order and whatever comes later,
and nothing that comes after it is answered. -/
theorem serve_in_step_iff {source : ConfigSource}
    (opened : openBackend files source = .ok backend) :
    (∀ input, InStep (runServe files source input) (byteLines input) ↔
      ∀ line ∈ byteLines input, WellFormed line) ∧
    (∀ events : List (Files × Event),
      InStep (endSession (serveFrom [] backend events)) (inputLines events) ↔
        (∀ line ∈ inputLines events, WellFormed line) ∧
          ∀ event ∈ events, ¬ event.2.SplitsReply backend.config event.1) ∧
    (∀ events : List (Files × Event),
      (∀ event ∈ events, ∃ tree : FileTree, event.1 = tree.read) →
      (∀ path, backend.config.passwordFile? = some path → '\n' ∉ path.toList) →
      (∀ path, backend.config.aclPath = some path → '\n' ∉ path.toList) →
      (InStep (endSession (serveFrom [] backend events)) (inputLines events) ↔
        ∀ line ∈ inputLines events, WellFormed line)) ∧
    (∀ events : List (Files × Event),
      (endSession (serveFrom [] backend events)).exit = 0 ↔
        ∀ line ∈ inputLines events, WellFormed line) ∧
    (∀ before after : List (Files × Event), (∀ line ∈ inputLines before, WellFormed line) →
      (serveFrom [] backend before).replies <+: (serveFrom [] backend (before ++ after)).replies ∧
      (serveFrom [] backend before).replies.length =
        (inputLines before).countP fun line => !isBlankLine line) ∧
    ∀ (before after : List (Files × Event)) files bytes,
      (∀ line ∈ inputLines before, WellFormed line) → ¬ WellFormed bytes →
      (serveFrom [] backend (before ++ (files, .line bytes) :: after)).replies =
        (serveFrom [] backend before).replies := by
  refine ⟨inStep_runServe_iff opened, inStep_iff backend, ?_, exit_endSession_iff backend, ?_, ?_⟩
  · intro events of_trees password_single acl_single
    exact inStep_iff_of_trees of_trees password_single acl_single
  · intro before after readable
    constructor
    · exact replies_serveFrom_append backend readable after
    · rw [serveFrom_of_readable backend readable]
      exact length_replies backend (forall_fault?_eq_none_iff.mpr readable)
  · intro before after files bytes readable unreadable
    exact replies_serveFrom_of_unreadable backend readable unreadable files after

/-- A blank line and a reload leave a session in step, and a line that is not UTF-8 keeps
whatever follows it from being answered. -/
theorem serve_in_step_until_unreadable :
    ∃ backend, openBackend (FileTree.read ⟨[(["p"], .file [0x61, 0x3A, 0x62])]⟩)
        (.paths (some "p") none) = .ok backend ∧
      InStep (runServe (FileTree.read ⟨[(["p"], .file [0x61, 0x3A, 0x62])]⟩)
          (.paths (some "p") none) (encode " \nreload\n".toList))
        (byteLines (encode " \nreload\n".toList)) ∧
      ¬ WellFormed [0xFF] ∧
      ∀ after,
        (serveFrom [] backend ((FileTree.read ⟨[]⟩, .line [0xFF]) :: after)).replies = [] := by
  have opened : openBackend (FileTree.read ⟨[(["p"], .file [0x61, 0x3A, 0x62])]⟩)
      (.paths (some "p") none) = .ok _ := rfl
  obtain ⟨in_step_iff, _, _, _, _, unanswered⟩ := serve_in_step_iff opened
  have unreadable : ¬ WellFormed [0xFF] := by
    rw [← Text.Utf8.decode?_eq_none_iff]
    rfl
  refine ⟨_, opened, (in_step_iff _).mpr ?_, unreadable, ?_⟩
  · rw [Text.byteLines_encode]
    intro line member
    obtain ⟨text, _, rfl⟩ := List.mem_map.mp member
    exact ⟨text, rfl⟩
  · intro after
    exact unanswered [] after _ [0xFF] (by simp [inputLines]) unreadable

/-- A line that is not UTF-8 ends a session, and a reload that fails because of a path with a
line feed is replied to on two lines. -/
theorem serve_falls_out_of_step :
    (∃ backend,
      openBackend (FileTree.read ⟨[(["p"], .file [])]⟩) (.paths (some "p") none) = .ok backend ∧
      runServe (FileTree.read ⟨[(["p"], .file [])]⟩) (.paths (some "p") none) [0xFF, 0x0A] =
        ⟨1, "", some ⟨"invalid utf-8 sequence of 1 bytes from index 0", []⟩⟩ ∧
      ¬ InStep
        (runServe (FileTree.read ⟨[(["p"], .file [])]⟩) (.paths (some "p") none) [0xFF, 0x0A])
        (byteLines [0xFF, 0x0A])) ∧
    ∃ backend,
      openBackend (FileTree.read ⟨[(["p\nq"], .file [])]⟩) (.paths (some "p\nq") none) =
        .ok backend ∧
      runSession ⟨[(["p\nq"], .file [])]⟩ (.paths (some "p\nq") none)
          [.edit (.delete "p\nq"), .send "reload"] =
        ⟨0, "error: couldn't open passwords file p\nq: " ++
          "No such file or directory (os error 2)\n", none⟩ ∧
      ¬ InStep
        (runSession ⟨[(["p\nq"], .file [])]⟩ (.paths (some "p\nq") none)
          [.edit (.delete "p\nq"), .send "reload"])
        [encode "reload".toList] := by
  constructor
  · refine ⟨_, rfl, rfl, ?_⟩
    rintro ⟨ends_well, _⟩
    contradiction
  · have outcome_eq : runSession ⟨[(["p\nq"], .file [])]⟩ (.paths (some "p\nq") none)
        [.edit (.delete "p\nq"), .send "reload"] =
      ⟨0, "error: couldn't open passwords file p\nq: " ++
        "No such file or directory (os error 2)\n", none⟩ := rfl
    refine ⟨_, rfl, outcome_eq, ?_⟩
    rw [outcome_eq]
    rintro ⟨_, said, said_length, single, output_eq⟩
    have counted := (count_feed_eq_length_iff said).mpr single
    rw [← output_eq, said_length] at counted
    revert counted
    decide

end Session

end TopicGuard
