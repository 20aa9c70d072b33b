import TopicGuard.CommandLine.Run
import TopicGuard.Proofs.Queries

/-!
# Sessions over a file tree that changes

At every moment of a session, lines are answered from the store of the latest load that
succeeded, be it the first one, one that a line asked for or one after a hangup.  The
invariant is the one of a backend along a history of file events, where a step stands for
the loads that its lines ask for.
-/

namespace TopicGuard

/-- The backend of a session is loaded from a configuration that was found before. -/
theorem CommandLine.load_of_openBackend {files : Files} {source : ConfigSource}
    {backend : Backend} (opened : openBackend files source = .ok backend) :
    loadConfig files source = .ok backend.config ∧
      Backend.load .bcrypt files backend.config = .ok backend := by
  rw [openBackend] at opened
  cases configured : loadConfig files source with
  | error failure =>
      rw [configured] at opened
      contradiction
  | ok config =>
      simp only [configured] at opened
      cases loaded : Backend.load .bcrypt files config with
      | error error =>
          rw [loaded] at opened
          contradiction
      | ok next =>
          rw [loaded] at opened
          cases opened
          rcases Backend.load_eq_ok_iff.mp loaded with ⟨store, _, rfl⟩
          exact ⟨rfl, loaded⟩

namespace Session

/-! ## What steps do with the files -/

/-- What a line does with the files. -/
def fileEvent? (line : List Char) : Option FileEvent :=
  if tokens line = ["reload"] then some .load else none

/-- What a step does with the files. -/
def Step.fileEvents : Step → List FileEvent
  | .send text => (text.toList.splitOn '\n').filterMap fileEvent?
  | .hangup => [.load]
  | .edit change => [.edit change]

/-- What some steps do with the files. -/
def history (steps : List Step) : List FileEvent :=
  steps.flatMap Step.fileEvents

/-- The steps that send the lines of a text one by one. -/
def Step.lineByLine : Step → List Step
  | .send text => (text.toList.splitOn '\n').map fun line => .send (String.ofList line)
  | step => [step]

theorem filterMap_fileEvent?_cons (line : List Char) (rest : List (List Char)) :
    (line :: rest).filterMap fileEvent? =
      (fileEvent? line).toList ++ rest.filterMap fileEvent? := by
  cases event : fileEvent? line <;> simp [event]

theorem history_cons (step : Step) (rest : List Step) :
    history (step :: rest) = step.fileEvents ++ history rest :=
  List.flatMap_cons

theorem history_append_singleton (steps : List Step) (step : Step) :
    history (steps ++ [step]) = history steps ++ step.fileEvents := by
  simp [history]

variable {verifier : Password.Verifier} {config : Config} {tree now : FileTree}
  {events : List FileEvent} {backend : Backend} {state : State}

/-! ## The store in force -/

theorem follows_hangup (follows : backend.Follows verifier config tree events now) :
    (hangup now.read backend).Follows verifier config tree (events ++ [.load]) now := by
  cases reloaded : backend.reload now.read with
  | ok next =>
      simp only [hangup, reloaded]
      exact follows.reload_ok reloaded
  | error error =>
      simp only [hangup, reloaded]
      exact follows.reload_error reloaded

theorem follows_answerLine (follows : backend.Follows verifier config tree events now)
    (line : List Char) :
    (answerLine now.read backend line).1.Follows verifier config tree
      (events ++ (fileEvent? line).toList) now := by
  rw [fst_answerLine, fileEvent?]
  by_cases reloads : tokens line = ["reload"]
  · rw [if_pos reloads, if_pos reloads]
    exact follows_hangup follows
  · rw [if_neg reloads, if_neg reloads, Option.toList_none, List.append_nil]
    exact follows

namespace State

theorem answerLines_cons (state : State) (line : List Char) (rest : List (List Char)) :
    state.answerLines (line :: rest) =
      let next := answerLine state.tree.read state.backend line
      let last := State.answerLines { state with backend := next.1 } rest
      (last.1, next.2.toList ++ last.2) :=
  rfl

@[simp]
theorem tree_answerLines (state : State) (lines : List (List Char)) :
    (state.answerLines lines).1.tree = state.tree := by
  induction lines generalizing state with
  | nil => rfl
  | cons line rest ih =>
      rw [answerLines_cons]
      exact ih _

theorem follows_answerLines (state : State)
    (follows : state.backend.Follows verifier config tree events state.tree)
    (lines : List (List Char)) :
    (state.answerLines lines).1.backend.Follows verifier config tree
      (events ++ lines.filterMap fileEvent?) state.tree := by
  induction lines generalizing state events with
  | nil =>
      rw [List.filterMap_nil, List.append_nil]
      exact follows
  | cons line rest ih =>
      rw [answerLines_cons, filterMap_fileEvent?_cons, ← List.append_assoc]
      exact ih { state with backend := _ } (follows_answerLine follows line)

theorem follows_step
    (follows : state.backend.Follows verifier config tree events state.tree) (step : Step) :
    (state.step step).1.backend.Follows verifier config tree (events ++ step.fileEvents)
      (state.step step).1.tree := by
  cases step with
  | send text =>
      rw [State.step, tree_answerLines]
      exact follows_answerLines state follows _
  | hangup => exact follows_hangup follows
  | edit change => exact follows.edit change

theorem follows_run (state : State)
    (follows : state.backend.Follows verifier config tree events state.tree)
    (steps : List Step) :
    (state.run steps).1.backend.Follows verifier config tree (events ++ history steps)
      (state.run steps).1.tree := by
  induction steps generalizing state events with
  | nil =>
      rw [history, List.flatMap_nil, List.append_nil]
      exact follows
  | cons step rest ih =>
      rw [history_cons, ← List.append_assoc]
      exact ih _ (follows_step follows step)

/-! ## The bytes that a session reads -/

theorem serveFrom_lines (state : State) (done : List String) (lines : List (List Char))
    (rest : List (Files × Event)) :
    serveFrom done state.backend
        (lines.map (fun line => (state.tree.read, .line (Text.Utf8.encode line))) ++ rest) =
      serveFrom ((state.answerLines lines).2.reverse ++ done)
        (state.answerLines lines).1.backend rest := by
  induction lines generalizing done state with
  | nil => rfl
  | cons line others ih =>
      have next := ih
        { state with backend := (answerLine state.tree.read state.backend line).1 }
        ((answerLine state.tree.read state.backend line).2.toList ++ done)
      rw [List.map_cons, List.cons_append, serveFrom, Text.Utf8.decode_encode]
      refine next.trans ?_
      rw [answerLines_cons, List.reverse_append, List.append_assoc]
      cases (answerLine state.tree.read state.backend line).2 <;> rfl

/-- The carriage returns of line ends are not answered. -/
theorem answerLines_map_dropReturn (state : State) (lines : List (List Char)) :
    state.answerLines (lines.map (Text.dropReturn '\r')) = state.answerLines lines := by
  induction lines generalizing state with
  | nil => rfl
  | cons line rest ih =>
      simp only [List.map_cons, answerLines_cons, answerLine_dropReturn, ih]

/-- A session that reads the bytes of some steps says what the steps bring, in order,
and ends with its input. -/
theorem serveFrom_events (state : State) (done : List String) (steps : List Step) :
    serveFrom done state.backend (Session.events state.tree steps) =
      ⟨done.reverse ++ (state.run steps).2.flatten, none⟩ := by
  induction steps generalizing done state with
  | nil => simp [Session.events, serveFrom]
  | cons step rest ih =>
      cases step with
      | send text =>
          have lines_eq : Text.byteLines (Text.Utf8.encode (text.toList ++ ['\n'])) =
              ((text.toList.splitOn '\n').map (Text.dropReturn '\r')).map
                Text.Utf8.encode := by
            rw [Text.byteLines_encode, Text.lines_append_feed]
          have next := ih (state.answerLines (text.toList.splitOn '\n')).1
            ((state.answerLines (text.toList.splitOn '\n')).2.reverse ++ done)
          rw [tree_answerLines] at next
          rw [Session.events, lines_eq, List.map_map]
          refine (serveFrom_lines state done _ _).trans ?_
          rw [answerLines_map_dropReturn, next]
          simp [State.step]
      | hangup =>
          exact ih { state with backend := hangup state.tree.read state.backend } done
      | edit change => exact ih { state with tree := state.tree.edit change } done

/-! ## Steps that change no answer -/

/-- The loads that some events ask for fail. -/
def LoadsFail (state : State) (events : List FileEvent) : Prop :=
  .load ∈ events → ∃ error, Store.load state.tree.read state.backend.config = .error error

theorem LoadsFail.mono {others : List FileEvent} (fails : state.LoadsFail events)
    (subset : others ⊆ events) : state.LoadsFail others :=
  fun loads => fails (subset loads)

theorem hangup_eq_self (fails : state.LoadsFail [.load]) :
    hangup state.tree.read state.backend = state.backend := by
  rcases fails List.mem_cons_self with ⟨error, failed⟩
  simp only [hangup, Backend.reload_eq_error_iff.mpr failed]

theorem fst_answerLine_eq_self {line : List Char}
    (fails : state.LoadsFail (fileEvent? line).toList) :
    (answerLine state.tree.read state.backend line).1 = state.backend := by
  rw [fst_answerLine]
  by_cases reloads : tokens line = ["reload"]
  · rw [fileEvent?, if_pos reloads] at fails
    rw [if_pos reloads]
    exact hangup_eq_self fails
  · rw [if_neg reloads]

theorem fst_answerLines_eq_self {lines : List (List Char)}
    (fails : state.LoadsFail (lines.filterMap fileEvent?)) :
    (state.answerLines lines).1 = state := by
  induction lines with
  | nil => rfl
  | cons line rest ih =>
      rw [filterMap_fileEvent?_cons] at fails
      have line_fails := fails.mono (List.subset_append_left _ _)
      have rest_fails := fails.mono (List.subset_append_right _ _)
      simp only [answerLines_cons, fst_answerLine_eq_self line_fails]
      exact ih rest_fails

/-- Only a change of the files or a load that succeeds is noticed. -/
theorem fst_step_eq_self {step : Step} (no_edit : ∀ change, step ≠ .edit change)
    (fails : state.LoadsFail step.fileEvents) : (state.step step).1 = state := by
  cases step with
  | send text => exact fst_answerLines_eq_self fails
  | hangup => simp only [State.step, hangup_eq_self fails]
  | edit change => exact absurd rfl (no_edit change)

theorem backend_step_eq_self {step : Step} (fails : state.LoadsFail step.fileEvents) :
    (state.step step).1.backend = state.backend := by
  cases step with
  | edit change => rfl
  | send text => rw [fst_step_eq_self (by simp) fails]
  | hangup => rw [fst_step_eq_self (by simp) fails]

/-- As long as no load succeeds, the backend stays as it is. -/
theorem backend_run_eq_self {steps : List Step}
    (fails : ∀ first step rest, steps = first ++ step :: rest →
      (state.run first).1.LoadsFail step.fileEvents) :
    (state.run steps).1.backend = state.backend := by
  induction steps generalizing state with
  | nil => rfl
  | cons step rest ih =>
      have first_eq : (state.step step).1.backend = state.backend :=
        backend_step_eq_self (fails [] step rest rfl)
      have rest_eq : ((state.step step).1.run rest).1.backend =
          (state.step step).1.backend := by
        apply ih
        rintro first next others rfl
        exact fails (step :: first) next others rfl
      rw [run_cons]
      exact rest_eq.trans first_eq

/-- Unless a load is asked for, lines are answered from the backend alone. -/
theorem snd_answerLines_eq {first second : State} (same : first.backend = second.backend)
    {lines : List (List Char)} (no_load : .load ∉ lines.filterMap fileEvent?) :
    (first.answerLines lines).2 = (second.answerLines lines).2 := by
  induction lines generalizing first second with
  | nil => rfl
  | cons line rest ih =>
      rw [filterMap_fileEvent?_cons, List.mem_append, not_or] at no_load
      have other : tokens line ≠ ["reload"] := by
        intro reloads
        apply no_load.1
        rw [fileEvent?, if_pos reloads]
        exact List.mem_cons_self
      simp only [answerLines_cons, same,
        answerLine_eq_of_ne_reload other first.tree.read second.tree.read]
      exact congrArg _ (ih rfl no_load.2)

/-! ## Texts of several lines -/

theorem run_map_send (state : State) {lines : List (List Char)}
    (cut : ∀ line ∈ lines, '\n' ∉ line) :
    (state.run (lines.map fun line => .send (String.ofList line))).1 =
        (state.answerLines lines).1 ∧
      (state.run (lines.map fun line => .send (String.ofList line))).2.flatten =
        (state.answerLines lines).2 := by
  induction lines generalizing state with
  | nil => exact ⟨rfl, rfl⟩
  | cons line rest ih =>
      have single : state.step (.send (String.ofList line)) = state.answerLines [line] := by
        rw [State.step, String.toList_ofList,
          List.splitOn_eq_singleton (cut line List.mem_cons_self)]
      obtain ⟨last_eq, replies_eq⟩ := ih (state.answerLines [line]).1
        fun other member => cut other (List.mem_cons_of_mem _ member)
      rw [List.map_cons, run_cons, single]
      constructor
      · exact last_eq
      · rw [List.flatten_cons, replies_eq, answerLines_cons, answerLines_cons]
        simp [answerLines]

/-- A text is answered as its lines are. -/
theorem run_lineByLine (state : State) (steps : List Step) :
    (state.run (steps.flatMap Step.lineByLine)).1 = (state.run steps).1 ∧
      (state.run (steps.flatMap Step.lineByLine)).2.flatten =
        (state.run steps).2.flatten := by
  induction steps generalizing state with
  | nil => exact ⟨rfl, rfl⟩
  | cons step rest ih =>
      have first : (state.run step.lineByLine).1 = (state.step step).1 ∧
          (state.run step.lineByLine).2.flatten = (state.step step).2 := by
        cases step with
        | send text =>
            exact run_map_send state fun line member => Text.not_mem_of_mem_splitOn member
        | hangup => exact ⟨rfl, rfl⟩
        | edit change => exact ⟨rfl, rfl⟩
      rcases ih (state.step step).1 with ⟨last_eq, replies_eq⟩
      rw [List.flatMap_cons, run_append, run_cons, first.1]
      constructor
      · exact last_eq
      · rw [List.flatten_append, first.2, replies_eq]
        rfl

/-! ## Sessions -/

/-- Every step has its list of answers. -/
theorem length_run (state : State) (steps : List Step) :
    (state.run steps).2.length = steps.length := by
  induction steps generalizing state with
  | nil => rfl
  | cons step rest ih => rw [run_cons, List.length_cons, List.length_cons, ih]

/-- A step is answered from the state that the steps before it left. -/
theorem getElem?_run (state : State) (before after : List Step) (step : Step) :
    (state.run (before ++ step :: after)).2[before.length]? =
      some ((state.run before).1.step step).2 := by
  rw [run_append, run_cons, List.getElem?_append_right (by rw [length_run]), length_run,
    Nat.sub_self]
  rfl

theorem drop_run (state : State) (before after : List Step) :
    (state.run (before ++ after)).2.drop before.length =
      ((state.run before).1.run after).2 := by
  rw [run_append, ← length_run state before, List.drop_left]

theorem step_send_of_blank {text : String} (line : '\n' ∉ text.toList)
    (blank : ∀ c ∈ text.toList, Text.isBlank c = true) :
    (state.step (.send text)).2 = [] := by
  rw [State.step, List.splitOn_eq_singleton line, answerLines_cons,
    answerLine_of_blank (tokens_eq_nil_iff.mpr blank)]
  rfl

theorem exists_answers_step_send {text : String} (bcrypt : state.backend.verifier = .bcrypt)
    (line : '\n' ∉ text.toList) (spoken : ¬ ∀ c ∈ text.toList, Text.isBlank c = true) :
    ∃ reply, (state.step (.send text)).2 = [reply] ∧
      Answers state.backend.config state.tree.read state.backend.store
        (tokens text.toList) reply := by
  obtain ⟨reply, reply_eq, answers⟩ := exists_answers_answerLine state.tree.read bcrypt
    (mt tokens_eq_nil_iff.mp spoken)
  refine ⟨reply, ?_, answers⟩
  rw [State.step, List.splitOn_eq_singleton line]
  simp only [answerLines_cons, reply_eq]
  rfl

end State

/-- Only a change of the files or a load is an event. -/
theorem Step.fileEvents_cases (step : Step) (no_load : .load ∉ step.fileEvents) :
    step.fileEvents = [] ∨ ∃ change, step.fileEvents = [.edit change] := by
  cases step with
  | send text =>
      left
      rw [List.eq_nil_iff_forall_not_mem]
      intro event member
      rcases List.mem_filterMap.mp member with ⟨line, _, event_eq⟩
      by_cases reloads : tokens line = ["reload"]
      · rw [fileEvent?, if_pos reloads] at event_eq
        cases event_eq
        exact no_load member
      · rw [fileEvent?, if_neg reloads] at event_eq
        contradiction
  | hangup => exact absurd List.mem_cons_self no_load
  | edit change => exact .inr ⟨change, rfl⟩

/-- After every successful start, and whatever happens then, a session ends with zero at
the end of its input and has written its answers in order: none for a hangup, a change of
the files or a blank line, and one for any other line, given from the store of the latest
load that succeeded.  A line that asks for a reload and a hangup put the store of a load
that succeeds in the place of that store, and nothing else does.  A step that neither
changes the files nor loads them successfully can be left out, and until a load
succeeds every question but a reload is answered as before. -/
theorem run_answers_from_latest_load {tree : FileTree} {source : ConfigSource}
    {backend : Backend} (opened : CommandLine.openBackend tree.read source = .ok backend)
    (steps : List Step) :
    (CommandLine.loadConfig tree.read source = .ok backend.config ∧
      CommandLine.runSession tree source steps =
        ⟨0, String.join ((State.run ⟨backend, tree⟩ steps).2.flatten.map (· ++ "\n")),
          none⟩ ∧
      CommandLine.runSession tree source (steps.flatMap Step.lineByLine) =
        CommandLine.runSession tree source steps ∧
      (State.run ⟨backend, tree⟩ steps).2.length = steps.length) ∧
    (∀ before step after, steps = before ++ step :: after →
      ∃ store replies,
        Store.latest? backend.config tree (history before) = some store ∧
        (State.run ⟨backend, tree⟩ steps).2[before.length]? = some replies ∧
        ((∀ text, step ≠ .send text) → replies = []) ∧
        (∀ text, step = .send text → '\n' ∉ text.toList →
          ((∀ c ∈ text.toList, Text.isBlank c = true) → replies = []) ∧
          ((¬ ∀ c ∈ text.toList, Text.isBlank c = true) →
            ∃ reply, replies = [reply] ∧
              Answers backend.config (tree.after (history before)).read store
                (tokens text.toList) reply)) ∧
        (step.fileEvents = [.load] →
          Store.latest? backend.config tree (history (before ++ [step])) =
            (Store.load (tree.after (history before)).read backend.config).toOption.or
              (some store)) ∧
        (.load ∉ step.fileEvents →
          Store.latest? backend.config tree (history (before ++ [step])) = some store)) ∧
    (∀ before step after, steps = before ++ step :: after →
      (∀ change, step ≠ .edit change) →
      (State.run ⟨backend, tree⟩ before).1.LoadsFail step.fileEvents →
      (State.run ⟨backend, tree⟩ steps).2.drop (before.length + 1) =
        (State.run ⟨backend, tree⟩ (before ++ after)).2.drop before.length) ∧
    (∀ before middle text after, steps = (before ++ middle) ++ .send text :: after →
      (∀ first step rest, middle = first ++ step :: rest →
        (State.run ⟨backend, tree⟩ (before ++ first)).1.LoadsFail step.fileEvents) →
      .load ∉ (Step.send text).fileEvents →
      (State.run ⟨backend, tree⟩ steps).2[(before ++ middle).length]? =
        (State.run ⟨backend, tree⟩ (before ++ [.send text])).2[before.length]?) := by
  rcases CommandLine.load_of_openBackend opened with ⟨configured, loaded⟩
  have begun : backend.Follows .bcrypt backend.config tree [] tree :=
    Backend.follows_of_load loaded
  have outcome : ∀ steps, CommandLine.runSession tree source steps =
      ⟨0, String.join ((State.run ⟨backend, tree⟩ steps).2.flatten.map (· ++ "\n")),
        none⟩ := by
    intro steps
    have served := State.serveFrom_events ⟨backend, tree⟩ [] steps
    simp only [CommandLine.runSession, opened, served]
    rfl
  refine ⟨⟨configured, outcome steps, ?_, State.length_run _ steps⟩, ?_, ?_, ?_⟩
  · rw [outcome, outcome, (State.run_lineByLine ⟨backend, tree⟩ steps).2]
  · rintro before step after rfl
    have follows := State.follows_run ⟨backend, tree⟩ begun before
    rw [List.nil_append] at follows
    refine ⟨(State.run ⟨backend, tree⟩ before).1.backend.store,
      ((State.run ⟨backend, tree⟩ before).1.step step).2, follows.store_eq,
      State.getElem?_run _ before after step, ?_, ?_, ?_, ?_⟩
    · intro not_sent
      cases step with
      | send text => exact absurd rfl (not_sent text)
      | hangup => rfl
      | edit change => rfl
    · rintro text rfl line
      constructor
      · exact State.step_send_of_blank line
      · intro spoken
        rw [← follows.tree_eq]
        have answered := State.exists_answers_step_send follows.verifier_eq line spoken
        rwa [follows.config_eq] at answered
    · intro loads
      rw [history_append_singleton, loads, Store.latest?_append_load, follows.store_eq]
    · intro no_load
      rw [history_append_singleton]
      rcases step.fileEvents_cases no_load with none_happens | ⟨change, changes⟩
      · rw [none_happens, List.append_nil, follows.store_eq]
      · rw [changes, Store.latest?_append_edit, follows.store_eq]
  · rintro before step after rfl no_edit fails
    have split_eq : before ++ step :: after = (before ++ [step]) ++ after := by simp
    have length_eq : before.length + 1 = (before ++ [step]).length := by simp
    rw [split_eq, length_eq, State.drop_run, State.drop_run, State.run_append,
      State.run_cons, State.run_nil, State.fst_step_eq_self no_edit fails]
  · rintro before middle text after rfl fails no_load
    rw [State.getElem?_run, State.getElem?_run, State.run_append]
    congr 1
    apply State.snd_answerLines_eq _ no_load
    apply State.backend_run_eq_self
    intro first step rest middle_eq
    have fails_first := fails first step rest middle_eq
    rwa [State.run_append] at fails_first

/-- A session whose password file is deleted goes on after a hangup, and only a reload
says that the file is gone. -/
theorem runSession_outlives_its_files :
    ∃ backend, CommandLine.openBackend (FileTree.read ⟨[(["p"], .file [0x61, 0x3A, 0x62])]⟩)
        (.paths (some "p") none) = .ok backend ∧
      CommandLine.runSession ⟨[(["p"], .file [0x61, 0x3A, 0x62])]⟩ (.paths (some "p") none)
          [.edit (.delete "p"), .hangup, .send "auth a c", .send "reload"] =
        ⟨0, "deny\nerror: couldn't open passwords file p: " ++
          "No such file or directory (os error 2)\n", none⟩ := by
  have opened : CommandLine.openBackend
      (FileTree.read ⟨[(["p"], .file [0x61, 0x3A, 0x62])]⟩) (.paths (some "p") none) =
      .ok _ := rfl
  refine ⟨_, opened, ?_⟩
  rw [(run_answers_from_latest_load opened
    [.edit (.delete "p"), .hangup, .send "auth a c", .send "reload"]).1.2.1]
  rfl

end Session

end TopicGuard
