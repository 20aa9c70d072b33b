import TopicGuard.Proofs.Accounting
import TopicGuard.Proofs.Messages
import TopicGuard.Proofs.Sessions

/-!
# Dry runs

A check loads what a session would be opened over, so it succeeds exactly if a session can
be opened, and otherwise reports what the session would report.  What it says about a
configuration is also what a session with that configuration does on a reload, as long as
the files stay as they are: the counts in the report are those of the store that the reload
puts in place, and a check that fails in the load knows the error of the reload.
-/

namespace TopicGuard

open Session (State tokens)

attribute [ext] Stats

namespace CommandLine

/-! ## Reports -/

/-- A text reports the counts of a store, and those of the rules by partition if there are
any to check requests with.  The partitions add up. -/
inductive Reports (store : Store) : String → Prop where
  | unchecked (no_rules : store.rules = none) (none_counted : store.stats.aclRules = 0) :
      Reports store
        (reportLine "users" store.stats.users ++
          ("acl: disabled\n" ++ reportLine "malformed lines" store.stats.malformedLines))
  | checked (rules : RuleSet) (user common pattern : Nat) (in_force : store.rules = some rules)
      (user_eq : user = (rules.user.entries.map fun entry => entry.2.length).sum)
      (common_eq : common = rules.common.length) (pattern_eq : pattern = rules.pattern.length)
      (sum_eq : user + common + pattern = store.stats.aclRules) :
      Reports store
        (reportLine "users" store.stats.users ++
          (reportLine "acl rules" store.stats.aclRules ++
            (reportLine "  user rules" user ++
              (reportLine "  common rules" common ++
                (reportLine "  pattern rules" pattern ++
                  reportLine "malformed lines" store.stats.malformedLines)))))

variable {files : Files} {config : Config} {source : ConfigSource} {store other : Store}
  {text : String}

/-- The report on a load is about the store that was loaded. -/
theorem reports_checkReport (loaded : Store.load files config = .ok store) :
    Reports store (checkReport store) := by
  obtain ⟨passwords, acl, opened⟩ := Store.exists_opens_of_load loaded
  have accounts := Store.accounts_of_load opened loaded
  rw [checkReport]
  cases in_force : store.rules with
  | none =>
      have no_acl : acl = none := by
        rw [← Option.isNone_iff_eq_none, ← Option.not_isSome, ← accounts.isSome_rules, in_force]
        rfl
      rw [String.append_assoc]
      apply Reports.unchecked in_force
      rw [accounts.aclRules_eq, no_acl]
      rfl
  | some rules =>
      obtain ⟨counted, count_eq⟩ := accounts.count_eq rules in_force
      simp only [String.append_assoc]
      apply Reports.checked rules _ _ _ in_force (RuleSet.userCount_eq_sum rules) rfl rfl
      rw [counted, RuleSet.count]

/-- A number is told by its digits. -/
theorem toString_inj {count other : Nat} (same : toString count = toString other) :
    count = other := by
  have values_eq := congrArg (fun text => Nat.ofDigitChars 10 (String.toList text) 0) same
  simpa [Nat.toString_eq_ofList_toDigits] using values_eq

/-- A line of a report ends before the next one begins, so its number can be told. -/
theorem reportLine_append_inj {label rest otherRest : String} {count other : Nat}
    (same : reportLine label count ++ rest = reportLine label other ++ otherRest) :
    count = other ∧ rest = otherRest := by
  have lists_eq : (toString count).toList ++ '\n' :: rest.toList =
      (toString other).toList ++ '\n' :: otherRest.toList := by
    simpa [reportLine] using congrArg String.toList same
  have pieces_eq := congrArg (List.splitOn '\n') lists_eq
  rw [List.splitOn_append_cons_self_of_not_mem (Text.feed_not_mem_toString count),
    List.splitOn_append_cons_self_of_not_mem (Text.feed_not_mem_toString other)] at pieces_eq
  have digits_eq := (List.cons.inj pieces_eq).1
  rw [digits_eq] at lists_eq
  constructor
  · exact toString_inj (String.toList_injective digits_eq)
  · exact String.toList_injective (List.cons.inj (List.append_cancel_left lists_eq)).2

theorem reportLine_inj {label : String} {count other : Nat}
    (same : reportLine label count = reportLine label other) : count = other := by
  rw [← String.append_empty (s := reportLine label count),
    ← String.append_empty (s := reportLine label other)] at same
  exact (reportLine_append_inj same).1

theorem disabled_append_ne_reportLine_append (count : Nat) (rest otherRest : String) :
    "acl: disabled\n" ++ rest ≠ reportLine "acl rules" count ++ otherRest := by
  intro same
  have lists_eq := congrArg String.toList same
  simp [reportLine] at lists_eq

/-- A report tells the counts that it reports. -/
theorem Reports.stats_eq (reported : Reports store text) (again : Reports other text) :
    store.stats = other.stats := by
  generalize text_eq : text = same at again
  rw [Stats.ext_iff]
  cases reported with
  | unchecked _ none_counted =>
      cases again with
      | unchecked _ other_none =>
          obtain ⟨users_eq, rest_eq⟩ := reportLine_append_inj text_eq
          rw [String.append_right_inj] at rest_eq
          exact ⟨users_eq, none_counted.trans other_none.symm, reportLine_inj rest_eq⟩
      | checked =>
          obtain ⟨_, rest_eq⟩ := reportLine_append_inj text_eq
          exact absurd rest_eq (disabled_append_ne_reportLine_append _ _ _)
  | checked =>
      cases again with
      | unchecked =>
          obtain ⟨_, rest_eq⟩ := reportLine_append_inj text_eq
          exact absurd rest_eq.symm (disabled_append_ne_reportLine_append _ _ _)
      | checked =>
          obtain ⟨users_eq, rules_on⟩ := reportLine_append_inj text_eq
          obtain ⟨rules_eq, user_on⟩ := reportLine_append_inj rules_on
          obtain ⟨_, common_on⟩ := reportLine_append_inj user_on
          obtain ⟨_, pattern_on⟩ := reportLine_append_inj common_on
          obtain ⟨_, malformed_on⟩ := reportLine_append_inj pattern_on
          exact ⟨users_eq, rules_eq, reportLine_inj malformed_on⟩

/-! ## Beginnings -/

/-- A command line that begins with a subcommand gives what the subcommand gives. -/
theorem read_subcommand {name : String} (known : subcommands.contains name = true)
    (arguments : List String) : read (name :: arguments) = readSubcommand name arguments := by
  have level_ends : readLevel topOptions subcommands Level.start (name :: arguments) =
      .ok (Level.start, .subcommand name arguments) := by
    rw [readLevel, known]
    rfl
  rw [read, level_ends]
  cases command : readSubcommand name arguments <;>
    simp [command, bind, Except.bind, Level.settle, Level.start, pure, Except.pure]

/-- A check and a session find their configuration in the same way. -/
theorem read_check_iff_read_serve {arguments : List String} :
    read ("check" :: arguments) = .ok (.check source) ↔
      read ("serve" :: arguments) = .ok (.serve source) := by
  rw [read_subcommand rfl, read_subcommand rfl, readSubcommand, readSubcommand]
  cases readOptions sourceOptions arguments with
  | error stop => simp [bind, Except.bind]
  | ok level =>
      cases found : configSource level <;>
        simp [found, bind, Except.bind, pure, Except.pure]

theorem runCheck_of_load_ok (configured : loadConfig files source = .ok config)
    (loaded : Store.load files config = .ok store) :
    runCheck files source = succeed (checkReport store) := by
  simp only [runCheck, configured, loaded]

theorem runCheck_of_load_error {error : LoadError}
    (configured : loadConfig files source = .ok config)
    (failed : Store.load files config = .error error) :
    runCheck files source = fail "" (.ofLoadError error) := by
  simp only [runCheck, configured, failed]

/-- A check and a session load the same files, and both fail or neither does. -/
theorem runCheck_openBackend_cases (files : Files) (source : ConfigSource) :
    (∃ failure, runCheck files source = fail "" failure ∧
      openBackend files source = .error failure) ∨
    ∃ config store, Store.load files config = .ok store ∧
      runCheck files source = succeed (checkReport store) ∧
      openBackend files source = .ok ⟨config, .bcrypt, store⟩ := by
  cases configured : loadConfig files source with
  | error failure =>
      left
      exact ⟨failure, by rw [runCheck, configured], by rw [openBackend, configured]⟩
  | ok config =>
      cases loaded : Store.load files config with
      | error error =>
          left
          refine ⟨.ofLoadError error, runCheck_of_load_error configured loaded, ?_⟩
          simp only [openBackend, configured, Backend.load, loaded, Except.map]
      | ok store =>
          right
          refine ⟨config, store, loaded, runCheck_of_load_ok configured loaded, ?_⟩
          simp only [openBackend, configured, Backend.load, loaded, Except.map]

/-- A session without input says nothing. -/
theorem runServe_nil_of_openBackend {backend : Backend}
    (opened : openBackend files source = .ok backend) :
    runServe files source [] = succeed "" := by
  simp only [runServe, opened, Session.serve, Text.byteLines_nil]
  rfl

end CommandLine

/-! ## Reloads -/

namespace Session.State

variable {state : State} {text : String}

theorem step_send_of_reload (line : '\n' ∉ text.toList)
    (reloads : tokens text.toList = ["reload"]) :
    state.step (.send text) =
      match state.backend.reload state.tree.read with
      | .ok next => ({ state with backend := next }, ["ok"])
      | .error error => (state, ["error: " ++ error.message]) := by
  have query : Query.read? text.toList = some .reload := by
    rw [read?_eq, reloads]
    rfl
  rw [step, List.splitOn_eq_singleton line, answerLines_cons]
  simp only [answerLine, query, answer]
  cases state.backend.reload state.tree.read <;> rfl

theorem step_send_reload_of_ok {store : Store} (line : '\n' ∉ text.toList)
    (reloads : tokens text.toList = ["reload"])
    (loaded : Store.load state.tree.read state.backend.config = .ok store) :
    state.step (.send text) =
      ({ state with backend := { state.backend with store := store } }, ["ok"]) := by
  rw [step_send_of_reload line reloads, Backend.reload_eq_ok_iff.mpr ⟨store, loaded, rfl⟩]

theorem step_send_reload_of_error {error : LoadError} (line : '\n' ∉ text.toList)
    (reloads : tokens text.toList = ["reload"])
    (failed : Store.load state.tree.read state.backend.config = .error error) :
    state.step (.send text) = (state, ["error: " ++ error.message]) := by
  rw [step_send_of_reload line reloads, Backend.reload_eq_error_iff.mpr failed]

end Session.State

namespace CommandLine

variable {source : ConfigSource}

/-- A session says the answers to its steps, a line each. -/
theorem runSession_of_openBackend {tree : FileTree} {backend : Backend}
    (opened : openBackend tree.read source = .ok backend) (steps : List Session.Step) :
    runSession tree source steps =
      ⟨0, String.join ((State.run ⟨backend, tree⟩ steps).2.flatten.map (· ++ "\n")), none⟩ := by
  have served := State.serveFrom_events ⟨backend, tree⟩ [] steps
  simp only [runSession, opened, served]
  rfl

/-- A step more adds its answers to what a session says. -/
theorem runSession_append_singleton {tree : FileTree} {backend : Backend}
    (opened : openBackend tree.read source = .ok backend) (steps : List Session.Step)
    (step : Session.Step) :
    runSession tree source (steps ++ [step]) =
      ⟨0, (runSession tree source steps).output ++
        String.join (((State.run ⟨backend, tree⟩ steps).1.step step).2.map (· ++ "\n")),
        none⟩ := by
  rw [runSession_of_openBackend opened, runSession_of_openBackend opened, State.run_append]
  simp

/-- Without input a session ends as a check does, but says nothing. -/
theorem runCheck_runServe_cases (files : Files) (source : ConfigSource) :
    (∃ store text, runCheck files source = ⟨0, text, none⟩ ∧ Reports store text ∧
      (∀ other, Reports other text → other.stats = store.stats) ∧
      runServe files source [] = ⟨0, "", none⟩) ∨
    ∃ failure, runCheck files source = ⟨1, "", some failure⟩ ∧
      runServe files source [] = ⟨1, "", some failure⟩ := by
  rcases runCheck_openBackend_cases files source with ⟨failure, check_fails, open_fails⟩ |
    ⟨config, store, loaded, check_succeeds, opens⟩
  · right
    refine ⟨failure, check_fails, ?_⟩
    rw [runServe, open_fails]
    rfl
  · left
    have reported := reports_checkReport loaded
    exact ⟨store, checkReport store, check_succeeds, reported,
      fun other again => again.stats_eq reported, runServe_nil_of_openBackend opens⟩

/-- What a check says of the configuration of a session and of the files beside it is what
the session does on a reload. -/
theorem step_send_reload_as_checked {state : State} {text : String}
    (configured : loadConfig state.tree.read source = .ok state.backend.config)
    (line : '\n' ∉ text.toList) (reloads : tokens text.toList = ["reload"]) :
    (∃ store, runCheck state.tree.read source = succeed (checkReport store) ∧
      Reports store (checkReport store) ∧
      state.step (.send text) =
        ({ state with backend := { state.backend with store := store } }, ["ok"])) ∨
    ∃ error, runCheck state.tree.read source = fail "" (.ofLoadError error) ∧
      state.step (.send text) = (state, ["error: " ++ error.message]) := by
  cases loaded : Store.load state.tree.read state.backend.config with
  | ok store =>
      left
      exact ⟨store, runCheck_of_load_ok configured loaded, reports_checkReport loaded,
        State.step_send_reload_of_ok line reloads loaded⟩
  | error error =>
      right
      exact ⟨error, runCheck_of_load_error configured loaded,
        State.step_send_reload_of_error line reloads loaded⟩

/-- A check foretells what a session will do.  It succeeds exactly if a session opens,
which then has nothing to say without input, and otherwise both fail alike and say nothing
before.  Whenever a session holds the configuration that a check finds beside the same
files, its next reload does what the check says: either the check succeeds and reports the
counts of the store that the reload puts in place, or the check fails in the load, and the
reload answers with the error of that load and changes nothing. -/
theorem check_foretells_serve_and_reload {checking serving : List String}
    (checks : read checking = .ok (.check source))
    (serves : read serving = .ok (.serve source)) (files : Files) (input : Text.Bytes)
    (salt : Bcrypt.Salt) :
    ((run files input salt checking).exit = 0 ↔ (run files [] salt serving).exit = 0) ∧
    ((∃ store text, run files input salt checking = ⟨0, text, none⟩ ∧ Reports store text ∧
        (∀ other, Reports other text → other.stats = store.stats) ∧
        run files [] salt serving = ⟨0, "", none⟩) ∨
      ∃ failure, run files input salt checking = ⟨1, "", some failure⟩ ∧
        run files [] salt serving = ⟨1, "", some failure⟩) ∧
    ∀ tree start backend steps state line, openBackend tree.read start = .ok backend →
      (State.run ⟨backend, tree⟩ steps).1 = state → state.tree.read = files →
      loadConfig files source = .ok state.backend.config →
      '\n' ∉ line.toList → tokens line.toList = ["reload"] →
      (∃ store text, run files input salt checking = ⟨0, text, none⟩ ∧ Reports store text ∧
        state.step (.send line) =
          ({ state with backend := { state.backend with store := store } }, ["ok"]) ∧
        runSession tree start (steps ++ [.send line]) =
          ⟨0, (runSession tree start steps).output ++ "ok\n", none⟩) ∨
      ∃ error, run files input salt checking = ⟨1, "", some (.ofLoadError error)⟩ ∧
        state.step (.send line) = (state, ["error: " ++ error.message]) ∧
        runSession tree start (steps ++ [.send line]) =
          ⟨0, (runSession tree start steps).output ++ ("error: " ++ error.message ++ "\n"),
            none⟩ := by
  have check_eq : run files input salt checking = runCheck files source := by
    rw [run, checks]
  have serve_eq : run files [] salt serving = runServe files source [] := by
    rw [run, serves]
  rw [check_eq, serve_eq]
  have alike := runCheck_runServe_cases files source
  refine ⟨?_, alike, ?_⟩
  · rcases alike with ⟨_, _, check_succeeds, _, _, serve_succeeds⟩ |
      ⟨_, check_fails, serve_fails⟩
    · simp only [check_succeeds, serve_succeeds]
    · simp only [check_fails, serve_fails]
  · rintro tree start backend steps state line opened reached rfl configured single reloads
    have answered := runSession_append_singleton opened steps (.send line)
    rw [reached] at answered
    rcases step_send_reload_as_checked configured single reloads with
      ⟨store, check_succeeds, reported, step_eq⟩ | ⟨error, check_fails, step_eq⟩
    · left
      refine ⟨store, checkReport store, check_succeeds, reported, step_eq, ?_⟩
      rw [answered, step_eq]
      rfl
    · right
      refine ⟨error, check_fails, step_eq, ?_⟩
      rw [answered, step_eq]
      simp

/-- A check of an ACL file that has changed since a session began says how many rules the
session will have. -/
theorem check_foretells_reload_of_edited_file :
    ∃ backend state store,
      openBackend (FileTree.read ⟨[(["p"], .file [0x61, 0x3A, 0x62]), (["l"], .file [])]⟩)
        (.paths (some "p") (some "l")) = .ok backend ∧
      (State.run ⟨backend, ⟨[(["p"], .file [0x61, 0x3A, 0x62]), (["l"], .file [])]⟩⟩
        [.edit (.write "l" [0x74, 0x6F, 0x70, 0x69, 0x63, 0x20, 0x61])]).1 = state ∧
      run state.tree.read [] (.replicate 16 0)
          ["check", "--password-file", "p", "--acl-file", "l"] =
        ⟨0, "users: 1\nacl rules: 1\n  user rules: 0\n  common rules: 1\n" ++
          "  pattern rules: 0\nmalformed lines: 0\n", none⟩ ∧
      state.step (.send " reload") =
        ({ state with backend := { state.backend with store := store } }, ["ok"]) ∧
      store.stats = ⟨1, 1, 0⟩ := by
  have opened : openBackend
      (FileTree.read ⟨[(["p"], .file [0x61, 0x3A, 0x62]), (["l"], .file [])]⟩)
      (.paths (some "p") (some "l")) = .ok _ := rfl
  have checks : read ["check", "--password-file", "p", "--acl-file", "l"] =
      .ok (.check (.paths (some "p") (some "l"))) := rfl
  have foretold := (check_foretells_serve_and_reload checks
    (read_check_iff_read_serve.mp checks) _ [] (.replicate 16 0)).2.2 _ _ _
    [.edit (.write "l" [0x74, 0x6F, 0x70, 0x69, 0x63, 0x20, 0x61])] _ " reload" opened rfl rfl
    rfl (by decide) (by decide)
  rcases foretold with ⟨store, text, _, _, step_eq, _⟩ | ⟨error, check_eq, _⟩
  · have stats_eq := congrArg (fun answered => answered.1.backend.store.stats) step_eq
    exact ⟨_, _, store, opened, rfl, rfl, step_eq, stats_eq.symm⟩
  · have exits : (0 : UInt32) = 1 := congrArg Outcome.exit check_eq
    contradiction

end CommandLine

end TopicGuard
