import TopicGuard.Backend.Run
import TopicGuard.Proofs.Loads

/-!
# The store in use and the stores that were remembered

A backend is at every moment of a run over the store of the latest load that
succeeded, and every store that was remembered stays as it was.  The invariant of a
run relates its state to the history of file events in the steps so far; every step
keeps it, so it holds after every run.
-/

namespace TopicGuard.Backend

/-- What a step does with the files. -/
def Step.fileEvent? : Step → Option FileEvent
  | .edit change => some (.edit change)
  | .reload => some .load
  | _ => none

/-- What some steps do with the files. -/
def history (steps : List Step) : List FileEvent :=
  steps.filterMap Step.fileEvent?

theorem history_cons (step : Step) (rest : List Step) :
    history (step :: rest) = step.fileEvent?.toList ++ history rest := by
  cases event : step.fileEvent? <;> simp [history, event]

namespace State

variable {state : State} {verifier : Password.Verifier} {config : Config} {tree : FileTree}

/-! ## One step -/

theorem step_reload_of_ok {store : Store}
    (loaded : Store.load state.tree.read state.backend.config = .ok store) :
    state.step .reload =
      ({ state with backend := { state.backend with store := store } },
        statsReply store) := by
  have next := reload_eq_ok_iff.mpr ⟨store, loaded, rfl⟩
  simp only [step, reload, next]

theorem step_reload_of_error {error : LoadError}
    (failed : Store.load state.tree.read state.backend.config = .error error) :
    state.step .reload = (state, .failed error) := by
  have next := reload_eq_error_iff.mpr failed
  simp only [step, reload, next]

theorem config_step (state : State) (step : Step) :
    (state.step step).1.backend.config = state.backend.config := by
  cases step with
  | reload =>
      cases loaded : Store.load state.tree.read state.backend.config with
      | ok store => rw [step_reload_of_ok loaded]
      | error error => rw [step_reload_of_error loaded]
  | _ => rfl

/-- Only a reload fails, and with the error of its load. -/
theorem load_eq_error_of_step_eq_failed {step : Step} {error : LoadError}
    (failed : (state.step step).2 = .failed error) :
    Store.load state.tree.read state.backend.config = .error error := by
  cases step with
  | reload =>
      cases loaded : Store.load state.tree.read state.backend.config with
      | ok store =>
          rw [step_reload_of_ok loaded] at failed
          contradiction
      | error other =>
          rw [step_reload_of_error loaded] at failed
          cases failed
          rfl
  | _ => contradiction

/-! ## The store in use -/

theorem follows_start (started : State.start verifier tree config = .ok state) :
    Follows verifier config tree [] state.backend state.tree := by
  rw [State.start] at started
  cases loaded : Backend.load verifier tree.read config with
  | error error =>
      rw [loaded] at started
      contradiction
  | ok backend =>
      rw [loaded] at started
      cases started
      exact follows_of_load loaded

theorem follows_step {events : List FileEvent}
    (follows : Follows verifier config tree events state.backend state.tree) (step : Step) :
    Follows verifier config tree (events ++ step.fileEvent?.toList)
      (state.step step).1.backend (state.step step).1.tree := by
  cases step with
  | edit change => exact follows.edit change
  | reload =>
      cases reloaded : state.backend.reload state.tree.read with
      | ok next =>
          simp only [State.step, reload, reloaded]
          exact follows.reload_ok reloaded
      | error error =>
          simp only [State.step, reload, reloaded]
          exact follows.reload_error reloaded
  | _ => exact (List.append_nil events).symm ▸ follows

theorem follows_run {events : List FileEvent}
    (follows : Follows verifier config tree events state.backend state.tree)
    (steps : List Step) :
    Follows verifier config tree (events ++ history steps)
      (state.run steps).1.backend (state.run steps).1.tree := by
  induction steps generalizing state events with
  | nil => exact (List.append_nil events).symm ▸ follows
  | cons step rest ih =>
      rw [history_cons, ← List.append_assoc]
      exact ih (follows_step follows step)

/-! ## The stores that were remembered -/

theorem remembered_step (state : State) (step : Step) :
    (state.step step).1.remembered =
      state.remembered ++ if step = .remember then [state.backend.store] else [] := by
  cases step with
  | remember => rfl
  | reload =>
      rw [if_neg (by simp), List.append_nil]
      cases loaded : Store.load state.tree.read state.backend.config with
      | ok store => rw [step_reload_of_ok loaded]
      | error error => rw [step_reload_of_error loaded]
  | _ => exact (List.append_nil _).symm

/-- A run only adds to what is remembered, one store for each step that says so. -/
theorem remembered_run (state : State) (steps : List Step) :
    ∃ added, (state.run steps).1.remembered = state.remembered ++ added ∧
      added.length = steps.count .remember := by
  induction steps generalizing state with
  | nil => exact ⟨[], (List.append_nil _).symm, rfl⟩
  | cons step rest ih =>
      rcases ih (state.step step).1 with ⟨added, added_eq, length_eq⟩
      rw [remembered_step, List.append_assoc] at added_eq
      refine ⟨_, added_eq, ?_⟩
      rw [List.length_append, length_eq, List.count_cons]
      by_cases remembers : step = .remember
      · simp [remembers, Nat.add_comm]
      · simp [remembers]

/-- A store that was remembered can be found under its number ever after. -/
theorem remembered_run_append (state : State) (before later : List Step) :
    (state.run (before ++ .remember :: later)).1.remembered[
        state.remembered.length + before.count .remember]? =
      some (state.run before).1.backend.store := by
  rcases remembered_run state before with ⟨first, first_eq, length_eq⟩
  obtain ⟨added, added_eq, _⟩ :=
    remembered_run ((state.run before).1.step .remember).1 later
  have remembered_eq : (state.run (before ++ .remember :: later)).1.remembered =
      (state.remembered ++ first) ++ (state.run before).1.backend.store :: added := by
    rw [run_append, run_cons, added_eq, remembered_step, if_pos rfl, first_eq]
    simp
  have position_eq : state.remembered.length + before.count .remember =
      (state.remembered ++ first).length := by
    rw [List.length_append, length_eq]
  rw [remembered_eq, position_eq, List.getElem?_append_right (Nat.le_refl _), Nat.sub_self]
  rfl

/-! ## Runs -/

/-- No step of a run over a named password file misses that name. -/
theorem missing_not_mem_run (named : state.backend.config.passwordFile? ≠ none)
    (steps : List Step) : .failed .missingPasswordPath ∉ (state.run steps).2 := by
  induction steps generalizing state with
  | nil => simp
  | cons step rest ih =>
      rw [run_cons, List.mem_cons, not_or]
      constructor
      · intro missing
        have failed := load_eq_error_of_step_eq_failed missing.symm
        rcases Store.load_error_cases named failed with ⟨_, _, _, impossible⟩ |
          ⟨_, _, _, _, impossible⟩ | ⟨_, _, impossible⟩
        · contradiction
        · contradiction
        · contradiction
      · apply ih
        rwa [config_step]

/-- After every run that a successful load begins, the store in use is the one that the
latest successful load gave, from the files as they were then, and the configuration is
as it was.  A reload either puts a newly loaded store in the place of that store alone,
or it answers why the load failed and changes nothing at all; the password path is never
missing.  Every store that was remembered, however long ago, answers as the store in use
answered when it was remembered. -/
theorem run_keeps_latest_load_and_snapshots
    (started : State.start verifier tree config = .ok state) (steps : List Step) :
    (Store.latest? config tree (history steps) = some (state.run steps).1.backend.store ∧
      (state.run steps).1.tree = tree.after (history steps) ∧
      (state.run steps).1.backend.config = config) ∧
    (∀ store, Store.load (state.run steps).1.tree.read config = .ok store →
      (state.run steps).1.step .reload =
        ({ (state.run steps).1 with
          backend := { (state.run steps).1.backend with store := store } },
          statsReply store)) ∧
    (∀ error, Store.load (state.run steps).1.tree.read config = .error error →
      (state.run steps).1.step .reload = ((state.run steps).1, .failed error) ∧
        ((∃ path fault, (state.run steps).1.tree.read path = .error fault ∧
            error = .unreadable .passwords path fault) ∨
          (∃ path fault, config.aclPath = some path ∧
            (state.run steps).1.tree.read path = .error fault ∧
            error = .unreadable .acl path fault) ∨
          (config.unknownUser = .strict ∧ ∃ unknown, error = .unknownAclUser unknown))) ∧
    .failed .missingPasswordPath ∉ (state.run steps).2 ∧
    ∀ before later, steps = before ++ .remember :: later →
      (state.run steps).1.subject (.kept (before.count .remember)) =
          (state.run before).1.backend.store ∧
        (.remember ∉ later → (state.run steps).1.subject .remembered =
          (state.run before).1.backend.store) ∧
        (∀ request,
          ((state.run steps).1.step
              (.evaluate (.kept (before.count .remember)) request)).2 =
            ((state.run before).1.step (.evaluate .current request)).2) ∧
        (∀ username,
          ((state.run steps).1.step
              (.contains (.kept (before.count .remember)) username)).2 =
            ((state.run before).1.step (.contains .current username)).2) ∧
        ((state.run steps).1.step (.rules (.kept (before.count .remember)))).2 =
          ((state.run before).1.step (.rules .current)).2 ∧
        ((state.run steps).1.step (.stats (.kept (before.count .remember)))).2 =
          ((state.run before).1.step (.stats .current)).2 := by
  have begun := follows_start started
  have follows : Follows verifier config tree (history steps)
      (state.run steps).1.backend (state.run steps).1.tree :=
    follows_run begun steps
  have named : config.passwordFile? ≠ none := by
    have first := begun.store_eq
    rw [Store.latest?_nil] at first
    cases loaded : Store.load tree.read config with
    | ok store => exact Store.passwordFile?_ne_none_of_load loaded
    | error error =>
        rw [loaded] at first
        contradiction
  have none_remembered : state.remembered = [] := by
    rw [State.start, Backend.load] at started
    cases loaded : Store.load tree.read config <;> rw [loaded] at started <;> cases started
    rfl
  refine ⟨⟨follows.store_eq, follows.tree_eq, follows.config_eq⟩, ?_, ?_, ?_, ?_⟩
  · intro store loaded
    rw [← follows.config_eq] at loaded
    exact step_reload_of_ok loaded
  · intro error failed
    refine ⟨?_, Store.load_error_cases named failed⟩
    rw [← follows.config_eq] at failed
    exact step_reload_of_error failed
  · rw [← begun.config_eq] at named
    exact missing_not_mem_run named steps
  · rintro before later rfl
    have kept : (state.run (before ++ .remember :: later)).1.subject
        (.kept (before.count .remember)) = (state.run before).1.backend.store := by
      have found := remembered_run_append state before later
      rw [none_remembered, List.length_nil, Nat.zero_add] at found
      rw [subject, found]
      rfl
    refine ⟨kept, ?_, ?_, ?_, ?_, ?_⟩
    · intro last
      obtain ⟨added, added_eq, length_eq⟩ :=
        remembered_run ((state.run before).1.step .remember).1 later
      rw [List.count_eq_zero_of_not_mem last, List.length_eq_zero_iff] at length_eq
      rw [length_eq, List.append_nil] at added_eq
      rw [subject, run_append, run_cons, added_eq, remembered_step, if_pos rfl,
        List.getLast?_concat]
      rfl
    · intro request
      simp only [step, kept]
      rfl
    · intro username
      simp only [step, kept]
      rfl
    · simp only [step, kept]
      rfl
    · simp only [step, kept]
      rfl

/-- A backend whose password file is deleted goes on with the store it has. -/
theorem run_outlives_its_files :
    ∃ state, State.start .plain ⟨[(["p"], .file [0x61, 0x3A, 0x62])]⟩
        (Config.forFiles (some "p") none) = .ok state ∧
      Store.load (state.run [.remember, .edit (.delete "p")]).1.tree.read
        (Config.forFiles (some "p") none) =
          .error (.unreadable .passwords "p" .notFound) ∧
      (state.run [.remember, .edit (.delete "p")]).1.step .reload =
        ((state.run [.remember, .edit (.delete "p")]).1,
          .failed (.unreadable .passwords "p" .notFound)) := by
  have started : State.start .plain ⟨[(["p"], .file [0x61, 0x3A, 0x62])]⟩
      (Config.forFiles (some "p") none) = .ok _ := rfl
  exact ⟨_, started, rfl,
    ((run_keeps_latest_load_and_snapshots started
      [.remember, .edit (.delete "p")]).2.2.1 _ rfl).1⟩

end State

end TopicGuard.Backend
