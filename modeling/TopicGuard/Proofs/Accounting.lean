import Mathlib.Algebra.GroupWithZero.Nat
import TopicGuard.Proofs.LineKinds
import TopicGuard.Proofs.Outcomes

/-!
# The counts of a load

The counts of a store are about the lines of its files: as many rules as lines state
one, all of which are kept, as many malformed lines as there are in the two files
together, and as many users as there are names with a password.
-/

namespace TopicGuard

open Text (Bytes)

/-! ## Rules -/

namespace RuleSet

theorem userCount_eq_sum (rules : RuleSet) :
    rules.userCount = (rules.user.entries.map fun entry => entry.2.length).sum := by
  rw [userCount, List.sum, List.foldr_map]

private theorem sum_length_put (name : String) (rule : Rule)
    (entries : List (String × List Rule)) :
    ((NameMap.put name (fun old => old.getD [] ++ [rule]) entries).map
        fun entry => entry.2.length).sum =
      (entries.map fun entry => entry.2.length).sum + 1 := by
  induction entries with
  | nil => simp [NameMap.put]
  | cons head rest ih =>
      rw [NameMap.put]
      split
      · simp only [List.map_cons, List.sum_cons, Option.getD_none, List.nil_append,
          List.length_singleton]
        omega
      · split
        · simp only [List.map_cons, List.sum_cons, Option.getD_some, List.length_append,
            List.length_singleton]
          omega
        · simp only [List.map_cons, List.sum_cons, ih]
          omega

theorem count_addUserRule (rules : RuleSet) (name : String) (rule : Rule) :
    (rules.addUserRule name rule).count = rules.count + 1 := by
  have one_more : (rules.addUserRule name rule).userCount = rules.userCount + 1 := by
    rw [userCount_eq_sum, userCount_eq_sum]
    exact sum_length_put name rule rules.user.entries
  rw [count, count, one_more]
  simp only [addUserRule]
  omega

theorem count_addCommonRule (rules : RuleSet) (rule : Rule) :
    (rules.addCommonRule rule).count = rules.count + 1 := by
  simp only [count, userCount, addCommonRule, List.length_append, List.length_singleton]
  omega

theorem count_addPatternRule (rules : RuleSet) (rule : Rule) :
    (rules.addPatternRule rule).count = rules.count + 1 := by
  simp only [count, userCount, addPatternRule, List.length_append, List.length_singleton]
  omega

end RuleSet

namespace Acl

namespace Reader

variable {policy : UnknownUserPolicy} {isKnown : String → Bool} {number : Nat}
  {reader next last : Reader} {line : Line} {lines : List Line}

/-- Every rule that is counted is kept. -/
theorem accepted_step (taken : reader.step policy isKnown number line = .ok next)
    (kept : reader.file.accepted = reader.file.rules.count) :
    next.file.accepted = next.file.rules.count := by
  cases line with
  | inert =>
      cases taken
      exact kept
  | user name =>
      rw [step] at taken
      split at taken
      · contradiction
      · cases taken
        exact kept
  | topic rule =>
      cases taken
      rw [addTopic]
      cases reader.owner with
      | none => rw [RuleSet.count_addCommonRule, kept]
      | some owner => rw [RuleSet.count_addUserRule, kept]
  | pattern rule =>
      cases taken
      rw [addPattern, RuleSet.count_addPatternRule, kept]
  | malformed =>
      cases taken
      exact kept

theorem accepted_run (taken : reader.run policy isKnown number lines = .ok last)
    (kept : reader.file.accepted = reader.file.rules.count) :
    last.file.accepted = last.file.rules.count := by
  induction lines generalizing number reader with
  | nil =>
      cases taken
      exact kept
  | cons line rest ih =>
      rw [run] at taken
      split at taken
      · contradiction
      · rename_i next step_eq
        exact ih taken (accepted_step step_eq kept)

end Reader

namespace File

variable {policy : UnknownUserPolicy} {isKnown : String → Bool} {text : String} {file : File}

theorem exists_run_of_read (taken : read policy isKnown text = .ok file) :
    ∃ last, Reader.start.run policy isKnown 1 (piecesOf text) = .ok last ∧
      last.file = file := by
  rw [read_eq_run_piecesOf] at taken
  exact map_file_eq_ok_iff.mp taken

/-- What is read from a text is what its pieces say as a whole. -/
theorem exists_collects_of_read (taken : read policy isKnown text = .ok file) :
    ∃ last : Reader, last.file = file ∧ last.Collects (piecesOf text) := by
  rcases exists_run_of_read taken with ⟨last, run_eq, rfl⟩
  exact ⟨last, rfl, Reader.collects_run Reader.collects_start run_eq⟩

theorem accepted_eq_of_read (taken : read policy isKnown text = .ok file) :
    file.accepted = file.rules.count := by
  rcases exists_run_of_read taken with ⟨last, run_eq, rfl⟩
  exact Reader.accepted_run run_eq rfl

/-- A user has an entry only for the sake of some rule. -/
theorem ne_nil_of_read (taken : read policy isKnown text = .ok file) {name : String}
    {named : List Rule} (found : file.rules.user.get? name = some named) : named ≠ [] := by
  rcases exists_collects_of_read taken with ⟨last, rfl, collected⟩
  rw [collected.user_eq] at found
  split at found
  · contradiction
  · rename_i nonempty
    rw [← Option.some.inj found]
    simpa using nonempty

end File

end Acl

/-! ## Lines -/

section

variable {bytes : Bytes}

theorem Password.File.countOf_malformed :
    Source.countOf Line.OfKind bytes .malformed =
      (read (Source.ofBytes bytes).text).malformed + Source.lostCount bytes := by
  rw [Source.countOf_malformed Line.ofKind_iff rfl, malformed_read]
  simp only [Line.kind_eq_malformed_iff, Line.read_eq_malformed_iff]

variable {policy : Acl.UnknownUserPolicy} {isKnown : String → Bool} {file : Acl.File}

theorem Acl.File.countOf_malformed
    (taken : read policy isKnown (Source.ofBytes bytes).text = .ok file) :
    Source.countOf Line.OfKind bytes .malformed = file.malformed + Source.lostCount bytes := by
  rcases exists_collects_of_read taken with ⟨last, rfl, collected⟩
  rw [Source.countOf_malformed Line.ofKind_iff rfl, collected.malformed_eq, piecesOf,
    List.countP_map]
  simp only [Line.kind_eq_malformed_iff, Function.comp_def]

theorem Acl.File.countOf_rule
    (taken : read policy isKnown (Source.ofBytes bytes).text = .ok file) :
    Source.countOf Line.OfKind bytes .rule = file.accepted := by
  rcases exists_collects_of_read taken with ⟨last, rfl, collected⟩
  rw [Source.countOf_eq_countP Line.ofKind_iff rfl (by decide) (by decide),
    collected.accepted_eq, piecesOf, List.countP_map]
  simp only [Line.kind_eq_rule_iff, Function.comp_def, Bool.decide_eq_true]

end

/-! ## Loads -/

namespace Store

/-- The counts of a store are about the lines of a password file and of an ACL file, if
there is one. -/
structure Accounts (store : Store) (passwords : Bytes) (acl : Option Bytes) : Prop where
  /-- The users are the names with a password, each counted once. -/
  users_eq : ∃ names : Finset String, (∀ name, name ∈ names ↔ HasPassword passwords name) ∧
    store.stats.users = names.card ∧ store.users.size = names.card
  /-- The malformed lines are those of both files. -/
  malformedLines_eq : store.stats.malformedLines =
    Source.countOf Password.Line.OfKind passwords .malformed +
      (acl.map (Source.countOf Acl.Line.OfKind · .malformed)).getD 0
  /-- The rules are the lines that state one. -/
  aclRules_eq : store.stats.aclRules =
    (acl.map (Source.countOf Acl.Line.OfKind · .rule)).getD 0
  /-- There are rules to check requests with if there is an ACL file. -/
  isSome_rules : store.rules.isSome = acl.isSome
  /-- Every rule is kept in one of the three partitions. -/
  count_eq : ∀ rules ∈ store.rules, store.stats.aclRules = rules.count ∧
    rules.count = (rules.user.entries.map fun entry => entry.2.length).sum +
      rules.common.length + rules.pattern.length
  /-- No user has an entry without rules. -/
  user_ne_nil : ∀ rules ∈ store.rules, ∀ name named,
    rules.user.get? name = some named → named ≠ []

variable {files : Files} {config : Config} {store : Store} {passwords : Bytes}
  {acl : Option Bytes}

theorem exists_names (passwords : Bytes) :
    ∃ names : Finset String, (∀ name, name ∈ names ↔ HasPassword passwords name) ∧
      (Password.File.read (Source.ofBytes passwords).text).users.size = names.card := by
  have agree : ∀ name,
      name ∈ ((Password.File.read (Source.ofBytes passwords).text).users.entries.map
        Prod.fst).toFinset ↔
      (Password.File.read (Source.ofBytes passwords).text).users.contains name = true := by
    intro name
    rw [List.mem_toFinset, NameMap.contains_iff_mem]
  exact ⟨_, fun name => (agree name).trans contains_read_ofBytes_iff,
    NameMap.size_eq_card agree⟩

theorem users_ofFiles (config : Config) (passwords : Password.File) (acl : Option Acl.File) :
    (ofFiles config passwords acl).users = passwords.users := by
  cases acl <;> rfl

theorem stats_ofFiles (config : Config) (passwords : Password.File) (acl : Option Acl.File) :
    (ofFiles config passwords acl).stats =
      ⟨passwords.users.size, (acl.map Acl.File.accepted).getD 0,
        passwords.malformed + (acl.map Acl.File.malformed).getD 0⟩ := by
  cases acl <;> rfl

theorem rules_ofFiles (config : Config) (passwords : Password.File) (acl : Option Acl.File) :
    (ofFiles config passwords acl).rules = acl.map Acl.File.rules := by
  cases acl <;> rfl

theorem rules_addMalformed (store : Store) (count : Nat) :
    (store.addMalformed count).rules = store.rules :=
  rfl

/-- A load that succeeds gives the store of the two files that are read. -/
theorem exists_ofFiles_of_load (opened : Opens files config passwords acl)
    (loaded : load files config = .ok store) :
    ∃ file : Option Acl.File,
      Option.Rel (fun bytes file => Acl.File.read config.unknownUser
        (Password.File.read (Source.ofBytes passwords).text).users.contains
        (Source.ofBytes bytes).text = .ok file) acl file ∧
      store =
        (ofFiles config (Password.File.read (Source.ofBytes passwords).text) file).addMalformed
          (lostIn passwords acl) := by
  rcases opened.load_eq_ok_iff.mp loaded with ⟨plain, made, rfl⟩
  rcases ofTexts_eq_ok_iff.mp made with ⟨file, taken, rfl⟩
  refine ⟨file, ?_, rfl⟩
  cases acl with
  | none =>
      cases taken
      exact .none
  | some bytes =>
      cases taken with
      | some taken => exact .some taken

theorem accounts_of_load (opened : Opens files config passwords acl)
    (loaded : load files config = .ok store) : Accounts store passwords acl := by
  rcases exists_names passwords with ⟨names, names_iff, size_eq⟩
  rcases exists_ofFiles_of_load opened loaded with ⟨file, read_eq, rfl⟩
  constructor
  · refine ⟨names, names_iff, ?_, ?_⟩
    · simp only [addMalformed, stats_ofFiles, size_eq]
    · simp only [addMalformed, users_ofFiles, size_eq]
  · simp only [addMalformed, stats_ofFiles, Password.File.countOf_malformed]
    cases read_eq with
    | none =>
        simp only [Option.map_none, Option.getD_none, lostIn_none]
        omega
    | some read_eq =>
        simp only [Option.map_some, Option.getD_some, lostIn_some,
          Acl.File.countOf_malformed read_eq]
        omega
  · simp only [addMalformed, stats_ofFiles]
    cases read_eq with
    | none => rfl
    | some read_eq => rw [Option.map_some, Option.map_some, Acl.File.countOf_rule read_eq]
  · rw [rules_addMalformed, rules_ofFiles]
    cases read_eq <;> rfl
  · intro rules member
    rw [rules_addMalformed, rules_ofFiles] at member
    rcases Option.mem_map.mp member with ⟨file, rfl, rfl⟩
    cases read_eq with
    | some read_eq =>
        simp only [addMalformed, stats_ofFiles, Option.map_some, Option.getD_some]
        exact ⟨Acl.File.accepted_eq_of_read read_eq, by
          rw [RuleSet.count, RuleSet.userCount_eq_sum]⟩
  · intro rules member
    rw [rules_addMalformed, rules_ofFiles] at member
    rcases Option.mem_map.mp member with ⟨file, rfl, rfl⟩
    cases read_eq with
    | some read_eq =>
        intro name named found
        exact Acl.File.ne_nil_of_read read_eq found

/-- Each line of the files of a load is of exactly one kind, and the counts of the store
are about these lines: no malformed line is counted twice, no rule is lost, and no user
is counted for each of several entries. -/
theorem load_accounts_for_every_line (loaded : load files config = .ok store) :
    ∃ passwords acl, Opens files config passwords acl ∧
      (∀ line ∈ passwords.splitOn 0x0A,
        ∃! kind, Source.OfKind Password.Line.OfKind line kind) ∧
      (∀ bytes ∈ acl, ∀ line ∈ bytes.splitOn 0x0A,
        ∃! kind, Source.OfKind Acl.Line.OfKind line kind) ∧
      Accounts store passwords acl := by
  rcases exists_opens_of_load loaded with ⟨passwords, acl, opened⟩
  exact ⟨passwords, acl, opened,
    fun line _ => Source.existsUnique_ofKind Password.Line.ofKind_iff rfl line,
    fun _ _ line _ => Source.existsUnique_ofKind Acl.Line.ofKind_iff rfl line,
    accounts_of_load opened loaded⟩

/-- Two entries of one user are one user, and a line of each file is malformed: one
without a colon, and one that is not well formed. -/
theorem load_accounts_for_repeated_user :
    ∃ store, load
        (fun path =>
          if path = "p" then .ok [0x61, 0x3A, 0x31, 0x0A, 0x61, 0x3A, 0x32, 0x0A, 0x78]
          else .ok [0x75, 0x73, 0x65, 0x72, 0x20, 0x61, 0x0A, 0x74, 0x6F, 0x70, 0x69, 0x63,
            0x20, 0x62, 0x0A, 0xFF])
        (Config.forFiles (some "p") (some "l")) = .ok store ∧
      store.stats = ⟨1, 1, 2⟩ ∧
      Accounts store [0x61, 0x3A, 0x31, 0x0A, 0x61, 0x3A, 0x32, 0x0A, 0x78]
        (some [0x75, 0x73, 0x65, 0x72, 0x20, 0x61, 0x0A, 0x74, 0x6F, 0x70, 0x69, 0x63,
          0x20, 0x62, 0x0A, 0xFF]) := by
  have loaded : load
      (fun path =>
        if path = "p" then .ok [0x61, 0x3A, 0x31, 0x0A, 0x61, 0x3A, 0x32, 0x0A, 0x78]
        else .ok [0x75, 0x73, 0x65, 0x72, 0x20, 0x61, 0x0A, 0x74, 0x6F, 0x70, 0x69, 0x63,
          0x20, 0x62, 0x0A, 0xFF])
      (Config.forFiles (some "p") (some "l")) = .ok _ := rfl
  rcases load_accounts_for_every_line loaded with ⟨passwords, acl, opened, _, _, accounts⟩
  rcases opened with ⟨⟨path, path_eq, _, passwords_eq⟩, acl_eq⟩
  cases path_eq
  cases Except.ok.inj passwords_eq
  rcases Option.map_eq_some_iff.mp acl_eq.symm with ⟨bytes, rfl, bytes_eq⟩
  cases Except.ok.inj bytes_eq
  exact ⟨_, loaded, rfl, accounts⟩

end Store

end TopicGuard
