import TopicGuard.Proofs.Accounting
import TopicGuard.Store.Summary

/-!
# What does not depend on stored passwords

Of a password file the rest of a store only depends on which users it names and on how many
of its lines are malformed.  So two files that agree in this make the same decisions, counts
and errors, and what a store shows of itself tells nothing of its users but how many there
are.
-/

namespace TopicGuard

namespace Password

/-- Two texts name the same users, and as many of their lines are malformed.  What they store
for the users, how often, in which order and between which comments makes no difference. -/
structure SameUsers (passwords other : String) : Prop where
  named_iff : ∀ name,
    (∃ line ∈ passwords.toList.splitOn '\n', ∃ stored, Line.Entry line name stored) ↔
      ∃ line ∈ other.toList.splitOn '\n', ∃ stored, Line.Entry line name stored
  misstated_eq : (passwords.toList.splitOn '\n').countP (Line.Misstated ·) =
    (other.toList.splitOn '\n').countP (Line.Misstated ·)

namespace SameUsers

variable {passwords other : String}

theorem contains_eq (same : SameUsers passwords other) :
    (File.read other).users.contains = (File.read passwords).users.contains := by
  funext name
  rw [Bool.eq_iff_iff, File.contains_read_iff, File.contains_read_iff, same.named_iff]

theorem size_eq (same : SameUsers passwords other) :
    (File.read other).users.size = (File.read passwords).users.size :=
  NameMap.size_eq_of_contains_eq (congrFun same.contains_eq)

theorem malformed_eq (same : SameUsers passwords other) :
    (File.read other).malformed = (File.read passwords).malformed := by
  rw [File.malformed_read, File.malformed_read, same.misstated_eq]

end SameUsers

end Password

namespace Store

variable {files others : Files} {config : Config} {passwords other : String}
  {acl : Option String} {store second : Store}

/-! ## Stores of two password files -/

/-- Unless the policy refuses one of them, the rules of a text do not depend on the password
file that is read with it. -/
theorem acl_eq_of_ofTexts (made : ofTexts config passwords acl = .ok store)
    (other_made : ofTexts config other acl = .ok second) :
    second.acl = store.acl ∧ second.stats.aclRules = store.stats.aclRules := by
  rcases ofTexts_eq_ok_iff.mp made with ⟨file, taken, rfl⟩
  rcases ofTexts_eq_ok_iff.mp other_made with ⟨otherFile, other_taken, rfl⟩
  cases taken with
  | none =>
      cases other_taken
      exact ⟨rfl, rfl⟩
  | some taken =>
      cases other_taken with
      | some other_taken =>
          rw [Acl.File.eq_of_read_eq_ok taken other_taken]
          exact ⟨rfl, rfl⟩

/-- The users are counted as they are kept. -/
theorem users_stats_of_ofTexts (made : ofTexts config passwords acl = .ok store) :
    store.stats.users = store.users.size := by
  rcases ofTexts_eq_ok_iff.mp made with ⟨file, _, rfl⟩
  rw [stats_ofFiles, users_ofFiles]

/-- Password files that name the same users make stores that differ at most in the users. -/
theorem map_ofTexts_eq_of_sameUsers (same : Password.SameUsers passwords other) :
    (ofTexts config other acl).map (fun made => (made.acl, made.stats)) =
      (ofTexts config passwords acl).map fun made => (made.acl, made.stats) := by
  cases acl with
  | none => simp only [ofTexts, Except.map, ofFiles, same.size_eq, same.malformed_eq]
  | some text =>
      rw [ofTexts, ofTexts, same.contains_eq]
      cases Acl.File.read config.unknownUser (Password.File.read passwords).users.contains text with
      | error unknown => rfl
      | ok file => simp only [Except.map, ofFiles, same.size_eq, same.malformed_eq]

/-- They are refused for the same reason. -/
theorem ofTexts_eq_error_iff_of_sameUsers (same : Password.SameUsers passwords other)
    (error : LoadError) :
    ofTexts config passwords acl = .error error ↔ ofTexts config other acl = .error error := by
  have failed_iff : ∀ text, ofTexts config text acl = .error error ↔
      (ofTexts config text acl).map (fun made => (made.acl, made.stats)) = .error error := by
    intro text
    cases ofTexts config text acl <;> simp [Except.map]
  rw [failed_iff, failed_iff, map_ofTexts_eq_of_sameUsers same]

/-- If one of them makes a store, the other makes one with the same rules and counts. -/
theorem exists_ofTexts_of_sameUsers (same : Password.SameUsers passwords other)
    (made : ofTexts config passwords acl = .ok store) :
    ∃ second, ofTexts config other acl = .ok second ∧ second.acl = store.acl ∧
      second.stats = store.stats := by
  have agree :
      (ofTexts config other acl).map (fun store => (store.acl, store.stats)) =
        (ofTexts config passwords acl).map fun store => (store.acl, store.stats) :=
    map_ofTexts_eq_of_sameUsers same
  cases other_made : ofTexts config other acl with
  | error error =>
      rw [made, other_made] at agree
      contradiction
  | ok second =>
      rw [made, other_made] at agree
      exact ⟨second, rfl, Prod.mk.inj (Except.ok.inj agree)⟩

/-! ## Summaries -/

/-- A summary shows no more of the users than how many there are. -/
theorem summary_eq (size_eq : second.users.size = store.users.size)
    (acl_eq : second.acl = store.acl) (stats_eq : second.stats = store.stats) :
    second.summary = store.summary := by
  rw [summary, summary, size_eq, acl_eq, stats_eq]

/-- The summary of a store from some rules is known from two counts. -/
theorem summary_eq_of_counts (counted : store.stats.users = store.users.size)
    (other_counted : second.stats.users = second.users.size)
    (acl_eq : second.acl = store.acl) (rules_eq : second.stats.aclRules = store.stats.aclRules)
    (size_eq : second.users.size = store.users.size)
    (malformed_eq : second.stats.malformedLines = store.stats.malformedLines) :
    second.summary = store.summary := by
  apply summary_eq size_eq acl_eq
  have users_eq : second.stats.users = store.stats.users := by
    rw [other_counted, size_eq, counted]
  cases second_stats : second.stats
  cases store_stats : store.stats
  rw [second_stats, store_stats] at users_eq rules_eq malformed_eq
  rw [Stats.mk.injEq]
  exact ⟨users_eq, rules_eq, malformed_eq⟩

theorem summary_eq_of_ofTexts (made : ofTexts config passwords acl = .ok store)
    (other_made : ofTexts config other acl = .ok second)
    (size_eq : second.users.size = store.users.size)
    (malformed_eq : second.stats.malformedLines = store.stats.malformedLines) :
    second.summary = store.summary := by
  obtain ⟨acl_eq, rules_eq⟩ := acl_eq_of_ofTexts made other_made
  exact summary_eq_of_counts (users_stats_of_ofTexts made) (users_stats_of_ofTexts other_made)
    acl_eq rules_eq size_eq malformed_eq

theorem summary_eq_of_load {passwords otherPasswords : Text.Bytes} {acl : Option Text.Bytes}
    (opened : Opens files config passwords acl)
    (other_opened : Opens others config otherPasswords acl)
    (loaded : load files config = .ok store) (other_loaded : load others config = .ok second)
    (size_eq : second.users.size = store.users.size)
    (malformed_eq : second.stats.malformedLines = store.stats.malformedLines) :
    second.summary = store.summary := by
  rcases opened.load_eq_ok_iff.mp loaded with ⟨made, made_eq, rfl⟩
  rcases other_opened.load_eq_ok_iff.mp other_loaded with ⟨otherMade, other_made_eq, rfl⟩
  obtain ⟨acl_eq, rules_eq⟩ := acl_eq_of_ofTexts made_eq other_made_eq
  have counted := users_stats_of_ofTexts made_eq
  have other_counted := users_stats_of_ofTexts other_made_eq
  exact summary_eq_of_counts counted other_counted acl_eq rules_eq size_eq malformed_eq

/-! ## Two runs -/

/-- Password files that name the same users and have as many malformed lines are told apart
by authentication only: with any rules they are refused for the same reason, or they make
stores with the same counts, the same rules, the same decisions and the same summary.
Whatever the users and their stored passwords are, a summary is known from the rules, the
configuration, the number of users and the number of malformed lines. -/
theorem stored_passwords_only_authenticate :
    (∀ config passwords other acl, Password.SameUsers passwords other →
      (∀ error, ofTexts config passwords acl = .error error ↔
        ofTexts config other acl = .error error) ∧
      (∀ store, ofTexts config passwords acl = .ok store →
        ∃ second, ofTexts config other acl = .ok second ∧
          second.stats = store.stats ∧ second.rules = store.rules ∧
          (∀ request, second.acl.decision request = store.acl.decision request) ∧
          second.summary = store.summary) ∧
      (Password.File.read other).summary = (Password.File.read passwords).summary) ∧
    (∀ config passwords other acl store second,
      ofTexts config passwords acl = .ok store → ofTexts config other acl = .ok second →
      second.users.size = store.users.size →
      second.stats.malformedLines = store.stats.malformedLines →
      second.summary = store.summary) ∧
    ∀ files others config passwords otherPasswords acl store second,
      Opens files config passwords acl → Opens others config otherPasswords acl →
      load files config = .ok store → load others config = .ok second →
      second.users.size = store.users.size →
      second.stats.malformedLines = store.stats.malformedLines →
      second.summary = store.summary := by
  refine ⟨?_, fun _ _ _ _ _ _ => summary_eq_of_ofTexts,
    fun _ _ _ _ _ _ _ _ => summary_eq_of_load⟩
  intro config passwords other acl same
  refine ⟨ofTexts_eq_error_iff_of_sameUsers same, ?_, ?_⟩
  · intro store made
    obtain ⟨second, other_made, acl_eq, stats_eq⟩ := exists_ofTexts_of_sameUsers same made
    have size_eq : second.users.size = store.users.size := by
      rw [← users_stats_of_ofTexts made, ← users_stats_of_ofTexts other_made, stats_eq]
    refine ⟨second, other_made, stats_eq, ?_, ?_, summary_eq size_eq acl_eq stats_eq⟩
    · rw [rules, rules, acl_eq]
    · intro request
      rw [acl_eq]
  · rw [Password.File.summary, Password.File.summary, same.size_eq, same.malformed_eq]

/-- Two lines for one user instead of one, with other stored passwords and beside another
malformed line, are not told apart, even by a strict reading. -/
theorem stored_passwords_not_shown :
    Password.SameUsers "u:a\nbad\n" "u:b\n# c\na:b:c\nu:c" ∧
      ∃ store second,
        ofTexts { Config.initial with unknownUser := .strict } "u:a\nbad\n"
          (some "user u\ntopic read t\n") = .ok store ∧
        ofTexts { Config.initial with unknownUser := .strict } "u:b\n# c\na:b:c\nu:c"
          (some "user u\ntopic read t\n") = .ok second ∧
        second.stats = ⟨1, 1, 1⟩ ∧ second.stats = store.stats ∧
        second.summary = store.summary := by
  have named_eq : ∀ name,
      (Password.File.read "u:a\nbad\n").users.contains name =
        (Password.File.read "u:b\n# c\na:b:c\nu:c").users.contains name := by
    intro name
    rw [Bool.eq_iff_iff, NameMap.contains_iff_mem, NameMap.contains_iff_mem]
    rfl
  have same : Password.SameUsers "u:a\nbad\n" "u:b\n# c\na:b:c\nu:c" := by
    constructor
    · intro name
      rw [← Password.File.contains_read_iff, ← Password.File.contains_read_iff, named_eq]
    · rfl
  have made : ofTexts { Config.initial with unknownUser := .strict } "u:a\nbad\n"
      (some "user u\ntopic read t\n") = .ok _ := rfl
  rcases (stored_passwords_only_authenticate.1 _ _ _ _ same).2.1 _ made with
    ⟨second, other_made, stats_eq, _, _, summary_eq⟩
  exact ⟨same, _, second, made, other_made, stats_eq, stats_eq, summary_eq⟩

end Store

end TopicGuard
