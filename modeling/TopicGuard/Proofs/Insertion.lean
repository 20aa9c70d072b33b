import TopicGuard.Proofs.Accounting
import TopicGuard.Proofs.Clients

/-!
# One more rule line

A rule line that is inserted into an ACL file adds one rule to those that are tried, at one
place, and only for the users whom it is meant for.  So a text stays readable, what was
allowed stays allowed, whatever becomes allowed is granted by the new rule, and whoever the
rule is not meant for is decided as before.
-/

namespace TopicGuard

namespace Acl

/-! ## Sections with one more line -/

/-- A line that names no user opens no section. -/
theorem openSection_insert (before after : List Line) {line : Line}
    (unnamed : line.user? = none) :
    openSection (before ++ line :: after) = openSection (before ++ after) := by
  simp only [openSection, List.filterMap_append, List.filterMap_cons_none unnamed]

/-- A line that names no user adds its rule to the section that is open, behind the rules
before it, and leaves all other sections as they are. -/
theorem exists_sectionRules_insert (before after : List Line) {line : Line}
    (unnamed : line.user? = none) (owner : Option String) :
    ∃ later, sectionRules owner (before ++ after) = sectionRules owner before ++ later ∧
      sectionRules owner (before ++ line :: after) = sectionRules owner before ++
        ((if openSection before = owner then line.topic? else none).toList ++ later) := by
  induction after using List.reverseRecOn with
  | nil =>
      refine ⟨[], ?_, ?_⟩
      · rw [List.append_nil, List.append_nil]
      · rw [sectionRules_append_singleton, List.append_nil]
  | append_singleton after last ih =>
      obtain ⟨later, without_eq, with_eq⟩ := ih
      refine ⟨later ++ (if openSection (before ++ after) = owner then last.topic?
        else none).toList, ?_, ?_⟩
      · rw [← List.append_assoc, sectionRules_append_singleton, without_eq, List.append_assoc]
      · rw [← List.cons_append, ← List.append_assoc, sectionRules_append_singleton, with_eq,
          openSection_insert before after unnamed, List.append_assoc, List.append_assoc]

/-! ## Rules that are tried -/

/-- The rule that a line adds to those that are tried for a user, where `owner` is the user
whose section the line stands in: a topic rule is tried for that user, and for everyone
where no section is open; a pattern rule is tried for everyone. -/
def Line.trial? (owner : Option String) (username : String) : Line → Option Trial
  | .topic rule =>
      match owner with
      | none => some ⟨.common, rule⟩
      | some name => if name = username then some ⟨.user, rule⟩ else none
  | .pattern rule => some ⟨.pattern, rule⟩
  | _ => none

/-- The rules that are tried are those of the user's section, the common ones and the
pattern rules. -/
theorem Reader.Collects.trials_eq {reader : Reader} {lines : List Line}
    (collected : reader.Collects lines) (username : String) :
    reader.file.rules.trials username =
      (sectionRules (some username) lines).map (Trial.mk .user) ++
        (sectionRules none lines).map (Trial.mk .common) ++
        (lines.filterMap Line.pattern?).map (Trial.mk .pattern) := by
  rw [RuleSet.trials, collected.rulesOf_eq, collected.common_eq, collected.pattern_eq]

/-- One more rule line is one more rule that is tried, or none at all. -/
theorem Reader.Collects.exists_trials_insert {reader extended : Reader}
    {before after : List Line} {line : Line} (collected : reader.Collects (before ++ after))
    (collected_extended : extended.Collects (before ++ line :: after))
    (states : line.isRule = true) (username : String) :
    ∃ earlier later, reader.file.rules.trials username = earlier ++ later ∧
      extended.file.rules.trials username =
        earlier ++ ((line.trial? (openSection before) username).toList ++ later) := by
  have sections := @exists_sectionRules_insert before after line
  rw [collected.trials_eq, collected_extended.trials_eq]
  cases line with
  | topic rule =>
      obtain ⟨user_later, user_eq, user_extended_eq⟩ := sections rfl (some username)
      obtain ⟨common_later, common_eq, common_extended_eq⟩ := sections rfl none
      have pattern_eq : (before ++ .topic rule :: after).filterMap Line.pattern? =
          (before ++ after).filterMap Line.pattern? := by
        rw [List.filterMap_append, List.filterMap_append]
        rfl
      rw [user_eq, user_extended_eq, common_eq, common_extended_eq, pattern_eq]
      cases opened : openSection before with
      | none =>
          refine ⟨(sectionRules (some username) before ++ user_later).map (Trial.mk .user) ++
              (sectionRules none before).map (Trial.mk .common),
            common_later.map (Trial.mk .common) ++
              ((before ++ after).filterMap Line.pattern?).map (Trial.mk .pattern), ?_, ?_⟩ <;>
            simp [Line.trial?, Line.topic?]
      | some name =>
          by_cases same : name = username
          · refine ⟨(sectionRules (some username) before).map (Trial.mk .user),
              user_later.map (Trial.mk .user) ++
                (sectionRules none before ++ common_later).map (Trial.mk .common) ++
                ((before ++ after).filterMap Line.pattern?).map (Trial.mk .pattern), ?_, ?_⟩ <;>
              simp [Line.trial?, Line.topic?, same]
          · exact ⟨[], _, rfl, by simp [Line.trial?, same]⟩
  | pattern rule =>
      have section_eq : ∀ owner, sectionRules owner (before ++ .pattern rule :: after) =
          sectionRules owner (before ++ after) := by
        intro owner
        obtain ⟨later, without_eq, with_eq⟩ := sections rfl owner
        rw [without_eq, with_eq]
        simp [Line.topic?]
      rw [section_eq, section_eq]
      refine ⟨(sectionRules (some username) (before ++ after)).map (Trial.mk .user) ++
          (sectionRules none (before ++ after)).map (Trial.mk .common) ++
          (before.filterMap Line.pattern?).map (Trial.mk .pattern),
        (after.filterMap Line.pattern?).map (Trial.mk .pattern), ?_, ?_⟩ <;>
        simp [Line.trial?, Line.pattern?]
  | _ => contradiction

/-! ## Texts with one more line -/

/-- What a line that states a rule says. -/
inductive Line.States (line : List Char) : Line → Prop
  | topic {rule : Rule} (stated : StatesRule topicKeyword line rule) : States line (.topic rule)
  | pattern {rule : Rule} (stated : StatesRule patternKeyword line rule) :
      States line (.pattern rule)

theorem Line.States.read_eq {line : List Char} {said : Line} (states : States line said) :
    read line = said := by
  cases states with
  | topic stated => exact read_eq_topic_iff.mpr stated
  | pattern stated => exact read_eq_pattern_iff.mpr stated

theorem Line.States.isRule_eq {line : List Char} {said : Line} (states : States line said) :
    said.isRule = true := by
  cases states <;> rfl

namespace File

variable {before after line : String}

/-- A text is cut where a line ends. -/
theorem linesOf_append
    (boundary : before.toList = [] ∨ before.toList.getLast? = some '\n') :
    linesOf (before ++ after) = linesOf before ++ linesOf after := by
  rw [linesOf, String.toList_append, Text.lines_append boundary, List.map_append]
  rfl

theorem linesOf_insert (boundary : before.toList = [] ∨ before.toList.getLast? = some '\n')
    (one_line : '\n' ∉ line.toList) :
    linesOf (before ++ line ++ "\n" ++ after) =
      linesOf before ++ Line.read line.toList :: linesOf after := by
  have line_eq : linesOf (line ++ "\n" ++ after) = Line.read line.toList :: linesOf after := by
    have cut := Text.lines_append_newline one_line after.toList
    rw [linesOf, String.toList_append, String.toList_append, List.append_assoc]
    rw [show "\n".toList ++ after.toList = '\n' :: after.toList from rfl, cut, List.map_cons,
      Line.read_dropReturn]
    rfl
  rw [String.append_assoc, String.append_assoc, linesOf_append boundary, ← String.append_assoc,
    line_eq]

end File

end Acl

/-! ## Stores -/

namespace Guard

/-- Guards of one policy that try the same rules for a user decide alike. -/
theorem decision_eq_of_trials_eq {first second : RuleSet} {policy : SubscribePolicy}
    {request : Request} (same : first.trials request.username = second.trials request.username) :
    (ofRules first policy).decision request = (ofRules second policy).decision request := by
  have candidates_eq : first.candidates request = second.candidates request := by
    rw [RuleSet.candidates_eq_filterMap_trials, RuleSet.candidates_eq_filterMap_trials, same]
  rw [decision_eq_firstGranting? rfl, decision_eq_firstGranting? rfl, RuleSet.firstGranting?,
    RuleSet.firstGranting?, candidates_eq]
  rfl

end Guard

namespace Store

variable {config : Config} {passwords before line after : String} {said : Acl.Line}

/-- With a text for the rules there is a store if that text is read. -/
theorem ofTexts_some_eq_ok_iff {text : String} {store : Store} :
    ofTexts config passwords (some text) = .ok store ↔
      ∃ file, Acl.File.read config.unknownUser
          (Password.File.read passwords).users.contains text = .ok file ∧
        ofFiles config (Password.File.read passwords) (some file) = store := by
  rw [ofTexts]
  cases Acl.File.read config.unknownUser (Password.File.read passwords).users.contains text <;>
    simp

/-- A line that states a rule makes no text unreadable and none readable. -/
theorem exists_ofTexts_insert_iff
    (boundary : before.toList = [] ∨ before.toList.getLast? = some '\n')
    (one_line : '\n' ∉ line.toList) (states : Acl.Line.States line.toList said) :
    (∃ extended, ofTexts config passwords (some (before ++ line ++ "\n" ++ after)) =
        .ok extended) ↔
      ∃ store, ofTexts config passwords (some (before ++ after)) = .ok store := by
  have unnamed : ∀ name, said ≠ .user name := by
    cases states <;> simp
  simp only [ofTexts_some_eq_ok_iff, exists_comm (α := Store), exists_and_left, exists_eq',
    and_true, Acl.File.exists_read_eq_ok_iff, Acl.File.linesOf_insert boundary one_line,
    Acl.File.linesOf_append boundary, states.read_eq, List.mem_append, List.mem_cons,
    (unnamed _).symm, false_or]

/-- The rule of an inserted line is tried at one place for the users whom it is meant for. -/
theorem exists_trials_ofTexts_insert {store extended : Store}
    (boundary : before.toList = [] ∨ before.toList.getLast? = some '\n')
    (one_line : '\n' ∉ line.toList) (states : Acl.Line.States line.toList said)
    (made : ofTexts config passwords (some (before ++ after)) = .ok store)
    (made_extended : ofTexts config passwords (some (before ++ line ++ "\n" ++ after)) =
      .ok extended) :
    extended.users = store.users ∧ ∃ rules extendedRules,
      store.acl = .ofRules rules config.subscribe ∧
      extended.acl = .ofRules extendedRules config.subscribe ∧
      ∀ username, ∃ earlier later, rules.trials username = earlier ++ later ∧
        extendedRules.trials username = earlier ++
          ((said.trial? (Acl.openSection (Acl.File.linesOf before)) username).toList ++ later) := by
  rcases ofTexts_some_eq_ok_iff.mp made with ⟨file, read_eq, rfl⟩
  rcases ofTexts_some_eq_ok_iff.mp made_extended with ⟨extendedFile, extended_read_eq, rfl⟩
  rcases Acl.File.exists_collects_linesOf read_eq with ⟨last, rfl, collected⟩
  rcases Acl.File.exists_collects_linesOf extended_read_eq with ⟨extendedLast, rfl, extended⟩
  rw [Acl.File.linesOf_append boundary] at collected
  rw [Acl.File.linesOf_insert boundary one_line, states.read_eq] at extended
  exact ⟨rfl, last.file.rules, extendedLast.file.rules, rfl, rfl,
    collected.exists_trials_insert extended states.isRule_eq⟩

/-- A line that states a rule can be inserted where another line of an ACL file ends or at
its start, without making the text unreadable or readable.  The store then allows what it
allowed without the line, and beside that only what the rule of the line itself grants: a
topic rule behind a line that names a user is tried for that user alone, as it is written,
and every other rule is tried for everyone, with its placeholders replaced.  So nothing is
revoked, and the requests of all others are decided as before if the rule is one user's. -/
theorem ofTexts_insert_rule_line
    (boundary : before.toList = [] ∨ before.toList.getLast? = some '\n')
    (one_line : '\n' ∉ line.toList) (states : Acl.Line.States line.toList said) :
    ((∃ extended, ofTexts config passwords (some (before ++ line ++ "\n" ++ after)) =
        .ok extended) ↔
      ∃ store, ofTexts config passwords (some (before ++ after)) = .ok store) ∧
    ∀ store extended, ofTexts config passwords (some (before ++ after)) = .ok store →
      ofTexts config passwords (some (before ++ line ++ "\n" ++ after)) = .ok extended →
      extended.users = store.users ∧
      (∀ request, (extended.acl.decision request).isAllowed = true ↔
        (store.acl.decision request).isAllowed = true ∨
          ∃ trial, said.trial? (Acl.openSection (Acl.File.linesOf before)) request.username =
              some trial ∧ trial.Grants config.subscribe request) ∧
      (∀ request, (store.acl.decision request).isAllowed = true →
        (extended.acl.decision request).isAllowed = true) ∧
      ∀ name rule, Acl.openSection (Acl.File.linesOf before) = some name →
        said = .topic rule → ∀ request, request.username ≠ name →
          extended.acl.decision request = store.acl.decision request := by
  refine ⟨exists_ofTexts_insert_iff boundary one_line states, ?_⟩
  intro store extended made made_extended
  rcases exists_trials_ofTexts_insert boundary one_line states made made_extended with
    ⟨users_eq, rules, extendedRules, acl_eq, extended_acl_eq, inserted⟩
  have allowed_iff : ∀ request, (extended.acl.decision request).isAllowed = true ↔
      (store.acl.decision request).isAllowed = true ∨
        ∃ trial, said.trial? (Acl.openSection (Acl.File.linesOf before)) request.username =
            some trial ∧ trial.Grants config.subscribe request := by
    intro request
    rcases inserted request.username with ⟨earlier, later, trials_eq, extended_trials_eq⟩
    rw [acl_eq, extended_acl_eq, Guard.isAllowed_iff_exists_trial rfl,
      Guard.isAllowed_iff_exists_trial rfl, trials_eq, extended_trials_eq]
    simp only [List.mem_append, Option.mem_toList, or_and_right, exists_or,
      Guard.ofRules]
    exact or_left_comm.trans or_comm
  refine ⟨users_eq, allowed_iff, fun request allowed => (allowed_iff request).mpr (.inl allowed),
    ?_⟩
  rintro name rule opened rfl request other
  rcases inserted request.username with ⟨earlier, later, trials_eq, extended_trials_eq⟩
  have untried : Acl.Line.trial? (Acl.openSection (Acl.File.linesOf before)) request.username
      (.topic rule) = none := by
    rw [opened]
    exact if_neg other.symm
  rw [untried, Option.toList_none, List.nil_append, ← trials_eq] at extended_trials_eq
  rw [acl_eq, extended_acl_eq]
  exact Guard.decision_eq_of_trials_eq extended_trials_eq

/-- A topic line in the section of `u` allows its topic to `u`, and `v` is decided as
before. -/
theorem ofTexts_insert_topic_line_of_user :
    ("user u\n".toList = [] ∨ "user u\n".toList.getLast? = some '\n') ∧
    '\n' ∉ "topic read a/b".toList ∧
    Acl.Line.States "topic read a/b".toList (.topic ⟨"a/b", .read⟩) ∧
    ∃ store extended,
      ofTexts .initial "u:h\n" (some ("user u\n" ++ "topic c\npattern a/%u\n")) = .ok store ∧
      ofTexts .initial "u:h\n"
        (some ("user u\n" ++ "topic read a/b" ++ "\n" ++ "topic c\npattern a/%u\n")) =
          .ok extended ∧
      (extended.acl.decision ⟨"u", "k", "a/b", .read⟩).isAllowed = true ∧
      extended.acl.decision ⟨"v", "k", "a/v", .read⟩ =
        store.acl.decision ⟨"v", "k", "a/v", .read⟩ := by
  have boundary : "user u\n".toList = [] ∨ "user u\n".toList.getLast? = some '\n' :=
    .inr (by decide)
  have one_line : '\n' ∉ "topic read a/b".toList := by decide
  have states : Acl.Line.States "topic read a/b".toList (.topic ⟨"a/b", .read⟩) :=
    .topic ⟨by decide, .inr ⟨"read".toList, "a/b".toList, [], by decide, by decide, by decide⟩⟩
  have inserted := (@ofTexts_insert_rule_line .initial "u:h\n" _ _ "topic c\npattern a/%u\n" _
    boundary one_line states).2 _ _ rfl rfl
  refine ⟨boundary, one_line, states, _, _, rfl, rfl, ?_, ?_⟩
  · exact (inserted.2.1 _).mpr (.inr ⟨_, rfl, ⟨.user, "a/b", .read⟩, rfl, by decide⟩)
  · exact inserted.2.2.2 "u" _ rfl rfl _ (by decide)

end Store

end TopicGuard
