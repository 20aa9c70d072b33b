import TopicGuard.Acl.File
import TopicGuard.Proofs.Acl.Line
import TopicGuard.Proofs.NameMap

/-!
# Sections of an ACL file

What a reader collects line by line is a function of the lines as a whole.  A topic
rule belongs to the user named by the nearest line before it that names one, and to
everyone if there is no such line; a pattern rule belongs to everyone.  The reader
keeps this after every line, whatever its policy, as long as no line stops it.
-/

namespace TopicGuard.Acl

namespace Line

/-- The user that a line names. -/
def user? : Line → Option String
  | .user name => some name
  | _ => none

/-- The topic rule that a line states. -/
def topic? : Line → Option Rule
  | .topic rule => some rule
  | _ => none

/-- The pattern rule that a line states. -/
def pattern? : Line → Option Rule
  | .pattern rule => some rule
  | _ => none

/-- Whether a line states a rule. -/
def isRule (line : Line) : Bool :=
  line.topic?.isSome || line.pattern?.isSome

/-- Whether a line names a user or states a rule. -/
def isMeant (line : Line) : Bool :=
  line.user?.isSome || line.isRule

end Line

/-- The user named by the last of some lines that names one. -/
def openSection (lines : List Line) : Option String :=
  (lines.filterMap Line.user?).getLast?

/-- The topic rules whose nearest line before that names a user names `owner`, in
the order of the lines; for `none`, those with no such line before. -/
def sectionRules (owner : Option String) (lines : List Line) : List Rule :=
  lines.zipIdx.filterMap fun (line, index) =>
    if openSection (lines.take index) = owner then line.topic? else none

/-! ## One more line -/

theorem openSection_append (first second : List Line) :
    openSection (first ++ second) = (openSection second).or (openSection first) := by
  rw [openSection, List.filterMap_append, List.getLast?_append]
  rfl

theorem openSection_append_singleton (lines : List Line) (line : Line) :
    openSection (lines ++ [line]) = line.user?.or (openSection lines) := by
  rw [openSection_append]
  cases named : line.user? with
  | none => simp [openSection, named]
  | some name => simp [openSection, named]

theorem sectionRules_append_singleton (owner : Option String) (lines : List Line)
    (line : Line) :
    sectionRules owner (lines ++ [line]) =
      sectionRules owner lines ++
        (if openSection lines = owner then line.topic? else none).toList := by
  have before : ∀ entry ∈ lines.zipIdx,
      (lines ++ [line]).take entry.2 = lines.take entry.2 := by
    rintro ⟨other, index⟩ member
    have bound : index < lines.length := by
      simpa using (List.mem_zipIdx member).2.1
    rw [List.take_append_of_le_length (Nat.le_of_lt bound)]
  have same : ∀ entry ∈ lines.zipIdx,
      (if openSection ((lines ++ [line]).take entry.2) = owner then entry.1.topic?
        else none) =
      if openSection (lines.take entry.2) = owner then entry.1.topic? else none := by
    intro entry member
    rw [before entry member]
  simp only [sectionRules, List.zipIdx_append, List.filterMap_append,
    List.filterMap_congr same]
  congr 1
  cases found : (if openSection lines = owner then line.topic? else none) <;>
    simp [found]

/-! ## More lines -/

/-- Only a line that names a user opens a section. -/
theorem mem_of_openSection {lines : List Line} {name : String}
    (opened : openSection lines = some name) : .user name ∈ lines := by
  rcases List.mem_filterMap.mp (List.mem_of_getLast? opened) with ⟨line, member, named⟩
  cases line <;> simp [Line.user?] at named
  rwa [named] at member

/-- A rule of a section stands on a line, behind the line that opens the section. -/
theorem mem_sectionRules {owner : Option String} {lines : List Line} {rule : Rule}
    (member : rule ∈ sectionRules owner lines) :
    .topic rule ∈ lines ∧ ∀ name, owner = some name → .user name ∈ lines := by
  rcases List.mem_filterMap.mp member with ⟨⟨line, index⟩, line_mem, stated⟩
  have line_found := List.fst_mem_of_mem_zipIdx line_mem
  rcases Option.ite_none_right_eq_some.mp stated with ⟨opened, topic_eq⟩
  constructor
  · cases line <;> simp [Line.topic?] at topic_eq
    rwa [topic_eq] at line_found
  · rintro name rfl
    exact List.mem_of_mem_take (mem_of_openSection opened)

/-- Lines that name no user add their topic rules to the section that is open. -/
theorem sectionRules_append_of_no_user (owner : Option String) (first : List Line)
    {second : List Line} (no_user : ∀ line ∈ second, line.user? = none) :
    sectionRules owner (first ++ second) = sectionRules owner first ++
      if openSection first = owner then second.filterMap Line.topic? else [] := by
  induction second using List.reverseRecOn with
  | nil => simp
  | append_singleton second line ih =>
      have before_no_user : ∀ other ∈ second, other.user? = none := fun other member =>
        no_user other (List.mem_append_left _ member)
      have unopened : openSection second = none := by
        rw [openSection, List.filterMap_eq_nil_iff.mpr before_no_user]
        rfl
      rw [← List.append_assoc, sectionRules_append_singleton, ih before_no_user,
        openSection_append, unopened, Option.none_or, List.filterMap_append]
      split
      · rw [List.append_assoc]
        cases stated : line.topic? <;> simp [stated]
      · simp

/-! ## What the reader keeps -/

/-- A reader has collected what some lines say as a whole. -/
structure Reader.Collects (reader : Reader) (lines : List Line) : Prop where
  owner_eq : reader.owner = openSection lines
  user_eq : ∀ name,
    reader.file.rules.user.get? name =
      if (sectionRules (some name) lines).isEmpty then none
      else some (sectionRules (some name) lines)
  common_eq : reader.file.rules.common = sectionRules none lines
  pattern_eq : reader.file.rules.pattern = lines.filterMap Line.pattern?
  accepted_eq : reader.file.accepted = lines.countP Line.isRule
  malformed_eq : reader.file.malformed = lines.countP (· = .malformed)

namespace Reader

/-- The rules of a user are those of the sections that the user's name opens. -/
theorem Collects.rulesOf_eq {reader : Reader} {lines : List Line}
    (collected : reader.Collects lines) (name : String) :
    reader.file.rules.rulesOf name = sectionRules (some name) lines := by
  rw [RuleSet.rulesOf, collected.user_eq]
  split
  · rename_i empty
    rw [List.isEmpty_iff.mp empty, Option.getD_none]
  · rfl

theorem Collects.contains_iff {reader : Reader} {lines : List Line}
    (collected : reader.Collects lines) {name : String} :
    reader.file.rules.user.contains name = true ↔ sectionRules (some name) lines ≠ [] := by
  rw [NameMap.contains, collected.user_eq]
  split
  · rename_i empty
    simpa using empty
  · rename_i owned
    simpa using owned

theorem collects_start : start.Collects [] where
  owner_eq := rfl
  user_eq _ := rfl
  common_eq := rfl
  pattern_eq := rfl
  accepted_eq := rfl
  malformed_eq := rfl

/-- A line that neither names a user nor states a topic rule leaves the sections as
they are. -/
private theorem Collects.append_of_no_section {reader : Reader} {lines : List Line}
    (collected : reader.Collects lines) (line : Line)
    (no_user : line.user? = none) (no_topic : line.topic? = none) :
    Collects
      { reader with file :=
        { rules := { reader.file.rules with
            pattern := reader.file.rules.pattern ++ line.pattern?.toList }
          accepted := reader.file.accepted + if line.isRule then 1 else 0
          malformed := reader.file.malformed + if line = .malformed then 1 else 0 } }
      (lines ++ [line]) := by
  have sections_eq : ∀ owner,
      sectionRules owner (lines ++ [line]) = sectionRules owner lines := by
    intro owner
    rw [sectionRules_append_singleton, no_topic, ite_self, Option.toList_none,
      List.append_nil]
  constructor
  · rw [openSection_append_singleton, no_user, Option.none_or]
    exact collected.owner_eq
  · intro name
    rw [sections_eq]
    exact collected.user_eq name
  · rw [sections_eq]
    exact collected.common_eq
  · simp only [List.filterMap_append, collected.pattern_eq]
    cases pattern_eq : line.pattern? <;> simp [pattern_eq]
  · simp only [List.countP_append, List.countP_singleton, collected.accepted_eq]
  · simp [List.countP_append, List.countP_singleton, collected.malformed_eq]

/-- A topic rule goes to the section that is open. -/
private theorem Collects.addTopic {reader : Reader} {lines : List Line}
    (collected : reader.Collects lines) (rule : Rule) :
    (reader.addTopic rule).Collects (lines ++ [.topic rule]) := by
  have sections_eq : ∀ owner, sectionRules owner (lines ++ [.topic rule]) =
      sectionRules owner lines ++ if reader.owner = owner then [rule] else [] := by
    intro owner
    rw [sectionRules_append_singleton, collected.owner_eq]
    split <;> rfl
  constructor
  · rw [openSection_append_singleton]
    exact collected.owner_eq
  · intro name
    rw [sections_eq]
    cases owner_eq : reader.owner with
    | none =>
        simp only [Reader.addTopic, owner_eq, RuleSet.addCommonRule]
        simpa using collected.user_eq name
    | some owner =>
        simp only [Reader.addTopic, owner_eq, RuleSet.addUserRule, NameMap.get?_alter]
        by_cases same : name = owner
        · subst same
          have old_eq := collected.rulesOf_eq name
          rw [RuleSet.rulesOf] at old_eq
          simp [old_eq]
        · simpa [same, Ne.symm same] using collected.user_eq name
  · rw [sections_eq]
    cases owner_eq : reader.owner with
    | none =>
        simp only [Reader.addTopic, owner_eq, RuleSet.addCommonRule, collected.common_eq]
        rfl
    | some owner =>
        simp only [Reader.addTopic, owner_eq, RuleSet.addUserRule, collected.common_eq]
        simp
  · have same_pattern : (reader.addTopic rule).file.rules.pattern =
        reader.file.rules.pattern := by
      simp only [Reader.addTopic]
      split <;> rfl
    rw [same_pattern, collected.pattern_eq, List.filterMap_append]
    simp [Line.pattern?]
  · simp [Reader.addTopic, collected.accepted_eq, List.countP_append, Line.isRule,
      Line.topic?]
  · simp [Reader.addTopic, collected.malformed_eq, List.countP_append]

/-- Reading one more line keeps what has been collected. -/
theorem collects_step {policy : UnknownUserPolicy} {isKnown : String → Bool} {number : Nat}
    {reader next : Reader} {lines : List Line} {line : Line}
    (collected : reader.Collects lines)
    (taken : reader.step policy isKnown number line = .ok next) :
    next.Collects (lines ++ [line]) := by
  cases line with
  | inert =>
      cases taken
      simpa [Line.pattern?, Line.isRule, Line.topic?] using
        collected.append_of_no_section .inert rfl rfl
  | user name =>
      have next_eq : next = { reader with owner := some name } := by
        simp only [step] at taken
        split at taken
        · contradiction
        · exact (Except.ok.inj taken).symm
      have sections_eq : ∀ owner,
          sectionRules owner (lines ++ [.user name]) = sectionRules owner lines := by
        intro owner
        simp [sectionRules_append_singleton, Line.topic?]
      rw [next_eq]
      constructor
      · rw [openSection_append_singleton]
        rfl
      · intro other
        rw [sections_eq]
        exact collected.user_eq other
      · rw [sections_eq]
        exact collected.common_eq
      · rw [List.filterMap_append, List.filterMap_cons_none rfl, List.filterMap_nil,
          List.append_nil]
        exact collected.pattern_eq
      · rw [List.countP_append]
        simpa [Line.isRule, Line.topic?, Line.pattern?] using collected.accepted_eq
      · rw [List.countP_append]
        simpa using collected.malformed_eq
  | topic rule =>
      cases taken
      exact collected.addTopic rule
  | pattern rule =>
      cases taken
      simpa [addPattern, RuleSet.addPatternRule, Line.pattern?, Line.isRule, Line.topic?] using
        collected.append_of_no_section (.pattern rule) rfl rfl
  | malformed =>
      cases taken
      simpa [addMalformed, Line.pattern?, Line.isRule, Line.topic?] using
        collected.append_of_no_section .malformed rfl rfl

/-- Reading some lines keeps what has been collected before them. -/
theorem collects_run {policy : UnknownUserPolicy} {isKnown : String → Bool} {number : Nat}
    {reader last : Reader} {before lines : List Line}
    (collected : reader.Collects before)
    (taken : reader.run policy isKnown number lines = .ok last) :
    last.Collects (before ++ lines) := by
  induction lines generalizing number reader before with
  | nil =>
      cases taken
      rwa [List.append_nil]
  | cons line rest ih =>
      rw [run] at taken
      split at taken
      · contradiction
      · rename_i next step_eq
        have collected_next := ih (collects_step collected step_eq) taken
        rwa [List.append_assoc, List.singleton_append] at collected_next

/-- A permissive reader reads every file to its end. -/
theorem exists_run_permissive (isKnown : String → Bool) (number : Nat) (reader : Reader)
    (lines : List Line) :
    ∃ last, reader.run .permissive isKnown number lines = .ok last := by
  induction lines generalizing number reader with
  | nil => exact ⟨reader, rfl⟩
  | cons line rest ih =>
      rcases exists_step_permissive isKnown number reader line with ⟨next, step_eq⟩
      rcases ih (number + 1) next with ⟨last, run_eq⟩
      exact ⟨last, by rw [run, step_eq]; exact run_eq⟩

end Reader

/-! ## Lines without meaning -/

theorem openSection_filter_isMeant (lines : List Line) :
    openSection (lines.filter Line.isMeant) = openSection lines := by
  have kept : ∀ line : Line,
      (if line.isMeant = true then line.user? else none) = line.user? := by
    intro line
    cases line <;> rfl
  simp only [openSection, List.filterMap_filter, kept]

theorem sectionRules_filter_isMeant (owner : Option String) (lines : List Line) :
    sectionRules owner (lines.filter Line.isMeant) = sectionRules owner lines := by
  induction lines using List.reverseRecOn with
  | nil => rfl
  | append_singleton lines line ih =>
      by_cases meant : line.isMeant = true
      · rw [List.filter_append, List.filter_singleton, meant, cond_true,
          sectionRules_append_singleton, sectionRules_append_singleton, ih,
          openSection_filter_isMeant]
      · have no_topic : line.topic? = none := by
          cases line with
          | topic rule => exact absurd rfl meant
          | inert | user name | pattern rule | malformed => rfl
        rw [List.filter_append, List.filter_singleton, Bool.eq_false_iff.mpr meant,
          cond_false, List.append_nil, ih,
          sectionRules_append_singleton, no_topic, ite_self, Option.toList_none,
          List.append_nil]

/-- Readers that have collected the same lines with a meaning have the same open
section, the same rules and the same number of them. -/
theorem Reader.Collects.eq_of_filter_isMeant {first second : Reader}
    {lines others : List Line} (collected : first.Collects lines)
    (collected_others : second.Collects others)
    (same : lines.filter Line.isMeant = others.filter Line.isMeant) :
    first.owner = second.owner ∧ first.file.rules = second.file.rules ∧
      first.file.accepted = second.file.accepted := by
  have sections_eq : ∀ owner, sectionRules owner lines = sectionRules owner others := by
    intro owner
    rw [← sectionRules_filter_isMeant, same, sectionRules_filter_isMeant]
  have user_eq : first.file.rules.user = second.file.rules.user := by
    apply NameMap.ext_get?
    intro name
    rw [collected.user_eq, collected_others.user_eq, sections_eq]
  have common_eq : first.file.rules.common = second.file.rules.common := by
    rw [collected.common_eq, collected_others.common_eq, sections_eq]
  have pattern_kept : ∀ line : Line,
      (if line.isMeant = true then line.pattern? else none) = line.pattern? := by
    intro line
    cases line <;> rfl
  have patterns_eq : lines.filterMap Line.pattern? = others.filterMap Line.pattern? := by
    have kept := congrArg (List.filterMap Line.pattern?) same
    simpa only [List.filterMap_filter, pattern_kept] using kept
  have pattern_eq : first.file.rules.pattern = second.file.rules.pattern := by
    rw [collected.pattern_eq, collected_others.pattern_eq, patterns_eq]
  have rule_kept : ∀ line : Line, (line.isRule && line.isMeant) = line.isRule := by
    intro line
    cases line <;> rfl
  have count_eq : lines.countP Line.isRule = others.countP Line.isRule := by
    have kept := congrArg (List.countP Line.isRule) same
    simpa only [List.countP_filter, rule_kept] using kept
  refine ⟨?_, ?_, ?_⟩
  · rw [collected.owner_eq, collected_others.owner_eq, ← openSection_filter_isMeant, same,
      openSection_filter_isMeant]
  · exact RuleSet.ext user_eq common_eq pattern_eq
  · rw [collected.accepted_eq, collected_others.accepted_eq, count_eq]

/-! ## The whole file -/

/-- A permissive reader takes every text. -/
theorem File.exists_read_permissive (isKnown : String → Bool) (text : String) :
    ∃ file, File.read .permissive isKnown text = .ok file := by
  obtain ⟨last, run_eq⟩ := Reader.exists_run_permissive isKnown 1 Reader.start
    ((Text.lines text.toList).map Line.read)
  exact ⟨last.file, by rw [File.read, run_eq]; rfl⟩

/-- What the lines of a text say, one by one. -/
def File.linesOf (text : String) : List Line :=
  (Text.lines text.toList).map Line.read

/-- A permissive reader takes every text.  With the lines that name a user or state a
rule as their words say, the rules of a name are the topic rules whose nearest such
line before names it, and the name has an entry if there are any; the common rules are
the topic rules before all users; the pattern rules are all there are.  The other lines
are counted, if they are not blank and no comments, and change nothing else: without
them the reader ends with the same section open, the same rules and the same number of
them. -/
theorem File.read_permissive_by_sections (isKnown : String → Bool) (text : String) :
    ((∀ line name, Line.read line = .user name ↔ Line.NamesUser line name) ∧
      (∀ line rule,
        Line.read line = .topic rule ↔ Line.StatesRule Line.topicKeyword line rule) ∧
      (∀ line rule,
        Line.read line = .pattern rule ↔ Line.StatesRule Line.patternKeyword line rule) ∧
      ∀ line, Line.read line = .inert ↔ Text.isInert line = true) ∧
    ∃ file, File.read .permissive isKnown text = .ok file ∧
      (∀ name, file.rules.rulesOf name = sectionRules (some name) (linesOf text)) ∧
      file.rules.common = sectionRules none (linesOf text) ∧
      file.rules.pattern = (linesOf text).filterMap Line.pattern? ∧
      (∀ name, file.rules.user.contains name = true ↔
        sectionRules (some name) (linesOf text) ≠ []) ∧
      file.accepted = (linesOf text).countP Line.isRule ∧
      file.malformed = (linesOf text).countP (· = .malformed) ∧
      ∃ meant, Reader.start.run .permissive isKnown 1
          ((linesOf text).filter Line.isMeant) = .ok meant ∧
        meant.owner = openSection (linesOf text) ∧
        meant.file.rules = file.rules ∧
        meant.file.accepted = file.accepted := by
  refine ⟨⟨fun _ _ => Line.read_eq_user_iff, fun _ _ => Line.read_eq_topic_iff,
    fun _ _ => Line.read_eq_pattern_iff, fun _ => Line.read_eq_inert_iff⟩, ?_⟩
  rcases Reader.exists_run_permissive isKnown 1 Reader.start (linesOf text) with ⟨last, run_eq⟩
  obtain ⟨meant, meant_eq⟩ := Reader.exists_run_permissive isKnown 1 Reader.start
    ((linesOf text).filter Line.isMeant)
  have collected : last.Collects (linesOf text) :=
    Reader.collects_run Reader.collects_start run_eq
  have collected_meant : meant.Collects ((linesOf text).filter Line.isMeant) :=
    Reader.collects_run Reader.collects_start meant_eq
  have same := collected_meant.eq_of_filter_isMeant collected (by simp)
  refine ⟨last.file, ?_, collected.rulesOf_eq, collected.common_eq, collected.pattern_eq,
    fun _ => collected.contains_iff, collected.accepted_eq, collected.malformed_eq, meant,
    meant_eq, ?_, same.2.1, same.2.2⟩
  · rw [File.read, ← linesOf, run_eq]
    rfl
  · rw [same.1, collected.owner_eq]

/-- The sections of one user make one list, with the rule behind a user line of two names,
which opens no section; a user without rules has no entry. -/
theorem File.read_permissive_of_repeated_sections :
    ∃ file, File.read .permissive (fun _ => false)
        ("topic read c\nuser a\ntopic a/1\nuser b c\ntopic write a/2\n" ++
          "user b\npattern p/%u\nuser a\n# a\ntopic subscribe a  3\n") = .ok file ∧
      file.rules.rulesOf "a" = [⟨"a/1", .readWrite⟩, ⟨"a/2", .write⟩, ⟨"a  3", .subscribe⟩] ∧
      file.rules.rulesOf "b" = [] ∧
      file.rules.user.contains "b" = false ∧
      file.rules.common = [⟨"c", .read⟩] ∧
      file.rules.pattern = [⟨"p/%u", .readWrite⟩] ∧
      file.accepted = 5 ∧
      file.malformed = 1 := by
  rcases (read_permissive_by_sections (fun _ => false)
      ("topic read c\nuser a\ntopic a/1\nuser b c\ntopic write a/2\n" ++
        "user b\npattern p/%u\nuser a\n# a\ntopic subscribe a  3\n")).2 with
    ⟨file, read_eq, rules_eq, common_eq, pattern_eq, contains_iff, accepted_eq, malformed_eq, _⟩
  have no_entry : file.rules.user.contains "b" = false := by
    rw [Bool.eq_false_iff, ne_eq, contains_iff, not_not]
    rfl
  exact ⟨file, read_eq, (rules_eq "a").trans rfl, (rules_eq "b").trans rfl, no_entry,
    common_eq.trans rfl, pattern_eq.trans rfl, accepted_eq.trans rfl, malformed_eq.trans rfl⟩

end TopicGuard.Acl
