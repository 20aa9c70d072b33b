import TopicGuard.Proofs.EmptiedLines
import TopicGuard.Proofs.Loads

/-!
# Comments

A line that begins with blanks and a number sign says nothing, whatever comes behind the
number sign.  What comes there may be no text at all; then the line is recognised by its
bytes, and the bytes before the number sign have to be ASCII blanks.  So comments may be
replaced by comments that begin alike, and nothing is read differently; only the malformed
lines are one more for each comment that is no text and has some other blank in front.
-/

namespace TopicGuard

open Text (Bytes isBlank isInert)
open Text.Utf8 (encode WellFormed)

namespace Source

/-- The blanks that are looked for in a line without a text. -/
def asciiBlanks : List Char :=
  [' ', '\t', '\n', '\x0c', '\r']

/-- Two lines are comments that begin alike, with some blanks before the number sign. -/
def SameComment (mayLead : Char → Prop) (line other : Bytes) : Prop :=
  ∃ blanks rest otherRest, (∀ c ∈ blanks, mayLead c) ∧ line = encode blanks ++ 0x23 :: rest ∧
    other = encode blanks ++ 0x23 :: otherRest

/-- Some lines of a file are replaced, each of which is a comment and stays one. -/
def CommentsReplaced (mayLead : Char → Prop) (bytes other : Bytes) : Prop :=
  List.Forall₂ (fun line left => line = left ∨ SameComment mayLead line left)
    (bytes.splitOn 0x0A) (other.splitOn 0x0A)

variable {blanks : List Char} {rest bytes other : Bytes} {mayLead : Char → Prop}

/-! ## One line -/

theorem isInert_of_sign (blank : ∀ c ∈ blanks, isBlank c = true) (rest : List Char) :
    isInert (blanks ++ '#' :: rest) = true := by
  rw [isInert, Text.trimStart, List.dropWhile_append_of_pos blank]
  rfl

/-- A comment has a text exactly if there is one behind its number sign. -/
theorem wellFormed_comment_iff :
    WellFormed (encode blanks ++ 0x23 :: rest) ↔ WellFormed rest := by
  have sign_eq : encode blanks ++ 0x23 :: rest = encode (blanks ++ ['#']) ++ rest := by
    rw [Text.Utf8.encode_append, List.append_assoc]
    rfl
  rw [sign_eq, Text.Utf8.wellFormed_encode_append_iff]

theorem isBlank_of_mem_asciiBlanks : ∀ c ∈ asciiBlanks, isBlank c = true :=
  List.all_eq_true.mp rfl

/-- The ASCII blanks are the characters with the bytes that are looked for. -/
theorem mem_asciiBlanks_iff {c : Char} :
    c ∈ asciiBlanks ↔ ∀ b ∈ String.utf8EncodeChar c,
      b ∈ ([0x20, 0x09, 0x0A, 0x0C, 0x0D] : Bytes) := by
  constructor
  · intro member
    simp only [asciiBlanks, List.mem_cons, List.not_mem_nil, or_false] at member
    rcases member with rfl | rfl | rfl | rfl | rfl <;> simp [String.utf8EncodeChar]
  · intro all_blank
    obtain ⟨b, member⟩ := List.exists_mem_of_ne_nil _ (String.utf8EncodeChar_ne_nil (c := c))
    have eq_of_byte : ∀ d : Char, d.toNat < 0x80 → b = UInt8.ofNat d.toNat → c = d := by
      rintro d ascii rfl
      exact (Text.Utf8.mem_utf8EncodeChar_iff ascii).mp member
    have blank := all_blank b member
    simp only [List.mem_cons, List.not_mem_nil, or_false] at blank
    rcases blank with space | tab | feed | formFeed | carriage
    · exact eq_of_byte ' ' (by decide) space ▸ by decide
    · exact eq_of_byte '\t' (by decide) tab ▸ by decide
    · exact eq_of_byte '\n' (by decide) feed ▸ by decide
    · exact eq_of_byte '\x0c' (by decide) formFeed ▸ by decide
    · exact eq_of_byte '\r' (by decide) carriage ▸ by decide

/-- A line is recognised by its bytes exactly if it begins with ASCII blanks. -/
theorem comment_iff_of_blank (blank : ∀ c ∈ blanks, isBlank c = true) :
    Comment (encode blanks ++ 0x23 :: rest) ↔ ∀ c ∈ blanks, c ∈ asciiBlanks := by
  have sign_free : (0x23 : UInt8) ∉ encode blanks := by
    intro member
    have sign_blank := blank '#' ((Text.Utf8.mem_encode_iff (d := '#') (by decide)).mp member)
    contradiction
  simp only [mem_asciiBlanks_iff]
  constructor
  · rintro ⟨front, after, line_eq, front_blank⟩
    have front_free : (0x23 : UInt8) ∉ front := fun member => by simpa using front_blank _ member
    have front_eq : encode blanks = front := by
      have cut := congrArg (List.splitOn 0x23) line_eq
      rw [List.splitOn_append_cons_self_of_not_mem sign_free,
        List.splitOn_append_cons_self_of_not_mem front_free] at cut
      exact (List.cons.inj cut).1
    intro c member b byte
    exact front_blank b (front_eq ▸ List.mem_flatMap.mpr ⟨c, member, byte⟩)
  · intro all_ascii
    refine ⟨encode blanks, rest, rfl, fun b member => ?_⟩
    obtain ⟨c, char_member, byte⟩ := List.mem_flatMap.mp member
    exact all_ascii c char_member b byte

/-- A comment is lost exactly if it is no text and begins with a blank that is not ASCII. -/
theorem lost_comment_iff (blank : ∀ c ∈ blanks, isBlank c = true) :
    Lost (encode blanks ++ 0x23 :: rest) ↔
      ¬ WellFormed rest ∧ ∃ c ∈ blanks, c ∉ asciiBlanks := by
  rw [Lost, wellFormed_comment_iff, comment_iff_of_blank blank]
  simp only [not_forall, exists_prop]

/-- A comment says nothing. -/
theorem isInert_lineText_comment (blank : ∀ c ∈ blanks, isBlank c = true) (rest : Bytes) :
    isInert (lineText (encode blanks ++ 0x23 :: rest)) = true := by
  by_cases well : WellFormed rest
  · obtain ⟨text, rfl⟩ := well
    have text_eq : lineText (encode blanks ++ 0x23 :: encode text) = blanks ++ '#' :: text := by
      apply lineText_eq_iff.mpr
      left
      rw [Text.Utf8.encode_append]
      rfl
    rw [text_eq]
    exact isInert_of_sign blank text
  · have silent : lineText (encode blanks ++ 0x23 :: rest) = [] :=
      lineText_eq_iff.mpr (.inr ⟨mt wellFormed_comment_iff.mp well, rfl⟩)
    rw [silent]
    rfl

/-! ## All lines -/

theorem CommentsReplaced.mono {mayLeadToo : Char → Prop}
    (weaker : ∀ c, mayLead c → mayLeadToo c) (replaced : CommentsReplaced mayLead bytes other) :
    CommentsReplaced mayLeadToo bytes other := by
  refine List.Forall₂.imp (fun line left same => ?_) replaced
  rcases same with rfl | ⟨blanks, rest, otherRest, lead, comments⟩
  · exact .inl rfl
  · exact .inr ⟨blanks, rest, otherRest, fun c member => weaker c (lead c member), comments⟩

/-- Where comments are inert, replacing them is emptying lines none of which is malformed. -/
theorem CommentsReplaced.emptied {kindOfText : List Char → LineKind}
    (silent : ∀ text, isInert text = true → kindOfText text = .inert)
    (replaced : CommentsReplaced (isBlank · = true) bytes other) :
    Emptied (fun text kind => kindOfText text = kind) (isInert · = true)
      ((ofBytes bytes).text.toList.splitOn '\n') ((ofBytes other).text.toList.splitOn '\n') 0 := by
  rw [splitOn_text_ofBytes, splitOn_text_ofBytes]
  rw [CommentsReplaced] at replaced
  generalize bytes.splitOn 0x0A = lines at replaced
  generalize other.splitOn 0x0A = others at replaced
  induction replaced with
  | nil => exact .nil
  | cons same _ ih =>
      rcases same with rfl | ⟨blanks, rest, otherRest, blank, rfl, rfl⟩
      · exact .keep _ ih
      · exact .inert (silent _ (isInert_lineText_comment blank rest))
          (isInert_lineText_comment blank otherRest) ih

/-- Comments that begin with ASCII blanks are never lost. -/
theorem CommentsReplaced.lostCount_eq (replaced : CommentsReplaced (· ∈ asciiBlanks) bytes other) :
    lostCount bytes = lostCount other := by
  have kept : ∀ blanks rest, (∀ c ∈ blanks, c ∈ asciiBlanks) →
      ¬ Lost (encode blanks ++ 0x23 :: rest) := by
    intro blanks rest ascii lost
    obtain ⟨_, c, member, other⟩ :=
      (lost_comment_iff fun c member => isBlank_of_mem_asciiBlanks c (ascii c member)).mp lost
    exact other (ascii c member)
  rw [CommentsReplaced] at replaced
  rw [lostCount, lostCount]
  generalize bytes.splitOn 0x0A = lines at replaced ⊢
  generalize other.splitOn 0x0A = others at replaced ⊢
  induction replaced with
  | nil => rfl
  | cons same _ ih =>
      rcases same with rfl | ⟨blanks, rest, otherRest, ascii, rfl, rfl⟩
      · rw [List.countP_cons, List.countP_cons, ih]
      · rw [List.countP_cons_of_neg (by simpa using kept blanks rest ascii),
          List.countP_cons_of_neg (by simpa using kept blanks otherRest ascii), ih]

end Source

/-! ## Readers -/

theorem Password.File.read_of_commentsReplaced {bytes other : Bytes}
    (replaced : Source.CommentsReplaced (isBlank · = true) bytes other) :
    read (Source.ofBytes other).text = read (Source.ofBytes bytes).text := by
  have silent : ∀ text, isInert text = true → (Line.read text).kind = .inert :=
    fun text inert => Line.kind_eq_inert_iff.mpr (Line.read_eq_inert_iff.mpr inert)
  rw [read_of_emptied (replaced.emptied silent), File.withMalformed, Nat.add_zero]

theorem Acl.File.read_of_commentsReplaced {bytes other : Bytes}
    (replaced : Source.CommentsReplaced (isBlank · = true) bytes other)
    (policy : UnknownUserPolicy) (isKnown : String → Bool) :
    read policy isKnown (Source.ofBytes other).text =
      read policy isKnown (Source.ofBytes bytes).text := by
  have silent : ∀ text, isInert text = true → (Line.read text).kind = .inert :=
    fun text inert => Line.kind_eq_inert_iff.mpr (Line.read_eq_inert_iff.mpr inert)
  rw [read_of_emptied (replaced.emptied silent)]
  cases read policy isKnown (Source.ofBytes other).text <;> rfl

/-! ## Loads -/

/-- In files that can be read comments are replaced; the other files stay unreadable for the
same reasons. -/
structure Files.CommentsReplaced (mayLead : Char → Prop) (files edited : Files) : Prop where
  faults : ∀ path fault, files path = .error fault ↔ edited path = .error fault
  contents : ∀ path bytes other, files path = .ok bytes → edited path = .ok other →
    Source.CommentsReplaced mayLead bytes other

/-- Comments are replaced in the one file that all paths lead to. -/
theorem Files.CommentsReplaced.of_bytes {mayLead : Char → Prop} {bytes other : Bytes}
    (replaced : Source.CommentsReplaced mayLead bytes other) :
    Files.CommentsReplaced mayLead (fun _ => .ok bytes) (fun _ => .ok other) where
  faults := by simp
  contents := by
    rintro _ _ _ ⟨⟩ ⟨⟩
    exact replaced

namespace Store

variable {files edited : Files} {config : Config} {passwords otherPasswords : Bytes}
  {acl otherAcl : Option Bytes} {mayLead : Char → Prop}

/-- Two loads differ in nothing but the malformed lines, whose difference is that of the lost
lines of their files. -/
structure DiffersInLost (files edited : Files) (config : Config) (store other : Store) :
    Prop where
  users_eq : other.users = store.users
  acl_eq : other.acl = store.acl
  stats_users_eq : other.stats.users = store.stats.users
  aclRules_eq : other.stats.aclRules = store.stats.aclRules
  malformedLines_eq : ∃ passwords acl otherPasswords otherAcl,
    Opens files config passwords acl ∧ Opens edited config otherPasswords otherAcl ∧
    other.stats.malformedLines + lostIn passwords acl =
      store.stats.malformedLines + lostIn otherPasswords otherAcl

/-- Files in which comments are replaced fail to load for the same reason, or all of them can
be read. -/
theorem load_eq_or_opens (config : Config)
    (replaced : Files.CommentsReplaced mayLead files edited) :
    (∃ error, load files config = .error error ∧ load edited config = .error error) ∨
    ∃ passwords acl otherPasswords otherAcl,
      Opens files config passwords acl ∧ Opens edited config otherPasswords otherAcl ∧
      Source.CommentsReplaced mayLead passwords otherPasswords ∧
      Option.Rel (Source.CommentsReplaced mayLead) acl otherAcl := by
  have exists_edited : ∀ path bytes, files path = .ok bytes → ∃ other,
      edited path = .ok other ∧ Source.CommentsReplaced mayLead bytes other := by
    intro path bytes readable
    cases edited_eq : edited path with
    | error fault =>
        rw [(replaced.faults path fault).mpr edited_eq] at readable
        contradiction
    | ok other => exact ⟨other, rfl, replaced.contents path bytes other readable edited_eq⟩
  cases named : config.passwordFile? with
  | none => exact .inl ⟨.missingPasswordPath, by rw [load, named], by rw [load, named]⟩
  | some path =>
      obtain ⟨path_eq, nonempty⟩ := passwordFile?_eq_some_iff.mp named
      cases readable : files path with
      | error fault =>
          have edited_fault := (replaced.faults path fault).mp readable
          left
          refine ⟨.unreadable .passwords path fault, ?_, ?_⟩
          · exact load_eq_error_iff.mpr (.inr (.inl ⟨path, fault, named, readable, rfl⟩))
          · exact load_eq_error_iff.mpr (.inr (.inl ⟨path, fault, named, edited_fault, rfl⟩))
      | ok bytes =>
          obtain ⟨other, edited_readable, same⟩ := exists_edited path bytes readable
          cases acl_named : config.aclPath with
          | none =>
              right
              exact ⟨bytes, none, other, none,
                ⟨⟨path, path_eq, nonempty, readable⟩, by simp [acl_named]⟩,
                ⟨⟨path, path_eq, nonempty, edited_readable⟩, by simp [acl_named]⟩, same, .none⟩
          | some aclPath =>
              cases acl_readable : files aclPath with
              | error fault =>
                  have edited_fault := (replaced.faults aclPath fault).mp acl_readable
                  left
                  refine ⟨.unreadable .acl aclPath fault, ?_, ?_⟩
                  · exact load_eq_error_iff.mpr (.inr (.inr (.inl
                      ⟨path, bytes, aclPath, fault, named, readable, acl_named, acl_readable,
                        rfl⟩)))
                  · exact load_eq_error_iff.mpr (.inr (.inr (.inl
                      ⟨path, other, aclPath, fault, named, edited_readable, acl_named, edited_fault,
                        rfl⟩)))
              | ok aclBytes =>
                  obtain ⟨aclOther, acl_edited, acl_same⟩ :=
                    exists_edited aclPath aclBytes acl_readable
                  right
                  exact ⟨bytes, some aclBytes, other, some aclOther,
                    ⟨⟨path, path_eq, nonempty, readable⟩, by simp [acl_named, acl_readable]⟩,
                    ⟨⟨path, path_eq, nonempty, edited_readable⟩, by simp [acl_named, acl_edited]⟩,
                    same, .some acl_same⟩

/-- Both loads make the same of the texts of their files. -/
theorem exists_made_of_commentsReplaced (opened : Opens files config passwords acl)
    (opened_edited : Opens edited config otherPasswords otherAcl)
    (users_replaced : Source.CommentsReplaced (isBlank · = true) passwords otherPasswords)
    (rules_replaced : Option.Rel (Source.CommentsReplaced (isBlank · = true)) acl otherAcl) :
    ∃ made : Except LoadError Store,
      load files config = made.map (·.addMalformed (lostIn passwords acl)) ∧
      load edited config = made.map (·.addMalformed (lostIn otherPasswords otherAcl)) := by
  refine ⟨_, load_of_opens opened, ?_⟩
  rw [load_of_opens opened_edited]
  refine congrArg _ ?_
  apply ofTexts_eq_of_read_eq (Password.File.read_of_commentsReplaced users_replaced)
  cases rules_replaced with
  | none => exact .none
  | some replaced =>
      exact .some fun isKnown => Acl.File.read_of_commentsReplaced replaced _ isKnown

theorem load_of_commentsReplaced_ascii (config : Config)
    (replaced : Files.CommentsReplaced (· ∈ Source.asciiBlanks) files edited) :
    load edited config = load files config := by
  rcases load_eq_or_opens config replaced with ⟨error, failed, edited_failed⟩ |
    ⟨passwords, acl, otherPasswords, otherAcl, opened, opened_edited, users_replaced,
      rules_replaced⟩
  · rw [failed, edited_failed]
  · have lost_eq : lostIn otherPasswords otherAcl = lostIn passwords acl := by
      cases rules_replaced with
      | none => exact users_replaced.lostCount_eq.symm
      | some replaced =>
          rw [lostIn_some, lostIn_some, users_replaced.lostCount_eq, replaced.lostCount_eq]
    have rules_blank : Option.Rel (Source.CommentsReplaced (isBlank · = true)) acl otherAcl := by
      cases rules_replaced with
      | none => exact .none
      | some replaced => exact .some (replaced.mono Source.isBlank_of_mem_asciiBlanks)
    obtain ⟨made, made_eq, edited_eq⟩ := exists_made_of_commentsReplaced opened opened_edited
      (users_replaced.mono Source.isBlank_of_mem_asciiBlanks) rules_blank
    rw [made_eq, edited_eq, lost_eq]

/-- Comments may be replaced by comments that begin alike, with whatever blanks before their
number signs: a load fails as before, or it gives the same users and rules and has counted as
many malformed lines more as there are more lost lines in the files.  A comment is lost exactly
if it is no text and begins with a blank that is not ASCII, so a load does not change at all
where comments begin with ASCII blanks. -/
theorem load_of_comments_replaced (files edited : Files) (config : Config)
    (replaced : Files.CommentsReplaced (isBlank · = true) files edited) :
    (∀ error, load files config = .error error ↔ load edited config = .error error) ∧
    (∀ store, load files config = .ok store → ∃ other, load edited config = .ok other ∧
      DiffersInLost files edited config store other) ∧
    (∀ blanks rest, (∀ c ∈ blanks, isBlank c = true) →
      (Source.Lost (encode blanks ++ 0x23 :: rest) ↔
        ¬ WellFormed rest ∧ ∃ c ∈ blanks, c ∉ Source.asciiBlanks)) ∧
    (Files.CommentsReplaced (· ∈ Source.asciiBlanks) files edited →
      load edited config = load files config) := by
  refine ⟨?_, ?_, fun _ _ blank => Source.lost_comment_iff blank,
    load_of_commentsReplaced_ascii config⟩
  · intro error
    rcases load_eq_or_opens config replaced with ⟨other, failed, edited_failed⟩ |
      ⟨passwords, acl, otherPasswords, otherAcl, opened, opened_edited, users, rules⟩
    · rw [failed, edited_failed]
    · obtain ⟨made, made_eq, edited_eq⟩ :=
        exists_made_of_commentsReplaced opened opened_edited users rules
      rw [made_eq, edited_eq]
      cases made <;> simp [Except.map]
  · intro store loaded
    rcases load_eq_or_opens config replaced with ⟨error, failed, _⟩ |
      ⟨passwords, acl, otherPasswords, otherAcl, opened, opened_edited, users, rules⟩
    · rw [failed] at loaded
      contradiction
    · obtain ⟨made, made_eq, edited_eq⟩ :=
        exists_made_of_commentsReplaced opened opened_edited users rules
      rw [made_eq] at loaded
      cases made with
      | error error => contradiction
      | ok read =>
          cases loaded
          refine ⟨_, edited_eq, rfl, rfl, rfl, rfl, passwords, acl, otherPasswords, otherAcl,
            opened, opened_edited, ?_⟩
          simp only [addMalformed]
          omega

/-- A comment behind a tab keeps no text, and the load does not change. -/
theorem load_of_comments_replaced_by_bytes :
    Files.CommentsReplaced (isBlank · = true)
      (fun _ => .ok [0x61, 0x3A, 0x62, 0x0A, 0x09, 0x23, 0x78])
      (fun _ => .ok [0x61, 0x3A, 0x62, 0x0A, 0x09, 0x23, 0xFF, 0xFE]) ∧
    load (fun _ => .ok [0x61, 0x3A, 0x62, 0x0A, 0x09, 0x23, 0xFF, 0xFE])
        (Config.forFiles (some "p") none) =
      load (fun _ => .ok [0x61, 0x3A, 0x62, 0x0A, 0x09, 0x23, 0x78])
        (Config.forFiles (some "p") none) := by
  have replaced : Source.CommentsReplaced (· ∈ Source.asciiBlanks)
      [0x61, 0x3A, 0x62, 0x0A, 0x09, 0x23, 0x78]
      [0x61, 0x3A, 0x62, 0x0A, 0x09, 0x23, 0xFF, 0xFE] :=
    .cons (.inl rfl) (.cons (.inr ⟨['\t'], [0x78], [0xFF, 0xFE],
      by simp [Source.asciiBlanks], rfl, rfl⟩) .nil)
  have replaced_blank :=
    Files.CommentsReplaced.of_bytes (replaced.mono Source.isBlank_of_mem_asciiBlanks)
  exact ⟨replaced_blank, (load_of_comments_replaced _ _ (Config.forFiles (some "p") none)
    replaced_blank).2.2.2 (.of_bytes replaced)⟩

/-- A comment behind a vertical tab and one behind a no-break space keep no text, and each is
a malformed line more of a password file and of an ACL file. -/
theorem load_counts_comments_behind_other_blanks :
    Files.CommentsReplaced (isBlank · = true)
      (fun _ => .ok [0x0B, 0x23, 0x0A, 0xC2, 0xA0, 0x23])
      (fun _ => .ok [0x0B, 0x23, 0xFF, 0x0A, 0xC2, 0xA0, 0x23, 0xFF]) ∧
    (∃ store, load (fun _ => .ok [0x0B, 0x23, 0x0A, 0xC2, 0xA0, 0x23])
        (Config.forFiles (some "p") (some "p")) = .ok store ∧ store.stats = ⟨0, 0, 0⟩) ∧
    (∃ store, load (fun _ => .ok [0x0B, 0x23, 0xFF, 0x0A, 0xC2, 0xA0, 0x23, 0xFF])
        (Config.forFiles (some "p") (some "p")) = .ok store ∧ store.stats = ⟨0, 0, 4⟩) ∧
    load (fun _ => .ok [0x0B, 0x23, 0xFF, 0x0A, 0xC2, 0xA0, 0x23, 0xFF])
        (Config.forFiles (some "p") none) ≠
      load (fun _ => .ok [0x0B, 0x23, 0x0A, 0xC2, 0xA0, 0x23])
        (Config.forFiles (some "p") none) := by
  refine ⟨.of_bytes ?_, ⟨_, rfl, rfl⟩, ⟨_, rfl, rfl⟩, by decide⟩
  exact .cons (.inr ⟨['\x0b'], [], [0xFF], List.all_eq_true.mp rfl, rfl, rfl⟩)
    (.cons (.inr ⟨['\u00a0'], [], [0xFF], List.all_eq_true.mp rfl, rfl, rfl⟩) .nil)

end Store

end TopicGuard
