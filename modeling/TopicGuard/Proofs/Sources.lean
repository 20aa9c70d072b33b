import Mathlib.Data.List.Forall2
import TopicGuard.Proofs.WellFormed
import TopicGuard.Store

/-!
# Source files and the texts they stand for

A source file stands for one text: each line is the text of its bytes, or empty if
they are not well formed.  Loading files is loading the texts they stand for, with the
lines that are neither well formed nor comments added to the malformed ones.
-/

namespace TopicGuard

open Text (Bytes)
open Text.Utf8 (encode WellFormed)

namespace Source

/-! ## Lines -/

/-- What a line of bytes says: its text, or nothing if it is not well formed. -/
def Says (line : Bytes) (text : List Char) : Prop :=
  encode text = line ∨ ¬ WellFormed line ∧ text = []

/-- The first byte of a line that is no ASCII blank is a number sign. -/
def Comment (line : Bytes) : Prop :=
  ∃ blanks rest, line = blanks ++ 0x23 :: rest ∧
    ∀ b ∈ blanks, b ∈ ([0x20, 0x09, 0x0A, 0x0C, 0x0D] : Bytes)

/-- A line that is neither well formed nor a comment. -/
def Lost (line : Bytes) : Prop :=
  ¬ WellFormed line ∧ ¬ Comment line

variable {bytes line : Bytes}

theorem lineText_eq_iff {text : List Char} : lineText line = text ↔ Says line text := by
  rw [lineText, Says]
  cases read : Text.Utf8.decode? line with
  | none =>
      have ill := Text.Utf8.decode?_eq_none_iff.mp read
      have unwritten : encode text ≠ line := fun written => ill ⟨text, written⟩
      simp [ill, unwritten, eq_comm]
  | some found =>
      have written := Text.Utf8.decode?_eq_some_iff.mp read
      have well : WellFormed line := ⟨found, written⟩
      rw [Option.getD_some, or_iff_left fun ill => ill.1 well, ← written,
        Text.Utf8.encode_injective.eq_iff, eq_comm]

theorem isComment_iff : isComment line = true ↔ Comment line := by
  have blank_iff : ∀ b : UInt8,
      isBlankByte b = true ↔ b ∈ ([0x20, 0x09, 0x0A, 0x0C, 0x0D] : Bytes) := by
    intro b
    simp [isBlankByte, or_assoc]
  simp only [isComment, beq_iff_eq, List.find?_eq_some_iff_append, Comment, Bool.not_eq_true',
    Bool.not_not, blank_iff]
  constructor
  · rintro ⟨_, blanks, rest, line_eq, blank⟩
    exact ⟨blanks, rest, line_eq, blank⟩
  · rintro ⟨blanks, rest, line_eq, blank⟩
    exact ⟨by decide, blanks, rest, line_eq, blank⟩

theorem isUndecodable_iff : isUndecodable line = true ↔ Lost line := by
  rw [isUndecodable, Lost, Bool.and_eq_true, Option.isNone_iff_eq_none,
    Text.Utf8.decode?_eq_none_iff, Bool.not_eq_true', ← isComment_iff, Bool.not_eq_true]

instance : DecidablePred Lost := fun line =>
  decidable_of_iff (isUndecodable line = true) isUndecodable_iff

/-- What holds of what a line says, but not of nothing, holds of the text of its bytes. -/
theorem lineText_iff (holds : List Char → Prop) (empty : ¬ holds []) :
    holds (lineText line) ↔ ∃ text, encode text = line ∧ holds text := by
  constructor
  · intro held
    rcases lineText_eq_iff.mp rfl with written | ⟨_, silent⟩
    · exact ⟨lineText line, written, held⟩
    · rw [silent] at held
      exact absurd held empty
  · rintro ⟨text, written, held⟩
    rwa [lineText_eq_iff.mpr (.inl written)]

/-- A line says nothing that the lines around it would be cut at. -/
theorem feed_not_mem_lineText (free : 0x0A ∉ line) : '\n' ∉ lineText line := by
  rcases lineText_eq_iff.mp rfl with written | ⟨_, empty⟩
  · exact Text.Utf8.feed_not_mem_of_encode free written
  · simp [empty]

/-! ## Files -/

/-- The text that the bytes of a file stand for, line by line. -/
def StandsFor (bytes : Bytes) (text : String) : Prop :=
  List.Forall₂ Says (bytes.splitOn 0x0A) (text.toList.splitOn '\n')

/-- A line of a file, with its number: one more than the line feeds before it. -/
def LineAt (bytes : Bytes) (number : Nat) (line : Bytes) : Prop :=
  ∃ before after, bytes = before ++ (line ++ after) ∧ 0x0A ∉ line ∧
    (before = [] ∨ before.getLast? = some 0x0A) ∧ (after = [] ∨ after.head? = some 0x0A) ∧
    number = before.count 0x0A + 1

/-- How many lines of a file are neither well formed nor comments. -/
def lostCount (bytes : Bytes) : Nat :=
  (bytes.splitOn 0x0A).countP Lost

theorem lineAt_iff {index : Nat} :
    LineAt bytes (index + 1) line ↔ (bytes.splitOn 0x0A)[index]? = some line := by
  simp only [LineAt, Text.getElem?_splitOn_iff, Nat.add_right_cancel_iff, eq_comm (a := index)]

/-- The text of a file is cut where its bytes are cut. -/
theorem splitOn_text_ofBytes (bytes : Bytes) :
    (ofBytes bytes).text.toList.splitOn '\n' = (bytes.splitOn 0x0A).map lineText := by
  have feed_free : ∀ text ∈ (bytes.splitOn 0x0A).map lineText, '\n' ∉ text := by
    intro text member
    rcases List.mem_map.mp member with ⟨line, found, rfl⟩
    exact feed_not_mem_lineText (Text.not_mem_of_mem_splitOn found)
  rw [ofBytes, String.toList_ofList]
  exact List.splitOn_intercalate '\n' feed_free (by simp)

theorem undecodable_ofBytes (bytes : Bytes) : (ofBytes bytes).undecodable = lostCount bytes := by
  rw [lostCount]
  exact List.countP_congr fun line _ => by simp [isUndecodable_iff]

/-- The text that a file is read as is the only one it stands for. -/
theorem standsFor_iff {text : String} : StandsFor bytes text ↔ (ofBytes bytes).text = text := by
  have says_eq : Says = fun line text => lineText line = text := by
    funext line text
    rw [lineText_eq_iff]
  rw [StandsFor, says_eq, ← List.forall₂_map_left_iff (R := Eq), List.forall₂_eq_eq_eq,
    ← splitOn_text_ofBytes]
  constructor
  · intro same
    have joined := congrArg (['\n'].intercalate ·) same
    simpa only [List.intercalate_splitOn, String.toList_inj] using joined
  · rintro rfl
    rfl

theorem existsUnique_standsFor (bytes : Bytes) : ∃! text, StandsFor bytes text :=
  ⟨(ofBytes bytes).text, standsFor_iff.mpr rfl, fun _ other => (standsFor_iff.mp other).symm⟩

/-- A well-formed file stands for its text, and none of its lines is lost. -/
theorem standsFor_of_encode {text : String} (written : encode text.toList = bytes) :
    StandsFor bytes text ∧ lostCount bytes = 0 := by
  subst written
  constructor
  · rw [StandsFor, Text.splitOn_encode, List.forall₂_map_left_iff]
    exact List.forall₂_same.mpr fun piece _ => .inl rfl
  · rw [lostCount, List.countP_eq_zero]
    intro line member
    have well := Text.Utf8.wellFormed_iff_forall_mem_splitOn.mp ⟨text.toList, rfl⟩ line member
    simp [Lost, well]

end Source

/-! ## Loading -/

namespace Store

/-- The bytes of the files that a configuration names, all of which can be read. -/
structure Opens (files : Files) (config : Config) (passwords : Bytes) (acl : Option Bytes) :
    Prop where
  passwords_eq : ∃ path, config.passwordPath = some path ∧ path ≠ "" ∧ files path = .ok passwords
  acl_eq : config.aclPath.map files = acl.map Except.ok

/-- How many lines of the files of a load are neither well formed nor comments. -/
def lostIn (passwords : Bytes) (acl : Option Bytes) : Nat :=
  Source.lostCount passwords + (acl.map Source.lostCount).getD 0

/-- A store has counted some more malformed lines than another, and is otherwise the same. -/
structure DiffersInMalformed (count : Nat) (plain store : Store) : Prop where
  users_eq : store.users = plain.users
  acl_eq : store.acl = plain.acl
  stats_users_eq : store.stats.users = plain.stats.users
  aclRules_eq : store.stats.aclRules = plain.stats.aclRules
  malformedLines_eq : store.stats.malformedLines = plain.stats.malformedLines + count

variable {files : Files} {config : Config} {passwords : Bytes} {acl : Option Bytes}

@[simp]
theorem lostIn_none (passwords : Bytes) : lostIn passwords none = Source.lostCount passwords :=
  rfl

@[simp]
theorem lostIn_some (passwords acl : Bytes) :
    lostIn passwords (some acl) = Source.lostCount passwords + Source.lostCount acl :=
  rfl

/-- The fields leave no choice. -/
theorem differsInMalformed_iff {count : Nat} {plain store : Store} :
    DiffersInMalformed count plain store ↔ plain.addMalformed count = store := by
  constructor
  · intro differs
    rcases store with ⟨users, acl, ⟨userCount, aclRules, malformedLines⟩⟩
    rcases differs with ⟨rfl, rfl, rfl, rfl, rfl⟩
    rfl
  · rintro rfl
    exact ⟨rfl, rfl, rfl, rfl, rfl⟩

theorem passwordFile?_eq_some_iff {path : String} :
    config.passwordFile? = some path ↔ config.passwordPath = some path ∧ path ≠ "" := by
  simp [Config.passwordFile?, Option.filter_eq_some_iff]

/-- Loading files that can be read is loading the texts they are read as. -/
theorem load_of_opens (opened : Opens files config passwords acl) :
    load files config =
      (ofTexts config (Source.ofBytes passwords).text
          (acl.map fun bytes => (Source.ofBytes bytes).text)).map
        (·.addMalformed (lostIn passwords acl)) := by
  rcases opened with ⟨⟨path, named, nonempty, readable⟩, acl_eq⟩
  have file := passwordFile?_eq_some_iff.mpr ⟨named, nonempty⟩
  have passwords_read : readSource files .passwords path = .ok (.ofBytes passwords) := by
    rw [readSource, readable]
  have acl_read : readAcl files config.aclPath = .ok (acl.map Source.ofBytes) := by
    cases aclPath_eq : config.aclPath with
    | none =>
        cases acl with
        | none => rfl
        | some bytes => simp [aclPath_eq] at acl_eq
    | some aclPath =>
        cases acl with
        | none => simp [aclPath_eq] at acl_eq
        | some bytes =>
            have acl_readable : files aclPath = .ok bytes := by
              simpa [aclPath_eq] using acl_eq
            simp only [readAcl, readSource, acl_readable, Except.map, Option.map_some]
  rw [load, file]
  simp only [passwords_read, acl_read, bind, Except.bind, pure, Except.pure, Option.map_map,
    Function.comp_def, Source.undecodable_ofBytes, lostIn]
  cases ofTexts config (Source.ofBytes passwords).text
    (acl.map fun bytes => (Source.ofBytes bytes).text) <;> rfl

theorem Opens.load_eq_error_iff (opened : Opens files config passwords acl)
    {error : LoadError} :
    load files config = .error error ↔
      ofTexts config (Source.ofBytes passwords).text
        (acl.map fun bytes => (Source.ofBytes bytes).text) = .error error := by
  rw [load_of_opens opened]
  cases ofTexts config (Source.ofBytes passwords).text
      (acl.map fun bytes => (Source.ofBytes bytes).text) with
  | error other => simp [Except.map]
  | ok plain => simp [Except.map]

theorem Opens.load_eq_ok_iff (opened : Opens files config passwords acl) {store : Store} :
    load files config = .ok store ↔
      ∃ plain, ofTexts config (Source.ofBytes passwords).text
          (acl.map fun bytes => (Source.ofBytes bytes).text) = .ok plain ∧
        plain.addMalformed (lostIn passwords acl) = store := by
  rw [load_of_opens opened]
  cases ofTexts config (Source.ofBytes passwords).text
      (acl.map fun bytes => (Source.ofBytes bytes).text) with
  | error error => simp [Except.map]
  | ok plain => simp [Except.map]

/-- A load that succeeds has read all files that are named. -/
theorem exists_opens_of_load {store : Store} (loaded : load files config = .ok store) :
    ∃ passwords acl, Opens files config passwords acl := by
  cases file : config.passwordFile? with
  | none => simp [load, file] at loaded
  | some path =>
      rcases passwordFile?_eq_some_iff.mp file with ⟨named, nonempty⟩
      cases readable : files path with
      | error fault =>
          simp [load, file, readSource, readable, bind, Except.bind] at loaded
      | ok passwords =>
          cases aclPath_eq : config.aclPath with
          | none => exact ⟨passwords, none, ⟨path, named, nonempty, readable⟩, by simp [aclPath_eq]⟩
          | some aclPath =>
              cases acl_readable : files aclPath with
              | error fault =>
                  simp [load, file, readSource, readable, readAcl, aclPath_eq, acl_readable, bind,
                    Except.bind, Except.map] at loaded
              | ok acl =>
                  exact ⟨passwords, some acl, ⟨path, named, nonempty, readable⟩,
                    by simp [aclPath_eq, acl_readable]⟩

/-- A load that succeeds has read files, and loading files is loading the texts they
stand for: it fails for the same reason, or else it gives the store of the texts with
their lost lines added to the malformed ones.  Each file stands for one text; it is well
formed exactly if its lines are, and then it stands for the text that it is written as,
and no line is lost. -/
theorem load_is_of_texts_stood_for (files : Files) (config : Config) :
    (∀ store, load files config = .ok store →
      ∃ passwords acl, Opens files config passwords acl) ∧
    (∀ passwords acl, Opens files config passwords acl →
      ∀ passwordText aclText, Source.StandsFor passwords passwordText →
        Option.Rel Source.StandsFor acl aclText →
        (∀ error, load files config = .error error ↔
          ofTexts config passwordText aclText = .error error) ∧
        ∀ store, load files config = .ok store ↔
          ∃ plain, ofTexts config passwordText aclText = .ok plain ∧
            DiffersInMalformed (lostIn passwords acl) plain store) ∧
    ∀ bytes, (∃! text, Source.StandsFor bytes text) ∧
      (WellFormed bytes ↔ ∀ line ∈ bytes.splitOn 0x0A, WellFormed line) ∧
      ∀ text : String, encode text.toList = bytes →
        Source.StandsFor bytes text ∧ Source.lostCount bytes = 0 := by
  refine ⟨fun _ => exists_opens_of_load, ?_, ?_⟩
  · intro passwords acl opened passwordText aclText passwords_stand acl_stands
    have aclText_eq : acl.map (fun bytes => (Source.ofBytes bytes).text) = aclText := by
      cases acl_stands with
      | none => rfl
      | some stands => rw [Option.map_some, Source.standsFor_iff.mp stands]
    rw [← Source.standsFor_iff.mp passwords_stand, ← aclText_eq]
    simp only [differsInMalformed_iff]
    exact ⟨fun _ => opened.load_eq_error_iff, fun _ => opened.load_eq_ok_iff⟩
  · intro bytes
    exact ⟨Source.existsUnique_standsFor bytes, Text.Utf8.wellFormed_iff_forall_mem_splitOn,
      fun _ => Source.standsFor_of_encode⟩

/-- Of the lines that are not well formed one in each file is no comment.  These two are
malformed, and so is the line without a colon. -/
theorem load_counts_lost_lines_of_both_files :
    ∃ plain, ofTexts (Config.forFiles (some "p") (some "l")) "a:b\n\n\nx"
        (some "topic a\n\n\n") = .ok plain ∧
      plain.stats = ⟨1, 1, 1⟩ ∧
      load
        (fun path =>
          if path = "p" then
            .ok [0x61, 0x3A, 0x62, 0x0A, 0x23, 0xFF, 0x0A, 0xFF, 0x23, 0x0A, 0x78]
          else
            .ok [0x74, 0x6F, 0x70, 0x69, 0x63, 0x20, 0x61, 0x0A, 0x09, 0x23, 0xC3, 0x0A, 0xC3,
              0x0A])
        (Config.forFiles (some "p") (some "l")) = .ok { plain with stats := ⟨1, 1, 3⟩ } := by
  have made : ofTexts (Config.forFiles (some "p") (some "l")) "a:b\n\n\nx"
      (some "topic a\n\n\n") = .ok _ := rfl
  refine ⟨_, made, rfl, ?_⟩
  have loaded := (load_is_of_texts_stood_for
    (fun path =>
      if path = "p" then
        .ok [0x61, 0x3A, 0x62, 0x0A, 0x23, 0xFF, 0x0A, 0xFF, 0x23, 0x0A, 0x78]
      else
        .ok [0x74, 0x6F, 0x70, 0x69, 0x63, 0x20, 0x61, 0x0A, 0x09, 0x23, 0xC3, 0x0A, 0xC3, 0x0A])
    (Config.forFiles (some "p") (some "l"))).2.1 _ _ ⟨⟨"p", rfl, by decide, rfl⟩, rfl⟩
    "a:b\n\n\nx" (some "topic a\n\n\n") (Source.standsFor_iff.mpr rfl)
    (.some (Source.standsFor_iff.mpr rfl))
  exact (loaded.2 _).mpr ⟨_, made, rfl, rfl, rfl, rfl, rfl⟩

end Store

end TopicGuard
