import Mathlib.Order.WellFounded
import TopicGuard.Proofs.Acl.Refusals
import TopicGuard.Proofs.Loads
import TopicGuard.Proofs.Passwords
import TopicGuard.Proofs.Sources

/-!
# Outcomes of a load

A load fails for the first of four reasons, and only a strict one fails because of
what the files say: at the first line of the ACL file, by its number among all lines of
the file, that names a user to whom no line of the password file gives a password.
Lines that cannot be understood or are not well formed never make a load fail.
-/

namespace TopicGuard.Store

open Text (Bytes)
open Text.Utf8 (encode)

/-! ## Users without a password -/

/-- Some line of a password file gives a user a password. -/
def HasPassword (passwords : Bytes) (name : String) : Prop :=
  ∃ text stored, encode text ∈ passwords.splitOn 0x0A ∧ Password.Line.Entry text name stored

/-- The line with some number of an ACL file names a user, and no line of the password
file gives that user a password. -/
def NamesUnknown (passwords acl : Bytes) (unknown : Acl.UnknownUser) : Prop :=
  (∃ text, Source.LineAt acl unknown.line (encode text) ∧
    Acl.Line.NamesUser text unknown.name) ∧ ¬ HasPassword passwords unknown.name

/-- The first of the lines that name a user without a password. -/
def FirstUnknown (passwords acl : Bytes) (unknown : Acl.UnknownUser) : Prop :=
  NamesUnknown passwords acl unknown ∧
    ∀ other, NamesUnknown passwords acl other → unknown.line ≤ other.line

variable {files : Files} {config : Config} {passwords acl : Bytes} {name : String}
  {unknown : Acl.UnknownUser}

theorem NamesUnknown.exists_first (named : NamesUnknown passwords acl unknown) :
    ∃ first, FirstUnknown passwords acl first := by
  have descent := (measure Acl.UnknownUser.line).wf
  rcases descent.has_min { other | NamesUnknown passwords acl other } ⟨unknown, named⟩ with
    ⟨first, first_named, least⟩
  exact ⟨first, first_named, fun other other_named => Nat.le_of_not_lt (least other other_named)⟩

/-- A user is known exactly if some line of the password file gives a password. -/
theorem contains_read_ofBytes_iff :
    (Password.File.read (Source.ofBytes passwords).text).users.contains name = true ↔
      HasPassword passwords name := by
  have no_entry : ¬ ∃ stored, Password.Line.Entry [] name stored := by
    rintro ⟨_, visible, _⟩
    contradiction
  have entry_iff : ∀ line, (∃ stored, Password.Line.Entry (Source.lineText line) name stored) ↔
      ∃ text, encode text = line ∧ ∃ stored, Password.Line.Entry text name stored :=
    fun _ => Source.lineText_iff (∃ stored, Password.Line.Entry · name stored) no_entry
  rw [Password.File.contains_read_iff, Source.splitOn_text_ofBytes]
  simp only [List.mem_map, exists_exists_and_eq_and, entry_iff, HasPassword]
  constructor
  · rintro ⟨line, member, text, rfl, stored, entry⟩
    exact ⟨text, stored, member, entry⟩
  · rintro ⟨text, stored, member, entry⟩
    exact ⟨_, member, text, rfl, stored, entry⟩

/-- What the lines of a file say when they are read as bytes. -/
theorem piecesOf_text_ofBytes (bytes : Bytes) :
    Acl.File.piecesOf (Source.ofBytes bytes).text =
      (bytes.splitOn 0x0A).map fun line => Acl.Line.read (Source.lineText line) := by
  rw [Acl.File.piecesOf, Source.splitOn_text_ofBytes, List.map_map]
  rfl

/-- A line names a user for the reader exactly if its text does. -/
theorem getElem?_piecesOf_eq_user_iff {index : Nat} :
    (Acl.File.piecesOf (Source.ofBytes acl).text)[index]? = some (.user name) ↔
      ∃ text, Source.LineAt acl (index + 1) (encode text) ∧ Acl.Line.NamesUser text name := by
  have unnamed : ¬ Acl.Line.NamesUser [] name := by
    rintro ⟨visible, _⟩
    contradiction
  have names_iff : ∀ line, Acl.Line.NamesUser (Source.lineText line) name ↔
      ∃ text, encode text = line ∧ Acl.Line.NamesUser text name :=
    fun _ => Source.lineText_iff (Acl.Line.NamesUser · name) unnamed
  rw [piecesOf_text_ofBytes, List.getElem?_map]
  simp only [Option.map_eq_some_iff, Acl.Line.read_eq_user_iff, names_iff, Source.lineAt_iff]
  constructor
  · rintro ⟨line, found, text, rfl, named⟩
    exact ⟨text, found, named⟩
  · rintro ⟨text, found, named⟩
    exact ⟨_, found, text, rfl, named⟩

/-- A reader finds an unknown user exactly where the files name one. -/
theorem namesUnknown_iff {index : Nat} :
    NamesUnknown passwords acl ⟨index + 1, name⟩ ↔
      (Acl.File.piecesOf (Source.ofBytes acl).text)[index]? = some (.user name) ∧
        (Password.File.read (Source.ofBytes passwords).text).users.contains name = false := by
  rw [NamesUnknown, getElem?_piecesOf_eq_user_iff, ← contains_read_ofBytes_iff,
    Bool.not_eq_true]

/-- Lines are counted from one. -/
theorem NamesUnknown.exists_index (named : NamesUnknown passwords acl unknown) :
    ∃ index, unknown = ⟨index + 1, unknown.name⟩ := by
  rcases named with ⟨⟨_, ⟨before, _, _, _, _, _, number_eq⟩, _⟩, _⟩
  exact ⟨before.count 0x0A, by rw [← number_eq]⟩

/-- A strict reading refuses the first line that names a user without a password. -/
theorem read_eq_error_iff_firstUnknown {policy : Acl.UnknownUserPolicy} :
    Acl.File.read policy
        (Password.File.read (Source.ofBytes passwords).text).users.contains
        (Source.ofBytes acl).text = .error unknown ↔
      policy = .strict ∧ FirstUnknown passwords acl unknown := by
  rw [Acl.File.read_eq_error_iff, and_congr_right_iff]
  intro _
  constructor
  · rintro ⟨index, line_eq, found, unknown_name, known⟩
    constructor
    · rcases unknown with ⟨line, owner⟩
      cases line_eq
      exact namesUnknown_iff.mpr ⟨found, unknown_name⟩
    · intro other named
      rcases named.exists_index with ⟨place, other_eq⟩
      rw [other_eq] at named ⊢
      rcases namesUnknown_iff.mp named with ⟨other_found, other_unknown⟩
      by_contra earlier
      have lt : place < index := by simpa [line_eq] using earlier
      have other_known := known place lt other.name other_found
      simp [other_unknown] at other_known
  · rintro ⟨named, first⟩
    rcases named.exists_index with ⟨index, unknown_eq⟩
    rw [unknown_eq] at named first ⊢
    rcases namesUnknown_iff.mp named with ⟨found, unknown_name⟩
    refine ⟨index, rfl, found, unknown_name, ?_⟩
    intro before lt owner owner_found
    by_contra other
    have le := first ⟨before + 1, owner⟩
      (namesUnknown_iff.mpr ⟨owner_found, Bool.eq_false_of_not_eq_true other⟩)
    exact absurd lt (by simpa using le)

/-! ## Outcomes -/

theorem passwordFile?_eq_none_iff :
    config.passwordFile? = none ↔
      config.passwordPath = none ∨ config.passwordPath = some "" := by
  cases path_eq : config.passwordPath with
  | none => simp [Config.passwordFile?, path_eq]
  | some path => simp [Config.passwordFile?, path_eq]

theorem load_eq_missingPasswordPath_iff :
    load files config = .error .missingPasswordPath ↔
      config.passwordPath = none ∨ config.passwordPath = some "" := by
  rw [load_eq_error_iff, ← passwordFile?_eq_none_iff]
  simp

theorem load_eq_unreadable_passwords_iff {path : String} {fault : FileFault} :
    load files config = .error (.unreadable .passwords path fault) ↔
      config.passwordPath = some path ∧ path ≠ "" ∧ files path = .error fault := by
  rw [load_eq_error_iff, ← and_assoc, ← passwordFile?_eq_some_iff]
  simp

theorem load_eq_unreadable_acl_iff {path : String} {fault : FileFault} :
    load files config = .error (.unreadable .acl path fault) ↔
      (∃ passwordPath passwords, config.passwordPath = some passwordPath ∧ passwordPath ≠ "" ∧
        files passwordPath = .ok passwords) ∧
      config.aclPath = some path ∧ files path = .error fault := by
  rw [load_eq_error_iff]
  simp only [← and_assoc, ← passwordFile?_eq_some_iff]
  simp

/-- Both files are named and can be read. -/
theorem opens_some_iff :
    Opens files config passwords (some acl) ↔
      ∃ path aclPath, config.passwordFile? = some path ∧ files path = .ok passwords ∧
        config.aclPath = some aclPath ∧ files aclPath = .ok acl := by
  simp only [passwordFile?_eq_some_iff]
  constructor
  · rintro ⟨⟨path, named, nonempty, readable⟩, acl_eq⟩
    rcases Option.map_eq_some_iff.mp acl_eq with ⟨aclPath, acl_named, acl_readable⟩
    exact ⟨path, aclPath, ⟨named, nonempty⟩, readable, acl_named, acl_readable⟩
  · rintro ⟨path, aclPath, ⟨named, nonempty⟩, readable, acl_named, acl_readable⟩
    exact ⟨⟨path, named, nonempty, readable⟩, by simp [acl_named, acl_readable]⟩

theorem load_eq_unknownAclUser_iff :
    load files config = .error (.unknownAclUser unknown) ↔
      config.unknownUser = .strict ∧
        ∃ passwords acl, Opens files config passwords (some acl) ∧
          FirstUnknown passwords acl unknown := by
  rw [load_eq_error_iff]
  simp only [reduceCtorEq, and_false, exists_false, false_or, LoadError.unknownAclUser.injEq,
    read_eq_error_iff_firstUnknown, opens_some_iff]
  constructor
  · rintro ⟨path, passwords, aclPath, acl, _, named, readable, acl_named, acl_readable,
      ⟨strict, first⟩, rfl⟩
    exact ⟨strict, passwords, acl, ⟨path, aclPath, named, readable, acl_named, acl_readable⟩,
      first⟩
  · rintro ⟨strict, passwords, acl, ⟨path, aclPath, named, readable, acl_named, acl_readable⟩,
      first⟩
    exact ⟨path, passwords, aclPath, acl, _, named, readable, acl_named, acl_readable,
      ⟨strict, first⟩, rfl⟩

/-- Texts make a store unless a strict reading of the rules refuses them. -/
theorem exists_ofTexts_eq_ok {aclText : Option String} {passwordText : String}
    (accepted : ∀ text ∈ aclText, ∀ unknown,
      Acl.File.read config.unknownUser (Password.File.read passwordText).users.contains text ≠
        .error unknown) :
    ∃ store, ofTexts config passwordText aclText = .ok store := by
  cases aclText with
  | none => exact ⟨_, rfl⟩
  | some text =>
      rw [ofTexts]
      split
      · rename_i unknown refused
        exact absurd refused (accepted text rfl unknown)
      · exact ⟨_, rfl⟩

/-- Texts make the store of what is read from them. -/
theorem ofTexts_eq_ok_iff {aclText : Option String} {passwordText : String} {store : Store} :
    ofTexts config passwordText aclText = .ok store ↔
      ∃ file, Option.Rel (fun text file => Acl.File.read config.unknownUser
          (Password.File.read passwordText).users.contains text = .ok file) aclText file ∧
        ofFiles config (Password.File.read passwordText) file = store := by
  constructor
  · intro made
    cases aclText with
    | none => exact ⟨none, .none, Except.ok.inj made⟩
    | some text =>
        rw [ofTexts] at made
        split at made
        · contradiction
        · rename_i file taken
          exact ⟨some file, .some taken, Except.ok.inj made⟩
  · rintro ⟨file, taken, rfl⟩
    cases taken with
    | none => rfl
    | some taken => rw [ofTexts, taken]

theorem exists_load_eq_ok_iff :
    (∃ store, load files config = .ok store) ↔
      ∃ passwords acl, Opens files config passwords acl ∧
        (config.unknownUser = .strict →
          ∀ bytes ∈ acl, ∀ unknown, ¬ NamesUnknown passwords bytes unknown) := by
  constructor
  · rintro ⟨store, loaded⟩
    rcases exists_opens_of_load loaded with ⟨passwords, acl, opened⟩
    refine ⟨passwords, acl, opened, ?_⟩
    rintro strict bytes rfl unknown named
    rcases named.exists_first with ⟨first, is_first⟩
    have refused := load_eq_unknownAclUser_iff.mpr ⟨strict, passwords, bytes, opened, is_first⟩
    rw [loaded] at refused
    contradiction
  · rintro ⟨passwords, acl, opened, accepted⟩
    have made : ∃ store, ofTexts config (Source.ofBytes passwords).text
        (acl.map fun bytes => (Source.ofBytes bytes).text) = .ok store := by
      apply exists_ofTexts_eq_ok
      intro text member unknown refused
      rcases Option.mem_map.mp member with ⟨bytes, bytes_mem, rfl⟩
      rcases read_eq_error_iff_firstUnknown.mp refused with ⟨strict, named, _⟩
      exact accepted strict bytes bytes_mem unknown named
    rcases made with ⟨store, made⟩
    exact ⟨_, opened.load_eq_ok_iff.mpr ⟨store, made, rfl⟩⟩

/-! ## Permissive loads -/

theorem ofTexts_permissive_of_ok {aclText : Option String} {passwordText : String}
    {store : Store} (made : ofTexts config passwordText aclText = .ok store) :
    ofTexts { config with unknownUser := .permissive } passwordText aclText = .ok store := by
  cases aclText with
  | none => exact made
  | some text =>
      rw [ofTexts] at made ⊢
      split at made
      · contradiction
      · rename_i acl taken
        rw [Acl.File.read_permissive_of_ok taken]
        exact made

/-- What loads at all loads alike under the permissive policy. -/
theorem load_permissive_of_ok {store : Store} (loaded : load files config = .ok store) :
    load files { config with unknownUser := .permissive } = .ok store := by
  rcases exists_opens_of_load loaded with ⟨passwords, acl, opened⟩
  have opened_permissive :
      Opens files { config with unknownUser := .permissive } passwords acl :=
    ⟨opened.passwords_eq, opened.acl_eq⟩
  rcases opened.load_eq_ok_iff.mp loaded with ⟨plain, made, store_eq⟩
  exact opened_permissive.load_eq_ok_iff.mpr ⟨plain, ofTexts_permissive_of_ok made, store_eq⟩

/-- A load fails because no password file is named, or else because it cannot be read,
or else because an ACL file is named that cannot be read, or else because the policy is
strict and a line of the ACL file names a user without a password; the error shows the
first such line.  In all other cases it gives a store, and a strict load that succeeds
gives the store of the permissive load. -/
theorem load_by_first_reason (files : Files) (config : Config) :
    (load files config = .error .missingPasswordPath ↔
      config.passwordPath = none ∨ config.passwordPath = some "") ∧
    (∀ path fault, load files config = .error (.unreadable .passwords path fault) ↔
      config.passwordPath = some path ∧ path ≠ "" ∧ files path = .error fault) ∧
    (∀ path fault, load files config = .error (.unreadable .acl path fault) ↔
      (∃ passwordPath passwords, config.passwordPath = some passwordPath ∧ passwordPath ≠ "" ∧
        files passwordPath = .ok passwords) ∧
      config.aclPath = some path ∧ files path = .error fault) ∧
    (∀ unknown, load files config = .error (.unknownAclUser unknown) ↔
      config.unknownUser = .strict ∧
        ∃ passwords acl, Opens files config passwords (some acl) ∧
          FirstUnknown passwords acl unknown) ∧
    ((∃ store, load files config = .ok store) ↔
      ∃ passwords acl, Opens files config passwords acl ∧
        (config.unknownUser = .strict →
          ∀ bytes ∈ acl, ∀ unknown, ¬ NamesUnknown passwords bytes unknown)) ∧
    ∀ store, config.unknownUser = .strict → load files config = .ok store →
      load files { config with unknownUser := .permissive } = .ok store :=
  ⟨load_eq_missingPasswordPath_iff, fun _ _ => load_eq_unreadable_passwords_iff,
    fun _ _ => load_eq_unreadable_acl_iff, fun _ => load_eq_unknownAclUser_iff,
    exists_load_eq_ok_iff, fun _ _ => load_permissive_of_ok⟩

/-- A known user, a blank line, a line that is not well formed and a comment stand before the
line that is refused, and all four are counted; a further unknown user after it is not seen. -/
theorem load_refuses_fifth_line :
    load
        (fun path =>
          if path = "p" then .ok [0x61, 0x3A, 0x62]
          else
            .ok [0x75, 0x73, 0x65, 0x72, 0x20, 0x61, 0x0A, 0x0A, 0xFF, 0x0A, 0x23, 0x0A, 0x75,
              0x73, 0x65, 0x72, 0x20, 0x7A, 0x0A, 0x75, 0x73, 0x65, 0x72, 0x20, 0x79])
        { Config.forFiles (some "p") (some "l") with unknownUser := .strict } =
      .error (.unknownAclUser ⟨5, "z"⟩) ∧
    FirstUnknown [0x61, 0x3A, 0x62]
      [0x75, 0x73, 0x65, 0x72, 0x20, 0x61, 0x0A, 0x0A, 0xFF, 0x0A, 0x23, 0x0A, 0x75, 0x73, 0x65,
        0x72, 0x20, 0x7A, 0x0A, 0x75, 0x73, 0x65, 0x72, 0x20, 0x79] ⟨5, "z"⟩ := by
  have refused : load
      (fun path =>
        if path = "p" then .ok [0x61, 0x3A, 0x62]
        else
          .ok [0x75, 0x73, 0x65, 0x72, 0x20, 0x61, 0x0A, 0x0A, 0xFF, 0x0A, 0x23, 0x0A, 0x75,
            0x73, 0x65, 0x72, 0x20, 0x7A, 0x0A, 0x75, 0x73, 0x65, 0x72, 0x20, 0x79])
      { Config.forFiles (some "p") (some "l") with unknownUser := .strict } =
    .error (.unknownAclUser ⟨5, "z"⟩) := rfl
  rcases (load_by_first_reason _ _).2.2.2.1 _ |>.mp refused with
    ⟨_, passwords, acl, opened, first⟩
  rcases opens_some_iff.mp opened with ⟨path, aclPath, named, readable, acl_named, acl_readable⟩
  cases named
  cases acl_named
  cases Except.ok.inj readable
  cases Except.ok.inj acl_readable
  exact ⟨refused, first⟩

end TopicGuard.Store
