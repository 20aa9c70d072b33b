import TopicGuard.Proofs.Acl.Sections
import TopicGuard.Proofs.Lines

/-!
# What a strict reader refuses

A strict reader refuses a text at the first line that names a user without a password,
and nothing after that line matters.  A permissive reader refuses nothing, and where a
strict reader does not refuse both read the same.
-/

namespace TopicGuard.Acl

/-! ## Pieces instead of lines -/

namespace Line

/-- The carriage return of a line's end is no part of what the line says. -/
theorem read_dropReturn (line : List Char) :
    read (Text.dropReturn '\r' line) = read line := by
  have fields_eq : ∀ limit,
      Text.fields limit (Text.dropReturn '\r' line) = Text.fields limit line := by
    intro limit
    rw [Text.fields, Text.fields, Text.trim_dropReturn]
  have name_eq : userName? (Text.dropReturn '\r' line) = userName? line := by
    rw [userName?, userName?, Text.words_dropReturn]
  rw [read, keyword, Text.isInert_dropReturn, fields_eq, fields_eq, name_eq]
  rfl

end Line

namespace Reader

variable {policy : UnknownUserPolicy} {isKnown : String → Bool} {number : Nat}
  {reader last : Reader} {line : Line} {lines : List Line} {unknown : UnknownUser}

/-- Lines that say nothing at the end of a file change nothing. -/
theorem run_append_inert :
    reader.run policy isKnown number (lines ++ [.inert]) =
      reader.run policy isKnown number lines := by
  rw [run_append]
  cases reader.run policy isKnown number lines <;> rfl

/-! ## Refusals -/

/-- A strict reader refuses a line that names a user without a password, and no reader
refuses any other. -/
theorem step_eq_error_iff :
    reader.step policy isKnown number line = .error unknown ↔
      policy = .strict ∧ line = .user unknown.name ∧ isKnown unknown.name = false ∧
        unknown.line = number := by
  rcases unknown with ⟨place, name⟩
  cases line with
  | user other =>
      rw [step]
      split
      · rename_i refused
        simp only [Except.error.injEq, UnknownUser.mk.injEq, Line.user.injEq]
        constructor
        · rintro ⟨rfl, rfl⟩
          exact ⟨refused.1, rfl, refused.2, rfl⟩
        · rintro ⟨_, rfl, _, rfl⟩
          exact ⟨rfl, rfl⟩
      · rename_i taken
        simp only [reduceCtorEq, Line.user.injEq, false_iff]
        rintro ⟨strict, rfl, unknown, _⟩
        exact taken ⟨strict, unknown⟩
  | _ => simp [step]

/-- A strict reader takes a line only if it names nobody without a password. -/
theorem isKnown_of_step_eq_ok {next : Reader} {name : String}
    (taken : reader.step policy isKnown number line = .ok next) (strict : policy = .strict)
    (named : line = .user name) : isKnown name = true := by
  by_contra other
  have refused : reader.step policy isKnown number line = .error ⟨number, name⟩ :=
    step_eq_error_iff.mpr ⟨strict, named, by simpa using other, rfl⟩
  rw [taken] at refused
  contradiction

/-- The line at some place names a user without a password, and no line before it does. -/
def FirstUnknown (isKnown : String → Bool) (lines : List Line) (index : Nat) (name : String) :
    Prop :=
  lines[index]? = some (.user name) ∧ isKnown name = false ∧
    ∀ before < index, ∀ other, lines[before]? = some (.user other) → isKnown other = true

theorem firstUnknown_zero_iff {name : String} :
    FirstUnknown isKnown (line :: lines) 0 name ↔ line = .user name ∧ isKnown name = false := by
  simp [FirstUnknown]

theorem firstUnknown_succ_iff {index : Nat} {name : String} :
    FirstUnknown isKnown (line :: lines) (index + 1) name ↔
      (∀ other, line = .user other → isKnown other = true) ∧
        FirstUnknown isKnown lines index name := by
  simp only [FirstUnknown, List.getElem?_cons_succ]
  constructor
  · rintro ⟨found, unknown_name, known⟩
    constructor
    · intro other named
      exact known 0 (Nat.succ_pos index) other (by simp [named])
    · exact ⟨found, unknown_name, fun before lt => known (before + 1) (Nat.succ_lt_succ lt)⟩
  · rintro ⟨known_first, found, unknown_name, known⟩
    refine ⟨found, unknown_name, ?_⟩
    intro before lt other named
    cases before with
    | zero => exact known_first other (by simpa using named)
    | succ before => exact known before (Nat.lt_of_succ_lt_succ lt) other named

/-- A strict reader refuses some lines at the first one that names a user without a
password. -/
theorem run_eq_error_iff :
    reader.run policy isKnown number lines = .error unknown ↔
      policy = .strict ∧ ∃ index, unknown.line = number + index ∧
        FirstUnknown isKnown lines index unknown.name := by
  induction lines generalizing number reader with
  | nil => simp [FirstUnknown]
  | cons line rest ih =>
      rw [run]
      cases stepped : reader.step policy isKnown number line with
      | error refused =>
          rcases step_eq_error_iff.mp stepped with ⟨_, line_refused, name_unknown, _⟩
          change Except.error refused = .error unknown ↔ _
          rw [← stepped, step_eq_error_iff, and_congr_right_iff]
          intro strict
          constructor
          · rintro ⟨named, unknown_name, place⟩
            exact ⟨0, place, firstUnknown_zero_iff.mpr ⟨named, unknown_name⟩⟩
          · rintro ⟨index, place, first⟩
            cases index with
            | zero =>
                rcases firstUnknown_zero_iff.mp first with ⟨named, unknown_name⟩
                exact ⟨named, unknown_name, place⟩
            | succ index =>
                have known := (firstUnknown_succ_iff.mp first).1 refused.name line_refused
                simp [name_unknown] at known
      | ok next =>
          simp only [ih]
          rw [and_congr_right_iff]
          intro strict
          have not_refused : ∀ name, line = .user name → isKnown name = true := fun _ =>
            isKnown_of_step_eq_ok stepped strict
          constructor
          · rintro ⟨index, line_eq, first⟩
            exact ⟨index + 1, by omega, firstUnknown_succ_iff.mpr ⟨not_refused, first⟩⟩
          · rintro ⟨index, line_eq, first⟩
            cases index with
            | zero =>
                rcases firstUnknown_zero_iff.mp first with ⟨named, unknown_name⟩
                simp [not_refused unknown.name named] at unknown_name
            | succ index => exact ⟨index, by omega, (firstUnknown_succ_iff.mp first).2⟩

/-! ## Readers that do not refuse -/

/-- Lines are taken to the end unless the reader is strict and one of them names a user
without a password. -/
theorem exists_run_eq_ok_iff :
    (∃ last, reader.run policy isKnown number lines = .ok last) ↔
      (policy = .strict → ∀ name, .user name ∈ lines → isKnown name = true) := by
  induction lines generalizing number reader with
  | nil => simp
  | cons line rest ih =>
      rw [run]
      cases stepped : reader.step policy isKnown number line with
      | error refused =>
          rcases step_eq_error_iff.mp stepped with ⟨strict, rfl, name_unknown, _⟩
          simp only [reduceCtorEq, exists_false, false_iff]
          intro known
          have name_known := known strict refused.name List.mem_cons_self
          rw [name_unknown] at name_known
          contradiction
      | ok next =>
          simp only [ih, List.mem_cons]
          constructor
          · rintro known strict name (named | member)
            · exact isKnown_of_step_eq_ok stepped strict named.symm
            · exact known strict name member
          · intro known strict name member
            exact known strict name (.inr member)

theorem step_permissive_of_ok {next : Reader}
    (taken : reader.step policy isKnown number line = .ok next) :
    reader.step .permissive isKnown number line = .ok next := by
  cases line with
  | user name =>
      rw [step] at taken
      split at taken
      · contradiction
      · simpa [step] using taken
  | _ => exact taken

/-- What a reader takes to the end, a permissive reader reads alike. -/
theorem run_permissive_of_ok (taken : reader.run policy isKnown number lines = .ok last) :
    reader.run .permissive isKnown number lines = .ok last := by
  induction lines generalizing number reader with
  | nil => exact taken
  | cons line rest ih =>
      rw [run] at taken ⊢
      cases stepped : reader.step policy isKnown number line with
      | error refused =>
          rw [stepped] at taken
          contradiction
      | ok next =>
          rw [stepped] at taken
          rw [step_permissive_of_ok stepped]
          exact ih taken

/-- A permissive reader does not ask which users have a password. -/
theorem run_permissive_congr (first second : String → Bool) :
    reader.run .permissive first number lines = reader.run .permissive second number lines := by
  have step_eq : ∀ number reader line,
      step .permissive first number reader line = step .permissive second number reader line := by
    intro number reader line
    cases line <;> simp [step]
  induction lines generalizing number reader with
  | nil => rfl
  | cons line rest ih =>
      rw [run, run, step_eq]
      cases step .permissive second number reader line with
      | error refused => rfl
      | ok next => exact ih

end Reader

namespace File

variable {policy : UnknownUserPolicy} {isKnown : String → Bool} {text : String}

/-- What the pieces of a text between line feeds say, one by one. -/
def piecesOf (text : String) : List Line :=
  (text.toList.splitOn '\n').map Line.read

/-- Reading a text is reading the pieces between its line feeds. -/
theorem read_eq_run_piecesOf :
    read policy isKnown text =
      (Reader.start.run policy isKnown 1 (piecesOf text)).map Reader.file := by
  rw [read, piecesOf]
  rcases Text.map_splitOn_eq Line.read_dropReturn text.toList with all | one_more
  · rw [all]
  · rw [one_more, Line.read_nil, Reader.run_append_inert]

/-- A strict reader refuses a text at the first piece that names a user without a
password. -/
theorem read_eq_error_iff {unknown : UnknownUser} :
    read policy isKnown text = .error unknown ↔
      policy = .strict ∧ ∃ index, unknown.line = index + 1 ∧
        Reader.FirstUnknown isKnown (piecesOf text) index unknown.name := by
  rw [read_eq_run_piecesOf]
  simp only [← Nat.add_comm 1]
  rw [← Reader.run_eq_error_iff]
  cases Reader.start.run policy isKnown 1 (piecesOf text) <;> simp [Except.map]

theorem map_file_eq_ok_iff {taken : Except UnknownUser Reader} {file : File} :
    taken.map Reader.file = .ok file ↔ ∃ last, taken = .ok last ∧ last.file = file := by
  cases taken <;> simp [Except.map]

/-- A text is read if its lines are taken to the end. -/
theorem read_eq_ok_iff {file : File} :
    read policy isKnown text = .ok file ↔
      ∃ last, Reader.start.run policy isKnown 1 (linesOf text) = .ok last ∧ last.file = file :=
  map_file_eq_ok_iff

/-- A text is read unless the reader is strict and a line names a user without a password. -/
theorem exists_read_eq_ok_iff :
    (∃ file, read policy isKnown text = .ok file) ↔
      (policy = .strict → ∀ name, .user name ∈ linesOf text → isKnown name = true) := by
  simp only [read_eq_ok_iff, exists_comm (α := File), exists_and_left, exists_eq', and_true]
  exact Reader.exists_run_eq_ok_iff

/-- What is read from a text is what its lines say as a whole. -/
theorem exists_collects_linesOf {file : File} (taken : read policy isKnown text = .ok file) :
    ∃ last : Reader, last.file = file ∧ last.Collects (linesOf text) := by
  rcases read_eq_ok_iff.mp taken with ⟨last, run_eq, rfl⟩
  exact ⟨last, rfl, Reader.collects_run Reader.collects_start run_eq⟩

/-- Where a reader does not refuse, a permissive reader reads the same. -/
theorem read_permissive_of_ok {file : File} (taken : read policy isKnown text = .ok file) :
    read .permissive isKnown text = .ok file := by
  rcases read_eq_ok_iff.mp taken with ⟨last, run_eq, rfl⟩
  exact read_eq_ok_iff.mpr ⟨last, Reader.run_permissive_of_ok run_eq, rfl⟩

/-- Readers that do not refuse a text read the same, whichever users they take for known. -/
theorem eq_of_read_eq_ok {other : UnknownUserPolicy} {isKnownToOther : String → Bool}
    {file second : File} (taken : read policy isKnown text = .ok file)
    (taken_by_other : read other isKnownToOther text = .ok second) : file = second := by
  have permissive := read_permissive_of_ok taken
  rw [read, Reader.run_permissive_congr isKnown isKnownToOther] at permissive
  exact Except.ok.inj (permissive.symm.trans (read_permissive_of_ok taken_by_other))

/-- A reader that takes more users for known reads what it read before. -/
theorem read_eq_ok_of_known {isKnownToOther : String → Bool} {file : File}
    (known : ∀ name, isKnown name = true → isKnownToOther name = true)
    (taken : read policy isKnown text = .ok file) : read policy isKnownToOther text = .ok file := by
  have accepted := exists_read_eq_ok_iff.mp ⟨file, taken⟩
  obtain ⟨second, taken_by_other⟩ : ∃ second, read policy isKnownToOther text = .ok second :=
    exists_read_eq_ok_iff.mpr fun strict name named => known name (accepted strict name named)
  rw [taken_by_other, eq_of_read_eq_ok taken taken_by_other]

end File

end TopicGuard.Acl
