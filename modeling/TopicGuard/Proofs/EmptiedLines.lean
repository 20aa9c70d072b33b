import TopicGuard.Proofs.Acl.Refusals
import TopicGuard.Proofs.LineKinds

/-!
# Lines that can be emptied

Lines that are blank, comments or malformed can be emptied: nothing is read differently,
except that fewer lines are malformed.  A reader only ever writes the number of malformed
lines, so readers that differ in it alone go on alike; and as long as each line keeps its
place, all other lines keep their numbers.
-/

namespace TopicGuard

open Text (Bytes isInert dropReturn)
open Text.Utf8 (encode WellFormed)

/-! ## Emptying -/

/-- Of some lines a few are emptied, each of which is blank, a comment or malformed; `count`
of these are malformed. -/
inductive Emptied {α : Type} (ofKind : α → LineKind → Prop) (isEmpty : α → Prop) :
    List α → List α → Nat → Prop
  | nil : Emptied ofKind isEmpty [] [] 0
  | keep {lines others : List α} {count : Nat} (line : α)
      (rest : Emptied ofKind isEmpty lines others count) :
      Emptied ofKind isEmpty (line :: lines) (line :: others) count
  | inert {lines others : List α} {count : Nat} {line left : α} (silent : ofKind line .inert)
      (empty : isEmpty left) (rest : Emptied ofKind isEmpty lines others count) :
      Emptied ofKind isEmpty (line :: lines) (left :: others) count
  | malformed {lines others : List α} {count : Nat} {line left : α}
      (misstated : ofKind line .malformed) (empty : isEmpty left)
      (rest : Emptied ofKind isEmpty lines others count) :
      Emptied ofKind isEmpty (line :: lines) (left :: others) (count + 1)

namespace Emptied

/-- Every line keeps its place. -/
theorem length_eq {α : Type} {ofKind : α → LineKind → Prop} {isEmpty : α → Prop}
    {lines others : List α} {count : Nat} (emptied : Emptied ofKind isEmpty lines others count) :
    others.length = lines.length := by
  induction emptied with
  | nil => rfl
  | keep _ _ ih | inert _ _ _ ih | malformed _ _ _ ih =>
      rw [List.length_cons, List.length_cons, ih]

/-- Where the carriage returns of line ends do not matter, emptied pieces are emptied
lines. -/
theorem openLines {ofKind : List Char → LineKind → Prop} {isEmpty : List Char → Prop}
    {pieces others : List (List Char)} {count : Nat}
    (same : ∀ piece kind, ofKind piece kind → ofKind (dropReturn '\r' piece) kind)
    (same_empty : ∀ piece, isEmpty piece → isEmpty (dropReturn '\r' piece))
    (emptied : Emptied ofKind isEmpty pieces others count) :
    Emptied ofKind isEmpty (Text.openLines pieces) (Text.openLines others) count := by
  have last_iff : ∀ {pieces others : List (List Char)} {count : Nat},
      Emptied ofKind isEmpty pieces others count → (others = [] ↔ pieces = []) := by
    intro pieces others count rest
    rw [← List.length_eq_zero_iff, rest.length_eq, List.length_eq_zero_iff]
  have same_end : ∀ {piece : List Char} {kind : LineKind} (last : Prop) [Decidable last],
      ofKind piece kind → ofKind (if last then piece else dropReturn '\r' piece) kind := by
    intro piece kind last _ is_kind
    split
    · exact is_kind
    · exact same piece kind is_kind
  have same_empty_end : ∀ {piece : List Char} (last : Prop) [Decidable last],
      isEmpty piece → isEmpty (if last then piece else dropReturn '\r' piece) := by
    intro piece last _ empty
    split
    · exact empty
    · exact same_empty piece empty
  induction emptied with
  | nil => exact .nil
  | keep line rest ih =>
      simp only [Text.openLines_cons, last_iff rest]
      exact .keep _ ih
  | inert silent empty rest ih =>
      simp only [Text.openLines_cons]
      exact .inert (same_end _ silent) (same_empty_end _ empty) ih
  | malformed misstated empty rest ih =>
      simp only [Text.openLines_cons]
      exact .malformed (same_end _ misstated) (same_empty_end _ empty) ih

end Emptied

namespace Source

/-- Some lines of a file are emptied that are blank, comments or malformed, `count` of them
malformed; the carriage return of a line's end may stay. -/
def LinesEmptied (textOfKind : List Char → LineKind → Prop) (bytes other : Bytes)
    (count : Nat) : Prop :=
  Emptied (OfKind textOfKind) (fun line => line = [] ∨ line = [0x0D]) (bytes.splitOn 0x0A)
    (other.splitOn 0x0A) count

/-- What is left of an emptied line says nothing, and it is not lost. -/
theorem isInert_lineText_of_empty {line : Bytes} (empty : line = [] ∨ line = [0x0D]) :
    isInert (lineText line) = true ∧ ¬ Lost line := by
  rcases empty with rfl | rfl <;> decide

/-- Emptied lines of bytes are emptied lines of text, except for the lost ones, which had
no text. -/
theorem exists_emptied_map_lineText {textOfKind : List Char → LineKind → Prop}
    {kindOfText : List Char → LineKind} {lines others : List Bytes} {count : Nat}
    (computed : ∀ text kind, textOfKind text kind ↔ kindOfText text = kind)
    (silent : kindOfText [] = .inert)
    (emptied : Emptied (OfKind textOfKind) (fun line => line = [] ∨ line = [0x0D]) lines others
      count) :
    ∃ heard, Emptied (fun text kind => kindOfText text = kind) (isInert · = true)
        (lines.map lineText) (others.map lineText) heard ∧
      lines.countP Lost + heard = others.countP Lost + count := by
  have kind_of_line : ∀ {line kind}, OfKind textOfKind line kind → kindOf kindOfText line = kind :=
    fun is_kind => (ofKind_iff_kindOf computed silent).mp is_kind
  induction emptied with
  | nil => exact ⟨0, .nil, rfl⟩
  | keep line _ ih =>
      obtain ⟨heard, texts, count_eq⟩ := ih
      refine ⟨heard, .keep _ texts, ?_⟩
      rw [List.countP_cons, List.countP_cons]
      omega
  | inert inert empty _ ih =>
      obtain ⟨heard, texts, count_eq⟩ := ih
      obtain ⟨left_inert, left_kept⟩ := isInert_lineText_of_empty empty
      have kind_eq := kind_of_line inert
      rw [kindOf] at kind_eq
      split at kind_eq
      · contradiction
      · rename_i kept
        refine ⟨heard, .inert kind_eq left_inert texts, ?_⟩
        rw [List.countP_cons_of_neg (by simpa using kept),
          List.countP_cons_of_neg (by simpa using left_kept), count_eq]
  | malformed misstated empty _ ih =>
      obtain ⟨heard, texts, count_eq⟩ := ih
      obtain ⟨left_inert, left_kept⟩ := isInert_lineText_of_empty empty
      have kind_eq := kind_of_line misstated
      rw [kindOf] at kind_eq
      split at kind_eq
      · rename_i lost
        -- The reader of the text never saw this line, so only the lost ones are one less.
        refine ⟨heard, .inert ?_ left_inert texts, ?_⟩
        · rw [lineText_of_lost lost, silent]
        · rw [List.countP_cons_of_pos (by simpa using lost),
            List.countP_cons_of_neg (by simpa using left_kept)]
          omega
      · rename_i kept
        refine ⟨heard + 1, .malformed kind_eq left_inert texts, ?_⟩
        rw [List.countP_cons_of_neg (by simpa using kept),
          List.countP_cons_of_neg (by simpa using left_kept)]
        omega

theorem LinesEmptied.exists_texts {textOfKind : List Char → LineKind → Prop}
    {kindOfText : List Char → LineKind} {bytes other : Bytes} {count : Nat}
    (computed : ∀ text kind, textOfKind text kind ↔ kindOfText text = kind)
    (silent : kindOfText [] = .inert) (emptied : LinesEmptied textOfKind bytes other count) :
    ∃ heard, Emptied (fun text kind => kindOfText text = kind) (isInert · = true)
        ((ofBytes bytes).text.toList.splitOn '\n') ((ofBytes other).text.toList.splitOn '\n')
        heard ∧
      lostCount bytes + heard = lostCount other + count := by
  rw [splitOn_text_ofBytes, splitOn_text_ofBytes]
  exact exists_emptied_map_lineText computed silent emptied

end Source

/-! ## Counting malformed lines apart -/

namespace Password.File

/-- The file with more malformed lines. -/
def withMalformed (file : File) (count : Nat) : File :=
  { file with malformed := file.malformed + count }

theorem withMalformed_withMalformed (file : File) (first second : Nat) :
    (file.withMalformed first).withMalformed second = file.withMalformed (second + first) := by
  simp only [withMalformed, File.mk.injEq, true_and]
  omega

theorem add_withMalformed (file : File) (count : Nat) (line : Line) :
    (file.withMalformed count).add line = (file.add line).withMalformed count := by
  cases line with
  | inert => rfl
  | user name stored => rfl
  | malformed => rw [withMalformed, add, add, withMalformed, Nat.add_right_comm]

theorem foldl_add_withMalformed (file : File) (count : Nat) (lines : List Line) :
    lines.foldl add (file.withMalformed count) = (lines.foldl add file).withMalformed count := by
  induction lines generalizing file with
  | nil => rfl
  | cons line rest ih => rw [List.foldl_cons, List.foldl_cons, add_withMalformed, ih]

end Password.File

namespace Acl

/-- The file with more malformed lines. -/
def File.withMalformed (file : File) (count : Nat) : File :=
  { file with malformed := file.malformed + count }

namespace Reader

/-- The state in which more lines were malformed. -/
def withMalformed (reader : Reader) (count : Nat) : Reader :=
  { reader with file := reader.file.withMalformed count }

variable {policy : UnknownUserPolicy} {isKnown : String → Bool}

theorem withMalformed_withMalformed (reader : Reader) (first second : Nat) :
    (reader.withMalformed first).withMalformed second =
      reader.withMalformed (second + first) := by
  simp only [withMalformed, File.withMalformed, Reader.mk.injEq, File.mk.injEq, true_and]
  omega

theorem step_withMalformed (reader : Reader) (count number : Nat) (line : Line) :
    (reader.withMalformed count).step policy isKnown number line =
      (reader.step policy isKnown number line).map (·.withMalformed count) := by
  cases line with
  | inert => rfl
  | user name =>
      rw [step, step]
      split <;> rfl
  | topic rule => rfl
  | pattern rule => rfl
  | malformed =>
      simp only [step, Except.map, addMalformed, withMalformed, File.withMalformed,
        Nat.add_right_comm]

theorem run_withMalformed (reader : Reader) (count number : Nat) (lines : List Line) :
    (reader.withMalformed count).run policy isKnown number lines =
      (reader.run policy isKnown number lines).map (·.withMalformed count) := by
  induction lines generalizing number reader with
  | nil => rfl
  | cons line rest ih =>
      rw [run, run, step_withMalformed]
      cases reader.step policy isKnown number line with
      | error unknown => rfl
      | ok next => exact ih next (number + 1)

end Reader

end Acl

/-! ## Reading what is left -/

variable {texts others : List (List Char)} {count : Nat}

/-- Emptied lines leave a password file with the same users. -/
theorem Password.File.foldl_add_of_emptied
    (emptied : Emptied (fun text kind => (Line.read text).kind = kind) (isInert · = true)
      texts others count) (file : File) :
    (texts.map Line.read).foldl add file =
      ((others.map Line.read).foldl add file).withMalformed count := by
  induction emptied generalizing file with
  | nil => rfl
  | keep line _ ih => exact ih (file.add (Line.read line))
  | inert silent empty _ ih =>
      rw [List.map_cons, List.map_cons, Line.kind_eq_inert_iff.mp silent,
        Line.read_eq_inert_iff.mpr empty]
      exact ih file
  | @malformed _ rest count _ _ misstated empty _ ih =>
      rw [List.map_cons, List.map_cons, Line.kind_eq_malformed_iff.mp misstated,
        Line.read_eq_inert_iff.mpr empty]
      calc
        _ = ((rest.map Line.read).foldl add (file.withMalformed 1)).withMalformed count :=
          ih (file.withMalformed 1)
        _ = ((rest.map Line.read).foldl add file).withMalformed (count + 1) := by
          rw [foldl_add_withMalformed, withMalformed_withMalformed]

/-- Emptied lines are read alike: a strict reader refuses the same line, or both readers end
in the same state. -/
theorem Acl.Reader.run_of_emptied {policy : UnknownUserPolicy} {isKnown : String → Bool}
    (emptied : Emptied (fun text kind => (Line.read text).kind = kind) (isInert · = true)
      texts others count) (reader : Reader) (number : Nat) :
    reader.run policy isKnown number (texts.map Line.read) =
      (reader.run policy isKnown number (others.map Line.read)).map (·.withMalformed count) := by
  induction emptied generalizing reader number with
  | nil => rfl
  | keep line _ ih =>
      rw [List.map_cons, List.map_cons, run, run]
      cases reader.step policy isKnown number (Line.read line) with
      | error unknown => rfl
      | ok next => exact ih next (number + 1)
  | inert silent empty _ ih =>
      rw [List.map_cons, List.map_cons, Line.kind_eq_inert_iff.mp silent,
        Line.read_eq_inert_iff.mpr empty]
      exact ih reader (number + 1)
  | @malformed _ rest count _ _ misstated empty _ ih =>
      rw [List.map_cons, List.map_cons, Line.kind_eq_malformed_iff.mp misstated,
        Line.read_eq_inert_iff.mpr empty]
      calc
        -- The reader that has counted the line differs in nothing but that count.
        _ = ((reader.withMalformed 1).run policy isKnown (number + 1) (rest.map Line.read)).map
              (·.withMalformed count) := ih (reader.withMalformed 1) (number + 1)
        _ = (reader.run policy isKnown (number + 1) (rest.map Line.read)).map
              (·.withMalformed (count + 1)) := by
          rw [run_withMalformed]
          cases reader.run policy isKnown (number + 1) (rest.map Line.read) with
          | error unknown => rfl
          | ok last => exact congrArg Except.ok (withMalformed_withMalformed last 1 count)

/-! ## Files and loads -/

section

variable {bytes other : Bytes}

theorem Password.File.read_eq_foldl_openLines (text : String) :
    read text =
      ((Text.openLines (text.toList.splitOn '\n')).map Line.read).foldl add empty := by
  rw [read]
  rcases Text.openLines_splitOn text.toList with all | one_more
  · rw [all]
  · rw [one_more, List.map_append, List.foldl_append]
    rfl

/-- A text with emptied lines says the same about users. -/
theorem Password.File.read_of_emptied {text otherText : String}
    (emptied : Emptied (fun text kind => (Line.read text).kind = kind) (isInert · = true)
      (text.toList.splitOn '\n') (otherText.toList.splitOn '\n') count) :
    read text = (read otherText).withMalformed count := by
  rw [read_eq_foldl_openLines, read_eq_foldl_openLines]
  refine foldl_add_of_emptied (emptied.openLines ?_ ?_) empty
  · intro piece kind is_kind
    rwa [Line.kind_read_dropReturn]
  · intro piece inert
    rwa [Text.isInert_dropReturn]

/-- A text with emptied lines says the same about rules. -/
theorem Acl.File.read_of_emptied {text otherText : String}
    (emptied : Emptied (fun text kind => (Line.read text).kind = kind) (isInert · = true)
      (text.toList.splitOn '\n') (otherText.toList.splitOn '\n') count)
    (policy : UnknownUserPolicy) (isKnown : String → Bool) :
    read policy isKnown text = (read policy isKnown otherText).map (·.withMalformed count) := by
  rw [read_eq_run_piecesOf, read_eq_run_piecesOf, piecesOf, piecesOf,
    Reader.run_of_emptied emptied]
  cases Reader.start.run policy isKnown 1 ((otherText.toList.splitOn '\n').map Line.read) <;> rfl

theorem Password.File.exists_read_of_emptied
    (emptied : Source.LinesEmptied Line.OfKind bytes other count) :
    ∃ heard, read (Source.ofBytes bytes).text =
        (read (Source.ofBytes other).text).withMalformed heard ∧
      Source.lostCount bytes + heard = Source.lostCount other + count := by
  obtain ⟨heard, texts, count_eq⟩ := emptied.exists_texts Line.ofKind_iff rfl
  exact ⟨heard, read_of_emptied texts, count_eq⟩

theorem Acl.File.exists_read_of_emptied
    (emptied : Source.LinesEmptied Line.OfKind bytes other count) (policy : UnknownUserPolicy) :
    ∃ heard, (∀ isKnown, read policy isKnown (Source.ofBytes bytes).text =
        (read policy isKnown (Source.ofBytes other).text).map (·.withMalformed heard)) ∧
      Source.lostCount bytes + heard = Source.lostCount other + count := by
  obtain ⟨heard, texts, count_eq⟩ := emptied.exists_texts Line.ofKind_iff rfl
  exact ⟨heard, read_of_emptied texts policy, count_eq⟩

end

namespace Store

/-- Lines of the files of a load are emptied, of the password file and of the ACL file, if
there is one; `count` of them are malformed. -/
inductive LinesEmptied : Bytes → Option Bytes → Bytes → Option Bytes → Nat → Prop
  | unchecked {passwords otherPasswords : Bytes} {count : Nat}
      (users : Source.LinesEmptied Password.Line.OfKind passwords otherPasswords count) :
      LinesEmptied passwords none otherPasswords none count
  | checked {passwords otherPasswords acl otherAcl : Bytes} {userCount ruleCount : Nat}
      (users : Source.LinesEmptied Password.Line.OfKind passwords otherPasswords userCount)
      (rules : Source.LinesEmptied Acl.Line.OfKind acl otherAcl ruleCount) :
      LinesEmptied passwords (some acl) otherPasswords (some otherAcl) (userCount + ruleCount)

variable {files edited : Files} {config : Config} {passwords otherPasswords : Bytes}
  {acl otherAcl : Option Bytes}

theorem addMalformed_addMalformed (store : Store) (first second : Nat) :
    (store.addMalformed first).addMalformed second = store.addMalformed (first + second) := by
  rw [addMalformed, addMalformed, addMalformed, Nat.add_assoc]

/-- Texts that are read alike make the same store. -/
theorem ofTexts_eq_of_read_eq {text otherText : String} {rules otherRules : Option String}
    (users_eq : Password.File.read otherText = Password.File.read text)
    (rules_eq : Option.Rel (fun first second : String => ∀ isKnown,
      Acl.File.read config.unknownUser isKnown second =
        Acl.File.read config.unknownUser isKnown first) rules otherRules) :
    ofTexts config otherText otherRules = ofTexts config text rules := by
  cases rules_eq with
  | none => rw [ofTexts, ofTexts, users_eq]
  | some read_eq => simp only [ofTexts, users_eq, read_eq]

/-- Malformed lines that the readers report are reported by the store. -/
theorem ofTexts_none_of_withMalformed {text otherText : String} {userCount : Nat}
    (users_eq : Password.File.read text =
      (Password.File.read otherText).withMalformed userCount) :
    ofTexts config text none = (ofTexts config otherText none).map (·.addMalformed userCount) := by
  rw [ofTexts, users_eq]
  rfl

theorem ofTexts_some_of_withMalformed {text otherText rules otherRules : String}
    {userCount ruleCount : Nat}
    (users_eq : Password.File.read text =
      (Password.File.read otherText).withMalformed userCount)
    (rules_eq : ∀ isKnown, Acl.File.read config.unknownUser isKnown rules =
      (Acl.File.read config.unknownUser isKnown otherRules).map (·.withMalformed ruleCount)) :
    ofTexts config text (some rules) =
      (ofTexts config otherText (some otherRules)).map
        (·.addMalformed (userCount + ruleCount)) := by
  simp only [ofTexts, users_eq, rules_eq]
  rw [Password.File.withMalformed]
  cases Acl.File.read config.unknownUser (Password.File.read otherText).users.contains
      otherRules with
  | error unknown => rfl
  | ok file =>
      simp only [Except.map, ofFiles, Acl.File.withMalformed, addMalformed,
        Nat.add_add_add_comm]

/-- Loading files with emptied lines gives the same outcome, but for the malformed lines
that are missing. -/
theorem load_of_emptied (opened : Opens files config passwords acl)
    (opened_edited : Opens edited config otherPasswords otherAcl)
    (emptied : LinesEmptied passwords acl otherPasswords otherAcl count) :
    load files config = (load edited config).map (·.addMalformed count) := by
  have map_map : ∀ (made : Except LoadError Store) {first second third fourth : Nat},
      first + second = third + fourth →
      (made.map (·.addMalformed first)).map (·.addMalformed second) =
        (made.map (·.addMalformed third)).map (·.addMalformed fourth) := by
    intro made first second third fourth same
    cases made with
    | error error => rfl
    | ok store => simp only [Except.map, addMalformed_addMalformed, same]
  rw [load_of_opens opened, load_of_opens opened_edited]
  cases emptied with
  | unchecked users =>
      obtain ⟨heard, users_eq, count_eq⟩ := Password.File.exists_read_of_emptied users
      simp only [Option.map_none, lostIn_none, ofTexts_none_of_withMalformed users_eq]
      exact map_map _ (by omega)
  | checked users rules =>
      obtain ⟨heard, users_eq, count_eq⟩ := Password.File.exists_read_of_emptied users
      obtain ⟨heardRules, rules_eq, rules_count_eq⟩ :=
        Acl.File.exists_read_of_emptied rules config.unknownUser
      simp only [Option.map_some, lostIn_some,
        ofTexts_some_of_withMalformed users_eq rules_eq]
      exact map_map _ (by omega)

end Store

end TopicGuard
