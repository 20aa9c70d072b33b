import Mathlib.Data.List.Induction
import TopicGuard.Password.File
import TopicGuard.Proofs.Lines
import TopicGuard.Proofs.NameMap

/-!
# Entries of a password file

What a password file says is a function of its lines as a whole: a user has the
stored password of the last line that gives one, and the malformed lines are those
that are not blank, are no comments and do not hold exactly one colon.  Whom a line
names does not depend on the carriage return of the line's end.
-/

namespace TopicGuard.Password

open Text (isInert dropReturn)

namespace Line

/-- The line gives the stored password of a user: it is the name, a colon and the stored
password, and neither of them holds a colon. -/
def Entry (line : List Char) (name stored : String) : Prop :=
  isInert line = false ∧ line = name.toList ++ ':' :: stored.toList ∧
    ':' ∉ name.toList ∧ ':' ∉ stored.toList

/-- The line says something, but is no entry. -/
def Misstated (line : List Char) : Prop :=
  isInert line = false ∧ line.count ':' ≠ 1

instance : DecidablePred Misstated :=
  fun _ => inferInstanceAs (Decidable (_ ∧ _))

/-- The user that a line names. -/
def name? : Line → Option String
  | .user name _ => some name
  | _ => none

/-- The stored password that a line gives to a user. -/
def stored? (name : String) : Line → Option String
  | .user other stored => if other = name then some stored else none
  | _ => none

variable {line : List Char}

/-! ## Reading a line -/

theorem read_eq_inert_iff : read line = .inert ↔ isInert line = true := by
  rw [read]
  split
  · rename_i inert
    simp [inert]
  · rename_i visible
    simp only [visible]
    split <;> simp

theorem read_eq_user_iff {name stored : String} :
    read line = .user name stored ↔ Entry line name stored := by
  rw [read, Entry, ← Text.splitOn_eq_pair_iff]
  split
  · rename_i inert
    simp [inert]
  · rename_i visible
    simp only [visible, true_and]
    split
    · rename_i first second pieces
      rw [pieces, Line.user.injEq, ← String.toList_inj, ← String.toList_inj]
      simp
    · rename_i other
      simp only [reduceCtorEq, false_iff]
      exact other _ _

theorem read_eq_malformed_iff : read line = .malformed ↔ Misstated line := by
  rw [read, Misstated, ne_eq, Text.count_eq_one_iff]
  split
  · rename_i inert
    simp [inert]
  · rename_i visible
    simp only [visible, true_and]
    split
    · rename_i first second pieces
      simp only [reduceCtorEq, false_iff, not_not]
      exact ⟨first, second, Text.splitOn_eq_pair_iff.mp pieces⟩
    · rename_i other
      simp only [true_iff]
      rintro ⟨first, second, split_eq⟩
      exact other first second (Text.splitOn_eq_pair_iff.mpr split_eq)

theorem name?_read_eq_some_iff {name : String} :
    (read line).name? = some name ↔ ∃ stored, Entry line name stored := by
  simp only [← read_eq_user_iff]
  cases read line <;> simp [name?]

/-! ## The carriage return of a line's end -/

/-- Whom a line names does not depend on a carriage return at its end, which belongs to
the stored password if to anything. -/
theorem exists_entry_dropReturn_iff {name : String} :
    (∃ stored, Entry (dropReturn '\r' line) name stored) ↔ ∃ stored, Entry line name stored := by
  rcases List.eq_nil_or_concat' line with rfl | ⟨front, last, rfl⟩
  · rfl
  by_cases returns : last = '\r'
  · subst returns
    have visible_eq := Text.isInert_dropReturn (front ++ ['\r'])
    rw [Text.dropReturn_append_return] at visible_eq ⊢
    simp only [Entry, visible_eq]
    constructor
    · rintro ⟨stored, visible, rfl, name_free, stored_free⟩
      exact ⟨String.ofList (stored.toList ++ ['\r']), visible, by simp, name_free,
        by simp [stored_free]⟩
    · rintro ⟨stored, visible, line_eq, name_free, stored_free⟩
      rcases List.eq_nil_or_concat' stored.toList with empty | ⟨kept, final, stored_eq⟩
      · rw [empty] at line_eq
        have ends := (List.append_inj' line_eq rfl).2
        simp at ends
      · rw [stored_eq, ← List.cons_append, ← List.append_assoc] at line_eq
        have front_eq := (List.append_inj' line_eq rfl).1
        rw [stored_eq, List.mem_append, not_or] at stored_free
        exact ⟨String.ofList kept, visible, by simp [front_eq], name_free,
          by simp [stored_free.1]⟩
  · rw [dropReturn, if_neg (by simpa using returns)]

theorem name?_read_dropReturn (line : List Char) :
    (read (dropReturn '\r' line)).name? = (read line).name? := by
  ext name
  rw [name?_read_eq_some_iff, name?_read_eq_some_iff, exists_entry_dropReturn_iff]

theorem misstated_dropReturn_iff : Misstated (dropReturn '\r' line) ↔ Misstated line := by
  rw [Misstated, Misstated, Text.isInert_dropReturn]
  rcases List.eq_nil_or_concat' line with rfl | ⟨front, last, rfl⟩
  · rfl
  by_cases returns : last = '\r'
  · subst returns
    simp [Text.dropReturn_append_return]
  · rw [dropReturn, if_neg (by simpa using returns)]

end Line

/-! ## Reading a file -/

namespace File

/-- What the lines of a text say, one by one. -/
def linesOf (text : String) : List Line :=
  (Text.lines text.toList).map Line.read

/-- A file has collected what some lines say as a whole. -/
structure Collects (file : File) (lines : List Line) : Prop where
  users_eq : ∀ name, file.users.get? name = (lines.filterMap (Line.stored? name)).getLast?
  malformed_eq : file.malformed = lines.countP (· = .malformed)

theorem collects_empty : empty.Collects [] where
  users_eq _ := rfl
  malformed_eq := rfl

/-- Adding one more line keeps what has been collected. -/
theorem Collects.add {file : File} {lines : List Line} (collected : file.Collects lines)
    (line : Line) : (file.add line).Collects (lines ++ [line]) := by
  cases line with
  | inert =>
      constructor
      · intro name
        simpa [Line.stored?, File.add] using collected.users_eq name
      · simpa [File.add] using collected.malformed_eq
  | user owner stored =>
      constructor
      · intro name
        rw [File.add, NameMap.get?_insert, collected.users_eq, List.filterMap_append]
        by_cases same : name = owner
        · simp [Line.stored?, same]
        · simp [Line.stored?, same, Ne.symm same]
      · simpa [File.add] using collected.malformed_eq
  | malformed =>
      constructor
      · intro name
        simpa [Line.stored?, File.add] using collected.users_eq name
      · simp [File.add, collected.malformed_eq]

theorem collects_foldl (lines : List Line) : (lines.foldl File.add empty).Collects lines := by
  induction lines using List.reverseRecOn with
  | nil => exact collects_empty
  | append_singleton lines line ih =>
      rw [List.foldl_append]
      exact ih.add line

/-- What is read from a text is what its lines say as a whole. -/
theorem collects_read (text : String) : (read text).Collects (linesOf text) :=
  collects_foldl _

/-- The users of a file are those that some line names. -/
theorem contains_read_iff {text name : String} :
    (read text).users.contains name = true ↔
      ∃ line ∈ text.toList.splitOn '\n', ∃ stored, Line.Entry line name stored := by
  have unnamed_iff : ∀ line : Line, line.stored? name = none ↔ ¬ line.name? = some name := by
    intro line
    cases line <;> simp [Line.stored?, Line.name?]
  simp only [NameMap.contains, (collects_read text).users_eq, Option.isSome_iff_ne_none, ne_eq,
    List.getLast?_eq_none_iff, List.filterMap_eq_nil_iff, unnamed_iff, not_forall, not_not,
    exists_prop, ← Line.name?_read_eq_some_iff]
  have counted :
      (text.toList.splitOn '\n').countP (fun line => (Line.read line).name? = some name) =
        (Text.lines text.toList).countP (fun line => (Line.read line).name? = some name) :=
    Text.countP_splitOn_eq (fun line => by rw [Line.name?_read_dropReturn]) rfl text.toList
  have positive := congrArg (0 < ·) counted
  simpa [linesOf, List.countP_pos_iff] using positive.symm

/-- The malformed lines of a file are those that say something, but are no entries. -/
theorem malformed_read (text : String) :
    (read text).malformed = (text.toList.splitOn '\n').countP (Line.Misstated ·) := by
  rw [(collects_read text).malformed_eq, linesOf, List.countP_map, Text.countP_splitOn_eq]
  · refine List.countP_congr fun line _ => ?_
    simp [Line.read_eq_malformed_iff]
  · intro line
    simp only [Line.misstated_dropReturn_iff]
  · decide

end File

end TopicGuard.Password
