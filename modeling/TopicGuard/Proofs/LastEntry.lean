import TopicGuard.Proofs.Passwords
import TopicGuard.Store

/-!
# The last entry of a user

Whether a user's password is accepted is decided by one line of the password file: the last
one that gives the user a password.  No other line matters to that user, and names with
stored passwords that are written one on a line are read back, in whatever order they are
written.
-/

namespace TopicGuard

open Text (isInert isBlank trimStart)

namespace Password

namespace Line

/-- Of the lines that give a user a password the last one gives this one. -/
def LastEntry (lines : List (List Char)) (name stored : String) : Prop :=
  ∃ before line after, lines = before ++ line :: after ∧ Entry line name stored ∧
    ∀ later ∈ after, ∀ other, ¬ Entry later name other

variable {line : List Char} {lines : List (List Char)} {name stored : String}

theorem stored?_read_eq_some_iff :
    (read line).stored? name = some stored ↔ Entry line name stored := by
  rw [← read_eq_user_iff]
  cases read line with
  | user other given =>
      rw [stored?, Option.ite_none_right_eq_some, Option.some.injEq, Line.user.injEq]
  | inert | malformed => simp [stored?]

theorem stored?_read_eq_none_iff :
    (read line).stored? name = none ↔ ∀ stored, ¬ Entry line name stored := by
  simp only [← stored?_read_eq_some_iff, Option.eq_none_iff_forall_ne_some]

/-- The last entry is the last stored password that is given to the user. -/
theorem lastEntry_iff_getLast? :
    LastEntry lines name stored ↔
      (lines.filterMap fun line => (read line).stored? name).getLast? = some stored := by
  simp only [LastEntry, ← stored?_read_eq_some_iff, ← ne_eq,
    ← Option.eq_none_iff_forall_ne_some, List.getLast?_filterMap, List.findSome?_eq_some_iff,
    List.reverse_eq_append_iff]
  constructor
  · rintro ⟨before, line, after, rfl, given, silent⟩
    exact ⟨after.reverse, line, before.reverse, by simp, given, by simpa using silent⟩
  · rintro ⟨after, line, before, rfl, given, silent⟩
    exact ⟨before.reverse, line, after.reverse, by simp, given, by simpa using silent⟩

/-! ## Lines that are written -/

/-- A name and a stored password can be written on a line: both are taken apart at the one
colon, and nothing of them is taken for a comment or for the end of the line. -/
structure Writable (name stored : String) : Prop where
  name_no_colon : ':' ∉ name.toList
  name_one_line : '\n' ∉ name.toList
  not_comment : (trimStart name.toList).head? ≠ some '#'
  stored_no_colon : ':' ∉ stored.toList
  stored_one_line : '\n' ∉ stored.toList
  stored_unreturned : stored.toList.getLast? ≠ some '\r'

/-- The line that gives a user a stored password. -/
def written (name stored : String) : List Char :=
  name.toList ++ ':' :: stored.toList

namespace Writable

theorem isInert_written (writable : Writable name stored) :
    isInert (written name stored) = false := by
  have not_comment := writable.not_comment
  rw [trimStart] at not_comment
  rw [isInert, written, trimStart, List.dropWhile_append]
  cases start_eq : name.toList.dropWhile isBlank with
  | nil => rfl
  | cons c rest =>
      rw [start_eq] at not_comment
      simpa using not_comment

theorem read_written (writable : Writable name stored) :
    read (written name stored) = .user name stored :=
  read_eq_user_iff.mpr
    ⟨writable.isInert_written, rfl, writable.name_no_colon, writable.stored_no_colon⟩

theorem written_one_line (writable : Writable name stored) :
    '\n' ∉ written name stored ∧ (written name stored).getLast? ≠ some '\r' := by
  constructor
  · simp [written, writable.name_one_line, writable.stored_one_line]
  · rw [written, List.getLast?_append_cons, List.getLast?_cons]
    cases stored_ends : stored.toList.getLast? with
    | none => simp
    | some last =>
        have unreturned := writable.stored_unreturned
        rw [stored_ends] at unreturned
        simpa using unreturned

end Writable

end Line

namespace File

open Line (Entry LastEntry Writable written)

variable {text other : String} {name : String}

/-! ## Files that are read -/

theorem get?_read (text name : String) :
    (read text).users.get? name =
      ((Text.lines text.toList).filterMap fun line => (Line.read line).stored? name).getLast? := by
  rw [(collects_read text).users_eq, linesOf, List.filterMap_map]
  rfl

/-- A user has the stored password of the last entry. -/
theorem get?_read_eq_some_iff {stored : String} :
    (read text).users.get? name = some stored ↔
      LastEntry (Text.lines text.toList) name stored := by
  rw [get?_read, Line.lastEntry_iff_getLast?]

/-- A line that is no entry of a user, or is followed by another one, can be left out. -/
theorem get?_read_of_removed {before after : List (List Char)} {line : List Char}
    (lines_eq : Text.lines text.toList = before ++ line :: after)
    (other_lines_eq : Text.lines other.toList = before ++ after)
    (silent : (∀ stored, ¬ Entry line name stored) ∨
      ∃ later ∈ after, ∃ stored, Entry later name stored) :
    (read other).users.get? name = (read text).users.get? name := by
  rw [get?_read, get?_read, lines_eq, other_lines_eq, List.filterMap_append,
    List.filterMap_append]
  rcases silent with silent | ⟨later, member, stored, entry⟩
  · simp only [List.filterMap_cons, Line.stored?_read_eq_none_iff.mpr silent]
  · have given : stored ∈ after.filterMap fun line => (Line.read line).stored? name :=
      List.mem_filterMap.mpr ⟨later, member, Line.stored?_read_eq_some_iff.mpr entry⟩
    have nonempty := List.ne_nil_of_mem given
    rw [← List.singleton_append, List.filterMap_append, ← List.append_assoc,
      List.getLast?_append_of_ne_nil _ nonempty, List.getLast?_append_of_ne_nil _ nonempty]

/-! ## Files that are written -/

/-- The text with a line for each of some users. -/
def textOf (order : List (String × String)) : String :=
  String.ofList (order.flatMap fun entry => written entry.1 entry.2 ++ ['\n'])

theorem linesOf_textOf {order : List (String × String)}
    (writable : ∀ entry ∈ order, Writable entry.1 entry.2) :
    linesOf (textOf order) = order.map fun entry => .user entry.1 entry.2 := by
  have one_line := fun entry member => (writable entry member).written_one_line
  rw [linesOf, textOf, String.toList_ofList, Text.lines_flatMap_append_newline one_line,
    List.map_map]
  exact List.map_congr_left fun entry member => (writable entry member).read_written

/-- Users that are written in any order are read back. -/
theorem read_textOf {users : NameMap String} {order : List (String × String)}
    (perm : order.Perm users.entries) (writable : ∀ entry ∈ order, Writable entry.1 entry.2) :
    read (textOf order) = ⟨users, 0⟩ := by
  have collected := collects_read (textOf order)
  rw [linesOf_textOf writable] at collected
  have users_eq : (read (textOf order)).users = users := by
    apply NameMap.ext_get?
    intro name
    have stored_eq : (order.map fun entry => Line.user entry.1 entry.2).filterMap
        (Line.stored? name) = (order.filter (·.1 = name)).map Prod.snd := by
      rw [List.filterMap_map, ← List.filterMap_eq_map, List.filterMap_filter]
      simp only [decide_eq_true_eq]
      rfl
    rw [collected.users_eq, stored_eq, NameMap.filter_eq_of_perm perm]
    cases users.get? name <;> rfl
  have malformed_eq : (read (textOf order)).malformed = 0 := by
    rw [collected.malformed_eq, List.countP_eq_zero]
    intro line member
    rcases List.mem_map.mp member with ⟨entry, _, rfl⟩
    simp
  rw [← users_eq, ← malformed_eq]

end File

end Password

/-! ## Stores -/

namespace Store

open Password.Line (Entry LastEntry Writable)

/-- The users of a store are those of its password file. -/
theorem users_of_ofTexts {config : Config} {passwords : String} {acl : Option String}
    {store : Store} (made : ofTexts config passwords acl = .ok store) :
    store.users = (Password.File.read passwords).users := by
  cases acl with
  | none =>
      cases made
      rfl
  | some text =>
      rw [ofTexts] at made
      split at made
      · contradiction
      · cases made
        rfl

/-- Authentication is decided by the last line that gives the user a password: the password
goes with what that line stores, or there is no such line and it is not accepted.  A line that
gives the user none, or that a later one of the user follows, can be left out.  Names with
stored passwords that are written one on a line are the users that are read back. -/
theorem authenticates_by_last_entry :
    (∀ config passwords acl store, ofTexts config passwords acl = .ok store →
      ∀ verifier username password, store.authenticates verifier username password = true ↔
        ∃ stored, LastEntry (Text.lines passwords.toList) username stored ∧
          verifier.accepts password stored = true) ∧
    (∀ config passwords acl store, ofTexts config passwords acl = .ok store →
      ∀ otherConfig otherPasswords otherAcl other,
        ofTexts otherConfig otherPasswords otherAcl = .ok other →
      ∀ before line after, Text.lines passwords.toList = before ++ line :: after →
        Text.lines otherPasswords.toList = before ++ after →
      ∀ username, ((∀ stored, ¬ Entry line username stored) ∨
          ∃ later ∈ after, ∃ stored, Entry later username stored) →
        ∀ verifier password, other.authenticates verifier username password =
          store.authenticates verifier username password) ∧
    ∀ users order, order.Perm users.entries → (∀ entry ∈ order, Writable entry.1 entry.2) →
      Password.File.read (Password.File.textOf order) = ⟨users, 0⟩ := by
  refine ⟨?_, ?_, fun _ _ => Password.File.read_textOf⟩
  · intro config passwords acl store made verifier username password
    rw [authenticates, users_of_ofTexts made, Option.any_eq_true]
    simp only [Password.File.get?_read_eq_some_iff]
  · intro config passwords acl store made otherConfig otherPasswords otherAcl other made_other
      before line after lines_eq other_lines_eq username silent verifier password
    rw [authenticates, authenticates, users_of_ofTexts made, users_of_ofTexts made_other,
      Password.File.get?_read_of_removed lines_eq other_lines_eq silent]

/-- The second of two entries decides, and the first one can be left out.  Users are read
back from lines in another order than that of their names. -/
theorem authenticates_by_second_entry :
    ∃ store other, ofTexts .initial "u:a\nbad\nu: b\nv:c\n" none = .ok store ∧
      ofTexts .initial "bad\nu: b\nv:c\n" none = .ok other ∧
      store.authenticates .plain "u" " b" = true ∧
      (∀ verifier password, other.authenticates verifier "u" password =
        store.authenticates verifier "u" password) ∧
      Password.File.read "v:c\nu: b\n" = ⟨store.users, 0⟩ := by
  obtain ⟨decided, unchanged, read_back⟩ := authenticates_by_last_entry
  have entry : Entry "u: b".toList "u" " b" := Password.Line.read_eq_user_iff.mp rfl
  have last : LastEntry (Text.lines "u:a\nbad\nu: b\nv:c\n".toList) "u" " b" := by
    refine ⟨["u:a".toList, "bad".toList], _, ["v:c".toList], rfl, entry, ?_⟩
    intro later member
    rw [List.mem_singleton.mp member]
    exact Password.Line.stored?_read_eq_none_iff.mp rfl
  refine ⟨_, _, rfl, rfl, ?_, ?_, ?_⟩
  · exact (decided .initial _ none _ rfl .plain "u" " b").mpr ⟨" b", last, rfl⟩
  · exact unchanged .initial _ none _ rfl .initial _ none _ rfl [] "u:a".toList _ rfl rfl "u"
      (.inr ⟨"u: b".toList, by decide, " b", entry⟩)
  · have first : Writable "v" "c" := by constructor <;> decide
    have second : Writable "u" " b" := by constructor <;> decide
    exact read_back _ [("v", "c"), ("u", " b")] (List.Perm.swap _ _ [])
      (List.forall_mem_cons.mpr ⟨first, List.forall_mem_singleton.mpr second⟩)

end Store

end TopicGuard
