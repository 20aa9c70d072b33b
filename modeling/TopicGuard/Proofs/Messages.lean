import Mathlib.Data.List.Basic
import TopicGuard.Files.Tree
import TopicGuard.Store

/-!
# Messages of one line

What is shown between double quotes holds no line feed, whatever the text is.  A message on a
load that failed is therefore one line, unless it names a path with a line feed, or the system
gives a reason with one.
-/

namespace TopicGuard

/-! ## Quoted text -/

namespace Text

/-- The digits of a number are the characters for numbers less than the base. -/
theorem exists_digitChar_of_mem_toDigits {base value : Nat} (large : 1 < base) {c : Char}
    (member : c ∈ Nat.toDigits base value) : ∃ digit < base, c = Nat.digitChar digit := by
  induction value using Nat.strongRecOn with
  | ind value ih =>
      by_cases small : value < base
      · rw [Nat.toDigits_of_lt_base small, List.mem_singleton] at member
        exact ⟨value, small, member⟩
      · rw [Nat.toDigits_of_base_le large (Nat.le_of_not_lt small), List.mem_append,
          List.mem_singleton] at member
        rcases member with front | last
        · exact ih (value / base) (Nat.div_lt_self (by omega) large) front
        · exact ⟨value % base, Nat.mod_lt value (by omega), last⟩

theorem feed_not_mem_codePointEscape (c : Char) : '\n' ∉ codePointEscape c := by
  have digits_free : '\n' ∉ Nat.toDigits 16 c.toNat := by
    intro member
    obtain ⟨digit, digit_lt, feed_eq⟩ := exists_digitChar_of_mem_toDigits (by decide) member
    have other : ∀ digit < 16, '\n' ≠ Nat.digitChar digit := by decide
    exact other digit digit_lt feed_eq
  simp [codePointEscape, digits_free]

theorem feed_not_mem_quotedChar (c : Char) : '\n' ∉ quotedChar c := by
  rw [quotedChar]
  split_ifs with quote backslash tab feed carriage zero unprintable
  · decide
  · decide
  · decide
  · decide
  · decide
  · decide
  · exact feed_not_mem_codePointEscape c
  · simpa using Ne.symm feed

/-- A quoted text is one line. -/
theorem feed_not_mem_quote (text : String) : '\n' ∉ (quote text).toList := by
  rw [quote, String.toList_ofList, quoted]
  simp [feed_not_mem_quotedChar]

/-- A number is written on one line. -/
theorem feed_not_mem_toString (value : Nat) : '\n' ∉ (toString value).toList := by
  rw [Nat.toString_eq_ofList_toDigits, String.toList_ofList]
  intro member
  have digit : ('\n').isDigit = true :=
    Nat.isDigit_of_mem_toDigits (by decide) (by decide) member
  contradiction

end Text

/-! ## Reasons of the system -/

/-- Only a reason that is not known here can have more than one line. -/
theorem FileFault.feed_mem_message_iff {fault : FileFault} :
    '\n' ∈ fault.message.toList ↔ ∃ message, fault = .other message ∧ '\n' ∈ message.toList := by
  cases fault with
  | other text => simp [message]
  | _ =>
      simp only [reduceCtorEq, false_and, exists_false, iff_false]
      decide

namespace FileTree

theorem walk_ne_other (tree : FileTree) (place : Place) (names : List String)
    (message : String) : tree.walk place names ≠ .error (.other message) := by
  induction names generalizing place with
  | nil => simp [walk]
  | cons name rest ih =>
      rw [walk.eq_def]
      split
      · contradiction
      rename_i same
      cases same
      split
      · simp
      split
      · exact ih _
      split
      · exact ih _
      split
      · simp
      split
      · simp
      · split
        · exact ih _
        · simp

/-- All reasons for which a file of a tree cannot be read are known. -/
theorem read_ne_other (tree : FileTree) (path message : String) :
    tree.read path ≠ .error (.other message) := by
  rw [read]
  split
  · simp
  split
  · simp
  split
  · simp
  split
  · rename_i fault walked
    intro other
    cases other
    exact tree.walk_ne_other _ _ message walked
  · split
    · simp
    · simp
    · split <;> simp

end FileTree

/-! ## Loads that failed -/

namespace LoadError

theorem message_unreadable (kind : SourceKind) (path : String) (fault : FileFault) :
    (unreadable kind path fault).message =
      "couldn't open " ++ kind.name ++ " file " ++ path ++ ": " ++ fault.message :=
  rfl

theorem message_unknownAclUser (unknown : Acl.UnknownUser) :
    (unknownAclUser unknown).message =
      "acl line " ++ toString unknown.line ++ ": user " ++ Text.quote unknown.name
        ++ " is not in the password file" :=
  rfl

/-- A message on a load that failed has a second line only by a path or by a reason of the
system. -/
theorem feed_mem_message_iff {error : LoadError} :
    '\n' ∈ error.message.toList ↔
      ∃ kind path fault, error = .unreadable kind path fault ∧
        ('\n' ∈ path.toList ∨ '\n' ∈ fault.message.toList) := by
  cases error with
  | missingPasswordPath =>
      simp only [reduceCtorEq, false_and, exists_false, iff_false]
      decide
  | unreadable kind path fault =>
      have kind_free : '\n' ∉ kind.name.toList := by
        cases kind <;> simp [SourceKind.name]
      rw [message_unreadable]
      simp [kind_free]
  | unknownAclUser unknown =>
      have line_free := Text.feed_not_mem_toString unknown.line
      have name_free := Text.feed_not_mem_quote unknown.name
      rw [message_unknownAclUser]
      simp only [String.toList_append, List.mem_append, line_free, name_free]
      simp

end LoadError

end TopicGuard
