import TopicGuard.Proofs.EmptiedLines

/-!
# Line ends

A line may end with a line feed or with a carriage return and a line feed.  If a file
without carriage returns is given one before every line feed, each of its lines reads as
before and is lost only if it was, so loading it gives the same outcome with the same
counts.  Together with the lines that can be emptied this says what in a file a load does
not depend on.
-/

namespace TopicGuard

open Text (Bytes dropReturn)
open Text.Utf8 (encode WellFormed)

namespace Source

/-- The bytes with a carriage return before every line feed. -/
def withReturns (bytes : Bytes) : Bytes :=
  bytes.flatMap fun b => if b = 0x0A then [0x0D, 0x0A] else [b]

/-- The same bytes, or the same lines with other ends: without carriage returns at all in
the first file, and with one before every line feed in the second. -/
def SameButReturns (bytes other : Bytes) : Prop :=
  other = bytes ∨ 0x0D ∉ bytes ∧ other = withReturns bytes

variable {bytes line rest : Bytes}

theorem withReturns_of_not_mem (free : 0x0A ∉ line) : withReturns line = line := by
  have alone : ∀ b ∈ line, (if b = 0x0A then [0x0D, 0x0A] else [b]) = [b] := by
    intro b member
    rw [if_neg]
    rintro rfl
    exact free member
  rw [withReturns, List.flatMap_congr alone, List.flatMap_singleton']

theorem withReturns_append_feed (free : 0x0A ∉ line) (rest : Bytes) :
    withReturns (line ++ 0x0A :: rest) = (line ++ [0x0D]) ++ 0x0A :: withReturns rest := by
  have kept := withReturns_of_not_mem free
  rw [withReturns] at kept
  rw [withReturns, List.flatMap_append, kept, List.flatMap_cons, List.append_assoc]
  rfl

/-! ## One line -/

theorem wellFormed_append_return_iff : WellFormed (line ++ [0x0D]) ↔ WellFormed line := by
  constructor
  · rintro ⟨text, written⟩
    refine ⟨dropReturn '\r' text, ?_⟩
    rw [← Text.dropReturn_encode, written, Text.dropReturn_append_return]
  · rintro ⟨text, rfl⟩
    exact ⟨text ++ ['\r'], by rw [Text.Utf8.encode_append]; rfl⟩

/-- The number sign of a comment stands before the end of its line. -/
theorem comment_append_return_iff : Comment (line ++ [0x0D]) ↔ Comment line := by
  constructor
  · rintro ⟨blanks, rest, line_eq, blank⟩
    rcases List.eq_nil_or_concat' rest with rfl | ⟨front, last, rfl⟩
    · have ends := (List.append_inj' line_eq rfl).2
      simp at ends
    · rw [← List.cons_append, ← List.append_assoc] at line_eq
      exact ⟨blanks, front, (List.append_inj' line_eq rfl).1, blank⟩
  · rintro ⟨blanks, rest, rfl, blank⟩
    exact ⟨blanks, rest ++ [0x0D], by simp, blank⟩

theorem lost_append_return_iff : Lost (line ++ [0x0D]) ↔ Lost line := by
  rw [Lost, Lost, wellFormed_append_return_iff, comment_append_return_iff]

/-- The text of a line is followed by the carriage return, unless the line has no text. -/
theorem dropReturn_lineText_append_return (free : 0x0D ∉ line) :
    dropReturn '\r' (lineText (line ++ [0x0D])) = dropReturn '\r' (lineText line) := by
  by_cases well : WellFormed line
  · obtain ⟨text, rfl⟩ := well
    have text_eq : lineText (encode text) = text := lineText_eq_iff.mpr (.inl rfl)
    have returned_eq : lineText (encode text ++ [0x0D]) = text ++ ['\r'] :=
      lineText_eq_iff.mpr (.inl (by rw [Text.Utf8.encode_append]; rfl))
    have char_free : '\r' ∉ text := fun member =>
      free ((Text.Utf8.mem_encode_iff (d := '\r') (by decide)).mpr member)
    have unended : text.getLast? ≠ some '\r' := fun ends =>
      char_free (List.mem_of_getLast? ends)
    rw [text_eq, returned_eq, Text.dropReturn_append_return, dropReturn, if_neg unended]
  · have empty : lineText line = [] := lineText_eq_iff.mpr (.inr ⟨well, rfl⟩)
    have returned_empty : lineText (line ++ [0x0D]) = [] :=
      lineText_eq_iff.mpr (.inr ⟨by rwa [wellFormed_append_return_iff], rfl⟩)
    rw [empty, returned_empty]

/-! ## All lines -/

/-- The text of a file is found one line at a time. -/
theorem toList_text_append_feed (free : 0x0A ∉ line) (rest : Bytes) :
    (ofBytes (line ++ 0x0A :: rest)).text.toList =
      lineText line ++ '\n' :: (ofBytes rest).text.toList := by
  rw [ofBytes, ofBytes, List.splitOn_append_cons_self_of_not_mem free, String.toList_ofList,
    String.toList_ofList, List.map_cons]
  cases pieces_eq : rest.splitOn 0x0A with
  | nil => exact absurd pieces_eq (List.splitOn_ne_nil 0x0A rest)
  | cons first others =>
      rw [List.map_cons, List.intercalate_cons_cons, List.append_assoc]
      rfl

/-- Carriage returns before the line feeds are in no line of the text. -/
theorem lines_text_withReturns (free : 0x0D ∉ bytes) :
    Text.lines (ofBytes (withReturns bytes)).text.toList =
      Text.lines (ofBytes bytes).text.toList := by
  induction bytes using Text.cut_induction (0x0A : UInt8) with
  | single only feed_free => rw [withReturns_of_not_mem feed_free]
  | cut first others feed_free ih =>
      simp only [List.mem_append, List.mem_cons, not_or] at free
      have returned_feed_free : (0x0A : UInt8) ∉ first ++ [0x0D] := by simp [feed_free]
      rw [withReturns_append_feed feed_free, toList_text_append_feed returned_feed_free,
        toList_text_append_feed feed_free,
        Text.lines_append_newline (feed_not_mem_lineText returned_feed_free),
        Text.lines_append_newline (feed_not_mem_lineText feed_free),
        dropReturn_lineText_append_return free.1, ih free.2.2]

/-- Carriage returns before the line feeds lose no line. -/
theorem lostCount_withReturns (bytes : Bytes) :
    lostCount (withReturns bytes) = lostCount bytes := by
  induction bytes using Text.cut_induction (0x0A : UInt8) with
  | single only feed_free => rw [withReturns_of_not_mem feed_free]
  | cut first others feed_free ih =>
      have returned_feed_free : (0x0A : UInt8) ∉ first ++ [0x0D] := by simp [feed_free]
      rw [lostCount] at ih ⊢
      rw [withReturns_append_feed feed_free,
        List.splitOn_append_cons_self_of_not_mem returned_feed_free, lostCount,
        List.splitOn_append_cons_self_of_not_mem feed_free, List.countP_cons, List.countP_cons,
        ih, lostCount]
      simp only [lost_append_return_iff]

theorem SameButReturns.lines_text_eq {other : Bytes} (same : SameButReturns bytes other) :
    Text.lines (ofBytes other).text.toList = Text.lines (ofBytes bytes).text.toList := by
  rcases same with rfl | ⟨free, rfl⟩
  · rfl
  · exact lines_text_withReturns free

theorem SameButReturns.lostCount_eq {other : Bytes} (same : SameButReturns bytes other) :
    lostCount other = lostCount bytes := by
  rcases same with rfl | ⟨_, rfl⟩
  · rfl
  · exact lostCount_withReturns bytes

end Source

namespace Store

variable {files edited : Files} {config : Config} {passwords otherPasswords : Bytes}
  {acl otherAcl : Option Bytes}

/-- Texts with the same lines make the same store. -/
theorem ofTexts_eq_of_lines_eq {text otherText : String} {rules otherRules : Option String}
    (users_eq : Text.lines otherText.toList = Text.lines text.toList)
    (rules_eq : Option.Rel (fun first second : String =>
      Text.lines second.toList = Text.lines first.toList) rules otherRules) :
    ofTexts config otherText otherRules = ofTexts config text rules := by
  apply ofTexts_eq_of_read_eq
  · rw [Password.File.read, users_eq]
    rfl
  · cases rules_eq with
    | none => exact .none
    | some lines_eq =>
        refine .some fun isKnown => ?_
        rw [Acl.File.read, lines_eq]
        rfl

theorem load_of_sameButReturns (opened : Opens files config passwords acl)
    (opened_edited : Opens edited config otherPasswords otherAcl)
    (users_same : Source.SameButReturns passwords otherPasswords)
    (rules_same : Option.Rel Source.SameButReturns acl otherAcl) :
    load edited config = load files config := by
  have rules_lines_eq : Option.Rel (fun first second : String =>
      Text.lines second.toList = Text.lines first.toList)
      (acl.map fun bytes => (Source.ofBytes bytes).text)
      (otherAcl.map fun bytes => (Source.ofBytes bytes).text) := by
    cases rules_same with
    | none => exact .none
    | some same => exact .some same.lines_text_eq
  have lost_eq : lostIn otherPasswords otherAcl = lostIn passwords acl := by
    cases rules_same with
    | none => exact users_same.lostCount_eq
    | some same => rw [lostIn_some, lostIn_some, users_same.lostCount_eq, same.lostCount_eq]
  rw [load_of_opens opened, load_of_opens opened_edited,
    ofTexts_eq_of_lines_eq users_same.lines_text_eq rules_lines_eq, lost_eq]

/-- Lines that are blank, comments or malformed can be emptied in both files: a load fails
as before, or its store holds the same users and rules and has counted as many malformed
lines less as were emptied.  A carriage return before every line feed of a file without
any changes nothing at all, and no file matters to a configuration that names no password
file. -/
theorem load_of_lines_emptied_or_returned (files edited : Files) (config : Config) :
    (config.passwordFile? = none → load edited config = load files config) ∧
    ∀ passwords acl otherPasswords otherAcl, Opens files config passwords acl →
      Opens edited config otherPasswords otherAcl →
      (∀ count, LinesEmptied passwords acl otherPasswords otherAcl count →
        (∀ error, load files config = .error error ↔ load edited config = .error error) ∧
        ∀ store, load files config = .ok store →
          ∃ other, load edited config = .ok other ∧
            other.users = store.users ∧ other.acl = store.acl ∧
            (∀ request, other.acl.decision request = store.acl.decision request) ∧
            (∀ verifier username password, other.authenticates verifier username password =
              store.authenticates verifier username password) ∧
            other.stats.users = store.stats.users ∧
            other.stats.aclRules = store.stats.aclRules ∧
            other.stats.malformedLines + count = store.stats.malformedLines) ∧
      (Source.SameButReturns passwords otherPasswords →
        Option.Rel Source.SameButReturns acl otherAcl →
        load edited config = load files config) := by
  refine ⟨fun unnamed => by rw [load, load, unnamed], ?_⟩
  intro passwords acl otherPasswords otherAcl opened opened_edited
  refine ⟨?_, load_of_sameButReturns opened opened_edited⟩
  intro count emptied
  rw [load_of_emptied opened opened_edited emptied]
  cases load edited config with
  | error error =>
      refine ⟨fun other => Iff.rfl, ?_⟩
      rintro store ⟨⟩
  | ok other =>
      refine ⟨fun error => by simp [Except.map], ?_⟩
      rintro store ⟨⟩
      exact ⟨other, rfl, rfl, rfl, fun _ => rfl, fun _ _ _ => rfl, rfl, rfl, rfl⟩

/-- A line without a colon and one that is not well formed are emptied, and each line of a
password file gets a carriage return. -/
theorem load_of_two_lines_emptied :
    ∃ store other, load
        (fun path =>
          if path = "p" then .ok [0x61, 0x3A, 0x31, 0x0A, 0x78, 0x0A]
          else .ok [0x74, 0x6F, 0x70, 0x69, 0x63, 0x20, 0x62, 0x0A, 0xFF])
        (Config.forFiles (some "p") (some "l")) = .ok store ∧
      load
        (fun path =>
          if path = "p" then .ok [0x61, 0x3A, 0x31, 0x0A, 0x0A]
          else .ok [0x74, 0x6F, 0x70, 0x69, 0x63, 0x20, 0x62, 0x0A])
        (Config.forFiles (some "p") (some "l")) = .ok other ∧
      other.users = store.users ∧ other.acl = store.acl ∧
      other.stats.malformedLines + 2 = store.stats.malformedLines ∧
      load (fun _ => .ok [0x61, 0x3A, 0x31, 0x0D, 0x0A, 0x78, 0x0D, 0x0A])
          (Config.forFiles (some "p") none) =
        load (fun _ => .ok [0x61, 0x3A, 0x31, 0x0A, 0x78, 0x0A])
          (Config.forFiles (some "p") none) := by
  have users_emptied : Source.LinesEmptied Password.Line.OfKind
      [0x61, 0x3A, 0x31, 0x0A, 0x78, 0x0A] [0x61, 0x3A, 0x31, 0x0A, 0x0A] 1 :=
    .keep _ (.malformed (by decide) (.inl rfl) (.keep _ .nil))
  have rules_emptied : Source.LinesEmptied Acl.Line.OfKind
      [0x74, 0x6F, 0x70, 0x69, 0x63, 0x20, 0x62, 0x0A, 0xFF]
      [0x74, 0x6F, 0x70, 0x69, 0x63, 0x20, 0x62, 0x0A] 1 :=
    .keep _ (.malformed (by decide) (.inl rfl) .nil)
  have emptied := ((load_of_lines_emptied_or_returned
    (fun path =>
      if path = "p" then .ok [0x61, 0x3A, 0x31, 0x0A, 0x78, 0x0A]
      else .ok [0x74, 0x6F, 0x70, 0x69, 0x63, 0x20, 0x62, 0x0A, 0xFF])
    (fun path =>
      if path = "p" then .ok [0x61, 0x3A, 0x31, 0x0A, 0x0A]
      else .ok [0x74, 0x6F, 0x70, 0x69, 0x63, 0x20, 0x62, 0x0A])
    (Config.forFiles (some "p") (some "l"))).2 _ _ _ _
      ⟨⟨"p", rfl, by decide, rfl⟩, rfl⟩ ⟨⟨"p", rfl, by decide, rfl⟩, rfl⟩).1 2
      (.checked users_emptied rules_emptied)
  rcases emptied.2 _ rfl with ⟨other, loaded, users_eq, acl_eq, _, _, _, _, count_eq⟩
  refine ⟨_, other, rfl, loaded, users_eq, acl_eq, count_eq, ?_⟩
  exact ((load_of_lines_emptied_or_returned
    (fun _ => .ok [0x61, 0x3A, 0x31, 0x0A, 0x78, 0x0A])
    (fun _ => .ok [0x61, 0x3A, 0x31, 0x0D, 0x0A, 0x78, 0x0D, 0x0A])
    (Config.forFiles (some "p") none)).2 _ none _ none
      ⟨⟨"p", rfl, by decide, rfl⟩, rfl⟩ ⟨⟨"p", rfl, by decide, rfl⟩, rfl⟩).2
      (.inr ⟨by decide, rfl⟩) .none

end Store

end TopicGuard
