import TopicGuard.Proofs.Messages
import TopicGuard.Proofs.Sessions
import TopicGuard.Proofs.WellFormed

/-!
# One reply for each line

A session answers the lines of its input one by one, each line that is not blank with one
reply, until a line is not UTF-8; that line ends the session, and no reload does.  A reply is
itself one line, unless it tells why a reload failed and names a path, or a reason of the
system, that is more than one line.  Unless one of the two happens, a session is in step with
whoever counts the lines of its output.
-/

namespace TopicGuard

namespace Session

open Text (Bytes)
open Text.Utf8 (WellFormed encode)

/-! ## Events -/

/-- Whether a line of input is blank. -/
def isBlankLine (bytes : Bytes) : Bool :=
  (Text.Utf8.decode? bytes).any fun line => line.all Text.isBlank

namespace Event

/-- The line of input that an event is. -/
def line? : Event → Option Bytes
  | .line bytes => some bytes
  | .hangup => none

/-- Why the line of an event cannot be read. -/
def fault? : Event → Option Text.Utf8.Fault
  | .line bytes =>
      match Text.Utf8.decode bytes with
      | .error fault => some fault
      | .ok _ => none
  | .hangup => none

/-- The backend after an event, and the answer if there is one. -/
def answer (files : Files) (backend : Backend) : Event → Backend × Option String
  | .line bytes =>
      match Text.Utf8.decode bytes with
      | .error _ => (backend, none)
      | .ok text => answerLine files backend text
  | .hangup => (Session.hangup files backend, none)

end Event

/-- The lines of input among some events. -/
def inputLines (events : List (Files × Event)) : List Bytes :=
  events.filterMap fun event => event.2.line?

/-- The events that a session comes to, those before the first line that cannot be read. -/
def served (events : List (Files × Event)) : List (Files × Event) :=
  events.takeWhile fun event => event.2.fault?.isNone

/-- The answers to some events. -/
def replies (backend : Backend) : List (Files × Event) → List String
  | [] => []
  | (files, event) :: rest =>
      (event.answer files backend).2.toList ++ replies (event.answer files backend).1 rest

variable {files : Files} {backend : Backend} {event : Event} {events : List (Files × Event)}

theorem fault?_eq_none_iff :
    event.fault? = none ↔ ∀ bytes, event.line? = some bytes → WellFormed bytes := by
  cases event with
  | hangup => simp [Event.fault?, Event.line?]
  | line bytes =>
      simp only [Event.fault?, Event.line?, Option.some.injEq, forall_eq', WellFormed,
        ← Text.Utf8.decode_eq_ok_iff]
      cases Text.Utf8.decode bytes <;> simp

theorem forall_fault?_eq_none_iff :
    (∀ event ∈ events, event.2.fault? = none) ↔ ∀ line ∈ inputLines events, WellFormed line := by
  simp only [fault?_eq_none_iff, inputLines, List.mem_filterMap]
  constructor
  · rintro faultless line ⟨event, member, line_eq⟩
    exact faultless event member line line_eq
  · intro well_formed event member line line_eq
    exact well_formed line ⟨event, member, line_eq⟩

theorem served_cons_of_fault {fault : Text.Utf8.Fault} (unreadable : event.fault? = some fault)
    (files : Files) (rest : List (Files × Event)) : served ((files, event) :: rest) = [] :=
  List.takeWhile_cons_of_neg (by simp [unreadable])

theorem served_append {first : List (Files × Event)}
    (faultless : ∀ event ∈ first, event.2.fault? = none) (second : List (Files × Event)) :
    served (first ++ second) = first ++ served second :=
  List.takeWhile_append_of_pos fun event member => by simp [faultless event member]

theorem served_eq_self (faultless : ∀ event ∈ events, event.2.fault? = none) :
    served events = events :=
  List.takeWhile_eq_self_iff.mpr fun event member => by simp [faultless event member]

theorem replies_cons (files : Files) (event : Event) (rest : List (Files × Event)) :
    replies backend ((files, event) :: rest) =
      (event.answer files backend).2.toList ++ replies (event.answer files backend).1 rest :=
  rfl

theorem serveFrom_cons_of_fault (done : List String) (backend : Backend) (files : Files)
    {fault : Text.Utf8.Fault} (unreadable : event.fault? = some fault)
    (rest : List (Files × Event)) :
    serveFrom done backend ((files, event) :: rest) = ⟨done.reverse, some fault⟩ := by
  cases event with
  | hangup => contradiction
  | line bytes =>
      cases read : Text.Utf8.decode bytes with
      | ok text => simp [Event.fault?, read] at unreadable
      | error other =>
          simp only [Event.fault?, read, Option.some.injEq] at unreadable
          simp only [serveFrom, read, unreadable]

theorem serveFrom_cons_of_faultless (done : List String) (backend : Backend) (files : Files)
    (faultless : event.fault? = none) (rest : List (Files × Event)) :
    serveFrom done backend ((files, event) :: rest) =
      serveFrom ((event.answer files backend).2.toList ++ done)
        (event.answer files backend).1 rest := by
  cases event with
  | hangup => rfl
  | line bytes =>
      cases read : Text.Utf8.decode bytes with
      | error fault => simp [Event.fault?, read] at faultless
      | ok text => simp only [serveFrom, read, Event.answer]

/-- A session answers what comes before the first line that cannot be read. -/
theorem serveFrom_eq (done : List String) (backend : Backend)
    (events : List (Files × Event)) :
    serveFrom done backend events =
      ⟨done.reverse ++ replies backend (served events),
        events.findSome? fun event => event.2.fault?⟩ := by
  induction events generalizing done backend with
  | nil => simp [serveFrom, served, replies]
  | cons first rest ih =>
      obtain ⟨files, event⟩ := first
      cases fault_eq : event.fault? with
      | some fault =>
          rw [serveFrom_cons_of_fault done backend files fault_eq,
            served_cons_of_fault fault_eq files rest, List.findSome?_cons_of_isSome]
          · simp [replies, fault_eq]
          · simp [fault_eq]
      | none =>
          have unsaid : ∀ reply : Option String, reply.toList.reverse = reply.toList := by
            intro reply
            cases reply <;> rfl
          have served_eq : served ([(files, event)] ++ rest) = [(files, event)] ++ served rest :=
            served_append (by simp [fault_eq]) rest
          rw [List.singleton_append, List.singleton_append] at served_eq
          rw [serveFrom_cons_of_faultless done backend files fault_eq, ih, served_eq, replies_cons]
          simp [fault_eq, unsaid]

/-! ## One reply for each line -/

theorem length_snd_answerLine (files : Files) (backend : Backend) (text : List Char) :
    (answerLine files backend text).2.toList.length =
      if text.all Text.isBlank then 0 else 1 := by
  by_cases blank : tokens text = []
  · have all_blank : text.all Text.isBlank = true := by
      simpa using tokens_eq_nil_iff.mp blank
    rw [answerLine_of_blank blank, all_blank]
    rfl
  · have visible : ¬ text.all Text.isBlank = true := by
      simpa using mt tokens_eq_nil_iff.mpr blank
    rw [if_neg visible]
    cases asked : Query.read? text with
    | none => exact absurd (Query.ofWords?_eq_none_iff.mp asked) blank
    | some query =>
        simp only [answerLine, asked]
        rfl

theorem length_snd_answer (files : Files) (backend : Backend) (faultless : event.fault? = none) :
    (event.answer files backend).2.toList.length =
      event.line?.toList.countP fun bytes => !isBlankLine bytes := by
  cases event with
  | hangup => rfl
  | line bytes =>
      cases read : Text.Utf8.decode bytes with
      | error fault => simp [Event.fault?, read] at faultless
      | ok text =>
          have blank_eq : isBlankLine bytes = text.all Text.isBlank := by
            simp [isBlankLine, Text.Utf8.decode?, read, Except.toOption]
          simp only [Event.answer, read, length_snd_answerLine, Event.line?, Option.toList_some,
            List.countP_singleton, blank_eq]
          cases text.all Text.isBlank <;> rfl

theorem inputLines_cons (files : Files) (event : Event) (rest : List (Files × Event)) :
    inputLines ((files, event) :: rest) = event.line?.toList ++ inputLines rest := by
  cases line_eq : event.line? <;> simp [inputLines, line_eq]

/-- Lines that can be read have one reply each, if they are not blank. -/
theorem length_replies (backend : Backend)
    (faultless : ∀ event ∈ events, event.2.fault? = none) :
    (replies backend events).length =
      (inputLines events).countP fun bytes => !isBlankLine bytes := by
  induction events generalizing backend with
  | nil => rfl
  | cons first rest ih =>
      rw [List.forall_mem_cons] at faultless
      rw [replies_cons, inputLines_cons, List.length_append, List.countP_append,
        length_snd_answer _ _ faultless.1, ih _ faultless.2]

/-- What is said to some events does not depend on what comes after them. -/
theorem exists_replies_append (backend : Backend) (first second : List (Files × Event)) :
    ∃ later, replies backend (first ++ second) = replies backend first ++ later := by
  induction first generalizing backend with
  | nil => exact ⟨_, rfl⟩
  | cons next rest ih =>
      obtain ⟨later, later_eq⟩ := ih (next.2.answer next.1 backend).1
      refine ⟨later, ?_⟩
      rw [List.cons_append, replies_cons, replies_cons, later_eq, List.append_assoc]

/-! ## Replies of several lines -/

theorem access_mem_of_ofWords? {words : List String} {username clientId topic access : String}
    (asked : Query.ofWords? words = some (.acl username clientId topic access)) :
    access ∈ words := by
  unfold Query.ofWords? at asked
  split at asked
  case h_3 =>
      cases asked
      simp
  all_goals cases asked

theorem feed_not_mem_of_mem_tokens {text : List Char} {word : String}
    (member : word ∈ tokens text) : '\n' ∉ word.toList := by
  rw [tokens, List.mem_map] at member
  obtain ⟨chars, found, rfl⟩ := member
  intro feed
  rw [String.toList_ofList] at feed
  have ink := Text.isInk_of_mem_of_mem_words found feed
  contradiction

theorem feed_not_mem_verdict (isAllowed : Bool) : '\n' ∉ (verdict isAllowed).toList := by
  cases isAllowed <;> decide

theorem feed_mem_error_append_iff (message : String) :
    '\n' ∈ ("error: " ++ message).toList ↔ '\n' ∈ message.toList := by
  simp

/-- Only the reply to a reload that fails because of a file has several lines, and only if the
path of the file or what the system says about it has. -/
theorem feed_mem_answer_iff {text : List Char} {query : Query}
    (asked : Query.read? text = some query) :
    '\n' ∈ (answer files backend query).2.toList ↔
      tokens text = ["reload"] ∧ ∃ kind path fault,
        Store.load files backend.config = .error (.unreadable kind path fault) ∧
        ('\n' ∈ path.toList ∨ '\n' ∈ fault.message.toList) := by
  rw [← ofWords?_eq_reload_iff, ← read?_eq, asked, Option.some.injEq]
  cases query with
  | auth username password => simp [answer, feed_not_mem_verdict]
  | superuser username => simp [answer, feed_not_mem_verdict]
  | unknown => simp [answer]
  | acl username clientId topic access =>
      have access_free := feed_not_mem_of_mem_tokens (access_mem_of_ofWords? asked)
      rw [answer]
      split
      · simp [feed_not_mem_verdict]
      · simp [access_free]
  | reload =>
      simp only [true_and, answer]
      cases reloaded : backend.reload files with
      | ok next =>
          obtain ⟨store, loaded, _⟩ := Backend.reload_eq_ok_iff.mp reloaded
          simp [loaded]
      | error error =>
          have failed := Backend.reload_eq_error_iff.mp reloaded
          simp only [failed, feed_mem_error_append_iff, LoadError.feed_mem_message_iff,
            Except.error.injEq]

/-- An event asks for a reload that fails because of a file, and the path of the file or what
the system says about it has several lines. -/
def Event.SplitsReply (config : Config) (files : Files) : Event → Prop
  | .line bytes =>
      ∃ text kind path fault, encode text = bytes ∧ tokens text = ["reload"] ∧
        Store.load files config = .error (.unreadable kind path fault) ∧
        ('\n' ∈ path.toList ∨ '\n' ∈ fault.message.toList)
  | .hangup => False

theorem config_hangup (files : Files) (backend : Backend) :
    (hangup files backend).config = backend.config := by
  rw [hangup]
  split
  · rename_i next reloaded
    obtain ⟨store, _, rfl⟩ := Backend.reload_eq_ok_iff.mp reloaded
    rfl
  · rfl

theorem config_answer (files : Files) (backend : Backend) (event : Event) :
    (event.answer files backend).1.config = backend.config := by
  cases event with
  | hangup => exact config_hangup files backend
  | line bytes =>
      rw [Event.answer]
      split
      · rfl
      · rw [fst_answerLine]
        split_ifs
        · exact config_hangup files backend
        · rfl

/-- The reply to an event has several lines if the event asks for a reload that fails so. -/
theorem exists_feed_mem_answer_iff :
    (∃ reply ∈ (event.answer files backend).2.toList, '\n' ∈ reply.toList) ↔
      event.SplitsReply backend.config files := by
  cases event with
  | hangup => simp [Event.answer, Event.SplitsReply]
  | line bytes =>
      simp only [Event.SplitsReply, ← Text.Utf8.decode_eq_ok_iff]
      cases read : Text.Utf8.decode bytes with
      | error fault => simp [Event.answer, read]
      | ok text =>
          simp only [Event.answer, read, answerLine, Except.ok.injEq, exists_and_left,
            exists_eq_left']
          cases asked : Query.read? text with
          | none =>
              have blank : tokens text = [] := Query.ofWords?_eq_none_iff.mp asked
              simp [blank]
          | some query => simpa using feed_mem_answer_iff asked

/-- Some reply to some events has several lines if one of them asks for a reload that fails
with such a message. -/
theorem exists_feed_mem_replies_iff (backend : Backend) (events : List (Files × Event)) :
    (∃ reply ∈ replies backend events, '\n' ∈ reply.toList) ↔
      ∃ event ∈ events, event.2.SplitsReply backend.config event.1 := by
  induction events generalizing backend with
  | nil => simp [replies]
  | cons first rest ih =>
      obtain ⟨files, event⟩ := first
      simp only [replies_cons, List.mem_append, or_and_right, exists_or, List.exists_mem_cons_iff]
      rw [exists_feed_mem_answer_iff, ih, config_answer]

end Session

end TopicGuard
