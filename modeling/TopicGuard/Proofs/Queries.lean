import TopicGuard.Proofs.Lines
import TopicGuard.Proofs.Loads
import TopicGuard.Session

/-!
# What one line is answered

The answer to a line depends on the words of the line, on the store and, for a reload
only, on the files.  A reload is also the only question that can change the backend, and
it changes the backend as a hangup does.
-/

namespace TopicGuard.Session

/-- The words of a line. -/
def tokens (line : List Char) : List String :=
  (Text.words line).map String.ofList

/-- The words that ask something which is known. -/
inductive Known : List String → Prop where
  | auth (username password : String) : Known ["auth", username, password]
  | acl (username clientId topic access : String) :
      Known ["acl", username, clientId, topic, access]
  | superuser (username : String) : Known ["superuser", username]
  | reload : Known ["reload"]

/-- The answer to some words, with passwords checked by bcrypt. -/
structure Answers (config : Config) (files : Files) (store : Store) (words : List String)
    (reply : String) : Prop where
  auth : ∀ username password, words = ["auth", username, password] →
    reply = if store.authenticates .bcrypt username password then "allow" else "deny"
  acl : ∀ username clientId topic access level,
    words = ["acl", username, clientId, topic, access] →
    Access.ofToken? access.toList = some level →
    reply = if (store.acl.decision ⟨username, clientId, topic, level⟩).isAllowed
      then "allow" else "deny"
  unknown_access : ∀ username clientId topic access,
    words = ["acl", username, clientId, topic, access] →
    Access.ofToken? access.toList = none → reply = "error: unknown access " ++ access
  superuser : ∀ username, words = ["superuser", username] → reply = "deny"
  reload : words = ["reload"] →
    (reply = "ok" ↔ ∃ next, Store.load files config = .ok next)
  failed_reload : ∀ error, words = ["reload"] → Store.load files config = .error error →
    reply = "error: " ++ error.message
  unknown : ¬ Known words → reply = "error: unknown query"

variable {files : Files} {backend : Backend} {line : List Char}

/-! ## Questions -/

theorem tokens_eq_nil_iff : tokens line = [] ↔ ∀ c ∈ line, Text.isBlank c = true := by
  rw [tokens, List.map_eq_nil_iff, Text.words_eq_nil_iff, Text.trimStart,
    List.dropWhile_eq_nil_iff]

theorem read?_eq (line : List Char) : Query.read? line = Query.ofWords? (tokens line) :=
  rfl

theorem ofWords?_of_not_known {words : List String} (unknown : ¬ Known words)
    (spoken : words ≠ []) : Query.ofWords? words = some .unknown := by
  unfold Query.ofWords?
  split
  · contradiction
  · exact absurd (.auth _ _) unknown
  · exact absurd (.acl _ _ _ _) unknown
  · exact absurd (.superuser _) unknown
  · exact absurd .reload unknown
  · rfl

theorem ofWords?_eq_reload_iff {words : List String} :
    Query.ofWords? words = some .reload ↔ words = ["reload"] := by
  constructor
  · intro asked
    unfold Query.ofWords? at asked
    split at asked
    case h_5 => rfl
    all_goals cases asked
  · rintro rfl
    rfl

/-! ## Answers -/

theorem error_append_ne_ok (message : String) : "error: " ++ message ≠ "ok" := by
  intro equal
  have equal_toList := congrArg String.toList equal
  rw [String.toList_append] at equal_toList
  cases equal_toList

/-- Unless the files are asked for, they do not matter for an answer. -/
theorem answer_eq_of_ne_reload {query : Query} (other : query ≠ .reload)
    (files files' : Files) : answer files backend query = answer files' backend query := by
  cases query with
  | reload => contradiction
  | _ => rfl

/-- What a reload does to the backend is what a hangup does, and no other question does
anything. -/
theorem fst_answer (files : Files) (backend : Backend) (query : Query) :
    (answer files backend query).1 =
      if query = .reload then hangup files backend else backend := by
  cases query with
  | acl username clientId topic access =>
      rw [if_neg (by simp), answer]
      split <;> rfl
  | reload =>
      rw [if_pos rfl, answer, hangup]
      split <;> rfl
  | _ => rfl

theorem answers_answer {words : List String} {query : Query}
    (bcrypt : backend.verifier = .bcrypt) (asked : Query.ofWords? words = some query) :
    Answers backend.config files backend.store words (answer files backend query).2 := by
  constructor
  case auth =>
    rintro username password rfl
    cases asked
    rw [answer, Backend.authenticates, bcrypt]
    rfl
  case acl =>
    rintro username clientId topic access level rfl known
    cases asked
    simp only [answer, known]
    rfl
  case unknown_access =>
    rintro username clientId topic access rfl unknown
    cases asked
    simp only [answer, unknown]
  case superuser =>
    rintro username rfl
    cases asked
    rfl
  case reload =>
    rintro rfl
    cases asked
    cases reloaded : backend.reload files with
    | ok next =>
        rcases Backend.reload_eq_ok_iff.mp reloaded with ⟨store, loaded, _⟩
        simp [answer, reloaded, loaded]
    | error error =>
        have failed := Backend.reload_eq_error_iff.mp reloaded
        simp [answer, reloaded, failed, error_append_ne_ok]
  case failed_reload =>
    rintro error rfl failed
    cases asked
    simp only [answer, Backend.reload_eq_error_iff.mpr failed]
  case unknown =>
    intro unknown
    have spoken : words ≠ [] := by
      rintro rfl
      contradiction
    rw [ofWords?_of_not_known unknown spoken] at asked
    cases asked
    rfl

/-! ## Lines -/

theorem answerLine_of_blank (blank : tokens line = []) :
    answerLine files backend line = (backend, none) := by
  have unasked : Query.read? line = none := Query.ofWords?_eq_none_iff.mpr blank
  simp only [answerLine, unasked]

theorem fst_answerLine (files : Files) (backend : Backend) (line : List Char) :
    (answerLine files backend line).1 =
      if tokens line = ["reload"] then hangup files backend else backend := by
  simp only [← ofWords?_eq_reload_iff, ← read?_eq]
  cases asked : Query.read? line with
  | none => simp [answerLine, asked]
  | some query => simp [answerLine, asked, fst_answer]

theorem answerLine_eq_of_ne_reload (other : tokens line ≠ ["reload"])
    (files files' : Files) :
    answerLine files backend line = answerLine files' backend line := by
  cases asked : Query.read? line with
  | none => simp only [answerLine, asked]
  | some query =>
      have query_ne : query ≠ .reload := by
        rintro rfl
        exact other (ofWords?_eq_reload_iff.mp asked)
      simp only [answerLine, asked, answer_eq_of_ne_reload query_ne files files']

/-- A line that is not blank has one answer. -/
theorem exists_answers_answerLine (files : Files)
    (bcrypt : backend.verifier = .bcrypt) (spoken : tokens line ≠ []) :
    ∃ reply, (answerLine files backend line).2 = some reply ∧
      Answers backend.config files backend.store (tokens line) reply := by
  cases asked : Query.read? line with
  | none => exact absurd (Query.ofWords?_eq_none_iff.mp asked) spoken
  | some query =>
      refine ⟨(answer files backend query).2, ?_, answers_answer bcrypt asked⟩
      simp only [answerLine, asked]

/-- The carriage return of a line's end asks nothing. -/
@[simp]
theorem answerLine_dropReturn (files : Files) (backend : Backend) (line : List Char) :
    answerLine files backend (Text.dropReturn '\r' line) = answerLine files backend line := by
  rw [answerLine, answerLine, Query.read?, Query.read?, Text.words_dropReturn]

end TopicGuard.Session
