import TopicGuard.Access

/-!
# Rules and their placeholders

A rule grants a level of access to the topics that its pattern matches.  In the
pattern of a shared rule `%c` stands for the client id and `%u` for the user
name of a request.  Both are replaced in one pass from left to right, so an
inserted value is never scanned again.  A value that holds a wildcard is never
inserted: such a rule has no pattern for that request.
-/

namespace TopicGuard

/-- A rule for topics. -/
structure Rule where
  /-- The filter for topics, possibly with placeholders. -/
  pattern : String
  /-- The access that the rule grants. -/
  access : Access
  deriving Repr, DecidableEq

namespace Rule

/-- Whether a pattern holds a placeholder. -/
def hasPlaceholder : List Char → Bool
  | '%' :: 'c' :: _ => true
  | '%' :: 'u' :: _ => true
  | _ :: rest => hasPlaceholder rest
  | [] => false

/-- Whether a value holds a character that a filter may use as a wildcard. -/
def hasWildcard (value : List Char) : Bool :=
  value.any (fun c => c == '+' || c == '#')

/-- A pattern with its placeholders replaced, unless a value that it asks for
holds a wildcard. -/
def fill (clientId username : List Char) : List Char → Option (List Char)
  | '%' :: 'c' :: rest =>
      if hasWildcard clientId then none
      else (fill clientId username rest).map (clientId ++ ·)
  | '%' :: 'u' :: rest =>
      if hasWildcard username then none
      else (fill clientId username rest).map (username ++ ·)
  | c :: rest => (fill clientId username rest).map (c :: ·)
  | [] => some []

/-- Whether a rule's pattern holds a placeholder. -/
def isTemplate (rule : Rule) : Bool :=
  hasPlaceholder rule.pattern.toList

/-- The pattern of a rule for one client and user.  A pattern without
placeholders is used as it is. -/
def patternFor? (rule : Rule) (clientId username : String) : Option String :=
  if rule.isTemplate then
    (fill clientId.toList username.toList rule.pattern.toList).map String.ofList
  else some rule.pattern

@[simp]
theorem fill_nil (clientId username : List Char) : fill clientId username [] = some [] :=
  rfl

@[simp]
theorem fill_client (clientId username rest : List Char) :
    fill clientId username ('%' :: 'c' :: rest) =
      if hasWildcard clientId then none
      else (fill clientId username rest).map (clientId ++ ·) := by
  simp [fill]

@[simp]
theorem fill_user (clientId username rest : List Char) :
    fill clientId username ('%' :: 'u' :: rest) =
      if hasWildcard username then none
      else (fill clientId username rest).map (username ++ ·) := by
  simp [fill]

/-- Nothing changes in a pattern without placeholders. -/
theorem fill_of_not_hasPlaceholder (clientId username : List Char) {pattern : List Char}
    (plain : hasPlaceholder pattern = false) :
    fill clientId username pattern = some pattern := by
  fun_induction hasPlaceholder pattern with
  | case1 => simp at plain
  | case2 => simp at plain
  | case3 c rest no_client no_user ih =>
      rw [fill]
      · simp [ih plain]
      · exact no_client
      · exact no_user
  | case4 => rfl

end Rule

end TopicGuard
