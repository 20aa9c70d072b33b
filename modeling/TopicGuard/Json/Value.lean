import TopicGuard.Json.Token

/-!
# JSON values

The tokens of a text are put together into one value.  The reader keeps the
lists and objects that are still open on a stack of its own, so a value may be
nested to any depth.  The order of an object's members is kept, and a name may
occur more than once: what that means is for the reader of the value to say.
-/

namespace TopicGuard.Json

/-- A JSON value. -/
inductive Value where
  | null
  | bool (value : Bool)
  /-- A number, with its value if it is written with digits alone. -/
  | number (value : Option Nat)
  | text (pieces : List Piece)
  | list (items : List Value)
  | object (members : List (List Piece × Value))
  deriving Repr

/-- A list or an object that is still open.  What it holds so far is kept in
reverse. -/
inductive Frame where
  | list (items : List Value)
  /-- An object with the name of the member that is being read. -/
  | object (members : List (List Piece × Value)) (name : List Piece)
  deriving Repr

/-- What has been read so far. -/
inductive Progress where
  /-- A value has to come. -/
  | value
  /-- A value or the end of a new list has to come. -/
  | firstItem
  /-- A name or the end of a new object has to come. -/
  | firstName
  /-- The name of a further member has to come. -/
  | name (members : List (List Piece × Value))
  /-- The colon after a name has to come. -/
  | colon (members : List (List Piece × Value)) (name : List Piece)
  /-- A value has just been read. -/
  | done (value : Value)
  deriving Repr

/-- The value of a token that is a value by itself. -/
def scalar? : Token → Option Value
  | .text pieces => some (.text pieces)
  | .number value => some (.number value)
  | .bool value => some (.bool value)
  | .null => some .null
  | _ => none

/-- Read the first token of a value. -/
def beginValue (stack : List Frame) (token : Token) : Option (List Frame × Progress) :=
  match token with
  | .openList => some (stack, .firstItem)
  | .openObject => some (stack, .firstName)
  | token => (scalar? token).map fun value => (stack, .done value)

/-- Read one token. -/
def read (stack : List Frame) (progress : Progress) (token : Token) :
    Option (List Frame × Progress) :=
  match progress, token with
  | .value, token => beginValue stack token
  | .firstItem, .closeList => some (stack, .done (.list []))
  | .firstItem, token => beginValue (.list [] :: stack) token
  | .firstName, .closeObject => some (stack, .done (.object []))
  | .firstName, .text name => some (stack, .colon [] name)
  | .name members, .text name => some (stack, .colon members name)
  | .colon members name, .colon => some (.object members name :: stack, .value)
  | .done value, token =>
      match stack, token with
      | .list items :: stack, .comma => some (.list (value :: items) :: stack, .value)
      | .list items :: stack, .closeList =>
          some (stack, .done (.list (value :: items).reverse))
      | .object members name :: stack, .comma =>
          some (stack, .name ((name, value) :: members))
      | .object members name :: stack, .closeObject =>
          some (stack, .done (.object ((name, value) :: members).reverse))
      | _, _ => none
  | _, _ => none

/-- Read some tokens. -/
def readFrom (stack : List Frame) (progress : Progress) : List Token → Option Value
  | [] =>
      match stack, progress with
      | [], .done value => some value
      | _, _ => none
  | token :: rest =>
      match read stack progress token with
      | none => none
      | some (stack, progress) => readFrom stack progress rest

/-- The value of some tokens, if they are the tokens of one value. -/
def ofTokens? (tokens : List Token) : Option Value :=
  readFrom [] .value tokens

/-- The value of a text, if it is a JSON text. -/
def ofText? (text : String) : Option Value :=
  (scan? text.toList).bind ofTokens?

end TopicGuard.Json
