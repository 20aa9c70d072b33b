import TopicGuard.Json.Value
import TopicGuard.Proofs.Json.Layouts

/-!
# Values and their tokens

A value has one sequence of tokens.  Reading these tokens, whatever is open around them,
brings the value and nothing else, however deep it is nested; so every layout of a value is
read as that value.
-/

namespace TopicGuard.Json

mutual

/-- The tokens of a value. -/
def Value.tokens : Value → List Token
  | .null => [.null]
  | .bool value => [.bool value]
  | .number value => [.number value]
  | .text pieces => [.text pieces]
  | .list items => .openList :: (itemTokens items ++ [.closeList])
  | .object members => .openObject :: (memberTokens members ++ [.closeObject])

/-- The tokens of the items of a list, with commas between them. -/
def itemTokens : List Value → List Token
  | [] => []
  | [item] => item.tokens
  | item :: next :: rest => item.tokens ++ .comma :: itemTokens (next :: rest)

/-- The tokens of the members of an object, with commas between them. -/
def memberTokens : List (List Piece × Value) → List Token
  | [] => []
  | [(name, value)] => .text name :: .colon :: value.tokens
  | (name, value) :: next :: rest =>
      .text name :: .colon :: (value.tokens ++ .comma :: memberTokens (next :: rest))

end

/-- What holds of the values that hold no others, and of a list and an object if it holds of
every value in it, holds of every value. -/
@[elab_as_elim]
theorem Value.nested_induction {motive : Value → Prop} (null : motive .null)
    (bool : ∀ value, motive (.bool value)) (number : ∀ value, motive (.number value))
    (text : ∀ pieces, motive (.text pieces))
    (list : ∀ items, (∀ item ∈ items, motive item) → motive (.list items))
    (object : ∀ members, (∀ member ∈ members, motive member.2) → motive (.object members))
    (value : Value) : motive value :=
  match value with
  | .null => null
  | .bool value => bool value
  | .number value => number value
  | .text pieces => text pieces
  | .list items => list items fun item _ =>
      nested_induction null bool number text list object item
  | .object members => object members fun member _ =>
      nested_induction null bool number text list object member.2
termination_by sizeOf value
decreasing_by
  · have smaller := List.sizeOf_lt_of_mem ‹item ∈ items›
    simp only [Value.list.sizeOf_spec]
    omega
  · have smaller := List.sizeOf_lt_of_mem ‹member ∈ members›
    rcases member with ⟨name, value⟩
    simp only [Value.object.sizeOf_spec, Prod.mk.sizeOf_spec] at smaller ⊢
    omega

/-! ## Reading -/

/-- Wherever a value may stand, the tokens of this one bring it. -/
def Value.Reads (value : Value) : Prop :=
  ∀ stack more, readFrom stack .value (value.tokens ++ more) = readFrom stack (.done value) more

variable {stack next : List Frame} {progress on : Progress} {token : Token}

theorem readFrom_cons (read_eq : read stack progress token = some (next, on))
    (rest : List Token) : readFrom stack progress (token :: rest) = readFrom next on rest := by
  simp only [readFrom, read_eq]

/-- The items of a list are read up to the end of the list. -/
theorem readFrom_items {items : List Value} (nonempty : items ≠ [])
    (reads : ∀ item ∈ items, item.Reads) (done : List Value) (stack : List Frame)
    (more : List Token) :
    readFrom (.list done :: stack) .value (itemTokens items ++ .closeList :: more) =
      readFrom stack (.done (.list (done.reverse ++ items))) more := by
  -- What is read so far is kept in reverse, so the induction is about any items before.
  induction items generalizing done with
  | nil => contradiction
  | cons item rest ih =>
      have first := reads item List.mem_cons_self (.list done :: stack)
      cases rest with
      | nil => rw [itemTokens, first, readFrom_cons rfl, List.reverse_cons]
      | cons next rest =>
          have others := ih (by simp)
            (fun other member => reads other (List.mem_cons_of_mem item member)) (item :: done)
          rw [itemTokens, List.append_assoc, first, List.cons_append, readFrom_cons rfl, others,
            List.reverse_cons, List.append_assoc]
          rfl

/-- The members of an object are read up to the end of the object. -/
theorem readFrom_members {members : List (List Piece × Value)} (nonempty : members ≠ [])
    (reads : ∀ member ∈ members, member.2.Reads) (done : List (List Piece × Value))
    (stack : List Frame) (more : List Token) :
    readFrom stack (.name done) (memberTokens members ++ .closeObject :: more) =
      readFrom stack (.done (.object (done.reverse ++ members))) more := by
  induction members generalizing done with
  | nil => contradiction
  | cons member rest ih =>
      rcases member with ⟨name, value⟩
      have first := reads (name, value) List.mem_cons_self (.object done name :: stack)
      cases rest with
      | nil =>
          rw [memberTokens, List.cons_append, readFrom_cons rfl, List.cons_append,
            readFrom_cons rfl, first, readFrom_cons rfl, List.reverse_cons]
      | cons next rest =>
          have others := ih (by simp)
            (fun other member => reads other (List.mem_cons_of_mem _ member))
            ((name, value) :: done)
          rw [memberTokens, List.cons_append, readFrom_cons rfl, List.cons_append,
            readFrom_cons rfl, List.append_assoc, first, List.cons_append, readFrom_cons rfl,
            others, List.reverse_cons, List.append_assoc]
          rfl

theorem exists_itemTokens_cons (item : Value) (rest : List Value) :
    ∃ others, itemTokens (item :: rest) = item.tokens ++ others := by
  cases rest with
  | nil => exact ⟨[], (List.append_nil _).symm⟩
  | cons next rest => exact ⟨_, rfl⟩

/-- No value begins with the end of a list, so the first item of a list is read as any
other. -/
theorem readFrom_firstItem {items : List Value} (nonempty : items ≠ []) (stack : List Frame)
    (more : List Token) :
    readFrom stack .firstItem (itemTokens items ++ more) =
      readFrom (.list [] :: stack) .value (itemTokens items ++ more) := by
  obtain ⟨item, rest, rfl⟩ := List.exists_cons_of_ne_nil nonempty
  obtain ⟨others, tokens_eq⟩ := exists_itemTokens_cons item rest
  rw [tokens_eq]
  cases item <;> rfl

theorem readFrom_firstName {members : List (List Piece × Value)} (nonempty : members ≠ [])
    (stack : List Frame) (more : List Token) :
    readFrom stack .firstName (memberTokens members ++ more) =
      readFrom stack (.name []) (memberTokens members ++ more) := by
  obtain ⟨member, rest, rfl⟩ := List.exists_cons_of_ne_nil nonempty
  cases rest <;> rfl

/-- The tokens of a value are read as this value. -/
theorem Value.reads (value : Value) : value.Reads := by
  induction value using Value.nested_induction with
  | null | bool value | number value | text pieces =>
      intro stack more
      exact readFrom_cons rfl more
  | list items ih =>
      intro stack more
      rw [Value.tokens, List.cons_append, readFrom_cons rfl, List.append_assoc]
      by_cases empty : items = []
      · rw [empty]
        exact readFrom_cons rfl more
      · rw [readFrom_firstItem empty]
        exact readFrom_items empty ih [] stack more
  | object members ih =>
      intro stack more
      rw [Value.tokens, List.cons_append, readFrom_cons rfl, List.append_assoc]
      by_cases empty : members = []
      · rw [empty]
        exact readFrom_cons rfl more
      · rw [readFrom_firstName empty]
        exact readFrom_members empty ih [] stack more

/-! ## Layouts -/

namespace KeptApart

variable {first second : List Token} {mark : Token}

theorem cons (not_bare : mark.isBare = false) (back : KeptApart second) :
    KeptApart (mark :: second) := by
  apply List.IsChain.cons back
  intro next _ bare
  rw [not_bare] at bare
  contradiction

/-- A mark keeps what is before it apart from what follows. -/
theorem append (not_bare : mark.isBare = false) (front : KeptApart first)
    (back : KeptApart second) : KeptApart (first ++ mark :: second) := by
  apply List.IsChain.append front (cons not_bare back)
  intro last _ next next_eq _
  rw [← Option.some.inj next_eq]
  exact not_bare

end KeptApart

theorem keptApart_itemTokens {items : List Value}
    (apart : ∀ item ∈ items, KeptApart item.tokens) : KeptApart (itemTokens items) := by
  induction items with
  | nil => exact .nil
  | cons item rest ih =>
      have first := apart item List.mem_cons_self
      cases rest with
      | nil => exact first
      | cons next rest =>
          exact first.append rfl (ih fun other member =>
            apart other (List.mem_cons_of_mem item member))

theorem keptApart_memberTokens {members : List (List Piece × Value)}
    (apart : ∀ member ∈ members, KeptApart member.2.tokens) :
    KeptApart (memberTokens members) := by
  induction members with
  | nil => exact .nil
  | cons member rest ih =>
      rcases member with ⟨name, value⟩
      have first : KeptApart value.tokens := apart (name, value) List.mem_cons_self
      cases rest with
      | nil => exact .cons rfl (.cons rfl first)
      | cons next rest =>
          exact .cons rfl (.cons rfl (first.append rfl (ih fun other member =>
            apart other (List.mem_cons_of_mem _ member))))

/-- In the tokens of a value no number or word meets another one. -/
theorem keptApart_tokens (value : Value) : KeptApart value.tokens := by
  induction value using Value.nested_induction with
  | null | bool value | number value | text pieces => exact .singleton _
  | list items ih => exact .cons rfl ((keptApart_itemTokens ih).append rfl .nil)
  | object members ih => exact .cons rfl ((keptApart_memberTokens ih).append rfl .nil)

/-- Every layout of a value is read as that value. -/
theorem ofText?_of_laidOut {value : Value} {text : String}
    (laid : LaidOut value.tokens text.toList) : ofText? text = some value := by
  rw [ofText?, scan?_of_laidOut laid (keptApart_tokens value), Option.bind_some, ofTokens?,
    ← List.append_nil value.tokens, value.reads]
  rfl

end TopicGuard.Json
