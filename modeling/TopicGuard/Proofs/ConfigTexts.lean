import TopicGuard.Proofs.Json.Members

/-!
# Configurations as JSON texts

A configuration is read back from the text that it is written as, and from every layout of
an object that states its fields: their order, white space, the spelling of strings and
further members do not matter, and what holds initially may be left out.  An object that
gives a field twice is read as no configuration.
-/

namespace TopicGuard.Config

open Json (Value Piece Denotes LaidOut Token)

/-! ## The fields of a configuration -/

/-- A value is the string of a text. -/
def IsText (text : String) (value : Value) : Prop :=
  ∃ pieces, value = .text pieces ∧ Denotes pieces text.toList

/-- A value gives a path, or none. -/
def IsPath (path : Option String) (value : Value) : Prop :=
  match path with
  | none => value = .null
  | some text => IsText text value

/-- The fields for password hashes. -/
def hashFields (cost : UInt32) : List Field :=
  [⟨"cost", cost = 10, fun value => value = .number (some cost.toNat)⟩]

/-- The fields of a configuration. -/
def fields (config : Config) : List Field :=
  [⟨"password-path", config.passwordPath = none, IsPath config.passwordPath⟩,
    ⟨"acl-path", config.aclPath = none, IsPath config.aclPath⟩,
    ⟨"unknown-acl-user", config.unknownUser = .permissive, IsText config.unknownUser.name⟩,
    ⟨"subscribe-policy", config.subscribe = .strict, IsText config.subscribe.name⟩,
    ⟨"hash", config.hashCost = 10, fun value =>
      ∃ members, value = .object members ∧ States members (hashFields config.hashCost)⟩]

variable {config : Config} {members : List (List Piece × Value)}
  {named : List (String × Value)} {value : Value}

/-! ## Reading -/

theorem path?_of_isPath {path : Option String} (given : IsPath path value) :
    path? value = some path := by
  cases path with
  | none =>
      rw [IsPath] at given
      rw [given, path?]
  | some text =>
      obtain ⟨pieces, rfl, denotes⟩ := given
      rw [path?, Json.textOf?_of_denotes denotes, Option.map_some]

theorem choice?_of_isText {α : Type} {ofName? : List Char → Option α} {name : String}
    (given : IsText name value) : choice? ofName? value = ofName? name.toList := by
  obtain ⟨pieces, rfl, denotes⟩ := given
  rw [choice?, Json.textOf?_of_denotes denotes, Option.bind_some]

theorem cost?_of_number (cost : UInt32) : cost? (.number (some cost.toNat)) = some cost :=
  Text.word?_eq_some_iff.mpr rfl

theorem hashCost?_of_states {cost : UInt32} (stated : States members (hashFields cost)) :
    hashCost? (.object members) = some cost := by
  obtain ⟨named, given, further, named_as, order, gives, others⟩ := stated
  have found : member? named "cost" defaultHashCost cost? = some cost := by
    apply member?_of_gives gives order (by simp [hashFields]) others List.mem_cons_self
    · exact Eq.symm
    · rintro value rfl
      exact cost?_of_number cost
  rw [hashCost?, named?_of_namedAs named_as]
  exact found

/-- An object is read field by field. -/
theorem ofJson?_object_eq_some_iff (named_eq : named? members = some named) :
    ofJson? (.object members) = some config ↔
      member? named "password-path" initial.passwordPath path? = some config.passwordPath ∧
      member? named "acl-path" initial.aclPath path? = some config.aclPath ∧
      member? named "unknown-acl-user" initial.unknownUser
        (choice? Acl.UnknownUserPolicy.ofName?) = some config.unknownUser ∧
      member? named "subscribe-policy" initial.subscribe
        (choice? SubscribePolicy.ofName?) = some config.subscribe ∧
      member? named "hash" initial.hashCost hashCost? = some config.hashCost := by
  simp only [ofJson?, named_eq, Option.bind_eq_bind, Option.bind_some, Option.bind_eq_some_iff,
    Option.pure_def, Option.some.injEq]
  constructor
  · rintro ⟨_, password_eq, _, acl_eq, _, unknown_eq, _, subscribe_eq, _, hash_eq, rfl⟩
    exact ⟨password_eq, acl_eq, unknown_eq, subscribe_eq, hash_eq⟩
  · rintro ⟨password_eq, acl_eq, unknown_eq, subscribe_eq, hash_eq⟩
    exact ⟨_, password_eq, _, acl_eq, _, unknown_eq, _, subscribe_eq, _, hash_eq, rfl⟩

/-- An object that states the fields of a configuration is read as the configuration. -/
theorem ofJson?_of_states (stated : States members config.fields) :
    ofJson? (.object members) = some config := by
  obtain ⟨named, given, further, named_as, order, gives, others⟩ := stated
  have distinct : (config.fields.map Field.name).Nodup := by
    simp [fields]
  have found : ∀ {field : Field}, field ∈ config.fields →
      ∀ {α : Type} {initial result : α} {read : Value → Option α},
        (field.isInitial → initial = result) →
        (∀ value, field.isGivenBy value → read value = some result) →
        member? named field.name initial read = some result :=
    fun known _ _ _ _ => member?_of_gives gives order distinct others known
  rw [ofJson?_object_eq_some_iff (named?_of_namedAs named_as)]
  refine ⟨?_, ?_, ?_, ?_, ?_⟩
  · exact found (.head _) Eq.symm fun _ => path?_of_isPath
  · exact found (.tail _ (.head _)) Eq.symm fun _ => path?_of_isPath
  · apply found (.tail _ (.tail _ (.head _))) Eq.symm
    intro value given
    rw [choice?_of_isText given]
    cases config.unknownUser <;> rfl
  · apply found (.tail _ (.tail _ (.tail _ (.head _)))) Eq.symm
    intro value given
    rw [choice?_of_isText given]
    cases config.subscribe <;> rfl
  · apply found (.tail _ (.tail _ (.tail _ (.tail _ (.head _))))) Eq.symm
    rintro value ⟨hashMembers, rfl, hash_stated⟩
    exact hashCost?_of_states hash_stated

/-! ## Fields that are given twice -/

/-- An object that gives a field twice is read as no configuration. -/
theorem ofJson?_of_givenTwice (named_as : NamedAs members named) {field : Field}
    (known : field ∈ config.fields) (twice : GivenTwice field.name named) :
    ofJson? (.object members) = none := by
  rw [Option.eq_none_iff_forall_ne_some]
  intro other read_eq
  rw [ofJson?_object_eq_some_iff (named?_of_namedAs named_as)] at read_eq
  obtain ⟨password_eq, acl_eq, unknown_eq, subscribe_eq, hash_eq⟩ := read_eq
  have unread : ∀ {α : Type} {initial result : α} {read : Value → Option α},
      member? named field.name initial read ≠ some result := by
    intro α initial result read
    rw [member?_of_givenTwice twice]
    exact (Option.some_ne_none result).symm
  simp only [fields, List.mem_cons, List.not_mem_nil, or_false] at known
  rcases known with rfl | rfl | rfl | rfl | rfl
  · exact unread password_eq
  · exact unread acl_eq
  · exact unread unknown_eq
  · exact unread subscribe_eq
  · exact unread hash_eq

/-- So is one that gives the cost of password hashes twice. -/
theorem ofJson?_of_cost_givenTwice {hashMembers : List (List Piece × Value)}
    {hashNamed : List (String × Value)} (named_as : NamedAs members named)
    (found : ("hash", .object hashMembers) ∈ named) (hash_named_as : NamedAs hashMembers hashNamed)
    (twice : GivenTwice "cost" hashNamed) : ofJson? (.object members) = none := by
  have unread : hashCost? (.object hashMembers) = none := by
    rw [hashCost?, named?_of_namedAs hash_named_as]
    exact member?_of_givenTwice twice
  rw [Option.eq_none_iff_forall_ne_some]
  intro other read_eq
  rw [ofJson?_object_eq_some_iff (named?_of_namedAs named_as)] at read_eq
  have hash_read := read_of_member? read_eq.2.2.2.2 found
  rw [unread] at hash_read
  contradiction

/-! ## Writing -/

/-- The string of a text, as it is written. -/
def writtenText (text : String) : Value :=
  .text (text.toList.map Json.writtenPiece)

/-- A path, as it is written. -/
def writtenPath : Option String → Value
  | none => .null
  | some path => writtenText path

/-- A member, as it is written. -/
def writtenMember (member : String × Value) : List Piece × Value :=
  (member.1.toList.map Json.writtenPiece, member.2)

/-- The members for password hashes, as they are written. -/
def hashMembers (cost : UInt32) : List (String × Value) :=
  [("cost", .number (some cost.toNat))]

/-- The members of a configuration, as they are written. -/
def allMembers (config : Config) : List (String × Value) :=
  [("password-path", writtenPath config.passwordPath), ("acl-path", writtenPath config.aclPath),
    ("unknown-acl-user", writtenText config.unknownUser.name),
    ("subscribe-policy", writtenText config.subscribe.name),
    ("hash", .object ((hashMembers config.hashCost).map writtenMember))]

theorem laidOut_stringText (text : String) :
    LaidOut [.text (text.toList.map Json.writtenPiece)] (Json.stringText text) :=
  .of_spelled (.text (Json.spelled_flatMap_escapedChar text.toList))

theorem laidOut_pathText (path : Option String) :
    LaidOut (writtenPath path).tokens (pathText path) := by
  cases path with
  | none => exact .of_spelled .null
  | some path => exact laidOut_stringText path

/-- A written object lays out its members if the values of the members are laid out. -/
theorem laidOut_objectText {members : List (String × Value)} {texts : List (String × List Char)}
    (laid : List.Forall₂ (fun member text => member.1 = text.1 ∧ LaidOut member.2.tokens text.2)
      members texts) :
    LaidOut (Value.object (members.map writtenMember)).tokens (Json.objectText texts) := by
  have inner : LaidOut (Json.memberTokens (members.map writtenMember))
      ([','].intercalate (texts.map fun member =>
        Json.stringText member.1 ++ ':' :: member.2)) := by
    induction laid with
    | nil => exact .nil (by simp)
    | @cons member text members texts same others ih =>
        rcases member with ⟨name, value⟩
        obtain ⟨rfl, value_laid⟩ := same
        have colon : LaidOut [.colon] [':'] := .of_spelled .colon
        have comma : LaidOut [.comma] [','] := .of_spelled .comma
        have first := (laidOut_stringText text.1).append (colon.append value_laid)
        cases others with
        | nil =>
            rw [List.map_singleton, List.map_singleton, List.intercalate_singleton]
            exact first
        | cons =>
            simp only [List.map_cons, List.intercalate_cons_cons]
            rw [List.append_assoc]
            exact first.append (comma.append ih)
  have opens : LaidOut [.openObject] ['\x7b'] := .of_spelled .openObject
  have closes : LaidOut [.closeObject] ['\x7d'] := .of_spelled .closeObject
  exact opens.append (inner.append closes)

/-- A configuration is written as an object with all its fields. -/
theorem laidOut_toJsonText (config : Config) :
    LaidOut (Value.object (config.allMembers.map writtenMember)).tokens
      config.toJsonText.toList := by
  have hash : LaidOut (Value.object ((hashMembers config.hashCost).map writtenMember)).tokens
      (Json.objectText [("cost", Text.numeral config.hashCost.toNat)]) :=
    laidOut_objectText (.cons ⟨rfl, .of_spelled (.whole _)⟩ .nil)
  rw [toJsonText, String.toList_ofList]
  apply laidOut_objectText
  exact .cons ⟨rfl, laidOut_pathText _⟩ (.cons ⟨rfl, laidOut_pathText _⟩
    (.cons ⟨rfl, laidOut_stringText _⟩ (.cons ⟨rfl, laidOut_stringText _⟩
      (.cons ⟨rfl, hash⟩ .nil))))

theorem namedAs_map_writtenMember (members : List (String × Value)) :
    NamedAs (members.map writtenMember) members := by
  rw [NamedAs, List.forall₂_map_left_iff, List.forall₂_same]
  exact fun member _ => ⟨Json.denotes_map_writtenPiece member.1.toList, rfl⟩

theorem isText_writtenText (text : String) : IsText text (writtenText text) :=
  ⟨_, rfl, Json.denotes_map_writtenPiece text.toList⟩

theorem isPath_writtenPath (path : Option String) : IsPath path (writtenPath path) := by
  cases path with
  | none => rfl
  | some path => exact isText_writtenText path

/-- Members that give some fields in their order state them. -/
theorem states_map_writtenMember {given : List (String × Value)} {fields : List Field}
    (gives : Gives fields given) :
    States (given.map writtenMember) fields :=
  ⟨given, given, [], namedAs_map_writtenMember given, by rw [List.append_nil], gives, by simp⟩

theorem states_allMembers (config : Config) :
    States (config.allMembers.map writtenMember) config.fields := by
  have hash : States ((hashMembers config.hashCost).map writtenMember)
      (hashFields config.hashCost) :=
    states_map_writtenMember (.given rfl .nil)
  apply states_map_writtenMember
  exact .given (isPath_writtenPath _) (.given (isPath_writtenPath _)
    (.given (isText_writtenText _) (.given (isText_writtenText _) (.given ⟨_, rfl, hash⟩ .nil))))

/-! ## Reading back -/

/-- An object that is laid out in a text is read from it. -/
theorem ofJsonText?_of_laidOut {text : String}
    (laid : LaidOut (Value.object members).tokens text.toList) :
    ofJsonText? text = ofJson? (.object members) := by
  rw [ofJsonText?, Json.ofText?_of_laidOut laid, Option.bind_some]

/-- Every configuration is read back from the text that it is written as, and from every
layout of an object that states its fields, in any order and among any further members,
those that hold initially given or left out.  No object is read that gives a field twice,
be it one of the configuration or the cost of password hashes. -/
theorem reads_back_in_any_layout (config : Config) :
    ofJsonText? config.toJsonText = some config ∧
    (∀ members text, States members config.fields →
      LaidOut (Value.object members).tokens text.toList → ofJsonText? text = some config) ∧
    ∀ members named text, NamedAs members named →
      LaidOut (Value.object members).tokens text.toList →
      ((∃ field ∈ config.fields, GivenTwice field.name named) ∨
        ∃ hashMembers hashNamed, ("hash", .object hashMembers) ∈ named ∧
          NamedAs hashMembers hashNamed ∧ GivenTwice "cost" hashNamed) →
      ofJsonText? text = none := by
  have of_states : ∀ members text, States members config.fields →
      LaidOut (Value.object members).tokens text.toList → ofJsonText? text = some config := by
    intro members text stated laid
    rw [ofJsonText?_of_laidOut laid, ofJson?_of_states stated]
  refine ⟨?_, of_states, ?_⟩
  · exact of_states _ _ (states_allMembers config) (laidOut_toJsonText config)
  · intro members named text named_as laid twice
    rw [ofJsonText?_of_laidOut laid]
    rcases twice with ⟨field, known, twice⟩ | ⟨_, _, found, hash_named_as, twice⟩
    · exact ofJson?_of_givenTwice named_as known twice
    · exact ofJson?_of_cost_givenTwice named_as found hash_named_as twice

/-- A path with escapes is read back behind a member that holds half of a pair, and an ACL
path that is given twice is not. -/
theorem reads_back_path_behind_further_member :
    ofJsonText?
        "\x7b \"x\":[\x7b\x7d,\n\"\\ud800\"],\"password-path\" :\"\\u00E9\\/\"\x7d" =
      some (Config.forFiles (some "é/") none) ∧
    ofJsonText? "\x7b\"acl-path\":null,\"acl-path\":\"a\"\x7d" = none := by
  constructor
  · have half : Json.Spelled [.unit 0xD800] ['\\', 'u', 'd', '8', '0', '0'] :=
      .cons (.unit (a := 13) (b := 8) (c := 0) (d := 0) ⟨by decide, .inl rfl⟩
        ⟨by decide, .inl rfl⟩ ⟨by decide, .inl rfl⟩ ⟨by decide, .inl rfl⟩) .nil
    have path : Json.Spelled [.unit 0xE9, .char '/']
        ['\\', 'u', '0', '0', 'E', '9', '\\', '/'] :=
      .cons (.unit (a := 0) (b := 0) (c := 14) (d := 9) ⟨by decide, .inl rfl⟩
        ⟨by decide, .inl rfl⟩ ⟨by decide, .inr rfl⟩ ⟨by decide, .inl rfl⟩)
        (.cons (.short (by decide)) .nil)
    have denotes : Denotes [.unit 0xE9, .char '/'] "é/".toList :=
      .unit 'é' (by decide) (.char '/' .nil)
    have none_between : ∀ c ∈ ([] : List Char), c ∈ Json.spaces := by simp
    have blank : ∀ c ∈ [' '], c ∈ Json.spaces := by simp [Json.spaces]
    have feed : ∀ c ∈ ['\n'], c ∈ Json.spaces := by simp [Json.spaces]
    have laid : LaidOut
        (Value.object ([("x", .list [.object [], .text [.unit 0xD800]]),
          ("password-path", .text [.unit 0xE9, .char '/'])].map writtenMember)).tokens
        (String.toList
          "\x7b \"x\":[\x7b\x7d,\n\"\\ud800\"],\"password-path\" :\"\\u00E9\\/\"\x7d") :=
      .cons none_between .openObject <|
      .cons blank (.text (Json.spelled_flatMap_escapedChar ['x'])) <|
      .cons none_between .colon <|
      .cons none_between .openList <|
      .cons none_between .openObject <|
      .cons none_between .closeObject <|
      .cons none_between .comma <|
      .cons feed (.text half) <|
      .cons none_between .closeList <|
      .cons none_between .comma <|
      .cons none_between (.text (Json.spelled_flatMap_escapedChar "password-path".toList)) <|
      .cons blank .colon <|
      .cons none_between (.text path) <|
      .cons none_between .closeObject (.nil none_between)
    have given : Gives (fields (Config.forFiles (some "é/") none))
        [("password-path", .text [.unit 0xE9, .char '/'])] :=
      .given ⟨_, rfl, denotes⟩
        (.leftOut rfl (.leftOut rfl (.leftOut rfl (.leftOut rfl .nil))))
    refine (reads_back_in_any_layout (Config.forFiles (some "é/") none)).2.1 _ _ ?_ laid
    exact ⟨_, _, [("x", .list [.object [], .text [.unit 0xD800]])],
      namedAs_map_writtenMember _, .swap _ _ _, given, by simp [fields]⟩
  · have laid := laidOut_objectText
      (.cons ⟨rfl, laidOut_pathText none⟩ (.cons ⟨rfl, laidOut_pathText (some "a")⟩ .nil) :
        List.Forall₂ (fun member text => member.1 = text.1 ∧ LaidOut member.2.tokens text.2)
          [("acl-path", writtenPath none), ("acl-path", writtenPath (some "a"))]
          [("acl-path", pathText none), ("acl-path", pathText (some "a"))])
    exact (reads_back_in_any_layout Config.initial).2.2 _ _ _ (namedAs_map_writtenMember _) laid
      (.inl ⟨_, .tail _ (.head _), _, _, [], .refl _⟩)

end TopicGuard.Config
