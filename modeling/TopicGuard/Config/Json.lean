import TopicGuard.Config
import TopicGuard.Json.Value
import TopicGuard.Json.Write
import TopicGuard.Text.Numeral

/-!
# Configuration from JSON

A configuration is written as a JSON object with one member for each setting, or
as a list of the settings in a fixed order.  Settings may be left out, the last
ones only in a list, and then they keep their initial values.  An object may have
members that are no settings, whatever their values, but it gives each setting
once at most.  The text of a configuration is an object with all settings.
-/

namespace TopicGuard.Config

open TopicGuard.Json (Value Piece)

/-- The members of an object, if all their names are texts. -/
def named? (members : List (List Piece × Value)) : Option (List (String × Value)) :=
  members.mapM fun member => (Json.textOf? member.1).map (·, member.2)

/-- The setting that a member gives, which must not be given twice. -/
def member? {α : Type} (members : List (String × Value)) (name : String) (initial : α)
    (read : Value → Option α) : Option α :=
  match members.filter (fun member => member.1 == name) with
  | [] => some initial
  | [member] => read member.2
  | _ => none

/-- The setting that an item of a list gives. -/
def item? {α : Type} (items : List Value) (index : Nat) (initial : α)
    (read : Value → Option α) : Option α :=
  match items[index]? with
  | none => some initial
  | some value => read value

/-- The path that a value gives; `null` gives none. -/
def path? : Value → Option (Option String)
  | .null => some none
  | .text pieces => (Json.textOf? pieces).map some
  | _ => none

/-- The choice that a value names, alone or as the one member of an object. -/
def choice? {α : Type} (ofName? : List Char → Option α) : Value → Option α
  | .text pieces => (Json.textOf? pieces).bind fun name => ofName? name.toList
  | .object [(pieces, .null)] =>
      (Json.textOf? pieces).bind fun name => ofName? name.toList
  | _ => none

/-- The cost that a number gives. -/
def cost? : Value → Option UInt32
  | .number (some value) => Text.word? value
  | _ => none

/-- The cost of password hashes, which stands in a place of its own. -/
def hashCost? : Value → Option UInt32
  | .object members => do
      let members ← named? members
      member? members "cost" defaultHashCost cost?
  | .list items => do
      guard (items.length ≤ 1)
      item? items 0 defaultHashCost cost?
  | _ => none

/-- The configuration that a JSON value gives. -/
def ofJson? : Value → Option Config
  | .object members => do
      let members ← named? members
      let passwordPath ← member? members "password-path" initial.passwordPath path?
      let aclPath ← member? members "acl-path" initial.aclPath path?
      let unknownUser ← member? members "unknown-acl-user" initial.unknownUser
        (choice? Acl.UnknownUserPolicy.ofName?)
      let subscribe ← member? members "subscribe-policy" initial.subscribe
        (choice? SubscribePolicy.ofName?)
      let hashCost ← member? members "hash" initial.hashCost hashCost?
      pure ⟨passwordPath, aclPath, unknownUser, subscribe, hashCost⟩
  | .list items => do
      guard (items.length ≤ 5)
      let passwordPath ← item? items 0 initial.passwordPath path?
      let aclPath ← item? items 1 initial.aclPath path?
      let unknownUser ← item? items 2 initial.unknownUser
        (choice? Acl.UnknownUserPolicy.ofName?)
      let subscribe ← item? items 3 initial.subscribe (choice? SubscribePolicy.ofName?)
      let hashCost ← item? items 4 initial.hashCost hashCost?
      pure ⟨passwordPath, aclPath, unknownUser, subscribe, hashCost⟩
  | _ => none

/-- The configuration that a JSON text gives. -/
def ofJsonText? (text : String) : Option Config :=
  (Json.ofText? text).bind ofJson?

/-! ## Writing -/

/-- The text of a path. -/
def pathText : Option String → List Char
  | none => "null".toList
  | some path => Json.stringText path

/-- The JSON text of a configuration, which gives every setting. -/
def toJsonText (config : Config) : String :=
  String.ofList <| Json.objectText
    [("password-path", pathText config.passwordPath), ("acl-path", pathText config.aclPath),
      ("unknown-acl-user", Json.stringText config.unknownUser.name),
      ("subscribe-policy", Json.stringText config.subscribe.name),
      ("hash", Json.objectText [("cost", Text.numeral config.hashCost.toNat)])]

end TopicGuard.Config
