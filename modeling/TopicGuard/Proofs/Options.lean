import TopicGuard.Config.Options
import TopicGuard.Proofs.Numerals
import TopicGuard.Proofs.Words

/-!
# What options ask for

Reading options has three kinds of outcome, and each is said here of the options alone.  The
three settings that are not paths are read in a fixed order; an option that states none of
the values of its setting is reported, unless an earlier one is; and a missing password file
is reported only if all three can be read.  Then every setting is what its option states, or
what it is without one.  So a configuration that is written as options is read back, however
many blanks stand around its values.
-/

namespace TopicGuard

/-! ## The values of settings -/

/-- A choice between two values by their names finds the value that has the name. -/
theorem choice_eq_some_iff {α : Type} (name : α → String) (first second : α)
    (only : ∀ value, value = first ∨ value = second) (differ : name second ≠ name first)
    {text : List Char} {value : α} :
    (if text = (name first).toList then some first
      else if text = (name second).toList then some second else none) = some value ↔
      text = (name value).toList := by
  constructor
  · intro chosen
    split at chosen
    · cases chosen
      assumption
    · split at chosen
      · cases chosen
        assumption
      · contradiction
  · rintro rfl
    rcases only value with rfl | rfl
    · rw [if_pos rfl]
    · rw [if_neg (fun same => differ (String.toList_inj.mp same)), if_pos rfl]

theorem Acl.UnknownUserPolicy.ofName?_eq_some_iff {text : List Char}
    {policy : Acl.UnknownUserPolicy} :
    ofName? text = some policy ↔ text = policy.name.toList :=
  choice_eq_some_iff name .permissive .strict (by rintro (_ | _) <;> simp) (by decide)

theorem SubscribePolicy.ofName?_eq_some_iff {text : List Char} {policy : SubscribePolicy} :
    ofName? text = some policy ↔ text = policy.name.toList :=
  choice_eq_some_iff name .strict .permissive (by rintro (_ | _) <;> simp) (by decide)

namespace Config

/-- A setting that an option's value has to be read for. -/
inductive Setting where
  | unknownUser
  | subscribe
  | hashCost
  deriving Repr, DecidableEq

namespace Setting

/-- The name of the option for a setting. -/
def key : Setting → String
  | .unknownUser => "files_unknown_acl_user"
  | .subscribe => "files_subscribe_policy"
  | .hashCost => "files_hash_cost"

/-- The settings that are read before a setting. -/
def earlier : Setting → List Setting
  | .unknownUser => []
  | .subscribe => [.unknownUser]
  | .hashCost => [.unknownUser, .subscribe]

/-- What a setting is a choice of. -/
abbrev Value : Setting → Type
  | .unknownUser => Acl.UnknownUserPolicy
  | .subscribe => SubscribePolicy
  | .hashCost => UInt32

/-- The value of a setting in a configuration. -/
def value : (setting : Setting) → Config → setting.Value
  | .unknownUser, config => config.unknownUser
  | .subscribe, config => config.subscribe
  | .hashCost, config => config.hashCost

/-- The value of a setting without an option for it. -/
def initial : (setting : Setting) → setting.Value
  | .unknownUser => .permissive
  | .subscribe => .strict
  | .hashCost => 10

/-- How the value of a setting is read. -/
def read? : (setting : Setting) → List Char → Option setting.Value
  | .unknownUser => Acl.UnknownUserPolicy.ofName?
  | .subscribe => SubscribePolicy.ofName?
  | .hashCost => Text.unsignedWord?

/-- A text states a value of a setting: a policy by its name, and a cost by its digits
behind any number of zeros and a plus sign or none. -/
def States : (setting : Setting) → List Char → setting.Value → Prop
  | .unknownUser, text, policy => text = policy.name.toList
  | .subscribe, text, policy => text = policy.name.toList
  | .hashCost, text, cost => ∃ zeros, text = Text.paddedNumeral zeros cost.toNat ∨
      text = '+' :: Text.paddedNumeral zeros cost.toNat

/-- A setting has this value by the options: its option states the value, blanks at the
ends aside, or there is none and the value is the initial one. -/
def Given (setting : Setting) (options : NameMap String) (value : setting.Value) : Prop :=
  match options.get? setting.key with
  | none => value = setting.initial
  | some text => setting.States (Text.trim text.toList) value

/-- The option for a setting cannot be understood, and those for the settings before it can. -/
structure FirstIllegible (setting : Setting) (options : NameMap String) (text : String) :
    Prop where
  found : options.get? setting.key = some text
  illegible : ∀ value, ¬ setting.States (Text.trim text.toList) value
  earlier : ∀ other ∈ setting.earlier, ∃ value, other.Given options value

variable {setting : Setting} {options : NameMap String}

theorem read?_eq_some_iff {text : List Char} {value : setting.Value} :
    setting.read? text = some value ↔ setting.States text value := by
  cases setting with
  | unknownUser => exact Acl.UnknownUserPolicy.ofName?_eq_some_iff
  | subscribe => exact SubscribePolicy.ofName?_eq_some_iff
  | hashCost => exact Text.unsignedWord?_eq_some_iff

/-- The value of a setting that options ask for. -/
def outcome (setting : Setting) (options : NameMap String) : Except OptionError setting.Value :=
  Config.setting options setting.key setting.initial setting.read?

theorem outcome_eq_ok_iff {value : setting.Value} :
    setting.outcome options = .ok value ↔ setting.Given options value := by
  rw [outcome, Config.setting, Given]
  cases options.get? setting.key with
  | none => simp [eq_comm]
  | some text =>
      simp only [← read?_eq_some_iff]
      cases setting.read? (Text.trim text.toList) <;> simp

theorem outcome_eq_error_iff {error : OptionError} :
    setting.outcome options = .error error ↔
      ∃ text, options.get? setting.key = some text ∧
        (∀ value, ¬ setting.States (Text.trim text.toList) value) ∧
        error = .invalidValue setting.key text := by
  rw [outcome, Config.setting]
  cases options.get? setting.key with
  | none => simp
  | some text =>
      simp only [← read?_eq_some_iff, ← ne_eq, ← Option.eq_none_iff_forall_ne_some]
      cases read : setting.read? (Text.trim text.toList) <;> simp [read, eq_comm]

/-- Options give a setting one value at most. -/
theorem Given.unique {first second : setting.Value} (left : setting.Given options first)
    (right : setting.Given options second) : first = second := by
  rw [← outcome_eq_ok_iff] at left right
  exact Except.ok.inj (left.symm.trans right)

theorem FirstIllegible.not_given {text : String} (bad : setting.FirstIllegible options text)
    (value : setting.Value) : ¬ setting.Given options value := by
  rw [Given, bad.found]
  exact bad.illegible value

/-- Of two settings one is read before the other. -/
theorem eq_or_mem_earlier (first second : Setting) :
    first = second ∨ first ∈ second.earlier ∨ second ∈ first.earlier := by
  cases first <;> cases second <;> simp [earlier]

/-- There is one first option that cannot be understood at most. -/
theorem FirstIllegible.unique {other : Setting} {text otherText : String}
    (bad : setting.FirstIllegible options text)
    (otherBad : other.FirstIllegible options otherText) : setting = other ∧ text = otherText := by
  rcases eq_or_mem_earlier setting other with rfl | before | before
  · exact ⟨rfl, Option.some.inj (bad.found.symm.trans otherBad.found)⟩
  · obtain ⟨value, given⟩ := otherBad.earlier setting before
    exact absurd given (bad.not_given value)
  · obtain ⟨value, given⟩ := bad.earlier other before
    exact absurd given (otherBad.not_given value)

end Setting

/-! ## The outcome of reading options -/

/-- The options that are settings. -/
def optionKeys : List String :=
  ["password_path", "acl_path", "files_unknown_acl_user", "files_subscribe_policy",
    "files_hash_cost"]

/-- A configuration holds the paths that options give and the value of every setting. -/
structure Collects (options : NameMap String) (config : Config) : Prop where
  passwordPath : config.passwordPath = options.get? "password_path"
  aclPath : config.aclPath = options.get? "acl_path"
  given : ∀ setting : Setting, setting.Given options (setting.value config)

variable {options : NameMap String} {config : Config}

theorem isComplete_iff :
    config.isComplete = true ↔ config.passwordPath ≠ none ∧ config.passwordPath ≠ some "" := by
  rw [isComplete, passwordFile?]
  cases config.passwordPath <;> simp

/-- A configuration is collected from options in one way only. -/
theorem Collects.unique {other : Config} (collected : Collects options config)
    (otherCollected : Collects options other) : config = other := by
  have same : ∀ setting : Setting, setting.value config = setting.value other := fun setting =>
    (collected.given setting).unique (otherCollected.given setting)
  rcases config with ⟨passwordPath, aclPath, unknownUser, subscribe, hashCost⟩
  rcases other with ⟨otherPasswordPath, otherAclPath, otherUnknown, otherSubscribe, otherCost⟩
  rw [mk.injEq]
  exact ⟨collected.passwordPath.trans otherCollected.passwordPath.symm,
    collected.aclPath.trans otherCollected.aclPath.symm,
    same .unknownUser, same .subscribe, same .hashCost⟩

theorem Collects.not_firstIllegible {setting : Setting} {text : String}
    (collected : Collects options config) : ¬ setting.FirstIllegible options text :=
  fun bad => bad.not_given _ (collected.given setting)

/-- Options either have a first one that cannot be understood, which is reported, or a
configuration is collected from them, which lacks at most the password file. -/
theorem ofOptions_cases (options : NameMap String) :
    (∃ setting text, Setting.FirstIllegible setting options text ∧
      ofOptions options = .error (.invalidValue setting.key text)) ∨
    ∃ config, Collects options config ∧
      ofOptions options =
        if config.isComplete then .ok config else .error .missingPasswordPath := by
  have ofOptions_eq : ofOptions options = (do
      let unknownUser ← Setting.unknownUser.outcome options
      let subscribe ← Setting.subscribe.outcome options
      let hashCost ← Setting.hashCost.outcome options
      let config : Config :=
        ⟨options.get? "password_path", options.get? "acl_path", unknownUser, subscribe, hashCost⟩
      if config.isComplete then .ok config else .error .missingPasswordPath) := rfl
  cases unknown_eq : Setting.unknownUser.outcome options with
  | error error =>
      obtain ⟨text, found, illegible, rfl⟩ := Setting.outcome_eq_error_iff.mp unknown_eq
      refine .inl ⟨.unknownUser, text, ⟨found, illegible, ?_⟩, ?_⟩
      · simp [Setting.earlier]
      · rw [ofOptions_eq, unknown_eq]
        rfl
  | ok unknownUser =>
      have unknown_given := Setting.outcome_eq_ok_iff.mp unknown_eq
      cases subscribe_eq : Setting.subscribe.outcome options with
      | error error =>
          obtain ⟨text, found, illegible, rfl⟩ := Setting.outcome_eq_error_iff.mp subscribe_eq
          refine .inl ⟨.subscribe, text, ⟨found, illegible, ?_⟩, ?_⟩
          · simpa [Setting.earlier] using ⟨unknownUser, unknown_given⟩
          · rw [ofOptions_eq, unknown_eq, subscribe_eq]
            rfl
      | ok subscribe =>
          have subscribe_given := Setting.outcome_eq_ok_iff.mp subscribe_eq
          cases cost_eq : Setting.hashCost.outcome options with
          | error error =>
              obtain ⟨text, found, illegible, rfl⟩ := Setting.outcome_eq_error_iff.mp cost_eq
              refine .inl ⟨.hashCost, text, ⟨found, illegible, ?_⟩, ?_⟩
              · simpa [Setting.earlier] using
                  ⟨⟨unknownUser, unknown_given⟩, ⟨subscribe, subscribe_given⟩⟩
              · rw [ofOptions_eq, unknown_eq, subscribe_eq, cost_eq]
                rfl
          | ok hashCost =>
              have cost_given := Setting.outcome_eq_ok_iff.mp cost_eq
              refine .inr ⟨⟨options.get? "password_path", options.get? "acl_path", unknownUser,
                subscribe, hashCost⟩, ⟨rfl, rfl, ?_⟩, ?_⟩
              · intro setting
                cases setting with
                | unknownUser => exact unknown_given
                | subscribe => exact subscribe_given
                | hashCost => exact cost_given
              · rw [ofOptions_eq, unknown_eq, subscribe_eq, cost_eq]
                rfl

theorem ofOptions_eq_invalidValue_iff {key text : String} :
    ofOptions options = .error (.invalidValue key text) ↔
      ∃ setting : Setting, setting.key = key ∧ setting.FirstIllegible options text := by
  rcases ofOptions_cases options with ⟨setting, other, bad, read_eq⟩ | ⟨config, collected, read_eq⟩
  · rw [read_eq, Except.error.injEq, OptionError.invalidValue.injEq]
    constructor
    · rintro ⟨rfl, rfl⟩
      exact ⟨setting, rfl, bad⟩
    · rintro ⟨otherSetting, rfl, otherBad⟩
      obtain ⟨rfl, rfl⟩ := bad.unique otherBad
      exact ⟨rfl, rfl⟩
  · rw [read_eq]
    constructor
    · split <;> simp
    · rintro ⟨setting, _, bad⟩
      exact absurd bad collected.not_firstIllegible

theorem ofOptions_eq_ok_iff :
    ofOptions options = .ok config ↔ Collects options config ∧ config.isComplete = true := by
  rcases ofOptions_cases options with ⟨setting, text, bad, read_eq⟩ | ⟨other, collected, read_eq⟩
  · rw [read_eq]
    simp only [reduceCtorEq, false_iff, not_and]
    intro collected
    exact absurd bad collected.not_firstIllegible
  · rw [read_eq]
    constructor
    · intro read
      split at read
      · cases read
        exact ⟨collected, ‹_›⟩
      · contradiction
    · rintro ⟨otherCollected, complete⟩
      obtain rfl := collected.unique otherCollected
      rw [if_pos complete]

theorem ofOptions_eq_missingPasswordPath_iff :
    ofOptions options = .error .missingPasswordPath ↔
      (∀ setting : Setting, ∃ value, setting.Given options value) ∧
      (options.get? "password_path" = none ∨ options.get? "password_path" = some "") := by
  rcases ofOptions_cases options with ⟨setting, text, bad, read_eq⟩ | ⟨config, collected, read_eq⟩
  · rw [read_eq]
    simp only [Except.error.injEq, reduceCtorEq, false_iff, not_and]
    intro given
    obtain ⟨value, value_given⟩ := given setting
    exact absurd value_given (bad.not_given value)
  · have given : ∀ setting : Setting, ∃ value, setting.Given options value :=
      fun setting => ⟨_, collected.given setting⟩
    rw [read_eq, ← collected.passwordPath, and_iff_right given]
    by_cases complete : config.isComplete = true
    · rw [if_pos complete]
      simp only [reduceCtorEq, false_iff, not_or]
      exact isComplete_iff.mp complete
    · rw [if_neg complete]
      simp only [true_iff]
      rwa [isComplete_iff, not_and_or, not_ne_iff, not_ne_iff] at complete

/-- Options give a configuration exactly if none is reported. -/
theorem exists_ofOptions_eq_ok_iff :
    (∃ config, ofOptions options = .ok config) ↔
      (∀ setting : Setting, ∃ value, setting.Given options value) ∧
      ¬ (options.get? "password_path" = none ∨ options.get? "password_path" = some "") := by
  constructor
  · rintro ⟨config, read⟩
    obtain ⟨collected, complete⟩ := ofOptions_eq_ok_iff.mp read
    refine ⟨fun setting => ⟨_, collected.given setting⟩, ?_⟩
    rw [← collected.passwordPath, not_or]
    exact isComplete_iff.mp complete
  · rintro ⟨given, named⟩
    rcases ofOptions_cases options with
      ⟨setting, text, bad, _⟩ | ⟨config, collected, read_eq⟩
    · obtain ⟨value, value_given⟩ := given setting
      exact absurd value_given (bad.not_given value)
    · rw [← collected.passwordPath, not_or] at named
      refine ⟨config, ?_⟩
      rw [read_eq, if_pos (isComplete_iff.mpr named)]

/-- Only the options that are settings count. -/
theorem ofOptions_congr {others : NameMap String}
    (agree : ∀ key ∈ optionKeys, options.get? key = others.get? key) :
    ofOptions options = ofOptions others := by
  simp only [optionKeys, List.forall_mem_cons] at agree
  simp only [ofOptions, setting, agree]

/-! ## Writing a configuration as options -/

/-- Blanks to stand around the value of an option. -/
structure Padding where
  before : List Char
  after : List Char
  blank : (before ++ after).all Text.isBlank = true

/-- A value with blanks around it. -/
def Padding.around (padding : Padding) (text : String) : String :=
  String.ofList (padding.before ++ text.toList ++ padding.after)

/-- The text of a setting's value. -/
def Setting.written : (setting : Setting) → setting.Value → String
  | .unknownUser, policy => policy.name
  | .subscribe, policy => policy.name
  | .hashCost, cost => String.ofList (Text.numeral cost.toNat)

/-- The options that state a configuration, with blanks around the values that are not
paths. -/
def toOptions (config : Config) (padding : Setting → Padding) : NameMap String :=
  NameMap.ofList <|
    (config.passwordPath.map ("password_path", ·)).toList ++
    (config.aclPath.map ("acl_path", ·)).toList ++
    [Setting.unknownUser, .subscribe, .hashCost].map fun setting =>
      (setting.key, (padding setting).around (setting.written (setting.value config)))

/-- A setting's value is stated by its text. -/
theorem Setting.states_written (setting : Setting) (value : setting.Value) :
    setting.States (setting.written value).toList value := by
  cases setting with
  | unknownUser => rfl
  | subscribe => rfl
  | hashCost => exact ⟨0, .inl String.toList_ofList⟩

/-- The text of a setting's value has no blanks. -/
theorem Setting.isInk_of_mem_written {setting : Setting} {value : setting.Value} {c : Char}
    (member : c ∈ (setting.written value).toList) : Text.isInk c = true := by
  cases setting with
  | unknownUser =>
      have ink : ∀ policy : Acl.UnknownUserPolicy, policy.name.toList.all Text.isInk = true := by
        rintro (_ | _) <;> decide
      exact List.all_eq_true.mp (ink value) c member
  | subscribe =>
      have ink : ∀ policy : SubscribePolicy, policy.name.toList.all Text.isInk = true := by
        rintro (_ | _) <;> decide
      exact List.all_eq_true.mp (ink value) c member
  | hashCost =>
      rw [written, String.toList_ofList] at member
      have digits : c ∈ Text.paddedNumeral 0 (UInt32.toNat value) := member
      exact Text.isInk_of_isDigit (Text.isDigit_of_mem_paddedNumeral digits)

/-- The paths of a configuration are written as they are, or not at all. -/
theorem get?_toOptions_paths (config : Config) (padding : Setting → Padding) :
    (config.toOptions padding).get? "password_path" = config.passwordPath ∧
      (config.toOptions padding).get? "acl_path" = config.aclPath := by
  rw [toOptions]
  cases config.passwordPath <;> cases config.aclPath <;>
    simp [NameMap.ofList, NameMap.get?_insert, Setting.key]

theorem get?_toOptions_key (config : Config) (padding : Setting → Padding)
    (setting : Setting) :
    (config.toOptions padding).get? setting.key =
      some ((padding setting).around (setting.written (setting.value config))) := by
  rw [toOptions, NameMap.ofList]
  cases setting <;> simp [NameMap.get?_insert, Setting.key]

/-- A written configuration is what its options collect. -/
theorem collects_toOptions (config : Config) (padding : Setting → Padding) :
    Collects (config.toOptions padding) config where
  passwordPath := (get?_toOptions_paths config padding).1.symm
  aclPath := (get?_toOptions_paths config padding).2.symm
  given := by
    intro setting
    have written_trimmed : Text.Trimmed (setting.written (setting.value config)).toList :=
      Text.trimmed_of_forall_isInk fun _ member => Setting.isInk_of_mem_written member
    rw [Setting.Given, get?_toOptions_key]
    simp only [Padding.around, String.toList_ofList]
    rw [Text.trim_surrounded (List.all_eq_true.mp (padding setting).blank),
      written_trimmed.trim_eq]
    exact setting.states_written _

/-! ## Options in and out -/

/-- Only the five options that are settings count.  Of the three that are not paths the
first that states no value of its setting is reported as it was given.  If there is none, a
password file that is not named is reported, and otherwise the options give the one
configuration that holds their paths and the value of every setting.  A configuration that
names a password file is read back from its options, whatever blanks stand around them. -/
theorem ofOptions_by_first_illegible :
    (∀ options others : NameMap String,
      (∀ key ∈ optionKeys, options.get? key = others.get? key) →
      ofOptions options = ofOptions others) ∧
    (∀ options : NameMap String,
      (∀ key text, ofOptions options = .error (.invalidValue key text) ↔
        ∃ setting : Setting, setting.key = key ∧ setting.FirstIllegible options text) ∧
      (ofOptions options = .error .missingPasswordPath ↔
        (∀ setting : Setting, ∃ value, setting.Given options value) ∧
        (options.get? "password_path" = none ∨ options.get? "password_path" = some "")) ∧
      (∀ config, ofOptions options = .ok config ↔
        Collects options config ∧
        ¬ (config.passwordPath = none ∨ config.passwordPath = some "")) ∧
      ((∃ config, ofOptions options = .ok config) ↔
        (∀ setting : Setting, ∃ value, setting.Given options value) ∧
        ¬ (options.get? "password_path" = none ∨ options.get? "password_path" = some ""))) ∧
    ∀ (config : Config) (padding : Setting → Padding),
      config.passwordPath ≠ none → config.passwordPath ≠ some "" →
      ofOptions (config.toOptions padding) = .ok config := by
  refine ⟨fun options others agree => ofOptions_congr agree, ?_, ?_⟩
  · intro options
    refine ⟨fun key text => ofOptions_eq_invalidValue_iff, ofOptions_eq_missingPasswordPath_iff,
      ?_, exists_ofOptions_eq_ok_iff⟩
    intro config
    rw [ofOptions_eq_ok_iff, isComplete_iff, not_or]
  · intro config padding named nonempty
    exact ofOptions_eq_ok_iff.mpr
      ⟨collects_toOptions config padding, isComplete_iff.mpr ⟨named, nonempty⟩⟩

/-- The largest cost and an empty path are read back with a tab before every value and an
ideographic space behind it. -/
theorem ofOptions_reads_padded_options :
    (⟨some "p", some "", .strict, .permissive, 4294967295⟩ : Config).passwordPath ≠ none ∧
    (⟨some "p", some "", .strict, .permissive, 4294967295⟩ : Config).passwordPath ≠ some "" ∧
    ofOptions ((⟨some "p", some "", .strict, .permissive, 4294967295⟩ : Config).toOptions
        fun _ => ⟨['\t'], ['\u3000'], by decide⟩) =
      .ok ⟨some "p", some "", .strict, .permissive, 4294967295⟩ :=
  ⟨by decide, by decide, ofOptions_by_first_illegible.2.2 _ _ (by decide) (by decide)⟩

end Config

end TopicGuard
