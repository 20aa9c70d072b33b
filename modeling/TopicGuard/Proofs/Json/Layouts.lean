import Mathlib.Data.List.Chain
import TopicGuard.Proofs.Json.Strings
import TopicGuard.Text.Numeral

/-!
# Layouts of tokens

A text lays out some tokens if it spells them one after the other, with any white space
before, between and after them.  A number and a word go on as long as they can, so what
follows one of them directly has to be white space or a mark; where no two of them meet,
every layout is cut into the tokens that it lays out.
-/

namespace TopicGuard.Json

open Text (numeral)

/-! ## Spellings -/

/-- Some decimal digits, at least one. -/
def IsDigits (digits : List Char) : Prop :=
  digits ≠ [] ∧ ∀ c ∈ digits, c.isDigit = true

/-- What may stand behind the whole digits of a number. -/
inductive Fraction : List Char → Prop where
  | without : Fraction []
  | digits {digits : List Char} (are_digits : IsDigits digits) : Fraction ('.' :: digits)

/-- What may stand at the end of a number. -/
inductive Exponent : List Char → Prop where
  | without : Exponent []
  | digits {mark : Char} {sign digits : List Char} (is_mark : mark = 'e' ∨ mark = 'E')
      (is_sign : sign = [] ∨ sign = ['+'] ∨ sign = ['-']) (are_digits : IsDigits digits) :
      Exponent (mark :: (sign ++ digits))

/-- A token is spelled by some characters.  Of numbers only those that are written with
digits alone have a value. -/
inductive Token.Spelled : Token → List Char → Prop where
  | openObject : Spelled .openObject ['\x7b']
  | closeObject : Spelled .closeObject ['\x7d']
  | openList : Spelled .openList ['[']
  | closeList : Spelled .closeList [']']
  | colon : Spelled .colon [':']
  | comma : Spelled .comma [',']
  | text {pieces : List Piece} {chars : List Char} (spelled : Json.Spelled pieces chars) :
      Spelled (.text pieces) ('"' :: (chars ++ ['"']))
  | whole (value : Nat) : Spelled (.number (some value)) (numeral value)
  | number {sign fraction exponent : List Char} (value : Nat)
      (is_sign : sign = [] ∨ sign = ['-']) (fractional : Fraction fraction)
      (exponential : Exponent exponent) (more : sign ≠ [] ∨ fraction ≠ [] ∨ exponent ≠ []) :
      Spelled (.number none) (sign ++ (numeral value ++ (fraction ++ exponent)))
  | yes : Spelled (.bool true) ['t', 'r', 'u', 'e']
  | no : Spelled (.bool false) ['f', 'a', 'l', 's', 'e']
  | null : Spelled .null ['n', 'u', 'l', 'l']

/-- The white space of JSON. -/
def spaces : List Char :=
  [' ', '\t', '\n', '\r']

/-- A text lays out some tokens. -/
inductive LaidOut : List Token → List Char → Prop where
  | nil {space : List Char} (blank : ∀ c ∈ space, c ∈ spaces) : LaidOut [] space
  | cons {token : Token} {tokens : List Token} {space front rest : List Char}
      (blank : ∀ c ∈ space, c ∈ spaces) (spelled : token.Spelled front)
      (others : LaidOut tokens rest) : LaidOut (token :: tokens) (space ++ (front ++ rest))

namespace LaidOut

variable {tokens others : List Token} {text rest space : List Char} {token : Token}

theorem space_append (blank : ∀ c ∈ space, c ∈ spaces) (laid : LaidOut tokens text) :
    LaidOut tokens (space ++ text) := by
  cases laid with
  | nil more => exact .nil fun c member => (List.mem_append.mp member).elim (blank c) (more c)
  | cons more spelled laid =>
      rw [← List.append_assoc]
      exact .cons (fun c member => (List.mem_append.mp member).elim (blank c) (more c)) spelled
        laid

/-- Layouts can be put one behind the other. -/
theorem append (laid : LaidOut tokens text) (next : LaidOut others rest) :
    LaidOut (tokens ++ others) (text ++ rest) := by
  induction laid with
  | nil blank => exact next.space_append blank
  | cons blank spelled _ ih =>
      rw [List.append_assoc, List.append_assoc]
      exact .cons blank spelled ih

/-- A token is laid out without any white space. -/
theorem of_spelled (spelled : token.Spelled text) : LaidOut [token] text := by
  have laid : LaidOut [token] ([] ++ (text ++ [])) := .cons (by simp) spelled (.nil (by simp))
  rwa [List.nil_append, List.append_nil] at laid

end LaidOut

/-! ## Scanning -/

/-- From one place, whatever was found before and whatever follows, a text leads to another
place and to some tokens. -/
def Leads (place : Place) (text : List Char) (tokens : List Token) (next : Place) : Prop :=
  ∀ done rest, scanFrom done place (text ++ rest) = scanFrom (tokens.reverse ++ done) next rest

variable {place middle next : Place} {first second : List Char} {tokens others : List Token}
  {c : Char}

theorem Leads.nil (place : Place) : Leads place [] [] place :=
  fun _ _ => rfl

theorem Leads.append (leads : Leads place first tokens middle)
    (on : Leads middle second others next) :
    Leads place (first ++ second) (tokens ++ others) next := by
  intro done rest
  rw [List.append_assoc, leads, on, List.reverse_append, List.append_assoc]

theorem Leads.of_step (step_eq : step place c = some (tokens, next)) :
    Leads place [c] tokens next := by
  intro done rest
  simp only [List.cons_append, List.nil_append, scanFrom, step_eq]

theorem Leads.cons (step_eq : step place c = some ([], middle))
    (on : Leads middle first tokens next) : Leads place (c :: first) tokens next :=
  (Leads.of_step step_eq).append on

/-! ### Strings -/

theorem shortEscape?_of_mem {letter c : Char} (member : (letter, c) ∈ shortEscapes) :
    letter ≠ 'u' ∧ shortEscape? letter = some c := by
  have all : ∀ pair ∈ shortEscapes, pair.1 ≠ 'u' ∧ shortEscape? pair.1 = some pair.2 := by
    decide
  exact all _ member

theorem hexValue?_of_isHexDigit {value : Nat} (digit : IsHexDigit value c) :
    hexValue? c = some value := by
  have all : ∀ value < 16, hexValue? (Nat.digitChar value) = some value ∧
      hexValue? (Nat.digitChar value).toUpper = some value := by
    decide
  rcases digit with ⟨small, rfl | rfl⟩
  · exact (all value small).1
  · exact (all value small).2

theorem step_hex {value : Nat} (digit : IsHexDigit value c) (pieces : List Piece)
    (digits code : Nat) :
    step (.hex pieces digits code) c =
      some (if digits ≤ 1 then ([], .string (.unit (16 * code + value) :: pieces))
        else ([], .hex pieces (digits - 1) (16 * code + value))) := by
  rw [step, hexValue?_of_isHexDigit digit, Option.map_some]

/-- A piece of a string is scanned as it is spelled. -/
theorem leads_piece {piece : Piece} (spelled : piece.Spelled first) (before : List Piece) :
    Leads (.string before) first [] (.string (piece :: before)) := by
  have escape : step (.string before) '\\' = some ([], .escape before) := rfl
  cases spelled with
  | plain visible no_quote no_backslash =>
      apply Leads.of_step
      rw [step, if_neg no_quote, if_neg no_backslash, if_neg (Nat.not_lt.mpr visible)]
  | short member =>
      obtain ⟨no_unit, escape_eq⟩ := shortEscape?_of_mem member
      apply Leads.cons escape
      apply Leads.of_step
      rw [step, if_neg no_unit, escape_eq, Option.map_some]
  | unit first_eq second_eq third_eq fourth_eq =>
      have hex : step (.escape before) 'u' = some ([], .hex before 4 0) := rfl
      apply Leads.cons escape
      apply Leads.cons hex
      apply Leads.cons (step_hex first_eq before 4 0)
      apply Leads.cons (step_hex second_eq before 3 _)
      apply Leads.cons (step_hex third_eq before 2 _)
      rw [Nat.mul_zero, Nat.zero_add]
      exact Leads.of_step (step_hex fourth_eq before 1 _)

theorem leads_pieces {pieces : List Piece} (spelled : Spelled pieces first)
    (before : List Piece) :
    Leads (.string before) first [] (.string (pieces.reverse ++ before)) := by
  induction spelled generalizing before with
  | nil => exact .nil _
  | cons front _ ih =>
      rw [List.reverse_cons, List.append_assoc]
      exact (leads_piece front before).append (ih _)

/-- A string is scanned as a whole. -/
theorem leads_string {pieces : List Piece} (spelled : Spelled pieces first) :
    Leads .between ('"' :: (first ++ ['"'])) [.text pieces] .between := by
  have begins : step .between '"' = some ([], .string []) := rfl
  have ends : step (.string (pieces.reverse ++ [])) '"' = some ([.text pieces], .between) := by
    rw [step, if_pos rfl, List.append_nil, List.reverse_reverse]
  exact .cons begins ((leads_pieces spelled []).append (.of_step ends))

/-! ### Numbers -/

theorem numberValue_none (part : NumberPart) (c : Char) : numberValue part none c = none := by
  cases part <;> rfl

theorem step_number {part next : NumberPart} (goes_on : numberNext? part c = some next)
    (value : Option Nat) :
    step (.number part value) c = some ([], .number next (numberValue next value c)) := by
  simp only [step, goes_on]

/-- The place behind the whole digits of a number. -/
def wholePart (value : Nat) : NumberPart :=
  if value = 0 then .zero else .whole

theorem digitChar_of_lt {digit : Nat} (small : digit < 10) :
    (Nat.digitChar digit).isDigit = true ∧ (Nat.digitChar digit).toNat - '0'.toNat = digit := by
  have all : ∀ digit < 10, (Nat.digitChar digit).isDigit = true ∧
      (Nat.digitChar digit).toNat - '0'.toNat = digit := by
    decide
  exact all digit small

/-- The digits of a number lead on from where its first digit may stand. -/
theorem leads_numeral {valueOf : Nat → Option Nat}
    (begins : ∀ digit < 10, step place (Nat.digitChar digit) =
      some ([], .number (wholePart digit) (valueOf digit)))
    (goes_on : ∀ value, valueOf value = (valueOf (value / 10)).map (10 * · + value % 10))
    (value : Nat) : Leads place (numeral value) [] (.number (wholePart value) (valueOf value)) := by
  -- The last digit is taken off; the value in front of it is known by induction.
  induction value using Nat.strongRecOn with
  | ind value ih =>
      by_cases small : value < 10
      · rw [numeral, Nat.toDigits_of_lt_base small]
        exact .of_step (begins value small)
      · have front := ih (value / 10) (Nat.div_lt_self (by omega) (by decide))
        have last : step (.number .whole (valueOf (value / 10)))
            (Nat.digitChar (value % 10)) = some ([], .number .whole (valueOf value)) := by
          obtain ⟨digit, digit_eq⟩ := digitChar_of_lt (Nat.mod_lt value (by decide))
          have next : numberNext? .whole (Nat.digitChar (value % 10)) = some .whole :=
            if_pos digit
          rw [step_number next, numberValue, digit_eq, ← goes_on]
        rw [wholePart, if_neg (by omega)] at front ⊢
        rw [numeral, Nat.toDigits_of_base_le (by decide) (Nat.le_of_not_lt small)]
        exact front.append (.of_step last)

/-- Digits are passed over wherever any number of them may stand. -/
theorem leads_digits {part loop : NumberPart} {digits : List Char}
    (begins : ∀ c, c.isDigit = true → numberNext? part c = some loop)
    (goes_on : ∀ c, c.isDigit = true → numberNext? loop c = some loop)
    (are_digits : IsDigits digits) :
    Leads (.number part none) digits [] (.number loop none) := by
  obtain ⟨nonempty, all_digits⟩ := are_digits
  induction digits generalizing part with
  | nil => contradiction
  | cons c rest ih =>
      have first := step_number (begins c (all_digits c List.mem_cons_self)) none
      rw [numberValue_none] at first
      apply Leads.cons first
      by_cases last : rest = []
      · rw [last]
        exact .nil _
      · exact ih goes_on last fun d member => all_digits d (List.mem_cons_of_mem c member)

theorem leads_fraction {part : NumberPart} {fraction : List Char}
    (whole : part = .zero ∨ part = .whole) (fractional : Fraction fraction)
    (nonempty : fraction ≠ []) (value : Option Nat) :
    Leads (.number part value) fraction [] (.number .fraction none) := by
  cases fractional with
  | without => contradiction
  | digits are_digits =>
      have point : step (.number part value) '.' = some ([], .number .point none) := by
        rcases whole with rfl | rfl <;> rfl
      apply Leads.cons point
      exact leads_digits (fun c digit => if_pos digit) (fun c digit => if_pos digit) are_digits

theorem leads_exponent {part : NumberPart} {exponent : List Char}
    (before : part = .zero ∨ part = .whole ∨ part = .fraction) (exponential : Exponent exponent)
    (nonempty : exponent ≠ []) (value : Option Nat) :
    Leads (.number part value) exponent [] (.number .exponentDigits none) := by
  cases exponential with
  | without => contradiction
  | @digits mark sign digits is_mark is_sign are_digits =>
      have marked : step (.number part value) mark = some ([], .number .exponent none) := by
        rcases before with rfl | rfl | rfl <;> rcases is_mark with rfl | rfl <;> rfl
      have begins : ∀ c, c.isDigit = true →
          numberNext? .exponent c = some .exponentDigits := by
        intro c digit
        have no_sign : ¬ (c = '+' ∨ c = '-') := by
          rintro (rfl | rfl) <;> contradiction
        rw [numberNext?, if_neg no_sign, if_pos digit]
      have goes_on : ∀ c, c.isDigit = true →
          numberNext? .exponentDigits c = some .exponentDigits :=
        fun c digit => if_pos digit
      apply Leads.cons marked
      rcases is_sign with rfl | rfl | rfl
      · exact leads_digits begins goes_on are_digits
      · have plus : step (.number .exponent none) '+' = some ([], .number .exponentSign none) := rfl
        exact .cons plus (leads_digits (fun c digit => if_pos digit) goes_on are_digits)
      · have minus : step (.number .exponent none) '-' = some ([], .number .exponentSign none) :=
          rfl
        exact .cons minus (leads_digits (fun c digit => if_pos digit) goes_on are_digits)

theorem wholePart_cases (value : Nat) : wholePart value = .zero ∨ wholePart value = .whole :=
  ite_eq_or_eq _ _ _

theorem numberEnds_of_whole {part : NumberPart} (whole : part = .zero ∨ part = .whole) :
    numberEnds part none = true := by
  rcases whole with rfl | rfl <;> rfl

theorem leads_whole (value : Nat) :
    Leads .between (numeral value) [] (.number (wholePart value) (some value)) := by
  apply leads_numeral
  · decide
  · intro value
    rw [Option.map_some, Nat.div_add_mod]

theorem leads_minus (value : Nat) :
    Leads .between ('-' :: numeral value) [] (.number (wholePart value) none) := by
  have minus : step .between '-' = some ([], .number .minus none) := rfl
  have begins : ∀ digit < 10, step (.number .minus none) (Nat.digitChar digit) =
      some ([], .number (wholePart digit) none) := by
    decide
  have goes_on : ∀ value : Nat, none = (none : Option Nat).map (10 * · + value % 10) :=
    fun _ => rfl
  exact .cons minus (leads_numeral begins goes_on value)

/-- What stands behind the whole digits leads to the end of the number. -/
theorem leads_tail {part : NumberPart} {value : Option Nat} {fraction exponent : List Char}
    (whole : part = .zero ∨ part = .whole) (fractional : Fraction fraction)
    (exponential : Exponent exponent) (more : value = none ∨ fraction ≠ [] ∨ exponent ≠ []) :
    ∃ last, numberEnds last none = true ∧
      Leads (.number part value) (fraction ++ exponent) [] (.number last none) := by
  by_cases no_fraction : fraction = []
  · by_cases no_exponent : exponent = []
    · obtain rfl : value = none := by tauto
      rw [no_fraction, no_exponent]
      exact ⟨part, numberEnds_of_whole whole, .nil _⟩
    · rw [no_fraction]
      exact ⟨.exponentDigits, rfl,
        leads_exponent (whole.imp_right .inl) exponential no_exponent value⟩
  · have front := leads_fraction whole fractional no_fraction value
    by_cases no_exponent : exponent = []
    · rw [no_exponent, List.append_nil]
      exact ⟨.fraction, rfl, front⟩
    · exact ⟨.exponentDigits, rfl,
        front.append (leads_exponent (by simp) exponential no_exponent none)⟩

/-- A number with a sign, a fraction or an exponent leads to its end. -/
theorem leads_number {sign fraction exponent : List Char} (value : Nat)
    (is_sign : sign = [] ∨ sign = ['-']) (fractional : Fraction fraction)
    (exponential : Exponent exponent) (more : sign ≠ [] ∨ fraction ≠ [] ∨ exponent ≠ []) :
    ∃ last, numberEnds last none = true ∧
      Leads .between (sign ++ (numeral value ++ (fraction ++ exponent))) []
        (.number last none) := by
  rcases is_sign with rfl | rfl
  · obtain ⟨last, complete, tail⟩ := leads_tail (wholePart_cases value) fractional exponential
      (more.imp_left fun signed => absurd rfl signed)
    exact ⟨last, complete, (leads_whole value).append tail⟩
  · obtain ⟨last, complete, tail⟩ := leads_tail (wholePart_cases value) fractional exponential
      (.inl rfl)
    exact ⟨last, complete, (leads_minus value).append tail⟩

/-! ### Tokens -/

/-- The characters that a number or a word ends before. -/
def delimiters : List Char :=
  spaces ++ ['\x7b', '\x7d', '[', ']', ':', ',', '"']

/-- At a place some token ends, before a delimiter or at the end of the text. -/
structure Awaits (place : Place) (token : Token) : Prop where
  finish_eq : finish? place = some [token]
  step_eq : ∀ c ∈ delimiters,
    step place c = (start? c).map fun (tokens, next) => (token :: tokens, next)

theorem awaits_number {part : NumberPart} (complete : numberEnds part none = true)
    (value : Option Nat) : Awaits (.number part value) (.number value) := by
  have ends : delimiters.all
      (fun c => (numberNext? part c).isNone && numberEnds part (some c)) = true := by
    cases part with
    | minus | point | exponent | exponentSign => contradiction
    | zero | whole | fraction | exponentDigits => rfl
  constructor
  · rw [finish?, if_pos complete]
  · intro c member
    obtain ⟨no_next, ends_before⟩ := Bool.and_eq_true_iff.mp (List.all_eq_true.mp ends c member)
    rw [Option.isNone_iff_eq_none] at no_next
    simp only [step, no_next, if_pos ends_before]

theorem awaits_word {letters : List Char} {token : Token}
    (word : wordToken? letters.reverse = some token) : Awaits (.word letters) token := by
  have no_letter : ∀ c ∈ delimiters, (!c.isLower) = true := List.all_eq_true.mp rfl
  constructor
  · rw [finish?, word, Option.map_some]
  · intro c member
    rw [step, if_neg (by simpa using no_letter c member), word, Option.bind_some]

/-- A token ends before a delimiter or at the end of the text. -/
theorem Awaits.scanFrom {token : Token} (awaits : Awaits place token) {rest : List Char}
    (ends : rest = [] ∨ ∃ c ∈ delimiters, ∃ more, rest = c :: more) (done : List Token) :
    scanFrom done place rest = scanFrom (token :: done) .between rest := by
  rcases ends with rfl | ⟨c, member, more, rfl⟩
  · rw [Json.scanFrom, Json.scanFrom, awaits.finish_eq]
    simp [finish?]
  · rw [Json.scanFrom, Json.scanFrom, awaits.step_eq c member, step]
    cases start? c with
    | none => rfl
    | some next => simp

/-- Whether a token goes on as long as it can. -/
def Token.isBare : Token → Bool
  | .number _ | .bool _ | .null => true
  | _ => false

/-- A string or a mark is scanned at once, and any other token as soon as it ends. -/
theorem Token.Spelled.scans {token : Token} (spelled : token.Spelled first) :
    (Leads .between first [token] .between ∧ ∃ c ∈ delimiters, ∃ more, first = c :: more) ∨
      token.isBare = true ∧ ∃ place, Leads .between first [] place ∧ Awaits place token := by
  cases spelled with
  | openObject | closeObject | openList | closeList | colon | comma =>
      left
      exact ⟨.of_step rfl, _, by decide, [], rfl⟩
  | text spelled =>
      left
      exact ⟨leads_string spelled, '"', by decide, _, rfl⟩
  | whole value =>
      right
      have complete := numberEnds_of_whole (wholePart_cases value)
      exact ⟨rfl, _, leads_whole value, awaits_number complete (some value)⟩
  | number value is_sign fractional exponential more =>
      right
      obtain ⟨part, complete, leads⟩ := leads_number value is_sign fractional exponential more
      exact ⟨rfl, _, leads, awaits_number complete none⟩
  | yes | no | null =>
      right
      refine ⟨rfl, _, fun done rest => rfl, awaits_word rfl⟩

/-! ### Layouts -/

theorem leads_spaces {space : List Char} (blank : ∀ c ∈ space, c ∈ spaces) :
    Leads .between space [] .between := by
  have all : ∀ c ∈ spaces, start? c = some ([], .between) := by
    simp [spaces, start?, isSpace]
  induction space with
  | nil => exact .nil _
  | cons c rest ih =>
      have first : step .between c = some ([], .between) := all c (blank c List.mem_cons_self)
      exact .cons first (ih fun d member => blank d (List.mem_cons_of_mem c member))

/-- No token that goes on as long as it can meets another one. -/
def KeptApart (tokens : List Token) : Prop :=
  tokens.IsChain fun first second => first.isBare = true → second.isBare = false

namespace LaidOut

variable {text : List Char}

/-- A layout that does not begin with a number or a word begins with a delimiter. -/
theorem begins (laid : LaidOut tokens text) (other : ∀ token ∈ tokens.head?, token.isBare = false) :
    text = [] ∨ ∃ c ∈ delimiters, ∃ more, text = c :: more := by
  have of_space : ∀ {space : List Char} (rest : List Char), (∀ c ∈ space, c ∈ spaces) →
      space ≠ [] → ∃ c ∈ delimiters, ∃ more, space ++ rest = c :: more := by
    intro space rest blank nonempty
    obtain ⟨c, more, rfl⟩ := List.exists_cons_of_ne_nil nonempty
    exact ⟨c, List.mem_append_left _ (blank c List.mem_cons_self), more ++ rest, rfl⟩
  cases laid with
  | nil blank =>
      by_cases empty : text = []
      · exact .inl empty
      · have spaced := of_space [] blank empty
        rw [List.append_nil] at spaced
        exact .inr spaced
  | @cons token _ space front rest blank spelled _ =>
      right
      by_cases empty : space = []
      · rcases spelled.scans with ⟨_, c, member, more, rfl⟩ | ⟨bare, _⟩
        · exact ⟨c, member, more ++ rest, by rw [empty]; rfl⟩
        · rw [other token rfl] at bare
          contradiction
      · exact of_space _ blank empty

/-- Every layout of tokens that are kept apart is cut into these tokens. -/
theorem scanFrom_eq (laid : LaidOut tokens text) (apart : KeptApart tokens)
    (done : List Token) : scanFrom done .between text = some (done.reverse ++ tokens) := by
  induction laid generalizing done with
  | nil blank =>
      have spaced := leads_spaces blank done []
      rwa [List.append_nil] at spaced
  | @cons token tokens space front rest blank spelled others ih =>
      have rest_eq : scanFrom (token :: done) .between rest =
          some (done.reverse ++ token :: tokens) := by
        rw [ih apart.tail, List.reverse_cons, List.append_assoc]
        rfl
      rw [leads_spaces blank done, List.reverse_nil, List.nil_append, ← rest_eq]
      rcases spelled.scans with ⟨leads, _⟩ | ⟨bare, place, leads, awaits⟩
      · exact leads done rest
      · -- The token is only complete at what follows, which therefore has to be a delimiter.
        have next_other : ∀ next ∈ tokens.head?, next.isBare = false :=
          fun next member => apart.rel_head? member bare
        rw [leads done rest]
        exact awaits.scanFrom (others.begins next_other) done

end LaidOut

/-- A layout of tokens that are kept apart has these tokens. -/
theorem scan?_of_laidOut {text : List Char} (laid : LaidOut tokens text)
    (apart : KeptApart tokens) : scan? text = some tokens :=
  laid.scanFrom_eq apart []

end TopicGuard.Json
