import Mathlib.Data.List.Sort
import Mathlib.Order.Defs.Unbundled
import TopicGuard.Proofs.Acl.Line

/-!
# The runs of a line

A run of a line is a stretch of places that all hold visible characters and that cannot be
made longer.  The words of a line are what stands on its runs, from left to right.  So are its
fields, unless it has more runs than the fields asked for: then the last field is all that
stands from the start of the next run to the end of the last one, with the blanks between.
-/

namespace TopicGuard.Text

/-- A stretch of a line: the places from a first one through a last one. -/
@[ext]
structure Stretch where
  first : Nat
  last : Nat
  first_le_last : first ≤ last

/-- A stretch lies in another if that one takes up all its places. -/
instance : LE Stretch where
  le inner outer := outer.first ≤ inner.first ∧ inner.last ≤ outer.last

/-- A visible character stands at a place of a line. -/
def VisibleAt (text : List Char) (place : Nat) : Prop :=
  ∃ c, text[place]? = some c ∧ isInk c = true

/-- Visible characters stand at all places of a stretch. -/
def Visible (line : List Char) (stretch : Stretch) : Prop :=
  ∀ place, stretch.first ≤ place → place ≤ stretch.last → VisibleAt line place

/-- One stretch ends before the other starts. -/
def Precedes (left right : Stretch) : Prop :=
  left.last < right.first

/-- The runs of a line, from left to right: all its maximal stretches of visible characters. -/
structure AreRuns (line : List Char) (runs : List Stretch) : Prop where
  inOrder : runs.Pairwise Precedes
  mem_iff : ∀ run, run ∈ runs ↔ Maximal (Visible line) run

/-- What stands in a line from one place through another. -/
def textFrom (line : List Char) (first last : Nat) : List Char :=
  (line.take (last + 1)).drop first

/-! ## Runs in order -/

instance : Std.Irrefl Precedes where
  irrefl stretch := Nat.not_lt_of_le stretch.first_le_last

instance : Std.Antisymm Precedes where
  antisymm left right before after := by
    have left_le := left.first_le_last
    have right_le := right.first_le_last
    rw [Precedes] at before after
    omega

instance : PartialOrder Stretch where
  le_refl _ := ⟨Nat.le_refl _, Nat.le_refl _⟩
  le_trans _ _ _ inner outer := ⟨Nat.le_trans outer.1 inner.1, Nat.le_trans inner.2 outer.2⟩
  le_antisymm _ _ within around :=
    Stretch.ext (Nat.le_antisymm around.1 within.1) (Nat.le_antisymm within.2 around.2)

/-- A line has its runs in one way only. -/
theorem AreRuns.unique {line : List Char} {runs others : List Stretch}
    (areRuns : AreRuns line runs) (areOthers : AreRuns line others) : runs = others :=
  areRuns.inOrder.eq_of_mem_iff areOthers.inOrder fun run => by
    rw [areRuns.mem_iff, areOthers.mem_iff]

/-! ## The first word of a line -/

/-- A line is cut behind its first word: blanks, the word, and what does not go on with it. -/
structure CutsWord (gap word rest : List Char) : Prop where
  gap_blank : ∀ c ∈ gap, isBlank c = true
  word_ink : ∀ c ∈ word, isInk c = true
  nonempty : word ≠ []
  ends : ∀ c, rest.head? = some c → isBlank c = true

variable {line gap word rest : List Char} {runs later : List Stretch}

/-- A line that is not blank is cut behind its first word. -/
theorem cutsWord_afterWord (visible : trimStart line ≠ []) :
    CutsWord (line.takeWhile isBlank) ((trimStart line).takeWhile isInk) (afterWord line) where
  gap_blank _ := List.mem_takeWhile_imp
  word_ink _ := List.mem_takeWhile_imp
  nonempty := takeWhile_isInk_ne_nil visible
  ends c starts := by
    obtain ⟨others, after⟩ := List.head?_eq_some_iff.mp starts
    exact isBlank_of_afterWord_eq_cons after

theorem eq_append_afterWord (line : List Char) :
    line = line.takeWhile isBlank ++ ((trimStart line).takeWhile isInk ++ afterWord line) := by
  rw [afterWord, List.takeWhile_append_dropWhile, trimStart, List.takeWhile_append_dropWhile]

theorem CutsWord.trimStart_eq (cut : CutsWord gap word rest) :
    trimStart (gap ++ (word ++ rest)) = word ++ rest := by
  obtain ⟨c, others, rfl⟩ := List.exists_cons_of_ne_nil cut.nonempty
  have visible : ¬ isBlank c = true := by simpa using cut.word_ink c List.mem_cons_self
  rw [trimStart, List.dropWhile_append_of_pos cut.gap_blank, List.cons_append,
    List.dropWhile_cons_of_neg visible]

theorem CutsWord.afterWord_eq (cut : CutsWord gap word rest) :
    afterWord (gap ++ (word ++ rest)) = rest := by
  rw [afterWord, cut.trimStart_eq, List.dropWhile_append_of_pos cut.word_ink]
  cases rest with
  | nil => rfl
  | cons c others => rw [List.dropWhile_cons_of_neg (by simp [cut.ends c rfl])]

theorem CutsWord.takeWhile_eq (cut : CutsWord gap word rest) :
    (word ++ rest).takeWhile isInk = word := by
  rw [List.takeWhile_append_of_pos cut.word_ink]
  cases rest with
  | nil => simp
  | cons c others => simp [cut.ends c rfl]

theorem CutsWord.words_eq (cut : CutsWord gap word rest) :
    words (gap ++ (word ++ rest)) = word :: words rest := by
  have visible : trimStart (gap ++ (word ++ rest)) ≠ [] := by
    rw [cut.trimStart_eq]
    exact List.append_ne_nil_of_left_ne_nil cut.nonempty rest
  rw [words_eq_cons visible, cut.trimStart_eq, cut.takeWhile_eq, cut.afterWord_eq]

/-- What holds of every blank line, and of a line with a word if it holds of what follows the
first word, holds of every line. -/
@[elab_as_elim]
theorem word_induction {motive : List Char → Prop}
    (blank : ∀ line, trimStart line = [] → motive line)
    (word : ∀ gap word rest, CutsWord gap word rest → motive rest →
      motive (gap ++ (word ++ rest)))
    (line : List Char) : motive line := by
  induction size_eq : (words line).length generalizing line with
  | zero => exact blank line (words_eq_nil_iff.mp (List.length_eq_zero_iff.mp size_eq))
  | succ size ih =>
      have visible : trimStart line ≠ [] := fun silent => by
        rw [words_eq_nil_iff.mpr silent] at size_eq
        contradiction
      have rest_eq : (words (afterWord line)).length = size := by
        rw [words_afterWord, List.length_tail, size_eq, Nat.add_sub_cancel]
      rw [eq_append_afterWord line]
      exact word _ _ _ (cutsWord_afterWord visible) (ih _ rest_eq)

/-! ## Visible places -/

theorem not_visibleAt_of_blank (blank : trimStart line = []) (place : Nat) :
    ¬ VisibleAt line place := by
  rintro ⟨c, found, ink⟩
  have blank := List.dropWhile_eq_nil_iff.mp blank c (List.mem_of_getElem? found)
  rw [isInk_eq_not_isBlank, blank] at ink
  contradiction

theorem visibleAt_iff_of_ink (ink : ∀ c ∈ word, isInk c = true) {place : Nat} :
    VisibleAt word place ↔ place < word.length := by
  constructor
  · rintro ⟨c, found, _⟩
    exact (List.getElem?_eq_some_iff.mp found).1
  · intro inside
    exact ⟨word[place], List.getElem?_eq_getElem inside, ink _ (List.getElem_mem inside)⟩

theorem visibleAt_append_add (front back : List Char) (place : Nat) :
    VisibleAt (front ++ back) (front.length + place) ↔ VisibleAt back place := by
  simp [VisibleAt, List.getElem?_append_right]

theorem visibleAt_append_iff {front back : List Char} {place : Nat} :
    VisibleAt (front ++ back) place ↔
      VisibleAt front place ∨
        ∃ further, place = front.length + further ∧ VisibleAt back further := by
  rcases Nat.lt_or_ge place front.length with inside | beyond
  · rw [VisibleAt, List.getElem?_append_left inside, ← VisibleAt, iff_self_or]
    rintro ⟨further, rfl, _⟩
    omega
  · obtain ⟨further, rfl⟩ := Nat.exists_eq_add_of_le beyond
    rw [visibleAt_append_add]
    simp [VisibleAt]

/-- The visible places of a line are those of its first word and those behind it. -/
theorem CutsWord.visibleAt_iff (cut : CutsWord gap word rest) {place : Nat} :
    VisibleAt (gap ++ (word ++ rest)) place ↔
      (gap.length ≤ place ∧ place < gap.length + word.length) ∨
        ∃ further, place = gap.length + word.length + further ∧ VisibleAt rest further := by
  have in_gap : ¬ VisibleAt gap place :=
    not_visibleAt_of_blank (List.dropWhile_eq_nil_iff.mpr cut.gap_blank) place
  simp only [visibleAt_append_iff, visibleAt_iff_of_ink cut.word_ink, in_gap, false_or]
  constructor
  · rintro ⟨place, rfl, inside | ⟨further, rfl, visible⟩⟩
    · exact .inl ⟨Nat.le_add_right _ _, Nat.add_lt_add_left inside _⟩
    · exact .inr ⟨further, (Nat.add_assoc _ _ _).symm, visible⟩
  · rintro (⟨from_word, inside⟩ | ⟨further, rfl, visible⟩)
    · exact ⟨place - gap.length, by omega, .inl (by omega)⟩
    · exact ⟨word.length + further, Nat.add_assoc _ _ _, .inr ⟨further, rfl, visible⟩⟩

/-- Behind the first word a line goes on as what follows the word. -/
theorem visibleAt_add_iff {place : Nat} :
    VisibleAt (gap ++ (word ++ rest)) (gap.length + word.length + place) ↔
      VisibleAt rest place := by
  rw [← List.append_assoc, ← List.length_append, visibleAt_append_add]

/-- The place behind the first word holds a blank, unless the line ends there. -/
theorem CutsWord.not_visibleAt_end (cut : CutsWord gap word rest) :
    ¬ VisibleAt (gap ++ (word ++ rest)) (gap.length + word.length) := by
  rw [← Nat.add_zero (gap.length + word.length), visibleAt_add_iff]
  rintro ⟨c, found, ink⟩
  rw [← List.head?_eq_getElem?] at found
  rw [isInk_eq_not_isBlank, cut.ends c found] at ink
  contradiction

/-! ## The runs of a line, word by word -/

/-- A stretch further behind. -/
def Stretch.shift (offset : Nat) (stretch : Stretch) : Stretch where
  first := offset + stretch.first
  last := offset + stretch.last
  first_le_last := Nat.add_le_add_left stretch.first_le_last offset

/-- The stretch that a word takes up behind a gap. -/
def Stretch.ofWord (gap word : List Char) : Stretch where
  first := gap.length
  last := gap.length + (word.length - 1)
  first_le_last := Nat.le_add_right _ _

theorem Stretch.shift_le_shift_iff {offset : Nat} {inner outer : Stretch} :
    inner.shift offset ≤ outer.shift offset ↔ inner ≤ outer :=
  and_congr Nat.add_le_add_iff_left Nat.add_le_add_iff_left

theorem CutsWord.le_ofWord_iff (cut : CutsWord gap word rest) {stretch : Stretch} :
    stretch ≤ .ofWord gap word ↔
      gap.length ≤ stretch.first ∧ stretch.last < gap.length + word.length := by
  have word_pos := List.length_pos_iff.mpr cut.nonempty
  have last_iff : stretch.last ≤ gap.length + (word.length - 1) ↔
      stretch.last < gap.length + word.length := by omega
  exact and_congr_right' last_iff

/-- No stretch of visible characters reaches over the end of the first word. -/
theorem CutsWord.visible_iff (cut : CutsWord gap word rest) {stretch : Stretch} :
    Visible (gap ++ (word ++ rest)) stretch ↔
      stretch ≤ .ofWord gap word ∨
        ∃ later, stretch = later.shift (gap.length + word.length) ∧ Visible rest later := by
  rw [cut.le_ofWord_iff]
  obtain ⟨first, last, first_le⟩ := stretch
  constructor
  · intro visible
    rcases cut.visibleAt_iff.mp (visible first (Nat.le_refl _) first_le) with
      ⟨from_word, inside⟩ | ⟨start, rfl, _⟩
    · -- a stretch that starts in the word stops in it: the place behind the word is not visible
      have last_lt : last < gap.length + word.length := by
        by_contra beyond
        exact cut.not_visibleAt_end
          (visible _ (Nat.le_of_lt inside) (Nat.le_of_not_lt beyond))
      exact .inl ⟨from_word, last_lt⟩
    · obtain ⟨stop, rfl⟩ := Nat.exists_eq_add_of_le (Nat.le_of_add_right_le first_le)
      refine .inr ⟨⟨start, stop, Nat.le_of_add_le_add_left first_le⟩, rfl, ?_⟩
      intro place from_start to_stop
      apply visibleAt_add_iff.mp
      exact visible _ (Nat.add_le_add_left from_start _) (Nat.add_le_add_left to_stop _)
  · rintro (⟨from_word, inside⟩ | ⟨later, shifted, visible⟩) place from_first to_last
    · apply cut.visibleAt_iff.mpr
      exact .inl ⟨Nat.le_trans from_word from_first, Nat.lt_of_le_of_lt to_last inside⟩
    · obtain ⟨rfl, rfl⟩ := Stretch.mk.inj shifted
      obtain ⟨place, rfl⟩ := Nat.exists_eq_add_of_le (Nat.le_of_add_right_le from_first)
      apply visibleAt_add_iff.mpr
      exact visible place (Nat.le_of_add_le_add_left from_first)
        (Nat.le_of_add_le_add_left to_last)

/-- The maximal stretches of a line are its first word and those of what follows it. -/
theorem CutsWord.maximal_iff (cut : CutsWord gap word rest) {run : Stretch} :
    Maximal (Visible (gap ++ (word ++ rest))) run ↔
      run = .ofWord gap word ∨
        ∃ later, run = later.shift (gap.length + word.length) ∧
          Maximal (Visible rest) later := by
  have word_visible : Visible (gap ++ (word ++ rest)) (.ofWord gap word) :=
    cut.visible_iff.mpr (.inl (le_refl _))
  constructor
  · rintro ⟨visible, maximal⟩
    rcases cut.visible_iff.mp visible with within | ⟨later, rfl, later_visible⟩
    · exact .inl (le_antisymm within (maximal word_visible within))
    · refine .inr ⟨later, rfl, later_visible, ?_⟩
      intro other other_visible wider
      apply Stretch.shift_le_shift_iff.mp
      apply maximal (cut.visible_iff.mpr (.inr ⟨other, rfl, other_visible⟩))
      exact Stretch.shift_le_shift_iff.mpr wider
  · rintro (rfl | ⟨later, rfl, later_visible, maximal⟩)
    · refine ⟨word_visible, ?_⟩
      intro other other_visible wider
      rcases cut.visible_iff.mp other_visible with within | ⟨later, rfl, _⟩
      · exact within
      · have starts : gap.length + word.length + later.first ≤ gap.length := wider.1
        have word_pos := List.length_pos_iff.mpr cut.nonempty
        omega
    · refine ⟨cut.visible_iff.mpr (.inr ⟨later, rfl, later_visible⟩), ?_⟩
      intro other other_visible wider
      rcases cut.visible_iff.mp other_visible with within | ⟨further, rfl, further_visible⟩
      · have ends : gap.length + word.length + later.last < gap.length + word.length :=
          (cut.le_ofWord_iff.mp (le_trans wider within)).2
        omega
      · apply Stretch.shift_le_shift_iff.mpr
        apply maximal further_visible
        exact Stretch.shift_le_shift_iff.mp wider

/-- A blank line has no runs. -/
theorem areRuns_iff_of_blank (blank : trimStart line = []) : AreRuns line runs ↔ runs = [] := by
  have none_visible : ∀ run, ¬ Maximal (Visible line) run := fun run maximal =>
    not_visibleAt_of_blank blank run.first
      (maximal.1 run.first (Nat.le_refl _) run.first_le_last)
  constructor
  · intro areRuns
    rw [List.eq_nil_iff_forall_not_mem]
    exact fun run found => none_visible run ((areRuns.mem_iff run).mp found)
  · rintro rfl
    exact ⟨List.Pairwise.nil, by simpa using none_visible⟩

/-- The run of the first word goes before the runs of what follows it. -/
theorem CutsWord.areRuns_cons (cut : CutsWord gap word rest) (areRuns : AreRuns rest later) :
    AreRuns (gap ++ (word ++ rest))
      (.ofWord gap word :: later.map (Stretch.shift (gap.length + word.length))) where
  inOrder := by
    have word_pos := List.length_pos_iff.mpr cut.nonempty
    rw [List.pairwise_cons, List.pairwise_map]
    constructor
    · intro run found
      obtain ⟨run, _, rfl⟩ := List.mem_map.mp found
      simp only [Precedes, Stretch.ofWord, Stretch.shift]
      omega
    · exact areRuns.inOrder.imp fun before => Nat.add_lt_add_left before _
  mem_iff run := by
    simp only [List.mem_cons, List.mem_map, cut.maximal_iff, areRuns.mem_iff, and_comm, eq_comm]

theorem exists_areRuns (line : List Char) : ∃ runs, AreRuns line runs := by
  induction line using word_induction with
  | blank line blank => exact ⟨[], (areRuns_iff_of_blank blank).mpr rfl⟩
  | word gap word rest cut ih =>
      obtain ⟨later, areRuns⟩ := ih
      exact ⟨_, cut.areRuns_cons areRuns⟩

theorem CutsWord.areRuns_iff (cut : CutsWord gap word rest) :
    AreRuns (gap ++ (word ++ rest)) runs ↔
      ∃ later, AreRuns rest later ∧
        runs = .ofWord gap word :: later.map (Stretch.shift (gap.length + word.length)) := by
  constructor
  · intro areRuns
    obtain ⟨later, areLater⟩ := exists_areRuns rest
    exact ⟨later, areLater, areRuns.unique (cut.areRuns_cons areLater)⟩
  · rintro ⟨later, areLater, rfl⟩
    exact cut.areRuns_cons areLater

/-! ## What stands on the runs -/

theorem textFrom_append_add (front rest : List Char) (first last : Nat) :
    textFrom (front ++ rest) (front.length + first) (front.length + last) =
      textFrom rest first last := by
  rw [textFrom, Nat.add_assoc, List.take_length_add_append, List.drop_length_add_append,
    textFrom]

/-- From one run behind the first word through another stands what stood there before. -/
theorem textFrom_shift (gap word rest : List Char) (first last : Stretch) :
    textFrom (gap ++ (word ++ rest)) (first.shift (gap.length + word.length)).first
        (last.shift (gap.length + word.length)).last =
      textFrom rest first.first last.last := by
  rw [← List.append_assoc, ← List.length_append]
  exact textFrom_append_add (gap ++ word) rest first.first last.last

theorem CutsWord.textFrom_ofWord (cut : CutsWord gap word rest) :
    textFrom (gap ++ (word ++ rest)) (Stretch.ofWord gap word).first
      (Stretch.ofWord gap word).last = word := by
  have last_eq : word.length - 1 + 1 = word.length :=
    Nat.sub_add_cancel (List.length_pos_iff.mpr cut.nonempty)
  calc
    _ = textFrom (word ++ rest) 0 (word.length - 1) :=
      textFrom_append_add gap (word ++ rest) 0 (word.length - 1)
    _ = word := by rw [textFrom, last_eq, List.take_left, List.drop_zero]

/-- The words of a line are what stands on its runs. -/
theorem AreRuns.words_eq (areRuns : AreRuns line runs) :
    words line = runs.map fun run => textFrom line run.first run.last := by
  induction line using word_induction generalizing runs with
  | blank line blank =>
      rw [words_eq_nil_iff.mpr blank, (areRuns_iff_of_blank blank).mp areRuns, List.map_nil]
  | word gap word rest cut ih =>
      obtain ⟨later, areLater, rfl⟩ := cut.areRuns_iff.mp areRuns
      rw [cut.words_eq, List.map_cons, cut.textFrom_ofWord, ih areLater, List.map_map]
      congr 1
      apply List.map_congr_left
      intro run _
      exact (textFrom_shift gap word rest run run).symm

theorem CutsWord.trim_eq (cut : CutsWord gap word rest) :
    trim (gap ++ (word ++ rest)) = word ++ trimEnd rest := by
  rw [trim, cut.trimStart_eq, trimEnd_append_of_forall_isInk cut.word_ink]

theorem CutsWord.trimEnd_eq (cut : CutsWord gap word rest) :
    trimEnd (gap ++ (word ++ rest)) = gap ++ (word ++ trimEnd rest) := by
  have start_eq : trimStart (word ++ rest) = word ++ rest := by
    rw [← cut.trimStart_eq, trimStart, trimStart, List.dropWhile_idempotent]
  have visible : trimStart (word ++ rest) ≠ [] := by
    rw [start_eq]
    exact List.append_ne_nil_of_left_ne_nil cut.nonempty rest
  rw [trimEnd_append_of_visible visible, trimEnd_append_of_forall_isInk cut.word_ink]

/-- Only blanks stand behind the last run. -/
theorem AreRuns.trimEnd_eq {last : Stretch} (areRuns : AreRuns line runs)
    (ends : runs.getLast? = some last) : trimEnd line = line.take (last.last + 1) := by
  induction line using word_induction generalizing runs last with
  | blank line blank =>
      rw [(areRuns_iff_of_blank blank).mp areRuns] at ends
      contradiction
  | word gap word rest cut ih =>
      obtain ⟨later, areLater, rfl⟩ := cut.areRuns_iff.mp areRuns
      rw [List.getLast?_cons, List.getLast?_map, Option.some_inj] at ends
      rw [cut.trimEnd_eq]
      cases later_ends : later.getLast? with
      | none =>
          rw [later_ends] at ends
          obtain rfl : Stretch.ofWord gap word = last := ends
          rw [List.getLast?_eq_none_iff] at later_ends
          have silent : words rest = [] := by rw [areLater.words_eq, later_ends, List.map_nil]
          have last_eq : gap.length + (word.length - 1) + 1 = gap.length + word.length := by
            have word_pos := List.length_pos_iff.mpr cut.nonempty
            omega
          rw [trimEnd_eq_nil_iff.mpr (words_eq_nil_iff.mp silent), List.append_nil,
            Stretch.ofWord, last_eq, List.take_length_add_append, List.take_left]
      | some further =>
          rw [later_ends] at ends
          obtain rfl : further.shift (gap.length + word.length) = last := ends
          rw [ih areLater later_ends, Stretch.shift, Nat.add_assoc, Nat.add_assoc,
            List.take_length_add_append, List.take_length_add_append]

/-- Behind some words, a line trimmed reaches from the next run to the last one. -/
theorem AreRuns.trim_iterate_afterWord {first last : Stretch} {earlier : Nat}
    (areRuns : AreRuns line runs) (starts : runs[earlier]? = some first)
    (ends : runs.getLast? = some last) :
    trim (afterWord^[earlier] line) = textFrom line first.first last.last := by
  -- the words in front are taken off with the line's own words, so the places shift each time
  induction line using word_induction generalizing runs first last earlier with
  | blank line blank =>
      rw [(areRuns_iff_of_blank blank).mp areRuns] at ends
      contradiction
  | word gap word rest cut ih =>
      have trimmed := areRuns.trimEnd_eq ends
      obtain ⟨later, areLater, rfl⟩ := cut.areRuns_iff.mp areRuns
      cases earlier with
      | zero =>
          obtain rfl : Stretch.ofWord gap word = first := by simpa using starts
          rw [textFrom, ← trimmed, cut.trimEnd_eq, Function.iterate_zero_apply, cut.trim_eq,
            Stretch.ofWord, List.drop_left]
      | succ earlier =>
          rw [List.getElem?_cons_succ, List.getElem?_map, Option.map_eq_some_iff] at starts
          obtain ⟨first, starts, rfl⟩ := starts
          have nonempty : later ≠ [] := List.ne_nil_of_mem (List.mem_of_getElem? starts)
          have later_ends := List.getLast?_eq_some_getLast nonempty
          rw [List.getLast?_cons, List.getLast?_map, later_ends] at ends
          obtain rfl : (later.getLast nonempty).shift (gap.length + word.length) = last := by
            simpa using ends
          rw [Function.iterate_succ_apply, cut.afterWord_eq, ih areLater starts later_ends,
            textFrom_shift]

/-! ## Fields -/

/-- The last field of a line with more runs reaches from its run to the last one. -/
theorem AreRuns.exists_fields_eq {earlier : Nat} (areRuns : AreRuns line runs)
    (more : earlier + 1 < runs.length) :
    ∃ first last, runs[earlier]? = some first ∧ runs.getLast? = some last ∧
      fields (earlier + 1) line =
        (words line).take earlier ++ [textFrom line first.first last.last] := by
  have nonempty : runs ≠ [] := List.ne_nil_of_length_pos (by omega)
  have starts : runs[earlier]? = some runs[earlier] := List.getElem?_eq_getElem (by omega)
  have ends := List.getLast?_eq_some_getLast nonempty
  have some_left : words (afterWord^[earlier] line) ≠ [] := by
    rw [words_iterate_afterWord, areRuns.words_eq, ne_eq, List.drop_eq_nil_iff,
      List.length_map]
    omega
  refine ⟨_, _, starts, ends, ?_⟩
  rw [fields_eq_words_append, fields_one_eq_singleton some_left,
    areRuns.trim_iterate_afterWord starts ends]

/-- A line has its runs in one way, and its words are what stands on them.  It has as many
fields as words, but no more than asked for.  If there are no more words, the fields are the
words; if there are more, they are the first words and, as the last field, all that stands from
the start of the next run to the end of the last one.  No field is empty or starts or ends with
a blank, and the keyword that a line starts with is its first word. -/
theorem fields_follow_runs (line : List Char) :
    (∃! runs, AreRuns line runs) ∧
    (∀ runs, AreRuns line runs →
      words line = runs.map (fun run => textFrom line run.first run.last) ∧
      ∀ earlier, earlier + 1 < runs.length →
        ∃ first last, runs[earlier]? = some first ∧ runs.getLast? = some last ∧
          fields (earlier + 1) line =
            (words line).take earlier ++ [textFrom line first.first last.last]) ∧
    (∀ earlier,
      (fields (earlier + 1) line).length = min (earlier + 1) (words line).length ∧
      ((words line).length ≤ earlier + 1 → fields (earlier + 1) line = words line) ∧
      ∀ field ∈ fields (earlier + 1) line, field ≠ [] ∧ Trimmed field) ∧
    (fields 2 line).head? = (words line).head? ∧
    Acl.Line.keyword line = (words line).headD [] := by
  refine ⟨?_, ?_, ?_, head?_fields 0 line, Acl.Line.keyword_eq_headD_words line⟩
  · obtain ⟨runs, areRuns⟩ := exists_areRuns line
    exact ⟨runs, areRuns, fun others areOthers => areOthers.unique areRuns⟩
  · intro runs areRuns
    exact ⟨areRuns.words_eq, fun earlier => areRuns.exists_fields_eq⟩
  · intro earlier
    exact ⟨length_fields earlier line, fields_eq_words, fun field => trimmed_of_mem_fields⟩

/-- The two blanks between the last words stay in the third field, one of them a wide one.  The
words before are told apart by other blanks than spaces. -/
theorem third_field_keeps_inner_blanks :
    ∃ runs first last, AreRuns "\u2003topic\u00a0read\ta \u3000b\u0085".toList runs ∧
      2 + 1 < runs.length ∧ runs[2]? = some first ∧ runs.getLast? = some last ∧
      textFrom "\u2003topic\u00a0read\ta \u3000b\u0085".toList first.first last.last =
        "a \u3000b".toList := by
  obtain ⟨⟨runs, areRuns, _⟩, along, _⟩ :=
    fields_follow_runs "\u2003topic\u00a0read\ta \u3000b\u0085".toList
  obtain ⟨words_eq, cut⟩ := along runs areRuns
  have four : runs.length = 4 := by
    rw [← List.length_map, ← words_eq]
    decide
  have more : 2 + 1 < runs.length := by omega
  obtain ⟨first, last, starts, ends, fields_eq⟩ := cut 2 more
  have found : fields 3 "\u2003topic\u00a0read\ta \u3000b\u0085".toList =
      (words "\u2003topic\u00a0read\ta \u3000b\u0085".toList).take 2 ++
        ["a \u3000b".toList] := by decide
  rw [found, List.append_cancel_left_eq, List.singleton_inj] at fields_eq
  exact ⟨runs, first, last, areRuns, more, starts, ends, fields_eq.symm⟩

end TopicGuard.Text
