import Mathlib.Data.List.Nodup
import Mathlib.Data.List.Perm.Basic
import TopicGuard.Config.Json
import TopicGuard.Proofs.Json.Values

/-!
# Members of objects

An object states some fields if each of them is given by one member, or by none if it
holds anyway.  The members may come in any order and have further members among them, as
long as these have other names.  What is read for a field is then its value; and if a
name occurs twice, nothing is read for it.
-/

namespace TopicGuard.Config

open Json (Value Piece Denotes)

/-- What one member of an object may give. -/
structure Field where
  /-- The name of the member. -/
  name : String
  /-- Whether the field holds without a member. -/
  isInitial : Prop
  /-- Whether a value gives the field. -/
  isGivenBy : Value → Prop

/-- Some fields are given by members in their order; those that hold anyway may be left
out. -/
inductive Gives : List Field → List (String × Value) → Prop where
  | nil : Gives [] []
  | given {field : Field} {fields : List Field} {value : Value}
      {members : List (String × Value)} (by_value : field.isGivenBy value)
      (others : Gives fields members) :
      Gives (field :: fields) ((field.name, value) :: members)
  | leftOut {field : Field} {fields : List Field} {members : List (String × Value)}
      (holds : field.isInitial) (others : Gives fields members) :
      Gives (field :: fields) members

/-- The names of members are denoted by their strings. -/
def NamedAs (members : List (List Piece × Value)) (named : List (String × Value)) : Prop :=
  List.Forall₂ (fun member named => Denotes member.1 named.1.toList ∧ member.2 = named.2)
    members named

/-- The members of an object state some fields: in some order they are members that give
the fields and further members with other names. -/
def States (members : List (List Piece × Value)) (fields : List Field) : Prop :=
  ∃ named given further, NamedAs members named ∧ named.Perm (given ++ further) ∧
    Gives fields given ∧ ∀ member ∈ further, ∀ field ∈ fields, member.1 ≠ field.name

/-- Two members have the same name. -/
def GivenTwice (name : String) (named : List (String × Value)) : Prop :=
  ∃ first second others, named.Perm ((name, first) :: (name, second) :: others)

variable {members : List (List Piece × Value)} {named given further : List (String × Value)}
  {fields : List Field} {field : Field} {name : String} {α : Type} {initial result : α}
  {read : Value → Option α}

theorem named?_of_namedAs (named_as : NamedAs members named) : named? members = some named := by
  induction named_as with
  | nil => rfl
  | @cons member entry members named same _ ih =>
      rcases entry with ⟨name, value⟩
      obtain ⟨denotes, rfl⟩ := same
      rw [named?] at ih
      rw [named?, List.mapM_cons, Json.textOf?_of_denotes denotes, ih]
      rfl

/-! ## One field -/

theorem exists_name_eq_of_gives (gives : Gives fields given) {member : String × Value}
    (found : member ∈ given) : ∃ field ∈ fields, member.1 = field.name := by
  induction gives with
  | nil => contradiction
  | @given field _ value _ _ _ ih =>
      rcases List.mem_cons.mp found with rfl | found
      · exact ⟨field, List.mem_cons_self, rfl⟩
      · obtain ⟨other, member_of, name_eq⟩ := ih found
        exact ⟨other, List.mem_cons_of_mem _ member_of, name_eq⟩
  | leftOut _ _ ih =>
      obtain ⟨other, member_of, name_eq⟩ := ih found
      exact ⟨other, List.mem_cons_of_mem _ member_of, name_eq⟩

theorem filter_eq_nil_of_gives (gives : Gives fields given)
    (unknown : name ∉ fields.map Field.name) : given.filter (·.1 == name) = [] := by
  rw [List.filter_eq_nil_iff]
  intro member found same
  obtain ⟨other, member_of, name_eq⟩ := exists_name_eq_of_gives gives found
  apply unknown
  rw [← eq_of_beq same, name_eq]
  exact List.mem_map_of_mem member_of

/-- A field is given by one member, or it holds anyway. -/
theorem filter_of_gives (gives : Gives fields given)
    (distinct : (fields.map Field.name).Nodup) (known : field ∈ fields) :
    (given.filter (·.1 == field.name) = [] ∧ field.isInitial) ∨
      ∃ value, given.filter (·.1 == field.name) = [(field.name, value)] ∧
        field.isGivenBy value := by
  induction gives with
  | nil => contradiction
  | @given first fields value members by_value others ih =>
      obtain ⟨unknown, distinct⟩ := List.nodup_cons.mp distinct
      rcases List.mem_cons.mp known with rfl | known
      · right
        refine ⟨value, ?_, by_value⟩
        rw [List.filter_cons_of_pos (by simp), filter_eq_nil_of_gives others unknown]
      · have other : first.name ≠ field.name := by
          intro same
          exact unknown (same ▸ List.mem_map_of_mem known)
        rw [List.filter_cons_of_neg (by simpa using other)]
        exact ih distinct known
  | @leftOut first fields members holds others ih =>
      obtain ⟨unknown, distinct⟩ := List.nodup_cons.mp distinct
      rcases List.mem_cons.mp known with rfl | known
      · exact .inl ⟨filter_eq_nil_of_gives others unknown, holds⟩
      · exact ih distinct known

/-- A field that is stated is read. -/
theorem member?_of_gives (gives : Gives fields given) (order : named.Perm (given ++ further))
    (distinct : (fields.map Field.name).Nodup)
    (others : ∀ member ∈ further, ∀ field ∈ fields, member.1 ≠ field.name)
    (known : field ∈ fields) (initially : field.isInitial → initial = result)
    (reads : ∀ value, field.isGivenBy value → read value = some result) :
    member? named field.name initial read = some result := by
  have further_eq : further.filter (·.1 == field.name) = [] := by
    rw [List.filter_eq_nil_iff]
    intro member found same
    exact others member found field known (eq_of_beq same)
  have same_members : (named.filter (·.1 == field.name)).Perm
      (given.filter (·.1 == field.name)) := by
    have filtered := order.filter (·.1 == field.name)
    rwa [List.filter_append, further_eq, List.append_nil] at filtered
  rcases filter_of_gives gives distinct known with ⟨none_given, holds⟩ |
    ⟨value, one_given, by_value⟩
  · rw [none_given, List.perm_nil] at same_members
    rw [member?, same_members, initially holds]
  · rw [one_given, List.perm_singleton] at same_members
    rw [member?, same_members]
    exact reads value by_value

/-- What is read for a field is read from the member with its name. -/
theorem read_of_member? {value : Value} (read_eq : member? named name initial read = some result)
    (found : (name, value) ∈ named) : read value = some result := by
  have kept : (name, value) ∈ named.filter (·.1 == name) :=
    List.mem_filter.mpr ⟨found, beq_self_eq_true name⟩
  rw [member?] at read_eq
  split at read_eq
  · rename_i none_found
    rw [none_found] at kept
    contradiction
  · rename_i one_found
    rw [one_found, List.mem_singleton] at kept
    rwa [← kept] at read_eq
  · contradiction

/-- Nothing is read from two members with one name. -/
theorem member?_of_givenTwice (twice : GivenTwice name named) :
    member? named name initial read = none := by
  obtain ⟨first, second, others, order⟩ := twice
  have filtered := (order.filter (·.1 == name)).length_eq
  rw [List.filter_cons_of_pos (by simp), List.filter_cons_of_pos (by simp)] at filtered
  rw [member?]
  split
  · rename_i none_found
    rw [none_found] at filtered
    contradiction
  · rename_i one_found
    rw [one_found] at filtered
    simp at filtered
  · rfl

end TopicGuard.Config
