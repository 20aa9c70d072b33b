/-!
# Maps keyed by names

A map from names to values is kept as its list of entries, strictly ascending by
name.  The order makes the list a canonical form: two maps that answer every
lookup alike are equal, and listing a map needs no sorting.
-/

namespace TopicGuard

universe u

/-- A finite map from names to values. -/
structure NameMap (α : Type u) where
  /-- The entries, in ascending order of their names. -/
  entries : List (String × α)
  /-- No name occurs twice, and the names ascend. -/
  ascending : entries.Pairwise (fun first second => first.1 < second.1)

namespace NameMap

variable {α : Type u}

/-- The first value under a name. -/
def lookup (name : String) : List (String × α) → Option α
  | [] => none
  | (key, value) :: rest => if key = name then some value else lookup name rest

/-- Put `change` of the value under a name in the place of that value. -/
def put (name : String) (change : Option α → α) :
    List (String × α) → List (String × α)
  | [] => [(name, change none)]
  | (key, value) :: rest =>
      if name < key then (name, change none) :: (key, value) :: rest
      else if name = key then (name, change (some value)) :: rest
      else (key, value) :: put name change rest

variable {name key : String} {value : α} {change : Option α → α} {entries : List (String × α)}

/-! ## Entries in order -/

@[simp]
theorem lookup_cons_self (name : String) (value : α) (entries : List (String × α)) :
    lookup name ((name, value) :: entries) = some value :=
  if_pos rfl

theorem lookup_cons_of_ne (different : key ≠ name) (value : α) (entries : List (String × α)) :
    lookup name ((key, value) :: entries) = lookup name entries :=
  if_neg different

theorem put_cons_of_lt (below : name < key) (change : Option α → α) (value : α)
    (entries : List (String × α)) :
    put name change ((key, value) :: entries) = (name, change none) :: (key, value) :: entries :=
  if_pos below

@[simp]
theorem put_cons_self (name : String) (change : Option α → α) (value : α)
    (entries : List (String × α)) :
    put name change ((name, value) :: entries) = (name, change (some value)) :: entries := by
  rw [put, if_neg (String.lt_irrefl name), if_pos rfl]

private theorem ne_of_lt {first second : String} (below : first < second) : first ≠ second := by
  rintro rfl
  exact String.lt_irrefl first below

private theorem lt_or_eq_or_gt (first second : String) :
    first < second ∨ first = second ∨ second < first := by
  by_cases below : first < second
  · exact .inl below
  · by_cases above : second < first
    · exact .inr (.inr above)
    · exact .inr (.inl (String.le_antisymm (String.not_lt.mp above) (String.not_lt.mp below)))

theorem put_cons_of_gt (above : key < name) (change : Option α → α) (value : α)
    (entries : List (String × α)) :
    put name change ((key, value) :: entries) = (key, value) :: put name change entries := by
  rw [put, if_neg (String.lt_asymm above), if_neg (ne_of_lt above).symm]

/-- What is below the first name is below all names. -/
private theorem forall_lt_of_lt (below : name < key)
    (ascending : ((key, value) :: entries).Pairwise (fun first second => first.1 < second.1)) :
    ∀ entry ∈ (key, value) :: entries, name < entry.1 := by
  intro entry member
  rcases List.mem_cons.mp member with rfl | member
  · exact below
  · exact String.lt_trans below ((List.pairwise_cons.mp ascending).1 entry member)

/-- Only one name can be new. -/
private theorem fst_of_mem_put {entry : String × α} (member : entry ∈ put name change entries) :
    entry.1 = name ∨ ∃ old ∈ entries, old.1 = entry.1 := by
  induction entries with
  | nil => exact .inl (congrArg Prod.fst (List.mem_singleton.mp member))
  | cons head rest ih =>
      obtain ⟨key, value⟩ := head
      rcases lt_or_eq_or_gt name key with below | rfl | above
      · rw [put_cons_of_lt below] at member
        rcases List.mem_cons.mp member with rfl | kept
        · exact .inl rfl
        · exact .inr ⟨entry, kept, rfl⟩
      · rw [put_cons_self] at member
        rcases List.mem_cons.mp member with rfl | kept
        · exact .inl rfl
        · exact .inr ⟨entry, List.mem_cons_of_mem _ kept, rfl⟩
      · rw [put_cons_of_gt above] at member
        rcases List.mem_cons.mp member with rfl | found
        · exact .inr ⟨(key, value), List.mem_cons_self, rfl⟩
        · rcases ih found with new | ⟨old, old_member, same⟩
          · exact .inl new
          · exact .inr ⟨old, List.mem_cons_of_mem _ old_member, same⟩

/-- Putting a value keeps the entries in order. -/
theorem ascending_put
    (ascending : entries.Pairwise (fun first second => first.1 < second.1)) :
    (put name change entries).Pairwise (fun first second => first.1 < second.1) := by
  induction entries with
  | nil => exact List.pairwise_singleton _ _
  | cons head rest ih =>
      obtain ⟨key, value⟩ := head
      obtain ⟨first, rest_ascending⟩ := List.pairwise_cons.mp ascending
      rcases lt_or_eq_or_gt name key with below | rfl | above
      · rw [put_cons_of_lt below]
        exact List.pairwise_cons.mpr ⟨forall_lt_of_lt below ascending, ascending⟩
      · rw [put_cons_self]
        exact List.pairwise_cons.mpr ⟨first, rest_ascending⟩
      · rw [put_cons_of_gt above]
        refine List.pairwise_cons.mpr ⟨?_, ih rest_ascending⟩
        intro entry member
        rcases fst_of_mem_put member with new | ⟨old, old_member, same⟩
        · rwa [new]
        · rw [← same]
          exact first old old_member

theorem lookup_eq_none_of_forall_lt (above : ∀ entry ∈ entries, name < entry.1) :
    lookup name entries = none := by
  induction entries with
  | nil => rfl
  | cons head rest ih =>
      obtain ⟨key, value⟩ := head
      have below : name < key := above (key, value) List.mem_cons_self
      rw [lookup_cons_of_ne (ne_of_lt below).symm]
      exact ih fun entry member => above entry (List.mem_cons_of_mem _ member)

/-- A name that is put has the changed value. -/
theorem lookup_put_self
    (ascending : entries.Pairwise (fun first second => first.1 < second.1)) :
    lookup name (put name change entries) = some (change (lookup name entries)) := by
  induction entries with
  | nil => exact lookup_cons_self name _ _
  | cons head rest ih =>
      obtain ⟨key, value⟩ := head
      rcases lt_or_eq_or_gt name key with below | rfl | above
      · rw [put_cons_of_lt below, lookup_cons_self,
          lookup_eq_none_of_forall_lt (forall_lt_of_lt below ascending)]
      · rw [put_cons_self, lookup_cons_self, lookup_cons_self]
      · have different : key ≠ name := ne_of_lt above
        rw [put_cons_of_gt above, lookup_cons_of_ne different, lookup_cons_of_ne different,
          ih (List.pairwise_cons.mp ascending).2]

/-- Other names keep their values, even where the entries are not in order. -/
theorem lookup_put_of_ne (different : key ≠ name) :
    lookup key (put name change entries) = lookup key entries := by
  induction entries with
  | nil => exact lookup_cons_of_ne different.symm _ _
  | cons head rest ih =>
      obtain ⟨other, value⟩ := head
      rcases lt_or_eq_or_gt name other with below | rfl | above
      · rw [put_cons_of_lt below, lookup_cons_of_ne different.symm]
      · rw [put_cons_self, lookup_cons_of_ne different.symm, lookup_cons_of_ne different.symm]
      · rw [put_cons_of_gt above]
        by_cases found : other = key
        · rw [found, lookup_cons_self, lookup_cons_self]
        · rw [lookup_cons_of_ne found, lookup_cons_of_ne found, ih]

/-! ## Maps -/

/-- The map without entries. -/
def empty : NameMap α :=
  ⟨[], List.Pairwise.nil⟩

/-- The value under a name. -/
def get? (map : NameMap α) (name : String) : Option α :=
  lookup name map.entries

/-- Whether a name has a value. -/
def contains (map : NameMap α) (name : String) : Bool :=
  (map.get? name).isSome

/-- How many names have a value. -/
def size (map : NameMap α) : Nat :=
  map.entries.length

/-- The map with the value under one name changed; `change` is given the old
value, if there is one. -/
def alter (map : NameMap α) (name : String) (change : Option α → α) : NameMap α :=
  ⟨put name change map.entries, ascending_put map.ascending⟩

/-- The map with a value under a name, which takes the place of an older one. -/
def insert (map : NameMap α) (name : String) (value : α) : NameMap α :=
  map.alter name (fun _ => value)

/-- The map of some entries; of two entries with one name the later counts. -/
def ofList (entries : List (String × α)) : NameMap α :=
  entries.foldl (fun map entry => map.insert entry.1 entry.2) empty

@[simp]
theorem get?_empty (name : String) : (empty : NameMap α).get? name = none :=
  rfl

/-- A change is seen under its own name only. -/
theorem get?_alter (map : NameMap α) (name key : String) (change : Option α → α) :
    (map.alter name change).get? key =
      if key = name then some (change (map.get? name)) else map.get? key := by
  by_cases same : key = name
  · rw [if_pos same, same]
    exact lookup_put_self map.ascending
  · rw [if_neg same]
    exact lookup_put_of_ne same

/-- An insertion is seen under its own name only. -/
@[grind =]
theorem get?_insert (map : NameMap α) (name key : String) (value : α) :
    (map.insert name value).get? key =
      if key = name then some value else map.get? key :=
  get?_alter map name key _

instance : Inhabited (NameMap α) :=
  ⟨empty⟩

instance [DecidableEq α] : DecidableEq (NameMap α) := fun first second =>
  decidable_of_iff (first.entries = second.entries) <| by
    cases first
    cases second
    simp

end NameMap

end TopicGuard
