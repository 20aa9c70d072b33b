import Mathlib.Data.Finset.Card
import TopicGuard.NameMap

/-!
# Maps as their lookups

A map is determined by its lookups: its entries are the pairs that lookups find,
and their order leaves no choice how they are listed.
-/

namespace TopicGuard.NameMap

universe u

variable {α : Type u}

private theorem lookup_eq_some_iff {entries : List (String × α)}
    (ascending : entries.Pairwise (fun first second => first.1 < second.1))
    {name : String} {value : α} :
    lookup name entries = some value ↔ (name, value) ∈ entries := by
  induction entries with
  | nil => simp [lookup]
  | cons head rest ih =>
      rcases head with ⟨key, stored⟩
      rcases List.pairwise_cons.mp ascending with ⟨below, rest_ascending⟩
      by_cases found : key = name
      · subst found
        have absent : (key, value) ∉ rest := by
          intro member
          exact String.lt_irrefl key (below _ member)
        simp [lookup, absent, eq_comm]
      · simp [lookup, found, Ne.symm found, ih rest_ascending]

/-- A lookup finds exactly the entries of a map. -/
theorem get?_eq_some_iff {map : NameMap α} {name : String} {value : α} :
    map.get? name = some value ↔ (name, value) ∈ map.entries :=
  lookup_eq_some_iff map.ascending

/-- No entry occurs twice. -/
theorem nodup_entries (map : NameMap α) : map.entries.Nodup := by
  refine map.ascending.imp ?_
  intro first second lt equal
  rw [equal] at lt
  exact String.lt_irrefl second.1 lt

/-- The names with a value are those of the entries. -/
theorem contains_iff_mem {map : NameMap α} {name : String} :
    map.contains name = true ↔ name ∈ map.entries.map Prod.fst := by
  rw [contains, Option.isSome_iff_exists]
  simp [get?_eq_some_iff]

/-- A map has as many entries as there are names with a value. -/
theorem size_eq_card {map : NameMap α} {names : Finset String}
    (agree : ∀ name, name ∈ names ↔ map.contains name = true) : map.size = names.card := by
  have nodup : (map.entries.map Prod.fst).Nodup := by
    refine List.pairwise_map.mpr (map.ascending.imp ?_)
    intro first second lt equal
    rw [equal] at lt
    exact String.lt_irrefl second.1 lt
  have names_eq : names = (map.entries.map Prod.fst).toFinset := by
    ext name
    rw [agree, contains_iff_mem, List.mem_toFinset]
  rw [names_eq, List.toFinset_card_of_nodup nodup, List.length_map]
  rfl

/-- Maps with values under the same names have as many entries. -/
theorem size_eq_of_contains_eq {first second : NameMap α}
    (same : ∀ name, first.contains name = second.contains name) : first.size = second.size := by
  have agree : ∀ name, name ∈ (second.entries.map Prod.fst).toFinset ↔
      second.contains name = true := by
    intro name
    rw [List.mem_toFinset, contains_iff_mem]
  rw [size_eq_card agree, size_eq_card fun name => by rw [agree, same]]

/-- Maps with the same lookups are equal. -/
theorem ext_get? {first second : NameMap α}
    (agree : ∀ name, first.get? name = second.get? name) : first = second := by
  have same_entries : first.entries = second.entries := by
    have perm : first.entries.Perm second.entries := by
      rw [List.perm_ext_iff_of_nodup first.nodup_entries second.nodup_entries]
      rintro ⟨name, value⟩
      rw [← get?_eq_some_iff, ← get?_eq_some_iff, agree]
    refine perm.eq_of_pairwise ?_ first.ascending second.ascending
    intro left right _ _ before after
    exact absurd (String.lt_trans before after) (String.lt_irrefl left.1)
  cases first
  cases second
  cases same_entries
  rfl

/-- In whatever order the entries are listed, a name has one or none. -/
theorem filter_eq_of_perm {map : NameMap α} {order : List (String × α)}
    (perm : order.Perm map.entries) (name : String) :
    order.filter (·.1 = name) = ((map.get? name).map (name, ·)).toList := by
  have nodup : order.Nodup := perm.nodup_iff.mpr map.nodup_entries
  have same : (order.filter (·.1 = name)).Perm ((map.get? name).map (name, ·)).toList := by
    refine (List.perm_ext_iff_of_nodup (nodup.filter _) ?_).mpr ?_
    · cases map.get? name <;> simp
    · rintro ⟨key, value⟩
      rw [List.mem_filter, perm.mem_iff, ← get?_eq_some_iff]
      cases found : map.get? name with
      | none =>
          simp only [decide_eq_true_eq, Option.map_none, Option.toList_none, List.not_mem_nil,
            iff_false, not_and]
          rintro key_found rfl
          simp [found] at key_found
      | some stored =>
          simp only [decide_eq_true_eq, Option.map_some, Option.toList_some, List.mem_singleton,
            Prod.mk.injEq]
          constructor
          · rintro ⟨key_found, rfl⟩
            exact ⟨rfl, Option.some.inj (key_found.symm.trans found)⟩
          · rintro ⟨rfl, rfl⟩
            exact ⟨found, rfl⟩
  cases found : map.get? name with
  | none =>
      rw [found] at same
      exact List.perm_nil.mp same
  | some stored =>
      rw [found] at same
      exact List.perm_singleton.mp same

end TopicGuard.NameMap
