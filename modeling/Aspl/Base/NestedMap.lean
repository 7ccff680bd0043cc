import Aspl.Base.OrderedMap

/-! Ordered maps of ordered maps, as `std::map` of `std::map`: entries have an outer and an inner
key. An outer key stays when the last entry under it is erased.
-/

namespace Aspl

universe u v w

/-- A finite map under each outer key. -/
abbrev NestedMap (Outer : Type u) (Inner : Type v) (Value : Type w)
    [LinearOrder Outer] [LinearOrder Inner] :=
  OrderedMap Outer (OrderedMap Inner Value)

namespace NestedMap

variable {Outer : Type u} {Inner : Type v} {Value : Type w}
  [LinearOrder Outer] [LinearOrder Inner]

/-- The value stored under two keys, if there is one. -/
def lookup (map : NestedMap Outer Inner Value) (outer : Outer) (inner : Inner)
    : Option Value :=
  (map.find? outer).bind (·.find? inner)

/-- `map[outer][inner] = value`. -/
def assign (map : NestedMap Outer Inner Value) (outer : Outer) (inner : Inner) (value : Value)
    : NestedMap Outer Inner Value :=
  map.insert outer (((map.find? outer).getD .empty).insert inner value)

/-- The map without the entry of two keys. -/
def remove (map : NestedMap Outer Inner Value) (outer : Outer) (inner : Inner)
    : NestedMap Outer Inner Value :=
  match map.find? outer with
  | none => map
  | some entries => map.insert outer (entries.erase inner)

/-- The first entry with an inner key, in the order of the outer keys. -/
def findInner? (map : NestedMap Outer Inner Value) (inner : Inner) : Option (Outer × Value) :=
  map.entries.findSome? (fun entry => (entry.2.find? inner).map (entry.1, ·))

/-- All entries, in the order in which nested loops over the maps meet them. -/
def listing (map : NestedMap Outer Inner Value) : List (Outer × Inner × Value) :=
  map.entries.flatMap (fun entry =>
    entry.2.entries.map (fun inner => (entry.1, inner.1, inner.2)))

variable {map : NestedMap Outer Inner Value} {outer : Outer} {inner : Inner} {value : Value}

/-- The listing has exactly the entries that lookup finds. -/
theorem mem_listing
    : (outer, inner, value) ∈ map.listing ↔ map.lookup outer inner = some value := by
  rw [listing, lookup, List.mem_flatMap, Option.bind_eq_some_iff]
  constructor
  · rintro ⟨⟨key, entries⟩, member, listed⟩
    obtain ⟨⟨key', value'⟩, stored, same⟩ := List.mem_map.mp listed
    cases same
    exact ⟨entries, map.find?_eq_some_iff.mpr member, entries.find?_eq_some_iff.mpr stored⟩
  · rintro ⟨entries, found, stored⟩
    exact ⟨(outer, entries), map.find?_eq_some_iff.mp found,
      List.mem_map.mpr ⟨(inner, value), entries.find?_eq_some_iff.mp stored, rfl⟩⟩

/-- No entry is listed twice: both keys of the entries are strictly ordered. -/
theorem nodup_listing (map : NestedMap Outer Inner Value) : map.listing.Nodup := by
  refine List.nodup_flatMap.mpr ⟨?_, ?_⟩
  · rintro ⟨key, entries⟩ -
    refine entries.nodup_entries.map ?_
    rintro ⟨first, left⟩ ⟨second, right⟩ same
    cases same
    rfl
  · refine map.sorted.imp ?_
    rintro ⟨first, left⟩ ⟨second, right⟩ less entry listedLeft listedRight
    obtain ⟨_, -, rfl⟩ := List.mem_map.mp listedLeft
    obtain ⟨_, -, same⟩ := List.mem_map.mp listedRight
    exact less.ne (Prod.mk.inj same).1.symm

/-- Maps with the same lookups list the same entries. -/
theorem listing_perm_of_lookup {left right : NestedMap Outer Inner Value}
    (same : ∀ outer inner, left.lookup outer inner = right.lookup outer inner)
    : left.listing.Perm right.listing := by
  refine (List.perm_ext_iff_of_nodup left.nodup_listing right.nodup_listing).mpr ?_
  rintro ⟨outer, inner, value⟩
  rw [mem_listing, mem_listing, same]

/-- Lookup after an assignment. -/
theorem lookup_assign (map : NestedMap Outer Inner Value) (outer other : Outer)
    (inner key : Inner) (value : Value)
    : (map.assign outer inner value).lookup other key
      = if other = outer ∧ key = inner then some value else map.lookup other key := by
  rw [lookup, assign, OrderedMap.find?_insert, lookup]
  by_cases same : other = outer
  · subst same
    rw [if_pos rfl, Option.bind_some, OrderedMap.find?_insert]
    cases map.find? other <;> simp
  · rw [if_neg same, if_neg (fun both => same both.1)]

/-- Lookup after a removal. -/
theorem lookup_remove (map : NestedMap Outer Inner Value) (outer other : Outer)
    (inner key : Inner)
    : (map.remove outer inner).lookup other key
      = if other = outer ∧ key = inner then none else map.lookup other key := by
  rw [lookup, remove, lookup]
  by_cases same : other = outer
  · subst same
    cases found : map.find? other with
    | none => simp [found]
    | some entries => simp [OrderedMap.find?_insert, OrderedMap.find?_erase]
  · rw [if_neg (fun both => same both.1)]
    cases map.find? outer with
    | none => rfl
    | some entries => simp only [OrderedMap.find?_insert, if_neg same]

/-- Assigning the value that is stored changes nothing. -/
theorem assign_of_lookup (stored : map.lookup outer inner = some value)
    : map.assign outer inner value = map := by
  obtain ⟨entries, found, present⟩ := Option.bind_eq_some_iff.mp stored
  rw [assign, found, Option.getD_some, entries.insert_of_find? present, map.insert_of_find? found]

/-- An entry found by its inner key is one that lookup finds. -/
theorem lookup_of_findInner? (found : map.findInner? inner = some (outer, value))
    : map.lookup outer inner = some value := by
  obtain ⟨⟨key, entries⟩, member, stored⟩ := List.exists_of_findSome?_eq_some found
  obtain ⟨_, present, same⟩ := Option.map_eq_some_iff.mp stored
  cases same
  exact Option.bind_eq_some_iff.mpr ⟨entries, map.find?_eq_some_iff.mpr member, present⟩

/-- When no entry is found by its inner key, lookup finds none under any outer key. -/
theorem lookup_of_findInner?_none (absent : map.findInner? inner = none) (outer : Outer)
    : map.lookup outer inner = none := by
  rw [lookup, Option.bind_eq_none_iff]
  intro entries found
  have missing := List.findSome?_eq_none_iff.mp absent _ (map.find?_eq_some_iff.mp found)
  exact Option.map_eq_none_iff.mp missing

/-- The entries of a map are those that a removal leaves and the removed one. -/
theorem listing_remove_perm (stored : map.lookup outer inner = some value)
    : map.listing.Perm ((outer, inner, value) :: (map.remove outer inner).listing) := by
  have absent : (outer, inner, value) ∉ (map.remove outer inner).listing := by
    simp [mem_listing, lookup_remove]
  refine (List.perm_ext_iff_of_nodup map.nodup_listing
    (List.nodup_cons.mpr ⟨absent, nodup_listing _⟩)).mpr ?_
  rintro ⟨other, key, held⟩
  rw [List.mem_cons, mem_listing, mem_listing, lookup_remove]
  by_cases same : other = outer ∧ key = inner
  · obtain ⟨rfl, rfl⟩ := same
    simp [stored, eq_comm]
  · have different : (other, key, held) ≠ (outer, inner, value) := by
      intro equal
      cases equal
      exact same ⟨rfl, rfl⟩
    simp [same, different]

/-- The entries after assigning to keys without an entry are the new one and those before. -/
theorem listing_assign_perm (absent : map.lookup outer inner = none)
    : (map.assign outer inner value).listing.Perm ((outer, inner, value) :: map.listing) := by
  have stored : (map.assign outer inner value).lookup outer inner = some value := by
    rw [lookup_assign, if_pos ⟨rfl, rfl⟩]
  refine (listing_remove_perm stored).trans (List.Perm.cons _ (listing_perm_of_lookup ?_))
  intro other key
  rw [lookup_remove, lookup_assign]
  split
  · rename_i same
    rw [same.1, same.2, absent]
  · rfl

end NestedMap

end Aspl
