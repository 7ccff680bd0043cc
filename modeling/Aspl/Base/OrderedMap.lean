import Mathlib.Order.Lattice
import Mathlib.Data.List.Basic
import Mathlib.Data.List.Nodup
import Mathlib.Tactic.Tauto

/-! Finite maps kept sorted by key, as `std::map` keeps them: lookup, insertion, erasure and
the entry with the least key. The sortedness of the entries is a field of the map.
-/

namespace Aspl

universe u v

/-- A finite map whose entries are listed by strictly increasing key. -/
structure OrderedMap (Key : Type u) (Value : Type v) [LinearOrder Key] where
  entries : List (Key × Value)
  sorted : entries.Pairwise (fun left right => left.1 < right.1)

namespace OrderedMap

variable {Key : Type u} {Value : Type v} [LinearOrder Key]

/-- Two maps with the same entries are the same map: sortedness is a proposition. -/
@[ext] theorem ext {left right : OrderedMap Key Value}
    (same : left.entries = right.entries)
    : left = right := by
  cases left
  cases right
  cases same
  rfl

instance [DecidableEq Value] : DecidableEq (OrderedMap Key Value) := fun left right =>
  decidable_of_iff (left.entries = right.entries)
    ⟨OrderedMap.ext, fun same => same ▸ rfl⟩

/-- The map without entries. -/
def empty : OrderedMap Key Value := ⟨[], .nil⟩

/-- The value stored under a key, if there is one. -/
def find? (map : OrderedMap Key Value) (key : Key) : Option Value :=
  (map.entries.find? (fun entry => entry.1 == key)).map Prod.snd

/-- The map without the entry of a key. -/
def erase (map : OrderedMap Key Value) (key : Key) : OrderedMap Key Value where
  entries := map.entries.filter (fun entry => entry.1 ≠ key)
  sorted := map.sorted.filter _

/-- The map with a key bound to a value, whether or not it was bound before. -/
def insert (map : OrderedMap Key Value) (key : Key) (value : Value)
    : OrderedMap Key Value where
  entries :=
    map.entries.filter (fun entry => entry.1 < key)
    ++ (key, value) :: map.entries.filter (fun entry => key < entry.1)
  sorted := by
    refine List.pairwise_append.mpr ⟨map.sorted.filter _, ?_, ?_⟩
    · refine List.pairwise_cons.mpr ⟨?_, map.sorted.filter _⟩
      intro entry member
      simpa using (List.mem_filter.mp member).2
    · intro left before right after
      have low : left.1 < key := by simpa using (List.mem_filter.mp before).2
      rcases List.mem_cons.mp after with rfl | high
      · exact low
      · exact low.trans (by simpa using (List.mem_filter.mp high).2)

/-- The entry with the least key: `*map.begin()` of a map that is not empty. -/
def min? (map : OrderedMap Key Value) : Option (Key × Value) :=
  map.entries.head?

/-- The number of entries. -/
def size (map : OrderedMap Key Value) : Nat :=
  map.entries.length

/-- The keys of the entries are distinct, by strictness of their order. -/
theorem nodup_keys (map : OrderedMap Key Value) : (map.entries.map Prod.fst).Nodup :=
  List.pairwise_map.mpr (map.sorted.imp (fun less => less.ne))

/-- The entries of a map are distinct. -/
theorem nodup_entries (map : OrderedMap Key Value) : map.entries.Nodup :=
  map.sorted.imp (fun less => ne_of_apply_ne Prod.fst less.ne)

/-- At most one value is stored under a key. -/
theorem value_unique (map : OrderedMap Key Value) {key : Key} {left right : Value}
    (first : (key, left) ∈ map.entries) (second : (key, right) ∈ map.entries)
    : left = right :=
  (Prod.mk.inj (List.inj_on_of_nodup_map map.nodup_keys first second rfl)).2

/-- Lookup finds exactly the entries of the map. -/
theorem find?_eq_some_iff (map : OrderedMap Key Value) {key : Key} {value : Value}
    : map.find? key = some value ↔ (key, value) ∈ map.entries := by
  constructor
  · intro found
    obtain ⟨⟨other, stored⟩, first, rfl⟩ := Option.map_eq_some_iff.mp found
    have same : other = key := by simpa using List.find?_some first
    exact same ▸ List.mem_of_find?_eq_some first
  · intro member
    cases first : map.entries.find? (fun entry => entry.1 == key) with
    | none => simpa using List.find?_eq_none.mp first _ member
    | some entry =>
        obtain ⟨other, stored⟩ := entry
        have same : other = key := by simpa using List.find?_some first
        subst same
        have values := map.value_unique (List.mem_of_find?_eq_some first) member
        simp [find?, first, values]

/-- Lookup fails exactly on the keys without an entry. -/
theorem find?_eq_none_iff (map : OrderedMap Key Value) {key : Key}
    : map.find? key = none ↔ ∀ value, (key, value) ∉ map.entries := by
  rw [Option.eq_none_iff_forall_ne_some]
  exact forall_congr' (fun value => not_congr map.find?_eq_some_iff)

/-- Maps with the same lookups have the same entries, by uniqueness of sorted lists. -/
theorem ext_find? {left right : OrderedMap Key Value}
    (same : ∀ key, left.find? key = right.find? key)
    : left = right := by
  have members : ∀ entry, entry ∈ left.entries ↔ entry ∈ right.entries := by
    rintro ⟨key, value⟩
    rw [← left.find?_eq_some_iff, ← right.find?_eq_some_iff, same key]
  have perm : left.entries.Perm right.entries :=
    (List.perm_ext_iff_of_nodup left.nodup_entries right.nodup_entries).mpr members
  exact OrderedMap.ext (perm.eq_of_pairwise (fun a b _ _ ab ba => absurd ab ba.asymm)
    left.sorted right.sorted)

-----------------------------------------------------------------------------------------
-- Entries of an updated map
-----------------------------------------------------------------------------------------

@[simp] theorem entries_empty : (empty : OrderedMap Key Value).entries = [] := rfl

@[simp] theorem find?_empty (key : Key)
    : (empty : OrderedMap Key Value).find? key = none := rfl

@[simp] theorem mem_erase (map : OrderedMap Key Value) (key : Key) (entry : Key × Value)
    : entry ∈ (map.erase key).entries ↔ entry ∈ map.entries ∧ entry.1 ≠ key := by
  simp [erase]

@[simp] theorem mem_insert (map : OrderedMap Key Value) (key : Key) (value : Value)
    (entry : Key × Value)
    : entry ∈ (map.insert key value).entries
      ↔ entry = (key, value) ∨ (entry ∈ map.entries ∧ entry.1 ≠ key) := by
  simp only [insert, List.mem_append, List.mem_cons, List.mem_filter, decide_eq_true_eq,
    ne_iff_lt_or_gt]
  tauto

/-- Lookup after an erasure. -/
theorem find?_erase (map : OrderedMap Key Value) (key other : Key)
    : (map.erase key).find? other = if other = key then none else map.find? other := by
  ext value
  rw [find?_eq_some_iff, mem_erase]
  by_cases same : other = key <;> simp [same, find?_eq_some_iff]

/-- Lookup after an insertion. -/
theorem find?_insert (map : OrderedMap Key Value) (key other : Key) (value : Value)
    : (map.insert key value).find? other
      = if other = key then some value else map.find? other := by
  ext stored
  rw [find?_eq_some_iff, mem_insert]
  by_cases same : other = key
  · simp [same, eq_comm]
  · simp [same, find?_eq_some_iff]

/-- What an erasure leaves was stored under another key. -/
theorem find?_erase_eq_some_iff {map : OrderedMap Key Value} {key other : Key} {stored : Value}
    : (map.erase key).find? other = some stored
      ↔ other ≠ key ∧ map.find? other = some stored := by
  rw [find?_erase]
  by_cases same : other = key <;> simp [same]

/-- What is stored after an insertion is new, or was stored under another key. -/
theorem find?_insert_eq_some_iff {map : OrderedMap Key Value} {key other : Key}
    {value stored : Value}
    : (map.insert key value).find? other = some stored
      ↔ (other = key ∧ stored = value) ∨ (other ≠ key ∧ map.find? other = some stored) := by
  rw [find?_insert]
  by_cases same : other = key <;> simp [same, eq_comm]

/-- Inserting the value that is stored changes nothing. -/
theorem insert_of_find? (map : OrderedMap Key Value) {key : Key} {value : Value}
    (found : map.find? key = some value)
    : map.insert key value = map := by
  apply ext_find?
  intro other
  rw [find?_insert]
  split
  · rename_i same; rw [same, found]
  · rfl

/-- Erasing a key without an entry changes nothing. -/
theorem erase_of_find?_none (map : OrderedMap Key Value) {key : Key}
    (absent : map.find? key = none)
    : map.erase key = map := by
  apply ext_find?
  intro other
  rw [find?_erase]
  split
  · rename_i same; rw [same, absent]
  · rfl

/-- The entries of a map are those that an erasure leaves and the erased one. -/
theorem entries_perm_erase (map : OrderedMap Key Value) {key : Key} {value : Value}
    (found : map.find? key = some value)
    : map.entries.Perm ((key, value) :: (map.erase key).entries) := by
  have absent : (key, value) ∉ (map.erase key).entries := by simp
  refine (List.perm_ext_iff_of_nodup map.nodup_entries
    (List.nodup_cons.mpr ⟨absent, nodup_entries _⟩)).mpr ?_
  intro ⟨other, stored⟩
  rw [List.mem_cons, mem_erase]
  have member := map.find?_eq_some_iff.mp found
  by_cases same : other = key
  · subst same
    constructor
    · intro mine
      exact Or.inl (by rw [map.value_unique mine member])
    · intro either
      rcases either with mine | ⟨-, different⟩
      · exact mine ▸ member
      · exact absurd rfl different
  · simp [same]

/-- The entries after an insertion are those that an erasure leaves and the inserted one. -/
theorem entries_insert_perm (map : OrderedMap Key Value) (key : Key) (value : Value)
    : (map.insert key value).entries.Perm ((key, value) :: (map.erase key).entries) := by
  have absent : (key, value) ∉ (map.erase key).entries := by simp
  refine (List.perm_ext_iff_of_nodup (nodup_entries _)
    (List.nodup_cons.mpr ⟨absent, nodup_entries _⟩)).mpr ?_
  intro entry
  rw [List.mem_cons, mem_erase, mem_insert]

/-- A key above all others is inserted at the end. -/
theorem entries_insert_of_forall_lt (map : OrderedMap Key Value) {key : Key} {value : Value}
    (above : ∀ entry ∈ map.entries, entry.1 < key)
    : (map.insert key value).entries = map.entries ++ [(key, value)] := by
  have low : map.entries.filter (fun entry => entry.1 < key) = map.entries :=
    List.filter_eq_self.mpr (fun entry member => by simpa using above entry member)
  have high : map.entries.filter (fun entry => key < entry.1) = [] :=
    List.filter_eq_nil_iff.mpr (fun entry member => by simpa using (above entry member).le)
  simp only [insert, low, high]

/-- Erasing a key leaves the entries before and after its own. -/
theorem entries_erase_append (map : OrderedMap Key Value) {key : Key} {value : Value}
    {before after : List (Key × Value)} (shape : map.entries = before ++ (key, value) :: after)
    : (map.erase key).entries = before ++ after := by
  have sorted := map.sorted
  rw [shape, List.pairwise_append, List.pairwise_cons] at sorted
  obtain ⟨-, ⟨above, -⟩, below⟩ := sorted
  have keptBefore : before.filter (fun entry => entry.1 ≠ key) = before :=
    List.filter_eq_self.mpr (fun entry member =>
      by simpa using (below entry member _ List.mem_cons_self).ne)
  have keptAfter : after.filter (fun entry => entry.1 ≠ key) = after :=
    List.filter_eq_self.mpr (fun entry member => by simpa using (above entry member).ne')
  simp only [erase, shape, List.filter_append, List.filter_cons, keptBefore, keptAfter]
  simp

/-- Erasing the least key drops the first entry. -/
theorem entries_erase_head (map : OrderedMap Key Value) {key : Key} {value : Value}
    {rest : List (Key × Value)} (shape : map.entries = (key, value) :: rest)
    : (map.erase key).entries = rest := by
  have erased := map.entries_erase_append (shape.trans (List.nil_append _).symm)
  rwa [List.nil_append] at erased

end OrderedMap

end Aspl
