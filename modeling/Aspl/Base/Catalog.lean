import Aspl.Base.OrderedMap
import Mathlib.Data.List.Count
import Mathlib.Data.List.Nodup
import Mathlib.Logic.Function.Basic

/-! Lists of items under keys together with a map that finds the items by ID, updated one after
the other. Nothing here names a program.
-/

namespace Aspl

universe u v w

/-- The lists, and the map. -/
structure Catalog (Key : Type u) (ID : Type v) (Item : Type w) [LinearOrder ID] where
  lists : Key → List Item := fun _ => []
  byID : OrderedMap ID Item := .empty

namespace Catalog

variable {Key : Type u} {ID : Type v} {Item : Type w} [LinearOrder ID] (itemID : Item → ID)

/-- Append an item to a list, and store it under its ID. -/
def add [DecidableEq Key] (catalog : Catalog Key ID Item) (key : Key) (item : Item)
    : Catalog Key ID Item where
  lists := Function.update catalog.lists key (catalog.lists key ++ [item])
  byID := catalog.byID.insert (itemID item) item

/-- Remove all occurrences of an item from a list, and erase what is stored under its ID. -/
def remove [DecidableEq Key] [DecidableEq Item] (catalog : Catalog Key ID Item) (key : Key)
    (item : Item)
    : Catalog Key ID Item where
  lists := Function.update catalog.lists key ((catalog.lists key).filter (· ≠ item))
  byID := catalog.byID.erase (itemID item)

/-- Items are listed only under the keys where they belong, and stored only under their IDs. -/
structure Filed (belongs : Key → Item → Prop) (catalog : Catalog Key ID Item) : Prop where
  listed : ∀ key item, item ∈ catalog.lists key → belongs key item
  stored
    : ∀ id item,
        catalog.byID.find? id = some item → itemID item = id ∧ ∃ key, belongs key item

/-- An item is listed once and found by its ID, or it is neither listed nor found. -/
def Holds [DecidableEq Item] (catalog : Catalog Key ID Item) (key : Key) (item : Item)
    : Bool → Prop
  | true =>
      (catalog.lists key).count item = 1 ∧ catalog.byID.find? (itemID item) = some item
  | false => item ∉ catalog.lists key ∧ catalog.byID.find? (itemID item) = none

/-- Every listed item is found by its ID and vice versa, and each is listed once. -/
structure Indexed (catalog : Catalog Key ID Item) : Prop where
  once : ∀ key, (catalog.lists key).Nodup
  single
    : ∀ key other item, item ∈ catalog.lists key → item ∈ catalog.lists other → key = other
  found
    : ∀ id item,
        catalog.byID.find? id = some item
        ↔ itemID item = id ∧ ∃ key, item ∈ catalog.lists key

variable {itemID} {catalog : Catalog Key ID Item} {belongs : Key → Item → Prop}
  {key otherKey : Key} {item other : Item} {listed : Bool}

theorem filed_new : ({} : Catalog Key ID Item).Filed itemID belongs where
  listed := by simp
  stored := by simp

theorem holds_new [DecidableEq Item]
    : ({} : Catalog Key ID Item).Holds itemID key item false := by
  simp [Holds]

/-- An item is a member of its list exactly if it is held. -/
theorem Holds.mem_iff [DecidableEq Item] (holds : catalog.Holds itemID key item listed)
    : item ∈ catalog.lists key ↔ listed = true := by
  cases listed with
  | true => exact iff_of_true (List.count_pos_iff.mp (by rw [holds.1]; exact Nat.one_pos)) rfl
  | false => exact iff_of_false holds.1 (by simp)

/-- Whether an item is held depends on its occurrences and on what is stored under its ID. -/
theorem Holds.congr [DecidableEq Item] {next : Catalog Key ID Item}
    (holds : catalog.Holds itemID key item listed)
    (count : (next.lists key).count item = (catalog.lists key).count item)
    (found : next.byID.find? (itemID item) = catalog.byID.find? (itemID item))
    : next.Holds itemID key item listed := by
  cases listed with
  | true => exact ⟨count.trans holds.1, found.trans holds.2⟩
  | false =>
      refine ⟨fun member => ?_, found.trans holds.2⟩
      rw [← List.count_pos_iff, count, List.count_pos_iff] at member
      exact holds.1 member

/-- A catalog that holds every item where it belongs, or does not hold it, is indexed. -/
theorem Filed.indexed [DecidableEq Item] (filed : catalog.Filed itemID belongs)
    (functional : ∀ key other item, belongs key item → belongs other item → key = other)
    (held : ∀ key item, belongs key item → ∃ listed, catalog.Holds itemID key item listed)
    : catalog.Indexed itemID where
  once key := by
    refine List.nodup_iff_count_le_one.mpr (fun item => ?_)
    by_cases member : item ∈ catalog.lists key
    · obtain ⟨listed, holds⟩ := held key item (filed.listed key item member)
      obtain rfl := holds.mem_iff.mp member
      exact holds.1.le
    · rw [List.count_eq_zero_of_not_mem member]
      exact Nat.zero_le 1
  single key other item here there :=
    functional key other item (filed.listed key item here) (filed.listed other item there)
  found id item := by
    constructor
    · intro stored
      obtain ⟨rfl, key, belongs⟩ := filed.stored id item stored
      obtain ⟨listed, holds⟩ := held key item belongs
      cases listed with
      | true => exact ⟨rfl, key, holds.mem_iff.mpr rfl⟩
      | false =>
          rw [holds.2] at stored
          cases stored
    · rintro ⟨rfl, key, member⟩
      obtain ⟨listed, holds⟩ := held key item (filed.listed key item member)
      obtain rfl := holds.mem_iff.mp member
      exact holds.2

section Updates

variable [DecidableEq Key]

/-- What is listed after an item is added was listed before, or it is the item. -/
theorem mem_lists_add
    : other ∈ (catalog.add itemID key item).lists otherKey
      ↔ other ∈ catalog.lists otherKey ∨ otherKey = key ∧ other = item := by
  by_cases same : otherKey = key
  · subst same
    simp [Catalog.add]
  · simp [Catalog.add, same]

/-- Removing an item lists nothing else. -/
theorem lists_remove_sublist [DecidableEq Item]
    : ((catalog.remove itemID key item).lists otherKey).Sublist (catalog.lists otherKey) := by
  by_cases same : otherKey = key
  · subst same
    simp only [Catalog.remove, Function.update_self]
    exact List.filter_sublist
  · simp only [Catalog.remove, Function.update_of_ne same]
    exact List.Sublist.refl _

theorem Filed.add (filed : catalog.Filed itemID belongs) (here : belongs key item)
    : (catalog.add itemID key item).Filed itemID belongs where
  listed other entry member := by
    rcases mem_lists_add.mp member with before | ⟨rfl, rfl⟩
    · exact filed.listed _ _ before
    · exact here
  stored id entry found := by
    rcases OrderedMap.find?_insert_eq_some_iff.mp found with ⟨rfl, rfl⟩ | ⟨-, before⟩
    · exact ⟨rfl, key, here⟩
    · exact filed.stored _ _ before

variable [DecidableEq Item]

theorem Filed.remove (filed : catalog.Filed itemID belongs)
    : (catalog.remove itemID key item).Filed itemID belongs where
  listed _ _ member :=
    filed.listed _ _ (lists_remove_sublist.subset member)
  stored _ _ found :=
    filed.stored _ _ (OrderedMap.find?_erase_eq_some_iff.mp found).2

/-- An item that was not listed is listed once after it is added. -/
theorem Holds.add (holds : catalog.Holds itemID key item false)
    : (catalog.add itemID key item).Holds itemID key item true := by
  refine ⟨?_, ?_⟩
  · simp [Catalog.add, List.count_eq_zero_of_not_mem holds.1]
  · simp [Catalog.add, OrderedMap.find?_insert]

/-- An item is not listed after it is removed. -/
theorem holds_remove
    : (catalog.remove itemID key item).Holds itemID key item false := by
  refine ⟨?_, ?_⟩
  · simp [Catalog.remove]
  · simp [Catalog.remove, OrderedMap.find?_erase]

/-- Adding an item leaves the others as they are. -/
theorem Holds.add_other (holds : catalog.Holds itemID otherKey other listed)
    (different : itemID other ≠ itemID item)
    : (catalog.add itemID key item).Holds itemID otherKey other listed := by
  have apart : item ≠ other := fun same => different (congrArg itemID same.symm)
  have count : ((catalog.add itemID key item).lists otherKey).count other
      = (catalog.lists otherKey).count other := by
    simp only [Catalog.add, Function.update_apply]
    split
    · rename_i same
      simp [same, apart]
    · rfl
  have found : (catalog.add itemID key item).byID.find? (itemID other)
      = catalog.byID.find? (itemID other) := by
    simp [Catalog.add, OrderedMap.find?_insert, different]
  exact holds.congr count found

/-- Removing an item leaves the others as they are. -/
theorem Holds.remove_other (holds : catalog.Holds itemID otherKey other listed)
    (different : itemID other ≠ itemID item)
    : (catalog.remove itemID key item).Holds itemID otherKey other listed := by
  have apart : other ≠ item := fun same => different (congrArg itemID same)
  have count : ((catalog.remove itemID key item).lists otherKey).count other
      = (catalog.lists otherKey).count other := by
    simp only [Catalog.remove, Function.update_apply]
    split
    · rename_i same
      rw [List.count_filter (by simpa using apart), same]
    · rfl
  have found : (catalog.remove itemID key item).byID.find? (itemID other)
      = catalog.byID.find? (itemID other) := by
    simp [Catalog.remove, OrderedMap.find?_erase, different]
  exact holds.congr count found

end Updates

end Catalog

end Aspl
