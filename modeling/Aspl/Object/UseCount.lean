import Aspl.Object.Ownership

/-! What can be read of objects after their members are assigned, and what that does to the
numbers of references to objects.
-/

namespace Aspl.Object

open CoreAudio

namespace State

variable {state next : State} {object other owner : Pointer}

/-- An object that is constructed and not destroyed. -/
def Live (state : State) (object : Pointer) : Prop := (state.objects.find? object).isSome

/-- The members of an object after an assignment. -/
theorem find?_update (state : State) (object other : Pointer) (assign : Fields → Fields)
    : (state.update object assign).objects.find? other
      = if other = object then (state.objects.find? object).map assign
        else state.objects.find? other := by
  cases found : state.objects.find? object with
  | none =>
      simp only [update, found, Option.map_none]
      split
      · rename_i same
        rw [same, found]
      · rfl
  | some fields => simp only [update, found, OrderedMap.find?_insert, Option.map_some]

/-- Assignments keep everything but the objects. -/
theorem update_eq (state : State) (object : Pointer) (assign : Fields → Fields)
    : state.update object assign
      = { state with objects := (state.update object assign).objects } := by
  unfold update
  split <;> rfl

@[simp] theorem held_update (assign : Fields → Fields)
    : (state.update object assign).held = state.held := by
  rw [update_eq]

@[simp] theorem constructed_update (assign : Fields → Fields)
    : (state.update object assign).constructed = state.constructed := by
  rw [update_eq]

/-- What an assignment does not change is read as before. -/
theorem read_update {β : Type} (read : Fields → β) (default : β) (assign : Fields → Fields)
    (keeps : ∀ fields, read (assign fields) = read fields)
    : (((state.update object assign).objects.find? other).map read).getD default
      = ((state.objects.find? other).map read).getD default := by
  rw [find?_update]
  split
  · rename_i same
    rw [same, Option.map_map, show read ∘ assign = read from funext keeps]
  · rfl

/-- What an assignment to a living object changes is read as assigned. -/
theorem read_update_of_live {β : Type} (read : Fields → β) (default : β)
    (assign : Fields → Fields) (live : state.Live object) {value : β}
    (sets : ∀ fields, read (assign fields) = value)
    : (((state.update object assign).objects.find? other).map read).getD default
      = if other = object then value
        else ((state.objects.find? other).map read).getD default := by
  rw [find?_update]
  split
  · obtain ⟨fields, found⟩ := Option.isSome_iff_exists.mp live
    rw [found, Option.map_some, Option.map_some, sets, Option.getD_some]
  · rfl

theorem live_update (assign : Fields → Fields)
    : (state.update object assign).Live other ↔ state.Live other := by
  rw [Live, find?_update, Live]
  split
  · rename_i same
    rw [same, Option.isSome_map]
  · rfl

section SetLocked

variable (locked : Finset Pointer)

@[simp] theorem locked_setLocked : (state.setLocked locked).locked = locked := rfl

@[simp] theorem setLocked_setLocked (before : Finset Pointer)
    : (state.setLocked before).setLocked locked = state.setLocked locked := rfl

@[simp] theorem live_setLocked : (state.setLocked locked).Live object ↔ state.Live object :=
  Iff.rfl

@[simp] theorem getID_setLocked
    : (state.setLocked locked).getID object = state.getID object := rfl

@[simp] theorem ownerObject_setLocked
    : (state.setLocked locked).ownerObject object = state.ownerObject object := rfl

@[simp] theorem ownedObjects_setLocked
    : (state.setLocked locked).ownedObjects object = state.ownedObjects object := rfl

/-- Assignments do not depend on locks. -/
@[simp] theorem update_setLocked (assign : Fields → Fields)
    : (state.setLocked locked).update object assign
      = (state.update object assign).setLocked locked := by
  unfold update setLocked
  cases state.objects.find? object <;> rfl

@[simp] theorem setOwner_setLocked (link : Option Pointer) (ownerID : AudioObjectID)
    : (state.setLocked locked).setOwner object link ownerID
      = (state.setOwner object link ownerID).setLocked locked :=
  update_setLocked _ _

@[simp] theorem setOwnedObjects_setLocked
    (map : NestedMap AudioObjectPropertyScope AudioObjectID Pointer)
    : (state.setLocked locked).setOwnedObjects owner map
      = (state.setOwnedObjects owner map).setLocked locked :=
  update_setLocked _ _

end SetLocked

section SetOwner

variable (link : Option Pointer) (ownerID : AudioObjectID)

@[simp] theorem live_setOwner
    : (state.setOwner object link ownerID).Live other ↔ state.Live other :=
  live_update _

@[simp] theorem getID_setOwner
    : (state.setOwner object link ownerID).getID other = state.getID other :=
  read_update Fields.objectID _ _ (fun _ => rfl)

@[simp] theorem ownedObjects_setOwner
    : (state.setOwner object link ownerID).ownedObjects other = state.ownedObjects other :=
  read_update Fields.ownedObjects _ _ (fun _ => rfl)

theorem ownerObject_setOwner (live : state.Live object)
    : (state.setOwner object link ownerID).ownerObject other
      = if other = object then link else state.ownerObject other :=
  read_update_of_live Fields.ownerObject _ _ live (fun _ => rfl)

theorem getOwnerID_setOwner (live : state.Live object)
    : (state.setOwner object link ownerID).getOwnerID other
      = if other = object then ownerID else state.getOwnerID other :=
  read_update_of_live Fields.ownerObjectID _ _ live (fun _ => rfl)

end SetOwner

section SetOwnedObjects

variable (map : NestedMap AudioObjectPropertyScope AudioObjectID Pointer)

@[simp] theorem live_setOwnedObjects
    : (state.setOwnedObjects owner map).Live other ↔ state.Live other :=
  live_update _

@[simp] theorem getID_setOwnedObjects
    : (state.setOwnedObjects owner map).getID other = state.getID other :=
  read_update Fields.objectID _ _ (fun _ => rfl)

@[simp] theorem ownerObject_setOwnedObjects
    : (state.setOwnedObjects owner map).ownerObject other = state.ownerObject other :=
  read_update Fields.ownerObject _ _ (fun _ => rfl)

@[simp] theorem getOwnerID_setOwnedObjects
    : (state.setOwnedObjects owner map).getOwnerID other = state.getOwnerID other :=
  read_update Fields.ownerObjectID _ _ (fun _ => rfl)

theorem ownedObjects_setOwnedObjects (live : state.Live owner)
    : (state.setOwnedObjects owner map).ownedObjects other
      = if other = owner then map else state.ownedObjects other :=
  read_update_of_live Fields.ownedObjects _ _ live (fun _ => rfl)

/-- Assigning the map that an owner has changes nothing. -/
theorem setOwnedObjects_self : state.setOwnedObjects owner (state.ownedObjects owner) = state := by
  rw [setOwnedObjects, update, ownedObjects]
  cases found : state.objects.find? owner with
  | none => rfl
  | some fields =>
      have same : state.objects.insert owner fields = state.objects :=
        state.objects.insert_of_find? found
      exact congrArg (fun objects => { state with objects := objects }) same

end SetOwnedObjects

-----------------------------------------------------------------------------------------
-- Counting references
-----------------------------------------------------------------------------------------

/-- Only objects that exist own others. -/
theorem find?_of_lookup {scope : AudioObjectPropertyScope} {objectID : AudioObjectID}
    (stored : (state.ownedObjects owner).lookup scope objectID = some object)
    : ∃ fields, state.objects.find? owner = some fields
        ∧ fields.ownedObjects.lookup scope objectID = some object := by
  unfold ownedObjects at stored
  cases found : state.objects.find? owner with
  | none =>
      rw [found] at stored
      cases stored
  | some fields =>
      rw [found] at stored
      exact ⟨fields, rfl, stored⟩

theorem live_of_lookup {scope : AudioObjectPropertyScope} {objectID : AudioObjectID}
    (stored : (state.ownedObjects owner).lookup scope objectID = some object)
    : state.Live owner := by
  obtain ⟨fields, found, -⟩ := find?_of_lookup stored
  rw [Live, found]
  rfl

/-- The references in a map are those of its entries. -/
theorem mem_references {fields : Fields} {holder : Holder}
    : (holder, object) ∈ fields.references owner
      ↔ ∃ scope objectID, holder = .owner owner scope
          ∧ fields.ownedObjects.lookup scope objectID = some object := by
  rw [Fields.references, List.mem_map]
  constructor
  · rintro ⟨⟨scope, objectID, _⟩, listed, same⟩
    cases same
    exact ⟨scope, objectID, rfl, NestedMap.mem_listing.mp listed⟩
  · rintro ⟨scope, objectID, rfl, stored⟩
    exact ⟨(scope, objectID, object), NestedMap.mem_listing.mpr stored, rfl⟩

/-- The references in the maps are those in one map and those in the others. -/
theorem ownerReferences_of_find? {objects : OrderedMap Pointer Fields} {fields : Fields}
    (found : objects.find? owner = some fields)
    : ownerReferences objects
      = Multiset.ofList (fields.references owner) + ownerReferences (objects.erase owner) := by
  rw [ownerReferences, ownerReferences, Multiset.coe_add, Multiset.coe_eq_coe]
  exact (objects.entries_perm_erase found).flatMap_right _

theorem ownerReferences_insert (objects : OrderedMap Pointer Fields) (fields : Fields)
    : ownerReferences (objects.insert owner fields)
      = Multiset.ofList (fields.references owner) + ownerReferences (objects.erase owner) := by
  rw [ownerReferences, ownerReferences, Multiset.coe_add, Multiset.coe_eq_coe]
  exact (objects.entries_insert_perm owner fields).flatMap_right _

/-- Assigning members other than the map does not change the references. -/
theorem ownerReferences_update (assign : Fields → Fields)
    (keeps : ∀ fields, (assign fields).ownedObjects = fields.ownedObjects)
    : ownerReferences (state.update object assign).objects = ownerReferences state.objects := by
  unfold update
  cases found : state.objects.find? object with
  | none => rfl
  | some fields =>
      rw [ownerReferences_insert, ownerReferences_of_find? found, Fields.references, keeps]
      rfl

@[simp] theorem useCount_setOwner (link : Option Pointer) (ownerID : AudioObjectID)
    : (state.setOwner object link ownerID).useCount other = state.useCount other := by
  have same : ownerReferences (state.setOwner object link ownerID).objects
      = ownerReferences state.objects := ownerReferences_update _ (fun _ => rfl)
  have held : (state.setOwner object link ownerID).held = state.held := held_update _
  rw [useCount, useCount, same, held]

/-- The count of an object, with that in the map of an owner apart. -/
theorem useCount_of_find? {fields : Fields} (found : state.objects.find? owner = some fields)
    : state.useCount other
      = state.held.count other
        + (References.count (Multiset.ofList (fields.references owner)) other
          + (ownerReferences (state.objects.erase owner)).count other) := by
  rw [useCount, ownerReferences_of_find? found, References.count_add, References.count_add]

/-- The count of an object after an assignment to the map of an owner. -/
theorem useCount_setOwnedObjects {fields : Fields}
    (found : state.objects.find? owner = some fields)
    (map : NestedMap AudioObjectPropertyScope AudioObjectID Pointer)
    : (state.setOwnedObjects owner map).useCount other
      = state.held.count other
        + (References.count
              (Multiset.ofList (Fields.references owner { fields with ownedObjects := map })) other
          + (ownerReferences (state.objects.erase owner)).count other) := by
  rw [setOwnedObjects, update, found]
  rw [useCount, ownerReferences_insert, References.count_add, References.count_add]

/-- A map with one more entry has one more reference, to the object of the entry. -/
theorem count_references_cons (more fewer : Fields) {scope : AudioObjectPropertyScope}
    {objectID : AudioObjectID}
    (entries : more.ownedObjects.listing.Perm
      ((scope, objectID, object) :: fewer.ownedObjects.listing))
    : References.count (Multiset.ofList (more.references owner)) other
      = References.count (Multiset.ofList (fewer.references owner)) other
        + if object = other then 1 else 0 := by
  rw [Fields.references, Multiset.coe_eq_coe.mpr (entries.map _), List.map_cons,
    ← Multiset.cons_coe, References.count, Multiset.countP_cons]
  rfl

/-- The count of an object after its owner's map gets it under keys that have no entry. -/
theorem useCount_assign {scope : AudioObjectPropertyScope} {objectID : AudioObjectID}
    (live : state.Live owner)
    (absent : (state.ownedObjects owner).lookup scope objectID = none) (object other : Pointer)
    : (state.setOwnedObjects owner
          ((state.ownedObjects owner).assign scope objectID object)).useCount other
      = state.useCount other + if object = other then 1 else 0 := by
  obtain ⟨fields, found⟩ := Option.isSome_iff_exists.mp live
  have owned : state.ownedObjects owner = fields.ownedObjects := by rw [ownedObjects, found]; rfl
  rw [owned] at absent ⊢
  rw [useCount_setOwnedObjects found, useCount_of_find? found,
    count_references_cons _ fields (NestedMap.listing_assign_perm absent)]
  omega

/-- The count of an object before an entry of its owner's map is removed. -/
theorem useCount_remove {scope : AudioObjectPropertyScope} {objectID : AudioObjectID}
    (stored : (state.ownedObjects owner).lookup scope objectID = some object) (other : Pointer)
    : state.useCount other
      = (state.setOwnedObjects owner
            ((state.ownedObjects owner).remove scope objectID)).useCount other
        + if object = other then 1 else 0 := by
  obtain ⟨fields, found⟩ := Option.isSome_iff_exists.mp (live_of_lookup stored)
  have owned : state.ownedObjects owner = fields.ownedObjects := by rw [ownedObjects, found]; rfl
  rw [owned] at stored ⊢
  rw [useCount_setOwnedObjects found, useCount_of_find? found,
    count_references_cons fields
      { fields with ownedObjects := fields.ownedObjects.remove scope objectID }
      (NestedMap.listing_remove_perm stored)]
  omega

/-- An owned object has a reference. -/
theorem useCount_ne_zero_of_lookup {scope : AudioObjectPropertyScope}
    {objectID : AudioObjectID}
    (stored : (state.ownedObjects owner).lookup scope objectID = some object)
    : state.useCount object ≠ 0 := by
  obtain ⟨fields, found, listed⟩ := find?_of_lookup stored
  refine References.count_ne_zero_iff.mpr ⟨.owner owner scope, ?_⟩
  rw [ownerReferences_of_find? found]
  refine Multiset.mem_add.mpr (Or.inr (Multiset.mem_add.mpr (Or.inl ?_)))
  exact mem_references.mpr ⟨scope, objectID, rfl, listed⟩

section Construct

variable {objectID : AudioObjectID} {isInstance : AudioClassID → Bool}

theorem find?_construct (state : State) (objectID : AudioObjectID)
    (isInstance : AudioClassID → Bool) (other : Pointer)
    : (state.construct objectID isInstance).objects.find? other
      = if other = state.constructed then some { objectID, isInstance }
        else state.objects.find? other :=
  OrderedMap.find?_insert _ _ _ _

theorem live_construct
    : (state.construct objectID isInstance).Live other
      ↔ other = state.constructed ∨ state.Live other := by
  rw [Live, find?_construct]
  split
  · rename_i same
    exact iff_of_true rfl (Or.inl same)
  · rename_i different
    exact (or_iff_right different).symm

theorem getID_construct
    : (state.construct objectID isInstance).getID other
      = if other = state.constructed then objectID else state.getID other := by
  rw [getID, find?_construct]
  split <;> rfl

theorem find?_of_not_live (dead : ¬state.Live object) : state.objects.find? object = none :=
  Option.not_isSome_iff_eq_none.mp dead

/-- Members with their initial values are read as those of an object that does not exist. -/
theorem read_construct {β : Type} (read : Fields → β) (default : β)
    (unused : ¬state.Live state.constructed)
    (initially : read { objectID, isInstance } = default)
    : (((state.construct objectID isInstance).objects.find? other).map read).getD default
      = ((state.objects.find? other).map read).getD default := by
  rw [find?_construct]
  split
  · rename_i same
    rw [same, find?_of_not_live unused]
    exact initially
  · rfl

/-- A new object has one reference and owns nothing. -/
theorem useCount_construct (unused : ¬state.Live state.constructed)
    : (state.construct objectID isInstance).useCount other
      = state.useCount other + if state.constructed = other then 1 else 0 := by
  have references : ownerReferences (state.construct objectID isInstance).objects
      = ownerReferences state.objects := by
    rw [construct, ownerReferences_insert,
      state.objects.erase_of_find?_none (find?_of_not_live unused)]
    exact Multiset.zero_add _
  have held : (state.construct objectID isInstance).held.count other
      = state.held.count other + if state.constructed = other then 1 else 0 :=
    Multiset.countP_cons _ _ _
  rw [useCount, references, References.count_add, held, useCount, References.count_add]
  exact Nat.add_right_comm _ _ _

end Construct

-----------------------------------------------------------------------------------------
-- Destroyed objects
-----------------------------------------------------------------------------------------

theorem find?_destroy
    : (state.destroy object).objects.find? other
      = if other = object then none else state.objects.find? other :=
  OrderedMap.find?_erase _ _ _

theorem live_destroy : (state.destroy object).Live other ↔ other ≠ object ∧ state.Live other := by
  rw [Live, find?_destroy, Live]
  split
  · rename_i same
    exact iff_of_false Bool.false_ne_true (fun both => both.1 same)
  · rename_i different
    exact (and_iff_right different).symm

/-- Members of other objects are read as before. -/
theorem read_destroy {β : Type} (read : Fields → β) (default : β) (different : other ≠ object)
    : (((state.destroy object).objects.find? other).map read).getD default
      = ((state.objects.find? other).map read).getD default := by
  rw [find?_destroy, if_neg different]

/-- A destroyed object owns nothing, and others own what they did. -/
theorem lookup_destroy {scope : AudioObjectPropertyScope} {objectID : AudioObjectID}
    (stored : ((state.destroy other).ownedObjects owner).lookup scope objectID = some object)
    : owner ≠ other ∧ (state.ownedObjects owner).lookup scope objectID = some object := by
  have different := (live_destroy.mp (live_of_lookup stored)).1
  have same : (state.destroy other).ownedObjects owner = state.ownedObjects owner :=
    read_destroy Fields.ownedObjects .empty different
  exact ⟨different, same ▸ stored⟩

/-- A destroyed object lets go of what it owned. -/
theorem useCount_destroy {fields : Fields} (found : state.objects.find? object = some fields)
    (other : Pointer)
    : state.useCount other
      = (state.destroy object).useCount other
        + References.count (Multiset.ofList (fields.references object)) other := by
  rw [useCount_of_find? found, useCount, References.count_add]
  have rest : (state.destroy object).objects = state.objects.erase object := rfl
  have held : (state.destroy object).held = state.held := rfl
  rw [rest, held]
  omega

/-- An object whose count changes when another is destroyed was owned by it. -/
theorem exists_lookup_of_useCount_destroy (live : state.Live object)
    (before : state.useCount other ≠ 0) (after : (state.destroy object).useCount other = 0)
    : ∃ scope objectID, (state.ownedObjects object).lookup scope objectID = some other := by
  obtain ⟨fields, found⟩ := Option.isSome_iff_exists.mp live
  have counted := useCount_destroy found other
  rw [after, Nat.zero_add] at counted
  obtain ⟨holder, listed⟩ := References.count_ne_zero_iff.mp (counted ▸ before)
  obtain ⟨scope, objectID, -, stored⟩ := mem_references.mp listed
  have owned : state.ownedObjects object = fields.ownedObjects := by
    rw [ownedObjects, found]
    rfl
  exact ⟨scope, objectID, owned ▸ stored⟩

/-- An owned object loses a reference when its owner is destroyed. -/
theorem useCount_destroy_lt {scope : AudioObjectPropertyScope} {objectID : AudioObjectID}
    (stored : (state.ownedObjects object).lookup scope objectID = some other)
    : (state.destroy object).useCount other < state.useCount other := by
  obtain ⟨fields, found, listed⟩ := find?_of_lookup stored
  have counted := useCount_destroy found other
  have positive : References.count (Multiset.ofList (fields.references object)) other ≠ 0 :=
    References.count_ne_zero_iff.mpr
      ⟨.owner object scope, mem_references.mpr ⟨scope, objectID, rfl, listed⟩⟩
  omega

theorem useCount_destroy_le (live : state.Live object)
    : (state.destroy object).useCount other ≤ state.useCount other := by
  obtain ⟨fields, found⟩ := Option.isSome_iff_exists.mp live
  have counted := useCount_destroy found other
  omega

/-- Collecting keeps what destroying an object without references keeps, by induction on the
number of objects that may still be destroyed.
-/
theorem collect_preserves {holds : State → Prop}
    (step : ∀ state object, holds state → state.Live object → state.useCount object = 0
      → holds (state.destroy object))
    (fuel : Nat) (before : holds state)
    : holds (collect fuel state) := by
  induction fuel generalizing state with
  | zero => exact before
  | succ fuel ih =>
      unfold collect
      split
      · exact before
      · rename_i object fields found
        have member := state.objects.find?_eq_some_iff.mpr (List.mem_of_find?_eq_some found)
        have live : state.Live object := by rw [Live, member]; rfl
        exact ih (step state object before live (by simpa using List.find?_some found))

/-- Collecting with enough fuel leaves no object without references. -/
theorem useCount_collect_ne_zero {fuel : Nat} (enough : state.objects.size ≤ fuel)
    (live : (collect fuel state).Live object)
    : (collect fuel state).useCount object ≠ 0 := by
  induction fuel generalizing state with
  | zero =>
      obtain ⟨fields, found⟩ := Option.isSome_iff_exists.mp live
      have member := OrderedMap.find?_eq_some_iff _ |>.mp found
      have none : state.objects.entries = [] := List.eq_nil_of_length_eq_zero (by
        simpa [OrderedMap.size] using enough)
      rw [collect, none] at member
      cases member
  | succ fuel ih =>
      unfold collect at live ⊢
      split at live
      · rename_i nobody
        obtain ⟨fields, found⟩ := Option.isSome_iff_exists.mp live
        have member := OrderedMap.find?_eq_some_iff _ |>.mp found
        simpa using List.find?_eq_none.mp nobody _ member
      · rename_i other fields found
        refine ih ?_ live
        have member := state.objects.find?_eq_some_iff.mpr (List.mem_of_find?_eq_some found)
        have length := (state.objects.entries_perm_erase member).length_eq
        rw [List.length_cons] at length
        rw [OrderedMap.size] at enough
        exact Nat.le_of_succ_le_succ (length.symm.trans_le enough)

end State
end Aspl.Object
