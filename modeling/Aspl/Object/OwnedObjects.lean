import Aspl.Base.NestedMap
import Aspl.CoreAudio
import Mathlib.Logic.Function.Basic

/-! What one owner sees of the ownership hierarchy: the map of the objects that it owns, and the
owner's ID that each object stores.
-/

namespace Aspl.Object

open CoreAudio

universe u

/-- `ownedObjects_` of one owner, and `ownerObjectID_` of all objects. -/
structure OwnedObjects (Object : Type u) where
  ownedObjects : NestedMap AudioObjectPropertyScope AudioObjectID Object := .empty
  ownerObjectID : Object → AudioObjectID := fun _ => kAudioObjectUnknown

namespace OwnedObjects

variable {Object : Type u} [DecidableEq Object]

/-- `AddOwnedObject()` of the owner with the ID `ownerID`. An object that has an owner is detached
from it first, which waits for a mutex that this call holds: there is no state after it.
-/
def addOwnedObject (ownerID : AudioObjectID) (objectID : Object → AudioObjectID)
    (owned : OwnedObjects Object) (object : Object) (scope : AudioObjectPropertyScope)
    : Option (OwnedObjects Object) :=
  if owned.ownerObjectID object ≠ kAudioObjectUnknown then none
  else some {
    ownedObjects := owned.ownedObjects.assign scope (objectID object) object
    ownerObjectID := Function.update owned.ownerObjectID object ownerID
  }

/-- `RemoveOwnedObject()`. -/
def removeOwnedObject (owned : OwnedObjects Object) (objectID : AudioObjectID)
    : OwnedObjects Object :=
  match owned.ownedObjects.findInner? objectID with
  | none => owned
  | some (scope, object) => {
      ownedObjects := owned.ownedObjects.remove scope objectID
      ownerObjectID := Function.update owned.ownerObjectID object kAudioObjectUnknown
    }

/-- `GetOwnedObjectIDs()`. -/
def getOwnedObjectIDs (isInstance : Object → AudioClassID → Bool)
    (owned : OwnedObjects Object) (scope : AudioObjectPropertyScope) (classID : AudioClassID)
    : List AudioObjectID :=
  owned.ownedObjects.entries.flatMap (fun (objectScope, objectMap) =>
    if scope ≠ kAudioObjectPropertyScopeGlobal ∧ scope ≠ objectScope then []
    else
      objectMap.entries.filterMap (fun (objectID, object) =>
        if classID ≠ 0 ∧ !isInstance object classID then none else some objectID))

/-- The owner has an object under a scope. -/
def Owns (objectID : Object → AudioObjectID) (owned : OwnedObjects Object)
    (scope : AudioObjectPropertyScope) (object : Object)
    : Prop :=
  owned.ownedObjects.lookup scope (objectID object) = some object

/-- Every entry of the map is under the ID of its object, an object is under one scope only, and
the objects in the map are those that have this owner.
-/
structure Sound (ownerID : AudioObjectID) (objectID : Object → AudioObjectID)
    (owned : OwnedObjects Object)
    : Prop where
  keys
    : ∀ scope id object,
        owned.ownedObjects.lookup scope id = some object → objectID object = id
  single
    : ∀ scope other object,
        owned.Owns objectID scope object → owned.Owns objectID other object → scope = other
  owner
    : ∀ object, owned.ownerObjectID object = ownerID ↔ ∃ scope, owned.Owns objectID scope object

section Lemmas

variable {ownerID : AudioObjectID} {objectID : Object → AudioObjectID}
  {owned next : OwnedObjects Object} {scope : AudioObjectPropertyScope} {object : Object}

omit [DecidableEq Object] in
/-- The IDs listed for a scope and a class are those of the entries that match them. -/
theorem getOwnedObjectIDs_eq (isInstance : Object → AudioClassID → Bool)
    (owned : OwnedObjects Object) (scope : AudioObjectPropertyScope) (classID : AudioClassID)
    : owned.getOwnedObjectIDs isInstance scope classID
      = (owned.ownedObjects.listing.filter (fun (objectScope, _, object) =>
          (scope = kAudioObjectPropertyScopeGlobal ∨ scope = objectScope)
          ∧ (classID = 0 ∨ isInstance object classID = true))).map (·.2.1) := by
  rw [getOwnedObjectIDs, NestedMap.listing, List.filter_flatMap, List.map_flatMap]
  refine congrArg (List.flatMap · _) (funext ?_)
  rintro ⟨objectScope, objectMap⟩
  dsimp only
  by_cases match' : scope = kAudioObjectPropertyScopeGlobal ∨ scope = objectScope
  · have here : ¬ (scope ≠ kAudioObjectPropertyScopeGlobal ∧ scope ≠ objectScope) := by tauto
    rw [if_neg here, List.filter_map, List.map_map, ← List.filterMap_eq_map,
      ← List.filterMap_eq_filter, List.filterMap_filterMap]
    refine congrArg (List.filterMap · _) (funext ?_)
    rintro ⟨id, object⟩
    by_cases any : classID = 0
    · simp [any, match']
    · cases instance' : isInstance object classID <;>
        simp [any, instance', match', Option.guard]
  · have elsewhere : scope ≠ kAudioObjectPropertyScopeGlobal ∧ scope ≠ objectScope := by tauto
    rw [if_pos elsewhere, List.filter_eq_nil_iff.mpr, List.map_nil]
    intro entry member
    obtain ⟨inner, -, rfl⟩ := List.mem_map.mp member
    simp [elsewhere]

omit [DecidableEq Object] in
/-- An ID is listed exactly if it is that of an object owned in the scope and of the class. -/
theorem Sound.mem_getOwnedObjectIDs (sound : owned.Sound ownerID objectID)
    (isInstance : Object → AudioClassID → Bool) (scope : AudioObjectPropertyScope)
    (classID : AudioClassID) (id : AudioObjectID)
    : id ∈ owned.getOwnedObjectIDs isInstance scope classID
      ↔ ∃ objectScope object,
          owned.Owns objectID objectScope object
          ∧ objectID object = id
          ∧ (scope = kAudioObjectPropertyScopeGlobal ∨ scope = objectScope)
          ∧ (classID = 0 ∨ isInstance object classID = true) := by
  rw [getOwnedObjectIDs_eq]
  constructor
  · intro member
    obtain ⟨⟨objectScope, key, object⟩, listed, rfl⟩ := List.mem_map.mp member
    obtain ⟨stored, matches'⟩ := List.mem_filter.mp listed
    have found := NestedMap.mem_listing.mp stored
    obtain rfl : objectID object = key := sound.keys _ _ _ found
    exact ⟨objectScope, object, found, rfl, by simpa using matches'⟩
  · rintro ⟨objectScope, object, found, rfl, matches'⟩
    exact List.mem_map.mpr ⟨(objectScope, objectID object, object),
      List.mem_filter.mpr ⟨NestedMap.mem_listing.mpr found, by simpa using matches'⟩, rfl⟩

omit [DecidableEq Object] in
/-- No ID is listed twice: an object is under one scope, and IDs are distinct. -/
theorem Sound.nodup_getOwnedObjectIDs (sound : owned.Sound ownerID objectID)
    (distinct : Function.Injective objectID) (isInstance : Object → AudioClassID → Bool)
    (scope : AudioObjectPropertyScope) (classID : AudioClassID)
    : (owned.getOwnedObjectIDs isInstance scope classID).Nodup := by
  rw [getOwnedObjectIDs_eq]
  refine List.Nodup.map_on ?_ (owned.ownedObjects.nodup_listing.filter _)
  rintro ⟨firstScope, id, first⟩ inFirst ⟨secondScope, other, second⟩ inSecond same
  obtain rfl : id = other := same
  have foundFirst := NestedMap.mem_listing.mp (List.mem_filter.mp inFirst).1
  have foundSecond := NestedMap.mem_listing.mp (List.mem_filter.mp inSecond).1
  have firstID := sound.keys _ _ _ foundFirst
  have secondID := sound.keys _ _ _ foundSecond
  obtain rfl : first = second := distinct (firstID.trans secondID.symm)
  rw [← firstID] at foundFirst foundSecond
  rw [sound.single _ _ _ foundFirst foundSecond]

/-- Only an object without an owner is added. -/
theorem addOwnedObject_eq_some_iff
    : addOwnedObject ownerID objectID owned object scope = some next
      ↔ owned.ownerObjectID object = kAudioObjectUnknown
        ∧ next = {
          ownedObjects := owned.ownedObjects.assign scope (objectID object) object
          ownerObjectID := Function.update owned.ownerObjectID object ownerID
        } := by
  rw [addOwnedObject]
  by_cases free : owned.ownerObjectID object = kAudioObjectUnknown
  · simp [free, eq_comm]
  · simp [free]

omit [DecidableEq Object] in
/-- An object without an owner is not in the map. -/
theorem Sound.lookup_of_free (sound : owned.Sound ownerID objectID)
    (distinct : Function.Injective objectID) (known : ownerID ≠ kAudioObjectUnknown)
    (free : owned.ownerObjectID object = kAudioObjectUnknown) (other : AudioObjectPropertyScope)
    : owned.ownedObjects.lookup other (objectID object) = none := by
  cases found : owned.ownedObjects.lookup other (objectID object) with
  | none => rfl
  | some stored =>
      obtain rfl : stored = object := distinct (sound.keys _ _ _ found)
      have owner := (sound.owner stored).mpr ⟨other, found⟩
      exact absurd (owner.symm.trans free) known

/-- Adding an object without an owner keeps the map sound, and the owner then has that object
besides those it had.
-/
theorem Sound.add (sound : owned.Sound ownerID objectID)
    (distinct : Function.Injective objectID) (known : ownerID ≠ kAudioObjectUnknown)
    (added : addOwnedObject ownerID objectID owned object scope = some next)
    : next.Sound ownerID objectID
      ∧ ∀ other item,
          next.Owns objectID other item
          ↔ (other = scope ∧ item = object) ∨ owned.Owns objectID other item := by
  obtain ⟨free, rfl⟩ := addOwnedObject_eq_some_iff.mp added
  have absent := sound.lookup_of_free distinct known free
  have owns : ∀ other item,
      Owns objectID {
          ownedObjects := owned.ownedObjects.assign scope (objectID object) object
          ownerObjectID := Function.update owned.ownerObjectID object ownerID
        } other item
      ↔ (other = scope ∧ item = object) ∨ owned.Owns objectID other item := by
    intro other item
    rw [Owns, Owns, NestedMap.lookup_assign]
    by_cases here : other = scope ∧ objectID item = objectID object
    · obtain rfl := distinct here.2
      simp [here.1]
    · have different : ¬ (other = scope ∧ item = object) :=
        fun same => here ⟨same.1, congrArg objectID same.2⟩
      simp [here, different]
  refine ⟨⟨?_, ?_, ?_⟩, owns⟩
  · intro other id item found
    rw [NestedMap.lookup_assign] at found
    split at found
    · rename_i same
      cases found
      exact same.2.symm
    · exact sound.keys _ _ _ found
  · intro first second item inFirst inSecond
    rcases (owns _ _).mp inFirst with ⟨rfl, rfl⟩ | before
    · rcases (owns _ _).mp inSecond with ⟨rfl, -⟩ | before
      · rfl
      · rw [Owns, absent] at before
        cases before
    · rcases (owns _ _).mp inSecond with ⟨-, rfl⟩ | before'
      · rw [Owns, absent] at before
        cases before
      · exact sound.single _ _ _ before before'
  · intro item
    simp only [owns]
    by_cases same : item = object
    · subst same
      simp
    · simp [same, sound.owner]

/-- Removing an object by its ID keeps the map sound, and the owner then has what it had without
that object, which has no owner any more if it had this one.
-/
theorem Sound.remove (sound : owned.Sound ownerID objectID)
    (distinct : Function.Injective objectID) (known : ownerID ≠ kAudioObjectUnknown)
    (object : Object)
    : (owned.removeOwnedObject (objectID object)).Sound ownerID objectID
      ∧ (∀ other item,
          (owned.removeOwnedObject (objectID object)).Owns objectID other item
          ↔ item ≠ object ∧ owned.Owns objectID other item)
      ∧ ∀ item,
          (owned.removeOwnedObject (objectID object)).ownerObjectID item
          = if item = object ∧ owned.ownerObjectID item = ownerID then kAudioObjectUnknown
            else owned.ownerObjectID item := by
  rw [removeOwnedObject]
  cases entry : owned.ownedObjects.findInner? (objectID object) with
  | none =>
      have absent := NestedMap.lookup_of_findInner?_none entry
      refine ⟨sound, fun other item => ⟨fun owns => ⟨?_, owns⟩, And.right⟩, ?_⟩
      · rintro rfl
        rw [Owns, absent] at owns
        cases owns
      · intro item
        rw [if_neg]
        rintro ⟨rfl, owner⟩
        obtain ⟨scope, owns⟩ := (sound.owner item).mp owner
        rw [Owns, absent] at owns
        cases owns
  | some found =>
      obtain ⟨scope, stored⟩ := found
      have present := NestedMap.lookup_of_findInner? entry
      obtain rfl : stored = object := distinct (sound.keys _ _ _ present)
      have owns : ∀ other item,
          Owns objectID {
              ownedObjects := owned.ownedObjects.remove scope (objectID stored)
              ownerObjectID :=
                Function.update owned.ownerObjectID stored kAudioObjectUnknown
            } other item
          ↔ item ≠ stored ∧ owned.Owns objectID other item := by
        intro other item
        rw [Owns, Owns, NestedMap.lookup_remove]
        by_cases same : item = stored
        · subst same
          by_cases here : other = scope
          · simp [here]
          · have single := fun owned' => here (sound.single other scope item owned' present)
            simp only [here, false_and, if_false, ne_eq, not_true_eq_false]
            exact iff_of_false single id
        · have different : ¬ (other = scope ∧ objectID item = objectID stored) :=
            fun both => same (distinct both.2)
          simp [same, different]
      have owner := (sound.owner stored).mpr ⟨scope, present⟩
      refine ⟨⟨?_, ?_, ?_⟩, owns, ?_⟩
      · intro other id item kept
        rw [NestedMap.lookup_remove] at kept
        split at kept
        · cases kept
        · exact sound.keys _ _ _ kept
      · intro first second item inFirst inSecond
        exact sound.single _ _ _ ((owns _ _).mp inFirst).2 ((owns _ _).mp inSecond).2
      · intro item
        simp only [owns]
        by_cases same : item = stored
        · subst same
          simp [known.symm]
        · simp [same, sound.owner]
      · intro item
        by_cases same : item = stored
        · subst same
          simp [owner]
        · simp [same]

omit [DecidableEq Object] in
/-- An owner of nothing is sound. -/
theorem sound_new (known : ownerID ≠ kAudioObjectUnknown)
    : ({} : OwnedObjects Object).Sound ownerID objectID := by
  refine ⟨?_, ?_, ?_⟩
  · intro scope id object found
    cases found
  · intro first second object found
    cases found
  · intro object
    exact iff_of_false known.symm (fun ⟨_, found⟩ => by cases found)

end Lemmas

end OwnedObjects

end Aspl.Object
