import Aspl.Object.OwnedObjects
import Aspl.Object.OwnershipRuns

/-! What one owner sees of the ownership hierarchy is all that its methods depend on: while no
mutex is locked, they do to the objects what they do to the owner's view, and a method that has
no state after it in the view never returns.
-/

namespace Aspl.Object

open CoreAudio

variable {state : State} {owner object : Pointer}

/-- The map of an owner, and the owner's IDs that objects store. -/
def State.view (state : State) (owner : Pointer) : OwnedObjects Pointer where
  ownedObjects := state.ownedObjects owner
  ownerObjectID := state.getOwnerID

theorem getOwnedObjectIDs_view (scope : AudioObjectPropertyScope) (classID : AudioClassID)
    : (state.view owner).getOwnedObjectIDs state.isInstance scope classID
      = state.getOwnedObjectIDs owner scope classID := rfl

/-- An object that does not exist has no owner. -/
theorem getOwnerID_of_not_live (dead : ¬ state.Live object)
    : state.getOwnerID object = kAudioObjectUnknown := by
  rw [State.getOwnerID, Option.not_isSome_iff_eq_none.mp dead]
  rfl

/-- The view of sound links is sound. -/
theorem Sound.view (sound : Sound state) (live : state.Live owner)
    : (state.view owner).Sound (state.getID owner) state.getID where
  keys scope id object stored := (sound.entry owner object scope id stored).2.1.symm
  single scope other object here there := sound.single owner object _ _ _ _ here there
  owner object := by
    constructor
    · intro identified
      have liveObject : state.Live object := by
        by_contra dead
        exact sound.identified owner live
          (identified.symm.trans (getOwnerID_of_not_live dead))
      obtain ⟨other, scope, objectID, liveOther, same, stored⟩ :=
        (sound.linksAgree.owner object _ liveObject (sound.identified owner live)).mp identified
      obtain rfl := sound.distinct other owner liveOther live same
      obtain ⟨-, rfl, -⟩ := sound.entry other object scope objectID stored
      exact ⟨scope, stored⟩
    · rintro ⟨scope, stored⟩
      obtain ⟨liveObject, -, -⟩ := sound.entry owner object scope _ stored
      exact (sound.linksAgree.owner object _ liveObject (sound.identified owner live)).mpr
        ⟨owner, scope, _, live, rfl, stored⟩

-----------------------------------------------------------------------------------------
-- Adding
-----------------------------------------------------------------------------------------

theorem view_added {scope : AudioObjectPropertyScope} (live : state.Live owner)
    (liveObject : state.Live object) (locked : Finset Pointer)
    : ((added state owner object scope).setLocked locked).view owner = {
        ownedObjects := (state.ownedObjects owner).assign scope (state.getID object) object
        ownerObjectID := Function.update state.getOwnerID object (state.getID owner)
      } := by
  refine congrArg₂ OwnedObjects.mk ?_ (funext (fun other => ?_))
  · rw [State.ownedObjects_setLocked, added, State.ownedObjects_setOwner,
      State.ownedObjects_setOwnedObjects _ live, if_pos rfl]
  · have assigned : (state.setOwnedObjects owner
        ((state.ownedObjects owner).assign scope (state.getID object) object)).Live object :=
      (State.live_setOwnedObjects _).mpr liveObject
    change (added state owner object scope).getOwnerID other = _
    rw [added, State.getOwnerID_setOwner _ _ assigned, State.getOwnerID_setOwnedObjects,
      Function.update_apply]

/-- Adding an object that has an owner waits forever, whichever its owner is. -/
theorem addOwnedObject_of_owned {scope : AudioObjectPropertyScope} (sound : Sound state)
    (live : state.Live owner) (liveObject : state.Live object) (different : object ≠ owner)
    (owned : state.getOwnerID object ≠ kAudioObjectUnknown)
    : ∃ next, state.addOwnedObject owner (some object) scope = .error (.blocked next) := by
  cases link : state.ownerObject object with
  | none => exact absurd (sound.unowned object link) owned
  | some previous =>
      obtain ⟨livePrevious, -, otherScope, stored⟩ :=
        sound.owned object previous liveObject (sound.referenced object liveObject) link
      exact sound.toPlaced.addOwnedObject_waits scope live liveObject different link stored

/-- Adding an object does to the view what it does to the objects. -/
theorem addOwnedObject_view {scope : AudioObjectPropertyScope} (sound : Sound state)
    (idle : state.locked = ∅) (live : state.Live owner) (liveObject : state.Live object)
    (different : object ≠ owner)
    : match (state.view owner).addOwnedObject (state.getID owner) state.getID object scope with
      | some owned =>
          ∃ next,
            state.addOwnedObject owner (some object) scope = .ok next
            ∧ next.view owner = owned
      | none =>
          ∃ next, state.addOwnedObject owner (some object) scope = .error (.blocked next) := by
  rw [OwnedObjects.addOwnedObject]
  by_cases owned : (state.view owner).ownerObjectID object = kAudioObjectUnknown
  · have unlinked := sound.ownerObject_of_hasOwner liveObject (bne_eq_false_iff_eq.mpr owned)
    have isAdded := addOwnedObject_of_free scope live liveObject (by simp [idle])
      (by simp [idle, different]) unlinked
    rw [if_neg (not_not.mpr owned)]
    exact ⟨_, isAdded, view_added live liveObject state.locked⟩
  · rw [if_pos owned]
    exact addOwnedObject_of_owned sound live liveObject different owned

-----------------------------------------------------------------------------------------
-- Removing
-----------------------------------------------------------------------------------------

theorem view_removed {scope : AudioObjectPropertyScope} {objectID : AudioObjectID}
    (live : state.Live owner) (liveObject : state.Live object) (locked : Finset Pointer)
    : ((removed state owner object scope objectID).setLocked locked).view owner = {
        ownedObjects := (state.ownedObjects owner).remove scope objectID
        ownerObjectID := Function.update state.getOwnerID object kAudioObjectUnknown
      } := by
  refine congrArg₂ OwnedObjects.mk ?_ (funext (fun other => ?_))
  · rw [State.ownedObjects_setLocked, removed,
      State.ownedObjects_setOwnedObjects _ ((State.live_setOwner _ _).mpr live), if_pos rfl]
  · change (removed state owner object scope objectID).getOwnerID other = _
    rw [removed, State.getOwnerID_setOwnedObjects, State.getOwnerID_setOwner _ _ liveObject,
      Function.update_apply]

/-- Removing an ID does to the view what it does to the objects, unless an object owns itself. -/
theorem removeOwnedObject_view {objectID : AudioObjectID} (sound : Sound state)
    (idle : state.locked = ∅) (live : state.Live owner)
    (notSelf : ∀ scope, ¬ Owns state owner owner scope objectID)
    : ∃ next,
        state.removeOwnedObject owner objectID = .ok next
        ∧ next.view owner = (state.view owner).removeOwnedObject objectID := by
  cases entry : (state.ownedObjects owner).findInner? objectID with
  | none =>
      rw [OwnedObjects.removeOwnedObject, State.view, entry]
      rcases lock_cases live with ⟨isLocked, -⟩ | ⟨-, taken⟩
      · rw [idle] at isLocked
        cases isLocked
      · rw [State.removeOwnedObject, taken]
        simp only [bind, Except.bind, State.ownedObjects_setLocked, entry]
        exact ⟨_, rfl, rfl⟩
  | some found =>
      obtain ⟨scope, object⟩ := found
      have stored := NestedMap.lookup_of_findInner? entry
      obtain ⟨liveObject, -, -⟩ := sound.entry owner object scope objectID stored
      have different : object ≠ owner := fun same => notSelf scope (same ▸ stored)
      have isRemoved := removeOwnedObject_of_free live liveObject (by simp [idle])
        (by simp [idle, different]) entry
      refine ⟨_, isRemoved, ?_⟩
      rw [view_removed live liveObject, OwnedObjects.removeOwnedObject, State.view, entry]

end Aspl.Object
