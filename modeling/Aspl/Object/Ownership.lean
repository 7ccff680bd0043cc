import Aspl.Base.NestedMap
import Aspl.Base.References
import Aspl.Base.System
import Aspl.CoreAudio
import Mathlib.Data.Finset.Basic

/-! The ownership hierarchy of `Object`. The link between an owner and what it owns is stored in
both: the owner has the owned objects by scope and ID, with a `shared_ptr` to each, and the owned
object has a raw pointer to its owner and the owner's ID. Calls are made one after another, but a
call that waits for a mutex that is never unlocked stays where it is.
-/

namespace Aspl.Object

open CoreAudio

/-- Pointers to objects, which are numbered by the order of their construction. -/
abbrev Pointer := Nat

/-- The members of an object that its ownership is about. `isInstance` is the virtual method. -/
structure Fields where
  objectID : AudioObjectID
  isInstance : AudioClassID → Bool
  ownerObject : Option Pointer := none
  ownerObjectID : AudioObjectID := kAudioObjectUnknown
  ownedObjects : NestedMap AudioObjectPropertyScope AudioObjectID Pointer := .empty

/-- What has a `shared_ptr` to an object: the user, a call in progress, or the map of an owner. -/
inductive Holder where
  | user
  | call
  | owner (owner : Pointer) (scope : AudioObjectPropertyScope)
deriving DecidableEq

/-- The references in the map of an owner. -/
def Fields.references (owner : Pointer) (fields : Fields) : List (Holder × Pointer) :=
  fields.ownedObjects.listing.map (fun (scope, _, object) => (.owner owner scope, object))

/-- The objects that exist, those whose `writeMutex_` is locked, and the references that are not
in the map of an owner.
-/
structure State where
  objects : OrderedMap Pointer Fields
  locked : Finset Pointer
  held : References Holder Pointer
  constructed : Nat

/-- How a call ends that does not return. -/
inductive Stop where
  | blocked (state : State)
  | undefined

abbrev Outcome := Except Stop State

namespace State

variable (state : State)

def setLocked (locked : Finset Pointer) : State := { state with locked := locked }

/-- Assign members of an object. -/
def update (object : Pointer) (assign : Fields → Fields) : State :=
  match state.objects.find? object with
  | none => state
  | some fields => { state with objects := state.objects.insert object (assign fields) }

def setOwner (object : Pointer) (owner : Option Pointer) (ownerID : AudioObjectID) : State :=
  state.update object ({ · with ownerObject := owner, ownerObjectID := ownerID })

def setOwnedObjects (owner : Pointer)
    (ownedObjects : NestedMap AudioObjectPropertyScope AudioObjectID Pointer)
    : State :=
  state.update owner ({ · with ownedObjects })

-----------------------------------------------------------------------------------------
-- Methods
-----------------------------------------------------------------------------------------

def getID (object : Pointer) : AudioObjectID :=
  ((state.objects.find? object).map Fields.objectID).getD kAudioObjectUnknown

def getOwnerID (object : Pointer) : AudioObjectID :=
  ((state.objects.find? object).map Fields.ownerObjectID).getD kAudioObjectUnknown

def hasOwner (object : Pointer) : Bool := state.getOwnerID object != kAudioObjectUnknown

def isInstance (object : Pointer) (classID : AudioClassID) : Bool :=
  ((state.objects.find? object).map (·.isInstance classID)).getD false

def ownerObject (object : Pointer) : Option Pointer :=
  ((state.objects.find? object).map Fields.ownerObject).getD none

def ownedObjects (object : Pointer)
    : NestedMap AudioObjectPropertyScope AudioObjectID Pointer :=
  ((state.objects.find? object).map Fields.ownedObjects).getD .empty

/-- `GetOwnedObjectIDs()`. -/
def getOwnedObjectIDs (owner : Pointer) (scope : AudioObjectPropertyScope)
    (classID : AudioClassID)
    : List AudioObjectID :=
  (state.ownedObjects owner).entries.flatMap (fun (objectScope, objectMap) =>
    if scope ≠ kAudioObjectPropertyScopeGlobal ∧ scope ≠ objectScope then []
    else
      objectMap.entries.filterMap (fun (objectID, object) =>
        if classID ≠ 0 ∧ !state.isInstance object classID then none else some objectID))

/-- `std::lock_guard` on the `writeMutex_` of an object. -/
def lock (object : Pointer) : Outcome :=
  if (state.objects.find? object).isNone then .error .undefined
  else if object ∈ state.locked then .error (.blocked state)
  else .ok (state.setLocked (insert object state.locked))

def unlock (object : Pointer) : State := state.setLocked (state.locked.erase object)

/-- The `shared_ptr`s among the locals of a call exist as long as the call does. -/
def keeping (locals : List Pointer) : Outcome → Outcome
  | .error (.blocked state) =>
      .error (.blocked { state with held := state.held + Multiset.ofList (locals.map (.call, ·)) })
  | outcome => outcome

def detachOwner (object : Pointer) : Outcome := do
  let state ← state.lock object
  return (state.setOwner object none kAudioObjectUnknown).unlock object

/-- `RemoveOwnedObject()`. Its locals are a copy of the map and of the `shared_ptr` it removes. -/
def removeOwnedObject (owner : Pointer) (objectID : AudioObjectID) : Outcome := do
  let state ← state.lock owner
  let ownedObjects := state.ownedObjects owner
  match ownedObjects.findInner? objectID with
  | none => return state.unlock owner
  | some (scope, object) =>
      let locals := object :: ownedObjects.listing.map (·.2.2)
      let state ← keeping locals (state.detachOwner object)
      return (state.setOwnedObjects owner (ownedObjects.remove scope objectID)).unlock owner

def attachOwner (object owner : Pointer) : Outcome := do
  let state ← state.lock object
  let state ←
    match state.ownerObject object with
    | none => pure state
    | some previous => state.removeOwnedObject previous (state.getID object)
  return (state.setOwner object (some owner) (state.getID owner)).unlock object

def addOwnedObject (owner : Pointer) (object : Option Pointer)
    (scope : AudioObjectPropertyScope)
    : Outcome := do
  let state ← state.lock owner
  match object with
  | none => return state.unlock owner
  | some object =>
      if object = owner then return state.unlock owner
      let ownedObjects := (state.ownedObjects owner).assign scope (state.getID object) object
      let state ← (state.setOwnedObjects owner ownedObjects).attachOwner object owner
      return state.unlock owner

/-- The references in the maps of owners. -/
def ownerReferences (objects : OrderedMap Pointer Fields) : References Holder Pointer :=
  Multiset.ofList (objects.entries.flatMap (fun (owner, fields) => fields.references owner))

def useCount (object : Pointer) : Nat :=
  (state.held + ownerReferences state.objects).count object

/-- `~Object()`, which lets go of the objects in the map. It changes none of them. -/
def destroy (object : Pointer) : State :=
  { state with objects := state.objects.erase object }

/-- Destroy the objects to which there are no references, and those that lose the last one by
that.
-/
def collect : Nat → State → State
  | 0, state => state
  | fuel + 1, state =>
      match state.objects.entries.find? (fun (object, _) => state.useCount object = 0) with
      | none => state
      | some (object, _) => collect fuel (state.destroy object)

def destroyUnreferenced : State := collect state.objects.size state

end State

-----------------------------------------------------------------------------------------
-- Runs
-----------------------------------------------------------------------------------------

/-- What the user does: construct objects, copy and drop `shared_ptr`s to them, and change who
owns them.
-/
inductive Label where
  | construct (objectID : AudioObjectID) (isInstance : AudioClassID → Bool)
  | copy (object : Pointer)
  | drop (object : Pointer)
  | addOwnedObject (owner : Pointer) (object : Option Pointer)
    (scope : AudioObjectPropertyScope)
  | removeOwnedObject (owner : Pointer) (objectID : AudioObjectID)

/-- A new object, to which the user has a reference. -/
def State.construct (state : State) (objectID : AudioObjectID)
    (isInstance : AudioClassID → Bool)
    : State where
  objects := state.objects.insert state.constructed { objectID, isInstance }
  locked := state.locked
  held := state.held.acquire .user state.constructed
  constructed := state.constructed + 1

/-- Whether a step can happen: an object gets an ID that no other one has, and arguments are
objects that exist.
-/
def Enabled (state : State) : Label → Prop
  | .construct objectID _ =>
      objectID ≠ kAudioObjectUnknown
      ∧ ∀ entry ∈ state.objects.entries, entry.2.objectID ≠ objectID
  | .copy object => (state.objects.find? object).isSome
  | .drop object => (.user, object) ∈ state.held
  | .addOwnedObject owner object _ =>
      (state.objects.find? owner).isSome
      ∧ ∀ added ∈ object, (state.objects.find? added).isSome
  | .removeOwnedObject owner _ => (state.objects.find? owner).isSome

/-- What a step does before objects are destroyed. A caller keeps the objects that it passes. -/
def perform (state : State) : Label → Outcome
  | .construct objectID isInstance => .ok (state.construct objectID isInstance)
  | .copy object => .ok { state with held := state.held.acquire .user object }
  | .drop object => .ok { state with held := state.held.release .user object }
  | .addOwnedObject owner object scope =>
      State.keeping (owner :: object.toList) (state.addOwnedObject owner object scope)
  | .removeOwnedObject owner objectID =>
      State.keeping [owner] (state.removeOwnedObject owner objectID)

/-- The states that a step may lead to: any one if what it does is undefined. -/
def Leads : Outcome → State → Prop
  | .ok state, next => next = state.destroyUnreferenced
  | .error (.blocked state), next => next = state.destroyUnreferenced
  | .error .undefined, _ => True

/-- All runs of objects that own each other. -/
def system : System State Label where
  initial state := state.objects = .empty ∧ state.locked = ∅ ∧ state.held = 0
  step state label next := Enabled state label ∧ Leads (perform state label) next

end Aspl.Object
