import Aspl.Dispatcher.Registration

/-! The functions of `Bridge`, by which HAL reaches objects: each finds an object by its ID and
calls a method of a class to which it casts the object without testing its class. IDs are freed
and reused by objects of any class.
-/

namespace Aspl.Driver

open CoreAudio Dispatcher

/-- The classes of objects. -/
inductive ObjectType where
  | object
  | plugin
  | device
  | stream
  | volumeControl
  | muteControl
deriving DecidableEq

/-- A class is another one or derives from it; all derive from `Object`. -/
def ObjectType.isA (objectType base : ObjectType) : Bool :=
  base = .object || objectType = base

/-- The functions that are generated from `Bridge.json`. -/
inductive Operation where
  | hasProperty
  | isPropertySettable
  | getPropertyDataSize
  | getPropertyData
  | setPropertyData
  | addClient
  | removeClient
  | startIO
  | stopIO
  | getZeroTimeStamp
  | willDoIOOperation
  | beginIOOperation
  | doIOOperation
  | endIOOperation
  | performConfigurationChange
  | abortConfigurationChange
deriving DecidableEq

/-- The `object_type` that an operation is declared with: the operations on properties are for
all objects, the others for devices.
-/
def Operation.objectType : Operation → ObjectType
  | .hasProperty | .isPropertySettable | .getPropertyDataSize | .getPropertyData
  | .setPropertyData => .object
  | _ => .device

/-- What an operation returns without having called a method. -/
inductive Result where
  | boolean (value : Bool)
  | status (status : OSStatus)
deriving DecidableEq

/-- The result where no object is found, which is `{}` for a `Boolean`. -/
def Operation.notRegistered : Operation → Result
  | .hasProperty => .boolean false
  | _ => .status .kAudioHardwareBadObjectError

/-- An object that the user constructs, with its dynamic class. Numbers tell objects apart. -/
structure Instance where
  objectType : ObjectType
  number : Nat
deriving DecidableEq

/-- `Dispatcher::Registration`, and whether shared pointers own the object. -/
structure Registration where
  object : Option Instance
  owned : Bool := true
deriving DecidableEq

/-- The registered objects, and the ID with which `UnregisterObject()` is under way. -/
structure State where
  registry : Registry Registration
  unregistering : Option AudioObjectID := none

namespace State

/-- A new dispatcher. -/
def new (hintMaximumID : AudioObjectID) : State where
  registry := .new hintMaximumID

def setRegistration (state : State) (objectID : AudioObjectID) (registration : Registration)
    : State :=
  {
    state with
    registry := {
      state.registry with
      registeredObjects := state.registry.registeredObjects.insert objectID registration
    }
  }

/-- `Dispatcher::FindObject()`, where it has acquired the lock of the registration or not. -/
def findObject (state : State) (objectID : AudioObjectID) (acquired : Bool) : Option Instance :=
  match state.registry.registeredObjects.find? objectID with
  | none => none
  | some registration =>
      if !acquired then none
      else
        match registration.object with
        | none => none
        -- `shared_from_this()` throws `std::bad_weak_ptr` when nothing owns the object
        | some object => if registration.owned then some object else none

end State

/-- What a function of `Bridge` does: it returns a result and leaves all objects alone, or calls
the method of its name on an object that it has cast to the declared class.
-/
inductive Response where
  | returned (result : Result)
  | invoked (object : Instance) (castTo : ObjectType)
deriving DecidableEq

/-- The template of the functions of `Bridge`. The driver is never null: `GetDriver()` computes
it from the reference that HAL got from the driver.
-/
def bridge (state : State) (operation : Operation) (objectID : AudioObjectID) (acquired : Bool)
    : Response :=
  match state.findObject objectID acquired with
  | none => .returned operation.notRegistered
  | some object => .invoked object operation.objectType

/-- What happens in a run. An object registers as it is constructed; it is released by the last
shared pointer to it, and unregisters as it is destroyed. `UnregisterObject()` marks the
registration before it goes on. HAL calls functions of `Bridge` at any time.
-/
inductive Event where
  | registerObject (object : Instance) (objectID : AudioObjectID)
  | release (objectID : AudioObjectID)
  | unregisterObject (objectID : AudioObjectID)
  | unregistered
  | bridge (operation : Operation) (objectID : AudioObjectID) (acquired : Bool)
deriving DecidableEq

/-- What an event does, if it can happen: `registrationMutex_` is held while `UnregisterObject()`
is under way.
-/
def advance (state : State) : Event → Option State
  | .registerObject object objectID =>
      if state.unregistering.isSome then none
      else
        some {
          state with
          registry := (state.registry.registerObject { object := some object } objectID).2
        }
  | .release objectID =>
      (state.registry.registeredObjects.find? objectID).map (fun registration =>
        state.setRegistration objectID { registration with owned := false })
  | .unregisterObject objectID =>
      if state.unregistering.isSome then none
      else if objectID = kAudioObjectUnknown then some state
      else
        match state.registry.registeredObjects.find? objectID with
        | none => some state
        | some registration =>
            some {
              state.setRegistration objectID { registration with object := none } with
              unregistering := some objectID
            }
  | .unregistered =>
      state.unregistering.map (fun objectID =>
        { registry := state.registry.unregisterObject objectID })
  | .bridge _ _ _ => some state

/-- The state after some events, from a new dispatcher, if they can happen. -/
def stateAfter (hintMaximumID : AudioObjectID) (events : List Event) : Option State :=
  events.foldlM advance (.new hintMaximumID)

/-- An operation for devices is invoked on devices only, and for an ID that is not that of a
device it returns an error and calls no method.
-/
structure ReachesDevices (state : State) (operation : Operation) (objectID : AudioObjectID)
    (acquired : Bool)
    : Prop where
  invoked
    : ∀ object castTo, bridge state operation objectID acquired = .invoked object castTo
      → object.objectType = .device
  rejected
    : (∀ registration object,
        state.registry.registeredObjects.find? objectID = some registration
        → registration.object = some object
        → object.objectType ≠ .device)
      → bridge state operation objectID acquired
        = .returned (.status .kAudioHardwareBadObjectError)

/-- `RegisterObject()` has returned an ID for an object, and since then the object has not been
released and the ID not been unregistered.
-/
def HoldsID (hintMaximumID : AudioObjectID) (events : List Event) (objectID : AudioObjectID)
    (object : Instance)
    : Prop :=
  ∃ before requested since state,
    events = before ++ .registerObject object requested :: since
    ∧ stateAfter hintMaximumID before = some state
    ∧ (state.registry.registerObject { object := some object } requested).1 = objectID
    ∧ objectID ≠ kAudioObjectUnknown
    ∧ .release objectID ∉ since
    ∧ .unregisterObject objectID ∉ since

/-- The events of a run end with a given one. -/
theorem stateAfter_snoc (hintMaximumID : AudioObjectID) (before : List Event) (event : Event)
    : stateAfter hintMaximumID (before ++ [event])
      = (stateAfter hintMaximumID before).bind (advance · event) := by
  rw [stateAfter, List.foldlM_append]
  refine Option.bind_congr (fun state _ => ?_)
  exact bind_pure (advance state event)

/-- What a run has done so far happened in order. -/
theorem exists_stateAfter {hintMaximumID : AudioObjectID} {before : List Event} {event : Event}
    {state : State} (after : stateAfter hintMaximumID (before ++ [event]) = some state)
    : ∃ middle,
        stateAfter hintMaximumID before = some middle ∧ advance middle event = some state := by
  rw [stateAfter_snoc] at after
  exact Option.bind_eq_some_iff.mp after

/-- An object holds an ID after one more event: it has got it now, or it held it before and has
not lost it.
-/
theorem holdsID_snoc {hintMaximumID : AudioObjectID} {before : List Event} {event : Event}
    {objectID : AudioObjectID} {object : Instance} {state : State}
    (earlier : stateAfter hintMaximumID before = some state)
    : HoldsID hintMaximumID (before ++ [event]) objectID object
      ↔ (∃ requested,
          event = .registerObject object requested
          ∧ (state.registry.registerObject { object := some object } requested).1 = objectID
          ∧ objectID ≠ kAudioObjectUnknown)
        ∨ (HoldsID hintMaximumID before objectID object
          ∧ event ≠ .release objectID
          ∧ event ≠ .unregisterObject objectID) := by
  constructor
  · rintro ⟨first, requested, since, middle, shape, reached, result, known, owned, kept⟩
    rcases List.eq_nil_or_concat since with rfl | ⟨rest, last, rfl⟩
    · obtain ⟨rfl, same⟩ := List.append_inj' shape rfl
      obtain rfl := Option.some.inj (earlier.symm.trans reached)
      exact .inl ⟨requested, List.singleton_inj.mp same, result, known⟩
    · rw [List.concat_eq_append, ← List.cons_append, ← List.append_assoc] at shape
      obtain ⟨rfl, same⟩ := List.append_inj' shape rfl
      obtain rfl := List.singleton_inj.mp same
      simp only [List.concat_eq_append, List.mem_append, List.mem_singleton, not_or] at owned kept
      exact .inr ⟨⟨first, requested, rest, middle, rfl, reached, result, known, owned.1, kept.1⟩,
        Ne.symm owned.2, Ne.symm kept.2⟩
  · rintro (⟨requested, rfl, result, known⟩ | ⟨held, owned, kept⟩)
    · exact ⟨before, requested, [], state, rfl, earlier, result, known, by simp, by simp⟩
    · obtain ⟨first, requested, since, middle, rfl, reached, result, known, stays, remains⟩ := held
      refine ⟨first, requested, since ++ [event], middle, by simp, reached, result, known, ?_, ?_⟩
      · simp [stays, Ne.symm owned]
      · simp [remains, Ne.symm kept]

-----------------------------------------------------------------------------------------
-- Steps
-----------------------------------------------------------------------------------------

/-- What holds after every event: no object has the ID zero, and the registration that is being
unregistered is marked.
-/
structure Sound (state : State) : Prop where
  consistent : state.registry.Consistent
  unknown : state.registry.registeredObjects.find? kAudioObjectUnknown = none
  marked
    : ∀ objectID registration,
        state.unregistering = some objectID
        → state.registry.registeredObjects.find? objectID = some registration
        → registration.object = none

/-- A new dispatcher has no objects. -/
theorem sound_new (hintMaximumID : AudioObjectID) : Sound (.new hintMaximumID) :=
  ⟨Registry.consistent_new hintMaximumID, rfl, fun _ _ none => by cases none⟩

/-- `FindObject()` finds the object of a registration that is not marked, while it is owned. -/
theorem findObject_eq_some_iff {state : State} {objectID : AudioObjectID} {object : Instance}
    : state.findObject objectID true = some object
      ↔ state.registry.registeredObjects.find? objectID = some ⟨some object, true⟩ := by
  rw [State.findObject]
  cases found : state.registry.registeredObjects.find? objectID with
  | none => simp
  | some registration =>
      obtain ⟨stored, owned⟩ := registration
      cases stored <;> cases owned <;> simp

/-- An ID that is chosen is not zero. -/
theorem chooseID_ne_unknown {registry : Registry Registration} (consistent : registry.Consistent)
    (requested : AudioObjectID)
    : (registry.chooseID requested).1 ≠ kAudioObjectUnknown := by
  rw [Registry.chooseID]
  split
  · intro zero
    exact Allocator.allocateID_unreserved consistent.bounded (zero ▸ List.mem_cons_self)
  · assumption

/-- Replacing a registration keeps the bitset and the map consistent. -/
theorem Sound.setRegistration {state : State} (sound : Sound state) {objectID : AudioObjectID}
    {registration : Registration}
    (found : state.registry.registeredObjects.find? objectID = some registration)
    (value : Registration)
    : (state.setRegistration objectID value).registry.Consistent
      ∧ (state.setRegistration objectID value).registry.registeredObjects.find?
          kAudioObjectUnknown = none := by
  have known : kAudioObjectUnknown ≠ objectID := by
    rintro rfl
    rw [sound.unknown] at found
    cases found
  refine ⟨⟨sound.consistent.bounded, fun other isSet => ?_⟩, ?_⟩
  · rw [State.setRegistration, OrderedMap.find?_insert]
    split
    · exact Option.some_ne_none _
    · exact sound.consistent.registered other isSet
  · rw [State.setRegistration, OrderedMap.find?_insert, if_neg known]
    exact sound.unknown

/-- Every event keeps the dispatcher sound. -/
theorem Sound.advance {state next : State} (sound : Sound state) {event : Event}
    (taken : advance state event = some next)
    : Sound next := by
  cases event with
  | registerObject object requested =>
      obtain ⟨free, registered⟩ := Option.ite_none_left_eq_some.mp taken
      obtain rfl := Option.some.inj registered
      refine ⟨sound.consistent.registerObject _ requested, ?_, ?_⟩
      · have chosen := chooseID_ne_unknown sound.consistent requested
        rcases state.registry.registerObject_cases { object := some object } requested
          with ⟨-, result⟩ | ⟨-, result⟩ <;> rw [result]
        · exact sound.unknown
        · rw [OrderedMap.find?_insert, if_neg chosen.symm]
          exact sound.unknown
      · intro objectID registration unregistering
        exact absurd unregistering (by simp [Option.not_isSome_iff_eq_none.mp free])
  | release objectID =>
      obtain ⟨registration, found, rfl⟩ := Option.map_eq_some_iff.mp taken
      obtain ⟨consistent, unknown⟩ := sound.setRegistration found _
      refine ⟨consistent, unknown, fun other value unregistering stored => ?_⟩
      rw [State.setRegistration, OrderedMap.find?_insert] at stored
      split at stored
      · rename_i same
        obtain rfl := Option.some.inj stored
        exact sound.marked other registration unregistering (same ▸ found)
      · exact sound.marked other value unregistering stored
  | unregisterObject objectID =>
      obtain ⟨-, taken⟩ := Option.ite_none_left_eq_some.mp taken
      split at taken
      · obtain rfl := Option.some.inj taken
        exact sound
      · split at taken
        · obtain rfl := Option.some.inj taken
          exact sound
        · rename_i registration found
          obtain rfl := Option.some.inj taken
          obtain ⟨consistent, unknown⟩ := sound.setRegistration found _
          refine ⟨consistent, unknown, fun other value unregistering stored => ?_⟩
          obtain rfl := Option.some.inj unregistering
          rw [State.setRegistration, OrderedMap.find?_insert, if_pos rfl] at stored
          obtain rfl := Option.some.inj stored
          rfl
  | unregistered =>
      obtain ⟨objectID, -, rfl⟩ := Option.map_eq_some_iff.mp taken
      refine ⟨sound.consistent.unregisterObject objectID, ?_, fun _ _ none => by cases none⟩
      rcases state.registry.unregisterObject_cases objectID with result | result <;> rw [result]
      · exact sound.unknown
      · rw [OrderedMap.find?_erase]
        split
        · rfl
        · exact sound.unknown
  | bridge operation objectID acquired =>
      obtain rfl := Option.some.inj taken
      exact sound

/-- An object is found after an event if it has got the ID now, or if it was found before and was
neither released nor marked.
-/
theorem Sound.findObject_advance {state next : State} (sound : Sound state) {event : Event}
    (taken : Driver.advance state event = some next) (objectID : AudioObjectID) (object : Instance)
    : next.findObject objectID true = some object
      ↔ (∃ requested,
          event = .registerObject object requested
          ∧ (state.registry.registerObject { object := some object } requested).1 = objectID
          ∧ objectID ≠ kAudioObjectUnknown)
        ∨ (state.findObject objectID true = some object
          ∧ event ≠ .release objectID
          ∧ event ≠ .unregisterObject objectID) := by
  simp only [findObject_eq_some_iff]
  cases event with
  | registerObject newcomer requested =>
      obtain ⟨-, registered⟩ := Option.ite_none_left_eq_some.mp taken
      obtain rfl := Option.some.inj registered
      simp only [Event.registerObject.injEq, reduceCtorEq, not_false_eq_true, and_true, ne_eq]
      have known := chooseID_ne_unknown sound.consistent requested
      rcases state.registry.registerObject_cases { object := some newcomer } requested
        with ⟨-, result⟩ | ⟨unused, result⟩
      · rw [result]
        constructor
        · exact .inr
        · rintro (⟨_, ⟨rfl, rfl⟩, zero, nonzero⟩ | found)
          · rw [result] at zero
            exact absurd zero.symm nonzero
          · exact found
      · rw [result, OrderedMap.find?_insert_eq_some_iff]
        constructor
        · rintro (⟨rfl, same⟩ | ⟨-, found⟩)
          · obtain ⟨⟨rfl⟩, -⟩ := Registration.mk.inj same
            exact .inl ⟨requested, ⟨rfl, rfl⟩, by rw [result], known⟩
          · exact .inr found
        · rintro (⟨_, ⟨rfl, rfl⟩, rfl, -⟩ | found)
          · exact .inl ⟨by rw [result], rfl⟩
          · refine .inr ⟨?_, found⟩
            rintro rfl
            rw [unused] at found
            cases found
  | release released =>
      obtain ⟨registration, found, rfl⟩ := Option.map_eq_some_iff.mp taken
      simp only [reduceCtorEq, false_and, exists_false, false_or, Event.release.injEq, ne_eq,
        not_false_eq_true, and_true]
      rw [State.setRegistration, OrderedMap.find?_insert_eq_some_iff]
      constructor
      · rintro (⟨-, same⟩ | ⟨other, stored⟩)
        · cases (Registration.mk.inj same).2
        · exact ⟨stored, Ne.symm other⟩
      · exact fun ⟨stored, other⟩ => .inr ⟨Ne.symm other, stored⟩
  | unregisterObject removed =>
      obtain ⟨-, taken⟩ := Option.ite_none_left_eq_some.mp taken
      simp only [reduceCtorEq, false_and, exists_false, false_or,
        Event.unregisterObject.injEq, ne_eq, not_false_eq_true, true_and]
      have absent (missing : state.registry.registeredObjects.find? removed = none) :
          state.registry.registeredObjects.find? objectID = some ⟨some object, true⟩
            ↔ state.registry.registeredObjects.find? objectID = some ⟨some object, true⟩
              ∧ ¬removed = objectID := by
        refine ⟨fun stored => ⟨stored, ?_⟩, And.left⟩
        rintro rfl
        rw [missing] at stored
        cases stored
      split at taken
      · rename_i zero
        obtain rfl := Option.some.inj taken
        exact absent (zero ▸ sound.unknown)
      · split at taken
        · rename_i missing
          obtain rfl := Option.some.inj taken
          exact absent missing
        · obtain rfl := Option.some.inj taken
          rw [State.setRegistration, OrderedMap.find?_insert_eq_some_iff]
          constructor
          · rintro (⟨-, same⟩ | ⟨other, stored⟩)
            · cases (Registration.mk.inj same).1
            · exact ⟨stored, Ne.symm other⟩
          · exact fun ⟨stored, other⟩ => .inr ⟨Ne.symm other, stored⟩
  | unregistered =>
      obtain ⟨removed, unregistering, rfl⟩ := Option.map_eq_some_iff.mp taken
      simp only [reduceCtorEq, false_and, exists_false, false_or, ne_eq, not_false_eq_true,
        and_true]
      rcases state.registry.unregisterObject_cases removed with result | result <;> rw [result]
      rw [OrderedMap.find?_erase_eq_some_iff]
      refine ⟨And.right, fun stored => ⟨?_, stored⟩⟩
      -- the object of the registration that goes is not found any more
      rintro rfl
      cases sound.marked _ _ unregistering stored
  | bridge operation called acquired =>
      obtain rfl := Option.some.inj taken
      simp

/-- In every run, the dispatcher is sound and finds exactly the objects that hold their IDs, by
induction on the events.
-/
theorem findObject_iff {hintMaximumID : AudioObjectID} {events : List Event} {state : State}
    (after : stateAfter hintMaximumID events = some state)
    : Sound state
      ∧ ∀ objectID object,
          state.findObject objectID true = some object
          ↔ HoldsID hintMaximumID events objectID object := by
  induction events using List.reverseRecOn generalizing state with
  | nil =>
      obtain rfl := Option.some.inj after
      refine ⟨sound_new hintMaximumID, fun objectID object => ⟨?_, ?_⟩⟩
      · intro found
        cases found
      · rintro ⟨before, requested, since, -, shape, -⟩
        simp at shape
  | append_singleton before event ih =>
      obtain ⟨middle, earlier, taken⟩ := exists_stateAfter after
      obtain ⟨sound, found⟩ := ih earlier
      refine ⟨sound.advance taken, fun objectID object => ?_⟩
      rw [sound.findObject_advance taken, holdsID_snoc earlier, found]

-----------------------------------------------------------------------------------------
-- Calls
-----------------------------------------------------------------------------------------

/-- An operation for devices where no object is found returns an error. -/
theorem notRegistered_of_device {operation : Operation}
    (forDevices : operation.objectType = .device)
    : operation.notRegistered = .status .kAudioHardwareBadObjectError := by
  cases operation <;> first | rfl | cases forDevices

/-- What is invoked is the object that is found, cast to the type of the operation. -/
theorem bridge_invoked_iff {state : State} {operation : Operation} {objectID : AudioObjectID}
    {acquired : Bool} {object : Instance} {castTo : ObjectType}
    : bridge state operation objectID acquired = .invoked object castTo
      ↔ state.findObject objectID acquired = some object ∧ operation.objectType = castTo := by
  rw [bridge]
  cases state.findObject objectID acquired <;> simp

/-- Nothing is found without the lock. -/
theorem findObject_of_not_acquired (state : State) (objectID : AudioObjectID)
    : state.findObject objectID false = none := by
  rw [State.findObject]
  split <;> rfl

/-- An operation for devices reaches devices only exactly if what it finds is a device. -/
theorem reachesDevices_iff (state : State) {operation : Operation} (objectID : AudioObjectID)
    (acquired : Bool) (forDevices : operation.objectType = .device)
    : ReachesDevices state operation objectID acquired
      ↔ ∀ object, state.findObject objectID acquired = some object
        → object.objectType = .device := by
  constructor
  · intro reaches object found
    exact reaches.invoked object operation.objectType (bridge_invoked_iff.mpr ⟨found, rfl⟩)
  · intro devices
    refine ⟨fun object castTo result => devices object (bridge_invoked_iff.mp result).1, ?_⟩
    intro others
    rw [bridge]
    cases found : state.findObject objectID acquired with
    | none => rw [← notRegistered_of_device forDevices]
    | some object =>
        cases acquired with
        | false =>
            rw [findObject_of_not_acquired] at found
            cases found
        | true =>
            have stored := findObject_eq_some_iff.mp found
            exact absurd (devices object found) (others _ object stored rfl)

/-- Operations that are not for devices are declared for `Object`, and every object that they
reach is one, so that their casts are sound.
-/
theorem object_operations_sound (state : State) {operation : Operation} {objectID : AudioObjectID}
    {acquired : Bool} {object : Instance} {castTo : ObjectType}
    (forObjects : operation.objectType ≠ .device)
    (result : bridge state operation objectID acquired = .invoked object castTo)
    : object.objectType.isA castTo = true := by
  have declared : operation.objectType = .object := by
    cases operation <;> first | rfl | exact absurd rfl forObjects
  obtain ⟨-, rfl⟩ := bridge_invoked_iff.mp result
  rw [declared]
  rfl

/-- An operation reaches the object that holds its ID, whatever else has been created, destroyed
and requested since the object got it.
-/
theorem reaches_holder {hintMaximumID : AudioObjectID} {events : List Event} {state : State}
    (after : stateAfter hintMaximumID events = some state) {objectID : AudioObjectID}
    {object : Instance} (holds : HoldsID hintMaximumID events objectID object)
    (operation : Operation)
    : bridge state operation objectID true = .invoked object operation.objectType :=
  bridge_invoked_iff.mpr ⟨((findObject_iff after).2 objectID object).mpr holds, rfl⟩

/-- In every run, the operations for devices reach devices only exactly if no object of another
class holds the ID of such a call that acquires the lock: one that got the ID, and since then has
not been released, nor the ID been unregistered.
-/
theorem device_operations_reach_devices (hintMaximumID : AudioObjectID) (events : List Event)
    : (∀ before operation objectID acquired state,
        before ++ [.bridge operation objectID acquired] <+: events
        → stateAfter hintMaximumID before = some state
        → operation.objectType = .device
        → ReachesDevices state operation objectID acquired)
      ↔ ∀ before operation objectID state,
        before ++ [.bridge operation objectID true] <+: events
        → stateAfter hintMaximumID before = some state
        → operation.objectType = .device
        → ∀ object, HoldsID hintMaximumID before objectID object
          → object.objectType = .device := by
  constructor
  · intro reaches before operation objectID state made after forDevices object holds
    have here := reaches before operation objectID true state made after forDevices
    exact (reachesDevices_iff state objectID true forDevices).mp here object
      (((findObject_iff after).2 objectID object).mpr holds)
  · intro devices before operation objectID acquired state made after forDevices
    refine (reachesDevices_iff state objectID acquired forDevices).mpr (fun object found => ?_)
    cases acquired with
    | false =>
        rw [findObject_of_not_acquired] at found
        cases found
    | true =>
        exact devices before operation objectID state made after forDevices object
          (((findObject_iff after).2 objectID object).mp found)

/-- A device is destroyed, a stream gets its ID, and HAL starts the device with the old ID. -/
def staleID : List Event := [
  .registerObject ⟨.device, 0⟩ kAudioObjectUnknown,
  .release 2,
  .unregisterObject 2,
  .unregistered,
  .registerObject ⟨.stream, 1⟩ kAudioObjectUnknown,
  .bridge Operation.startIO 2 true
]

/-- The method of a device is called on the stream that has its ID now. -/
theorem device_operation_reaches_stream
    : ¬∀ (hintMaximumID : AudioObjectID) (events before : List Event) (operation : Operation)
        (objectID : AudioObjectID) (acquired : Bool) (state : State),
        before ++ [.bridge operation objectID acquired] <+: events
        → stateAfter hintMaximumID before = some state
        → operation.objectType = .device
        → ReachesDevices state operation objectID acquired := by
  intro alwaysReaches
  obtain ⟨state, after⟩ : ∃ state, stateAfter 3 (staleID.take 5) = some state := ⟨_, rfl⟩
  have reaches := alwaysReaches 3 staleID (staleID.take 5) Operation.startIO 2 true state
    (List.prefix_refl _) after rfl
  obtain rfl := Option.some.inj after
  cases reaches.invoked ⟨.stream, 1⟩ .device (by decide)

end Aspl.Driver
