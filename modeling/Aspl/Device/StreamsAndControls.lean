import Aspl.Base.Catalog
import Aspl.Device.Handlers
import Aspl.Device.StreamChanges
import Aspl.Object.OwnedObjects
import Aspl.Plugin.Devices

/-! The streams and controls of a `Device`. Each call that adds or removes one updates a list and
a map at once, and leaves the counter and the owned objects to a stored function. Each operation
is one step under the recursive `writeMutex_`.
-/

namespace Aspl.Device

open CoreAudio
open Object (OwnedObjects)
open Plugin (kAudioObjectClassID)
open Handlers (IOOperation)
open StreamChanges (Direction)

universe u

/-- `'inpt'`. -/
def kAudioObjectPropertyScopeInput : AudioObjectPropertyScope := 0x696E7074

/-- `'astr'`. -/
def kAudioStreamClassID : AudioClassID := 0x61737472

/-- `'actl'`. -/
def kAudioControlClassID : AudioClassID := 0x6163746C

/-- `'levl'`. -/
def kAudioLevelControlClassID : AudioClassID := 0x6C65766C

/-- `'vlme'`. -/
def kAudioVolumeControlClassID : AudioClassID := 0x766C6D65

/-- `'togl'`. -/
def kAudioBooleanControlClassID : AudioClassID := 0x746F676C

/-- `'mute'`. -/
def kAudioMuteControlClassID : AudioClassID := 0x6D757465

/-- The scope in which a device owns the streams of a direction. -/
def streamScope : Direction → AudioObjectPropertyScope
  | .input => kAudioObjectPropertyScopeInput
  | .output => kAudioObjectPropertyScopeOutput

/-- The class of an object, and its `GetDirection()` or `GetScope()`. -/
inductive ObjectKind where
  | stream (dir : Direction)
  | volumeControl (scope : AudioObjectPropertyScope)
  | muteControl (scope : AudioObjectPropertyScope)
deriving DecidableEq

namespace ObjectKind

/-- The scope in which a device owns an object. -/
def scope : ObjectKind → AudioObjectPropertyScope
  | .stream dir => streamScope dir
  | .volumeControl scope | .muteControl scope => scope

/-- The classes for which `IsInstance()` returns true. -/
def classes : ObjectKind → List AudioClassID
  | .stream _ => [kAudioStreamClassID, kAudioObjectClassID]
  | .volumeControl _ =>
      [kAudioVolumeControlClassID, kAudioLevelControlClassID, kAudioControlClassID,
        kAudioObjectClassID]
  | .muteControl _ =>
      [kAudioMuteControlClassID, kAudioBooleanControlClassID, kAudioControlClassID,
        kAudioObjectClassID]

def isStream : ObjectKind → Bool
  | .stream _ => true
  | .volumeControl _ | .muteControl _ => false

end ObjectKind

/-- The streams and controls that exist, by pointer, with what does not change of them. -/
structure Objects (Object : Type u) where
  objectID : Object → AudioObjectID
  kind : Object → ObjectKind
  objectID_injective : Function.Injective objectID
  objectID_ne_unknown : ∀ object, objectID object ≠ kAudioObjectUnknown

namespace Objects

variable {Object : Type u} (objects : Objects Object)

def isInstance (object : Object) (classID : AudioClassID) : Bool :=
  classID ∈ (objects.kind object).classes

/-- A `std::shared_ptr<Stream>` that is not null. -/
structure Stream where
  object : Object
  dir : Direction
  kind_eq : objects.kind object = .stream dir

/-- A `std::shared_ptr<VolumeControl>` that is not null. -/
structure VolumeControl where
  object : Object
  scope : AudioObjectPropertyScope
  kind_eq : objects.kind object = .volumeControl scope

/-- A `std::shared_ptr<MuteControl>` that is not null. -/
structure MuteControl where
  object : Object
  scope : AudioObjectPropertyScope
  kind_eq : objects.kind object = .muteControl scope

/-- The functions that the calls pass to `RequestConfigurationChange()`, with their captures. -/
inductive Closure where
  | addStream (stream : objects.Stream)
  | removeStream (stream : objects.Stream)
  | addVolumeControl (control : objects.VolumeControl)
  | removeVolumeControl (control : objects.VolumeControl)
  | addMuteControl (control : objects.MuteControl)
  | removeMuteControl (control : objects.MuteControl)

end Objects

/-- The fields of a device that its streams and controls are about, and the owner's ID of every
stream and control. `hung` is set by a call that waits for a mutex of its own thread.
-/
structure Members (Object : Type u) where
  streams : Catalog Direction AudioObjectID Object := {}
  volumeControls : Catalog AudioObjectPropertyScope AudioObjectID Object := {}
  muteControls : Catalog AudioObjectPropertyScope AudioObjectID Object := {}
  numInputStreams : UInt32 := 0
  numOutputStreams : UInt32 := 0
  owned : OwnedObjects Object := {}
  hung : Bool := false

namespace Members

variable {Object : Type u}

-----------------------------------------------------------------------------------------
-- The getters
-----------------------------------------------------------------------------------------

section Getters

variable (objects : Objects Object) (device : Members Object)

/-- `numInputStreams_` and `numOutputStreams_`. -/
def numStreams : Direction → UInt32
  | .input => device.numInputStreams
  | .output => device.numOutputStreams

def getStreamCount (dir : Direction) : UInt32 :=
  UInt32.ofNat (device.streams.lists dir).length

def getStreamByIndex (dir : Direction) (idx : UInt32) : Option Object :=
  (device.streams.lists dir)[idx.toNat]?

def getStreamByID (streamID : AudioObjectID) : Option Object :=
  device.streams.byID.find? streamID

def getVolumeControlByIndex (scope : AudioObjectPropertyScope) (idx : UInt32)
    : Option Object :=
  (device.volumeControls.lists scope)[idx.toNat]?

def getVolumeControlByID (controlID : AudioObjectID) : Option Object :=
  device.volumeControls.byID.find? controlID

def getMuteControlByIndex (scope : AudioObjectPropertyScope) (idx : UInt32)
    : Option Object :=
  (device.muteControls.lists scope)[idx.toNat]?

def getMuteControlByID (controlID : AudioObjectID) : Option Object :=
  device.muteControls.byID.find? controlID

def getOwnedObjectIDs (scope : AudioObjectPropertyScope) (classID : AudioClassID)
    : List AudioObjectID :=
  device.owned.getOwnedObjectIDs objects.isInstance scope classID

def getStreamIDs (scope : AudioObjectPropertyScope) : List AudioObjectID :=
  device.getOwnedObjectIDs objects scope kAudioStreamClassID

/-- `WillDoIOOperation()`: `outWillDo` and `outWillDoInPlace`, which are false before
`WillDoIOOperationImpl()`.
-/
def willDoIOOperation (enableMixing : Bool) : IOOperation → Bool × Bool
  | .readInput | .processInput =>
      if device.numInputStreams > 0 then (true, true) else (false, false)
  | .mixOutput =>
      if device.numOutputStreams > 0 ∧ !enableMixing then (true, true) else (false, false)
  | .processMix | .writeMix =>
      if device.numOutputStreams > 0 ∧ enableMixing then (true, true) else (false, false)
  | .other => (false, false)

end Getters

/-- The streams that an I/O operation is about. -/
def operationDirection : IOOperation → Option Direction
  | .readInput | .processInput => some .input
  | .mixOutput | .processMix | .writeMix => some .output
  | .other => none

-----------------------------------------------------------------------------------------
-- Adding and removing
-----------------------------------------------------------------------------------------

section Changes

variable [DecidableEq Object] {objects : Objects Object} (deviceID : AudioObjectID)

/-- `numInputStreams_++` or `numOutputStreams_++`. -/
def countUp (dir : Direction) (device : Members Object) : Members Object :=
  match dir with
  | .input => { device with numInputStreams := device.numInputStreams + 1 }
  | .output => { device with numOutputStreams := device.numOutputStreams + 1 }

/-- `numInputStreams_--` or `numOutputStreams_--`. -/
def countDown (dir : Direction) (device : Members Object) : Members Object :=
  match dir with
  | .input => { device with numInputStreams := device.numInputStreams - 1 }
  | .output => { device with numOutputStreams := device.numOutputStreams - 1 }

/-- `AddOwnedObject()` of the device. -/
def addOwnedObject (objects : Objects Object) (object : Object)
    (scope : AudioObjectPropertyScope) (device : Members Object)
    : Members Object :=
  match OwnedObjects.addOwnedObject deviceID objects.objectID device.owned object scope with
  | some owned => { device with owned := owned }
  | none => { device with hung := true }

/-- `RemoveOwnedObject()` of the device. -/
def removeOwnedObject (objectID : AudioObjectID) (device : Members Object) : Members Object :=
  { device with owned := device.owned.removeOwnedObject objectID }

/-- A call of a stored function. -/
def apply : objects.Closure → Members Object → Members Object
  | .addStream stream, device =>
      addOwnedObject deviceID objects stream.object (streamScope stream.dir)
        (countUp stream.dir device)
  | .removeStream stream, device =>
      removeOwnedObject (objects.objectID stream.object) (countDown stream.dir device)
  | .addVolumeControl control, device =>
      addOwnedObject deviceID objects control.object control.scope device
  | .removeVolumeControl control, device =>
      removeOwnedObject (objects.objectID control.object) device
  | .addMuteControl control, device =>
      addOwnedObject deviceID objects control.object control.scope device
  | .removeMuteControl control, device =>
      removeOwnedObject (objects.objectID control.object) device

/-- A function that is called after another one has hung does not run any more. -/
def run (closure : objects.Closure) (device : Members Object) : Members Object :=
  if device.hung then device else apply deviceID closure device

end Changes

end Members

section Calls

variable {Object : Type u} [DecidableEq Object] {objects : Objects Object}
  (deviceID : AudioObjectID)

/-- `AddStreamAsync()`. -/
def addStreamAsync (stream : Option objects.Stream)
    (world : World objects.Closure (Members Object))
    : World objects.Closure (Members Object) :=
  match stream with
  | none => world
  | some stream =>
      (requestConfigurationChange (Members.run deviceID) (some (.addStream stream)) {
        world with
        state.streams := world.state.streams.add objects.objectID stream.dir stream.object
      }).1

/-- `RemoveStreamAsync()`. -/
def removeStreamAsync (stream : Option objects.Stream)
    (world : World objects.Closure (Members Object))
    : World objects.Closure (Members Object) :=
  match stream with
  | none => world
  | some stream =>
      (requestConfigurationChange (Members.run deviceID) (some (.removeStream stream)) {
        world with
        state.streams := world.state.streams.remove objects.objectID stream.dir stream.object
      }).1

/-- `AddVolumeControlAsync()`. -/
def addVolumeControlAsync (control : Option objects.VolumeControl)
    (world : World objects.Closure (Members Object))
    : World objects.Closure (Members Object) :=
  match control with
  | none => world
  | some control =>
      (requestConfigurationChange (Members.run deviceID) (some (.addVolumeControl control)) {
        world with
        state.volumeControls :=
          world.state.volumeControls.add objects.objectID control.scope control.object
      }).1

/-- `RemoveVolumeControlAsync()`. -/
def removeVolumeControlAsync (control : Option objects.VolumeControl)
    (world : World objects.Closure (Members Object))
    : World objects.Closure (Members Object) :=
  match control with
  | none => world
  | some control =>
      (requestConfigurationChange (Members.run deviceID) (some (.removeVolumeControl control)) {
        world with
        state.volumeControls :=
          world.state.volumeControls.remove objects.objectID control.scope control.object
      }).1

/-- `AddMuteControlAsync()`. -/
def addMuteControlAsync (control : Option objects.MuteControl)
    (world : World objects.Closure (Members Object))
    : World objects.Closure (Members Object) :=
  match control with
  | none => world
  | some control =>
      (requestConfigurationChange (Members.run deviceID) (some (.addMuteControl control)) {
        world with
        state.muteControls :=
          world.state.muteControls.add objects.objectID control.scope control.object
      }).1

/-- `RemoveMuteControlAsync()`. -/
def removeMuteControlAsync (control : Option objects.MuteControl)
    (world : World objects.Closure (Members Object))
    : World objects.Closure (Members Object) :=
  match control with
  | none => world
  | some control =>
      (requestConfigurationChange (Members.run deviceID) (some (.removeMuteControl control)) {
        world with
        state.muteControls :=
          world.state.muteControls.remove objects.objectID control.scope control.object
      }).1

/-- A call that adds or removes a stream or a control. -/
inductive MemberCall (objects : Objects Object) where
  | addStreamAsync (stream : Option objects.Stream)
  | removeStreamAsync (stream : Option objects.Stream)
  | addVolumeControlAsync (control : Option objects.VolumeControl)
  | removeVolumeControlAsync (control : Option objects.VolumeControl)
  | addMuteControlAsync (control : Option objects.MuteControl)
  | removeMuteControlAsync (control : Option objects.MuteControl)

def callMember (world : World objects.Closure (Members Object))
    : MemberCall objects → World objects.Closure (Members Object)
  | .addStreamAsync stream => addStreamAsync deviceID stream world
  | .removeStreamAsync stream => removeStreamAsync deviceID stream world
  | .addVolumeControlAsync control => addVolumeControlAsync deviceID control world
  | .removeVolumeControlAsync control => removeVolumeControlAsync deviceID control world
  | .addMuteControlAsync control => addMuteControlAsync deviceID control world
  | .removeMuteControlAsync control => removeMuteControlAsync deviceID control world

end Calls

-----------------------------------------------------------------------------------------
-- The two halves of a call
-----------------------------------------------------------------------------------------

section Halves

variable {Object : Type u} [DecidableEq Object] {objects : Objects Object}
  {deviceID : AudioObjectID}

namespace Objects.Closure

/-- The object that a stored function adds or removes. -/
def object : objects.Closure → Object
  | .addStream stream | .removeStream stream => stream.object
  | .addVolumeControl control | .removeVolumeControl control => control.object
  | .addMuteControl control | .removeMuteControl control => control.object

def adds : objects.Closure → Bool
  | .addStream _ | .addVolumeControl _ | .addMuteControl _ => true
  | .removeStream _ | .removeVolumeControl _ | .removeMuteControl _ => false

/-- What the call that makes a function does before it requests the change. -/
def file : objects.Closure → Members Object → Members Object
  | .addStream stream, device =>
      { device with streams := device.streams.add objects.objectID stream.dir stream.object }
  | .removeStream stream, device =>
      { device with streams := device.streams.remove objects.objectID stream.dir stream.object }
  | .addVolumeControl control, device => {
      device with
      volumeControls := device.volumeControls.add objects.objectID control.scope control.object
    }
  | .removeVolumeControl control, device => {
      device with
      volumeControls :=
        device.volumeControls.remove objects.objectID control.scope control.object
    }
  | .addMuteControl control, device => {
      device with
      muteControls := device.muteControls.add objects.objectID control.scope control.object
    }
  | .removeMuteControl control, device => {
      device with
      muteControls := device.muteControls.remove objects.objectID control.scope control.object
    }

end Objects.Closure

/-- The function that a call requests, if its argument is not null. -/
def MemberCall.closure? : MemberCall objects → Option objects.Closure
  | .addStreamAsync stream => stream.map .addStream
  | .removeStreamAsync stream => stream.map .removeStream
  | .addVolumeControlAsync control => control.map .addVolumeControl
  | .removeVolumeControlAsync control => control.map .removeVolumeControl
  | .addMuteControlAsync control => control.map .addMuteControl
  | .removeMuteControlAsync control => control.map .removeMuteControl

/-- The counter of an object's direction goes up, if the object is a stream. -/
def Members.countAdded : ObjectKind → Members Object → Members Object
  | .stream dir, device => countUp dir device
  | .volumeControl _, device | .muteControl _, device => device

/-- The counter of an object's direction goes down, if the object is a stream. -/
def Members.countRemoved : ObjectKind → Members Object → Members Object
  | .stream dir, device => countDown dir device
  | .volumeControl _, device | .muteControl _, device => device

/-- A function that adds its object counts it and gives it to the device. -/
theorem Members.apply_of_adds (deviceID : AudioObjectID) {closure : objects.Closure}
    (adds : closure.adds = true)
    (device : Members Object)
    : apply deviceID closure device
      = addOwnedObject deviceID objects closure.object (objects.kind closure.object).scope
          (countAdded (objects.kind closure.object) device) := by
  cases closure with
  | addStream stream =>
      simp only [apply, Objects.Closure.object, stream.kind_eq, countAdded, ObjectKind.scope]
  | addVolumeControl control =>
      simp only [apply, Objects.Closure.object, control.kind_eq, countAdded, ObjectKind.scope]
  | addMuteControl control =>
      simp only [apply, Objects.Closure.object, control.kind_eq, countAdded, ObjectKind.scope]
  | removeStream | removeVolumeControl | removeMuteControl => cases adds

/-- A function that removes its object counts it and takes it from the device. -/
theorem Members.apply_of_removes (deviceID : AudioObjectID) {closure : objects.Closure}
    (removes : closure.adds = false)
    (device : Members Object)
    : apply deviceID closure device
      = removeOwnedObject (objects.objectID closure.object)
          (countRemoved (objects.kind closure.object) device) := by
  cases closure with
  | removeStream stream =>
      simp only [apply, Objects.Closure.object, stream.kind_eq, countRemoved]
  | removeVolumeControl control =>
      simp only [apply, Objects.Closure.object, control.kind_eq, countRemoved]
  | removeMuteControl control =>
      simp only [apply, Objects.Closure.object, control.kind_eq, countRemoved]
  | addStream | addVolumeControl | addMuteControl => cases removes

/-- A call with a null argument does nothing. -/
theorem callMember_none {call : MemberCall objects}
    (null : call.closure? = none) (world : World objects.Closure (Members Object))
    : callMember deviceID world call = world := by
  cases call <;> rw [MemberCall.closure?, Option.map_eq_none_iff] at null <;> subst null <;> rfl

/-- Every other call does the first half of its change and requests the second one. -/
theorem callMember_some {call : MemberCall objects} {closure : objects.Closure}
    (requested : call.closure? = some closure) (world : World objects.Closure (Members Object))
    : callMember deviceID world call
      = (requestConfigurationChange (Members.run deviceID) (some closure)
          { world with state := closure.file world.state }).1 := by
  cases call <;> obtain ⟨_, rfl, rfl⟩ := Option.map_eq_some_iff.mp requested <;> rfl

/-- On a published device the second half is queued. -/
theorem callMember_enqueues {call : MemberCall objects} {closure : objects.Closure}
    (requested : call.closure? = some closure) {world : World objects.Closure (Members Object)}
    (queued : world.configuration.enqueues = true)
    : callMember deviceID world call
      = {
          configuration := world.configuration.enqueue (some closure)
          state := closure.file world.state
        } := by
  have queued' : ({ world with state := closure.file world.state } : World objects.Closure
      (Members Object)).configuration.enqueues = true := queued
  rw [callMember_some requested, requestConfigurationChange_enqueues queued']

/-- Everywhere else both halves are done. -/
theorem callMember_inPlace {call : MemberCall objects} {closure : objects.Closure}
    (requested : call.closure? = some closure) {world : World objects.Closure (Members Object)}
    (direct : world.configuration.enqueues = false)
    : callMember deviceID world call
      = { world with state := Members.run deviceID closure (closure.file world.state) } := by
  have direct' : ({ world with state := closure.file world.state } : World objects.Closure
      (Members Object)).configuration.enqueues = false := direct
  rw [callMember_some requested, requestConfigurationChange_inPlace direct']

omit [DecidableEq Object] in
/-- Only `RemoveStreamAsync()` requests the removal of a stream. -/
theorem MemberCall.eq_removeStreamAsync {call : MemberCall objects} {stream : objects.Stream}
    (requested : call.closure? = some (.removeStream stream))
    : call = .removeStreamAsync (some stream) := by
  cases call <;> obtain ⟨_, rfl, same⟩ := Option.map_eq_some_iff.mp requested <;> cases same
  rfl

end Halves

end Aspl.Device
