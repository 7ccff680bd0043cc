import Mathlib.Data.String.Basic
import Aspl.Base.System
import Aspl.Object.OwnedObjects

/-! The devices of a plugin: the list of devices, the two maps that find them by ID and by UID,
and the plugin's owned objects, which `AddDevice()` and `RemoveDevice()` update one after the
other. The recursive `writeMutex_` makes each call one step.
-/

namespace Aspl.Plugin

open CoreAudio
open Object (OwnedObjects)

universe u

/-- `'adev'`. -/
def kAudioDeviceClassID : AudioClassID := 0x61646576

/-- `'aobj'`. -/
def kAudioObjectClassID : AudioClassID := 0x616F626A

/-- The parameters of a device that its UID is made of. -/
structure DeviceParameters where
  deviceUID : String := ""
  modelUID : String := "libaspl"

/-- The devices that exist, by pointer: their IDs, their parameters, and what `GenerateUID()`
returned when they were constructed.
-/
structure Devices (Device : Type u) where
  objectID : Device → AudioObjectID
  params : Device → DeviceParameters
  generatedUID : Device → String
  objectID_injective : Function.Injective objectID
  objectID_ne_unknown : ∀ device, objectID device ≠ kAudioObjectUnknown

namespace Devices

variable {Device : Type u} (devices : Devices Device)

/-- `Device::GetDeviceUID()`, with `deviceUID_` as the constructor sets it. -/
def getDeviceUID (device : Device) : String :=
  let params := devices.params device
  if params.deviceUID ≠ "" then params.deviceUID
  else params.modelUID ++ ":" ++ devices.generatedUID device

/-- `Device::IsInstance()`. -/
def isInstance (_device : Device) (classID : AudioClassID) : Bool :=
  classID == kAudioDeviceClassID || classID == kAudioObjectClassID

/-- A device always has a UID: what is generated contains a colon. -/
theorem getDeviceUID_ne_empty (device : Device) : devices.getDeviceUID device ≠ "" := by
  rw [getDeviceUID]
  split
  · assumption
  · intro empty
    have length := congrArg String.length empty
    simp at length

end Devices

/-- The fields of a plugin that its devices are about, and the owner's ID of every device. -/
structure State (Device : Type u) where
  devices : List Device := []
  deviceByID : OrderedMap AudioObjectID Device := .empty
  deviceByUID : OrderedMap String Device := .empty
  owned : OwnedObjects Device := {}

inductive Call (Device : Type u) where
  | addDevice (device : Device)
  | removeDevice (device : Device)

namespace Devices

variable {Device : Type u} (devices : Devices Device)

def getDeviceIDs (plugin : State Device) : List AudioObjectID :=
  plugin.owned.getOwnedObjectIDs isInstance kAudioObjectPropertyScopeGlobal
    kAudioDeviceClassID

def getDeviceIDByUID (plugin : State Device) (uid : String) : AudioObjectID :=
  match plugin.deviceByUID.find? uid with
  | none => kAudioObjectUnknown
  | some device => devices.objectID device

def getDeviceByIndex (plugin : State Device) (idx : UInt32) : Option Device :=
  plugin.devices[idx.toNat]?

def getDeviceByID (plugin : State Device) (deviceID : AudioObjectID) : Option Device :=
  plugin.deviceByID.find? deviceID

def hasDevice (plugin : State Device) (device : Device) : Bool :=
  (plugin.deviceByID.find? (devices.objectID device)).isSome

variable [DecidableEq Device]

/-- What `Device::RequestOwnershipChange()` does to the owner. It does not return if a device
that has an owner were added to another one.
-/
def requestOwnershipChange (owned : OwnedObjects Device) (device : Device)
    (shouldHaveOwnership : Bool)
    : Option (OwnedObjects Device) :=
  let hasOwner := owned.ownerObjectID device ≠ kAudioObjectUnknown
  if shouldHaveOwnership then
    if hasOwner then some owned
    else
      OwnedObjects.addOwnedObject kAudioObjectPlugInObject devices.objectID owned device
        kAudioObjectPropertyScopeGlobal
  else if ¬ hasOwner then some owned
  else some (owned.removeOwnedObject (devices.objectID device))

/-- `Plugin::AddDevice()`. -/
def addDevice (plugin : State Device) (device : Device) : Option (State Device) :=
  if plugin.owned.ownerObjectID device ≠ kAudioObjectUnknown then some plugin
  else
    let uid := devices.getDeviceUID device
    (devices.requestOwnershipChange plugin.owned device true).map (fun owned => {
      devices := plugin.devices ++ [device]
      deviceByID := plugin.deviceByID.insert (devices.objectID device) device
      deviceByUID := if uid ≠ "" then plugin.deviceByUID.insert uid device else plugin.deviceByUID
      owned := owned
    })

/-- `Plugin::RemoveDevice()`. Whatever is stored under the UID of the device is erased. -/
def removeDevice (plugin : State Device) (device : Device) : Option (State Device) :=
  if plugin.owned.ownerObjectID device = kAudioObjectUnknown then some plugin
  else
    let uid := devices.getDeviceUID device
    (devices.requestOwnershipChange plugin.owned device false).map (fun owned => {
      devices := plugin.devices.erase device
      deviceByID := plugin.deviceByID.erase (devices.objectID device)
      deviceByUID := if uid ≠ "" then plugin.deviceByUID.erase uid else plugin.deviceByUID
      owned := owned
    })

def perform (plugin : State Device) : Call Device → Option (State Device)
  | .addDevice device => devices.addDevice plugin device
  | .removeDevice device => devices.removeDevice plugin device

end Devices

/-- A plugin with the number of calls so far, and for each device the number of the call that
added it last.
-/
structure Timed (Device : Type u) where
  plugin : State Device := {}
  calls : Nat := 0
  addedAt : Device → Nat := fun _ => 0

namespace Timed

variable {Device : Type u} [DecidableEq Device] (devices : Devices Device)

/-- When devices were added, after a call: one that has an owner is not added again. -/
def addedAfter (timed : Timed Device) : Call Device → Device → Nat
  | .addDevice device =>
      if timed.plugin.owned.ownerObjectID device ≠ kAudioObjectUnknown then timed.addedAt
      else Function.update timed.addedAt device timed.calls
  | .removeDevice _ => timed.addedAt

def advance (timed : Timed Device) (call : Call Device) : Option (Timed Device) :=
  (devices.perform timed.plugin call).map (fun plugin => {
    plugin := plugin
    calls := timed.calls + 1
    addedAt := timed.addedAfter call
  })

/-- Sequences of calls on a new plugin, with devices that have no owner yet. -/
def system : System (Timed Device) (Call Device) :=
  .ofFunction (· = {}) (advance devices)

/-- A device is listed once or not at all, and if and only if it is listed, its ID and its index
lead to it, it is among the owned devices, and its owner is the plugin. Devices are listed in the
order in which they were added, and a UID leads to a device with that UID if there is one.
-/
structure Agrees (timed : Timed Device) : Prop where
  once : timed.plugin.devices.Nodup
  byID
    : ∀ device,
        device ∈ timed.plugin.devices
        ↔ Devices.getDeviceByID timed.plugin (devices.objectID device) = some device
  has : ∀ device, device ∈ timed.plugin.devices ↔ devices.hasDevice timed.plugin device = true
  listed
    : ∀ device,
        device ∈ timed.plugin.devices
        ↔ devices.objectID device ∈ Devices.getDeviceIDs timed.plugin
  owner
    : ∀ device,
        device ∈ timed.plugin.devices
        ↔ timed.plugin.owned.ownerObjectID device = kAudioObjectPlugInObject
  indexed
    : ∀ device,
        device ∈ timed.plugin.devices
        ↔ ∃ idx, Devices.getDeviceByIndex timed.plugin idx = some device
  ordered
    : ∀ idx later first second,
        idx < later
        → Devices.getDeviceByIndex timed.plugin idx = some first
        → Devices.getDeviceByIndex timed.plugin later = some second
        → timed.addedAt first < timed.addedAt second
  byUID
    : ∀ uid,
        (∃ device ∈ timed.plugin.devices, devices.getDeviceUID device = uid)
        → ∃ device ∈ timed.plugin.devices,
            devices.getDeviceUID device = uid
            ∧ devices.getDeviceIDByUID timed.plugin uid = devices.objectID device
  noUID
    : ∀ uid,
        (¬ ∃ device ∈ timed.plugin.devices, devices.getDeviceUID device = uid)
        → devices.getDeviceIDByUID timed.plugin uid = kAudioObjectUnknown

/-- A device that has an owner is removed only when no other listed device has its UID. -/
def Permitted (timed : Timed Device) : Call Device → Prop
  | .addDevice _ => True
  | .removeDevice device =>
      timed.plugin.owned.ownerObjectID device ≠ kAudioObjectUnknown
      → ∀ other ∈ timed.plugin.devices,
          devices.getDeviceUID other = devices.getDeviceUID device → other = device

/-- The invariant of permitted runs: each structure in terms of the list of devices. -/
structure Kept (timed : Timed Device) : Prop where
  once : timed.plugin.devices.Nodup
  byID
    : ∀ id device,
        timed.plugin.deviceByID.find? id = some device
        ↔ device ∈ timed.plugin.devices ∧ devices.objectID device = id
  uidOf
    : ∀ uid device,
        timed.plugin.deviceByUID.find? uid = some device
        → device ∈ timed.plugin.devices ∧ devices.getDeviceUID device = uid
  uidFound
    : ∀ device ∈ timed.plugin.devices,
        timed.plugin.deviceByUID.find? (devices.getDeviceUID device) ≠ none
  sound : timed.plugin.owned.Sound kAudioObjectPlugInObject devices.objectID
  owns
    : ∀ scope device,
        timed.plugin.owned.Owns devices.objectID scope device
        ↔ scope = kAudioObjectPropertyScopeGlobal ∧ device ∈ timed.plugin.devices
  free
    : ∀ device,
        device ∉ timed.plugin.devices
        → timed.plugin.owned.ownerObjectID device = kAudioObjectUnknown
  ordered
    : timed.plugin.devices.Pairwise
        (fun first second => timed.addedAt first < timed.addedAt second)
  past : ∀ device ∈ timed.plugin.devices, timed.addedAt device < timed.calls

end Timed

end Aspl.Plugin
