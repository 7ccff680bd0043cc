import Aspl.Base.CriticalSection
import Aspl.Plugin.DeviceLookups

/-! `AddDevice()` and `RemoveDevice()` on any number of threads, one access to a container a step.
`writeMutex_` makes the calls a sequential run, and a lookup that takes no lock finds each container
as it is before or after one of them.
-/

namespace Aspl.Plugin

open CoreAudio
open Object (OwnedObjects)

universe u v

variable {Device : Type u}

/-- `'ownd'`. -/
def kAudioObjectPropertyOwnedObjects : UInt32 := 0x6F776E64

/-- `'dev#'`. -/
def kAudioPlugInPropertyDeviceList : UInt32 := 0x64657623

/-- A plugin with the selectors that HAL was notified of. Its host is set. -/
structure Published (Device : Type u) where
  timed : Timed Device := {}
  sent : List UInt32 := []

namespace Published

/-- `devices_.Set()`. -/
def setDevices (listed : List Device) (published : Published Device) : Published Device :=
  { published with timed.plugin.devices := listed }

/-- `deviceByID_.Set()`. -/
def setDeviceByID (deviceByID : OrderedMap AudioObjectID Device) (published : Published Device)
    : Published Device :=
  { published with timed.plugin.deviceByID := deviceByID }

/-- `deviceByUID_.Set()`. -/
def setDeviceByUID (deviceByUID : OrderedMap String Device) (published : Published Device)
    : Published Device :=
  { published with timed.plugin.deviceByUID := deviceByUID }

/-- `ownedObjects_.Set()` of the plugin. -/
def setOwnedObjects
    (ownedObjects : NestedMap AudioObjectPropertyScope AudioObjectID Device)
    (published : Published Device)
    : Published Device :=
  { published with timed.plugin.owned.ownedObjects := ownedObjects }

/-- The owner's ID of one device is stored. -/
def setOwnerID [DecidableEq Device] (device : Device) (ownerID : AudioObjectID)
    (published : Published Device)
    : Published Device :=
  let ownerObjectID :=
    Function.update published.timed.plugin.owned.ownerObjectID device ownerID
  { published with timed.plugin.owned.ownerObjectID := ownerObjectID }

/-- `NotifyPropertiesChanged()`. -/
def notifyPropertiesChanged (selectors : List UInt32) (published : Published Device)
    : Published Device :=
  { published with sent := published.sent ++ selectors }

/-- A call is about to return, which added a device or did not. -/
def count [DecidableEq Device] (added : Option Device) (published : Published Device)
    : Published Device :=
  let addedAt :=
    match added with
    | none => published.timed.addedAt
    | some device => Function.update published.timed.addedAt device published.timed.calls
  { published with timed.calls := published.timed.calls + 1, timed.addedAt := addedAt }

end Published

namespace Devices

variable [DecidableEq Device] (devices : Devices Device)

/-- A device's owner as it stores it. -/
def getOwnerID (device : Device) (published : Published Device) : AudioObjectID :=
  published.timed.plugin.owned.ownerObjectID device

/-- `AddOwnedObject()` of the plugin. A device that has an owner would be removed from it by
`RemoveOwnedObject()`, which waits for a mutex that this call holds.
-/
def addOwnedObjectCode (device : Device) (next : Code (Published Device) Unit)
    : Code (Published Device) Unit :=
  .read (·.timed.plugin.owned.ownedObjects) fun ownedObjects =>
  .write
    (.setOwnedObjects
      (ownedObjects.assign kAudioObjectPropertyScopeGlobal (devices.objectID device) device)) <|
  .read (getOwnerID device) fun ownerID =>
  if ownerID ≠ kAudioObjectUnknown then .blocked
  else .write (.setOwnerID device kAudioObjectPlugInObject) next

/-- `RemoveOwnedObject()` of the plugin. -/
def removeOwnedObjectCode (objectID : AudioObjectID) (next : Code (Published Device) Unit)
    : Code (Published Device) Unit :=
  .read (·.timed.plugin.owned.ownedObjects) fun ownedObjects =>
  match ownedObjects.findInner? objectID with
  | none => next
  | some (scope, object) =>
      .write (.setOwnerID object kAudioObjectUnknown) <|
      .write (.setOwnedObjects (ownedObjects.remove scope objectID)) next

/-- What `Device::RequestOwnershipChange()` does to the owner. -/
def requestOwnershipChangeCode (device : Device) (shouldHaveOwnership : Bool)
    (next : Code (Published Device) Unit)
    : Code (Published Device) Unit :=
  .read (getOwnerID device) fun ownerID =>
  let hasOwner := ownerID ≠ kAudioObjectUnknown
  if shouldHaveOwnership then
    if hasOwner then next else devices.addOwnedObjectCode device next
  else if ¬ hasOwner then next
  else removeOwnedObjectCode (devices.objectID device) next

/-- `Plugin::AddDevice()` between locking and unlocking `writeMutex_`. -/
def addDeviceCode (device : Device) : Code (Published Device) Unit :=
  .read (getOwnerID device) fun devOwner =>
  if devOwner ≠ kAudioObjectUnknown then .write (.count none) (.done ())
  else
    .read (·.timed.plugin.devices) fun listed =>
    .write (.setDevices (listed ++ [device])) <|
    .read (·.timed.plugin.deviceByID) fun deviceByID =>
    .write (.setDeviceByID (deviceByID.insert (devices.objectID device) device)) <|
    .read (·.timed.plugin.deviceByUID) fun deviceByUID =>
    let uid := devices.getDeviceUID device
    .write (.setDeviceByUID (if uid ≠ "" then deviceByUID.insert uid device else deviceByUID)) <|
    devices.requestOwnershipChangeCode device true <|
    .write
      (.notifyPropertiesChanged
        [kAudioObjectPropertyOwnedObjects, kAudioPlugInPropertyDeviceList]) <|
    .write (.count (some device)) (.done ())

/-- `Plugin::RemoveDevice()` between locking and unlocking `writeMutex_`. -/
def removeDeviceCode (device : Device) : Code (Published Device) Unit :=
  .read (getOwnerID device) fun devOwner =>
  if devOwner = kAudioObjectUnknown then .write (.count none) (.done ())
  else
    .read (·.timed.plugin.devices) fun listed =>
    .write (.setDevices (listed.erase device)) <|
    .read (·.timed.plugin.deviceByID) fun deviceByID =>
    .write (.setDeviceByID (deviceByID.erase (devices.objectID device))) <|
    .read (·.timed.plugin.deviceByUID) fun deviceByUID =>
    let uid := devices.getDeviceUID device
    .write (.setDeviceByUID (if uid ≠ "" then deviceByUID.erase uid else deviceByUID)) <|
    devices.requestOwnershipChangeCode device false <|
    .write
      (.notifyPropertiesChanged
        [kAudioObjectPropertyOwnedObjects, kAudioPlugInPropertyDeviceList]) <|
    .write (.count none) (.done ())

def code : Call Device → Code (Published Device) Unit
  | .addDevice device => devices.addDeviceCode device
  | .removeDevice device => devices.removeDeviceCode device

/-- What HAL is notified of by a call. -/
def notifications (timed : Timed Device) : Call Device → List UInt32
  | .addDevice device =>
      if timed.plugin.owned.ownerObjectID device ≠ kAudioObjectUnknown then []
      else [kAudioObjectPropertyOwnedObjects, kAudioPlugInPropertyDeviceList]
  | .removeDevice device =>
      if timed.plugin.owned.ownerObjectID device = kAudioObjectUnknown then []
      else [kAudioObjectPropertyOwnedObjects, kAudioPlugInPropertyDeviceList]

/-- Without anything in between, the accesses of a call amount to the call and its notifications. -/
theorem run_code (call : Call Device) (published : Published Device)
    : (devices.code call).run published
      = (published.timed.advance devices call).map (fun timed =>
          (⟨timed, published.sent ++ notifications published.timed call⟩, ())) := by
  obtain ⟨timed, sent⟩ := published
  cases call with
  | addDevice device =>
      by_cases free : timed.plugin.owned.ownerObjectID device = kAudioObjectUnknown
      · simp [code, addDeviceCode, requestOwnershipChangeCode, addOwnedObjectCode, getOwnerID,
          Published.setDevices, Published.setDeviceByID, Published.setDeviceByUID,
          Published.setOwnedObjects, Published.setOwnerID, Published.notifyPropertiesChanged,
          Published.count, notifications, Timed.advance, Timed.addedAfter, perform, addDevice,
          requestOwnershipChange, OwnedObjects.addOwnedObject, free]
      · simp [code, addDeviceCode, getOwnerID, Published.count, notifications, Timed.advance,
          Timed.addedAfter, perform, addDevice, free]
  | removeDevice device =>
      by_cases free : timed.plugin.owned.ownerObjectID device = kAudioObjectUnknown
      · simp [code, removeDeviceCode, getOwnerID, Published.count, notifications, Timed.advance,
          Timed.addedAfter, perform, removeDevice, free]
      · cases found : timed.plugin.owned.ownedObjects.findInner? (devices.objectID device) with
        | none =>
            simp [code, removeDeviceCode, requestOwnershipChangeCode, removeOwnedObjectCode,
              getOwnerID, Published.setDevices, Published.setDeviceByID,
              Published.setDeviceByUID, Published.notifyPropertiesChanged, Published.count,
              notifications, Timed.advance, Timed.addedAfter, perform, removeDevice,
              requestOwnershipChange, OwnedObjects.removeOwnedObject, free, found]
        | some entry =>
            simp [code, removeDeviceCode, requestOwnershipChangeCode, removeOwnedObjectCode,
              getOwnerID, Published.setDevices, Published.setDeviceByID,
              Published.setDeviceByUID, Published.setOwnedObjects, Published.setOwnerID,
              Published.notifyPropertiesChanged, Published.count, notifications, Timed.advance,
              Timed.addedAfter, perform, removeDevice, requestOwnershipChange,
              OwnedObjects.removeOwnedObject, free, found]

end Devices

namespace Timed

/-- Every container, and every owner's ID, is what it is in one of two states. -/
structure Between (before after timed : Timed Device) : Prop where
  devices
    : timed.plugin.devices = before.plugin.devices
      ∨ timed.plugin.devices = after.plugin.devices
  deviceByID
    : timed.plugin.deviceByID = before.plugin.deviceByID
      ∨ timed.plugin.deviceByID = after.plugin.deviceByID
  deviceByUID
    : timed.plugin.deviceByUID = before.plugin.deviceByUID
      ∨ timed.plugin.deviceByUID = after.plugin.deviceByUID
  ownedObjects
    : timed.plugin.owned.ownedObjects = before.plugin.owned.ownedObjects
      ∨ timed.plugin.owned.ownedObjects = after.plugin.owned.ownedObjects
  ownerObjectID
    : ∀ device,
        timed.plugin.owned.ownerObjectID device = before.plugin.owned.ownerObjectID device
        ∨ timed.plugin.owned.ownerObjectID device = after.plugin.owned.ownerObjectID device

section Between

variable {before after : Timed Device} {published : Published Device}

theorem Between.refl (before after : Timed Device) : Between before after before :=
  ⟨.inl rfl, .inl rfl, .inl rfl, .inl rfl, fun _ => .inl rfl⟩

theorem Between.setDevices (between : Between before after published.timed)
    {listed : List Device} (same : listed = after.plugin.devices)
    : Between before after (published.setDevices listed).timed :=
  { between with devices := .inr same }

theorem Between.setDeviceByID (between : Between before after published.timed)
    {deviceByID : OrderedMap AudioObjectID Device} (same : deviceByID = after.plugin.deviceByID)
    : Between before after (published.setDeviceByID deviceByID).timed :=
  { between with deviceByID := .inr same }

theorem Between.setDeviceByUID (between : Between before after published.timed)
    {deviceByUID : OrderedMap String Device} (same : deviceByUID = after.plugin.deviceByUID)
    : Between before after (published.setDeviceByUID deviceByUID).timed :=
  { between with deviceByUID := .inr same }

theorem Between.setOwnedObjects (between : Between before after published.timed)
    {ownedObjects : NestedMap AudioObjectPropertyScope AudioObjectID Device}
    (same : ownedObjects = after.plugin.owned.ownedObjects)
    : Between before after (published.setOwnedObjects ownedObjects).timed :=
  { between with ownedObjects := .inr same }

theorem Between.notifyPropertiesChanged (between : Between before after published.timed)
    (selectors : List UInt32)
    : Between before after (published.notifyPropertiesChanged selectors).timed := between

variable [DecidableEq Device]

theorem Between.setOwnerID (between : Between before after published.timed) {device : Device}
    {ownerID : AudioObjectID} (same : ownerID = after.plugin.owned.ownerObjectID device)
    : Between before after (published.setOwnerID device ownerID).timed := by
  refine { between with ownerObjectID := fun other => ?_ }
  by_cases changed : other = device
  · subst changed
    exact .inr ((Function.update_self ..).trans same)
  · rw [Published.setOwnerID]
    simpa only [Function.update_of_ne changed] using between.ownerObjectID other

theorem Between.count (between : Between before after published.timed) (added : Option Device)
    : Between before after (published.count added).timed :=
  ⟨between.devices, between.deviceByID, between.deviceByUID, between.ownedObjects,
    between.ownerObjectID⟩

end Between

variable [DecidableEq Device] {devices : Devices Device} {after : Timed Device}
  {published : Published Device}

/-- Throughout the addition of a device each container is as it is before or after. -/
theorem throughout_addDevice {device : Device}
    (taken : published.timed.advance devices (.addDevice device) = some after)
    : (devices.code (.addDevice device)).Throughout
        (fun shown => Between published.timed after shown.timed) published := by
  have start := Between.refl published.timed after
  by_cases free : published.timed.plugin.owned.ownerObjectID device = kAudioObjectUnknown
  · simp only [advance, Devices.perform, Devices.addDevice, Devices.requestOwnershipChange,
      OwnedObjects.addOwnedObject, free, ne_eq, not_true_eq_false, if_true, if_false,
      Option.map_some, Option.some.injEq] at taken
    subst taken
    have listed
        : Between published.timed _
            (published.setDevices (published.timed.plugin.devices ++ [device])).timed :=
      start.setDevices rfl
    have byID := listed.setDeviceByID rfl
    have byUID := byID.setDeviceByUID rfl
    have owned := byUID.setOwnedObjects rfl
    have owner
        : Between published.timed _
            (Published.setOwnerID device kAudioObjectPlugInObject _).timed :=
      owned.setOwnerID (by simp)
    have notified := owner.notifyPropertiesChanged
      [kAudioObjectPropertyOwnedObjects, kAudioPlugInPropertyDeviceList]
    have counted := notified.count (some device)
    simp only [Devices.code, Devices.addDeviceCode, Devices.requestOwnershipChangeCode,
      Devices.addOwnedObjectCode, Devices.getOwnerID, Published.setDevices,
      Published.setDeviceByID, Published.setDeviceByUID, Published.setOwnedObjects,
      Code.throughout_read, Code.throughout_write, Code.throughout_done, free, ne_eq,
      not_true_eq_false, if_true, if_false]
    exact ⟨start, start, start, listed, listed, byID, byID, byUID, byUID, byUID, owned, owned,
      owner, notified, counted⟩
  · simp only [Devices.code, Devices.addDeviceCode, Code.throughout_read, Devices.getOwnerID,
      ne_eq, free, not_false_eq_true, if_true, Code.throughout_write, Code.throughout_done]
    exact ⟨start, start, start.count none⟩

/-- Throughout the removal of a device each container is as it is before or after. -/
theorem throughout_removeDevice {device : Device}
    (taken : published.timed.advance devices (.removeDevice device) = some after)
    : (devices.code (.removeDevice device)).Throughout
        (fun shown => Between published.timed after shown.timed) published := by
  have start := Between.refl published.timed after
  by_cases free : published.timed.plugin.owned.ownerObjectID device = kAudioObjectUnknown
  · simp only [Devices.code, Devices.removeDeviceCode, Code.throughout_read, Devices.getOwnerID,
      free, if_true, Code.throughout_write, Code.throughout_done]
    exact ⟨start, start, start.count none⟩
  · cases found
        : published.timed.plugin.owned.ownedObjects.findInner? (devices.objectID device) with
    | none =>
        simp only [advance, Devices.perform, Devices.removeDevice,
          Devices.requestOwnershipChange, OwnedObjects.removeOwnedObject, free, found, ne_eq,
          not_true_eq_false, not_false_eq_true, if_false, Bool.false_eq_true, Option.map_some,
          Option.some.injEq] at taken
        subst taken
        have listed
            : Between published.timed _
                (published.setDevices (published.timed.plugin.devices.erase device)).timed :=
          start.setDevices rfl
        have byID := listed.setDeviceByID rfl
        have byUID := byID.setDeviceByUID rfl
        have notified := byUID.notifyPropertiesChanged
          [kAudioObjectPropertyOwnedObjects, kAudioPlugInPropertyDeviceList]
        have counted := notified.count none
        simp only [Devices.code, Devices.removeDeviceCode, Devices.requestOwnershipChangeCode,
          Devices.removeOwnedObjectCode, Devices.getOwnerID, Published.setDevices,
          Published.setDeviceByID, Published.setDeviceByUID, Code.throughout_read,
          Code.throughout_write, Code.throughout_done, free, found, ne_eq, not_true_eq_false,
          not_false_eq_true, if_false, Bool.false_eq_true]
        exact ⟨start, start, start, listed, listed, byID, byID, byUID, byUID, byUID, notified,
          counted⟩
    | some entry =>
        simp only [advance, Devices.perform, Devices.removeDevice,
          Devices.requestOwnershipChange, OwnedObjects.removeOwnedObject, free, found, ne_eq,
          not_true_eq_false, not_false_eq_true, if_false, Bool.false_eq_true, Option.map_some,
          Option.some.injEq] at taken
        subst taken
        have listed
            : Between published.timed _
                (published.setDevices (published.timed.plugin.devices.erase device)).timed :=
          start.setDevices rfl
        have byID := listed.setDeviceByID rfl
        have byUID := byID.setDeviceByUID rfl
        have owner
            : Between published.timed _
                (Published.setOwnerID entry.2 kAudioObjectUnknown _).timed :=
          byUID.setOwnerID (by simp)
        have owned := owner.setOwnedObjects rfl
        have notified := owned.notifyPropertiesChanged
          [kAudioObjectPropertyOwnedObjects, kAudioPlugInPropertyDeviceList]
        have counted := notified.count none
        simp only [Devices.code, Devices.removeDeviceCode, Devices.requestOwnershipChangeCode,
          Devices.removeOwnedObjectCode, Devices.getOwnerID, Published.setDevices,
          Published.setDeviceByID, Published.setDeviceByUID, Code.throughout_read,
          Code.throughout_write, Code.throughout_done, free, found, ne_eq, not_true_eq_false,
          not_false_eq_true, if_false, Bool.false_eq_true]
        exact ⟨start, start, start, listed, listed, byID, byID, byUID, byUID, byUID, owner, owned,
          notified, counted⟩

/-- Throughout a call each container is as it is before or after the call. -/
theorem throughout_between (call : Call Device)
    (taken : published.timed.advance devices call = some after)
    : (devices.code call).Throughout
        (fun shown => Between published.timed after shown.timed) published := by
  cases call with
  | addDevice => exact throughout_addDevice taken
  | removeDevice => exact throughout_removeDevice taken

/-- The invariant of permitted calls is one of the sequential runs of their code. -/
theorem kept_sequential (devices : Devices Device)
    : ((Guarded.sequential devices.code (· = {})).restrict
        (fun published label => published.timed.Permitted devices label.1)).Invariant
          (fun published => Kept devices published.timed) where
  initial published new := new ▸ kept_new
  step published label next kept taken := by
    obtain ⟨permitted, returned⟩ := taken
    change (devices.code label.1).run published = some (next, label.2) at returned
    rw [devices.run_code] at returned
    obtain ⟨after, performed, same⟩ := Option.map_eq_some_iff.mp returned
    obtain rfl := (Prod.mk.inj same).1
    exact kept.step label.1 permitted (advance_effect performed)

/-- Every container is what it is before or after a call, and all lookups agree after it. -/
def Shows (devices : Devices Device) (before : Published Device) (call : Call Device)
    (shown : Published Device)
    : Prop :=
  ∃ after,
    before.timed.advance devices call = some after
    ∧ after.Agrees devices
    ∧ Between before.timed after shown.timed

/-- What a permitted call may show to other threads. -/
theorem Kept.throughout_shows (kept : published.timed.Kept devices) {call : Call Device}
    (permitted : published.timed.Permitted devices call)
    : (devices.code call).Throughout (Shows devices published call) published := by
  obtain ⟨after, taken⟩ := exists_advance devices published.timed call
  have agrees := (kept.step call permitted (advance_effect taken)).agrees
  exact (throughout_between call taken).mono
    (fun shown between => ⟨after, taken, agrees, between⟩)

/-- Every call returns, when nothing comes between. -/
theorem isSome_run (call : Call Device) (published : Published Device)
    : ((devices.code call).run published).isSome := by
  obtain ⟨after, taken⟩ := exists_advance devices published.timed call
  rw [devices.run_code, taken]
  rfl

/-- On any number of threads that add and remove devices, none of them one of two listed devices
with one UID: while no call is under way all lookups agree. The calls that have returned lead, one
after the other, to a state in which all lookups agree. At any moment this is still the state, or
each container, and so the answer of each single lookup, is what it is before or after the call
that is under way, and after it all lookups agree, too. That call can always be finished.
-/
theorem concurrent_device_lookups {Thread : Type v} [DecidableEq Thread] (devices : Devices Device)
    {state : Guarded Thread (Published Device) (Call Device) Unit}
    (reached
      : ((Guarded.system devices.code (· = {})).restrict
          (Guarded.Admits
            (fun published => published.timed.Permitted devices))).Reachable state)
    : (state.mutex = none → state.data.timed.Agrees devices)
      ∧ (∃ before,
          before.timed.Agrees devices
          ∧ state.Follows devices.code (· = {})
              (fun published => published.timed.Permitted devices) (Shows devices) before)
      ∧ ∀ thread,
          state.mutex = some thread
          → ∃ labels finish,
              (∀ label ∈ labels, label = (thread, .proceed))
              ∧ (Guarded.system devices.code (· = {})).Run state labels finish
              ∧ finish.phase thread = .outside
              ∧ finish.mutex = none := by
  have atomic := Guarded.atomic reached
  refine ⟨fun free => (Guarded.free_of_atomic atomic free (kept_sequential devices)).agrees, ?_, ?_⟩
  · obtain ⟨before, kept, follows⟩ :=
      Guarded.follows_of_atomic atomic (kept_sequential devices)
        (fun _ _ kept => kept.throughout_shows)
    exact ⟨before, kept.agrees, follows⟩
  · intro thread locked
    exact Guarded.exists_unlock atomic (kept_sequential devices)
      (fun published call _ _ => isSome_run call published) locked

/-- No thread has called a plugin with these two devices. -/
def noCalls : Guarded Bool (Published Bool) (Call Bool) Unit where
  phase _ := .outside
  mutex := none
  data := {}
  finished := []

/-- One thread has stored the list of devices with a new one, and nothing else yet. -/
theorem concurrent_device_lookups_listed
    : ∃ state,
        ((Guarded.system twins.code (· = {})).restrict
          (Guarded.Admits (fun published => published.timed.Permitted twins))).Reachable state
        ∧ state.mutex = some true
        ∧ state.data.timed.plugin.devices = [false]
        ∧ twins.hasDevice state.data.timed.plugin false = false
        ∧ ∃ before,
            before.timed.Agrees twins
            ∧ Shows twins before (.addDevice false) state.data := by
  have start
      : ((Guarded.system twins.code (· = {})).restrict
          (Guarded.Admits
            (fun published => published.timed.Permitted twins))).Reachable noCalls :=
    .initial ⟨fun _ => rfl, rfl, rfl, rfl⟩
  have called := start.step (true, .call (.addDevice false))
    ⟨fun _ proceeds => (by cases proceeds), rfl⟩
  have locked := called.step (true, .proceed) ⟨fun _ _ waits => (by cases waits; trivial), rfl⟩
  have first := locked.step (true, .proceed) ⟨fun _ _ waits => (by cases waits), rfl⟩
  have second := first.step (true, .proceed) ⟨fun _ _ waits => (by cases waits), rfl⟩
  have listed := second.step (true, .proceed) ⟨fun _ _ waits => (by cases waits), rfl⟩
  obtain ⟨before, agrees, follows⟩ := (concurrent_device_lookups twins listed).2.1
  obtain ⟨call, code, inside, -, shown⟩ := follows.locked true rfl
  obtain ⟨rfl, -⟩ := Phase.inside.inj inside
  exact ⟨_, listed, rfl, rfl, rfl, before, agrees, shown⟩

end Timed

end Aspl.Plugin
