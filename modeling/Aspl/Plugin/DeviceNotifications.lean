import Aspl.Base.Mirror
import Aspl.Plugin.ConcurrentDevices

/-! What HAL knows of the devices of a plugin. It reads the device list and the owned objects
without any lock while threads add and remove devices, and again when it is notified of them.
-/

namespace Aspl.Plugin

open CoreAudio

universe u v

variable {Device : Type u}

/-- What a property getter returns for a scope and a class. -/
abbrev ObjectIDs := AudioObjectPropertyScope → AudioClassID → List AudioObjectID

namespace Published

/-- The two properties of a plugin that adding and removing devices changes, and what HAL was
notified of. The device list depends on neither scope nor class.
-/
def source : Source (Published Device) UInt32 ObjectIDs where
  view published selector :=
    if selector = kAudioObjectPropertyOwnedObjects then
      published.timed.plugin.owned.getOwnedObjectIDs Devices.isInstance
    else if selector = kAudioPlugInPropertyDeviceList then
      fun _ _ => Devices.getDeviceIDs published.timed.plugin
    else fun _ _ => []
  sent published := published.sent

/-- The selectors of these properties. -/
def selectors : List UInt32 := [kAudioObjectPropertyOwnedObjects, kAudioPlugInPropertyDeviceList]

/-- Nothing else changes. -/
theorem mem_selectors_of_changed {before after : Published Device} {selector : UInt32}
    (changed : source.view after selector ≠ source.view before selector)
    : selector ∈ selectors := by
  by_contra other
  simp only [selectors, List.mem_cons, List.not_mem_nil, or_false, not_or] at other
  simp [source, other] at changed

/-- Whatever the data, code is to send both notifications, and announces what it changes. -/
structure Notifies (code : Code (Published Device) Unit) : Prop where
  sends : ∀ published, ∀ selector ∈ selectors, selector ∈ code.announced source published
  announces : ∀ published, code.Announces source published

/-- What a call does after it has changed the devices. -/
theorem notifies_notifyPropertiesChanged [DecidableEq Device] (added : Option Device)
    : Notifies
        (.write (.notifyPropertiesChanged selectors) (.write (.count added) (.done ()))) where
  sends published selector member := by
    refine List.mem_append_left _ ?_
    have sent : (published.notifyPropertiesChanged selectors).sent = published.sent ++ selectors :=
      rfl
    simpa [source, sent] using member
  announces published :=
    Code.announces_write_of_sends selectors rfl rfl (Code.announces_write_of_same rfl rfl trivial)

/-- A change before the notifications is announced. -/
theorem Notifies.announces_write {next : Code (Published Device) Unit} (rest : Notifies next)
    {change : Published Device → Published Device} {published : Published Device}
    (silent : (change published).sent = published.sent)
    : (Code.write change next).Announces source published :=
  Code.announces_write_of_silent silent
    (fun _ changed => rest.sends _ _ (mem_selectors_of_changed changed)) (rest.announces _)

end Published

namespace Devices

open Published

variable [DecidableEq Device] (devices : Devices Device) {next : Code (Published Device) Unit}

theorem announces_addOwnedObject (device : Device) (rest : Notifies next)
    {published : Published Device} (free : getOwnerID device published = kAudioObjectUnknown)
    : (devices.addOwnedObjectCode device next).Announces source published := by
  have still (ownedObjects) :
      getOwnerID device (published.setOwnedObjects ownedObjects) = kAudioObjectUnknown := free
  rw [addOwnedObjectCode, Code.announces_read]
  refine Code.announces_write_of_silent rfl ?_ ?_
  · intro selector changed
    have member := mem_selectors_of_changed changed
    simp only [Code.announced_read, still, ne_eq, not_true_eq_false, if_false]
    exact List.mem_append_right _ (rest.sends _ selector member)
  · simp only [Code.announces_read, still, ne_eq, not_true_eq_false, if_false]
    exact rest.announces_write rfl

theorem announces_removeOwnedObject (objectID : AudioObjectID)
    (rest : Notifies next) (published : Published Device)
    : (removeOwnedObjectCode objectID next).Announces source published := by
  rw [removeOwnedObjectCode, Code.announces_read]
  cases published.timed.plugin.owned.ownedObjects.findInner? objectID with
  | none => exact rest.announces published
  | some entry => exact Code.announces_write_of_same rfl rfl (rest.announces_write rfl)

theorem announces_requestOwnershipChange (device : Device) (shouldHaveOwnership : Bool)
    (rest : Notifies next) (published : Published Device)
    : (devices.requestOwnershipChangeCode device shouldHaveOwnership next).Announces source
        published := by
  rw [requestOwnershipChangeCode, Code.announces_read]
  by_cases free : getOwnerID device published = kAudioObjectUnknown
  · cases shouldHaveOwnership with
    | false => simpa [free] using rest.announces published
    | true => simpa [free] using devices.announces_addOwnedObject device rest free
  · cases shouldHaveOwnership with
    | false =>
        simpa [free] using announces_removeOwnedObject (devices.objectID device) rest published
    | true => simpa [free] using rest.announces published

/-- Every call notifies HAL of what it changes. -/
theorem announces_code (call : Call Device) (published : Published Device)
    : (devices.code call).Announces source published := by
  cases call with
  | addDevice device =>
      rw [code, addDeviceCode, Code.announces_read]
      split
      · exact Code.announces_write_of_same rfl rfl trivial
      · simp only [Code.announces_read]
        refine Code.announces_write_of_same rfl rfl ?_
        simp only [Code.announces_read]
        refine Code.announces_write_of_same rfl rfl ?_
        simp only [Code.announces_read]
        refine Code.announces_write_of_same rfl rfl ?_
        exact devices.announces_requestOwnershipChange device true
          (notifies_notifyPropertiesChanged _) _
  | removeDevice device =>
      rw [code, removeDeviceCode, Code.announces_read]
      split
      · exact Code.announces_write_of_same rfl rfl trivial
      · simp only [Code.announces_read]
        refine Code.announces_write_of_same rfl rfl ?_
        simp only [Code.announces_read]
        refine Code.announces_write_of_same rfl rfl ?_
        simp only [Code.announces_read]
        refine Code.announces_write_of_same rfl rfl ?_
        exact devices.announces_requestOwnershipChange device false
          (notifies_notifyPropertiesChanged _) _

/-- HAL reads the devices while any number of threads add and remove them, none of them one of two
listed devices with one UID. What HAL has read is current, or it is still to be notified. Once it
has acted on all notifications and no call is under way, its device list has exactly the listed
devices; and this can always be reached without a further call.
-/
theorem device_list_followed {Thread : Type v} [DecidableEq Thread]
    {state : Mirrored Thread (Published Device) (Call Device) Unit UInt32 ObjectIDs}
    (reached
      : ((Mirrored.system devices.code source (· = {})).restrict
          (Mirrored.Admits
            (fun published => published.timed.Permitted devices))).Reachable state)
    : (∀ selector value,
        state.seen selector = some value
        → value = source.view state.guarded.data selector ∨ state.Owed source selector)
      ∧ (state.Settled source
        → ∀ value,
            state.seen kAudioPlugInPropertyDeviceList = some value
            → ∀ scope classID device,
                devices.objectID device ∈ value scope classID
                ↔ device ∈ state.guarded.data.timed.plugin.devices)
      ∧ ∃ events finish,
          (∀ event ∈ events, event = .notify ∨ ∃ thread, event = .move (thread, .proceed))
          ∧ (Mirrored.system devices.code source (· = {})).Run state events finish
          ∧ finish.Settled source := by
  have following :=
    Mirrored.following (Timed.kept_sequential devices)
      (fun published call _ _ => devices.announces_code call published) reached
  refine ⟨following.fresh, ?_, ?_⟩
  · intro settled value seen scope classID device
    have kept :=
      Guarded.free_of_atomic following.atomic settled.free (Timed.kept_sequential devices)
    rw [following.seen_of_settled settled seen]
    exact (kept.agrees.listed device).symm
  · exact following.exists_settled (Timed.kept_sequential devices)
      (fun published call _ _ => Timed.isSome_run call published)

/-- HAL has read an empty device list, and one thread is about to add a device. -/
theorem device_list_followed_read
    : ∃ state : Mirrored Bool (Published Bool) (Call Bool) Unit UInt32 ObjectIDs,
        state.guarded.mutex = some true
        ∧ (state.seen kAudioPlugInPropertyDeviceList).isSome
        ∧ ∃ events finish,
            (∀ event ∈ events, event = .notify ∨ ∃ thread, event = .move (thread, .proceed))
            ∧ (Mirrored.system Timed.twins.code source (· = {})).Run state events finish
            ∧ finish.Settled source := by
  have start
      : ((Mirrored.system Timed.twins.code source (· = {})).restrict
          (Mirrored.Admits (fun published => published.timed.Permitted Timed.twins))).Reachable
            ⟨Timed.noCalls, fun _ => none, 0⟩ :=
    .initial ⟨⟨fun _ => rfl, rfl, rfl, rfl⟩, fun _ => rfl, rfl⟩
  have read := start.step (.read kAudioPlugInPropertyDeviceList) ⟨trivial, rfl⟩
  have called := read.step (.move (true, .call (.addDevice false)))
    ⟨fun _ proceeds => (by cases proceeds), rfl⟩
  have locked := called.step (.move (true, .proceed))
    ⟨fun _ _ waits => (by cases waits; trivial), rfl⟩
  exact ⟨_, rfl, rfl, (device_list_followed Timed.twins locked).2.2⟩

end Devices

end Aspl.Plugin
