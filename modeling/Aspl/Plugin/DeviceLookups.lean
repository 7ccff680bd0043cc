import Aspl.Plugin.Devices
import Mathlib.Data.List.Range

/-! The device lookups of a plugin agree in runs that never remove one of two devices with the
same UID.
-/

namespace Aspl.Plugin.Timed

open CoreAudio
open Object (OwnedObjects)

universe u

variable {Device : Type u} {devices : Devices Device} {timed : Timed Device}

/-- A plugin lists no more devices than there are IDs. -/
theorem Kept.length_le (kept : timed.Kept devices)
    : timed.plugin.devices.length ≤ UInt32.size := by
  have bound := length_le_of_nodup (kept.once.map devices.objectID_injective)
  rwa [List.length_map] at bound

/-- A device is listed exactly if it has an index. -/
theorem Kept.indexed (kept : timed.Kept devices) (device : Device)
    : device ∈ timed.plugin.devices
      ↔ ∃ idx, Devices.getDeviceByIndex timed.plugin idx = some device := by
  constructor
  · intro listed
    obtain ⟨position, found⟩ := List.mem_iff_getElem?.mp listed
    have below := (List.getElem?_eq_some_iff.mp found).1
    have small : position < UInt32.size := below.trans_le kept.length_le
    refine ⟨UInt32.ofNat position, ?_⟩
    rw [Devices.getDeviceByIndex, UInt32.toNat_ofNat_of_lt' small, found]
  · rintro ⟨idx, found⟩
    exact List.mem_of_getElem? found

/-- A UID that is stored leads to its device. -/
theorem getDeviceIDByUID_of_find? {uid : String} {device : Device}
    (found : timed.plugin.deviceByUID.find? uid = some device)
    : devices.getDeviceIDByUID timed.plugin uid = devices.objectID device := by
  rw [Devices.getDeviceIDByUID, found]

/-- A UID that is not stored leads nowhere. -/
theorem getDeviceIDByUID_of_none {uid : String}
    (absent : timed.plugin.deviceByUID.find? uid = none)
    : devices.getDeviceIDByUID timed.plugin uid = kAudioObjectUnknown := by
  rw [Devices.getDeviceIDByUID, absent]

/-- The invariant makes all lookups agree. -/
theorem Kept.agrees (kept : timed.Kept devices) : timed.Agrees devices where
  once := kept.once
  byID device := by
    rw [Devices.getDeviceByID, kept.byID]
    simp
  has device := by
    rw [Devices.hasDevice, Option.isSome_iff_exists]
    constructor
    · exact fun listed => ⟨device, (kept.byID _ _).mpr ⟨listed, rfl⟩⟩
    · rintro ⟨other, found⟩
      obtain ⟨listed, same⟩ := (kept.byID _ _).mp found
      obtain rfl := devices.objectID_injective same
      exact listed
  listed device := by
    rw [Devices.getDeviceIDs, kept.sound.mem_getOwnedObjectIDs]
    constructor
    · intro listed
      exact ⟨_, device, (kept.owns _ _).mpr ⟨rfl, listed⟩, rfl, Or.inl rfl, Or.inr rfl⟩
    · rintro ⟨scope, other, owned, same, -⟩
      obtain rfl := devices.objectID_injective same
      exact ((kept.owns _ _).mp owned).2
  owner device := by
    rw [kept.sound.owner]
    simp [kept.owns]
  indexed := kept.indexed
  ordered idx later first second less atFirst atSecond := by
    obtain ⟨low, rfl⟩ := List.getElem?_eq_some_iff.mp atFirst
    obtain ⟨high, rfl⟩ := List.getElem?_eq_some_iff.mp atSecond
    exact List.pairwise_iff_getElem.mp kept.ordered _ _ low high less
  byUID := by
    rintro uid ⟨device, listed, rfl⟩
    obtain ⟨found, stored⟩ := Option.ne_none_iff_exists'.mp (kept.uidFound device listed)
    obtain ⟨listed, same⟩ := kept.uidOf _ _ stored
    exact ⟨found, listed, same, getDeviceIDByUID_of_find? stored⟩
  noUID := by
    intro uid nobody
    cases stored : timed.plugin.deviceByUID.find? uid with
    | none => exact getDeviceIDByUID_of_none stored
    | some device => exact absurd ⟨device, kept.uidOf _ _ stored⟩ nobody

/-- A plugin without devices. -/
theorem kept_new : ({} : Timed Device).Kept devices where
  once := .nil
  byID id device := by simp
  uidOf uid device found := by cases found
  uidFound device listed := by cases listed
  sound := OwnedObjects.sound_new (by decide)
  owns scope device := by simp [OwnedObjects.Owns, NestedMap.lookup]
  free device _ := rfl
  ordered := .nil
  past device listed := by cases listed

variable [DecidableEq Device]

/-- A device without an owner that is added joins every structure. -/
theorem Kept.added (kept : timed.Kept devices) {device : Device} {owned : OwnedObjects Device}
    (free : timed.plugin.owned.ownerObjectID device = kAudioObjectUnknown)
    (added : OwnedObjects.addOwnedObject kAudioObjectPlugInObject devices.objectID
        timed.plugin.owned device kAudioObjectPropertyScopeGlobal
      = some owned)
    : Kept devices {
        plugin := {
          devices := timed.plugin.devices ++ [device]
          deviceByID := timed.plugin.deviceByID.insert (devices.objectID device) device
          deviceByUID :=
            timed.plugin.deviceByUID.insert (devices.getDeviceUID device) device
          owned := owned
        }
        calls := timed.calls + 1
        addedAt := Function.update timed.addedAt device timed.calls
      } := by
  have known : kAudioObjectPlugInObject ≠ kAudioObjectUnknown := by decide
  have absent : device ∉ timed.plugin.devices := by
    intro listed
    have owner := (kept.agrees.owner device).mp listed
    exact known (owner.symm.trans free)
  obtain ⟨sound, owns⟩ := kept.sound.add devices.objectID_injective known added
  obtain ⟨-, links⟩ := OwnedObjects.addOwnedObject_eq_some_iff.mp added
  have different : ∀ other ∈ timed.plugin.devices, other ≠ device :=
    fun other listed => ne_of_mem_of_not_mem listed absent
  have times : ∀ other ∈ timed.plugin.devices,
      Function.update timed.addedAt device timed.calls other = timed.addedAt other :=
    fun other listed => Function.update_of_ne (different other listed) _ _
  exact {
    once := by
      refine List.nodup_append.mpr ⟨kept.once, List.nodup_singleton _, ?_⟩
      simpa using different
    byID id other := by
      rw [OrderedMap.find?_insert_eq_some_iff, kept.byID, List.mem_append, List.mem_singleton]
      constructor
      · intro found
        rcases found with ⟨rfl, rfl⟩ | ⟨-, before, same⟩
        · exact ⟨Or.inr rfl, rfl⟩
        · exact ⟨Or.inl before, same⟩
      · intro ⟨member, same⟩
        rcases member with before | rfl
        · refine Or.inr ⟨fun equal => different other before ?_, before, same⟩
          exact devices.objectID_injective (same.trans equal)
        · exact Or.inl ⟨same.symm, rfl⟩
    uidOf uid other found := by
      rcases OrderedMap.find?_insert_eq_some_iff.mp found with ⟨rfl, rfl⟩ | ⟨-, before⟩
      · exact ⟨List.mem_append_right _ (List.mem_singleton_self _), rfl⟩
      · obtain ⟨listed, same⟩ := kept.uidOf _ _ before
        exact ⟨List.mem_append_left _ listed, same⟩
    uidFound other listed := by
      rw [OrderedMap.find?_insert]
      split
      · exact Option.some_ne_none _
      · rename_i apart
        rcases List.mem_append.mp listed with before | new
        · exact kept.uidFound other before
        · exact absurd (by rw [List.mem_singleton.mp new]) apart
    sound := sound
    owns scope other := by
      rw [owns, kept.owns, List.mem_append, List.mem_singleton]
      tauto
    free other unlisted := by
      rw [List.mem_append, List.mem_singleton, not_or] at unlisted
      rw [links]
      exact (Function.update_of_ne unlisted.2 _ _).trans (kept.free other unlisted.1)
    ordered := by
      refine List.pairwise_append.mpr ⟨?_, List.pairwise_singleton _ _, ?_⟩
      · refine kept.ordered.imp_of_mem ?_
        intro first second inFirst inSecond less
        dsimp only
        rwa [times first inFirst, times second inSecond]
      · intro first before second last
        dsimp only
        rw [List.mem_singleton.mp last, times first before, Function.update_self]
        exact kept.past first before
    past other listed := by
      dsimp only
      rcases List.mem_append.mp listed with before | new
      · rw [times other before]
        exact (kept.past other before).trans (Nat.lt_succ_self _)
      · rw [List.mem_singleton.mp new, Function.update_self]
        exact Nat.lt_succ_self _
  }

/-- A device that is removed leaves every structure, if no other listed device has its UID. -/
theorem Kept.removed (kept : timed.Kept devices) (device : Device)
    (alone
      : ∀ other ∈ timed.plugin.devices,
          devices.getDeviceUID other = devices.getDeviceUID device → other = device)
    : Kept devices {
        plugin := {
          devices := timed.plugin.devices.erase device
          deviceByID := timed.plugin.deviceByID.erase (devices.objectID device)
          deviceByUID := timed.plugin.deviceByUID.erase (devices.getDeviceUID device)
          owned := timed.plugin.owned.removeOwnedObject (devices.objectID device)
        }
        calls := timed.calls + 1
        addedAt := timed.addedAt
      } := by
  have known : kAudioObjectPlugInObject ≠ kAudioObjectUnknown := by decide
  obtain ⟨sound, owns, owner⟩ := kept.sound.remove devices.objectID_injective known device
  have listed : ∀ other,
      other ∈ timed.plugin.devices.erase device
      ↔ other ≠ device ∧ other ∈ timed.plugin.devices :=
    fun other => kept.once.mem_erase_iff
  exact {
    once := kept.once.erase device
    byID id other := by
      rw [OrderedMap.find?_erase_eq_some_iff, kept.byID, listed]
      constructor
      · intro ⟨apart, before, same⟩
        exact ⟨⟨fun equal => apart (by rw [← same, equal]), before⟩, same⟩
      · intro ⟨⟨apart, before⟩, same⟩
        exact ⟨fun equal => apart (devices.objectID_injective (same.trans equal)), before, same⟩
    uidOf uid other found := by
      obtain ⟨apart, stored⟩ := OrderedMap.find?_erase_eq_some_iff.mp found
      obtain ⟨before, same⟩ := kept.uidOf _ _ stored
      exact ⟨(listed other).mpr ⟨fun equal => apart (by rw [← same, equal]), before⟩, same⟩
    uidFound other remains := by
      obtain ⟨different, before⟩ := (listed other).mp remains
      rw [OrderedMap.find?_erase, if_neg (fun same => different (alone other before same))]
      exact kept.uidFound other before
    sound := sound
    owns scope other := by
      rw [owns, kept.owns, listed]
      tauto
    free other unlisted := by
      rw [owner]
      split
      · rfl
      · rename_i apart
        by_contra owned
        have before : other ∈ timed.plugin.devices := by
          by_contra absent
          exact owned (kept.free other absent)
        have same : other = device := by
          by_contra different
          exact unlisted ((listed other).mpr ⟨different, before⟩)
        exact apart ⟨same, (kept.agrees.owner other).mp before⟩
    ordered := kept.ordered.sublist List.erase_sublist
    past other remains :=
      (kept.past other ((listed other).mp remains).2).trans (Nat.lt_succ_self _)
  }

/-- What a call does: nothing to a device that is where the call would put it, and otherwise the
addition of a device without an owner or the removal of one with an owner.
-/
inductive Effect (devices : Devices Device) (timed : Timed Device)
    : Call Device → Timed Device → Prop
  | added {device owned}
    (free : timed.plugin.owned.ownerObjectID device = kAudioObjectUnknown)
    (links
      : OwnedObjects.addOwnedObject kAudioObjectPlugInObject devices.objectID
          timed.plugin.owned device kAudioObjectPropertyScopeGlobal
        = some owned)
    : Effect devices timed (.addDevice device) {
        plugin := {
          devices := timed.plugin.devices ++ [device]
          deviceByID := timed.plugin.deviceByID.insert (devices.objectID device) device
          deviceByUID :=
            timed.plugin.deviceByUID.insert (devices.getDeviceUID device) device
          owned := owned
        }
        calls := timed.calls + 1
        addedAt := Function.update timed.addedAt device timed.calls
      }
  | removed {device} (owner : timed.plugin.owned.ownerObjectID device ≠ kAudioObjectUnknown)
    : Effect devices timed (.removeDevice device) {
        plugin := {
          devices := timed.plugin.devices.erase device
          deviceByID := timed.plugin.deviceByID.erase (devices.objectID device)
          deviceByUID := timed.plugin.deviceByUID.erase (devices.getDeviceUID device)
          owned := timed.plugin.owned.removeOwnedObject (devices.objectID device)
        }
        calls := timed.calls + 1
        addedAt := timed.addedAt
      }
  | unchanged {call} (permitted : timed.Permitted devices call)
    : Effect devices timed call { timed with calls := timed.calls + 1 }

/-- Every call has one of these effects. -/
theorem advance_effect {call : Call Device} {next : Timed Device}
    (taken : timed.advance devices call = some next)
    : Effect devices timed call next := by
  cases call with
  | addDevice device =>
      have uid := devices.getDeviceUID_ne_empty device
      by_cases free : timed.plugin.owned.ownerObjectID device = kAudioObjectUnknown
      · simp only [advance, Devices.perform, Devices.addDevice, Devices.requestOwnershipChange,
          addedAfter, free, uid, ne_eq, not_true_eq_false, not_false_eq_true, if_true, if_false,
          Option.map_map] at taken
        obtain ⟨owned, links, rfl⟩ := Option.map_eq_some_iff.mp taken
        exact .added free links
      · simp only [advance, Devices.perform, Devices.addDevice, addedAfter, free, ne_eq,
          not_false_eq_true, if_true, Option.map_some, Option.some.injEq] at taken
        exact taken ▸ .unchanged trivial
  | removeDevice device =>
      have uid := devices.getDeviceUID_ne_empty device
      by_cases free : timed.plugin.owned.ownerObjectID device = kAudioObjectUnknown
      · simp only [advance, Devices.perform, Devices.removeDevice, addedAfter, free, if_true,
          Option.map_some, Option.some.injEq] at taken
        exact taken ▸ .unchanged (fun owner => absurd free owner)
      · simp only [advance, Devices.perform, Devices.removeDevice,
          Devices.requestOwnershipChange, addedAfter, free, uid, ne_eq, not_false_eq_true,
          not_true_eq_false, if_true, if_false, Bool.false_eq_true, Option.map_some,
          Option.some.injEq] at taken
        exact taken ▸ .removed free

/-- A call keeps the invariant if it is permitted. -/
theorem Kept.step (kept : timed.Kept devices) (call : Call Device) {next : Timed Device}
    (permitted : timed.Permitted devices call) (effect : Effect devices timed call next)
    : next.Kept devices := by
  cases effect with
  | added free links => exact kept.added free links
  | removed owner => exact kept.removed _ (permitted owner)
  | unchanged =>
      obtain ⟨once, byID, uidOf, uidFound, sound, owns, free, ordered, past⟩ := kept
      exact ⟨once, byID, uidOf, uidFound, sound, owns, free, ordered,
        fun device listed => (past device listed).trans (Nat.lt_succ_self _)⟩

/-- Removing a device loses another one with its UID. -/
theorem Kept.permitted_of_agrees (kept : timed.Kept devices) {call : Call Device}
    {next : Timed Device} (effect : Effect devices timed call next)
    (agrees : next.Agrees devices)
    : timed.Permitted devices call := by
  cases effect with
  | added => trivial
  | @removed device owner =>
      intro _ other listed same
      by_contra different
      have remains : other ∈ timed.plugin.devices.erase device :=
        kept.once.mem_erase_iff.mpr ⟨different, listed⟩
      obtain ⟨found, -, -, resolved⟩ := agrees.byUID _ ⟨other, remains, same⟩
      have lost : (timed.plugin.deviceByUID.erase (devices.getDeviceUID device)).find?
          (devices.getDeviceUID device) = none := by
        rw [OrderedMap.find?_erase, if_pos rfl]
      exact devices.objectID_ne_unknown found
        (resolved.symm.trans (getDeviceIDByUID_of_none lost))
  | unchanged permitted => exact permitted

/-- Every call returns: `AddDevice()` adds a device to the plugin only if it has no owner. -/
theorem exists_advance (devices : Devices Device) (timed : Timed Device) (call : Call Device)
    : ∃ next, timed.advance devices call = some next := by
  rw [← Option.isSome_iff_exists, advance, Option.isSome_map]
  cases call with
  | addDevice device =>
      by_cases free : timed.plugin.owned.ownerObjectID device = kAudioObjectUnknown
      · simp [Devices.perform, Devices.addDevice, Devices.requestOwnershipChange, free,
          OwnedObjects.addOwnedObject]
      · simp [Devices.perform, Devices.addDevice, free]
  | removeDevice device =>
      by_cases free : timed.plugin.owned.ownerObjectID device = kAudioObjectUnknown
      · simp [Devices.perform, Devices.removeDevice, free]
      · simp [Devices.perform, Devices.removeDevice, Devices.requestOwnershipChange, free]

/-- In a run whose calls are permitted all device lookups agree after every call, and a call keeps
them in agreement exactly if it is permitted. Every call returns.
-/
theorem device_lookups_agree (devices : Devices Device) {timed : Timed Device}
    (reached : ((system devices).restrict (Permitted devices)).Reachable timed)
    : timed.Agrees devices
      ∧ (∀ call next,
          (system devices).step timed call next
          → (next.Agrees devices ↔ timed.Permitted devices call))
      ∧ ∀ call, ∃ next, (system devices).step timed call next := by
  have invariant : ((system devices).restrict (Permitted devices)).Invariant
      (Kept devices) := {
    initial := fun timed new => new ▸ kept_new
    step := fun timed call next kept taken => kept.step call taken.1 (advance_effect taken.2)
  }
  have kept := invariant.reachable reached
  refine ⟨kept.agrees, ?_, exists_advance devices timed⟩
  intro call next taken
  have effect := advance_effect taken
  exact ⟨kept.permitted_of_agrees effect, fun permitted => (kept.step call permitted effect).agrees⟩

/-- Two devices with the IDs 2 and 3 and one UID. -/
def twins : Devices Bool where
  objectID device := if device then 3 else 2
  params _ := { deviceUID := "uid" }
  generatedUID _ := ""
  objectID_injective := by
    intro first second same
    cases first <;> cases second <;> first | rfl | exact absurd same (by decide)
  objectID_ne_unknown := by decide

/-- One device is added and removed, and then the other one is added. -/
theorem device_lookups_agree_replaced
    : ∃ first second timed,
        advance twins {} (.addDevice false) = some first
        ∧ advance twins first (.removeDevice false) = some second
        ∧ advance twins second (.addDevice true) = some timed
        ∧ timed.plugin.devices = [true]
        ∧ timed.Agrees twins := by
  obtain ⟨first, addFirst⟩ := exists_advance twins {} (.addDevice false)
  obtain ⟨second, remove⟩ := exists_advance twins first (.removeDevice false)
  obtain ⟨timed, addSecond⟩ := exists_advance twins second (.addDevice true)
  have start : ((system twins).restrict (Permitted twins)).Reachable {} := .initial rfl
  have added := start.step (.addDevice false) ⟨trivial, addFirst⟩
  have alone : first.Permitted twins (.removeDevice false) := by
    cases addFirst
    intro _ other listed _
    exact List.mem_singleton.mp listed
  have removed := added.step (.removeDevice false) ⟨alone, remove⟩
  have reached := removed.step (.addDevice true) ⟨trivial, addSecond⟩
  refine ⟨first, second, timed, addFirst, remove, addSecond, ?_,
    (device_lookups_agree twins reached).1⟩
  cases addFirst
  cases remove
  cases addSecond
  rfl

/-- Once both devices are added and the first is removed, the UID of the second leads nowhere. -/
theorem twin_not_found
    : ¬ ∀ timed, (system twins).Reachable timed → timed.Agrees twins := by
  intro all
  obtain ⟨first, addFirst⟩ := exists_advance twins {} (.addDevice false)
  obtain ⟨second, addSecond⟩ := exists_advance twins first (.addDevice true)
  obtain ⟨last, remove⟩ := exists_advance twins second (.removeDevice false)
  have start : (system twins).Reachable {} := .initial rfl
  have reached := ((start.step _ addFirst).step _ addSecond).step _ remove
  have keptFirst : first.Kept twins :=
    kept_new.step (.addDevice false) trivial (advance_effect addFirst)
  have kept : second.Kept twins :=
    keptFirst.step (.addDevice true) trivial (advance_effect addSecond)
  have permitted := kept.permitted_of_agrees (advance_effect remove) (all last reached)
  cases addFirst
  cases addSecond
  exact absurd (permitted (by decide) true (by decide) rfl) (by decide)

end Aspl.Plugin.Timed
