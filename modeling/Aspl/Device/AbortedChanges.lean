import Aspl.Device.BookkeepingRuns

/-! Aborting the request of a call that adds or removes a stream or a control. The first half of
the call is done by then, and `AbortConfigurationChange()` only erases the second half.
-/

namespace Aspl.Device.AbortedChanges

open CoreAudio
open StreamChanges (Direction)
open Bookkeeping

universe u

variable {Object : Type u} [DecidableEq Object] {objects : Objects Object}
  {deviceID : AudioObjectID} {device : Members Object}

/-- A getter by index returns an object. -/
def Indexes {Key : Type} (getByIndex : Key → UInt32 → Option Object) (key : Key)
    (object : Object)
    : Prop :=
  ∃ idx, getByIndex key idx = some object

/-- The getters return an object of their kind exactly if its ID is among the owned ones of its
scope.
-/
structure Shown {Key : Type} (objects : Objects Object) (ofKey : Key → ObjectKind)
    (getByID : AudioObjectID → Option Object) (getByIndex : Key → UInt32 → Option Object)
    (ownedIDs : AudioObjectPropertyScope → List AudioObjectID)
    : Prop where
  byID
    : ∀ key object,
        objects.kind object = ofKey key
        → (getByID (objects.objectID object) = some object
          ↔ objects.objectID object ∈ ownedIDs (ofKey key).scope)
  byIndex
    : ∀ key object,
        objects.kind object = ofKey key
        → (Indexes getByIndex key object
          ↔ objects.objectID object ∈ ownedIDs (ofKey key).scope)

/-- The getters agree with the owned objects, and the stream counters with both. -/
structure Consistent (objects : Objects Object) (device : Members Object) : Prop where
  streams
    : Shown objects .stream device.getStreamByID device.getStreamByIndex
        (device.getOwnedObjectIDs objects · 0)
  volumeControls
    : Shown objects .volumeControl device.getVolumeControlByID device.getVolumeControlByIndex
        (device.getOwnedObjectIDs objects · 0)
  muteControls
    : Shown objects .muteControl device.getMuteControlByID device.getMuteControlByIndex
        (device.getOwnedObjectIDs objects · 0)
  listed : ∀ dir, (device.numStreams dir).toNat = (device.streams.lists dir).length
  counted
    : ∀ dir,
        (device.numStreams dir).toNat = (device.getStreamIDs objects (streamScope dir)).length

/-- A call whose request may be aborted: it adds a control that is there already, removes a
stream or a control that is not there, or has a null argument.
-/
def Abortable (device : Members Object) : MemberCall objects → Prop
  | .addStreamAsync stream => stream = none
  | .removeStreamAsync stream =>
      ∀ own, stream = some own → ¬ Indexes device.getStreamByIndex own.dir own.object
  | .addVolumeControlAsync control =>
      ∀ own, control = some own → Indexes device.getVolumeControlByIndex own.scope own.object
  | .removeVolumeControlAsync control =>
      ∀ own, control = some own → ¬ Indexes device.getVolumeControlByIndex own.scope own.object
  | .addMuteControlAsync control =>
      ∀ own, control = some own → Indexes device.getMuteControlByIndex own.scope own.object
  | .removeMuteControlAsync control =>
      ∀ own, control = some own → ¬ Indexes device.getMuteControlByIndex own.scope own.object

-----------------------------------------------------------------------------------------
-- One catalog
-----------------------------------------------------------------------------------------

section Catalog

variable {Key : Type} [DecidableEq Key] {catalog : Catalog Key AudioObjectID Object}
  {ofKey : Key → ObjectKind} {ownedIDs : AudioObjectPropertyScope → List AudioObjectID}
  {key : Key} {object : Object}

/-- The getter by index of a catalog. -/
def getByIndex (catalog : Catalog Key AudioObjectID Object) (key : Key) (idx : UInt32)
    : Option Object :=
  (catalog.lists key)[idx.toNat]?

omit [DecidableEq Object] [DecidableEq Key] in
/-- The indices reach the first `2 ^ 32` objects of a list. -/
theorem indexes_iff
    : Indexes (getByIndex catalog) key object ↔ object ∈ (catalog.lists key).take UInt32.size := by
  rw [Indexes, List.mem_take_iff_getElem]
  constructor
  · rintro ⟨idx, found⟩
    obtain ⟨below, rfl⟩ := List.getElem?_eq_some_iff.mp found
    exact ⟨idx.toNat, Nat.lt_min.mpr ⟨idx.toNat_lt_size, below⟩, rfl⟩
  · rintro ⟨index, below, rfl⟩
    obtain ⟨small, inside⟩ := Nat.lt_min.mp below
    refine ⟨UInt32.ofNat index, ?_⟩
    rw [getByIndex, UInt32.toNat_ofNat_of_lt' small, List.getElem?_eq_getElem inside]

omit [DecidableEq Key] in
/-- Removing an object that is not among the first ones leaves these, by induction on the list. -/
theorem take_filter_ne {list : List Object} {count : Nat} (absent : object ∉ list.take count)
    : (list.filter (· ≠ object)).take count = list.take count := by
  induction list generalizing count with
  | nil => rfl
  | cons head rest ih =>
      cases count with
      | zero => rfl
      | succ count =>
          rw [List.take_succ_cons, List.mem_cons, not_or] at absent
          have different : head ≠ object := Ne.symm absent.1
          rw [List.filter_cons_of_pos (by simpa using different), List.take_succ_cons,
            List.take_succ_cons, ih absent.2]

omit [DecidableEq Key] in
/-- A change of what is found under the ID of one object keeps a catalog shown, if the getter by
index returns the same as before and the one by ID is right about this object.
-/
theorem Shown.update
    (shown : Shown objects ofKey catalog.byID.find? (getByIndex catalog) ownedIDs)
    (kind : objects.kind object = ofKey key) {next : Catalog Key AudioObjectID Object}
    {value : Option Object}
    (found
      : ∀ id,
          next.byID.find? id
          = if id = objects.objectID object then value else catalog.byID.find? id)
    (right : value = some object ↔ objects.objectID object ∈ ownedIDs (ofKey key).scope)
    (same
      : ∀ other item,
          Indexes (getByIndex next) other item ↔ Indexes (getByIndex catalog) other item)
    : Shown objects ofKey next.byID.find? (getByIndex next) ownedIDs where
  byID other item ofKind := by
    rw [found]
    by_cases isObject : item = object
    · subst isObject
      rw [if_pos rfl, ← ofKind, kind]
      exact right
    · rw [if_neg (objects.objectID_injective.ne isObject)]
      exact shown.byID other item ofKind
  byIndex other item ofKind := (same other item).trans (shown.byIndex other item ofKind)

/-- A catalog to which an object is added is shown exactly if it showed that object before. -/
theorem shown_add_iff
    (shown : Shown objects ofKey catalog.byID.find? (getByIndex catalog) ownedIDs)
    (kind : objects.kind object = ofKey key)
    : Shown objects ofKey (catalog.add objects.objectID key object).byID.find?
        (getByIndex (catalog.add objects.objectID key object)) ownedIDs
      ↔ Indexes (getByIndex catalog) key object := by
  have found : ∀ id,
      (catalog.add objects.objectID key object).byID.find? id
      = if id = objects.objectID object then some object else catalog.byID.find? id :=
    fun id => OrderedMap.find?_insert ..
  constructor
  · intro after
    have owned := (after.byID key object kind).mp (by rw [found, if_pos rfl])
    exact (shown.byIndex key object kind).mpr owned
  · intro indexed
    have owned := (shown.byIndex key object kind).mp indexed
    refine shown.update kind found (iff_of_true rfl owned) ?_
    intro other item
    rw [indexes_iff, indexes_iff]
    simp only [Catalog.add, Function.update_apply]
    split
    · rename_i here
      subst here
      rw [List.take_append, List.mem_append, or_iff_left_iff_imp]
      intro last
      rw [List.mem_singleton.mp (List.mem_of_mem_take last)]
      exact indexes_iff.mp indexed
    · rfl

/-- A catalog from which an object is removed is shown exactly if it did not show that object. -/
theorem shown_remove_iff
    (shown : Shown objects ofKey catalog.byID.find? (getByIndex catalog) ownedIDs)
    (kind : objects.kind object = ofKey key)
    : Shown objects ofKey (catalog.remove objects.objectID key object).byID.find?
        (getByIndex (catalog.remove objects.objectID key object)) ownedIDs
      ↔ ¬ Indexes (getByIndex catalog) key object := by
  have found : ∀ id,
      (catalog.remove objects.objectID key object).byID.find? id
      = if id = objects.objectID object then none else catalog.byID.find? id :=
    fun id => OrderedMap.find?_erase ..
  constructor
  · intro after indexed
    have owned := (shown.byIndex key object kind).mp indexed
    have kept := (after.byID key object kind).mpr owned
    rw [found, if_pos rfl] at kept
    cases kept
  · intro absent
    have notOwned := (shown.byIndex key object kind).not.mp absent
    refine shown.update kind found (iff_of_false (by simp) notOwned) ?_
    intro other item
    rw [indexes_iff, indexes_iff]
    simp only [Catalog.remove, Function.update_apply]
    split
    · rename_i here
      subst here
      rw [take_filter_ne (indexes_iff.not.mp absent)]
    · rfl

end Catalog

-----------------------------------------------------------------------------------------
-- One call
-----------------------------------------------------------------------------------------

/-- The owned objects and the counters are those before the call. -/
theorem getOwnedObjectIDs_file (closure : objects.Closure) (device : Members Object)
    : (closure.file device).getOwnedObjectIDs objects = device.getOwnedObjectIDs objects := by
  cases closure <;> rfl

/-- Removing a stream that is not there leaves the number of listed streams. -/
theorem length_remove_absent (consistent : Consistent objects device) {own : objects.Stream}
    (absent : ¬ Indexes device.getStreamByIndex own.dir own.object) (dir : Direction)
    : ((device.streams.remove objects.objectID own.dir own.object).lists dir).length
      = (device.streams.lists dir).length := by
  have short : (device.streams.lists own.dir).length ≤ UInt32.size := by
    rw [← consistent.listed own.dir]
    exact (UInt32.toNat_lt_size _).le
  have unlisted : own.object ∉ device.streams.lists own.dir := by
    have beyond := indexes_iff.not.mp absent
    rwa [List.take_of_length_le short] at beyond
  have unchanged : (device.streams.lists own.dir).filter (· ≠ own.object)
      = device.streams.lists own.dir := by
    refine List.filter_eq_self.mpr (fun item member => ?_)
    simpa using fun same : item = own.object => unlisted (same ▸ member)
  rw [Catalog.remove, unchanged, Function.update_eq_self]

/-- A call keeps a device consistent if its getters still show the owned objects and it leaves as
many streams as before: the counters and the owned objects are left to the second half.
-/
theorem Consistent.file (consistent : Consistent objects device) {closure : objects.Closure}
    (streams
      : Shown objects .stream (closure.file device).getStreamByID
          (closure.file device).getStreamByIndex (device.getOwnedObjectIDs objects · 0))
    (volumeControls
      : Shown objects .volumeControl (closure.file device).getVolumeControlByID
          (closure.file device).getVolumeControlByIndex (device.getOwnedObjectIDs objects · 0))
    (muteControls
      : Shown objects .muteControl (closure.file device).getMuteControlByID
          (closure.file device).getMuteControlByIndex (device.getOwnedObjectIDs objects · 0))
    (length
      : ∀ dir,
          ((closure.file device).streams.lists dir).length = (device.streams.lists dir).length)
    : Consistent objects (closure.file device) := by
  have sameIDs := getOwnedObjectIDs_file closure device
  refine ⟨sameIDs ▸ streams, sameIDs ▸ volumeControls, sameIDs ▸ muteControls, ?_, ?_⟩
  · intro dir
    rw [numStreams_file, length, consistent.listed]
  · intro dir
    rw [numStreams_file, Members.getStreamIDs, sameIDs]
    exact consistent.counted dir

/-- The first half of a call keeps a device consistent exactly if it changes none of the getters
and no list of streams.
-/
theorem consistent_file_iff (consistent : Consistent objects device) {call : MemberCall objects}
    {closure : objects.Closure} (requested : call.closure? = some closure)
    : Consistent objects (closure.file device) ↔ Abortable device call := by
  have ⟨streams, volumeControls, muteControls, listed, _⟩ := consistent
  cases call with
  | addStreamAsync stream =>
      obtain ⟨own, rfl, rfl⟩ := Option.map_eq_some_iff.mp requested
      refine iff_of_false (fun after => ?_) (by simp [Abortable])
      have length := (after.listed own.dir).symm.trans
        ((congrArg UInt32.toNat (numStreams_file _ device _)).trans (listed own.dir))
      simp [Objects.Closure.file, Catalog.add] at length
  | removeStreamAsync stream =>
      obtain ⟨own, rfl, rfl⟩ := Option.map_eq_some_iff.mp requested
      have shown := shown_remove_iff streams own.kind_eq
      constructor
      · rintro after _ ⟨⟩
        exact shown.mp after.streams
      · intro absent
        have absent := absent own rfl
        exact consistent.file (shown.mpr absent) volumeControls muteControls
          (length_remove_absent consistent absent)
  | addVolumeControlAsync control =>
      obtain ⟨own, rfl, rfl⟩ := Option.map_eq_some_iff.mp requested
      have shown := shown_add_iff volumeControls own.kind_eq
      constructor
      · rintro after _ ⟨⟩
        exact shown.mp after.volumeControls
      · intro present
        exact consistent.file streams (shown.mpr (present own rfl)) muteControls
          (fun _ => rfl)
  | removeVolumeControlAsync control =>
      obtain ⟨own, rfl, rfl⟩ := Option.map_eq_some_iff.mp requested
      have shown := shown_remove_iff volumeControls own.kind_eq
      constructor
      · rintro after _ ⟨⟩
        exact shown.mp after.volumeControls
      · intro absent
        exact consistent.file streams (shown.mpr (absent own rfl)) muteControls
          (fun _ => rfl)
  | addMuteControlAsync control =>
      obtain ⟨own, rfl, rfl⟩ := Option.map_eq_some_iff.mp requested
      have shown := shown_add_iff muteControls own.kind_eq
      constructor
      · rintro after _ ⟨⟩
        exact shown.mp after.muteControls
      · intro present
        exact consistent.file streams volumeControls (shown.mpr (present own rfl))
          (fun _ => rfl)
  | removeMuteControlAsync control =>
      obtain ⟨own, rfl, rfl⟩ := Option.map_eq_some_iff.mp requested
      have shown := shown_remove_iff muteControls own.kind_eq
      constructor
      · rintro after _ ⟨⟩
        exact shown.mp after.muteControls
      · intro absent
        exact consistent.file streams volumeControls (shown.mpr (absent own rfl))
          (fun _ => rfl)

/-- On a published, consistent device without pending requests, a call whose request is aborted
leaves nothing pending, and leaves the device consistent exactly if it could be aborted.
-/
theorem aborted_change_consistent_iff (objects : Objects Object) (deviceID : AudioObjectID)
    (world : World objects.Closure (Members Object))
    (published : world.configuration.enqueues = true)
    (nothingPending : world.configuration.pendingConfigurationRequests = .empty)
    (consistent : Consistent objects world.state) (call : MemberCall objects)
    : let aborted :=
        abortConfigurationChange world.configuration.lastConfigurationRequestID
          (callMember deviceID world call)
      aborted.configuration.pendingConfigurationRequests = .empty
      ∧ (Consistent objects aborted.state ↔ Abortable world.state call) := by
  intro aborted
  cases requested : call.closure? with
  | none =>
      have unchanged : aborted = world := by
        show abortConfigurationChange _ (callMember deviceID world call) = world
        rw [callMember_none requested]
        exact abortConfigurationChange_missing (by rw [nothingPending]; rfl)
      rw [unchanged]
      refine ⟨nothingPending, iff_of_true consistent ?_⟩
      cases call <;> rw [MemberCall.closure?, Option.map_eq_none_iff] at requested <;>
        simp [Abortable, requested]
  | some closure =>
      have left : aborted = {
          configuration := (world.configuration.enqueue (some closure)).erase
            world.configuration.lastConfigurationRequestID
          state := closure.file world.state
        } := by
        show abortConfigurationChange _ (callMember deviceID world call) = _
        rw [callMember_enqueues requested published]
        rfl
      rw [left]
      refine ⟨?_, consistent_file_iff consistent requested⟩
      simp only [Configuration.enqueue, Configuration.erase, nothingPending]
      apply OrderedMap.ext_find?
      intro reqID
      rw [OrderedMap.find?_erase, OrderedMap.find?_insert]
      split <;> rfl

/-- Two output streams with the IDs 3 and 4. -/
def twoStreams : Objects Bool where
  objectID object := if object then 4 else 3
  kind _ := .stream .output
  objectID_injective := by
    intro first second same
    cases first <;> cases second <;> first | rfl | exact absurd same (by decide)
  objectID_ne_unknown := by decide

/-- A published device to which the first of the streams was added. -/
def streamingDevice : World twoStreams.Closure (Members Bool) :=
  performConfigurationChange (Members.run 2) 0
    (callMember 2 { configuration := { host := true, ownerObjectID := 1 }, state := {} }
      (.addStreamAsync (some ⟨false, .output, rfl⟩)))

theorem consistent_streamingDevice : Consistent twoStreams streamingDevice.state where
  streams := by
    constructor
    · rintro _ (_ | _) ⟨⟩ <;> decide
    · rintro _ (_ | _) ⟨⟩
      · exact iff_of_true ⟨0, rfl⟩ (by decide)
      · refine iff_of_false ?_ (by decide)
        rintro ⟨idx, found⟩
        exact absurd (List.mem_of_getElem? found) (by decide)
  volumeControls := ⟨nofun, nofun⟩
  muteControls := ⟨nofun, nofun⟩
  listed dir := by cases dir <;> rfl
  counted dir := by cases dir <;> rfl

/-- The removal of the other stream, which the device does not have, may be aborted. -/
theorem aborted_change_consistent_iff_removed
    : let aborted :=
        abortConfigurationChange 1
          (callMember 2 streamingDevice (.removeStreamAsync (some ⟨true, .output, rfl⟩)))
      aborted.state.getStreamByIndex .output 0 = some false
      ∧ Consistent twoStreams aborted.state := by
  have iff := (aborted_change_consistent_iff twoStreams 2 streamingDevice rfl rfl
    consistent_streamingDevice (.removeStreamAsync (some ⟨true, .output, rfl⟩))).2
  refine ⟨rfl, iff.mpr ?_⟩
  rintro _ ⟨⟩ ⟨idx, found⟩
  exact absurd (List.mem_of_getElem? found) (by decide)

/-- A stream whose addition is aborted is still found by its index, but is not owned. -/
theorem aborted_stream_stays
    : ¬ ∀ call : MemberCall oneStream,
        Consistent oneStream
          (abortConfigurationChange 0 (callMember 2 publishedDevice call)).state := by
  intro always
  have shown := (always (.addStreamAsync (some theStream))).streams
  have owned := (shown.byIndex .output () rfl).mp ⟨0, rfl⟩
  exact absurd owned (by decide)

end Aspl.Device.AbortedChanges
