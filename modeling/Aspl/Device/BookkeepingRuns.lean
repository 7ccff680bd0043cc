import Aspl.Device.Bookkeeping

/-! The streams and controls of a device over whole runs: the list of pending requests, oldest
first, settles every object, and in the end the listed objects are the owned ones.
-/

namespace Aspl.Device.Bookkeeping

open CoreAudio
open Handlers (IOOperation)
open Object (OwnedObjects)
open StreamChanges (Direction)

universe u

variable {Object : Type u} [DecidableEq Object] {objects : Objects Object}
  {deviceID : AudioObjectID} {device next more : Members Object} {object : Object}
  {closure : objects.Closure} {queue : List objects.Closure}

omit [DecidableEq Object] in
/-- Owning one more object adds one ID to the list of its direction, if it is a stream. -/
theorem Placed.length_getStreamIDs (placed : Placed objects deviceID device)
    (after : Placed objects deviceID more) (new : owns deviceID device object = false)
    (owned
      : ∀ item,
          owns deviceID more item = true ↔ item = object ∨ owns deviceID device item = true)
    (dir : Direction)
    : (more.getStreamIDs objects (streamScope dir)).length
      = (device.getStreamIDs objects (streamScope dir)).length
        + if objects.kind object = .stream dir then 1 else 0 := by
  have nodup := placed.nodup_getStreamIDs (streamScope dir)
  have nodupMore := after.nodup_getStreamIDs (streamScope dir)
  split
  · rename_i kind
    have absent : objects.objectID object ∉ device.getStreamIDs objects (streamScope dir) := by
      intro member
      obtain ⟨other, mine, same, -⟩ := (placed.mem_getStreamIDs dir _).mp member
      obtain rfl := objects.objectID_injective same
      rw [new] at mine
      cases mine
    refine List.Perm.length_eq ((List.perm_ext_iff_of_nodup nodupMore
      (List.nodup_cons.mpr ⟨absent, nodup⟩)).mpr (fun id => ?_))
    simp only [List.mem_cons, after.mem_getStreamIDs, placed.mem_getStreamIDs, owned]
    constructor
    · rintro ⟨item, rfl | mine, rfl, ofKind⟩
      · exact Or.inl rfl
      · exact Or.inr ⟨item, mine, rfl, ofKind⟩
    · rintro (rfl | ⟨item, mine, rfl, ofKind⟩)
      · exact ⟨object, Or.inl rfl, rfl, kind⟩
      · exact ⟨item, Or.inr mine, rfl, ofKind⟩
  · rename_i otherKind
    refine List.Perm.length_eq ((List.perm_ext_iff_of_nodup nodupMore nodup).mpr (fun id => ?_))
    simp only [after.mem_getStreamIDs, placed.mem_getStreamIDs, owned]
    refine exists_congr (fun item => ⟨?_, fun ⟨mine, rest⟩ => ⟨Or.inr mine, rest⟩⟩)
    rintro ⟨rfl | mine, same, ofKind⟩
    · exact absurd ofKind otherKind
    · exact ⟨mine, same, ofKind⟩

omit [DecidableEq Object] in
/-- Devices that own the same objects have equally many streams of a direction. -/
theorem Placed.length_getStreamIDs_eq (placed : Placed objects deviceID device)
    (after : Placed objects deviceID more)
    (same : ∀ item, owns deviceID device item = true ↔ owns deviceID more item = true)
    (dir : Direction)
    : (device.getStreamIDs objects (streamScope dir)).length
      = (more.getStreamIDs objects (streamScope dir)).length := by
  refine List.Perm.length_eq ((List.perm_ext_iff_of_nodup (placed.nodup_getStreamIDs _)
    (after.nodup_getStreamIDs _)).mpr (fun id => ?_))
  simp only [after.mem_getStreamIDs, placed.mem_getStreamIDs, same]

omit [DecidableEq Object] in
theorem numStreams_countAdded (kind : ObjectKind) (device : Members Object) (dir : Direction)
    : (Members.countAdded kind device).numStreams dir
      = device.numStreams dir + if kind = .stream dir then 1 else 0 := by
  cases kind with
  | stream own => cases own <;> cases dir <;> simp [Members.countAdded, Members.countUp,
      Members.numStreams]
  | volumeControl scope | muteControl scope => simp [Members.countAdded]

omit [DecidableEq Object] in
theorem numStreams_countRemoved (kind : ObjectKind) (device : Members Object) (dir : Direction)
    : (Members.countRemoved kind device).numStreams dir
      = device.numStreams dir - if kind = .stream dir then 1 else 0 := by
  cases kind with
  | stream own => cases own <;> cases dir <;> simp [Members.countRemoved, Members.countDown,
      Members.numStreams]
  | volumeControl scope | muteControl scope => simp [Members.countRemoved]

omit [DecidableEq Object] in
@[simp] theorem owned_countAdded (kind : ObjectKind) (device : Members Object)
    : (Members.countAdded kind device).owned = device.owned := by
  cases kind with
  | stream dir => cases dir <;> rfl
  | volumeControl scope | muteControl scope => rfl

omit [DecidableEq Object] in
@[simp] theorem owned_countRemoved (kind : ObjectKind) (device : Members Object)
    : (Members.countRemoved kind device).owned = device.owned := by
  cases kind with
  | stream dir => cases dir <;> rfl
  | volumeControl scope | muteControl scope => rfl

/-- What a device makes of an object without an owner that is added. -/
theorem apply_free (deviceID : AudioObjectID) (adds : closure.adds = true)
    (free : device.owned.ownerObjectID closure.object = kAudioObjectUnknown)
    : ∃ owned,
        OwnedObjects.addOwnedObject deviceID objects.objectID device.owned closure.object
            (objects.kind closure.object).scope
          = some owned
        ∧ Members.apply deviceID closure device
          = { Members.countAdded (objects.kind closure.object) device with owned := owned } := by
  refine ⟨_, OwnedObjects.addOwnedObject_eq_some_iff.mpr ⟨free, rfl⟩, ?_⟩
  rw [Members.apply_of_adds deviceID adds, Members.addOwnedObject, owned_countAdded,
    OwnedObjects.addOwnedObject_eq_some_iff.mpr ⟨free, rfl⟩]

/-- Adding an object that has an owner hangs. -/
theorem apply_hangs (adds : closure.adds = true)
    (taken : device.owned.ownerObjectID closure.object ≠ kAudioObjectUnknown)
    : (Members.apply deviceID closure device).hung = true := by
  have stuck : OwnedObjects.addOwnedObject deviceID objects.objectID device.owned closure.object
      (objects.kind closure.object).scope = none := if_pos taken
  rw [Members.apply_of_adds deviceID adds, Members.addOwnedObject, owned_countAdded, stuck]

/-- A device that is given an object without an owner has it besides those it had, and counts it
if it is a stream.
-/
theorem Owned.apply_adds (owned : Owned objects deviceID device)
    (known : deviceID ≠ kAudioObjectUnknown) (adds : closure.adds = true)
    (free : device.owned.ownerObjectID closure.object = kAudioObjectUnknown)
    : Owned objects deviceID (Members.apply deviceID closure device)
      ∧ ∀ item,
          owns deviceID (Members.apply deviceID closure device) item = true
          ↔ item = closure.object ∨ owns deviceID device item = true := by
  obtain ⟨owned', added, applied⟩ := apply_free deviceID adds free
  obtain ⟨sound, hasNow⟩ := owned.sound.add objects.objectID_injective known added
  obtain ⟨-, rfl⟩ := OwnedObjects.addOwnedObject_eq_some_iff.mp added
  have new : owns deviceID device closure.object = false := by
    rw [owns, free]
    exact beq_eq_false_iff_ne.mpr known.symm
  have ownsNow : ∀ item,
      owns deviceID (Members.apply deviceID closure device) item = true
      ↔ item = closure.object ∨ owns deviceID device item = true := by
    intro item
    simp only [applied, owns_iff, Function.update_apply]
    by_cases same : item = closure.object <;> simp [same]
  have placed : Placed objects deviceID (Members.apply deviceID closure device) := by
    rw [applied]
    refine ⟨sound, fun scope item has => ?_⟩
    rcases (hasNow scope item).mp has with ⟨rfl, rfl⟩ | before
    · rfl
    · exact owned.ofKind scope item before
  refine ⟨{ placed with counted := fun dir => ?_ }, ownsNow⟩
  have counter : (Members.apply deviceID closure device).numStreams dir
      = (Members.countAdded (objects.kind closure.object) device).numStreams dir := by
    rw [applied]
    cases dir <;> rfl
  rw [counter, numStreams_countAdded, owned.counted,
    owned.toPlaced.length_getStreamIDs placed new ownsNow, UInt32.ofNat_add]
  split <;> rfl

/-- A device from which an owned object is removed has the others; of an object that it does not
own only the counter goes down.
-/
theorem Owned.apply_removes (owned : Owned objects deviceID device)
    (known : deviceID ≠ kAudioObjectUnknown) (removes : closure.adds = false)
    (counts
      : (objects.kind closure.object).isStream = true
        → owns deviceID device closure.object = true)
    : Owned objects deviceID (Members.apply deviceID closure device)
      ∧ ∀ item,
          owns deviceID (Members.apply deviceID closure device) item = true
          ↔ item ≠ closure.object ∧ owns deviceID device item = true := by
  obtain ⟨sound, hasNow, owner⟩ :=
    owned.sound.remove objects.objectID_injective known closure.object
  have applied := Members.apply_of_removes deviceID removes device
  rw [Members.removeOwnedObject, owned_countRemoved] at applied
  have ownsNow : ∀ item,
      owns deviceID (Members.apply deviceID closure device) item = true
      ↔ item ≠ closure.object ∧ owns deviceID device item = true := by
    intro item
    simp only [applied, owns_iff, owner]
    by_cases same : item = closure.object
    · subst same
      by_cases mine : device.owned.ownerObjectID closure.object = deviceID
      · simp [mine, known.symm]
      · simp [mine]
    · simp [same]
  have placed : Placed objects deviceID (Members.apply deviceID closure device) := by
    rw [applied]
    exact ⟨sound, fun scope item has => owned.ofKind scope item ((hasNow scope item).mp has).2⟩
  refine ⟨{ placed with counted := fun dir => ?_ }, ownsNow⟩
  have counter : (Members.apply deviceID closure device).numStreams dir
      = (Members.countRemoved (objects.kind closure.object) device).numStreams dir := by
    rw [applied]
    cases dir <;> rfl
  rw [counter, numStreams_countRemoved, owned.counted]
  cases mine : owns deviceID device closure.object with
  | true =>
      have gone : owns deviceID (Members.apply deviceID closure device) closure.object = false :=
        Bool.eq_false_iff.mpr (fun kept => ((ownsNow _).mp kept).1 rfl)
      have before : ∀ item,
          owns deviceID device item = true
          ↔ item = closure.object
            ∨ owns deviceID (Members.apply deviceID closure device) item = true := by
        intro item
        rw [ownsNow]
        by_cases same : item = closure.object <;> simp [same, mine]
      rw [placed.length_getStreamIDs owned.toPlaced gone before, UInt32.ofNat_add]
      split <;> simp
  | false =>
      have control : ∀ dir, objects.kind closure.object ≠ .stream dir := by
        intro dir kind
        rw [kind, mine] at counts
        cases counts rfl
      have same : ∀ item,
          owns deviceID (Members.apply deviceID closure device) item = true
          ↔ owns deviceID device item = true := by
        intro item
        rw [ownsNow, and_iff_right_iff_imp]
        rintro owned rfl
        rw [mine] at owned
        cases owned
      rw [if_neg (control dir), placed.length_getStreamIDs_eq owned.toPlaced same]
      exact UInt32.sub_zero _

-----------------------------------------------------------------------------------------
-- Stored functions leave the lists alone
-----------------------------------------------------------------------------------------

/-- Two devices have the same lists and maps. -/
structure SameLists (left right : Members Object) : Prop where
  streams : left.streams = right.streams
  volumeControls : left.volumeControls = right.volumeControls
  muteControls : left.muteControls = right.muteControls

omit [DecidableEq Object] in
theorem SameLists.listing_iff (same : SameLists next device) (object : Object) (listed : Bool)
    [DecidableEq Object]
    : Listing objects next object listed ↔ Listing objects device object listed := by
  rw [Listing, Listing, same.streams, same.volumeControls, same.muteControls]

omit [DecidableEq Object] in
theorem SameLists.filed (same : SameLists next device) (filed : Filed objects device)
    : Filed objects next :=
  ⟨same.streams ▸ filed.streams, same.volumeControls ▸ filed.volumeControls,
    same.muteControls ▸ filed.muteControls⟩

theorem sameLists_apply (deviceID : AudioObjectID) (closure : objects.Closure)
    (device : Members Object)
    : SameLists (Members.apply deviceID closure device) device := by
  cases adds : closure.adds with
  | true =>
      rw [Members.apply_of_adds deviceID adds, Members.addOwnedObject]
      cases objects.kind closure.object with
      | stream dir => cases dir <;> split <;> exact ⟨rfl, rfl, rfl⟩
      | volumeControl scope | muteControl scope => split <;> exact ⟨rfl, rfl, rfl⟩
  | false =>
      rw [Members.apply_of_removes deviceID adds]
      cases objects.kind closure.object with
      | stream dir => cases dir <;> exact ⟨rfl, rfl, rfl⟩
      | volumeControl scope | muteControl scope => exact ⟨rfl, rfl, rfl⟩

theorem owned_file (closure : objects.Closure) (device : Members Object)
    : (closure.file device).owned = device.owned := by
  cases closure <;> rfl

theorem numStreams_file (closure : objects.Closure) (device : Members Object) (dir : Direction)
    : (closure.file device).numStreams dir = device.numStreams dir := by
  cases closure <;> cases dir <;> rfl

/-- A call leaves the owned objects and the counters to the stored function. -/
theorem Owned.file (owned : Owned objects deviceID device) (closure : objects.Closure)
    : Owned objects deviceID (closure.file device) := by
  refine ⟨⟨?_, ?_⟩, fun dir => ?_⟩
  · rw [owned_file]
    exact owned.sound
  · rw [owned_file]
    exact owned.ofKind
  · rw [numStreams_file, Members.getStreamIDs, Members.getOwnedObjectIDs, owned_file]
    exact owned.counted dir

theorem owns_file (closure : objects.Closure) (device : Members Object) (object : Object)
    : owns deviceID (closure.file device) object = owns deviceID device object := by
  rw [owns, owned_file, owns]

theorem hung_file (closure : objects.Closure) (device : Members Object)
    : (closure.file device).hung = device.hung := by
  cases closure <;> rfl

/-- Removing an object never hangs, and adding one without an owner does not. -/
theorem hung_apply
    (free
      : closure.adds = true
        → device.owned.ownerObjectID closure.object = kAudioObjectUnknown)
    : (Members.apply deviceID closure device).hung = device.hung := by
  cases adds : closure.adds with
  | true =>
      obtain ⟨owned, -, applied⟩ := apply_free deviceID adds (free adds)
      rw [applied]
      cases objects.kind closure.object with
      | stream dir => cases dir <;> rfl
      | volumeControl scope | muteControl scope => rfl
  | false =>
      rw [Members.apply_of_removes deviceID adds]
      cases objects.kind closure.object with
      | stream dir => cases dir <;> rfl
      | volumeControl scope | muteControl scope => rfl

-----------------------------------------------------------------------------------------
-- One step
-----------------------------------------------------------------------------------------

/-- Every object will end as it is listed once the functions of `queue` have run in order. -/
structure Kept (objects : Objects Object) (deviceID : AudioObjectID) (device : Members Object)
    (queue : List objects.Closure)
    : Prop where
  returned : device.hung = false
  filed : Filed objects device
  owned : Owned objects deviceID device
  settles
    : ∀ object,
        Settles ((objects.kind object).isStream = true) (Listing objects device object)
          (owns deviceID device object) (requestsFor object queue)

/-- A listed stream that is removed is held as listed. -/
theorem Listing.listed_of_removed {final : Bool}
    (listing : Listing objects device closure.object final) (removes : closure.adds = false)
    (listedStream
      : ∀ stream, closure = .removeStream stream → stream.object ∈ device.streams.lists stream.dir)
    (isStream : (objects.kind closure.object).isStream = true)
    : final = true := by
  cases closure with
  | removeStream stream =>
      simp only [Listing, Objects.Closure.object, stream.kind_eq] at listing
      exact listing.mem_iff.mp (listedStream stream rfl)
  | removeVolumeControl control =>
      simp [Objects.Closure.object, control.kind_eq, ObjectKind.isStream] at isStream
  | removeMuteControl control =>
      simp [Objects.Closure.object, control.kind_eq, ObjectKind.isStream] at isStream
  | addStream | addVolumeControl | addMuteControl => cases removes

/-- The first half of a call keeps what its second half will make of the object. A stream is
removed only if it is listed.
-/
theorem Kept.file (kept : Kept objects deviceID device queue) (closure : objects.Closure)
    (listedStream
      : ∀ stream, closure = .removeStream stream → stream.object ∈ device.streams.lists stream.dir)
    : Kept objects deviceID (closure.file device) (queue ++ [closure]) where
  returned := (hung_file closure device).trans kept.returned
  filed := kept.filed.file closure
  owned := kept.owned.file closure
  settles object := by
    rw [owns_file, requestsFor_append]
    by_cases mine : object = closure.object
    · subst mine
      rw [requestsFor_self]
      refine (kept.settles closure.object).append ?_
      intro final listing
      cases adds : closure.adds with
      | true =>
          cases final with
          | true => trivial
          | false => exact listing.file_added rfl adds
      | false =>
          have removed : Listing objects (closure.file device) closure.object false :=
            listing_file_removed adds
          have counted := listing.listed_of_removed adds listedStream
          cases final with
          | true => exact ⟨counted, removed⟩
          | false => exact ⟨counted, removed⟩
    · rw [requestsFor_other mine]
      have same := (kept.settles object).mono (fun final listing => listing.file_other mine)
      simpa [requestsFor] using same

/-- The oldest function either hangs or leaves a device that the others settle. -/
theorem Kept.run (kept : Kept objects deviceID device (closure :: queue))
    (known : deviceID ≠ kAudioObjectUnknown)
    : (Members.run deviceID closure device).hung = true
      ∨ Kept objects deviceID (Members.run deviceID closure device) queue := by
  rw [Members.run, kept.returned, if_neg Bool.false_ne_true]
  have same := sameLists_apply deviceID closure device
  have filed := same.filed kept.filed
  have mine := kept.settles closure.object
  rw [requestsFor_self] at mine
  have others : ∀ object,
      object ≠ closure.object
      → owns deviceID (Members.apply deviceID closure device) object = owns deviceID device object
      → Settles ((objects.kind object).isStream = true)
          (Listing objects (Members.apply deviceID closure device) object)
          (owns deviceID (Members.apply deviceID closure device) object)
          (requestsFor object queue) := by
    intro object different unchanged
    have before := kept.settles object
    rw [requestsFor_other different] at before
    rw [unchanged]
    exact before.mono (fun final => (same.listing_iff object final).mpr)
  cases adds : closure.adds with
  | true =>
      by_cases free : device.owned.ownerObjectID closure.object = kAudioObjectUnknown
      · obtain ⟨owned, ownsNow⟩ := kept.owned.apply_adds known adds free
        refine Or.inr ⟨(hung_apply (fun _ => free)).trans kept.returned, filed, owned, ?_⟩
        intro object
        by_cases self : object = closure.object
        · subst self
          have absent : owns deviceID device closure.object = false := by
            rw [owns, free]
            exact beq_eq_false_iff_ne.mpr known.symm
          rw [adds, absent] at mine
          rw [(ownsNow closure.object).mpr (Or.inl rfl)]
          exact Settles.mono mine (fun final => (same.listing_iff _ final).mpr)
        · exact others object self (Bool.eq_iff_iff.mpr (by simp [ownsNow, self]))
      · exact Or.inl (apply_hangs adds free)
  | false =>
      rw [adds] at mine
      obtain ⟨counts, rest⟩ := mine.removed
      obtain ⟨owned, ownsNow⟩ := kept.owned.apply_removes known adds counts
      have returned : (Members.apply deviceID closure device).hung = device.hung :=
        hung_apply (fun adds' => by rw [adds] at adds'; cases adds')
      refine Or.inr ⟨returned.trans kept.returned, filed, owned, ?_⟩
      intro object
      by_cases self : object = closure.object
      · subst self
        have gone : owns deviceID (Members.apply deviceID closure device) closure.object = false :=
          Bool.eq_false_iff.mpr (fun kept => ((ownsNow _).mp kept).1 rfl)
        rw [gone]
        exact rest.mono (fun final => (same.listing_iff _ final).mpr)
      · exact others object self (Bool.eq_iff_iff.mpr (by simp [ownsNow, self]))

/-- The functions of the queue, run in order, hang or leave nothing to be done, by induction on
the queue.
-/
theorem Kept.run_all (kept : Kept objects deviceID device queue)
    (known : deviceID ≠ kAudioObjectUnknown)
    : let final := queue.foldl (fun state closure => Members.run deviceID closure state) device
      final.hung = true ∨ Kept objects deviceID final [] := by
  have stays : ∀ queue : List objects.Closure, ∀ device : Members Object, device.hung = true →
      (queue.foldl (fun state closure => Members.run deviceID closure state) device).hung
        = true := by
    intro queue
    induction queue with
    | nil => exact fun device hung => hung
    | cons closure rest ih =>
        intro device hung
        refine ih (Members.run deviceID closure device) ?_
        rw [Members.run, if_pos hung, hung]
  induction queue generalizing device with
  | nil => exact Or.inr kept
  | cons closure rest ih =>
      rcases kept.run known with hung | kept
      · exact Or.inl (stays rest _ hung)
      · exact ih kept

/-- A function may be run before others that do the same to its object. -/
theorem Kept.move {before after : List objects.Closure}
    (kept : Kept objects deviceID device (before ++ closure :: after))
    (alike : ∀ other ∈ before, other.object = closure.object → other.adds = closure.adds)
    : Kept objects deviceID device (closure :: (before ++ after)) :=
  { kept with settles := fun object => requestsFor_move alike object ▸ kept.settles object }

/-- Another owner may take or give back an object that the device does not own. -/
theorem Kept.ownElsewhere (kept : Kept objects deviceID device queue) {ownerID : AudioObjectID}
    (notMine : device.owned.ownerObjectID object ≠ deviceID) (notNow : ownerID ≠ deviceID)
    : Kept objects deviceID {
        device with
        owned.ownerObjectID := Function.update device.owned.ownerObjectID object ownerID
      } queue := by
  have same : ∀ item,
      Function.update device.owned.ownerObjectID object ownerID item = deviceID
      ↔ device.owned.ownerObjectID item = deviceID := by
    intro item
    rw [Function.update_apply]
    by_cases here : item = object
    · simp [here, notMine, notNow]
    · simp [here]
  obtain ⟨returned, filed, ⟨⟨sound, ofKind⟩, counted⟩, settles⟩ := kept
  refine ⟨returned, ⟨filed.streams, filed.volumeControls, filed.muteControls⟩,
    ⟨⟨⟨sound.keys, sound.single, ?_⟩, ofKind⟩, ?_⟩, ?_⟩
  · exact fun item => (same item).trans (sound.owner item)
  · intro dir
    cases dir with
    | input => exact counted .input
    | output => exact counted .output
  · intro item
    have before := settles item
    have owner : owns deviceID {
        device with
        owned.ownerObjectID := Function.update device.owned.ownerObjectID object ownerID
      } item = owns deviceID device item := by
      rw [Bool.eq_iff_iff, owns_iff, owns_iff]
      exact same item
    rw [owner]
    exact before

-----------------------------------------------------------------------------------------
-- Whole runs
-----------------------------------------------------------------------------------------

variable {world after : World objects.Closure (Members Object)}
  {pending : List (Nat × objects.Closure)}

/-- The stored functions, in the order of their request IDs, settle every object; and if there are
any, the device is published.
-/
structure Tracked (deviceID : AudioObjectID) (world : World objects.Closure (Members Object))
    (pending : List (Nat × objects.Closure))
    : Prop where
  stored
    : world.configuration.pendingConfigurationRequests.entries
      = pending.map (fun entry => (entry.1, some entry.2))
  kept : Kept objects deviceID world.state (pending.map Prod.snd)
  published : pending ≠ [] → world.configuration.enqueues = true

/-- A call has hung, or the device is tracked. -/
def HungOrTracked (deviceID : AudioObjectID) (world : World objects.Closure (Members Object))
    : Prop :=
  world.state.hung = true ∨ ∃ pending, Tracked deviceID world pending

/-- A device that does not enqueue has nothing pending. -/
theorem Tracked.pending_nil (tracked : Tracked deviceID world pending)
    (direct : world.configuration.enqueues = false)
    : pending = [] := by
  by_contra nonempty
  simp [tracked.published nonempty] at direct

/-- A permitted call keeps the device tracked, unless it hangs. -/
theorem Tracked.call (tracked : Tracked deviceID world pending)
    (known : deviceID ≠ kAudioObjectUnknown) {call : MemberCall objects}
    (permitted : Permitted objects world (.call call))
    : HungOrTracked deviceID (callMember deviceID world call) := by
  cases requested : call.closure? with
  | none =>
      rw [callMember_none requested]
      exact Or.inr ⟨pending, tracked⟩
  | some closure =>
      have listedStream : ∀ stream, closure = .removeStream stream
          → stream.object ∈ world.state.streams.lists stream.dir := by
        rintro stream rfl
        exact permitted.1 stream (MemberCall.eq_removeStreamAsync requested)
      have filed := tracked.kept.file closure listedStream
      cases queued : world.configuration.enqueues with
      | true =>
          rw [callMember_enqueues requested queued]
          have fresh := permitted.2 (by simp [requested]) queued
          refine Or.inr ⟨pending ++ [(world.configuration.lastConfigurationRequestID, closure)],
            ?_, ?_, fun _ => queued⟩
          · simp only [Configuration.enqueue, List.map_append, ← tracked.stored]
            exact OrderedMap.entries_insert_of_forall_lt _ fresh
          · rw [List.map_append]
            exact filed
      | false =>
          obtain rfl := tracked.pending_nil queued
          rw [callMember_inPlace requested queued]
          rcases filed.run known with hung | kept
          · exact Or.inl hung
          · exact Or.inr ⟨[], tracked.stored, kept, fun nonempty => absurd rfl nonempty⟩

/-- A permitted delivery keeps the device tracked, unless it hangs. -/
theorem Tracked.perform (tracked : Tracked deviceID world pending)
    (known : deviceID ≠ kAudioObjectUnknown) {reqID : Nat}
    (permitted : Permitted objects world (.performConfigurationChange reqID))
    : HungOrTracked deviceID
        (performConfigurationChange (Members.run deviceID) reqID world) := by
  cases found : world.configuration.pendingConfigurationRequests.find? reqID with
  | none =>
      rw [performConfigurationChange_missing found]
      exact Or.inr ⟨pending, tracked⟩
  | some func =>
      have member := (OrderedMap.find?_eq_some_iff _).mp found
      rw [tracked.stored] at member
      obtain ⟨⟨_, closure⟩, listed, same⟩ := List.mem_map.mp member
      cases same
      obtain ⟨before, later, rfl⟩ := List.append_of_mem listed
      have shape := tracked.stored
      rw [List.map_append, List.map_cons] at shape
      have sorted := world.configuration.pendingConfigurationRequests.sorted
      rw [shape, List.pairwise_append] at sorted
      have alike : ∀ other ∈ before.map Prod.snd,
          other.object = closure.object → other.adds = closure.adds := by
        intro other inBefore
        obtain ⟨⟨earlier, _⟩, here, rfl⟩ := List.mem_map.mp inBefore
        refine permitted closure earlier _ found ?_ ?_
        · rw [OrderedMap.find?_eq_some_iff, shape]
          exact List.mem_append_left _ (List.mem_map_of_mem here)
        · exact sorted.2.2 _ (List.mem_map_of_mem here) _ List.mem_cons_self
      have kept := tracked.kept
      rw [List.map_append, List.map_cons] at kept
      have erased := OrderedMap.entries_erase_append _ shape
      rw [performConfigurationChange_some found]
      rcases (kept.move alike).run known with hung | kept
      · exact Or.inl hung
      · refine Or.inr ⟨before ++ later, ?_, ?_, ?_⟩
        · rw [List.map_append]
          exact erased
        · rw [List.map_append]
          exact kept
        · exact fun _ => tracked.published (by simp)

/-- Publishing the device or withdrawing it keeps it tracked, unless a pending change hangs. -/
theorem Tracked.own (tracked : Tracked deviceID world pending)
    (known : deviceID ≠ kAudioObjectUnknown) (owner : Nat) (shouldHaveOwnership : Bool)
    : HungOrTracked deviceID
        (requestOwnershipChange (Members.run deviceID) owner shouldHaveOwnership world).1 := by
  cases shouldHaveOwnership with
  | true =>
      cases owned : world.configuration.hasOwner with
      | true =>
          simp only [requestOwnershipChange, owned, if_true]
          exact Or.inr ⟨pending, tracked⟩
      | false =>
          have direct : world.configuration.enqueues = false := by
            simp [Configuration.enqueues, owned]
          obtain rfl := tracked.pending_nil direct
          simp only [requestOwnershipChange, owned, if_true, Bool.false_eq_true, if_false]
          exact Or.inr ⟨[], tracked.stored, tracked.kept, fun nonempty => absurd rfl nonempty⟩
  | false =>
      cases owned : world.configuration.hasOwner with
      | true =>
          rw [requestOwnershipChange_detach owned tracked.stored]
          have final := tracked.kept.run_all known
          rw [List.foldl_map] at final
          rcases final with hung | kept
          · exact Or.inl hung
          · exact Or.inr ⟨[], rfl, kept, fun nonempty => absurd rfl nonempty⟩
      | false =>
          simp only [requestOwnershipChange, owned, Bool.false_eq_true, if_false, Bool.not_false,
            if_true]
          exact Or.inr ⟨pending, tracked⟩

/-- A permitted event keeps the device tracked, unless a call hangs. -/
theorem Tracked.step (tracked : Tracked deviceID world pending)
    (known : deviceID ≠ kAudioObjectUnknown) {event : Event objects}
    (permitted : Permitted objects world event)
    (taken : advance deviceID world event = some after)
    : HungOrTracked deviceID after := by
  rw [advance, tracked.kept.returned, if_neg Bool.false_ne_true] at taken
  cases event with
  | call call =>
      obtain rfl := Option.some.inj taken
      exact tracked.call known permitted
  | setHost =>
      obtain rfl := Option.some.inj taken
      refine Or.inr ⟨pending, tracked.stored, tracked.kept, fun nonempty => ?_⟩
      have queued := tracked.published nonempty
      simp only [Configuration.enqueues, Bool.and_eq_true] at queued ⊢
      exact ⟨⟨trivial, queued.1.2⟩, queued.2⟩
  | requestOwnershipChange owner shouldHaveOwnership =>
      obtain rfl := Option.some.inj taken
      exact tracked.own known owner shouldHaveOwnership
  | performConfigurationChange reqID =>
      obtain rfl := Option.some.inj taken
      exact tracked.perform known permitted
  | ownElsewhere object ownerID =>
      rw [occur] at taken
      split at taken
      · cases taken
      · rename_i elsewhere
        obtain ⟨notMine, notNow⟩ := not_or.mp elsewhere
        obtain rfl := Option.some.inj taken
        exact Or.inr
          ⟨pending, tracked.stored, tracked.kept.ownElsewhere notMine notNow, tracked.published⟩

-----------------------------------------------------------------------------------------
-- A device at rest
-----------------------------------------------------------------------------------------

/-- A device without pending requests lists exactly what it owns. -/
theorem Kept.listing (kept : Kept objects deviceID device []) (object : Object)
    : Listing objects device object (owns deviceID device object) :=
  kept.settles object

/-- The three catalogs of a device without pending requests, by the kind of their objects. -/
theorem Kept.stream_holds (kept : Kept objects deviceID device []) {dir : Direction}
    (kind : objects.kind object = .stream dir)
    : device.streams.Holds objects.objectID dir object (owns deviceID device object) := by
  simpa only [Listing, kind] using kept.listing object

theorem Kept.volumeControl_holds (kept : Kept objects deviceID device [])
    {scope : AudioObjectPropertyScope} (kind : objects.kind object = .volumeControl scope)
    : device.volumeControls.Holds objects.objectID scope object (owns deviceID device object) := by
  simpa only [Listing, kind] using kept.listing object

theorem Kept.muteControl_holds (kept : Kept objects deviceID device [])
    {scope : AudioObjectPropertyScope} (kind : objects.kind object = .muteControl scope)
    : device.muteControls.Holds objects.objectID scope object (owns deviceID device object) := by
  simpa only [Listing, kind] using kept.listing object

section Family

variable {Key : Type} {catalog : Catalog Key AudioObjectID Object} {ofKey : Key → ObjectKind}

/-- Where a catalog holds the owned objects of its kinds, every listed object is found by its ID
and vice versa.
-/
theorem indexed_of_holds (injective : Function.Injective ofKey)
    (filed : catalog.Filed objects.objectID (fun key object => objects.kind object = ofKey key))
    (holds
      : ∀ key object,
          objects.kind object = ofKey key
          → catalog.Holds objects.objectID key object (owns deviceID device object))
    : catalog.Indexed objects.objectID := by
  refine filed.indexed ?_ (fun key object kind => ⟨_, holds key object kind⟩)
  intro key other object here there
  exact injective (here.symm.trans there)

/-- Where a catalog holds the owned objects of its kinds, an object is listed under a key exactly
if it is of that kind and owned.
-/
theorem mem_lists_of_holds
    (filed : catalog.Filed objects.objectID (fun key object => objects.kind object = ofKey key))
    (holds
      : ∀ key object,
          objects.kind object = ofKey key
          → catalog.Holds objects.objectID key object (owns deviceID device object))
    (key : Key) (object : Object)
    : object ∈ catalog.lists key
      ↔ objects.kind object = ofKey key ∧ owns deviceID device object = true := by
  constructor
  · intro listed
    have kind := filed.listed key object listed
    exact ⟨kind, (holds key object kind).mem_iff.mp listed⟩
  · rintro ⟨kind, mine⟩
    exact (holds key object kind).mem_iff.mpr mine

omit [DecidableEq Object] in
/-- Where a catalog lists the owned objects of its kinds, their IDs are those of its class. -/
theorem Placed.listsOwned (placed : Placed objects deviceID device)
    {keyScope : Key → AudioObjectPropertyScope} {classID : AudioClassID} (real : classID ≠ 0)
    (scopes : ∀ key, (ofKey key).scope = keyScope key)
    (instances
      : ∀ object, objects.isInstance object classID = true ↔ ∃ key, objects.kind object = ofKey key)
    (listed
      : ∀ key object,
          object ∈ catalog.lists key
          ↔ objects.kind object = ofKey key ∧ owns deviceID device object = true)
    : ListsOwned objects catalog keyScope
        (device.getOwnedObjectIDs objects · classID) where
  once scope := placed.sound.nodup_getOwnedObjectIDs objects.objectID_injective _ _ _
  mem scope id := by
    simp only [placed.mem_getOwnedObjectIDs, real, false_or, instances, listed]
    constructor
    · rintro ⟨object, mine, rfl, here, key, kind⟩
      rw [kind, scopes] at here
      exact ⟨key, object, ⟨kind, mine⟩, rfl, here⟩
    · rintro ⟨key, object, ⟨kind, mine⟩, rfl, here⟩
      refine ⟨object, mine, rfl, ?_, key, kind⟩
      rwa [kind, scopes]

end Family

omit [DecidableEq Object] in
/-- There are fewer than `2 ^ 32` owned objects: their IDs are distinct, and none is 0. -/
theorem Placed.length_getStreamIDs_lt (placed : Placed objects deviceID device)
    (dir : Direction)
    : (device.getStreamIDs objects (streamScope dir)).length < UInt32.size := by
  have absent : 0 ∉ device.getStreamIDs objects (streamScope dir) := by
    intro listed
    obtain ⟨object, -, zero, -⟩ := (placed.mem_getStreamIDs dir 0).mp listed
    exact objects.objectID_ne_unknown object zero
  have bound := length_le_of_nodup
    (List.nodup_cons.mpr ⟨absent, placed.nodup_getStreamIDs (streamScope dir)⟩)
  rwa [List.length_cons] at bound

/-- The listed streams of a direction are as many as the owned ones. -/
theorem Kept.length_streams (kept : Kept objects deviceID device []) (dir : Direction)
    : (device.streams.lists dir).length
      = (device.getStreamIDs objects (streamScope dir)).length := by
  have placed := kept.owned.toPlaced
  have holds : ∀ dir object, objects.kind object = .stream dir →
      device.streams.Holds objects.objectID dir object (owns deviceID device object) :=
    fun dir object kind => kept.stream_holds kind
  have indexed := indexed_of_holds (fun _ _ same => ObjectKind.stream.inj same)
    kept.filed.streams holds
  rw [← List.length_map objects.objectID]
  refine List.Perm.length_eq ((List.perm_ext_iff_of_nodup
    ((indexed.once dir).map objects.objectID_injective)
    (placed.nodup_getStreamIDs _)).mpr (fun id => ?_))
  rw [List.mem_map, placed.mem_getStreamIDs]
  refine exists_congr (fun object => ?_)
  rw [mem_lists_of_holds kept.filed.streams holds]
  tauto

/-- A device without pending requests is in agreement. -/
theorem Kept.agreement (kept : Kept objects deviceID device []) : Agreement objects device := by
  have placed := kept.owned.toPlaced
  have streams : ∀ dir object, objects.kind object = .stream dir →
      device.streams.Holds objects.objectID dir object (owns deviceID device object) :=
    fun dir object kind => kept.stream_holds kind
  have volumeControls : ∀ scope object, objects.kind object = .volumeControl scope →
      device.volumeControls.Holds objects.objectID scope object (owns deviceID device object) :=
    fun scope object kind => kept.volumeControl_holds kind
  have muteControls : ∀ scope object, objects.kind object = .muteControl scope →
      device.muteControls.Holds objects.objectID scope object (owns deviceID device object) :=
    fun scope object kind => kept.muteControl_holds kind
  exact {
    streams :=
      indexed_of_holds (fun _ _ same => ObjectKind.stream.inj same) kept.filed.streams streams
    volumeControls :=
      indexed_of_holds (fun _ _ same => ObjectKind.volumeControl.inj same)
        kept.filed.volumeControls volumeControls
    muteControls :=
      indexed_of_holds (fun _ _ same => ObjectKind.muteControl.inj same)
        kept.filed.muteControls muteControls
    streamsOwned :=
      placed.listsOwned (by decide) (fun _ => rfl) (fun _ => isInstance_stream_iff)
        (mem_lists_of_holds kept.filed.streams streams)
    volumeControlsOwned :=
      placed.listsOwned (by decide) (fun _ => rfl) (fun _ => isInstance_volumeControl_iff)
        (mem_lists_of_holds kept.filed.volumeControls volumeControls)
    muteControlsOwned :=
      placed.listsOwned (by decide) (fun _ => rfl) (fun _ => isInstance_muteControl_iff)
        (mem_lists_of_holds kept.filed.muteControls muteControls)
    counter := fun dir => by
      rw [kept.owned.counted, Members.getStreamCount, kept.length_streams]
    counted := fun dir => by
      rw [kept.owned.counted, UInt32.toNat_ofNat_of_lt' (placed.length_getStreamIDs_lt dir)]
  }

omit [DecidableEq Object] in
/-- A device in agreement runs the I/O operations of a direction only for a stream. -/
theorem Agreement.answers (agreement : Agreement objects device) : AnswersFromStreams device := by
  intro enableMixing operationID dir operation willDo empty
  have counter := agreement.counter dir
  rw [Members.getStreamCount, empty, List.length_nil] at counter
  cases operationID with
  | readInput | processInput =>
      cases operation
      simp [Members.willDoIOOperation, Members.numStreams] at willDo counter
      simp [counter] at willDo
  | mixOutput | processMix | writeMix =>
      cases operation
      simp [Members.willDoIOOperation, Members.numStreams] at willDo counter
      simp [counter] at willDo
  | other => cases operation

/-- A new device is tracked: nothing is listed, owned, counted or pending. -/
theorem New.tracked (new : New deviceID world) : Tracked deviceID world [] := by
  obtain ⟨nothingPending, owners, others, members⟩ := new
  have filed : Filed objects world.state := by
    rw [members]
    exact ⟨Catalog.filed_new, Catalog.filed_new, Catalog.filed_new⟩
  have placed : Placed objects deviceID world.state := by
    rw [members]
    refine ⟨⟨?_, ?_, ?_⟩, ?_⟩
    · intro scope id object found
      cases found
    · intro scope other object found
      cases found
    · intro object
      exact iff_of_false (others object) (fun ⟨_, found⟩ => by cases found)
    · intro scope object found
      cases found
  have counted : ∀ dir,
      world.state.numStreams dir
      = UInt32.ofNat (world.state.getStreamIDs objects (streamScope dir)).length := by
    intro dir
    rw [members]
    cases dir <;> rfl
  have settles : ∀ object,
      Settles ((objects.kind object).isStream = true) (Listing objects world.state object)
        (owns deviceID world.state object)
        (requestsFor object ([] : List objects.Closure)) := by
    intro object
    rw [members, owns, beq_eq_false_iff_ne.mpr (others object)]
    unfold Settles requestsFor Listing
    cases objects.kind object <;> exact Catalog.holds_new
  have returned : world.state.hung = false := by rw [members]
  exact ⟨by rw [nothingPending]; rfl, ⟨returned, filed, { placed with counted }, settles⟩,
    fun nonempty => absurd rfl nonempty⟩

/-- In a run whose events are permitted, the lists, the maps, the owned objects and the counters
of a device agree whenever nothing is pending and every call has returned, and the device runs I/O
operations only for streams that it has.
-/
theorem bookkeeping_agrees (objects : Objects Object) (deviceID : AudioObjectID)
    (known : deviceID ≠ kAudioObjectUnknown) {world : World objects.Closure (Members Object)}
    (reached : ((system objects deviceID).restrict (Permitted objects)).Reachable world)
    (rest : AtRest world)
    : Agreement objects world.state ∧ AnswersFromStreams world.state := by
  have invariant : ((system objects deviceID).restrict (Permitted objects)).Invariant
      (HungOrTracked deviceID) := {
    initial := fun world new => Or.inr ⟨[], new.tracked⟩
    step := by
      rintro world event after (hung | ⟨pending, tracked⟩) ⟨permitted, taken⟩
      · change advance deviceID world event = some after at taken
        rw [advance, if_pos hung] at taken
        cases taken
      · exact tracked.step known permitted taken
  }
  rcases invariant.reachable reached with hung | ⟨pending, tracked⟩
  · rw [rest.returned] at hung
    cases hung
  · have stored := tracked.stored
    rw [rest.nothingPending] at stored
    obtain rfl := List.map_eq_nil_iff.mp stored.symm
    exact ⟨tracked.kept.agreement, tracked.kept.agreement.answers⟩

/-- One output stream with the ID 3. -/
def oneStream : Objects Unit where
  objectID _ := 3
  kind _ := .stream .output
  objectID_injective := fun _ _ _ => rfl
  objectID_ne_unknown := fun _ => by decide

def theStream : oneStream.Stream := ⟨(), .output, rfl⟩

/-- A device that is attached to its plugin while HAL is connected. -/
def publishedDevice : World oneStream.Closure (Members Unit) where
  configuration := { host := true, ownerObjectID := 1 }
  state := {}

theorem publishedDevice_new : New 2 publishedDevice :=
  ⟨rfl, fun _ => kAudioObjectUnknown, fun _ => (by decide : kAudioObjectUnknown ≠ 2), rfl⟩

/-- A stream is added, and HAL performs the change. -/
theorem bookkeeping_agrees_added
    : ∃ world : World oneStream.Closure (Members Unit),
        world.state.getStreamCount .output = 1 ∧ Agreement oneStream world.state := by
  have start : ((system oneStream 2).restrict (Permitted oneStream)).Reachable publishedDevice :=
    .initial publishedDevice_new
  have added := start.step (.call (.addStreamAsync (some theStream)))
    ⟨⟨by simp, fun _ _ => by decide⟩, rfl⟩
  have performed := added.step (.performConfigurationChange 0)
    ⟨fun _ _ _ _ _ less => absurd less (Nat.not_lt_zero _), rfl⟩
  exact ⟨_, rfl, (bookkeeping_agrees oneStream 2 (by decide) performed ⟨rfl, rfl⟩).1⟩

/-- Removing a stream that was never added wraps its counter, and the device answers that it will
mix output without having a stream.
-/
theorem unlisted_stream_is_counted
    : ¬ ∀ world : World oneStream.Closure (Members Unit),
        (system oneStream 2).Reachable world
        → AtRest world
        → Agreement oneStream world.state ∧ AnswersFromStreams world.state := by
  intro always
  have start : (system oneStream 2).Reachable publishedDevice := .initial publishedDevice_new
  have removed := start.step (.call (.removeStreamAsync (some theStream))) rfl
  have performed := removed.step (.performConfigurationChange 0) rfl
  obtain ⟨-, answers⟩ := always _ performed ⟨rfl, rfl⟩
  exact answers false .mixOutput .output rfl rfl rfl

end Aspl.Device.Bookkeeping
