import Aspl.Base.System
import Aspl.Device.StreamsAndControls

/-! What a device records of its streams and controls agrees whenever nothing is pending, in runs
that remove only listed streams and perform the changes of each object in their order.
-/

namespace Aspl.Device.Bookkeeping

open CoreAudio
open Handlers (IOOperation)
open Object (OwnedObjects)
open StreamChanges (Direction)

universe u

variable {Object : Type u} [DecidableEq Object] {objects : Objects Object}
  {deviceID : AudioObjectID}

/-- A call, what the plugin and HAL do, and another owner taking or giving back an object. -/
inductive Event (objects : Objects Object) where
  | call (call : MemberCall objects)
  | setHost
  | requestOwnershipChange (owner : Nat) (shouldHaveOwnership : Bool)
  | performConfigurationChange (reqID : Nat)
  | ownElsewhere (object : Object) (ownerID : AudioObjectID)

/-- One event, if it can happen. -/
def occur (deviceID : AudioObjectID) (world : World objects.Closure (Members Object))
    : Event objects → Option (World objects.Closure (Members Object))
  | .call call => some (callMember deviceID world call)
  | .setHost => some { world with configuration.host := true }
  | .requestOwnershipChange owner shouldHaveOwnership =>
      some (requestOwnershipChange (Members.run deviceID) owner shouldHaveOwnership world).1
  | .performConfigurationChange reqID =>
      some (performConfigurationChange (Members.run deviceID) reqID world)
  | .ownElsewhere object ownerID =>
      if world.state.owned.ownerObjectID object = deviceID ∨ ownerID = deviceID then none
      else some {
        world with
        state.owned.ownerObjectID :=
          Function.update world.state.owned.ownerObjectID object ownerID
      }

/-- Once a call hangs no other one gets the mutex. -/
def advance (deviceID : AudioObjectID) (world : World objects.Closure (Members Object))
    (event : Event objects)
    : Option (World objects.Closure (Members Object)) :=
  if world.state.hung then none else occur deviceID world event

/-- A device, published or not, without streams and controls and without pending requests. -/
structure New (deviceID : AudioObjectID) (world : World objects.Closure (Members Object)) : Prop
    where
  nothingPending : world.configuration.pendingConfigurationRequests = .empty
  noMembers
    : ∃ owners : Object → AudioObjectID,
        (∀ object, owners object ≠ deviceID)
        ∧ world.state = { owned := { ownerObjectID := owners } }

/-- The runs of a device without streams and controls. -/
def system (objects : Objects Object) (deviceID : AudioObjectID)
    : System (World objects.Closure (Members Object)) (Event objects) :=
  .ofFunction (New deviceID) (advance deviceID)

/-- A request that is queued finds an ID above those of all pending ones. -/
def FreshID (configuration : Configuration objects.Closure) : Prop :=
  configuration.enqueues = true
  → ∀ entry ∈ configuration.pendingConfigurationRequests.entries,
      entry.1 < configuration.lastConfigurationRequestID

/-- Only a listed stream is removed, and HAL does not perform a request before an earlier one for
the same object that does the opposite.
-/
def Permitted (objects : Objects Object) (world : World objects.Closure (Members Object))
    : Event objects → Prop
  | .call call =>
      (∀ stream,
        call = .removeStreamAsync (some stream)
        → stream.object ∈ world.state.streams.lists stream.dir)
      ∧ (call.closure? ≠ none → FreshID world.configuration)
  | .performConfigurationChange reqID =>
      ∀ closure earlier other,
        world.configuration.pendingConfigurationRequests.find? reqID = some (some closure)
        → world.configuration.pendingConfigurationRequests.find? earlier = some (some other)
        → earlier < reqID
        → other.object = closure.object
        → other.adds = closure.adds
  | .setHost | .requestOwnershipChange _ _ | .ownElsewhere _ _ => True

/-- No request is pending, and every call has returned. -/
structure AtRest (world : World objects.Closure (Members Object)) : Prop where
  nothingPending : world.configuration.pendingConfigurationRequests = .empty
  returned : world.state.hung = false

/-- The IDs of some class that a device owns in a scope are those of the listed objects, each
once. The global scope stands for all scopes.
-/
structure ListsOwned {Key : Type} (objects : Objects Object)
    (catalog : Catalog Key AudioObjectID Object) (keyScope : Key → AudioObjectPropertyScope)
    (ownedIDs : AudioObjectPropertyScope → List AudioObjectID)
    : Prop where
  once : ∀ scope, (ownedIDs scope).Nodup
  mem
    : ∀ scope id,
        id ∈ ownedIDs scope
        ↔ ∃ key object,
            object ∈ catalog.lists key
            ∧ objects.objectID object = id
            ∧ (scope = kAudioObjectPropertyScopeGlobal ∨ scope = keyScope key)

/-- The lists, the maps, the owned objects and the counters of a device agree. -/
structure Agreement (objects : Objects Object) (device : Members Object) : Prop where
  streams : device.streams.Indexed objects.objectID
  volumeControls : device.volumeControls.Indexed objects.objectID
  muteControls : device.muteControls.Indexed objects.objectID
  streamsOwned
    : ListsOwned objects device.streams streamScope (device.getStreamIDs objects)
  volumeControlsOwned
    : ListsOwned objects device.volumeControls id
        (device.getOwnedObjectIDs objects · kAudioVolumeControlClassID)
  muteControlsOwned
    : ListsOwned objects device.muteControls id
        (device.getOwnedObjectIDs objects · kAudioMuteControlClassID)
  counter : ∀ dir, device.numStreams dir = device.getStreamCount dir
  counted
    : ∀ dir,
        (device.numStreams dir).toNat = (device.getStreamIDs objects (streamScope dir)).length

/-- The device answers that it will do an input (output) operation only if it has an input
(output) stream.
-/
def AnswersFromStreams (device : Members Object) : Prop :=
  ∀ enableMixing operationID dir,
    Members.operationDirection operationID = some dir
    → (device.willDoIOOperation enableMixing operationID).1 = true
    → device.streams.lists dir ≠ []

-----------------------------------------------------------------------------------------
-- The requests for one object
-----------------------------------------------------------------------------------------

/-- What becomes of an object once its pending additions (`true`) and removals are performed: an
owned object that is added hangs, and otherwise it ends as it is listed. Where `counts` holds, as
it does for streams, nothing is removed that is not owned.
-/
def Settles (counts : Prop) (listed : Bool → Prop) : Bool → List Bool → Prop
  | owned, [] => listed owned
  | true, true :: _ => True
  | false, true :: rest => Settles counts listed true rest
  | owned, false :: rest => (counts → owned = true) ∧ Settles counts listed false rest

variable {counts : Prop} {listed next : Bool → Prop} {owned : Bool} {requests : List Bool}

/-- Requests may be appended that take the listing along, by induction on those before them. -/
theorem Settles.append {more : List Bool} (settles : Settles counts listed owned requests)
    (last : ∀ final, listed final → Settles counts next final more)
    : Settles counts next owned (requests ++ more) := by
  induction requests generalizing owned with
  | nil => exact last owned settles
  | cons first rest ih =>
      cases owned with
      | true =>
          cases first with
          | true => trivial
          | false => exact ⟨settles.1, ih settles.2⟩
      | false =>
          cases first with
          | true => exact ih settles
          | false => exact ⟨settles.1, ih settles.2⟩

/-- Only the listing after all requests matters. -/
theorem Settles.mono (settles : Settles counts listed owned requests)
    (same : ∀ final, listed final → next final)
    : Settles counts next owned requests := by
  have appended : Settles counts next owned (requests ++ []) := settles.append same
  rwa [List.append_nil] at appended

/-- What the oldest request requires if it removes the object. -/
theorem Settles.removed (settles : Settles counts listed owned (false :: requests))
    : (counts → owned = true) ∧ Settles counts listed false requests := by
  cases owned <;> exact settles

/-- The pending additions and removals of an object, oldest first. -/
def requestsFor (object : Object) (queue : List objects.Closure) : List Bool :=
  (queue.filter (·.object = object)).map (·.adds)

theorem requestsFor_append (object : Object) (queue more : List objects.Closure)
    : requestsFor object (queue ++ more) = requestsFor object queue ++ requestsFor object more := by
  simp [requestsFor]

theorem requestsFor_self (closure : objects.Closure) (rest : List objects.Closure)
    : requestsFor closure.object (closure :: rest)
      = closure.adds :: requestsFor closure.object rest := by
  simp [requestsFor]

theorem requestsFor_other {object : Object} {closure : objects.Closure}
    (different : object ≠ closure.object) (rest : List objects.Closure)
    : requestsFor object (closure :: rest) = requestsFor object rest := by
  simp [requestsFor, different.symm]

/-- A request may be moved before others that do the same to its object. -/
theorem requestsFor_move {before after : List objects.Closure} {closure : objects.Closure}
    (alike : ∀ other ∈ before, other.object = closure.object → other.adds = closure.adds)
    (object : Object)
    : requestsFor object (before ++ closure :: after)
      = requestsFor object (closure :: (before ++ after)) := by
  by_cases mine : object = closure.object
  · subst mine
    have repeated : requestsFor closure.object before
        = List.replicate (requestsFor closure.object before).length closure.adds := by
      refine List.eq_replicate_of_mem ?_
      intro adds member
      obtain ⟨other, kept, rfl⟩ := List.mem_map.mp member
      obtain ⟨inBefore, same⟩ := List.mem_filter.mp kept
      exact alike other inBefore (by simpa using same)
    rw [requestsFor_append, requestsFor_self, requestsFor_self, requestsFor_append, repeated,
      List.append_cons, ← List.replicate_succ', List.replicate_succ, List.cons_append]
  · rw [requestsFor_append, requestsFor_other mine, requestsFor_other mine, requestsFor_append]

-----------------------------------------------------------------------------------------
-- What is listed
-----------------------------------------------------------------------------------------

/-- An object is listed once and found by its ID, or it is neither listed nor found. -/
def Listing (objects : Objects Object) (device : Members Object) (object : Object)
    (listed : Bool)
    : Prop :=
  match objects.kind object with
  | .stream dir => device.streams.Holds objects.objectID dir object listed
  | .volumeControl scope => device.volumeControls.Holds objects.objectID scope object listed
  | .muteControl scope => device.muteControls.Holds objects.objectID scope object listed

/-- Objects are listed only in the lists of their kind. -/
structure Filed (objects : Objects Object) (device : Members Object) : Prop where
  streams
    : device.streams.Filed objects.objectID (fun dir object => objects.kind object = .stream dir)
  volumeControls
    : device.volumeControls.Filed objects.objectID
        (fun scope object => objects.kind object = .volumeControl scope)
  muteControls
    : device.muteControls.Filed objects.objectID
        (fun scope object => objects.kind object = .muteControl scope)

variable {device : Members Object} {object : Object} {closure : objects.Closure}

/-- A call that adds an object lists it once if it was not listed. -/
theorem Listing.file_added {final : Bool} (listing : Listing objects device closure.object final)
    (absent : final = false) (adds : closure.adds = true)
    : Listing objects (closure.file device) closure.object true := by
  subst absent
  cases closure with
  | addStream stream =>
      simp only [Listing, Objects.Closure.object, stream.kind_eq] at listing ⊢
      exact listing.add
  | addVolumeControl control =>
      simp only [Listing, Objects.Closure.object, control.kind_eq] at listing ⊢
      exact listing.add
  | addMuteControl control =>
      simp only [Listing, Objects.Closure.object, control.kind_eq] at listing ⊢
      exact listing.add
  | removeStream | removeVolumeControl | removeMuteControl => cases adds

/-- A call that removes an object leaves it unlisted. -/
theorem listing_file_removed (removes : closure.adds = false)
    : Listing objects (closure.file device) closure.object false := by
  cases closure with
  | removeStream stream =>
      simp only [Listing, Objects.Closure.object, stream.kind_eq]
      exact Catalog.holds_remove
  | removeVolumeControl control =>
      simp only [Listing, Objects.Closure.object, control.kind_eq]
      exact Catalog.holds_remove
  | removeMuteControl control =>
      simp only [Listing, Objects.Closure.object, control.kind_eq]
      exact Catalog.holds_remove
  | addStream | addVolumeControl | addMuteControl => cases removes

/-- A call leaves the listing of the other objects. -/
theorem Listing.file_other {listed : Bool} (listing : Listing objects device object listed)
    (different : object ≠ closure.object)
    : Listing objects (closure.file device) object listed := by
  have apart : objects.objectID object ≠ objects.objectID closure.object :=
    objects.objectID_injective.ne different
  revert listing
  unfold Listing
  cases objects.kind object <;> cases closure <;> intro listing <;>
    first
    | exact listing
    | exact Catalog.Holds.add_other listing apart
    | exact Catalog.Holds.remove_other listing apart

/-- A call files its object under its own kind. -/
theorem Filed.file (filed : Filed objects device) (closure : objects.Closure)
    : Filed objects (closure.file device) := by
  obtain ⟨streams, volumeControls, muteControls⟩ := filed
  cases closure with
  | addStream stream => exact ⟨streams.add stream.kind_eq, volumeControls, muteControls⟩
  | removeStream stream => exact ⟨streams.remove, volumeControls, muteControls⟩
  | addVolumeControl control =>
      exact ⟨streams, volumeControls.add control.kind_eq, muteControls⟩
  | removeVolumeControl control => exact ⟨streams, volumeControls.remove, muteControls⟩
  | addMuteControl control => exact ⟨streams, volumeControls, muteControls.add control.kind_eq⟩
  | removeMuteControl control => exact ⟨streams, volumeControls, muteControls.remove⟩

-----------------------------------------------------------------------------------------
-- What is owned
-----------------------------------------------------------------------------------------

/-- The owned objects are in the scopes of their kinds. -/
structure Placed (objects : Objects Object) (deviceID : AudioObjectID) (device : Members Object)
    : Prop where
  sound : device.owned.Sound deviceID objects.objectID
  ofKind
    : ∀ scope object,
        device.owned.Owns objects.objectID scope object → scope = (objects.kind object).scope

/-- The owned objects are in the scopes of their kinds, and the streams among them are counted. -/
structure Owned (objects : Objects Object) (deviceID : AudioObjectID) (device : Members Object)
    : Prop extends Placed objects deviceID device where
  counted
    : ∀ dir,
        device.numStreams dir
        = UInt32.ofNat (device.getStreamIDs objects (streamScope dir)).length

/-- Whether a device owns an object. -/
def owns (deviceID : AudioObjectID) (device : Members Object) (object : Object) : Bool :=
  device.owned.ownerObjectID object == deviceID

omit [DecidableEq Object] in
theorem owns_iff
    : owns deviceID device object = true ↔ device.owned.ownerObjectID object = deviceID :=
  beq_iff_eq

omit [DecidableEq Object] in
/-- The IDs of a scope and a class are those of the owned objects of that scope and class. -/
theorem Placed.mem_getOwnedObjectIDs (placed : Placed objects deviceID device)
    (scope : AudioObjectPropertyScope) (classID : AudioClassID) (id : AudioObjectID)
    : id ∈ device.getOwnedObjectIDs objects scope classID
      ↔ ∃ object,
          owns deviceID device object = true
          ∧ objects.objectID object = id
          ∧ (scope = kAudioObjectPropertyScopeGlobal ∨ scope = (objects.kind object).scope)
          ∧ (classID = 0 ∨ objects.isInstance object classID = true) := by
  rw [Members.getOwnedObjectIDs, placed.sound.mem_getOwnedObjectIDs]
  constructor
  · rintro ⟨objectScope, object, inScope, rfl, matches'⟩
    refine ⟨object, owns_iff.mpr ((placed.sound.owner object).mpr ⟨_, inScope⟩), rfl, ?_⟩
    rwa [← placed.ofKind _ _ inScope]
  · rintro ⟨object, mine, rfl, matches'⟩
    obtain ⟨objectScope, inScope⟩ := (placed.sound.owner object).mp (owns_iff.mp mine)
    refine ⟨objectScope, object, inScope, rfl, ?_⟩
    rwa [placed.ofKind _ _ inScope]

theorem streamScope_ne_global (dir : Direction)
    : streamScope dir ≠ kAudioObjectPropertyScopeGlobal := by
  cases dir <;> decide

theorem streamScope_injective : Function.Injective streamScope := by
  intro first second same
  cases first <;> cases second <;> first | rfl | exact absurd same (by decide)

omit [DecidableEq Object] in
/-- Streams are the objects of their class. -/
theorem isInstance_stream_iff
    : objects.isInstance object kAudioStreamClassID = true
      ↔ ∃ dir, objects.kind object = .stream dir := by
  rw [Objects.isInstance, decide_eq_true_iff]
  cases objects.kind object with
  | stream dir => simp [ObjectKind.classes]
  | volumeControl scope => simp [ObjectKind.classes]; decide
  | muteControl scope => simp [ObjectKind.classes]; decide

omit [DecidableEq Object] in
/-- Volume controls are the objects of their class. -/
theorem isInstance_volumeControl_iff
    : objects.isInstance object kAudioVolumeControlClassID = true
      ↔ ∃ scope, objects.kind object = .volumeControl scope := by
  rw [Objects.isInstance, decide_eq_true_iff]
  cases objects.kind object with
  | stream dir => simp [ObjectKind.classes]; decide
  | volumeControl scope => simp [ObjectKind.classes]
  | muteControl scope => simp [ObjectKind.classes]; decide

omit [DecidableEq Object] in
/-- Mute controls are the objects of their class. -/
theorem isInstance_muteControl_iff
    : objects.isInstance object kAudioMuteControlClassID = true
      ↔ ∃ scope, objects.kind object = .muteControl scope := by
  rw [Objects.isInstance, decide_eq_true_iff]
  cases objects.kind object with
  | stream dir => simp [ObjectKind.classes]; decide
  | volumeControl scope => simp [ObjectKind.classes]; decide
  | muteControl scope => simp [ObjectKind.classes]

omit [DecidableEq Object] in
/-- The stream IDs of a direction are those of the owned streams of that direction. -/
theorem Placed.mem_getStreamIDs (placed : Placed objects deviceID device) (dir : Direction)
    (id : AudioObjectID)
    : id ∈ device.getStreamIDs objects (streamScope dir)
      ↔ ∃ object,
          owns deviceID device object = true
          ∧ objects.objectID object = id
          ∧ objects.kind object = .stream dir := by
  have real : kAudioStreamClassID ≠ 0 := by decide
  rw [Members.getStreamIDs, placed.mem_getOwnedObjectIDs]
  simp only [isInstance_stream_iff, streamScope_ne_global, real, false_or]
  refine exists_congr (fun object => and_congr_right (fun _ => and_congr_right (fun _ => ?_)))
  constructor
  · rintro ⟨inScope, other, kind⟩
    rw [kind] at inScope
    rw [kind, streamScope_injective inScope]
  · intro kind
    rw [kind]
    exact ⟨rfl, dir, rfl⟩

omit [DecidableEq Object] in
theorem Placed.nodup_getStreamIDs (placed : Placed objects deviceID device)
    (scope : AudioObjectPropertyScope)
    : (device.getStreamIDs objects scope).Nodup :=
  placed.sound.nodup_getOwnedObjectIDs objects.objectID_injective _ _ _

end Aspl.Device.Bookkeeping
