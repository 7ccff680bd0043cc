import Aspl.Base.Catalog
import Aspl.Base.RunningMaximum
import Aspl.Device.ChannelViews
import Aspl.Device.StreamChanges

/-! The channels of the streams of a device. A stream that is added by its direction alone starts
after all streams that the device lists for this direction.
-/

namespace Aspl.Device.DefaultStreams

open Aspl.CoreAudio
open ChannelViews (DeviceWorld)
open StreamChanges (Direction)

universe u

/-- `StreamParameters`. -/
structure StreamParameters where
  direction : Direction := .output
  startingChannel : UInt32 := 1
  format : AudioStreamBasicDescription := defaultFormat
  latency : UInt32 := 0

/-- A device with its streams, which have numbers in the order in which they are created; what
of a stream changes is part of the state of the device.
-/
structure Streaming where
  world : DeviceWorld
  streams : Catalog Direction AudioObjectID Nat := {}
  params : Nat → StreamParameters := fun _ => {}
  objectID : Nat → AudioObjectID := fun _ => kAudioObjectUnknown
  created : Nat := 0

namespace Streaming

variable (device : Streaming)

-----------------------------------------------------------------------------------------
-- The getters of a stream
-----------------------------------------------------------------------------------------

def getDirection (stream : Nat) : Direction := (device.params stream).direction

def getStartingChannel (stream : Nat) : UInt32 := (device.params stream).startingChannel

def getPhysicalFormat (stream : Nat) : AudioStreamBasicDescription :=
  (device.world.state.streams stream).physicalFormat

def getChannelCount (stream : Nat) : UInt32 := (device.getPhysicalFormat stream).mChannelsPerFrame

-----------------------------------------------------------------------------------------
-- Adding and removing
-----------------------------------------------------------------------------------------

/-- `Stream::Stream()`. -/
def construct (params : StreamParameters) (objectID : AudioObjectID) : Streaming :=
  {
    device with
    world.state.streams := Function.update device.world.state.streams device.created {
      latency := params.latency
      physicalFormat := params.format
      virtualFormat := params.format
    }
    params := Function.update device.params device.created params
    objectID := Function.update device.objectID device.created objectID
    created := device.created + 1
  }

/-- `AddStreamAsync(std::shared_ptr<Stream>)`. The function that it submits changes only the
counters and the owned objects of the device, on which no getter here depends.
-/
def addStream : Option Nat → Streaming
  | none => device
  | some stream =>
      {
        device with
        streams := device.streams.add device.objectID (device.getDirection stream) stream
        world := (requestConfigurationChange id (some id) device.world).1
      }

/-- `AddStreamAsync(const StreamParameters&)`. -/
def addStreamWithParameters (params : StreamParameters) (objectID : AudioObjectID) : Streaming :=
  (device.construct params objectID).addStream (some device.created)

/-- The parameters that `AddStreamAsync(Direction)` makes up. -/
def defaultParameters (dir : Direction) : StreamParameters :=
  let mChannelsPerFrame := device.world.state.getPreferredChannelCount
  let mBytesPerFrame := mChannelsPerFrame * (defaultFormat.mBitsPerChannel / 8)
  {
    direction := dir
    format :=
      {
        defaultFormat with
        mSampleRate := device.world.state.nominalSampleRate
        mChannelsPerFrame
        mBytesPerFrame
        mFramesPerPacket := 1
        mBytesPerPacket := mBytesPerFrame
      }
    startingChannel :=
      runningMaximum
        (fun stream => device.getStartingChannel stream + device.getChannelCount stream) 1
        (device.streams.lists dir)
  }

/-- `AddStreamAsync(Direction)`. -/
def addStreamOfDirection (dir : Direction) (objectID : AudioObjectID) : Streaming :=
  device.addStreamWithParameters (device.defaultParameters dir) objectID

/-- `RemoveStreamAsync()`, whose function is like that of `AddStreamAsync()`. -/
def removeStream : Option Nat → Streaming
  | none => device
  | some stream =>
      {
        device with
        streams := device.streams.remove device.objectID (device.getDirection stream) stream
        world := (requestConfigurationChange id (some id) device.world).1
      }

end Streaming

-----------------------------------------------------------------------------------------
-- Runs
-----------------------------------------------------------------------------------------

/-- A call that adds or removes a stream, an asynchronous setter of the device or of a stream of
it, or what the plugin and HAL do.
-/
inductive Event where
  | addStreamOfDirection (dir : Direction) (objectID : AudioObjectID)
  | addStreamWithParameters (params : StreamParameters) (objectID : AudioObjectID)
  | addStream (stream : Option Nat)
  | removeStream (stream : Option Nat)
  | set {Value : Type} (property : AsyncProperty DeviceState Value) (value : Value)
  | setHost
  | requestOwnershipChange (owner : Nat) (shouldHaveOwnership : Bool)
  | performConfigurationChange (reqID : Nat)
  | abortConfigurationChange (reqID : Nat)

/-- `SetPhysicalFormatAsync()` of a stream. -/
def Event.setPhysicalFormat (stream : Nat) (format : AudioStreamBasicDescription) : Event :=
  .set (StreamState.physicalFormatProperty.ofStream stream) format

/-- One event, if it can happen: a stream is added or removed only after it was created. -/
def advance (device : Streaming) : Event → Option Streaming
  | .addStreamOfDirection dir objectID => some (device.addStreamOfDirection dir objectID)
  | .addStreamWithParameters params objectID =>
      some (device.addStreamWithParameters params objectID)
  | .addStream stream =>
      if ∀ number ∈ stream, number < device.created then
        some (device.addStream stream)
      else
        none
  | .removeStream stream =>
      if ∀ number ∈ stream, number < device.created then
        some (device.removeStream stream)
      else
        none
  | .set property value =>
      some { device with world := (property.setAsync value device.world).1 }
  | .setHost => some { device with world.configuration.host := true }
  | .requestOwnershipChange owner shouldHaveOwnership =>
      some {
        device with
        world := (requestOwnershipChange id owner shouldHaveOwnership device.world).1
      }
  | .performConfigurationChange reqID =>
      some { device with world := performConfigurationChange id reqID device.world }
  | .abortConfigurationChange reqID =>
      some { device with world := abortConfigurationChange reqID device.world }

/-- A device without streams, and with any parameters and any settings. -/
structure New (device : Streaming) : Prop where
  streams : device.streams = {}
  created : device.created = 0
  pending : device.world.configuration.pendingConfigurationRequests = .empty

/-- The runs of a new device. -/
def system : System Streaming Event := .ofFunction New advance

namespace Streaming

/-- The sum of the starting channel and the channel count of a stream, without overflow. -/
def endChannel (device : Streaming) (stream : Nat) : Nat :=
  (device.getStartingChannel stream).toNat + (device.getChannelCount stream).toNat

/-- The channels of a stream. -/
def channels (device : Streaming) (stream : Nat) : Set Nat :=
  Set.Ico (device.getStartingChannel stream).toNat (device.endChannel stream)

/-- No starting channel and channel count of a listed stream exceed `2 ^ 32 - 1` together. -/
def Bounded (device : Streaming) : Prop :=
  ∀ dir, ∀ stream ∈ device.streams.lists dir, device.endChannel stream ≤ 4294967295

end Streaming

/-- The runs in which the device is never asked to add up more than fits. -/
def boundedSystem : System Streaming Event :=
  system.restrict (fun device _ => device.Bounded)

-----------------------------------------------------------------------------------------
-- What a call leaves alone
-----------------------------------------------------------------------------------------

variable {device next : Streaming}

/-- The functions of the calls that add and remove streams leave the state as it is. -/
@[simp] theorem state_requestConfigurationChange (world : DeviceWorld)
    : (requestConfigurationChange id (some id) world).1.state = world.state := by
  cases direct : world.configuration.enqueues with
  | true => rw [requestConfigurationChange_enqueues direct]
  | false =>
      rw [requestConfigurationChange_inPlace direct]
      rfl

namespace Streaming

/-- A new stream has the starting channel and the format of its parameters. -/
theorem getStartingChannel_new (params : StreamParameters) (objectID : AudioObjectID)
    : (device.addStreamWithParameters params objectID).getStartingChannel device.created
      = params.startingChannel := by
  simp [addStreamWithParameters, addStream, construct, getStartingChannel]

@[inherit_doc getStartingChannel_new]
theorem getChannelCount_new (params : StreamParameters) (objectID : AudioObjectID)
    : (device.addStreamWithParameters params objectID).getChannelCount device.created
      = params.format.mChannelsPerFrame := by
  simp [addStreamWithParameters, addStream, construct, getChannelCount, getPhysicalFormat]

/-- A new stream changes the channels of no other one. -/
theorem channels_other (params : StreamParameters) (objectID : AudioObjectID) {stream : Nat}
    (other : stream ≠ device.created)
    : (device.addStreamWithParameters params objectID).channels stream
      = device.channels stream := by
  simp [addStreamWithParameters, addStream, construct, channels, endChannel, getStartingChannel,
    getChannelCount, getPhysicalFormat, other]

/-- A new stream is listed for its direction, after the ones listed before. -/
theorem lists_new (params : StreamParameters) (objectID : AudioObjectID)
    : (device.addStreamWithParameters params objectID).streams.lists
      = Function.update device.streams.lists params.direction
          (device.streams.lists params.direction ++ [device.created]) := by
  simp [addStreamWithParameters, addStream, construct, getDirection, Catalog.add]

@[inherit_doc lists_new]
theorem lists_default (dir : Direction) (objectID : AudioObjectID)
    : (device.addStreamOfDirection dir objectID).streams.lists
      = Function.update device.streams.lists dir
          (device.streams.lists dir ++ [device.created]) :=
  lists_new (device.defaultParameters dir) objectID

end Streaming

-----------------------------------------------------------------------------------------
-- The default starting channel
-----------------------------------------------------------------------------------------

namespace Streaming

/-- Without overflow the default starting channel is the maximum of one and the numbers of the
channels after the listed streams.
-/
theorem toNat_startingChannel (bounded : device.Bounded) (dir : Direction)
    : (device.defaultParameters dir).startingChannel.toNat
      = runningMaximum device.endChannel 1 (device.streams.lists dir) := by
  have monotone : Monotone UInt32.toNat := fun _ _ less => less
  have mapped :=
    map_runningMaximum monotone
      (fun stream => device.getStartingChannel stream + device.getChannelCount stream) 1
      (device.streams.lists dir)
  refine mapped.trans (runningMaximum_congr ?_)
  intro stream listed
  have fits := bounded dir stream listed
  simp only [endChannel] at fits ⊢
  rw [UInt32.toNat_add, Nat.mod_eq_of_lt (by omega)]

/-- The channels of a default stream are as many as the device prefers. -/
theorem channels_default (dir : Direction) (objectID : AudioObjectID)
    : (device.addStreamOfDirection dir objectID).channels device.created
      = Set.Ico (device.defaultParameters dir).startingChannel.toNat
          ((device.defaultParameters dir).startingChannel.toNat
            + device.world.state.getPreferredChannelCount.toNat) := by
  rw [channels, endChannel, addStreamOfDirection, getStartingChannel_new, getChannelCount_new]
  rfl

/-- A default stream is apart from every stream that is listed for its direction. -/
theorem disjoint_default (bounded : device.Bounded) {dir : Direction}
    (objectID : AudioObjectID) {stream : Nat} (listed : stream ∈ device.streams.lists dir)
    : Disjoint (device.channels stream)
        ((device.addStreamOfDirection dir objectID).channels device.created) := by
  rw [channels_default, toNat_startingChannel bounded]
  exact disjoint_runningMaximum (fun other => (device.getStartingChannel other).toNat) _ listed

end Streaming

-----------------------------------------------------------------------------------------
-- Reachable lists
-----------------------------------------------------------------------------------------

/-- Every listed stream was created. -/
def Streaming.Created (device : Streaming) : Prop :=
  ∀ dir, ∀ stream ∈ device.streams.lists dir, stream < device.created

namespace Streaming.Created

/-- An existing stream may be listed. -/
theorem addStream (created : device.Created) {stream : Option Nat}
    (exists' : ∀ number ∈ stream, number < device.created)
    : (device.addStream stream).Created := by
  cases stream with
  | none => exact created
  | some number =>
      intro dir other listed
      rcases Catalog.mem_lists_add.mp listed with before | ⟨-, rfl⟩
      · exact created dir other before
      · exact exists' other rfl

/-- Constructing a stream lists none. -/
theorem construct (created : device.Created) (params : StreamParameters)
    (objectID : AudioObjectID)
    : (device.construct params objectID).Created :=
  fun dir stream listed => Nat.lt_succ_of_lt (created dir stream listed)

/-- A new stream may be listed. -/
theorem addStreamWithParameters (created : device.Created) (params : StreamParameters)
    (objectID : AudioObjectID)
    : (device.addStreamWithParameters params objectID).Created := by
  refine (created.construct params objectID).addStream ?_
  rintro number ⟨⟩
  exact Nat.lt_succ_self device.created

/-- Removing a stream lists no other one. -/
theorem removeStream (created : device.Created) (stream : Option Nat)
    : (device.removeStream stream).Created := by
  cases stream with
  | none => exact created
  | some number =>
      intro dir other listed
      exact created dir other (Catalog.lists_remove_sublist.subset listed)

/-- Each event lists only streams that were created. -/
theorem step (created : device.Created) {event : Event}
    (taken : advance device event = some next)
    : next.Created := by
  cases event with
  | addStreamOfDirection dir objectID =>
      obtain rfl := Option.some.inj taken
      exact created.addStreamWithParameters _ objectID
  | addStreamWithParameters params objectID =>
      obtain rfl := Option.some.inj taken
      exact created.addStreamWithParameters params objectID
  | addStream stream =>
      obtain ⟨exists', same⟩ := Option.ite_none_right_eq_some.mp taken
      obtain rfl := Option.some.inj same
      exact created.addStream exists'
  | removeStream stream =>
      obtain ⟨-, same⟩ := Option.ite_none_right_eq_some.mp taken
      obtain rfl := Option.some.inj same
      exact created.removeStream stream
  | set property value | setHost | requestOwnershipChange owner shouldHaveOwnership
  | performConfigurationChange reqID | abortConfigurationChange reqID =>
      obtain rfl := Option.some.inj taken
      exact created

end Streaming.Created

/-- Every listed stream of a reachable device was created. -/
theorem created_of_reachable (reached : boundedSystem.Reachable device)
    : device.Created := by
  have invariant : boundedSystem.Invariant Streaming.Created := {
    initial := by
      intro device new dir stream listed
      rw [new.streams] at listed
      cases listed
    step := fun _ _ _ created taken => created.step taken.2
  }
  exact invariant.reachable reached

-----------------------------------------------------------------------------------------
-- Streams that share no channel
-----------------------------------------------------------------------------------------

/-- After the creation of a default stream the other listed streams are those listed before, and
it shares no channel with them.
-/
theorem Streaming.disjoint_default_of_listed (bounded : device.Bounded) (dir : Direction)
    (objectID : AudioObjectID) {stream : Nat}
    (listed : stream ∈ (device.addStreamOfDirection dir objectID).streams.lists dir)
    (other : stream ≠ device.created)
    : Disjoint ((device.addStreamOfDirection dir objectID).channels stream)
        ((device.addStreamOfDirection dir objectID).channels device.created) := by
  have before : stream ∈ device.streams.lists dir := by
    rw [Streaming.lists_default, Function.update_self, List.mem_append] at listed
    exact listed.resolve_right (fun last => other (List.mem_singleton.mp last))
  have unchanged := device.channels_other (device.defaultParameters dir) objectID other
  rw [Streaming.addStreamOfDirection, unchanged]
  exact device.disjoint_default bounded objectID before

/-- A stream that is added by its direction starts at channel 1 or later, is as wide as the device
prefers, and shares no channel with any other stream that the device then lists for this
direction; so it shares none with what was left there by any removal before.
-/
theorem default_stream_shares_no_channel (reached : boundedSystem.Reachable device)
    (bounded : device.Bounded) (dir : Direction) (objectID : AudioObjectID)
    : let next := device.addStreamOfDirection dir objectID
      let start := (next.getStartingChannel device.created).toNat
      1 ≤ start
      ∧ next.channels device.created
        = Set.Ico start (start + device.world.state.getPreferredChannelCount.toNat)
      ∧ (∀ stream ∈ next.streams.lists dir,
          stream ≠ device.created
          → Disjoint (next.channels stream) (next.channels device.created))
      ∧ (∀ before after removed labels,
          boundedSystem.step before (.removeStream removed) after
          → boundedSystem.Run after labels device
          → ∀ stream ∈ after.streams.lists dir,
              stream ∈ device.streams.lists dir
              → Disjoint (next.channels stream) (next.channels device.created)) := by
  have created := created_of_reachable reached
  intro next start
  have startEq : start = (device.defaultParameters dir).startingChannel.toNat :=
    congrArg UInt32.toNat (device.getStartingChannel_new _ objectID)
  refine ⟨?_, ?_, ?_, ?_⟩
  · rw [startEq, device.toNat_startingChannel bounded]
    exact le_runningMaximum _ _ _
  · rw [startEq]
    exact device.channels_default dir objectID
  · intro stream listed other
    exact device.disjoint_default_of_listed bounded dir objectID listed other
  · intro before after removed labels _ _ stream _ remaining
    refine device.disjoint_default_of_listed bounded dir objectID ?_
      (created dir stream remaining).ne
    rw [Streaming.lists_default, Function.update_self]
    exact List.mem_append_left _ remaining

/-- A device without streams, then with one from channel 7 on that allows every format, and at
last with that stream widened to four channels.
-/
def bareDevice : Streaming where
  world := { configuration := {}, state := {} }

@[inherit_doc bareDevice]
def fromChannel7 : Streaming :=
  let device := bareDevice.addStreamWithParameters { startingChannel := 7 } 2
  {
    device with
    world :=
      ((StreamState.availablePhysicalFormatsProperty.ofStream 0).setAsync [] device.world).1
  }

@[inherit_doc bareDevice]
def widened : Streaming where
  __ := fromChannel7
  world :=
    ((StreamState.physicalFormatProperty.ofStream 0).setAsync
      { defaultFormat with mChannelsPerFrame := 4 } fromChannel7.world).1

theorem bounded_of_lists (listed : device.streams.lists = fromChannel7.streams.lists)
    (fits : device.endChannel 0 ≤ 4294967295)
    : device.Bounded := by
  intro dir stream member
  rw [listed] at member
  cases dir with
  | input => cases member
  | output =>
      obtain rfl := List.mem_singleton.mp member
      exact fits

/-- The next default stream starts at channel 11. -/
theorem default_stream_after_channel_10
    : 1 ≤ ((widened.addStreamOfDirection .output 3).getStartingChannel 1).toNat
      ∧ Disjoint ((widened.addStreamOfDirection .output 3).channels 0)
          ((widened.addStreamOfDirection .output 3).channels 1)
      ∧ (widened.addStreamOfDirection .output 3).getStartingChannel 1 = 11 := by
  have bare : bareDevice.Bounded := fun _ _ listed => absurd listed List.not_mem_nil
  have listed : boundedSystem.Reachable _ :=
    .step (.initial ⟨rfl, rfl, rfl⟩) (.addStreamWithParameters { startingChannel := 7 } 2)
      ⟨bare, rfl⟩
  have anyFormat : boundedSystem.Reachable fromChannel7 :=
    .step listed (.set (StreamState.availablePhysicalFormatsProperty.ofStream 0) [])
      ⟨bounded_of_lists rfl (by decide), rfl⟩
  have reached : boundedSystem.Reachable widened :=
    .step anyFormat (.setPhysicalFormat 0 { defaultFormat with mChannelsPerFrame := 4 })
      ⟨bounded_of_lists rfl (by decide), rfl⟩
  have apart :=
    default_stream_shares_no_channel reached (bounded_of_lists rfl (by decide)) .output 3
  exact ⟨apart.1, apart.2.2.1 0 (by decide) (by decide), by decide⟩

-----------------------------------------------------------------------------------------
-- Devices with default streams only
-----------------------------------------------------------------------------------------

/-- An event adds streams by their direction only, and changes the channels of no listed one. -/
def KeepsChannels (device : Streaming) (event : Event) : Prop :=
  match event with
  | .addStreamOfDirection _ _ | .removeStream _ => True
  | .addStreamWithParameters _ _ | .addStream _ => False
  | _ =>
      ∀ next,
        advance device event = some next
        → ∀ dir, ∀ stream ∈ device.streams.lists dir,
            next.channels stream = device.channels stream

/-- The streams of a direction share no channels. -/
def Streaming.Apart (device : Streaming) : Prop :=
  ∀ dir,
    (device.streams.lists dir).Pairwise
      (fun left right => Disjoint (device.channels left) (device.channels right))

namespace Streaming.Apart

/-- What matters are the lists, which may get shorter, and the channels of what they list. -/
theorem mono (apart : device.Apart)
    (sublists : ∀ dir, (next.streams.lists dir).Sublist (device.streams.lists dir))
    (same
      : ∀ dir, ∀ stream ∈ device.streams.lists dir,
          next.channels stream = device.channels stream)
    : next.Apart := by
  intro dir
  refine ((apart dir).sublist (sublists dir)).imp_of_mem ?_
  intro left right leftListed rightListed disjoint
  rwa [same dir left ((sublists dir).subset leftListed),
    same dir right ((sublists dir).subset rightListed)]

/-- A default stream is apart from the others. -/
theorem addStreamOfDirection (apart : device.Apart) (created : device.Created)
    (bounded : device.Bounded) (dir : Direction) (objectID : AudioObjectID)
    : (device.addStreamOfDirection dir objectID).Apart := by
  have same
      : ∀ other, ∀ stream ∈ device.streams.lists other,
          (device.addStreamOfDirection dir objectID).channels stream
            = device.channels stream :=
    fun other stream listed =>
      device.channels_other (device.defaultParameters dir) objectID (created other stream listed).ne
  have before (other : Direction)
      : (device.streams.lists other).Pairwise
          (fun left right =>
            Disjoint ((device.addStreamOfDirection dir objectID).channels left)
              ((device.addStreamOfDirection dir objectID).channels right)) := by
    refine (apart other).imp_of_mem ?_
    intro left right leftListed rightListed disjoint
    rwa [same other left leftListed, same other right rightListed]
  intro other
  rw [Streaming.lists_default]
  by_cases here : other = dir
  · subst here
    rw [Function.update_self]
    refine List.pairwise_append.mpr ⟨before other, List.pairwise_singleton _ _, ?_⟩
    intro stream listed new isNew
    obtain rfl := List.mem_singleton.mp isNew
    have disjoint := device.disjoint_default bounded objectID listed
    rwa [← same other stream listed] at disjoint
  · rw [Function.update_of_ne here]
    exact before other

/-- Removing a stream changes no channels. -/
theorem removeStream (apart : device.Apart) (stream : Option Nat)
    : (device.removeStream stream).Apart := by
  cases stream with
  | none => exact apart
  | some number =>
      refine apart.mono ?_ ?_
      · intro dir
        exact Catalog.lists_remove_sublist
      · intro dir other listed
        simp [Streaming.removeStream, Streaming.channels, Streaming.endChannel,
          Streaming.getStartingChannel, Streaming.getChannelCount, Streaming.getPhysicalFormat]

/-- Each event that is allowed keeps the streams apart. -/
theorem step (apart : device.Apart) (created : device.Created) (bounded : device.Bounded)
    {event : Event} (keeps : KeepsChannels device event)
    (taken : advance device event = some next)
    : next.Apart := by
  cases event with
  | addStreamOfDirection dir objectID =>
      obtain rfl := Option.some.inj taken
      exact apart.addStreamOfDirection created bounded dir objectID
  | addStreamWithParameters params objectID => exact keeps.elim
  | addStream stream => exact keeps.elim
  | removeStream stream =>
      obtain ⟨-, same⟩ := Option.ite_none_right_eq_some.mp taken
      obtain rfl := Option.some.inj same
      exact apart.removeStream stream
  | set property value | setHost | requestOwnershipChange owner shouldHaveOwnership
  | performConfigurationChange reqID | abortConfigurationChange reqID =>
      have same := keeps next taken
      obtain rfl := Option.some.inj taken
      exact apart.mono (fun dir => List.Sublist.refl _) same

end Streaming.Apart

/-- On a device whose streams are all added by their direction, no two streams of a direction
ever share a channel, as long as no listed stream changes its channels.
-/
theorem default_streams_apart
    (reached : (boundedSystem.restrict KeepsChannels).Reachable device)
    : device.Apart := by
  have invariant
      : (boundedSystem.restrict KeepsChannels).Invariant
          (fun device => device.Created ∧ device.Apart) := {
    initial := by
      intro device new
      refine ⟨?_, ?_⟩
      · intro dir stream listed
        rw [new.streams] at listed
        cases listed
      · intro dir
        rw [new.streams]
        exact List.Pairwise.nil
    step := by
      intro device event next ⟨created, apart⟩ ⟨keeps, bounded, taken⟩
      exact ⟨created.step taken, apart.step created bounded keeps taken⟩
  }
  exact (invariant.reachable reached).2

end Aspl.Device.DefaultStreams
