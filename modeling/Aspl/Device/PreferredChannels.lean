import Aspl.Device.ChannelViews
import Mathlib.Data.List.Forall2

/-! What becomes of a list of preferred channels: whether the asynchronous setter keeps it, and
how it survives being written to a layout and read back.
-/

namespace Aspl.Device.ChannelViews

open Aspl.CoreAudio

-----------------------------------------------------------------------------------------
-- Setting channels
-----------------------------------------------------------------------------------------

/-- The equality of `Compare.hpp` takes the channels to be equal: the third coordinate of the
first is not looked at, and its second is compared with the third of the other.
-/
structure Alike (value current : AudioChannelDescription) : Prop where
  label : value.mChannelLabel = current.mChannelLabel
  flags : value.mChannelFlags = current.mChannelFlags
  first : Float32.same value.mCoordinates0 current.mCoordinates0 = true
  second : Float32.same value.mCoordinates1 current.mCoordinates2 = true

theorem same_iff_alike (value current : AudioChannelDescription)
    : AudioChannelDescription.same value current = true ↔ Alike value current := by
  simp only [AudioChannelDescription.same, Bool.and_eq_true, beq_iff_eq]
  constructor
  · rintro ⟨⟨⟨⟨label, flags⟩, first⟩, second⟩, -⟩
    exact ⟨label, flags, first, second⟩
  · rintro ⟨label, flags, first, second⟩
    exact ⟨⟨⟨⟨label, flags⟩, first⟩, second⟩, second⟩

/-- Vectors are equal if they have as many elements, each equal to its counterpart: by induction
on the first one.
-/
theorem isEqv_iff_forall₂ {α : Type} {same : α → α → Bool} {alike : α → α → Prop}
    (equal : ∀ value current, same value current = true ↔ alike value current)
    (values current : List α)
    : values.isEqv current same = true ↔ List.Forall₂ alike values current := by
  induction values generalizing current with
  | nil => cases current <;> simp [List.isEqv]
  | cons first rest ih =>
      cases current with
      | nil => simp [List.isEqv]
      | cons other others => simp [List.isEqv_cons_cons, equal, ih]

/-- With changes applied in place, the channels after a successful call of the setter are the
given ones exactly if they were before or are not taken to be equal to what they replace.
-/
theorem preferred_channels_set_iff (world : DeviceWorld)
    (direct : world.configuration.enqueues = false) (channels : List AudioChannelDescription)
    : ((DeviceState.preferredChannelsProperty.setAsync channels world).2 = .kAudioHardwareNoError
        → (DeviceState.preferredChannelsProperty.setAsync
            channels world).1.state.getPreferredChannels = channels)
      ↔ channels = world.state.getPreferredChannels
        ∨ ¬List.Forall₂ Alike channels world.state.getPreferredChannels := by
  rw [AsyncProperty.setAsync_inPlace _ direct rfl,
    ← isEqv_iff_forall₂ same_iff_alike channels world.state.getPreferredChannels]
  simp only [AsyncProperty.change, true_implies]
  by_cases taken
    : DeviceState.preferredChannelsProperty.same channels
        (DeviceState.preferredChannelsProperty.get world.state) = true
  · have equal : channels.isEqv world.state.getPreferredChannels
        AudioChannelDescription.same = true := taken
    rw [if_pos taken, equal]
    simp [eq_comm]
  · have unequal : ¬channels.isEqv world.state.getPreferredChannels
        AudioChannelDescription.same = true := taken
    rw [if_neg taken]
    exact iff_of_true (DeviceState.preferredChannelsProperty.get_setImpl channels world.state)
      (Or.inr unequal)

/-- The left channel, with coordinates. -/
def leftChannel (first second third : CoreAudio.Float32) : AudioChannelDescription where
  mChannelLabel := kAudioChannelLabel_Left
  mChannelFlags := 0
  mCoordinates0 := first
  mCoordinates1 := second
  mCoordinates2 := third

/-- A device that is not published, with one channel by its parameters. -/
def monoDevice : DeviceWorld where
  configuration := {}
  state := { channelCount := 1 }

/-- A first coordinate other than the current one is kept. -/
theorem first_coordinate_set
    : (DeviceState.preferredChannelsProperty.setAsync
        [leftChannel 0x3F800000#32 0 0] monoDevice).1.state.getPreferredChannels
      = [leftChannel 0x3F800000#32 0 0] := by
  refine (preferred_channels_set_iff monoDevice rfl _).mpr (Or.inr ?_) rfl
  intro alike
  cases alike with
  | cons head _ => exact absurd head.first (by decide)

/-- A third coordinate other than the current one is lost, while the call succeeds. -/
theorem third_coordinate_lost
    : ¬∀ (world : DeviceWorld) (channels : List AudioChannelDescription),
        world.configuration.enqueues = false
        → (DeviceState.preferredChannelsProperty.setAsync channels world).2
          = .kAudioHardwareNoError
        → (DeviceState.preferredChannelsProperty.setAsync
            channels world).1.state.getPreferredChannels = channels := by
  intro alwaysKept
  have kept := alwaysKept monoDevice [leftChannel 0 0 0x3F800000#32] rfl rfl
  exact absurd kept (by decide)

-----------------------------------------------------------------------------------------
-- Layouts of channels
-----------------------------------------------------------------------------------------

/-- `Device::SetPreferredChannelLayoutImpl()`. -/
def setPreferredChannelLayoutImpl (device : DeviceState) (channelLayout : List UInt8)
    : DeviceState :=
  DeviceState.preferredChannelLayoutProperty.setImpl channelLayout device

/-- Without a layout, the layout is the one that the getter builds from the channels. -/
theorem getPreferredChannelLayout_of_channels {device : DeviceState}
    {channels : List AudioChannelDescription}
    (stored : device.preferredChannels = some channels)
    (unwritten : device.preferredChannelLayout = none)
    : device.getPreferredChannelLayout = channelLayoutBytes channels := by
  rw [getPreferredChannelLayout_of_none unwritten, getPreferredChannels_of_some stored]

/-- A layout that was built from channels is read by a device that has nothing else. -/
theorem read_channelLayoutBytes {channels : List AudioChannelDescription}
    (countable : channels.length < 4294967296) {target : DeviceState}
    (noChannels : target.preferredChannels = none)
    (noCount : target.preferredChannelCount = none)
    : (setPreferredChannelLayoutImpl target
          (channelLayoutBytes channels)).getPreferredChannels = channels
      ∧ (setPreferredChannelLayoutImpl target
          (channelLayoutBytes channels)).getPreferredChannelCount.toNat = channels.length := by
  have describes := (describes_channelLayoutBytes_iff channels).mpr countable
  let holder := setPreferredChannelLayoutImpl target (channelLayoutBytes channels)
  have wellFormed : LayoutWellFormed holder := by
    rintro _ ⟨⟩
    exact describes.wellFormed
  have describing : holder.describingLayout = some (channelLayoutBytes channels) :=
    describingLayout_eq wellFormed
  have noChannels : holder.preferredChannels = none := noChannels
  have noCount : holder.preferredChannelCount = none := noCount
  constructor
  · change holder.getPreferredChannels = channels
    rw [DeviceState.getPreferredChannels, noChannels]
    simp only [describing, describes.channels]
  · change holder.getPreferredChannelCount.toNat = channels.length
    rw [DeviceState.getPreferredChannelCount, noCount, noChannels]
    simp only [Option.filter_none, describing]
    rw [layoutChannelCount_channelLayoutBytes]
    exact UInt32.toNat_ofNat_of_lt' countable

/-- Channels that are written to a layout are read back from it, with their number, by a device
that has the layout only, and a device that has these channels writes the same layout.
-/
theorem layout_round_trip {channels : List AudioChannelDescription}
    (countable : channels.length < 4294967296) {source : DeviceState}
    (stored : source.preferredChannels = some channels)
    (unwritten : source.preferredChannelLayout = none)
    : source.getPreferredChannelLayout.length = 12 + 20 * channels.length
      ∧ ∀ target : DeviceState,
        target.preferredChannels = none
        → target.preferredChannelCount = none
        → let holder := setPreferredChannelLayoutImpl target source.getPreferredChannelLayout
          holder.getPreferredChannels = channels
          ∧ holder.getPreferredChannelCount.toNat = channels.length
          ∧ ∀ decoded : DeviceState,
              decoded.preferredChannels = some holder.getPreferredChannels
              → decoded.preferredChannelLayout = none
              → decoded.getPreferredChannelLayout = source.getPreferredChannelLayout := by
  rw [getPreferredChannelLayout_of_channels stored unwritten]
  refine ⟨?_, ?_⟩
  · rw [length_channelLayoutBytes, channelDescriptionsOffset, channelDescriptionSize,
      Nat.mul_comm]
  · intro target noChannels noCount holder
    obtain ⟨read, number⟩ := read_channelLayoutBytes countable noChannels noCount
    refine ⟨read, number, fun decoded has none => ?_⟩
    have same : holder.getPreferredChannels = channels := read
    rw [same] at has
    exact getPreferredChannelLayout_of_channels has none

/-- The layout of one channel has 32 bytes, from which the channel is read back. -/
theorem layout_round_trip_mono
    : (DeviceState.getPreferredChannelLayout
          { preferredChannels := some [leftChannel 0 0x3F800000#32 0] }).length = 32
      ∧ (setPreferredChannelLayoutImpl {}
          (DeviceState.getPreferredChannelLayout
            { preferredChannels := some [leftChannel 0 0x3F800000#32 0] })).getPreferredChannels
        = [leftChannel 0 0x3F800000#32 0] := by
  obtain ⟨length, read⟩ := layout_round_trip
    (show [leftChannel 0 0x3F800000#32 0].length < 4294967296 by decide)
    (show DeviceState.preferredChannels
        { preferredChannels := some [leftChannel 0 0x3F800000#32 0] } = _ from rfl) rfl
  exact ⟨length, (read {} rfl rfl).1⟩

end Aspl.Device.ChannelViews
