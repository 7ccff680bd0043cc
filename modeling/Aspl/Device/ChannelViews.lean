import Aspl.Base.System
import Aspl.CoreAudio.ChannelLayout
import Aspl.Device.AsyncSetters

/-! The three views of the preferred channels of a device: their number, their descriptions and
their layout. Each has a setter of its own, which changes one of three optional fields, and
each getter looks at the fields in an order of its own.
-/

namespace Aspl.Device.ChannelViews

open Aspl.CoreAudio

/-- A byte buffer that is a well-formed layout. -/
structure ChannelLayout where
  bytes : List UInt8
  wellFormed : WellFormedLayout bytes

inductive Call where
  | setPreferredChannelCount (channelCount : UInt32)
  | setPreferredChannels (channels : List AudioChannelDescription)
  | setPreferredChannelLayout (channelLayout : ChannelLayout)

abbrev DeviceWorld := World (DeviceState → DeviceState) DeviceState

/-- The device after one of the three asynchronous setters. -/
def perform (world : DeviceWorld) : Call → DeviceWorld
  | .setPreferredChannelCount channelCount =>
      (DeviceState.preferredChannelCountProperty.setAsync channelCount world).1
  | .setPreferredChannels channels =>
      (DeviceState.preferredChannelsProperty.setAsync channels world).1
  | .setPreferredChannelLayout channelLayout =>
      (DeviceState.preferredChannelLayoutProperty.setAsync channelLayout.bytes world).1

/-- Sequences of calls on a device that applies changes in place, with none of the fields set. -/
def system : System DeviceWorld Call where
  initial world :=
    world.configuration.enqueues = false
    ∧ world.state.preferredChannelCount = none
    ∧ world.state.preferredChannels = none
    ∧ world.state.preferredChannelLayout = none
  step world call next := perform world call = next

/-- The number is that of the channels, and the layout describes exactly the channels. -/
structure Consistent (device : DeviceState) : Prop where
  count : device.getPreferredChannelCount.toNat = device.getPreferredChannels.length
  layout : LayoutDescribes device.getPreferredChannelLayout device.getPreferredChannels

/-- A call changes nothing, because the setter takes its value to be the current one, or its value
goes with the fields that are set: no channels or layout for a number; for channels, the number
and the layout if they are set, and otherwise not an empty list where the parameters have
channels; for a layout, the number and the channels if they are set.
-/
def Permitted (device : DeviceState) : Call → Prop
  | .setPreferredChannelCount channelCount =>
      channelCount = device.getPreferredChannelCount
      ∨ device.preferredChannels = none ∧ device.preferredChannelLayout = none
  | .setPreferredChannels channels =>
      channels.isEqv device.getPreferredChannels AudioChannelDescription.same = true
      ∨ (∀ channelCount ∈ device.preferredChannelCount, channelCount.toNat = channels.length)
        ∧ (∀ layout ∈ device.preferredChannelLayout, layoutChannels layout = channels)
        ∧ channels.length < 4294967296
        ∧ (device.preferredChannelCount = none → device.preferredChannelLayout = none
          → channels = [] → device.channelCount = 0)
  | .setPreferredChannelLayout channelLayout =>
      channelLayout.bytes = device.getPreferredChannelLayout
      ∨ (∀ channelCount ∈ device.preferredChannelCount,
          channelCount = layoutChannelCount channelLayout.bytes)
        ∧ ∀ channels ∈ device.preferredChannels, layoutChannels channelLayout.bytes = channels

/-- Every layout that is set is well formed: the setter gets no others. -/
def LayoutWellFormed (device : DeviceState) : Prop :=
  ∀ layout ∈ device.preferredChannelLayout, WellFormedLayout layout

/-- A well-formed layout is not empty. -/
theorem ne_nil_of_wellFormed {layout : List UInt8} (wellFormed : WellFormedLayout layout)
    : layout ≠ [] := by
  rintro rfl
  exact absurd wellFormed.size (by simp [channelDescriptionsOffset])

/-- The getters use every layout that is set. -/
theorem describingLayout_eq {device : DeviceState} (wellFormed : LayoutWellFormed device)
    : device.describingLayout = device.preferredChannelLayout := by
  rw [DeviceState.describingLayout]
  cases stored : device.preferredChannelLayout with
  | none => rfl
  | some layout =>
      have good := wellFormed layout stored
      simp [Option.filter, ne_nil_of_wellFormed good, good.tag]

/-- The channels of a layout are as many as its header says. -/
theorem length_layoutChannels (layout : List UInt8)
    : (layoutChannels layout).length = (layoutChannelCount layout).toNat := by
  rw [layoutChannels, List.length_map, List.length_range]

theorem getPreferredChannels_of_some {device : DeviceState}
    {channels : List AudioChannelDescription}
    (stored : device.preferredChannels = some channels)
    : device.getPreferredChannels = channels := by
  rw [DeviceState.getPreferredChannels, stored]

theorem getPreferredChannelLayout_of_some {device : DeviceState} {layout : List UInt8}
    (stored : device.preferredChannelLayout = some layout)
    : device.getPreferredChannelLayout = layout := by
  rw [DeviceState.getPreferredChannelLayout, stored]

/-- Without a layout the getter builds one from the channels. -/
theorem getPreferredChannelLayout_of_none {device : DeviceState}
    (stored : device.preferredChannelLayout = none)
    : device.getPreferredChannelLayout
      = channelLayoutBytes device.getPreferredChannels := by
  rw [DeviceState.getPreferredChannelLayout, stored]

/-- Which layouts the current channels agree with. -/
theorem describes_iff {device : DeviceState} (wellFormed : LayoutWellFormed device)
    : LayoutDescribes device.getPreferredChannelLayout device.getPreferredChannels
      ↔ device.getPreferredChannels.length < 4294967296
        ∧ ∀ layout ∈ device.preferredChannelLayout,
            layoutChannels layout = device.getPreferredChannels := by
  cases stored : device.preferredChannelLayout with
  | none =>
      rw [getPreferredChannelLayout_of_none stored, describes_channelLayoutBytes_iff]
      simp
  | some layout =>
      rw [getPreferredChannelLayout_of_some stored]
      constructor
      · intro describes
        rw [← describes.channels, length_layoutChannels]
        exact ⟨(layoutChannelCount layout).toNat_lt, by simp [describes.channels]⟩
      · rintro ⟨-, same⟩
        exact ⟨wellFormed layout stored, same layout rfl⟩

/-- Consistency while channels are set. -/
theorem consistent_of_some {device : DeviceState} (wellFormed : LayoutWellFormed device)
    {channels : List AudioChannelDescription}
    (stored : device.preferredChannels = some channels)
    : Consistent device
      ↔ (∀ channelCount ∈ device.preferredChannelCount, channelCount.toNat = channels.length)
        ∧ (∀ layout ∈ device.preferredChannelLayout, layoutChannels layout = channels)
        ∧ channels.length < 4294967296
        ∧ (device.preferredChannelCount = none → device.preferredChannelLayout = none
          → channels = [] → device.channelCount = 0) := by
  have current := getPreferredChannels_of_some stored
  have describes := describes_iff wellFormed
  have describing := describingLayout_eq wellFormed
  rw [current] at describes
  constructor
  · rintro ⟨count, layout⟩
    rw [current] at count layout
    obtain ⟨small, same⟩ := describes.mp layout
    refine ⟨?_, same, small, ?_⟩
    · intro channelCount set
      rwa [DeviceState.getPreferredChannelCount, Option.mem_def.mp set] at count
    · rintro unset noLayout rfl
      rw [DeviceState.getPreferredChannelCount, unset, stored, describing, noLayout] at count
      exact UInt32.toNat_inj.mp count
  · rintro ⟨number, same, small, empty⟩
    refine ⟨?_, by rw [current]; exact describes.mpr ⟨small, same⟩⟩
    rw [current]
    cases set : device.preferredChannelCount with
    | some channelCount =>
        rw [DeviceState.getPreferredChannelCount, set]
        exact number channelCount set
    | none =>
        rw [DeviceState.getPreferredChannelCount, set, stored]
        cases channels with
        | cons first rest => exact UInt32.toNat_ofNat_of_lt' small
        | nil =>
            cases noLayout : device.preferredChannelLayout with
            | none => simp [describing, noLayout, empty set noLayout rfl, Option.filter]
            | some layout =>
                have none := length_layoutChannels layout
                rw [same layout noLayout] at none
                simpa [describing, noLayout, Option.filter] using none.symm

/-- Consistency while no channels are set. -/
theorem consistent_of_none {device : DeviceState} (wellFormed : LayoutWellFormed device)
    (stored : device.preferredChannels = none)
    : Consistent device
      ↔ ∀ channelCount ∈ device.preferredChannelCount,
          ∀ layout ∈ device.preferredChannelLayout,
            channelCount = layoutChannelCount layout := by
  have describes := describes_iff wellFormed
  have describing := describingLayout_eq wellFormed
  cases noLayout : device.preferredChannelLayout with
  | none =>
      have length
          : device.getPreferredChannels.length = device.getPreferredChannelCount.toNat := by
        rw [DeviceState.getPreferredChannels, stored, describing, noLayout, List.length_map,
          List.length_range]
      have small : device.getPreferredChannels.length < 4294967296 :=
        length ▸ device.getPreferredChannelCount.toNat_lt
      have consistent : Consistent device :=
        ⟨length.symm, describes.mpr ⟨small, by simp [noLayout]⟩⟩
      simp [consistent]
  | some layout =>
      have channels : device.getPreferredChannels = layoutChannels layout := by
        rw [DeviceState.getPreferredChannels, stored, describing, noLayout]
      have small : device.getPreferredChannels.length < 4294967296 := by
        rw [channels, length_layoutChannels]
        exact (layoutChannelCount layout).toNat_lt
      have layouts := describes.mpr ⟨small, by simp [noLayout, channels]⟩
      have consistent
          : Consistent device
            ↔ device.getPreferredChannelCount = layoutChannelCount layout := by
        rw [← UInt32.toNat_inj, ← length_layoutChannels, ← channels]
        exact ⟨Consistent.count, fun count => ⟨count, layouts⟩⟩
      rw [consistent, DeviceState.getPreferredChannelCount, stored, describing, noLayout]
      cases device.preferredChannelCount with
      | none => simp
      | some channelCount => simp

/-- What a call does to a device that applies changes in place. -/
def apply (device : DeviceState) : Call → DeviceState
  | .setPreferredChannelCount channelCount =>
      DeviceState.preferredChannelCountProperty.change channelCount device
  | .setPreferredChannels channels =>
      DeviceState.preferredChannelsProperty.change channels device
  | .setPreferredChannelLayout channelLayout =>
      DeviceState.preferredChannelLayoutProperty.change channelLayout.bytes device

/-- On such a device every call is applied before it returns: none of these values is checked. -/
theorem perform_eq {world : DeviceWorld} (direct : world.configuration.enqueues = false)
    (call : Call)
    : perform world call = { world with state := apply world.state call } := by
  cases call with
  | setPreferredChannelCount channelCount =>
      rw [perform, AsyncProperty.setAsync_inPlace _ direct rfl]
      rfl
  | setPreferredChannels channels =>
      rw [perform, AsyncProperty.setAsync_inPlace _ direct rfl]
      rfl
  | setPreferredChannelLayout channelLayout =>
      rw [perform, AsyncProperty.setAsync_inPlace _ direct rfl]
      rfl

/-- Layouts stay well formed. -/
theorem LayoutWellFormed.apply {device : DeviceState} (wellFormed : LayoutWellFormed device)
    (call : Call)
    : LayoutWellFormed (apply device call) := by
  cases call with
  | setPreferredChannelCount channelCount =>
      rw [ChannelViews.apply, AsyncProperty.change]
      split
      · exact wellFormed
      · exact wellFormed
  | setPreferredChannels channels =>
      rw [ChannelViews.apply, AsyncProperty.change]
      split
      · exact wellFormed
      · exact wellFormed
  | setPreferredChannelLayout channelLayout =>
      rw [ChannelViews.apply, AsyncProperty.change]
      split
      · exact wellFormed
      · rintro layout ⟨⟩
        exact channelLayout.wellFormed

/-- A new number is consistent only while neither channels nor a layout are set. -/
theorem Consistent.setCount_iff {device : DeviceState} (before : Consistent device)
    (wellFormed : LayoutWellFormed device) {channelCount : UInt32}
    (new : channelCount ≠ device.getPreferredChannelCount)
    : Consistent { device with preferredChannelCount := some channelCount }
      ↔ device.preferredChannels = none ∧ device.preferredChannelLayout = none := by
  have wellFormed'
      : LayoutWellFormed { device with preferredChannelCount := some channelCount } :=
    wellFormed
  have number := before.count
  rcases Option.eq_none_or_eq_some device.preferredChannels with stored | ⟨channels, stored⟩
  · rw [consistent_of_none wellFormed' stored]
    cases noLayout : device.preferredChannelLayout with
    | none => simp [stored]
    | some layout =>
        have describing := describingLayout_eq wellFormed
        rw [DeviceState.getPreferredChannels, stored, describing, noLayout,
          length_layoutChannels] at number
        simpa [← UInt32.toNat_inj.mp number] using new
  · rw [consistent_of_some wellFormed' stored]
    rw [getPreferredChannels_of_some stored] at number
    constructor
    · rintro ⟨same, -⟩
      exact absurd (UInt32.toNat_inj.mp ((same _ rfl).trans number.symm)) new
    · rintro ⟨unset, -⟩
      exact absurd (stored.symm.trans unset) (Option.some_ne_none channels)

/-- A new layout is consistent only with the number and the channels that are set. -/
theorem Consistent.setLayout_iff {device : DeviceState} (before : Consistent device)
    (wellFormed : LayoutWellFormed device) (channelLayout : ChannelLayout)
    : Consistent { device with preferredChannelLayout := some channelLayout.bytes }
      ↔ (∀ channelCount ∈ device.preferredChannelCount,
          channelCount = layoutChannelCount channelLayout.bytes)
        ∧ ∀ channels ∈ device.preferredChannels,
            layoutChannels channelLayout.bytes = channels := by
  have wellFormed'
      : LayoutWellFormed { device with preferredChannelLayout := some channelLayout.bytes } := by
    rintro layout ⟨⟩
    exact channelLayout.wellFormed
  rcases Option.eq_none_or_eq_some device.preferredChannels with stored | ⟨channels, stored⟩
  · rw [consistent_of_none wellFormed' stored]
    simp [stored]
  · obtain ⟨number, -, small, -⟩ := (consistent_of_some wellFormed stored).mp before
    rw [consistent_of_some wellFormed' stored, stored]
    constructor
    · rintro ⟨-, same, -, -⟩
      have described := same _ rfl
      refine ⟨?_, by simpa using described⟩
      intro channelCount set
      rw [← UInt32.toNat_inj, number channelCount set, ← length_layoutChannels, described]
    · rintro ⟨-, same⟩
      exact ⟨number, by simpa using same, small, fun _ unset => by cases unset⟩

/-- From a consistent device, a call leaves a consistent one exactly if it is permitted. -/
theorem Consistent.apply_iff {device : DeviceState} (before : Consistent device)
    (wellFormed : LayoutWellFormed device) (call : Call)
    : Consistent (apply device call) ↔ Permitted device call := by
  cases call with
  | setPreferredChannelCount channelCount =>
      rw [apply, AsyncProperty.change, Permitted]
      split
      · rename_i same
        exact iff_of_true before (Or.inl (beq_iff_eq.mp same))
      · rename_i different
        have new : channelCount ≠ device.getPreferredChannelCount :=
          fun same => different (beq_iff_eq.mpr same)
        exact (before.setCount_iff wellFormed new).trans (or_iff_right new).symm
  | setPreferredChannels channels =>
      rw [apply, AsyncProperty.change, Permitted]
      split
      · rename_i same
        exact iff_of_true before (Or.inl same)
      · rename_i different
        have wellFormed' : LayoutWellFormed { device with preferredChannels := some channels } :=
          wellFormed
        exact (consistent_of_some wellFormed' rfl).trans (or_iff_right different).symm
  | setPreferredChannelLayout channelLayout =>
      rw [apply, AsyncProperty.change, Permitted]
      split
      · rename_i same
        exact iff_of_true before (Or.inl (beq_iff_eq.mp same))
      · rename_i different
        have new : channelLayout.bytes ≠ device.getPreferredChannelLayout :=
          fun same => different (beq_iff_eq.mpr same)
        exact (before.setLayout_iff wellFormed channelLayout).trans (or_iff_right new).symm

/-- In a run whose calls are permitted the three views are consistent, and a call keeps them so
exactly if it is permitted.
-/
theorem channel_views_consistent {world : DeviceWorld}
    (reached : (system.restrict (fun world call => Permitted world.state call)).Reachable world)
    : Consistent world.state
      ∧ ∀ call, Consistent (perform world call).state ↔ Permitted world.state call := by
  have invariant : (system.restrict (fun world call => Permitted world.state call)).Invariant
      (fun world =>
        world.configuration.enqueues = false ∧ LayoutWellFormed world.state
        ∧ Consistent world.state) := {
    initial := by
      rintro world ⟨direct, count, channels, layout⟩
      have wellFormed : LayoutWellFormed world.state := by simp [LayoutWellFormed, layout]
      refine ⟨direct, wellFormed, (consistent_of_none wellFormed channels).mpr ?_⟩
      simp [count]
    step := by
      rintro world call next ⟨direct, wellFormed, consistent⟩ ⟨permitted, taken⟩
      obtain rfl : perform world call = next := taken
      rw [perform_eq direct]
      exact ⟨direct, wellFormed.apply call, (consistent.apply_iff wellFormed call).mpr permitted⟩
  }
  obtain ⟨direct, wellFormed, consistent⟩ := invariant.reachable reached
  refine ⟨consistent, ?_⟩
  intro call
  rw [perform_eq direct]
  exact consistent.apply_iff wellFormed call

/-- A device that is not published, with two channels by its parameters. -/
def unpublishedDevice : DeviceWorld where
  configuration := {}
  state := {}

/-- Asking for six channels is consistent while nothing else is set. -/
theorem channel_views_consistent_count
    : Consistent (perform unpublishedDevice (.setPreferredChannelCount 6)).state :=
  (channel_views_consistent
    (.step (.initial ⟨rfl, rfl, rfl, rfl⟩) (.setPreferredChannelCount 6)
      ⟨Or.inr ⟨rfl, rfl⟩, rfl⟩)).1

/-- After one channel is described, asking for six gives six channels of which one is described. -/
theorem count_without_channels
    : ¬ ∀ world, system.Reachable world → Consistent world.state := by
  intro all
  let mono := [DeviceState.defaultChannel 0]
  have reached : system.Reachable
      (perform (perform unpublishedDevice (.setPreferredChannels mono))
        (.setPreferredChannelCount 6)) :=
    .step (.step (.initial ⟨rfl, rfl, rfl, rfl⟩) _ rfl) _ rfl
  exact absurd (all _ reached).count (by decide)

end Aspl.Device.ChannelViews
