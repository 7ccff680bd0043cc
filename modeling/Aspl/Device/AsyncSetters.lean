import Aspl.Device.Configuration
import Aspl.Device.Properties
import Mathlib.Logic.Function.Basic

/-! The generated asynchronous setters of `Device` and `Stream`.
A queued lambda is the change of the device state that it makes, so the functions stored by
`RequestConfigurationChange()` are state transformers.
-/

namespace Aspl.Device

open Aspl.CoreAudio

universe u v

/-- What the accessor generator is told about an asynchronous property: the getter, the default
`Impl` setter, the `operator==` of its type and the value check, which allows every value when
the property is not `is_checked`.
-/
structure AsyncProperty (State : Type u) (Value : Type v) where
  get : State → Value
  setImpl : Value → State → State
  same : Value → Value → Bool
  check : State → Value → OSStatus := fun _ _ => .kAudioHardwareNoError
  get_setImpl : ∀ value state, get (setImpl value state) = value

namespace AsyncProperty

variable {State : Type u} {Value : Type v} (property : AsyncProperty State Value)

/-- The lambda that `Set<Prop>Async()` submits. -/
def change (value : Value) (state : State) : State :=
  if property.same value (property.get state) then state else property.setImpl value state

/-- `Set<Prop>Async()`. A stream forwards its request to its device, which is alive here. -/
def setAsync (value : Value) (world : World (State → State) State)
    : World (State → State) State × OSStatus :=
  if property.same value (property.get world.state) then
    (world, .kAudioHardwareNoError)
  else
    match property.check world.state value with
    | .kAudioHardwareNoError =>
        (
          (requestConfigurationChange id (some (property.change value)) world).1,
          .kAudioHardwareNoError
        )
    | status => (world, status)

/-- Off the queue, a value that passes the check is set before the call returns. -/
theorem setAsync_inPlace {value : Value} {world : World (State → State) State}
    (direct : world.configuration.enqueues = false)
    (allowed : property.check world.state value = .kAudioHardwareNoError)
    : property.setAsync value world
      = ({ world with state := property.change value world.state }, .kAudioHardwareNoError) := by
  cases same : property.same value (property.get world.state) with
  | true => simp [setAsync, change, same]
  | false => simp [setAsync, same, allowed, requestConfigurationChange_inPlace direct]

/-- A property of a stream as a property of the device that has the stream. -/
def ofStream (property : AsyncProperty StreamState Value) (streamID : Nat)
    : AsyncProperty DeviceState Value where
  get device := property.get (device.streams streamID)
  setImpl value device :=
    {
      device with
      streams :=
        Function.update device.streams streamID
          (property.setImpl value (device.streams streamID))
    }
  same := property.same
  check device := property.check (device.streams streamID)
  get_setImpl := by simp [property.get_setImpl]

end AsyncProperty

-----------------------------------------------------------------------------------------
-- Device.json and Stream.json: the properties with `is_async`
-----------------------------------------------------------------------------------------

namespace DeviceState

def latencyProperty : AsyncProperty DeviceState UInt32 where
  get device := device.latency
  setImpl value device := { device with latency := value }
  same := (· == ·)
  get_setImpl _ _ := rfl

def safetyOffsetProperty : AsyncProperty DeviceState UInt32 where
  get device := device.safetyOffset
  setImpl value device := { device with safetyOffset := value }
  same := (· == ·)
  get_setImpl _ _ := rfl

def zeroTimeStampPeriodProperty : AsyncProperty DeviceState UInt32 where
  get device := device.zeroTimeStampPeriod
  setImpl value device := { device with zeroTimeStampPeriod := value }
  same := (· == ·)
  get_setImpl _ _ := rfl

def nominalSampleRateProperty : AsyncProperty DeviceState Float64 where
  get device := device.nominalSampleRate
  setImpl value device := { device with nominalSampleRate := value }
  same := (· == ·)
  check := checkNominalSampleRate
  get_setImpl _ _ := rfl

def availableSampleRatesProperty : AsyncProperty DeviceState (List AudioValueRange) where
  get := getAvailableSampleRates
  setImpl value device := { device with availableSampleRates := some value }
  same left right := left.isEqv right AudioValueRange.same
  get_setImpl _ _ := rfl

def preferredChannelsForStereoProperty : AsyncProperty DeviceState (UInt32 × UInt32) where
  get device := device.preferredChannelsForStereo
  setImpl value device := { device with preferredChannelsForStereo := value }
  same := (· == ·)
  get_setImpl _ _ := rfl

def preferredChannelCountProperty : AsyncProperty DeviceState UInt32 where
  get := getPreferredChannelCount
  setImpl value device := { device with preferredChannelCount := some value }
  same := (· == ·)
  get_setImpl _ _ := rfl

def preferredChannelsProperty : AsyncProperty DeviceState (List AudioChannelDescription) where
  get := getPreferredChannels
  setImpl value device := { device with preferredChannels := some value }
  same left right := left.isEqv right AudioChannelDescription.same
  get_setImpl _ _ := rfl

def preferredChannelLayoutProperty : AsyncProperty DeviceState (List UInt8) where
  get := getPreferredChannelLayout
  setImpl value device := { device with preferredChannelLayout := some value }
  same := (· == ·)
  get_setImpl _ _ := rfl

end DeviceState

namespace StreamState

def latencyProperty : AsyncProperty StreamState UInt32 where
  get stream := stream.latency
  setImpl value stream := { stream with latency := value }
  same := (· == ·)
  get_setImpl _ _ := rfl

def physicalFormatProperty : AsyncProperty StreamState AudioStreamBasicDescription where
  get stream := stream.physicalFormat
  setImpl value stream := { stream with physicalFormat := value }
  same := AudioStreamBasicDescription.same
  check := checkPhysicalFormat
  get_setImpl _ _ := rfl

def virtualFormatProperty : AsyncProperty StreamState AudioStreamBasicDescription where
  get stream := stream.virtualFormat
  setImpl value stream := { stream with virtualFormat := value }
  same := AudioStreamBasicDescription.same
  check := checkVirtualFormat
  get_setImpl _ _ := rfl

def availablePhysicalFormatsProperty
    : AsyncProperty StreamState (List AudioStreamRangedDescription) where
  get := getAvailablePhysicalFormats
  setImpl value stream := { stream with availPhysicalFormats := some value }
  same left right := left.isEqv right AudioStreamRangedDescription.same
  get_setImpl _ _ := rfl

def availableVirtualFormatsProperty
    : AsyncProperty StreamState (List AudioStreamRangedDescription) where
  get := getAvailableVirtualFormats
  setImpl value stream := { stream with availVirtualFormats := some value }
  same left right := left.isEqv right AudioStreamRangedDescription.same
  get_setImpl _ _ := rfl

end StreamState

end Aspl.Device
