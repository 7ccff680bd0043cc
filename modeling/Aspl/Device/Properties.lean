import Aspl.CoreAudio

/-! The values behind the asynchronous properties of `Device` and `Stream`: the fields, the
getters, the value checks and the default `Impl` setters.
-/

namespace Aspl.Device

open Aspl.CoreAudio

/-- The default `Format` of `StreamParameters`: stereo, 44100 Hz, 16-bit native-endian packed
integers of `kAudioFormatLinearPCM`.
-/
def defaultFormat : AudioStreamBasicDescription where
  mSampleRate := 44100
  mFormatID := 0x6C70636D
  mFormatFlags := 12
  mBitsPerChannel := 16
  mChannelsPerFrame := 2
  mBytesPerFrame := 4
  mFramesPerPacket := 1
  mBytesPerPacket := 4
  mReserved := 0

/-- The fields of a stream that its asynchronous setters read or write. -/
structure StreamState where
  latency : UInt32 := 0
  physicalFormat : AudioStreamBasicDescription := defaultFormat
  virtualFormat : AudioStreamBasicDescription := defaultFormat
  availPhysicalFormats : Option (List AudioStreamRangedDescription) := none
  availVirtualFormats : Option (List AudioStreamRangedDescription) := none

namespace StreamState

/-- The list stored by a setter, or one range made of the current format. -/
def availableFormats (stored : Option (List AudioStreamRangedDescription))
    (current : AudioStreamBasicDescription)
    : List AudioStreamRangedDescription :=
  stored.getD
    [{ mFormat := current, mSampleRateRange := ⟨current.mSampleRate, current.mSampleRate⟩ }]

def getAvailablePhysicalFormats (stream : StreamState) : List AudioStreamRangedDescription :=
  availableFormats stream.availPhysicalFormats stream.physicalFormat

def getAvailableVirtualFormats (stream : StreamState) : List AudioStreamRangedDescription :=
  availableFormats stream.availVirtualFormats stream.virtualFormat

/-- An empty list allows every format; otherwise the format must be in the list. -/
def checkFormat (availFormats : List AudioStreamRangedDescription)
    (format : AudioStreamBasicDescription)
    : OSStatus :=
  if availFormats.isEmpty || availFormats.any (fun it => it.mFormat.same format) then
    .kAudioHardwareNoError
  else
    .kAudioDeviceUnsupportedFormatError

def checkPhysicalFormat (stream : StreamState) (format : AudioStreamBasicDescription)
    : OSStatus :=
  checkFormat stream.getAvailablePhysicalFormats format

def checkVirtualFormat (stream : StreamState) (format : AudioStreamBasicDescription)
    : OSStatus :=
  checkFormat stream.getAvailableVirtualFormats format

end StreamState

/-- The fields of a device that its asynchronous setters read or write, `channelCount` from its
parameters, and its streams by object ID.
-/
structure DeviceState where
  channelCount : UInt32 := 2
  latency : UInt32 := 0
  safetyOffset : UInt32 := 0
  zeroTimeStampPeriod : UInt32 := 44100
  nominalSampleRate : Float64 := 44100
  availableSampleRates : Option (List AudioValueRange) := none
  preferredChannelsForStereo : UInt32 × UInt32 := (1, 2)
  preferredChannelCount : Option UInt32 := none
  preferredChannels : Option (List AudioChannelDescription) := none
  preferredChannelLayout : Option (List UInt8) := none
  streams : Nat → StreamState := fun _ => {}

namespace DeviceState

def getAvailableSampleRates (device : DeviceState) : List AudioValueRange :=
  device.availableSampleRates.getD [⟨device.nominalSampleRate, device.nominalSampleRate⟩]

def checkNominalSampleRate (device : DeviceState) (rate : Float64) : OSStatus :=
  let availRates := device.getAvailableSampleRates
  if availRates.isEmpty
      || availRates.any (fun range => range.mMinimum ≤ rate && rate ≤ range.mMaximum) then
    .kAudioHardwareNoError
  else
    .kAudioHardwareUnsupportedOperationError

/-- The stored layout, if it is not empty and describes its channels one by one. -/
def describingLayout (device : DeviceState) : Option (List UInt8) :=
  device.preferredChannelLayout.filter
    (fun layout =>
      !layout.isEmpty && layoutTag layout == kAudioChannelLayoutTag_UseChannelDescriptions)

def getPreferredChannelCount (device : DeviceState) : UInt32 :=
  match device.preferredChannelCount with
  | some channelCount => channelCount
  | none =>
      match device.preferredChannels.filter (fun chans => !chans.isEmpty) with
      | some chans => UInt32.ofNat chans.length
      | none =>
          match device.describingLayout with
          | some layout => layoutChannelCount layout
          | none => device.channelCount

/-- The channels built from the channel count alone. -/
def defaultChannel (n : Nat) : AudioChannelDescription where
  mChannelLabel := kAudioChannelLabel_Left + UInt32.ofNat n
  mChannelFlags := 0
  mCoordinates0 := 0
  mCoordinates1 := 0
  mCoordinates2 := 0

def getPreferredChannels (device : DeviceState) : List AudioChannelDescription :=
  match device.preferredChannels with
  | some chans => chans
  | none =>
      match device.describingLayout with
      | some layout => layoutChannels layout
      | none => (List.range device.getPreferredChannelCount.toNat).map defaultChannel

def getPreferredChannelLayout (device : DeviceState) : List UInt8 :=
  match device.preferredChannelLayout with
  | some layoutBuffer => layoutBuffer
  | none => channelLayoutBytes device.getPreferredChannels

end DeviceState

end Aspl.Device
