import Mathlib.Algebra.Group.Nat.Defs
import Mathlib.Data.List.Nodup
import Mathlib.Data.List.Range
import Mathlib.Data.Rat.Defs

/-! The CoreAudio types that properties are made of, and their equality in `Compare.hpp`.
A `Float64` is a rational number; a `Float32` is its IEEE bit pattern.
-/

namespace Aspl.CoreAudio

/-- The status codes that modelled functions return. -/
inductive OSStatus where
  | kAudioHardwareNoError
  | kAudioHardwareBadObjectError
  | kAudioHardwareIllegalOperationError
  | kAudioHardwareUnsupportedOperationError
  | kAudioHardwareUnspecifiedError
  | kAudioHardwareUnknownPropertyError
  | kAudioHardwareBadPropertySizeError
  | kAudioDeviceUnsupportedFormatError
deriving DecidableEq

abbrev AudioObjectID := UInt32

def kAudioObjectUnknown : AudioObjectID := 0

def kAudioObjectPlugInObject : AudioObjectID := 1

abbrev AudioClassID := UInt32

abbrev AudioObjectPropertyScope := UInt32

/-- `'glob'`. -/
def kAudioObjectPropertyScopeGlobal : AudioObjectPropertyScope := 0x676C6F62

/-- `'inpt'`. -/
def kAudioObjectPropertyScopeInput : AudioObjectPropertyScope := 0x696E7074

/-- `'outp'`. -/
def kAudioObjectPropertyScopeOutput : AudioObjectPropertyScope := 0x6F757470

/-- Object IDs are ordered as the numbers they are. -/
instance AudioObjectID.linearOrder : LinearOrder UInt32 where
  le := (· ≤ ·)
  lt := (· < ·)
  le_refl := UInt32.le_refl
  le_trans := fun _ _ _ => UInt32.le_trans
  le_antisymm := fun _ _ => UInt32.le_antisymm
  le_total := UInt32.le_total
  lt_iff_le_not_ge := fun _ _ => Nat.lt_iff_le_and_not_ge
  toDecidableLE := inferInstance
  toDecidableEq := inferInstance
  toDecidableLT := inferInstance

/-- There are only so many IDs. -/
theorem length_le_of_nodup {ids : List AudioObjectID} (distinct : ids.Nodup)
    : ids.length ≤ UInt32.size := by
  have distinctNumbers := distinct.map (fun _ _ same => UInt32.toNat_inj.mp same)
  have bounded : ids.map UInt32.toNat ⊆ List.range UInt32.size := by
    intro number listed
    obtain ⟨id, -, rfl⟩ := List.mem_map.mp listed
    exact List.mem_range.mpr id.toNat_lt
  have length := distinctNumbers.length_le_of_subset bounded
  rwa [List.length_map, List.length_range] at length

abbrev Float64 := Rat

abbrev Float32 := BitVec 32

/-- Whether a bit pattern is a NaN: all exponent bits set and a nonzero fraction. -/
def Float32.isNaN (value : Float32) : Bool :=
  value &&& 0x7F800000#32 == 0x7F800000#32 && value &&& 0x007FFFFF#32 != 0#32

/-- IEEE `==`: no NaN equals anything, and both zeros are equal. -/
def Float32.same (left right : Float32) : Bool :=
  !Float32.isNaN left && !Float32.isNaN right
  && (left == right || ((left ||| right) &&& 0x7FFFFFFF#32 == 0#32))

structure AudioValueRange where
  mMinimum : Float64
  mMaximum : Float64
deriving DecidableEq

structure AudioChannelDescription where
  mChannelLabel : UInt32
  mChannelFlags : UInt32
  mCoordinates0 : Float32
  mCoordinates1 : Float32
  mCoordinates2 : Float32
deriving DecidableEq

structure AudioStreamBasicDescription where
  mSampleRate : Float64
  mFormatID : UInt32
  mFormatFlags : UInt32
  mBytesPerPacket : UInt32
  mFramesPerPacket : UInt32
  mBytesPerFrame : UInt32
  mChannelsPerFrame : UInt32
  mBitsPerChannel : UInt32
  mReserved : UInt32
deriving DecidableEq

structure AudioStreamRangedDescription where
  mFormat : AudioStreamBasicDescription
  mSampleRateRange : AudioValueRange
deriving DecidableEq

def AudioValueRange.same (a b : AudioValueRange) : Bool :=
  a.mMinimum == b.mMinimum && a.mMaximum == b.mMaximum

/-- The source compares coordinate 1 of `a` with coordinate 2 of `b`, twice. -/
def AudioChannelDescription.same (a b : AudioChannelDescription) : Bool :=
  a.mChannelLabel == b.mChannelLabel && a.mChannelFlags == b.mChannelFlags
  && Float32.same a.mCoordinates0 b.mCoordinates0
  && Float32.same a.mCoordinates1 b.mCoordinates2
  && Float32.same a.mCoordinates1 b.mCoordinates2

/-- `mReserved` is not compared. -/
def AudioStreamBasicDescription.same (a b : AudioStreamBasicDescription) : Bool :=
  a.mSampleRate == b.mSampleRate && a.mFormatID == b.mFormatID
  && a.mFormatFlags == b.mFormatFlags && a.mBitsPerChannel == b.mBitsPerChannel
  && a.mChannelsPerFrame == b.mChannelsPerFrame && a.mBytesPerFrame == b.mBytesPerFrame
  && a.mFramesPerPacket == b.mFramesPerPacket && a.mBytesPerPacket == b.mBytesPerPacket

def AudioStreamRangedDescription.same (a b : AudioStreamRangedDescription) : Bool :=
  a.mFormat.same b.mFormat && a.mSampleRateRange.same b.mSampleRateRange

-----------------------------------------------------------------------------------------
-- AudioChannelLayout as a byte buffer
-----------------------------------------------------------------------------------------

def kAudioChannelLayoutTag_UseChannelDescriptions : UInt32 := 0

def kAudioChannelLabel_Left : UInt32 := 1

/-- `offsetof(AudioChannelLayout, mChannelDescriptions)`. -/
def channelDescriptionsOffset : Nat := 12

/-- `sizeof(AudioChannelDescription)`. -/
def channelDescriptionSize : Nat := 20

/-- The bytes of a 32-bit word, least significant first. -/
def wordBytes (word : BitVec 32) : List UInt8 :=
  [0, 8, 16, 24].map (fun shift => UInt8.ofNat (word.toNat / 2 ^ shift % 256))

/-- The 32-bit word stored at an offset. The buffers that the model reads are long enough;
bytes past the end, which the source must not read, count as zero.
-/
def wordAt (bytes : List UInt8) (offset : Nat) : BitVec 32 :=
  BitVec.ofNat 32
    ((bytes.getD offset 0).toNat
      + 2 ^ 8 * (bytes.getD (offset + 1) 0).toNat
      + 2 ^ 16 * (bytes.getD (offset + 2) 0).toNat
      + 2 ^ 24 * (bytes.getD (offset + 3) 0).toNat)

def channelDescriptionBytes (channel : AudioChannelDescription) : List UInt8 :=
  wordBytes channel.mChannelLabel.toBitVec ++ wordBytes channel.mChannelFlags.toBitVec
  ++ wordBytes channel.mCoordinates0 ++ wordBytes channel.mCoordinates1
  ++ wordBytes channel.mCoordinates2

/-- The three words before the channel descriptions. -/
def channelLayoutHeader (chans : List AudioChannelDescription) : List UInt8 :=
  wordBytes kAudioChannelLayoutTag_UseChannelDescriptions.toBitVec ++ wordBytes 0
  ++ wordBytes (BitVec.ofNat 32 chans.length)

/-- The buffer that describes a list of channels one by one. -/
def channelLayoutBytes (chans : List AudioChannelDescription) : List UInt8 :=
  channelLayoutHeader chans ++ chans.flatMap channelDescriptionBytes

def channelDescriptionAt (bytes : List UInt8) (offset : Nat) : AudioChannelDescription where
  mChannelLabel := ⟨wordAt bytes offset⟩
  mChannelFlags := ⟨wordAt bytes (offset + 4)⟩
  mCoordinates0 := wordAt bytes (offset + 8)
  mCoordinates1 := wordAt bytes (offset + 12)
  mCoordinates2 := wordAt bytes (offset + 16)

/-- `layout->mChannelLayoutTag`. -/
def layoutTag (layout : List UInt8) : UInt32 := ⟨wordAt layout 0⟩

/-- `layout->mNumberChannelDescriptions`. -/
def layoutChannelCount (layout : List UInt8) : UInt32 := ⟨wordAt layout 8⟩

/-- The array `layout->mChannelDescriptions`, as long as the header says. -/
def layoutChannels (layout : List UInt8) : List AudioChannelDescription :=
  (List.range (layoutChannelCount layout).toNat).map
    (fun n =>
      channelDescriptionAt layout (channelDescriptionsOffset + n * channelDescriptionSize))

end Aspl.CoreAudio
