import Aspl.Object.Accessors

/-! The properties that the JSON files describe to `generate-accessors.py`, class by class. -/

namespace Aspl.Object

open CoreAudio

universe u

/-- The selectors of the classes. Any other one is `other`. -/
inductive AudioObjectPropertySelector where
  | kAudioObjectPropertyClass
  | kAudioObjectPropertyBaseClass
  | kAudioObjectPropertyOwner
  | kAudioObjectPropertyOwnedObjects
  | kAudioObjectPropertyCustomPropertyInfoList
  | kAudioObjectPropertyManufacturer
  | kAudioPlugInPropertyResourceBundle
  | kAudioPlugInPropertyDeviceList
  | kAudioPlugInPropertyTranslateUIDToDevice
  | kAudioObjectPropertyName
  | kAudioDevicePropertyDeviceUID
  | kAudioDevicePropertyModelUID
  | kAudioObjectPropertySerialNumber
  | kAudioObjectPropertyFirmwareVersion
  | kAudioDevicePropertyIcon
  | kAudioDevicePropertyConfigurationApplication
  | kAudioDevicePropertyTransportType
  | kAudioDevicePropertyRelatedDevices
  | kAudioDevicePropertyClockIsStable
  | kAudioDevicePropertyClockAlgorithm
  | kAudioDevicePropertyClockDomain
  | kAudioDevicePropertyLatency
  | kAudioDevicePropertySafetyOffset
  | kAudioDevicePropertyZeroTimeStampPeriod
  | kAudioDevicePropertyNominalSampleRate
  | kAudioDevicePropertyAvailableNominalSampleRates
  | kAudioDevicePropertyPreferredChannelsForStereo
  | kAudioDevicePropertyPreferredChannelLayout
  | kAudioDevicePropertyDeviceIsRunning
  | kAudioObjectPropertyIdentify
  | kAudioDevicePropertyDeviceIsAlive
  | kAudioDevicePropertyIsHidden
  | kAudioDevicePropertyDeviceCanBeDefaultDevice
  | kAudioDevicePropertyDeviceCanBeDefaultSystemDevice
  | kAudioDevicePropertyStreams
  | kAudioObjectPropertyControlList
  | kAudioStreamPropertyIsActive
  | kAudioStreamPropertyDirection
  | kAudioStreamPropertyTerminalType
  | kAudioStreamPropertyStartingChannel
  | kAudioStreamPropertyLatency
  | kAudioStreamPropertyPhysicalFormat
  | kAudioStreamPropertyVirtualFormat
  | kAudioStreamPropertyAvailablePhysicalFormats
  | kAudioStreamPropertyAvailableVirtualFormats
  | kAudioControlPropertyScope
  | kAudioControlPropertyElement
  | kAudioLevelControlPropertyScalarValue
  | kAudioLevelControlPropertyDecibelValue
  | kAudioLevelControlPropertyDecibelRange
  | kAudioLevelControlPropertyConvertScalarToDecibels
  | kAudioLevelControlPropertyConvertDecibelsToScalar
  | kAudioBooleanControlPropertyValue
  | other (selector : UInt32)
deriving DecidableEq

/-- The types of the properties and of their qualifiers. -/
inductive FoundationType where
  | UInt8
  | UInt32
  | Float32
  | AudioClassID
  | AudioObjectID
  | AudioObjectPropertyScope
  | AudioObjectPropertyElement
  | Float64
  | CFStringRef
  | CFURLRef
  | AudioServerPlugInCustomPropertyInfo
  | AudioValueRange
  | AudioStreamBasicDescription
  | AudioStreamRangedDescription

/-- The size of a type on a 64-bit machine. -/
def sizeof : FoundationType → Nat
  | .UInt8 => 1
  | .UInt32 | .Float32 | .AudioClassID | .AudioObjectID | .AudioObjectPropertyScope
  | .AudioObjectPropertyElement => 4
  | .Float64 | .CFStringRef | .CFURLRef => 8
  | .AudioServerPlugInCustomPropertyInfo => 12
  | .AudioValueRange => 16
  | .AudioStreamBasicDescription => 40
  | .AudioStreamRangedDescription => 56

/-- `properties` of `Object.json`. -/
def objectProperties : List (PropertyDescription AudioObjectPropertySelector) :=
  [
    { name := "Class", id := .kAudioObjectPropertyClass, size := sizeof .AudioClassID },
    { name := "BaseClass", id := .kAudioObjectPropertyBaseClass,
      size := sizeof .AudioClassID },
    { name := "OwnerID", id := .kAudioObjectPropertyOwner, size := sizeof .AudioObjectID },
    { name := "OwnedObjectIDs", id := .kAudioObjectPropertyOwnedObjects,
      size := sizeof .AudioObjectID, scopedGetter := true, isArray := true },
    { name := "CustomProperties", id := .kAudioObjectPropertyCustomPropertyInfoList,
      size := sizeof .AudioServerPlugInCustomPropertyInfo, isArray := true }
  ]

/-- `properties` of `Plugin.json`. -/
def pluginProperties : List (PropertyDescription AudioObjectPropertySelector) :=
  [
    { name := "Manufacturer", id := .kAudioObjectPropertyManufacturer,
      size := sizeof .CFStringRef },
    { name := "ResourceBundlePath", id := .kAudioPlugInPropertyResourceBundle,
      size := sizeof .CFStringRef },
    { name := "DeviceIDs", id := .kAudioPlugInPropertyDeviceList,
      size := sizeof .AudioObjectID, isArray := true },
    { name := "DeviceIDByUID", id := .kAudioPlugInPropertyTranslateUIDToDevice,
      size := sizeof .AudioObjectID, isQualified := true,
      qualifierSize := sizeof .CFStringRef }
  ]

/-- `properties` of `Device.json`, without `PreferredChannelCount` and `PreferredChannels`, which
have no selector and no case in an entry point.
-/
def deviceProperties : List (PropertyDescription AudioObjectPropertySelector) :=
  [
    { name := "Name", id := .kAudioObjectPropertyName, size := sizeof .CFStringRef },
    { name := "Manufacturer", id := .kAudioObjectPropertyManufacturer,
      size := sizeof .CFStringRef },
    { name := "DeviceUID", id := .kAudioDevicePropertyDeviceUID, size := sizeof .CFStringRef },
    { name := "ModelUID", id := .kAudioDevicePropertyModelUID, size := sizeof .CFStringRef },
    { name := "SerialNumber", id := .kAudioObjectPropertySerialNumber,
      size := sizeof .CFStringRef },
    { name := "FirmwareVersion", id := .kAudioObjectPropertyFirmwareVersion,
      size := sizeof .CFStringRef },
    { name := "IconURL", id := .kAudioDevicePropertyIcon, size := sizeof .CFURLRef },
    { name := "ConfigurationApplicationBundleID",
      id := .kAudioDevicePropertyConfigurationApplication, size := sizeof .CFStringRef },
    { name := "TransportType", id := .kAudioDevicePropertyTransportType,
      size := sizeof .UInt32 },
    { name := "RelatedDeviceIDs", id := .kAudioDevicePropertyRelatedDevices,
      size := sizeof .AudioObjectID, isArray := true },
    { name := "ClockIsStable", id := .kAudioDevicePropertyClockIsStable,
      size := sizeof .UInt32 },
    { name := "ClockAlgorithm", id := .kAudioDevicePropertyClockAlgorithm,
      size := sizeof .UInt32 },
    { name := "ClockDomain", id := .kAudioDevicePropertyClockDomain, size := sizeof .UInt32 },
    { name := "Latency", id := .kAudioDevicePropertyLatency, size := sizeof .UInt32,
      allowedScopes := [kAudioObjectPropertyScopeInput, kAudioObjectPropertyScopeOutput] },
    { name := "SafetyOffset", id := .kAudioDevicePropertySafetyOffset,
      size := sizeof .UInt32,
      allowedScopes := [kAudioObjectPropertyScopeInput, kAudioObjectPropertyScopeOutput] },
    { name := "ZeroTimeStampPeriod", id := .kAudioDevicePropertyZeroTimeStampPeriod,
      size := sizeof .UInt32 },
    { name := "NominalSampleRate", id := .kAudioDevicePropertyNominalSampleRate,
      size := sizeof .Float64, isSettable := true },
    { name := "AvailableSampleRates", id := .kAudioDevicePropertyAvailableNominalSampleRates,
      size := sizeof .AudioValueRange, isArray := true },
    { name := "PreferredChannelsForStereo",
      id := .kAudioDevicePropertyPreferredChannelsForStereo, size := sizeof .UInt32,
      allowedScopes := [kAudioObjectPropertyScopeInput, kAudioObjectPropertyScopeOutput],
      isArray := true },
    { name := "PreferredChannelLayout", id := .kAudioDevicePropertyPreferredChannelLayout,
      size := sizeof .UInt8,
      allowedScopes := [kAudioObjectPropertyScopeInput, kAudioObjectPropertyScopeOutput],
      isArray := true, isTruncatable := false },
    { name := "IsRunning", id := .kAudioDevicePropertyDeviceIsRunning,
      size := sizeof .UInt32 },
    { name := "IsIdentifying", id := .kAudioObjectPropertyIdentify, size := sizeof .UInt32,
      isSettable := true },
    { name := "IsAlive", id := .kAudioDevicePropertyDeviceIsAlive, size := sizeof .UInt32 },
    { name := "IsHidden", id := .kAudioDevicePropertyIsHidden, size := sizeof .UInt32 },
    { name := "CanBeDefaultDevice", id := .kAudioDevicePropertyDeviceCanBeDefaultDevice,
      size := sizeof .UInt32,
      allowedScopes := [kAudioObjectPropertyScopeInput, kAudioObjectPropertyScopeOutput] },
    { name := "CanBeDefaultSystemDevice",
      id := .kAudioDevicePropertyDeviceCanBeDefaultSystemDevice, size := sizeof .UInt32,
      allowedScopes := [kAudioObjectPropertyScopeInput, kAudioObjectPropertyScopeOutput] },
    { name := "StreamIDs", id := .kAudioDevicePropertyStreams, size := sizeof .AudioObjectID,
      scopedGetter := true, isArray := true },
    { name := "ControlIDs", id := .kAudioObjectPropertyControlList,
      size := sizeof .AudioObjectID, isArray := true }
  ]

/-- `properties` of `Stream.json`. -/
def streamProperties : List (PropertyDescription AudioObjectPropertySelector) :=
  [
    { name := "IsActive", id := .kAudioStreamPropertyIsActive, size := sizeof .UInt32,
      isSettable := true },
    { name := "Direction", id := .kAudioStreamPropertyDirection, size := sizeof .UInt32 },
    { name := "TerminalType", id := .kAudioStreamPropertyTerminalType,
      size := sizeof .UInt32 },
    { name := "StartingChannel", id := .kAudioStreamPropertyStartingChannel,
      size := sizeof .UInt32 },
    { name := "Latency", id := .kAudioStreamPropertyLatency, size := sizeof .UInt32 },
    { name := "PhysicalFormat", id := .kAudioStreamPropertyPhysicalFormat,
      size := sizeof .AudioStreamBasicDescription, isSettable := true },
    { name := "VirtualFormat", id := .kAudioStreamPropertyVirtualFormat,
      size := sizeof .AudioStreamBasicDescription, isSettable := true },
    { name := "AvailablePhysicalFormats",
      id := .kAudioStreamPropertyAvailablePhysicalFormats,
      size := sizeof .AudioStreamRangedDescription, isArray := true },
    { name := "AvailableVirtualFormats", id := .kAudioStreamPropertyAvailableVirtualFormats,
      size := sizeof .AudioStreamRangedDescription, isArray := true }
  ]

/-- `properties` of `VolumeControl.json`. -/
def volumeControlProperties : List (PropertyDescription AudioObjectPropertySelector) :=
  [
    { name := "Scope", id := .kAudioControlPropertyScope,
      size := sizeof .AudioObjectPropertyScope },
    { name := "Element", id := .kAudioControlPropertyElement,
      size := sizeof .AudioObjectPropertyElement },
    { name := "ScalarValue", id := .kAudioLevelControlPropertyScalarValue,
      size := sizeof .Float32, isSettable := true },
    { name := "DecibelValue", id := .kAudioLevelControlPropertyDecibelValue,
      size := sizeof .Float32, isSettable := true },
    { name := "DecibelRange", id := .kAudioLevelControlPropertyDecibelRange,
      size := sizeof .AudioValueRange },
    { name := "ScalarToDecibels", id := .kAudioLevelControlPropertyConvertScalarToDecibels,
      size := sizeof .Float32, isConverter := true },
    { name := "DecibelsToScalar", id := .kAudioLevelControlPropertyConvertDecibelsToScalar,
      size := sizeof .Float32, isConverter := true }
  ]

/-- `properties` of `MuteControl.json`. -/
def muteControlProperties : List (PropertyDescription AudioObjectPropertySelector) :=
  [
    { name := "Scope", id := .kAudioControlPropertyScope,
      size := sizeof .AudioObjectPropertyScope },
    { name := "Element", id := .kAudioControlPropertyElement,
      size := sizeof .AudioObjectPropertyElement },
    { name := "IsMuted", id := .kAudioBooleanControlPropertyValue, size := sizeof .UInt32,
      isSettable := true }
  ]

/-- The classes with their base classes, as `base_class` has it. -/
def describedClasses : List (List (List (PropertyDescription AudioObjectPropertySelector))) :=
  [
    [objectProperties],
    [pluginProperties, objectProperties],
    [deviceProperties, objectProperties],
    [streamProperties, objectProperties],
    [volumeControlProperties, objectProperties],
    [muteControlProperties, objectProperties]
  ]

/-- Each selector of a class and its bases names one property, and what can be set can be got. -/
structure WellDescribed {Selector : Type u} (classes : List (List (PropertyDescription Selector)))
    : Prop where
  distinct : (classes.flatten.map PropertyDescription.id).Nodup
  gettable
    : ∀ property ∈ classes.flatten, property.isSettable = true → property.isGettable = true

theorem describedClasses_wellDescribed
    : ∀ classes ∈ describedClasses, WellDescribed classes := by
  have distinct : ∀ classes ∈ describedClasses,
      (classes.flatten.map PropertyDescription.id).Nodup := by decide
  have gettable : ∀ classes ∈ describedClasses, ∀ property ∈ classes.flatten,
      property.isSettable = true → property.isGettable = true := by decide
  exact fun classes described => ⟨distinct classes described, gettable classes described⟩

end Aspl.Object
