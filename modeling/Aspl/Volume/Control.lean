import Aspl.CoreAudio
import Aspl.Volume.Curve

/-! `VolumeControl`: the current volume in raw units, its setters with the notifications they
send, its getters and conversions, and the processing of samples.
-/

namespace Aspl.Volume

open Arithmetic CoreAudio

/-- `'lcsv'`. -/
def kAudioLevelControlPropertyScalarValue : UInt32 := 0x6C637376

/-- `'lcdv'`. -/
def kAudioLevelControlPropertyDecibelValue : UInt32 := 0x6C636476

def kAudioObjectPropertyElementMain : UInt32 := 0

structure VolumeControlParameters (K : Type) [Field K] where
  scope : AudioObjectPropertyScope := kAudioObjectPropertyScopeOutput
  minRawVolume : SInt32 := ⟨0, by decide⟩
  maxRawVolume : SInt32 := ⟨96, by decide⟩
  minDecibelVolume : K := -96
  maxDecibelVolume : K := 0

/-- A call of `NotifyPropertiesChanged()`. -/
structure Notification where
  selectors : List UInt32
  scope : AudioObjectPropertyScope
  element : UInt32
deriving DecidableEq

structure VolumeControl (K : Type) [Field K] where
  params : VolumeControlParameters K
  volumeCurve : VolumeCurve K
  rawVolume : SInt32

/-- What a setter returns, leaves and sends. -/
structure Outcome (K : Type) [Field K] where
  status : OSStatus
  control : VolumeControl K
  notification : Option Notification

namespace VolumeControl

variable {K : Type} [Field K] [LinearOrder K]

/-- The constructor, which checks none of the parameters. -/
def new (params : VolumeControlParameters K) : VolumeControl K where
  params := params
  volumeCurve :=
    ({} : VolumeCurve K).addRange params.minRawVolume params.maxRawVolume
      params.minDecibelVolume params.maxDecibelVolume
  rawVolume := params.maxRawVolume

/-- `VolumeControl::GetRawValue()`. -/
def getRawValue (control : VolumeControl K) : SInt32 := control.rawVolume

/-- `VolumeControl::SetRawValueImpl()`. -/
def setRawValueImpl (control : VolumeControl K) (value : SInt32)
    : OSStatus × VolumeControl K :=
  let value := min value control.volumeCurve.getMaximumRaw
  let value := max value control.volumeCurve.getMinimumRaw
  (.kAudioHardwareNoError, { control with rawVolume := value })

/-- `VolumeControl::SetRawValue()`, which compares its argument before it is clamped. -/
def setRawValue (control : VolumeControl K) (value : SInt32) : Outcome K :=
  if value = control.getRawValue then ⟨.kAudioHardwareNoError, control, none⟩
  else
    let (status, changed) := control.setRawValueImpl value
    if status ≠ .kAudioHardwareNoError then ⟨status, changed, none⟩
    else
      let notification : Notification := {
        selectors :=
          [kAudioLevelControlPropertyScalarValue, kAudioLevelControlPropertyDecibelValue]
        scope := changed.params.scope
        element := kAudioObjectPropertyElementMain
      }
      ⟨status, changed, some notification⟩

variable [FloorRing K] (float : FloatArithmetic K)

/-- `VolumeControl::GetDecibelValue()`. -/
def getDecibelValue (control : VolumeControl K) : Except Fault K :=
  control.volumeCurve.convertRawToDB float control.rawVolume

/-- A number of decibels moved into the range of the control. -/
def clampDecibels (control : VolumeControl K) (value : K) : K :=
  max (min value control.volumeCurve.getMaximumDB) control.volumeCurve.getMinimumDB

/-- A scalar moved into the unit interval. -/
def clampScalar (value : K) : K := max (min value 1) 0

/-- `VolumeControl::SetDecibelValue()`. -/
def setDecibelValue (control : VolumeControl K) (value : K) : Except Fault (Outcome K) := do
  let raw ← control.volumeCurve.convertDBToRaw float (control.clampDecibels value)
  return control.setRawValue raw

/-- `VolumeControl::GetScalarValue()`. -/
def getScalarValue (control : VolumeControl K) : Except Fault K :=
  control.volumeCurve.convertRawToScalar float control.rawVolume

/-- `VolumeControl::SetScalarValue()`. -/
def setScalarValue (control : VolumeControl K) (value : K) : Except Fault (Outcome K) := do
  let raw ← control.volumeCurve.convertScalarToRaw float (clampScalar value)
  return control.setRawValue raw

/-- `VolumeControl::ConvertScalarToDecibels()`. -/
def convertScalarToDecibels (control : VolumeControl K) (value : K) : Except Fault K :=
  control.volumeCurve.convertScalarToDB float (clampScalar value)

/-- `VolumeControl::ConvertDecibelsToScalar()`. -/
def convertDecibelsToScalar (control : VolumeControl K) (value : K) : Except Fault K :=
  control.volumeCurve.convertDBToScalar float (control.clampDecibels value)

/-- A sample multiplied by the volume, and clipped. -/
def processSample (volume sample : K) : K :=
  max (min (float.mul sample volume) 1) (-1)

/-- `VolumeControl::ApplyProcessing()`. The number of samples is a product of 32-bit numbers. -/
def applyProcessing (control : VolumeControl K) (frames : List K)
    (frameCount channelCount : UInt32)
    : Except Fault (List K) := do
  let volume ← control.getScalarValue float
  let count := (frameCount * channelCount).toNat
  return (frames.take count).map (processSample float volume) ++ frames.drop count

end VolumeControl

/-- The calls that set the volume. -/
inductive SetterCall (K : Type) where
  | setRawValue (value : SInt32)
  | setDecibelValue (value : K)
  | setScalarValue (value : K)

/-- A setter call with the control before it and its outcome. -/
structure SetterStep (K : Type) [Field K] where
  before : VolumeControl K
  call : SetterCall K
  outcome : Outcome K

namespace VolumeControl

variable {K : Type} [Field K] [LinearOrder K] [FloorRing K] (float : FloatArithmetic K)

def perform (control : VolumeControl K) : SetterCall K → Except Fault (Outcome K)
  | .setRawValue value => .ok (control.setRawValue value)
  | .setDecibelValue value => control.setDecibelValue float value
  | .setScalarValue value => control.setScalarValue float value

/-- The steps of a sequence of setter calls. -/
def trace (control : VolumeControl K) : List (SetterCall K) → Except Fault (List (SetterStep K))
  | [] => .ok []
  | call :: rest => do
      let outcome ← control.perform float call
      let later ← outcome.control.trace rest
      return ⟨control, call, outcome⟩ :: later

end VolumeControl

end Aspl.Volume
