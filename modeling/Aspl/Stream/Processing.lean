import Aspl.Volume.Faults

/-! Processing of samples: a stream has its volume control and its mute control process a buffer,
one after the other. What comes out depends on each sample alone.
-/

namespace Aspl.Processing

open Arithmetic CoreAudio
open Volume (VolumeControl Notification)

universe u

variable {K : Type} {Control : Type u}

-----------------------------------------------------------------------------------------
-- Mute controls
-----------------------------------------------------------------------------------------

/-- `'bcvl'`. -/
def kAudioBooleanControlPropertyValue : UInt32 := 0x6263766C

structure MuteControl where
  scope : AudioObjectPropertyScope := kAudioObjectPropertyScopeOutput
  isMuted : Bool := false

namespace MuteControl

def getIsMuted (control : MuteControl) : Bool := control.isMuted

/-- `MuteControl::SetIsMutedImpl()`. -/
def setIsMutedImpl (control : MuteControl) (isMuted : Bool) : OSStatus × MuteControl :=
  (.kAudioHardwareNoError, { control with isMuted := isMuted })

/-- `MuteControl::SetIsMuted()`, with the notification that it sends. -/
def setIsMuted (control : MuteControl) (value : Bool)
    : OSStatus × MuteControl × Option Notification :=
  if value = control.getIsMuted then (.kAudioHardwareNoError, control, none)
  else
    let (status, changed) := control.setIsMutedImpl value
    if status ≠ .kAudioHardwareNoError then (status, changed, none)
    else
      let notification : Notification := {
        selectors := [kAudioBooleanControlPropertyValue]
        scope := changed.scope
        element := Volume.kAudioObjectPropertyElementMain
      }
      (status, changed, some notification)

end MuteControl

-----------------------------------------------------------------------------------------
-- The first samples of a buffer
-----------------------------------------------------------------------------------------

/-- A function applied to the first elements of a list. -/
def mapFirst (count : Nat) (f : K → K) (samples : List K) : List K :=
  (samples.take count).map f ++ samples.drop count

theorem getElem?_mapFirst (count : Nat) (f : K → K) (samples : List K) (i : Nat)
    : (mapFirst count f samples)[i]? = if i < count then samples[i]?.map f else samples[i]? := by
  rw [mapFirst, List.getElem?_append]
  by_cases inside : i < count
  · by_cases within : i < samples.length
    · simp [inside, within]
    · have outside : samples.length ≤ i := not_lt.mp within
      simp [outside, outside.trans inside.le]
  · have outside : count ≤ i := not_lt.mp inside
    by_cases short : samples.length ≤ count
    · simp [short, inside, not_lt.mpr (short.trans outside)]
    · have long : count ≤ samples.length := (not_le.mp short).le
      simp [long, inside, outside]

/-- Samples that are processed twice. -/
theorem mapFirst_mapFirst (count : Nat) (f g : K → K) (samples : List K)
    : mapFirst count f (mapFirst count g samples) = mapFirst count (f ∘ g) samples := by
  apply List.ext_getElem?
  intro i
  simp only [getElem?_mapFirst]
  split
  · exact Option.map_map f g samples[i]?
  · rfl

@[simp] theorem mapFirst_id (count : Nat) (samples : List K)
    : mapFirst count id samples = samples := by
  rw [mapFirst, List.map_id, List.take_append_drop]

/-- A buffer that has no more samples than are processed. -/
theorem mapFirst_ofFn {count : Nat} (f : K → K) (samples : Fin count → K)
    : mapFirst count f (List.ofFn samples) = List.ofFn (fun i => f (samples i)) := by
  rw [mapFirst, List.take_of_length_le (List.length_ofFn.le),
    List.drop_of_length_le (List.length_ofFn.le), List.append_nil, List.map_ofFn]
  rfl

section Processing

variable [Field K]

/-- The samples that `memset()` overwrites, whose size is a product of 64-bit numbers. -/
def mutedCount (frameCount channelCount : UInt32) : Nat :=
  4 * frameCount.toNat * channelCount.toNat % 2 ^ 64 / 4

/-- `MuteControl::ApplyProcessing()`. -/
def MuteControl.applyProcessing (control : MuteControl) (frames : List K)
    (frameCount channelCount : UInt32)
    : List K :=
  if control.getIsMuted then mapFirst (mutedCount frameCount channelCount) (fun _ => 0) frames
  else frames

-----------------------------------------------------------------------------------------
-- Streams
-----------------------------------------------------------------------------------------

/-- The state of the volume controls and of the mute controls, by pointer. -/
structure Controls (K : Type) [Field K] (Control : Type u) where
  volume : Control → VolumeControl K
  mute : Control → MuteControl

/-- What processing reads of a stream: its format, and the controls that are attached to it. -/
structure Stream (Control : Type u) where
  physicalFormat : AudioStreamBasicDescription
  volumeControl : Option Control := none
  muteControl : Option Control := none

namespace Stream

variable (stream : Stream Control)

def getChannelCount : UInt32 := stream.physicalFormat.mChannelsPerFrame

/-- `Stream::ConvertFramesToBytes()`. -/
def convertFramesToBytes (numFrames : UInt32) : UInt32 :=
  numFrames * stream.physicalFormat.mBytesPerFrame

/-- `Stream::AttachVolumeControl()`. -/
def attachVolumeControl (control : Option Control) : Stream Control :=
  { stream with volumeControl := control }

/-- `Stream::AttachMuteControl()`. -/
def attachMuteControl (control : Option Control) : Stream Control :=
  { stream with muteControl := control }

variable [LinearOrder K] (float : FloatArithmetic K) (controls : Controls K Control)

/-- `Stream::ApplyProcessing()`. -/
def applyProcessing (frames : List K) (frameCount channelCount : UInt32)
    : Except Fault (List K) := do
  let frames ←
    match stream.volumeControl with
    | some control =>
        (controls.volume control).applyProcessing float frames frameCount channelCount
    | none => pure frames
  match stream.muteControl with
  | some control => return (controls.mute control).applyProcessing frames frameCount channelCount
  | none => return frames

/-- Whether a mute control that is attached silences the stream. -/
def isMuted : Bool :=
  stream.muteControl.any (fun control => (controls.mute control).getIsMuted)

end Stream

end Processing

-----------------------------------------------------------------------------------------
-- What becomes of one sample
-----------------------------------------------------------------------------------------

section Samples

variable [Field K] [LinearOrder K] (float : FloatArithmetic K)

/-- A sample that is played with the gain of a volume control, if there is one, or not at all. -/
def playSample (gain : Option K) (muted : Bool) (sample : K) : K :=
  if muted then 0
  else
    match gain with
    | none => sample
    | some volume => VolumeControl.processSample float volume sample

/-- A volume control that is attached has a scalar value, and it is the gain. -/
inductive Stream.HasGain (stream : Stream Control) (controls : Controls K Control)
    : Option K → Prop
  | detached (without : stream.volumeControl = none)
    : HasGain stream controls none
  | attached {control : Control} {volume : K}
    (having : stream.volumeControl = some control)
    (value : (controls.volume control).getScalarValue float = .ok volume)
    : HasGain stream controls (some volume)

variable {float}

/-- Where the number of samples fits 32 bits, both controls process the same ones. -/
theorem counts_eq {frameCount channelCount : UInt32}
    (counted : frameCount.toNat * channelCount.toNat < 2 ^ 32)
    : (frameCount * channelCount).toNat = frameCount.toNat * channelCount.toNat
      ∧ mutedCount frameCount channelCount = frameCount.toNat * channelCount.toNat := by
  constructor
  · rw [UInt32.toNat_mul, Nat.mod_eq_of_lt counted]
  · rw [mutedCount, Nat.mul_assoc, Nat.mod_eq_of_lt (by omega)]
    omega

/-- A stream plays each sample of its frames on its own, and leaves the rest of the buffer. -/
theorem Stream.applyProcessing_eq {stream : Stream Control} {controls : Controls K Control}
    {gain : Option K} (has : stream.HasGain float controls gain)
    {frameCount channelCount : UInt32}
    (counted : frameCount.toNat * channelCount.toNat < 2 ^ 32) (frames : List K)
    : stream.applyProcessing float controls frames frameCount channelCount
      = .ok (mapFirst (frameCount.toNat * channelCount.toNat)
          (playSample float gain (stream.isMuted controls)) frames) := by
  obtain ⟨volumeCount, muteCount⟩ := counts_eq counted
  have muting (samples : List K) :
      (match stream.muteControl with
        | some control =>
            return (controls.mute control).applyProcessing samples frameCount channelCount
        | none => return samples : Except Fault (List K))
      = .ok (mapFirst (frameCount.toNat * channelCount.toNat)
          (fun sample => if stream.isMuted controls then 0 else sample) samples) := by
    rw [isMuted]
    cases stream.muteControl with
    | none => exact congrArg Except.ok (mapFirst_id _ samples).symm
    | some control =>
        cases muted : (controls.mute control).getIsMuted with
        | false =>
            simp only [MuteControl.applyProcessing, Option.any_some, muted, Bool.false_eq_true,
              if_false]
            exact congrArg Except.ok (mapFirst_id _ samples).symm
        | true => simp [MuteControl.applyProcessing, muted, muteCount, pure, Except.pure]
  cases has with
  | detached detached =>
      simp only [applyProcessing, detached, pure_bind, muting]
      congr 2
  | attached attached value =>
      simp only [applyProcessing, attached, VolumeControl.applyProcessing, value, ok_bind,
        pure_bind, muting, volumeCount]
      exact congrArg Except.ok (mapFirst_mapFirst _ _ _ frames)

variable [IsStrictOrderedRing K]

/-- A sample keeps its sign and gets no louder, and a larger one stays the larger one. A sample is
representable where rounding leaves it alone.
-/
structure Attenuates (float : FloatArithmetic K) (play : K → K) : Prop where
  monotone : Monotone play
  nonneg
    : ∀ sample,
        0 ≤ sample → float.round sample = sample → 0 ≤ play sample ∧ play sample ≤ sample
  nonpos
    : ∀ sample,
        sample ≤ 0 → float.round sample = sample → sample ≤ play sample ∧ play sample ≤ 0

/-- A gain, if there is one, is from the unit interval. -/
def InUnit (gain : Option K) : Prop := ∀ volume ∈ gain, 0 ≤ volume ∧ volume ≤ 1

theorem processSample_mono (lawful : float.Lawful) {volume : K} (nonneg : 0 ≤ volume)
    : Monotone (VolumeControl.processSample float volume) := by
  intro x y below
  have product := lawful.monotone (mul_le_mul_of_nonneg_right below nonneg)
  exact max_le_max_right _ (min_le_min_right _ product)

theorem processSample_zero (lawful : float.Lawful) (volume : K)
    : VolumeControl.processSample float volume 0 = 0 := by
  have silent : float.mul 0 volume = 0 := by rw [FloatArithmetic.mul, zero_mul, lawful.zero]
  rw [VolumeControl.processSample, silent, min_eq_left zero_le_one, max_eq_left (by linarith)]

/-- Where the gain is from the unit interval, processing attenuates. -/
theorem attenuates_playSample (lawful : float.Lawful) {gain : Option K} (unit : InUnit gain)
    (muted : Bool)
    : Attenuates float (playSample float gain muted) := by
  cases muted with
  | true =>
      exact ⟨fun _ _ _ => le_rfl, fun _ low _ => ⟨le_rfl, low⟩, fun _ high _ => ⟨high, le_rfl⟩⟩
  | false =>
      cases gain with
      | none =>
          exact ⟨monotone_id, fun _ low _ => ⟨low, le_rfl⟩, fun _ high _ => ⟨le_rfl, high⟩⟩
      | some volume =>
          obtain ⟨low, high⟩ := unit volume rfl
          have monotone := processSample_mono lawful low
          have silent := processSample_zero lawful volume
          refine ⟨monotone, ?_, ?_⟩
          · intro sample nonneg exact
            have product : float.mul sample volume ≤ sample :=
              (lawful.monotone (mul_le_of_le_one_right nonneg high)).trans_eq exact
            refine ⟨silent.symm.trans_le (monotone nonneg), ?_⟩
            exact max_le ((min_le_left _ _).trans product) (by linarith)
          · intro sample nonpos exact
            have product : sample ≤ float.mul sample volume := by
              have larger : sample ≤ sample * volume := by nlinarith
              exact exact.symm.trans_le (lawful.monotone larger)
            refine ⟨?_, (monotone nonpos).trans_eq silent⟩
            exact (le_min product (by linarith)).trans (le_max_left _ _)

/-- Samples that went through a volume control are in the interval of full scale. -/
theorem abs_playSample_le_one (volume : K) (muted : Bool) (sample : K)
    : |playSample float (some volume) muted sample| ≤ 1 := by
  cases muted with
  | true => simp [playSample]
  | false =>
      refine abs_le.mpr ⟨le_max_right _ _, ?_⟩
      exact max_le (min_le_right _ _) (by linarith)

/-- A gain of one leaves samples in the interval of full scale alone. -/
theorem playSample_one {sample : K} (exact : float.round sample = sample) (full : |sample| ≤ 1)
    : playSample float (some 1) false sample = sample := by
  obtain ⟨low, high⟩ := abs_le.mp full
  have product : float.mul sample 1 = sample := by rw [FloatArithmetic.mul, mul_one, exact]
  simp only [playSample, Bool.false_eq_true, if_false, VolumeControl.processSample, product,
    min_eq_left high, max_eq_left low]

/-- The scalar of the largest raw value is one. -/
theorem getScalarValue_maximum [FloorRing K] (lawful : float.Lawful)
    (powers : Volume.PowerLaws float) {params : Volume.VolumeControlParameters K}
    (fits : params.Fits float)
    : ((VolumeControl.new params).withRaw params.maxRawVolume).getScalarValue float = .ok 1 := by
  obtain ⟨range, rangeEq, rangeVal⟩ := fits.rawRange_eq
  have proper := fits.floatRange_ne_zero lawful
  have whole : float.round (params.floatRange float / params.floatRange float) = 1 := by
    rw [div_self proper, lawful.one]
  obtain ⟨scalar, scalarEq, -, -, top⟩ :=
    (VolumeControl.new params).volumeCurve.applyCurve_unit lawful powers
      zero_le_two one_pos zero_le_one le_rfl
  rw [VolumeControl.getScalarValue]
  change (VolumeControl.new params).volumeCurve.convertRawToScalar float params.maxRawVolume = _
  rw [Volume.VolumeCurve.convertRawToScalar, VolumeControl.clampRaw_new fits.raw.le le_rfl,
    VolumeControl.getMaximumRaw_new, VolumeControl.getMinimumRaw_new, rangeEq, ok_bind, ok_bind,
    Volume.VolumeControlParameters.Fits.ofSInt32_range rangeVal, float.div_ok _ proper, ok_bind,
    whole]
  obtain rfl := top rfl
  exact scalarEq

end Samples

end Aspl.Processing
