import Aspl.Device.Clients
import Aspl.Device.Properties
import Aspl.Device.StreamsAndControls
import Aspl.Stream.Processing

/-! `DoIOOperation()`: the handler is called with the stream and the client of the operation and
with a buffer, which the default handler has the stream process. The controls of the stream and
everything else may change between operations.
-/

namespace Aspl.Device.IOOperations

open Arithmetic CoreAudio Processing
open Handlers (IOOperation Operation Callback)
open Volume (VolumeControl VolumeControlParameters SetterCall PowerLaws)

/-- The sample times of an `AudioServerPlugInIOCycleInfo`. -/
structure AudioServerPlugInIOCycleInfo where
  mInputTime : Float64
  mOutputTime : Float64

/-- An operation with `ioMainBuffer`, seen as the operation sees it: bytes in the format of the
stream, or samples.
-/
inductive IORequest (K : Type) where
  | readInput (bytes : List UInt8)
  | processInput (frames : List K)
  | mixOutput (frames : List K)
  | processMix (frames : List K)
  | writeMix (bytes : List UInt8)
  | other

def IORequest.operationID {K : Type} : IORequest K → IOOperation
  | .readInput _ => .readInput
  | .processInput _ => .processInput
  | .mixOutput _ => .mixOutput
  | .processMix _ => .processMix
  | .writeMix _ => .writeMix
  | .other => .other

/-- A call of a method of `IORequestHandler`, with its arguments. -/
inductive HandlerCall (K Object Client : Type) where
  | onReadClientInput (client : Option Client) (stream : Object)
    (zeroTimestamp timestamp : Float64) (bytes : List UInt8) (bytesCount : UInt32)
  | onProcessClientInput (client : Option Client) (stream : Object)
    (zeroTimestamp timestamp : Float64) (frames : List K) (frameCount channelCount : UInt32)
  | onProcessClientOutput (client : Option Client) (stream : Object)
    (zeroTimestamp timestamp : Float64) (frames : List K) (frameCount channelCount : UInt32)
  | onWriteClientOutput (client : Option Client) (stream : Object)
    (zeroTimestamp timestamp : Float64) (frames : List K) (frameCount channelCount : UInt32)
  | onProcessMixedOutput (stream : Object)
    (zeroTimestamp timestamp : Float64) (frames : List K) (frameCount channelCount : UInt32)
  | onWriteMixedOutput (stream : Object)
    (zeroTimestamp timestamp : Float64) (bytes : List UInt8) (bytesCount : UInt32)

/-- Which method is called. -/
def HandlerCall.callback {K Object Client : Type}
    : HandlerCall K Object Client → Callback
  | .onReadClientInput .. => .onReadClientInput
  | .onProcessClientInput .. => .onProcessClientInput
  | .onProcessClientOutput .. => .onProcessClientOutput
  | .onWriteClientOutput .. => .onWriteClientOutput
  | .onProcessMixedOutput .. => .onProcessMixedOutput
  | .onWriteMixedOutput .. => .onWriteMixedOutput

/-- What I/O operations depend on: the streams by pointer and by ID, their controls, the clients,
and the time stamp that was returned last.
-/
structure Audio (K : Type) [Field K] (Object Client : Type) where
  members : Members Object
  clients : Clients Client
  stream : Object → Processing.Stream Object
  controls : Controls K Object
  currentPeriodTimestamp : Float64

/-- The outcome of an operation: its status, the request with the buffer that it leaves, and the
calls of the handler.
-/
structure Served (K Object Client : Type) where
  status : OSStatus
  request : IORequest K
  calls : List (HandlerCall K Object Client)

section Operations

variable {K : Type} [Field K] [LinearOrder K] {Object Client : Type}
  (float : FloatArithmetic K)

namespace Audio

variable (device : Audio K Object Client)

/-- What the default implementation of the `OnProcess` methods leaves in the buffer. -/
def onProcess (stream : Object) (frames : List K) (frameCount channelCount : UInt32)
    : Except Fault (List K) :=
  (device.stream stream).applyProcessing float device.controls frames frameCount channelCount

/-- `Device::DoIOOperationImpl()` with the default handler. -/
def doIOOperationImpl (streamID : AudioObjectID) (clientID : UInt32) (ioFrameCount : UInt32)
    (ioCycleInfo : AudioServerPlugInIOCycleInfo) (request : IORequest K)
    : Except Fault (Served K Object Client) :=
  let client := device.clients.getClientByID clientID
  match device.members.getStreamByID streamID with
  | none => .ok ⟨.kAudioHardwareIllegalOperationError, request, []⟩
  | some stream =>
      let ioBytesCount := (device.stream stream).convertFramesToBytes ioFrameCount
      let ioChannelCount := (device.stream stream).getChannelCount
      let zero := device.currentPeriodTimestamp
      match request with
      | .readInput bytes =>
          .ok ⟨.kAudioHardwareNoError, .readInput (mapFirst ioBytesCount.toNat (fun _ => 0) bytes),
            [.onReadClientInput client stream zero ioCycleInfo.mInputTime bytes ioBytesCount]⟩
      | .processInput frames => do
          let processed ← device.onProcess float stream frames ioFrameCount ioChannelCount
          return ⟨.kAudioHardwareNoError, .processInput processed,
            [.onProcessClientInput client stream zero ioCycleInfo.mInputTime frames
              ioFrameCount ioChannelCount]⟩
      | .mixOutput frames => do
          let processed ← device.onProcess float stream frames ioFrameCount ioChannelCount
          return ⟨.kAudioHardwareNoError, .mixOutput processed,
            [.onProcessClientOutput client stream zero ioCycleInfo.mOutputTime frames
              ioFrameCount ioChannelCount,
             .onWriteClientOutput client stream zero ioCycleInfo.mOutputTime processed
              ioFrameCount ioChannelCount]⟩
      | .processMix frames => do
          let processed ← device.onProcess float stream frames ioFrameCount ioChannelCount
          return ⟨.kAudioHardwareNoError, .processMix processed,
            [.onProcessMixedOutput stream zero ioCycleInfo.mOutputTime frames
              ioFrameCount ioChannelCount]⟩
      | .writeMix bytes =>
          .ok ⟨.kAudioHardwareNoError, .writeMix bytes,
            [.onWriteMixedOutput stream zero ioCycleInfo.mOutputTime bytes ioBytesCount]⟩
      | .other => .ok ⟨.kAudioHardwareNoError, .other, []⟩

/-- `Device::DoIOOperation()` of the device with the ID `self`. -/
def doIOOperation (self objectID streamID : AudioObjectID) (clientID : UInt32)
    (ioFrameCount : UInt32) (ioCycleInfo : AudioServerPlugInIOCycleInfo) (request : IORequest K)
    : Except Fault (Served K Object Client) :=
  if objectID ≠ self then .ok ⟨.kAudioHardwareBadObjectError, request, []⟩
  else device.doIOOperationImpl float streamID clientID ioFrameCount ioCycleInfo request

end Audio

-----------------------------------------------------------------------------------------
-- Runs
-----------------------------------------------------------------------------------------

/-- What happens between operations: a control or a stream is changed, or the rest of the device.
-/
inductive Change (K Object Client : Type) where
  | setVolume (control : Object) (call : SetterCall K)
  | setIsMuted (control : Object) (value : Bool)
  | attachVolumeControl (stream : Object) (control : Option Object)
  | attachMuteControl (stream : Object) (control : Option Object)
  | setPhysicalFormat (stream : Object) (format : AudioStreamBasicDescription)
  | device (members : Members Object) (clients : Clients Client)
    (currentPeriodTimestamp : Float64)

variable [FloorRing K] [DecidableEq Object]

/-- The device after a change, unless a setter of a volume control fails. -/
def Audio.advance (device : Audio K Object Client)
    : Change K Object Client → Option (Audio K Object Client)
  | .setVolume control call =>
      match (device.controls.volume control).perform float call with
      | .ok outcome =>
          some {
            device with
            controls.volume := Function.update device.controls.volume control outcome.control
          }
      | .error _ => none
  | .setIsMuted control value =>
      let changed := ((device.controls.mute control).setIsMuted value).2.1
      some {
        device with
        controls.mute := Function.update device.controls.mute control changed
      }
  | .attachVolumeControl stream control =>
      let changed := (device.stream stream).attachVolumeControl control
      some { device with stream := Function.update device.stream stream changed }
  | .attachMuteControl stream control =>
      let changed := (device.stream stream).attachMuteControl control
      some { device with stream := Function.update device.stream stream changed }
  | .setPhysicalFormat stream format =>
      let changed := { device.stream stream with physicalFormat := format }
      some { device with stream := Function.update device.stream stream changed }
  | .device members clients currentPeriodTimestamp =>
      some { device with members, clients, currentPeriodTimestamp }

/-- The runs of a device whose volume controls are new. -/
def system (params : Object → VolumeControlParameters K)
    : System (Audio K Object Client) (Change K Object Client) :=
  .ofFunction (fun device => ∀ control, device.controls.volume control = .new (params control))
    (Audio.advance float)

-----------------------------------------------------------------------------------------
-- What becomes of a request
-----------------------------------------------------------------------------------------

/-- The stream that a method is called with. -/
def HandlerCall.stream : HandlerCall K Object Client → Object
  | .onReadClientInput _ stream .. | .onProcessClientInput _ stream ..
  | .onProcessClientOutput _ stream .. | .onWriteClientOutput _ stream ..
  | .onProcessMixedOutput stream .. | .onWriteMixedOutput stream .. => stream

/-- The client that a method is called with, unless it is a method for mixed samples. -/
def HandlerCall.client : HandlerCall K Object Client → Option (Option Client)
  | .onReadClientInput client .. | .onProcessClientInput client ..
  | .onProcessClientOutput client .. | .onWriteClientOutput client .. => some client
  | .onProcessMixedOutput .. | .onWriteMixedOutput .. => none

/-- The samples that the handler is to write to the device. -/
def HandlerCall.written : HandlerCall K Object Client → Option (List K)
  | .onWriteClientOutput _ _ _ _ frames _ _ => some frames
  | _ => none

/-- The bytes that the handler is to write to the device, and how many. -/
def HandlerCall.writtenBytes : HandlerCall K Object Client → Option (List UInt8 × UInt32)
  | .onWriteMixedOutput _ _ _ bytes bytesCount => some (bytes, bytesCount)
  | _ => none

/-- The samples that are to be written when an operation leaves its buffer so. -/
def IORequest.written : IORequest K → List (List K)
  | .mixOutput frames => [frames]
  | _ => []

/-- The bytes that are to be written when an operation leaves its buffer so. -/
def IORequest.writtenBytes (bytesCount : UInt32) : IORequest K → List (List UInt8 × UInt32)
  | .writeMix bytes => [(bytes, bytesCount)]
  | _ => []

/-- The request with the first bytes of its buffer zero, or with its first samples played. -/
def IORequest.played (play : K → K) (bytesCount sampleCount : Nat) : IORequest K → IORequest K
  | .readInput bytes => .readInput (mapFirst bytesCount (fun _ => 0) bytes)
  | .processInput frames => .processInput (mapFirst sampleCount play frames)
  | .mixOutput frames => .mixOutput (mapFirst sampleCount play frames)
  | .processMix frames => .processMix (mapFirst sampleCount play frames)
  | .writeMix bytes => .writeMix bytes
  | .other => .other

/-- The calls are those of the operation, with the stream and the client of the request, and what
the buffer is left with is written once, in samples or in bytes.
-/
structure CallsOf (device : Audio K Object Client) (stream : Object)
    (clientID ioFrameCount : UInt32) (request left : IORequest K)
    (calls : List (HandlerCall K Object Client))
    : Prop where
  callbacks
    : calls.map HandlerCall.callback = (Operation.doIOOperation request.operationID).callbacks
  streams : ∀ call ∈ calls, call.stream = stream
  clients
    : ∀ call ∈ calls, ∀ client ∈ call.client,
        client = device.clients.getClientByID clientID
  written : calls.filterMap HandlerCall.written = left.written
  writtenBytes
    : calls.filterMap HandlerCall.writtenBytes
      = left.writtenBytes ((device.stream stream).convertFramesToBytes ioFrameCount)

variable {float : FloatArithmetic K} {device next : Audio K Object Client}

omit [FloorRing K] [DecidableEq Object] in
/-- A stream plays the samples of a request, whose number fits 32 bits. -/
theorem Audio.doIOOperation_eq [FloorRing K] (self : AudioObjectID) {streamID : AudioObjectID}
    {stream : Object} (found : device.members.getStreamByID streamID = some stream)
    {gain : Option K} (has : (device.stream stream).HasGain float device.controls gain)
    {ioFrameCount : UInt32}
    (counted : ioFrameCount.toNat * (device.stream stream).getChannelCount.toNat < 2 ^ 32)
    (clientID : UInt32) (ioCycleInfo : AudioServerPlugInIOCycleInfo) (request : IORequest K)
    : ∃ calls,
        let left := request.played
          (playSample float gain ((device.stream stream).isMuted device.controls))
          ((device.stream stream).convertFramesToBytes ioFrameCount).toNat
          (ioFrameCount.toNat * (device.stream stream).getChannelCount.toNat)
        device.doIOOperation float self self streamID clientID ioFrameCount ioCycleInfo request
          = .ok ⟨.kAudioHardwareNoError, left, calls⟩
        ∧ CallsOf device stream clientID ioFrameCount request left calls := by
  have processed := Stream.applyProcessing_eq has counted
  have started
      : device.doIOOperation float self self streamID clientID ioFrameCount ioCycleInfo request
        = device.doIOOperationImpl float streamID clientID ioFrameCount ioCycleInfo request :=
    if_neg (by simp)
  rw [started]
  cases request with
  | readInput | writeMix | other =>
      refine ⟨_, by simp only [doIOOperationImpl, found, IORequest.played]; rfl, ?_⟩
      exact ⟨rfl, by simp [HandlerCall.stream], by simp [HandlerCall.client], rfl, rfl⟩
  | processInput | mixOutput | processMix =>
      refine ⟨_, by simp only [doIOOperationImpl, found, onProcess, processed, ok_bind,
        IORequest.played]; rfl, ?_⟩
      exact ⟨rfl, by simp [HandlerCall.stream], by simp [HandlerCall.client], rfl, rfl⟩

omit [FloorRing K] [DecidableEq Object] in
/-- A request for another device, or for a stream that the device does not have, fails before the
handler is called.
-/
theorem Audio.doIOOperation_fails {self objectID streamID : AudioObjectID}
    (stranger : objectID ≠ self ∨ device.members.getStreamByID streamID = none)
    (clientID ioFrameCount : UInt32) (ioCycleInfo : AudioServerPlugInIOCycleInfo)
    (request : IORequest K)
    : ∃ status,
        device.doIOOperation float self objectID streamID clientID ioFrameCount ioCycleInfo request
          = .ok ⟨status, request, []⟩
        ∧ status ≠ .kAudioHardwareNoError := by
  by_cases own : objectID = self
  · subst own
    have unknown := stranger.resolve_left (fun other => other rfl)
    refine ⟨.kAudioHardwareIllegalOperationError, ?_, by decide⟩
    simp only [doIOOperation, ne_eq, not_true_eq_false, if_false, doIOOperationImpl, unknown]
  · exact ⟨.kAudioHardwareBadObjectError, if_pos own, by decide⟩

-----------------------------------------------------------------------------------------
-- The invariant
-----------------------------------------------------------------------------------------

variable {params : Object → VolumeControlParameters K}

/-- Every volume control is a new one with some volume. -/
def Adjusted (params : Object → VolumeControlParameters K) (device : Audio K Object Client)
    : Prop :=
  ∀ control, ∃ value,
    device.controls.volume control = (VolumeControl.new (params control)).withRaw value

omit [LinearOrder K] [FloorRing K] in
/-- A setter of a control changes its volume only. -/
theorem exists_withRaw (control : VolumeControl K) (value : SInt32)
    : ∃ raw, (control.setRawValue value).control = control.withRaw raw := by
  rw [VolumeControl.setRawValue]
  split
  · exact ⟨control.rawVolume, rfl⟩
  · exact ⟨_, rfl⟩

/-- Every change keeps the parameters of all volume controls. -/
theorem adjusted_invariant (params : Object → VolumeControlParameters K)
    : (system float params : System (Audio K Object Client) _).Invariant (Adjusted params) where
  initial device new control := ⟨_, (new control).trans rfl⟩
  step device change next before taken := by
    change device.advance float change = some next at taken
    cases change with
    | setVolume control call =>
        simp only [Audio.advance] at taken
        split at taken
        · rename_i outcome performed
          obtain ⟨value, rfl⟩ := VolumeControl.exists_setRawValue performed
          obtain rfl := Option.some.inj taken
          intro other
          by_cases same : other = control
          · subst same
            obtain ⟨current, adjusted⟩ := before other
            obtain ⟨raw, set⟩ := exists_withRaw (device.controls.volume other) value
            refine ⟨raw, ?_⟩
            rw [adjusted] at set
            simp only [Function.update_self, adjusted]
            exact set
          · simpa only [Function.update_of_ne same] using before other
        · cases taken
    | setIsMuted | attachVolumeControl | attachMuteControl | setPhysicalFormat | device =>
        obtain rfl := Option.some.inj taken
        exact before

variable [IsStrictOrderedRing K]

omit [DecidableEq Object] in
/-- With parameters that fit, every stream has a gain, from the unit interval. -/
theorem Adjusted.exists_gain (adjusted : Adjusted params device) (lawful : float.Lawful)
    (powers : PowerLaws float) (fits : ∀ control, (params control).Fits float) (stream : Object)
    : ∃ gain, (device.stream stream).HasGain float device.controls gain ∧ InUnit gain := by
  cases attached : (device.stream stream).volumeControl with
  | none => exact ⟨none, .detached attached, by simp [InUnit]⟩
  | some control =>
      obtain ⟨value, current⟩ := adjusted control
      obtain ⟨volume, scalar, unit⟩ :=
        VolumeControl.convertRawToScalar_total lawful powers (fits control) value
      refine ⟨some volume, .attached attached (current ▸ scalar), ?_⟩
      rintro _ ⟨⟩
      exact unit

/-- What becomes of the samples of a stream: they get no louder, they are multiplied by the scalar
value of a volume control that is attached and stay in the interval of full scale, nothing is left
of them where the stream is muted, and all of them where the control is at its maximum, or where
there are no controls.
-/
structure Plays (float : FloatArithmetic K) (params : Object → VolumeControlParameters K)
    (device : Audio K Object Client) (stream : Object) (play : K → K)
    : Prop where
  attenuates : Attenuates float play
  follows
    : ∀ control ∈ (device.stream stream).volumeControl,
        ¬(device.stream stream).isMuted device.controls
        → ∃ volume,
            (device.controls.volume control).getScalarValue float = .ok volume
            ∧ 0 ≤ volume
            ∧ volume ≤ 1
            ∧ ∀ sample, play sample = max (min (float.mul sample volume) 1) (-1)
  clipped : (device.stream stream).volumeControl.isSome → ∀ sample, |play sample| ≤ 1
  muted : (device.stream stream).isMuted device.controls → ∀ sample, play sample = 0
  loudest
    : ∀ control ∈ (device.stream stream).volumeControl,
        (device.controls.volume control).getRawValue = (params control).maxRawVolume
        → ¬(device.stream stream).isMuted device.controls
        → ∀ sample, float.round sample = sample → |sample| ≤ 1 → play sample = sample
  plain
    : (device.stream stream).volumeControl = none
      → (device.stream stream).muteControl = none
      → ∀ sample, play sample = sample

omit [DecidableEq Object] in
/-- With any gain from the unit interval a stream plays as it should. -/
theorem Adjusted.plays (adjusted : Adjusted params device) (lawful : float.Lawful)
    (powers : PowerLaws float) (fits : ∀ control, (params control).Fits float) {stream : Object}
    {gain : Option K} (has : (device.stream stream).HasGain float device.controls gain)
    (unit : InUnit gain)
    : Plays float params device stream
        (playSample float gain ((device.stream stream).isMuted device.controls)) where
  attenuates := attenuates_playSample lawful unit _
  follows control attached audible := by
    cases has with
    | detached without => cases attached.symm.trans without
    | attached having value =>
        obtain rfl := Option.some.inj (attached.symm.trans having)
        rw [Bool.not_eq_true] at audible
        rw [audible]
        exact ⟨_, value, (unit _ rfl).1, (unit _ rfl).2, fun _ => rfl⟩
  clipped attached sample := by
    cases has with
    | detached without => simp [without] at attached
    | attached having value => exact abs_playSample_le_one _ _ sample
  muted silent sample := by simp [playSample, silent]
  loudest control attached maximum audible sample exact full := by
    cases has with
    | detached without => cases attached.symm.trans without
    | attached having value =>
        obtain rfl := Option.some.inj (attached.symm.trans having)
        obtain ⟨raw, current⟩ := adjusted control
        rw [current] at maximum value
        obtain rfl : raw = (params control).maxRawVolume := maximum
        rw [getScalarValue_maximum lawful powers (fits control)] at value
        obtain rfl := Except.ok.inj value
        rw [Bool.not_eq_true] at audible
        rw [audible]
        exact playSample_one exact full
  plain noVolume noMute sample := by
    cases has with
    | detached => simp [playSample, Stream.isMuted, noMute]
    | attached having => cases noVolume.symm.trans having

/-- After any changes of a device whose volume controls have parameters that fit, a request is
served like this: for another device or an unknown stream it fails before the handler is called;
else the samples of its frames, and only they, are played by the stream, and exactly the samples
or bytes that the buffer is left with are given to the handler to write.
-/
theorem requests_served (self : AudioObjectID) (lawful : float.Lawful) (powers : PowerLaws float)
    (fits : ∀ control, (params control).Fits float)
    (reached : (system float params).Reachable device)
    : (∀ objectID streamID,
        objectID ≠ self ∨ device.members.getStreamByID streamID = none
        → ∀ clientID ioFrameCount ioCycleInfo request,
            ∃ status,
              device.doIOOperation float self objectID streamID clientID ioFrameCount ioCycleInfo
                  request
                = .ok ⟨status, request, []⟩
              ∧ status ≠ .kAudioHardwareNoError)
      ∧ ∀ streamID stream,
          device.members.getStreamByID streamID = some stream
          → ∃ play,
              Plays float params device stream play
              ∧ ∀ clientID ioFrameCount ioCycleInfo request,
                  ioFrameCount.toNat * (device.stream stream).getChannelCount.toNat < 2 ^ 32
                  → ∃ calls,
                      let left := request.played play
                        ((device.stream stream).convertFramesToBytes ioFrameCount).toNat
                        (ioFrameCount.toNat * (device.stream stream).getChannelCount.toNat)
                      device.doIOOperation float self self streamID clientID ioFrameCount
                          ioCycleInfo request
                        = .ok ⟨.kAudioHardwareNoError, left, calls⟩
                      ∧ CallsOf device stream clientID ioFrameCount request left calls := by
  have adjusted := (adjusted_invariant params).reachable reached
  constructor
  · intro objectID streamID stranger clientID ioFrameCount ioCycleInfo request
    exact Audio.doIOOperation_fails stranger clientID ioFrameCount ioCycleInfo request
  · intro streamID stream found
    obtain ⟨gain, has, unit⟩ := adjusted.exists_gain lawful powers fits stream
    refine ⟨_, adjusted.plays lawful powers fits has unit, ?_⟩
    intro clientID ioFrameCount ioCycleInfo request counted
    exact Audio.doIOOperation_eq self found has counted clientID ioCycleInfo request

end Operations

/-- A device with one stereo stream and controls for it. -/
noncomputable def stereo (params : VolumeControlParameters ℝ) : Audio ℝ Nat Nat where
  members := { streams := { byID := OrderedMap.empty.insert 5 0 } }
  clients := {}
  stream _ := { physicalFormat := defaultFormat, volumeControl := some 1, muteControl := some 2 }
  controls := { volume := fun _ => .new params, mute := fun _ => {} }
  currentPeriodTimestamp := 0

theorem stereo_fits : ({} : VolumeControlParameters ℝ).Fits (.exact Real.rpow) :=
  Volume.VolumeControlParameters.fits_exact_iff.mpr ⟨by decide, by norm_num, by decide⟩

theorem stereo_reachable
    : (system (.exact Real.rpow) (fun _ : Nat => {})).Reachable (stereo {}) :=
  .initial (fun _ => rfl)

/-- One frame of the stereo stream is played. -/
theorem requests_served_stereo
    : ∃ play,
        Plays (.exact Real.rpow) (fun _ => {}) (stereo {}) 0 play
        ∧ ∃ calls,
            (stereo {}).doIOOperation (.exact Real.rpow) 2 2 5 0 1 ⟨0, 0⟩
                (.mixOutput [1 / 2, 1 / 4])
              = .ok ⟨.kAudioHardwareNoError, .mixOutput [play (1 / 2), play (1 / 4)], calls⟩ := by
  have found : (stereo {}).members.getStreamByID 5 = some 0 := rfl
  obtain ⟨play, plays, serve⟩ :=
    (requests_served 2 (FloatArithmetic.lawful_exact _) Volume.powerLaws_rpow
      (fun _ => stereo_fits) stereo_reachable).2 5 0 found
  obtain ⟨calls, done, -⟩ :=
    serve 0 1 ⟨0, 0⟩ (.mixOutput [1 / 2, 1 / 4]) (show 1 * 2 < 2 ^ 32 by decide)
  exact ⟨play, plays, calls, done⟩

-----------------------------------------------------------------------------------------
-- Mixing
-----------------------------------------------------------------------------------------

section Mixing

variable {K : Type} [Field K] [LinearOrder K] [FloorRing K] [IsStrictOrderedRing K]
  {Object Client : Type} [DecidableEq Object] {params : Object → VolumeControlParameters K}
  {device : Audio K Object Client}

omit [FloorRing K] in
/-- Without rounding, samples in the interval of full scale are all multiplied by one factor. -/
theorem exists_factor (powf : K → K → K) {gain : Option K} (unit : InUnit gain) (muted : Bool)
    : ∃ factor, ∀ sample,
        |sample| ≤ 1 → playSample (.exact powf) gain muted sample = factor * sample := by
  cases muted with
  | true => exact ⟨0, fun sample _ => (zero_mul sample).symm⟩
  | false =>
      cases gain with
      | none => exact ⟨1, fun sample _ => (one_mul sample).symm⟩
      | some volume =>
          obtain ⟨low, high⟩ := unit volume rfl
          refine ⟨volume, fun sample full => ?_⟩
          have product : |sample * volume| ≤ 1 := by
            rw [abs_mul, abs_of_nonneg low]
            exact mul_le_one₀ full low high
          obtain ⟨below, above⟩ := abs_le.mp product
          change max (min (sample * volume) 1) (-1) = volume * sample
          rw [min_eq_left above, max_eq_left below, mul_comm]

/-- Without rounding it makes no difference whether each client's samples are processed and then
added up, or added up and then processed, if the samples of each client and their sums are in the
interval of full scale.
-/
theorem mixing_modes_agree (self : AudioObjectID) {powf : K → K → K}
    (powers : PowerLaws (.exact powf)) (fits : ∀ control, (params control).Fits (.exact powf))
    (reached : (system (.exact powf) params).Reachable device) {streamID : AudioObjectID}
    {stream : Object} (found : device.members.getStreamByID streamID = some stream)
    {ioFrameCount : UInt32} {count : Nat}
    (counted : ioFrameCount.toNat * (device.stream stream).getChannelCount.toNat = count)
    (bounded : count < 2 ^ 32) (ioCycleInfo : AudioServerPlugInIOCycleInfo)
    (outputs : List (UInt32 × (Fin count → K)))
    (each : ∀ output ∈ outputs, ∀ i, |output.2 i| ≤ 1)
    (total : ∀ i, |(outputs.map Prod.snd).sum i| ≤ 1)
    : ∃ written : UInt32 × (Fin count → K) → Fin count → K,
        (∀ output ∈ outputs,
          ∃ calls,
            device.doIOOperation (.exact powf) self self streamID output.1 ioFrameCount
                ioCycleInfo (.mixOutput (.ofFn output.2))
              = .ok ⟨.kAudioHardwareNoError, .mixOutput (.ofFn (written output)), calls⟩
            ∧ calls.filterMap HandlerCall.written = [.ofFn (written output)])
        ∧ ∀ clientID,
            ∃ calls,
              device.doIOOperation (.exact powf) self self streamID clientID ioFrameCount
                  ioCycleInfo (.processMix (.ofFn (outputs.map Prod.snd).sum))
                = .ok ⟨.kAudioHardwareNoError, .processMix (.ofFn (outputs.map written).sum),
                    calls⟩ := by
  have lawful := FloatArithmetic.lawful_exact powf
  have adjusted := (adjusted_invariant params).reachable reached
  obtain ⟨gain, has, unit⟩ := adjusted.exists_gain lawful powers fits stream
  subst counted
  have serve := Audio.doIOOperation_eq self found has bounded
  set muted := (device.stream stream).isMuted device.controls
  obtain ⟨factor, linear⟩ := exists_factor powf unit muted
  refine ⟨fun output i => playSample (.exact powf) gain muted (output.2 i), ?_, ?_⟩
  · intro output _
    obtain ⟨calls, done, same⟩ := serve output.1 ioCycleInfo (.mixOutput (.ofFn output.2))
    simp only [IORequest.played, mapFirst_ofFn] at done same
    exact ⟨calls, done, same.written⟩
  · intro clientID
    obtain ⟨calls, done, -⟩ :=
      serve clientID ioCycleInfo (.processMix (.ofFn (outputs.map Prod.snd).sum))
    have sums
        : (fun i => playSample (.exact powf) gain muted ((outputs.map Prod.snd).sum i))
          = (outputs.map
              (fun output i => playSample (.exact powf) gain muted (output.2 i))).sum := by
      funext i
      rw [linear _ (total i)]
      clear done total
      induction outputs with
      | nil => simp
      | cons output rest ih =>
          have first := linear _ (each output List.mem_cons_self i)
          have others := ih (fun other member => each other (List.mem_cons_of_mem _ member))
          simp only [List.map_cons, List.sum_cons, Pi.add_apply, mul_add, first, others]
    rw [← sums]
    simp only [IORequest.played, mapFirst_ofFn] at done
    exact ⟨calls, done⟩

end Mixing

/-- One frame from each of two clients. -/
def twoOutputs (first second : ℝ) : List (UInt32 × (Fin 2 → ℝ)) :=
  [(1, fun _ => first), (2, fun _ => second)]

/-- The sum of two clients' frames is played like each of them. -/
theorem mixing_modes_agree_stereo
    : ∃ written : UInt32 × (Fin 2 → ℝ) → Fin 2 → ℝ, ∃ calls,
        (stereo {}).doIOOperation (.exact Real.rpow) 2 2 5 0 1 ⟨0, 0⟩
            (.processMix (.ofFn ((twoOutputs (1 / 2) (1 / 4)).map Prod.snd).sum))
          = .ok ⟨.kAudioHardwareNoError,
              .processMix (.ofFn ((twoOutputs (1 / 2) (1 / 4)).map written).sum), calls⟩ := by
  have found : (stereo {}).members.getStreamByID 5 = some 0 := rfl
  have counted : (1 : UInt32).toNat * ((stereo {}).stream 0).getChannelCount.toNat = 2 := rfl
  have each : ∀ output ∈ twoOutputs (1 / 2) (1 / 4), ∀ i, |output.2 i| ≤ 1 := by
    simp [twoOutputs]
    norm_num [abs_of_pos]
  have total : ∀ i, |((twoOutputs (1 / 2) (1 / 4)).map Prod.snd).sum i| ≤ 1 := by
    simp [twoOutputs]
    norm_num [abs_of_pos]
  obtain ⟨written, -, mixed⟩ :=
    mixing_modes_agree 2 Volume.powerLaws_rpow (fun _ => stereo_fits) stereo_reachable found
      counted (by decide) ⟨0, 0⟩ _ each total
  exact ⟨written, mixed 0⟩

end Aspl.Device.IOOperations
