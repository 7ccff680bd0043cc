import Mathlib.Data.Rat.Floor
import Aspl.CoreAudio

/-! The I/O state of a device: starting and stopping I/O with the default `Impl` methods, and
the zero time stamps that `GetZeroTimeStamp()` derives from the host clock. Arithmetic on
sample and host times is exact.
-/

namespace Aspl.Device

open Aspl.CoreAudio

/-- Conversion to `SInt32`, and the wrapping of atomic increments and decrements. -/
def toSInt32 (value : Int) : Int :=
  value.bmod 4294967296

/-- Conversion of an `SInt32` to `UInt32`. -/
def toUInt32 (value : Int) : UInt32 :=
  UInt32.ofNat (value % 4294967296).toNat

/-- Conversion to `UInt64`, of values above -1. -/
def toUInt64 (value : Float64) : Nat :=
  ⌊value⌋₊

/-- `mach_timebase_info`: a tick of the host clock takes `numer / denom` nanoseconds. -/
structure TimeBase where
  numer : UInt32
  denom : UInt32
  numer_ne_zero : numer ≠ 0
  denom_ne_zero : denom ≠ 0

/-- The time base of a host clock that counts nanoseconds. -/
def TimeBase.nanoseconds : TimeBase where
  numer := 1
  denom := 1
  numer_ne_zero := by decide
  denom_ne_zero := by decide

/-- The host ticks in a second. -/
def TimeBase.hostClockFrequency (timeBase : TimeBase) : Float64 :=
  (timeBase.denom.toNat : Rat) / timeBase.numer.toNat * 1000000000

/-- What a device does to the outside when I/O starts and stops: `OnStartIO()` with the status
that the control handler returned, `OnStopIO()`, and the notification that
`kAudioDevicePropertyDeviceIsRunning` changed.
-/
inductive IOEvent where
  | onStart (status : OSStatus)
  | onStop
  | isRunningChanged
deriving DecidableEq

/-- The fields of a device that I/O reads and writes, and the events so far. -/
structure IOState where
  startCount : Int := 0
  hostTicksPerFrame : Float64 := 0
  lastSampleRate : Float64 := 0
  anchorHostTime : Nat := 0
  periodCounter : Nat := 0
  currentPeriodTimestamp : Float64 := 0
  currentPeriodHostTime : Nat := 0
  nominalSampleRate : Float64 := 44100
  zeroTimeStampPeriod : UInt32 := 44100
  events : List IOEvent := []

/-- The outputs of `GetZeroTimeStamp()`. -/
structure ZeroTimeStamp where
  outSampleTime : Float64
  outHostTime : Nat
  outSeed : Nat
deriving DecidableEq

namespace IOState

def getIsRunning (io : IOState) : Bool :=
  io.startCount > 0

/-- `Device::StartIOImpl()`, with the status that `OnStartIO()` returns if it is called, and the
host clock when it is read.
-/
def startIOImpl (io : IOState) (_clientID startCount : UInt32) (result : OSStatus)
    (machAbsoluteTime : Nat)
    : OSStatus × IOState :=
  if startCount = 0 then
    let io := { io with events := io.events ++ [.onStart result] }
    if result ≠ .kAudioHardwareNoError then (result, io)
    else (result, { io with anchorHostTime := machAbsoluteTime, periodCounter := 0 })
  else (.kAudioHardwareNoError, io)

/-- `NotifyPropertyChanged(kAudioDevicePropertyDeviceIsRunning)`, if `changed`. -/
def notifyIsRunning (io : IOState) (changed : Bool) : IOState :=
  if changed then { io with events := io.events ++ [.isRunningChanged] } else io

/-- `Device::StartIO()` of the device with the ID `self`. -/
def startIO (self : AudioObjectID) (io : IOState) (objectID : AudioObjectID)
    (clientID : UInt32) (result : OSStatus) (machAbsoluteTime : Nat)
    : OSStatus × IOState :=
  let isStarting := io.startCount == 0
  if objectID ≠ self then (.kAudioHardwareBadObjectError, io)
  else
    let (status, io) :=
      io.startIOImpl clientID (toUInt32 io.startCount) result machAbsoluteTime
    if status ≠ .kAudioHardwareNoError then (status, io)
    else
      let io := { io with startCount := toSInt32 (io.startCount + 1) }
      (status, io.notifyIsRunning isStarting)

/-- `Device::StopIOImpl()`. -/
def stopIOImpl (io : IOState) (_clientID startCount : UInt32) : OSStatus × IOState :=
  if startCount = 0 then
    (.kAudioHardwareNoError, { io with events := io.events ++ [.onStop] })
  else (.kAudioHardwareNoError, io)

/-- `Device::StopIO()` of the device with the ID `self`. -/
def stopIO (self : AudioObjectID) (io : IOState) (objectID : AudioObjectID)
    (clientID : UInt32)
    : OSStatus × IOState :=
  let isStopping := io.startCount == 1
  if objectID ≠ self then (.kAudioHardwareBadObjectError, io)
  else
    let (status, io) := io.stopIOImpl clientID (toUInt32 (io.startCount - 1))
    if status ≠ .kAudioHardwareNoError then (status, io)
    else
      let io := { io with startCount := toSInt32 (io.startCount - 1) }
      (status, io.notifyIsRunning isStopping)

/-- The first part of `Device::GetZeroTimeStampImpl()`. Division by a zero rate yields nothing
that later conversions define.
-/
def updateSampleRate (timeBase : TimeBase) (io : IOState) : Option IOState :=
  if io.nominalSampleRate ≠ io.lastSampleRate then
    if io.nominalSampleRate = 0 then none
    else some {
      io with
      hostTicksPerFrame := timeBase.hostClockFrequency / io.nominalSampleRate
      lastSampleRate := io.nominalSampleRate
    }
  else some io

/-- The host ticks in a period, from the ticks in a frame. -/
def hostTicksPerPeriod (io : IOState) : Float64 :=
  io.hostTicksPerFrame * io.zeroTimeStampPeriod.toNat

/-- The host time at which a number of periods has passed since the anchor. -/
def periodHostTime (io : IOState) (periods : Nat) : Nat :=
  io.anchorHostTime + toUInt64 (periods * io.hostTicksPerPeriod)

/-- Whether the next period has passed: the counter is to be incremented. -/
def nextPeriodPassed (io : IOState) (currentHostTime : Nat) : Prop :=
  io.periodHostTime (io.periodCounter + 1) ≤ currentHostTime

instance (io : IOState) (currentHostTime : Nat)
    : Decidable (io.nextPeriodPassed currentHostTime) := by
  unfold nextPeriodPassed
  infer_instance

/-- The period counter after a call: one more if the next period has passed, and only one. -/
def countedPeriods (io : IOState) (currentHostTime : Nat) : Nat :=
  if io.nextPeriodPassed currentHostTime then io.periodCounter + 1 else io.periodCounter

/-- The second part of `Device::GetZeroTimeStampImpl()`, which counts a period that has passed
and stores the time stamp of the period counted last.
-/
def countPeriod (io : IOState) (currentHostTime : Nat) : IOState :=
  let periodCounter := io.countedPeriods currentHostTime
  {
    io with
    periodCounter := periodCounter
    currentPeriodTimestamp := periodCounter * (io.zeroTimeStampPeriod.toNat : Rat)
    currentPeriodHostTime := io.periodHostTime periodCounter
  }

/-- The time stamp that is returned: the stored one, with the seed that never changes. -/
def zeroTimeStamp (io : IOState) : ZeroTimeStamp where
  outSampleTime := io.currentPeriodTimestamp
  outHostTime := io.currentPeriodHostTime
  outSeed := 1

/-- `Device::GetZeroTimeStampImpl()`. There is no outcome when the rate is new and zero, or when
a negative number of ticks is to be converted.
-/
def getZeroTimeStampImpl (timeBase : TimeBase) (io : IOState) (_clientID : UInt32)
    (machAbsoluteTime : Nat)
    : Option (ZeroTimeStamp × IOState) :=
  (io.updateSampleRate timeBase).bind (fun io =>
    if (io.periodCounter + 1) * io.hostTicksPerPeriod ≤ -1 then none
    else
      let io := io.countPeriod machAbsoluteTime
      some (io.zeroTimeStamp, io))

/-- `Device::GetZeroTimeStamp()` of the device with the ID `self`. -/
def getZeroTimeStamp (self : AudioObjectID) (timeBase : TimeBase) (io : IOState)
    (objectID : AudioObjectID) (clientID : UInt32) (machAbsoluteTime : Nat)
    : Option (OSStatus × Option ZeroTimeStamp × IOState) :=
  if objectID ≠ self then some (.kAudioHardwareBadObjectError, none, io)
  else
    (io.getZeroTimeStampImpl timeBase clientID machAbsoluteTime).map
      (fun (stamp, io) => (.kAudioHardwareNoError, some stamp, io))

end IOState

/-- A call of an I/O method, with what `OnStartIO()` returns and what the host clock shows when
they are asked, or a change of a property that I/O depends on.
-/
inductive IOCall where
  | start (objectID : AudioObjectID) (clientID : UInt32) (result : OSStatus)
    (machAbsoluteTime : Nat)
  | stop (objectID : AudioObjectID) (clientID : UInt32)
  | getZeroTimeStamp (objectID : AudioObjectID) (clientID : UInt32) (machAbsoluteTime : Nat)
  | setNominalSampleRate (rate : Float64)
  | setZeroTimeStampPeriod (period : UInt32)

/-- The status of a call, the time stamp that it returns, and the state after it. -/
def IOState.perform (self : AudioObjectID) (timeBase : TimeBase) (io : IOState)
    : IOCall → Option (OSStatus × Option ZeroTimeStamp × IOState)
  | .start objectID clientID result machAbsoluteTime =>
      let (status, next) := startIO self io objectID clientID result machAbsoluteTime
      some (status, none, next)
  | .stop objectID clientID =>
      let (status, next) := stopIO self io objectID clientID
      some (status, none, next)
  | .getZeroTimeStamp objectID clientID machAbsoluteTime =>
      io.getZeroTimeStamp self timeBase objectID clientID machAbsoluteTime
  | .setNominalSampleRate rate =>
      some (.kAudioHardwareNoError, none, { io with nominalSampleRate := rate })
  | .setZeroTimeStampPeriod period =>
      some (.kAudioHardwareNoError, none, { io with zeroTimeStampPeriod := period })

namespace IOState

/-- A rate update touches the rate and the ticks in a frame only. -/
theorem updateSampleRate_eq_some {timeBase : TimeBase} {io next : IOState}
    (updated : io.updateSampleRate timeBase = some next)
    : next = {
        io with
        hostTicksPerFrame := next.hostTicksPerFrame
        lastSampleRate := io.nominalSampleRate
      } := by
  rw [updateSampleRate] at updated
  split at updated
  · split at updated
    · cases updated
    · cases updated
      rfl
  · rename_i same
    cases updated
    exact congrArg (fun rate => { io with lastSampleRate := rate }) (not_not.mp same).symm

/-- What a time stamp call does: it updates the rate, then counts a period. -/
theorem getZeroTimeStampImpl_eq_some {timeBase : TimeBase} {io next : IOState}
    {clientID : UInt32} {clock : Nat} {stamp : ZeroTimeStamp}
    (called : io.getZeroTimeStampImpl timeBase clientID clock = some (stamp, next))
    : ∃ updated,
        io.updateSampleRate timeBase = some updated
        ∧ -1 < (updated.periodCounter + 1) * updated.hostTicksPerPeriod
        ∧ next = updated.countPeriod clock
        ∧ stamp = next.zeroTimeStamp := by
  obtain ⟨updated, first, second⟩ := Option.bind_eq_some_iff.mp called
  simp only at second
  split at second
  · cases second
  · rename_i defined
    cases second
    exact ⟨updated, first, not_le.mp defined, rfl, rfl⟩

end IOState

end Aspl.Device
