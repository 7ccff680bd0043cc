import Aspl.Base.Mirror
import Aspl.Stream.Processing

/-! The generated synchronous setters of `Device`, `Stream` and `MuteControl`, and `SetRawValue()`
of `VolumeControl`: each one compares, sets and notifies. HAL reads the values without any lock,
and again when it is notified.
-/

namespace Aspl.Object

open CoreAudio
open Processing (MuteControl)
open Volume (VolumeControl Notification kAudioObjectPropertyElementMain)

universe u v w x

/-- What the accessor generator is told about a property with a synchronous setter: the getter,
the `Impl` setter, the `operator==` of its type and what is sent after it was set.
-/
structure SyncProperty (State : Type u) (Value : Type v) where
  get : State → Value
  setImpl : Value → State → OSStatus × State
  same : Value → Value → Bool
  notification : State → Notification

/-- The state of an object, and the notifications that it sent. Its host is set. -/
structure Notified (State : Type u) where
  state : State
  sent : List Notification := []

/-- `Set<Prop>()` between locking and unlocking `writeMutex_`. -/
def SyncProperty.setCode {State : Type u} {Value : Type v} (property : SyncProperty State Value)
    (value : Value)
    : Code (Notified State) OSStatus :=
  .read (fun object => property.get object.state) fun current =>
  if property.same value current then .done .kAudioHardwareNoError
  else
    .access (fun object => { object with state := (property.setImpl value object.state).2 })
      fun object =>
    let status := (property.setImpl value object.state).1
    if status ≠ .kAudioHardwareNoError then .done status
    else
      .write
        (fun object =>
          { object with sent := object.sent ++ [property.notification object.state] })
        (.done status)

/-- A class of objects with such properties, and what HAL reads under a selector. A setter that
changes what HAL reads succeeds, and its notification names the selector.
-/
structure SyncClass (State : Type u) (Index : Type v) (Value : Index → Type w) (Seen : Type x) where
  property : (index : Index) → SyncProperty State (Value index)
  view : State → UInt32 → Seen
  covered
    : ∀ index value state selector,
        view ((property index).setImpl value state).2 selector ≠ view state selector
        → ((property index).setImpl value state).1 = .kAudioHardwareNoError
          ∧ selector
            ∈ ((property index).notification ((property index).setImpl value state).2).selectors

namespace SyncClass

variable {State : Type u} {Index : Type v} {Value : Index → Type w} {Seen : Type x}
  (cls : SyncClass State Index Value Seen)

/-- The setters of a class, one for each property. -/
def code (call : Σ index, Value index) : Code (Notified State) OSStatus :=
  (cls.property call.1).setCode call.2

/-- What HAL reads of an object, and which selectors it was notified of. -/
def source : Source (Notified State) UInt32 Seen where
  view object := cls.view object.state
  sent object := object.sent.flatMap Notification.selectors

/-- A setter notifies HAL of what it changes. -/
theorem announces_code (call : Σ index, Value index) (object : Notified State)
    : (cls.code call).Announces cls.source object := by
  obtain ⟨index, value⟩ := call
  rw [code, SyncProperty.setCode, Code.announces_read]
  split
  · trivial
  · have covered := cls.covered index value object.state
    let changed := ((cls.property index).setImpl value object.state).2
    by_cases status
        : ((cls.property index).setImpl value object.state).1 = .kAudioHardwareNoError
    · refine ⟨List.prefix_refl _, ?_, ?_⟩
      · intro selector differs
        obtain ⟨-, member⟩ := covered selector differs
        refine List.mem_append_right _ ?_
        simp only [status, ne_eq, not_true_eq_false, if_false]
        refine List.mem_append_left _ ?_
        simpa [source] using member
      · simp only [status, ne_eq, not_true_eq_false, if_false]
        refine Code.announces_write_of_sends
          ((cls.property index).notification changed).selectors ?_ rfl trivial
        simp [source, changed]
    · refine ⟨List.prefix_refl _, ?_, ?_⟩
      · intro selector differs
        exact absurd (covered selector differs).1 status
      · simp only [status, ne_eq, not_false_eq_true, if_true]
        trivial

/-- A setter returns. -/
theorem isSome_run (call : Σ index, Value index) (object : Notified State)
    : ((cls.code call).run object).isSome := by
  obtain ⟨index, value⟩ := call
  rw [code, SyncProperty.setCode, Code.run_read]
  split
  · rfl
  · rw [Code.run]
    dsimp only
    split <;> rfl

end SyncClass

-----------------------------------------------------------------------------------------
-- Device
-----------------------------------------------------------------------------------------

/-- `'iden'`. -/
def kAudioObjectPropertyIdentify : UInt32 := 0x6964656E

/-- `'livn'`. -/
def kAudioDevicePropertyDeviceIsAlive : UInt32 := 0x6C69766E

/-- `'hidn'`. -/
def kAudioDevicePropertyIsHidden : UInt32 := 0x6869646E

/-- `'dflt'`. -/
def kAudioDevicePropertyDeviceCanBeDefaultDevice : UInt32 := 0x64666C74

/-- `'sflt'`. -/
def kAudioDevicePropertyDeviceCanBeDefaultSystemDevice : UInt32 := 0x73666C74

/-- `'sact'`. -/
def kAudioStreamPropertyIsActive : UInt32 := 0x73616374

/-- `NotifyPropertyChanged()` with the default scope and element. -/
def notifyPropertyChanged (selector : UInt32) : Notification where
  selectors := [selector]
  scope := kAudioObjectPropertyScopeGlobal
  element := kAudioObjectPropertyElementMain

/-- A boolean property whose `Impl` setter stores the value. -/
def flagProperty {State : Type u} (selector : UInt32) (get : State → Bool)
    (set : Bool → State → State)
    : SyncProperty State Bool where
  get := get
  setImpl value state := (.kAudioHardwareNoError, set value state)
  same := (· == ·)
  notification _ := notifyPropertyChanged selector

/-- The fields of a device that its synchronous setters set. -/
structure DeviceFlags where
  isAlive : Bool := true
  isHidden : Bool := false
  canBeDefaultDevice : Bool
  canBeDefaultSystemDevice : Bool

inductive DeviceFlag where
  | isIdentifying
  | isAlive
  | isHidden
  | canBeDefaultDevice
  | canBeDefaultSystemDevice

namespace DeviceFlags

/-- `GetIsIdentifying()` and `SetIsIdentifyingImpl()`, which is not supported by default. -/
def isIdentifyingProperty : SyncProperty DeviceFlags Bool where
  get _ := false
  setImpl _ flags := (.kAudioHardwareUnsupportedOperationError, flags)
  same := (· == ·)
  notification _ := notifyPropertyChanged kAudioObjectPropertyIdentify

def isAliveProperty : SyncProperty DeviceFlags Bool :=
  flagProperty kAudioDevicePropertyDeviceIsAlive isAlive
    (fun value flags => { flags with isAlive := value })

def isHiddenProperty : SyncProperty DeviceFlags Bool :=
  flagProperty kAudioDevicePropertyIsHidden isHidden
    (fun value flags => { flags with isHidden := value })

def canBeDefaultDeviceProperty : SyncProperty DeviceFlags Bool :=
  flagProperty kAudioDevicePropertyDeviceCanBeDefaultDevice canBeDefaultDevice
    (fun value flags => { flags with canBeDefaultDevice := value })

def canBeDefaultSystemDeviceProperty : SyncProperty DeviceFlags Bool :=
  flagProperty kAudioDevicePropertyDeviceCanBeDefaultSystemDevice canBeDefaultSystemDevice
    (fun value flags => { flags with canBeDefaultSystemDevice := value })

def property : DeviceFlag → SyncProperty DeviceFlags Bool
  | .isIdentifying => isIdentifyingProperty
  | .isAlive => isAliveProperty
  | .isHidden => isHiddenProperty
  | .canBeDefaultDevice => canBeDefaultDeviceProperty
  | .canBeDefaultSystemDevice => canBeDefaultSystemDeviceProperty

/-- The values of these properties, and nothing of the others. -/
def view (flags : DeviceFlags) (selector : UInt32) : Option Bool :=
  if selector = kAudioObjectPropertyIdentify then some (isIdentifyingProperty.get flags)
  else if selector = kAudioDevicePropertyDeviceIsAlive then some flags.isAlive
  else if selector = kAudioDevicePropertyIsHidden then some flags.isHidden
  else if selector = kAudioDevicePropertyDeviceCanBeDefaultDevice then
    some flags.canBeDefaultDevice
  else if selector = kAudioDevicePropertyDeviceCanBeDefaultSystemDevice then
    some flags.canBeDefaultSystemDevice
  else none

/-- `Device`. -/
def deviceClass : SyncClass DeviceFlags DeviceFlag (fun _ => Bool) (Option Bool) where
  property := property
  view := view
  covered index value flags selector changed := by
    cases index with
    | isIdentifying => exact absurd rfl changed
    | isAlive | isHidden | canBeDefaultDevice | canBeDefaultSystemDevice =>
        refine ⟨rfl, List.mem_singleton.mpr ?_⟩
        by_contra other
        exact changed (by simp [view, property, isAliveProperty, isHiddenProperty,
          canBeDefaultDeviceProperty, canBeDefaultSystemDeviceProperty, flagProperty,
          isIdentifyingProperty, other])

/-- HAL has read nothing of a device, and nobody has set anything. -/
def unread : Mirrored Bool (Notified DeviceFlags) (Σ _ : DeviceFlag, Bool) OSStatus UInt32
    (Option Bool)
    where
  guarded := {
    phase := fun _ => .outside
    mutex := none
    data := { state := { canBeDefaultDevice := true, canBeDefaultSystemDevice := true } }
    finished := []
  }
  seen _ := none
  delivered := 0

end DeviceFlags

-----------------------------------------------------------------------------------------
-- Stream, MuteControl and VolumeControl
-----------------------------------------------------------------------------------------

/-- `Stream`, of which only `isActive_` is set synchronously. -/
def streamClass : SyncClass Bool Unit (fun _ => Bool) (Option Bool) where
  property _ := flagProperty kAudioStreamPropertyIsActive id (fun value _ => value)
  view isActive selector := if selector = kAudioStreamPropertyIsActive then some isActive else none
  covered _ value isActive selector changed := by
    refine ⟨rfl, List.mem_singleton.mpr ?_⟩
    by_contra other
    exact changed (by simp only [if_neg other])

/-- `MuteControl`, whose notification is for its own scope. -/
def muteControlClass : SyncClass MuteControl Unit (fun _ => Bool) (Option Bool) where
  property _ := {
    get := MuteControl.getIsMuted
    setImpl := fun value control => control.setIsMutedImpl value
    same := (· == ·)
    notification := fun control => {
      selectors := [Processing.kAudioBooleanControlPropertyValue]
      scope := control.scope
      element := kAudioObjectPropertyElementMain
    }
  }
  view control selector :=
    if selector = Processing.kAudioBooleanControlPropertyValue then some control.getIsMuted
    else none
  covered _ value control selector changed := by
    refine ⟨rfl, List.mem_singleton.mpr ?_⟩
    by_contra other
    exact changed (by simp only [if_neg other])

section Volume

open Arithmetic Volume

variable {K : Type} [Field K] [LinearOrder K] (float : FloatArithmetic K)

/-- `VolumeControl`, whose raw value HAL reads as a scalar and as decibels. -/
def volumeControlClass
    : SyncClass (VolumeControl K) Unit (fun _ => SInt32) (Option (Except Fault K)) where
  property _ := {
    get := VolumeControl.getRawValue
    setImpl := fun value control => control.setRawValueImpl value
    same := fun value current => decide (value = current)
    notification := fun control => {
      selectors := [kAudioLevelControlPropertyScalarValue, kAudioLevelControlPropertyDecibelValue]
      scope := control.params.scope
      element := kAudioObjectPropertyElementMain
    }
  }
  view control selector :=
    if selector = kAudioLevelControlPropertyScalarValue then some (control.getScalarValue float)
    else if selector = kAudioLevelControlPropertyDecibelValue then
      some (control.getDecibelValue float)
    else none
  covered _ value control selector changed := by
    refine ⟨rfl, ?_⟩
    by_contra other
    simp only [List.mem_cons, List.not_mem_nil, or_false, not_or] at other
    exact changed (by simp only [if_neg other.1, if_neg other.2])

/-- The setter of the class is `SetRawValue()`, with the notification that it sends. -/
theorem run_setRawValue (control : VolumeControl K) (sent : List Notification) (value : SInt32)
    : ((volumeControlClass float).code ⟨(), value⟩).run ⟨control, sent⟩
      = some
          (⟨(control.setRawValue value).control,
            sent ++ (control.setRawValue value).notification.toList⟩,
          (control.setRawValue value).status) := by
  rw [SyncClass.code, SyncProperty.setCode, Code.run_read]
  by_cases same : value = control.getRawValue
  · simp [volumeControlClass, VolumeControl.setRawValue, same]
  · simp [volumeControlClass, VolumeControl.setRawValue, same, Code.run, Code.write,
      VolumeControl.setRawValueImpl]

end Volume

end Aspl.Object
