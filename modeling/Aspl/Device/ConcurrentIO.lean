import Aspl.Base.Mirror
import Aspl.Device.StartStop

/-! `StartIO()` and `StopIO()` on any number of threads, one access or callback a step, while HAL
reads whether I/O is running. `ioMutex_` makes the calls a sequential run; `GetIsRunning()` takes
no lock.
-/

namespace Aspl.Device

open Aspl.CoreAudio

universe u

/-- `'goin'`. -/
def kAudioDevicePropertyDeviceIsRunning : UInt32 := 0x676F696E

/-- A call, with what `OnStartIO()` returns and what the host clock shows when they are asked. -/
inductive StartStopCall where
  | start (objectID : AudioObjectID) (clientID : UInt32) (result : OSStatus)
    (machAbsoluteTime : Nat)
  | stop (objectID : AudioObjectID) (clientID : UInt32)

def StartStopCall.toIOCall : StartStopCall → IOCall
  | .start objectID clientID result machAbsoluteTime =>
      .start objectID clientID result machAbsoluteTime
  | .stop objectID clientID => .stop objectID clientID

namespace IOState

/-- A callback or a notification. -/
def record (event : IOEvent) (io : IOState) : IOState :=
  { io with events := io.events ++ [event] }

def setStartCount (count : Int → Int) (io : IOState) : IOState :=
  { io with startCount := toSInt32 (count io.startCount) }

/-- The last part of `StartIO()` and of `StopIO()`: the count changes, and HAL is notified if I/O
was started or stopped.
-/
def recountCode (count : Int → Int) (changed : Bool) : Code IOState OSStatus :=
  .write (setStartCount count) <|
  if changed then .write (record .isRunningChanged) (.done .kAudioHardwareNoError)
  else .done .kAudioHardwareNoError

/-- `Device::StartIO()` between locking and unlocking `ioMutex_`. -/
def startIOCode (self objectID : AudioObjectID) (_clientID : UInt32) (result : OSStatus)
    (machAbsoluteTime : Nat)
    : Code IOState OSStatus :=
  .read startCount fun count =>
  let isStarting := count == 0
  if objectID ≠ self then .done .kAudioHardwareBadObjectError
  else
    .read startCount fun count =>
    if toUInt32 count = 0 then
      .write (record (.onStart result)) <|
      if result ≠ .kAudioHardwareNoError then .done result
      else
        .write (fun io => { io with anchorHostTime := machAbsoluteTime }) <|
        .write (fun io => { io with periodCounter := 0 }) <|
        recountCode (· + 1) isStarting
    else recountCode (· + 1) isStarting

/-- `Device::StopIO()` between locking and unlocking `ioMutex_`. -/
def stopIOCode (self objectID : AudioObjectID) (_clientID : UInt32) : Code IOState OSStatus :=
  .read startCount fun count =>
  let isStopping := count == 1
  if objectID ≠ self then .done .kAudioHardwareBadObjectError
  else
    .read startCount fun count =>
    if toUInt32 (count - 1) = 0 then
      .write (record .onStop) <| recountCode (· - 1) isStopping
    else recountCode (· - 1) isStopping

def startStopCode (self : AudioObjectID) : StartStopCall → Code IOState OSStatus
  | .start objectID clientID result machAbsoluteTime =>
      startIOCode self objectID clientID result machAbsoluteTime
  | .stop objectID clientID => stopIOCode self objectID clientID

/-- The calls as steps. -/
def startOrStop (self : AudioObjectID) (io : IOState) : StartStopCall → OSStatus × IOState
  | .start objectID clientID result machAbsoluteTime =>
      startIO self io objectID clientID result machAbsoluteTime
  | .stop objectID clientID => stopIO self io objectID clientID

/-- Without anything in between, the accesses of a call amount to the call. -/
theorem run_startStopCode (self : AudioObjectID) (call : StartStopCall) (io : IOState)
    : (startStopCode self call).run io
      = some ((startOrStop self io call).2, (startOrStop self io call).1) := by
  cases call with
  | start objectID clientID result machAbsoluteTime =>
      by_cases own : objectID = self
      · by_cases first : toUInt32 io.startCount = 0
        · by_cases agreed : result = .kAudioHardwareNoError
          · cases starting : io.startCount == 0 <;>
              simp_all [startStopCode, startOrStop, startIOCode, startIO, startIOImpl,
                recountCode, setStartCount, record, notifyIsRunning]
          · simp [startStopCode, startOrStop, startIOCode, startIO, startIOImpl, record, own,
              first, agreed]
        · cases starting : io.startCount == 0 <;>
            simp_all [startStopCode, startOrStop, startIOCode, startIO, startIOImpl, recountCode,
              setStartCount, record, notifyIsRunning]
      · simp [startStopCode, startOrStop, startIOCode, startIO, own]
  | stop objectID clientID =>
      by_cases own : objectID = self
      · by_cases last : toUInt32 (io.startCount - 1) = 0 <;>
          cases stopping : io.startCount == 1 <;>
          simp_all [startStopCode, startOrStop, stopIOCode, stopIO, stopIOImpl, recountCode,
            setStartCount, record, notifyIsRunning]
      · simp [startStopCode, startOrStop, stopIOCode, stopIO, own]

-----------------------------------------------------------------------------------------
-- What holds between the accesses
-----------------------------------------------------------------------------------------

/-- What is left of pairing while a call is under way: the count is not negative, and starts and
stops alternate beginning with a start.
-/
structure Alternates (io : IOState) : Prop where
  nonnegative : 0 ≤ io.startCount
  begins : ∀ first ∈ io.transitions.head?, first = .started
  alternating : io.transitions.IsChain (· ≠ ·)

variable {self : AudioObjectID} {io next : IOState} {call : StartStopCall}

theorem Paired.alternates (paired : io.Paired) : io.Alternates :=
  ⟨paired.nonnegative, paired.begins, paired.alternating⟩

/-- Only the count and the transitions matter. -/
theorem Alternates.congr (before : io.Alternates) (count : 0 ≤ next.startCount)
    (same : next.transitions = io.transitions)
    : next.Alternates :=
  ⟨count, same ▸ before.begins, same ▸ before.alternating⟩

/-- A paired state with a count in the range of an `SInt32`. -/
structure Ready (io : IOState) : Prop where
  paired : io.Paired
  high : io.startCount ≤ 2147483647

/-- What a call can do to a state that is ready. -/
theorem Ready.effect (ready : io.Ready) (self : AudioObjectID) (call : StartStopCall)
    : Effect self io call.toIOCall (startOrStop self io call).1 (startOrStop self io call).2 := by
  have low : -2147483648 ≤ io.startCount := by
    have := ready.paired.nonnegative
    omega
  cases call with
  | start objectID clientID result machAbsoluteTime =>
      exact startIO_effect self low ready.high objectID clientID result machAbsoluteTime
  | stop objectID clientID => exact stopIO_effect self low ready.high objectID clientID

/-- A permitted call leaves a state that is ready. -/
theorem Ready.step (ready : io.Ready) (permitted : Permitted self io call.toIOCall)
    : (startOrStop self io call).2.Ready :=
  have effect := ready.effect self call
  ⟨(ready.paired.effect_iff ready.high effect).mpr permitted,
    effect.count_le ready.paired.nonnegative ready.high permitted⟩

/-- Once the transitions are what the call makes them, starts and stops alternate while the count
changes.
-/
theorem Alternates.throughout_recount (before : io.Alternates) (count : Int → Int)
    (nonnegative : 0 ≤ toSInt32 (count io.startCount)) (changed : Bool)
    : (recountCode count changed).Throughout Alternates io := by
  have after : (io.setStartCount count).Alternates := before.congr nonnegative rfl
  cases changed with
  | false => exact ⟨before, after⟩
  | true =>
      refine ⟨before, after, after.congr nonnegative ?_⟩
      simp [transitions, record, IOEvent.transition]

/-- Throughout a permitted call starts and stops alternate. -/
theorem Ready.throughout_alternates (ready : io.Ready)
    (permitted : Permitted self io call.toIOCall)
    : (startStopCode self call).Throughout Alternates io := by
  have start := ready.paired.alternates
  have after := (ready.step permitted).paired
  have low := start.nonnegative
  have high := ready.high
  cases call with
  | start objectID clientID result machAbsoluteTime =>
      by_cases own : objectID = self
      · subst own
        have below : io.startCount < 2147483647 := permitted rfl
        have count : toSInt32 (io.startCount + 1) = io.startCount + 1 :=
          toSInt32_eq_self _ (by omega) (by omega)
        have more : 0 ≤ toSInt32 (io.startCount + 1) := by omega
        have unsigned := toUInt32_eq_zero_iff io.startCount (by omega) (by omega)
        by_cases stopped : io.startCount = 0
        · by_cases agreed : result = .kAudioHardwareNoError
          · subst agreed
            -- `OnStartIO()` was told what the paired state after the call has recorded.
            have told : (io.record (.onStart .kAudioHardwareNoError)).Alternates := by
              refine after.alternates.congr low ?_
              have zero : toUInt32 0 = 0 := by decide
              simp [startOrStop, startIO, startIOImpl, zero, stopped, notifyIsRunning, transitions,
                record, IOEvent.transition]
            let reset := {
              io.record (.onStart .kAudioHardwareNoError) with
              anchorHostTime := machAbsoluteTime
              periodCounter := 0
            }
            have anchored : reset.Alternates := told.congr low rfl
            simp only [startStopCode, startIOCode, Code.throughout_read, Code.throughout_write,
              ne_eq, not_true_eq_false, if_false, unsigned.mpr stopped, if_true]
            exact ⟨start, start, start, told, told.congr low rfl,
              anchored.throughout_recount (· + 1) more _⟩
          · have told : (io.record (.onStart result)).Alternates := by
              refine start.congr low ?_
              simp [transitions, record, IOEvent.transition, agreed]
            simp only [startStopCode, startIOCode, Code.throughout_read, Code.throughout_write,
              ne_eq, not_true_eq_false, if_false, unsigned.mpr stopped, if_true, agreed,
              not_false_eq_true, Code.throughout_done]
            exact ⟨start, start, start, told⟩
        · simp only [startStopCode, startIOCode, Code.throughout_read, ne_eq, not_true_eq_false,
            if_false, unsigned, stopped]
          exact ⟨start, start, start.throughout_recount (· + 1) more _⟩
      · simpa [startStopCode, startIOCode, own] using start
  | stop objectID clientID =>
      by_cases own : objectID = self
      · subst own
        have positive : 0 < io.startCount := permitted rfl
        have count : toSInt32 (io.startCount - 1) = io.startCount - 1 :=
          toSInt32_eq_self _ (by omega) (by omega)
        have less : 0 ≤ toSInt32 (io.startCount - 1) := by omega
        have unsigned := toUInt32_eq_zero_iff (io.startCount - 1) (by omega) (by omega)
        by_cases running : io.startCount = 1
        · have zero : toUInt32 (io.startCount - 1) = 0 := unsigned.mpr (by omega)
          have told : (io.record .onStop).Alternates := by
            refine after.alternates.congr low ?_
            have zero : toUInt32 0 = 0 := by decide
            simp [startOrStop, stopIO, stopIOImpl, zero, running, notifyIsRunning, transitions,
              record, IOEvent.transition]
          simp only [startStopCode, stopIOCode, Code.throughout_read, Code.throughout_write,
            ne_eq, not_true_eq_false, if_false, zero, if_true]
          exact ⟨start, start, start, told.throughout_recount (· - 1) less _⟩
        · have more : toUInt32 (io.startCount - 1) ≠ 0 := by
            rw [ne_eq, unsigned]
            omega
          simp only [startStopCode, stopIOCode, Code.throughout_read, ne_eq, not_true_eq_false,
            if_false, more]
          exact ⟨start, start, start.throughout_recount (· - 1) less _⟩
      · simpa [startStopCode, stopIOCode, own] using start

/-- Being ready is an invariant of the sequential runs of the code. -/
theorem ready_sequential (self : AudioObjectID)
    : ((Guarded.sequential (startStopCode self) (· = {})).restrict
        (fun io label => Permitted self io label.1.toIOCall)).Invariant Ready where
  initial io new := new ▸ ⟨paired_new, by decide⟩
  step io label next ready taken := by
    obtain ⟨permitted, returned⟩ := taken
    change (startStopCode self label.1).run io = some (next, label.2) at returned
    rw [run_startStopCode] at returned
    obtain ⟨rfl, -⟩ := Prod.mk.inj (Option.some.inj returned)
    exact ready.step permitted

-----------------------------------------------------------------------------------------
-- What HAL knows
-----------------------------------------------------------------------------------------

/-- Whether I/O is running, and what HAL was notified of. -/
def source : Source IOState UInt32 (Option Bool) where
  view io selector :=
    if selector = kAudioDevicePropertyDeviceIsRunning then some io.getIsRunning else none
  sent io :=
    io.events.filterMap (fun event =>
      match event with
      | .isRunningChanged => some kAudioDevicePropertyDeviceIsRunning
      | _ => none)

/-- HAL reads nothing new while I/O is neither started nor stopped. -/
theorem view_congr (same : next.getIsRunning = io.getIsRunning)
    : source.view next = source.view io := by
  funext selector
  simp only [source, same]

/-- The count changes and HAL is notified, if this starts or stops I/O. -/
theorem announces_recountCode {count : Int → Int} {changed : Bool}
    (told : changed = false
      → (0 < toSInt32 (count io.startCount) ↔ 0 < io.startCount))
    : (recountCode count changed).Announces source io := by
  cases changed with
  | false =>
      have same : (io.setStartCount count).getIsRunning = io.getIsRunning := by
        simp only [getIsRunning, setStartCount, gt_iff_lt, decide_eq_decide]
        exact told rfl
      exact Code.announces_write_of_same rfl (view_congr same) trivial
  | true =>
      have sends (before : IOState)
          : source.sent (before.record .isRunningChanged)
            = source.sent before ++ [kAudioDevicePropertyDeviceIsRunning] := by
        simp [source, record, List.filterMap_append]
      refine Code.announces_write_of_silent rfl ?_ ?_
      · intro selector differs
        simp only [if_true, Code.announced_write, sends, List.drop_left]
        refine List.mem_append_left _ (List.mem_singleton.mpr ?_)
        by_contra other
        exact differs (by simp [source, other])
      · exact Code.announces_write_of_sends _ (sends _) rfl trivial

/-- A permitted call notifies HAL when I/O starts or stops running. -/
theorem Ready.announces (ready : io.Ready) (permitted : Permitted self io call.toIOCall)
    : (startStopCode self call).Announces source io := by
  have low := ready.paired.nonnegative
  have high := ready.high
  have silent (event : IOEvent) (before : IOState) (other : event ≠ .isRunningChanged)
      : source.sent (before.record event) = source.sent before := by
    cases event <;> simp_all [source, record, List.filterMap_append]
  cases call with
  | start objectID clientID result machAbsoluteTime =>
      by_cases own : objectID = self
      · have below : io.startCount < 2147483647 := permitted own
        have count : toSInt32 (io.startCount + 1) = io.startCount + 1 :=
          toSInt32_eq_self _ (by omega) (by omega)
        have told : (io.startCount == 0) = false
            → (0 < toSInt32 (io.startCount + 1) ↔ 0 < io.startCount) := by
          intro running
          have nonzero : io.startCount ≠ 0 := by simpa using running
          omega
        simp only [startStopCode, startIOCode, Code.announces_read, ne_eq, own,
          not_true_eq_false, if_false]
        split
        · refine Code.announces_write_of_same (silent _ io (by simp)) rfl ?_
          split
          · trivial
          · refine Code.announces_write_of_same rfl rfl ?_
            exact Code.announces_write_of_same rfl rfl (announces_recountCode told)
        · exact announces_recountCode told
      · simp [startStopCode, startIOCode, own]
  | stop objectID clientID =>
      by_cases own : objectID = self
      · have positive : 0 < io.startCount := permitted own
        have count : toSInt32 (io.startCount - 1) = io.startCount - 1 :=
          toSInt32_eq_self _ (by omega) (by omega)
        have told : (io.startCount == 1) = false
            → (0 < toSInt32 (io.startCount - 1) ↔ 0 < io.startCount) := by
          intro running
          have more : io.startCount ≠ 1 := by simpa using running
          omega
        simp only [startStopCode, stopIOCode, Code.announces_read, ne_eq, own,
          not_true_eq_false, if_false]
        split
        · exact Code.announces_write_of_same (silent _ io (by simp)) rfl
            (announces_recountCode told)
        · exact announces_recountCode told
      · simp [startStopCode, stopIOCode, own]

/-- On any number of threads that start and stop I/O, as often as the count allows: while no call is
under way the count, the callbacks and `GetIsRunning()` are paired, and at any moment the count is
not negative and starts and stops alternate. What HAL has read of `GetIsRunning()` is current, or
HAL is still to be notified. Without a further call it can always come to the point where no call
is under way and what HAL has read is what the control handler was told last.
-/
theorem concurrent_start_stop {Thread : Type u} [DecidableEq Thread] (self : AudioObjectID)
    {state : Mirrored Thread IOState StartStopCall OSStatus UInt32 (Option Bool)}
    (reached
      : ((Mirrored.system (startStopCode self) source (· = {})).restrict
          (Mirrored.Admits (fun io call => Permitted self io call.toIOCall))).Reachable state)
    : (state.guarded.mutex = none → state.guarded.data.Paired)
      ∧ state.guarded.data.Alternates
      ∧ (∀ selector value,
          state.seen selector = some value
          → value = source.view state.guarded.data selector ∨ state.Owed source selector)
      ∧ (state.Settled source
        → ∀ value,
            state.seen kAudioDevicePropertyDeviceIsRunning = some value
            → (value = some true ↔ state.guarded.data.transitions.getLast? = some .started))
      ∧ ∃ events finish,
          (∀ event ∈ events, event = .notify ∨ ∃ thread, event = .move (thread, .proceed))
          ∧ (Mirrored.system (startStopCode self) source (· = {})).Run state events finish
          ∧ finish.Settled source := by
  have following :=
    Mirrored.following (ready_sequential self)
      (fun io call ready permitted => ready.announces permitted) reached
  have paired (free : state.guarded.mutex = none) : state.guarded.data.Paired :=
    (Guarded.free_of_atomic following.atomic free (ready_sequential self)).paired
  refine ⟨paired, ?_, following.fresh, ?_, ?_⟩
  · exact Guarded.holds_of_atomic following.atomic (ready_sequential self)
      (fun io ready => ready.paired.alternates)
      (fun io call ready permitted => ready.throughout_alternates permitted)
  · intro settled value seen
    rw [following.seen_of_settled settled seen, ← (paired settled.free).running]
    simp [source]
  · refine following.exists_settled (ready_sequential self) ?_
    intro io call _ _
    rw [run_startStopCode]
    rfl

/-- Nobody has started I/O, and HAL has read nothing. -/
def idle : Mirrored Bool IOState StartStopCall OSStatus UInt32 (Option Bool) where
  guarded := { phase := fun _ => .outside, mutex := none, data := {}, finished := [] }
  seen _ := none
  delivered := 0

/-- HAL has read that I/O is not running, and one thread is about to start it. -/
theorem concurrent_start_stop_read
    : ∃ state : Mirrored Bool IOState StartStopCall OSStatus UInt32 (Option Bool),
        state.guarded.mutex = some true
        ∧ state.seen kAudioDevicePropertyDeviceIsRunning = some (some false)
        ∧ state.guarded.data.Alternates := by
  have start
      : ((Mirrored.system (startStopCode 2) source (· = {})).restrict
          (Mirrored.Admits (fun io call => Permitted 2 io call.toIOCall))).Reachable idle :=
    .initial ⟨⟨fun _ => rfl, rfl, rfl, rfl⟩, fun _ => rfl, rfl⟩
  have read := start.step (.read kAudioDevicePropertyDeviceIsRunning) ⟨trivial, rfl⟩
  have called := read.step (.move (true, .call (.start 2 7 .kAudioHardwareNoError 100)))
    ⟨fun _ proceeds => (by cases proceeds), rfl⟩
  have locked := called.step (.move (true, .proceed))
    ⟨fun _ _ waits => (by cases waits; exact fun _ => by decide), rfl⟩
  have alternates := (concurrent_start_stop 2 locked).2.1
  exact ⟨_, rfl, by rfl, alternates⟩

end IOState

end Aspl.Device
