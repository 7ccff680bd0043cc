import Mathlib.Data.List.Chain
import Aspl.Base.System
import Aspl.Device.InputOutput

/-! Pairing of `StartIO()` and `StopIO()`: the start count, the callbacks of the control handler
and `GetIsRunning()` tell the same story in runs where no call lets the count leave its range.
-/

namespace Aspl.Device

open Aspl.CoreAudio

/-- The two transitions that the control handler is told of. -/
inductive IOTransition where
  | started
  | stopped
deriving DecidableEq

/-- The transition that an event stands for: none if `OnStartIO()` failed. -/
def IOEvent.transition : IOEvent → Option IOTransition
  | .onStart status => if status = .kAudioHardwareNoError then some .started else none
  | .onStop => some .stopped
  | .isRunningChanged => none

namespace IOState

/-- The transitions that the control handler was told of so far. -/
def transitions (io : IOState) : List IOTransition :=
  io.events.filterMap IOEvent.transition

/-- The start count is not negative, starts and stops alternate beginning with a start, and I/O
is running exactly when a start was the last of them.
-/
structure Paired (io : IOState) : Prop where
  nonnegative : 0 ≤ io.startCount
  begins : ∀ first ∈ io.transitions.head?, first = .started
  alternating : io.transitions.IsChain (· ≠ ·)
  running : io.getIsRunning = true ↔ io.transitions.getLast? = some .started

/-- I/O is stopped only while it is started, and started less often than the count can say. -/
def Permitted (self : AudioObjectID) (io : IOState) : IOCall → Prop
  | .start objectID .. => objectID = self → io.startCount < 2147483647
  | .stop objectID _ => objectID = self → 0 < io.startCount
  | _ => True

/-- Sequences of I/O calls on a new device. -/
def system (self : AudioObjectID) (timeBase : TimeBase) : System IOState IOCall where
  initial io := io = {}
  step io call next := ∃ status stamp, io.perform self timeBase call = some (status, stamp, next)

/-- The anchor and the period counter are what a start at a host time makes them. -/
def ResetBy (next : IOState) : IOCall → Prop
  | .start _ _ _ machAbsoluteTime =>
      next.anchorHostTime = machAbsoluteTime ∧ next.periodCounter = 0
  | _ => False

/-- A count that needs no more than one wrap is zero exactly if it is zero as an unsigned
number.
-/
theorem toUInt32_eq_zero_iff (count : Int) (low : -4294967296 < count)
    (high : count < 4294967296)
    : toUInt32 count = 0 ↔ count = 0 := by
  rw [toUInt32, ← UInt32.toNat_inj, UInt32.toNat_ofNat']
  constructor
  · intro zero
    simp at zero
    omega
  · rintro rfl
    rfl

/-- Increments and decrements within the range of a count are exact. -/
theorem toSInt32_eq_self (count : Int) (low : -2147483648 ≤ count)
    (high : count ≤ 2147483647)
    : toSInt32 count = count := by
  rw [toSInt32, Int.bmod]
  split <;> omega

/-- Whether a call starts or stops I/O. -/
def startsOrStops : IOCall → Bool
  | .start .. => true
  | .stop .. => true
  | _ => false

/-- What a call can do to the start count and the events. -/
inductive Effect (self : AudioObjectID) (io : IOState) : IOCall → OSStatus → IOState → Prop
  | rejected {call status} (permitted : Permitted self io call)
    : Effect self io call status io
  | quiet {call status next} (other : startsOrStops call = false)
    (count : next.startCount = io.startCount) (events : next.events = io.events)
    : Effect self io call status next
  | refused {clientID result clock} (stopped : io.startCount = 0)
    (error : result ≠ .kAudioHardwareNoError)
    : Effect self io (.start self clientID result clock) result
        { io with events := io.events ++ [.onStart result] }
  | began {clientID clock} (stopped : io.startCount = 0)
    : Effect self io (.start self clientID .kAudioHardwareNoError clock)
        .kAudioHardwareNoError {
          io with
          startCount := 1
          anchorHostTime := clock
          periodCounter := 0
          events := io.events ++ [.onStart .kAudioHardwareNoError] ++ [.isRunningChanged]
        }
  | joined {clientID result clock} (running : io.startCount ≠ 0)
    : Effect self io (.start self clientID result clock) .kAudioHardwareNoError
        { io with startCount := toSInt32 (io.startCount + 1) }
  | ended {clientID} (running : io.startCount = 1)
    : Effect self io (.stop self clientID) .kAudioHardwareNoError {
        io with
        startCount := 0
        events := io.events ++ [.onStop] ++ [.isRunningChanged]
      }
  | left {clientID} (running : io.startCount ≠ 1)
    : Effect self io (.stop self clientID) .kAudioHardwareNoError
        { io with startCount := toSInt32 (io.startCount - 1) }

/-- The effect of `StartIO()`, by the count before it and the status of `OnStartIO()`. -/
theorem startIO_effect (self : AudioObjectID) {io : IOState}
    (low : -2147483648 ≤ io.startCount)
    (high : io.startCount ≤ 2147483647) (objectID : AudioObjectID) (clientID : UInt32)
    (result : OSStatus) (clock : Nat)
    : let outcome := startIO self io objectID clientID result clock
      Effect self io (.start objectID clientID result clock) outcome.1 outcome.2 := by
  by_cases own : objectID = self
  · subst own
    have unsigned := toUInt32_eq_zero_iff io.startCount (by omega) (by omega)
    by_cases stopped : io.startCount = 0
    · have zero : toUInt32 0 = 0 := by decide
      by_cases error : result = .kAudioHardwareNoError
      · subst error
        have count : toSInt32 1 = 1 := by decide
        simpa [startIOImpl, startIO, notifyIsRunning, stopped, zero, count]
          using Effect.began stopped
      · simpa [startIOImpl, startIO, stopped, zero, error]
          using Effect.refused stopped error
    · simpa [startIOImpl, startIO, notifyIsRunning, stopped, unsigned] using .joined stopped
  · simpa [own, startIO] using .rejected (fun same => absurd same own)

/-- The effect of `StopIO()`, by the count before it. -/
theorem stopIO_effect (self : AudioObjectID) {io : IOState}
    (low : -2147483648 ≤ io.startCount)
    (high : io.startCount ≤ 2147483647) (objectID : AudioObjectID) (clientID : UInt32)
    : let outcome := stopIO self io objectID clientID
      Effect self io (.stop objectID clientID) outcome.1 outcome.2 := by
  by_cases own : objectID = self
  · subst own
    have unsigned := toUInt32_eq_zero_iff (io.startCount - 1) (by omega) (by omega)
    by_cases running : io.startCount = 1
    · have count : toSInt32 (1 - 1) = 0 := by decide
      have zero : toUInt32 (1 - 1) = 0 := by decide
      simpa [stopIOImpl, stopIO, notifyIsRunning, running, count, zero] using .ended running
    · have more : io.startCount - 1 ≠ 0 := by omega
      simpa [stopIOImpl, stopIO, notifyIsRunning, running, unsigned, more] using .left running
  · simpa [own, stopIO] using .rejected (fun same => absurd same own)

/-- The effect of any call on a state whose count is in range. -/
theorem perform_effect {self : AudioObjectID} {timeBase : TimeBase} {io next : IOState}
    {call : IOCall} {status : OSStatus} {stamp : Option ZeroTimeStamp}
    (low : -2147483648 ≤ io.startCount) (high : io.startCount ≤ 2147483647)
    (performed : io.perform self timeBase call = some (status, stamp, next))
    : Effect self io call status next := by
  cases call with
  | start objectID clientID result clock =>
      cases performed
      exact startIO_effect self low high objectID clientID result clock
  | stop objectID clientID =>
      cases performed
      exact stopIO_effect self low high objectID clientID
  | getZeroTimeStamp objectID clientID clock =>
      simp only [perform, getZeroTimeStamp] at performed
      split at performed
      · cases performed
        exact .quiet rfl rfl rfl
      · obtain ⟨⟨_, _⟩, called, same⟩ := Option.map_eq_some_iff.mp performed
        cases same
        obtain ⟨updated, first, -, rfl, -⟩ := getZeroTimeStampImpl_eq_some called
        have shape := updateSampleRate_eq_some first
        have count : updated.startCount = io.startCount := by rw [shape]
        have same : updated.events = io.events := by rw [shape]
        exact .quiet rfl count same
  | setNominalSampleRate rate =>
      cases performed
      exact .quiet rfl rfl rfl
  | setZeroTimeStampPeriod period =>
      cases performed
      exact .quiet rfl rfl rfl

/-- A device that was never started is paired. -/
theorem paired_new : Paired {} where
  nonnegative := le_rfl
  begins := fun _ first => by cases first
  alternating := .nil
  running := by decide

/-- Pairing depends on the count and the transitions only. -/
theorem Paired.congr {io next : IOState} (before : io.Paired)
    (count : next.startCount = io.startCount) (same : next.transitions = io.transitions)
    : next.Paired := by
  obtain ⟨nonnegative, begins, alternating, running⟩ := before
  refine ⟨by rwa [count], by rwa [same], by rwa [same], ?_⟩
  rwa [same, getIsRunning, count]

/-- The count can move as long as I/O stays running. -/
theorem Paired.recount {io : IOState} (before : io.Paired) {count : Int}
    (running : 0 < io.startCount) (positive : 0 < count)
    : Paired { io with startCount := count } := by
  obtain ⟨-, begins, alternating, last⟩ := before
  refine ⟨positive.le, begins, alternating, ?_⟩
  simpa [getIsRunning, positive, running, transitions] using last

/-- A transition that is not the last one over again keeps starts and stops alternating. -/
theorem Paired.transition {io next : IOState} (before : io.Paired) (change : IOTransition)
    (count : 0 ≤ next.startCount)
    (recorded : next.transitions = io.transitions ++ [change])
    (reversed : io.getIsRunning = true ↔ change = .stopped)
    (running : next.getIsRunning = true ↔ change = .started)
    : next.Paired := by
  have last : io.transitions.getLast? = some .started ↔ change = .stopped :=
    before.running.symm.trans reversed
  refine ⟨count, ?_, ?_, ?_⟩
  · intro first head
    rw [recorded] at head
    cases earlier : io.transitions with
    | nil =>
        rw [earlier] at head last
        cases change with
        | started => simpa using head.symm
        | stopped => simp at last
    | cons other rest =>
        rw [earlier] at head
        exact before.begins first (by simpa [earlier] using head)
  · rw [recorded, List.isChain_append]
    refine ⟨before.alternating, .singleton change, ?_⟩
    intro previous atEnd first atStart
    obtain rfl : change = first := by simpa using atStart
    rw [Option.mem_def] at atEnd
    rw [atEnd] at last
    cases previous <;> cases change <;> simp_all
  · rw [recorded, List.getLast?_append, List.getLast?_singleton, Option.some_or, running,
      Option.some_inj]

/-- From a paired state, a call leaves a paired state exactly if it is permitted. -/
theorem Paired.effect_iff {self : AudioObjectID} {io next : IOState} {call : IOCall}
    {status : OSStatus} (before : io.Paired) (high : io.startCount ≤ 2147483647)
    (effect : Effect self io call status next)
    : next.Paired ↔ Permitted self io call := by
  have low := before.nonnegative
  cases effect with
  | rejected permitted => exact ⟨fun _ => permitted, fun _ => before⟩
  | quiet other count events =>
      have permitted : Permitted self io call := by
        cases call with
        | start => cases other
        | stop => cases other
        | getZeroTimeStamp => trivial
        | setNominalSampleRate => trivial
        | setZeroTimeStampPeriod => trivial
      have same : next.transitions = io.transitions := by
        rw [transitions, transitions, events]
      exact ⟨fun _ => permitted, fun _ => before.congr count same⟩
  | refused stopped error =>
      refine ⟨fun _ _ => by omega, fun _ => before.congr rfl ?_⟩
      simp [transitions, IOEvent.transition, error]
  | began stopped =>
      refine ⟨fun _ _ => by omega, fun _ => before.transition .started ?_ ?_ ?_ ?_⟩
      · exact zero_le_one
      · simp [transitions, List.filterMap_cons, IOEvent.transition]
      · simp [getIsRunning, stopped]
      · simp [getIsRunning]
  | joined running =>
      constructor
      · intro after _
        by_contra full
        have top : io.startCount + 1 = 2147483648 := by omega
        have nonnegative : 0 ≤ toSInt32 (io.startCount + 1) := after.nonnegative
        rw [top] at nonnegative
        exact absurd nonnegative (by decide)
      · intro permitted
        have count := toSInt32_eq_self (io.startCount + 1) (by omega)
          (by have := permitted rfl; omega)
        rw [count]
        exact before.recount (by omega) (by omega)
  | ended running =>
      refine ⟨fun _ _ => by omega, fun _ => before.transition .stopped ?_ ?_ ?_ ?_⟩
      · exact le_rfl
      · simp [transitions, List.filterMap_cons, IOEvent.transition]
      · simp [getIsRunning, running]
      · simp [getIsRunning]
  | left running =>
      have count := toSInt32_eq_self (io.startCount - 1) (by omega) (by omega)
      rw [count]
      constructor
      · intro after _
        have nonnegative := after.nonnegative
        simp only at nonnegative
        omega
      · intro permitted
        have positive := permitted rfl
        exact before.recount positive (by omega)

/-- A permitted call leaves the count within the range of an `SInt32`. -/
theorem Effect.count_le {self : AudioObjectID} {io next : IOState} {call : IOCall}
    {status : OSStatus} (low : 0 ≤ io.startCount) (high : io.startCount ≤ 2147483647)
    (permitted : Permitted self io call) (effect : Effect self io call status next)
    : next.startCount ≤ 2147483647 := by
  cases effect with
  | rejected => exact high
  | quiet _ count => exact count.le.trans high
  | refused => exact high
  | began => exact (by decide : (1 : Int) ≤ 2147483647)
  | joined =>
      have below := permitted rfl
      rw [toSInt32_eq_self _ (by omega) (by omega)]
      exact Int.add_one_le_iff.mpr below
  | ended => exact low.trans high
  | left =>
      rw [toSInt32_eq_self _ (by omega) (by omega)]
      exact (Int.sub_le_self _ zero_le_one).trans high

/-- A failed call leaves the count and the running state as they were. -/
theorem Effect.of_error {self : AudioObjectID} {io next : IOState} {call : IOCall}
    {status : OSStatus} (effect : Effect self io call status next)
    (error : status ≠ .kAudioHardwareNoError)
    : next.startCount = io.startCount ∧ next.getIsRunning = io.getIsRunning := by
  cases effect with
  | rejected => exact ⟨rfl, rfl⟩
  | quiet _ count => exact ⟨count, by rw [getIsRunning, getIsRunning, count]⟩
  | refused => exact ⟨rfl, rfl⟩
  | began => exact absurd rfl error
  | joined => exact absurd rfl error
  | ended => exact absurd rfl error
  | left => exact absurd rfl error

/-- Only the first start makes I/O run, and it resets the anchor and the period counter. -/
theorem Effect.reset {self : AudioObjectID} {io next : IOState} {call : IOCall}
    {status : OSStatus} (low : 0 ≤ io.startCount) (high : io.startCount ≤ 2147483647)
    (effect : Effect self io call status next) (stopped : io.getIsRunning = false)
    (running : next.getIsRunning = true)
    : next.ResetBy call := by
  have zero : io.startCount = 0 := by
    simp only [getIsRunning, gt_iff_lt, decide_eq_false_iff_not] at stopped
    omega
  cases effect with
  | rejected => exact absurd (stopped.symm.trans running) Bool.false_ne_true
  | quiet _ count =>
      rw [getIsRunning, count, ← getIsRunning, stopped] at running
      exact absurd running Bool.false_ne_true
  | refused => exact absurd (stopped.symm.trans running) Bool.false_ne_true
  | began => exact ⟨rfl, rfl⟩
  | joined more => exact absurd zero more
  | ended last => omega
  | left =>
      have count : toSInt32 (-1) = -1 := by decide
      simp [getIsRunning, zero, count] at running

/-- In a run whose calls are permitted every state is paired, and a call keeps it paired exactly
if it is permitted. A failed call changes neither the count nor whether I/O is running, and the
call that makes I/O run resets the anchor and the period counter.
-/
theorem start_stop_paired (self : AudioObjectID) (timeBase : TimeBase) {io : IOState}
    (reached : ((system self timeBase).restrict (Permitted self)).Reachable io)
    : io.Paired
      ∧ ∀ call status stamp next,
          io.perform self timeBase call = some (status, stamp, next)
          → (next.Paired ↔ Permitted self io call)
            ∧ (status ≠ .kAudioHardwareNoError
              → next.startCount = io.startCount ∧ next.getIsRunning = io.getIsRunning)
            ∧ (io.getIsRunning = false → next.getIsRunning = true → next.ResetBy call) := by
  have invariant : ((system self timeBase).restrict (Permitted self)).Invariant
      (fun io => io.Paired ∧ io.startCount ≤ 2147483647) := {
    initial := by
      rintro io rfl
      exact ⟨paired_new, by decide⟩
    step := by
      rintro io call next ⟨paired, high⟩ ⟨permitted, status, stamp, performed⟩
      have effect := perform_effect (by have := paired.nonnegative; omega) high performed
      exact ⟨(paired.effect_iff high effect).mpr permitted,
        effect.count_le paired.nonnegative high permitted⟩
  }
  obtain ⟨paired, high⟩ := invariant.reachable reached
  refine ⟨paired, ?_⟩
  intro call status stamp next performed
  have effect := perform_effect (by have := paired.nonnegative; omega) high performed
  exact ⟨paired.effect_iff high effect, effect.of_error, effect.reset paired.nonnegative high⟩

/-- Two clients start and stop I/O on the device 2, and the handler refuses a third one. -/
theorem start_stop_paired_three_clients
    : ∃ io : IOState, io.Paired ∧ io.transitions = [.started, .stopped] ∧ io.events.length = 5 := by
  have start : ((system 2 .nanoseconds).restrict (Permitted 2)).Reachable {} := .initial rfl
  have one := start.step (.start 2 7 .kAudioHardwareNoError 100) ⟨fun _ => by decide, _, _, rfl⟩
  have two := one.step (.start 2 8 .kAudioHardwareNoError 120) ⟨fun _ => by decide, _, _, rfl⟩
  have left := two.step (.stop 2 7) ⟨fun _ => by decide, _, _, rfl⟩
  have stopped := left.step (.stop 2 8) ⟨fun _ => by decide, _, _, rfl⟩
  have refused := stopped.step (.start 2 9 .kAudioHardwareUnspecifiedError 150)
    ⟨fun _ => by decide, _, _, rfl⟩
  exact ⟨_, (start_stop_paired 2 .nanoseconds refused).1, by decide, by decide⟩

/-- A new device whose first call is a `StopIO()`. -/
def stoppedFirst : IOState :=
  let outcome := stopIO 2 {} 2 7
  outcome.2

/-- An unmatched `StopIO()` makes the count negative, and the next `StartIO()`, of the very first
client, succeeds without `OnStartIO()` and leaves I/O stopped.
-/
theorem unmatched_stop
    : ¬ (∀ io, (system 2 .nanoseconds).Reachable io → io.Paired)
      ∧ let outcome := startIO 2 stoppedFirst 2 7 .kAudioHardwareNoError 100
        outcome.1 = .kAudioHardwareNoError
        ∧ outcome.2.events = []
        ∧ outcome.2.getIsRunning = false := by
  refine ⟨?_, by decide, by decide, by decide⟩
  intro all
  have reached : (system 2 .nanoseconds).Reachable stoppedFirst :=
    .step (.initial rfl) (.stop 2 7) ⟨_, _, rfl⟩
  exact absurd (all _ reached).nonnegative (by decide)

end IOState

end Aspl.Device
