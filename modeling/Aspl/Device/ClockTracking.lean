import Aspl.Device.Timeline

/-! Zero time stamps track the host clock: while the rate and the period of a session stay the
same and time stamps are asked for at least once a period, the time stamp returned is always the
latest one that is not in the future.
-/

namespace Aspl.Device

open Aspl.CoreAudio

/-- Rounding down two numbers of ticks loses at least as much as rounding down their sum. -/
theorem toUInt64_add_le {first second : Float64} (firstNonneg : 0 ≤ first)
    (secondNonneg : 0 ≤ second)
    : toUInt64 first + toUInt64 second ≤ toUInt64 (first + second) := by
  refine Nat.le_floor ?_
  rw [Nat.cast_add]
  exact add_le_add (Nat.floor_le firstNonneg) (Nat.floor_le secondNonneg)

/-- The next boundary is at least a period, rounded down, after a boundary. -/
theorem toUInt64_next_le {ticks : Float64} (nonneg : 0 ≤ ticks) (k : Nat)
    : toUInt64 (k * ticks) + toUInt64 ticks ≤ toUInt64 ((k + 1 : Nat) * ticks) := by
  have sum := toUInt64_add_le (mul_nonneg k.cast_nonneg nonneg) nonneg
  rwa [← add_one_mul, ← Nat.cast_succ] at sum

namespace IOState

/-- The host ticks in a period at the rate and with the period in force. -/
def ticksPerPeriod (timeBase : TimeBase) (io : IOState) : Float64 :=
  timeBase.hostClockFrequency / io.nominalSampleRate * io.zeroTimeStampPeriod.toNat

/-- The stored ticks in a frame are those at the stored rate. Both are zero on a new device. -/
def Calibrated (timeBase : TimeBase) (io : IOState) : Prop :=
  io.hostTicksPerFrame = timeBase.hostClockFrequency / io.lastSampleRate

/-- An update of the rate leaves the stored ticks those at the rate in force. -/
theorem Calibrated.update {timeBase : TimeBase} {io updated : IOState}
    (calibrated : io.Calibrated timeBase)
    (rate : io.updateSampleRate timeBase = some updated)
    : updated.Calibrated timeBase
      ∧ updated.hostTicksPerPeriod = io.ticksPerPeriod timeBase := by
  rw [updateSampleRate] at rate
  split at rate
  · split at rate
    · cases rate
    · cases rate
      exact ⟨rfl, rfl⟩
  · rename_i same
    cases rate
    refine ⟨calibrated, ?_⟩
    rw [hostTicksPerPeriod, ticksPerPeriod, calibrated, not_not.mp same]

/-- A rate with positive ticks in a period is not zero, so that an update succeeds. -/
theorem exists_updateSampleRate {timeBase : TimeBase} {io : IOState}
    (positive : 1 ≤ io.ticksPerPeriod timeBase)
    : ∃ updated, io.updateSampleRate timeBase = some updated := by
  have nonzero : io.nominalSampleRate ≠ 0 := by
    intro zero
    rw [ticksPerPeriod, zero, div_zero, zero_mul] at positive
    exact absurd positive (by decide)
  rw [updateSampleRate]
  split
  · exact ⟨_, rfl⟩
  · exact ⟨io, rfl⟩

/-- A call between the last boundary that was counted and the one after the next counts the
period that the clock is in.
-/
theorem countedPeriods_onTime {io : IOState} {now : Nat}
    (early : io.periodHostTime io.periodCounter ≤ now)
    (soon : now < io.periodHostTime (io.periodCounter + 2))
    : (io.countedPeriods now = io.periodCounter
        ∨ io.countedPeriods now = io.periodCounter + 1)
      ∧ io.periodHostTime (io.countedPeriods now) ≤ now
      ∧ now < io.periodHostTime (io.countedPeriods now + 1) := by
  rw [countedPeriods]
  split
  · rename_i passed
    exact ⟨Or.inr rfl, passed, soon⟩
  · rename_i notPassed
    exact ⟨Or.inl rfl, early, Nat.lt_of_not_le notPassed⟩

end IOState

/-- A reading is that of the `k`-th boundary since the anchor, which is the latest one that the
host clock had reached.
-/
structure OnTime (anchor : Nat) (period : UInt32) (ticks : Float64) (reading : Reading)
    (k : Nat)
    : Prop where
  sampleTime : reading.stamp.outSampleTime = k * (period.toNat : Rat)
  hostTime : reading.stamp.outHostTime = anchor + toUInt64 (k * ticks)
  notAhead : anchor + toUInt64 (k * ticks) ≤ reading.machAbsoluteTime
  notBehind : reading.machAbsoluteTime < anchor + toUInt64 ((k + 1 : Nat) * ticks)

/-- The readings of a session, the latest first: each is that of the same boundary as the one
before it or of the next, and on time. The number is that of the latest boundary.
-/
inductive Tracked (anchor : Nat) (period : UInt32) (ticks : Float64)
    : List Reading → Nat → Prop
  | nil : Tracked anchor period ticks [] 0
  | cons {readings k n reading}
    (before : Tracked anchor period ticks readings k) (next : n = k ∨ n = k + 1)
    (onTime : OnTime anchor period ticks reading n)
    : Tracked anchor period ticks (reading :: readings) n

namespace Timeline

/-- When the latest time stamp of a session was asked for, or the session began. -/
def lastAsked (timeline : Timeline) (readings : List Reading) : Nat :=
  (readings.head?.map Reading.machAbsoluteTime).getD timeline.io.anchorHostTime

/-- In a session a time stamp is asked for no more than a period, rounded down, after the latest
one or after the anchor, a period takes a tick at least, and neither the rate nor the period
changes.
-/
def Paced (self : AudioObjectID) (timeBase : TimeBase) (timeline : Timeline) : IOCall → Prop
  | .getZeroTimeStamp objectID _ now =>
      objectID = self
      → ∀ readings ∈ timeline.session,
        1 ≤ timeline.io.ticksPerPeriod timeBase
        ∧ now ≤ timeline.lastAsked readings
            + toUInt64 (timeline.io.ticksPerPeriod timeBase)
  | .setNominalSampleRate rate =>
      timeline.session = none ∨ rate = timeline.io.nominalSampleRate
  | .setZeroTimeStampPeriod period =>
      timeline.session = none ∨ period = timeline.io.zeroTimeStampPeriod
  | _ => True

instance (self : AudioObjectID) (timeBase : TimeBase) (timeline : Timeline) (call : IOCall)
    : Decidable (Paced self timeBase timeline call) :=
  match call with
  | .getZeroTimeStamp objectID _ now =>
      inferInstanceAs (Decidable (objectID = self
        → ∀ readings ∈ timeline.session,
            1 ≤ timeline.io.ticksPerPeriod timeBase
            ∧ now ≤ timeline.lastAsked readings
                + toUInt64 (timeline.io.ticksPerPeriod timeBase)))
  | .setNominalSampleRate rate =>
      inferInstanceAs
        (Decidable (timeline.session = none ∨ rate = timeline.io.nominalSampleRate))
  | .setZeroTimeStampPeriod period =>
      inferInstanceAs
        (Decidable (timeline.session = none ∨ period = timeline.io.zeroTimeStampPeriod))
  | .start .. | .stop .. => isTrue trivial

/-- The readings of the current session, if there is one, track the clock. -/
def SessionTracked (timeBase : TimeBase) (timeline : Timeline) : Prop :=
  ∀ readings ∈ timeline.session,
    Tracked timeline.io.anchorHostTime timeline.io.zeroTimeStampPeriod
      (timeline.io.ticksPerPeriod timeBase) readings timeline.io.periodCounter

/-- The invariant of all runs whose calls are paced. -/
structure Tracking (timeBase : TimeBase) (timeline : Timeline) : Prop where
  kept : timeline.Kept
  calibrated : timeline.io.Calibrated timeBase
  tracked : timeline.SessionTracked timeBase

/-- The latest boundary that was counted lies in the past, and a paced call comes before the
one after the next.
-/
theorem Tracking.bounds {timeBase : TimeBase} {timeline : Timeline}
    (tracking : timeline.Tracking timeBase) {readings : List Reading}
    (session : timeline.session = some readings) {now : Nat} (later : timeline.clock ≤ now)
    (positive : 1 ≤ timeline.io.ticksPerPeriod timeBase)
    (soon
      : now ≤ timeline.lastAsked readings + toUInt64 (timeline.io.ticksPerPeriod timeBase))
    : timeline.io.anchorHostTime
          + toUInt64 (timeline.io.periodCounter * timeline.io.ticksPerPeriod timeBase)
        ≤ now
      ∧ now < timeline.io.anchorHostTime
          + toUInt64
            ((timeline.io.periodCounter + 2 : Nat) * timeline.io.ticksPerPeriod timeBase) := by
  have anchored := tracking.kept.anchored readings session
  have tracked := tracking.tracked readings session
  have nonneg : 0 ≤ timeline.io.ticksPerPeriod timeBase := zero_le_one.trans positive
  have next
      : toUInt64 ((timeline.io.periodCounter + 1 : Nat) * timeline.io.ticksPerPeriod timeBase)
          + toUInt64 (timeline.io.ticksPerPeriod timeBase)
        ≤ toUInt64
          ((timeline.io.periodCounter + 2 : Nat) * timeline.io.ticksPerPeriod timeBase) :=
    toUInt64_next_le nonneg (timeline.io.periodCounter + 1)
  generalize timeline.io.ticksPerPeriod timeBase = ticks at *
  cases readings with
  | nil =>
      have none := anchored.fresh rfl
      have first := toUInt64_next_le nonneg 0
      have tick : 1 ≤ toUInt64 ticks := Nat.one_le_floor_iff ticks |>.mpr positive
      have start : toUInt64 ((0 : Nat) * ticks) = 0 := by simp [toUInt64]
      have past := anchored.anchor
      rw [none] at next ⊢
      simp only [lastAsked, List.head?_nil, Option.map_none, Option.getD_none] at soon
      rw [start] at first ⊢
      simp only [Nat.zero_add] at first next ⊢
      omega
  | cons reading rest =>
      have read := anchored.clock reading rfl
      cases tracked with
      | cons before step onTime =>
          have notAhead := onTime.notAhead
          have notBehind := onTime.notBehind
          simp only [lastAsked, List.head?_cons, Option.map_some, Option.getD_some] at soon
          exact ⟨notAhead.trans (read.trans later), by omega⟩

/-- A paced time stamp is that of the boundary counted last or of the next, and on time. -/
theorem Tracking.onTime {timeBase : TimeBase} {timeline : Timeline}
    (tracking : timeline.Tracking timeBase) {updated : IOState}
    (rate : timeline.io.updateSampleRate timeBase = some updated) {readings : List Reading}
    (session : timeline.session = some readings) {now : Nat} (later : timeline.clock ≤ now)
    (positive : 1 ≤ timeline.io.ticksPerPeriod timeBase)
    (soon
      : now ≤ timeline.lastAsked readings + toUInt64 (timeline.io.ticksPerPeriod timeBase))
    : (updated.countedPeriods now = timeline.io.periodCounter
        ∨ updated.countedPeriods now = timeline.io.periodCounter + 1)
      ∧ OnTime timeline.io.anchorHostTime timeline.io.zeroTimeStampPeriod
          (timeline.io.ticksPerPeriod timeBase)
          ⟨(updated.countPeriod now).zeroTimeStamp, now⟩ (updated.countedPeriods now) := by
  have shape := IOState.updateSampleRate_eq_some rate
  have counter : updated.periodCounter = timeline.io.periodCounter := by rw [shape]
  have anchor : updated.anchorHostTime = timeline.io.anchorHostTime := by rw [shape]
  have period : updated.zeroTimeStampPeriod = timeline.io.zeroTimeStampPeriod := by rw [shape]
  have ticks := (tracking.calibrated.update rate).2
  have hostTime : ∀ periods, updated.periodHostTime periods
      = timeline.io.anchorHostTime
        + toUInt64 (periods * timeline.io.ticksPerPeriod timeBase) := by
    intro periods
    rw [IOState.periodHostTime, anchor, ticks]
  obtain ⟨early, late⟩ := tracking.bounds session later positive soon
  rw [← hostTime, ← counter] at early late
  obtain ⟨step, notAhead, notBehind⟩ := IOState.countedPeriods_onTime early late
  rw [counter] at step
  rw [hostTime] at notAhead notBehind
  refine ⟨step, ?_, hostTime _, notAhead, notBehind⟩
  rw [← period]
  rfl

/-- A call that leaves the rate, the period and their ticks alone keeps sessions on the clock. -/
theorem Tracking.of_sessionEffect {timeBase : TimeBase} {timeline next : Timeline}
    (tracking : timeline.Tracking timeBase) (kept : next.Kept)
    (effect : SessionEffect timeline next)
    (rate : next.io.nominalSampleRate = timeline.io.nominalSampleRate)
    (period : next.io.zeroTimeStampPeriod = timeline.io.zeroTimeStampPeriod)
    (ticks : next.io.hostTicksPerFrame = timeline.io.hostTicksPerFrame)
    (lastRate : next.io.lastSampleRate = timeline.io.lastSampleRate)
    : next.Tracking timeBase := by
  refine ⟨kept, ?_, ?_⟩
  · rw [IOState.Calibrated, ticks, lastRate]
    exact tracking.calibrated
  · intro readings present
    rw [IOState.ticksPerPeriod, rate, period]
    rcases effect with session | ⟨session, -, counter⟩ | ⟨session, anchor, counter, -, -⟩
    · rw [session] at present
      cases present
    · obtain rfl := Option.some.inj (session.symm.trans present)
      rw [counter]
      exact .nil
    · rw [anchor, counter]
      exact tracking.tracked readings (session ▸ present)

/-- Starting and stopping leave the rate, the period and their ticks alone. -/
theorem rates_of_effect {self : AudioObjectID} {io next : IOState} {call : IOCall}
    {status : OSStatus} (effect : IOState.Effect self io call status next)
    (startsOrStops : IOState.startsOrStops call = true)
    : next.nominalSampleRate = io.nominalSampleRate
      ∧ next.zeroTimeStampPeriod = io.zeroTimeStampPeriod
      ∧ next.hostTicksPerFrame = io.hostTicksPerFrame
      ∧ next.lastSampleRate = io.lastSampleRate := by
  cases effect with
  | quiet other => exact absurd (startsOrStops.symm.trans other) (by decide)
  | _ => exact ⟨rfl, rfl, rfl, rfl⟩

/-- A change of a property of a device without a session, or to the value it has. -/
theorem Tracking.of_property {timeBase : TimeBase} {timeline next : Timeline}
    (tracking : timeline.Tracking timeBase) (kept : next.Kept)
    (calibrated : next.io.Calibrated timeBase) (session : next.session = timeline.session)
    (unchanged : timeline.session = none ∨ next.io = timeline.io)
    : next.Tracking timeBase := by
  refine ⟨kept, calibrated, ?_⟩
  intro readings present
  rw [session] at present
  rcases unchanged with none | same
  · rw [none] at present
    cases present
  · rw [same]
    exact tracking.tracked readings present

/-- Every paced call keeps sessions on the clock. -/
theorem Tracking.step {self : AudioObjectID} {timeBase : TimeBase} {timeline next : Timeline}
    {call : IOCall} (tracking : timeline.Tracking timeBase)
    (paced : Paced self timeBase timeline call)
    (taken : (system self timeBase).step timeline call next)
    : next.Tracking timeBase := by
  have kept := (tracking.kept.step taken).1
  obtain ⟨later, taken⟩ := Option.ite_none_right_eq_some.mp taken
  obtain ⟨⟨status, stamp, io⟩, performed, rfl⟩ := Option.map_eq_some_iff.mp taken
  have low := tracking.kept.low
  have high := tracking.kept.high
  cases call with
  | start objectID clientID result now =>
      have effect := IOState.perform_effect low high performed
      obtain ⟨rate, period, ticks, lastRate⟩ := rates_of_effect effect rfl
      cases performed
      exact tracking.of_sessionEffect kept (tracking.kept.start effect).1 rate period ticks
        lastRate
  | stop objectID clientID =>
      have effect := IOState.perform_effect low high performed
      obtain ⟨rate, period, ticks, lastRate⟩ := rates_of_effect effect rfl
      cases performed
      exact tracking.of_sessionEffect kept (tracking.kept.stop effect).1 rate period ticks
        lastRate
  | getZeroTimeStamp objectID clientID now =>
      simp only [IOState.perform, IOState.getZeroTimeStamp] at performed
      split at performed
      · cases performed
        exact tracking.of_sessionEffect kept (.kept rfl rfl rfl rfl rfl) rfl rfl rfl rfl
      · rename_i own
        obtain ⟨⟨read, _⟩, called, same⟩ := Option.map_eq_some_iff.mp performed
        cases same
        obtain ⟨updated, rate, -, rfl, rfl⟩ := IOState.getZeroTimeStampImpl_eq_some called
        have shape := IOState.updateSampleRate_eq_some rate
        refine ⟨kept, (tracking.calibrated.update rate).1, ?_⟩
        intro readings present
        obtain ⟨earlier, session, rfl⟩ := Option.map_eq_some_iff.mp present
        obtain ⟨positive, soon⟩ := paced (not_not.mp own) earlier session
        obtain ⟨step, onTime⟩ := tracking.onTime rate session (later now rfl) positive soon
        have tracked := Tracked.cons (tracking.tracked earlier session) step onTime
        have anchor : updated.anchorHostTime = timeline.io.anchorHostTime := by rw [shape]
        have period : updated.zeroTimeStampPeriod = timeline.io.zeroTimeStampPeriod := by
          rw [shape]
        have nominal : updated.nominalSampleRate = timeline.io.nominalSampleRate := by rw [shape]
        rw [← anchor, ← period, IOState.ticksPerPeriod, ← nominal, ← period] at tracked
        exact tracked
  | setNominalSampleRate rate =>
      cases performed
      refine tracking.of_property kept tracking.calibrated rfl (paced.imp_right ?_)
      rintro rfl
      rfl
  | setZeroTimeStampPeriod period =>
      cases performed
      refine tracking.of_property kept tracking.calibrated rfl (paced.imp_right ?_)
      rintro rfl
      rfl

/-- In every run whose calls are paced the time stamps of a session track the clock, and every
paced call returns one.
-/
theorem timestamps_track_clock (self : AudioObjectID) (timeBase : TimeBase)
    {timeline : Timeline}
    (reached : ((system self timeBase).restrict (Paced self timeBase)).Reachable timeline)
    : timeline.SessionTracked timeBase
      ∧ ∀ clientID now readings,
          timeline.session = some readings
          → timeline.clock ≤ now
          → Paced self timeBase timeline (.getZeroTimeStamp self clientID now)
          → ∃ stamp next,
              timeline.io.perform self timeBase (.getZeroTimeStamp self clientID now)
                = some (.kAudioHardwareNoError, some stamp, next)
              ∧ ∃ k,
                  (k = timeline.io.periodCounter ∨ k = timeline.io.periodCounter + 1)
                  ∧ OnTime timeline.io.anchorHostTime timeline.io.zeroTimeStampPeriod
                      (timeline.io.ticksPerPeriod timeBase) ⟨stamp, now⟩ k := by
  have invariant : ((system self timeBase).restrict (Paced self timeBase)).Invariant
      (Tracking timeBase) := {
    initial := by
      rintro timeline rfl
      refine ⟨kept_new, ?_, fun _ present => by cases present⟩
      exact (div_zero _).symm
    step := fun _ _ _ tracking taken => tracking.step taken.1 taken.2
  }
  have tracking := invariant.reachable reached
  refine ⟨tracking.tracked, ?_⟩
  intro clientID now readings session later paced
  obtain ⟨positive, soon⟩ := paced rfl readings session
  obtain ⟨updated, rate⟩ := IOState.exists_updateSampleRate positive
  have onTime := tracking.onTime rate session later positive soon
  have ticks := (tracking.calibrated.update rate).2
  have nonneg : 0 ≤ updated.hostTicksPerPeriod := ticks ▸ zero_le_one.trans positive
  have defined : ¬(updated.periodCounter + 1) * updated.hostTicksPerPeriod ≤ -1 := by
    have product : 0 ≤ ((updated.periodCounter : Float64) + 1) * updated.hostTicksPerPeriod :=
      mul_nonneg (by positivity) nonneg
    exact not_le.mpr (lt_of_lt_of_le (by decide) product)
  refine ⟨(updated.countPeriod now).zeroTimeStamp, updated.countPeriod now, ?_, _, onTime⟩
  simp only [IOState.perform, IOState.getZeroTimeStamp, IOState.getZeroTimeStampImpl, rate,
    Option.bind_some, if_neg defined, ne_eq, not_true_eq_false, if_false, Option.map_some]

/-- I/O is started at the host time 100 on a device with 10 ticks in a period, and time stamps are
asked for before and after the first boundary.
-/
def twoReadings : List IOCall :=
  [
    .setNominalSampleRate 1000000000,
    .setZeroTimeStampPeriod 10,
    .start 2 7 .kAudioHardwareNoError 100,
    .getZeroTimeStamp 2 7 107,
    .getZeroTimeStamp 2 7 112
  ]

/-- Both readings track the clock, and so does the next one, after the second boundary. -/
theorem timestamps_track_clock_twice
    : Tracked 100 10 10 [⟨⟨10, 110, 1⟩, 112⟩, ⟨⟨0, 100, 1⟩, 107⟩] 1
      ∧ ∃ stamp k, (k = 1 ∨ k = 1 + 1) ∧ OnTime 100 10 10 ⟨stamp, 121⟩ k := by
  have facts
      : (System.play (System.guarded (Paced 2 .nanoseconds) (advance 2 .nanoseconds)) {}
          twoReadings).map (fun timeline =>
            ((timeline.session, timeline.io.anchorHostTime, timeline.io.zeroTimeStampPeriod),
              timeline.io.ticksPerPeriod .nanoseconds, timeline.io.periodCounter,
              decide (timeline.clock ≤ 121),
              decide (Paced 2 .nanoseconds timeline (.getZeroTimeStamp 2 7 121))))
        = some ((some [⟨⟨10, 110, 1⟩, 112⟩, ⟨⟨0, 100, 1⟩, 107⟩], 100, 10), 10, 1, true, true) := by
    decide +kernel
  obtain ⟨timeline, played, facts⟩ := Option.map_eq_some_iff.mp facts
  simp only [Prod.mk.injEq, decide_eq_true_eq] at facts
  obtain ⟨⟨session, anchor, period⟩, ticks, counter, later, paced⟩ := facts
  obtain ⟨tracked, next⟩ := timestamps_track_clock 2 .nanoseconds
    (System.reachable_restrict_of_play (.initial rfl) played)
  have first := tracked _ session
  obtain ⟨stamp, -, -, k, step, onTime⟩ := next 7 121 _ session later paced
  rw [anchor, period, ticks] at first onTime
  rw [counter] at first step
  exact ⟨first, stamp, k, step, onTime⟩

end Timeline

end Aspl.Device
