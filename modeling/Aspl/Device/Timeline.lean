import Aspl.Device.StartStop

/-! The timeline of a device: the zero time stamps that are returned within one I/O session,
while the nominal sample rate and the zero time stamp period may change at any point.
-/

namespace Aspl.Device

open Aspl.CoreAudio

/-- A time stamp that was returned, with the host clock at that call. -/
structure Reading where
  stamp : ZeroTimeStamp
  machAbsoluteTime : Nat
deriving DecidableEq

/-- A device with the host clock, the readings of the current I/O session from the latest on,
and the zero time stamp period at the latest reading.
-/
structure Timeline where
  io : IOState := {}
  clock : Nat := 0
  session : Option (List Reading) := none
  lastPeriod : UInt32 := 0

/-- Of two consecutive readings with one seed the later is not behind the earlier, and no reading
is ahead of the host clock.
-/
structure Continuous (readings : List Reading) : Prop where
  monotone
    : readings.IsChain (fun later earlier =>
        later.stamp.outSeed = earlier.stamp.outSeed
        → earlier.stamp.outSampleTime ≤ later.stamp.outSampleTime
          ∧ earlier.stamp.outHostTime ≤ later.stamp.outHostTime)
  notLate : ∀ reading ∈ readings, reading.stamp.outHostTime ≤ reading.machAbsoluteTime

/-- The host clock as a call reads it. -/
def IOCall.machAbsoluteTime : IOCall → Option Nat
  | .start _ _ _ machAbsoluteTime => some machAbsoluteTime
  | .getZeroTimeStamp _ _ machAbsoluteTime => some machAbsoluteTime
  | _ => none

namespace Timeline

/-- The session after a call: the `StartIO()` that makes the count 1 begins one, the `StopIO()`
that makes it 0 ends it, and a time stamp is a reading of it.
-/
def recordCall (timeline : Timeline) (stamp : Option ZeroTimeStamp) (next : IOState)
    : IOCall → Option (List Reading)
  | .start .. =>
      if timeline.io.startCount ≠ 1 ∧ next.startCount = 1 then some [] else timeline.session
  | .stop .. =>
      if timeline.io.startCount ≠ 0 ∧ next.startCount = 0 then none else timeline.session
  | .getZeroTimeStamp _ _ machAbsoluteTime =>
      match stamp with
      | none => timeline.session
      | some stamp => timeline.session.map (⟨stamp, machAbsoluteTime⟩ :: ·)
  | _ => timeline.session

/-- The timeline after a call that returned a time stamp, or none. -/
def after (timeline : Timeline) (call : IOCall) (stamp : Option ZeroTimeStamp)
    (next : IOState)
    : Timeline where
  io := next
  clock := call.machAbsoluteTime.getD timeline.clock
  session := timeline.recordCall stamp next call
  lastPeriod := if stamp.isSome then timeline.io.zeroTimeStampPeriod else timeline.lastPeriod

/-- A call, made at a time that the clock has not passed. -/
def advance (self : AudioObjectID) (timeBase : TimeBase) (timeline : Timeline) (call : IOCall)
    : Option Timeline :=
  if ∀ now ∈ call.machAbsoluteTime, timeline.clock ≤ now then
    (timeline.io.perform self timeBase call).map
      (fun (_, stamp, next) => timeline.after call stamp next)
  else none

/-- Sequences of calls on a new device, with a host clock that never goes back. -/
def system (self : AudioObjectID) (timeBase : TimeBase) : System Timeline IOCall :=
  .ofFunction (· = {}) (advance self timeBase)

/-- The host ticks in a period at the latest reading. -/
def lastTicksPerPeriod (timeline : Timeline) : Float64 :=
  timeline.io.hostTicksPerFrame * timeline.lastPeriod.toNat

/-- A time stamp is asked for in a session only before a period is counted in it, or at the rate
and with the period of the previous time stamp.
-/
def Permitted (self : AudioObjectID) (timeline : Timeline) : IOCall → Prop
  | .getZeroTimeStamp objectID _ _ =>
      objectID = self
      → timeline.session ≠ none
      → timeline.io.periodCounter ≠ 0
      → timeline.io.nominalSampleRate = timeline.io.lastSampleRate
        ∧ timeline.io.zeroTimeStampPeriod = timeline.lastPeriod
  | _ => True

instance (self : AudioObjectID) (timeline : Timeline) (call : IOCall)
    : Decidable (Permitted self timeline call) :=
  match call with
  | .getZeroTimeStamp objectID _ _ =>
      inferInstanceAs (Decidable (objectID = self
        → timeline.session ≠ none
        → timeline.io.periodCounter ≠ 0
        → timeline.io.nominalSampleRate = timeline.io.lastSampleRate
          ∧ timeline.io.zeroTimeStampPeriod = timeline.lastPeriod))
  | .start .. | .stop .. | .setNominalSampleRate _ | .setZeroTimeStampPeriod _ => isTrue trivial

/-- The rate and the period in force let the timeline go on from `k` counted periods: `k` is 0,
or the next boundary has passed and `k + 1` new periods are no shorter than `k` old ones, in
frames and in ticks, or it has not passed, `k` new periods are no shorter than `k` old ones, and
the clock has reached their end.
-/
def Steady (timeline : Timeline) (updated : IOState) (now : Nat) : Prop :=
  let k := timeline.io.periodCounter
  let oldTicks := timeline.lastTicksPerPeriod
  let newTicks := updated.hostTicksPerPeriod
  k = 0
  ∨ if updated.nextPeriodPassed now then
      k * timeline.lastPeriod.toNat ≤ (k + 1) * timeline.io.zeroTimeStampPeriod.toNat
      ∧ toUInt64 (k * oldTicks) ≤ toUInt64 ((k + 1 : Nat) * newTicks)
    else
      timeline.lastPeriod ≤ timeline.io.zeroTimeStampPeriod
      ∧ toUInt64 (k * oldTicks) ≤ toUInt64 (k * newTicks)
      ∧ timeline.io.anchorHostTime + toUInt64 (k * newTicks) ≤ now

/-- A time stamp that is asked for in a session finds the timeline steady. -/
def FindsSteady (self : AudioObjectID) (timeBase : TimeBase) (timeline : Timeline)
    : IOCall → Prop
  | .getZeroTimeStamp objectID _ now =>
      objectID = self
      → timeline.session ≠ none
      → ∀ updated ∈ timeline.io.updateSampleRate timeBase, timeline.Steady updated now
  | _ => True

/-- What is known within a session: the anchor lies in the past, no period is counted before the
first reading, and the latest reading is the end of the periods that it counted.
-/
structure Anchored (timeline : Timeline) (readings : List Reading) : Prop where
  anchor : timeline.io.anchorHostTime ≤ timeline.clock
  fresh : readings = [] → timeline.io.periodCounter = 0
  latest
    : ∀ reading ∈ readings.head?,
        reading.stamp.outSampleTime
          = (timeline.io.periodCounter * timeline.lastPeriod.toNat : Nat)
        ∧ reading.stamp.outHostTime
          = timeline.io.anchorHostTime
            + toUInt64 (timeline.io.periodCounter * timeline.lastTicksPerPeriod)
        ∧ reading.stamp.outSeed = 1
  clock : ∀ reading ∈ readings.head?, reading.machAbsoluteTime ≤ timeline.clock

/-- The invariant of all runs: the count is in range, and every session is anchored. -/
structure Kept (timeline : Timeline) : Prop where
  low : -2147483648 ≤ timeline.io.startCount
  high : timeline.io.startCount ≤ 2147483647
  anchored : ∀ readings ∈ timeline.session, timeline.Anchored readings

/-- The readings of the current session, if there is one, are continuous. -/
def SessionContinuous (timeline : Timeline) : Prop :=
  ∀ readings ∈ timeline.session, Continuous readings

/-- A further reading keeps a session continuous if it follows on from the latest one and is not
ahead of the clock.
-/
theorem continuous_cons {reading : Reading} {readings : List Reading}
    : Continuous (reading :: readings)
      ↔ (∀ earlier ∈ readings.head?,
          reading.stamp.outSeed = earlier.stamp.outSeed
          → earlier.stamp.outSampleTime ≤ reading.stamp.outSampleTime
            ∧ earlier.stamp.outHostTime ≤ reading.stamp.outHostTime)
        ∧ reading.stamp.outHostTime ≤ reading.machAbsoluteTime
        ∧ Continuous readings := by
  constructor
  · rintro ⟨monotone, notLate⟩
    obtain ⟨follows, rest⟩ := List.isChain_cons.mp monotone
    obtain ⟨onTime, others⟩ := List.forall_mem_cons.mp notLate
    exact ⟨follows, onTime, rest, others⟩
  · rintro ⟨follows, onTime, rest, others⟩
    exact ⟨List.isChain_cons.mpr ⟨follows, rest⟩, List.forall_mem_cons.mpr ⟨onTime, others⟩⟩

/-- A time stamp of `n` periods follows on from the latest reading exactly if these periods are
no shorter than those that were counted, in frames and in ticks.
-/
theorem Anchored.follows_iff {timeline : Timeline} {readings : List Reading}
    (anchored : timeline.Anchored readings) (stamp : ZeroTimeStamp) (n : Nat) (ticks : Float64)
    (sampleTime
      : stamp.outSampleTime = (n : Rat) * (timeline.io.zeroTimeStampPeriod.toNat : Rat))
    (hostTime : stamp.outHostTime = timeline.io.anchorHostTime + toUInt64 (n * ticks))
    (seed : stamp.outSeed = 1)
    : (∀ earlier ∈ readings.head?,
        stamp.outSeed = earlier.stamp.outSeed
        → earlier.stamp.outSampleTime ≤ stamp.outSampleTime
          ∧ earlier.stamp.outHostTime ≤ stamp.outHostTime)
      ↔ timeline.io.periodCounter * timeline.lastPeriod.toNat
          ≤ n * timeline.io.zeroTimeStampPeriod.toNat
        ∧ toUInt64 (timeline.io.periodCounter * timeline.lastTicksPerPeriod)
          ≤ toUInt64 (n * ticks) := by
  cases readings with
  | nil =>
      have none := anchored.fresh rfl
      simp [none, toUInt64]
  | cons earlier rest =>
      obtain ⟨oldSample, oldHost, oldSeed⟩ := anchored.latest earlier rfl
      have samples
          : ((timeline.io.periodCounter * timeline.lastPeriod.toNat : Nat) : Rat)
              ≤ (n : Rat) * (timeline.io.zeroTimeStampPeriod.toNat : Rat)
            ↔ timeline.io.periodCounter * timeline.lastPeriod.toNat
              ≤ n * timeline.io.zeroTimeStampPeriod.toNat := by
        rw [← Nat.cast_mul, Nat.cast_le]
      simp only [List.head?_cons, Option.mem_def, Option.some.injEq, forall_eq', seed, oldSeed,
        forall_const, sampleTime, oldSample, hostTime, oldHost, samples,
        Nat.add_le_add_iff_left]

/-- The timeline is steady exactly if the periods that a reading counts are no shorter than those
counted before, and end no later than now.
-/
theorem Anchored.steady_iff {timeline : Timeline} {readings : List Reading}
    (anchored : timeline.Anchored readings) {updated : IOState} {now : Nat}
    (later : timeline.clock ≤ now)
    (counter : updated.periodCounter = timeline.io.periodCounter)
    (anchor : updated.anchorHostTime = timeline.io.anchorHostTime)
    : timeline.Steady updated now
      ↔ (timeline.io.periodCounter * timeline.lastPeriod.toNat
            ≤ updated.countedPeriods now * timeline.io.zeroTimeStampPeriod.toNat
          ∧ toUInt64 (timeline.io.periodCounter * timeline.lastTicksPerPeriod)
            ≤ toUInt64 (updated.countedPeriods now * updated.hostTicksPerPeriod))
        ∧ timeline.io.anchorHostTime
            + toUInt64 (updated.countedPeriods now * updated.hostTicksPerPeriod)
          ≤ now := by
  have past := anchored.anchor.trans later
  rw [Steady]
  by_cases passed : updated.nextPeriodPassed now
  · have onTime := passed
    simp only [IOState.nextPeriodPassed, IOState.periodHostTime, anchor, counter] at onTime
    simp only [IOState.countedPeriods, passed, if_true, counter, onTime, and_true]
    constructor
    · rintro (none | longer)
      · simp [none, toUInt64]
      · exact longer
    · exact Or.inr
  · simp only [IOState.countedPeriods, passed, if_false, counter]
    by_cases none : timeline.io.periodCounter = 0
    · simp [none, toUInt64, past]
    · simp [none, UInt32.le_iff_toNat_le, Nat.mul_le_mul_left_iff (Nat.pos_of_ne_zero none),
        and_assoc]

/-- A reading keeps an anchored session continuous exactly if the timeline is steady. -/
theorem Anchored.continuous_iff {timeline : Timeline} {readings : List Reading}
    (anchored : timeline.Anchored readings) {timeBase : TimeBase} {updated : IOState}
    (rate : timeline.io.updateSampleRate timeBase = some updated) {now : Nat}
    (later : timeline.clock ≤ now)
    : Continuous (⟨(updated.countPeriod now).zeroTimeStamp, now⟩ :: readings)
      ↔ Continuous readings ∧ timeline.Steady updated now := by
  have shape := IOState.updateSampleRate_eq_some rate
  have counter : updated.periodCounter = timeline.io.periodCounter := by rw [shape]
  have anchor : updated.anchorHostTime = timeline.io.anchorHostTime := by rw [shape]
  have period : updated.zeroTimeStampPeriod = timeline.io.zeroTimeStampPeriod := by rw [shape]
  have follows := anchored.follows_iff (updated.countPeriod now).zeroTimeStamp
    (updated.countedPeriods now) updated.hostTicksPerPeriod
    (by rw [← period]; rfl) (by rw [← anchor]; rfl) rfl
  have hostTime
      : (updated.countPeriod now).zeroTimeStamp.outHostTime
        = timeline.io.anchorHostTime
          + toUInt64 (updated.countedPeriods now * updated.hostTicksPerPeriod) := by
    rw [← anchor]
    rfl
  rw [continuous_cons, follows, hostTime, anchored.steady_iff later counter anchor]
  tauto

/-- A session stays anchored by a reading of it, which becomes the latest. -/
theorem Anchored.reading {timeline : Timeline} {readings : List Reading}
    (anchored : timeline.Anchored readings) {timeBase : TimeBase} {updated : IOState}
    (rate : timeline.io.updateSampleRate timeBase = some updated) {now : Nat}
    (later : timeline.clock ≤ now) (session : Option (List Reading))
    : Anchored {
        io := updated.countPeriod now
        clock := now
        session := session
        lastPeriod := timeline.io.zeroTimeStampPeriod
      } (⟨(updated.countPeriod now).zeroTimeStamp, now⟩ :: readings) := by
  have shape := IOState.updateSampleRate_eq_some rate
  have anchor : updated.anchorHostTime = timeline.io.anchorHostTime := by rw [shape]
  have period : updated.zeroTimeStampPeriod = timeline.io.zeroTimeStampPeriod := by rw [shape]
  refine ⟨?_, ?_, ?_, ?_⟩
  · exact anchor.le.trans (anchored.anchor.trans later)
  · intro empty
    cases empty
  · rintro reading ⟨⟩
    rw [← period]
    exact ⟨(Nat.cast_mul ..).symm, rfl, rfl⟩
  · rintro reading ⟨⟩
    exact le_rfl

/-- A call that leaves the time fields alone leaves a session anchored. -/
theorem Anchored.congr {timeline next : Timeline} {readings : List Reading}
    (anchored : timeline.Anchored readings)
    (anchor : next.io.anchorHostTime = timeline.io.anchorHostTime)
    (counter : next.io.periodCounter = timeline.io.periodCounter)
    (ticks : next.io.hostTicksPerFrame = timeline.io.hostTicksPerFrame)
    (period : next.lastPeriod = timeline.lastPeriod) (later : timeline.clock ≤ next.clock)
    : next.Anchored readings := by
  obtain ⟨past, fresh, latest, clock⟩ := anchored
  refine ⟨anchor.le.trans (past.trans later), ?_, ?_, ?_⟩
  · rwa [counter]
  · rwa [lastTicksPerPeriod, anchor, counter, ticks, period]
  · exact fun reading first => (clock reading first).trans later

/-- What a call other than a time stamp does to a session: end it, begin one at the host time
that was read, or leave it and the time fields as they were.
-/
inductive SessionEffect (timeline : Timeline) (next : Timeline) : Prop
  | ended (session : next.session = none)
  | began (session : next.session = some []) (anchor : next.io.anchorHostTime = next.clock)
    (counter : next.io.periodCounter = 0)
  | kept (session : next.session = timeline.session)
    (anchor : next.io.anchorHostTime = timeline.io.anchorHostTime)
    (counter : next.io.periodCounter = timeline.io.periodCounter)
    (ticks : next.io.hostTicksPerFrame = timeline.io.hostTicksPerFrame)
    (period : next.lastPeriod = timeline.lastPeriod)

/-- A session that a call leaves anchored, begins or ends is as continuous as before. -/
theorem SessionEffect.preserves {timeline next : Timeline}
    (effect : SessionEffect timeline next) (later : timeline.clock ≤ next.clock)
    (anchored : ∀ readings ∈ timeline.session, timeline.Anchored readings)
    : (∀ readings ∈ next.session, next.Anchored readings)
      ∧ (timeline.SessionContinuous → next.SessionContinuous) := by
  rcases effect with session | ⟨session, anchor, counter⟩ |
    ⟨session, anchor, counter, ticks, period⟩
  · simp [SessionContinuous, session]
  · constructor
    · intro readings present
      obtain rfl := Option.some.inj (session.symm.trans present)
      exact ⟨anchor.le, fun _ => counter, fun _ first => (by cases first),
        fun _ first => (by cases first)⟩
    · intro _ readings present
      obtain rfl := Option.some.inj (session.symm.trans present)
      exact ⟨.nil, fun _ absent => (by cases absent)⟩
  · rw [SessionContinuous, SessionContinuous, session]
    refine ⟨?_, id⟩
    intro readings present
    exact (anchored readings present).congr anchor counter ticks period later

/-- Only an increment of 0 makes a count 1. -/
theorem eq_zero_of_toSInt32_eq_one {count : Int} (low : -2147483648 ≤ count)
    (high : count ≤ 2147483647) (one : toSInt32 (count + 1) = 1)
    : count = 0 := by
  rw [toSInt32, Int.bmod] at one
  split at one <;> omega

/-- A wrapped count is in range. -/
theorem toSInt32_range (count : Int)
    : -2147483648 ≤ toSInt32 count ∧ toSInt32 count ≤ 2147483647 := by
  rw [toSInt32, Int.bmod]
  split <;> omega

/-- `StartIO()` begins a session exactly when it resets the anchor. -/
theorem Kept.start {timeline : Timeline} (kept : timeline.Kept) {self objectID : AudioObjectID}
    {clientID : UInt32} {result : OSStatus} {now : Nat} {status : OSStatus} {io : IOState}
    (effect : IOState.Effect self timeline.io (.start objectID clientID result now) status io)
    : SessionEffect timeline (timeline.after (.start objectID clientID result now) none io)
      ∧ -2147483648 ≤ io.startCount ∧ io.startCount ≤ 2147483647 := by
  have low := kept.low
  have high := kept.high
  cases effect with
  | rejected =>
      refine ⟨.kept ?_ rfl rfl rfl rfl, low, high⟩
      simp [after, recordCall]
  | quiet other => cases other
  | refused stopped =>
      refine ⟨.kept ?_ rfl rfl rfl rfl, low, high⟩
      simp [after, recordCall]
  | began stopped =>
      have range : (-2147483648 : Int) ≤ 1 ∧ (1 : Int) ≤ 2147483647 := by decide
      refine ⟨.began ?_ rfl rfl, range⟩
      simp [after, recordCall, stopped]
  | joined running =>
      refine ⟨.kept ?_ rfl rfl rfl rfl, toSInt32_range _⟩
      have more : toSInt32 (timeline.io.startCount + 1) ≠ 1 :=
        fun one => running (eq_zero_of_toSInt32_eq_one low high one)
      simp [after, recordCall, more]

/-- `StopIO()` leaves the time fields alone, whether or not it ends the session. -/
theorem Kept.stop {timeline : Timeline} (kept : timeline.Kept) {self objectID : AudioObjectID}
    {clientID : UInt32} {status : OSStatus} {io : IOState}
    (effect : IOState.Effect self timeline.io (.stop objectID clientID) status io)
    : SessionEffect timeline (timeline.after (.stop objectID clientID) none io)
      ∧ -2147483648 ≤ io.startCount ∧ io.startCount ≤ 2147483647 := by
  have low := kept.low
  have high := kept.high
  cases effect with
  | rejected =>
      refine ⟨.kept ?_ rfl rfl rfl rfl, low, high⟩
      simp [after, recordCall]
  | quiet other => cases other
  | ended running =>
      have range : (-2147483648 : Int) ≤ 0 ∧ (0 : Int) ≤ 2147483647 := by decide
      refine ⟨.ended ?_, range⟩
      simp [after, recordCall, running]
  | left running =>
      refine ⟨?_, toSInt32_range _⟩
      by_cases last
          : timeline.io.startCount ≠ 0 ∧ toSInt32 (timeline.io.startCount - 1) = 0
      · exact .ended (if_pos last)
      · exact .kept (if_neg last) rfl rfl rfl rfl

/-- A time stamp is the latest reading of its session, if there is one. -/
theorem Kept.reading {timeline : Timeline} (kept : timeline.Kept) {timeBase : TimeBase}
    {self objectID : AudioObjectID} {clientID : UInt32} {updated : IOState} {now : Nat}
    (rate : timeline.io.updateSampleRate timeBase = some updated)
    (advanced : timeline.clock ≤ now) (own : objectID = self)
    : let stamp := (updated.countPeriod now).zeroTimeStamp
      let call := IOCall.getZeroTimeStamp objectID clientID now
      let next := timeline.after call (some stamp) (updated.countPeriod now)
      next.Kept
      ∧ (timeline.SessionContinuous
        → (next.SessionContinuous ↔ FindsSteady self timeBase timeline call)) := by
  intro stamp call next
  have shape := IOState.updateSampleRate_eq_some rate
  have count : next.io.startCount = timeline.io.startCount :=
    show updated.startCount = _ by rw [shape]
  have session : next.session = timeline.session.map (⟨stamp, now⟩ :: ·) := rfl
  constructor
  · refine ⟨kept.low.trans_eq count.symm, count.le.trans kept.high, ?_⟩
    intro readings present
    obtain ⟨earlier, before, rfl⟩ := Option.map_eq_some_iff.mp (session ▸ present)
    exact (kept.anchored earlier before).reading rate advanced next.session
  · intro before
    rw [SessionContinuous, session]
    cases current : timeline.session with
    | none => simp [FindsSteady, call, current]
    | some earlier =>
        have steady := (kept.anchored earlier current).continuous_iff rate advanced
        have continuous := before earlier current
        simp [FindsSteady, call, own, current, rate, stamp, steady, continuous]

/-- One step keeps the invariant, and keeps the session continuous exactly if the call finds it
steady.
-/
theorem Kept.step {self : AudioObjectID} {timeBase : TimeBase} {timeline next : Timeline}
    {call : IOCall} (kept : timeline.Kept)
    (taken : (system self timeBase).step timeline call next)
    : next.Kept
      ∧ (timeline.SessionContinuous
        → (next.SessionContinuous ↔ FindsSteady self timeBase timeline call)) := by
  obtain ⟨later, taken⟩ := Option.ite_none_right_eq_some.mp taken
  obtain ⟨⟨status, stamp, io⟩, performed, rfl⟩ := Option.map_eq_some_iff.mp taken
  have low := kept.low
  have high := kept.high
  cases call with
  | start objectID clientID result now =>
      have effect := IOState.perform_effect low high performed
      cases performed
      obtain ⟨session, low, high⟩ := kept.start effect
      obtain ⟨anchored, continuous⟩ := session.preserves (later _ rfl) kept.anchored
      exact ⟨⟨low, high, anchored⟩, fun before => iff_of_true (continuous before) trivial⟩
  | stop objectID clientID =>
      have effect := IOState.perform_effect low high performed
      cases performed
      obtain ⟨session, low, high⟩ := kept.stop effect
      obtain ⟨anchored, continuous⟩ := session.preserves le_rfl kept.anchored
      exact ⟨⟨low, high, anchored⟩, fun before => iff_of_true (continuous before) trivial⟩
  | getZeroTimeStamp objectID clientID now =>
      have advanced := later now rfl
      simp only [IOState.perform, IOState.getZeroTimeStamp] at performed
      split at performed
      · rename_i other
        cases performed
        have session : SessionEffect timeline
            (timeline.after (.getZeroTimeStamp objectID clientID now) none timeline.io) :=
          .kept rfl rfl rfl rfl rfl
        obtain ⟨anchored, continuous⟩ := session.preserves advanced kept.anchored
        exact ⟨⟨low, high, anchored⟩, fun before =>
          iff_of_true (continuous before) (fun own => absurd own other)⟩
      · rename_i own
        obtain ⟨⟨read, _⟩, called, same⟩ := Option.map_eq_some_iff.mp performed
        cases same
        obtain ⟨updated, rate, -, rfl, rfl⟩ := IOState.getZeroTimeStampImpl_eq_some called
        exact kept.reading rate advanced (not_not.mp own)
  | setNominalSampleRate rate =>
      cases performed
      have session : SessionEffect timeline (timeline.after (.setNominalSampleRate rate) none
          { timeline.io with nominalSampleRate := rate }) :=
        .kept rfl rfl rfl rfl rfl
      obtain ⟨anchored, continuous⟩ := session.preserves le_rfl kept.anchored
      exact ⟨⟨low, high, anchored⟩, fun before => iff_of_true (continuous before) trivial⟩
  | setZeroTimeStampPeriod period =>
      cases performed
      have session : SessionEffect timeline (timeline.after (.setZeroTimeStampPeriod period)
          none { timeline.io with zeroTimeStampPeriod := period }) :=
        .kept rfl rfl rfl rfl rfl
      obtain ⟨anchored, continuous⟩ := session.preserves le_rfl kept.anchored
      exact ⟨⟨low, high, anchored⟩, fun before => iff_of_true (continuous before) trivial⟩

/-- More periods are converted to no fewer ticks; negative numbers of ticks are converted to 0. -/
theorem toUInt64_mul_mono {k n : Nat} (more : k ≤ n) (ticks : Float64)
    : toUInt64 (k * ticks) ≤ toUInt64 (n * ticks) := by
  rcases lt_or_ge ticks 0 with negative | nonnegative
  · have none : toUInt64 (k * ticks) = 0 :=
      Nat.floor_of_nonpos (mul_nonpos_of_nonneg_of_nonpos k.cast_nonneg negative.le)
    exact none.trans_le (Nat.zero_le _)
  · have counts : (k : Rat) ≤ n := Nat.cast_le.mpr more
    exact Nat.floor_mono (mul_le_mul_of_nonneg_right counts nonnegative)

/-- As long as neither the rate nor the period changes, the timeline is steady. -/
theorem Anchored.steady_of_unchanged {timeline : Timeline} {readings : List Reading}
    (anchored : timeline.Anchored readings) (continuous : Continuous readings)
    {timeBase : TimeBase} {now : Nat} (later : timeline.clock ≤ now)
    (rate : timeline.io.nominalSampleRate = timeline.io.lastSampleRate)
    (period : timeline.lastPeriod = timeline.io.zeroTimeStampPeriod)
    : ∀ updated ∈ timeline.io.updateSampleRate timeBase, timeline.Steady updated now := by
  intro updated new
  have same : timeline.io = updated := by
    simpa [IOState.updateSampleRate, rate] using new
  subst same
  have ticks : timeline.lastTicksPerPeriod = timeline.io.hostTicksPerPeriod := by
    rw [lastTicksPerPeriod, period, IOState.hostTicksPerPeriod]
  rw [Steady, ticks, period]
  by_cases none : timeline.io.periodCounter = 0
  · exact Or.inl none
  refine Or.inr ?_
  split
  · refine ⟨Nat.mul_le_mul_right _ (Nat.le_succ _), ?_⟩
    exact toUInt64_mul_mono (Nat.le_succ _) _
  · refine ⟨UInt32.le_refl _, le_rfl, ?_⟩
    obtain ⟨reading, head⟩ : ∃ reading, readings.head? = some reading := by
      cases readings with
      | nil => exact absurd (anchored.fresh rfl) none
      | cons reading rest => exact ⟨reading, rfl⟩
    have onTime := continuous.notLate reading (List.mem_of_mem_head? head)
    rw [(anchored.latest reading head).2.1, ticks] at onTime
    exact onTime.trans ((anchored.clock reading head).trans later)

/-- A new device has no session. -/
theorem kept_new : Kept {} where
  low := by decide
  high := by decide
  anchored := fun _ present => by cases present

/-- A permitted call finds the timeline steady: before a period is counted there is nothing to go
on from, and later neither the rate nor the period has changed.
-/
theorem Kept.findsSteady {self : AudioObjectID} {timeBase : TimeBase} {timeline next : Timeline}
    {call : IOCall} (kept : timeline.Kept) (continuous : timeline.SessionContinuous)
    (permitted : Permitted self timeline call)
    (taken : (system self timeBase).step timeline call next)
    : FindsSteady self timeBase timeline call := by
  obtain ⟨later, -⟩ := Option.ite_none_right_eq_some.mp taken
  cases call with
  | getZeroTimeStamp objectID clientID now =>
      intro own present
      by_cases none : timeline.io.periodCounter = 0
      · exact fun updated _ => Or.inl none
      · obtain ⟨rate, period⟩ := permitted own present none
        obtain ⟨readings, current⟩ := Option.ne_none_iff_exists'.mp present
        exact (kept.anchored readings current).steady_of_unchanged
          (continuous readings current) (later now rfl) rate period.symm
  | _ => trivial

/-- In a run whose calls are permitted every session is continuous. -/
theorem timeline_continuous (self : AudioObjectID) (timeBase : TimeBase) {timeline : Timeline}
    (reached : ((system self timeBase).restrict (Permitted self)).Reachable timeline)
    : timeline.SessionContinuous := by
  have invariant : ((system self timeBase).restrict (Permitted self)).Invariant
      (fun timeline => timeline.Kept ∧ timeline.SessionContinuous) := {
    initial := by
      rintro timeline rfl
      exact ⟨kept_new, fun _ present => by cases present⟩
    step := by
      rintro timeline call next ⟨kept, continuous⟩ ⟨permitted, taken⟩
      obtain ⟨after, exact⟩ := kept.step taken
      exact ⟨after, (exact continuous).mpr (kept.findsSteady continuous permitted taken)⟩
  }
  exact (invariant.reachable reached).2

/-- The period is halved before it has passed, two periods of 5 frames are counted at a tick to a
frame, and after I/O was stopped and started again the rate is halved as well.
-/
def twoSessions : List IOCall :=
  [
    .setNominalSampleRate 1000000000,
    .setZeroTimeStampPeriod 10,
    .start 2 7 .kAudioHardwareNoError 100,
    .getZeroTimeStamp 2 7 103,
    .setZeroTimeStampPeriod 5,
    .getZeroTimeStamp 2 7 106,
    .getZeroTimeStamp 2 7 111,
    .stop 2 7,
    .setNominalSampleRate 500000000,
    .start 2 7 .kAudioHardwareNoError 200,
    .getZeroTimeStamp 2 7 204,
    .getZeroTimeStamp 2 7 213,
    .getZeroTimeStamp 2 7 221
  ]

/-- In the second session two periods of 10 ticks are counted. -/
theorem timeline_continuous_two_sessions
    : Continuous [⟨⟨10, 220, 1⟩, 221⟩, ⟨⟨5, 210, 1⟩, 213⟩, ⟨⟨0, 200, 1⟩, 204⟩] := by
  have readings
      : (System.play (System.guarded (Permitted 2) (advance 2 .nanoseconds)) {}
          twoSessions).map session
        = some (some [⟨⟨10, 220, 1⟩, 221⟩, ⟨⟨5, 210, 1⟩, 213⟩, ⟨⟨0, 200, 1⟩, 204⟩]) := by
    decide +kernel
  obtain ⟨finish, played, session⟩ := Option.map_eq_some_iff.mp readings
  exact timeline_continuous 2 .nanoseconds
    (System.reachable_restrict_of_play (.initial rfl) played) _ session

/-- One period of 10 frames is counted at a tick to a frame, then the rate is halved. -/
def halvedRate : List IOCall :=
  [
    .setNominalSampleRate 1000000000,
    .setZeroTimeStampPeriod 10,
    .start 2 7 .kAudioHardwareNoError 0,
    .getZeroTimeStamp 2 7 10,
    .setNominalSampleRate 500000000,
    .getZeroTimeStamp 2 7 11
  ]

/-- After the rate is halved, the period that was counted ends in the future: at the host time
11 the device says that its last time stamp was at 20, under the seed of the earlier one.
-/
theorem timestamp_ahead_of_clock
    : ¬ ∀ timeline, (system 2 .nanoseconds).Reachable timeline → timeline.SessionContinuous := by
  intro all
  have readings
      : (System.play (advance 2 .nanoseconds) {} halvedRate).map session
        = some (some [⟨⟨10, 20, 1⟩, 11⟩, ⟨⟨10, 10, 1⟩, 10⟩]) := by
    decide +kernel
  obtain ⟨finish, played, session⟩ := Option.map_eq_some_iff.mp readings
  have continuous := all finish (System.reachable_of_play rfl played) _ session
  have late := continuous.notLate _ List.mem_cons_self
  exact absurd late (by decide)

end Timeline

end Aspl.Device
