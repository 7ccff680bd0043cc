import Aspl.Volume.Setters
import Mathlib.Data.Rat.Floor

/-! Notifications of a volume control: over every sequence of setter calls the volume stays in
range, and the calls that notify are those that change it, except where `SetRawValue()` clamps its
argument to the bound that the volume is at.
-/

namespace Aspl.Volume

open Arithmetic

variable {K : Type} [Field K]

namespace SetterStep

/-- The call notified HAL. -/
def Notifies (step : SetterStep K) : Prop :=
  step.outcome.notification.isSome

/-- The call changed `GetRawValue()`. -/
def Changes (step : SetterStep K) : Prop :=
  step.outcome.control.getRawValue ≠ step.before.getRawValue

/-- An argument of `SetRawValue()` is in range, or it is clamped to a bound that is not the current
volume.
-/
def InRangeOrMoves (step : SetterStep K) : Prop :=
  match step.call with
  | .setRawValue value =>
      let low := step.before.volumeCurve.getMinimumRaw
      let high := step.before.volumeCurve.getMaximumRaw
      (low ≤ value ∧ value ≤ high) ∨ max (min value high) low ≠ step.before.getRawValue
  | .setDecibelValue _ => True
  | .setScalarValue _ => True

end SetterStep

namespace VolumeControl

variable {params : VolumeControlParameters K} {raw : SInt32}

/-- A setter call of a raw value reports exactly if its argument is in range or moves the volume.
-/
theorem setRawValue_reports_iff (inRange : params.Holds raw) (value : SInt32)
    : ((((new params).withRaw raw).setRawValue value).notification.isSome
        ↔ (((new params).withRaw raw).setRawValue value).control.getRawValue ≠ raw)
      ↔ params.Holds value ∨ params.clamp value ≠ raw := by
  rw [setRawValue_notification, setRawValue_control inRange]
  change (value ≠ raw ↔ params.clamp value ≠ raw) ↔ _
  constructor
  · intro reports
    by_cases moves : params.clamp value = raw
    · have same : value = raw := by
        by_contra other
        exact reports.mp other moves
      exact Or.inl (same ▸ inRange)
    · exact Or.inr moves
  · rintro (fits | moves)
    · rw [fits.clamp_eq]
    · refine ⟨fun _ => moves, fun _ same => moves ?_⟩
      rw [same, inRange.clamp_eq]

variable [LinearOrder K] [IsStrictOrderedRing K] [FloorRing K] {powf : K → K → K}

/-- One call leaves a volume in range, and reports exactly if its argument is in range or moves the
volume.
-/
theorem perform_reports_iff (powers : PowerLaws (.exact powf))
    (fits : params.Fits (.exact powf)) {raw : SInt32} (inRange : params.Holds raw)
    (call : SetterCall K)
    : ∃ (outcome : Outcome K) (next : SInt32),
        ((new params).withRaw raw).perform (.exact powf) call = .ok outcome
        ∧ outcome.control = (new params).withRaw next
        ∧ params.Holds next
        ∧ let step : SetterStep K := ⟨(new params).withRaw raw, call, outcome⟩
          (step.Notifies ↔ step.Changes) ↔ step.InRangeOrMoves := by
  obtain ⟨value, performed, argument⟩ := perform_eq powers fits raw call
  refine ⟨_, params.clamp value, performed, setRawValue_control inRange value,
    VolumeControlParameters.holds_clamp fits.raw.le value, ?_⟩
  have reports := setRawValue_reports_iff inRange value
  rcases argument with rfl | ⟨fits, converted⟩
  · refine reports.trans (or_congr ?_ Iff.rfl)
    exact ⟨fun holds => ⟨holds.low, holds.high⟩, fun holds => ⟨holds.1, holds.2⟩⟩
  · refine (reports.trans (iff_true_intro (Or.inl fits))).trans (iff_true_intro ?_).symm
    cases call with
    | setRawValue other => exact absurd rfl (converted other)
    | setDecibelValue _ => trivial
    | setScalarValue _ => trivial

/-- From a volume in range, a sequence of calls keeps the volume in range, and every call of it
reports exactly if its argument is in range or moves the volume: by induction on the calls.
-/
theorem trace_reports_iff (powers : PowerLaws (.exact powf)) (fits : params.Fits (.exact powf))
    {raw : SInt32} (inRange : params.Holds raw) (calls : List (SetterCall K))
    : ∃ steps,
        ((new params).withRaw raw).trace (.exact powf) calls = .ok steps
        ∧ ∀ step ∈ steps,
            params.Holds step.outcome.control.getRawValue
            ∧ ((step.Notifies ↔ step.Changes) ↔ step.InRangeOrMoves) := by
  induction calls generalizing raw with
  | nil => exact ⟨[], rfl, fun _ none => absurd none List.not_mem_nil⟩
  | cons call rest ih =>
      obtain ⟨outcome, next, performed, left, nextInRange, reports⟩ :=
        perform_reports_iff powers fits inRange call
      obtain ⟨later, traced, laterReports⟩ := ih nextInRange
      refine ⟨⟨(new params).withRaw raw, call, outcome⟩ :: later, ?_, ?_⟩
      · rw [trace, performed, ok_bind, left, traced]
        rfl
      · intro step member
        rcases List.mem_cons.mp member with rfl | after
        · refine ⟨?_, reports⟩
          rw [left]
          exact nextInRange
        · exact laterReports step after

/-- In every sequence of setter calls the volume stays in range, and all calls notify exactly when
they change it if and only if every argument of `SetRawValue()` is in range or is clamped to a
bound that is not the current volume.
-/
theorem setters_report_iff (powers : PowerLaws (.exact powf))
    (raw : params.minRawVolume < params.maxRawVolume)
    (decibels : params.minDecibelVolume < params.maxDecibelVolume)
    (range : params.maxRawVolume.val - params.minRawVolume.val < 2 ^ 31)
    (calls : List (SetterCall K))
    : ∃ steps,
        (new params).trace (.exact powf) calls = .ok steps
        ∧ (∀ control ∈ new params :: steps.map (fun step => step.outcome.control),
            params.minRawVolume ≤ control.getRawValue
            ∧ control.getRawValue ≤ params.maxRawVolume)
        ∧ ((∀ step ∈ steps, step.Notifies ↔ step.Changes)
            ↔ ∀ step ∈ steps, step.InRangeOrMoves) := by
  have fits : params.Fits (.exact powf) :=
    VolumeControlParameters.fits_exact_iff.mpr ⟨raw, decibels, by omega⟩
  have initial : params.Holds params.maxRawVolume := ⟨raw.le, le_rfl⟩
  obtain ⟨steps, traced, reports⟩ := trace_reports_iff powers fits initial calls
  refine ⟨steps, traced, ?_, ?_⟩
  · intro control member
    rcases List.mem_cons.mp member with rfl | after
    · exact ⟨initial.low, initial.high⟩
    · obtain ⟨step, taken, rfl⟩ := List.mem_map.mp after
      exact ⟨(reports step taken).1.low, (reports step taken).1.high⟩
  · exact forall₂_congr (fun step member => (reports step member).2)

/-- The default control with the curve that the source applies. -/
theorem setters_report_iff_default
    : ∃ steps,
        (new ({} : VolumeControlParameters ℝ)).trace (.exact Real.rpow)
          [.setDecibelValue (-100), .setRawValue ⟨-5, by decide⟩] = .ok steps
        ∧ (∀ control
            ∈ new ({} : VolumeControlParameters ℝ)
              :: steps.map (fun step => step.outcome.control),
            (⟨0, by decide⟩ : SInt32) ≤ control.getRawValue
            ∧ control.getRawValue ≤ (⟨96, by decide⟩ : SInt32))
        ∧ ((∀ step ∈ steps, step.Notifies ↔ step.Changes)
            ↔ ∀ step ∈ steps, step.InRangeOrMoves) :=
  setters_report_iff powerLaws_rpow (by decide) (by norm_num) (by decide)
    [.setDecibelValue (-100), .setRawValue ⟨-5, by decide⟩]

/-- At the maximum, a larger argument notifies and changes nothing. -/
theorem setRawValue_notifies_at_maximum
    : ¬∀ steps,
        (new ({} : VolumeControlParameters ℚ)).trace (.exact fun x _ => x)
          [.setRawValue ⟨200, by decide⟩] = .ok steps
        → ∀ step ∈ steps, step.Notifies ↔ step.Changes := by
  intro all
  have reports := all _ rfl _ List.mem_cons_self
  exact reports.mp rfl rfl

end VolumeControl

end Aspl.Volume
